/-
# ExprTree.Source.Span — offsets and spans

An offset counts the bytes of a source before a point, in 32 bits. A span runs from one offset to
another that is not smaller; `Span.between` is the only way in for two offsets that a caller names.
-/

namespace ExprTree

set_option autoImplicit false

/-- A byte offset into a source, or the length of one. -/
abbrev Offset := UInt32

/-- Half-open range of offsets. -/
structure Span where
  start : Offset
  stop : Offset
  start_le_stop : start ≤ stop
  deriving DecidableEq

/-- Two offsets of which the first is the larger one, where a range was asked for. -/
structure InvertedRange where
  start : Offset
  stop : Offset
  deriving DecidableEq

def InvertedRange.message (_ : InvertedRange) : String :=
  "assertion failed: start.raw <= end.raw"

def Span.between (start stop : Offset) : Except InvertedRange Span :=
  if start_le_stop : start ≤ stop then .ok ⟨start, stop, start_le_stop⟩ else .error ⟨start, stop⟩

end ExprTree
