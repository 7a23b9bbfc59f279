/-
# ExprTree.Source.Location — lines, columns and named positions

Lines and columns count from one, in 32 bits. Positions are ordered by line and then by column;
named positions by the name of their source first.
-/

namespace ExprTree

set_option autoImplicit false

/-- A line and a column, both counted from one. -/
structure LineCol where
  line : UInt32
  column : UInt32
  deriving DecidableEq

structure Location where
  file : String
  line : UInt32
  column : UInt32
  deriving DecidableEq

/-- By line, then by column. -/
instance : Ord LineCol where
  compare a b := (compare a.line b.line).then (compare a.column b.column)

/-- By file, then by line, then by column. -/
instance : Ord Location where
  compare a b := (compare a.file b.file).then
    ((compare a.line b.line).then (compare a.column b.column))

instance : LE LineCol := leOfOrd
instance : LE Location := leOfOrd
instance : LT LineCol := ltOfOrd
instance : LT Location := ltOfOrd

namespace Location

def lineCol (location : Location) : LineCol :=
  ⟨location.line, location.column⟩

/-- The usual spelling, `file:line:column`. -/
def display (location : Location) : String :=
  s!"{location.file}:{location.line.toNat}:{location.column.toNat}"

end Location

end ExprTree
