/-
# ExprTree.Text.Ranges — membership in ascending code point ranges

A character class is a list of closed ranges in ascending order. `inRanges` walks the list and
stops at the first range that begins beyond the code point, so a test of an ASCII character looks
at the first few ranges only.
-/

namespace ExprTree.Text

set_option autoImplicit false

/-- Whether a code point lies in one of the ranges, which are closed and ascending. -/
def inRanges (code : Nat) : List (Nat × Nat) → Bool
  | [] => false
  | (first, last) :: rest =>
      if code < first then false else code ≤ last || inRanges code rest

end ExprTree.Text
