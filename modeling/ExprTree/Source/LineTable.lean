/-
# ExprTree.Source.LineTable — where the lines of a text begin

A line table holds the offset of each line's first byte: zero, and the offset after each line feed.
The line of an offset is the last one that does not begin beyond it, found by bisection:
`partitionPoint` is the number of leading entries that a test accepts, when the test accepts a
leading part of the table.

Main statement: `partitionPoint_le_size`, so the line that is found exists.
-/
import ExprTree.Source.Span

namespace ExprTree

set_option autoImplicit false

/-- Bisection between `low` and `high`: everything below `low` is accepted, nothing from `high` on
is. -/
def partitionPointBetween {α : Type} (accepts : α → Bool) (entries : Array α) (low high : Nat)
    (inside : high ≤ entries.size) : Nat :=
  if within : low < high then
    let middle := low + (high - low) / 2
    have reachable : middle < entries.size := by omega
    if accepts entries[middle] then
      partitionPointBetween accepts entries (middle + 1) high inside
    else partitionPointBetween accepts entries low middle (by omega)
  else low
  termination_by high - low

/-- The number of leading entries that the test accepts. -/
def partitionPoint {α : Type} (accepts : α → Bool) (entries : Array α) : Nat :=
  partitionPointBetween accepts entries 0 entries.size (Nat.le_refl _)

theorem partitionPointBetween_le {α : Type} (accepts : α → Bool) (entries : Array α)
    (low high : Nat) (inside : high ≤ entries.size) (ordered : low ≤ high) :
    partitionPointBetween accepts entries low high inside ≤ high := by
  fun_induction partitionPointBetween accepts entries low high inside with
  | case1 low high inside within middle reachable accepted ih => exact ih (by omega)
  | case2 low high inside within middle reachable refused ih =>
      have := ih (by omega)
      omega
  | case3 low high inside closed => exact ordered

theorem partitionPoint_le_size {α : Type} (accepts : α → Bool) (entries : Array α) :
    partitionPoint accepts entries ≤ entries.size :=
  partitionPointBetween_le accepts entries 0 entries.size _ (Nat.zero_le _)

/-- The offsets at which lines begin after a line feed, the characters themselves beginning at
`position`. -/
@[simp] def startsAfterNewlines (position : Nat) : List Char → List Offset
  | [] => []
  | c :: rest =>
      if c = '\n' then
        (position.toUInt32 + 1) :: startsAfterNewlines (position + c.utf8Size) rest
      else startsAfterNewlines (position + c.utf8Size) rest

/-- The offsets at which the lines of a text begin. There is at least one line. -/
structure LineTable where
  starts : Array Offset
  nonempty : 0 < starts.size

namespace LineTable

def ofChars (chars : List Char) : LineTable where
  starts := (0 :: startsAfterNewlines 0 chars).toArray
  nonempty := by simp

/-- The index of the last line that does not begin beyond the offset. -/
def lineAt (table : LineTable) (offset : Offset) : Fin table.starts.size :=
  ⟨partitionPoint (fun start => start ≤ offset) table.starts - 1, by
    have bounded := partitionPoint_le_size (fun start => decide (start ≤ offset)) table.starts
    have nonempty := table.nonempty
    omega⟩

end LineTable

end ExprTree
