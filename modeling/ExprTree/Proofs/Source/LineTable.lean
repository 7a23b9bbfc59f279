/-
# ExprTree.Proofs.Source.LineTable — the line that bisection finds

Bisection keeps the point where acceptance ends between its bounds, so it finds that point in every
row that is accepted up to some place and refused from there on (`accepts_iff_lt_partitionPoint`).
The starts of a text's lines are such a row for every offset: those after a line feed in front of
the offset come first and are accepted, and the others lie beyond it.

Main statements: `lineAt_ofChars`, the line of an offset is the number of line feeds in front of it,
and `starts_lineAt`, that line begins where the characters in front of the offset were last cut by a
line feed.
-/
import ExprTree.Proofs.Text.Bytes
import ExprTree.Source.LineTable
import Mathlib.Data.List.DropRight

namespace ExprTree

set_option autoImplicit false

open Text (byteLength byteLength_append takeBytes EndsUnder)

/-! ## Bisection -/

/-- Where what is accepted comes before what is refused, bisection finds how much is accepted, once
its bounds enclose the point where acceptance ends. -/
theorem accepts_iff_lt_partitionPointBetween {α : Type} {accepts : α → Bool} {entries : Array α}
    (leading : ∀ i j (bound : i < entries.size) (bound' : j < entries.size), i ≤ j →
      accepts entries[j] = true → accepts entries[i] = true)
    {low high : Nat} {inside : high ≤ entries.size}
    (below : ∀ i (bound : i < entries.size), i < low → accepts entries[i] = true)
    (above : ∀ i (bound : i < entries.size), high ≤ i → accepts entries[i] = false)
    (index : Nat) (bound : index < entries.size) :
    accepts entries[index] = true ↔
      index < partitionPointBetween accepts entries low high inside := by
  fun_induction partitionPointBetween accepts entries low high inside with
  | case1 low high inside within middle reachable accepted ih =>
      refine ih (fun i bound before => ?_) above
      exact leading i middle bound reachable (Nat.le_of_lt_succ before) accepted
  | case2 low high inside within middle reachable refused ih =>
      refine ih below (fun i bound behind => ?_)
      rw [← Bool.not_eq_true]
      exact fun accepted => refused (leading middle i reachable bound behind accepted)
  | case3 low high inside closed =>
      refine ⟨fun accepted => ?_, below index bound⟩
      by_contra behind
      rw [above index bound (by omega)] at accepted
      cases accepted

theorem accepts_iff_lt_partitionPoint {α : Type} {accepts : α → Bool} {entries : Array α}
    (leading : ∀ i j (bound : i < entries.size) (bound' : j < entries.size), i ≤ j →
      accepts entries[j] = true → accepts entries[i] = true)
    (index : Nat) (bound : index < entries.size) :
    accepts entries[index] = true ↔ index < partitionPoint accepts entries :=
  accepts_iff_lt_partitionPointBetween leading (fun _ _ before => absurd before (Nat.not_lt_zero _))
    (fun _ bound behind => absurd bound (Nat.not_lt.2 behind)) index bound

/-- The number of leading entries that are accepted, when nothing behind them is. -/
theorem partitionPoint_append {α : Type} {accepts : α → Bool} {front back : List α}
    (accepted : ∀ entry ∈ front, accepts entry = true)
    (refused : ∀ entry ∈ back, accepts entry = false) :
    partitionPoint accepts (front ++ back).toArray = front.length := by
  have size : (front ++ back).toArray.size = front.length + back.length := by simp
  have inside := partitionPoint_le_size accepts (front ++ back).toArray
  have divided : ∀ index (bound : index < (front ++ back).toArray.size),
      accepts (front ++ back).toArray[index] = true ↔ index < front.length := by
    intro index bound
    rw [List.getElem_toArray]
    by_cases before : index < front.length
    · rw [List.getElem_append_left before]
      exact iff_of_true (accepted _ (List.getElem_mem before)) before
    · rw [List.getElem_append_right (Nat.not_lt.1 before), refused _ (List.getElem_mem _)]
      exact iff_of_false Bool.false_ne_true before
  have found := accepts_iff_lt_partitionPoint fun i j bound bound' ordered acceptedBehind =>
    (divided i bound).2 (Nat.lt_of_le_of_lt ordered ((divided j bound').1 acceptedBehind))
  -- Were the two numbers different, the smaller one would be an entry on which they disagree.
  rcases Nat.lt_trichotomy (partitionPoint accepts (front ++ back).toArray) front.length with
    fewer | same | more
  · have bound : partitionPoint accepts (front ++ back).toArray < (front ++ back).toArray.size := by
      omega
    exact absurd ((found _ bound).1 ((divided _ bound).2 fewer)) (Nat.lt_irrefl _)
  · exact same
  · have bound : front.length < (front ++ back).toArray.size := by omega
    exact absurd ((divided _ bound).1 ((found _ bound).2 more)) (Nat.lt_irrefl _)

/-! ## The starts of lines -/

theorem toNat_toUInt32_succ {n : Nat} (fits : n + 1 < UInt32.size) :
    (n.toUInt32 + 1).toNat = n + 1 := by
  rw [UInt32.toNat_add, Nat.toUInt32_eq, UInt32.toNat_ofNat']
  show (n % 2 ^ 32 + 1) % 2 ^ 32 = n + 1
  have bound : n + 1 < 2 ^ 32 := fits
  omega

theorem startsAfterNewlines_append (position : Nat) (before after : List Char) :
    startsAfterNewlines position (before ++ after) =
      startsAfterNewlines position before ++
        startsAfterNewlines (position + byteLength before) after := by
  induction before generalizing position with
  | nil => simp
  | cons c before ih =>
      simp only [List.cons_append, startsAfterNewlines, byteLength, ih, Nat.add_assoc]
      split <;> rfl

theorem length_startsAfterNewlines (position : Nat) (chars : List Char) :
    (startsAfterNewlines position chars).length = chars.count '\n' := by
  induction chars generalizing position with
  | nil => rfl
  | cons c rest ih =>
      rw [startsAfterNewlines]
      split
      next feed => rw [List.length_cons, ih, feed, List.count_cons_self]
      next other => rw [ih, List.count_cons_of_ne other]

/-- A line begins behind every line feed, and nowhere else. -/
theorem mem_startsAfterNewlines_iff {position : Nat} {chars : List Char} {start : Offset}
    (fits : position + byteLength chars < UInt32.size) :
    start ∈ startsAfterNewlines position chars ↔
      ∃ before after, chars = before ++ '\n' :: after ∧
        start.toNat = position + byteLength before + 1 := by
  induction chars generalizing position with
  | nil => simp
  | cons c rest ih =>
      have wide := c.utf8Size_pos
      rw [byteLength] at fits
      have here : start = position.toUInt32 + 1 ↔ start.toNat = position + 1 := by
        rw [← UInt32.toNat_inj, toNat_toUInt32_succ (by omega)]
      have later := @ih (position + c.utf8Size) (by omega)
      have split_cons : (∃ before after, c :: rest = before ++ '\n' :: after ∧
          start.toNat = position + byteLength before + 1) ↔
          c = '\n' ∧ start.toNat = position + 1 ∨ ∃ before after, rest = before ++ '\n' :: after ∧
            start.toNat = position + c.utf8Size + byteLength before + 1 := by
        constructor
        · rintro ⟨before, after, split, place⟩
          cases before with
          | nil =>
              cases split
              exact .inl ⟨rfl, place⟩
          | cons d before =>
              cases split
              exact .inr ⟨before, after, rfl, by rw [place, byteLength, ← Nat.add_assoc position]⟩
        · rintro (⟨rfl, place⟩ | ⟨before, after, rfl, place⟩)
          · exact ⟨[], rest, rfl, place⟩
          · exact ⟨c :: before, after, rfl, by rw [place, byteLength, ← Nat.add_assoc position]⟩
      rw [split_cons, ← later, startsAfterNewlines]
      split
      next feed => rw [List.mem_cons, here, and_iff_right feed]
      next other => simp only [other, false_and, false_or]

/-- The lines that begin in a leading part begin no later than it ends. -/
theorem le_of_mem_startsAfterNewlines {before : List Char} {start : Offset}
    (fits : byteLength before < UInt32.size) (begins : start ∈ startsAfterNewlines 0 before) :
    start.toNat ≤ byteLength before := by
  obtain ⟨first, rest, rfl, place⟩ := (mem_startsAfterNewlines_iff (by omega)).1 begins
  rw [place, byteLength_append, byteLength]
  have wide := '\n'.utf8Size_pos
  omega

/-- The other lines begin beyond every offset under which the leading part ends. -/
theorem lt_of_mem_startsAfterNewlines {before after : List Char} {offset : Nat} {start : Offset}
    (fits : byteLength (before ++ after) < UInt32.size) (under : EndsUnder before after offset)
    (begins : start ∈ startsAfterNewlines (byteLength before) after) : offset < start.toNat := by
  rw [byteLength_append] at fits
  obtain ⟨between, rest, rfl, place⟩ := (mem_startsAfterNewlines_iff fits).1 begins
  rw [place]
  cases between with
  | nil => exact under.2 '\n' rfl
  | cons c between =>
      have next := under.2 c rfl
      rw [byteLength]
      omega

namespace LineTable

/-- What stands in front of the last line: the text up to its last line feed. -/
def untilLastLine (chars : List Char) : List Char :=
  chars.rdropWhile (· != '\n')

def lastLine (chars : List Char) : List Char :=
  chars.rtakeWhile (· != '\n')

theorem untilLastLine_append_lastLine (chars : List Char) :
    untilLastLine chars ++ lastLine chars = chars :=
  List.rdropWhile_append_rtakeWhile

/-- More characters without a line feed lengthen the last line. -/
theorem lastLine_append {chars more : List Char} (noFeed : '\n' ∉ more) :
    lastLine (chars ++ more) = lastLine chars ++ more := by
  have kept : ∀ c ∈ more.reverse, (c != '\n') = true := by
    intro c inside
    rw [bne_iff_ne]
    rintro rfl
    exact noFeed (List.mem_reverse.1 inside)
  rw [lastLine, lastLine, List.rtakeWhile, List.rtakeWhile, List.reverse_append,
    List.takeWhile_append_of_pos kept, List.reverse_append, List.reverse_reverse]

/-- The last line is all of a text exactly if there is no line feed. -/
theorem length_lastLine_eq_iff {chars : List Char} :
    (lastLine chars).length = chars.length ↔ '\n' ∉ chars := by
  have kept : lastLine chars = chars ↔ '\n' ∉ chars := by
    rw [lastLine, List.rtakeWhile_eq_self_iff]
    simp only [bne_iff_ne]
    exact ⟨fun other feed => other _ feed rfl, fun none c member feed => none (feed ▸ member)⟩
  rw [← kept]
  exact ⟨(List.rtakeWhile_suffix _ _).eq_of_length, congrArg List.length⟩

theorem length_lastLine_le (chars : List Char) : (lastLine chars).length ≤ chars.length :=
  (List.rtakeWhile_suffix _ _).length_le

theorem untilLastLine_concat (chars : List Char) (c : Char) :
    untilLastLine (chars ++ [c]) = if c = '\n' then chars ++ [c] else untilLastLine chars := by
  by_cases feed : c = '\n'
  · rw [if_pos feed]
    exact List.rdropWhile_concat_neg _ _ _ (by simp [feed])
  · rw [if_neg feed]
    exact List.rdropWhile_concat_pos _ _ _ (by simp [feed])

/-- The last of the lines that begin in a text begins where its last line does. -/
theorem getLast?_starts {chars : List Char} (fits : byteLength chars < UInt32.size) :
    (0 :: startsAfterNewlines 0 chars).getLast?.map UInt32.toNat =
      some (byteLength (untilLastLine chars)) := by
  induction chars using List.reverseRec with
  | nil => rfl
  | append_singleton chars c ih =>
      have wide := c.utf8Size_pos
      rw [byteLength_append, byteLength, byteLength] at fits
      rw [untilLastLine_concat, startsAfterNewlines_append, Nat.zero_add, startsAfterNewlines]
      split
      next feed =>
        rw [← List.cons_append, startsAfterNewlines, List.getLast?_concat, Option.map_some,
          toNat_toUInt32_succ (by omega), byteLength_append, feed]
        rfl
      next other =>
        rw [startsAfterNewlines, List.append_nil]
        exact ih (by omega)

/-! ## The line of an offset -/

/-- The table begins with the starts of the lines in a leading part. -/
theorem starts_append (before after : List Char) :
    (ofChars (before ++ after)).starts =
      ((0 :: startsAfterNewlines 0 before) ++
        startsAfterNewlines (byteLength before) after).toArray := by
  show (0 :: startsAfterNewlines 0 (before ++ after)).toArray = _
  rw [startsAfterNewlines_append, Nat.zero_add, List.cons_append]

/-- The starts of the lines in front of an offset lie up to it and the others beyond it, so that
bisection finds the number of the former. -/
theorem partitionPoint_starts {before after : List Char} {offset : Offset}
    (fits : byteLength (before ++ after) < UInt32.size)
    (under : EndsUnder before after offset.toNat) :
    partitionPoint (fun start => decide (start ≤ offset)) (ofChars (before ++ after)).starts =
      before.count '\n' + 1 := by
  have shorter : byteLength before < UInt32.size := by
    rw [byteLength_append] at fits
    omega
  rw [starts_append, partitionPoint_append, List.length_cons, length_startsAfterNewlines]
  · rw [List.forall_mem_cons]
    refine ⟨by simp, fun start begins => ?_⟩
    rw [decide_eq_true_eq, UInt32.le_iff_toNat_le]
    exact Nat.le_trans (le_of_mem_startsAfterNewlines shorter begins) under.1
  · intro start begins
    rw [decide_eq_false_iff_not, UInt32.le_iff_toNat_le, Nat.not_le]
    exact lt_of_mem_startsAfterNewlines fits under begins

/-- The line of an offset is the number of line feeds in front of it. -/
theorem lineAt_ofChars {chars before after : List Char} {offset : Offset}
    (split : chars = before ++ after) (fits : byteLength chars < UInt32.size)
    (under : EndsUnder before after offset.toNat) :
    ((ofChars chars).lineAt offset).val = before.count '\n' := by
  subst split
  show partitionPoint _ _ - 1 = _
  rw [partitionPoint_starts fits under, Nat.add_sub_cancel]

/-- The entry behind as many others as there are line feeds in a leading part is the place where the
last line of that part begins. -/
theorem getElem?_starts {before after : List Char}
    (fits : byteLength (before ++ after) < UInt32.size) :
    ∃ start, (ofChars (before ++ after)).starts[before.count '\n']? = some start ∧
      start.toNat = byteLength (untilLastLine before) := by
  have shorter : byteLength before < UInt32.size := by
    rw [byteLength_append] at fits
    omega
  have inFront : before.count '\n' < (0 :: startsAfterNewlines 0 before).length := by
    rw [List.length_cons, length_startsAfterNewlines]
    exact Nat.lt_succ_self _
  have entry : (ofChars (before ++ after)).starts[before.count '\n']? =
      (0 :: startsAfterNewlines 0 before).getLast? := by
    rw [starts_append, List.getElem?_toArray, List.getElem?_append_left inFront,
      List.getLast?_eq_getElem?, List.length_cons, length_startsAfterNewlines, Nat.add_sub_cancel]
  rw [entry]
  exact Option.map_eq_some_iff.1 (getLast?_starts shorter)

theorem size_starts (chars : List Char) :
    (ofChars chars).starts.size = chars.count '\n' + 1 := by
  show (0 :: startsAfterNewlines 0 chars).toArray.size = _
  rw [List.size_toArray, List.length_cons, length_startsAfterNewlines]

/-- The line of an offset begins where the last line in front of it does. -/
theorem starts_lineAt {chars before after : List Char} {offset : Offset}
    (split : chars = before ++ after) (fits : byteLength chars < UInt32.size)
    (under : EndsUnder before after offset.toNat) :
    ((ofChars chars).starts[(ofChars chars).lineAt offset]).toNat =
      byteLength (untilLastLine before) := by
  have line := lineAt_ofChars split fits under
  subst split
  obtain ⟨start, entry, place⟩ := getElem?_starts fits
  rw [← line, Array.getElem?_eq_some_iff] at entry
  obtain ⟨bound, rfl⟩ := entry
  exact place

end LineTable

end ExprTree
