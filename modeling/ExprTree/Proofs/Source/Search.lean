/-
# ExprTree.Proofs.Source.Search — the line table as a search structure

A line table is what bisection and slicing rely on: its entries increase, they are zero and the
places behind the line feeds of the text, and all of them are character boundaries
(`LineTable.MarksLines`). So bisection divides the entries up to an offset from those beyond it
(`le_iff_lt_partitionPoint`), and what stands between two entries can be cut out of the text
(`Source.exists_lineRuns`).

Main statement: `Source.lineTable_searches`.
-/
import ExprTree.Proofs.Source.Lines

namespace ExprTree

set_option autoImplicit false

open Text (byteLength byteLength_append isBoundary)

/-! ## Increasing tables -/

/-- In an increasing table, bisection finds how many entries are not above an offset. -/
theorem le_iff_lt_partitionPoint {entries : Array Offset}
    (increasing : entries.toList.Pairwise (· < ·)) (offset : Offset) {index : Nat}
    (bound : index < entries.size) :
    entries[index] ≤ offset ↔
      index < partitionPoint (fun start => decide (start ≤ offset)) entries := by
  have leading : ∀ i j (bound : i < entries.size) (bound' : j < entries.size), i ≤ j →
      decide (entries[j] ≤ offset) = true → decide (entries[i] ≤ offset) = true := by
    intro i j bound bound' ordered accepted
    rw [decide_eq_true_eq] at accepted ⊢
    rcases Nat.eq_or_lt_of_le ordered with rfl | before
    · exact accepted
    · have less : entries[i] < entries[j] :=
        List.pairwise_iff_getElem.1 increasing i j bound bound' before
      exact UInt32.le_trans (UInt32.le_of_lt less) accepted
  rw [← accepts_iff_lt_partitionPoint leading index bound, decide_eq_true_eq]

/-- The lines of a text begin one behind the other. -/
theorem increasing_startsAfterNewlines {position : Nat} {chars : List Char}
    (fits : position + byteLength chars < UInt32.size) :
    (startsAfterNewlines position chars).Pairwise (· < ·) := by
  induction chars generalizing position with
  | nil => exact .nil
  | cons c rest ih =>
      have wide := c.utf8Size_pos
      rw [byteLength] at fits
      have later : (startsAfterNewlines (position + c.utf8Size) rest).Pairwise (· < ·) :=
        ih (by omega)
      rw [startsAfterNewlines]
      split
      · refine .cons (fun start begins => ?_) later
        obtain ⟨before, after, -, place⟩ := (mem_startsAfterNewlines_iff (by omega)).1 begins
        rw [UInt32.lt_iff_toNat_lt, toNat_toUInt32_succ (by omega), place]
        omega
      · exact later

namespace LineTable

/-- The entries are zero and the places behind the line feeds. -/
theorem mem_starts_iff {chars : List Char} (fits : byteLength chars < UInt32.size)
    {start : Offset} : start ∈ (ofChars chars).starts ↔ start = 0 ∨
      ∃ before after, chars = before ++ '\n' :: after ∧ start.toNat = byteLength before + 1 := by
  have behind := @mem_startsAfterNewlines_iff 0 chars start (by omega)
  simp only [Nat.zero_add] at behind
  rw [← behind, ← List.mem_cons]
  exact List.mem_toArray

/-- The table marks where the lines of the text begin: at zero, and wherever the byte before is a
line feed. -/
structure MarksLines (table : LineTable) (text : String) : Prop where
  first : table.starts[0]? = some 0
  increasing : table.starts.toList.Pairwise (· < ·)
  boundary : ∀ start ∈ table.starts,
    start.toNat ≤ text.utf8ByteSize ∧ isBoundary text.toList start.toNat = true
  behindFeed : ∀ position, 0 < position →
    ((∃ start ∈ table.starts, start.toNat = position) ↔
      text.toUTF8[position - 1]? = some '\n'.toUInt8)

end LineTable

namespace Source

/-! ## The table of a text -/

theorem increasing_starts (source : Source) :
    source.lineTable.starts.toList.Pairwise (· < ·) := by
  have fits := source.fits_chars
  refine .cons (fun start begins => ?_) (increasing_startsAfterNewlines (by omega))
  obtain ⟨before, after, -, place⟩ := (mem_startsAfterNewlines_iff (by omega)).1 begins
  rw [UInt32.lt_iff_toNat_lt, place]
  exact Nat.succ_pos _

theorem isBoundary_of_mem_starts {source : Source} {start : Offset}
    (begins : start ∈ source.lineTable.starts) : isBoundary source.chars start.toNat = true := by
  rw [Text.isBoundary_eq_true_iff]
  rcases (LineTable.mem_starts_iff source.fits_chars).1 begins with
    rfl | ⟨before, after, split, place⟩
  · exact ⟨[], source.chars, rfl, rfl⟩
  · refine ⟨before ++ ['\n'], after, by simp [split], ?_⟩
    rw [place, byteLength_append]
    rfl

theorem mem_starts_iff_getElem?_toUTF8 {source : Source} {position : Nat}
    (positive : 0 < position) : (∃ start ∈ source.lineTable.starts, start.toNat = position) ↔
      source.text.toUTF8[position - 1]? = some '\n'.toUInt8 := by
  rw [Text.getElem?_toUTF8_eq_some_iff (by decide), Text.charAt?_eq_some_iff]
  constructor
  · rintro ⟨start, begins, rfl⟩
    rcases (LineTable.mem_starts_iff source.fits_chars).1 begins with
      rfl | ⟨before, after, split, place⟩
    · cases positive
    · exact ⟨before, after, split, by omega⟩
  · rintro ⟨before, after, split, place⟩
    have fits := source.fits_chars
    have wide := '\n'.utf8Size_pos
    rw [chars, split, byteLength_append, byteLength] at fits
    have start : (UInt32.ofNatLT position (by omega)).toNat = position := UInt32.toNat_ofNatLT
    refine ⟨_, (LineTable.mem_starts_iff source.fits_chars).2 (.inr ?_), start⟩
    exact ⟨before, after, split, by omega⟩

theorem marksLines (source : Source) : source.lineTable.MarksLines source.text where
  first := rfl
  increasing := source.increasing_starts
  boundary start begins := by
    have boundary := isBoundary_of_mem_starts begins
    refine ⟨?_, boundary⟩
    rw [← toNat_length]
    exact UInt32.le_iff_toNat_le.1 (le_length_of_isBoundary boundary)
  behindFeed _ positive := mem_starts_iff_getElem?_toUTF8 positive

/-! ## The line of an offset -/

/-- The first line does not begin above any offset, so there is a line before the point that
bisection finds. -/
theorem lineAt_succ (source : Source) (offset : Offset) :
    (source.lineTable.lineAt offset).val + 1 =
      partitionPoint (fun start => decide (start ≤ offset)) source.lineTable.starts := by
  have first :
      0 < partitionPoint (fun start => decide (start ≤ offset)) source.lineTable.starts := by
    rw [← le_iff_lt_partitionPoint source.increasing_starts offset source.lineTable.nonempty]
    exact UInt32.le_iff_toNat_le.2 (Nat.zero_le _)
  exact Nat.sub_add_cancel first

/-- The lines up to that of an offset do not begin above it, and all others do. -/
theorem le_iff_le_lineAt {source : Source} {offset : Offset} {index : Nat}
    (bound : index < source.lineTable.starts.size) :
    source.lineTable.starts[index] ≤ offset ↔ index ≤ source.lineTable.lineAt offset := by
  rw [le_iff_lt_partitionPoint source.increasing_starts, ← lineAt_succ, Nat.lt_succ_iff]

/-! ## The slice of a line -/

/-- The text can be cut at the two offsets: they lie in it, one not before the other, and neither
inside a character. -/
structure CanCut (source : Source) (start stop : Nat) : Prop where
  ordered : start ≤ stop
  inside : stop ≤ source.text.utf8ByteSize
  startBoundary : isBoundary source.chars start = true
  stopBoundary : isBoundary source.chars stop = true

/-- By the table, the line of the index runs between the two offsets: from its entry to the line
feed in front of the next one, or to the end of the text. -/
def LineRuns (source : Source) (index start stop : Nat) : Prop :=
  ∃ entry, source.lineTable.starts[index]? = some entry ∧ entry.toNat = start ∧
    (source.lineTable.starts[index + 1]? = none ∧ source.text.utf8ByteSize = stop ∨
      ∃ next, source.lineTable.starts[index + 1]? = some next ∧ next.toNat = stop + 1)

/-- Where the table says that a line runs, it can be cut out, and is. -/
theorem exists_lineRuns {source : Source} {index : Nat} (enough : index < source.lineCount) :
    ∃ start stop line, source.LineRuns index start stop ∧ source.CanCut start stop ∧
      Text.slice? source.chars start stop = some line ∧
      ∀ number : UInt32, number.toNat = index + 1 →
        source.lineText? number = some (String.ofList (dropCarriageReturn line)) := by
  rw [lineCount, lineTable, LineTable.size_starts] at enough
  obtain ⟨before, line, after, split, isLine, rfl⟩ :=
    LineTable.exists_isLine (Nat.le_of_lt_succ enough)
  obtain ⟨entry, found, place, ending⟩ := exists_entries_of_isLine split isLine
  have ordered := Nat.le_add_right (byteLength before) (byteLength line)
  have slice : Text.slice? source.chars (byteLength before) (byteLength before + byteLength line) =
      some line :=
    Text.slice?_eq_some_iff.2 ⟨before, after, split, rfl, (Nat.add_sub_cancel_left _ _).symm⟩
  obtain ⟨startBoundary, stopBoundary⟩ := (Text.exists_slice?_iff ordered).1 ⟨line, slice⟩
  have inside : byteLength before + byteLength line ≤ source.text.utf8ByteSize := by
    rw [← Text.byteLength_toList, ← chars, split, byteLength_append, byteLength_append]
    omega
  exact ⟨_, _, line, ⟨entry, found, place, ending⟩,
    ⟨ordered, inside, startBoundary, stopBoundary⟩, slice,
    fun _ counted => lineText?_of_isLine split isLine counted⟩

theorem lineText?_eq_none {source : Source} {number : UInt32}
    (noLine : number = 0 ∨ source.lineCount < number.toNat) : source.lineText? number = none := by
  rcases noLine with rfl | beyond
  · rfl
  · rw [Option.eq_none_iff_forall_ne_some]
    intro text found
    obtain ⟨before, line, after, split, -, counted, -⟩ := lineText?_eq_some_iff.1 found
    rw [lineCount, lineTable, LineTable.size_starts, split, List.count_append] at beyond
    omega

/-- **The line table can be searched, and the text cut by it.** Its first entry is zero, the entries
increase, they are character boundaries of the text, and behind zero they are exactly the places
whose byte before is a line feed. For every offset up to the end, the point that bisection finds
lies behind at least one entry, the entry in front of it is the last one that is not above the
offset, and the bytes from there up to the offset are in the text. A number is that of no line, and
nothing is cut, or its line runs between two offsets at which the text can be cut, and is cut out
there. -/
theorem lineTable_searches (source : Source) :
    source.lineTable.MarksLines source.text ∧
    (∀ offset ≤ source.length,
      (source.lineTable.lineAt offset).val + 1 =
        partitionPoint (fun start => decide (start ≤ offset)) source.lineTable.starts ∧
      (∀ index (bound : index < source.lineTable.starts.size),
        source.lineTable.starts[index] ≤ offset ↔ index ≤ source.lineTable.lineAt offset) ∧
      (∃ start, source.lineTable.starts[(source.lineTable.lineAt offset).val]? = some start ∧
        start ≤ offset) ∧
      offset.toNat ≤ source.text.toUTF8.size) ∧
    ∀ number : UInt32,
      (number = 0 ∨ source.lineCount < number.toNat) ∧ source.lineText? number = none ∨
      ∃ start stop line, source.LineRuns (number.toNat - 1) start stop ∧
        source.CanCut start stop ∧ Text.slice? source.chars start stop = some line ∧
        source.lineText? number = some (String.ofList (dropCarriageReturn line)) := by
  refine ⟨source.marksLines, fun offset inside => ?offset, fun number => ?line⟩
  case offset =>
    rw [UInt32.le_iff_toNat_le, toNat_length] at inside
    have line := (source.lineTable.lineAt offset).isLt
    have begins := (le_iff_le_lineAt line).2 (Nat.le_refl _)
    exact ⟨source.lineAt_succ offset, fun _ => le_iff_le_lineAt,
      ⟨_, Array.getElem?_eq_getElem line, begins⟩, inside⟩
  case line =>
    by_cases noLine : number = 0 ∨ source.lineCount < number.toNat
    · exact .inl ⟨noLine, lineText?_eq_none noLine⟩
    · obtain ⟨positive, counted⟩ := not_or.1 noLine
      have counts : number.toNat = number.toNat - 1 + 1 :=
        (Nat.succ_pred fun zero => positive (UInt32.toNat_inj.1 zero)).symm
      obtain ⟨start, stop, line, runs, cut, slice, text⟩ :=
        @exists_lineRuns source (number.toNat - 1) (by omega)
      exact .inr ⟨start, stop, line, runs, cut, slice, text number counts⟩

namespace Example

/-- Line feeds one behind the other and at the end, between characters of two and three bytes. -/
def feeds : Source :=
  ⟨0, "feeds", "é\n\n€\n", by decide⟩

end Example

/-- An offset inside the only character of the third line. -/
theorem lineTable_searches_feeds :
    Example.feeds.lineTable.starts = #[0, 3, 4, 8] ∧ (5 : Offset) ≤ Example.feeds.length ∧
      (Example.feeds.lineTable.lineAt 5).val + 1 = partitionPoint
        (fun start => decide (start ≤ (5 : Offset))) Example.feeds.lineTable.starts ∧
      (∃ start, Example.feeds.lineTable.starts[(Example.feeds.lineTable.lineAt 5).val]? =
        some start ∧ start ≤ 5) ∧
      (5 : Offset).toNat ≤ Example.feeds.text.toUTF8.size := by
  have inside : (5 : Offset) ≤ Example.feeds.length := by decide
  obtain ⟨-, atOffset, -⟩ := lineTable_searches Example.feeds
  obtain ⟨bisected, -, begins, bytes⟩ := atOffset 5 inside
  exact ⟨by decide +kernel, inside, bisected, begins, bytes⟩

end Source

end ExprTree
