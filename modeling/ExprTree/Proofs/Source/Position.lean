/-
# ExprTree.Proofs.Source.Position — lines and columns of a text

What a position tells is how many lines and how many characters of the last line stand in front of
it (`LineCol.Follows`). A position holds both numbers, counted from one, in words (`lineCol_eq`); in
a text that leaves room for one more byte they fit, and the position of an offset follows the
characters in front of it (`exists_lineCol`).

Main statements: `Source.lineCol_counts`, the line and the column of an offset are those of the
largest character boundary that is not above it, and `Source.location_le`, positions are in the
order of their offsets.
-/
import ExprTree.Proofs.Source.LineTable
import ExprTree.Source.Basic

namespace ExprTree

set_option autoImplicit false

open Text (byteLength takeBytes EndsUnder)
open LineTable (lastLine lastLine_append untilLastLine)

/-! ## The order of positions -/

theorem LineCol.le_iff {a b : LineCol} :
    a ≤ b ↔ a.line < b.line ∨ a.line = b.line ∧ a.column ≤ b.column := by
  show ((compare a.line b.line).then (compare a.column b.column)).isLE ↔ _
  rw [Ordering.isLE_then_iff_or, Std.compare_eq_lt, Std.compare_eq_iff_eq, Std.isLE_compare]

theorem LineCol.lt_iff {a b : LineCol} :
    a < b ↔ a.line < b.line ∨ a.line = b.line ∧ a.column < b.column := by
  show (compare a.line b.line).then (compare a.column b.column) = .lt ↔ _
  rw [Ordering.then_eq_lt, Std.compare_eq_lt, Std.compare_eq_iff_eq, Std.compare_eq_lt]

theorem LineCol.le_of_lt {a b : LineCol} (less : a < b) : a ≤ b := by
  rw [lt_iff] at less
  rw [le_iff]
  exact less.imp_right fun ⟨line, column⟩ => ⟨line, UInt32.le_of_lt column⟩

theorem Location.le_iff_of_file_eq {a b : Location} (file : a.file = b.file) :
    a ≤ b ↔ a.lineCol ≤ b.lineCol := by
  show ((compare a.file b.file).then (compare a.lineCol b.lineCol)).isLE ↔
    (compare a.lineCol b.lineCol).isLE
  rw [file, Std.compare_self]
  rfl

/-! ## Counting lines and columns -/

namespace LineCol

/-- The position is that of the end of the characters: its line counts the lines that they begin,
and its column is one more than their last line is long. -/
def Follows (position : LineCol) (chars : List Char) : Prop :=
  position.line.toNat = chars.count '\n' + 1 ∧ position.column.toNat = (lastLine chars).length + 1

theorem Follows.unique {position position' : LineCol} {chars : List Char}
    (follows : position.Follows chars) (follows' : position'.Follows chars) :
    position = position' := by
  obtain ⟨line, column⟩ := position
  obtain ⟨line', column'⟩ := position'
  have lines : line = line' := UInt32.toNat_inj.1 (follows.1.trans follows'.1.symm)
  have columns : column = column' := UInt32.toNat_inj.1 (follows.2.trans follows'.2.symm)
  rw [lines, columns]

/-- The end of the whole has a larger position than that of a part that lacks some of it. -/
theorem Follows.lt {position position' : LineCol} {chars more : List Char}
    (follows : position.Follows chars) (follows' : position'.Follows (chars ++ more))
    (longer : more ≠ []) : position < position' := by
  obtain ⟨line, column⟩ := follows
  obtain ⟨line', column'⟩ := follows'
  have added := List.length_pos_iff.2 longer
  rw [lt_iff, UInt32.lt_iff_toNat_lt, UInt32.lt_iff_toNat_lt, ← UInt32.toNat_inj]
  rw [List.count_append] at line'
  by_cases feed : '\n' ∈ more
  · have fed := List.count_pos_iff.2 feed
    exact .inl (by omega)
  · rw [lastLine_append feed, List.length_append] at column'
    rw [List.count_eq_zero_of_not_mem feed] at line'
    exact .inr ⟨by omega, by omega⟩

/-- The end of a leading part has no larger position than the end of the whole. -/
theorem Follows.le {position position' : LineCol} {chars chars' : List Char}
    (follows : position.Follows chars) (follows' : position'.Follows chars')
    (leading : chars <+: chars') : position ≤ position' := by
  obtain ⟨more, rfl⟩ := leading
  by_cases none : more = []
  · rw [none, List.append_nil] at follows'
    rw [follows.unique follows', le_iff]
    exact .inr ⟨rfl, UInt32.le_refl _⟩
  · exact le_of_lt (follows.lt follows' none)

end LineCol

namespace Source

theorem byteLength_chars (source : Source) : byteLength source.chars = source.length.toNat := by
  rw [toNat_length, chars, Text.byteLength_toList]

theorem fits_chars (source : Source) : byteLength source.chars < UInt32.size := by
  rw [byteLength_chars]
  exact source.length.toNat_lt

/-- The position of an offset is made of the line feeds and the last line in front of it, each of
them counted from one in a word. -/
theorem lineCol_eq {source : Source} {offset : Offset} {before after : List Char}
    (split : source.chars = before ++ after) (under : EndsUnder before after offset.toNat)
    (inside : offset ≤ source.length) :
    source.lineCol offset =
      .ok ⟨(before.count '\n').toUInt32 + 1, (lastLine before).length.toUInt32 + 1⟩ := by
  have notBeyond := UInt32.not_lt.2 inside
  rw [UInt32.le_iff_toNat_le, toNat_length] at inside
  have line : (source.lineTable.lineAt offset).val = before.count '\n' :=
    LineTable.lineAt_ofChars split source.fits_chars under
  have lineStart : (source.lineTable.starts[source.lineTable.lineAt offset]).toNat =
      byteLength (untilLastLine before) := LineTable.starts_lineAt split source.fits_chars under
  have whole := LineTable.untilLastLine_append_lastLine before
  rw [← whole] at under
  have column := Text.length_between (split.trans (congrArg (· ++ after) whole.symm)) under inside
  rw [← lineStart, ← chars] at column
  rw [lineCol, if_neg notBeyond]
  simp only [column, line]

/-- Every offset up to the end has a position, which follows the characters in front of it. -/
theorem exists_lineCol {source : Source} {offset : Offset}
    (short : source.text.utf8ByteSize + 1 < UInt32.size) (inside : offset ≤ source.length) :
    ∃ position, source.lineCol offset = .ok position ∧
      position.Follows (takeBytes source.chars offset.toNat) := by
  obtain ⟨before, after, split, under⟩ := Text.exists_endsUnder source.chars offset.toNat
  have cut : takeBytes source.chars offset.toNat = before := by
    rw [split, Text.takeBytes_eq_iff.2 under]
  rw [cut]
  refine ⟨_, lineCol_eq split under inside, ?_⟩
  rw [← toNat_length, ← byteLength_chars] at short
  have characters : before.length ≤ byteLength source.chars :=
    Nat.le_trans (Text.length_le_byteLength before)
      (Text.byteLength_le_of_isPrefix ⟨after, split.symm⟩)
  have lines : before.count '\n' ≤ before.length := List.count_le_length
  have columns := LineTable.length_lastLine_le before
  exact ⟨toNat_toUInt32_succ (by omega), toNat_toUInt32_succ (by omega)⟩

theorem exists_location {source : Source} {offset : Offset}
    (short : source.text.utf8ByteSize + 1 < UInt32.size) (inside : offset ≤ source.length) :
    ∃ location, source.location offset = .ok location ∧ location.file = source.file ∧
      location.lineCol.Follows (takeBytes source.chars offset.toNat) := by
  obtain ⟨position, found, follows⟩ := exists_lineCol short inside
  refine ⟨⟨source.file, position.line, position.column⟩, ?_, rfl, follows⟩
  rw [location, found]
  rfl

/-- The locations of two offsets of one text are in the order of the offsets. -/
theorem location_le {source source' : Source} (same : source.SameText source')
    (short : source.text.utf8ByteSize + 1 < UInt32.size) {offset offset' : Offset}
    (ordered : offset ≤ offset') (inside : offset' ≤ source.length) {location location' : Location}
    (found : source.location offset = .ok location)
    (found' : source'.location offset' = .ok location') : location ≤ location' := by
  obtain ⟨_, again, file, follows⟩ := exists_location short (UInt32.le_trans ordered inside)
  cases again.symm.trans found
  rw [same.2] at short
  rw [same.length_eq] at inside
  obtain ⟨_, again, file', follows'⟩ := exists_location short inside
  cases again.symm.trans found'
  rw [Location.le_iff_of_file_eq (file.trans (same.1.trans file'.symm))]
  refine follows.le follows' ?_
  rw [chars, chars, same.2]
  exact Text.takeBytes_isPrefix_takeBytes _ (UInt32.le_iff_toNat_le.1 ordered)

/-- **Lines and columns are counted in characters up to the offset.** An offset beyond the text is
refused, with the name and the length of the source. Any other offset stands for the largest
character boundary that is not above it: its line is one more than the line feeds in front of that
boundary, its column one more than the characters behind the last of them, and the boundary itself
has the same position. -/
theorem lineCol_counts {source : Source}
    (short : source.text.utf8ByteSize < UInt32.size - 1) (offset : Offset) :
    (source.length < offset →
      source.lineCol offset = .error (.outOfRange source.file offset source.length)) ∧
    (offset ≤ source.length → ∃ before after position, source.chars = before ++ after ∧
      IsGreatest {point | point ≤ offset.toNat ∧ Text.isBoundary source.chars point = true}
        (byteLength before) ∧
      source.lineCol offset = .ok position ∧
      position.line.toNat = 1 + before.count '\n' ∧
      position.column.toNat = 1 + (lastLine before).length ∧
      source.lineCol (byteLength before).toUInt32 = .ok position) := by
  have room : source.text.utf8ByteSize + 1 < UInt32.size := Nat.add_lt_of_lt_sub short
  refine ⟨fun beyond => if_pos beyond, fun inside => ?_⟩
  obtain ⟨before, after, split, under⟩ := Text.exists_endsUnder source.chars offset.toNat
  have cut : takeBytes source.chars offset.toNat = before := by
    rw [split, Text.takeBytes_eq_iff.2 under]
  obtain ⟨position, found, follows⟩ := exists_lineCol room inside
  rw [cut] at follows
  -- The boundary is an offset of the text too, and the same characters stand in front of it.
  have boundary : (byteLength before).toUInt32.toNat = byteLength before := by
    rw [Nat.toUInt32_eq, UInt32.toNat_ofNat']
    exact Nat.mod_eq_of_lt (Nat.lt_of_le_of_lt under.1 offset.toNat_lt)
  have reached : (byteLength before).toUInt32 ≤ offset := by
    rw [UInt32.le_iff_toNat_le, boundary]
    exact under.1
  obtain ⟨position', found', follows'⟩ := exists_lineCol room (UInt32.le_trans reached inside)
  rw [boundary, split, Text.takeBytes_eq_iff.2 (Text.endsUnder_byteLength before after)] at follows'
  refine ⟨before, after, position, split, ?_, found, ?_, ?_, ?_⟩
  · rw [split]
    exact Text.isGreatest_boundary under
  · rw [follows.1, Nat.add_comm]
  · rw [follows.2, Nat.add_comm]
  · rw [found', follows'.unique follows]

/-! ### Two lines beyond ASCII -/

namespace Example

/-- Two lines of eleven bytes together; the second begins with a character of four bytes. -/
def accents : Source :=
  ⟨0, "accents", "é€\n😀x", by decide⟩

end Example

theorem lineCol_counts_accents :
    Example.accents.text.utf8ByteSize < UInt32.size - 1 ∧
      (Example.accents.length < 12 ∧
        Example.accents.lineCol 12 = .error (.outOfRange "accents" 12 11)) ∧
      Example.accents.lineCol 8 = .ok ⟨2, 1⟩ ∧ (8 : Offset) ≤ Example.accents.length ∧
      ∃ before after position, Example.accents.chars = before ++ after ∧
        IsGreatest
          {point | point ≤ (8 : Offset).toNat ∧ Text.isBoundary Example.accents.chars point = true}
          (byteLength before) ∧
        Example.accents.lineCol 8 = .ok position ∧
        position.line.toNat = 1 + before.count '\n' ∧
        position.column.toNat = 1 + (lastLine before).length ∧
        Example.accents.lineCol (byteLength before).toUInt32 = .ok position := by
  have short : Example.accents.text.utf8ByteSize < UInt32.size - 1 := by decide
  have beyond : Example.accents.length < 12 := by decide
  have inside : (8 : Offset) ≤ Example.accents.length := by decide
  exact ⟨short, ⟨beyond, (lineCol_counts short 12).1 beyond⟩, by decide +kernel, inside,
    (lineCol_counts short 8).2 inside⟩

end Source

end ExprTree
