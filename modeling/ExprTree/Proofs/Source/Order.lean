/-
# ExprTree.Proofs.Source.Order — the order of positions is the order of offsets

A position says how many lines and how many characters of the last line stand in front of it
(`LineCol.Follows`), and a larger offset has no fewer characters in front of it. If it has more, its
position is larger: either they contain a line feed, and the line grows, or they do not, and the
column does (`LineCol.Follows.lt`). It has more of them exactly if it reaches a character boundary
that the smaller offset does not (`Source.Separates`).

Main statement: `Source.positions_inOrder`. So a position belongs to one boundary, and all offsets
inside a character share the position of that character.
-/
import ExprTree.Proofs.Source.Position
import Mathlib.Data.Set.Function

namespace ExprTree

set_option autoImplicit false

open Text (byteLength takeBytes isBoundary charAt?)

/-! ## Locations -/

theorem Location.lt_iff_of_file_eq {a b : Location} (file : a.file = b.file) :
    a < b ↔ a.lineCol < b.lineCol := by
  show (compare a.file b.file).then (compare a.lineCol b.lineCol) = .lt ↔
    compare a.lineCol b.lineCol = .lt
  rw [file, Std.compare_self]
  rfl

theorem Location.eq_of_lineCol_eq {a b : Location} (file : a.file = b.file)
    (position : a.lineCol = b.lineCol) : a = b := by
  obtain ⟨name, line, column⟩ := a
  obtain ⟨name', line', column'⟩ := b
  obtain ⟨rfl, rfl⟩ := LineCol.mk.inj position
  cases file
  rfl

namespace Source

variable {source : Source}

/-! ## Two offsets -/

/-- There is a character boundary behind the first offset that is not behind the second. -/
def Separates (source : Source) (offset offset' : Offset) : Prop :=
  ∃ point : Offset, offset < point ∧ point ≤ offset' ∧ isBoundary source.chars point.toNat = true

/-- A boundary between two offsets is itself an offset. -/
theorem separates_iff {offset offset' : Offset} :
    source.Separates offset offset' ↔ ∃ point, offset.toNat < point ∧ point ≤ offset'.toNat ∧
      isBoundary source.chars point = true := by
  constructor
  · rintro ⟨point, beyond, reached, boundary⟩
    exact ⟨point.toNat, UInt32.lt_iff_toNat_lt.1 beyond, UInt32.le_iff_toNat_le.1 reached, boundary⟩
  · rintro ⟨point, beyond, reached, boundary⟩
    have fits : point < UInt32.size := Nat.lt_of_le_of_lt reached offset'.toNat_lt
    have same : (UInt32.ofNatLT point fits).toNat = point := UInt32.toNat_ofNatLT
    refine ⟨.ofNatLT point fits, ?_, ?_, ?_⟩
    · rwa [UInt32.lt_iff_toNat_lt, same]
    · rwa [UInt32.le_iff_toNat_le, same]
    · rwa [same]

/-- Offsets that no boundary separates have the same characters in front of them. -/
theorem takeBytes_eq_iff_not_separates {offset offset' : Offset} (ordered : offset ≤ offset') :
    takeBytes source.chars offset.toNat = takeBytes source.chars offset'.toNat ↔
      ¬ source.Separates offset offset' := by
  rw [separates_iff]
  exact Text.takeBytes_eq_takeBytes_iff (UInt32.le_iff_toNat_le.1 ordered)

/-- Offsets that no boundary separates have one position, in the text or beyond it. -/
theorem lineCol_eq_of_takeBytes_eq (short : source.text.utf8ByteSize + 1 < UInt32.size)
    {offset offset' : Offset} (inside : offset ≤ source.length) (inside' : offset' ≤ source.length)
    (same : takeBytes source.chars offset.toNat = takeBytes source.chars offset'.toNat) :
    source.lineCol offset = source.lineCol offset' := by
  obtain ⟨position, found, follows⟩ := exists_lineCol short inside
  obtain ⟨position', found', follows'⟩ := exists_lineCol short inside'
  rw [same] at follows
  rw [found, found', follows.unique follows']

/-- Offsets that a boundary separates have positions in strict order. -/
theorem lineCol_lt_of_separates (short : source.text.utf8ByteSize + 1 < UInt32.size)
    {offset offset' : Offset} (ordered : offset ≤ offset') (inside : offset' ≤ source.length)
    (separated : source.Separates offset offset') {position position' : LineCol}
    (found : source.lineCol offset = .ok position)
    (found' : source.lineCol offset' = .ok position') : position < position' := by
  obtain ⟨_, again, follows⟩ := exists_lineCol short (UInt32.le_trans ordered inside)
  cases again.symm.trans found
  obtain ⟨_, again, follows'⟩ := exists_lineCol short inside
  cases again.symm.trans found'
  obtain ⟨more, whole⟩ := Text.takeBytes_isPrefix_takeBytes source.chars
    (UInt32.le_iff_toNat_le.1 ordered)
  rw [← whole] at follows'
  refine follows.lt follows' ?_
  rintro rfl
  rw [List.append_nil] at whole
  exact (takeBytes_eq_iff_not_separates ordered).1 whole separated

/-- The location of an offset is its position in the file of the source. -/
theorem exists_location_of_lineCol {offset : Offset} {position : LineCol}
    (found : source.lineCol offset = .ok position) :
    ∃ location, source.location offset = .ok location ∧ location.file = source.file ∧
      location.lineCol = position := by
  refine ⟨⟨source.file, position.line, position.column⟩, ?_, rfl, rfl⟩
  rw [location, found]
  rfl

theorem le_length_of_isBoundary {offset : Offset}
    (boundary : isBoundary source.chars offset.toNat = true) : offset ≤ source.length := by
  obtain ⟨before, after, split, reached⟩ := Text.isBoundary_eq_true_iff.1 boundary
  rw [UInt32.le_iff_toNat_le, ← byteLength_chars, ← reached]
  exact Text.byteLength_le_of_isPrefix ⟨after, split.symm⟩

/-- Different boundaries have different positions. -/
theorem lineCol_injOn (short : source.text.utf8ByteSize + 1 < UInt32.size) :
    Set.InjOn source.lineCol {offset | isBoundary source.chars offset.toNat = true} := by
  -- By symmetry, a boundary and a larger one, which is then the boundary that separates them.
  have separate {offset offset' : Offset} (smaller : offset < offset')
      (boundary : isBoundary source.chars offset'.toNat = true) :
      source.lineCol offset ≠ source.lineCol offset' := by
    intro same
    have inside := le_length_of_isBoundary boundary
    have ordered := UInt32.le_of_lt smaller
    obtain ⟨position, found, -⟩ := exists_lineCol short inside
    have less := lineCol_lt_of_separates short ordered inside
      ⟨offset', smaller, UInt32.le_refl _, boundary⟩ (same.trans found) found
    rw [LineCol.lt_iff] at less
    rcases less with line | ⟨-, column⟩
    · exact UInt32.lt_irrefl _ line
    · exact UInt32.lt_irrefl _ column
  intro offset boundary offset' boundary' same
  rcases Nat.lt_trichotomy offset.toNat offset'.toNat with smaller | equal | larger
  · exact absurd same (separate (UInt32.lt_iff_toNat_lt.2 smaller) boundary')
  · exact UInt32.toNat_inj.1 equal
  · exact absurd same.symm (separate (UInt32.lt_iff_toNat_lt.2 larger) boundary)

/-- An offset inside a character has the same characters in front of it as the character. -/
theorem takeBytes_of_charAt? {start offset : Offset} {c : Char}
    (begins : charAt? source.chars start.toNat = some c) (reached : start ≤ offset)
    (inside : offset.toNat < start.toNat + c.utf8Size) :
    takeBytes source.chars start.toNat = takeBytes source.chars offset.toNat := by
  obtain ⟨before, after, split, place⟩ := Text.charAt?_eq_some_iff.1 begins
  rw [UInt32.le_iff_toNat_le] at reached
  rw [← place] at inside reached ⊢
  have here : takeBytes source.chars (byteLength before) = before := by
    rw [split, Text.takeBytes_eq_iff.2 (Text.endsUnder_byteLength _ _)]
  have there : takeBytes source.chars offset.toNat = before := by
    rw [split]
    refine Text.takeBytes_eq_iff.2 ⟨reached, ?_⟩
    rintro _ ⟨⟩
    exact inside
  rw [here, there]

/-- **Positions are in the order of their offsets.** Of two offsets up to the end of the text, the
larger one has no smaller position and no smaller location. Both are strictly larger if a character
boundary separates the offsets, and the same otherwise. So different boundaries have different
positions, and an offset inside a character has the position of that character. -/
theorem positions_inOrder (short : source.text.utf8ByteSize < UInt32.size - 1) :
    (∀ offset offset' : Offset, offset ≤ offset' → offset' ≤ source.length →
      ∃ position position' location location',
        source.lineCol offset = .ok position ∧ source.lineCol offset' = .ok position' ∧
        source.location offset = .ok location ∧ source.location offset' = .ok location' ∧
        position ≤ position' ∧ location ≤ location' ∧
        (source.Separates offset offset' → position < position' ∧ location < location') ∧
        (¬ source.Separates offset offset' → position = position' ∧ location = location')) ∧
    Set.InjOn source.lineCol {offset | isBoundary source.chars offset.toNat = true} ∧
    ∀ (start offset : Offset) (c : Char), charAt? source.chars start.toNat = some c →
      start ≤ offset → offset.toNat < start.toNat + c.utf8Size →
        source.lineCol offset = source.lineCol start := by
  have room : source.text.utf8ByteSize + 1 < UInt32.size := Nat.add_lt_of_lt_sub short
  refine ⟨?_, lineCol_injOn room, ?_⟩
  · intro offset offset' ordered inside
    have inside' := UInt32.le_trans ordered inside
    obtain ⟨position, found, -⟩ := exists_lineCol room inside'
    obtain ⟨position', found', -⟩ := exists_lineCol room inside
    obtain ⟨location, located, file, rfl⟩ := exists_location_of_lineCol found
    obtain ⟨location', located', file', rfl⟩ := exists_location_of_lineCol found'
    have oneFile : location.file = location'.file := file.trans file'.symm
    have le := location_le (.refl source) room ordered inside located located'
    refine ⟨_, _, location, location', found, found', located, located', ?_, le, ?_, ?_⟩
    · exact (Location.le_iff_of_file_eq oneFile).1 le
    · intro separated
      have less := lineCol_lt_of_separates room ordered inside separated found found'
      exact ⟨less, (Location.lt_iff_of_file_eq oneFile).2 less⟩
    · intro together
      have same := lineCol_eq_of_takeBytes_eq room inside' inside
        ((takeBytes_eq_iff_not_separates ordered).2 together)
      have equal : location.lineCol = location'.lineCol :=
        Except.ok.inj (found.symm.trans (same.trans found'))
      exact ⟨equal, Location.eq_of_lineCol_eq oneFile equal⟩
  · intro start offset c begins reached within
    have same := takeBytes_of_charAt? begins reached within
    obtain ⟨before, after, split, place⟩ := Text.charAt?_eq_some_iff.1 begins
    have boundary : isBoundary source.chars start.toNat = true :=
      Text.isBoundary_eq_true_iff.2 ⟨before, _, split, place⟩
    have inside : offset ≤ source.length := by
      rw [UInt32.le_iff_toNat_le, ← byteLength_chars, split, Text.byteLength_append, byteLength]
      omega
    exact (lineCol_eq_of_takeBytes_eq room (le_length_of_isBoundary boundary) inside same).symm

/-- Two offsets inside the characters of both lines, two inside one character, and the beginning of
that character. -/
theorem positions_inOrder_accents :
    Example.accents.text.utf8ByteSize < UInt32.size - 1 ∧
      ((3 : Offset) ≤ 8 ∧ (8 : Offset) ≤ Example.accents.length ∧
        Example.accents.Separates 3 8 ∧
        ∃ position position', Example.accents.lineCol 3 = .ok position ∧
          Example.accents.lineCol 8 = .ok position' ∧ position < position') ∧
      ((7 : Offset) ≤ 8 ∧ ¬ Example.accents.Separates 7 8 ∧
        ∃ position, Example.accents.lineCol 7 = .ok position ∧
          Example.accents.lineCol 8 = .ok position) ∧
      charAt? Example.accents.chars (6 : Offset).toNat = some '😀' ∧ (6 : Offset) ≤ 8 ∧
      (8 : Offset).toNat < (6 : Offset).toNat + '😀'.utf8Size ∧
      Example.accents.lineCol 8 = Example.accents.lineCol 6 := by
  have short : Example.accents.text.utf8ByteSize < UInt32.size - 1 := by decide
  have inside : (8 : Offset) ≤ Example.accents.length := by decide
  have separated : Example.accents.Separates 3 8 := ⟨5, by decide, by decide, by decide +kernel⟩
  have together : ¬ Example.accents.Separates 7 8 := by
    rintro ⟨point, beyond, reached, boundary⟩
    obtain rfl : point = 8 := by
      rw [UInt32.lt_iff_toNat_lt] at beyond
      rw [UInt32.le_iff_toNat_le] at reached
      exact UInt32.toNat_inj.1 (Nat.le_antisymm reached beyond)
    exact absurd boundary (by decide +kernel)
  have begins : charAt? Example.accents.chars (6 : Offset).toNat = some '😀' := by decide +kernel
  obtain ⟨ordered, -, constant⟩ := positions_inOrder short
  obtain ⟨position, position', _, _, found, found', -, -, -, -, less, -⟩ :=
    ordered 3 8 (by decide) inside
  obtain ⟨same, same', _, _, again, again', -, -, -, -, -, equal⟩ :=
    ordered 7 8 (by decide) inside
  obtain ⟨rfl, -⟩ := equal together
  exact ⟨short, ⟨by decide, inside, separated, position, position', found, found',
      (less separated).1⟩, ⟨by decide, together, same, again, again'⟩, begins, by decide,
    by decide, constant 6 8 '😀' begins (by decide) (by decide)⟩

end Source

end ExprTree
