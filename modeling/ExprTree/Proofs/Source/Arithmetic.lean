/-
# ExprTree.Proofs.Source.Arithmetic — offset arithmetic and its range

Offsets, lines and columns are words of 32 bits. The functions of this module go through the steps
of the line table, of `Source.lineCol` and of `Source.lineText?`, and give `none` as soon as a step
leaves its range: a number that no word holds, the successor of the largest word, the predecessor of
zero, an entry of the table or a part of the text that is not there.

The length of a text fits a word, and so does the offset behind a line feed. But lines and columns
are counted from one, and at the end of the longest texts there is one more of them than a word
holds (`Source.AtLimit`).

Main statement: `Source.checked_exact`, at this one offset alone a step leaves its range; everywhere
else the functions of the source go through the same steps and give the exact counts.
-/
import ExprTree.Proofs.Source.Lines

namespace ExprTree

set_option autoImplicit false

open Text (byteLength EndsUnder)
open LineTable (lastLine untilLastLine)

/-! ## Steps that are checked -/

namespace Checked

def word? (n : Nat) : Option UInt32 :=
  if n < UInt32.size then some n.toUInt32 else none

def next? (word : UInt32) : Option UInt32 :=
  if word.toNat + 1 < UInt32.size then some (word + 1) else none

def previous? (n : Nat) : Option Nat :=
  if n = 0 then none else some (n - 1)

def wordBehind? (n : Nat) : Option UInt32 := do
  next? (← word? n)

theorem wordBehind?_eq (n : Nat) :
    wordBehind? n = if n + 1 < UInt32.size then some (n.toUInt32 + 1) else none := by
  by_cases fits : n < UInt32.size
  · have same : n.toUInt32.toNat = n := by
      rw [Nat.toUInt32_eq, UInt32.toNat_ofNat']
      exact Nat.mod_eq_of_lt fits
    simp [wordBehind?, word?, fits, next?, same]
  · have beyond : ¬ n + 1 < UInt32.size := by omega
    simp [wordBehind?, word?, fits, beyond]

@[simp] theorem previous?_succ (n : Nat) : previous? (n + 1) = some n := by
  simp [previous?]

def startsAfterNewlines (position : Nat) : List Char → Option (List Offset)
  | [] => some []
  | c :: rest => do
      let later ← startsAfterNewlines (position + c.utf8Size) rest
      if c = '\n' then
        let start ← wordBehind? position
        pure (start :: later)
      else pure later

def lineTable (source : Source) : Option LineTable := do
  let starts ← startsAfterNewlines 0 source.chars
  pure ⟨(0 :: starts).toArray, by simp⟩

/-- The characters between the start of a line and an offset, without one that the offset lies
inside of. -/
def charsBetween? (source : Source) (lineStart offset : Offset) : Option Nat :=
  let heads := Text.headsIn source.text lineStart.toNat offset.toNat
  if Text.isBoundary source.chars offset.toNat then some heads else previous? heads

def lineCol (source : Source) (offset : Offset) : Option (Except SyntaxError LineCol) :=
  if source.length < offset then
    some (.error (.outOfRange source.file offset source.length))
  else do
    let table ← lineTable source
    let line ← previous? (partitionPoint (fun start => start ≤ offset) table.starts)
    let lineStart ← table.starts[line]?
    guard (lineStart ≤ offset)
    let column ← charsBetween? source lineStart offset
    pure (.ok ⟨← wordBehind? line, ← wordBehind? column⟩)

/-- The text of a line, which may be one that the text does not have. -/
def lineText? (source : Source) (line : UInt32) : Option (Option String) :=
  if line = 0 then some none
  else do
    let table ← lineTable source
    let index ← previous? line.toNat
    match table.starts[index]? with
    | none => pure none
    | some start =>
        let stop ← match table.starts[index + 1]? with
          | some next => previous? next.toNat
          | none => some source.text.utf8ByteSize
        guard (start.toNat ≤ stop)
        let chars ← Text.slice? source.chars start.toNat stop
        pure (some (String.ofList (Source.dropCarriageReturn chars)))

end Checked

open Checked (previous? wordBehind? wordBehind?_eq)

/-! ## The table and the lines -/

/-- Behind a line feed, there is an offset for the next line. -/
theorem Checked.startsAfterNewlines_eq {position : Nat} {chars : List Char}
    (fits : position + byteLength chars < UInt32.size) :
    Checked.startsAfterNewlines position chars =
      some (ExprTree.startsAfterNewlines position chars) := by
  induction chars generalizing position with
  | nil => rfl
  | cons c rest ih =>
      have wide := c.utf8Size_pos
      rw [byteLength] at fits
      have behind : wordBehind? position = some (position.toUInt32 + 1) := by
        rw [wordBehind?_eq, if_pos (by omega)]
      rw [Checked.startsAfterNewlines, ExprTree.startsAfterNewlines,
        @ih (position + c.utf8Size) (by omega)]
      split <;> simp [behind]

namespace Source

variable {source : Source}

@[simp] theorem checked_lineTable (source : Source) :
    Checked.lineTable source = some source.lineTable := by
  have fits := source.fits_chars
  rw [Checked.lineTable, Checked.startsAfterNewlines_eq (by omega)]
  rfl

/-- No step towards the text of a line leaves its range. -/
theorem checked_lineText? (source : Source) (number : UInt32) :
    Checked.lineText? source number = some (source.lineText? number) := by
  by_cases zero : number = 0
  · rw [Checked.lineText?, lineText?, if_pos zero, if_pos zero]
  obtain ⟨index, counted⟩ : ∃ index, number.toNat = index + 1 :=
    Nat.exists_eq_succ_of_ne_zero fun none => zero (UInt32.toNat_inj.1 none)
  simp only [Checked.lineText?, if_neg zero, checked_lineTable, counted, Checked.previous?_succ,
    Option.bind_eq_bind, Option.bind_some]
  by_cases enough : index ≤ source.chars.count '\n'
  · obtain ⟨before, line, after, split, isLine, rfl⟩ := LineTable.exists_isLine enough
    obtain ⟨start, entry, place, ending⟩ := exists_entries_of_isLine split isLine
    have slice {stop : Nat} (upTo : stop = byteLength before + byteLength line) :
        Text.slice? source.chars start.toNat stop = some line :=
      Text.slice?_eq_some_iff.2 ⟨before, after, split, place.symm, by omega⟩
    have ordered : start.toNat ≤ byteLength before + byteLength line := by omega
    rw [lineText?_of_isLine split isLine counted, entry]
    rcases ending with ⟨none, whole⟩ | ⟨next, entry', place'⟩
    · simp [none, whole, ordered, slice rfl]
    · simp [entry', place', ordered, slice rfl]
  · have beyond : source.lineTable.starts[index]? = none := by
      rw [Array.getElem?_eq_none_iff, lineTable, LineTable.size_starts]
      omega
    simp [lineText?, zero, counted, beyond]

/-! ## Lines and columns -/

/-- The offset is the end of a text of as many characters as a word can count, and all of them are
line feeds or none is. -/
structure AtLimit (source : Source) (offset : Offset) : Prop where
  last : offset.toNat = UInt32.size - 1
  characters : source.chars.length = UInt32.size - 1
  feeds : '\n' ∉ source.chars ∨ ∀ c ∈ source.chars, c = '\n'

section Position

variable {offset : Offset} {before after : List Char} (split : source.chars = before ++ after)
  (under : EndsUnder before after offset.toNat) (inside : offset ≤ source.length)

include split under inside

/-- From the start of the last line, the characters of that line are counted: when the offset lies
inside a character, that one has been counted too and is taken back. -/
theorem checked_charsBetween? {start : Offset}
    (place : start.toNat = byteLength (untilLastLine before)) :
    Checked.charsBetween? source start offset = some (lastLine before).length := by
  have whole := LineTable.untilLastLine_append_lastLine before
  rw [UInt32.le_iff_toNat_le, toNat_length] at inside
  have boundary := Text.isBoundary_iff under
  rw [← split] at boundary
  rw [← whole] at under
  have heads :=
    Text.headsIn_append (split.trans (congrArg (· ++ after) whole.symm)) under inside
  rw [whole] at heads
  rw [Checked.charsBetween?, place, heads]
  by_cases ends : byteLength before = offset.toNat
  · simp [boundary.2 ends, ends]
  · simp [mt boundary.1 ends, ends]

/-- Up to the last two steps nothing leaves its range: there is a line, and it begins no later than
the offset. -/
theorem checked_lineCol_eq : Checked.lineCol source offset =
    (wordBehind? (before.count '\n')).bind fun line =>
      (wordBehind? (lastLine before).length).bind fun column => some (.ok ⟨line, column⟩) := by
  have fits := source.fits_chars
  rw [split] at fits
  have point : partitionPoint (fun start => decide (start ≤ offset)) source.lineTable.starts =
      before.count '\n' + 1 := by
    rw [lineTable, split]
    exact LineTable.partitionPoint_starts fits under
  obtain ⟨start, entry, place⟩ := LineTable.getElem?_starts fits
  rw [← split, ← lineTable] at entry
  have leading : untilLastLine before <+: before := List.rdropWhile_prefix _ _
  have reached : start ≤ offset := by
    rw [UInt32.le_iff_toNat_le, place]
    exact Nat.le_trans (Text.byteLength_le_of_isPrefix leading) under.1
  have column := checked_charsBetween? split under inside place
  rw [Checked.lineCol, if_neg (UInt32.not_lt.2 inside), checked_lineTable]
  simp only [Option.bind_eq_bind, Option.bind_some, point, Checked.previous?_succ, entry, guard,
    if_pos reached, pure, column]

/-- At the limit, and nowhere else, the line or the column is one that no word holds. -/
theorem atLimit_iff : source.AtLimit offset ↔
    ¬ before.count '\n' + 1 < UInt32.size ∨ ¬ (lastLine before).length + 1 < UInt32.size := by
  have fits := source.fits_chars
  rw [UInt32.le_iff_toNat_le, ← byteLength_chars] at inside
  have bytes := Text.length_le_byteLength before
  have reached := under.1
  constructor
  · rintro ⟨last, characters, feeds⟩
    have wide := Text.length_le_byteLength source.chars
    -- The offset is that of the end, so all characters stand in front of it.
    obtain rfl : after = [] := by
      cases after with
      | nil => rfl
      | cons c after =>
          have next := under.2 c rfl
          rw [split, Text.byteLength_append, byteLength] at fits
          omega
    rw [List.append_nil] at split
    rw [split] at characters feeds
    rcases feeds with none | all
    · have column := LineTable.length_lastLine_eq_iff.2 none
      omega
    · have line := List.count_eq_length.2 fun c member => (all c member).symm
      omega
  · intro beyond
    have lines : before.count '\n' ≤ before.length := List.count_le_length
    have columns := LineTable.length_lastLine_le before
    have wide := Text.length_le_byteLength source.chars
    obtain rfl : after = [] := by
      rw [split, List.length_append, ← split] at wide
      exact List.length_eq_zero_iff.1 (by omega)
    rw [List.append_nil] at split
    rw [split] at fits inside
    refine ⟨by omega, by rw [split]; omega, ?_⟩
    rw [split]
    refine beyond.symm.imp (fun column => ?_) fun line => ?_
    · exact LineTable.length_lastLine_eq_iff.1 (by omega)
    · have all : before.count '\n' = before.length := by omega
      exact fun c member => (List.count_eq_length.1 all c member).symm

/-- Away from the limit, the line and the column are counted from one. -/
theorem checked_lineCol_of_not_atLimit (away : ¬ source.AtLimit offset) :
    ∃ position, Checked.lineCol source offset = some (.ok position) ∧
      source.lineCol offset = .ok position ∧ position.Follows before := by
  rw [atLimit_iff split under inside, not_or, not_not, not_not] at away
  refine ⟨_, ?_, lineCol_eq split under inside, toNat_toUInt32_succ away.1,
    toNat_toUInt32_succ away.2⟩
  rw [checked_lineCol_eq split under inside, wordBehind?_eq, if_pos away.1, wordBehind?_eq,
    if_pos away.2]
  rfl

theorem checked_lineCol_of_atLimit (limit : source.AtLimit offset) :
    Checked.lineCol source offset = none := by
  rw [checked_lineCol_eq split under inside, wordBehind?_eq, wordBehind?_eq]
  rcases (atLimit_iff split under inside).1 limit with line | column
  · rw [if_neg line]
    rfl
  · rw [if_neg column]
    exact Option.bind_fun_none _

end Position

/-- **Offset arithmetic leaves its range at one offset only.** In the table and in the text of a
line, no step does. An offset beyond the text is refused. Up to the end, the steps towards the
position give the exact line and the exact column, those of `Source.lineCol`, unless the offset is
the end of a text of `2 ^ 32 - 1` characters all of which, or none of which, are line feeds: there,
and nowhere else, one step leaves its range. -/
theorem checked_exact (source : Source) :
    Checked.lineTable source = some source.lineTable ∧
    (∀ line, Checked.lineText? source line = some (source.lineText? line)) ∧
    (∀ offset, source.length < offset →
      Checked.lineCol source offset = some (source.lineCol offset)) ∧
    ∀ offset ≤ source.length,
      (Checked.lineCol source offset = none ↔ source.AtLimit offset) ∧
      (¬ source.AtLimit offset → ∃ before after position, source.chars = before ++ after ∧
        EndsUnder before after offset.toNat ∧
        Checked.lineCol source offset = some (.ok position) ∧
        source.lineCol offset = .ok position ∧
        position.line.toNat = 1 + before.count '\n' ∧
        position.column.toNat = 1 + (lastLine before).length) := by
  refine ⟨checked_lineTable source, checked_lineText? source, fun offset beyond => ?beyond,
    fun offset inside => ?inside⟩
  case beyond => rw [Checked.lineCol, lineCol, if_pos beyond, if_pos beyond]
  case inside =>
    obtain ⟨before, after, split, under⟩ := Text.exists_endsUnder source.chars offset.toNat
    have exact_of_away := checked_lineCol_of_not_atLimit split under inside
    refine ⟨⟨fun none => ?_, checked_lineCol_of_atLimit split under inside⟩, fun away => ?_⟩
    · by_contra away
      obtain ⟨position, found, -⟩ := exact_of_away away
      rw [none] at found
      cases found
    · obtain ⟨position, found, found', line, column⟩ := exact_of_away away
      exact ⟨before, after, position, split, under, found, found', by rw [line, Nat.add_comm],
        by rw [column, Nat.add_comm]⟩

/-- Inside the second character of `é€` the position is the column of that character. -/
theorem checked_exact_accents : (4 : Offset) ≤ Example.accents.length ∧
    ¬ Example.accents.AtLimit 4 ∧
    ∃ before after position, Example.accents.chars = before ++ after ∧
      EndsUnder before after (4 : Offset).toNat ∧
      Checked.lineCol Example.accents 4 = some (.ok position) ∧
      Example.accents.lineCol 4 = .ok position ∧
      position.line.toNat = 1 + before.count '\n' ∧
      position.column.toNat = 1 + (lastLine before).length := by
  have inside : (4 : Offset) ≤ Example.accents.length := by decide
  have away : ¬ Example.accents.AtLimit 4 := fun limit => absurd limit.last (by decide)
  exact ⟨inside, away, ((checked_exact Example.accents).2.2.2 4 inside).2 away⟩

/-! ### A text of letters -/

/-- All characters of a text stand in front of its end. -/
theorem endsUnder_length (source : Source) : EndsUnder source.chars [] source.length.toNat := by
  rw [← byteLength_chars]
  exact ⟨Nat.le_refl _, by simp⟩

theorem byteLength_replicate (count : Nat) : byteLength (List.replicate count 'a') = count := by
  induction count with
  | zero => rfl
  | succ count ih =>
      rw [List.replicate_succ, byteLength, ih, Nat.add_comm]
      rfl

namespace Example

/-- A text of that many letters, in one line. -/
def letters (count : Nat) (fits : count < UInt32.size) : Source :=
  ⟨0, "letters", String.ofList (List.replicate count 'a'), by
    rwa [Text.utf8ByteSize_ofList, byteLength_replicate]⟩

end Example

section Letters

variable {count : Nat} (fits : count < UInt32.size)

theorem chars_letters : (Example.letters count fits).chars = List.replicate count 'a' :=
  String.toList_ofList

theorem length_letters : (Example.letters count fits).length.toNat = count := by
  rw [← byteLength_chars, chars_letters, byteLength_replicate]

theorem length_lastLine_letters : (lastLine (Example.letters count fits).chars).length = count := by
  have noFeed : '\n' ∉ List.replicate count 'a' := by simp
  rw [chars_letters, LineTable.length_lastLine_eq_iff.2 noFeed, List.length_replicate]

/-- The end of the text is in the first line, behind all of its letters. -/
theorem lineCol_letters : (Example.letters count fits).lineCol (Example.letters count fits).length =
    .ok ⟨1, count.toUInt32 + 1⟩ := by
  have noFeed : '\n' ∉ List.replicate count 'a' := by simp
  rw [lineCol_eq (List.append_nil _).symm (endsUnder_length _) (UInt32.le_refl _),
    length_lastLine_letters, chars_letters, List.count_eq_zero_of_not_mem noFeed]
  rfl

theorem atLimit_letters (full : count = UInt32.size - 1) :
    (Example.letters count fits).AtLimit (Example.letters count fits).length := by
  refine ⟨(length_letters fits).trans full, ?_, .inl ?_⟩
  · rw [chars_letters, List.length_replicate, full]
  · simp [chars_letters]

/-- At the end of the longest text, the column would be one more than the largest word; the next
word is zero. -/
theorem lineCol_letters_of_full (full : count = UInt32.size - 1) :
    (Example.letters count fits).length.toNat = UInt32.size - 1 ∧
    1 + (lastLine (Example.letters count fits).chars).length = UInt32.size ∧
    Checked.lineCol (Example.letters count fits) (Example.letters count fits).length = none ∧
    (Example.letters count fits).lineCol (Example.letters count fits).length = .ok ⟨1, 0⟩ := by
  have wraps : count.toUInt32 + 1 = 0 := by
    rw [full]
    decide
  refine ⟨(length_letters fits).trans full, ?_, ?_, ?_⟩
  · rw [length_lastLine_letters, full]
    decide
  · exact checked_lineCol_of_atLimit (List.append_nil _).symm (endsUnder_length _)
      (UInt32.le_refl _) (atLimit_letters fits full)
  · rw [lineCol_letters, wraps]

end Letters

/-- At the end of the longest text of letters, the column is one more than a word holds. -/
theorem lineCol_wraps :
    ∃ fits : UInt32.size - 1 < UInt32.size,
      (Example.letters (UInt32.size - 1) fits).length.toNat = UInt32.size - 1 ∧
      1 + (lastLine (Example.letters (UInt32.size - 1) fits).chars).length = UInt32.size ∧
      Checked.lineCol (Example.letters (UInt32.size - 1) fits)
        (Example.letters (UInt32.size - 1) fits).length = none ∧
      (Example.letters (UInt32.size - 1) fits).lineCol
        (Example.letters (UInt32.size - 1) fits).length = .ok ⟨1, 0⟩ :=
  ⟨by decide, lineCol_letters_of_full (by decide) rfl⟩

end Source

end ExprTree
