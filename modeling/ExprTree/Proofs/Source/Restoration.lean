/-
# ExprTree.Proofs.Source.Restoration — the text from its lines

The lines of a text are the parts that its line feeds divide it into (`LineTable.lines`), and
`lineText?` gives each of them without a carriage return at its end. So a text is restored from its
lines by giving back to each what ended it (`Source.RestoredBy`). For a line that another one
follows, this is a line feed, with or without a carriage return in front. Nothing ends the last
line, but a carriage return at its end is dropped there as well: it belongs to no terminator, and
the texts of the lines do not say that it was there.

Main statement: `Source.lines_restore`, with the condition under which nothing but terminators is
lost.
-/
import ExprTree.Proofs.Source.Lines
import Mathlib.Data.List.Count

namespace ExprTree

set_option autoImplicit false

open Text (length_le_byteLength)

namespace LineTable

/-! ## The parts between line feeds -/

/-- The lines of a text, without the line feeds between them. -/
def lines (chars : List Char) : List (List Char) :=
  chars.splitOn '\n'

theorem length_lines (chars : List Char) : (lines chars).length = chars.count '\n' + 1 := by
  induction chars with
  | nil => rfl
  | cons c rest ih =>
      rw [lines] at ih ⊢
      rw [List.splitOn_cons_eq_if_modifyHead]
      by_cases feed : c = '\n'
      · rw [if_pos (beq_iff_eq.2 feed), List.length_cons, ih, feed, List.count_cons_self]
      · rw [if_neg (by simpa using feed), List.length_modifyHead, ih, List.count_cons_of_ne feed]

/-- A line that begins a text is its first one. -/
theorem exists_lines_eq_cons {line after : List Char} (oneLine : '\n' ∉ line)
    (ends : ∀ c ∈ after.head?, c = '\n') : ∃ rest, lines (line ++ after) = line :: rest := by
  cases after with
  | nil => exact ⟨[], by rw [List.append_nil, lines, List.splitOn_eq_singleton oneLine]⟩
  | cons c after =>
      obtain rfl : c = '\n' := ends c rfl
      exact ⟨lines after, List.splitOn_append_cons_self_of_not_mem oneLine after⟩

/-- A line has the number of line feeds in front of it for its index. -/
theorem IsLine.getElem?_lines {before line after : List Char} (isLine : IsLine before line after) :
    (lines (before ++ (line ++ after)))[before.count '\n']? = some line := by
  obtain ⟨rest, first⟩ := exists_lines_eq_cons isLine.oneLine isLine.ends
  rcases List.eq_nil_or_concat' before with rfl | ⟨front, c, rfl⟩
  · rw [List.nil_append, first]
    rfl
  · obtain rfl : c = '\n' := isLine.begins c List.getLast?_concat
    have count : (front ++ ['\n']).count '\n' = (lines front).length := by
      rw [length_lines, List.count_append]
      rfl
    have divided : lines (front ++ ['\n'] ++ (line ++ after)) = lines front ++ line :: rest := by
      rw [← first, List.append_assoc]
      exact List.splitOn_append_cons_self front (line ++ after)
    rw [divided, count, List.getElem?_append_right (Nat.le_refl _), Nat.sub_self]
    rfl

theorem getElem?_lines_eq_some_iff {chars line : List Char} {index : Nat} :
    (lines chars)[index]? = some line ↔ ∃ before after, chars = before ++ (line ++ after) ∧
      IsLine before line after ∧ before.count '\n' = index := by
  constructor
  · intro stands
    obtain ⟨bound, -⟩ := List.getElem?_eq_some_iff.1 stands
    rw [length_lines] at bound
    obtain ⟨before, line', after, rfl, isLine, rfl⟩ := exists_isLine (Nat.le_of_lt_succ bound)
    obtain rfl : line' = line := Option.some.inj (isLine.getElem?_lines.symm.trans stands)
    exact ⟨before, after, rfl, isLine, rfl⟩
  · rintro ⟨before, after, rfl, isLine, rfl⟩
    exact isLine.getElem?_lines

theorem intercalate_concat (front : List (List Char)) (last : List Char) :
    ['\n'].intercalate (front ++ [last]) = (front.flatMap fun line => line ++ ['\n']) ++ last := by
  induction front with
  | nil => exact List.intercalate_singleton
  | cons line front ih =>
      rw [List.cons_append, List.intercalate_cons_of_ne_nil (by simp), ih, List.flatMap_cons]
      simp only [List.append_assoc]

/-- Line feeds between the lines give the text back. -/
theorem intercalate_lines (chars : List Char) : ['\n'].intercalate (lines chars) = chars :=
  List.intercalate_splitOn '\n'

theorem notMem_of_mem_lines {chars line : List Char} (member : line ∈ lines chars) :
    '\n' ∉ line := by
  obtain ⟨index, stands⟩ := List.getElem?_of_mem member
  obtain ⟨before, after, -, isLine, -⟩ := getElem?_lines_eq_some_iff.1 stands
  exact isLine.oneLine

/-- A line begins behind parts that all end with a line feed. -/
theorem begins_flatMap {α : Type} {part : α → List Char} {rows : List α}
    (ended : ∀ row ∈ rows, (part row).getLast? = some '\n') :
    ∀ c ∈ (rows.flatMap part).getLast?, c = '\n' := by
  rcases List.eq_nil_or_concat' rows with rfl | ⟨front, row, rfl⟩
  · exact nofun
  · intro c last
    rw [List.flatMap_append, List.flatMap_singleton, List.getLast?_append, ended row (by simp),
      Option.some_or] at last
    exact (Option.some.inj last).symm

/-- The last line stands behind all the others and their line feeds. -/
theorem exists_lines_eq_concat (chars : List Char) : ∃ front,
    lines chars = front ++ [lastLine chars] ∧
      chars = (front.flatMap fun line => line ++ ['\n']) ++ lastLine chars := by
  have whole := intercalate_lines chars
  rcases List.eq_nil_or_concat' (lines chars) with none | ⟨front, last, divided⟩
  · exact absurd none (List.splitOn_ne_nil '\n' chars)
  rw [divided, intercalate_concat] at whole
  have member : last ∈ lines chars := by simp [divided]
  have oneLine : '\n' ∉ last := notMem_of_mem_lines member
  have begins : ∀ c ∈ (front.flatMap fun line => line ++ ['\n']).getLast?, c = '\n' :=
    begins_flatMap fun _ _ => List.getLast?_concat
  have isLast : lastLine chars = last := by
    rw [← whole, lastLine_append oneLine, lastLine_of_begins begins, List.nil_append]
  rw [isLast]
  exact ⟨front, divided, whole.symm⟩

theorem notMem_lastLine (chars : List Char) : '\n' ∉ lastLine chars := by
  obtain ⟨front, divided, -⟩ := exists_lines_eq_concat chars
  have member : lastLine chars ∈ lines chars := by simp [divided]
  exact notMem_of_mem_lines member

end LineTable

open LineTable (lastLine lines)

namespace Source

/-! ## Carriage returns -/

/-- The carriage return at the end of a row of characters, if there is one. -/
def carriageReturn (chars : List Char) : List Char :=
  if chars.getLast? = some '\r' then ['\r'] else []

theorem carriageReturn_eq_nil_iff {chars : List Char} :
    carriageReturn chars = [] ↔ chars.getLast? ≠ some '\r' := by
  unfold carriageReturn
  split
  next last => simp [last]
  next other => simp [other]

theorem dropCarriageReturn_append_carriageReturn (line : List Char) :
    dropCarriageReturn line ++ carriageReturn line = line := by
  unfold dropCarriageReturn carriageReturn
  split
  next last => exact List.dropLast_append_getLast? '\r' last
  next => exact List.append_nil line

/-- A text ends with a carriage return exactly if its last line does. -/
theorem carriageReturn_lastLine (chars : List Char) :
    carriageReturn (lastLine chars) = carriageReturn chars := by
  obtain ⟨front, -, whole⟩ := LineTable.exists_lines_eq_concat chars
  have begins : ∀ c ∈ (front.flatMap fun line => line ++ ['\n']).getLast?, c = '\n' :=
    LineTable.begins_flatMap fun _ _ => List.getLast?_concat
  generalize lastLine chars = last at whole ⊢
  have same : last.getLast? = some '\r' ↔ chars.getLast? = some '\r' := by
    rw [whole, List.getLast?_append]
    cases last.getLast? with
    | some c => rw [Option.some_or]
    | none =>
        rw [Option.none_or]
        refine iff_of_false nofun fun carriage => ?_
        exact absurd (begins '\r' carriage) (by decide)
  simp only [carriageReturn, same]

/-! ## Lines with what ended them -/

/-- What ends a line that another one follows. -/
def terminators : List (List Char) :=
  [['\n'], ['\r', '\n']]

/-- The text is that of its lines one after the other, each with its ending: a terminator for the
lines that another one follows, and the given characters for the last line. -/
structure RestoredBy (source : Source) (ending : List Char) (rows : List (List Char × List Char)) :
    Prop where
  count : rows.length = source.lineCount
  text : ∀ (index : Nat) (number : UInt32), number.toNat = index + 1 →
    source.lineText? number = rows[index]?.map fun row => String.ofList row.1
  ended : ∀ row ∈ rows.dropLast, row.2 ∈ terminators
  unended : ∀ row ∈ rows.getLast?, row.2 = ending
  whole : source.chars = rows.flatMap fun row => row.1 ++ row.2

/-- A line begins behind lines that terminators end. -/
theorem begins_of_ended {rows : List (List Char × List Char)}
    (ended : ∀ row ∈ rows, row.2 ∈ terminators) :
    ∀ c ∈ (rows.flatMap fun row => row.1 ++ row.2).getLast?, c = '\n' := by
  refine LineTable.begins_flatMap fun row member => ?_
  have known := ended row member
  simp only [terminators, List.mem_cons, List.not_mem_nil, or_false] at known
  rw [List.getLast?_append]
  rcases known with feed | feed
  · rw [feed]
    rfl
  · rw [feed]
    rfl

theorem carriageReturn_append_mem (line : List Char) :
    carriageReturn line ++ ['\n'] ∈ terminators := by
  unfold carriageReturn
  split <;> decide

variable {source : Source}

/-- The texts of the lines by their indices. -/
theorem lineText?_eq_getElem? {index : Nat} {number : UInt32} (counted : number.toNat = index + 1) :
    source.lineText? number =
      (lines source.chars)[index]?.map fun line => String.ofList (dropCarriageReturn line) := by
  ext text
  rw [lineText?_eq_some_iff, Option.map_eq_some_iff]
  constructor
  · rintro ⟨before, line, after, split, isLine, counted', rfl⟩
    have same : before.count '\n' = index := by omega
    exact ⟨line, LineTable.getElem?_lines_eq_some_iff.2 ⟨before, after, split, isLine, same⟩, rfl⟩
  · rintro ⟨line, stands, rfl⟩
    obtain ⟨before, after, split, isLine, rfl⟩ := LineTable.getElem?_lines_eq_some_iff.1 stands
    exact ⟨before, line, after, split, isLine, counted, rfl⟩

theorem lineCount_eq (source : Source) : source.lineCount = source.chars.count '\n' + 1 :=
  LineTable.size_starts source.chars

/-- The text of the last line, if that line has a number. -/
theorem lineText?_lineCount {number : UInt32} (counted : number.toNat = source.lineCount) :
    source.lineText? number =
      some (String.ofList (dropCarriageReturn (lastLine source.chars))) := by
  obtain ⟨front, divided, -⟩ := LineTable.exists_lines_eq_concat source.chars
  have index : number.toNat = front.length + 1 := by
    rw [counted, lineCount_eq, ← LineTable.length_lines, divided, List.length_append]
    rfl
  rw [lineText?_eq_getElem? index, divided, List.getElem?_concat_length, Option.map_some]

/-- Every text is restored, its last line by the carriage return that was dropped there. -/
theorem exists_restoredBy (source : Source) :
    ∃ rows, source.RestoredBy (carriageReturn source.chars) rows := by
  obtain ⟨front, divided, whole⟩ := LineTable.exists_lines_eq_concat source.chars
  rw [← carriageReturn_lastLine]
  generalize lastLine source.chars = last at divided whole ⊢
  let rows := front.map fun line => (dropCarriageReturn line, carriageReturn line ++ ['\n'])
  refine ⟨rows ++ [(dropCarriageReturn last, carriageReturn last)], ?_, ?_, ?_, ?_, ?_⟩
  · rw [lineCount_eq, ← LineTable.length_lines, divided]
    simp [rows]
  · intro index number counted
    rw [lineText?_eq_getElem? counted, divided, ← List.getElem?_map, ← List.getElem?_map]
    simp [rows, Function.comp_def]
  · rw [List.dropLast_concat]
    intro row member
    obtain ⟨line, -, rfl⟩ := List.mem_map.1 member
    exact carriageReturn_append_mem line
  · rw [List.getLast?_concat]
    rintro _ ⟨⟩
    rfl
  · rw [whole, List.flatMap_append, List.flatMap_singleton, List.flatMap_map,
      dropCarriageReturn_append_carriageReturn]
    simp only [← List.append_assoc, dropCarriageReturn_append_carriageReturn]

/-- What ends the last line is what its text lacks, if the last line has a number. -/
theorem RestoredBy.ending_eq {ending : List Char} {rows : List (List Char × List Char)}
    (restored : source.RestoredBy ending rows) (numbered : source.lineCount < UInt32.size)
    (oneLine : '\n' ∉ ending) : ending = carriageReturn source.chars := by
  obtain ⟨count, text, ended, unended, whole⟩ := restored
  rcases List.eq_nil_or_concat' rows with rfl | ⟨others, ⟨line, ending'⟩, rfl⟩
  · rw [lineCount_eq] at count
    cases count
  rw [List.dropLast_concat] at ended
  obtain rfl : ending' = ending := unended (line, ending') List.getLast?_concat
  rw [List.flatMap_append, List.flatMap_singleton] at whole
  have counted : (UInt32.ofNatLT source.lineCount numbered).toNat = source.lineCount :=
    UInt32.toNat_ofNatLT
  have line_eq : line = dropCarriageReturn (lastLine source.chars) := by
    have index : source.lineCount = others.length + 1 := by simp [← count]
    have texts := (text _ _ (counted.trans index)).symm.trans (lineText?_lineCount counted)
    rw [List.getElem?_concat_length, Option.map_some] at texts
    exact String.ofList_injective (Option.some.inj texts)
  have inLine : '\n' ∉ line ++ ending' := by
    rw [List.mem_append, not_or, line_eq]
    exact ⟨fun feed => LineTable.notMem_lastLine _ ((dropCarriageReturn_isPrefix _).mem feed),
      oneLine⟩
  have last : lastLine source.chars = line ++ ending' := by
    rw [whole, LineTable.lastLine_append inLine,
      LineTable.lastLine_of_begins (begins_of_ended ended), List.nil_append]
  rw [line_eq] at last
  rw [← carriageReturn_lastLine]
  refine List.append_cancel_left (last.symm.trans ?_)
  exact (dropCarriageReturn_append_carriageReturn _).symm

/-- **Lines are lost nowhere, and characters only at the end.** Exactly the numbers from one to the
line count have a line, and no line has a line feed in its text. Every text is restored from its
lines, if the carriage return that its last line may end with is given back to that line.
Terminators alone restore it, with nothing behind the last line, exactly if the text does not end
with a carriage return. -/
theorem lines_restore (source : Source) :
    (∀ number, (source.lineText? number).isSome = true ↔
      1 ≤ number.toNat ∧ number.toNat ≤ source.lineCount) ∧
    (∀ number text, source.lineText? number = some text → '\n' ∉ text.toList) ∧
    (∃ rows, source.RestoredBy (carriageReturn source.chars) rows) ∧
    ((∃ rows, source.RestoredBy [] rows) ↔ source.chars.getLast? ≠ some '\r') := by
  refine ⟨fun number => ?_, fun number text found => ?_, source.exists_restoredBy, ?_, ?_⟩
  · cases counted : number.toNat with
    | zero =>
        obtain rfl : number = 0 := UInt32.toNat_inj.1 counted
        simp [lineText?]
    | succ index =>
        rw [lineText?_eq_getElem? counted, Option.isSome_map, isSome_getElem?,
          LineTable.length_lines, ← lineCount_eq]
        omega
  · obtain ⟨before, line, after, -, isLine, -, rfl⟩ := lineText?_eq_some_iff.1 found
    rw [String.toList_ofList]
    exact fun feed => isLine.oneLine ((dropCarriageReturn_isPrefix line).mem feed)
  · rintro ⟨rows, restored⟩ last
    have numbered : source.lineCount < UInt32.size := by
      have fits := source.fits_chars
      have feeds : source.chars.count '\n' < source.chars.length :=
        List.countP_lt_length_iff.2 ⟨'\r', List.mem_of_getLast? last, by decide⟩
      have long := length_le_byteLength source.chars
      rw [lineCount_eq]
      omega
    have none := restored.ending_eq numbered List.not_mem_nil
    exact carriageReturn_eq_nil_iff.1 none.symm last
  · intro other
    rw [← carriageReturn_eq_nil_iff.2 other]
    exact source.exists_restoredBy

namespace Example

/-- Two lines, the first of which ends with both characters. -/
def twoLines : Source :=
  ⟨0, "two lines", "a\r\nb", by decide⟩

end Example

/-- Two lines are restored by the terminator between them. -/
theorem lines_restore_twoLines :
    Example.twoLines.lineText? 1 = some "a" ∧ '\n' ∉ "a".toList ∧
      ∃ rows, Example.twoLines.RestoredBy [] rows := by
  have text : Example.twoLines.lineText? 1 = some "a" := by decide +kernel
  have restored := (lines_restore Example.twoLines).2.2.2.2 (by decide)
  exact ⟨text, (lines_restore Example.twoLines).2.1 1 "a" text, restored⟩

/-! ### A carriage return at the end -/

namespace Example

/-- One character, which ends no line and is not in the text of its line. -/
def loneReturn : Source :=
  ⟨0, "lone return", "\r", by decide⟩

end Example

/-- Terminators do not restore a lone carriage return: its only line has no text. -/
theorem not_restoredBy_loneReturn :
    Example.loneReturn.lineCount = 1 ∧ Example.loneReturn.lineText? 1 = some "" ∧
      ¬ ∃ rows, Example.loneReturn.RestoredBy [] rows := by
  refine ⟨by decide +kernel, by decide +kernel, ?_⟩
  rintro ⟨rows, restored⟩
  have none := restored.ending_eq (by decide +kernel) List.not_mem_nil
  exact absurd none (by decide +kernel)

end Source

end ExprTree
