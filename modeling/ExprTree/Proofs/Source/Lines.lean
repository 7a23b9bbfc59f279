/-
# ExprTree.Proofs.Source.Lines — the characters of the lines

A line stands behind a line feed, or at the start, and ends before the next line feed, or at the end
(`LineTable.IsLine`). The entries of a line table enclose the lines of the text, so `lineText?`
gives the lines one after the other, each without a carriage return at its end
(`Source.lineText?_eq_some_iff`). On the other side, a position counts the line feeds and the
characters of the last line in front of an offset. The two agree on where a character stands,
because the characters in front of one in a line are the lines before it and a part of that line
(`Source.follows_append`).

Main statement: `Source.lineText?_lineCol`.
-/
import ExprTree.Proofs.Source.Order

namespace ExprTree

set_option autoImplicit false

open Text (byteLength byteLength_append isBoundary charAt?)

namespace LineTable

/-! ## Lines -/

/-- `line` is a whole line of the text `before ++ (line ++ after)`. -/
structure IsLine (before line after : List Char) : Prop where
  begins : ∀ c ∈ before.getLast?, c = '\n'
  oneLine : '\n' ∉ line
  ends : ∀ c ∈ after.head?, c = '\n'

/-- Every text begins with a line, up to its first line feed. -/
theorem exists_firstLine (chars : List Char) :
    ∃ line after, chars = line ++ after ∧ '\n' ∉ line ∧ ∀ c ∈ after.head?, c = '\n' := by
  refine ⟨chars.takeWhile (· != '\n'), chars.dropWhile (· != '\n'),
    List.takeWhile_append_dropWhile.symm, ?_, ?_⟩
  · intro feed
    have kept := List.mem_takeWhile_imp feed
    simp at kept
  · intro c first
    have stops := List.head?_dropWhile_not (· != '\n') chars
    rw [Option.mem_def.1 first] at stops
    simpa using stops

/-- There is a line behind every number of line feeds that the text has. -/
theorem exists_isLine {chars : List Char} {index : Nat} (enough : index ≤ chars.count '\n') :
    ∃ before line after, chars = before ++ (line ++ after) ∧ IsLine before line after ∧
      before.count '\n' = index := by
  induction index with
  | zero =>
      obtain ⟨line, after, split, oneLine, ends⟩ := exists_firstLine chars
      exact ⟨[], line, after, split, ⟨by simp, oneLine, ends⟩, rfl⟩
  | succ index ih =>
      obtain ⟨before, line, after, rfl, isLine, rfl⟩ := ih (Nat.le_of_succ_le enough)
      rw [List.count_append, List.count_append, List.count_eq_zero_of_not_mem isLine.oneLine]
        at enough
      cases after with
      | nil =>
          rw [List.count_nil] at enough
          omega
      | cons c after =>
          obtain rfl : c = '\n' := isLine.ends c rfl
          obtain ⟨line', after', rfl, oneLine', ends'⟩ := exists_firstLine after
          refine ⟨before ++ (line ++ ['\n']), line', after', by simp,
            ⟨by simp, oneLine', ends'⟩, ?_⟩
          rw [List.count_append, List.count_append, List.count_eq_zero_of_not_mem isLine.oneLine]
          rfl

theorem untilLastLine_of_begins {before : List Char} (begins : ∀ c ∈ before.getLast?, c = '\n') :
    untilLastLine before = before := by
  refine List.rdropWhile_eq_self_iff.2 fun nonempty => ?_
  rw [begins _ (List.getLast?_eq_some_getLast nonempty)]
  decide

theorem lastLine_of_begins {before : List Char} (begins : ∀ c ∈ before.getLast?, c = '\n') :
    lastLine before = [] := by
  have whole := untilLastLine_append_lastLine before
  rw [untilLastLine_of_begins begins] at whole
  exact List.append_right_eq_self.1 whole

namespace IsLine

variable {before line after : List Char}

/-- The table has an entry for the line, at the place behind `before`. -/
theorem getElem?_starts (isLine : IsLine before line after)
    (fits : byteLength (before ++ (line ++ after)) < UInt32.size) :
    ∃ start, (ofChars (before ++ (line ++ after))).starts[before.count '\n']? = some start ∧
      start.toNat = byteLength before := by
  obtain ⟨start, entry, place⟩ := LineTable.getElem?_starts fits
  rw [untilLastLine_of_begins isLine.begins] at place
  exact ⟨start, entry, place⟩

/-- The next entry is the place behind the line feed that ends the line, if one does. -/
theorem getElem?_starts_succ (isLine : IsLine before line after)
    (fits : byteLength (before ++ (line ++ after)) < UInt32.size) :
    after = [] ∧ (ofChars (before ++ (line ++ after))).starts[before.count '\n' + 1]? = none ∨
      ∃ next, (ofChars (before ++ (line ++ after))).starts[before.count '\n' + 1]? = some next ∧
        next.toNat = byteLength before + byteLength line + 1 := by
  have none := List.count_eq_zero_of_not_mem isLine.oneLine
  cases after with
  | nil =>
      refine .inl ⟨rfl, Array.getElem?_eq_none ?_⟩
      rw [size_starts, List.append_nil, List.count_append, none]
  | cons c after =>
      obtain rfl : c = '\n' := isLine.ends c rfl
      have whole : before ++ (line ++ '\n' :: after) = (before ++ line ++ ['\n']) ++ after := by
        simp
      have count : (before ++ line ++ ['\n']).count '\n' = before.count '\n' + 1 := by
        rw [List.count_append, List.count_append, none]
        rfl
      rw [whole] at fits
      obtain ⟨next, entry, place⟩ := LineTable.getElem?_starts fits
      rw [count, ← whole] at entry
      rw [untilLastLine_concat, if_pos rfl, byteLength_append, byteLength_append] at place
      exact .inr ⟨next, entry, place⟩

end IsLine

end LineTable

open LineTable (IsLine)

namespace Source

variable {source : Source}

/-- The entries of the table between which a line stands: its own, and the next one or the end of
the text. -/
theorem exists_entries_of_isLine {before line after : List Char}
    (split : source.chars = before ++ (line ++ after)) (isLine : IsLine before line after) :
    ∃ start, source.lineTable.starts[before.count '\n']? = some start ∧
      start.toNat = byteLength before ∧
      (source.lineTable.starts[before.count '\n' + 1]? = none ∧
          source.text.utf8ByteSize = byteLength before + byteLength line ∨
        ∃ next, source.lineTable.starts[before.count '\n' + 1]? = some next ∧
          next.toNat = byteLength before + byteLength line + 1) := by
  have fits := source.fits_chars
  rw [split] at fits
  rw [lineTable, split]
  obtain ⟨start, entry, place⟩ := isLine.getElem?_starts fits
  refine ⟨start, entry, place, (isLine.getElem?_starts_succ fits).imp_left ?_⟩
  rintro ⟨rfl, none⟩
  refine ⟨none, ?_⟩
  rw [← Text.byteLength_toList, ← chars, split, List.append_nil, byteLength_append]

/-- The text of a line, by its number. -/
theorem lineText?_of_isLine {before line after : List Char} {number : UInt32}
    (split : source.chars = before ++ (line ++ after)) (isLine : IsLine before line after)
    (counted : number.toNat = before.count '\n' + 1) :
    source.lineText? number = some (String.ofList (dropCarriageReturn line)) := by
  have notZero : number ≠ 0 := by
    rintro rfl
    exact absurd counted (Nat.succ_ne_zero _).symm
  have index : number.toNat - 1 = before.count '\n' := by omega
  obtain ⟨start, entry, place, ending⟩ := exists_entries_of_isLine split isLine
  have slice {stop : Nat} (upTo : stop = byteLength before + byteLength line) :
      Text.slice? source.chars start.toNat stop = some line :=
    Text.slice?_eq_some_iff.2 ⟨before, after, split, place.symm, by omega⟩
  rcases ending with ⟨none, whole⟩ | ⟨next, entry', place'⟩
  · simp only [lineText?, if_neg notZero, index, entry, none, Option.bind_eq_bind,
      Option.bind_some, slice whole, pure]
  · have upTo : next.toNat - 1 = byteLength before + byteLength line := by omega
    simp only [lineText?, if_neg notZero, index, entry, entry', Option.bind_eq_bind,
      Option.bind_some, slice upTo, pure]

/-- The texts of lines are the lines, each without a carriage return at its end. -/
theorem lineText?_eq_some_iff {number : UInt32} {text : String} :
    source.lineText? number = some text ↔
      ∃ before line after, source.chars = before ++ (line ++ after) ∧ IsLine before line after ∧
        number.toNat = before.count '\n' + 1 ∧ text = String.ofList (dropCarriageReturn line) := by
  constructor
  · intro found
    have counted : number.toNat ≠ 0 ∧ number.toNat - 1 ≤ source.chars.count '\n' := by
      have unfolded := found
      simp only [lineText?, Option.ite_none_left_eq_some, Option.bind_eq_bind,
        Option.bind_eq_some_iff] at unfolded
      obtain ⟨notZero, start, entry, -⟩ := unfolded
      obtain ⟨bound, -⟩ := Array.getElem?_eq_some_iff.1 entry
      rw [lineTable, LineTable.size_starts] at bound
      refine ⟨fun zero => notZero (UInt32.toNat_inj.1 zero), by omega⟩
    obtain ⟨before, line, after, split, isLine, count⟩ := LineTable.exists_isLine counted.2
    have number' : number.toNat = before.count '\n' + 1 := by omega
    have again := lineText?_of_isLine split isLine number'
    exact ⟨before, line, after, split, isLine, number', Option.some.inj (found.symm.trans again)⟩
  · rintro ⟨before, line, after, split, isLine, counted, rfl⟩
    exact lineText?_of_isLine split isLine counted

/-! ## Carriage returns -/

theorem dropCarriageReturn_isPrefix (line : List Char) : dropCarriageReturn line <+: line := by
  unfold dropCarriageReturn
  split
  · exact List.dropLast_prefix line
  · exact List.prefix_rfl

/-- Only a carriage return is dropped. -/
theorem getElem?_dropCarriageReturn {chars : List Char} {index : Nat} {c : Char}
    (stands : chars[index]? = some c) (other : c ≠ '\r') :
    (dropCarriageReturn chars)[index]? = some c := by
  unfold dropCarriageReturn
  split
  next last =>
    obtain ⟨bound, -⟩ := List.getElem?_eq_some_iff.1 stands
    have notLast : index ≠ chars.length - 1 := by
      rintro rfl
      rw [List.getLast?_eq_getElem?, stands] at last
      exact other (Option.some.inj last)
    rw [List.getElem?_dropLast, if_pos (by omega), stands]
  next => exact stands

/-- What stands at an index of a leading part stands there in the whole. -/
theorem exists_split_of_isPrefix {part whole : List Char} {index : Nat} {c : Char}
    (leading : part <+: whole) (stands : part[index]? = some c) :
    ∃ front back, whole = front ++ c :: back ∧ front.length = index := by
  obtain ⟨bound, entry⟩ := List.getElem?_eq_some_iff.1 stands
  obtain ⟨more, rfl⟩ := leading
  refine ⟨part.take index, part.drop (index + 1) ++ more, ?_, ?_⟩
  · have rest := List.drop_eq_getElem_cons bound
    rw [entry] at rest
    rw [← List.cons_append, ← rest, ← List.append_assoc, List.take_append_drop]
  · rw [List.length_take]
    omega

/-! ## Positions in lines -/

/-- The character in a column of a line, the columns being counted from one. -/
def columnChar? (line : String) (column : Nat) : Option Char :=
  if column = 0 then none else line.toList[column - 1]?

theorem columnChar?_succ (chars : List Char) (index : Nat) :
    columnChar? (String.ofList chars) (index + 1) = chars[index]? := by
  rw [columnChar?, if_neg (Nat.succ_ne_zero index), String.toList_ofList, Nat.add_sub_cancel]

def StandsAt (source : Source) (offset : Offset) (line : UInt32) (column : Nat) : Prop :=
  ∃ position, source.lineCol offset = .ok position ∧ position.line = line ∧
    position.column.toNat = column

/-- In front of a character of a line stand the lines before it and a part of that line. -/
theorem follows_append {before part : List Char} {position : LineCol}
    (begins : ∀ c ∈ before.getLast?, c = '\n') (oneLine : '\n' ∉ part) :
    position.Follows (before ++ part) ↔
      position.line.toNat = before.count '\n' + 1 ∧ position.column.toNat = part.length + 1 := by
  rw [LineCol.Follows, List.count_append, List.count_eq_zero_of_not_mem oneLine,
    LineTable.lastLine_append oneLine, LineTable.lastLine_of_begins begins, List.nil_append]

/-- Every character stands in a line, behind a part of it. -/
theorem exists_isLine_of_split {before after : List Char} {c : Char} (other : c ≠ '\n') :
    ∃ front part rest behind, before = front ++ part ∧ after = rest ++ behind ∧
      IsLine front (part ++ c :: rest) behind := by
  obtain ⟨rest, behind, split, oneLine, ends⟩ := LineTable.exists_firstLine after
  have enough : before.count '\n' ≤ before.count '\n' := Nat.le_refl _
  obtain ⟨front, part, behind', split', isLine, count⟩ := LineTable.exists_isLine enough
  -- All line feeds stand in front of the last line, so nothing stands behind it.
  obtain rfl : behind' = [] := by
    cases behind' with
    | nil => rfl
    | cons d behind' =>
        obtain rfl : d = '\n' := isLine.ends d rfl
        rw [split', List.count_append, List.count_append, List.count_cons_self] at count
        omega
  rw [List.append_nil] at split'
  refine ⟨front, part, rest, behind, split', split, isLine.begins, ?_, ends⟩
  simp [isLine.oneLine, oneLine, Ne.symm other]

/-- The offset of a character is that of a boundary, and its position follows what stands in front
of the character. -/
theorem exists_lineCol_of_charAt? (short : source.text.utf8ByteSize + 1 < UInt32.size)
    {before after : List Char} {c : Char} {offset : Offset}
    (split : source.chars = before ++ c :: after) (place : byteLength before = offset.toNat) :
    isBoundary source.chars offset.toNat = true ∧
      ∃ position, source.lineCol offset = .ok position ∧ position.Follows before := by
  have boundary : isBoundary source.chars offset.toNat = true :=
    Text.isBoundary_eq_true_iff.2 ⟨before, _, split, place⟩
  obtain ⟨position, found, follows⟩ := exists_lineCol short (le_length_of_isBoundary boundary)
  rw [split, ← place, Text.takeBytes_eq_iff.2 (Text.endsUnder_byteLength _ _)] at follows
  exact ⟨boundary, position, found, follows⟩

/-- A character of the text begins at some offset. -/
theorem exists_offset {before after : List Char} {c : Char}
    (split : source.chars = before ++ c :: after) :
    ∃ offset : Offset, byteLength before = offset.toNat := by
  have fits := source.fits_chars
  rw [split, byteLength_append] at fits
  exact ⟨.ofNatLT (byteLength before) (by omega), UInt32.toNat_ofNatLT.symm⟩

theorem StandsAt.unique (short : source.text.utf8ByteSize + 1 < UInt32.size)
    {offset offset' : Offset} {line : UInt32} {column : Nat}
    (boundary : isBoundary source.chars offset.toNat = true)
    (boundary' : isBoundary source.chars offset'.toNat = true)
    (stands : source.StandsAt offset line column) (stands' : source.StandsAt offset' line column) :
    offset = offset' := by
  obtain ⟨⟨_, column⟩, found, rfl, rfl⟩ := stands
  obtain ⟨⟨_, column'⟩, found', rfl, columns⟩ := stands'
  obtain rfl : column' = column := UInt32.toNat_inj.1 columns
  exact lineCol_injOn short boundary boundary' (found.trans found'.symm)

/-- **Lines and positions agree on the characters.** A character that ends no line stands in the
line and the column of its position. And every character of a line's text stands at one boundary of
the source, the only one that has that line and that column for its position. -/
theorem lineText?_lineCol (short : source.text.utf8ByteSize < UInt32.size - 1) :
    (∀ (offset : Offset) (c : Char), charAt? source.chars offset.toNat = some c →
      c ≠ '\n' → c ≠ '\r' →
        ∃ position text, source.lineCol offset = .ok position ∧
          source.lineText? position.line = some text ∧
          columnChar? text position.column.toNat = some c) ∧
    ∀ (line : UInt32) (column : Nat) (text : String) (c : Char),
      source.lineText? line = some text → columnChar? text column = some c →
        ∃ offset, charAt? source.chars offset.toNat = some c ∧ source.StandsAt offset line column ∧
          ∀ offset' : Offset, isBoundary source.chars offset'.toNat = true →
            source.StandsAt offset' line column → offset' = offset := by
  have room : source.text.utf8ByteSize + 1 < UInt32.size := Nat.add_lt_of_lt_sub short
  constructor
  · intro offset c stands notFeed notReturn
    obtain ⟨before, after, split, place⟩ := Text.charAt?_eq_some_iff.1 stands
    obtain ⟨-, position, found, follows⟩ := exists_lineCol_of_charAt? room split place
    obtain ⟨front, part, rest, behind, rfl, rfl, isLine⟩ :=
      @exists_isLine_of_split before after c notFeed
    have oneLine : '\n' ∉ part := fun feed => isLine.oneLine (List.mem_append_left _ feed)
    obtain ⟨line, column⟩ := (follows_append isLine.begins oneLine).1 follows
    have whole : source.chars = front ++ ((part ++ c :: rest) ++ behind) := by simp [split]
    refine ⟨position, _, found, lineText?_of_isLine whole isLine line, ?_⟩
    rw [column, columnChar?_succ]
    exact getElem?_dropCarriageReturn (by simp) notReturn
  · intro line column text c found stands
    obtain ⟨before, whole, after, split, isLine, counted, rfl⟩ := lineText?_eq_some_iff.1 found
    cases column with
    | zero => cases stands
    | succ index =>
        rw [columnChar?_succ] at stands
        obtain ⟨part, rest, rfl, rfl⟩ :=
          exists_split_of_isPrefix (dropCarriageReturn_isPrefix _) stands
        have split' : source.chars = (before ++ part) ++ c :: (rest ++ after) := by simp [split]
        obtain ⟨offset, place⟩ := exists_offset split'
        obtain ⟨boundary, position, found', follows⟩ := exists_lineCol_of_charAt? room split' place
        have oneLine : '\n' ∉ part := fun feed => isLine.oneLine (List.mem_append_left _ feed)
        obtain ⟨line', column'⟩ := (follows_append isLine.begins oneLine).1 follows
        have standsAt : source.StandsAt offset line (part.length + 1) :=
          ⟨position, found', UInt32.toNat_inj.1 (line'.trans counted.symm), column'⟩
        refine ⟨offset, Text.charAt?_eq_some_iff.2 ⟨_, _, split', place⟩, standsAt, ?_⟩
        intro offset' boundary' standsAt'
        exact standsAt'.unique room boundary' boundary standsAt

/-! ### Carriage returns -/

namespace Example

/-- A line that ends in a carriage return, an empty line, and one that begins with a carriage return
and is not ended. -/
def carriage : Source :=
  ⟨0, "carriage", "é\r\n\n\rx😀", by decide⟩

end Example

theorem lineText?_lineCol_carriage :
    Example.carriage.text.utf8ByteSize < UInt32.size - 1 ∧
      (charAt? Example.carriage.chars (7 : Offset).toNat = some '😀' ∧
        ∃ position text, Example.carriage.lineCol 7 = .ok position ∧
          Example.carriage.lineText? position.line = some text ∧
          columnChar? text position.column.toNat = some '😀') ∧
      Example.carriage.lineText? 1 = some "é" ∧
      Example.carriage.lineText? 3 = some "\rx😀" ∧ columnChar? "\rx😀" 1 = some '\r' ∧
      ∃ offset, charAt? Example.carriage.chars offset.toNat = some '\r' ∧
        Example.carriage.StandsAt offset 3 1 ∧
        ∀ offset' : Offset, isBoundary Example.carriage.chars offset'.toNat = true →
          Example.carriage.StandsAt offset' 3 1 → offset' = offset := by
  have short : Example.carriage.text.utf8ByteSize < UInt32.size - 1 := by decide
  have stands : charAt? Example.carriage.chars (7 : Offset).toNat = some '😀' := by decide +kernel
  have third : Example.carriage.lineText? 3 = some "\rx😀" := by decide +kernel
  have column : columnChar? "\rx😀" 1 = some '\r' := by decide +kernel
  obtain ⟨inLine, atPosition⟩ := lineText?_lineCol short
  exact ⟨short, ⟨stands, inLine 7 '😀' stands (by decide) (by decide)⟩, by decide +kernel, third,
    column, atPosition 3 1 _ _ third column⟩

end Source

end ExprTree
