/-
# ExprTree.Proofs.Literal.Escapes — what a backslash begins

`BeginsEscape` says of the text behind a backslash that the two together begin an escape, as a
reader sees it who knows the escapes and nothing of pieces. Reading goes by the longest piece, and a
backslash that begins no escape is a piece of its own, the character after it another. Both views
agree in what they accept: the characters of an escape behind the second one are ordinary, and so is
the character after a backslash that begins none. `Piece.Formed` says this and all else that is
known of a piece, given what follows it (`Piece.formed_of_next?`).

Main statement: `bodyReads_escape_iff`, a backslash and the character after it are read
exactly if they begin an escape, which a raw literal does not ask for, and what follows that
character is read.
-/
import ExprTree.Proofs.Literal.Quoting

namespace ExprTree

set_option autoImplicit false

open Text (digitValue? isDigitIn numeralValue)

/-! ## Leading digits -/

/-- The longest row of characters of a sort, but no more than so many, that begins a text. -/
def LeadingRow (sort : Char → Bool) (most : Nat) (row rest : List Char) : Prop :=
  (∀ c ∈ row, sort c = true) ∧
    (row.length = most ∨ row.length < most ∧ ∀ c ∈ rest.head?, sort c = false)

theorem LeadingRow.takeWhile_take {sort : Char → Bool} {most : Nat} {row rest : List Char}
    (leading : LeadingRow sort most row rest) : ((row ++ rest).take most).takeWhile sort = row := by
  obtain ⟨all, full | ⟨short, stops⟩⟩ := leading
  · rw [List.take_left' full, List.takeWhile_eq_self_iff]
    exact all
  · have enough : row.length ≤ most := Nat.le_of_lt short
    rw [List.take_append, List.take_of_length_le enough, List.takeWhile_append_of_pos all]
    cases rest with
    | nil => simp
    | cons c rest =>
        have more : most - row.length = (most - row.length - 1) + 1 := by omega
        rw [more, List.take_succ_cons, List.takeWhile_cons_of_neg (by simp [stops c rfl]),
          List.append_nil]

/-- Every text begins with a longest row, the one that reading takes. -/
theorem leadingRow_takeWhile_take (sort : Char → Bool) (most : Nat) (text : List Char) :
    LeadingRow sort most ((text.take most).takeWhile sort)
      (text.drop ((text.take most).takeWhile sort).length) := by
  induction text generalizing most with
  | nil => cases most <;> simp [LeadingRow]
  | cons c text ih =>
      cases most with
      | zero => simp [LeadingRow]
      | succ most =>
          rw [List.take_succ_cons]
          by_cases fits : sort c = true
          · obtain ⟨all, long⟩ := ih most
            rw [List.takeWhile_cons_of_pos fits]
            refine ⟨List.forall_mem_cons.2 ⟨fits, all⟩, ?_⟩
            simpa using long
          · rw [List.takeWhile_cons_of_neg fits]
            simp [LeadingRow, fits]

theorem takeWhile_take_append_drop (sort : Char → Bool) (most : Nat) (text : List Char) :
    (text.take most).takeWhile sort ++ text.drop ((text.take most).takeWhile sort).length = text :=
  Piece.append_drop_of_leading ((List.takeWhile_prefix sort).trans (List.take_prefix most text))

/-! ## Escapes -/

/-- The text begins with a number of so many hexadecimal digits, an admitted one. -/
def BeginsHex (count : Nat) (admitted : Nat → Prop) (text : List Char) : Prop :=
  ∃ digits rest, text = digits ++ rest ∧ digits.length = count ∧
    (∀ c ∈ digits, isDigitIn 16 c = true) ∧ admitted (numeralValue 16 digits)

/-- The longest row of up to three octal digits that begins the text is the number of an ASCII
character. -/
def BeginsOctal (text : List Char) : Prop :=
  ∃ digits rest, text = digits ++ rest ∧ LeadingRow (isDigitIn 8) 3 digits rest ∧ digits ≠ [] ∧
    numeralValue 8 digits ≤ 0x7F

def simpleMarks : List Char :=
  ['a', 'b', 'f', 'n', 'r', 't', 'v', '\\', '\'', '"']

/-- A backslash before the text begins an escape: of the line, of a character by its mark, of an
ASCII character by its octal number or by two hexadecimal digits, or of any character by four or
eight. -/
def BeginsEscape : List Char → Prop
  | [] => False
  | c :: rest =>
      c = '\n' ∨ c ∈ simpleMarks ∨ BeginsOctal (c :: rest) ∨
        c = 'x' ∧ BeginsHex 2 (· ≤ 0x7F) rest ∨
        c = 'u' ∧ BeginsHex 4 Nat.isValidChar rest ∨
        c = 'U' ∧ BeginsHex 8 Nat.isValidChar rest

theorem isSome_simpleEscape? (c : Char) : (simpleEscape? c).isSome ↔ c ∈ simpleMarks := by
  constructor
  · intro known
    unfold simpleEscape? at known
    split at known <;> simp_all [simpleMarks]
  · have known : simpleMarks.all (fun mark => (simpleEscape? mark).isSome) = true := by decide
    exact List.all_eq_true.1 known c

/-- Neither a backslash nor a quote nor a line feed. -/
def IsOrdinary (c : Char) : Prop :=
  c ≠ '\\' ∧ c ≠ '\n' ∧ ¬ IsQuote c

instance (c : Char) : Decidable (IsOrdinary c) :=
  inferInstanceAs (Decidable (_ ∧ _ ∧ _))

theorem isOrdinary_of_isDigitIn {radix : Nat} {c : Char} (digit : isDigitIn radix c = true) :
    IsOrdinary c := by
  refine ⟨?_, ?_, ?_⟩
  · rintro rfl
    cases digit
  · rintro rfl
    cases digit
  · rintro (rfl | rfl) <;> cases digit

/-- Octal digits are no other mark of an escape. -/
theorem beginsEscape_octal_iff {c : Char} (digit : isDigitIn 8 c = true) (rest : List Char) :
    BeginsEscape (c :: rest) ↔
      numeralValue 8 (((c :: rest).take 3).takeWhile (isDigitIn 8)) ≤ 0x7F := by
  have others : ∀ mark ∈ ['\n', 'x', 'u', 'U'] ++ simpleMarks, c ≠ mark := by
    have noDigit : (['\n', 'x', 'u', 'U'] ++ simpleMarks).any (isDigitIn 8) = false := by decide
    rintro mark member rfl
    exact List.any_eq_false.1 noDigit c member digit
  have notSimple : c ∉ simpleMarks := fun member => others c (by simp [member]) rfl
  simp only [BeginsEscape, others _ (by decide : '\n' ∈ _), others _ (by decide : 'x' ∈ _),
    others _ (by decide : 'u' ∈ _), others _ (by decide : 'U' ∈ _), notSimple, false_or, false_and,
    or_false]
  constructor
  · rintro ⟨digits, after, spelled, leading, -, ascii⟩
    rw [spelled, leading.takeWhile_take]
    exact ascii
  · intro ascii
    have leading := leadingRow_takeWhile_take (isDigitIn 8) 3 (c :: rest)
    have whole := takeWhile_take_append_drop (isDigitIn 8) 3 (c :: rest)
    exact ⟨_, _, whole.symm, leading, by simp [digit], ascii⟩

theorem not_beginsOctal {c : Char} (other : isDigitIn 8 c = false) (rest : List Char) :
    ¬ BeginsOctal (c :: rest) := by
  rintro ⟨digits, after, spelled, ⟨octal, -⟩, some, -⟩
  cases digits with
  | nil => exact some rfl
  | cons d digits =>
      obtain rfl : c = d := (List.cons.inj spelled).1
      rw [octal c (by simp)] at other
      cases other

/-- A full row of digits is the one that reading takes. -/
theorem beginsHex_iff {count : Nat} {admitted : Nat → Prop} {text : List Char} :
    BeginsHex count admitted text ↔
      ((text.take count).takeWhile (isDigitIn 16)).length = count ∧
        admitted (numeralValue 16 ((text.take count).takeWhile (isDigitIn 16))) := by
  constructor
  · rintro ⟨digits, rest, rfl, full, hex, fits⟩
    have leading : LeadingRow (isDigitIn 16) count digits rest := ⟨hex, .inl full⟩
    rw [leading.takeWhile_take]
    exact ⟨full, fits⟩
  · rintro ⟨full, fits⟩
    have whole := takeWhile_take_append_drop (isDigitIn 16) count text
    exact ⟨_, _, whole.symm, full, (leadingRow_takeWhile_take _ _ _).1, fits⟩

theorem beginsHex_append_iff {count : Nat} {admitted : Nat → Prop} {digits rest : List Char}
    (full : digits.length = count) (hex : ∀ c ∈ digits, isDigitIn 16 c = true) :
    BeginsHex count admitted (digits ++ rest) ↔ admitted (numeralValue 16 digits) := by
  have leading : LeadingRow (isDigitIn 16) count digits rest := ⟨hex, .inl full⟩
  rw [beginsHex_iff, leading.takeWhile_take, and_iff_right full]

theorem beginsEscape_hex_iff (rest : List Char) :
    BeginsEscape ('x' :: rest) ↔ BeginsHex 2 (· ≤ 0x7F) rest := by
  simp [BeginsEscape, not_beginsOctal, isDigitIn, digitValue?, simpleMarks]

theorem beginsEscape_unicode_iff (rest : List Char) :
    BeginsEscape ('u' :: rest) ↔ BeginsHex 4 Nat.isValidChar rest := by
  simp [BeginsEscape, not_beginsOctal, isDigitIn, digitValue?, simpleMarks]

theorem beginsEscape_longUnicode_iff (rest : List Char) :
    BeginsEscape ('U' :: rest) ↔ BeginsHex 8 Nat.isValidChar rest := by
  simp [BeginsEscape, not_beginsOctal, isDigitIn, digitValue?, simpleMarks]

/-! ## What pieces are made of -/

namespace Piece

/-- What is known of the first piece of a body, given what follows it. -/
def Formed (after : List Char) : Piece → Prop
  | .ordinary c => IsOrdinary c
  | .quote c => IsQuote c
  | .newline | .lineContinuation => True
  | .octal digits => LeadingRow (isDigitIn 8) 3 digits after ∧ digits ≠ []
  | .hex digits => digits.length = 2 ∧ ∀ c ∈ digits, isDigitIn 16 c = true
  | .unicode digits => digits.length = 4 ∧ ∀ c ∈ digits, isDigitIn 16 c = true
  | .longUnicode digits => digits.length = 8 ∧ ∀ c ∈ digits, isDigitIn 16 c = true
  | .simple mark denoted => simpleEscape? mark = some denoted
  | .strayBackslash => ¬ BeginsEscape after ∧ ∀ c ∈ after.head?, IsOrdinary c

theorem formed_hexEscape {escape : List Char → Piece} {letter : Char} {count : Nat}
    {admitted : Nat → Prop} {rest : List Char} (ordinary : IsOrdinary letter)
    (begins : BeginsEscape (letter :: rest) → BeginsHex count admitted rest)
    (formed : ∀ digits after, digits.length = count → (∀ c ∈ digits, isDigitIn 16 c = true) →
      (escape digits).Formed after) :
    (hexEscape escape letter count rest).1.Formed (hexEscape escape letter count rest).2 := by
  have hex := (leadingRow_takeWhile_take (isDigitIn 16) count rest).1
  by_cases full : ((rest.take count).takeWhile (isDigitIn 16)).length = count
  · rw [hexEscape, if_pos full]
    exact formed _ _ full hex
  · rw [hexEscape, if_neg full]
    refine ⟨fun escaped => full (beginsHex_iff.1 (begins escaped)).1, ?_⟩
    rintro _ ⟨⟩
    exact ordinary

/-- The piece that a backslash begins. -/
theorem formed_afterBackslash (rest : List Char) :
    (afterBackslash rest).1.Formed (afterBackslash rest).2 := by
  cases rest with
  | nil => exact ⟨id, nofun⟩
  | cons c rest =>
      by_cases newline : c = '\n'
      · rw [afterBackslash, if_pos newline]
        trivial
      by_cases octal : isDigitIn 8 c = true
      · rw [afterBackslash, if_neg newline, if_pos octal]
        exact ⟨leadingRow_takeWhile_take (isDigitIn 8) 3 (c :: rest), by simp [octal]⟩
      by_cases two : c = 'x'
      · subst two
        rw [afterBackslash, if_neg newline, if_neg octal, if_pos rfl]
        exact formed_hexEscape (by decide) (beginsEscape_hex_iff rest).1
          fun _ _ full hex => ⟨full, hex⟩
      by_cases four : c = 'u'
      · subst four
        rw [afterBackslash, if_neg newline, if_neg octal, if_neg two, if_pos rfl]
        exact formed_hexEscape (by decide) (beginsEscape_unicode_iff rest).1
          fun _ _ full hex => ⟨full, hex⟩
      by_cases eight : c = 'U'
      · subst eight
        rw [afterBackslash, if_neg newline, if_neg octal, if_neg two, if_neg four, if_pos rfl]
        exact formed_hexEscape (by decide) (beginsEscape_longUnicode_iff rest).1
          fun _ _ full hex => ⟨full, hex⟩
      rw [afterBackslash, if_neg newline, if_neg octal, if_neg two, if_neg four, if_neg eight]
      cases known : simpleEscape? c with
      | some denoted => exact known
      | none =>
          have notMark : c ∉ simpleMarks := by
            rw [← isSome_simpleEscape?, known]
            exact Bool.false_ne_true
          have notOctal := not_beginsOctal (Bool.not_eq_true _ ▸ octal) rest
          refine ⟨by simp [BeginsEscape, newline, notMark, notOctal, two, four, eight], ?_⟩
          rintro _ ⟨⟩
          refine ⟨?_, newline, ?_⟩
          · rintro rfl
            exact notMark (by decide)
          · rintro (rfl | rfl) <;> exact notMark (by decide)

/-- What reading takes off a body is made as its sort says. -/
theorem formed_of_next? {body rest : List Char} {piece : Piece}
    (step : next? body = some (piece, rest)) : piece.Formed rest := by
  cases body with
  | nil => cases step
  | cons c tail =>
      by_cases backslash : c = '\\'
      · have formed := formed_afterBackslash tail
        rw [next?, if_pos backslash, Option.some.injEq] at step
        rwa [step] at formed
      by_cases newline : c = '\n'
      · rw [next?, if_neg backslash, if_pos newline] at step
        cases step
        trivial
      by_cases quote : c = '"' ∨ c = '\''
      · rw [next?, if_neg backslash, if_neg newline, if_pos quote] at step
        cases step
        exact quote
      · rw [next?, if_neg backslash, if_neg newline, if_neg quote] at step
        cases step
        exact ⟨backslash, newline, quote⟩

end Piece

/-! ## Reading a piece -/

/-- The body is read, so many quotes of the delimiter standing directly before it. -/
def BodyReads (style : QuotedStyle) (run : Nat) (body : List Char) : Prop :=
  ∃ text, readBody style run body = .ok text

section BodyReads

variable {style : QuotedStyle} {run : Nat} {rest : List Char}

/-- A piece that is no delimiter is read if it stands for something, and what follows it is read by
itself. -/
theorem bodyReads_of_next? {body : List Char} {piece : Piece}
    (step : Piece.next? body = some (piece, rest)) (other : piece ≠ .quote style.quote) :
    BodyReads style run body ↔
      (∃ chars, piece.read style rest = .ok chars) ∧ BodyReads style 0 rest := by
  simp only [BodyReads, readBody_of_next? run step other, bind_eq_ok_iff, pure, Except.pure,
    Except.ok.injEq]
  constructor
  · rintro ⟨_, chars, stands, text, reads, -⟩
    exact ⟨⟨chars, stands⟩, text, reads⟩
  · rintro ⟨⟨chars, stands⟩, text, reads⟩
    exact ⟨_, chars, stands, text, reads, rfl⟩

/-- Ordinary characters are read in any literal. -/
theorem bodyReads_ordinary {c : Char} (ordinary : IsOrdinary c) :
    BodyReads style run (c :: rest) ↔ BodyReads style 0 rest := by
  obtain ⟨notBackslash, notNewline, notQuote⟩ := ordinary
  have step : Piece.next? (c :: rest) = some (.ordinary c, rest) := by
    rw [Piece.next?, if_neg notBackslash, if_neg notNewline]
    exact if_neg notQuote
  rw [bodyReads_of_next? step (by simp)]
  exact and_iff_right ⟨[c], rfl⟩

theorem bodyReads_append_ordinary {row : List Char} (ordinary : ∀ c ∈ row, IsOrdinary c) :
    BodyReads style 0 (row ++ rest) ↔ BodyReads style 0 rest := by
  induction row with
  | nil => rfl
  | cons c row ih =>
      obtain ⟨first, others⟩ := List.forall_mem_cons.1 ordinary
      rw [List.cons_append, bodyReads_ordinary first, ih others]

end BodyReads

namespace Piece

@[simp] theorem exists_asciiOf_iff {spelling : List Char} {code : Nat} :
    (∃ chars, asciiOf spelling code = .ok chars) ↔ code ≤ 0x7F := by
  unfold asciiOf
  split <;> simp <;> omega

@[simp] theorem exists_scalarOf_iff {spelling : List Char} {code : Nat} :
    (∃ chars, scalarOf spelling code = .ok chars) ↔ code.isValidChar := by
  unfold scalarOf
  split
  next valid => simp [valid]
  next invalid => simp [invalid]

theorem exists_read_octal_iff {style : QuotedStyle} {after digits : List Char} :
    (∃ chars, (Piece.octal digits).read style after = .ok chars) ↔
      (style.raw = false → numeralValue 8 digits ≤ 0x7F) := by
  cases raw : style.raw <;> simp [read, raw]

theorem exists_read_hex_iff {style : QuotedStyle} {after digits : List Char} :
    (∃ chars, (Piece.hex digits).read style after = .ok chars) ↔
      (style.raw = false → numeralValue 16 digits ≤ 0x7F) := by
  cases raw : style.raw <;> simp [read, raw]

theorem exists_read_unicode_iff {style : QuotedStyle} {after digits : List Char} :
    (∃ chars, (Piece.unicode digits).read style after = .ok chars) ↔
      (style.raw = false → (numeralValue 16 digits).isValidChar) := by
  cases raw : style.raw <;> simp [read, raw]

theorem exists_read_longUnicode_iff {style : QuotedStyle} {after digits : List Char} :
    (∃ chars, (Piece.longUnicode digits).read style after = .ok chars) ↔
      (style.raw = false → (numeralValue 16 digits).isValidChar) := by
  cases raw : style.raw <;> simp [read, raw]

theorem exists_read_strayBackslash_iff {style : QuotedStyle} {after : List Char} :
    (∃ chars, Piece.strayBackslash.read style after = .ok chars) ↔ style.raw = true := by
  cases raw : style.raw <;> simp [read, raw]

end Piece

/-! ## A backslash and what follows it -/

section Escape

variable {style : QuotedStyle} {run : Nat} {c : Char} {rest : List Char}

/-- An escape whose further characters are ordinary. -/
theorem bodyReads_of_escape {piece : Piece} {row after : List Char}
    (step : Piece.next? ('\\' :: c :: rest) = some (piece, after)) (spelled : row ++ after = rest)
    (ordinary : ∀ d ∈ row, IsOrdinary d) (other : piece ≠ .quote style.quote)
    (stands : (∃ chars, piece.read style after = .ok chars) ↔
      (style.raw = false → BeginsEscape (c :: rest))) :
    BodyReads style run ('\\' :: c :: rest) ↔
      (style.raw = false → BeginsEscape (c :: rest)) ∧ BodyReads style 0 rest := by
  rw [bodyReads_of_next? step other, stands, ← spelled, bodyReads_append_ordinary ordinary]

/-- An escape of a full row of hexadecimal digits. -/
theorem bodyReads_of_hexEscape {piece : Piece} {letter : Char} {count : Nat} {admitted : Nat → Prop}
    {digits after : List Char}
    (step : Piece.next? ('\\' :: letter :: (digits ++ after)) = some (piece, after))
    (full : digits.length = count) (hex : ∀ c ∈ digits, isDigitIn 16 c = true)
    (other : piece ≠ .quote style.quote)
    (stands : (∃ chars, piece.read style after = .ok chars) ↔
      (style.raw = false → admitted (numeralValue 16 digits)))
    (begins : BeginsEscape (letter :: (digits ++ after)) ↔
      BeginsHex count admitted (digits ++ after)) :
    BodyReads style run ('\\' :: letter :: (digits ++ after)) ↔
      (style.raw = false → BeginsEscape (letter :: (digits ++ after))) ∧
        BodyReads style 0 (digits ++ after) := by
  refine bodyReads_of_escape step rfl (fun d member => isOrdinary_of_isDigitIn (hex d member))
    other ?_
  rw [stands, begins, beginsHex_append_iff full hex]

/-- **A backslash and the character that it takes along.** They are read exactly if they begin an
escape, which a raw literal does not ask for, and what follows that character is read by itself. -/
theorem bodyReads_escape_iff :
    BodyReads style run ('\\' :: c :: rest) ↔
      (style.raw = false → BeginsEscape (c :: rest)) ∧ BodyReads style 0 rest := by
  obtain ⟨piece, after, step⟩ : ∃ piece after,
      Piece.next? ('\\' :: c :: rest) = some (piece, after) := ⟨_, _, rfl⟩
  have formed := Piece.formed_of_next? step
  have spelled := Piece.next?_spelling step
  cases piece with
  | ordinary d => exact absurd (List.cons.inj spelled).1 formed.1
  | quote d => exact absurd (List.cons.inj spelled).1 (formed.ne (by decide)).symm
  | newline => cases spelled
  | lineContinuation =>
      cases spelled
      refine bodyReads_of_escape step (List.nil_append _) (by simp) (by simp) ?_
      simp [Piece.read, BeginsEscape]
  | octal digits =>
      obtain ⟨leading, some⟩ := formed
      obtain ⟨d, row, rfl⟩ := List.exists_cons_of_ne_nil some
      cases spelled
      have digit : isDigitIn 8 c = true := leading.1 c List.mem_cons_self
      refine bodyReads_of_escape step rfl (fun d member => ?_) (by simp) ?_
      · exact isOrdinary_of_isDigitIn (leading.1 d (List.mem_cons_of_mem _ member))
      · have taken := leading.takeWhile_take
        rw [List.cons_append] at taken
        rw [Piece.exists_read_octal_iff, beginsEscape_octal_iff digit]
        exact taken ▸ Iff.rfl
  | hex digits =>
      cases spelled
      exact bodyReads_of_hexEscape step formed.1 formed.2 (by simp) Piece.exists_read_hex_iff
        (beginsEscape_hex_iff _)
  | unicode digits =>
      cases spelled
      exact bodyReads_of_hexEscape step formed.1 formed.2 (by simp) Piece.exists_read_unicode_iff
        (beginsEscape_unicode_iff _)
  | longUnicode digits =>
      cases spelled
      exact bodyReads_of_hexEscape step formed.1 formed.2 (by simp)
        Piece.exists_read_longUnicode_iff (beginsEscape_longUnicode_iff _)
  | simple mark denoted =>
      cases spelled
      have known : c ∈ simpleMarks := by
        rw [← isSome_simpleEscape?, show simpleEscape? c = some denoted from formed]
        rfl
      refine bodyReads_of_escape step (List.nil_append _) (by simp) (by simp) ?_
      simp [Piece.read, BeginsEscape, known]
  | strayBackslash =>
      cases spelled
      rw [bodyReads_of_next? step (by simp), Piece.exists_read_strayBackslash_iff,
        bodyReads_ordinary (formed.2 c rfl)]
      simp [formed.1]

end Escape

end ExprTree
