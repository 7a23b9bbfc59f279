/-
# ExprTree.Proofs.Literal.Denotation — the text that a literal denotes

`Denotes` says, with no mention of pieces, what a body denotes to a reader who goes from left to
right: every character denotes itself, but for the backslashes, which begin the escapes of one table
or a number in octal or hexadecimal digits. A raw literal denotes its body.

Reading a body is a row of pieces, and whatever holds of the pieces one after the other holds of the
whole (`readBody_induct`). Each piece stands for what its spelling denotes (`denotes_of_next?`), and
the spelling of each escape is one piece (`Denotes.exists_next?`); so the text that is read is the
only one that the body denotes (`denotes_iff_of_readBody`).

Main statement: `Quoted.read_eq_ok_iff_denotes`.
-/
import ExprTree.Proofs.Literal.Grammar

namespace ExprTree

set_option autoImplicit false

open Text (isDigitIn numeralValue)

/-! ## What a body denotes -/

/-- The marks that make an escape by themselves, and the characters that they stand for. -/
def simpleEscapes : List (Char × Char) :=
  [('a', Char.ofNat 7), ('b', Char.ofNat 8), ('f', Char.ofNat 12), ('n', Char.ofNat 10),
    ('r', Char.ofNat 13), ('t', Char.ofNat 9), ('v', Char.ofNat 11), ('\\', '\\'), ('\'', '\''),
    ('"', '"')]

/-- The letters of the escapes in hexadecimal digits, and how many digits they take. -/
def hexEscapes : List (Char × Nat) :=
  [('x', 2), ('u', 4), ('U', 8)]

/-- What a body denotes from left to right, unless it is that of a raw literal. -/
inductive Denotes : List Char → List Char → Prop where
  | nil : Denotes [] []
  | itself {c : Char} {rest text : List Char} (plain : c ≠ '\\') (denotes : Denotes rest text) :
      Denotes (c :: rest) (c :: text)
  | lineContinuation {rest text : List Char} (denotes : Denotes rest text) :
      Denotes ('\\' :: '\n' :: rest) text
  | simple {mark c : Char} {rest text : List Char} (known : (mark, c) ∈ simpleEscapes)
      (denotes : Denotes rest text) : Denotes ('\\' :: mark :: rest) (c :: text)
  /-- The longest row of up to three octal digits. -/
  | octal {digits : List Char} {c : Char} {rest text : List Char}
      (leading : LeadingRow (isDigitIn 8) 3 digits rest) (some : digits ≠ [])
      (named : c.toNat = numeralValue 8 digits) (denotes : Denotes rest text) :
      Denotes ('\\' :: (digits ++ rest)) (c :: text)
  | hex {letter c : Char} {count : Nat} {digits rest text : List Char}
      (known : (letter, count) ∈ hexEscapes) (full : digits.length = count)
      (hex : ∀ digit ∈ digits, isDigitIn 16 digit = true)
      (named : c.toNat = numeralValue 16 digits) (denotes : Denotes rest text) :
      Denotes ('\\' :: letter :: (digits ++ rest)) (c :: text)

def QuotedStyle.Denotes (style : QuotedStyle) (body text : List Char) : Prop :=
  if style.raw then text = body else ExprTree.Denotes body text

/-! ## Piece by piece -/

/-- What holds at the end of a body, and passes from behind a piece to in front of it, holds of a
body and the text that is read from it. -/
theorem readBody_induct {style : QuotedStyle} {motive : List Char → List Char → Prop}
    (nil : motive [] [])
    (piece : ∀ {body rest : List Char} {piece : Piece} {chars text : List Char},
      Piece.next? body = some (piece, rest) → piece.read style rest = .ok chars →
        motive rest text → motive body (chars ++ text))
    {run : Nat} {body text : List Char} (reads : readBody style run body = .ok text) :
    motive body text := by
  fun_induction readBody style run body generalizing text with
  | case1 => cases reads
  | case2 run body none =>
      cases reads
      rw [Piece.next?_eq_none_iff.1 none]
      exact nil
  | case3 run body rest few step ih =>
      obtain ⟨text, read, same⟩ := bind_eq_ok_iff.1 reads
      cases same
      exact piece step rfl (ih read)
  | case4 => cases reads
  | case5 run body found rest step other ih =>
      obtain ⟨chars, stands, reads'⟩ := bind_eq_ok_iff.1 reads
      obtain ⟨text, read, same⟩ := bind_eq_ok_iff.1 reads'
      cases same
      exact piece step stands (ih read)

/-- A raw literal is read as its body. -/
theorem readBody_raw {style : QuotedStyle} (raw : style.raw = true) {run : Nat}
    {body text : List Char} (reads : readBody style run body = .ok text) : text = body := by
  refine readBody_induct (motive := fun body text => text = body) rfl ?_ reads
  intro body rest piece chars text step stands same
  have spelled : chars = piece.spelling := by
    cases piece with
    | newline =>
        cases triple : style.triple <;> rw [Piece.read, triple] at stands <;> cases stands
        rfl
    | _ =>
        simp only [Piece.read, raw, if_true] at stands
        exact (Except.ok.inj stands).symm
  rw [same, spelled, Piece.next?_spelling step]

theorem toNat_ofNat_of_isValidChar {code : Nat} (valid : code.isValidChar) :
    (Char.ofNat code).toNat = code := by
  rw [Char.ofNat, dif_pos valid]
  rfl

namespace Piece

theorem asciiOf_eq_ok_iff {spelling chars : List Char} {code : Nat} :
    asciiOf spelling code = .ok chars ↔ ∃ c : Char, c.toNat = code ∧ code < 128 ∧ chars = [c] := by
  unfold asciiOf
  split
  next ascii =>
    have valid : code.isValidChar := .inl (by omega)
    constructor
    · intro same
      exact ⟨_, toNat_ofNat_of_isValidChar valid, ascii, (Except.ok.inj same).symm⟩
    · rintro ⟨c, rfl, -, rfl⟩
      rw [Char.ofNat_toNat]
  next beyond => simp [beyond]

theorem scalarOf_eq_ok_iff {spelling chars : List Char} {code : Nat} :
    scalarOf spelling code = .ok chars ↔ ∃ c : Char, c.toNat = code ∧ chars = [c] := by
  unfold scalarOf
  split
  next valid =>
    constructor
    · intro same
      exact ⟨_, toNat_ofNat_of_isValidChar valid, (Except.ok.inj same).symm⟩
    · rintro ⟨c, rfl, rfl⟩
      rw [Char.ofNat_toNat]
  next invalid =>
    constructor
    · intro same
      cases same
    · rintro ⟨c, rfl, -⟩
      exact absurd c.valid invalid

end Piece

theorem simpleEscape?_eq_some_iff {mark c : Char} :
    simpleEscape? mark = some c ↔ (mark, c) ∈ simpleEscapes := by
  constructor
  · intro known
    unfold simpleEscape? at known
    split at known <;> cases known <;> decide
  · have table : ∀ entry ∈ simpleEscapes, simpleEscape? entry.1 = some entry.2 := by decide
    exact table (mark, c)

/-! ## What a piece stands for -/

namespace Piece

/-- The characters that a piece stands for in a literal that is not raw, if it stands for any. -/
def StandsFor (piece : Piece) (chars : List Char) : Prop :=
  ∀ {style : QuotedStyle} {after chars' : List Char}, style.raw = false →
    piece.read style after = .ok chars' → chars' = chars

/-- A character that is no backslash is a piece and stands for itself. -/
theorem exists_next?_plain {c : Char} (plain : c ≠ '\\') (rest : List Char) :
    ∃ piece, next? (c :: rest) = some (piece, rest) ∧ piece.StandsFor [c] := by
  by_cases newline : c = '\n'
  · refine ⟨.newline, by rw [next?, if_neg plain, if_pos newline], ?_⟩
    intro style after chars cooked stands
    cases triple : style.triple <;> rw [read, triple] at stands <;> cases stands
    rw [newline]
  by_cases quote : c = '"' ∨ c = '\''
  · refine ⟨.quote c, by rw [next?, if_neg plain, if_neg newline, if_pos quote], ?_⟩
    intro style after chars cooked stands
    exact (Except.ok.inj stands).symm
  · refine ⟨.ordinary c, by rw [next?, if_neg plain, if_neg newline, if_neg quote], ?_⟩
    intro style after chars cooked stands
    exact (Except.ok.inj stands).symm

/-- What an ASCII character's number denotes is that character. -/
theorem asciiOf_eq_ok {spelling chars : List Char} {c : Char} {code : Nat} (named : c.toNat = code)
    (stands : asciiOf spelling code = .ok chars) : chars = [c] := by
  obtain ⟨c', value, -, rfl⟩ := asciiOf_eq_ok_iff.1 stands
  rw [Char.toNat_inj.1 (value.trans named.symm)]

theorem scalarOf_eq_ok {spelling chars : List Char} {c : Char} {code : Nat}
    (named : c.toNat = code) (stands : scalarOf spelling code = .ok chars) : chars = [c] := by
  obtain ⟨c', value, rfl⟩ := scalarOf_eq_ok_iff.1 stands
  rw [Char.toNat_inj.1 (value.trans named.symm)]

/-- A full row of digits behind its letter is a piece and stands for the character of its number. -/
theorem exists_next?_hex {letter c : Char} {count : Nat} {digits : List Char}
    (known : (letter, count) ∈ hexEscapes) (full : digits.length = count)
    (hex : ∀ digit ∈ digits, isDigitIn 16 digit = true)
    (named : c.toNat = numeralValue 16 digits) (rest : List Char) :
    ∃ piece, next? ('\\' :: letter :: (digits ++ rest)) = some (piece, rest) ∧
      piece.StandsFor [c] := by
  have escaped (escape : List Char → Piece) := hexEscape_append escape letter full hex rest
  simp only [hexEscapes, List.mem_cons, Prod.mk.injEq, List.not_mem_nil, or_false] at known
  rcases known with ⟨rfl, rfl⟩ | ⟨rfl, rfl⟩ | ⟨rfl, rfl⟩
  · refine ⟨.hex digits, by rw [next?_hex, escaped], ?_⟩
    intro style after chars cooked stands
    rw [read, cooked] at stands
    exact asciiOf_eq_ok named stands
  · refine ⟨.unicode digits, by rw [next?_unicode, escaped], ?_⟩
    intro style after chars cooked stands
    rw [read, cooked] at stands
    exact scalarOf_eq_ok named stands
  · refine ⟨.longUnicode digits, by rw [next?_longUnicode, escaped], ?_⟩
    intro style after chars cooked stands
    rw [read, cooked] at stands
    exact scalarOf_eq_ok named stands

/-- So is the longest row of up to three octal digits. -/
theorem exists_next?_octal {c : Char} {digits rest : List Char}
    (leading : LeadingRow (isDigitIn 8) 3 digits rest) (some : digits ≠ [])
    (named : c.toNat = numeralValue 8 digits) :
    ∃ piece, next? ('\\' :: (digits ++ rest)) = .some (piece, rest) ∧ piece.StandsFor [c] := by
  refine ⟨.octal digits, ?_, ?_⟩
  · obtain ⟨d, more, rfl⟩ := List.exists_cons_of_ne_nil some
    have octal : isDigitIn 8 d = true := leading.1 d List.mem_cons_self
    have notNewline : d ≠ '\n' := Text.ne_of_isDigitIn octal (by decide)
    have taken := leading.takeWhile_take
    show Option.some (afterBackslash (d :: (more ++ rest))) = _
    rw [afterBackslash, if_neg notNewline, if_pos octal, ← List.cons_append, taken]
    simp only [List.drop_left]
  · intro style after chars cooked stands
    rw [read, cooked] at stands
    exact asciiOf_eq_ok named stands

/-- And so is the mark of a simple escape, for the character of the table. -/
theorem exists_next?_simple {mark c : Char} (known : (mark, c) ∈ simpleEscapes)
    (rest : List Char) :
    ∃ piece, next? ('\\' :: mark :: rest) = some (piece, rest) ∧ piece.StandsFor [c] := by
  have marks : ∀ entry ∈ simpleEscapes, entry.1 ∉ ['\n', 'x', 'u', 'U'] ∧
      isDigitIn 8 entry.1 = false := by decide
  obtain ⟨other, notOctal⟩ := marks _ known
  have spelled : SpelledAs '"' c (.simple mark c) ['\\', mark] :=
    .simple (simpleEscape?_eq_some_iff.2 known) other notOctal
  refine ⟨.simple mark c, spelled.next?_append rest, ?_⟩
  intro style after chars cooked stands
  exact Except.ok.inj (stands.symm.trans (spelled.read_eq_ok style cooked after))

theorem standsFor_lineContinuation : lineContinuation.StandsFor [] := by
  intro style after chars cooked stands
  rw [read, cooked] at stands
  exact (Except.ok.inj stands).symm

end Piece

/-- Each piece of a literal that is not raw stands for what its spelling denotes. -/
theorem denotes_of_next? {style : QuotedStyle} {body rest after chars text : List Char}
    {piece : Piece} (cooked : style.raw = false) (step : Piece.next? body = some (piece, rest))
    (stands : piece.read style after = .ok chars) (denotes : Denotes rest text) :
    Denotes body (chars ++ text) := by
  have formed := Piece.formed_of_next? step
  rw [← Piece.next?_spelling step]
  cases piece with
  | ordinary c =>
      cases stands
      exact .itself formed.1 denotes
  | quote c =>
      cases stands
      exact .itself (formed.ne (by decide)).symm denotes
  | newline =>
      cases triple : style.triple <;> rw [Piece.read, triple] at stands <;> cases stands
      exact .itself (by decide) denotes
  | lineContinuation =>
      rw [Piece.read, cooked] at stands
      cases stands
      exact .lineContinuation denotes
  | octal digits =>
      rw [Piece.read, cooked] at stands
      obtain ⟨c, value, -, rfl⟩ := Piece.asciiOf_eq_ok_iff.1 stands
      exact .octal formed.1 formed.2 value denotes
  | hex digits =>
      rw [Piece.read, cooked] at stands
      obtain ⟨c, value, -, rfl⟩ := Piece.asciiOf_eq_ok_iff.1 stands
      exact .hex (by decide) formed.1 formed.2 value denotes
  | unicode digits =>
      rw [Piece.read, cooked] at stands
      obtain ⟨c, value, rfl⟩ := Piece.scalarOf_eq_ok_iff.1 stands
      exact .hex (by decide) formed.1 formed.2 value denotes
  | longUnicode digits =>
      rw [Piece.read, cooked] at stands
      obtain ⟨c, value, rfl⟩ := Piece.scalarOf_eq_ok_iff.1 stands
      exact .hex (by decide) formed.1 formed.2 value denotes
  | simple mark denoted =>
      rw [Piece.read, cooked] at stands
      cases stands
      exact .simple (simpleEscape?_eq_some_iff.1 formed) denotes
  | strayBackslash =>
      rw [Piece.read, cooked] at stands
      cases stands

/-! ## One text for each body -/

/-- What a body denotes is what its first piece stands for and what the rest denotes. -/
theorem Denotes.exists_next? {body text : List Char} (denotes : Denotes body text) :
    body = [] ∧ text = [] ∨ ∃ piece rest chars text', Piece.next? body = some (piece, rest) ∧
      piece.StandsFor chars ∧ Denotes rest text' ∧ text = chars ++ text' := by
  cases denotes with
  | nil => exact .inl ⟨rfl, rfl⟩
  | itself plain denotes =>
      obtain ⟨piece, step, stands⟩ := Piece.exists_next?_plain plain _
      exact .inr ⟨piece, _, _, _, step, stands, denotes, rfl⟩
  | lineContinuation denotes =>
      exact .inr ⟨_, _, _, _, rfl, Piece.standsFor_lineContinuation, denotes, rfl⟩
  | simple known denotes =>
      obtain ⟨piece, step, stands⟩ := Piece.exists_next?_simple known _
      exact .inr ⟨piece, _, _, _, step, stands, denotes, rfl⟩
  | octal leading some named denotes =>
      obtain ⟨piece, step, stands⟩ := Piece.exists_next?_octal leading some named
      exact .inr ⟨piece, _, _, _, step, stands, denotes, rfl⟩
  | hex known full hex named denotes =>
      obtain ⟨piece, step, stands⟩ := Piece.exists_next?_hex known full hex named _
      exact .inr ⟨piece, _, _, _, step, stands, denotes, rfl⟩

/-- What is read from a body is the one text that it denotes. -/
theorem denotes_iff_of_readBody {style : QuotedStyle} {run : Nat} {body text text' : List Char}
    (reads : readBody style run body = .ok text) : style.Denotes body text' ↔ text' = text := by
  rw [QuotedStyle.Denotes]
  split
  next raw => rw [readBody_raw raw reads]
  next notRaw =>
    have cooked : style.raw = false := by simpa using notRaw
    refine readBody_induct (motive := fun body text => ∀ text', Denotes body text' ↔ text' = text)
      ?_ ?_ reads text'
    · intro text'
      constructor
      · rintro ⟨⟩
        rfl
      · rintro rfl
        exact .nil
    · intro body rest piece chars text step stands ih text'
      constructor
      · intro denotes
        rcases denotes.exists_next? with ⟨rfl, -⟩ | ⟨_, _, chars', text'', step', for', rest', rfl⟩
        · cases step
        · cases step.symm.trans step'
          rw [for' cooked stands, (ih text'').1 rest']
      · rintro rfl
        exact denotes_of_next? cooked step stands ((ih text).2 rfl)

/-! ## The whole literal -/

namespace Quoted

/-- Reading a literal of the grammar is reading its body. -/
theorem read_of_spells {spelling : String} {style : QuotedStyle} {mark body : List Char}
    (spells : style.Spells mark body spelling.toList) :
    ∃ text : String, readBody style 0 body = .ok text.toList ∧
      read spelling = .ok ⟨style, text⟩ := by
  obtain ⟨marked, isQuote, whole, tripled, inOrder⟩ := spells
  obtain ⟨paired, text, reads⟩ := (exists_readBody_iff isQuote).2 inOrder
  rw [List.append_assoc, List.append_assoc] at whole
  refine ⟨text, reads, read_eq_ok_iff.2 ⟨mark, body, marked, isQuote, whole, ?_, paired, reads⟩⟩
  rw [tripled, whole, List.drop_left, List.prefix_iff_eq_take, eq_comm]
  rfl

/-- Whatever is read is a literal of the grammar. -/
theorem exists_spells_of_read {spelling : String} {style : QuotedStyle} {text : String}
    (success : read spelling = .ok ⟨style, text⟩) :
    ∃ mark body, style.Spells mark body spelling.toList ∧
      readBody style 0 body = .ok text.toList := by
  obtain ⟨mark, body, marked, isQuote, whole, tripled, paired, reads⟩ := read_eq_ok_iff.1 success
  refine ⟨mark, body, ⟨marked, isQuote, by simp [whole], ?_, ?_⟩, reads⟩
  · rw [tripled, whole, List.drop_left, List.prefix_iff_eq_take, eq_comm]
    rfl
  · exact (exists_readBody_iff isQuote).1 ⟨paired, text, reads⟩

/-- **The text of a literal.** A spelling is read as a text exactly if it is a literal of the
grammar whose body denotes that text: in a raw literal, the body itself, and in any other what a
reader gets who goes from left to right. Two literals with the same body that are both raw or both
not raw are read as the same text, whatever their kinds, quotes and delimiters are. -/
theorem read_eq_ok_iff_denotes :
    (∀ (spelling : String) (style : QuotedStyle) (text : String),
      read spelling = .ok ⟨style, text⟩ ↔
        ∃ mark body, style.Spells mark body spelling.toList ∧ style.Denotes body text.toList) ∧
    ∀ (style style' : QuotedStyle) (mark mark' body : List Char) (spelling spelling' : String),
      style.raw = style'.raw → style.Spells mark body spelling.toList →
        style'.Spells mark' body spelling'.toList →
          ∃ text, read spelling = .ok ⟨style, text⟩ ∧ read spelling' = .ok ⟨style', text⟩ := by
  constructor
  · intro spelling style text
    constructor
    · intro success
      obtain ⟨mark, body, spells, reads⟩ := exists_spells_of_read success
      exact ⟨mark, body, spells, (denotes_iff_of_readBody reads).2 rfl⟩
    · rintro ⟨mark, body, spells, denotes⟩
      obtain ⟨text', reads, success⟩ := read_of_spells spells
      rw [denotes_iff_of_readBody reads, String.toList_inj] at denotes
      rw [denotes, success]
  · intro style style' mark mark' body spelling spelling' sameRaw spells spells'
    obtain ⟨text, reads, success⟩ := read_of_spells spells
    obtain ⟨text', reads', success'⟩ := read_of_spells spells'
    -- What a body denotes depends on the style only by its being raw.
    have denotes : style'.Denotes body text.toList := by
      have denotes : style.Denotes body text.toList := (denotes_iff_of_readBody reads).2 rfl
      rwa [QuotedStyle.Denotes, sameRaw] at denotes
    rw [denotes_iff_of_readBody reads', String.toList_inj] at denotes
    exact ⟨text, success, by rw [denotes, success']⟩

/-! ### One body between two sorts of delimiters -/

namespace Example

/-- An octal escape before a digit, an escape in four digits, and an escaped quote. -/
def escapes : List Char :=
  "\\1011\\u00e9\\'".toList

def text : QuotedStyle :=
  ⟨false, false, false, '\''⟩

def bytes : QuotedStyle :=
  ⟨true, false, true, '"'⟩

theorem spells_text : text.Spells [] escapes "'\\1011\\u00e9\\''".toList where
  marked := by decide
  quoted := by decide
  whole := by decide
  tripled := by decide
  inOrder := (exists_readBody_iff (by decide)).1 ⟨by decide, "A1é'", by decide +kernel⟩

theorem spells_bytes : bytes.Spells ['b'] escapes "b\"\"\"\\1011\\u00e9\\'\"\"\"".toList where
  marked := by decide
  quoted := by decide
  whole := by decide
  tripled := by decide
  inOrder := (exists_readBody_iff (by decide)).1 ⟨by decide, "A1é'", by decide +kernel⟩

end Example

theorem read_eq_ok_iff_denotes_escapes :
    Example.text.raw = Example.bytes.raw ∧
      Example.text.Spells [] Example.escapes "'\\1011\\u00e9\\''".toList ∧
      Example.bytes.Spells ['b'] Example.escapes "b\"\"\"\\1011\\u00e9\\'\"\"\"".toList ∧
      ∃ text, read "'\\1011\\u00e9\\''" = .ok ⟨Example.text, text⟩ ∧
        read "b\"\"\"\\1011\\u00e9\\'\"\"\"" = .ok ⟨Example.bytes, text⟩ :=
  ⟨rfl, Example.spells_text, Example.spells_bytes, read_eq_ok_iff_denotes.2 _ _ _ _ _ _ _ rfl
    Example.spells_text Example.spells_bytes⟩

end Quoted

end ExprTree
