/-
# ExprTree.Proofs.Literal.Quoting — what is quoted is read back

Quoting spells each character of a text by itself, in one of five ways (`SpelledAs`); reading takes
a body apart piece by piece. The two meet in `SpelledAs.next?_append`: whatever follows it, the
spelling of a character is exactly one piece, no delimiter, and that piece stands for the character.
So a quoted text is read back character by character (`readBody_quotedBody`).

Delimiters are judged from both ends of a spelling. A quoted body neither escapes the quote after it
(`endsEscaped_quotedBody`) nor begins with one (`isPrefixOf_quotedBody`). Whatever is read ends with
its own quote (`getLast?_of_read`), so a spelling between two other characters is refused, also when
these look like marks.

Main statement: `read_quoted`.
-/
import ExprTree.Expr.Print
import ExprTree.Proofs.Expr.Made
import ExprTree.Proofs.Literal.Delimiters
import ExprTree.Proofs.Text.Digits
import Mathlib.Data.List.Basic
import Mathlib.Data.List.TakeWhile

namespace ExprTree

set_option autoImplicit false

open Text (fixedHex isDigitIn numeralValue)

/-! ## One character -/

/-- A full row of digits after its letter is an escape. -/
theorem Piece.hexEscape_append (escape : List Char → Piece) (letter : Char) {count : Nat}
    {digits : List Char} (full : digits.length = count)
    (hex : ∀ digit ∈ digits, isDigitIn 16 digit = true) (rest : List Char) :
    hexEscape escape letter count (digits ++ rest) = (escape digits, rest) := by
  have taken : ((digits ++ rest).take count).takeWhile (isDigitIn 16) = digits := by
    rw [List.take_left' full, List.takeWhile_eq_self_iff]
    exact hex
  simp only [hexEscape, taken, if_pos full, List.drop_left' full]

theorem Piece.hexEscape_fixedHex (escape : List Char → Piece) (letter : Char) (count n : Nat)
    (rest : List Char) :
    hexEscape escape letter count (fixedHex count n ++ rest) =
      (escape (fixedHex count n), rest) :=
  hexEscape_append escape letter (Text.fixedHex_length count n)
    (fun _ member => Text.isDigitIn_of_mem_fixedHex member) rest

theorem Piece.next?_hex (rest : List Char) :
    next? ('\\' :: 'x' :: rest) = some (hexEscape .hex 'x' 2 rest) := rfl

theorem Piece.next?_unicode (rest : List Char) :
    next? ('\\' :: 'u' :: rest) = some (hexEscape .unicode 'u' 4 rest) := rfl

theorem Piece.next?_longUnicode (rest : List Char) :
    next? ('\\' :: 'U' :: rest) = some (hexEscape .longUnicode 'U' 8 rest) := rfl

theorem Piece.asciiOf_toNat {spelling : List Char} {c : Char} (ascii : c.toNat < 128) :
    asciiOf spelling c.toNat = .ok [c] := by
  rw [asciiOf, if_pos ascii, Char.ofNat_toNat]

@[simp] theorem Piece.scalarOf_toNat (spelling : List Char) (c : Char) :
    scalarOf spelling c.toNat = .ok [c] := by
  have valid : c.toNat.isValidChar := c.valid
  rw [scalarOf, if_pos valid, Char.ofNat_toNat]

/-- The ways to spell a character between the given quotes, each as one piece. -/
inductive SpelledAs (quote c : Char) : Piece → List Char → Prop where
  | simple {mark : Char} (known : simpleEscape? mark = some c)
      (other : mark ∉ ['\n', 'x', 'u', 'U']) (notOctal : isDigitIn 8 mark = false) :
      SpelledAs quote c (.simple mark c) ['\\', mark]
  | hex (ascii : c.toNat < 128) :
      SpelledAs quote c (.hex (fixedHex 2 c.toNat)) ('\\' :: 'x' :: fixedHex 2 c.toNat)
  | unicode (short : c.toNat ≤ 0xFFFF) :
      SpelledAs quote c (.unicode (fixedHex 4 c.toNat)) ('\\' :: 'u' :: fixedHex 4 c.toNat)
  | longUnicode :
      SpelledAs quote c (.longUnicode (fixedHex 8 c.toNat))
        ('\\' :: 'U' :: fixedHex 8 c.toNat)
  | itself (notBackslash : c ≠ '\\') (notNewline : c ≠ '\n') (notDelimiter : c ≠ quote) :
      SpelledAs quote c (if IsQuote c then .quote c else .ordinary c) [c]

/-- Quoting spells every character in one of these ways. -/
theorem spelledAs_quotedChar {quote : Char} (isQuote : IsQuote quote) (asciiOnly : Bool)
    (c : Char) : ∃ piece, SpelledAs quote c piece (quotedChar quote asciiOnly c) := by
  unfold quotedChar
  by_cases backslash : c = '\\'
  · subst backslash
    exact ⟨_, .simple rfl (by decide) (by decide)⟩
  by_cases newline : c = '\n'
  · subst newline
    exact ⟨_, .simple rfl (by decide) (by decide)⟩
  by_cases carriageReturn : c = '\r'
  · subst carriageReturn
    exact ⟨_, .simple rfl (by decide) (by decide)⟩
  by_cases tab : c = '\t'
  · subst tab
    exact ⟨_, .simple rfl (by decide) (by decide)⟩
  rw [if_neg backslash, if_neg newline, if_neg carriageReturn, if_neg tab]
  by_cases delimiter : c = quote
  · rw [if_pos delimiter]
    subst delimiter
    rcases isQuote with rfl | rfl
    · exact ⟨_, .simple rfl (by decide) (by decide)⟩
    · exact ⟨_, .simple rfl (by decide) (by decide)⟩
  rw [if_neg delimiter]
  by_cases control : isAsciiControl c = true
  · rw [if_pos control]
    refine ⟨_, .hex ?_⟩
    simp only [isAsciiControl, Bool.or_eq_true, decide_eq_true_eq, beq_iff_eq] at control
    omega
  rw [if_neg control]
  split
  · split
    case isTrue short =>
      exact ⟨_, .unicode short⟩
    case isFalse long =>
      exact ⟨_, .longUnicode⟩
  · exact ⟨_, .itself backslash newline delimiter⟩

namespace SpelledAs

variable {quote c : Char} {piece : Piece} {spelling : List Char}

/-- Whatever follows it, the spelling is one piece. -/
theorem next?_append (spelled : SpelledAs quote c piece spelling) (rest : List Char) :
    Piece.next? (spelling ++ rest) = some (piece, rest) := by
  cases spelled with
  | @simple mark known other notOctal =>
      simp only [List.mem_cons, List.not_mem_nil, or_false, not_or] at other
      obtain ⟨notNewline, notX, notU, notLongU⟩ := other
      show some (Piece.afterBackslash (mark :: rest)) = _
      simp only [Piece.afterBackslash, if_neg notNewline, notOctal, Bool.false_eq_true, if_false,
        if_neg notX, if_neg notU, if_neg notLongU, known]
  | hex => rw [List.cons_append, List.cons_append, Piece.next?_hex, Piece.hexEscape_fixedHex]
  | unicode =>
      rw [List.cons_append, List.cons_append, Piece.next?_unicode, Piece.hexEscape_fixedHex]
  | longUnicode =>
      rw [List.cons_append, List.cons_append, Piece.next?_longUnicode, Piece.hexEscape_fixedHex]
  | itself notBackslash notNewline =>
      simp only [List.singleton_append, Piece.next?, if_neg notBackslash, if_neg notNewline]
      by_cases other : IsQuote c
      · rw [if_pos other]
        exact if_pos other
      · rw [if_neg other]
        exact if_neg other

theorem ne_quote (spelled : SpelledAs quote c piece spelling) : piece ≠ .quote quote := by
  cases spelled with
  | itself _ _ notDelimiter =>
      split
      · simpa using notDelimiter
      · simp
  | _ => simp

/-- In a literal that is not raw, the piece stands for the character. -/
theorem read_eq_ok (spelled : SpelledAs quote c piece spelling) (style : QuotedStyle)
    (cooked : style.raw = false) (after : List Char) : piece.read style after = .ok [c] := by
  cases spelled with
  | simple => simp [Piece.read, cooked]
  | hex ascii =>
      have fits : c.toNat < Nat.pow 16 2 := Nat.lt_trans ascii (by decide)
      simp [Piece.read, cooked, Text.numeralValue_fixedHex fits, Piece.asciiOf_toNat ascii]
  | unicode short =>
      have fits : c.toNat < Nat.pow 16 4 := Nat.lt_of_le_of_lt short (by decide)
      simp [Piece.read, cooked, Text.numeralValue_fixedHex fits]
  | longUnicode =>
      have fits : c.toNat < Nat.pow 16 8 :=
        Nat.lt_of_lt_of_le c.val.toNat_lt_size (by decide)
      simp [Piece.read, cooked, Text.numeralValue_fixedHex fits]
  | itself =>
      split
      · rfl
      · rfl

theorem head?_ne (isQuote : IsQuote quote) (spelled : SpelledAs quote c piece spelling)
    (rest : List Char) : (spelling ++ rest).head? ≠ some quote := by
  have mark : '\\' ≠ quote := isQuote.ne (by decide)
  cases spelled with
  | itself _ _ notDelimiter => simpa using notDelimiter
  | _ => simpa using mark

theorem endsEscaped_eq_false (spelled : SpelledAs quote c piece spelling) :
    endsEscaped spelling = false := by
  have digits (letter : Char) (count n : Nat) :
      endsEscaped ('\\' :: letter :: fixedHex count n) = false := by
    rw [endsEscaped_escape, ← List.append_nil (fixedHex count n)]
    exact endsEscaped_digits (fun _ member => Text.isDigitIn_of_mem_fixedHex member) []
  cases spelled with
  | simple => exact endsEscaped_escape _ []
  | hex => exact digits 'x' 2 _
  | unicode => exact digits 'u' 4 _
  | longUnicode => exact digits 'U' 8 _
  | itself notBackslash => exact endsEscaped_plain notBackslash []

end SpelledAs

/-! ## The body -/

/-- What stands between the quotes. -/
def quotedBody (quote : Char) (asciiOnly : Bool) (text : List Char) : List Char :=
  text.flatMap (quotedChar quote asciiOnly)

theorem quotedBody_cons (quote : Char) (asciiOnly : Bool) (c : Char) (text : List Char) :
    quotedBody quote asciiOnly (c :: text) =
      quotedChar quote asciiOnly c ++ quotedBody quote asciiOnly text := by
  rw [quotedBody, List.flatMap_cons, quotedBody]

/-- A piece that is no delimiter is read on its own. -/
theorem readBody_of_next? {style : QuotedStyle} {body rest : List Char} {piece : Piece}
    (run : Nat) (step : Piece.next? body = some (piece, rest))
    (other : piece ≠ .quote style.quote) :
    readBody style run body = (do
      let chars ← piece.read style rest
      let text ← readBody style 0 rest
      pure (chars ++ text)) := by
  rw [readBody]
  split
  case h_1 none =>
    rw [step] at none
    cases none
  case h_2 found =>
    rw [step] at found
    cases found
    rw [if_neg other]

/-- A quoted body is read back character by character. -/
theorem readBody_quotedBody (style : QuotedStyle) (isQuote : IsQuote style.quote)
    (cooked : style.raw = false) (asciiOnly : Bool) (text : List Char) :
    readBody style 0 (quotedBody style.quote asciiOnly text) = .ok text := by
  induction text with
  | nil =>
      rw [quotedBody, List.flatMap_nil, readBody]
      simp [Piece.next?]
  | cons c text ih =>
      obtain ⟨piece, spelled⟩ := spelledAs_quotedChar isQuote asciiOnly c
      rw [quotedBody_cons, readBody_of_next? 0 (spelled.next?_append _) spelled.ne_quote,
        spelled.read_eq_ok _ cooked, ih]
      rfl

/-- No quoted body escapes the quote that follows it. -/
theorem endsEscaped_quotedBody {quote : Char} (isQuote : IsQuote quote) (asciiOnly : Bool)
    (text : List Char) : endsEscaped (quotedBody quote asciiOnly text) = false := by
  induction text with
  | nil => rfl
  | cons c text ih =>
      obtain ⟨piece, spelled⟩ := spelledAs_quotedChar isQuote asciiOnly c
      rw [quotedBody_cons, endsEscaped_append _ spelled.endsEscaped_eq_false, ih]

/-- Between two quotes, a quoted body does not look like the start of a triple quote. -/
theorem isPrefixOf_quotedBody {quote : Char} (isQuote : IsQuote quote) (asciiOnly : Bool)
    (text : List Char) :
    [quote, quote, quote].isPrefixOf (quote :: (quotedBody quote asciiOnly text ++ [quote])) =
      false := by
  rw [← Bool.not_eq_true, List.isPrefixOf_iff_prefix]
  rintro ⟨rest, triple⟩
  cases text with
  | nil => simp [quotedBody] at triple
  | cons c text =>
      obtain ⟨piece, spelled⟩ := spelledAs_quotedChar isQuote asciiOnly c
      rw [quotedBody_cons, List.append_assoc] at triple
      have head := congrArg List.head? (List.cons.inj triple).2
      exact spelled.head?_ne isQuote _ head.symm

/-! ## The whole literal -/

/-- A text between quotes is read as it was, with its mark. -/
theorem Quoted.read_quoted_of_isQuote {quote : Char} (isQuote : IsQuote quote) (text : String)
    (bytes asciiOnly : Bool) :
    read (quoted text bytes quote asciiOnly) = .ok ⟨⟨bytes, false, false, quote⟩, text⟩ := by
  have marked : (if bytes then ['b'] else []) ∈ literalMarks bytes false := by
    cases bytes <;> simp [literalMarks]
  have single : ¬ [quote, quote, quote] <+:
      [quote] ++ (quotedBody quote asciiOnly text.toList ++ [quote]) := by
    rw [← List.isPrefixOf_iff_prefix, Bool.not_eq_true]
    exact isPrefixOf_quotedBody isQuote asciiOnly text.toList
  refine read_eq_ok_iff.2 ⟨_, quotedBody quote asciiOnly text.toList, marked, isQuote, ?_,
    iff_of_false Bool.false_ne_true single, endsEscaped_quotedBody isQuote asciiOnly _,
    readBody_quotedBody _ isQuote rfl asciiOnly _⟩
  rw [quoted, String.toList_ofList, quotedChars, quotedBody]
  rfl

/-- Whatever is read is delimited by a quote and ends with it. -/
theorem Quoted.getLast?_of_read {spelling : String} {literal : Quoted}
    (success : read spelling = .ok literal) :
    IsQuote literal.quote ∧ spelling.toList.getLast? = some literal.quote := by
  obtain ⟨mark, body, -, isQuote, whole, -⟩ := read_eq_ok_iff.1 success
  refine ⟨isQuote, ?_⟩
  rw [whole, ← List.append_assoc, ← List.append_assoc, List.getLast?_append,
    QuotedStyle.getLast?_delimiter]
  rfl

/-- A spelling ends with the character that it was quoted with. -/
theorem getLast?_quoted (text : String) (bytes : Bool) (quote : Char) (asciiOnly : Bool) :
    (quoted text bytes quote asciiOnly).toList.getLast? = some quote := by
  rw [quoted, String.toList_ofList, quotedChars, List.getLast?_append, List.getLast?_cons,
    List.getLast?_concat]
  rfl

/-- A text is read back from its spelling exactly if that is delimited by quotes. -/
theorem Quoted.read_quoted_eq_ok_iff {text : String} {bytes : Bool} {quote : Char}
    {asciiOnly : Bool} {literal : Quoted} :
    read (quoted text bytes quote asciiOnly) = .ok literal ↔
      IsQuote quote ∧ literal = ⟨⟨bytes, false, false, quote⟩, text⟩ := by
  constructor
  · intro success
    obtain ⟨isQuote, last⟩ := getLast?_of_read success
    rw [getLast?_quoted, Option.some.injEq] at last
    rw [← last] at isQuote
    rw [read_quoted_of_isQuote isQuote, Except.ok.injEq] at success
    exact ⟨isQuote, success.symm⟩
  · rintro ⟨isQuote, rfl⟩
    exact read_quoted_of_isQuote isQuote text bytes asciiOnly

/-! ## Printed leaves -/

theorem QuoteStyle.isQuote_char (style : QuoteStyle) : IsQuote style.char := by
  cases style
  · exact .inl rfl
  · exact .inr rfl

theorem Expr.print_string (options : PrintOptions) (place : Place) (text : String) :
    (leaf place (.string text)).print options =
      quoted text false options.quote.char options.asciiOnly := by
  rw [print, printChars, Atom.print, quoted]

theorem Expr.print_bytes (options : PrintOptions) (place : Place) (text : String) :
    (leaf place (.bytes text)).print options =
      quoted text true options.quote.char options.asciiOnly := by
  rw [print, printChars, Atom.print, quoted]

/-- **Printing a literal is undone by reading it.** Reading what `quoted` writes succeeds exactly
when the delimiter is one of the two quotes, and then gives back the text with its mark, neither raw
nor triply quoted. So a printed string or bytes leaf, however it is printed, is read as the same
content on any place; as a literal of the other kind it is refused. -/
theorem Quoted.read_quoted :
    (∀ (text : String) (bytes : Bool) (quote : Char) (asciiOnly : Bool) (literal : Quoted),
      read (quoted text bytes quote asciiOnly) = .ok literal ↔
        (quote = '"' ∨ quote = '\'') ∧ literal = ⟨⟨bytes, false, false, quote⟩, text⟩) ∧
    (∀ (options : PrintOptions) (printed target : Place) (text : String),
      Expr.readLiteral false target.source target.span.start
          ((Expr.leaf printed (.string text)).print options) target.span.stop =
        .ok (.leaf target (.string text)) ∧
      Expr.readLiteral true target.source target.span.start
          ((Expr.leaf printed (.bytes text)).print options) target.span.stop =
        .ok (.leaf target (.bytes text))) ∧
    (∀ (options : PrintOptions) (printed : Place) (text : String) (source : Source)
        (start stop : Offset),
      Expr.readLiteral true source start
          ((Expr.leaf printed (.string text)).print options) stop =
        .error (.refused (.malformedLiteral .bytes .missingBytesMark)) ∧
      Expr.readLiteral false source start
          ((Expr.leaf printed (.bytes text)).print options) stop =
        .error (.refused (.malformedLiteral .string .unexpectedBytesMark))) := by
  refine ⟨fun text bytes quote asciiOnly literal => read_quoted_eq_ok_iff, ?_, ?_⟩
  · intro options printed target text
    have isQuote := options.quote.isQuote_char
    constructor
    · simp only [Expr.print_string, Expr.readLiteral, read_quoted_of_isQuote isQuote]
      exact Expr.makeLeaf_place target (.string text)
    · simp only [Expr.print_bytes, Expr.readLiteral, read_quoted_of_isQuote isQuote]
      exact Expr.makeLeaf_place target (.bytes text)
  · intro options printed text source start stop
    have isQuote := options.quote.isQuote_char
    constructor
    · simp only [Expr.print_string, Expr.readLiteral, read_quoted_of_isQuote isQuote]
    · simp only [Expr.print_bytes, Expr.readLiteral, read_quoted_of_isQuote isQuote]

end ExprTree
