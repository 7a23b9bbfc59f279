/-
# ExprTree.Proofs.Expr.Leaves — leaves as source text

A printed leaf is a name, a numeral or a quoted literal. Names and numerals are words: they have no
character that separates, brackets or quotes, and their first characters tell them apart. A quoted
literal ends with its quote, and reads back as its text. So the text of a leaf says what it holds,
up to the kind of a number (`print_eq_print_iff`), and it is never split (`passes_print`).
-/
import ExprTree.Proofs.Literal.Quoting
import ExprTree.Proofs.Numeral.Float
import ExprTree.Proofs.Text.Fields

namespace ExprTree

set_option autoImplicit false

namespace Text

/-- The characters that separate, bracket or quote. -/
def marks : List Char :=
  [' ', ',', '(', '[', ')', ']', '"', '\'']

/-- No character of the text is a mark. -/
def isWord (text : List Char) : Bool :=
  text.all fun c => !marks.contains c

/-- No character of the text is a mark, unless it is a space. -/
def isPlain (text : List Char) : Bool :=
  text.all fun c => c == ' ' || !marks.contains c

theorem isWord_iff {text : List Char} : isWord text = true ↔ ∀ c ∈ text, c ∉ marks := by
  simp [isWord]

theorem isPlain_iff {text : List Char} :
    isPlain text = true ↔ ∀ c ∈ text, c = ' ' ∨ c ∉ marks := by
  simp [isPlain]

/-- What a class accepts is not in a row of characters that it refuses. -/
theorem not_mem_of_any_eq_false {accepts : Char → Bool} {row : List Char}
    (refused : row.any accepts = false) {c : Char} (accepted : accepts c = true) : c ∉ row := by
  intro member
  rw [List.any_eq_false] at refused
  exact refused c member accepted

/-! ## Characters of names and numerals -/

def isNumeralChar (c : Char) : Bool :=
  isDigitIn 16 c || ['x', 'X', 'o', 'O', '.', '+', '-'].contains c

theorem isWord_of_isNumeralChar {text : List Char}
    (numeral : ∀ c ∈ text, isNumeralChar c = true) : isWord text = true :=
  isWord_iff.2 fun c member => not_mem_of_any_eq_false (by decide) (numeral c member)

/-- No character begins both a name and a numeral. -/
theorem not_isNumeralStart_of_isNameStart {c : Char} (start : isNameStart c = true) :
    isNumeralStart c = false := by
  rw [← Bool.not_eq_true]
  intro numeral
  have below := toNat_lt_of_isNumeralStart numeral
  have refused : ∀ code < 0x41,
      (Char.ofNat code == '_' || (Char.ofNat code).isAlpha) = false := by decide
  have other := refused _ below
  rw [Char.ofNat_toNat, ← isNameStart_ascii (Nat.lt_trans below (by decide)), start] at other
  cases other

theorem isNumeralChar_of_isDigitIn {radix : Nat} (le : radix ≤ 16) {c : Char}
    (digit : isDigitIn radix c = true) : isNumeralChar c = true := by
  rw [isNumeralChar, isDigitIn_mono le digit, Bool.true_or]

theorem isNumeralChar_of_isDecimalChar {c : Char} (decimal : isDecimalChar c = true) :
    isNumeralChar c = true := by
  rw [isDecimalChar, Bool.or_eq_true] at decimal
  rcases decimal with digit | mark
  · exact isNumeralChar_of_isDigitIn (by decide) digit
  · exact List.all_eq_true.1 (show decimalMarks.all isNumeralChar = true by decide) c
      (List.contains_iff_mem.1 mark)

end Text

open Text (isDigitIn isNumeralChar isNumeralStart marks)

/-- An integer has only characters of numerals, the first of which can begin one. -/
theorem SpellsInteger.isNumeral {chars : List Char} {value : Nat}
    (spells : SpellsInteger chars value) : (∀ c ∈ chars, isNumeralChar c = true) ∧
      ∃ c, chars.head? = some c ∧ isNumeralStart c = true := by
  cases spells with
  | zero => exact ⟨List.forall_mem_singleton.2 (by decide), '0', rfl, by decide⟩
  | decimal row front =>
      obtain ⟨c, rest, rfl, digit⟩ := row.exists_cons
      exact ⟨fun c member => Text.isNumeralChar_of_isDigitIn (by decide) (row.2 c member),
        c, rfl, Text.isNumeralStart_of_isDigitIn digit⟩
  | @marked mark radix digits known row =>
      have announced : isNumeralChar mark = true ∧ radix ≤ 16 := by
        simp only [radixMarks, List.mem_cons, List.not_mem_nil, or_false, Prod.mk.injEq] at known
        rcases known with ⟨rfl, rfl⟩ | ⟨rfl, rfl⟩ | ⟨rfl, rfl⟩ | ⟨rfl, rfl⟩ | ⟨rfl, rfl⟩ |
          ⟨rfl, rfl⟩ <;> decide
      rw [List.forall_mem_cons, List.forall_mem_cons]
      exact ⟨⟨by decide, announced.1,
        fun c member => Text.isNumeralChar_of_isDigitIn announced.2 (row.2 c member)⟩,
        '0', rfl, by decide⟩

/-- A decimal fraction has only characters of numerals, the first of which can begin one. -/
theorem Decimal.SpelledBy.isNumeral {decimal : Decimal} {chars : List Char}
    (spelled : decimal.SpelledBy chars) : (∀ c ∈ chars, isNumeralChar c = true) ∧
      ∃ c, chars.head? = some c ∧ isNumeralStart c = true :=
  ⟨fun c member => Text.isNumeralChar_of_isDecimalChar (spelled.isDecimalChar c member),
    spelled.exists_head⟩

theorem IntLiteral.spelling_spec (literal : IntLiteral) :
    (∀ c ∈ literal.spelling.toList, isNumeralChar c = true) ∧
      ∃ c, literal.spelling.toList.head? = some c ∧ isNumeralStart c = true :=
  (readInteger_eq_ok_iff.1 literal.reads).1.isNumeral

theorem FloatLiteral.spelling_spec (literal : FloatLiteral) :
    (∀ c ∈ literal.spelling.toList, isNumeralChar c = true) ∧
      ∃ c, literal.spelling.toList.head? = some c ∧ isNumeralStart c = true := by
  obtain ⟨decimal, _, spelled, -⟩ := readFloat_eq_ok_iff.1 literal.reads
  exact spelled.isNumeral

/-- A name has no marks. -/
theorem Identifier.isWord (identifier : Identifier) :
    Text.isWord identifier.name.toList = true :=
  Text.isWord_iff.2 (identifier.notMem_of_others (by decide))

theorem Identifier.head?_spec (identifier : Identifier) :
    ∃ c, identifier.name.toList.head? = some c ∧ Text.isNameStart c = true := by
  have spelled := identifier.spelled
  cases chars : identifier.name.toList with
  | nil => simp [chars, Text.isName] at spelled
  | cons first rest =>
      rw [chars, Text.isName, Bool.and_eq_true] at spelled
      exact ⟨first, rfl, spelled.1⟩

/-! ## Words -/

/-- What has no marks but spaces is split at spaces only, and only where nothing is open. -/
theorem passes_of_isPlain {quote separator : Char} (isQuote : IsQuote quote)
    (separates : separator ∈ [' ', ',']) {level : Nat} {text : List Char}
    (plain : Text.isPlain text = true) (inside : ' ' ∈ text → separator ≠ ' ' ∨ 0 < level) :
    Text.Passes quote separator level text := by
  refine .of_forall fun c member => ?_
  rcases Text.isPlain_iff.1 plain c member with rfl | unmarked
  · exact ⟨isQuote.ne (by decide), by decide, (inside member).imp_left Ne.symm⟩
  · refine ⟨?_, ?_, .inl ?_⟩
    · rintro rfl
      rcases isQuote with rfl | rfl
      · exact unmarked (by decide)
      · exact unmarked (by decide)
    · intro bracket
      exact unmarked (List.mem_of_mem_drop (i := 2) (List.mem_append_left ['"', '\''] bracket))
    · rintro rfl
      exact unmarked (List.mem_append_left (marks.drop 2) separates)

/-- A word is never split. -/
theorem passes_of_isWord {quote separator : Char} (isQuote : IsQuote quote)
    (separates : separator ∈ [' ', ',']) {level : Nat} {text : List Char}
    (word : Text.isWord text = true) : Text.Passes quote separator level text := by
  rw [Text.isWord_iff] at word
  refine passes_of_isPlain isQuote separates ?_ ?_
  · exact Text.isPlain_iff.2 fun c member => .inr (word c member)
  · intro space
    exact absurd (by decide) (word ' ' space)

/-! ## Quoted literals -/

theorem crosses_of_isDigitIn {quote separator : Char} (isQuote : IsQuote quote) (depth : Nat)
    {digits : List Char} (isDigit : ∀ c ∈ digits, isDigitIn 16 c = true) :
    Text.Crosses quote separator ⟨depth, .literal⟩ ⟨depth, .literal⟩ digits := by
  induction digits with
  | nil => exact .nil _
  | cons c rest ih =>
      obtain ⟨digit, later⟩ := List.forall_mem_cons.1 isDigit
      refine .literal_cons ?_ ?_ (ih later)
      · rintro rfl
        rcases isQuote with rfl | rfl
        · exact absurd digit (by decide)
        · exact absurd digit (by decide)
      · rintro rfl
        exact absurd digit (by decide)

/-- Inside a literal, the spelling of a character leaves the scan there. -/
theorem SpelledAs.crosses {quote separator c : Char} {piece : Piece} {spelling : List Char}
    (isQuote : IsQuote quote) (spelled : SpelledAs quote c piece spelling) (depth : Nat) :
    Text.Crosses quote separator ⟨depth, .literal⟩ ⟨depth, .literal⟩ spelling := by
  have notQuote : '\\' ≠ quote := isQuote.ne (by decide)
  have digits (width n : Nat) : Text.Crosses quote separator ⟨depth, .literal⟩ ⟨depth, .literal⟩
      (Text.fixedHex width n) :=
    crosses_of_isDigitIn isQuote depth fun c member => Text.isDigitIn_of_mem_fixedHex member
  cases spelled with
  | simple => exact .escape_cons notQuote (.nil _)
  | hex => exact .escape_cons notQuote (digits 2 c.toNat)
  | unicode => exact .escape_cons notQuote (digits 4 c.toNat)
  | longUnicode => exact .escape_cons notQuote (digits 8 c.toNat)
  | itself notBackslash _ notDelimiter =>
      exact .literal_cons notDelimiter notBackslash (.nil _)

theorem crosses_quotedBody {quote separator : Char} (isQuote : IsQuote quote) (asciiOnly : Bool)
    (text : List Char) (depth : Nat) :
    Text.Crosses quote separator ⟨depth, .literal⟩ ⟨depth, .literal⟩
      (quotedBody quote asciiOnly text) := by
  induction text with
  | nil => exact .nil _
  | cons c text ih =>
      obtain ⟨piece, spelled⟩ := spelledAs_quotedChar isQuote asciiOnly c
      rw [quotedBody_cons]
      exact (spelled.crosses isQuote depth).append ih

/-! ## Leaves -/

/-- What the text of a leaf says of its content: the kind of a number is left out. -/
inductive LeafShape where
  | name (name : String)
  | number (spelling : String)
  | string (text : String)
  | bytes (text : String)
  deriving DecidableEq

/-- The shape of a leaf that is spelled like this, names and numerals being told apart from literals
by their end and from each other by their start. -/
def LeafShape.ofText (quote : Char) (text : List Char) : LeafShape :=
  if text.getLast? = some quote then
    match Quoted.read (String.ofList text) with
    | .ok literal => if literal.bytes then .bytes literal.text else .string literal.text
    | .error _ => .name (String.ofList text)
  else if text.head?.any isNumeralStart then .number (String.ofList text)
  else .name (String.ofList text)

namespace Atom

def shape : Atom → LeafShape
  | .identifier name => .name name.name
  | .int literal => .number literal.spelling
  | .float literal => .number literal.spelling
  | .string text => .string text
  | .bytes text => .bytes text

theorem ofText_quotedChars {quote : Char} (isQuote : IsQuote quote) (text : String)
    (bytes asciiOnly : Bool) :
    LeafShape.ofText quote (quotedChars text.toList bytes quote asciiOnly) =
      if bytes then .bytes text else .string text := by
  have last := getLast?_quoted text bytes quote asciiOnly
  have read := Quoted.read_quoted_of_isQuote isQuote text bytes asciiOnly
  rw [quoted, String.toList_ofList] at last
  rw [quoted] at read
  rw [LeafShape.ofText, if_pos last, read]

theorem getLast?_ne_of_isWord {quote : Char} (isQuote : IsQuote quote) {text : List Char}
    (word : Text.isWord text = true) : text.getLast? ≠ some quote := by
  intro last
  apply Text.isWord_iff.1 word quote (List.mem_of_getLast? last)
  rcases isQuote with rfl | rfl
  · decide
  · decide

theorem ofText_numeral {quote : Char} (isQuote : IsQuote quote) {spelling : String}
    (spelled : (∀ c ∈ spelling.toList, isNumeralChar c = true) ∧
      ∃ c, spelling.toList.head? = some c ∧ isNumeralStart c = true) :
    LeafShape.ofText quote spelling.toList = .number spelling := by
  obtain ⟨chars, c, head, start⟩ := spelled
  have word := Text.isWord_of_isNumeralChar chars
  rw [LeafShape.ofText, if_neg (getLast?_ne_of_isWord isQuote word), head, Option.any_some,
    if_pos start, String.ofList_toList]

/-- The text of a leaf says its shape. -/
theorem ofText_print (options : PrintOptions) (atom : Atom) :
    LeafShape.ofText options.quote.char (atom.print options) = atom.shape := by
  have isQuote := options.quote.isQuote_char
  cases atom with
  | identifier name =>
      obtain ⟨c, head, start⟩ := name.head?_spec
      have notNumeral := Text.not_isNumeralStart_of_isNameStart start
      rw [print, LeafShape.ofText,
        if_neg (getLast?_ne_of_isWord isQuote name.isWord), head, Option.any_some,
        notNumeral, String.ofList_toList]
      rfl
  | int literal => exact ofText_numeral isQuote literal.spelling_spec
  | float literal => exact ofText_numeral isQuote literal.spelling_spec
  | string text => exact ofText_quotedChars isQuote text false options.asciiOnly
  | bytes text => exact ofText_quotedChars isQuote text true options.asciiOnly

/-- Leaves are written alike exactly if they have one shape. -/
theorem print_eq_print_iff {options : PrintOptions} {a b : Atom} :
    a.print options = b.print options ↔ a.shape = b.shape := by
  constructor
  · intro same
    rw [← ofText_print options a, same, ofText_print]
  · intro same
    cases a <;> cases b <;> simp_all [shape, print]

theorem passes_quotedChars {quote separator : Char} (isQuote : IsQuote quote)
    (separates : separator ∈ [' ', ',']) (level : Nat) (text : List Char)
    (bytes asciiOnly : Bool) :
    Text.Passes quote separator level (quotedChars text bytes quote asciiOnly) := by
  have notSeparator : quote ≠ separator := by
    rintro rfl
    rcases isQuote with rfl | rfl
    · exact absurd separates (by decide)
    · exact absurd separates (by decide)
  have literal : Text.Passes quote separator level
      (quote :: (quotedBody quote asciiOnly text ++ [quote])) :=
    .literal notSeparator (crosses_quotedBody isQuote asciiOnly text)
  cases bytes with
  | false => exact literal
  | true =>
      refine .cons (isQuote.ne (by decide)) (by decide) (.inl ?_) literal
      rintro rfl
      exact absurd separates (by decide)

/-- The text of a leaf is never split. -/
theorem passes_print (options : PrintOptions) {separator : Char}
    (separates : separator ∈ [' ', ',']) (level : Nat) (atom : Atom) :
    Text.Passes options.quote.char separator level (atom.print options) := by
  have isQuote := options.quote.isQuote_char
  cases atom with
  | identifier name => exact passes_of_isWord isQuote separates name.isWord
  | int literal =>
      exact passes_of_isWord isQuote separates
        (Text.isWord_of_isNumeralChar literal.spelling_spec.1)
  | float literal =>
      exact passes_of_isWord isQuote separates
        (Text.isWord_of_isNumeralChar literal.spelling_spec.1)
  | string text => exact passes_quotedChars isQuote separates level text.toList false _
  | bytes text => exact passes_quotedChars isQuote separates level text.toList true _

/-- The text of a leaf begins neither like a list, nor like an operand between parentheses, nor like
an operator expression. -/
theorem head?_print (options : PrintOptions) (atom : Atom) :
    ∃ c, (atom.print options).head? = some c ∧ c ∉ ['(', '[', '-', '+', '~'] := by
  have isQuote := options.quote.isQuote_char
  cases atom with
  | identifier identifier =>
      obtain ⟨c, head, start⟩ := identifier.head?_spec
      exact ⟨c, head, Text.not_mem_of_any_eq_false (by decide) start⟩
  | int literal =>
      obtain ⟨c, head, start⟩ := literal.spelling_spec.2
      exact ⟨c, head, Text.not_mem_of_any_eq_false (by decide) start⟩
  | float literal =>
      obtain ⟨c, head, start⟩ := literal.spelling_spec.2
      exact ⟨c, head, Text.not_mem_of_any_eq_false (by decide) start⟩
  | string text =>
      refine ⟨options.quote.char, rfl, ?_⟩
      rcases isQuote with quote | quote
      · rw [quote]
        decide
      · rw [quote]
        decide
  | bytes text => exact ⟨'b', rfl, by decide⟩

end Atom

end ExprTree
