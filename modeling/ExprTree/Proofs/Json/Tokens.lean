/-
# ExprTree.Proofs.Json.Tokens — the tokens of a value and their characters

A value consists of tokens (`Json.tokens`). A string is spelled character by character, and a
character by itself or by an escape (`SpelledAs`); whatever the spelling is, the string is read with
its content (`SpelledText.string?_append`). What is written is one of the spellings.

Numbers are written by the digits they have, so a number is read back only if its digits are such as
a reader takes (`JsonNumber.Regular`) and if it does not go on behind them (`EndsNumber`).
-/
import ExprTree.Json.Token
import ExprTree.Json.Write
import ExprTree.Proofs.Text.Digits
import Mathlib.Data.List.TakeWhile

namespace ExprTree

set_option autoImplicit false

open Text (IsDigits fixedHex isDigitIn numeralValue)

/-- The number consists of digits, with no superfluous zero in front and at least one of them after
a point. -/
structure JsonNumber.Regular (number : JsonNumber) : Prop where
  whole : IsDigits 10 number.whole
  front : number.whole.head? = some '0' → number.whole = ['0']
  fraction : ∀ digits ∈ number.fraction, IsDigits 10 digits

namespace Json

/-! ## The tokens of a value -/

mutual

def tokens : Json → List Token
  | .array items => .openArray :: (itemTokens items ++ [.closeArray])
  | .object fields => .openObject :: (fieldTokens fields ++ [.closeObject])
  | value => [.scalar value]

def itemTokens : List Json → List Token
  | [] => []
  | item :: rest => item.tokens ++ if rest.isEmpty then [] else .comma :: itemTokens rest

def fieldTokens : List (Option String × Json) → List Token
  | [] => []
  | (name, value) :: rest =>
      .scalar (.string name) :: .colon :: (value.tokens ++
        if rest.isEmpty then [] else .comma :: fieldTokens rest)

end

/-! ## Strings -/

/-- The marks that stand behind a backslash, each with the character it means. -/
def escapes : List (Char × Char) :=
  [('"', '"'), ('\\', '\\'), ('/', '/'), ('b', '\x08'), ('f', '\x0c'), ('n', '\n'), ('r', '\r'),
    ('t', '\t')]

/-- Four hexadecimal digits, of either case, of that value. -/
structure IsCode (digits : List Char) (code : Nat) : Prop where
  length : digits.length = 4
  each : ∀ digit ∈ digits, isDigitIn 16 digit = true
  value : numeralValue 16 digits = code

/-- The ways to spell a character in a string. It is one unit, or two when it is named by the halves
of a surrogate pair. -/
inductive SpelledAs (c : Char) : List StringUnit → List Char → Prop where
  | itself (notQuote : c ≠ '"') (notBackslash : c ≠ '\\') (visible : 0x20 ≤ c.toNat) :
      SpelledAs c [.literal c] [c]
  | marked {mark : Char} (known : (mark, c) ∈ escapes) : SpelledAs c [.literal c] ['\\', mark]
  | numbered {digits : List Char} (code : IsCode digits c.toNat) :
      SpelledAs c [.numbered c.toNat] ('\\' :: 'u' :: digits)
  | paired {high low : List Char} (beyond : 0x10000 ≤ c.toNat)
      (first : IsCode high (0xD800 + (c.toNat - 0x10000) / 0x400))
      (second : IsCode low (0xDC00 + (c.toNat - 0x10000) % 0x400)) :
      SpelledAs c [.numbered (0xD800 + (c.toNat - 0x10000) / 0x400),
        .numbered (0xDC00 + (c.toNat - 0x10000) % 0x400)]
        ('\\' :: 'u' :: (high ++ '\\' :: 'u' :: low))

/-- The characters of a text are spelled one after the other. -/
inductive SpelledText : List Char → List Char → Prop where
  | nil : SpelledText [] []
  | cons {c : Char} {units : List StringUnit} {chars text spelling : List Char}
      (spelled : SpelledAs c units chars) (rest : SpelledText text spelling) :
      SpelledText (c :: text) (chars ++ spelling)

theorem isCode_fixedHex {code : Nat} (fits : code < 0x10000) : IsCode (fixedHex 4 code) code where
  length := Text.fixedHex_length 4 code
  each := fun _ => Text.isDigitIn_of_mem_fixedHex
  value := @Text.numeralValue_fixedHex 4 code fits

/-- Every character is written in one of these ways. -/
theorem spelledAs_writeChar (c : Char) : ∃ units, SpelledAs c units (writeChar c) := by
  unfold writeChar
  split
  next quote =>
    subst quote
    exact ⟨_, .marked (by decide)⟩
  next notQuote =>
  split
  next backslash =>
    subst backslash
    exact ⟨_, .marked (by decide)⟩
  next notBackslash =>
  split
  next backspace =>
    subst backspace
    exact ⟨_, .marked (by decide)⟩
  split
  next tab =>
    subst tab
    exact ⟨_, .marked (by decide)⟩
  split
  next newline =>
    subst newline
    exact ⟨_, .marked (by decide)⟩
  split
  next formFeed =>
    subst formFeed
    exact ⟨_, .marked (by decide)⟩
  split
  next carriageReturn =>
    subst carriageReturn
    exact ⟨_, .marked (by decide)⟩
  split
  next control => exact ⟨_, .numbered (isCode_fixedHex (by omega))⟩
  next visible => exact ⟨_, .itself notQuote notBackslash (Nat.not_lt.1 visible)⟩

/-- A text is written in one of these ways. -/
theorem spelledText_writeChar (text : List Char) : SpelledText text (text.flatMap writeChar) := by
  induction text with
  | nil => exact .nil
  | cons c text ih =>
      obtain ⟨units, spelled⟩ := spelledAs_writeChar c
      rw [List.flatMap_cons]
      exact .cons spelled ih

/-- Behind a backslash and its letter, four digits are read as their value. -/
theorem IsCode.stringUnits?_append {digits : List Char} {code : Nat} (isCode : IsCode digits code)
    (rest : List Char) : stringUnits? ('\\' :: 'u' :: (digits ++ rest)) =
      (stringUnits? rest).map fun (units, after) => (.numbered code :: units, after) := by
  obtain ⟨length, each, value⟩ := isCode
  obtain ⟨a, b, c, d, rfl⟩ := List.length_eq_four.1 length
  simp only [List.cons_append, List.nil_append, stringUnits?, value]
  rw [if_pos (List.all_eq_true.2 each)]

/-- A number that is no half of a pair stands for the character of that number. -/
theorem stringContent?_cons_numbered {code : Nat} (notHigh : isHighHalf code = false)
    (notLow : isLowHalf code = false) (units : List StringUnit) :
    stringContent? (.numbered code :: units) =
      (stringContent? units).map (Char.ofNat code :: ·) := by
  cases units with
  | nil => simp [stringContent?, notHigh, notLow]
  | cons unit units => cases unit <;> simp [stringContent?, notHigh, notLow]

theorem notHalf_toNat (c : Char) : isHighHalf c.toNat = false ∧ isLowHalf c.toNat = false := by
  have valid : c.toNat < 0xD800 ∨ 0xDFFF < c.toNat ∧ c.toNat < 0x110000 := c.valid
  simp only [isHighHalf, isLowHalf, Bool.and_eq_false_iff, decide_eq_false_iff_not]
  omega

/-- The halves of a character beyond sixteen bits stand for it together. -/
theorem stringContent?_cons_paired {c : Char} (beyond : 0x10000 ≤ c.toNat)
    (units : List StringUnit) :
    stringContent? (.numbered (0xD800 + (c.toNat - 0x10000) / 0x400) ::
        .numbered (0xDC00 + (c.toNat - 0x10000) % 0x400) :: units) =
      (stringContent? units).map (c :: ·) := by
  have valid : c.toNat < 0xD800 ∨ 0xDFFF < c.toNat ∧ c.toNat < 0x110000 := c.valid
  have isHigh : isHighHalf (0xD800 + (c.toNat - 0x10000) / 0x400) = true := by
    simp only [isHighHalf, Bool.and_eq_true, decide_eq_true_eq]
    omega
  have isLow : isLowHalf (0xDC00 + (c.toNat - 0x10000) % 0x400) = true := by
    simp only [isLowHalf, Bool.and_eq_true, decide_eq_true_eq]
    omega
  have joined : joinHalves (0xD800 + (c.toNat - 0x10000) / 0x400)
      (0xDC00 + (c.toNat - 0x10000) % 0x400) = c := by
    have whole : 0x10000 + (0xD800 + (c.toNat - 0x10000) / 0x400 - 0xD800) * 0x400 +
        (0xDC00 + (c.toNat - 0x10000) % 0x400 - 0xDC00) = c.toNat := by omega
    rw [joinHalves, whole, Char.ofNat_toNat]
  rw [stringContent?, if_pos isHigh, if_pos isLow, joined]

namespace SpelledAs

variable {c : Char} {units : List StringUnit} {chars : List Char}

/-- The spelling of a character is read as its units, whatever follows. -/
theorem stringUnits?_append (spelled : SpelledAs c units chars) (rest : List Char) :
    stringUnits? (chars ++ rest) =
      (stringUnits? rest).map fun (more, after) => (units ++ more, after) := by
  cases spelled with
  | itself notQuote notBackslash visible =>
      have plain : ¬ (c = '\\' ∨ c.toNat < 0x20) := by
        rintro (backslash | control)
        · exact notBackslash backslash
        · omega
      rw [List.singleton_append, stringUnits?, if_neg plain]
      · rfl
      · exact notQuote
      · exact fun _ _ _ _ _ backslash => absurd backslash notBackslash
      · exact fun _ _ backslash => absurd backslash notBackslash
  | marked known =>
      simp only [escapes, List.mem_cons, Prod.mk.injEq, List.not_mem_nil, or_false] at known
      rcases known with ⟨rfl, rfl⟩ | ⟨rfl, rfl⟩ | ⟨rfl, rfl⟩ | ⟨rfl, rfl⟩ | ⟨rfl, rfl⟩ |
        ⟨rfl, rfl⟩ | ⟨rfl, rfl⟩ | ⟨rfl, rfl⟩ <;> rfl
  | numbered code => exact code.stringUnits?_append rest
  | paired beyond first second =>
      rw [List.cons_append, List.cons_append, List.append_assoc, List.cons_append, List.cons_append,
        first.stringUnits?_append, second.stringUnits?_append, Option.map_map]
      rfl

/-- The units of a character stand for the character. -/
theorem stringContent?_append (spelled : SpelledAs c units chars) (more : List StringUnit) :
    stringContent? (units ++ more) = (stringContent? more).map (c :: ·) := by
  cases spelled with
  | itself _ _ _ => rw [List.singleton_append, stringContent?]
  | marked _ => rw [List.singleton_append, stringContent?]
  | numbered _ =>
      obtain ⟨notHigh, notLow⟩ := notHalf_toNat c
      rw [List.singleton_append, stringContent?_cons_numbered notHigh notLow, Char.ofNat_toNat]
  | paired beyond _ _ => exact stringContent?_cons_paired beyond more

end SpelledAs

/-- The spelling of a text is read as units that stand for it, whatever follows its closing
quote. -/
theorem SpelledText.exists_units {text spelling : List Char} (spelled : SpelledText text spelling)
    (rest : List Char) : ∃ units, stringUnits? (spelling ++ '"' :: rest) = some (units, rest) ∧
      stringContent? units = some text := by
  induction spelled with
  | nil => exact ⟨[], by simp [stringUnits?], rfl⟩
  | @cons c own chars text spelling spelled _ ih =>
      obtain ⟨units, read, content⟩ := ih
      refine ⟨own ++ units, ?_, ?_⟩
      · rw [List.append_assoc, spelled.stringUnits?_append, read, Option.map_some]
      · rw [spelled.stringContent?_append, content, Option.map_some]

/-- A string is read with its content, whatever follows its closing quote. -/
theorem SpelledText.string?_append {text spelling : List Char}
    (spelled : SpelledText text spelling) (rest : List Char) :
    string? (spelling ++ '"' :: rest) = some (.string (some (String.ofList text)), rest) := by
  obtain ⟨units, read, content⟩ := spelled.exists_units rest
  simp [string?, read, content]

/-! ## Numbers -/

/-- The text does not go on with a digit. -/
def EndsDigits (rest : List Char) : Prop :=
  ∀ c ∈ rest.head?, isDigitIn 10 c = false

/-- The text does not go on with what a number could take. -/
def EndsNumber (rest : List Char) : Prop :=
  EndsDigits rest ∧ ∀ c ∈ rest.head?, c ∉ ['.', 'e', 'E']

theorem endsNumber_nil : EndsNumber [] := by
  constructor <;> simp [EndsDigits]

theorem endsNumber_cons {c : Char} (other : isDigitIn 10 c = false ∧ c ∉ ['.', 'e', 'E'])
    (rest : List Char) : EndsNumber (c :: rest) := by
  constructor <;> rintro _ ⟨⟩
  exacts [other.1, other.2]

theorem someDigits?_append {digits rest : List Char} (row : IsDigits 10 digits)
    (ends : EndsDigits rest) : someDigits? (digits ++ rest) = some (digits, rest) := by
  have taken : (digits ++ rest).takeWhile (isDigitIn 10) = digits := by
    rw [List.takeWhile_append_of_pos row.2]
    cases rest with
    | nil => simp
    | cons c rest => simp [ends c rfl]
  simp only [someDigits?, taken, List.drop_left]
  rw [if_neg (by simpa using row.1)]

theorem wholeDigits?_append {number : JsonNumber} (regular : number.Regular) {rest : List Char}
    (ends : EndsDigits rest) :
    wholeDigits? (number.whole ++ rest) = some (number.whole, rest) := by
  by_cases zero : number.whole.head? = some '0'
  · rw [regular.front zero]
    rfl
  · have digits := someDigits?_append regular.whole ends
    obtain ⟨c, tail, whole, -⟩ := regular.whole.exists_cons
    rw [whole] at digits zero ⊢
    unfold wholeDigits?
    split
    next heads => exact absurd (congrArg some (List.cons.inj heads).1) zero
    next => exact digits

def writeFraction (fraction : Option (List Char)) : List Char :=
  match fraction with
  | some digits => '.' :: digits
  | none => []

def writeExponent (exponent : Option Int) : List Char :=
  match exponent with
  | some exponent =>
      'e' :: ((if exponent < 0 then ['-'] else []) ++ Nat.toDigits 10 exponent.natAbs)
  | none => []

theorem writeNumber_eq (number : JsonNumber) :
    writeNumber number = (if number.negative then ['-'] else []) ++
      (number.whole ++ (writeFraction number.fraction ++ writeExponent number.exponent)) := by
  rw [writeNumber, List.append_assoc, List.append_assoc]
  rfl

theorem fraction?_append {number : JsonNumber} (regular : number.Regular) {rest : List Char}
    (ends : EndsDigits rest) (noPoint : rest.head? ≠ some '.') :
    fraction? (writeFraction number.fraction ++ rest) = some (number.fraction, rest) := by
  cases fraction : number.fraction with
  | some digits =>
      have row := regular.fraction digits fraction
      rw [writeFraction, List.cons_append, fraction?, someDigits?_append row ends]
      rfl
  | none =>
      rw [writeFraction, List.nil_append]
      unfold fraction?
      split
      · exact absurd rfl noPoint
      · rfl

theorem exponent?_append (exponent : Option Int) {rest : List Char} (ends : EndsNumber rest) :
    exponent? (writeExponent exponent ++ rest) = some (exponent, rest) := by
  cases exponent with
  | some exponent =>
      have digits := Text.isDigits_toDigits exponent.natAbs
      have read := someDigits?_append digits ends.1
      rw [writeExponent, List.cons_append, List.append_assoc, exponent?, if_pos (.inl rfl)]
      by_cases negative : exponent < 0
      · simp only [if_pos negative, List.singleton_append, Text.splitSign, read, Option.map_some,
          Text.numeralValue_toDigits, if_true]
        rw [Int.ofNat_natAbs_of_nonpos (Int.le_of_lt negative), Int.neg_neg]
      · simp only [if_neg negative, List.nil_append, Text.splitSign_digits digits, read,
          Option.map_some, Text.numeralValue_toDigits, Bool.false_eq_true, if_false]
        rw [Int.natAbs_of_nonneg (Int.not_lt.1 negative)]
  | none =>
      rw [writeExponent, List.nil_append]
      cases rest with
      | nil => rfl
      | cons c rest =>
          have other := ends.2 c rfl
          simp only [List.mem_cons, not_or] at other
          rw [exponent?, if_neg (by tauto)]

theorem endsDigits_writeExponent_append (exponent : Option Int) {rest : List Char}
    (ends : EndsNumber rest) : EndsDigits (writeExponent exponent ++ rest) ∧
      (writeExponent exponent ++ rest).head? ≠ some '.' := by
  cases exponent with
  | some exponent =>
      constructor
      · rintro _ ⟨⟩
        decide
      · simp [writeExponent]
  | none => exact ⟨ends.1, fun point => by simpa using ends.2 '.' point⟩

theorem endsDigits_writeFraction_append (fraction : Option (List Char)) {rest : List Char}
    (ends : EndsDigits rest) : EndsDigits (writeFraction fraction ++ rest) := by
  cases fraction with
  | some digits =>
      rintro _ ⟨⟩
      decide
  | none => exact ends

/-- The digits of a number are read back, if what follows does not go on with them. -/
theorem unsigned?_append {number : JsonNumber} (regular : number.Regular) {rest : List Char}
    (ends : EndsNumber rest) :
    unsigned? number.negative (number.whole ++ (writeFraction number.fraction ++
      (writeExponent number.exponent ++ rest))) = some (.number number, rest) := by
  obtain ⟨afterFraction, noPoint⟩ := endsDigits_writeExponent_append number.exponent ends
  have afterWhole := endsDigits_writeFraction_append number.fraction afterFraction
  simp only [unsigned?, Option.bind_eq_bind, Option.bind_some,
    wholeDigits?_append regular afterWhole, fraction?_append regular afterFraction noPoint,
    exponent?_append number.exponent ends]
  rfl

end Json

end ExprTree
