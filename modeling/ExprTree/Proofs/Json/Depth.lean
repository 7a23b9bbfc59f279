/-
# ExprTree.Proofs.Json.Depth — how deep a text is nested

A text can be scanned for the arrays and objects that are open at each of its characters; only the
brackets and braces outside strings count (`Scan.next`), and `openDepth` is the largest number that
is reached. A scan knows nothing of values. On a layout it takes each token for what it is
(`Scan.token`): blanks, strings and numbers change no level, so only the marks are left, and an
array or object lifts its items by one.

Main statements: `Lays.openDepth`, a text that lays out a value is nested as deep as the value, and
`Regular.openDepth_write`, so is the text that is written.
-/
import ExprTree.Proofs.Json.Layout

namespace ExprTree.Json

set_option autoImplicit false

open Text (isDigitIn)

/-- What a character stands in. -/
inductive Surrounding where
  | outside
  | string
  /-- Behind a backslash in a string. -/
  | escape

/-- A scan of a text, after some of its characters. -/
structure Scan where
  surrounding : Surrounding
  /-- The number of arrays and objects that are open. -/
  level : Nat
  /-- The largest number that were open at once so far. -/
  deepest : Nat

def Scan.next (scan : Scan) (c : Char) : Scan :=
  match scan.surrounding with
  | .outside =>
      if c = '"' then { scan with surrounding := .string }
      else if c = '[' ∨ c = '\x7b' then
        { scan with level := scan.level + 1, deepest := max scan.deepest (scan.level + 1) }
      else if c = ']' ∨ c = '\x7d' then { scan with level := scan.level - 1 }
      else scan
  | .string =>
      if c = '"' then { scan with surrounding := .outside }
      else if c = '\\' then { scan with surrounding := .escape }
      else scan
  | .escape => { scan with surrounding := .string }

/-- The largest number of arrays and objects that are open at once in a text. -/
def openDepth (text : List Char) : Nat :=
  (text.foldl Scan.next ⟨.outside, 0, 0⟩).deepest

/-! ## Strings and numbers -/

/-- Characters that each leave the scan as it is do so together. -/
theorem foldl_next_of_forall {scan : Scan} {chars : List Char}
    (still : ∀ c ∈ chars, scan.next c = scan) : chars.foldl Scan.next scan = scan := by
  induction chars with
  | nil => rfl
  | cons c chars ih =>
      rw [List.forall_mem_cons] at still
      rw [List.foldl_cons, still.1, ih still.2]

variable (level deepest : Nat)

theorem next_string {c : Char} (notQuote : c ≠ '"') (notBackslash : c ≠ '\\') :
    Scan.next ⟨.string, level, deepest⟩ c = ⟨.string, level, deepest⟩ := by
  simp only [Scan.next, if_neg notQuote, if_neg notBackslash]

theorem next_outside {c : Char} (other : c ∉ ['"', '[', '\x7b', ']', '\x7d']) :
    Scan.next ⟨.outside, level, deepest⟩ c = ⟨.outside, level, deepest⟩ := by
  simp only [List.mem_cons, List.not_mem_nil, or_false, not_or] at other
  simp only [Scan.next, other, if_false, or_false]

theorem IsCode.foldl_next {digits : List Char} {code : Nat} (isCode : IsCode digits code) :
    digits.foldl Scan.next ⟨.string, level, deepest⟩ = ⟨.string, level, deepest⟩ := by
  refine foldl_next_of_forall fun digit member => ?_
  have isDigit := isCode.each digit member
  exact next_string level deepest (Text.ne_of_isDigitIn isDigit (by decide))
    (Text.ne_of_isDigitIn isDigit (by decide))

/-- The spelling of a character does not leave the string. -/
theorem SpelledAs.foldl_next {c : Char} {units : List StringUnit} {chars : List Char}
    (spelled : SpelledAs c units chars) :
    chars.foldl Scan.next ⟨.string, level, deepest⟩ = ⟨.string, level, deepest⟩ := by
  cases spelled with
  | itself notQuote notBackslash _ => exact next_string level deepest notQuote notBackslash
  | marked _ => rfl
  | numbered code => exact code.foldl_next level deepest
  | paired _ first second =>
      -- behind the backslash and its letter the scan is in the string again
      show List.foldl Scan.next ⟨.string, level, deepest⟩ (_ ++ '\\' :: 'u' :: _) = _
      rw [List.foldl_append, first.foldl_next]
      exact second.foldl_next level deepest

theorem SpelledText.foldl_next {text spelling : List Char} (spelled : SpelledText text spelling) :
    spelling.foldl Scan.next ⟨.string, level, deepest⟩ = ⟨.string, level, deepest⟩ := by
  induction spelled with
  | nil => rfl
  | cons spelled _ ih => rw [List.foldl_append, spelled.foldl_next, ih]

theorem foldl_string {text spelling : List Char} (spelled : SpelledText text spelling) :
    ('"' :: (spelling ++ ['"'])).foldl Scan.next ⟨.outside, level, deepest⟩ =
      ⟨.outside, level, deepest⟩ := by
  show List.foldl Scan.next ⟨.string, level, deepest⟩ (spelling ++ ['"']) = _
  rw [List.foldl_append, spelled.foldl_next]
  rfl

/-- The characters of a number: digits, a sign, a point and the letter of an exponent. -/
theorem mem_writeNumber {number : JsonNumber} (regular : number.Regular) {c : Char}
    (member : c ∈ writeNumber number) : isDigitIn 10 c = true ∨ c ∈ ['-', '.', 'e'] := by
  have sign {negative : Prop} [Decidable negative]
      (member : c ∈ if negative then ['-'] else []) : c ∈ ['-', '.', 'e'] := by
    split at member
    · rw [List.mem_singleton.1 member]
      decide
    · cases member
  rw [writeNumber_eq, List.mem_append, List.mem_append, List.mem_append] at member
  rcases member with minus | digit | point | letter
  · exact .inr (sign minus)
  · exact .inl (regular.whole.2 c digit)
  · cases fraction : number.fraction with
    | none => simp [fraction, writeFraction] at point
    | some digits =>
        rw [fraction, writeFraction, List.mem_cons] at point
        rcases point with rfl | digit
        · exact .inr (by decide)
        · exact .inl ((regular.fraction digits fraction).2 c digit)
  · cases exponent : number.exponent with
    | none => simp [exponent, writeExponent] at letter
    | some exponent' =>
        rw [exponent, writeExponent, List.mem_cons, List.mem_append] at letter
        rcases letter with rfl | minus | digit
        · exact .inr (by decide)
        · exact .inr (sign minus)
        · exact .inl ((Text.isDigits_toDigits _).2 c digit)

theorem foldl_writeNumber {number : JsonNumber} (regular : number.Regular) :
    (writeNumber number).foldl Scan.next ⟨.outside, level, deepest⟩ =
      ⟨.outside, level, deepest⟩ := by
  refine foldl_next_of_forall fun c member => next_outside level deepest fun special => ?_
  have plain := mem_writeNumber regular member
  simp only [List.mem_cons, List.not_mem_nil, or_false] at special
  rcases special with rfl | rfl | rfl | rfl | rfl <;> revert plain <;> decide

/-! ## Layouts -/

def Scan.token (scan : Scan) : Token → Scan
  | .openArray | .openObject =>
      { scan with level := scan.level + 1, deepest := max scan.deepest (scan.level + 1) }
  | .closeArray | .closeObject => { scan with level := scan.level - 1 }
  | .comma | .colon | .scalar _ => scan

/-- A spelled token is taken for what it is. -/
theorem Token.SpelledBy.foldl_next {token : Token} {chars : List Char}
    (spelled : token.SpelledBy chars) : chars.foldl Scan.next ⟨.outside, level, deepest⟩ =
      Scan.token ⟨.outside, level, deepest⟩ token := by
  cases spelled with
  | number regular => exact foldl_writeNumber level deepest regular
  | string spelled => exact foldl_string level deepest spelled
  | _ => rfl

/-- A scan of a layout goes by its tokens alone. -/
theorem Lays.foldl_next {tokens : List Token} {text : List Char} (lays : Lays tokens text) :
    text.foldl Scan.next ⟨.outside, level, deepest⟩ =
      tokens.foldl Scan.token ⟨.outside, level, deepest⟩ := by
  induction lays generalizing level deepest with
  | nil => rfl
  | @blank c _ _ blank _ ih =>
      have still : Scan.next ⟨.outside, level, deepest⟩ c = ⟨.outside, level, deepest⟩ := by
        simp only [List.mem_cons, List.not_mem_nil, or_false] at blank
        rcases blank with rfl | rfl | rfl | rfl <;> rfl
      rw [List.foldl_cons, still, ih]
  | @token token _ _ _ spelled _ ih =>
      rw [List.foldl_append, spelled.foldl_next, List.foldl_cons]
      -- no token ends inside a string
      cases token <;> exact ih _ _

/-! ## Values -/

/-- The tokens reach `depth` levels above the one they begin at and end at that level. -/
def Nests (depth : Nat) (tokens : List Token) : Prop :=
  ∀ level deepest : Nat, level ≤ deepest →
    tokens.foldl Scan.token ⟨.outside, level, deepest⟩ =
      ⟨.outside, level, max deepest (level + depth)⟩

theorem nests_nil : Nests 0 [] := by
  intro level deepest le
  rw [Nat.add_zero, Nat.max_eq_left le]
  rfl

/-- A token that changes no level does not matter. -/
theorem Nests.cons {depth : Nat} {token : Token} {tokens : List Token} (nests : Nests depth tokens)
    (still : token ∉ [.openArray, .closeArray, .openObject, .closeObject]) :
    Nests depth (token :: tokens) := by
  intro level deepest le
  have same : Scan.token ⟨.outside, level, deepest⟩ token = ⟨.outside, level, deepest⟩ := by
    cases token <;> first | rfl | simp at still
  rw [List.foldl_cons, same, nests level deepest le]

/-- Tokens that stand side by side nest as deep as the deeper ones. -/
theorem Nests.append {depth depth' : Nat} {tokens tokens' : List Token}
    (first : Nests depth tokens) (second : Nests depth' tokens') :
    Nests (max depth depth') (tokens ++ tokens') := by
  intro level deepest le
  rw [List.foldl_append, first level deepest le,
    second level _ (Nat.le_trans le (Nat.le_max_left _ _))]
  congr 1
  omega

/-- A bracket or brace and its counterpart lift what is between them by one level. -/
theorem Nests.enclose {depth : Nat} {tokens : List Token} {opening closing : Token}
    (inside : Nests depth tokens) (opens : opening = .openArray ∨ opening = .openObject)
    (closes : closing = .closeArray ∨ closing = .closeObject) :
    Nests (1 + depth) (opening :: (tokens ++ [closing])) := by
  intro level deepest le
  have open' : Scan.token ⟨.outside, level, deepest⟩ opening =
      ⟨.outside, level + 1, max deepest (level + 1)⟩ := by
    rcases opens with rfl | rfl <;> rfl
  have close (deepest : Nat) : Scan.token ⟨.outside, level + 1, deepest⟩ closing =
      ⟨.outside, level, deepest⟩ := by
    rcases closes with rfl | rfl <;> rfl
  rw [List.foldl_cons, open', List.foldl_append, inside _ _ (Nat.le_max_right _ _),
    List.foldl_cons, close, List.foldl_nil]
  congr 1
  omega

theorem nests_itemTokens {items : List Json} (each : ∀ item ∈ items, Nests item.depth item.tokens) :
    Nests (itemsDepth items) (itemTokens items) := by
  induction items with
  | nil => exact nests_nil
  | cons item rest ih =>
      rw [List.forall_mem_cons] at each
      rw [itemsDepth, itemTokens]
      refine each.1.append ?_
      cases rest with
      | nil => exact nests_nil
      | cons next rest => exact (ih each.2).cons (by simp)

theorem nests_fieldTokens {fields : List (Option String × Json)}
    (each : ∀ field ∈ fields, Nests field.2.depth field.2.tokens) :
    Nests (fieldsDepth fields) (fieldTokens fields) := by
  induction fields with
  | nil => exact nests_nil
  | cons field rest ih =>
      obtain ⟨name, value⟩ := field
      rw [List.forall_mem_cons] at each
      rw [fieldsDepth, fieldTokens]
      refine ((each.1.append ?_).cons (by simp)).cons (by simp)
      cases rest with
      | nil => exact nests_nil
      | cons next rest => exact (ih each.2).cons (by simp)

theorem nests_tokens (json : Json) : Nests json.depth json.tokens := by
  induction json using Json.induct with
  | array items each => exact (nests_itemTokens each).enclose (.inl rfl) (.inl rfl)
  | object fields each => exact (nests_fieldTokens each).enclose (.inr rfl) (.inr rfl)
  | _ => exact nests_nil.cons (by simp)

/-- A text that lays out a value is nested as deep as the value. -/
theorem Lays.openDepth {json : Json} {text : List Char} (lays : Lays json.tokens text) :
    openDepth text = json.depth := by
  rw [Json.openDepth, lays.foldl_next, nests_tokens json 0 0 (Nat.le_refl 0), Nat.zero_add,
    Nat.zero_max]

/-- The text of a value is nested as deep as the value. -/
theorem Regular.openDepth_write {json : Json} (regular : Regular json) :
    openDepth json.write = json.depth :=
  regular.lays.openDepth

end ExprTree.Json
