/-
# ExprTree.Proofs.Json.Layout — the texts that lay out a row of tokens

A token can be spelled in several ways (`Token.SpelledBy`), and blanks may stand wherever no token
does (`Lays`). Splitting such a text gives the tokens back, as long as a mark stands between any two
words, numbers or strings (`Token.Apart`); in the tokens of a value this is always so. How a value
is written is one of the layouts of its tokens.

Main statements: `Lays.tokenize`, a layout is split into its tokens; `Regular.lays`, the text of a
value lays out the tokens of the value.
-/
import ExprTree.Proofs.Json.Tokens
import Mathlib.Data.List.Chain

namespace ExprTree.Json

set_option autoImplicit false

open Text (isDigitIn)

/-! ## Layouts -/

/-- The ways to spell a token. -/
inductive Token.SpelledBy : Token → List Char → Prop where
  | openArray : SpelledBy .openArray ['[']
  | closeArray : SpelledBy .closeArray [']']
  | openObject : SpelledBy .openObject ['\x7b']
  | closeObject : SpelledBy .closeObject ['\x7d']
  | comma : SpelledBy .comma [',']
  | colon : SpelledBy .colon [':']
  | null : SpelledBy (.scalar .null) ['n', 'u', 'l', 'l']
  | isTrue : SpelledBy (.scalar (.bool true)) ['t', 'r', 'u', 'e']
  | isFalse : SpelledBy (.scalar (.bool false)) ['f', 'a', 'l', 's', 'e']
  | number {number : JsonNumber} (regular : number.Regular) :
      SpelledBy (.scalar (.number number)) (writeNumber number)
  | string {text spelling : List Char} (spelled : SpelledText text spelling) :
      SpelledBy (.scalar (.string (some (String.ofList text)))) ('"' :: (spelling ++ ['"']))
  /-- A string that no text can hold. -/
  | half : SpelledBy (.scalar (.string none)) (writeString none)

/-- The text consists of the tokens, with any number of blanks around them. -/
inductive Lays : List Token → List Char → Prop where
  | nil : Lays [] []
  | blank {c : Char} {tokens : List Token} {text : List Char} (blank : c ∈ [' ', '\t', '\n', '\r'])
      (lays : Lays tokens text) : Lays tokens (c :: text)
  | token {token : Token} {chars : List Char} {tokens : List Token} {text : List Char}
      (spelled : token.SpelledBy chars) (lays : Lays tokens text) :
      Lays (token :: tokens) (chars ++ text)

theorem Lays.append {tokens tokens' : List Token} {text text' : List Char}
    (first : Lays tokens text) (second : Lays tokens' text') :
    Lays (tokens ++ tokens') (text ++ text') := by
  induction first with
  | nil => exact second
  | blank blank _ ih => exact .blank blank ih
  | token spelled _ ih =>
      rw [List.append_assoc]
      exact .token spelled ih

theorem Token.SpelledBy.lays {token : Token} {chars : List Char} (spelled : token.SpelledBy chars) :
    Lays [token] chars := by
  have alone := Lays.token spelled .nil
  rwa [List.append_nil] at alone

/-! ## Single tokens -/

/-- Blanks are passed over, then one token is taken off. -/
theorem tokenize_eq (chars : List Char) :
    tokenize chars = match chars.dropWhile isBlank with
      | [] => some []
      | c :: rest =>
          (next? c rest).bind fun (token, after) => (tokenize after).map (token :: ·) := by
  rw [tokenize]
  split
  next empty => rw [empty]
  next c rest begins =>
    rw [begins]
    split
    next stuck => simp only [stuck, Option.bind_none]
    next found => simp only [found, Option.bind_some]

theorem tokenize_blank {c : Char} (blank : isBlank c = true) (rest : List Char) :
    tokenize (c :: rest) = tokenize rest := by
  rw [tokenize_eq, tokenize_eq rest, List.dropWhile_cons_of_pos blank]

/-- A token that begins at once is taken off a text. -/
theorem tokenize_cons {c : Char} {rest after : List Char} {token : Token}
    (visible : isBlank c = false) (read : next? c rest = some (token, after)) :
    tokenize (c :: rest) = (tokenize after).map (token :: ·) := by
  rw [tokenize_eq, List.dropWhile_cons_of_neg (by simp [visible])]
  simp only [read, Option.bind_some]

theorem isBlank_of_isDigitIn {c : Char} (digit : isDigitIn 10 c = true) : isBlank c = false := by
  have other {c' : Char} := @Text.ne_of_isDigitIn 10 c c' digit
  simp [isBlank, other (by decide : isDigitIn 10 ' ' = false),
    other (by decide : isDigitIn 10 '\t' = false), other (by decide : isDigitIn 10 '\n' = false),
    other (by decide : isDigitIn 10 '\r' = false)]

/-- A token that begins with a digit is a number. -/
theorem next?_digit {c : Char} (digit : isDigitIn 10 c = true) (rest : List Char) :
    next? c rest =
      (unsigned? false (c :: rest)).map fun (value, after) => (.scalar value, after) := by
  have other {c' : Char} := @Text.ne_of_isDigitIn 10 c c' digit
  have noMark : mark? c = none := by
    unfold mark?
    split <;> first | rfl | exact absurd digit (by decide)
  rw [next?, noMark, scalar?, if_neg (other (by decide)), if_neg (other (by decide)),
    if_neg (other (by decide)), if_neg (other (by decide)), if_neg (other (by decide))]

/-- A number is taken off a text that does not go on with it. -/
theorem tokenize_writeNumber {number : JsonNumber} (regular : number.Regular) {rest : List Char}
    (ends : EndsNumber rest) : tokenize (writeNumber number ++ rest) =
      (tokenize rest).map (.scalar (.number number) :: ·) := by
  have read := unsigned?_append regular ends
  rw [writeNumber_eq, List.append_assoc, List.append_assoc, List.append_assoc]
  cases negative : number.negative with
  | true =>
      rw [negative] at read
      refine tokenize_cons rfl ?_
      show (unsigned? true (number.whole ++ _)).map _ = _
      rw [read, Option.map_some]
  | false =>
      obtain ⟨c, digits, whole, digit⟩ := regular.whole.exists_cons
      rw [negative, whole, List.cons_append] at read
      rw [whole, if_neg Bool.false_ne_true, List.nil_append, List.cons_append]
      refine tokenize_cons (isBlank_of_isDigitIn digit) ?_
      rw [next?_digit digit, read, Option.map_some]

namespace Token

/-- Whether the token is a mark; a mark ends every token before it. -/
def isMark : Token → Bool
  | .scalar _ => false
  | _ => true

/-- At least one of two neighbours is a mark. -/
def Apart (token next : Token) : Prop :=
  token.isMark = true ∨ next.isMark = true

variable {token : Token} {chars : List Char}

theorem SpelledBy.tokenize_append (spelled : token.SpelledBy chars) {rest : List Char}
    (ends : token.isMark = false → EndsNumber rest) :
    tokenize (chars ++ rest) = (tokenize rest).map (token :: ·) := by
  cases spelled with
  | number regular => exact tokenize_writeNumber regular (ends rfl)
  | string spelled =>
      rw [List.cons_append, List.append_assoc, List.singleton_append]
      refine tokenize_cons rfl ?_
      show (string? _).map _ = _
      rw [spelled.string?_append, Option.map_some]
  | _ => exact tokenize_cons rfl rfl

/-- A number does not go on with a mark. -/
theorem SpelledBy.endsNumber (spelled : token.SpelledBy chars) (mark : token.isMark = true)
    (rest : List Char) : EndsNumber (chars ++ rest) := by
  cases spelled with
  | openArray | closeArray | openObject | closeObject | comma | colon =>
      exact endsNumber_cons (by decide) rest
  | _ => cases mark

end Token

namespace Lays

variable {tokens : List Token} {text : List Char}

/-- A number does not go on with a blank, a mark or the end. -/
theorem endsNumber (lays : Lays tokens text) (mark : ∀ token ∈ tokens.head?, token.isMark = true) :
    EndsNumber text := by
  cases lays with
  | nil => exact endsNumber_nil
  | @blank c _ rest blank _ =>
      refine endsNumber_cons ?_ rest
      simp only [List.mem_cons, List.not_mem_nil, or_false] at blank
      rcases blank with rfl | rfl | rfl | rfl <;> decide
  | token spelled _ => exact spelled.endsNumber (mark _ rfl) _

theorem tokenize (lays : Lays tokens text) (apart : tokens.IsChain Token.Apart) :
    tokenize text = some tokens := by
  induction lays with
  | nil =>
      rw [Json.tokenize]
      rfl
  | @blank c _ _ blank _ ih =>
      have passed : isBlank c = true := by
        simp only [List.mem_cons, List.not_mem_nil, or_false] at blank
        rcases blank with rfl | rfl | rfl | rfl <;> rfl
      rw [tokenize_blank passed, ih apart]
  | @token token _ _ _ spelled lays ih =>
      obtain ⟨next, apart⟩ := List.isChain_cons.1 apart
      have ends (scalar : token.isMark = false) := lays.endsNumber fun token' follows =>
        (next token' follows).resolve_left (by simp [scalar])
      rw [spelled.tokenize_append ends, ih apart, Option.map_some]

end Lays

/-! ## Values -/

/-- Between rows of tokens, a mark keeps them apart. -/
theorem isChain_append_mark {tokens more : List Token} {mark : Token} (isMark : mark.isMark = true)
    (first : tokens.IsChain Token.Apart) (second : more.IsChain Token.Apart) :
    (tokens ++ mark :: more).IsChain Token.Apart := by
  refine List.isChain_append.2 ⟨first, List.isChain_cons.2 ⟨fun _ _ => .inl isMark, second⟩, ?_⟩
  rintro _ _ _ ⟨⟩
  exact .inr isMark

theorem isChain_itemTokens {items : List Json}
    (each : ∀ item ∈ items, item.tokens.IsChain Token.Apart) :
    (itemTokens items).IsChain Token.Apart := by
  induction items with
  | nil => exact .nil
  | cons item rest ih =>
      rw [List.forall_mem_cons] at each
      rw [itemTokens]
      cases rest with
      | nil => simpa using each.1
      | cons next rest => exact isChain_append_mark rfl each.1 (ih each.2)

theorem isChain_fieldTokens {fields : List (Option String × Json)}
    (each : ∀ field ∈ fields, field.2.tokens.IsChain Token.Apart) :
    (fieldTokens fields).IsChain Token.Apart := by
  induction fields with
  | nil => exact .nil
  | cons field rest ih =>
      obtain ⟨name, value⟩ := field
      rw [List.forall_mem_cons] at each
      rw [fieldTokens]
      refine @isChain_append_mark [_] _ _ rfl (.singleton _) ?_
      cases rest with
      | nil => simpa using each.1
      | cons next rest => exact isChain_append_mark rfl each.1 (ih each.2)

/-- In the tokens of a value, words, numbers and strings are kept apart by marks. -/
theorem isChain_tokens (json : Json) : json.tokens.IsChain Token.Apart := by
  induction json using Json.induct with
  | array items each =>
      refine @isChain_append_mark [] _ _ rfl .nil ?_
      exact isChain_append_mark rfl (isChain_itemTokens each) .nil
  | object fields each =>
      refine @isChain_append_mark [] _ _ rfl .nil ?_
      exact isChain_append_mark rfl (isChain_fieldTokens each) .nil
  | _ => exact .singleton _

/-- All numbers in the value consist of digits such as a reader takes. -/
inductive Regular : Json → Prop where
  | null : Regular .null
  | bool (value : Bool) : Regular (.bool value)
  | number {value : JsonNumber} (regular : value.Regular) : Regular (.number value)
  | string (content : Option String) : Regular (.string content)
  | array {items : List Json} (each : ∀ item ∈ items, Regular item) : Regular (.array items)
  | object {fields : List (Option String × Json)} (each : ∀ field ∈ fields, Regular field.2) :
      Regular (.object fields)

theorem lays_writeString (content : Option String) :
    Lays [.scalar (.string content)] (writeString content) := by
  cases content with
  | some text =>
      have spelled := Token.SpelledBy.string (spelledText_writeChar text.toList)
      rw [String.ofList_toList] at spelled
      exact spelled.lays
  | none => exact Token.SpelledBy.half.lays

theorem lays_writeItems {items : List Json} (each : ∀ item ∈ items, Lays item.tokens item.write) :
    Lays (itemTokens items) (writeItems items) := by
  induction items with
  | nil => exact .nil
  | cons item rest ih =>
      rw [List.forall_mem_cons] at each
      rw [itemTokens, writeItems]
      refine each.1.append ?_
      cases rest with
      | nil => exact .nil
      | cons next rest => exact .token .comma (ih each.2)

theorem lays_writeFields {fields : List (Option String × Json)}
    (each : ∀ field ∈ fields, Lays field.2.tokens field.2.write) :
    Lays (fieldTokens fields) (writeFields fields) := by
  induction fields with
  | nil => exact .nil
  | cons field rest ih =>
      obtain ⟨name, value⟩ := field
      rw [List.forall_mem_cons] at each
      rw [fieldTokens, writeFields]
      refine (lays_writeString name).append (.token .colon (each.1.append ?_))
      cases rest with
      | nil => exact .nil
      | cons next rest => exact .token .comma (ih each.2)

theorem Regular.lays {json : Json} (regular : Regular json) : Lays json.tokens json.write := by
  induction regular with
  | null => exact Token.SpelledBy.null.lays
  | bool value =>
      cases value with
      | true => exact Token.SpelledBy.isTrue.lays
      | false => exact Token.SpelledBy.isFalse.lays
  | number regular => exact (Token.SpelledBy.number regular).lays
  | string content => exact lays_writeString content
  | array each ih =>
      exact .token .openArray ((lays_writeItems ih).append Token.SpelledBy.closeArray.lays)
  | object each ih =>
      exact .token .openObject ((lays_writeFields ih).append Token.SpelledBy.closeObject.lays)

end ExprTree.Json
