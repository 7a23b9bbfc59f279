/-
# ExprTree.Proofs.Literal.Delimiters — what reading takes off a spelling

A spelling begins with a mark, and what follows the mark says by its first three characters which
delimiter has to be taken off both ends. `read_cases` is the one statement about all of this: later
proofs start from the mark, the delimiters and the body that it names, and open the reading of a
whole spelling no more. The delimiter at the end must not be escaped, which `endsEscaped` judges by
the backslashes in front of it; here it is taken through a body from its front.

Main statements: `read_eq_ok_iff`, for what is read, and `exists_readBody_of_read_error`, for what
is refused between the delimiters.
-/
import ExprTree.Literal.Quoted
import ExprTree.Proofs.Text.Digits
import Mathlib.Data.List.Basic

namespace ExprTree

set_option autoImplicit false

/-- The two characters that delimit literals. -/
def IsQuote (c : Char) : Prop :=
  c = '"' ∨ c = '\''

instance (c : Char) : Decidable (IsQuote c) :=
  inferInstanceAs (Decidable (_ ∨ _))

theorem IsQuote.ne {quote c : Char} (isQuote : IsQuote quote) (other : ¬ IsQuote c) :
    c ≠ quote := by
  rintro rfl
  exact other isQuote

/-! ## The end of a body -/

/-- Backslashes that come in pairs before it do not change what the end of a body is. -/
theorem endsEscaped_append (front : List Char) (paired : endsEscaped front = false)
    (rest : List Char) : endsEscaped (front ++ rest) = endsEscaped rest := by
  unfold endsEscaped at paired ⊢
  rw [List.reverse_append, List.takeWhile_append]
  split
  next whole =>
    have even : (front.reverse.takeWhile (· == '\\')).length % 2 = 0 := by simpa using paired
    rw [List.length_append, whole, Nat.add_mod, even, Nat.add_zero, Nat.mod_mod]
  next part => rfl

theorem endsEscaped_plain {c : Char} (plain : c ≠ '\\') (rest : List Char) :
    endsEscaped (c :: rest) = endsEscaped rest :=
  endsEscaped_append [c] (by simp [endsEscaped, plain]) rest

theorem endsEscaped_append_plain {row : List Char} (plain : ∀ c ∈ row, c ≠ '\\')
    (rest : List Char) : endsEscaped (row ++ rest) = endsEscaped rest := by
  induction row with
  | nil => rfl
  | cons c row ih =>
      obtain ⟨first, others⟩ := List.forall_mem_cons.1 plain
      rw [List.cons_append, endsEscaped_plain first, ih others]

theorem endsEscaped_digits {radix : Nat} {digits : List Char}
    (all : ∀ c ∈ digits, Text.isDigitIn radix c = true) (rest : List Char) :
    endsEscaped (digits ++ rest) = endsEscaped rest :=
  endsEscaped_append_plain (fun c member => Text.ne_of_isDigitIn (all c member) rfl) rest

@[simp] theorem endsEscaped_escape (c : Char) (rest : List Char) :
    endsEscaped ('\\' :: c :: rest) = endsEscaped rest := by
  refine endsEscaped_append ['\\', c] ?_ rest
  by_cases backslash : c = '\\' <;> simp [endsEscaped, backslash]

/-! ## Mark and delimiters -/

/-- The marks that ask for bytes, or for a raw literal, or for both. -/
def literalMarks (bytes raw : Bool) : List (List Char) :=
  match bytes, raw with
  | false, false => [[]]
  | true, false => [['b']]
  | false, true => [['r']]
  | true, true => [['r', 'b'], ['b', 'r']]

theorem QuotedStyle.getLast?_delimiter (style : QuotedStyle) :
    style.delimiter.getLast? = some style.quote := by
  rw [delimiter]
  split <;> rfl

namespace Quoted

theorem splitMark_append {bytes raw : Bool} {mark : List Char}
    (marked : mark ∈ literalMarks bytes raw) {quote : Char} (isQuote : IsQuote quote)
    (rest : List Char) : splitMark (mark ++ quote :: rest) = (bytes, raw, quote :: rest) := by
  revert mark
  rcases isQuote with rfl | rfl <;> cases bytes <;> cases raw <;> simp [literalMarks, splitMark]

/-- What is split off is a mark. -/
theorem exists_mark (spelling : List Char) :
    ∃ mark ∈ literalMarks (splitMark spelling).1 (splitMark spelling).2.1,
      spelling = mark ++ (splitMark spelling).2.2 := by
  unfold splitMark
  split
  · exact ⟨['r', 'b'], by simp [literalMarks], rfl⟩
  · exact ⟨['b', 'r'], by simp [literalMarks], rfl⟩
  · exact ⟨['b'], by simp [literalMarks], rfl⟩
  · exact ⟨['r'], by simp [literalMarks], rfl⟩
  · exact ⟨[], by simp [literalMarks], rfl⟩

theorem body?_eq_some_iff {delimiter rest body : List Char} (opens : delimiter <+: rest) :
    body? delimiter rest = some body ↔ rest = delimiter ++ (body ++ delimiter) := by
  obtain ⟨after, rfl⟩ := opens
  simp only [body?, List.drop_left, Option.ite_none_right_eq_some, List.isSuffixOf_iff_suffix,
    Option.some.injEq, List.append_cancel_left_eq]
  constructor
  · rintro ⟨⟨front, rfl⟩, rfl⟩
    simp
  · rintro rfl
    simp

/-- A literal begins with the delimiter that its first three characters ask for. -/
theorem delimiter_isPrefix (bytes raw : Bool) (quote : Char) (rest : List Char) :
    QuotedStyle.delimiter ⟨bytes, raw, [quote, quote, quote].isPrefixOf (quote :: rest), quote⟩ <+:
      quote :: rest := by
  cases triple : [quote, quote, quote].isPrefixOf (quote :: rest)
  · exact ⟨rest, rfl⟩
  · exact List.isPrefixOf_iff_prefix.1 triple

/-- Reading takes mark and delimiters off and reads the body between them, unless there is no
opening quote or the delimiter is missing at the end or escaped there. -/
theorem read_cases (spelling : String) :
    (∃ kind, read spelling = .error (.malformedLiteral kind .missingOpeningQuote)) ∨
      (∃ kind, read spelling = .error (.malformedLiteral kind .unterminated)) ∨
      ∃ style mark body, mark ∈ literalMarks style.bytes style.raw ∧ IsQuote style.quote ∧
        spelling.toList = mark ++ (style.delimiter ++ (body ++ style.delimiter)) ∧
        (style.triple = true ↔ [style.quote, style.quote, style.quote] <+:
          style.delimiter ++ (body ++ style.delimiter)) ∧
        endsEscaped body = false ∧
        read spelling = ((readBody style 0 body).map (⟨style, String.ofList ·⟩)).mapError
          (.malformedLiteral style.kind) := by
  obtain ⟨mark, marked, whole⟩ := exists_mark spelling.toList
  simp only [read]
  generalize splitMark spelling.toList = parts at marked whole
  obtain ⟨bytes, raw, rest⟩ := parts
  cases rest with
  | nil => exact .inl ⟨_, rfl⟩
  | cons quote tail =>
      simp only
      split
      case isFalse => exact .inl ⟨_, rfl⟩
      case isTrue isQuote =>
        split
        case h_1 => exact .inr (.inl ⟨_, rfl⟩)
        case h_2 body closed =>
          rw [body?_eq_some_iff (delimiter_isPrefix bytes raw quote tail)] at closed
          cases paired : endsEscaped body with
          | true => exact .inr (.inl ⟨_, rfl⟩)
          | false =>
              refine .inr (.inr
                ⟨⟨bytes, raw, [quote, quote, quote].isPrefixOf (quote :: tail), quote⟩, mark, body,
                  marked, isQuote, ?_, ?_, paired, ?_⟩)
              · rw [whole, ← closed]
              · rw [← closed, List.isPrefixOf_iff_prefix]
              · cases readBody _ 0 body <;> rfl

/-- Reading a spelling is reading what is left of it when mark and delimiters are taken off. -/
theorem read_eq_ok_iff {spelling : String} {style : QuotedStyle} {text : String} :
    read spelling = .ok ⟨style, text⟩ ↔
      ∃ mark body, mark ∈ literalMarks style.bytes style.raw ∧ IsQuote style.quote ∧
        spelling.toList = mark ++ (style.delimiter ++ (body ++ style.delimiter)) ∧
        (style.triple = true ↔ [style.quote, style.quote, style.quote] <+:
          style.delimiter ++ (body ++ style.delimiter)) ∧
        endsEscaped body = false ∧ readBody style 0 body = .ok text.toList := by
  constructor
  · intro success
    rcases read_cases spelling with ⟨kind, fails⟩ | ⟨kind, fails⟩ |
      ⟨style', mark, body, marked, isQuote, whole, triple, paired, reads⟩
    · cases fails.symm.trans success
    · cases fails.symm.trans success
    · rw [success] at reads
      cases ofBody : readBody style' 0 body with
      | error fault =>
          rw [ofBody] at reads
          cases reads
      | ok chars =>
          rw [ofBody] at reads
          cases reads
          exact ⟨mark, body, marked, isQuote, whole, triple, paired, by simpa using ofBody⟩
  · rintro ⟨mark, body, marked, isQuote, whole, triple, paired, reads⟩
    obtain ⟨bytes, raw, triple', quote⟩ := style
    obtain ⟨tail, opens⟩ : ∃ tail, QuotedStyle.delimiter ⟨bytes, raw, triple', quote⟩ ++
        (body ++ QuotedStyle.delimiter ⟨bytes, raw, triple', quote⟩) = quote :: tail := by
      cases triple' <;> exact ⟨_, rfl⟩
    rw [opens] at whole triple
    obtain rfl : triple' = [quote, quote, quote].isPrefixOf (quote :: tail) := by
      rw [Bool.eq_iff_iff, triple, List.isPrefixOf_iff_prefix]
    have closed := (body?_eq_some_iff (delimiter_isPrefix bytes raw quote tail)).2 opens.symm
    simp only [read, whole, splitMark_append marked isQuote, closed, paired, Bool.false_eq_true,
      if_false, reads, String.ofList_toList]
    exact if_pos isQuote

/-- A fault of neither the quotes nor the delimiters is one of the body between them. -/
theorem exists_readBody_of_read_error {spelling : String} {kind : LeafKind} {fault : LiteralFault}
    (fails : read spelling = .error (.malformedLiteral kind fault))
    (opened : fault ≠ .missingOpeningQuote) (closed : fault ≠ .unterminated) :
    ∃ style mark body, mark ∈ literalMarks style.bytes style.raw ∧
      spelling.toList = mark ++ (style.delimiter ++ (body ++ style.delimiter)) ∧
      endsEscaped body = false ∧ readBody style 0 body = .error fault ∧ kind = style.kind := by
  rcases read_cases spelling with ⟨kind', fails'⟩ | ⟨kind', fails'⟩ |
    ⟨style, mark, body, marked, -, whole, -, paired, reads⟩
  · cases fails.symm.trans fails'
    exact absurd rfl opened
  · cases fails.symm.trans fails'
    exact absurd rfl closed
  · rw [fails] at reads
    cases ofBody : readBody style 0 body with
    | ok chars =>
        rw [ofBody] at reads
        cases reads
    | error fault' =>
        rw [ofBody] at reads
        cases reads
        exact ⟨style, mark, body, marked, whole, paired, ofBody, rfl⟩

end Quoted

end ExprTree
