/-
# ExprTree.Proofs.Json.RoundTrip — a laid out value is read back

The reader takes the tokens of a value one by one. Whatever is open around a value, its tokens take
the reader from where a value is expected to where it is complete (`foldlM_tokens`); the items of an
array and the fields of an object are gone through one after the other, what was read before them
being kept in their frame.

Main statements: `Lays.read?`, a text that lays out a value is read as that value, and
`Regular.read?_write`, the text of a value is one of these.
-/
import ExprTree.Json.Read
import ExprTree.Proofs.Json.Layout

namespace ExprTree.Json

set_option autoImplicit false

namespace Reader

/-- A value begins with a token that closes no array. -/
theorem exists_tokens_eq_cons (json : Json) :
    ∃ token rest, json.tokens = token :: rest ∧ token ≠ .closeArray := by
  cases json with
  | array items => exact ⟨_, _, rfl, nofun⟩
  | object fields => exact ⟨_, _, rfl, nofun⟩
  | _ => exact ⟨_, _, rfl, nofun⟩

/-- Behind the opening of an array, a value is read as behind a comma. -/
theorem foldlM_arrayStart (json : Json) (around : List Frame) (rest : List Token) :
    (json.tokens ++ rest).foldlM next? (.arrayStart around) =
      (json.tokens ++ rest).foldlM next? (.expectValue (.array [] :: around)) := by
  obtain ⟨token, others, tokens, notClose⟩ := exists_tokens_eq_cons json
  have same : next? (.arrayStart around) token =
      next? (.expectValue (.array [] :: around)) token := by
    cases token with
    | closeArray => exact absurd rfl notClose
    | _ => rfl
  rw [tokens, List.cons_append, List.foldlM_cons, List.foldlM_cons, same]

/-- The tokens of the value take the reader through the value. -/
def Takes (json : Json) : Prop :=
  ∀ (around : List Frame) (rest : List Token),
    (json.tokens ++ rest).foldlM next? (.expectValue around) =
      rest.foldlM next? (complete around json)

/-- The items of an array are read one after the other. -/
theorem foldlM_itemTokens {item : Json} {items : List Json}
    (each : ∀ value ∈ item :: items, Takes value) (around : List Frame) (seen : List Json)
    (rest : List Token) :
    (itemTokens (item :: items) ++ .closeArray :: rest).foldlM next?
        (.expectValue (.array seen :: around)) =
      rest.foldlM next? (complete around (.array (seen.reverse ++ item :: items))) := by
  induction items generalizing item seen with
  | nil =>
      rw [List.forall_mem_singleton] at each
      have close : next? (complete (.array seen :: around) item) .closeArray =
          some (complete around (.array (item :: seen).reverse)) := rfl
      rw [itemTokens, List.isEmpty_nil, if_pos rfl, List.append_nil, each, List.foldlM_cons, close,
        List.reverse_cons]
      rfl
  | cons next items ih =>
      rw [List.forall_mem_cons] at each
      have comma : next? (complete (.array seen :: around) item) .comma =
          some (.expectValue (.array (item :: seen) :: around)) := rfl
      rw [itemTokens, List.isEmpty_cons, if_neg Bool.false_ne_true, List.append_assoc, each.1,
        List.cons_append, List.foldlM_cons, comma]
      refine (ih each.2 (item :: seen)).trans ?_
      rw [List.reverse_cons, List.append_assoc, List.singleton_append]

/-- A name and a colon take the reader to the value of the field. -/
theorem foldlM_name (around : List Frame) (seen : List (Option String × Json))
    (name : Option String) (rest : List Token) :
    (.scalar (.string name) :: .colon :: rest : List Token).foldlM next? (.expectName around seen) =
      rest.foldlM next? (.expectValue (.object seen name :: around)) :=
  rfl

/-- The fields of an object are read one after the other. -/
theorem foldlM_fieldTokens {field : Option String × Json} {fields : List (Option String × Json)}
    (each : ∀ field' ∈ field :: fields, Takes field'.2) (around : List Frame)
    (seen : List (Option String × Json)) (rest : List Token) :
    (fieldTokens (field :: fields) ++ .closeObject :: rest).foldlM next?
        (.expectName around seen) =
      rest.foldlM next? (complete around (.object (seen.reverse ++ field :: fields))) := by
  obtain ⟨name, value⟩ := field
  induction fields generalizing name value seen with
  | nil =>
      rw [List.forall_mem_singleton] at each
      have close : next? (complete (.object seen name :: around) value) .closeObject =
          some (complete around (.object ((name, value) :: seen).reverse)) := rfl
      rw [fieldTokens, List.isEmpty_nil, if_pos rfl, List.append_nil, List.cons_append,
        List.cons_append, foldlM_name, each, List.foldlM_cons, close, List.reverse_cons]
      rfl
  | cons next fields ih =>
      obtain ⟨name', value'⟩ := next
      rw [List.forall_mem_cons] at each
      have comma : next? (complete (.object seen name :: around) value) .comma =
          some (.expectName around ((name, value) :: seen)) := rfl
      rw [fieldTokens, List.isEmpty_cons, if_neg Bool.false_ne_true, List.cons_append,
        List.cons_append, List.append_assoc, foldlM_name, each.1, List.cons_append,
        List.foldlM_cons, comma]
      refine (ih ((name, value) :: seen) name' value' each.2).trans ?_
      rw [List.reverse_cons, List.append_assoc, List.singleton_append]

/-- The tokens of a value take the reader through the value, whatever is open around it. -/
theorem takes (json : Json) : Takes json := by
  induction json using Json.induct with
  | array items each =>
      intro around rest
      cases items with
      | nil => rfl
      | cons item items =>
          have read := foldlM_itemTokens each around [] rest
          rw [List.reverse_nil, List.nil_append, itemTokens, List.append_assoc,
            ← foldlM_arrayStart] at read
          rw [tokens, itemTokens, List.cons_append, List.append_assoc, List.append_assoc, ← read]
          rfl
  | object fields each =>
      intro around rest
      cases fields with
      | nil => rfl
      | cons field fields =>
          have read := foldlM_fieldTokens each around [] rest
          rw [List.reverse_nil, List.nil_append] at read
          rw [tokens, List.cons_append, List.append_assoc, ← read]
          rfl
  | _ => exact fun _ _ => rfl

end Reader

theorem ofTokens?_tokens (json : Json) : ofTokens? json.tokens = some json := by
  have taken := Reader.takes json [] []
  rw [List.append_nil] at taken
  rw [ofTokens?, taken]
  rfl

/-- A text that lays out the tokens of a value is read as that value. -/
theorem Lays.read? {json : Json} {text : List Char} (lays : Lays json.tokens text) :
    read? text = some json := by
  rw [Json.read?, lays.tokenize (isChain_tokens json)]
  exact ofTokens?_tokens json

theorem Regular.read?_write {json : Json} (regular : Regular json) :
    read? json.write = some json :=
  regular.lays.read?

end ExprTree.Json
