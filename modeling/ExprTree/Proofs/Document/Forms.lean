/-
# ExprTree.Proofs.Document.Forms — the parts that records are written with

Records are written with natural numbers, texts and forms. A number of 64 bits is read back, and it
is finite (`JsonNumber.isFinite_ofNat`): the word that keeps its digits takes them all. A field is
found by its name wherever it stands, if no other field has the name (`field?_append_cons`), so the
values of a form are read back (`RecordForm.recordParts?_json`), the names of a form being
different.
-/
import ExprTree.Document.Json
import ExprTree.Proofs.Json.Layout
import Mathlib.Data.List.Forall2
import Mathlib.Data.List.Nodup

namespace ExprTree

set_option autoImplicit false

/-! ## Natural numbers -/

namespace JsonNumber

theorem regular_ofNat (n : Nat) : (ofNat n).Regular where
  whole := Text.isDigits_toDigits n
  front := by
    intro zero
    by_cases positive : n = 0
    · rw [positive]
      exact Nat.toDigits_zero 10
    · exact absurd zero (Text.head?_toDigits n positive)
  fraction := by
    intro digits none
    cases none

theorem natural?_ofNat (n : Nat) : (ofNat n).natural? = some n := by
  rw [ofNat, natural?, Text.numeralValue_toDigits]

end JsonNumber

namespace Scaled

theorem le_foldl_digits (start : Nat) (digits : List Char) :
    start ≤ digits.foldl (fun value c => value * 10 + (Text.digitValue? c).getD 0) start := by
  induction digits generalizing start with
  | nil => exact Nat.le_refl _
  | cons digit rest ih =>
      have longer : start ≤ start * 10 + (Text.digitValue? digit).getD 0 := by omega
      exact Nat.le_trans longer (ih _)

/-- A word takes all digits of a number that it can hold. -/
theorem fill_of_fits {word : UInt64} {digits : List Char}
    (fits : digits.foldl (fun value c => value * 10 + (Text.digitValue? c).getD 0) word.toNat <
      UInt64.size) : (fill word digits).2 = [] := by
  induction digits generalizing word with
  | nil => rfl
  | cons digit rest ih =>
      rw [List.foldl_cons] at fits
      have longer : word.toNat * 10 + (Text.digitValue? digit).getD 0 < UInt64.size :=
        Nat.lt_of_le_of_lt (le_foldl_digits _ rest) fits
      have pushed : push? word digit = some (.ofNatLT _ longer) := by
        rw [push?, dif_pos longer]
      rw [fill, pushed]
      exact ih (by rwa [UInt64.toNat_ofNatLT])

end Scaled

theorem JsonNumber.isFinite_ofNat {n : Nat} (small : n < UInt64.size) :
    (ofNat n).isFinite = true := by
  have value : (Nat.toDigits 10 n).foldl
      (fun value c => value * 10 + (Text.digitValue? c).getD 0) (0 : UInt64).toNat = n :=
    Text.numeralValue_toDigits n
  have taken : (Scaled.fill 0 (Nat.toDigits 10 n)).2 = [] :=
    Scaled.fill_of_fits (by rwa [value])
  have power : (Scaled.ofDecimal ⟨Nat.toDigits 10 n, [], 0⟩).power = 0 := by
    simp [Scaled.ofDecimal, Scaled.fill, taken]
  show (Scaled.ofDecimal ⟨Nat.toDigits 10 n, [], 0⟩).isFinite = true
  rw [Scaled.isFinite, if_pos (.inr (Int.le_of_eq power))]

namespace Json

theorem naturalBelow?_natural (bound n : Nat) :
    (natural n).naturalBelow? bound = if n < bound then some n else none := by
  rw [natural, naturalBelow?, JsonNumber.natural?_ofNat]
  rfl

@[simp] theorem offset?_natural (offset : Offset) :
    (natural offset.toNat).offset? = some offset := by
  rw [offset?, naturalBelow?_natural, if_pos offset.toNat_lt_size, Option.map_some,
    Nat.toUInt32_eq, UInt32.ofNat_toNat]

theorem index?_natural {n : Nat} (small : n < UInt64.size) : (natural n).index? = some n := by
  rw [index?, naturalBelow?_natural, if_pos small]

/-! ## Fields -/

theorem field?_eq_some_iff {fields : List (Option String × Json)} {name : String} {value : Json} :
    field? fields name = some value ↔
      fields.filter (fun field => field.1 == some name) = [(some name, value)] := by
  unfold field?
  split
  next own value' single =>
    have named : (own, value') ∈ fields.filter fun field => field.1 == some name := by
      rw [single]
      exact List.mem_singleton_self _
    have own : own = some name := by simpa using (List.mem_filter.1 named).2
    simp [single, own]
  next several =>
    simp only [reduceCtorEq, false_iff]
    exact several _ _

theorem mem_of_field? {fields : List (Option String × Json)} {name : String} {value : Json}
    (found : field? fields name = some value) : (some name, value) ∈ fields := by
  have member : (some name, value) ∈ fields.filter fun field => field.1 == some name := by
    rw [field?_eq_some_iff.1 found]
    exact List.mem_singleton_self _
  exact (List.mem_filter.1 member).1

/-- A field is found wherever it stands, if the names are different. -/
theorem field?_of_mem {fields : List (Option String × Json)}
    (distinct : (fields.map Prod.fst).Nodup) {name : String} {value : Json}
    (member : (some name, value) ∈ fields) : field? fields name = some value := by
  obtain ⟨front, back, rfl⟩ := List.append_of_mem member
  rw [List.map_append, List.map_cons, List.nodup_middle, List.nodup_cons,
    ← List.map_append] at distinct
  have skipped {others : List (Option String × Json)} (among : others ⊆ front ++ back) :
      others.filter (fun field => field.1 == some name) = [] := by
    refine List.filter_eq_nil_iff.2 fun field member named => distinct.1 ?_
    exact List.mem_map.2 ⟨field, among member, beq_iff_eq.1 named⟩
  have own : ((some name, value).1 == some name) = true := beq_self_eq_true _
  rw [field?_eq_some_iff, List.filter_append, List.filter_cons, if_pos own,
    skipped (List.subset_append_left front back), skipped (List.subset_append_right front back),
    List.nil_append]

theorem mapM_eq_some_iff {α β : Type} {read : α → Option β} {row : List α} {results : List β} :
    row.mapM read = some results ↔ List.Forall₂ (fun a b => read a = some b) row results := by
  induction row generalizing results with
  | nil => cases results <;> simp
  | cons a row ih =>
      simp only [List.mapM_cons, Option.bind_eq_bind, Option.bind_eq_some_iff, Option.pure_def,
        Option.some.injEq, List.forall₂_cons_left_iff, ← ih]
      constructor
      · rintro ⟨b, first, rest, others, rfl⟩
        exact ⟨b, rest, first, others, rfl⟩
      · rintro ⟨b, rest, first, others, rfl⟩
        exact ⟨b, first, rest, others, rfl⟩

theorem nodup_zip {names : List String} {values : List Json} (distinct : names.Nodup)
    (lengths : values.length = names.length) :
    (((names.zip values).map fun (name, value) => (some name, value)).map Prod.fst).Nodup := by
  have front : (names.zip values).map Prod.fst = names :=
    List.map_fst_zip (Nat.le_of_eq lengths.symm)
  have named := distinct.map fun _ _ => Option.some.inj
  rw [← front, List.map_map] at named
  rw [List.map_map]
  exact named

/-- Declared fields are read from an object that has them under different names. -/
theorem declared?_record {names : List String} {values : List Json} (distinct : names.Nodup)
    (lengths : values.length = names.length) :
    (record (names.zip values)).declared? names = some values := by
  refine mapM_eq_some_iff.2 (List.forall₂_iff_zip.2 ⟨lengths.symm, fun member => ?_⟩)
  exact field?_of_mem (nodup_zip distinct lengths) (List.mem_map_of_mem member)

theorem itemsPlain_iff {items : List Json} :
    itemsPlain items = true ↔ ∀ item ∈ items, item.isPlain = true := by
  induction items with
  | nil => simp [itemsPlain]
  | cons item rest ih => simp [itemsPlain, ih]

theorem fieldsPlain_iff {fields : List (Option String × Json)} :
    fieldsPlain fields = true ↔
      ∀ field ∈ fields, field.1.isSome = true ∧ field.2.isPlain = true := by
  induction fields with
  | nil => simp [fieldsPlain]
  | cons field rest ih =>
      obtain ⟨name, value⟩ := field
      rw [List.forall_mem_cons, ← ih, fieldsPlain, Bool.and_eq_true, Bool.and_eq_true]

theorem fieldsDepth_zip {names : List String} {values : List Json}
    (lengths : values.length = names.length) :
    fieldsDepth ((names.zip values).map fun (name, value) => (some name, value)) =
      itemsDepth values := by
  induction names generalizing values with
  | nil =>
      rw [List.eq_nil_of_length_eq_zero lengths]
      rfl
  | cons name names ih =>
      cases values with
      | nil => cases lengths
      | cons value values =>
          rw [List.zip_cons_cons, List.map_cons, fieldsDepth, itemsDepth, ih (Nat.succ.inj lengths)]

theorem depth_le_itemsDepth {items : List Json} {item : Json} (member : item ∈ items) :
    item.depth ≤ itemsDepth items := by
  induction member with
  | head => exact Nat.le_max_left _ _
  | tail _ _ ih => exact Nat.le_trans ih (Nat.le_max_right _ _)

theorem depth_le_fieldsDepth {fields : List (Option String × Json)}
    {field : Option String × Json} (member : field ∈ fields) :
    field.2.depth ≤ fieldsDepth fields := by
  induction member with
  | head => exact Nat.le_max_left _ _
  | tail _ _ ih => exact Nat.le_trans ih (Nat.le_max_right _ _)

theorem namesReadable_record (fields : List (String × Json)) :
    (record fields).namesReadable = true := by
  simp [record, namesReadable]

end Json

/-! ## Forms -/

theorem LeafKind.ofWord?_word (kind : LeafKind) : ofWord? kind.word = some kind := by
  cases kind <;> decide

@[simp] theorem Json.leafKind?_word (kind : LeafKind) : (text kind.word).leafKind? = some kind :=
  kind.ofWord?_word

@[simp] theorem Json.text?_text (content : String) : (text content).text? = some content :=
  rfl

namespace RecordForm

theorem ofWord?_word (form : RecordForm) : ofWord? form.word = some form := by
  cases form <;> decide

/-- The names of a form are different, and none of them is that of the form itself. -/
theorem nodup_node_fields (form : RecordForm) : ("node" :: form.fields).Nodup := by
  cases form <;> decide

section Fields

variable {property : String → Json → Prop} {first second third fourth fifth : Json}

@[simp] theorem forall_leaf :
    (∀ field ∈ RecordForm.leaf.fields.zip [first, second, third, fourth, fifth],
        property field.1 field.2) ↔
      property "kind" first ∧ property "source" second ∧ property "start" third ∧
        property "text" fourth ∧ property "end" fifth := by
  simp [fields]

@[simp] theorem forall_unary :
    (∀ field ∈ RecordForm.unary.fields.zip [first, second, third], property field.1 field.2) ↔
      property "op" first ∧ property "op_offset" second ∧ property "operand" third := by
  simp [fields]

@[simp] theorem forall_binary :
    (∀ field ∈ RecordForm.binary.fields.zip [first, second, third, fourth],
        property field.1 field.2) ↔
      property "lhs" first ∧ property "op" second ∧ property "op_offset" third ∧
        property "rhs" fourth := by
  simp [fields]

@[simp] theorem forall_conditional :
    (∀ field ∈ RecordForm.conditional.fields.zip [first, second, third],
        property field.1 field.2) ↔
      property "then_case" first ∧ property "condition" second ∧
        property "else_case" third := by
  simp [fields]

@[simp] theorem forall_list :
    (∀ field ∈ RecordForm.list.fields.zip [first, second, third, fourth],
        property field.1 field.2) ↔
      property "source" first ∧ property "start" second ∧ property "elements" third ∧
        property "end" fourth := by
  simp [fields]

end Fields

variable {form : RecordForm} {values : List Json}

/-- What an object declares is what is read of it as a record. -/
theorem recordParts?_object {fields : List (Option String × Json)} (nested : Bool)
    (declared : (Json.object fields).declared? ("node" :: form.fields) =
      some (.text form.word :: values)) :
    (Json.object fields).recordParts? nested = some (form, values) := by
  obtain _ | ⟨node, others⟩ := Json.mapM_eq_some_iff.1 declared
  have named : (Json.text form.word).recordForm? nested = some form := form.ofWord?_word
  simp only [Json.recordParts?, Option.bind_eq_bind, node, named, Json.mapM_eq_some_iff.2 others,
    Option.bind_some]
  rfl

/-- The form and the values of its fields are declared. -/
theorem declared?_json (lengths : values.length = form.fields.length) :
    (form.json values).declared? ("node" :: form.fields) = some (.text form.word :: values) :=
  @Json.declared?_record _ (.text form.word :: values) form.nodup_node_fields
    (congrArg Nat.succ lengths)

/-- The values of a form are read back. -/
theorem recordParts?_json (nested : Bool) (lengths : values.length = form.fields.length) :
    (form.json values).recordParts? nested = some (form, values) :=
  recordParts?_object nested (declared?_json lengths)

theorem regular_json (each : ∀ value ∈ values, Json.Regular value) :
    Json.Regular (form.json values) := by
  refine .object ?_
  rw [List.forall_mem_map, List.forall_mem_cons]
  refine ⟨.string _, ?_⟩
  rintro ⟨name, value⟩ member
  exact each value (List.of_mem_zip member).2

theorem isPlain_json (each : ∀ value ∈ values, value.isPlain = true) :
    (form.json values).isPlain = true := by
  refine Json.fieldsPlain_iff.2 ?_
  rw [List.forall_mem_map, List.forall_mem_cons]
  refine ⟨⟨rfl, rfl⟩, ?_⟩
  rintro ⟨name, value⟩ member
  exact ⟨rfl, each value (List.of_mem_zip member).2⟩

theorem depth_json (lengths : values.length = form.fields.length) :
    (form.json values).depth = 1 + Json.itemsDepth values := by
  show 1 + max 0 (Json.fieldsDepth _) = _
  rw [Json.fieldsDepth_zip lengths, Nat.zero_max]

end RecordForm

end ExprTree
