/-
# ExprTree.Proofs.Document.Defects — records with a spoilt field are refused

One declared field of one object, at any depth, may be left out, repeated, or given a value that is
not fit for it (`Json.Unfit`), while all else is arranged in any way (`Json.Spoilt`). A reader looks
for every field that a record declares, so what it accepts has each of them once and with a value it
can read (`Record.ReadableField`). If a record is read, the spoilt field is therefore not its own
but lies in the value of one of its fields, which is a record or a row of records again.

Main statement: `Record.ofJson?_spoilt`, no record is read from a value with a spoilt field.
-/
import ExprTree.Proofs.Document.Arrangement

namespace ExprTree

set_option autoImplicit false

namespace Json

/-! ## Defects -/

def offsetNames : List String :=
  ["start", "end", "op_offset"]

/-- A value that is not fit for the field of that name: none at all, an offset of more than 32 bits,
or the index of a source of more than 64 bits. -/
inductive Unfit (name : String) : Json → Prop where
  | null : Unfit name .null
  | offset (known : name ∈ offsetNames) {n : Nat} (beyond : UInt32.size ≤ n) :
      Unfit name (.natural n)
  | source (known : name = "source") {n : Nat} (beyond : UInt64.size ≤ n) : Unfit name (.natural n)

/-- The values that stand under a name when its field is left out, repeated or unfit. -/
inductive Defect (name : String) : List Json → Prop where
  | removed : Defect name []
  | repeated {values : List Json} (several : 1 < values.length) : Defect name values
  | replaced {value : Json} (unfit : Unfit name value) : Defect name [value]

/-- The fields are arranged in any way, except that the one called `name`, which has the value
`value`, is replaced by fields of that name with the values `values`. -/
inductive RearrangedBut (name : String) (value : Json) (values : List Json)
    (fields written : List (Option String × Json)) : Prop where
  | intro {others others' further : List (Option String × Json)}
      (split : fields.Perm ((some name, value) :: others))
      (each : List.Forall₂ (FieldRel Rearranged) others others')
      (undeclared : Undeclared fields further)
      (order : written.Perm
        (others' ++ further ++ values.map fun value' => (some name, value')))

/-- The second value is an arrangement of the first one in which a single field is spoilt. -/
inductive Spoilt : Json → Json → Prop where
  /-- The field is in an item of the array. -/
  | item {front front' back back' : List Json} {item item' : Json}
      (before : List.Forall₂ Rearranged front front') (spoilt : Spoilt item item')
      (after : List.Forall₂ Rearranged back back') :
      Spoilt (.array (front ++ item :: back)) (.array (front' ++ item' :: back'))
  /-- The field is in the value of a field of the object. -/
  | within {name : String} {value value' : Json} {fields written : List (Option String × Json)}
      (rearranged : RearrangedBut name value [value'] fields written)
      (spoilt : Spoilt value value') : Spoilt (.object fields) (.object written)
  /-- The field is one of the object. -/
  | field {name : String} {value : Json} {values : List Json}
      {fields written : List (Option String × Json)}
      (rearranged : RearrangedBut name value values fields written)
      (defect : Defect name values) : Spoilt (.object fields) (.object written)

theorem not_spoilt_text (content : String) (json : Json) : ¬ Spoilt (.text content) json :=
  nofun

theorem not_spoilt_natural (n : Nat) (json : Json) : ¬ Spoilt (.natural n) json :=
  nofun

theorem Spoilt.exists_item {items : List Json} {json : Json} (spoilt : Spoilt (.array items) json) :
    ∃ items', json = .array items' ∧ ∃ item ∈ items, ∃ item' ∈ items', Spoilt item item' := by
  cases spoilt with
  | @item front _ _ _ item item' _ spoilt _ =>
      exact ⟨_, rfl, item, by simp, item', by simp, spoilt⟩

/-! ### Look-up -/

namespace RearrangedBut

variable {name : String} {value : Json} {values : List Json}
  {fields written : List (Option String × Json)}

/-- Under the name of the replaced field, a value is found if it is the only one. -/
theorem field?_eq_some_iff (rearranged : RearrangedBut name value values fields written)
    (distinct : (fields.map Prod.fst).Nodup) {value' : Json} :
    field? written name = some value' ↔ values = [value'] := by
  obtain @⟨others, others', further, split, each, undeclared, order⟩ := rearranged
  have skipped : (others' ++ further).filter (fun field => field.1 == some name) = [] := by
    refine List.filter_eq_nil_iff.2 fun field member named => ?_
    rw [beq_iff_eq] at named
    rcases List.mem_append.1 member with own | further
    · obtain ⟨field', member', related⟩ := exists_mem_of_forall₂ each own
      have alone := (List.nodup_cons.1 ((split.map Prod.fst).nodup_iff.1 distinct)).1
      cases related with
      | intro => exact alone (List.mem_map.2 ⟨_, member', named⟩)
    · refine undeclared.other field further (List.mem_map.2 ⟨(some name, value), ?_, named.symm⟩)
      exact split.mem_iff.2 List.mem_cons_self
  have own : (values.map fun value' => (some name, value')).filter
      (fun field => field.1 == some name) = values.map fun value' => (some name, value') :=
    List.filter_eq_self.2 (List.forall_mem_map.2 fun _ _ => beq_self_eq_true (some name))
  have same := order.filter fun field => field.1 == some name
  rw [List.filter_append, skipped, own, List.nil_append] at same
  rw [Json.field?_eq_some_iff, ← List.perm_singleton, same.congr_left, List.perm_singleton]
  simp

/-- The other fields are found as in every arrangement. -/
theorem exists_field? (rearranged : RearrangedBut name value values fields written)
    (distinct : (fields.map Prod.fst).Nodup) {other : String} (different : other ≠ name)
    {value : Json} (member : (some other, value) ∈ fields) :
    ∃ value', field? written other = some value' ∧ Rearranged value value' := by
  obtain @⟨others, others', further, split, each, undeclared, order⟩ := rearranged
  have apart := (List.nodup_cons.1 ((split.map Prod.fst).nodup_iff.1 distinct)).2
  have kept : (some other, value) ∈ others := by
    rcases List.mem_cons.1 (split.mem_iff.1 member) with same | kept
    · cases same
      exact absurd rfl different
    · exact kept
  have notFurther : ∀ field ∈ further, field.1 ≠ some other := fun field member' named =>
    undeclared.other field member' (List.mem_map.2 ⟨_, member, named.symm⟩)
  have notReplaced : ∀ field ∈ values.map fun value' => (some name, value'),
      field.1 ≠ some other :=
    List.forall_mem_map.2 fun _ _ same => different (Option.some.inj same).symm
  rw [field?_perm order, field?_append_of_notMem notReplaced, field?_append_of_notMem notFurther]
  exact exists_field?_of_forall₂ each (field?_of_mem apart kept)

end RearrangedBut

/-- In a spoilt object there is one declared field that is found with an unfit or a spoilt value, or
not at all. The others are found as in every arrangement. -/
theorem Spoilt.exists_field {fields : List (Option String × Json)} {json : Json}
    (spoilt : Spoilt (.object fields) json) (distinct : (fields.map Prod.fst).Nodup) :
    ∃ written name value, json = .object written ∧ (some name, value) ∈ fields ∧
      (∀ value', field? written name = some value' → Unfit name value' ∨ Spoilt value value') ∧
      ∀ other value', other ≠ name → (some other, value') ∈ fields →
        ∃ value'', field? written other = some value'' ∧ Rearranged value' value'' := by
  have declared {name : String} {value : Json} {values : List Json}
      {written : List (Option String × Json)}
      (rearranged : RearrangedBut name value values fields written) :
      (some name, value) ∈ fields := by
    cases rearranged with
    | intro split => exact split.mem_iff.2 List.mem_cons_self
  cases spoilt with
  | @within name value _ _ written rearranged spoilt =>
      refine ⟨written, name, value, rfl, declared rearranged, fun value' found => ?_,
        fun _ _ different => rearranged.exists_field? distinct different⟩
      obtain rfl : _ = value' :=
        List.singleton_inj.1 ((rearranged.field?_eq_some_iff distinct).1 found)
      exact .inr spoilt
  | @field name value _ _ written rearranged defect =>
      refine ⟨written, name, value, rfl, declared rearranged, fun value' found => ?_,
        fun _ _ different => rearranged.exists_field? distinct different⟩
      rw [(rearranged.field?_eq_some_iff distinct).1 found] at defect
      cases defect with
      | repeated several => exact absurd several (Nat.lt_irrefl 1)
      | replaced unfit => exact .inl unfit

end Json

namespace Record

/-! ## Readable fields -/

def recordNames : List String :=
  ["operand", "lhs", "rhs", "then_case", "condition", "else_case"]

/-- The value can be read as the field of that name, with `levels` levels for the records in it. -/
inductive ReadableField (levels : Nat) (name : String) : Json → Prop where
  | kind {value : Json} {kind : LeafKind} (known : name = "kind")
      (read : value.leafKind? = some kind) : ReadableField levels name value
  | text {value : Json} {content : String} (known : name ∈ ["text", "op"])
      (read : value.text? = some content) : ReadableField levels name value
  | offset {value : Json} {offset : Offset} (known : name ∈ Json.offsetNames)
      (read : value.offset? = some offset) : ReadableField levels name value
  | source {value : Json} {index : Nat} (known : name = "source")
      (read : value.index? = some index) : ReadableField levels name value
  | record {value : Json} {record : Record} (known : name ∈ recordNames)
      (read : ofJson? true levels value = some record) : ReadableField levels name value
  | row {items : List Json} {records : List Record} (known : name = "elements")
      (read : items.mapM (ofJson? true levels) = some records) :
      ReadableField levels name (.array items)

theorem ofJson?_null (nested : Bool) (levels : Nat) : ofJson? nested levels .null = none := by
  cases levels <;> rfl

namespace ReadableField

variable {levels : Nat} {name : String} {value : Json}

theorem not_unfit (readable : ReadableField levels name value) : ¬ Json.Unfit name value := by
  intro unfit
  cases unfit with
  | null =>
      cases readable with
      | record _ read => cases (ofJson?_null true levels).symm.trans read
      | kind _ read | text _ read | offset _ read | source _ read => cases read
  | @offset known n beyond =>
      have beyond : (Json.natural n).offset? = none := by
        rw [Json.offset?, Json.naturalBelow?_natural, if_neg (Nat.not_lt.2 beyond), Option.map_none]
      cases readable with
      | offset _ read => cases beyond.symm.trans read
      | kind known' _ | source known' _ =>
          subst known'
          exact absurd known (by decide)
      | text known' _ | record known' _ =>
          revert name
          decide
  | @source known n beyond =>
      have beyond : (Json.natural n).index? = none := by
        rw [Json.index?, Json.naturalBelow?_natural, if_neg (Nat.not_lt.2 beyond)]
      subst known
      cases readable with
      | source _ read => cases beyond.symm.trans read
      | kind known _ | offset known _ | text known _ | record known _ =>
          exact absurd known (by decide)

theorem exists_record (readable : ReadableField levels name value) (known : name ∈ recordNames) :
    ∃ record, ofJson? true levels value = some record := by
  cases readable with
  | record _ read => exact ⟨_, read⟩
  | kind known' _ | source known' _ | row known' _ =>
      subst known'
      exact absurd known (by decide)
  | text known' _ | offset known' _ =>
      exfalso
      revert name
      decide

theorem exists_records (readable : ReadableField levels name value) (known : name = "elements") :
    ∃ items records, value = .array items ∧ items.mapM (ofJson? true levels) = some records := by
  subst known
  cases readable with
  | row _ read => exact ⟨_, _, rfl, read⟩
  | kind known _ | text known _ | offset known _ | source known _ | record known _ =>
      exact absurd known (by decide)

end ReadableField

/-- All fields of a record that is read are readable. -/
theorem exists_readableField {nested : Bool} {levels : Nat} {json : Json} {record : Record}
    (read : ofJson? nested levels json = some record) :
    ∃ fewer form values, json.recordParts? nested = some (form, values) ∧
      ∀ field ∈ form.fields.zip values, ReadableField fewer field.1 field.2 := by
  obtain _ | fewer := levels
  · cases read
  rw [ofJson?, Option.bind_eq_bind, Option.bind_eq_some_iff] at read
  obtain ⟨⟨form, values⟩, parts, read⟩ := read
  refine ⟨fewer, form, values, parts, ?_⟩
  simp only [Option.pure_def, Option.bind_eq_bind] at read
  split at read
  next same =>
    simp only [leafOfJson?, Option.pure_def, Option.bind_eq_bind, Option.bind_eq_some_iff] at read
    obtain ⟨_, kind, _, source, _, start, _, text, _, stop, -⟩ := read
    cases same
    exact RecordForm.forall_leaf.2 ⟨.kind rfl kind, .source rfl source, .offset (by decide) start,
      .text (by decide) text, .offset (by decide) stop⟩
  next same =>
    simp only [Option.bind_eq_some_iff] at read
    obtain ⟨_, op, _, offset, _, operand, -⟩ := read
    cases same
    exact RecordForm.forall_unary.2 ⟨.text (by decide) op, .offset (by decide) offset,
      .record (by decide) operand⟩
  next same =>
    simp only [Option.bind_eq_some_iff] at read
    obtain ⟨_, lhs, _, op, _, offset, _, rhs, -⟩ := read
    cases same
    exact RecordForm.forall_binary.2 ⟨.record (by decide) lhs, .text (by decide) op,
      .offset (by decide) offset, .record (by decide) rhs⟩
  next same =>
    simp only [Option.bind_eq_some_iff] at read
    obtain ⟨_, thenCase, _, condition, _, elseCase, -⟩ := read
    cases same
    exact RecordForm.forall_conditional.2 ⟨.record (by decide) thenCase,
      .record (by decide) condition, .record (by decide) elseCase⟩
  next same =>
    simp only [Option.bind_eq_some_iff] at read
    obtain ⟨_, source, _, start, _, elements, _, stop, -⟩ := read
    cases same
    exact RecordForm.forall_list.2 ⟨.source rfl source, .offset (by decide) start,
      .row rfl elements, .offset (by decide) stop⟩
  next => cases read

/-! ## Spoilt records -/

/-- A value of which no spoilt arrangement can be read as the field of that name. -/
def Guarded (name : String) (value : Json) : Prop :=
  ∀ value', Json.Spoilt value value' → ∀ levels, ¬ ReadableField levels name value'

theorem guarded_text (name content : String) : Guarded name (.text content) :=
  fun value' spoilt => absurd spoilt (Json.not_spoilt_text content value')

theorem guarded_natural (name : String) (n : Nat) : Guarded name (.natural n) :=
  fun value' spoilt => absurd spoilt (Json.not_spoilt_natural n value')

theorem guarded_record {name : String} {record : Record} (known : name ∈ recordNames)
    (refused : ∀ {json}, Json.Spoilt record.json json → ∀ nested levels,
      ofJson? nested levels json = none) : Guarded name record.json := by
  intro value' spoilt levels readable
  obtain ⟨_, read⟩ := readable.exists_record known
  cases (refused spoilt true levels).symm.trans read

theorem guarded_row {elements : List Record}
    (refused : ∀ element ∈ elements, ∀ {json}, Json.Spoilt element.json json → ∀ nested levels,
      ofJson? nested levels json = none) : Guarded "elements" (.array (jsons elements)) := by
  intro value' spoilt levels readable
  obtain ⟨items, _, rfl, read⟩ := readable.exists_records rfl
  obtain ⟨_, same, item, member, item', member', spoilt⟩ := spoilt.exists_item
  cases same
  rw [jsons_eq_map] at member
  obtain ⟨element, inside, rfl⟩ := List.mem_map.1 member
  obtain ⟨_, -, read⟩ := exists_zip_of_mem (Json.mapM_eq_some_iff.1 read) member'
  cases (refused element inside spoilt true levels).symm.trans read

/-- No record is read from a spoilt form, if its values are guarded. -/
theorem ofJson?_spoilt_form {form : RecordForm} {values : List Json} {json : Json}
    (spoilt : Json.Spoilt (form.json values) json) (lengths : values.length = form.fields.length)
    (guarded : ∀ field ∈ form.fields.zip values, Guarded field.1 field.2) (nested : Bool)
    (levels : Nat) : ofJson? nested levels json = none := by
  refine Option.eq_none_iff_forall_not_mem.2 fun _ read => ?_
  have distinct := @Json.nodup_zip _ (.text form.word :: values) form.nodup_node_fields
    (congrArg Nat.succ lengths)
  obtain ⟨written, name, value, rfl, member, single, others⟩ := spoilt.exists_field distinct
  obtain ⟨fewer, form', values', parts, readable⟩ := exists_readableField read
  simp only [Json.recordParts?, Option.bind_eq_bind, Option.bind_eq_some_iff, Option.pure_def,
    Option.some.injEq, Prod.mk.injEq] at parts
  obtain ⟨node, tag, _, named, _, found, rfl, rfl⟩ := parts
  obtain ⟨⟨_, _⟩, declared, same⟩ := List.mem_map.1 member
  cases same
  rcases List.mem_cons.1 declared with same | own
  · -- without a tag that can be read, there is no form at all
    cases same
    rcases single node tag with unfit | spoilt
    · cases unfit with
      | null => cases named
      | offset known _ | source known _ => exact absurd known (by decide)
    · exact absurd spoilt (Json.not_spoilt_text _ _)
  · -- the tag is the one that was written, so the field is one that is looked at
    have nodeFirst : "node" ≠ name := by
      rintro rfl
      exact (List.nodup_cons.1 form.nodup_node_fields).1 (List.of_mem_zip own).1
    obtain ⟨node', tag', arranged⟩ := others "node" _ nodeFirst List.mem_cons_self
    obtain rfl : node' = node := Option.some.inj (tag'.symm.trans tag)
    obtain rfl := arranged.eq_text
    cases (RecordForm.ofWord?_word form).symm.trans named
    obtain ⟨value', among, found⟩ :=
      exists_zip_of_mem (Json.mapM_eq_some_iff.1 found) (List.of_mem_zip own).1
    have readable := readable _ among
    have spoilt := (single value' found).resolve_left readable.not_unfit
    exact guarded _ own value' spoilt fewer readable

/-- **A record with a spoilt field.** If one declared field of a record, or of a record inside it,
is left out, repeated or unfit, then no record is read at all. -/
theorem ofJson?_spoilt {record : Record} {json : Json} (spoilt : Json.Spoilt record.json json)
    (nested : Bool) (levels : Nat) : ofJson? nested levels json = none := by
  induction record using Record.induct generalizing json nested levels with
  | leaf parts =>
      refine ofJson?_spoilt_form spoilt rfl (RecordForm.forall_leaf.2 ?_) nested levels
      exact ⟨guarded_text _ _, guarded_natural _ _, guarded_natural _ _, guarded_text _ _,
        guarded_natural _ _⟩
  | unary op opOffset operand ih =>
      refine ofJson?_spoilt_form spoilt rfl (RecordForm.forall_unary.2 ?_) nested levels
      exact ⟨guarded_text _ _, guarded_natural _ _, guarded_record (by decide) ih⟩
  | binary lhs op opOffset rhs ihl ihr =>
      refine ofJson?_spoilt_form spoilt rfl (RecordForm.forall_binary.2 ?_) nested levels
      exact ⟨guarded_record (by decide) ihl, guarded_text _ _, guarded_natural _ _,
        guarded_record (by decide) ihr⟩
  | conditional thenCase condition elseCase iht ihc ihe =>
      refine ofJson?_spoilt_form spoilt rfl (RecordForm.forall_conditional.2 ?_) nested levels
      exact ⟨guarded_record (by decide) iht, guarded_record (by decide) ihc,
        guarded_record (by decide) ihe⟩
  | list source start elements stop ih =>
      refine ofJson?_spoilt_form spoilt rfl (RecordForm.forall_list.2 ?_) nested levels
      exact ⟨guarded_natural _ _, guarded_natural _ _, guarded_row ih, guarded_natural _ _⟩

end Record

/-! ## Entries of the source table -/

theorem SourceRecord.ofJson?_spoilt {source : SourceRecord} {json : Json}
    (spoilt : Json.Spoilt source.json json) : ofJson? json = none := by
  have distinct := @Json.nodup_zip ["file", "text"] [.text source.file, .text source.text]
    (by decide) rfl
  obtain ⟨written, name, value, rfl, member, single, -⟩ := spoilt.exists_field distinct
  simp only [List.map_cons, List.map_nil, List.mem_cons, Prod.mk.injEq, Option.some.injEq,
    List.not_mem_nil, or_false] at member
  have notText (value' : Json) (found : Json.field? written name = some value') :
      value'.text? = none := by
    rcases single value' found with unfit | spoilt
    · cases unfit <;> rfl
    · rcases member with ⟨-, rfl⟩ | ⟨-, rfl⟩ <;> exact absurd spoilt (Json.not_spoilt_text _ _)
  refine Option.eq_none_iff_forall_not_mem.2 fun _ read => ?_
  simp only [ofJson?] at read
  split at read
  next file text _ declared =>
    simp only [Option.pure_def, Option.bind_eq_bind, Option.mem_def,
      Option.bind_eq_some_iff] at read
    obtain ⟨_, file', _, text', -⟩ := read
    obtain _ | ⟨foundFile, _ | ⟨foundText, _ | _⟩⟩ := Json.mapM_eq_some_iff.1 declared
    rcases member with ⟨rfl, -⟩ | ⟨rfl, -⟩
    · cases (notText _ foundFile).symm.trans file'
    · cases (notText _ foundText).symm.trans text'
  next => cases read

end ExprTree
