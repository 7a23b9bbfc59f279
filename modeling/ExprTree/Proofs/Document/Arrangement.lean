/-
# ExprTree.Proofs.Document.Arrangement — records with their fields in another arrangement

The fields of an object may stand in any order, and further fields may stand between them if their
names are not declared and their values are harmless (`Json.Rearranged`). A field is looked up by
its name, so the declared fields are found all the same, each with a rearranged value
(`Rearranged.declared?`); texts and numbers are not changed at all. What is read from a form
therefore follows from what is read from the values of its fields, and a record is read back level
by level.

Main statement: `Record.ofJson?_rearranged`, a record is read back from every arrangement of its
value, if the levels are enough for the arrangement.
-/
import ExprTree.Proofs.Document.Forms
import ExprTree.Proofs.Document.WellFormed
import Mathlib.Data.List.Forall2

namespace ExprTree

set_option autoImplicit false

/-! ## Rows -/

section Rows

variable {α β : Type}

theorem forall₂_imp_of_mem {rel rel' : α → β → Prop} {row : List α} {row' : List β}
    (each : List.Forall₂ rel row row')
    (implies : ∀ a ∈ row, ∀ b ∈ row', rel a b → rel' a b) : List.Forall₂ rel' row row' := by
  obtain ⟨lengths, pairs⟩ := List.forall₂_iff_zip.1 each
  refine List.forall₂_iff_zip.2 ⟨lengths, fun pair => ?_⟩
  obtain ⟨left, right⟩ := List.of_mem_zip pair
  exact implies _ left _ right (pairs pair)

/-- Every item of the first row belongs to one of the second. -/
theorem exists_zip_of_mem {rel : α → β → Prop} {row : List α} {row' : List β}
    (each : List.Forall₂ rel row row') {a : α} (member : a ∈ row) :
    ∃ b, (a, b) ∈ row.zip row' ∧ rel a b := by
  induction each with
  | nil => cases member
  | @cons _ b row row' first _ ih =>
      rcases List.mem_cons.1 member with rfl | later
      · exact ⟨b, List.mem_cons_self, first⟩
      · obtain ⟨b, among, related⟩ := ih later
        exact ⟨b, List.mem_cons_of_mem _ among, related⟩

/-- Every item of the second row belongs to one of the first. -/
theorem exists_mem_of_forall₂ {rel : α → β → Prop} {row : List α} {row' : List β}
    (each : List.Forall₂ rel row row') {b : β} (member : b ∈ row') : ∃ a ∈ row, rel a b := by
  have other := @List.Forall₂.flip _ _ (flip rel) _ _ each
  obtain ⟨a, among, related⟩ := exists_zip_of_mem other member
  exact ⟨a, (List.of_mem_zip among).2, related⟩

end Rows

namespace Json

/-! ## Arrangements -/

/-- A value that may stand where it is ignored: it is put together from texts, words and integers of
64 bits. -/
inductive Harmless : Json → Prop where
  | null : Harmless .null
  | bool (value : Bool) : Harmless (.bool value)
  | integer (negative : Bool) {n : Nat} (small : n < UInt64.size) :
      Harmless (.number ⟨negative, Nat.toDigits 10 n, none, none⟩)
  | text (content : String) : Harmless (.text content)
  | array {items : List Json} (each : ∀ item ∈ items, Harmless item) : Harmless (.array items)
  | object {fields : List (Option String × Json)} (names : ∀ field ∈ fields, field.1.isSome = true)
      (each : ∀ field ∈ fields, Harmless field.2) : Harmless (.object fields)

/-- Two fields of one name, with values that are related. -/
inductive FieldRel (related : Json → Json → Prop) :
    Option String × Json → Option String × Json → Prop where
  | intro (name : Option String) {value value' : Json} (values : related value value') :
      FieldRel related (name, value) (name, value')

/-- Fields that may be added to an object that declares `fields`. -/
structure Undeclared (fields further : List (Option String × Json)) : Prop where
  readable : ∀ field ∈ further, field.1.isSome = true
  other : ∀ field ∈ further, field.1 ∉ fields.map Prod.fst
  harmless : ∀ field ∈ further, Harmless field.2

/-- The second value is the first one with the fields of its objects in any order, and with further
fields that are not declared. -/
inductive Rearranged : Json → Json → Prop where
  | null : Rearranged .null .null
  | bool (value : Bool) : Rearranged (.bool value) (.bool value)
  | number (value : JsonNumber) : Rearranged (.number value) (.number value)
  | string (content : Option String) : Rearranged (.string content) (.string content)
  | array {items items' : List Json} (each : List.Forall₂ Rearranged items items') :
      Rearranged (.array items) (.array items')
  | object {fields fields' further written : List (Option String × Json)}
      (each : List.Forall₂ (FieldRel Rearranged) fields fields')
      (undeclared : Undeclared fields further) (order : written.Perm (fields' ++ further)) :
      Rearranged (.object fields) (.object written)

theorem undeclared_nil (fields : List (Option String × Json)) : Undeclared fields [] :=
  ⟨nofun, nofun, nofun⟩

@[simp] theorem Rearranged.refl (json : Json) : Rearranged json json := by
  induction json using Json.induct with
  | null => exact .null
  | bool value => exact .bool value
  | number value => exact .number value
  | string content => exact .string content
  | array items each => exact .array (List.forall₂_same.2 each)
  | object fields each =>
      refine .object (List.forall₂_same.2 fun field member => ?_) (undeclared_nil fields)
        (.of_eq (List.append_nil fields).symm)
      exact .intro field.1 (each field member)

theorem Rearranged.eq_text {content : String} {json : Json}
    (rearranged : Rearranged (.text content) json) : json = .text content := by
  cases rearranged
  rfl

theorem Rearranged.eq_natural {n : Nat} {json : Json} (rearranged : Rearranged (.natural n) json) :
    json = .natural n := by
  cases rearranged
  rfl

/-! ### Plain values -/

theorem Harmless.isPlain {json : Json} (harmless : Harmless json) : json.isPlain = true := by
  induction harmless with
  | null => rfl
  | bool value => rfl
  | integer negative small => exact JsonNumber.isFinite_ofNat small
  | text content => rfl
  | array each ih => exact itemsPlain_iff.2 ih
  | object names each ih => exact fieldsPlain_iff.2 fun field member =>
      ⟨names field member, ih field member⟩

theorem Rearranged.isPlain {json json' : Json} (rearranged : Rearranged json json')
    (plain : json.isPlain = true) : json'.isPlain = true := by
  induction json using Json.induct generalizing json' with
  | array items ih =>
      cases rearranged with
      | array each =>
          refine itemsPlain_iff.2 fun item' member' => ?_
          obtain ⟨item, member, related⟩ := exists_mem_of_forall₂ each member'
          exact ih item member related (itemsPlain_iff.1 plain item member)
  | object fields ih =>
      cases rearranged with
      | object each undeclared order =>
          refine fieldsPlain_iff.2 fun field' member' => ?_
          rcases List.mem_append.1 (order.mem_iff.1 member') with own | further
          · obtain ⟨field, member, related⟩ := exists_mem_of_forall₂ each own
            obtain ⟨readable, value⟩ := fieldsPlain_iff.1 plain field member
            cases related with
            | intro name values => exact ⟨readable, ih _ member values value⟩
          · exact ⟨undeclared.readable field' further,
              (undeclared.harmless field' further).isPlain⟩
  | _ =>
      cases rearranged
      exact plain

theorem namesReadable_of_isPlain {json : Json} (plain : json.isPlain = true) :
    json.namesReadable = true := by
  cases json with
  | object fields =>
      exact List.all_eq_true.2 fun field member => (fieldsPlain_iff.1 plain field member).1
  | _ => rfl

/-! ### Declared fields -/

/-- The order of the fields does not matter. -/
theorem field?_perm {fields written : List (Option String × Json)} (order : written.Perm fields)
    (name : String) : field? written name = field? fields name := by
  refine Option.ext fun value => ?_
  have same := order.filter fun field => field.1 == some name
  rw [field?_eq_some_iff, field?_eq_some_iff, ← List.perm_singleton, ← List.perm_singleton,
    same.congr_left]

/-- Fields of other names do not matter. -/
theorem field?_append_of_notMem {fields further : List (Option String × Json)} {name : String}
    (other : ∀ field ∈ further, field.1 ≠ some name) :
    field? (fields ++ further) name = field? fields name := by
  have none : further.filter (fun field => field.1 == some name) = [] :=
    List.filter_eq_nil_iff.2 fun field member => by simpa using other field member
  rw [field?, field?, List.filter_append, none, List.append_nil]

/-- Fields that are related one by one are found together. -/
theorem exists_field?_of_forall₂ {related : Json → Json → Prop}
    {fields fields' : List (Option String × Json)}
    (each : List.Forall₂ (FieldRel related) fields fields') {name : String} {value : Json}
    (found : field? fields name = some value) :
    ∃ value', field? fields' name = some value' ∧ related value value' := by
  have filtered : List.Forall₂ (FieldRel related)
      (fields.filter fun field => field.1 == some name)
      (fields'.filter fun field => field.1 == some name) :=
    List.rel_filter (by rintro _ _ ⟨⟩; rfl) each
  rw [field?_eq_some_iff.1 found] at filtered
  generalize left : fields'.filter (fun field => field.1 == some name) = single at filtered
  obtain _ | ⟨⟨_, values⟩, ⟨⟩⟩ := filtered
  exact ⟨_, field?_eq_some_iff.2 left, values⟩

/-- A declared field is found in every arrangement. -/
theorem Rearranged.exists_field? {fields written : List (Option String × Json)}
    (rearranged : Rearranged (.object fields) (.object written)) {name : String} {value : Json}
    (found : field? fields name = some value) :
    ∃ value', field? written name = some value' ∧ Rearranged value value' := by
  cases rearranged with
  | @object _ fields' further _ each undeclared order =>
      have other : ∀ field ∈ further, field.1 ≠ some name := fun field member named =>
        undeclared.other field member
          (List.mem_map.2 ⟨(some name, value), mem_of_field? found, named.symm⟩)
      rw [field?_perm order, field?_append_of_notMem other]
      exact exists_field?_of_forall₂ each found

/-- The declared fields of an object are found in every arrangement of it. -/
theorem Rearranged.declared? {fields : List (Option String × Json)} {json : Json}
    (rearranged : Rearranged (.object fields) json) {names : List String} {values : List Json}
    (declared : (Json.object fields).declared? names = some values) :
    ∃ written values', json = .object written ∧ json.declared? names = some values' ∧
      List.Forall₂ Rearranged values values' := by
  obtain ⟨written, rfl⟩ : ∃ written, json = .object written := by
    cases rearranged
    exact ⟨_, rfl⟩
  have each := mapM_eq_some_iff.1 declared
  simp only [Json.declared?, mapM_eq_some_iff]
  clear declared
  induction each with
  | nil => exact ⟨written, [], rfl, .nil, .nil⟩
  | cons found _ ih =>
      obtain ⟨_, values', same, rest, related⟩ := ih
      obtain ⟨value', first, value⟩ := rearranged.exists_field? found
      exact ⟨_, value' :: values', same, .cons first rest, .cons value related⟩

end Json

/-! ## Forms -/

/-- The values of a form are found in every arrangement of it. -/
theorem Json.Rearranged.recordParts? {form : RecordForm} {values : List Json} {json : Json}
    (rearranged : Rearranged (form.json values) json) (nested : Bool)
    (lengths : values.length = form.fields.length) :
    ∃ values', json.recordParts? nested = some (form, values') ∧
      List.Forall₂ Rearranged values values' := by
  obtain ⟨written, values', rfl, declared, each⟩ :=
    rearranged.declared? (RecordForm.declared?_json lengths)
  obtain _ | ⟨⟨_⟩, related⟩ := each
  exact ⟨_, RecordForm.recordParts?_object nested declared, related⟩

namespace Record

/-- The values of the fields of a record are less deep than the record. -/
theorem exists_levels {nested : Bool} {json : Json} {form : RecordForm} {values : List Json}
    (parts : json.recordParts? nested = some (form, values)) {levels : Nat}
    (enough : json.depth ≤ levels) :
    ∃ fewer, levels = fewer + 1 ∧ ∀ value ∈ values, value.depth ≤ fewer := by
  obtain ⟨deepest, depth, each⟩ : ∃ deepest, json.depth = 1 + deepest ∧
      ∀ value ∈ values, value.depth ≤ deepest := by
    unfold Json.recordParts? at parts
    split at parts
    next fields =>
      simp only [Option.bind_eq_bind, Option.bind_eq_some_iff, Option.pure_def,
        Option.some.injEq, Prod.mk.injEq] at parts
      obtain ⟨_, _, _, _, _, found, rfl, rfl⟩ := parts
      refine ⟨_, rfl, fun value member => ?_⟩
      obtain ⟨name, _, found⟩ := exists_mem_of_forall₂ (Json.mapM_eq_some_iff.1 found) member
      exact Json.depth_le_fieldsDepth (Json.mem_of_field? found)
    next name items =>
      simp only [Option.bind_eq_bind, Option.bind_eq_some_iff, Option.ite_none_right_eq_some,
        Option.pure_def, Option.some.injEq, Prod.mk.injEq] at parts
      obtain ⟨_, _, _, rfl, rfl⟩ := parts
      refine ⟨_, rfl, fun value member => ?_⟩
      exact Json.depth_le_itemsDepth (List.mem_cons_of_mem name member)
    next => cases parts
  refine ⟨levels - 1, by omega, fun value member => ?_⟩
  have := each value member
  omega

theorem jsons_eq_map (records : List Record) : jsons records = records.map json := by
  induction records with
  | nil => rfl
  | cons record rest ih => simp [ih]

/-- The items of a row are read back from arrangements of them. -/
theorem mapM_ofJson?_rearranged {elements : List Record} {items : List Json} {levels : Nat}
    (each : List.Forall₂ Json.Rearranged (jsons elements) items)
    (reads : ∀ element ∈ elements, ∀ item ∈ items, Json.Rearranged element.json item →
      ofJson? true levels item = some element) :
    items.mapM (ofJson? true levels) = some elements := by
  rw [jsons_eq_map, List.forall₂_map_left_iff] at each
  exact Json.mapM_eq_some_iff.2 (forall₂_imp_of_mem each reads).flip

/-- **A record in another arrangement.** A record is read back from every arrangement of its value,
if the levels are enough for the arrangement. -/
theorem ofJson?_rearranged {record : Record} {json : Json}
    (rearranged : Json.Rearranged record.json json)
    (bounded : ∀ index ∈ record.indices, index < UInt64.size) {levels : Nat}
    (enough : json.depth ≤ levels) (nested : Bool) :
    ofJson? nested levels json = some record := by
  induction record using Record.induct generalizing json levels nested with
  | leaf parts =>
      obtain ⟨values, read, each⟩ := rearranged.recordParts? nested rfl
      obtain ⟨fewer, rfl, -⟩ := exists_levels read enough
      rw [forall_indices_leaf] at bounded
      obtain _ | ⟨kind, _ | ⟨index, _ | ⟨start, _ | ⟨text, _ | ⟨stop, _ | _⟩⟩⟩⟩⟩ := each
      obtain rfl := kind.eq_text
      obtain rfl := index.eq_natural
      obtain rfl := start.eq_natural
      obtain rfl := text.eq_text
      obtain rfl := stop.eq_natural
      rw [ofJson?, read]
      simp only [Option.bind_eq_bind, Option.bind_some, leafOfJson?, Json.leafKind?_word,
        Json.index?_natural bounded, Json.offset?_natural, Json.text?_text]
      rfl
  | unary op opOffset operand ih =>
      obtain ⟨values, read, each⟩ := rearranged.recordParts? nested rfl
      obtain ⟨fewer, rfl, below⟩ := exists_levels read enough
      obtain _ | ⟨symbol, _ | ⟨offset, _ | ⟨inner, _ | _⟩⟩⟩ := each
      obtain rfl := symbol.eq_text
      obtain rfl := offset.eq_natural
      rw [ofJson?, read]
      simp only [Option.bind_eq_bind, Option.bind_some, Json.offset?_natural, Json.text?_text,
        ih inner bounded (below _ (by simp))]
      rfl
  | binary lhs op opOffset rhs ihl ihr =>
      obtain ⟨values, read, each⟩ := rearranged.recordParts? nested rfl
      obtain ⟨fewer, rfl, below⟩ := exists_levels read enough
      rw [forall_indices_binary] at bounded
      obtain _ | ⟨left, _ | ⟨symbol, _ | ⟨offset, _ | ⟨right, _ | _⟩⟩⟩⟩ := each
      obtain rfl := symbol.eq_text
      obtain rfl := offset.eq_natural
      rw [ofJson?, read]
      simp only [Option.bind_eq_bind, Option.bind_some, Json.offset?_natural, Json.text?_text,
        ihl left bounded.1 (below _ (by simp)), ihr right bounded.2 (below _ (by simp))]
      rfl
  | conditional thenCase condition elseCase iht ihc ihe =>
      obtain ⟨values, read, each⟩ := rearranged.recordParts? nested rfl
      obtain ⟨fewer, rfl, below⟩ := exists_levels read enough
      rw [forall_indices_conditional] at bounded
      obtain _ | ⟨first, _ | ⟨second, _ | ⟨third, _ | _⟩⟩⟩ := each
      rw [ofJson?, read]
      simp only [Option.bind_eq_bind, Option.bind_some, iht first bounded.1 (below _ (by simp)),
        ihc second bounded.2.1 (below _ (by simp)), ihe third bounded.2.2 (below _ (by simp))]
      rfl
  | list source start elements stop ih =>
      obtain ⟨values, read, each⟩ := rearranged.recordParts? nested rfl
      obtain ⟨fewer, rfl, below⟩ := exists_levels read enough
      rw [forall_indices_list] at bounded
      obtain _ | ⟨index, _ | ⟨first, _ | ⟨row, _ | ⟨last, _ | _⟩⟩⟩⟩ := each
      obtain rfl := index.eq_natural
      obtain rfl := first.eq_natural
      obtain rfl := last.eq_natural
      cases row with
      | @array _ items each =>
          have reads : items.mapM (ofJson? true fewer) = some elements := by
            refine mapM_ofJson?_rearranged each fun element member item member' related => ?_
            have deep : (Json.array items).depth ≤ fewer := below _ (by simp)
            have shallower := Json.depth_le_itemsDepth member'
            rw [Json.depth] at deep
            exact ih element member related (bounded.2 element member) (by omega) true
          rw [ofJson?, read]
          simp only [Option.bind_eq_bind, Option.bind_some, Json.index?_natural bounded.1,
            Json.offset?_natural, reads]
          rfl

end Record

/-! ## Entries of the source table -/

namespace SourceRecord

theorem isPlain_json (source : SourceRecord) : source.json.isPlain = true :=
  rfl

theorem ofJson?_rearranged {source : SourceRecord} {json : Json}
    (rearranged : Json.Rearranged source.json json) : ofJson? json = some source := by
  have readable := Json.namesReadable_of_isPlain (rearranged.isPlain source.isPlain_json)
  have distinct : ["file", "text"].Nodup := by decide
  obtain ⟨written, values, rfl, declared, each⟩ := rearranged.declared?
    (@Json.declared?_record _ [.text source.file, .text source.text] distinct rfl)
  obtain _ | ⟨file, _ | ⟨text, _ | _⟩⟩ := each
  obtain rfl := file.eq_text
  obtain rfl := text.eq_text
  simp only [ofJson?, readable, declared, Json.text?_text]
  rfl

end SourceRecord

end ExprTree
