/-
# ExprTree.Proofs.Document.JsonText — documents through their JSON text

What a document is written as consists of texts, natural numbers and rows of values, put together in
forms (`Record.json_induct`). A record is read back (`Record.ofJson?_json`): as many levels as it
nests are enough. The text of a document is read as the value of the document (`read?_toJson`) and
is nested as deep as that value.

Main statement: `ofJson?_toJson`. The depth of a document's text is one more than that of its table
and its root, the text gives the document back up to `Document.openLimit` levels, and nothing
beyond.
-/
import ExprTree.Proofs.Document.Arrangement
import ExprTree.Proofs.Json.Depth
import ExprTree.Proofs.Json.RoundTrip

namespace ExprTree

set_option autoImplicit false

/-! ## Records -/

namespace Record

/-- What holds of texts and of the numbers that occur in a record, and passes to rows and forms,
holds of the value of the record. -/
theorem json_induct {property : Json → Prop} (text : ∀ content, property (.text content))
    (offset : ∀ offset : Offset, property (.natural offset.toNat))
    (array : ∀ items, (∀ item ∈ items, property item) → property (.array items))
    (form : ∀ (form : RecordForm) (values : List Json), (∀ value ∈ values, property value) →
      property (form.json values)) {record : Record}
    (index : ∀ index ∈ record.indices, property (.natural index)) : property record.json := by
  induction record using Record.induct with
  | leaf parts =>
      rw [forall_indices_leaf] at index
      refine form _ _ ?_
      simp [text, index, offset]
  | unary op opOffset operand ih =>
      have ofOperand := ih index
      refine form _ _ ?_
      simp [text, offset, ofOperand]
  | binary lhs op opOffset rhs ihl ihr =>
      rw [forall_indices_binary] at index
      refine form _ _ ?_
      simp [text, offset, ihl index.1, ihr index.2]
  | conditional thenCase condition elseCase iht ihc ihe =>
      rw [forall_indices_conditional] at index
      refine form _ _ ?_
      simp [iht index.1, ihc index.2.1, ihe index.2.2]
  | list source start elements stop ih =>
      rw [forall_indices_list] at index
      have row : property (.array (jsons elements)) := by
        refine array _ ?_
        rw [jsons_eq_map, List.forall_mem_map]
        exact fun element member => ih element member (index.2 element member)
      refine form _ _ ?_
      simp [offset, index.1, row]

theorem regular_json (record : Record) : record.json.Regular :=
  json_induct (fun _ => .string _) (fun _ => .number (JsonNumber.regular_ofNat _))
    (fun _ each => .array each) (fun _ _ each => RecordForm.regular_json each)
    fun _ _ => .number (JsonNumber.regular_ofNat _)

theorem isPlain_json {record : Record} (bounded : ∀ index ∈ record.indices, index < UInt64.size) :
    record.json.isPlain = true := by
  have small (offset : Offset) : offset.toNat < UInt64.size :=
    Nat.lt_trans offset.toNat_lt_size (by decide)
  refine @json_induct (fun json => json.isPlain = true) ?text ?offset ?array ?form record ?index
  case text => exact fun _ => rfl
  case offset => exact fun offset => JsonNumber.isFinite_ofNat (small offset)
  case array => exact fun _ each => Json.itemsPlain_iff.2 each
  case form => exact fun _ _ each => RecordForm.isPlain_json each
  case index => exact fun index occurs => JsonNumber.isFinite_ofNat (bounded index occurs)

/-! ### Levels -/

mutual

/-- The number of levels that a record nests: one for its object, and for a list another one for the
row of its elements. -/
@[simp] def nest : Record → Nat
  | .leaf _ => 1
  | .unary _ _ operand => 1 + nest operand
  | .binary lhs _ _ rhs => 1 + max (nest lhs) (nest rhs)
  | .conditional thenCase condition elseCase =>
      1 + max (nest thenCase) (max (nest condition) (nest elseCase))
  | .list _ _ elements _ => 2 + nestAll elements

def nestAll : List Record → Nat
  | [] => 0
  | record :: rest => max (nest record) (nestAll rest)

end

theorem itemsDepth_jsons {records : List Record}
    (each : ∀ record ∈ records, record.json.depth = record.nest) :
    Json.itemsDepth (jsons records) = nestAll records := by
  induction records with
  | nil => rfl
  | cons record rest ih =>
      rw [List.forall_mem_cons] at each
      rw [jsons, Json.itemsDepth, nestAll, each.1, ih each.2]

theorem depth_json (record : Record) : record.json.depth = record.nest := by
  have text (content : String) : (Json.text content).depth = 0 := rfl
  have natural (n : Nat) : (Json.natural n).depth = 0 := rfl
  induction record using Record.induct with
  | leaf parts => rfl
  | unary op opOffset operand ih =>
      rw [json, RecordForm.depth_json rfl]
      simp [text, natural, ih]
  | binary lhs op opOffset rhs ihl ihr =>
      rw [json, RecordForm.depth_json rfl]
      simp [text, natural, ihl, ihr]
  | conditional thenCase condition elseCase iht ihc ihe =>
      rw [json, RecordForm.depth_json rfl]
      simp [iht, ihc, ihe]
  | list source start elements stop ih =>
      rw [json, RecordForm.depth_json rfl]
      simp [natural, itemsDepth_jsons ih]
      omega

/-- A record is read back from its value, if the levels are enough for it. -/
theorem ofJson?_json {record : Record} (bounded : ∀ index ∈ record.indices, index < UInt64.size)
    {levels : Nat} (enough : record.nest ≤ levels) (nested : Bool) :
    ofJson? nested levels record.json = some record :=
  ofJson?_rearranged (.refl _) bounded (record.depth_json ▸ enough) nested

end Record

/-! ## Documents -/

theorem SourceRecord.ofJson?_json (source : SourceRecord) : ofJson? source.json = some source :=
  ofJson?_rearranged (.refl _)

namespace Document

theorem regular_json (document : Document) : document.json.Regular := by
  have sources : ∀ source : SourceRecord, source.json.Regular :=
    fun source => .object (by simp [Json.text, Json.Regular.string])
  have table : (Json.array (document.sources.map SourceRecord.json)).Regular :=
    .array (List.forall_mem_map.2 fun source _ => sources source)
  exact .object (by simp [table, document.root.regular_json])

/-- The text of a document is read as the value of the document. -/
theorem read?_toJson (document : Document) :
    Json.read? document.toJson.toList = some document.json := by
  rw [toJson, String.toList_ofList]
  exact document.regular_json.read?_write

theorem declared?_json (document : Document) : document.json.declared? ["sources", "root"] =
    some [.array (document.sources.map SourceRecord.json), document.root.json] := by
  have distinct : ["sources", "root"].Nodup := by decide
  exact @Json.declared?_record _
    [.array (document.sources.map SourceRecord.json), document.root.json] distinct rfl

/-- The value of a document is read back up to the limit. -/
theorem ofJsonValue?_json (document : Document) :
    ofJsonValue? document.json =
      if document.root.json.isPlain ∧ 1 + document.root.nest ≤ openLimit then
        (Record.ofJson? false openLimit document.root.json).map fun root =>
          ⟨document.sources, root⟩
      else none := by
  have readable : document.json.namesReadable = true := Json.namesReadable_record _
  have sources : (document.sources.map SourceRecord.json).mapM SourceRecord.ofJson? =
      some document.sources :=
    Json.mapM_eq_some_iff.2 (List.forall₂_map_left_iff.2
      (List.forall₂_same.2 fun source _ => source.ofJson?_json))
  simp only [ofJsonValue?, readable, document.declared?_json, sources, Option.bind_eq_bind,
    Option.bind_some, document.root.depth_json]
  split
  · cases Record.ofJson? false openLimit document.root.json <;> rfl
  · rfl

/-- A document's text has as many levels as its table and its root, and one more. -/
theorem openDepth_toJson (document : Document) :
    Json.openDepth document.toJson.toList =
      1 + max (if document.sources = [] then 1 else 2) document.root.nest := by
  have table : Json.itemsDepth (document.sources.map SourceRecord.json) =
      if document.sources = [] then 0 else 1 := by
    induction document.sources with
    | nil => rfl
    | cons source rest ih =>
        have entry : source.json.depth = 1 := rfl
        rw [List.map_cons, Json.itemsDepth, ih, entry, if_neg (List.cons_ne_nil source rest)]
        split <;> rfl
  have value : document.json.depth = 1 + max (1 + Json.itemsDepth (document.sources.map
      SourceRecord.json)) (max document.root.json.depth 0) := rfl
  rw [toJson, String.toList_ofList, document.regular_json.openDepth_write, value, table,
    document.root.depth_json]
  split <;> omega

/-- The limit is a matter of the root alone. -/
theorem openDepth_le_iff (document : Document) :
    Json.openDepth document.toJson.toList ≤ openLimit ↔ 1 + document.root.nest ≤ openLimit := by
  rw [openDepth_toJson, openLimit]
  split <;> omega

/-- **The JSON text of a document and its limit.** The text is nested one level deeper than the
table and the root. It is read as the document if no more than 127 arrays and objects are open at
once, and refused otherwise; so the text of a tree that is too deep is written, but not read. -/
theorem ofJson?_toJson :
    (∀ document : Document,
      Json.openDepth document.toJson.toList =
          1 + max (if document.sources = [] then 1 else 2) document.root.nest ∧
      ((∀ index ∈ document.root.indices, index < UInt64.size) →
        ofJson? document.toJson =
          if Json.openDepth document.toJson.toList ≤ 127 then some document else none)) ∧
    ∀ (serial : Nat) (expr : Expr), 127 < Json.openDepth expr.toJson.toList →
      Expr.ofJson serial expr.toJson = .error .malformedJson := by
  have reads (document : Document) : ofJson? document.toJson = ofJsonValue? document.json := by
    rw [ofJson?, document.read?_toJson]
    rfl
  have deep (document : Document) (beyond : ¬ Json.openDepth document.toJson.toList ≤ openLimit) :
      ofJson? document.toJson = none := by
    rw [reads, ofJsonValue?_json, if_neg]
    exact fun plain => beyond (document.openDepth_le_iff.2 plain.2)
  refine ⟨fun document => ⟨document.openDepth_toJson, fun bounded => ?_⟩,
    fun serial expr beyond => ?_⟩
  · split
    next within =>
      have levels := document.openDepth_le_iff.1 within
      have enough : document.root.nest ≤ openLimit := by omega
      rw [reads, ofJsonValue?_json, if_pos ⟨Record.isPlain_json bounded, levels⟩,
        Record.ofJson?_json bounded enough false]
      rfl
    next beyond => exact deep document beyond
  · rw [Expr.ofJson, Expr.toJson, deep _ (Nat.not_le.2 beyond)]

/-! ### An awkward document, and lists inside lists -/

namespace Example

/-- A document that decodes to nothing: its strings need all kinds of escapes, its numbers are the
largest ones, and its offsets are out of order. -/
def awkward : Document where
  sources := [⟨"\"quoted\".cp", "\\ \x00\x1f\x7f\n\t é \u2028 😀"⟩, ⟨"", ""⟩]
  root := .list 18446744073709551615 4294967295
    [.unary "no operator\r" 7 (.leaf ⟨.int, 3, 9, "not a number", 0⟩)] 0

/-- The text of a list without elements. -/
def brackets : Source :=
  ⟨0, "brackets", "[]", by decide⟩

/-- A list of one list of one list and so on; the innermost one has no elements. -/
def nested : Nat → Expr
  | 0 => .list ⟨brackets, ⟨0, 2, by decide⟩⟩ []
  | n + 1 => .list ⟨brackets, ⟨0, 2, by decide⟩⟩ [nested n]

theorem nest_nested (table : List Source) (n : Nat) :
    ((nested n).toRecord table).nest = 2 * n + 2 := by
  induction n with
  | zero => rfl
  | succ n ih =>
      rw [nested, Expr.toRecord, Expr.toRecords, Expr.toRecords, Record.nest, Record.nestAll,
        Record.nestAll, ih]
      omega

end Example

theorem ofJson?_toJson_limit :
    (∀ index ∈ Example.awkward.root.indices, index < UInt64.size) ∧
      Json.openDepth Example.awkward.toJson.toList = 5 ∧
      ofJson? Example.awkward.toJson = some Example.awkward ∧
      127 < Json.openDepth (Example.nested 63).toJson.toList ∧
      Expr.ofJson 0 (Example.nested 63).toJson = .error .malformedJson := by
  have bounded : ∀ index ∈ Example.awkward.root.indices, index < UInt64.size := by decide
  obtain ⟨depth, reads⟩ := ofJson?_toJson.1 Example.awkward
  have deep : 127 < Json.openDepth (Example.nested 63).toJson.toList := by
    rw [Expr.toJson, (ofJson?_toJson.1 _).1, encode_eq, Example.nest_nested]
    omega
  refine ⟨bounded, depth, ?_, deep, ofJson?_toJson.2 0 _ deep⟩
  rw [reads bounded, depth]
  rfl

end Document

end ExprTree
