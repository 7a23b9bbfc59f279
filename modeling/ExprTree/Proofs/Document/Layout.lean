/-
# ExprTree.Proofs.Document.Layout — documents in texts of any layout

The text of a document may be laid out in other ways: the fields of its objects in any order and
with further ones between them (`Json.Rearranged`), blanks between the tokens and other escapes in
the strings (`Json.Lays`). Reading takes both layers apart, the text into the tokens of a value and
the value by the names of its fields, so that nothing of the layout is left. If one declared field
is spoilt (`Json.Spoilt`), the text is a text all the same, but no document.

Main statement: `ofJson?_layout`. Every layout of a document is read as the document, up to the
limit of open arrays and objects, and a layout with a spoilt field is refused.
-/
import ExprTree.Proofs.Document.Defects
import ExprTree.Proofs.Document.JsonText

namespace ExprTree.Document

set_option autoImplicit false

/-! ## Values -/

theorem isPlain_json {document : Document}
    (bounded : ∀ index ∈ document.root.indices, index < UInt64.size) :
    document.json.isPlain = true := by
  have table : (Json.array (document.sources.map SourceRecord.json)).isPlain = true :=
    Json.itemsPlain_iff.2 (List.forall_mem_map.2 fun source _ => source.isPlain_json)
  exact Json.fieldsPlain_iff.2 (by simp [table, Record.isPlain_json bounded])

/-- A document is read back from every arrangement of its value, up to the limit. -/
theorem ofJsonValue?_rearranged {document : Document}
    (bounded : ∀ index ∈ document.root.indices, index < UInt64.size) {json : Json}
    (rearranged : Json.Rearranged document.json json) (within : json.depth ≤ openLimit) :
    ofJsonValue? json = some document := by
  have readable := Json.namesReadable_of_isPlain (rearranged.isPlain (isPlain_json bounded))
  obtain ⟨written, values, rfl, declared, each⟩ := rearranged.declared? document.declared?_json
  obtain _ | ⟨table, _ | ⟨root, _ | _⟩⟩ := each
  cases table with
  | @array _ items each =>
      have sources : items.mapM SourceRecord.ofJson? = some document.sources := by
        rw [List.forall₂_map_left_iff] at each
        refine Json.mapM_eq_some_iff.2 (each.imp ?_).flip
        exact fun _ _ => SourceRecord.ofJson?_rearranged
      have plain := root.isPlain (Record.isPlain_json bounded)
      obtain _ | ⟨_, _ | ⟨found, _⟩⟩ := Json.mapM_eq_some_iff.1 declared
      have deep := Json.depth_le_fieldsDepth (Json.mem_of_field? found)
      rw [Json.depth] at within
      have shallow := Nat.le_trans (Nat.add_le_add_left deep 1) within
      have enough := Nat.le_trans (Nat.le_add_left _ 1) shallow
      simp only [ofJsonValue?, readable, declared, sources, Option.bind_eq_bind, Option.bind_some,
        if_pos (And.intro plain shallow), Record.ofJson?_rearranged root bounded enough false]
      rfl

/-- No document is read from a value with a spoilt field. -/
theorem ofJsonValue?_spoilt {document : Document} {json : Json}
    (spoilt : Json.Spoilt document.json json) : ofJsonValue? json = none := by
  have distinct := @Json.nodup_zip ["sources", "root"]
    [.array (document.sources.map SourceRecord.json), document.root.json] (by decide) rfl
  obtain ⟨written, name, value, rfl, member, single, -⟩ := spoilt.exists_field distinct
  simp only [List.map_cons, List.map_nil, List.mem_cons, Prod.mk.injEq, Option.some.injEq,
    List.not_mem_nil, or_false] at member
  refine Option.eq_none_iff_forall_not_mem.2 fun _ read => ?_
  simp only [ofJsonValue?] at read
  split at read
  next items root _ declared =>
    simp only [Option.pure_def, Option.bind_eq_bind, Option.mem_def, Option.bind_eq_some_iff,
      Option.ite_none_right_eq_some] at read
    obtain ⟨sources, readSources, -, _, readRoot, -⟩ := read
    obtain _ | ⟨foundSources, _ | ⟨foundRoot, _ | _⟩⟩ := Json.mapM_eq_some_iff.1 declared
    rcases member with ⟨rfl, rfl⟩ | ⟨rfl, rfl⟩
    · rcases single _ foundSources with unfit | spoilt
      · cases unfit
      · obtain ⟨_, same, item, member, item', member', spoilt⟩ := spoilt.exists_item
        cases same
        obtain ⟨source, -, rfl⟩ := List.mem_map.1 member
        obtain ⟨_, -, read⟩ := exists_zip_of_mem (Json.mapM_eq_some_iff.1 readSources) member'
        cases (SourceRecord.ofJson?_spoilt spoilt).symm.trans read
    · rcases single _ foundRoot with unfit | spoilt
      · cases unfit with
        | null => cases (Record.ofJson?_null false openLimit).symm.trans readRoot
        | offset known _ | source known _ => exact absurd known (by decide)
      · cases (Record.ofJson?_spoilt spoilt false openLimit).symm.trans readRoot
  next => cases read

/-! ## Texts -/

/-- The text is that of the document in another layout. -/
def Layout (document : Document) (text : String) : Prop :=
  ∃ json, Json.Rearranged document.json json ∧ Json.Lays json.tokens text.toList

/-- The text is that of the document in another layout, with one declared field spoilt. -/
def SpoiltLayout (document : Document) (text : String) : Prop :=
  ∃ json, Json.Spoilt document.json json ∧ Json.Lays json.tokens text.toList

theorem ofJson?_of_lays {json : Json} {text : String} (lays : Json.Lays json.tokens text.toList) :
    ofJson? text = ofJsonValue? json := by
  rw [ofJson?, lays.read?]
  rfl

/-- The text that is written is one of the layouts. -/
theorem layout_toJson (document : Document) : document.Layout document.toJson := by
  refine ⟨document.json, .refl _, ?_⟩
  rw [toJson, String.toList_ofList]
  exact document.regular_json.lays

/-- **The JSON text of a document and its layouts.** The text that is written is only one layout of
many. In each of them, the document is read if no more than 127 arrays and objects are open at once.
If one declared field is left out, repeated or unfit, the text is refused in every layout. -/
theorem ofJson?_layout (document : Document) :
    document.Layout document.toJson ∧
    ((∀ index ∈ document.root.indices, index < UInt64.size) → ∀ text, document.Layout text →
      Json.openDepth text.toList ≤ 127 → ofJson? text = some document) ∧
    ∀ text, document.SpoiltLayout text →
      ofJson? text = none ∧ ∀ serial, Expr.ofJson serial text = .error .malformedJson := by
  refine ⟨document.layout_toJson, fun bounded text ⟨json, rearranged, lays⟩ within => ?_,
    fun text ⟨json, spoilt, lays⟩ => ?_⟩
  · rw [lays.openDepth] at within
    rw [ofJson?_of_lays lays]
    exact ofJsonValue?_rearranged bounded rearranged within
  · have refused : ofJson? text = none := by
      rw [ofJson?_of_lays lays, ofJsonValue?_spoilt spoilt]
    exact ⟨refused, fun serial => by rw [Expr.ofJson, refused]⟩

/-! ### A layout of a small document -/

namespace Example

/-- A document of an empty list, without sources. -/
def small : Document where
  sources := []
  root := .list 0 0 [] 2

/-- Its value with the fields of each object in the opposite order, and with a further field. -/
def turned : Json :=
  .record [("note", .array [.null, .text "😀"]),
    ("root", .record [("end", .natural 2), ("elements", .array []), ("start", .natural 0),
      ("source", .natural 0), ("node", .text "list")]),
    ("sources", .array [])]

/-- A text of that value, with blanks and escapes. -/
def turnedText : String :=
  "\x7b \"note\":[null,\"\\uD83d\\uDE00\"],\n\t\"root\":\x7b\"end\":2,\"elements\":[]," ++
    "\"start\":0,\"source\":0,\"n\\u006Fde\":\"list\"\x7d,\"sources\":[]\x7d"

theorem rearranged_reverse {fields fields' further : List (Option String × Json)}
    (each : List.Forall₂ (Json.FieldRel Json.Rearranged) fields fields')
    (undeclared : Json.Undeclared fields further) :
    Json.Rearranged (.object fields) (.object (fields' ++ further).reverse) :=
  .object each undeclared (List.reverse_perm _)

theorem undeclared_note : Json.Undeclared
    [(some "sources", .array []), (some "root", small.root.json)]
    [(some "note", .array [.null, .text "😀"])] where
  readable := by simp
  other := by simp
  harmless := by
    refine List.forall_mem_singleton.2 (.array ?_)
    rw [List.forall_mem_cons, List.forall_mem_singleton]
    exact ⟨.null, .text "😀"⟩

theorem rearranged_turned : Json.Rearranged small.json turned := by
  have same (name : Option String) (value : Json) :
      Json.FieldRel Json.Rearranged (name, value) (name, value) := .intro name (.refl value)
  let written : List (Option String × Json) :=
    [(some "node", .text "list"), (some "source", .natural 0), (some "start", .natural 0),
      (some "elements", .array []), (some "end", .natural 2)]
  have root := rearranged_reverse (List.forall₂_same.2 fun field _ => same field.1 field.2)
    (Json.undeclared_nil written)
  exact rearranged_reverse (.cons (same _ _) (.cons (.intro _ root) .nil)) undeclared_note

theorem lays_turned : Json.Lays turned.tokens turnedText.toList := by
  have blank (c : Char) (isBlank : c ∈ [' ', '\t', '\n', '\r']) {tokens : List Json.Token}
      {rest : List Char} (lays : Json.Lays tokens rest) := Json.Lays.blank isBlank lays
  -- texts and numbers as they are written
  have text (content : String) {tokens : List Json.Token} {rest : List Char}
      (lays : Json.Lays tokens rest) := (Json.lays_writeString (some content)).append lays
  have number (n : Nat) {tokens : List Json.Token} {rest : List Char}
      (lays : Json.Lays tokens rest) :=
    Json.Lays.token (.number (JsonNumber.regular_ofNat n)) lays
  -- texts that are spelled by escapes
  have itself (c : Char) (ordinary : c ≠ '"' ∧ c ≠ '\\' ∧ 0x20 ≤ c.toNat) :=
    Json.SpelledAs.itself ordinary.1 ordinary.2.1 ordinary.2.2
  have code : Json.IsCode "006F".toList 'o'.toNat := ⟨rfl, List.all_eq_true.1 rfl, rfl⟩
  have node : Json.SpelledText ['n', 'o', 'd', 'e'] ("n\\u006Fde".toList) :=
    .cons (itself 'n' (by decide)) (.cons (.numbered code)
      (.cons (itself 'd' (by decide)) (.cons (itself 'e' (by decide)) .nil)))
  have high : Json.IsCode "D83d".toList (0xD800 + ('😀'.toNat - 0x10000) / 0x400) :=
    ⟨rfl, List.all_eq_true.1 rfl, rfl⟩
  have low : Json.IsCode "DE00".toList (0xDC00 + ('😀'.toNat - 0x10000) % 0x400) :=
    ⟨rfl, List.all_eq_true.1 rfl, rfl⟩
  have face : Json.SpelledText ['😀'] ("\\uD83d\\uDE00".toList) :=
    .cons (.paired (by decide) high low) .nil
  have laid : Json.Lays turned.tokens _ := Json.Lays.token .openObject <| blank ' ' (by decide) <|
    text "note" <| .token .colon <| .token .openArray <| .token .null <| .token .comma <|
      .token (.string face) <| .token .closeArray <| .token .comma <|
    blank '\n' (by decide) <| blank '\t' (by decide) <|
    text "root" <| .token .colon <| .token .openObject <|
      text "end" <| .token .colon <| number 2 <| .token .comma <|
      text "elements" <| .token .colon <| .token .openArray <| .token .closeArray <|
      .token .comma <|
      text "start" <| .token .colon <| number 0 <| .token .comma <|
      text "source" <| .token .colon <| number 0 <| .token .comma <|
      .token (.string node) <| .token .colon <| text "list" <| .token .closeObject <|
      .token .comma <|
    text "sources" <| .token .colon <| .token .openArray <| .token .closeArray <|
    .token .closeObject .nil
  refine Eq.mp (congrArg _ ?_) laid
  decide +kernel

/-- The value of the document with an end of 33 bits. -/
def beyond : Json :=
  .record [("sources", .array []),
    ("root", .record [("node", .text "list"), ("source", .natural 0), ("start", .natural 0),
      ("elements", .array []), ("end", .natural 4294967296)])]

def beyondText : String :=
  "\x7b\"sources\":[],\"root\":\x7b\"node\":\"list\",\"source\":0,\"start\":0,\"elements\":[]," ++
    "\"end\":4294967296\x7d\x7d"

theorem spoilt_beyond : Json.Spoilt small.json beyond := by
  have same (field : Option String × Json) : Json.FieldRel Json.Rearranged field field :=
    .intro field.1 (.refl field.2)
  let front : List (Option String × Json) :=
    [(some "node", .text "list"), (some "source", .natural 0), (some "start", .natural 0),
      (some "elements", .array [])]
  have split := List.perm_append_singleton (some "end", Json.natural 2) front
  have beyond : Json.Unfit "end" (.natural 4294967296) := .offset (by decide) (by decide)
  have root : Json.Spoilt small.root.json
      (.object (front ++ [(some "end", .natural 4294967296)])) :=
    .field (.intro split (List.forall₂_same.2 fun field _ => same field) (Json.undeclared_nil _)
      (.refl _)) (.replaced beyond)
  exact .within (.intro (.swap _ _ _) (.cons (same _) .nil) (Json.undeclared_nil _) (.refl _)) root

theorem lays_beyond : Json.Lays beyond.tokens beyondText.toList := by
  have number (n : Nat) : (Json.natural n).Regular := .number (JsonNumber.regular_ofNat n)
  have root : (Json.record [("node", .text "list"), ("source", .natural 0), ("start", .natural 0),
      ("elements", .array []), ("end", .natural 4294967296)]).Regular :=
    .object (by simp [number, Json.text, Json.Regular.string, Json.Regular.array])
  have regular : beyond.Regular := .object (by simp [root, Json.Regular.array])
  refine Eq.mp (congrArg _ ?_) regular.lays
  decide +kernel

end Example

theorem ofJson?_layout_turned :
    (∀ index ∈ Example.small.root.indices, index < UInt64.size) ∧
      Example.small.Layout Example.turnedText ∧ Json.openDepth Example.turnedText.toList = 3 ∧
      ofJson? Example.turnedText = some Example.small ∧
      Example.small.SpoiltLayout Example.beyondText ∧ ofJson? Example.beyondText = none := by
  have bounded : ∀ index ∈ Example.small.root.indices, index < UInt64.size := by decide
  have layout : Example.small.Layout Example.turnedText :=
    ⟨_, Example.rearranged_turned, Example.lays_turned⟩
  have depth : Json.openDepth Example.turnedText.toList = 3 := by
    rw [Example.lays_turned.openDepth]
    rfl
  have spoilt : Example.small.SpoiltLayout Example.beyondText :=
    ⟨_, Example.spoilt_beyond, Example.lays_beyond⟩
  obtain ⟨-, reads, refuses⟩ := ofJson?_layout Example.small
  exact ⟨bounded, layout, depth, reads bounded _ layout (by rw [depth]; decide), spoilt,
    (refuses _ spoilt).1⟩

end ExprTree.Document
