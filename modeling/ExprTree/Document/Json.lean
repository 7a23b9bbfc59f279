/-
# ExprTree.Document.Json — documents as JSON text

A record is written as an object with one fixed order of fields; the field `node` says which record
it is. Reading is more generous. A record may be an object with its fields in any order, or an array
of its fields in the order of writing (the word for `node` first); an object may have fields that
the record does not declare, and these are ignored. Every declared field has to occur, and only
once.

Inside `root` the reader goes by whole values: nothing there may be an incomplete string or a number
that is not finite (`JsonNumber.isFinite`), even where it is ignored, and at most
`Document.openLimit` arrays and objects may be open at once, the document itself included. A node
below the root may give its `node` by number.

Numbers for offsets are plain natural numbers of 32 bits, those for sources of 64.
-/
import ExprTree.Document.Decode
import ExprTree.Document.Encode
import ExprTree.Json.Read
import ExprTree.Json.Write

namespace ExprTree

set_option autoImplicit false

/-! ## Words -/

def LeafKind.word : LeafKind → String
  | .identifier => "identifier"
  | .int => "int"
  | .float => "float"
  | .string => "string"
  | .bytes => "bytes"

def LeafKind.ofWord? (word : String) : Option LeafKind :=
  all.find? fun kind => kind.word == word

inductive RecordForm where
  | leaf
  | unary
  | binary
  | conditional
  | list
  deriving DecidableEq

namespace RecordForm

def all : List RecordForm :=
  [.leaf, .unary, .binary, .conditional, .list]

def word : RecordForm → String
  | .leaf => "leaf"
  | .unary => "unary"
  | .binary => "binary"
  | .conditional => "conditional"
  | .list => "list"

def ofWord? (word : String) : Option RecordForm :=
  all.find? fun form => form.word == word

/-- The fields of the form after `node`, in the order of writing. -/
def fields : RecordForm → List String
  | .leaf => ["kind", "source", "start", "text", "end"]
  | .unary => ["op", "op_offset", "operand"]
  | .binary => ["lhs", "op", "op_offset", "rhs"]
  | .conditional => ["then_case", "condition", "else_case"]
  | .list => ["source", "start", "elements", "end"]

end RecordForm

/-! ## Writing -/

def RecordForm.json (form : RecordForm) (values : List Json) : Json :=
  .record (("node", .text form.word) :: form.fields.zip values)

namespace Record

mutual

@[simp] def json : Record → Json
  | .leaf parts => RecordForm.leaf.json [.text parts.kind.word, .natural parts.source,
      .natural parts.start.toNat, .text parts.text, .natural parts.stop.toNat]
  | .unary op opOffset operand =>
      RecordForm.unary.json [.text op, .natural opOffset.toNat, json operand]
  | .binary lhs op opOffset rhs =>
      RecordForm.binary.json [json lhs, .text op, .natural opOffset.toNat, json rhs]
  | .conditional thenCase condition elseCase =>
      RecordForm.conditional.json [json thenCase, json condition, json elseCase]
  | .list source start elements stop => RecordForm.list.json [.natural source,
      .natural start.toNat, .array (jsons elements), .natural stop.toNat]

@[simp] def jsons : List Record → List Json
  | [] => []
  | record :: rest => json record :: jsons rest

end

end Record

def SourceRecord.json (source : SourceRecord) : Json :=
  .record [("file", .text source.file), ("text", .text source.text)]

def Document.json (document : Document) : Json :=
  .record [("sources", .array (document.sources.map SourceRecord.json)),
    ("root", document.root.json)]

def Document.toJson (document : Document) : String :=
  String.ofList document.json.write

/-! ## Reading -/

namespace Json

/-- The content of a string that has one. -/
def text? : Json → Option String
  | .string content => content
  | _ => none

def naturalBelow? (bound : Nat) : Json → Option Nat
  | .number numeral => do
      let n ← numeral.natural?
      if n < bound then some n else none
  | _ => none

def offset? (json : Json) : Option Offset :=
  (json.naturalBelow? UInt32.size).map Nat.toUInt32

def index? (json : Json) : Option Nat :=
  json.naturalBelow? UInt64.size

/-- The value of the field of that name, which has to occur just once. -/
def field? (fields : List (Option String × Json)) (name : String) : Option Json :=
  match fields.filter fun field => field.1 == some name with
  | [(_, value)] => some value
  | _ => none

/-- The values of the declared fields, from an object that has them or from an array of them. -/
def declared? (names : List String) : Json → Option (List Json)
  | .object fields => names.mapM (field? fields)
  | .array items => if items.length = names.length then some items else none
  | _ => none

def namesReadable : Json → Bool
  | .object fields => fields.all fun field => field.1.isSome
  | _ => true

/-- The leaf kind that a value names: its word, or an object whose only field is the word, with a
value that says nothing. -/
def leafKind? : Json → Option LeafKind
  | .string (some word) => LeafKind.ofWord? word
  | .object [(some word, .null)] => LeafKind.ofWord? word
  | .object [(some word, .object [])] => LeafKind.ofWord? word
  | _ => none

/-- The record form that a value names by its word, or below the root also by its number. -/
def recordForm? (nested : Bool) : Json → Option RecordForm
  | .string (some word) => RecordForm.ofWord? word
  | .number numeral => do
      let n ← numeral.natural?
      if nested then RecordForm.all[n]? else none
  | _ => none

def recordParts? (nested : Bool) : Json → Option (RecordForm × List Json)
  | .object fields => do
      let form ← recordForm? nested (← field? fields "node")
      let values ← form.fields.mapM (field? fields)
      pure (form, values)
  | .array (name :: values) => do
      let form ← recordForm? nested name
      if values.length = form.fields.length then pure (form, values) else none
  | _ => none

end Json

namespace Record

def leafOfJson? (kind source start text stop : Json) : Option Record := do
  pure (.leaf ⟨← kind.leafKind?, ← source.index?, ← start.offset?, ← text.text?, ← stop.offset?⟩)

/-- The record of a value in which no more than `levels` records are nested. -/
def ofJson? (nested : Bool) (levels : Nat) (json : Json) : Option Record :=
  match levels with
  | 0 => none
  | levels + 1 => do
      match ← json.recordParts? nested with
      | (.leaf, [kind, source, start, text, stop]) => leafOfJson? kind source start text stop
      | (.unary, [op, opOffset, operand]) =>
          pure (.unary (← op.text?) (← opOffset.offset?) (← ofJson? true levels operand))
      | (.binary, [lhs, op, opOffset, rhs]) =>
          pure (.binary (← ofJson? true levels lhs) (← op.text?) (← opOffset.offset?)
            (← ofJson? true levels rhs))
      | (.conditional, [thenCase, condition, elseCase]) =>
          pure (.conditional (← ofJson? true levels thenCase) (← ofJson? true levels condition)
            (← ofJson? true levels elseCase))
      | (.list, [source, start, .array elements, stop]) =>
          pure (.list (← source.index?) (← start.offset?)
            (← elements.mapM (ofJson? true levels)) (← stop.offset?))
      | _ => none

end Record

def SourceRecord.ofJson? (json : Json) : Option SourceRecord :=
  match json.namesReadable, json.declared? ["file", "text"] with
  | true, some [file, text] => do pure ⟨← file.text?, ← text.text?⟩
  | _, _ => none

namespace Document

/-- The number of arrays and objects that may be open at once. -/
def openLimit : Nat := 127

def ofJsonValue? (json : Json) : Option Document :=
  match json.namesReadable, json.declared? ["sources", "root"] with
  | true, some [.array sources, root] => do
      let sources ← sources.mapM SourceRecord.ofJson?
      if root.isPlain ∧ 1 + root.depth ≤ openLimit then
        pure ⟨sources, ← Record.ofJson? false openLimit root⟩
      else none
  | _, _ => none

def ofJson? (text : String) : Option Document := do
  ofJsonValue? (← Json.read? text.toList)

end Document

/-! ## Trees -/

def Expr.toJson (expr : Expr) : String :=
  (Document.encode expr).toJson

/-- The tree of a JSON text, its sources being registered under serial numbers from `serial` on. -/
def Expr.ofJson (serial : Nat) (text : String) : Except InterchangeError Expr :=
  match Document.ofJson? text with
  | none => .error .malformedJson
  | some document => document.decode serial

end ExprTree
