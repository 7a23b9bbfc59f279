/-
# ExprTree.Document.Decode — trees of documents

Decoding registers every entry of the source table anew, under serial numbers of its own, and makes
the tree from its leaves upwards. A leaf or a list whose source is not in the table, an unknown
operator, and parts that do not make up a node are refused; of several such faults the first one in
the order of making counts. The source of a leaf or list is looked up before anything else about
it, and the operator of an expression before its operands.
-/
import ExprTree.Document.Basic
import ExprTree.Expr.Making
import ExprTree.Expr.Parts

namespace ExprTree

set_option autoImplicit false

/-- Why a document, or its text, gives no tree. -/
inductive InterchangeError where
  /-- The text is not the JSON of a document. -/
  | malformedJson
  /-- A record names a source that is not in the table. -/
  | unknownSource (index count : Nat)
  /-- A source is too long for its offsets. -/
  | sourceTooLong (file : String)
  /-- The parts of a record make up no node. -/
  | refused (error : SyntaxError)
  /-- A leaf was made on a span that ends before it starts. -/
  | invertedSpan (kind : LeafKind) (start stop : Offset)
  deriving DecidableEq

def InterchangeError.message : InterchangeError → String
  | .malformedJson => "malformed JSON"
  | .unknownSource index count => s!"Unknown source index {index} (table has {count} entries)"
  | .sourceTooLong file => s!"{file} is longer than 4294967295 bytes"
  | .refused error => error.message
  | .invertedSpan kind start stop => (LeafError.invertedSpan kind start stop).message

def InterchangeError.ofLeafError : LeafError → InterchangeError
  | .refused error => .refused error
  | .invertedSpan kind start stop => .invertedSpan kind start stop

def InterchangeError.lift {α : Type} (result : Except SyntaxError α) : Except InterchangeError α :=
  result.mapError .refused

namespace Document

/-- The source units of a table, registered under serial numbers from `serial` on. -/
def registerAll (serial : Nat) : List SourceRecord → Except InterchangeError (List Source)
  | [] => .ok []
  | record :: rest =>
      match Source.register? serial record.file record.text with
      | none => .error (.sourceTooLong record.file)
      | some source => (registerAll (serial + 1) rest).map (source :: ·)

end Document

namespace Record

def sourceAt (sources : List Source) (index : Nat) : Except InterchangeError Source :=
  match sources[index]? with
  | some source => .ok source
  | none => .error (.unknownSource index sources.length)

def operatorOf {Op : Type} (kind : NodeKind) (ofSymbol? : String → Option Op) (symbol : String) :
    Except InterchangeError Op :=
  match ofSymbol? symbol with
  | some op => .ok op
  | none => .error (.refused (.mismatch kind (.unknownOperator symbol)))

mutual

def toExpr (sources : List Source) : Record → Except InterchangeError Expr
  | .leaf parts => do
      let source ← sourceAt sources parts.source
      (LeafParts.rebuild (.leaf parts.kind)
        ⟨source, parts.start, parts.text, parts.stop⟩).mapError .ofLeafError
  | .unary op opOffset operand => do
      let op ← operatorOf .unaryOperator UnaryOp.ofSymbol? op
      let operand ← toExpr sources operand
      InterchangeError.lift (Expr.makeUnary op opOffset operand)
  | .binary lhs op opOffset rhs => do
      let op ← operatorOf .binaryOperator BinaryOp.ofSymbol? op
      let lhs ← toExpr sources lhs
      let rhs ← toExpr sources rhs
      InterchangeError.lift (Expr.makeBinary lhs op opOffset rhs)
  | .conditional thenCase condition elseCase => do
      let thenCase ← toExpr sources thenCase
      let condition ← toExpr sources condition
      let elseCase ← toExpr sources elseCase
      InterchangeError.lift (Expr.makeConditional thenCase condition elseCase)
  | .list source start elements stop => do
      let source ← sourceAt sources source
      let elements ← toExprs sources elements
      InterchangeError.lift (Expr.makeList source start elements stop)

def toExprs (sources : List Source) : List Record → Except InterchangeError (List Expr)
  | [] => .ok []
  | record :: rest => do
      let tree ← toExpr sources record
      let trees ← toExprs sources rest
      pure (tree :: trees)

end

end Record

/-- The tree of a document, its sources being registered under serial numbers from `serial` on. -/
def Document.decode (serial : Nat) (document : Document) : Except InterchangeError Expr := do
  let sources ← registerAll serial document.sources
  document.root.toExpr sources

end ExprTree
