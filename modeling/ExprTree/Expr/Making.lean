/-
# ExprTree.Expr.Making — making nodes that are in order

A leaf is made from its text, or, for string and bytes literals, from its quoted spelling. A
composite is made from parts that follow one another in one source. The makers of composites compare
neighbours only: the end of each part with the start of the next, and the source of each part with
the source of the whole.
-/
import ExprTree.Expr.Basic
import ExprTree.Literal.Quoted

namespace ExprTree.Expr

set_option autoImplicit false

/-! ## Leaves -/

/-- A leaf of the kind on the given span of a source. The text is looked at before the span. -/
def makeLeaf (kind : LeafKind) (source : Source) (start : Offset) (text : String) (stop : Offset) :
    Except LeafError Expr :=
  match Atom.read kind text with
  | .error fault => .error (.refused (.malformedLiteral kind fault))
  | .ok atom => match Span.between start stop with
    | .error _ => .error (.invertedSpan kind start stop)
    | .ok span => .ok (.leaf ⟨source, span⟩ atom)

/-- A string literal, or a bytes literal, from its quoted spelling. -/
def readLiteral (bytes : Bool) (source : Source) (start : Offset) (spelling : String)
    (stop : Offset) : Except LeafError Expr :=
  match Quoted.read spelling with
  | .error error => .error (.refused error)
  | .ok literal =>
      match bytes, literal.bytes with
      | true, false => .error (.refused (.malformedLiteral .bytes .missingBytesMark))
      | false, true => .error (.refused (.malformedLiteral .string .unexpectedBytesMark))
      | true, true => makeLeaf .bytes source start literal.text stop
      | false, false => makeLeaf .string source start literal.text stop

/-! ## Composites -/

/-- Refuses a part that begins before the one in front of it is over. -/
def checkOrder (kind : NodeKind) (before after : Offset) : Except SyntaxError Unit :=
  if after < before then .error (.mismatch kind (.outOfOrder before after)) else .ok ()

/-- Refuses a part from a source with another name or another text. -/
def checkSource (kind : NodeKind) (expected : Source) (part : Expr) : Except SyntaxError Unit :=
  if expected.SameText part.source then .ok ()
  else .error (.mismatch kind (.foreignSource part.kind part.source.file expected.file))

def makeUnary (op : UnaryOp) (opOffset : Offset) (operand : Expr) : Except SyntaxError Expr := do
  checkOrder .unaryOperator opOffset operand.start
  pure (.unary op opOffset operand)

def makeBinary (lhs : Expr) (op : BinaryOp) (opOffset : Offset) (rhs : Expr) :
    Except SyntaxError Expr := do
  checkOrder .binaryOperator lhs.stop opOffset
  checkOrder .binaryOperator opOffset rhs.start
  checkSource .binaryOperator lhs.source rhs
  pure (.binary lhs op opOffset rhs)

def makeConditional (thenCase condition elseCase : Expr) : Except SyntaxError Expr := do
  checkOrder .conditional thenCase.stop condition.start
  checkOrder .conditional condition.stop elseCase.start
  checkSource .conditional thenCase.source condition
  checkSource .conditional thenCase.source elseCase
  pure (.conditional thenCase condition elseCase)

/-- Checks that the elements of a list lie in its source, one after the other from `cursor` on;
gives the offset at which the last one ends. -/
def checkElements (source : Source) (cursor : Offset) : List Expr → Except SyntaxError Offset
  | [] => .ok cursor
  | element :: rest => do
      checkSource .list source element
      checkOrder .list cursor element.start
      checkElements source element.stop rest

/-- Elements between brackets, all of them inside the given span of the source. -/
def makeList (source : Source) (start : Offset) (elements : List Expr) (stop : Offset) :
    Except SyntaxError Expr :=
  match Span.between start stop with
  | .error _ => .error (.mismatch .list (.outOfOrder start stop))
  | .ok span =>
      if source.length < stop then
        .error (.mismatch .list (.stopBeyondSource stop source.file source.length))
      else do
        let cursor ← checkElements source start elements
        checkOrder .list cursor stop
        pure (.list ⟨source, span⟩ elements)

end ExprTree.Expr
