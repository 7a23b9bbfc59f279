/-
# ExprTree.Expr.Parts — taking leaves apart and putting them together

A leaf is fully described by its source, its start, its text and its end. `Expr.decompose?` hands
these parts out; `LeafParts.rebuild` checks them and makes the leaf again. Parts may come from
anywhere, so the span is checked against the source here, and before the text is looked at.
-/
import ExprTree.Expr.Making

namespace ExprTree

set_option autoImplicit false

/-- What a leaf is made from. -/
structure LeafParts where
  source : Source
  start : Offset
  /-- The name, the spelling of a number, or the decoded text of a string or bytes literal. -/
  text : String
  stop : Offset
  deriving DecidableEq

/-- The parts of a leaf; a composite has none. -/
def Expr.decompose? : Expr → Option LeafParts
  | .leaf place atom => some ⟨place.source, place.span.start, atom.text, place.span.stop⟩
  | _ => none

namespace LeafParts

/-- Refuses a span that ends before it starts or beyond its source. -/
def checkSpan (kind : LeafKind) (parts : LeafParts) : Except SyntaxError Unit :=
  if parts.stop < parts.start then
    .error (.mismatch (.leaf kind) (.stopBeforeStart parts.start parts.stop))
  else if parts.source.length < parts.stop then
    .error (.mismatch (.leaf kind)
      (.stopBeyondSource parts.stop parts.source.file parts.source.length))
  else .ok ()

/-- The node of any kind that the parts make up; a composite is made up of no such parts. -/
def rebuild (kind : NodeKind) (parts : LeafParts) : Except LeafError Expr :=
  match kind with
  | .leaf kind => match parts.checkSpan kind with
    | .error error => .error (.refused error)
    | .ok _ => Expr.makeLeaf kind parts.source parts.start parts.text parts.stop
  | _ => .error (.refused (.mismatch kind .notALeaf))

end LeafParts

end ExprTree
