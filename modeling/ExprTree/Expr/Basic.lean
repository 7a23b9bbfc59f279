/-
# ExprTree.Expr.Basic — expression trees

A leaf and a list carry the place they were read from. The other composites carry the offset of
their operator, if they have one, and take their extent and their source from their parts. A tree as
such says nothing about the order of its parts; the makers in `ExprTree.Expr.Making` do.

`Expr.induct` is the induction principle of trees, with the elements of a list as a whole.
-/
import ExprTree.Atom
import ExprTree.Operator
import ExprTree.Source.Basic

namespace ExprTree

set_option autoImplicit false

inductive Expr where
  /-- A name or a constant. -/
  | leaf (place : Place) (atom : Atom)
  /-- An operator before its operand. -/
  | unary (op : UnaryOp) (opOffset : Offset) (operand : Expr)
  /-- An operator between two operands. -/
  | binary (lhs : Expr) (op : BinaryOp) (opOffset : Offset) (rhs : Expr)
  /-- One of two cases, chosen by a condition that stands between them. -/
  | conditional (thenCase condition elseCase : Expr)
  /-- Elements between brackets, which belong to the place. -/
  | list (place : Place) (elements : List Expr)

namespace Expr

theorem induct {motive : Expr → Prop}
    (leaf : ∀ place atom, motive (.leaf place atom))
    (unary : ∀ op opOffset operand, motive operand → motive (.unary op opOffset operand))
    (binary : ∀ lhs op opOffset rhs, motive lhs → motive rhs →
      motive (.binary lhs op opOffset rhs))
    (conditional : ∀ thenCase condition elseCase, motive thenCase → motive condition →
      motive elseCase → motive (.conditional thenCase condition elseCase))
    (list : ∀ place elements, (∀ element ∈ elements, motive element) →
      motive (.list place elements)) (expr : Expr) : motive expr := by
  refine Expr.rec (motive_1 := motive)
    (motive_2 := fun elements => ∀ element ∈ elements, motive element)
    leaf unary binary conditional list ?_ ?_ expr
  · intro element absurd
    cases absurd
  · intro head tail ofHead ofTail element member
    cases member with
    | head => exact ofHead
    | tail _ member => exact ofTail element member

def kind : Expr → NodeKind
  | .leaf _ atom => .leaf atom.kind
  | .unary _ _ _ => .unaryOperator
  | .binary _ _ _ _ => .binaryOperator
  | .conditional _ _ _ => .conditional
  | .list _ _ => .list

/-- The offset of the node's first byte. -/
@[simp] def start : Expr → Offset
  | .leaf place _ => place.span.start
  | .unary _ opOffset _ => opOffset
  | .binary lhs _ _ _ => lhs.start
  | .conditional thenCase _ _ => thenCase.start
  | .list place _ => place.span.start

/-- The offset just past the node's last byte. -/
@[simp] def stop : Expr → Offset
  | .leaf place _ => place.span.stop
  | .unary _ _ operand => operand.stop
  | .binary _ _ _ rhs => rhs.stop
  | .conditional _ _ elseCase => elseCase.stop
  | .list place _ => place.span.stop

/-- The source unit of the node; that of the first part that has one of its own. -/
@[simp] def source : Expr → Source
  | .leaf place _ => place.source
  | .unary _ _ operand => operand.source
  | .binary lhs _ _ _ => lhs.source
  | .conditional thenCase _ _ => thenCase.source
  | .list place _ => place.source

def span (expr : Expr) : Except InvertedRange Span :=
  Span.between expr.start expr.stop

def location (expr : Expr) : Except SyntaxError Location :=
  expr.source.location expr.start

/-- The position just past the node's last character. -/
def endLocation (expr : Expr) : Except SyntaxError Location :=
  expr.source.location expr.stop

/-- The text that the node was read from; `none` when its extent is no slice of its source. -/
def sourceText (expr : Expr) : Except InvertedRange (Option String) :=
  expr.span.map expr.source.textAt?

def children : Expr → List Expr
  | .leaf _ _ => []
  | .unary _ _ operand => [operand]
  | .binary lhs _ _ rhs => [lhs, rhs]
  | .conditional thenCase condition elseCase => [thenCase, condition, elseCase]
  | .list _ elements => elements

section Children

variable (place : Place) (atom : Atom) (opOffset : Offset) (first second third : Expr)

@[simp] theorem children_leaf : (leaf place atom).children = [] := rfl

@[simp] theorem children_unary (op : UnaryOp) : (unary op opOffset first).children = [first] := rfl

@[simp] theorem children_binary (op : BinaryOp) :
    (binary first op opOffset second).children = [first, second] := rfl

@[simp] theorem children_conditional :
    (conditional first second third).children = [first, second, third] := rfl

@[simp] theorem children_list (elements : List Expr) :
    (list place elements).children = elements := rfl

end Children

end Expr

end ExprTree
