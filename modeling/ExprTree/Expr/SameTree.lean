/-
# ExprTree.Expr.SameTree — trees that are the same up to registration

Two trees are the same when they have the same shape, operators, contents and offsets, and the
sources of their leaves and lists have the same names and texts. Serial numbers do not count.
-/
import ExprTree.Expr.Basic

namespace ExprTree.Expr

set_option autoImplicit false

mutual

/-- Whether two trees are the same, however their sources were registered. -/
@[simp] def sameTree : Expr → Expr → Bool
  | .leaf place atom, .leaf place' atom' => decide (place.SameText place') && decide (atom = atom')
  | .unary op opOffset operand, .unary op' opOffset' operand' =>
      decide (op = op') && decide (opOffset = opOffset') && sameTree operand operand'
  | .binary lhs op opOffset rhs, .binary lhs' op' opOffset' rhs' =>
      sameTree lhs lhs' && decide (op = op') && decide (opOffset = opOffset') && sameTree rhs rhs'
  | .conditional thenCase condition elseCase, .conditional thenCase' condition' elseCase' =>
      sameTree thenCase thenCase' && sameTree condition condition' && sameTree elseCase elseCase'
  | .list place elements, .list place' elements' =>
      decide (place.SameText place') && sameTrees elements elements'
  | _, _ => false

@[simp] def sameTrees : List Expr → List Expr → Bool
  | [], [] => true
  | tree :: trees, tree' :: trees' => sameTree tree tree' && sameTrees trees trees'
  | _, _ => false

end

end ExprTree.Expr
