/-
# ExprTree.Expr.Visitor — walking a tree

A visitor has one method for each of the nine kinds of nodes; a method gets what the node holds and
a state, and gives the next state. `Visitor.visit` calls the method of one node and nothing else. A
visitor that goes through a tree goes on to the parts of a node from within its method, by one of
the four `walk` helpers; a `Pass` is such a visitor, given by what its methods do before they go on
and after they come back. `Visitor.walk` is the pass that has nothing to do on its way back.

Main statement: `walk_eq_foldl_preorder`, walking a tree visits the nodes of the list
`Expr.preorder` one by one.
-/
import ExprTree.Expr.Basic

namespace ExprTree

set_option autoImplicit false

/-- One method for each kind of node. -/
structure Visitor (State : Type) where
  identifier : Place → Identifier → State → State
  int : Place → IntLiteral → State → State
  float : Place → FloatLiteral → State → State
  string : Place → String → State → State
  bytes : Place → String → State → State
  unary : UnaryOp → Offset → Expr → State → State
  binary : Expr → BinaryOp → Offset → Expr → State → State
  conditional : Expr → Expr → Expr → State → State
  list : Place → List Expr → State → State

namespace Expr

mutual

/-- The nodes of a tree, each before its parts, the parts in source order. -/
@[simp] def preorder : Expr → List Expr
  | .leaf place atom => [.leaf place atom]
  | .unary op opOffset operand => .unary op opOffset operand :: preorder operand
  | .binary lhs op opOffset rhs => .binary lhs op opOffset rhs :: (preorder lhs ++ preorder rhs)
  | .conditional thenCase condition elseCase =>
      .conditional thenCase condition elseCase ::
        (preorder thenCase ++ preorder condition ++ preorder elseCase)
  | .list place elements => .list place elements :: preorders elements

def preorders : List Expr → List Expr
  | [] => []
  | tree :: trees => preorder tree ++ preorders trees

end

end Expr

namespace Visitor

variable {State : Type}

def visit (visitor : Visitor State) (state : State) : Expr → State
  | .leaf place (.identifier name) => visitor.identifier place name state
  | .leaf place (.int literal) => visitor.int place literal state
  | .leaf place (.float literal) => visitor.float place literal state
  | .leaf place (.string text) => visitor.string place text state
  | .leaf place (.bytes text) => visitor.bytes place text state
  | .unary op opOffset operand => visitor.unary op opOffset operand state
  | .binary lhs op opOffset rhs => visitor.binary lhs op opOffset rhs state
  | .conditional thenCase condition elseCase =>
      visitor.conditional thenCase condition elseCase state
  | .list place elements => visitor.list place elements state

def idle : Visitor State where
  identifier _ _ := id
  int _ _ := id
  float _ _ := id
  string _ _ := id
  bytes _ _ := id
  unary _ _ _ := id
  binary _ _ _ _ := id
  conditional _ _ _ := id
  list _ _ := id

@[simp] theorem visit_idle (state : State) (expr : Expr) : idle.visit state expr = state := by
  cases expr with
  | leaf place atom => cases atom <;> rfl
  | unary => rfl
  | binary => rfl
  | conditional => rfl
  | list => rfl

/-! ### Going on to the parts

The parts of a node are taken in source order. A part stands here as the step that the state takes
when the visitor goes through it. -/

def walkUnaryOperator (operand : State → State) (state : State) : State :=
  operand state

def walkBinaryOperator (lhs rhs : State → State) (state : State) : State :=
  rhs (lhs state)

def walkConditional (thenCase condition elseCase : State → State) (state : State) : State :=
  elseCase (condition (thenCase state))

def walkList (elements : List (State → State)) (state : State) : State :=
  elements.foldl (fun state element => element state) state

end Visitor

/-- A visitor that goes on to the parts of every node: what its methods do before, and what they do
when they come back. -/
structure Pass (State : Type) where
  before : Visitor State
  after : Visitor State

namespace Pass

variable {State : Type}

/-- A method is called for a node, and does what is below it in between. -/
def call (pass : Pass State) (node : Expr) (below : State → State) (state : State) : State :=
  pass.after.visit (below (pass.before.visit state node)) node

mutual

def run (pass : Pass State) (state : State) : Expr → State
  | .leaf place atom => pass.call (.leaf place atom) id state
  | .unary op opOffset operand =>
      pass.call (.unary op opOffset operand)
        (Visitor.walkUnaryOperator fun state => run pass state operand) state
  | .binary lhs op opOffset rhs =>
      pass.call (.binary lhs op opOffset rhs)
        (Visitor.walkBinaryOperator (fun state => run pass state lhs)
          fun state => run pass state rhs) state
  | .conditional thenCase condition elseCase =>
      pass.call (.conditional thenCase condition elseCase)
        (Visitor.walkConditional (fun state => run pass state thenCase)
          (fun state => run pass state condition) fun state => run pass state elseCase) state
  | .list place elements =>
      pass.call (.list place elements) (Visitor.walkList (steps pass elements)) state

/-- What the pass does in each tree of a row. -/
def steps (pass : Pass State) : List Expr → List (State → State)
  | [] => []
  | tree :: trees => (fun state => run pass state tree) :: steps pass trees

end

theorem steps_eq_map (pass : Pass State) (trees : List Expr) :
    pass.steps trees = trees.map fun tree state => pass.run state tree := by
  induction trees with
  | nil => rfl
  | cons tree trees ih => rw [steps, ih, List.map_cons]

/-- Whatever the kind of the node is, its parts are gone through one after the other. -/
theorem run_eq (pass : Pass State) (state : State) (expr : Expr) :
    pass.run state expr =
      pass.after.visit (expr.children.foldl pass.run (pass.before.visit state expr)) expr := by
  cases expr with
  | leaf place atom => rfl
  | unary op opOffset operand => rfl
  | binary lhs op opOffset rhs => rfl
  | conditional thenCase condition elseCase => rfl
  | list place elements =>
      rw [run, call, Visitor.walkList, steps_eq_map, List.foldl_map, Expr.children]

end Pass

namespace Visitor

variable {State : Type}

/-- The visitor on its way through a tree, with nothing to do on the way back. -/
def pass (visitor : Visitor State) : Pass State :=
  ⟨visitor, idle⟩

/-- The state after the visitor went through a tree, with each node before its parts. -/
def walk (visitor : Visitor State) : State → Expr → State :=
  visitor.pass.run

/-- A walk calls the method of the node, and goes on to the parts. -/
theorem walk_eq (visitor : Visitor State) (state : State) (expr : Expr) :
    visitor.walk state expr = expr.children.foldl visitor.walk (visitor.visit state expr) := by
  rw [walk, Pass.run_eq, pass, visit_idle]

theorem foldl_walk_eq_foldl_preorders (visitor : Visitor State) {trees : List Expr}
    (walks : ∀ tree ∈ trees, ∀ state,
      visitor.walk state tree = tree.preorder.foldl visitor.visit state)
    (state : State) :
    trees.foldl visitor.walk state = (Expr.preorders trees).foldl visitor.visit state := by
  induction trees generalizing state with
  | nil => rfl
  | cons tree trees ih =>
      obtain ⟨first, others⟩ := List.forall_mem_cons.1 walks
      rw [List.foldl_cons, first, ih others, Expr.preorders, List.foldl_append]

/-- Walking a tree visits its nodes one by one, in the order of the list. -/
theorem walk_eq_foldl_preorder (visitor : Visitor State) (expr : Expr) (state : State) :
    visitor.walk state expr = expr.preorder.foldl visitor.visit state := by
  induction expr using Expr.induct generalizing state with
  | leaf place atom =>
      rw [walk_eq]
      rfl
  | unary op opOffset operand ih =>
      rw [walk_eq]
      simp [ih]
  | binary lhs op opOffset rhs ihl ihr =>
      rw [walk_eq]
      simp [ihl, ihr]
  | conditional thenCase condition elseCase iht ihc ihe =>
      rw [walk_eq]
      simp [iht, ihc, ihe]
  | list place elements ih =>
      rw [walk_eq, Expr.children, foldl_walk_eq_foldl_preorders visitor ih]
      rfl

def kinds : Visitor (Array NodeKind) where
  identifier _ _ seen := seen.push (.leaf .identifier)
  int _ _ seen := seen.push (.leaf .int)
  float _ _ seen := seen.push (.leaf .float)
  string _ _ seen := seen.push (.leaf .string)
  bytes _ _ seen := seen.push (.leaf .bytes)
  unary _ _ _ seen := seen.push .unaryOperator
  binary _ _ _ _ seen := seen.push .binaryOperator
  conditional _ _ _ seen := seen.push .conditional
  list _ _ seen := seen.push .list

end Visitor

def Expr.preorderKinds (expr : Expr) : List NodeKind :=
  (Visitor.kinds.walk #[] expr).toList

end ExprTree
