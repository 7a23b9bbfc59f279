/-
# ExprTree.Proofs.Expr.Traversal — the calls of a visitor that goes through a tree

`Pass.noting` does what a pass does and notes every call of a method, with the node that it was for.
The calls do not depend on the pass: they are for the nodes of the walk, in its order, each by the
method of its kind (`Pass.run_noting`). A walk, which is a pass, notes the same calls.

Main statement: `Made.visitsInOrder`.
-/
import Mathlib.Data.Set.Card
import ExprTree.Proofs.Expr.Nesting

namespace ExprTree

set_option autoImplicit false

namespace Visitor

variable {State State' : Type}

/-- The visitor on another state: `wrap` makes its methods out of those of the given one, each of
them known by the kind and the node that it is called for. -/
def lift (visitor : Visitor State)
    (wrap : NodeKind → Expr → (State → State) → State' → State') : Visitor State' where
  identifier place name :=
    wrap (.leaf .identifier) (.leaf place (.identifier name)) (visitor.identifier place name)
  int place literal := wrap (.leaf .int) (.leaf place (.int literal)) (visitor.int place literal)
  float place literal :=
    wrap (.leaf .float) (.leaf place (.float literal)) (visitor.float place literal)
  string place text :=
    wrap (.leaf .string) (.leaf place (.string text)) (visitor.string place text)
  bytes place text := wrap (.leaf .bytes) (.leaf place (.bytes text)) (visitor.bytes place text)
  unary op opOffset operand :=
    wrap .unaryOperator (.unary op opOffset operand) (visitor.unary op opOffset operand)
  binary lhs op opOffset rhs :=
    wrap .binaryOperator (.binary lhs op opOffset rhs) (visitor.binary lhs op opOffset rhs)
  conditional thenCase condition elseCase :=
    wrap .conditional (.conditional thenCase condition elseCase)
      (visitor.conditional thenCase condition elseCase)
  list place elements := wrap .list (.list place elements) (visitor.list place elements)

/-- The method that is called for a node is that of its kind. -/
@[simp] theorem visit_lift (visitor : Visitor State)
    (wrap : NodeKind → Expr → (State → State) → State' → State') (state : State') (expr : Expr) :
    (visitor.lift wrap).visit state expr =
      wrap expr.kind expr (fun inner => visitor.visit inner expr) state := by
  cases expr with
  | leaf place atom => cases atom <;> rfl
  | unary => rfl
  | binary => rfl
  | conditional => rfl
  | list => rfl

/-- A call: whose kind the method is, and the node that it is called for. -/
structure Call where
  method : NodeKind
  node : Expr

/-- Does the same, and notes the call. -/
def noting (visitor : Visitor State) : Visitor (State × List Call) :=
  visitor.lift fun method node step seen => (step seen.1, seen.2 ++ [⟨method, node⟩])

/-- Does the same, and leaves the calls that were noted. -/
def silent (visitor : Visitor State) : Visitor (State × List Call) :=
  visitor.lift fun _ _ step seen => (step seen.1, seen.2)

@[simp] theorem visit_noting (visitor : Visitor State) (seen : State × List Call) (expr : Expr) :
    visitor.noting.visit seen expr =
      (visitor.visit seen.1 expr, seen.2 ++ [⟨expr.kind, expr⟩]) := by
  rw [noting, visit_lift]

@[simp] theorem visit_silent (visitor : Visitor State) (seen : State × List Call) (expr : Expr) :
    visitor.silent.visit seen expr = (visitor.visit seen.1 expr, seen.2) := by
  rw [silent, visit_lift]

@[simp] theorem visit_kinds (seen : Array NodeKind) (expr : Expr) :
    kinds.visit seen expr = seen.push expr.kind := by
  show (kinds.lift fun method _ _ (seen : Array NodeKind) => seen.push method).visit seen expr = _
  rw [visit_lift]

end Visitor

namespace Pass

variable {State : Type}

/-- Does what the pass does, and notes its calls. -/
def noting (pass : Pass State) : Pass (State × List Visitor.Call) :=
  ⟨pass.before.noting, pass.after.silent⟩

def due (expr : Expr) : Visitor.Call :=
  ⟨expr.kind, expr⟩

theorem foldl_run_noting (pass : Pass State) {parts : List Expr}
    (runs : ∀ part ∈ parts, ∀ state calls, pass.noting.run (state, calls) part =
      (pass.run state part, calls ++ part.preorder.map due))
    (state : State) (calls : List Visitor.Call) :
    parts.foldl pass.noting.run (state, calls) =
      (parts.foldl pass.run state, calls ++ (parts.flatMap Expr.preorder).map due) := by
  induction parts generalizing state calls with
  | nil => simp
  | cons part parts ih =>
      obtain ⟨first, others⟩ := List.forall_mem_cons.1 runs
      simp only [List.foldl_cons, first, ih others, List.flatMap_cons, List.map_append,
        List.append_assoc]

/-- Whatever the pass does, its methods are called for the nodes of a walk. -/
theorem run_noting (pass : Pass State) (expr : Expr) (state : State)
    (calls : List Visitor.Call) :
    pass.noting.run (state, calls) expr =
      (pass.run state expr, calls ++ expr.preorder.map due) := by
  induction expr using Expr.induct_children generalizing state calls with
  | step expr ih =>
    rw [run_eq, run_eq, Expr.preorder_eq_cons, List.map_cons]
    simp only [noting, Visitor.visit_noting, Visitor.visit_silent]
    rw [← noting, foldl_run_noting pass ih, List.append_assoc]
    rfl

end Pass

/-- A walk calls the same methods. -/
theorem Visitor.walk_noting {State : Type} (visitor : Visitor State) (expr : Expr) (state : State)
    (calls : List Visitor.Call) :
    visitor.noting.walk (state, calls) expr =
      (visitor.walk state expr, calls ++ expr.preorder.map Pass.due) :=
  visitor.pass.run_noting expr state calls

namespace Expr

theorem foldl_visit_kinds (nodes : List Expr) (seen : Array NodeKind) :
    (nodes.foldl Visitor.kinds.visit seen).toList = seen.toList ++ nodes.map kind := by
  induction nodes generalizing seen with
  | nil => simp
  | cons node nodes ih => simp [ih]

/-- The kinds that are collected are those of the nodes of a walk. -/
theorem preorderKinds_eq (expr : Expr) : expr.preorderKinds = expr.preorder.map kind := by
  rw [preorderKinds, Visitor.walk_eq_foldl_preorder, foldl_visit_kinds, List.nil_append]

/-- A list of calls that goes through a tree in source order. -/
structure VisitsInOrder (expr : Expr) (calls : List Visitor.Call) : Prop where
  /-- The calls are for the nodes at the paths of the tree, one for each path. -/
  nodes : calls.map (fun call => some call.node) = expr.paths.map expr.at?
  /-- Every path that leads to a node is one of these. -/
  every : ∀ path, path ∈ expr.paths ↔ ∃ node, expr.at? path = some node
  /-- No path is there twice. -/
  once : expr.paths.Nodup
  /-- No node comes before one that lies above it. -/
  parentsFirst : expr.paths.Pairwise fun path later => ¬ later <+: path
  /-- The method that is called for a node is that of its kind. -/
  methods : ∀ call ∈ calls, call.method = call.node.kind
  /-- The list of kinds has those of the methods that are called. -/
  kinds : expr.preorderKinds = calls.map Visitor.Call.method
  /-- The list of kinds has as many entries as the tree has nodes. -/
  count : expr.preorderKinds.length = {path | ∃ node, expr.at? path = some node}.ncard
  /-- Starts never decrease. -/
  starts : calls.Pairwise fun call later => call.node.start ≤ later.node.start
  /-- A leaf is over before a later one begins. -/
  leaves : (calls.filter fun call => call.node.kind.isLeaf).Pairwise fun leaf next =>
    leaf.node.stop ≤ next.node.start

/-- **A visitor that goes on to the parts is called once for each node.** In a made tree, a pass and
a walk call one method for each node, that of its kind, and for a node before those below it; along
the calls, starts never decrease, and a leaf is over before the next one begins. -/
theorem Made.visitsInOrder {expr : Expr} (made : expr.Made) :
    ∃ calls, expr.VisitsInOrder calls ∧ ∀ (State : Type) (state : State),
      (∀ pass : Pass State,
        pass.noting.run (state, []) expr = (pass.run state expr, calls)) ∧
      ∀ visitor : Visitor State,
        visitor.noting.walk (state, []) expr = (visitor.walk state expr, calls) := by
  obtain ⟨ordered, -, -⟩ := made.sound
  refine ⟨expr.preorder.map Pass.due, ?_, fun State state =>
    ⟨fun pass => pass.run_noting expr state [], fun visitor => visitor.walk_noting expr state []⟩⟩
  refine ⟨?nodes, fun _ => mem_paths_iff, ?once, ?parentsFirst, ?methods, ?kinds, ?count, ?starts,
    ?leaves⟩
  case nodes =>
    rw [map_at?_paths, List.map_map]
    rfl
  case once => exact expr.pairwise_paths.imp ne_of_lt
  case parentsFirst => exact expr.pairwise_paths.imp fun first above => above.le first
  case methods => exact List.forall_mem_map.2 fun _ _ => rfl
  case kinds =>
    rw [preorderKinds_eq, List.map_map]
    rfl
  case count =>
    have listed : {path | ∃ node, expr.at? path = some node} = expr.paths.toFinset := by
      ext path
      simp [mem_paths_iff]
    have lengths := congrArg List.length expr.map_at?_paths
    rw [List.length_map, List.length_map] at lengths
    rw [preorderKinds_eq, List.length_map, ← lengths, listed, Set.ncard_coe_finset,
      List.toFinset_card_of_nodup (expr.pairwise_paths.imp ne_of_lt)]
  case starts => exact List.pairwise_map.2 ordered.pairwise_preorder
  case leaves =>
    have apart : (expr.preorder.map Pass.due).Pairwise fun call later =>
        call.node.kind.isLeaf = true → call.node.stop ≤ later.node.start :=
      List.pairwise_map.2 ordered.pairwise_leaves
    refine (apart.filter _).imp_of_mem ?_
    intro leaf next member _ follows
    exact follows (List.mem_filter.1 member).2

/-- The calls for the nodes of `[-x, y]`. -/
theorem visitsInOrder_nestedList : Example.nestedList.Made ∧
    ∃ calls, Example.nestedList.VisitsInOrder calls ∧ ∀ (State : Type) (state : State),
      (∀ pass : Pass State, pass.noting.run (state, []) Example.nestedList =
        (pass.run state Example.nestedList, calls)) ∧
      ∀ visitor : Visitor State, visitor.noting.walk (state, []) Example.nestedList =
        (visitor.walk state Example.nestedList, calls) := by
  have made : Example.nestedList.Made := by decide
  exact ⟨made, made.visitsInOrder⟩

end Expr

end ExprTree
