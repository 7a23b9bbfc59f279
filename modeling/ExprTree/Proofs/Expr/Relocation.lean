/-
# ExprTree.Proofs.Expr.Relocation — a tree over other units of the same texts

`Expr.relocate move tree` puts every leaf and list of a tree into the unit that `move` gives for
its own. When `move` keeps names and texts (`KeepsText`), the tree stays the same in all that
`sameTree` looks at, and the makers make it before exactly if they make it after
(`made_relocate_iff`).

`Expr.SameSharing` compares which leaves and lists of two trees share a unit. A move that keeps the
units of a tree apart keeps its sharing (`sameSharing_relocate`).
-/
import ExprTree.Expr.SameTree
import ExprTree.Proofs.Document.SourceTable
import ExprTree.Proofs.Expr.Order

namespace ExprTree

set_option autoImplicit false

namespace Expr

mutual

/-- The tree whose leaves and lists lie in the units that `move` gives for their own. -/
@[simp] def relocate (move : Source → Source) : Expr → Expr
  | .leaf place atom => .leaf ⟨move place.source, place.span⟩ atom
  | .unary op opOffset operand => .unary op opOffset (relocate move operand)
  | .binary lhs op opOffset rhs => .binary (relocate move lhs) op opOffset (relocate move rhs)
  | .conditional thenCase condition elseCase =>
      .conditional (relocate move thenCase) (relocate move condition) (relocate move elseCase)
  | .list place elements => .list ⟨move place.source, place.span⟩ (relocateAll move elements)

def relocateAll (move : Source → Source) : List Expr → List Expr
  | [] => []
  | tree :: trees => relocate move tree :: relocateAll move trees

end

/-- Two trees share units in the same pattern: at any two of their leaves and lists, counted in the
order of a walk, the units are one in the one tree exactly if they are one in the other. -/
def SameSharing (a b : Expr) : Prop :=
  ∀ i j : Nat, a.carriedSources[i]? = a.carriedSources[j]? ↔
    b.carriedSources[i]? = b.carriedSources[j]?

/-- The move keeps names and texts. -/
def KeepsText (move : Source → Source) : Prop :=
  ∀ unit : Source, unit.SameText (move unit)

variable {move : Source → Source}

@[simp] theorem relocateAll_eq_map (trees : List Expr) :
    relocateAll move trees = trees.map (relocate move) := by
  induction trees with
  | nil => rfl
  | cons tree trees ih => simp [relocateAll, ih]

/-! ## What a move changes -/

@[simp] theorem source_relocate (expr : Expr) : (expr.relocate move).source = move expr.source := by
  induction expr using Expr.induct with
  | leaf place atom => rfl
  | unary op opOffset operand ih => exact ih
  | binary lhs op opOffset rhs ihl ihr => exact ihl
  | conditional thenCase condition elseCase iht ihc ihe => exact iht
  | list place elements ih => rfl

@[simp] theorem carriedSources_relocate (expr : Expr) :
    (expr.relocate move).carriedSources = expr.carriedSources.map move := by
  induction expr using Expr.induct with
  | leaf place atom => rfl
  | unary op opOffset operand ih => exact ih
  | binary lhs op opOffset rhs ihl ihr => simp [ihl, ihr]
  | conditional thenCase condition elseCase iht ihc ihe =>
      simp [iht, ihc, ihe]
  | list place elements ih =>
      simp only [relocate, carriedSources, carriedSourcesAll_eq_flatMap, relocateAll_eq_map,
        List.flatMap_map, List.map_cons, List.map_flatMap]
      rw [List.flatMap_congr ih]

/-! ## What a move keeps -/

@[simp] theorem offsets_relocate (expr : Expr) : (expr.relocate move).offsets = expr.offsets := by
  induction expr using Expr.induct with
  | leaf place atom => rfl
  | unary op opOffset operand ih => simp [ih]
  | binary lhs op opOffset rhs ihl ihr => simp [ihl, ihr]
  | conditional thenCase condition elseCase iht ihc ihe =>
      simp [iht, ihc, ihe]
  | list place elements ih =>
      simp only [relocate, offsets, offsetsAll_eq_flatMap, relocateAll_eq_map, List.flatMap_map]
      rw [List.flatMap_congr ih]

@[simp] theorem preorder_relocate (expr : Expr) :
    (expr.relocate move).preorder = expr.preorder.map (relocate move) := by
  induction expr using Expr.induct with
  | leaf place atom => rfl
  | unary op opOffset operand ih => simp [ih]
  | binary lhs op opOffset rhs ihl ihr => simp [ihl, ihr]
  | conditional thenCase condition elseCase iht ihc ihe =>
      simp [iht, ihc, ihe]
  | list place elements ih =>
      simp only [relocate, preorder, preorders_eq_flatMap, relocateAll_eq_map, List.flatMap_map,
        List.map_cons, List.map_flatMap]
      rw [List.flatMap_congr ih]

@[simp] theorem ordered_relocate_iff {expr : Expr} :
    (expr.relocate move).Ordered ↔ expr.Ordered := by
  rw [Ordered, Ordered, offsets_relocate]

theorem oneText_relocate_iff (keeps : KeepsText move) {expr : Expr} :
    (expr.relocate move).OneText ↔ expr.OneText := by
  simp only [OneText, carriedSources_relocate, source_relocate, List.forall_mem_map]
  refine forall₂_congr fun unit _ => ⟨fun same => ?_, fun same => ?_⟩
  · exact ((keeps _).trans same).trans (keeps unit).symm
  · exact ((keeps _).symm.trans same).trans (keeps unit)

theorem everywhere_relocate_iff {property : Expr → Prop} {expr : Expr} :
    (expr.relocate move).Everywhere property ↔
      expr.Everywhere fun node => property (node.relocate move) := by
  simp only [Everywhere, preorder_relocate, List.forall_mem_map]

theorem within_move_iff (keeps : KeepsText move) {place : Place} :
    Place.Within ⟨move place.source, place.span⟩ ↔ place.Within := by
  simp only [Place.Within, (keeps place.source).length_eq]

theorem leafWithin_relocate_iff (keeps : KeepsText move) {expr : Expr} :
    (expr.relocate move).Everywhere LeafWithin ↔ expr.Everywhere LeafWithin := by
  rw [everywhere_relocate_iff]
  refine forall₂_congr fun node _ => ?_
  cases node <;> simp only [relocate, LeafWithin, within_move_iff keeps]

theorem listWithin_relocate_iff (keeps : KeepsText move) {expr : Expr} :
    (expr.relocate move).Everywhere ListWithin ↔ expr.Everywhere ListWithin := by
  rw [everywhere_relocate_iff]
  refine forall₂_congr fun node _ => ?_
  cases node <;> simp only [relocate, ListWithin, within_move_iff keeps]

/-- The makers make a tree exactly if they make it elsewhere in the same text. -/
theorem made_relocate_iff (keeps : KeepsText move) {expr : Expr} :
    (expr.relocate move).Made ↔ expr.Made := by
  rw [made_iff, made_iff, ordered_relocate_iff, oneText_relocate_iff keeps,
    listWithin_relocate_iff keeps]

theorem sameTrees_map {trees : List Expr} {change : Expr → Expr}
    (same : ∀ tree ∈ trees, sameTree (change tree) tree = true) :
    sameTrees (trees.map change) trees = true := by
  induction trees with
  | nil => rfl
  | cons tree trees ih =>
      simp only [List.map_cons, sameTrees, Bool.and_eq_true]
      exact ⟨same tree (by simp), ih fun other member => same other (by simp [member])⟩

theorem sameTree_relocate (keeps : KeepsText move) (expr : Expr) :
    sameTree (expr.relocate move) expr = true := by
  have place_same : ∀ place : Place, Place.SameText ⟨move place.source, place.span⟩ place :=
    fun place => ⟨(keeps place.source).symm, rfl⟩
  induction expr using Expr.induct with
  | leaf place atom => simp [place_same]
  | unary op opOffset operand ih => simp [ih]
  | binary lhs op opOffset rhs ihl ihr => simp [ihl, ihr]
  | conditional thenCase condition elseCase iht ihc ihe =>
      simp [iht, ihc, ihe]
  | list place elements ih =>
      simp [place_same, sameTrees_map ih]

/-- A move that keeps the units of a tree apart keeps its sharing. -/
theorem sameSharing_relocate {expr : Expr}
    (apart : ∀ a ∈ expr.carriedSources, ∀ b ∈ expr.carriedSources, move a = move b → a = b) :
    SameSharing expr (expr.relocate move) := by
  rw [SameSharing, carriedSources_relocate]
  exact samePattern_map_of_inj apart

end Expr

end ExprTree
