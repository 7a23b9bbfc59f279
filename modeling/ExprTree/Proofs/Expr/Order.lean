/-
# ExprTree.Proofs.Expr.Order — what the makers' checks add up to

The makers compare neighbours only. `Expr.offsets` lists all offsets of a tree in source order, and
`Expr.Ordered` asks that the list never decreases; `Expr.OneText` asks that all units of the tree
hold one text under one name; a property that holds at every node is written `Expr.Everywhere`.

Main statement: `made_iff`, the makers make exactly the trees that are ordered, have one text, and
whose lists end inside their sources. Its two halves rest on one statement for each shape of a tree
(`ordered_unary` to `ordered_list`, `oneText_unary` to `oneText_list`), which says what the global
property of a composite is made of: that of its parts, and the comparisons of its maker.
-/
import Mathlib.Data.List.Chain
import ExprTree.Document.Encode
import ExprTree.Expr.Visitor
import ExprTree.Proofs.Expr.Made

namespace ExprTree

set_option autoImplicit false

/-- Offsets are compared as numbers, so comparisons chain. -/
instance : Trans (α := Offset) (β := Offset) (γ := Offset) (· ≤ ·) (· ≤ ·) (· ≤ ·) :=
  ⟨UInt32.le_trans⟩

namespace Expr

/-! ## The offsets of a tree -/

mutual

/-- The offsets that a tree stores, in source order. -/
@[simp] def offsets : Expr → List Offset
  | .leaf place _ => [place.span.start, place.span.stop]
  | .unary _ opOffset operand => opOffset :: offsets operand
  | .binary lhs _ opOffset rhs => offsets lhs ++ opOffset :: offsets rhs
  | .conditional thenCase condition elseCase =>
      offsets thenCase ++ (offsets condition ++ offsets elseCase)
  | .list place elements => place.span.start :: (offsetsAll elements ++ [place.span.stop])

def offsetsAll : List Expr → List Offset
  | [] => []
  | tree :: trees => offsets tree ++ offsetsAll trees

end

@[simp] theorem offsetsAll_eq_flatMap (trees : List Expr) :
    offsetsAll trees = trees.flatMap offsets := by
  induction trees with
  | nil => rfl
  | cons tree trees ih => simp [offsetsAll, ih]

@[simp] theorem head?_offsets (expr : Expr) : expr.offsets.head? = some expr.start := by
  induction expr using Expr.induct with
  | leaf place atom => rfl
  | unary op opOffset operand ih => rfl
  | binary lhs op opOffset rhs ihl ihr => simp [List.head?_append, ihl]
  | conditional thenCase condition elseCase iht ihc ihe =>
      simp [List.head?_append, iht]
  | list place elements ih => rfl

@[simp] theorem getLast?_offsets (expr : Expr) : expr.offsets.getLast? = some expr.stop := by
  induction expr using Expr.induct with
  | leaf place atom => rfl
  | unary op opOffset operand ih => simp [List.getLast?_cons, ih]
  | binary lhs op opOffset rhs ihl ihr =>
      simp [List.getLast?_append, List.getLast?_cons, ihr]
  | conditional thenCase condition elseCase iht ihc ihe =>
      simp [List.getLast?_append, ihe]
  | list place elements ih => simp [List.getLast?_cons]

def Ordered (expr : Expr) : Prop :=
  expr.offsets.Pairwise (· ≤ ·)

instance (expr : Expr) : Decidable expr.Ordered :=
  inferInstanceAs (Decidable (expr.offsets.Pairwise (· ≤ ·)))

/-- Neighbours are enough to compare. -/
theorem ordered_iff_isChain {expr : Expr} : expr.Ordered ↔ expr.offsets.IsChain (· ≤ ·) :=
  List.isChain_iff_pairwise.symm

@[simp] theorem ordered_leaf (place : Place) (atom : Atom) : (Expr.leaf place atom).Ordered := by
  simp [Ordered, place.span.start_le_stop]

@[simp] theorem ordered_unary {op : UnaryOp} {opOffset : Offset} {operand : Expr} :
    (Expr.unary op opOffset operand).Ordered ↔ operand.Ordered ∧ opOffset ≤ operand.start := by
  simp [ordered_iff_isChain, List.isChain_cons, and_comm]

@[simp] theorem ordered_binary {lhs rhs : Expr} {op : BinaryOp} {opOffset : Offset} :
    (Expr.binary lhs op opOffset rhs).Ordered ↔
      lhs.Ordered ∧ rhs.Ordered ∧ lhs.stop ≤ opOffset ∧ opOffset ≤ rhs.start := by
  simp only [ordered_iff_isChain, offsets, List.isChain_append, List.isChain_cons,
    getLast?_offsets, head?_offsets, List.head?_cons, Option.mem_def, Option.some.injEq,
    forall_eq']
  tauto

@[simp] theorem ordered_conditional {thenCase condition elseCase : Expr} :
    (Expr.conditional thenCase condition elseCase).Ordered ↔
      thenCase.Ordered ∧ condition.Ordered ∧ elseCase.Ordered ∧
        thenCase.stop ≤ condition.start ∧ condition.stop ≤ elseCase.start := by
  simp only [ordered_iff_isChain, offsets, List.isChain_append, getLast?_offsets, head?_offsets,
    List.head?_append, Option.some_or, Option.mem_def, Option.some.injEq, forall_eq']
  tauto

/-- The offsets of a row of trees between two others: each tree is ordered, and none begins before
what stands in front of it is over. -/
theorem isChain_offsetsAll_cons {element : Expr} {rest : List Expr} {cursor stop : Offset} :
    (cursor :: (offsetsAll (element :: rest) ++ [stop])).IsChain (· ≤ ·) ↔
      element.Ordered ∧ cursor ≤ element.start ∧
        (element.stop :: (offsetsAll rest ++ [stop])).IsChain (· ≤ ·) := by
  simp only [ordered_iff_isChain, offsetsAll, List.append_assoc, List.isChain_cons,
    List.isChain_append, getLast?_offsets, head?_offsets, List.head?_append, Option.some_or,
    Option.mem_def, Option.some.injEq, forall_eq']
  tauto

theorem ordered_list {place : Place} {elements : List Expr} :
    (Expr.list place elements).Ordered ↔
      (place.span.start :: (offsetsAll elements ++ [place.span.stop])).IsChain (· ≤ ·) :=
  ordered_iff_isChain

theorem ordered_of_isChain_offsetsAll {elements : List Expr} {cursor stop : Offset}
    (chain : (cursor :: (offsetsAll elements ++ [stop])).IsChain (· ≤ ·)) :
    ∀ element ∈ elements, element.Ordered := by
  induction elements generalizing cursor with
  | nil => simp
  | cons element rest ih =>
      obtain ⟨first, -, others⟩ := isChain_offsetsAll_cons.1 chain
      exact List.forall_mem_cons.2 ⟨first, ih others⟩

theorem Ordered.start_le {expr : Expr} (ordered : expr.Ordered) :
    ∀ offset ∈ expr.offsets, expr.start ≤ offset := by
  obtain ⟨rest, first⟩ := List.head?_eq_some_iff.1 expr.head?_offsets
  rw [Ordered, first, List.pairwise_cons] at ordered
  intro offset member
  rw [first, List.mem_cons] at member
  rcases member with rfl | after
  · exact UInt32.le_refl _
  · exact ordered.1 offset after

theorem Ordered.le_stop {expr : Expr} (ordered : expr.Ordered) :
    ∀ offset ∈ expr.offsets, offset ≤ expr.stop := by
  obtain ⟨front, last⟩ := List.getLast?_eq_some_iff.1 expr.getLast?_offsets
  rw [Ordered, last, List.pairwise_append] at ordered
  intro offset member
  rw [last, List.mem_append, List.mem_singleton] at member
  rcases member with before | rfl
  · exact ordered.2.2 offset before _ (by simp)
  · exact UInt32.le_refl _

/-! ## The text of a tree -/

theorem source_mem_carriedSources (expr : Expr) : expr.source ∈ expr.carriedSources := by
  induction expr using Expr.induct with
  | leaf place atom => simp
  | unary op opOffset operand ih => exact ih
  | binary lhs op opOffset rhs ihl ihr => simp [ihl]
  | conditional thenCase condition elseCase iht ihc ihe => simp [iht]
  | list place elements ih => simp

/-- All units of a tree hold one text under one name. -/
def OneText (expr : Expr) : Prop :=
  ∀ unit ∈ expr.carriedSources, expr.source.SameText unit

instance (expr : Expr) : Decidable expr.OneText :=
  inferInstanceAs (Decidable (∀ unit ∈ expr.carriedSources, expr.source.SameText unit))

/-- A unit agrees with all units of a tree if the tree has one text and it is that one. -/
theorem forall_sameText_iff {base : Source} {expr : Expr} :
    (∀ unit ∈ expr.carriedSources, base.SameText unit) ↔
      expr.OneText ∧ base.SameText expr.source := by
  constructor
  · intro same
    have own := same _ expr.source_mem_carriedSources
    exact ⟨fun unit carried => own.symm.trans (same unit carried), own⟩
  · rintro ⟨one, own⟩ unit carried
    exact own.trans (one unit carried)

@[simp] theorem oneText_leaf (place : Place) (atom : Atom) : (Expr.leaf place atom).OneText := by
  simp [OneText]

@[simp] theorem oneText_unary {op : UnaryOp} {opOffset : Offset} {operand : Expr} :
    (Expr.unary op opOffset operand).OneText ↔ operand.OneText :=
  Iff.rfl

@[simp] theorem oneText_binary {lhs rhs : Expr} {op : BinaryOp} {opOffset : Offset} :
    (Expr.binary lhs op opOffset rhs).OneText ↔
      lhs.OneText ∧ rhs.OneText ∧ lhs.source.SameText rhs.source := by
  simp only [OneText.eq_1 (.binary _ _ _ _), source, carriedSources, List.forall_mem_append,
    forall_sameText_iff, Source.SameText.refl, and_true]

@[simp] theorem oneText_conditional {thenCase condition elseCase : Expr} :
    (Expr.conditional thenCase condition elseCase).OneText ↔
      thenCase.OneText ∧ condition.OneText ∧ elseCase.OneText ∧
        thenCase.source.SameText condition.source ∧ thenCase.source.SameText elseCase.source := by
  simp only [OneText.eq_1 (.conditional _ _ _), source, carriedSources, List.forall_mem_append,
    forall_sameText_iff, Source.SameText.refl, and_true]
  tauto

@[simp] theorem oneText_list {place : Place} {elements : List Expr} :
    (Expr.list place elements).OneText ↔
      ∀ element ∈ elements, element.OneText ∧ place.source.SameText element.source := by
  simp only [OneText.eq_1 (.list _ _), source, carriedSources, carriedSourcesAll_eq_flatMap,
    List.forall_mem_cons, Source.SameText.refl, true_and, List.forall_mem_flatMap,
    forall_sameText_iff]

/-! ## Properties of all nodes -/

@[simp] theorem preorders_eq_flatMap (trees : List Expr) :
    preorders trees = trees.flatMap preorder := by
  induction trees with
  | nil => rfl
  | cons tree trees ih => simp [preorders, ih]

def Everywhere (property : Expr → Prop) (expr : Expr) : Prop :=
  ∀ node ∈ expr.preorder, property node

section Everywhere

variable {property : Expr → Prop}

@[simp] theorem everywhere_leaf {place : Place} {atom : Atom} :
    (Expr.leaf place atom).Everywhere property ↔ property (.leaf place atom) := by
  simp [Everywhere]

@[simp] theorem everywhere_unary {op : UnaryOp} {opOffset : Offset} {operand : Expr} :
    (Expr.unary op opOffset operand).Everywhere property ↔
      property (.unary op opOffset operand) ∧ operand.Everywhere property := by
  simp [Everywhere]

@[simp] theorem everywhere_binary {lhs rhs : Expr} {op : BinaryOp} {opOffset : Offset} :
    (Expr.binary lhs op opOffset rhs).Everywhere property ↔
      property (.binary lhs op opOffset rhs) ∧ lhs.Everywhere property ∧
        rhs.Everywhere property := by
  simp only [Everywhere, preorder, List.forall_mem_cons, List.forall_mem_append]

@[simp] theorem everywhere_conditional {thenCase condition elseCase : Expr} :
    (Expr.conditional thenCase condition elseCase).Everywhere property ↔
      property (.conditional thenCase condition elseCase) ∧ thenCase.Everywhere property ∧
        condition.Everywhere property ∧ elseCase.Everywhere property := by
  simp only [Everywhere, preorder, List.forall_mem_cons, List.forall_mem_append, and_assoc]

@[simp] theorem everywhere_list {place : Place} {elements : List Expr} :
    (Expr.list place elements).Everywhere property ↔
      property (.list place elements) ∧ ∀ element ∈ elements, element.Everywhere property := by
  simp only [Everywhere, preorder, preorders_eq_flatMap, List.forall_mem_cons,
    List.forall_mem_flatMap]

end Everywhere

instance {property : Expr → Prop} [DecidablePred property] (expr : Expr) :
    Decidable (expr.Everywhere property) :=
  inferInstanceAs (Decidable (∀ node ∈ expr.preorder, property node))

/-- A leaf ends inside its source; other nodes are let through. -/
def LeafWithin : Expr → Prop
  | .leaf place _ => place.Within
  | _ => True

instance : DecidablePred LeafWithin
  | .leaf place _ => inferInstanceAs (Decidable place.Within)
  | .unary .. | .binary .. | .conditional .. | .list .. => isTrue trivial

/-- A list ends inside its source; other nodes are let through. -/
def ListWithin : Expr → Prop
  | .list place _ => place.Within
  | _ => True

instance : DecidablePred ListWithin
  | .list place _ => inferInstanceAs (Decidable place.Within)
  | .leaf .. | .unary .. | .binary .. | .conditional .. => isTrue trivial

/-! ## The trees that the makers make -/

/-- Elements stand in a row between two offsets of a source when they have its text and their
offsets fit in between. -/
theorem inRow_iff {source : Source} {cursor stop : Offset} {elements : List Expr}
    (ordered : ∀ element ∈ elements, element.Ordered) :
    InRow source cursor elements stop ↔
      (∀ element ∈ elements, source.SameText element.source) ∧
        (cursor :: (offsetsAll elements ++ [stop])).IsChain (· ≤ ·) := by
  induction elements generalizing cursor with
  | nil => simp [InRow, offsetsAll]
  | cons element rest ih =>
      have first := ordered element (by simp)
      have others := @ih element.stop fun other member => ordered other (by simp [member])
      rw [InRow, others, isChain_offsetsAll_cons, List.forall_mem_cons]
      tauto

/-- A spelling gives a leaf, if it gives anything. -/
theorem leaf_of_readLiteral {bytes : Bool} {source : Source} {start stop : Offset}
    {spelling : String} {expr : Expr}
    (makes : readLiteral bytes source start spelling stop = .ok expr) :
    ∃ place atom, expr = .leaf place atom := by
  have leaf : ∀ {kind text}, makeLeaf kind source start text stop = .ok expr →
      ∃ place atom, expr = .leaf place atom := by
    intro kind text makes
    obtain ⟨span, atom, rfl, -⟩ := makeLeaf_eq_ok_iff.1 makes
    exact ⟨_, atom, rfl⟩
  unfold readLiteral at makes
  split at makes
  · cases makes
  · split at makes
    · cases makes
    · cases makes
    · exact leaf makes
    · exact leaf makes

/-- Parts give a leaf, if they give anything. -/
theorem leaf_of_rebuild {kind : NodeKind} {parts : LeafParts} {expr : Expr}
    (makes : parts.rebuild kind = .ok expr) : ∃ place atom, expr = .leaf place atom := by
  cases kind with
  | leaf kind =>
      obtain ⟨-, makes⟩ := rebuild_leaf_eq_ok_iff.1 makes
      obtain ⟨span, atom, rfl, -⟩ := makeLeaf_eq_ok_iff.1 makes
      exact ⟨_, atom, rfl⟩
  | unaryOperator => cases makes
  | binaryOperator => cases makes
  | conditional => cases makes
  | list => cases makes

/-- A made tree is ordered, has one text, and its lists end inside their sources. -/
theorem Made.sound {expr : Expr} (made : expr.Made) :
    expr.Ordered ∧ expr.OneText ∧ expr.Everywhere ListWithin := by
  have leaf : ∀ {expr : Expr}, (∃ place atom, expr = .leaf place atom) →
      expr.Ordered ∧ expr.OneText ∧ expr.Everywhere ListWithin := by
    rintro _ ⟨place, atom, rfl⟩
    exact ⟨ordered_leaf place atom, oneText_leaf place atom, everywhere_leaf.2 trivial⟩
  induction made with
  | leaf makes =>
      obtain ⟨span, atom, rfl, -⟩ := makeLeaf_eq_ok_iff.1 makes
      exact leaf ⟨_, atom, rfl⟩
  | literal makes => exact leaf (leaf_of_readLiteral makes)
  | rebuilt makes => exact leaf (leaf_of_rebuild makes)
  | unary operandMade makes ih =>
      obtain ⟨order, rfl⟩ := makeUnary_eq_ok_iff.1 makes
      obtain ⟨ordered, one, lists⟩ := ih
      exact ⟨ordered_unary.2 ⟨ordered, order⟩, oneText_unary.2 one,
        everywhere_unary.2 ⟨trivial, lists⟩⟩
  | binary lhsMade rhsMade makes ihl ihr =>
      obtain ⟨⟨before, after, same⟩, rfl⟩ := makeBinary_eq_ok_iff.1 makes
      exact ⟨ordered_binary.2 ⟨ihl.1, ihr.1, before, after⟩,
        oneText_binary.2 ⟨ihl.2.1, ihr.2.1, same⟩,
        everywhere_binary.2 ⟨trivial, ihl.2.2, ihr.2.2⟩⟩
  | conditional thenMade conditionMade elseMade makes iht ihc ihe =>
      obtain ⟨⟨first, second, sameCondition, sameElse⟩, rfl⟩ := makeConditional_eq_ok_iff.1 makes
      exact ⟨ordered_conditional.2 ⟨iht.1, ihc.1, ihe.1, first, second⟩,
        oneText_conditional.2 ⟨iht.2.1, ihc.2.1, ihe.2.1, sameCondition, sameElse⟩,
        everywhere_conditional.2 ⟨trivial, iht.2.2, ihc.2.2, ihe.2.2⟩⟩
  | list elementsMade makes ih =>
      obtain ⟨span, rfl, rfl, rfl, within, row⟩ := makeList_eq_ok_iff.1 makes
      obtain ⟨same, chain⟩ := (inRow_iff fun element member => (ih element member).1).1 row
      exact ⟨ordered_list.2 chain,
        oneText_list.2 fun element member => ⟨(ih element member).2.1, same element member⟩,
        everywhere_list.2 ⟨within, fun element member => (ih element member).2.2⟩⟩

/-- The makers make exactly the trees that are ordered, have one text, and whose lists end inside
their sources. -/
theorem made_iff {expr : Expr} :
    expr.Made ↔ expr.Ordered ∧ expr.OneText ∧ expr.Everywhere ListWithin := by
  refine ⟨Made.sound, ?_⟩
  induction expr using Expr.induct with
  | leaf place atom =>
      intro _
      exact made_leaf place atom
  | unary op opOffset operand ih =>
      rw [ordered_unary, oneText_unary, everywhere_unary]
      rintro ⟨⟨ordered, order⟩, one, -, lists⟩
      exact .unary (ih ⟨ordered, one, lists⟩) (makeUnary_eq_ok_iff.2 ⟨order, rfl⟩)
  | binary lhs op opOffset rhs ihl ihr =>
      rw [ordered_binary, oneText_binary, everywhere_binary]
      rintro ⟨⟨orderedL, orderedR, before, after⟩, ⟨oneL, oneR, same⟩, -, listsL, listsR⟩
      exact .binary (ihl ⟨orderedL, oneL, listsL⟩) (ihr ⟨orderedR, oneR, listsR⟩)
        (makeBinary_eq_ok_iff.2 ⟨⟨before, after, same⟩, rfl⟩)
  | conditional thenCase condition elseCase iht ihc ihe =>
      rw [ordered_conditional, oneText_conditional, everywhere_conditional]
      rintro ⟨⟨orderedT, orderedC, orderedE, first, second⟩,
        ⟨oneT, oneC, oneE, sameCondition, sameElse⟩, -, listsT, listsC, listsE⟩
      exact .conditional (iht ⟨orderedT, oneT, listsT⟩) (ihc ⟨orderedC, oneC, listsC⟩)
        (ihe ⟨orderedE, oneE, listsE⟩)
        (makeConditional_eq_ok_iff.2 ⟨⟨first, second, sameCondition, sameElse⟩, rfl⟩)
  | list place elements ih =>
      rw [ordered_list, oneText_list, everywhere_list]
      rintro ⟨chain, one, within, lists⟩
      have ordered := ordered_of_isChain_offsetsAll chain
      have row : InRow place.source place.span.start elements place.span.stop :=
        (inRow_iff ordered).2 ⟨fun element member => (one element member).2, chain⟩
      exact .list
        (fun element member =>
          ih element member ⟨ordered element member, (one element member).1, lists element member⟩)
        (makeList_eq_ok_iff.2 ⟨place.span, rfl, rfl, rfl, within, row⟩)

instance (expr : Expr) : Decidable expr.Made :=
  decidable_of_iff _ made_iff.symm

/-! A made composite is made of made parts, and its maker accepts them. -/

theorem made_unary_iff {op : UnaryOp} {opOffset : Offset} {operand : Expr} :
    (Expr.unary op opOffset operand).Made ↔ operand.Made ∧ opOffset ≤ operand.start := by
  rw [made_iff, made_iff, ordered_unary, oneText_unary, everywhere_unary]
  simp only [ListWithin]
  tauto

theorem made_binary_iff {lhs rhs : Expr} {op : BinaryOp} {opOffset : Offset} :
    (Expr.binary lhs op opOffset rhs).Made ↔
      lhs.Made ∧ rhs.Made ∧
        lhs.stop ≤ opOffset ∧ opOffset ≤ rhs.start ∧ lhs.source.SameText rhs.source := by
  rw [made_iff, made_iff, made_iff, ordered_binary, oneText_binary, everywhere_binary]
  simp only [ListWithin]
  tauto

theorem made_conditional_iff {thenCase condition elseCase : Expr} :
    (Expr.conditional thenCase condition elseCase).Made ↔
      thenCase.Made ∧ condition.Made ∧ elseCase.Made ∧
        thenCase.stop ≤ condition.start ∧ condition.stop ≤ elseCase.start ∧
          thenCase.source.SameText condition.source ∧
            thenCase.source.SameText elseCase.source := by
  rw [made_iff, made_iff, made_iff, made_iff, ordered_conditional, oneText_conditional,
    everywhere_conditional]
  simp only [ListWithin]
  tauto

theorem made_list_iff {place : Place} {elements : List Expr} :
    (Expr.list place elements).Made ↔
      (∀ element ∈ elements, element.Made) ∧ place.Within ∧
        InRow place.source place.span.start elements place.span.stop := by
  constructor
  · intro made
    obtain ⟨ordered, one, lists⟩ := made.sound
    rw [ordered_list] at ordered
    rw [oneText_list] at one
    rw [everywhere_list] at lists
    have each := ordered_of_isChain_offsetsAll ordered
    refine ⟨fun element member => made_iff.2
      ⟨each element member, (one element member).1, lists.2 element member⟩, lists.1, ?_⟩
    exact (inRow_iff each).2 ⟨fun element member => (one element member).2, ordered⟩
  · rintro ⟨elementsMade, within, row⟩
    exact .list elementsMade (makeList_eq_ok_iff.2 ⟨place.span, rfl, rfl, rfl, within, row⟩)

end Expr

end ExprTree
