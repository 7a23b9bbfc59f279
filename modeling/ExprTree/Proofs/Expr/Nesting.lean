/-
# ExprTree.Proofs.Expr.Nesting — where the nodes of a made tree lie

A node of a tree is given by its path, the row of places of parts on the way to it (`Expr.at?`); one
path begins another exactly if its node lies above, and paths are compared by the first place in
which they differ. A walk meets the nodes in the order of their paths (`map_at?_paths`), so a
statement about any two nodes is one about the course of a walk (`pairwise_preorder_of`).

The makers compare neighbours, and the extent of a composite is not stored but taken from its parts.
What holds between any two nodes comes from the list of all offsets: the offsets of a node are among
those of each node above it, in the same order (`offsets_sublist_of_at?`), and those of two parts
follow one another (`pairwise_children`).

Main statement: `Made.wellNested`.
-/
import ExprTree.Proofs.Expr.Order

namespace ExprTree

set_option autoImplicit false

namespace Expr

/-- The node at the end of a path, which names a part at every step. -/
def at? (expr : Expr) : List Nat → Option Expr
  | [] => some expr
  | place :: path => do
      let part ← expr.children[place]?
      part.at? path

@[simp] theorem at?_nil (expr : Expr) : expr.at? [] = some expr := rfl

@[simp] theorem at?_cons_eq_some_iff {expr node : Expr} {place : Nat} {path : List Nat} :
    expr.at? (place :: path) = some node ↔
      ∃ part, expr.children[place]? = some part ∧ part.at? path = some node := by
  simp [at?, Option.bind_eq_some_iff]

theorem at?_append_eq_some_iff {expr node : Expr} {path rest : List Nat} :
    expr.at? (path ++ rest) = some node ↔
      ∃ above, expr.at? path = some above ∧ above.at? rest = some node := by
  induction path generalizing expr with
  | nil => simp
  | cons place path ih =>
      simp only [List.cons_append, at?_cons_eq_some_iff, ih]
      constructor
      · rintro ⟨part, first, above, found, last⟩
        exact ⟨above, ⟨part, first, found⟩, last⟩
      · rintro ⟨above, ⟨part, first, found⟩, last⟩
        exact ⟨part, first, above, found, last⟩

/-- From a node above it, the rest of its path leads to a node. -/
theorem at?_of_append {expr above node : Expr} {path rest : List Nat}
    (found : expr.at? path = some above) (found' : expr.at? (path ++ rest) = some node) :
    above.at? rest = some node := by
  obtain ⟨_, again, below⟩ := at?_append_eq_some_iff.1 found'
  cases found.symm.trans again
  exact below

/-! ## A node and its parts -/

/-- What holds of a node as soon as it holds of its parts holds of every tree. -/
theorem induct_children {motive : Expr → Prop}
    (step : ∀ expr, (∀ part ∈ expr.children, motive part) → motive expr) (expr : Expr) :
    motive expr := by
  induction expr using Expr.induct with
  | leaf place atom => exact step _ (by simp)
  | unary op opOffset operand ih => exact step _ (by simp [ih])
  | binary lhs op opOffset rhs ihl ihr => exact step _ (by simp [ihl, ihr])
  | conditional thenCase condition elseCase iht ihc ihe =>
      exact step _ (by simp [iht, ihc, ihe])
  | list place elements ih => exact step _ ih

theorem children_eq_nil_of_isLeaf {expr : Expr} (leaf : expr.kind.isLeaf = true) :
    expr.children = [] := by
  cases expr with
  | leaf => rfl
  | _ => cases leaf

theorem preorder_eq_cons (expr : Expr) :
    expr.preorder = expr :: expr.children.flatMap preorder := by
  cases expr <;> simp

/-! ## The paths of a tree -/

mutual

/-- The paths of all nodes of a tree, in the order of a walk. -/
@[simp] def paths : Expr → List (List Nat)
  | .leaf _ _ => [[]]
  | .unary _ _ operand => [] :: (paths operand).map (0 :: ·)
  | .binary lhs _ _ rhs => [] :: ((paths lhs).map (0 :: ·) ++ (paths rhs).map (1 :: ·))
  | .conditional thenCase condition elseCase =>
      [] :: ((paths thenCase).map (0 :: ·) ++ (paths condition).map (1 :: ·) ++
        (paths elseCase).map (2 :: ·))
  | .list _ elements => [] :: pathsFrom 0 elements

/-- The paths of all nodes of a row of parts, the first of which stands at the given place. -/
@[simp] def pathsFrom (place : Nat) : List Expr → List (List Nat)
  | [] => []
  | part :: parts => (paths part).map (place :: ·) ++ pathsFrom (place + 1) parts

end

theorem paths_eq_cons (expr : Expr) : expr.paths = [] :: pathsFrom 0 expr.children := by
  cases expr <;> simp

theorem mem_pathsFrom_iff {place : Nat} {parts : List Expr} {path : List Nat} :
    path ∈ pathsFrom place parts ↔ ∃ step part rest,
      parts[step]? = some part ∧ rest ∈ part.paths ∧ path = (place + step) :: rest := by
  induction parts generalizing place with
  | nil => simp
  | cons part parts ih =>
      rw [pathsFrom, List.mem_append, List.mem_map, ih]
      constructor
      · rintro (⟨rest, inside, rfl⟩ | ⟨step, later, rest, entry, inside, rfl⟩)
        · exact ⟨0, part, rest, rfl, inside, rfl⟩
        · exact ⟨step + 1, later, rest, entry, inside, by rw [Nat.add_right_comm, Nat.add_assoc]⟩
      · rintro ⟨step, later, rest, entry, inside, rfl⟩
        cases step with
        | zero =>
            cases entry
            exact .inl ⟨rest, inside, rfl⟩
        | succ step =>
            exact .inr ⟨step, later, rest, entry, inside, by rw [Nat.add_right_comm, Nat.add_assoc]⟩

/-- The list has all paths that lead to a node. -/
theorem mem_paths_iff {expr : Expr} {path : List Nat} :
    path ∈ expr.paths ↔ ∃ node, expr.at? path = some node := by
  induction expr using induct_children generalizing path with
  | step expr ih =>
    rw [paths_eq_cons, List.mem_cons, mem_pathsFrom_iff]
    constructor
    · rintro (rfl | ⟨place, part, rest, entry, inside, rfl⟩)
      · exact ⟨expr, rfl⟩
      · obtain ⟨node, found⟩ := (ih part (List.mem_of_getElem? entry)).1 inside
        exact ⟨node, at?_cons_eq_some_iff.2 ⟨part, by rwa [Nat.zero_add], found⟩⟩
    · rintro ⟨node, found⟩
      cases path with
      | nil => exact .inl rfl
      | cons place path =>
          obtain ⟨part, entry, found⟩ := at?_cons_eq_some_iff.1 found
          have inside := (ih part (List.mem_of_getElem? entry)).2 ⟨node, found⟩
          exact .inr ⟨place, part, path, entry, inside, by rw [Nat.zero_add]⟩

theorem pairwise_pathsFrom {place : Nat} {parts : List Expr}
    (sorted : ∀ part ∈ parts, part.paths.Pairwise (· < ·)) :
    (pathsFrom place parts).Pairwise (· < ·) := by
  induction parts generalizing place with
  | nil => exact .nil
  | cons part parts ih =>
      obtain ⟨first, others⟩ := List.forall_mem_cons.1 sorted
      rw [pathsFrom, List.pairwise_append, List.pairwise_map]
      refine ⟨first.imp fun before => List.cons_lt_cons_iff.2 (.inr ⟨rfl, before⟩), ih others, ?_⟩
      intro path inside later behind
      obtain ⟨rest, -, rfl⟩ := List.mem_map.1 inside
      obtain ⟨step, _, rest', -, -, rfl⟩ := mem_pathsFrom_iff.1 behind
      exact List.cons_lt_cons_iff.2 (.inl (by omega))

/-- The paths are listed in their order, so that none is listed twice, and none in front of one
that it begins with. -/
theorem pairwise_paths (expr : Expr) : expr.paths.Pairwise (· < ·) := by
  induction expr using induct_children with
  | step expr ih =>
    rw [paths_eq_cons, List.pairwise_cons]
    refine ⟨fun path inside => ?_, pairwise_pathsFrom ih⟩
    obtain ⟨step, _, rest, -, -, rfl⟩ := mem_pathsFrom_iff.1 inside
    exact List.nil_lt_cons _ _

theorem map_at?_pathsFrom {expr : Expr} {place : Nat} {parts : List Expr}
    (found : ∀ part ∈ parts, part.paths.map part.at? = part.preorder.map some)
    (row : expr.children.drop place = parts) :
    (pathsFrom place parts).map expr.at? = (parts.flatMap preorder).map some := by
  induction parts generalizing place with
  | nil => rfl
  | cons part parts ih =>
      obtain ⟨first, others⟩ := List.forall_mem_cons.1 found
      have entry : expr.children[place]? = some part := by
        rw [← List.head?_drop, row, List.head?_cons]
      have behind : expr.children.drop (place + 1) = parts := by
        rw [← List.tail_drop, row, List.tail_cons]
      have inside : (part.paths.map (place :: ·)).map expr.at? = part.paths.map part.at? := by
        rw [List.map_map]
        refine List.map_congr_left fun path _ => ?_
        simp [at?, entry]
      rw [pathsFrom, List.map_append, inside, first, ih others behind, List.flatMap_cons,
        List.map_append]

/-- A walk meets the nodes at these paths, one for each path. -/
theorem map_at?_paths (expr : Expr) : expr.paths.map expr.at? = expr.preorder.map some := by
  induction expr using induct_children with
  | step expr ih =>
    rw [paths_eq_cons, preorder_eq_cons, List.map_cons, List.map_cons, at?_nil,
      map_at?_pathsFrom ih List.drop_zero]

/-- The nodes of a walk are those at the end of some path. -/
theorem mem_preorder_iff {expr node : Expr} :
    node ∈ expr.preorder ↔ ∃ path, expr.at? path = some node := by
  have listed : node ∈ expr.preorder ↔ some node ∈ expr.paths.map expr.at? := by
    simp [map_at?_paths]
  rw [listed, List.mem_map]
  exact ⟨fun ⟨path, _, found⟩ => ⟨path, found⟩,
    fun ⟨path, found⟩ => ⟨path, mem_paths_iff.2 ⟨node, found⟩, found⟩⟩

/-- What holds of any two nodes, the first of which comes first, holds along a walk. -/
theorem pairwise_preorder_of {relation : Expr → Expr → Prop} {expr : Expr}
    (related : ∀ path path' node node', expr.at? path = some node → expr.at? path' = some node' →
      path < path' → relation node node') : expr.preorder.Pairwise relation := by
  have listed : (expr.preorder.map some).Pairwise fun entry entry' =>
      ∀ node ∈ entry, ∀ node' ∈ entry', relation node node' := by
    rw [← map_at?_paths, List.pairwise_map]
    exact expr.pairwise_paths.imp fun {path path'} first node found node' found' =>
      related path path' node node' found found' first
  rw [List.pairwise_map] at listed
  exact listed.imp fun holds => holds _ rfl _ rfl

/-! ## Offsets and sources of nodes -/

/-- The offsets of the parts of a node are among its own, in their order. -/
theorem offsets_children_sublist (expr : Expr) :
    (expr.children.flatMap offsets).Sublist expr.offsets := by
  cases expr <;> simp

theorem carriedSources_children_subset (expr : Expr) :
    expr.children.flatMap carriedSources ⊆ expr.carriedSources := by
  cases expr <;> simp

theorem start_mem_offsets (expr : Expr) : expr.start ∈ expr.offsets :=
  List.mem_of_head? expr.head?_offsets

theorem stop_mem_offsets (expr : Expr) : expr.stop ∈ expr.offsets :=
  List.mem_of_getLast? expr.getLast?_offsets

/-- The offsets of a node are among those of the whole tree, in their order. -/
theorem offsets_sublist_of_at? {expr node : Expr} {path : List Nat}
    (found : expr.at? path = some node) : node.offsets.Sublist expr.offsets := by
  induction path generalizing expr with
  | nil =>
      cases found
      exact List.Sublist.refl _
  | cons place path ih =>
      obtain ⟨part, entry, found⟩ := at?_cons_eq_some_iff.1 found
      have among : part.offsets.Sublist (expr.children.flatMap offsets) :=
        List.sublist_flatten_of_mem (List.mem_map_of_mem (List.mem_of_getElem? entry))
      exact (ih found).trans (among.trans expr.offsets_children_sublist)

theorem carriedSources_subset_of_at? {expr node : Expr} {path : List Nat}
    (found : expr.at? path = some node) : node.carriedSources ⊆ expr.carriedSources := by
  induction path generalizing expr with
  | nil =>
      cases found
      exact List.Subset.refl _
  | cons place path ih =>
      obtain ⟨part, entry, found⟩ := at?_cons_eq_some_iff.1 found
      intro unit carried
      exact expr.carriedSources_children_subset
        (List.mem_flatMap.2 ⟨part, List.mem_of_getElem? entry, ih found carried⟩)

/-! ## Order and nesting -/

theorem Ordered.of_at? {expr node : Expr} {path : List Nat} (ordered : expr.Ordered)
    (found : expr.at? path = some node) : node.Ordered :=
  List.Pairwise.sublist (offsets_sublist_of_at? found) ordered

theorem Ordered.start_le_stop {expr : Expr} (ordered : expr.Ordered) : expr.start ≤ expr.stop :=
  ordered.le_stop _ expr.start_mem_offsets

theorem Ordered.of_mem_children {expr part : Expr} (ordered : expr.Ordered)
    (member : part ∈ expr.children) : part.Ordered := by
  obtain ⟨place, entry⟩ := List.mem_iff_getElem?.1 member
  exact ordered.of_at? (at?_cons_eq_some_iff.2 ⟨part, entry, at?_nil part⟩)

/-- A node lies inside the whole tree. -/
theorem Ordered.extent_of_at? {expr node : Expr} {path : List Nat} (ordered : expr.Ordered)
    (found : expr.at? path = some node) : expr.start ≤ node.start ∧ node.stop ≤ expr.stop := by
  have among := (offsets_sublist_of_at? found).subset
  exact ⟨ordered.start_le _ (among node.start_mem_offsets),
    ordered.le_stop _ (among node.stop_mem_offsets)⟩

/-- Of two parts of a node, the earlier one is over before the later one begins. -/
theorem Ordered.pairwise_children {expr : Expr} (ordered : expr.Ordered) :
    expr.children.Pairwise fun before after => before.stop ≤ after.start := by
  have parts : (expr.children.flatMap offsets).Pairwise (· ≤ ·) :=
    List.Pairwise.sublist expr.offsets_children_sublist ordered
  rw [List.pairwise_flatMap] at parts
  exact parts.2.imp fun follows => follows _ (stop_mem_offsets _) _ (start_mem_offsets _)

/-- Of two parts at different places, the one at the smaller place is over before the other
begins. -/
theorem Ordered.parts_apart {expr : Expr} (ordered : expr.Ordered) {place place' : Nat}
    {part part' : Expr} (entry : expr.children[place]? = some part)
    (entry' : expr.children[place']? = some part') (before : place < place') :
    part.stop ≤ part'.start := by
  obtain ⟨inside, rfl⟩ := List.getElem?_eq_some_iff.1 entry
  obtain ⟨inside', rfl⟩ := List.getElem?_eq_some_iff.1 entry'
  exact List.pairwise_iff_getElem.1 ordered.pairwise_children _ _ inside inside' before

/-- Of two nodes the first of which comes first and does not lie above the second, the first is over
before the second begins. -/
theorem Ordered.apart {expr : Expr} (ordered : expr.Ordered) {path path' : List Nat}
    {node node' : Expr} (found : expr.at? path = some node) (found' : expr.at? path' = some node')
    (first : path < path') (notAbove : ¬ path <+: path') : node.stop ≤ node'.start := by
  induction path generalizing expr path' with
  | nil => exact absurd List.nil_prefix notAbove
  | cons place path ih =>
    cases path' with
    | nil => cases first
    | cons place' path' =>
      obtain ⟨part, entry, inside⟩ := at?_cons_eq_some_iff.1 found
      obtain ⟨part', entry', inside'⟩ := at?_cons_eq_some_iff.1 found'
      have orderedPart := ordered.of_mem_children (List.mem_of_getElem? entry)
      -- The paths part here, or later on inside one part.
      rcases List.cons_lt_cons_iff.1 first with before | ⟨rfl, later⟩
      · have orderedPart' := ordered.of_mem_children (List.mem_of_getElem? entry')
        calc node.stop
          _ ≤ part.stop := (orderedPart.extent_of_at? inside).2
          _ ≤ part'.start := ordered.parts_apart entry entry' before
          _ ≤ node'.start := (orderedPart'.extent_of_at? inside').1
      · obtain rfl : part = part' := Option.some.inj (entry.symm.trans entry')
        exact ih orderedPart inside inside' later fun above =>
          notAbove (List.cons_prefix_cons.2 ⟨rfl, above⟩)

/-- In a walk, no node begins before the one that was met in front of it. -/
theorem Ordered.pairwise_preorder {expr : Expr} (ordered : expr.Ordered) :
    expr.preorder.Pairwise fun node later => node.start ≤ later.start := by
  refine pairwise_preorder_of fun path path' node later found found' first => ?_
  have orderedNode := ordered.of_at? found
  by_cases above : path <+: path'
  · obtain ⟨rest, rfl⟩ := above
    exact (orderedNode.extent_of_at? (at?_of_append found found')).1
  · exact UInt32.le_trans orderedNode.start_le_stop (ordered.apart found found' first above)

/-- In a walk, a leaf is over before any node begins that is met behind it. -/
theorem Ordered.pairwise_leaves {expr : Expr} (ordered : expr.Ordered) :
    expr.preorder.Pairwise fun node later =>
      node.kind.isLeaf = true → node.stop ≤ later.start := by
  refine pairwise_preorder_of fun path path' node later found found' first leaf => ?_
  refine ordered.apart found found' first fun above => ?_
  obtain ⟨rest, rfl⟩ := above
  cases rest with
  | nil => exact absurd first (by simp)
  | cons place rest =>
      obtain ⟨part, entry, -⟩ := at?_cons_eq_some_iff.1 (at?_of_append found found')
      rw [children_eq_nil_of_isLeaf leaf] at entry
      cases entry

theorem OneText.sameText_of_at? {expr : Expr} (one : expr.OneText) {path path' : List Nat}
    {node node' : Expr} (found : expr.at? path = some node)
    (found' : expr.at? path' = some node') : node.source.SameText node'.source := by
  have own := one _ (carriedSources_subset_of_at? found node.source_mem_carriedSources)
  have other := one _ (carriedSources_subset_of_at? found' node'.source_mem_carriedSources)
  exact own.symm.trans other

/-! ## The invariant of made trees -/

/-- How the nodes of a tree lie in their texts. -/
structure WellNested (expr : Expr) : Prop where
  /-- The offsets that the tree stores never decrease in source order. -/
  ordered : expr.offsets.Pairwise (· ≤ ·)
  /-- Every node has an extent. -/
  spans : ∀ path node, expr.at? path = some node →
    ∃ span, node.span = .ok span ∧ span.start = node.start ∧ span.stop = node.stop
  /-- A node lies inside each node above it. -/
  inside : ∀ path rest above node, expr.at? path = some above →
    expr.at? (path ++ rest) = some node → above.start ≤ node.start ∧ node.stop ≤ above.stop
  /-- Of two nodes neither of which lies above the other, one is over before the other begins, and
  it is the one that comes first. -/
  apart : ∀ path path' node node', expr.at? path = some node → expr.at? path' = some node' →
    ¬ path <+: path' → ¬ path' <+: path →
      path < path' ∧ node.stop ≤ node'.start ∨ path' < path ∧ node'.stop ≤ node.start
  /-- All nodes have one text under one name. -/
  oneText : ∀ path path' node node', expr.at? path = some node → expr.at? path' = some node' →
    node.source.SameText node'.source
  /-- A list, and any node below one, ends inside its source. -/
  withinLists : ∀ path rest place elements node, expr.at? path = some (.list place elements) →
    expr.at? (path ++ rest) = some node → node.stop ≤ node.source.length

/-- **The nodes of a made tree are nested.** The offsets that it stores never decrease; every node
has an extent, which lies inside those of the nodes above it and apart from those of the nodes
beside it, in source order; all nodes have one text; and no list, nor anything in it, ends beyond
that text. -/
theorem Made.wellNested {expr : Expr} (made : expr.Made) : expr.WellNested := by
  obtain ⟨ordered, one, lists⟩ := made.sound
  refine ⟨ordered, ?spans, ?inside, ?apart, ?oneText, ?withinLists⟩
  case spans =>
    intro path node found
    exact ⟨⟨node.start, node.stop, (ordered.of_at? found).start_le_stop⟩,
      Span.between_eq_ok_iff.2 ⟨rfl, rfl⟩, rfl, rfl⟩
  case inside =>
    intro path rest above node found found'
    obtain ⟨_, again, below⟩ := at?_append_eq_some_iff.1 found'
    cases found.symm.trans again
    exact (ordered.of_at? found).extent_of_at? below
  case apart =>
    intro path path' node node' found found' notAbove notBelow
    have different : path ≠ path' := by
      rintro rfl
      exact notAbove List.prefix_rfl
    exact (lt_or_gt_of_ne different).imp
      (fun first => ⟨first, ordered.apart found found' first notAbove⟩)
      (fun first => ⟨first, ordered.apart found' found first notBelow⟩)
  case oneText =>
    intro path path' node node' found found'
    exact one.sameText_of_at? found found'
  case withinLists =>
    intro path rest place elements node found found'
    obtain ⟨_, again, below⟩ := at?_append_eq_some_iff.1 found'
    cases found.symm.trans again
    have listWithin : place.Within := lists _ (mem_preorder_iff.2 ⟨path, found⟩)
    calc node.stop
      _ ≤ place.span.stop := ((ordered.of_at? found).extent_of_at? below).2
      _ ≤ place.source.length := listWithin
      _ = node.source.length := (one.sameText_of_at? found found').length_eq

/-! ### A list with a composite element -/

namespace Example

def listText (serial : Nat) : Source :=
  ⟨serial, "nested", "[-x, y]", by decide⟩

/-- The list that the text spells; its elements lie in two other registrations. -/
def nestedList : Expr :=
  .list ⟨listText 0, ⟨0, 7, by decide⟩⟩
    [.unary .minus 1 (.leaf ⟨listText 1, ⟨2, 3, by decide⟩⟩ (.identifier ⟨"x", by decide⟩)),
      .leaf ⟨listText 2, ⟨5, 6, by decide⟩⟩ (.identifier ⟨"y", by decide⟩)]

end Example

theorem wellNested_nestedList : Example.nestedList.Made ∧ Example.nestedList.WellNested := by
  have made : Example.nestedList.Made := by decide
  exact ⟨made, made.wellNested⟩

end Expr

end ExprTree
