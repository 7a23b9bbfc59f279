/-
# ExprTree.Proofs.Document.Faithfulness — what the document of a tree tells about it

A tree is its shape, operators, contents and offsets (`Expr.bare`) together with the row of units
that its leaves and lists carry. Two trees agree (`Expr.Agree f g`) when they have the first in
common and `f` says of the units of the one, along the row, what `g` says of those of the other.
There is one lemma for each shape of a tree (`agree_leaf` to `agree_list`), and two readings of
agreement come out of them: trees are the same if they agree in the names and texts of their units
(`sameTree_iff_agree`), and they have one record if they agree in the indices of their units
(`toRecord_eq_iff_agree`).

Main statement: `encode_exact`. The table of a tree's document lists the units of the tree once
each, in the order of first visit, the root's indices name them, and two trees have one document
exactly if they are the same tree and share their units in the same pattern.
-/
import ExprTree.Proofs.Document.RoundTrip
import ExprTree.Proofs.Document.WellFormed
import Mathlib.Data.List.Nodup

namespace ExprTree

set_option autoImplicit false

theorem map_append_eq_iff {α β γ : Type} {f : α → γ} {g : β → γ} {front back : List α}
    {front' back' : List β} (lengths : front.length = front'.length) :
    (front ++ back).map f = (front' ++ back').map g ↔
      front.map f = front'.map g ∧ back.map f = back'.map g := by
  rw [List.map_append, List.map_append]
  refine ⟨fun same => List.append_inj same (by simp [lengths]), ?_⟩
  rintro ⟨first, second⟩
  rw [first, second]

theorem forall₂_congr_of_mem {α β : Type} {R S : α → β → Prop} {row : List α} {other : List β}
    (same : ∀ a ∈ row, ∀ b, R a b ↔ S a b) :
    List.Forall₂ R row other ↔ List.Forall₂ S row other := by
  induction row generalizing other with
  | nil => simp
  | cons a row ih =>
      rw [List.forall_mem_cons] at same
      cases other with
      | nil => simp
      | cons b other => rw [List.forall₂_cons, List.forall₂_cons, same.1, ih same.2]

/-! ## What spells a part -/

@[simp] theorem UnaryOp.symbol_inj {op op' : UnaryOp} : op.symbol = op'.symbol ↔ op = op' := by
  refine ⟨fun same => ?_, fun same => by rw [same]⟩
  rw [← Option.some.injEq, ← ofSymbol?_symbol op, same, ofSymbol?_symbol]

@[simp] theorem BinaryOp.symbol_inj {op op' : BinaryOp} : op.symbol = op'.symbol ↔ op = op' := by
  refine ⟨fun same => ?_, fun same => by rw [same]⟩
  rw [← Option.some.injEq, ← ofSymbol?_symbol op, same, ofSymbol?_symbol]

theorem Atom.eq_iff {atom atom' : Atom} :
    atom = atom' ↔ atom.kind = atom'.kind ∧ atom.text = atom'.text := by
  refine ⟨fun same => by rw [same]; exact ⟨rfl, rfl⟩, ?_⟩
  rintro ⟨kind, text⟩
  have reads := atom.read_text
  rw [kind, text, atom'.read_text] at reads
  exact (Except.ok.inj reads).symm

theorem Span.eq_iff {span span' : Span} :
    span = span' ↔ span.start = span'.start ∧ span.stop = span'.stop := by
  cases span
  cases span'
  simp

namespace Expr

/-! ## Trees without their units -/

def blank : Source :=
  ⟨0, "", "", by decide⟩

/-- The tree without the units of its leaves and lists. -/
def bare (expr : Expr) : Expr :=
  expr.relocate fun _ => blank

theorem length_carriedSources_of_bare_eq {a b : Expr} (same : a.bare = b.bare) :
    a.carriedSources.length = b.carriedSources.length := by
  have rows := congrArg carriedSources same
  rw [bare, bare, carriedSources_relocate, carriedSources_relocate] at rows
  simpa using congrArg List.length rows

/-- The trees have all but their units in common, and `f` says of the units of the one what `g` says
of those of the other. -/
def Agree {γ : Type} (f g : Source → γ) (a b : Expr) : Prop :=
  a.bare = b.bare ∧ a.carriedSources.map f = b.carriedSources.map g

section Agreement

variable {γ : Type} {f g : Source → γ}

@[simp] theorem agree_leaf {place place' : Place} {atom atom' : Atom} :
    Agree f g (.leaf place atom) (.leaf place' atom') ↔
      atom = atom' ∧ place.span = place'.span ∧ f place.source = g place'.source := by
  simp [Agree, bare, and_assoc, and_left_comm]

@[simp] theorem agree_unary {op op' : UnaryOp} {opOffset opOffset' : Offset}
    {operand operand' : Expr} :
    Agree f g (.unary op opOffset operand) (.unary op' opOffset' operand') ↔
      op = op' ∧ opOffset = opOffset' ∧ Agree f g operand operand' := by
  simp [Agree, bare, and_assoc]

@[simp] theorem agree_binary {lhs lhs' rhs rhs' : Expr} {op op' : BinaryOp}
    {opOffset opOffset' : Offset} :
    Agree f g (.binary lhs op opOffset rhs) (.binary lhs' op' opOffset' rhs') ↔
      op = op' ∧ opOffset = opOffset' ∧ Agree f g lhs lhs' ∧ Agree f g rhs rhs' := by
  simp only [Agree, bare, relocate, Expr.binary.injEq, carriedSources]
  constructor
  · rintro ⟨⟨shape, rfl, rfl, shape'⟩, row⟩
    obtain ⟨first, second⟩ := (map_append_eq_iff (length_carriedSources_of_bare_eq shape)).1 row
    exact ⟨rfl, rfl, ⟨shape, first⟩, shape', second⟩
  · rintro ⟨rfl, rfl, ⟨shape, first⟩, shape', second⟩
    exact ⟨⟨shape, rfl, rfl, shape'⟩,
      (map_append_eq_iff (length_carriedSources_of_bare_eq shape)).2 ⟨first, second⟩⟩

@[simp] theorem agree_conditional
    {thenCase thenCase' condition condition' elseCase elseCase' : Expr} :
    Agree f g (.conditional thenCase condition elseCase)
        (.conditional thenCase' condition' elseCase') ↔
      Agree f g thenCase thenCase' ∧ Agree f g condition condition' ∧
        Agree f g elseCase elseCase' := by
  simp only [Agree, bare, relocate, Expr.conditional.injEq, carriedSources, List.append_assoc]
  constructor
  · rintro ⟨⟨shape, shape', shape''⟩, row⟩
    obtain ⟨first, row⟩ := (map_append_eq_iff (length_carriedSources_of_bare_eq shape)).1 row
    obtain ⟨second, third⟩ := (map_append_eq_iff (length_carriedSources_of_bare_eq shape')).1 row
    exact ⟨⟨shape, first⟩, ⟨shape', second⟩, shape'', third⟩
  · rintro ⟨⟨shape, first⟩, ⟨shape', second⟩, shape'', third⟩
    have rest := (map_append_eq_iff (length_carriedSources_of_bare_eq shape')).2 ⟨second, third⟩
    exact ⟨⟨shape, shape', shape''⟩,
      (map_append_eq_iff (length_carriedSources_of_bare_eq shape)).2 ⟨first, rest⟩⟩

/-- The trees of two rows agree one by one if the rows agree as a whole. -/
theorem forall₂_agree_iff {trees trees' : List Expr} :
    List.Forall₂ (Agree f g) trees trees' ↔ trees.map bare = trees'.map bare ∧
      (trees.flatMap carriedSources).map f = (trees'.flatMap carriedSources).map g := by
  induction trees generalizing trees' with
  | nil => cases trees' <;> simp
  | cons tree trees ih =>
      cases trees' with
      | nil => simp
      | cons tree' trees' =>
          rw [List.forall₂_cons, ih, List.map_cons, List.map_cons, List.cons.injEq,
            List.flatMap_cons, List.flatMap_cons]
          constructor
          · rintro ⟨⟨shape, first⟩, shapes, rest⟩
            have lengths := length_carriedSources_of_bare_eq shape
            exact ⟨⟨shape, shapes⟩, (map_append_eq_iff lengths).2 ⟨first, rest⟩⟩
          · rintro ⟨⟨shape, shapes⟩, row⟩
            have lengths := length_carriedSources_of_bare_eq shape
            obtain ⟨first, rest⟩ := (map_append_eq_iff lengths).1 row
            exact ⟨⟨shape, first⟩, shapes, rest⟩

@[simp] theorem agree_list {place place' : Place} {elements elements' : List Expr} :
    Agree f g (.list place elements) (.list place' elements') ↔ place.span = place'.span ∧
      f place.source = g place'.source ∧ List.Forall₂ (Agree f g) elements elements' := by
  rw [forall₂_agree_iff]
  simp only [Agree, bare, relocate, relocateAll_eq_map, carriedSources,
    carriedSourcesAll_eq_flatMap, Expr.list.injEq, Place.mk.injEq, true_and, List.map_cons,
    List.cons.injEq, and_assoc]
  exact and_congr_right fun _ => and_left_comm

end Agreement

/-! ## Two readings of agreement -/

theorem sameTrees_iff_forall₂ {trees trees' : List Expr} :
    sameTrees trees trees' = true ↔
      List.Forall₂ (fun tree tree' => sameTree tree tree' = true) trees trees' := by
  induction trees generalizing trees' with
  | nil => cases trees' <;> simp
  | cons tree trees ih => cases trees' <;> simp [ih]

/-- Trees are the same if they agree in the names and texts of their units. -/
theorem sameTree_iff_agree {a b : Expr} :
    a.sameTree b = true ↔ Agree Source.toRecord Source.toRecord a b := by
  induction a using Expr.induct generalizing b with
  | leaf place atom =>
      cases b with
      | leaf place' atom' =>
          simp only [sameTree, agree_leaf, Bool.and_eq_true, decide_eq_true_eq]
          rw [Place.SameText, Source.toRecord_eq_iff]
          tauto
      | _ => simp [Agree, bare]
  | unary op opOffset operand ih =>
      cases b with
      | unary op' opOffset' operand' =>
          simp only [sameTree, agree_unary, Bool.and_eq_true, decide_eq_true_eq, ih, and_assoc]
      | _ => simp [Agree, bare]
  | binary lhs op opOffset rhs ihl ihr =>
      cases b with
      | binary lhs' op' opOffset' rhs' =>
          simp only [sameTree, agree_binary, Bool.and_eq_true, decide_eq_true_eq, ihl, ihr]
          tauto
      | _ => simp [Agree, bare]
  | conditional thenCase condition elseCase iht ihc ihe =>
      cases b with
      | conditional thenCase' condition' elseCase' =>
          simp only [sameTree, agree_conditional, Bool.and_eq_true, iht, ihc, ihe, and_assoc]
      | _ => simp [Agree, bare]
  | list place elements ih =>
      cases b with
      | list place' elements' =>
          simp only [sameTree, agree_list, Bool.and_eq_true, decide_eq_true_eq,
            sameTrees_iff_forall₂]
          rw [forall₂_congr_of_mem fun element member b => ih element member, Place.SameText,
            Source.toRecord_eq_iff]
          tauto
      | _ => simp [Agree, bare]

/-- Trees have one record if they agree in the indices of their units. -/
theorem toRecord_eq_iff_agree {table table' : List Source} {a b : Expr} :
    a.toRecord table = b.toRecord table' ↔
      Agree (fun unit => table.idxOf unit) (fun unit => table'.idxOf unit) a b := by
  induction a using Expr.induct generalizing b with
  | leaf place atom =>
      cases b with
      | leaf place' atom' =>
          simp only [toRecord, agree_leaf, Record.leaf.injEq, LeafRecord.mk.injEq, Atom.eq_iff,
            Span.eq_iff]
          tauto
      | _ => simp [Agree, bare]
  | unary op opOffset operand ih =>
      cases b with
      | unary op' opOffset' operand' =>
          simp only [toRecord, agree_unary, Record.unary.injEq, UnaryOp.symbol_inj, ih]
      | _ => simp [Agree, bare]
  | binary lhs op opOffset rhs ihl ihr =>
      cases b with
      | binary lhs' op' opOffset' rhs' =>
          simp only [toRecord, agree_binary, Record.binary.injEq, BinaryOp.symbol_inj, ihl, ihr]
          tauto
      | _ => simp [Agree, bare]
  | conditional thenCase condition elseCase iht ihc ihe =>
      cases b with
      | conditional thenCase' condition' elseCase' =>
          simp only [toRecord, agree_conditional, Record.conditional.injEq, iht, ihc, ihe]
      | _ => simp [Agree, bare]
  | list place elements ih =>
      cases b with
      | list place' elements' =>
          have rows : elements.map (toRecord table) = elements'.map (toRecord table') ↔
              List.Forall₂ (Agree (fun unit => table.idxOf unit) fun unit => table'.idxOf unit)
                elements elements' := by
            rw [← List.forall₂_eq_eq_eq, List.forall₂_map_left_iff, List.forall₂_map_right_iff]
            exact forall₂_congr_of_mem fun element member b => ih element member
          simp only [toRecord, agree_list, Record.list.injEq, toRecords_eq_map, rows, Span.eq_iff]
          tauto
      | _ => simp [Agree, bare]

/-! ## The row of units -/

def unit? : Expr → Option Source
  | .leaf place _ => some place.source
  | .list place _ => some place.source
  | _ => none

/-- The row of units is that of the leaves and lists that a walk meets. -/
theorem carriedSources_eq_filterMap (expr : Expr) :
    expr.carriedSources = expr.preorder.filterMap unit? := by
  induction expr using Expr.induct with
  | leaf place atom => rfl
  | unary op opOffset operand ih => simp [List.filterMap_cons, unit?, ih]
  | binary lhs op opOffset rhs ihl ihr =>
      simp [List.filterMap_cons, unit?, ihl, ihr]
  | conditional thenCase condition elseCase iht ihc ihe =>
      simp [List.filterMap_cons, unit?, iht, ihc, ihe]
  | list place elements ih =>
      simp only [carriedSources, preorder, unit?, carriedSourcesAll_eq_flatMap,
        preorders_eq_flatMap, List.filterMap_cons, List.filterMap_flatMap]
      rw [List.flatMap_congr ih]

theorem relocate_id (expr : Expr) : expr.relocate id = expr := by
  induction expr using Expr.induct with
  | leaf place atom => rfl
  | unary op opOffset operand ih => rw [relocate, ih]
  | binary lhs op opOffset rhs ihl ihr => rw [relocate, ihl, ihr]
  | conditional thenCase condition elseCase iht ihc ihe => rw [relocate, iht, ihc, ihe]
  | list place elements ih =>
      rw [relocate, relocateAll_eq_map, List.map_congr_left ih, List.map_id']
      rfl

end Expr

namespace Document

/-- The root of a tree's document describes the tree over the table of its units. -/
theorem describes_encode (expr : Expr) :
    Record.Describes expr.sourceTable (encode expr).root expr := by
  have entries : ∀ unit ∈ expr.carriedSources,
      expr.sourceTable[expr.sourceTable.idxOf unit]? = some (id unit) :=
    fun unit carried => List.getElem?_idxOf (Expr.mem_sourceTable_iff.2 carried)
  have describes := Expr.describes_toRecord entries
  rw [expr.relocate_id] at describes
  rwa [encode_eq]

/-- The root names every entry of the table, and nothing beyond it. -/
theorem mem_indices_encode_iff (expr : Expr) (index : Nat) :
    index ∈ (encode expr).root.indices ↔ index < (encode expr).sources.length := by
  have row := (describes_encode expr).map_indices
  have length : (encode expr).sources.length = expr.sourceTable.length := by
    rw [encode_eq, List.length_map]
  rw [length]
  constructor
  · intro occurs
    have entry : expr.sourceTable[index]? ∈ expr.carriedSources.map some :=
      row ▸ List.mem_map_of_mem occurs
    obtain ⟨unit, -, found⟩ := List.mem_map.1 entry
    exact (List.getElem?_eq_some_iff.1 found.symm).1
  · intro inside
    have carried : expr.sourceTable[index] ∈ expr.carriedSources :=
      Expr.mem_sourceTable_iff.1 (List.getElem_mem inside)
    have named : some expr.sourceTable[index] ∈
        (encode expr).root.indices.map (expr.sourceTable[·]?) :=
      row ▸ List.mem_map_of_mem carried
    obtain ⟨index', occurs, found⟩ := List.mem_map.1 named
    obtain ⟨inside', same⟩ := List.getElem?_eq_some_iff.1 found
    have once : expr.sourceTable.Nodup :=
      expr.sourceTable_eq_eraseDups ▸ (firstVisits_eraseDups expr.carriedSources).once
    rwa [once.getElem_inj_iff.1 same] at occurs

/-- Two trees have one document exactly if they are the same tree and share their units in the same
pattern. -/
theorem encode_eq_encode_iff (a b : Expr) :
    encode a = encode b ↔ a.sameTree b = true ∧ Expr.SameSharing a b := by
  have numbers : a.toRecord a.sourceTable = b.toRecord b.sourceTable ↔
      a.bare = b.bare ∧ numbering a.carriedSources = numbering b.carriedSources := by
    rw [Expr.toRecord_eq_iff_agree, a.sourceTable_eq_eraseDups, b.sourceTable_eq_eraseDups]
    rfl
  calc encode a = encode b
    _ ↔ a.bare = b.bare ∧
        a.carriedSources.eraseDups.map Source.toRecord =
            b.carriedSources.eraseDups.map Source.toRecord ∧
          numbering a.carriedSources = numbering b.carriedSources := by
      rw [encode_eq, encode_eq, Document.mk.injEq, numbers, a.sourceTable_eq_eraseDups,
        b.sourceTable_eq_eraseDups, and_left_comm]
    _ ↔ a.bare = b.bare ∧
        a.carriedSources.map Source.toRecord = b.carriedSources.map Source.toRecord ∧
          Expr.SameSharing a b := by
      rw [table_and_numbering_eq_iff]
      rfl
    _ ↔ a.sameTree b = true ∧ Expr.SameSharing a b := by
      rw [Expr.sameTree_iff_agree, Expr.Agree, and_assoc]

/-- **The table of a document is exact, and the document is faithful.** The table has one entry for
each unit that a leaf or list of the tree carries, in the order of first visit; the root names every
entry of the table and nothing else, and each leaf and list names the unit that it carries. Two
trees have one document exactly if they are the same tree and share their units in the same
pattern. -/
theorem encode_exact :
    (∀ expr : Expr, ∃ table : List Source,
      FirstVisits (expr.preorder.filterMap Expr.unit?) table ∧
      (encode expr).sources = table.map Source.toRecord ∧
      (∀ index, index ∈ (encode expr).root.indices ↔ index < (encode expr).sources.length) ∧
      Record.Describes table (encode expr).root expr) ∧
    ∀ a b : Expr, encode a = encode b ↔ a.sameTree b = true ∧ Expr.SameSharing a b := by
  refine ⟨fun expr => ⟨expr.sourceTable, ?_, ?_, mem_indices_encode_iff expr,
    describes_encode expr⟩, encode_eq_encode_iff⟩
  · rw [← expr.carriedSources_eq_filterMap, expr.sourceTable_eq_eraseDups]
    exact firstVisits_eraseDups expr.carriedSources
  · rw [encode_eq]

end Document

end ExprTree
