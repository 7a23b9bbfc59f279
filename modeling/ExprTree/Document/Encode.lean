/-
# ExprTree.Document.Encode — documents of trees

The source table of a tree holds each source unit of its leaves and lists once, in the order in
which a walk meets them; a list is met before its elements. Two units are one entry only if they are
the same unit: the same text registered twice makes two entries.

Encoding is one walk. It writes the record and enters units into a table as it meets them, so an
index is written while the table is still growing (`Expr.encode`). The table and the record can be
had one after the other as well, `Expr.sourceTable` and then `Expr.toRecord`.

Main statement: `Document.encode_eq`, both ways give the same document.
-/
import ExprTree.Document.Basic
import ExprTree.Expr.Basic

namespace ExprTree

set_option autoImplicit false

namespace Expr

mutual

/-- The source units of the leaves and lists of a tree, in the order of a walk. -/
@[simp] def carriedSources : Expr → List Source
  | .leaf place _ => [place.source]
  | .unary _ _ operand => carriedSources operand
  | .binary lhs _ _ rhs => carriedSources lhs ++ carriedSources rhs
  | .conditional thenCase condition elseCase =>
      carriedSources thenCase ++ carriedSources condition ++ carriedSources elseCase
  | .list place elements => place.source :: carriedSourcesAll elements

def carriedSourcesAll : List Expr → List Source
  | [] => []
  | tree :: trees => carriedSources tree ++ carriedSourcesAll trees

end

@[simp] theorem carriedSourcesAll_eq_flatMap (trees : List Expr) :
    carriedSourcesAll trees = trees.flatMap carriedSources := by
  induction trees with
  | nil => rfl
  | cons tree trees ih => simp [carriedSourcesAll, ih]

/-- Enters a unit into a table, unless it is there. -/
def enter (table : List Source) (source : Source) : List Source :=
  if source ∈ table then table else table ++ [source]

/-- The source units of a tree, each once, in the order of first visit. -/
def sourceTable (expr : Expr) : List Source :=
  expr.carriedSources.foldl enter []

mutual

/-- The record of a tree, its sources being entries of the table. -/
@[simp] def toRecord (table : List Source) : Expr → Record
  | .leaf place atom =>
      .leaf ⟨atom.kind, table.idxOf place.source, place.span.start, atom.text, place.span.stop⟩
  | .unary op opOffset operand => .unary op.symbol opOffset (toRecord table operand)
  | .binary lhs op opOffset rhs =>
      .binary (toRecord table lhs) op.symbol opOffset (toRecord table rhs)
  | .conditional thenCase condition elseCase =>
      .conditional (toRecord table thenCase) (toRecord table condition) (toRecord table elseCase)
  | .list place elements =>
      .list (table.idxOf place.source) place.span.start (toRecords table elements) place.span.stop

def toRecords (table : List Source) : List Expr → List Record
  | [] => []
  | tree :: trees => toRecord table tree :: toRecords table trees

end

@[simp] theorem toRecords_eq_map (table : List Source) (trees : List Expr) :
    toRecords table trees = trees.map (toRecord table) := by
  induction trees with
  | nil => rfl
  | cons tree trees ih => simp [toRecords, ih]

/-- Enters a unit, and gives its index. -/
def enterAt (source : Source) : StateM (List Source) Nat :=
  modifyGet fun table => ((enter table source).idxOf source, enter table source)

mutual

/-- The record of a tree; its sources are entered into a table that grows on the way. -/
def encode : Expr → StateM (List Source) Record
  | .leaf place atom => do
      let index ← enterAt place.source
      pure (.leaf ⟨atom.kind, index, place.span.start, atom.text, place.span.stop⟩)
  | .unary op opOffset operand => do
      let operand ← encode operand
      pure (.unary op.symbol opOffset operand)
  | .binary lhs op opOffset rhs => do
      let lhs ← encode lhs
      let rhs ← encode rhs
      pure (.binary lhs op.symbol opOffset rhs)
  | .conditional thenCase condition elseCase => do
      let thenCase ← encode thenCase
      let condition ← encode condition
      let elseCase ← encode elseCase
      pure (.conditional thenCase condition elseCase)
  | .list place elements => do
      let index ← enterAt place.source
      let elements ← encodeAll elements
      pure (.list index place.span.start elements place.span.stop)

def encodeAll : List Expr → StateM (List Source) (List Record)
  | [] => pure []
  | tree :: trees => do
      let record ← encode tree
      let records ← encodeAll trees
      pure (record :: records)

end

/-! ### The walk does both at once -/

theorem subset_enter (table : List Source) (source : Source) : table ⊆ enter table source := by
  unfold enter
  split
  · exact List.Subset.refl _
  · exact List.subset_append_left _ _

theorem mem_enter (table : List Source) (source : Source) : source ∈ enter table source := by
  unfold enter
  split
  next known => exact known
  next => simp

theorem idxOf_enter {table : List Source} {unit : Source} (known : unit ∈ table)
    (source : Source) : (enter table source).idxOf unit = table.idxOf unit := by
  unfold enter
  split
  · rfl
  · rw [List.idxOf_append, if_pos known]

theorem subset_foldl_enter (row table : List Source) : table ⊆ row.foldl enter table := by
  induction row generalizing table with
  | nil => exact List.Subset.refl _
  | cons source row ih => exact List.Subset.trans (subset_enter table source) (ih _)

theorem mem_foldl_enter {row : List Source} {unit : Source} (member : unit ∈ row)
    (table : List Source) : unit ∈ row.foldl enter table := by
  induction row generalizing table with
  | nil => cases member
  | cons source row ih =>
      cases member with
      | head => exact subset_foldl_enter row _ (mem_enter table unit)
      | tail _ later => exact ih later _

/-- An index stays as it is while further units are entered. -/
theorem idxOf_foldl_enter {table : List Source} {unit : Source} (known : unit ∈ table)
    (row : List Source) : (row.foldl enter table).idxOf unit = table.idxOf unit := by
  induction row generalizing table with
  | nil => rfl
  | cons source row ih =>
      rw [List.foldl_cons, ih (subset_enter table source known), idxOf_enter known]

/-- The record of a tree stays as it is while further units are entered. -/
theorem toRecord_foldl_enter {expr : Expr} {table : List Source}
    (known : ∀ unit ∈ expr.carriedSources, unit ∈ table) (row : List Source) :
    toRecord (row.foldl enter table) expr = toRecord table expr := by
  induction expr using Expr.induct with
  | leaf place atom =>
      rw [toRecord, toRecord, idxOf_foldl_enter (known _ (by simp))]
  | unary op opOffset operand ih => rw [toRecord, toRecord, ih known]
  | binary lhs op opOffset rhs ihl ihr =>
      rw [carriedSources, List.forall_mem_append] at known
      rw [toRecord, toRecord, ihl known.1, ihr known.2]
  | conditional thenCase condition elseCase iht ihc ihe =>
      rw [carriedSources, List.forall_mem_append, List.forall_mem_append] at known
      rw [toRecord, toRecord, iht known.1.1, ihc known.1.2, ihe known.2]
  | list place elements ih =>
      rw [carriedSources, List.forall_mem_cons, carriedSourcesAll_eq_flatMap,
        List.forall_mem_flatMap] at known
      rw [toRecord, toRecord, idxOf_foldl_enter known.1, toRecords_eq_map, toRecords_eq_map]
      rw [List.map_congr_left fun element member => ih element member (known.2 element member)]

/-- A record is settled once the units of its tree have been entered. -/
theorem toRecord_foldl_enter_append (expr : Expr) (row table : List Source) :
    toRecord (row.foldl enter (expr.carriedSources.foldl enter table)) expr =
      toRecord (expr.carriedSources.foldl enter table) expr :=
  toRecord_foldl_enter (fun _ carried => mem_foldl_enter carried table) row

theorem run_enterAt (source : Source) (table : List Source) :
    (enterAt source).run table = ((enter table source).idxOf source, enter table source) :=
  rfl

theorem run_encodeAll {trees : List Expr} (each : ∀ tree ∈ trees, ∀ table : List Source,
      (encode tree).run table =
        (toRecord (tree.carriedSources.foldl enter table) tree,
          tree.carriedSources.foldl enter table)) (table : List Source) :
    (encodeAll trees).run table =
      (toRecords ((carriedSourcesAll trees).foldl enter table) trees,
        (carriedSourcesAll trees).foldl enter table) := by
  induction trees generalizing table with
  | nil => rfl
  | cons tree trees ih =>
      rw [List.forall_mem_cons] at each
      simp only [encodeAll, carriedSourcesAll, toRecords, List.foldl_append, StateT.run_bind,
        StateT.run_pure, each.1, ih each.2]
      rw [toRecord_foldl_enter_append]
      rfl

/-- The walk leaves the table that all units of the tree have been entered into, and writes the
record that this table gives. -/
theorem run_encode (expr : Expr) (table : List Source) :
    (encode expr).run table =
      (toRecord (expr.carriedSources.foldl enter table) expr,
        expr.carriedSources.foldl enter table) := by
  induction expr using Expr.induct generalizing table with
  | leaf place atom => rfl
  | unary op opOffset operand ih =>
      simp only [encode, carriedSources, toRecord, StateT.run_bind, StateT.run_pure, ih]
      rfl
  | binary lhs op opOffset rhs ihl ihr =>
      simp only [encode, carriedSources, toRecord, List.foldl_append, StateT.run_bind,
        StateT.run_pure, ihl, ihr]
      rw [toRecord_foldl_enter_append]
      rfl
  | conditional thenCase condition elseCase iht ihc ihe =>
      simp only [encode, carriedSources, toRecord, List.foldl_append, StateT.run_bind,
        StateT.run_pure, iht, ihc, ihe]
      rw [toRecord_foldl_enter_append condition, ← List.foldl_append,
        toRecord_foldl_enter_append thenCase, List.foldl_append]
      rfl
  | list place elements ih =>
      simp only [encode, carriedSources, toRecord, List.foldl_cons, StateT.run_bind,
        StateT.run_pure, run_encodeAll ih, run_enterAt]
      rw [idxOf_foldl_enter (mem_enter table place.source)]
      rfl

end Expr

def Source.toRecord (source : Source) : SourceRecord :=
  ⟨source.file, source.text⟩

def Document.encode (expr : Expr) : Document :=
  let (root, table) := expr.encode.run []
  ⟨table.map Source.toRecord, root⟩

/-- The document of a tree holds its table and the record that the table gives. -/
theorem Document.encode_eq (expr : Expr) :
    encode expr = ⟨expr.sourceTable.map Source.toRecord, expr.toRecord expr.sourceTable⟩ := by
  rw [encode, Expr.run_encode]
  rfl

end ExprTree
