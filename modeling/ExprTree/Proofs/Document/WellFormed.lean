/-
# ExprTree.Proofs.Document.WellFormed — the documents that decoding accepts

Decoding looks at each record by itself, and its makers compare neighbours. What all of this asks
for is said here of a document as a whole (`Document.WellFormed`): its indices are in the table and
name entries that are alike, its operators and the texts of its leaves are readable, and its
offsets, read in source order, never decrease and end inside the text.

One direction goes from the tree: what a record describes has its offsets (`Describes.offsets_eq`)
and the units of its indices (`Describes.map_indices`), and a made tree is ordered and has one text.
For the other, a record whose parts are known describes some tree (`exists_describes`), and the
order of all offsets gives back every comparison that a maker asks for.

Main statement: `exists_toExpr_iff`.
-/
import ExprTree.Proofs.Document.Description
import Mathlib.Tactic.MkIffOfInductiveProp

namespace ExprTree

set_option autoImplicit false

namespace Record

/-! ## What a record spells out -/

mutual

/-- The nodes of a record, each before its parts, the parts in source order. -/
@[simp] def nodes : Record → List Record
  | .leaf parts => [.leaf parts]
  | .unary op opOffset operand => .unary op opOffset operand :: nodes operand
  | .binary lhs op opOffset rhs => .binary lhs op opOffset rhs :: (nodes lhs ++ nodes rhs)
  | .conditional thenCase condition elseCase =>
      .conditional thenCase condition elseCase ::
        (nodes thenCase ++ (nodes condition ++ nodes elseCase))
  | .list source start elements stop => .list source start elements stop :: nodesAll elements

def nodesAll : List Record → List Record
  | [] => []
  | record :: rest => nodes record ++ nodesAll rest

end

mutual

/-- The offsets that a record names, in source order. -/
@[simp] def offsets : Record → List Offset
  | .leaf parts => [parts.start, parts.stop]
  | .unary _ opOffset operand => opOffset :: offsets operand
  | .binary lhs _ opOffset rhs => offsets lhs ++ opOffset :: offsets rhs
  | .conditional thenCase condition elseCase =>
      offsets thenCase ++ (offsets condition ++ offsets elseCase)
  | .list _ start elements stop => start :: (offsetsAll elements ++ [stop])

def offsetsAll : List Record → List Offset
  | [] => []
  | record :: rest => offsets record ++ offsetsAll rest

end

/-- The index by which a leaf or a list names its source. -/
def index? : Record → Option Nat
  | .leaf parts => some parts.source
  | .list source _ _ _ => some source
  | _ => none

def indices (record : Record) : List Nat :=
  record.nodes.filterMap index?

/-- The operator of a node is in its table, and the text of a leaf is one that its kind accepts. -/
def Readable : Record → Prop
  | .leaf parts => (Atom.read parts.kind parts.text).isOk
  | .unary op _ _ => op ∈ UnaryOp.all.map UnaryOp.symbol
  | .binary _ op _ _ => op ∈ BinaryOp.all.map BinaryOp.symbol
  | .conditional _ _ _ => True
  | .list _ _ _ _ => True

instance : DecidablePred Readable
  | .leaf parts => inferInstanceAs (Decidable ((Atom.read parts.kind parts.text).isOk = true))
  | .unary op _ _ => inferInstanceAs (Decidable (op ∈ UnaryOp.all.map UnaryOp.symbol))
  | .binary _ op _ _ => inferInstanceAs (Decidable (op ∈ BinaryOp.all.map BinaryOp.symbol))
  | .conditional _ _ _ => isTrue trivial
  | .list _ _ _ _ => isTrue trivial

@[simp] theorem nodesAll_eq_flatMap (records : List Record) :
    nodesAll records = records.flatMap nodes := by
  induction records with
  | nil => rfl
  | cons record rest ih => simp [nodesAll, ih]

@[simp] theorem offsetsAll_eq_flatMap (records : List Record) :
    offsetsAll records = records.flatMap offsets := by
  induction records with
  | nil => rfl
  | cons record rest ih => simp [offsetsAll, ih]

@[simp] theorem indices_leaf (parts : LeafRecord) : (Record.leaf parts).indices = [parts.source] :=
  rfl

@[simp] theorem indices_unary (op : String) (opOffset : Offset) (operand : Record) :
    (Record.unary op opOffset operand).indices = operand.indices := rfl

@[simp] theorem indices_binary (lhs rhs : Record) (op : String) (opOffset : Offset) :
    (Record.binary lhs op opOffset rhs).indices = lhs.indices ++ rhs.indices :=
  List.filterMap_append

@[simp] theorem indices_conditional (thenCase condition elseCase : Record) :
    (Record.conditional thenCase condition elseCase).indices =
      thenCase.indices ++ (condition.indices ++ elseCase.indices) := by
  show (thenCase.nodes ++ (condition.nodes ++ elseCase.nodes)).filterMap index? = _
  rw [List.filterMap_append, List.filterMap_append]
  rfl

@[simp] theorem indices_list (source : Nat) (start stop : Offset) (elements : List Record) :
    (Record.list source start elements stop).indices = source :: elements.flatMap indices := by
  show source :: (nodesAll elements).filterMap index? = _
  rw [nodesAll_eq_flatMap, List.filterMap_flatMap]
  rfl

section Indices

variable {property : Nat → Prop}

theorem forall_indices_leaf {parts : LeafRecord} :
    (∀ index ∈ (Record.leaf parts).indices, property index) ↔ property parts.source := by
  simp

theorem forall_indices_binary {lhs rhs : Record} {op : String} {opOffset : Offset} :
    (∀ index ∈ (Record.binary lhs op opOffset rhs).indices, property index) ↔
      (∀ index ∈ lhs.indices, property index) ∧ ∀ index ∈ rhs.indices, property index := by
  rw [indices_binary, List.forall_mem_append]

theorem forall_indices_conditional {thenCase condition elseCase : Record} :
    (∀ index ∈ (Record.conditional thenCase condition elseCase).indices, property index) ↔
      (∀ index ∈ thenCase.indices, property index) ∧
        (∀ index ∈ condition.indices, property index) ∧
          ∀ index ∈ elseCase.indices, property index := by
  rw [indices_conditional, List.forall_mem_append, List.forall_mem_append]

theorem forall_indices_list {source : Nat} {start stop : Offset} {elements : List Record} :
    (∀ index ∈ (Record.list source start elements stop).indices, property index) ↔
      property source ∧ ∀ element ∈ elements, ∀ index ∈ element.indices, property index := by
  rw [indices_list, List.forall_mem_cons, List.forall_mem_flatMap]

end Indices

end Record

/-- What decoding asks of a document. -/
@[mk_iff]
structure Document.WellFormed (document : Document) : Prop where
  /-- Every index is in the table. -/
  known : ∀ index ∈ document.root.indices, index < document.sources.length
  /-- Any two indices name the same file and the same text. -/
  oneText : ∀ index ∈ document.root.indices, ∀ other ∈ document.root.indices,
    document.sources[index]? = document.sources[other]?
  readable : ∀ node ∈ document.root.nodes, node.Readable
  /-- The offsets never decrease. -/
  sorted : document.root.offsets.Pairwise (· ≤ ·)
  /-- The last offset is no larger than the text is long. -/
  within : ∀ index ∈ document.root.indices, ∀ source ∈ document.sources[index]?,
    ∀ last ∈ document.root.offsets.getLast?.map UInt32.toNat, last ≤ source.text.utf8ByteSize

instance (document : Document) : Decidable document.WellFormed :=
  decidable_of_iff _ (Document.wellFormed_iff document).symm

/-! ## What a description shows -/

namespace Record

variable {sources : List Source}

theorem Describes.offsets_eq {record : Record} {tree : Expr}
    (describes : Describes sources record tree) : tree.offsets = record.offsets := by
  refine Describes.induct (motive := fun record tree => tree.offsets = record.offsets)
    ?leaf ?unary ?binary ?conditional ?list describes
  case leaf =>
    intro index place atom entry
    rfl
  case unary =>
    intro op opOffset operand tree ih
    simp [ih]
  case binary =>
    intro op opOffset lhs rhs lhsTree rhsTree ihl ihr
    simp [ihl, ihr]
  case conditional =>
    intro thenCase condition elseCase thenTree conditionTree elseTree iht ihc ihe
    simp [iht, ihc, ihe]
  case list =>
    intro index place elements trees entry each
    have row : trees.flatMap Expr.offsets = elements.flatMap offsets := by
      induction each with
      | nil => rfl
      | cons first _ ih => simp [first, ih]
    simp [row]

/-- The units of a tree are those that the indices of its record name. -/
theorem Describes.map_indices {record : Record} {tree : Expr}
    (describes : Describes sources record tree) :
    record.indices.map (sources[·]?) = tree.carriedSources.map some := by
  refine Describes.induct
    (motive := fun record tree => record.indices.map (sources[·]?) = tree.carriedSources.map some)
    ?leaf ?unary ?binary ?conditional ?list describes
  case leaf =>
    intro index place atom entry
    simp [entry]
  case unary =>
    intro op opOffset operand tree ih
    simp [ih]
  case binary =>
    intro op opOffset lhs rhs lhsTree rhsTree ihl ihr
    simp [ihl, ihr]
  case conditional =>
    intro thenCase condition elseCase thenTree conditionTree elseTree iht ihc ihe
    simp [iht, ihc, ihe]
  case list =>
    intro index place elements trees entry each
    have row : (elements.flatMap indices).map (sources[·]?) =
        (trees.flatMap Expr.carriedSources).map some := by
      induction each with
      | nil => rfl
      | cons first _ ih =>
          rw [List.flatMap_cons, List.map_append, first, ih, ← List.map_append, List.flatMap_cons]
    rw [indices_list, List.map_cons, entry, row]
    simp

/-- What holds of the units that the indices of a record name holds of the units of the tree. -/
theorem Describes.forall_indices_iff {record : Record} {tree : Expr}
    (describes : Describes sources record tree) (property : Option Source → Prop) :
    (∀ index ∈ record.indices, property sources[index]?) ↔
      ∀ unit ∈ tree.carriedSources, property (some unit) := by
  rw [← List.forall_mem_map (P := property) (f := (sources[·]?)), describes.map_indices,
    List.forall_mem_map]

/-- The indices of a record that describes a tree are known. -/
theorem Describes.exists_unit {record : Record} {tree : Expr}
    (describes : Describes sources record tree) {index : Nat} (occurs : index ∈ record.indices) :
    ∃ unit, sources[index]? = some unit := by
  have found := (describes.forall_indices_iff fun unit? => unit?.isSome).2 fun _ _ => rfl
  exact Option.isSome_iff_exists.1 (found index occurs)

/-- The tree has the units that the indices name. -/
theorem Describes.mem_carriedSources {record : Record} {tree : Expr}
    (describes : Describes sources record tree) {index : Nat} (occurs : index ∈ record.indices)
    {unit : Source} (entry : sources[index]? = some unit) : unit ∈ tree.carriedSources := by
  have named : some unit ∈ tree.carriedSources.map some := by
    rw [← describes.map_indices, ← entry]
    exact List.mem_map_of_mem occurs
  obtain ⟨_, carried, same⟩ := List.mem_map.1 named
  cases same
  exact carried

/-- The units of a tree are among those that its record is read over. -/
theorem Describes.carriedSources_subset {record : Record} {tree : Expr}
    (describes : Describes sources record tree) :
    tree.carriedSources ⊆ sources := by
  intro unit carried
  have named := List.mem_map_of_mem (f := some) carried
  rw [← describes.map_indices] at named
  obtain ⟨index, -, entry⟩ := List.mem_map.1 named
  exact List.mem_of_getElem? entry

/-- What describes a tree is readable. -/
theorem Describes.readable {record : Record} {tree : Expr}
    (describes : Describes sources record tree) : ∀ node ∈ record.nodes, node.Readable := by
  refine Describes.induct (motive := fun record _ => ∀ node ∈ record.nodes, node.Readable)
    ?leaf ?unary ?binary ?conditional ?list describes
  case leaf =>
    intro index place atom entry
    have reads : (Atom.read atom.kind atom.text).isOk := by
      rw [atom.read_text]
      rfl
    simpa [Readable] using reads
  case unary =>
    intro op opOffset operand tree ih
    have known : op ∈ UnaryOp.all := by cases op <;> decide
    exact List.forall_mem_cons.2 ⟨List.mem_map_of_mem known, ih⟩
  case binary =>
    intro op opOffset lhs rhs lhsTree rhsTree ihl ihr
    have known : op ∈ BinaryOp.all := by cases op <;> decide
    exact List.forall_mem_cons.2 ⟨List.mem_map_of_mem known, List.forall_mem_append.2 ⟨ihl, ihr⟩⟩
  case conditional =>
    intro thenCase condition elseCase thenTree conditionTree elseTree iht ihc ihe
    exact List.forall_mem_cons.2 ⟨trivial,
      List.forall_mem_append.2 ⟨iht, List.forall_mem_append.2 ⟨ihc, ihe⟩⟩⟩
  case list =>
    intro index place elements trees entry each
    refine List.forall_mem_cons.2 ⟨trivial, ?_⟩
    rw [nodesAll_eq_flatMap, List.forall_mem_flatMap]
    induction each with
    | nil => simp
    | cons first _ ih => exact List.forall_mem_cons.2 ⟨first, ih⟩

/-! ## What a readable record describes -/

theorem exists_forall₂ {α β : Type} {relation : α → β → Prop} {row : List α}
    (each : ∀ a ∈ row, ∃ b, relation a b) : ∃ others, List.Forall₂ relation row others := by
  induction row with
  | nil => exact ⟨[], .nil⟩
  | cons a rest ih =>
      obtain ⟨⟨b, first⟩, later⟩ := List.forall_mem_cons.1 each
      obtain ⟨others, row⟩ := ih later
      exact ⟨b :: others, .cons first row⟩

/-- A readable record describes some tree, if its indices are known and its offsets are in order. -/
theorem exists_describes {record : Record}
    (known : ∀ index ∈ record.indices, index < sources.length)
    (readable : ∀ node ∈ record.nodes, node.Readable)
    (sorted : record.offsets.Pairwise (· ≤ ·)) : ∃ tree, Describes sources record tree := by
  induction record using Record.induct with
  | leaf parts =>
      have entry := List.getElem?_eq_getElem (known parts.source (by simp))
      have reads : (Atom.read parts.kind parts.text).isOk :=
        readable (.leaf parts) (by simp)
      cases read : Atom.read parts.kind parts.text with
      | error fault =>
          rw [read] at reads
          cases reads
      | ok atom =>
          obtain ⟨sort, spelled⟩ := Atom.read_eq_ok_iff.1 read
          have ordered : parts.start ≤ parts.stop := by simpa using sorted
          obtain ⟨kind, index, start, text, stop⟩ := parts
          simp only at sort spelled
          subst sort spelled
          exact ⟨_, .leaf ⟨_, ⟨start, stop, ordered⟩⟩ entry⟩
  | unary op opOffset operand ih =>
      rw [nodes, List.forall_mem_cons] at readable
      obtain ⟨symbol, readable⟩ := readable
      rw [offsets, List.pairwise_cons] at sorted
      obtain ⟨known', -, rfl⟩ := List.mem_map.1 symbol
      obtain ⟨tree, describes⟩ := ih known readable sorted.2
      exact ⟨_, .unary describes⟩
  | binary lhs op opOffset rhs ihl ihr =>
      rw [forall_indices_binary] at known
      rw [nodes, List.forall_mem_cons, List.forall_mem_append] at readable
      obtain ⟨symbol, readableL, readableR⟩ := readable
      rw [offsets, List.pairwise_append, List.pairwise_cons] at sorted
      obtain ⟨known', -, rfl⟩ := List.mem_map.1 symbol
      obtain ⟨lhsTree, lhsDescribes⟩ := ihl known.1 readableL sorted.1
      obtain ⟨rhsTree, rhsDescribes⟩ := ihr known.2 readableR sorted.2.1.2
      exact ⟨_, .binary lhsDescribes rhsDescribes⟩
  | conditional thenCase condition elseCase iht ihc ihe =>
      rw [forall_indices_conditional] at known
      rw [nodes, List.forall_mem_cons, List.forall_mem_append, List.forall_mem_append] at readable
      obtain ⟨-, readableT, readableC, readableE⟩ := readable
      rw [offsets, List.pairwise_append, List.pairwise_append] at sorted
      obtain ⟨sortedT, ⟨sortedC, sortedE, -⟩, -⟩ := sorted
      obtain ⟨thenTree, thenDescribes⟩ := iht known.1 readableT sortedT
      obtain ⟨conditionTree, conditionDescribes⟩ := ihc known.2.1 readableC sortedC
      obtain ⟨elseTree, elseDescribes⟩ := ihe known.2.2 readableE sortedE
      exact ⟨_, .conditional thenDescribes conditionDescribes elseDescribes⟩
  | list index start elements stop ih =>
      rw [forall_indices_list] at known
      rw [nodes, List.forall_mem_cons, nodesAll_eq_flatMap, List.forall_mem_flatMap] at readable
      rw [offsets, List.pairwise_cons, List.pairwise_append, offsetsAll_eq_flatMap,
        List.pairwise_flatMap] at sorted
      obtain ⟨first, ⟨elementsSorted, -⟩, -⟩ := sorted
      have ordered : start ≤ stop := first stop (by simp)
      have entry := List.getElem?_eq_getElem known.1
      obtain ⟨trees, describes⟩ := exists_forall₂ fun element member =>
        ih element member (known.2 element member) (readable.2 element member)
          (elementsSorted element member)
      exact ⟨_, .list ⟨_, ⟨start, stop, ordered⟩⟩ entry describes⟩

end Record

/-! ## Where a tree ends -/

namespace Expr

/-- Leaves and lists end inside their sources when no offset is beyond a bound and no source ends
before it. -/
theorem within_of_offsets_le {expr : Expr} {bound : Offset}
    (below : ∀ offset ∈ expr.offsets, offset ≤ bound)
    (above : ∀ unit ∈ expr.carriedSources, bound ≤ unit.length) :
    expr.Everywhere LeafWithin ∧ expr.Everywhere ListWithin := by
  induction expr using Expr.induct with
  | leaf place atom =>
      rw [everywhere_leaf, everywhere_leaf]
      have ends := below place.span.stop (by simp)
      have fits := above place.source (by simp)
      exact ⟨UInt32.le_trans ends fits, trivial⟩
  | unary op opOffset operand ih =>
      rw [everywhere_unary, everywhere_unary]
      rw [offsets, List.forall_mem_cons] at below
      obtain ⟨leaves, lists⟩ := ih below.2 above
      exact ⟨⟨trivial, leaves⟩, trivial, lists⟩
  | binary lhs op opOffset rhs ihl ihr =>
      rw [everywhere_binary, everywhere_binary]
      rw [offsets, List.forall_mem_append, List.forall_mem_cons] at below
      rw [carriedSources, List.forall_mem_append] at above
      obtain ⟨leavesL, listsL⟩ := ihl below.1 above.1
      obtain ⟨leavesR, listsR⟩ := ihr below.2.2 above.2
      exact ⟨⟨trivial, leavesL, leavesR⟩, trivial, listsL, listsR⟩
  | conditional thenCase condition elseCase iht ihc ihe =>
      rw [everywhere_conditional, everywhere_conditional]
      rw [offsets, List.forall_mem_append, List.forall_mem_append] at below
      rw [carriedSources, List.forall_mem_append, List.forall_mem_append] at above
      obtain ⟨leavesT, listsT⟩ := iht below.1 above.1.1
      obtain ⟨leavesC, listsC⟩ := ihc below.2.1 above.1.2
      obtain ⟨leavesE, listsE⟩ := ihe below.2.2 above.2
      exact ⟨⟨trivial, leavesT, leavesC, leavesE⟩, trivial, listsT, listsC, listsE⟩
  | list place elements ih =>
      rw [everywhere_list, everywhere_list]
      rw [offsets, List.forall_mem_cons, List.forall_mem_append, offsetsAll_eq_flatMap,
        List.forall_mem_flatMap] at below
      rw [carriedSources, List.forall_mem_cons, carriedSourcesAll_eq_flatMap,
        List.forall_mem_flatMap] at above
      obtain ⟨-, belowElements, belowStop⟩ := below
      have each element member := ih element member (belowElements element member)
        (above.2 element member)
      exact ⟨⟨trivial, fun element member => (each element member).1⟩,
        UInt32.le_trans (belowStop _ (by simp)) above.1,
        fun element member => (each element member).2⟩

/-- A tree whose leaves and lists end inside one text ends inside it. -/
theorem stop_le_length {expr : Expr} (one : expr.OneText) (leaves : expr.Everywhere LeafWithin)
    (lists : expr.Everywhere ListWithin) : expr.stop ≤ expr.source.length := by
  induction expr using Expr.induct with
  | leaf place atom => exact everywhere_leaf.1 leaves
  | unary op opOffset operand ih =>
      exact ih (oneText_unary.1 one) (everywhere_unary.1 leaves).2 (everywhere_unary.1 lists).2
  | binary lhs op opOffset rhs ihl ihr =>
      obtain ⟨-, oneR, same⟩ := oneText_binary.1 one
      rw [source, same.length_eq]
      exact ihr oneR (everywhere_binary.1 leaves).2.2 (everywhere_binary.1 lists).2.2
  | conditional thenCase condition elseCase iht ihc ihe =>
      obtain ⟨-, -, oneE, -, same⟩ := oneText_conditional.1 one
      rw [source, same.length_eq]
      exact ihe oneE (everywhere_conditional.1 leaves).2.2.2 (everywhere_conditional.1 lists).2.2.2
  | list place elements ih => exact (everywhere_list.1 lists).1

/-- In an ordered tree of one text, the leaves and lists end inside it exactly if the tree does. -/
theorem within_iff {expr : Expr} (ordered : expr.Ordered) (one : expr.OneText) :
    expr.Everywhere LeafWithin ∧ expr.Everywhere ListWithin ↔ expr.stop ≤ expr.source.length := by
  constructor
  · rintro ⟨leaves, lists⟩
    exact stop_le_length one leaves lists
  · intro inside
    refine within_of_offsets_le ordered.le_stop fun unit carried => ?_
    rw [← (one unit carried).length_eq]
    exact inside

theorem oneText_iff_forall {expr : Expr} :
    expr.OneText ↔ ∀ unit ∈ expr.carriedSources, ∀ other ∈ expr.carriedSources,
      unit.SameText other := by
  constructor
  · intro one unit carried other carried'
    exact (one unit carried).symm.trans (one other carried')
  · intro same
    exact same expr.source expr.source_mem_carriedSources

end Expr

theorem Source.toRecord_eq_iff {a b : Source} : a.toRecord = b.toRecord ↔ a.SameText b := by
  rw [toRecord, toRecord, SourceRecord.mk.injEq, SameText]

namespace Record

/-! ## What decoding accepts -/

variable {sources : List Source}

/-- What describes a tree is well-formed exactly if the makers make the tree and its leaves end
inside their sources. -/
theorem Describes.wellFormed_iff {record : Record} {tree : Expr}
    (describes : Describes sources record tree) :
    Document.WellFormed ⟨sources.map Source.toRecord, record⟩ ↔
      tree.Made ∧ tree.Everywhere Expr.LeafWithin := by
  have sorted : record.offsets.Pairwise (· ≤ ·) ↔ tree.Ordered := by
    rw [Expr.Ordered, describes.offsets_eq]
  have oneText : (∀ index ∈ record.indices, ∀ other ∈ record.indices,
      (sources.map Source.toRecord)[index]? = (sources.map Source.toRecord)[other]?) ↔
      tree.OneText := by
    simp only [List.getElem?_map]
    rw [describes.forall_indices_iff fun unit? => ∀ other ∈ record.indices,
      unit?.map Source.toRecord = sources[other]?.map Source.toRecord, Expr.oneText_iff_forall]
    refine forall₂_congr fun unit _ => ?_
    rw [describes.forall_indices_iff fun other? =>
      (some unit).map Source.toRecord = other?.map Source.toRecord]
    simp only [Option.map_some, Option.some.injEq, Source.toRecord_eq_iff]
  have within : (∀ index ∈ record.indices, ∀ source ∈ (sources.map Source.toRecord)[index]?,
      ∀ last ∈ record.offsets.getLast?.map UInt32.toNat, last ≤ source.text.utf8ByteSize) ↔
      ∀ unit ∈ tree.carriedSources, tree.stop ≤ unit.length := by
    rw [← describes.offsets_eq, Expr.getLast?_offsets]
    simp only [Option.map_some, Option.mem_def, Option.some.injEq, forall_eq', List.getElem?_map]
    rw [describes.forall_indices_iff fun unit? => ∀ source,
      unit?.map Source.toRecord = some source → tree.stop.toNat ≤ source.text.utf8ByteSize]
    simp only [Option.map_some, Option.some.injEq, forall_eq', UInt32.le_iff_toNat_le,
      Source.toNat_length, Source.toRecord]
  rw [Document.wellFormed_iff, Expr.made_iff]
  simp only [sorted, oneText, within]
  constructor
  · rintro ⟨-, one, -, ordered, inside⟩
    obtain ⟨leaves, lists⟩ := (Expr.within_iff ordered one).2
      (inside _ tree.source_mem_carriedSources)
    exact ⟨⟨ordered, one, lists⟩, leaves⟩
  · rintro ⟨⟨ordered, one, lists⟩, leaves⟩
    have inside := (Expr.within_iff ordered one).1 ⟨leaves, lists⟩
    refine ⟨?_, one, describes.readable, ordered, fun unit carried => ?_⟩
    · intro index occurs
      obtain ⟨unit, entry⟩ := describes.exists_unit occurs
      rw [List.length_map]
      exact (List.getElem?_eq_some_iff.1 entry).1
    · rw [← (one unit carried).length_eq]
      exact inside

/-- Decoding a record gives a tree exactly if the record is well-formed over its sources. -/
theorem exists_toExpr_iff {record : Record} :
    (∃ tree, record.toExpr sources = .ok tree) ↔
      Document.WellFormed ⟨sources.map Source.toRecord, record⟩ := by
  constructor
  · rintro ⟨tree, decoded⟩
    obtain ⟨describes, made, within⟩ := toExpr_eq_ok_iff.1 decoded
    exact describes.wellFormed_iff.2 ⟨made, within⟩
  · intro wellFormed
    have known : ∀ index ∈ record.indices, index < sources.length := by
      intro index occurs
      have inTable := wellFormed.known index occurs
      rwa [List.length_map] at inTable
    obtain ⟨tree, describes⟩ := exists_describes known wellFormed.readable wellFormed.sorted
    obtain ⟨made, within⟩ := describes.wellFormed_iff.1 wellFormed
    exact ⟨tree, toExpr_of_describes describes made within⟩

end Record

end ExprTree
