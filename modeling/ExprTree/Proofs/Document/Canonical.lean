/-
# ExprTree.Proofs.Document.Canonical — documents up to the numbering of their sources

A document may hold its sources in any order, and may hold some that nothing in it names. Two
documents that differ in no more than that are rearrangements of one another
(`Document.Rearranged`); the canonical one among them numbers the sources that the root names by
first visit and holds no others (`Document.canonical`). All of this goes by indices, so entries that
are alike stay apart.

Main statements: `canonical_eq_of_rearranged`, rearranged documents have one canonical document,
`encode_eq_canonical`, encoding a decoded tree gives the canonical document, and `encode_decode`,
which adds that rearranged documents decode to the same tree.
-/
import ExprTree.Proofs.Document.RoundTrip
import ExprTree.Proofs.Document.WellFormed

namespace ExprTree

set_option autoImplicit false

/-! ## Renumbering -/

namespace Record

mutual

/-- The record with its indices moved and all else as it is. -/
@[simp] def renumber (move : Nat → Nat) : Record → Record
  | .leaf parts => .leaf { parts with source := move parts.source }
  | .unary op opOffset operand => .unary op opOffset (renumber move operand)
  | .binary lhs op opOffset rhs => .binary (renumber move lhs) op opOffset (renumber move rhs)
  | .conditional thenCase condition elseCase =>
      .conditional (renumber move thenCase) (renumber move condition) (renumber move elseCase)
  | .list source start elements stop =>
      .list (move source) start (renumberAll move elements) stop

def renumberAll (move : Nat → Nat) : List Record → List Record
  | [] => []
  | record :: rest => renumber move record :: renumberAll move rest

end

@[simp] theorem renumberAll_eq_map (move : Nat → Nat) (records : List Record) :
    renumberAll move records = records.map (renumber move) := by
  induction records with
  | nil => rfl
  | cons record rest ih => simp [renumberAll, ih]

@[simp] theorem indices_renumber (move : Nat → Nat) (record : Record) :
    (record.renumber move).indices = record.indices.map move := by
  induction record using Record.induct with
  | leaf parts => rfl
  | unary op opOffset operand ih => exact ih
  | binary lhs op opOffset rhs ihl ihr =>
      simp [ihl, ihr]
  | conditional thenCase condition elseCase iht ihc ihe =>
      simp [iht, ihc, ihe]
  | list source start elements stop ih =>
      rw [renumber, indices_list, indices_list, renumberAll_eq_map, List.flatMap_map,
        List.flatMap_congr ih, List.map_cons, List.map_flatMap]

theorem renumber_renumber {first second move : Nat → Nat} {record : Record}
    (agree : ∀ index ∈ record.indices, second (first index) = move index) :
    (record.renumber first).renumber second = record.renumber move := by
  induction record using Record.induct with
  | leaf parts =>
      rw [renumber, renumber, renumber, agree parts.source (by simp)]
  | unary op opOffset operand ih => rw [renumber, renumber, renumber, ih agree]
  | binary lhs op opOffset rhs ihl ihr =>
      rw [forall_indices_binary] at agree
      rw [renumber, renumber, renumber, ihl agree.1, ihr agree.2]
  | conditional thenCase condition elseCase iht ihc ihe =>
      rw [forall_indices_conditional] at agree
      rw [renumber, renumber, renumber, iht agree.1, ihc agree.2.1, ihe agree.2.2]
  | list source start elements stop ih =>
      rw [forall_indices_list] at agree
      simp only [renumber, renumberAll_eq_map, List.map_map, agree.1]
      congr 1
      exact List.map_congr_left fun element member => ih element member (agree.2 element member)

variable {sources : List Source}

/-- A tree is written with the indices of its description moved, when its units have moved
accordingly. -/
theorem Describes.toRecord_eq {table : List Source} {move : Nat → Nat} {record : Record}
    {tree : Expr} (describes : Describes sources record tree)
    (agree : ∀ index ∈ record.indices, ∀ unit, sources[index]? = some unit →
      table.idxOf unit = move index) : tree.toRecord table = record.renumber move := by
  refine Describes.induct (motive := fun record tree =>
    (∀ index ∈ record.indices, ∀ unit, sources[index]? = some unit →
      table.idxOf unit = move index) → tree.toRecord table = record.renumber move)
    ?leaf ?unary ?binary ?conditional ?list describes agree
  case leaf =>
    intro index place atom entry agree
    rw [Expr.toRecord, renumber, agree index (by simp) _ entry]
  case unary =>
    intro op opOffset operand tree ih agree
    rw [Expr.toRecord, renumber, ih agree]
  case binary =>
    intro op opOffset lhs rhs lhsTree rhsTree ihl ihr agree
    rw [forall_indices_binary] at agree
    rw [Expr.toRecord, renumber, ihl agree.1, ihr agree.2]
  case conditional =>
    intro thenCase condition elseCase thenTree conditionTree elseTree iht ihc ihe agree
    rw [forall_indices_conditional] at agree
    rw [Expr.toRecord, renumber, iht agree.1, ihc agree.2.1, ihe agree.2.2]
  case list =>
    intro index place elements trees entry each agree
    rw [forall_indices_list] at agree
    obtain ⟨first, others⟩ := agree
    have row : trees.map (Expr.toRecord table) = elements.map (renumber move) := by
      induction each with
      | nil => rfl
      | cons head _ ih =>
          rw [List.forall_mem_cons] at others
          rw [List.map_cons, List.map_cons, head others.1, ih others.2]
    rw [Expr.toRecord, renumber, Expr.toRecords_eq_map, renumberAll_eq_map, row, first _ entry]

/-- A renumbered record describes the tree over other units, those that its new indices name. -/
theorem Describes.renumber {sources' : List Source} {move : Nat → Nat} {moveUnit : Source → Source}
    {record : Record} {tree : Expr} (describes : Describes sources record tree)
    (entries : ∀ index ∈ record.indices, ∀ unit, sources[index]? = some unit →
      sources'[move index]? = some (moveUnit unit)) :
    Describes sources' (record.renumber move) (tree.relocate moveUnit) := by
  refine Describes.induct (motive := fun record tree =>
    (∀ index ∈ record.indices, ∀ unit, sources[index]? = some unit →
      sources'[move index]? = some (moveUnit unit)) →
      Describes sources' (record.renumber move) (tree.relocate moveUnit))
    ?leaf ?unary ?binary ?conditional ?list describes entries
  case leaf =>
    intro index place atom entry entries
    exact .leaf ⟨moveUnit place.source, place.span⟩ (entries index (by simp) _ entry)
  case unary =>
    intro op opOffset operand tree ih entries
    exact .unary (ih entries)
  case binary =>
    intro op opOffset lhs rhs lhsTree rhsTree ihl ihr entries
    rw [forall_indices_binary] at entries
    exact .binary (ihl entries.1) (ihr entries.2)
  case conditional =>
    intro thenCase condition elseCase thenTree conditionTree elseTree iht ihc ihe entries
    rw [forall_indices_conditional] at entries
    exact .conditional (iht entries.1) (ihc entries.2.1) (ihe entries.2.2)
  case list =>
    intro index place elements trees entry each entries
    rw [forall_indices_list] at entries
    obtain ⟨first, others⟩ := entries
    rw [Record.renumber, Expr.relocate, renumberAll_eq_map, Expr.relocateAll_eq_map]
    refine .list ⟨moveUnit place.source, place.span⟩ (first _ entry) ?_
    rw [List.forall₂_map_left_iff, List.forall₂_map_right_iff]
    induction each with
    | nil => exact .nil
    | cons head _ ih =>
        rw [List.forall_mem_cons] at others
        exact .cons (head others.1) (ih others.2)

end Record

namespace Document

/-- The document with its sources in the order in which a walk of the root first meets them, each
once, and without those that the root does not name. -/
def canonical (document : Document) : Document :=
  let kept := document.root.indices.eraseDups
  ⟨kept.filterMap (document.sources[·]?), document.root.renumber fun index => kept.idxOf index⟩

/-- The other document is the same but for the places of its sources, and for sources that its root
does not name. -/
def Rearranged (document other : Document) : Prop :=
  ∃ move : Nat → Nat, other.root = document.root.renumber move ∧
    (∀ index ∈ document.root.indices, other.sources[move index]? = document.sources[index]?) ∧
    ∀ a ∈ document.root.indices, ∀ b ∈ document.root.indices, move a = move b → a = b

theorem canonical_eq_of_rearranged {document other : Document}
    (rearranged : document.Rearranged other) : other.canonical = document.canonical := by
  obtain ⟨move, root, entries, apart⟩ := rearranged
  rw [canonical, canonical, root, Record.indices_renumber]
  congr 1
  · rw [eraseDups_map_of_inj apart, List.filterMap_map]
    exact List.filterMap_congr fun index visited => entries index (List.mem_eraseDups.1 visited)
  · exact Record.renumber_renumber fun index occurs => idxOf_eraseDups_map apart occurs

/-- A document whose indices are all in its table is rearranged into its canonical document. -/
theorem rearranged_canonical {document : Document}
    (known : ∀ index ∈ document.root.indices, index < document.sources.length) :
    document.Rearranged document.canonical := by
  refine ⟨_, rfl, fun index occurs => ?_, fun a occurs b _ same => ?_⟩
  · refine getElem?_filterMap_idxOf (fun other visited => ?_) (List.mem_eraseDups.2 occurs)
    rw [List.getElem?_eq_getElem (known other (List.mem_eraseDups.1 visited))]
    rfl
  · exact (List.idxOf_inj (List.mem_eraseDups.2 occurs)).1 same

/-! ## Encoding a decoded tree -/

theorem wellFormed_of_decode {serial : Nat} {document : Document} {tree : Expr}
    (decoded : document.decode serial = .ok tree) : document.WellFormed := by
  obtain ⟨sources, registered, decoded⟩ := decode_eq_ok_iff.1 decoded
  have wellFormed := Record.exists_toExpr_iff.1 ⟨tree, decoded⟩
  rwa [map_toRecord_of_registerAll registered] at wellFormed

/-- Encoding a decoded tree gives the canonical document. -/
theorem encode_eq_canonical {serial : Nat} {document : Document} {tree : Expr}
    (decoded : document.decode serial = .ok tree) : encode tree = document.canonical := by
  obtain ⟨sources, registered, decoded⟩ := decode_eq_ok_iff.1 decoded
  obtain ⟨describes, -, -⟩ := Record.toExpr_eq_ok_iff.1 decoded
  have table := map_toRecord_of_registerAll registered
  have apart : ∀ a ∈ document.root.indices, ∀ b ∈ document.root.indices,
      sources[a]? = sources[b]? → a = b := by
    intro a occurs b _ same
    obtain ⟨unit, entry⟩ := describes.exists_unit occurs
    exact index_inj_of_registerAll registered entry (same ▸ entry)
  have visits : document.root.indices.eraseDups.map (sources[·]?) = tree.sourceTable.map some := by
    rw [← eraseDups_map_of_inj apart, describes.map_indices,
      eraseDups_map_of_inj fun a _ b _ same => Option.some.inj same,
      ← Expr.sourceTable_eq_eraseDups]
  have numbers : ∀ index ∈ document.root.indices, ∀ unit, sources[index]? = some unit →
      tree.sourceTable.idxOf unit = document.root.indices.eraseDups.idxOf index := by
    intro index occurs unit entry
    have carried := describes.mem_carriedSources occurs entry
    rw [Expr.sourceTable_eq_eraseDups, ← idxOf_eraseDups_map apart occurs, entry,
      describes.map_indices, idxOf_eraseDups_map (fun a _ b _ same => Option.some.inj same) carried]
  have records : tree.sourceTable.map Source.toRecord =
      document.root.indices.eraseDups.filterMap (document.sources[·]?) :=
    calc tree.sourceTable.map Source.toRecord
      _ = (tree.sourceTable.map some).filterMap (·.map Source.toRecord) := by
        simp [List.filterMap_map]
      _ = document.root.indices.eraseDups.filterMap (document.sources[·]?) := by
        rw [← visits, List.filterMap_map, ← table]
        simp [List.getElem?_map]
  rw [encode_eq, canonical, describes.toRecord_eq numbers, records]

/-- The unit of another registration that holds the text of a unit of the first one, the tables
being rearranged. -/
def reregister (serial serial' : Nat) (move : Nat → Nat) (unit : Source) : Source :=
  { unit with serial := serial' + move (unit.serial - serial) }

theorem keepsText_reregister (serial serial' : Nat) (move : Nat → Nat) :
    Expr.KeepsText (reregister serial serial' move) :=
  fun _ => ⟨rfl, rfl⟩

/-- A rearranged document decodes to the same tree over other units, if its texts fit. -/
theorem decode_of_rearranged {serial : Nat} {document other : Document} {tree : Expr}
    (decoded : document.decode serial = .ok tree) (rearranged : document.Rearranged other)
    (fits : ∀ source ∈ other.sources, source.text.utf8ByteSize < UInt32.size) (serial' : Nat) :
    ∃ tree', other.decode serial' = .ok tree' ∧ tree'.sameTree tree = true := by
  obtain ⟨sources, registered, decoded⟩ := decode_eq_ok_iff.1 decoded
  obtain ⟨describes, made, within⟩ := Record.toExpr_eq_ok_iff.1 decoded
  obtain ⟨move, root, entries, -⟩ := rearranged
  obtain ⟨sources', registered'⟩ := (exists_registerAll_iff serial').2 fits
  have keeps := keepsText_reregister serial serial' move
  have describes' : Record.Describes sources' other.root
      (tree.relocate (reregister serial serial' move)) := by
    rw [root]
    refine describes.renumber fun index occurs unit entry => ?_
    obtain ⟨number, record⟩ := (registerAll_getElem?_iff registered index unit).1 entry
    rw [registerAll_getElem?_iff registered', entries index occurs, record, reregister, number,
      Nat.add_sub_cancel_left]
    exact ⟨rfl, rfl⟩
  refine ⟨_, decode_eq_ok_iff.2 ⟨sources', registered', ?_⟩, Expr.sameTree_relocate keeps tree⟩
  exact Record.toExpr_of_describes describes' ((Expr.made_relocate_iff keeps).2 made)
    ((Expr.leafWithin_relocate_iff keeps).2 within)

/-- **Encoding a decoded tree canonicalises its document and changes nothing else.** What comes out
is the canonical document; decoded and encoded once more it stays as it is; and every rearrangement
of the document whose texts fit decodes to the same tree, with the same document. -/
theorem encode_decode (serial : Nat) {document : Document} {tree : Expr}
    (decoded : document.decode serial = .ok tree) :
    encode tree = document.canonical ∧
    (∀ serial', ∃ again, (encode tree).decode serial' = .ok again ∧ encode again = encode tree) ∧
    ∀ other, document.Rearranged other →
      (∀ source ∈ other.sources, source.text.utf8ByteSize < UInt32.size) →
      ∀ serial', ∃ tree', other.decode serial' = .ok tree' ∧ tree'.sameTree tree = true ∧
        encode tree' = encode tree := by
  have canonical := encode_eq_canonical decoded
  have rearrangements : ∀ other, document.Rearranged other →
      (∀ source ∈ other.sources, source.text.utf8ByteSize < UInt32.size) →
      ∀ serial', ∃ tree', other.decode serial' = .ok tree' ∧ tree'.sameTree tree = true ∧
        encode tree' = encode tree := by
    intro other rearranged fits serial'
    obtain ⟨tree', decoded', same⟩ := decode_of_rearranged decoded rearranged fits serial'
    refine ⟨tree', decoded', same, ?_⟩
    rw [canonical, encode_eq_canonical decoded', canonical_eq_of_rearranged rearranged]
  refine ⟨canonical, fun serial' => ?_, rearrangements⟩
  have normal : document.Rearranged (encode tree) := by
    rw [canonical]
    exact rearranged_canonical (wellFormed_of_decode decoded).known
  have fits : ∀ source ∈ (encode tree).sources, source.text.utf8ByteSize < UInt32.size :=
    List.forall_mem_map.2 fun unit _ => unit.fits
  obtain ⟨again, decoded', -, same⟩ := rearrangements _ normal fits serial'
  exact ⟨again, decoded', same⟩

/-! ### A sum in a table with a source to spare -/

namespace Example

/-- The document of `a + 1` whose operands name the second and the first of three entries. -/
def spare : Document where
  sources := [⟨"sum", "a + 1"⟩, ⟨"sum", "a + 1"⟩, ⟨"other", "b"⟩]
  root := .binary (.leaf ⟨.identifier, 1, 0, "a", 1⟩) "+" 2 (.leaf ⟨.int, 0, 4, "1", 5⟩)

/-- The same with the two entries that it needs, in the order in which they are met. -/
def trimmed : Document where
  sources := [⟨"sum", "a + 1"⟩, ⟨"sum", "a + 1"⟩]
  root := .binary (.leaf ⟨.identifier, 0, 0, "a", 1⟩) "+" 2 (.leaf ⟨.int, 1, 4, "1", 5⟩)

theorem spare_rearranged : spare.Rearranged trimmed :=
  ⟨fun index => 1 - index, rfl, by decide, by decide⟩

end Example

theorem encode_decode_spare : ∃ tree, Example.spare.decode 0 = .ok tree ∧
    encode tree = Example.spare.canonical ∧
    ∃ tree', Example.trimmed.decode 2 = .ok tree' ∧ tree'.sameTree tree = true ∧
      encode tree' = encode tree := by
  obtain ⟨tree, decoded⟩ : ∃ tree, Example.spare.decode 0 = .ok tree := ⟨_, rfl⟩
  obtain ⟨canonical, -, rearrangements⟩ := encode_decode 0 decoded
  exact ⟨tree, decoded, canonical,
    rearrangements Example.trimmed Example.spare_rearranged (by decide) 2⟩

end Document

end ExprTree
