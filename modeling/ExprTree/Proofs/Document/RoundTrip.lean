/-
# ExprTree.Proofs.Document.RoundTrip — the tree of a tree's document

A document numbers the units of a tree in the order of first visit, and decoding registers them
again. The record of a tree describes that tree over the units that decoding registers
(`describes_toRecord`), moved to its new unit leaf by leaf; so what decoding does with the document
of a made tree is decided by where its leaves end.

Main statement: `decode_encode`. If each leaf ends inside its own source, the same tree comes back
and its leaves and lists share units as before; otherwise the document is refused because its parts
make up no node.
-/
import ExprTree.Proofs.Document.Description
import ExprTree.Proofs.Expr.Relocation

namespace ExprTree

set_option autoImplicit false

namespace Expr

/-! ## The record of a tree -/

/-- The record of a tree describes it over any units in which each entry of the table has its
place, the tree being moved to those units. -/
theorem describes_toRecord {sources table : List Source} {move : Source → Source} {expr : Expr}
    (entries : ∀ unit ∈ expr.carriedSources, sources[table.idxOf unit]? = some (move unit)) :
    Record.Describes sources (expr.toRecord table) (expr.relocate move) := by
  induction expr using Expr.induct with
  | leaf place atom =>
      have entry := entries place.source (by simp)
      exact .leaf ⟨move place.source, place.span⟩ entry
  | unary op opOffset operand ih => exact .unary (ih entries)
  | binary lhs op opOffset rhs ihl ihr =>
      rw [carriedSources, List.forall_mem_append] at entries
      exact .binary (ihl entries.1) (ihr entries.2)
  | conditional thenCase condition elseCase iht ihc ihe =>
      rw [carriedSources, List.forall_mem_append, List.forall_mem_append] at entries
      exact .conditional (iht entries.1.1) (ihc entries.1.2) (ihe entries.2)
  | list place elements ih =>
      rw [carriedSources, List.forall_mem_cons, carriedSourcesAll_eq_flatMap,
        List.forall_mem_flatMap] at entries
      rw [toRecord, relocate, toRecords_eq_map, relocateAll_eq_map]
      refine .list ⟨move place.source, place.span⟩ entries.1 ?_
      rw [List.forall₂_map_left_iff, List.forall₂_map_right_iff, List.forall₂_same]
      exact fun element member => ih element member (entries.2 element member)

end Expr

namespace Document

/-- The unit that an entry of a table becomes when the table is registered. -/
def renumber (serial : Nat) (table : List Source) (unit : Source) : Source :=
  { unit with serial := serial + table.idxOf unit }

theorem keepsText_renumber (serial : Nat) (table : List Source) :
    Expr.KeepsText (renumber serial table) :=
  fun _ => ⟨rfl, rfl⟩

theorem renumber_inj {serial : Nat} {table : List Source} {a b : Source} (entry : a ∈ table)
    (same : renumber serial table a = renumber serial table b) : a = b := by
  have serials : serial + table.idxOf a = serial + table.idxOf b := congrArg Source.serial same
  exact (List.idxOf_inj entry).1 (Nat.add_left_cancel serials)

/-- Registering the entries of a table finds each of them at its index. -/
theorem registerAll_table {serial : Nat} {table sources : List Source}
    (registered : registerAll serial (table.map Source.toRecord) = .ok sources) {unit : Source}
    (entry : unit ∈ table) :
    sources[table.idxOf unit]? = some (renumber serial table unit) := by
  rw [registerAll_getElem?_iff registered]
  refine ⟨rfl, ?_⟩
  rw [List.getElem?_map, List.getElem?_idxOf entry]
  rfl

/-- The units of a tree always fit, so its table is registered. -/
theorem exists_registerAll_table (serial : Nat) (table : List Source) :
    ∃ sources, registerAll serial (table.map Source.toRecord) = .ok sources := by
  rw [exists_registerAll_iff, List.forall_mem_map]
  exact fun unit _ => unit.fits

/-- Decoding a tree's document is making the tree from its own record, over units that the record
describes it in. -/
theorem decode_encode_eq (serial : Nat) (expr : Expr) :
    ∃ sources, (encode expr).decode serial = (encode expr).root.toExpr sources ∧
      Record.Describes sources (encode expr).root
        (expr.relocate (renumber serial expr.sourceTable)) := by
  obtain ⟨sources, registered⟩ := exists_registerAll_table serial expr.sourceTable
  rw [encode_eq]
  refine ⟨sources, ?_, Expr.describes_toRecord fun unit carried => ?_⟩
  · simp only [decode, registered, bind, Except.bind]
  · exact registerAll_table registered (Expr.mem_sourceTable_iff.2 carried)

/-- **The document of a made tree gives the tree back.** It does so exactly if each leaf ends inside
its own source; otherwise it is refused because its parts make up no node. What comes back is the
same tree, and its leaves and lists share units exactly as they did. -/
theorem decode_encode (serial : Nat) {expr : Expr} (made : expr.Made) :
    (expr.Everywhere Expr.LeafWithin → ∃ decoded, (encode expr).decode serial = .ok decoded ∧
      decoded.sameTree expr = true ∧ Expr.SameSharing expr decoded) ∧
    (¬ expr.Everywhere Expr.LeafWithin → ∃ kind fault,
      (encode expr).decode serial = .error (.refused (.mismatch kind fault))) := by
  obtain ⟨sources, decodes, describes⟩ := decode_encode_eq serial expr
  have keeps := keepsText_renumber serial expr.sourceTable
  have movedMade := (Expr.made_relocate_iff keeps).2 made
  rw [decodes]
  constructor
  · intro within
    refine ⟨_, Record.toExpr_of_describes describes movedMade
      ((Expr.leafWithin_relocate_iff keeps).2 within), Expr.sameTree_relocate keeps expr,
      Expr.sameSharing_relocate fun a carried b _ same => ?_⟩
    exact renumber_inj (Expr.mem_sourceTable_iff.2 carried) same
  · intro beyond
    exact Record.toExpr_of_leaf_beyond describes movedMade
      fun within => beyond ((Expr.leafWithin_relocate_iff keeps).1 within)

/-! ### A list over two registrations of one text -/

namespace Example

/-- The text `[a, a]`, registered under a serial number. -/
def registered (serial : Nat) : Source :=
  ⟨serial, "list", "[a, a]", by decide⟩

/-- The list that the text spells; its first element lies in the other registration. -/
def twoUnits : Expr :=
  .list ⟨registered 0, ⟨0, 6, by decide⟩⟩
    [.leaf ⟨registered 1, ⟨1, 2, by decide⟩⟩ (.identifier ⟨"a", by decide⟩),
      .leaf ⟨registered 0, ⟨4, 5, by decide⟩⟩ (.identifier ⟨"a", by decide⟩)]

theorem twoUnits_made : twoUnits.Made := by decide

end Example

theorem decode_encode_two_units :
    Example.twoUnits.Made ∧ Example.twoUnits.Everywhere Expr.LeafWithin ∧
      ∃ decoded, (encode Example.twoUnits).decode 7 = .ok decoded ∧
        decoded.sameTree Example.twoUnits = true ∧
        Expr.SameSharing Example.twoUnits decoded := by
  have within : Example.twoUnits.Everywhere Expr.LeafWithin := by decide
  exact ⟨Example.twoUnits_made, within, (decode_encode 7 Example.twoUnits_made).1 within⟩

end Document

end ExprTree
