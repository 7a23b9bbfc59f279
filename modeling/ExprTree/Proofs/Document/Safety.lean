/-
# ExprTree.Proofs.Document.Safety — what decoding lets through

Bounds are checked on leaves and lists only, and the composites between them take their extent from
their parts and their source from the first of these. So that a decoded tree ends inside its text
rests on all of its leaves and lists having one text; from there every node inside the tree has an
extent inside the same text, and locations for both of its ends.

Main statements: `Expr.locatable_of_stop_le`, an ordered tree of one text that ends inside it can be
located throughout, and `decode_safe`, decoding gives no other trees and makes no leaf on an
inverted span.
-/
import ExprTree.Proofs.Document.Refusal
import ExprTree.Proofs.Expr.Nesting
import ExprTree.Proofs.Source.Position

namespace ExprTree

set_option autoImplicit false

namespace Expr

/-- The nodes of a tree lie in their texts, and what is asked about where is answered. -/
structure Locatable (tree : Expr) : Prop where
  /-- A node begins no later than it ends, and ends inside the text of its source. -/
  within : ∀ node ∈ tree.preorder,
    node.start ≤ node.stop ∧ node.stop.toNat ≤ node.source.text.utf8ByteSize
  /-- Both ends of a node have locations, in this order. -/
  located : ∀ node ∈ tree.preorder, ∃ first last,
    node.location = .ok first ∧ node.endLocation = .ok last ∧ first ≤ last
  /-- The locations of the nodes never decrease in the order of a walk. -/
  ascending : tree.preorder.Pairwise fun node later => ∃ first second,
    node.location = .ok first ∧ later.location = .ok second ∧ first ≤ second

section Locations

variable {tree : Expr}

/-- A node of an ordered tree of one text that ends inside it ends inside its own source. -/
theorem stop_le_length_of_at? (ordered : tree.Ordered) (one : tree.OneText)
    (inside : tree.stop ≤ tree.source.length) {path : List Nat} {node : Expr}
    (found : tree.at? path = some node) : node.stop ≤ node.source.length :=
  calc node.stop
    _ ≤ tree.stop := (ordered.extent_of_at? found).2
    _ ≤ tree.source.length := inside
    _ = node.source.length := (one.sameText_of_at? (at?_nil tree) found).length_eq

/-- Between two nodes of such a tree, locations are in the order of offsets. -/
theorem exists_locations (one : tree.OneText)
    (short : tree.source.text.utf8ByteSize + 1 < UInt32.size) {path path' : List Nat}
    {node node' : Expr} (found : tree.at? path = some node) (found' : tree.at? path' = some node')
    {offset offset' : Offset} (ordered : offset ≤ offset')
    (inside : offset' ≤ node'.source.length) : ∃ first second,
      node.source.location offset = .ok first ∧ node'.source.location offset' = .ok second ∧
        first ≤ second := by
  have same := one.sameText_of_at? found found'
  have short : node.source.text.utf8ByteSize + 1 < UInt32.size := by
    rwa [← (one.sameText_of_at? (at?_nil tree) found).2]
  have short' : node'.source.text.utf8ByteSize + 1 < UInt32.size := by rwa [← same.2]
  have insideFirst : offset' ≤ node.source.length := by rwa [same.length_eq]
  obtain ⟨first, located, -⟩ :=
    Source.exists_location short (UInt32.le_trans ordered insideFirst)
  obtain ⟨second, located', -⟩ := Source.exists_location short' inside
  exact ⟨first, second, located, located',
    Source.location_le same short ordered insideFirst located located'⟩

/-- An ordered tree of one text that ends inside it can be located throughout. -/
theorem locatable_of_stop_le (ordered : tree.Ordered) (one : tree.OneText)
    (inside : tree.stop ≤ tree.source.length)
    (short : tree.source.text.utf8ByteSize + 1 < UInt32.size) : tree.Locatable := by
  refine ⟨?within, ?located, ?ascending⟩
  case within =>
    intro node member
    obtain ⟨path, found⟩ := mem_preorder_iff.1 member
    rw [← Source.toNat_length, ← UInt32.le_iff_toNat_le]
    exact ⟨(ordered.of_at? found).start_le_stop, stop_le_length_of_at? ordered one inside found⟩
  case located =>
    intro node member
    obtain ⟨path, found⟩ := mem_preorder_iff.1 member
    exact exists_locations one short found found (ordered.of_at? found).start_le_stop
      (stop_le_length_of_at? ordered one inside found)
  case ascending =>
    refine ordered.pairwise_preorder.imp_of_mem ?_
    intro node later member member' follows
    obtain ⟨path, found⟩ := mem_preorder_iff.1 member
    obtain ⟨path', found'⟩ := mem_preorder_iff.1 member'
    exact exists_locations one short found found' follows
      (UInt32.le_trans (ordered.of_at? found').start_le_stop
        (stop_le_length_of_at? ordered one inside found'))

end Locations

end Expr

namespace Document

/-- **What decoding lets through is safe to use.** When all texts leave room for one more byte, no
leaf is made on a span that ends before it starts, and in a decoded tree every node lies inside its
text, has locations for both of its ends, in their order, and begins no earlier than the nodes that
a walk meets in front of it. -/
theorem decode_safe (serial : Nat) {document : Document}
    (short : ∀ source ∈ document.sources, source.text.utf8ByteSize < UInt32.size - 1) :
    (∀ kind start stop, document.decode serial ≠ .error (.invertedSpan kind start stop)) ∧
    ∀ tree, document.decode serial = .ok tree → tree.Locatable := by
  have room : ∀ source ∈ document.sources, source.text.utf8ByteSize + 1 < UInt32.size :=
    fun source entry => Nat.add_lt_of_lt_sub (short source entry)
  obtain ⟨sources, decodes, table⟩ := decode_eq_toExpr serial
    fun source entry => Nat.lt_of_succ_lt (room source entry)
  rw [decodes]
  constructor
  · intro kind start stop failed
    exact Record.blames_of_toExpr failed
  · intro tree decoded
    obtain ⟨describes, made, leaves⟩ := Record.toExpr_eq_ok_iff.1 decoded
    obtain ⟨ordered, one, lists⟩ := made.sound
    refine Expr.locatable_of_stop_le ordered one (Expr.stop_le_length one leaves lists) ?_
    have entry : tree.source.toRecord ∈ document.sources := by
      rw [← table]
      exact List.mem_map_of_mem (describes.carriedSources_subset tree.source_mem_carriedSources)
    exact room _ entry

/-! ### A list over two lines -/

namespace Example

/-- The document of a list with an element on each of two lines, the first one beyond ASCII. -/
def lines : Document where
  sources := [⟨"lines", "['é',\n b]"⟩]
  root := .list 0 0 [.leaf ⟨.string, 0, 1, "é", 5⟩, .leaf ⟨.identifier, 0, 8, "b", 9⟩] 10

end Example

theorem decode_safe_lines :
    (∀ source ∈ Example.lines.sources, source.text.utf8ByteSize < UInt32.size - 1) ∧
      ∃ tree, Example.lines.decode 0 = .ok tree ∧ tree.Locatable := by
  have short : ∀ source ∈ Example.lines.sources,
      source.text.utf8ByteSize < UInt32.size - 1 := by decide
  obtain ⟨tree, decoded⟩ : ∃ tree, Example.lines.decode 0 = .ok tree := ⟨_, rfl⟩
  exact ⟨short, tree, decoded, (decode_safe 0 short).2 tree decoded⟩

end Document

end ExprTree
