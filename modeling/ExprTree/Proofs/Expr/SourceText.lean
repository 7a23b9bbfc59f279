/-
# ExprTree.Proofs.Expr.SourceText — the texts of nested nodes

The text of a node is the slice of its unit between its offsets. In a made tree those are in order,
so it can always be asked for, and it is there exactly if both offsets are valid positions of the
unit (`Ordered.exists_sourceText_iff`). A composite takes its unit from one of its parts, which may
be another registration than that of a node below; but all units of the tree hold one text, and the
slices that it is cut into are nested as the extents are (`Text.slice?_slice?`).

Main statement: `Made.slicesCoherent`.
-/
import ExprTree.Proofs.Expr.Nesting
import ExprTree.Proofs.Text.Bytes

namespace ExprTree.Expr

set_option autoImplicit false

open Text (slice?)

variable {expr : Expr}

/-- In a tree that is in order, the text of the root can be asked for. -/
theorem Ordered.sourceText_eq (ordered : expr.Ordered) :
    expr.sourceText =
      .ok ((slice? expr.source.chars expr.start.toNat expr.stop.toNat).map String.ofList) := by
  have extent : expr.span = .ok ⟨expr.start, expr.stop, ordered.start_le_stop⟩ :=
    Span.between_eq_ok_iff.2 ⟨rfl, rfl⟩
  rw [sourceText, extent]
  rfl

theorem Ordered.sourceText_eq_some_iff (ordered : expr.Ordered) {text : String} :
    expr.sourceText = .ok (some text) ↔
      slice? expr.source.chars expr.start.toNat expr.stop.toNat = some text.toList := by
  rw [ordered.sourceText_eq, Except.ok.injEq, Option.map_eq_some_iff]
  constructor
  · rintro ⟨inside, cut, rfl⟩
    rw [cut, String.toList_ofList]
  · intro cut
    exact ⟨text.toList, cut, String.ofList_toList⟩

/-- The root has a text exactly if both of its offsets are valid positions of its unit. -/
theorem Ordered.exists_sourceText_iff (ordered : expr.Ordered) :
    (∃ text, expr.sourceText = .ok (some text)) ↔
      (⟨expr.start.toNat⟩ : String.Pos.Raw).IsValid expr.source.text ∧
        (⟨expr.stop.toNat⟩ : String.Pos.Raw).IsValid expr.source.text := by
  have cuts : (∃ text, expr.sourceText = .ok (some text)) ↔ ∃ inside,
      slice? expr.source.chars expr.start.toNat expr.stop.toNat = some inside := by
    simp [ordered.sourceText_eq]
  rw [cuts, Text.exists_slice?_iff (UInt32.le_iff_toNat_le.1 ordered.start_le_stop), Source.chars,
    Text.isBoundary_iff_isValid, Text.isBoundary_iff_isValid]

/-- The text of the root has the bytes between its offsets. -/
theorem Ordered.toUTF8_sourceText (ordered : expr.Ordered) {text : String}
    (has : expr.sourceText = .ok (some text)) :
    text.toUTF8 = expr.source.text.toUTF8.extract expr.start.toNat expr.stop.toNat := by
  have cut := ordered.sourceText_eq_some_iff.1 has
  rw [← Text.toUTF8_slice (UInt32.le_iff_toNat_le.1 ordered.start_le_stop) cut,
    String.ofList_toList]

/-- How the texts of the nodes of a tree are cut out of one another. -/
structure SlicesCoherent (expr : Expr) : Prop where
  /-- The text of a node can be asked for. -/
  asked : ∀ path node, expr.at? path = some node → ∃ answer, node.sourceText = .ok answer
  /-- It is there exactly if the node ends within its unit, between characters, and begins between
  characters. -/
  there : ∀ path node, expr.at? path = some node →
    ((∃ text, node.sourceText = .ok (some text)) ↔
      node.stop ≤ node.source.length ∧
        (⟨node.start.toNat⟩ : String.Pos.Raw).IsValid node.source.text ∧
        (⟨node.stop.toNat⟩ : String.Pos.Raw).IsValid node.source.text)
  /-- It has the bytes of the unit from the start of the node to its end. -/
  bytes : ∀ path node text, expr.at? path = some node → node.sourceText = .ok (some text) →
    text.toUTF8 = node.source.text.toUTF8.extract node.start.toNat node.stop.toNat
  /-- A node begins and ends no earlier than one above it begins, and its text is the slice of the
  other one's text between the distances. -/
  nested : ∀ path rest above node outer inner, expr.at? path = some above →
    expr.at? (path ++ rest) = some node → above.sourceText = .ok (some outer) →
      node.sourceText = .ok (some inner) →
        above.start ≤ node.start ∧ above.start ≤ node.stop ∧
        slice? outer.toList (node.start.toNat - above.start.toNat)
          (node.stop.toNat - above.start.toNat) = some inner.toList ∧
        inner.toUTF8 = outer.toUTF8.extract (node.start.toNat - above.start.toNat)
          (node.stop.toNat - above.start.toNat)

/-- **The texts of the nodes of a made tree are slices of one another.** The text of a node can
always be asked for; it is there exactly if the node ends within its unit and both of its offsets
are between characters, and then it has the bytes between them. The text of a node below another one
is the slice of the other one's text at the distances from its start, whichever units the two have.
-/
theorem Made.slicesCoherent (made : expr.Made) : expr.SlicesCoherent := by
  obtain ⟨ordered, one, -⟩ := made.sound
  refine ⟨?asked, ?there, ?bytes, ?nested⟩
  case asked =>
    intro path node found
    exact ⟨_, (ordered.of_at? found).sourceText_eq⟩
  case there =>
    intro path node found
    rw [(ordered.of_at? found).exists_sourceText_iff]
    refine ⟨fun valid => ⟨?_, valid⟩, And.right⟩
    rw [UInt32.le_iff_toNat_le, Source.toNat_length]
    exact valid.2.le_rawEndPos
  case bytes =>
    intro path node text found has
    exact (ordered.of_at? found).toUTF8_sourceText has
  case nested =>
    intro path rest above node outer inner found found' has has'
    have orderedAbove := ordered.of_at? found
    have orderedNode := ordered.of_at? found'
    obtain ⟨reached, inside⟩ := orderedAbove.extent_of_at? (at?_of_append found found')
    have extent := orderedNode.start_le_stop
    have cut := orderedAbove.sourceText_eq_some_iff.1 has
    have cut' := orderedNode.sourceText_eq_some_iff.1 has'
    rw [Source.chars, ← (one.sameText_of_at? found found').2] at cut'
    have slice := Text.slice?_slice? cut cut' (UInt32.le_iff_toNat_le.1 reached)
      (UInt32.le_iff_toNat_le.1 extent) (UInt32.le_iff_toNat_le.1 inside)
    refine ⟨reached, UInt32.le_trans reached extent, slice, ?_⟩
    rw [← Text.toUTF8_slice (Nat.sub_le_sub_right (UInt32.le_iff_toNat_le.1 extent) _) slice,
      String.ofList_toList]

/-- In `[-x, y]`, the units of the list and of the name `x` are different registrations; the text of
the name is the slice of the whole from 2 to 3. -/
theorem slicesCoherent_nestedList : Example.nestedList.Made ∧ Example.nestedList.SlicesCoherent ∧
    ∃ name, Example.nestedList.at? [0, 0] = some name ∧
      name.source ≠ Example.nestedList.source ∧
      slice? "[-x, y]".toList (2 - 0) (3 - 0) = some "x".toList := by
  have made : Example.nestedList.Made := by decide
  refine ⟨made, made.slicesCoherent, _, rfl, by decide, ?_⟩
  exact (made.slicesCoherent.nested [] [0, 0] _ _ "[-x, y]" "x" rfl rfl rfl rfl).2.2.1

end ExprTree.Expr
