/-
# ExprTree.Proofs.Expr.Parts — leaves and their parts

What comes of four parts is decided by three questions, asked in this order: whether a leaf is
wanted at all, whether the span fits the source (`LeafParts.Fits`), and whether the text is a valid
spelling for the kind (`LeafKind.Accepts`). A span that does not fit is refused before the text is
looked at (`exists_mismatch_of_not_fits`), and on one that fits only the text counts
(`rebuild_of_fits`); `outcome_rebuild` puts the three answers together.

Main statement: `rebuild_decompose`, which parts make up a leaf and why others do not, and that
taking a leaf apart and putting parts together undo one another.
-/
import ExprTree.Proofs.Expr.Made
import ExprTree.Proofs.Numeral.Float

namespace ExprTree

set_option autoImplicit false

/-- The text is a valid spelling for the kind: a name, an integer of 63 bits, or a decimal fraction
whose nearest binary number is finite. A string or bytes literal may have any text. -/
def LeafKind.Accepts (kind : LeafKind) (text : String) : Prop :=
  match kind with
  | .identifier => Text.isName text.toList = true
  | .int => ∃ value ≤ largestInteger, SpellsInteger text.toList value
  | .float => ∃ decimal : Decimal, decimal.SpelledBy text.toList ∧ decimal.nearest?.isSome
  | .string => True
  | .bytes => True

/-- A text reads as some content exactly if its kind accepts it. -/
theorem Atom.exists_read_iff {kind : LeafKind} {text : String} :
    (∃ atom, Atom.read kind text = .ok atom) ↔ kind.Accepts text := by
  simp only [Atom.read_eq_ok_iff]
  cases kind with
  | identifier =>
      constructor
      · rintro ⟨atom, sort, rfl⟩
        cases atom with
        | identifier name => exact name.spelled
        | _ => cases sort
      · intro spelled
        exact ⟨.identifier ⟨text, spelled⟩, rfl, rfl⟩
  | int =>
      constructor
      · rintro ⟨atom, sort, rfl⟩
        cases atom with
        | int literal =>
            obtain ⟨spells, small⟩ := readInteger_eq_ok_iff.1 literal.reads
            exact ⟨literal.value, small, spells⟩
        | _ => cases sort
      · rintro ⟨value, small, spells⟩
        exact ⟨.int ⟨text, value, readInteger_eq_ok_iff.2 ⟨spells, small⟩⟩, rfl, rfl⟩
  | float =>
      constructor
      · rintro ⟨atom, sort, rfl⟩
        cases atom with
        | float literal =>
            obtain ⟨decimal, _, spelled, nearest, -⟩ := readFloat_eq_ok_iff.1 literal.reads
            exact ⟨decimal, spelled, Option.isSome_of_eq_some nearest⟩
        | _ => cases sort
      · rintro ⟨decimal, spelled, finite⟩
        obtain ⟨number, nearest⟩ := Option.isSome_iff_exists.1 finite
        have reads := readFloat_eq_ok_iff.2 ⟨decimal, number, spelled, nearest, rfl⟩
        exact ⟨.float ⟨text, .finite false number, reads⟩, rfl, rfl⟩
  | string => exact iff_of_true ⟨.string text, rfl, rfl⟩ trivial
  | bytes => exact iff_of_true ⟨.bytes text, rfl, rfl⟩ trivial

namespace LeafParts

/-- The parts name a span of their source. -/
def Fits (parts : LeafParts) : Prop :=
  parts.start ≤ parts.stop ∧ parts.stop ≤ parts.source.length

theorem not_fits_iff {parts : LeafParts} :
    ¬ parts.Fits ↔ parts.stop < parts.start ∨ parts.source.length < parts.stop := by
  rw [Fits, Decidable.not_and_iff_not_or_not, UInt32.not_le, UInt32.not_le]

/-- A span that does not fit is refused, whatever the text is. -/
theorem exists_mismatch_of_not_fits (kind : LeafKind) {parts : LeafParts} (outside : ¬ parts.Fits) :
    ∃ fault, parts.rebuild (.leaf kind) = .error (.refused (.mismatch (.leaf kind) fault)) := by
  simp only [rebuild, checkSpan]
  by_cases inverted : parts.stop < parts.start
  · exact ⟨_, by rw [if_pos inverted]⟩
  · have beyond := (not_fits_iff.1 outside).resolve_left inverted
    exact ⟨_, by rw [if_neg inverted, if_pos beyond]⟩

/-- On a span that fits, the leaf has the content that its text spells. -/
theorem rebuild_of_fits {kind : LeafKind} {parts : LeafParts} (fits : parts.Fits) :
    parts.rebuild (.leaf kind) = match Atom.read kind parts.text with
      | .ok atom => .ok (.leaf ⟨parts.source, ⟨parts.start, parts.stop, fits.1⟩⟩ atom)
      | .error fault => .error (.refused (.malformedLiteral kind fault)) := by
  simp only [rebuild, checkSpan, if_neg (UInt32.not_lt.2 fits.1), if_neg (UInt32.not_lt.2 fits.2),
    Expr.makeLeaf, Span.between, dif_pos fits.1]
  cases Atom.read kind parts.text <;> rfl

/-- What may come of parts that are to make up a node of the kind, and when. -/
inductive Outcome (kind : NodeKind) (parts : LeafParts) : Except LeafError Expr → Prop where
  /-- No leaf is wanted, or the span does not fit. -/
  | mismatch {fault : PartsFault} (refused : kind.isLeaf = false ∨ ¬ parts.Fits) :
      Outcome kind parts (.error (.refused (.mismatch kind fault)))
  /-- The span fits, but the text spells nothing of the kind. -/
  | malformed {leaf : LeafKind} {fault : LiteralFault} (wanted : kind = .leaf leaf)
      (fits : parts.Fits) (unread : ¬ leaf.Accepts parts.text) :
      Outcome kind parts (.error (.refused (.malformedLiteral leaf fault)))
  /-- There is a leaf of the kind, and it consists of the parts. -/
  | made {leaf : LeafKind} {expr : Expr} (wanted : kind = .leaf leaf) (fits : parts.Fits)
      (accepts : leaf.Accepts parts.text) (sort : expr.kind = kind)
      (consists : expr.decompose? = some parts) : Outcome kind parts (.ok expr)

theorem outcome_rebuild_leaf (kind : LeafKind) (parts : LeafParts) :
    Outcome (.leaf kind) parts (parts.rebuild (.leaf kind)) := by
  by_cases fits : parts.Fits
  · rw [rebuild_of_fits fits]
    cases reads : Atom.read kind parts.text with
    | ok atom =>
        obtain ⟨sort, spelled⟩ := Atom.read_eq_ok_iff.1 reads
        refine .made rfl fits (Atom.exists_read_iff.1 ⟨atom, reads⟩) ?_ ?_
        · rw [Expr.kind, sort]
        · rw [Expr.decompose?, spelled]
    | error fault =>
        refine .malformed rfl fits fun accepts => ?_
        obtain ⟨atom, again⟩ := Atom.exists_read_iff.2 accepts
        rw [reads] at again
        cases again
  · obtain ⟨fault, refused⟩ := exists_mismatch_of_not_fits kind fits
    rw [refused]
    exact .mismatch (.inr fits)

/-- Every attempt to put parts together has one of these outcomes; in particular, no leaf is made on
a span that ends before it starts. -/
theorem outcome_rebuild (kind : NodeKind) (parts : LeafParts) :
    Outcome kind parts (parts.rebuild kind) := by
  cases kind with
  | leaf kind => exact outcome_rebuild_leaf kind parts
  | unaryOperator => exact .mismatch (.inl rfl)
  | binaryOperator => exact .mismatch (.inl rfl)
  | conditional => exact .mismatch (.inl rfl)
  | list => exact .mismatch (.inl rfl)

namespace Outcome

variable {kind : NodeKind} {parts : LeafParts} {result : Except LeafError Expr}

theorem mismatch_iff (outcome : Outcome kind parts result) :
    (∃ fault, result = .error (.refused (.mismatch kind fault))) ↔
      kind.isLeaf = false ∨ ¬ parts.Fits := by
  cases outcome with
  | mismatch refused => exact iff_of_true ⟨_, rfl⟩ refused
  | malformed wanted fits => simp [wanted, NodeKind.isLeaf, fits]
  | made wanted fits => simp [wanted, NodeKind.isLeaf, fits]

theorem malformed_iff (outcome : Outcome kind parts result) :
    (∃ leaf fault, kind = .leaf leaf ∧ result = .error (.refused (.malformedLiteral leaf fault))) ↔
      ∃ leaf, kind = .leaf leaf ∧ parts.Fits ∧ ¬ leaf.Accepts parts.text := by
  cases outcome with
  | mismatch refused =>
      refine iff_of_false (by simp) ?_
      rintro ⟨leaf, rfl, fits, -⟩
      exact refused.elim (by simp [NodeKind.isLeaf]) (absurd fits)
  | malformed wanted fits unread =>
      exact iff_of_true ⟨_, _, wanted, rfl⟩ ⟨_, wanted, fits, unread⟩
  | made wanted fits accepts =>
      refine iff_of_false (by simp) ?_
      rintro ⟨leaf, rfl, -, unread⟩
      cases wanted
      exact unread accepts

theorem made_iff (outcome : Outcome kind parts result) :
    (∃ expr, result = .ok expr ∧ expr.kind = kind ∧ expr.decompose? = some parts) ↔
      ∃ leaf, kind = .leaf leaf ∧ parts.Fits ∧ leaf.Accepts parts.text := by
  cases outcome with
  | mismatch refused =>
      refine iff_of_false (by simp) ?_
      rintro ⟨leaf, rfl, fits, -⟩
      exact refused.elim (by simp [NodeKind.isLeaf]) (absurd fits)
  | malformed wanted fits unread =>
      refine iff_of_false (by simp) ?_
      rintro ⟨leaf, rfl, -, accepts⟩
      cases wanted
      exact unread accepts
  | made wanted fits accepts sort consists =>
      exact iff_of_true ⟨_, rfl, sort, consists⟩ ⟨_, wanted, fits, accepts⟩

theorem ne_invertedSpan (outcome : Outcome kind parts result) (leaf : LeafKind)
    (start stop : Offset) : result ≠ .error (.invertedSpan leaf start stop) := by
  cases outcome <;> simp

end Outcome

end LeafParts

namespace Expr

theorem decompose?_eq_none_iff {expr : Expr} :
    expr.decompose? = none ↔ expr.kind.isLeaf = false := by
  cases expr <;> simp [decompose?, kind, NodeKind.isLeaf]

theorem decompose?_eq_some_iff {expr : Expr} {parts : LeafParts} :
    expr.decompose? = some parts ↔ ∃ place atom, expr = .leaf place atom ∧
      parts = ⟨place.source, place.span.start, atom.text, place.span.stop⟩ := by
  cases expr with
  | leaf place atom =>
      constructor
      · intro consists
        cases consists
        exact ⟨place, atom, rfl, rfl⟩
      · rintro ⟨_, _, same, rfl⟩
        cases same
        rfl
  | _ => simp [decompose?]

/-- The parts of a leaf make it up again if it ends inside its source. -/
theorem rebuild_parts {expr : Expr} {parts : LeafParts} (consists : expr.decompose? = some parts)
    (within : expr.stop ≤ expr.source.length) : parts.rebuild expr.kind = .ok expr := by
  obtain ⟨place, atom, rfl, rfl⟩ := decompose?_eq_some_iff.1 consists
  exact rebuild_leaf_eq_ok_iff.2 ⟨within, makeLeaf_place place atom⟩

/-- The parts of any other leaf are refused for their span. -/
theorem exists_mismatch_parts {expr : Expr} {parts : LeafParts}
    (consists : expr.decompose? = some parts) (beyond : expr.source.length < expr.stop) :
    ∃ fault, parts.rebuild expr.kind = .error (.refused (.mismatch expr.kind fault)) := by
  obtain ⟨place, atom, rfl, rfl⟩ := decompose?_eq_some_iff.1 consists
  exact LeafParts.exists_mismatch_of_not_fits _ (LeafParts.not_fits_iff.2 (.inr beyond))

end Expr

namespace LeafParts

/-- **Taking leaves apart and putting parts together undo one another.** Parts are refused as a
mismatch exactly if no leaf is wanted or their span does not fit, and otherwise as malformed exactly
if the kind does not accept the text; all other parts make up a leaf of the kind that consists of
them, and no span is ever found inverted when the leaf is made. A leaf that ends inside its source
is made up again by its own parts, any other is refused as a mismatch; only composites have none. -/
theorem rebuild_decompose :
    (∀ (kind : NodeKind) (parts : LeafParts),
      ((∃ fault, parts.rebuild kind = .error (.refused (.mismatch kind fault))) ↔
        kind.isLeaf = false ∨ parts.stop < parts.start ∨ parts.source.length < parts.stop) ∧
      ((∃ leaf fault, kind = .leaf leaf ∧
          parts.rebuild kind = .error (.refused (.malformedLiteral leaf fault))) ↔
        ∃ leaf, kind = .leaf leaf ∧ parts.Fits ∧ ¬ leaf.Accepts parts.text) ∧
      ((∃ expr, parts.rebuild kind = .ok expr ∧ expr.kind = kind ∧
          expr.decompose? = some parts) ↔
        ∃ leaf, kind = .leaf leaf ∧ parts.Fits ∧ leaf.Accepts parts.text) ∧
      ∀ leaf start stop, parts.rebuild kind ≠ .error (.invertedSpan leaf start stop)) ∧
    ∀ expr : Expr, (expr.decompose? = none ↔ expr.kind.isLeaf = false) ∧
      ∀ parts, expr.decompose? = some parts →
        (parts.rebuild expr.kind = .ok expr ↔ expr.stop ≤ expr.source.length) ∧
        ((∃ fault, parts.rebuild expr.kind = .error (.refused (.mismatch expr.kind fault))) ↔
          expr.source.length < expr.stop) := by
  refine ⟨fun kind parts => ?_, fun expr => ⟨Expr.decompose?_eq_none_iff, fun parts consists => ?_⟩⟩
  · have outcome := outcome_rebuild kind parts
    rw [← not_fits_iff]
    exact ⟨outcome.mismatch_iff, outcome.malformed_iff, outcome.made_iff, outcome.ne_invertedSpan⟩
  · by_cases within : expr.stop ≤ expr.source.length
    · rw [Expr.rebuild_parts consists within]
      simp [within]
    · have beyond := UInt32.not_le.1 within
      obtain ⟨fault, refused⟩ := Expr.exists_mismatch_parts consists beyond
      rw [refused]
      simp [beyond]

/-! ### A numeral and its parts -/

namespace Example

def assignment : Source :=
  ⟨0, "assignment", "x = 0x2A", by decide⟩

/-- The numeral of the text, as far as the given offset. -/
def numeral (stop : Offset) (ordered : 4 ≤ stop) : Expr :=
  .leaf ⟨assignment, ⟨4, stop, ordered⟩⟩ (.int ⟨"0x2A", 42, rfl⟩)

end Example

/-- A leaf that ends with its text, and the same one ending a byte later. -/
theorem rebuild_decompose_numeral :
    ((Example.numeral 8 (by decide)).decompose? = some ⟨Example.assignment, 4, "0x2A", 8⟩ ∧
      rebuild (.leaf .int) ⟨Example.assignment, 4, "0x2A", 8⟩ =
        .ok (Example.numeral 8 (by decide))) ∧
    (Example.numeral 9 (by decide)).decompose? = some ⟨Example.assignment, 4, "0x2A", 9⟩ ∧
      ∃ fault, rebuild (.leaf .int) ⟨Example.assignment, 4, "0x2A", 9⟩ =
        .error (.refused (.mismatch (.leaf .int) fault)) := by
  refine ⟨⟨rfl, ?_⟩, rfl, ?_⟩
  · exact ((rebuild_decompose.2 (Example.numeral 8 (by decide))).2 _ rfl).1.2 (by decide)
  · exact ((rebuild_decompose.2 (Example.numeral 9 (by decide))).2 _ rfl).2.2 (by decide)

end LeafParts

end ExprTree
