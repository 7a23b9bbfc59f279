/-
# ExprTree.Proofs.Expr.Made — the trees that the makers make

Nothing about an `Expr` as such says that its parts lie in order. `Expr.Made` says that it came out
of the makers: every leaf from one of the three ways to make a leaf, every composite from its maker,
called on trees that were made themselves.

Each maker has one statement that says exactly when it succeeds and with what tree; later proofs go
by these (`makeLeaf_eq_ok_iff` to `makeList_eq_ok_iff`) and open no maker again. A leaf is always
made: its place and its content carry all that its makers ask for (`made_leaf`).
-/
import ExprTree.Expr.Parts

namespace ExprTree

set_option autoImplicit false

/-- A computation with a next step succeeds when both steps do. -/
@[simp] theorem bind_eq_ok_iff {ε α β : Type} {first : Except ε α} {next : α → Except ε β}
    {result : β} :
    (first >>= next) = .ok result ↔ ∃ a, first = .ok a ∧ next a = .ok result := by
  cases first <;> simp [bind, Except.bind]

/-- A computation with a next step fails where one of the two does. -/
theorem bind_eq_error_iff {ε α β : Type} {first : Except ε α} {next : α → Except ε β} {error : ε} :
    (first >>= next) = .error error ↔
      first = .error error ∨ ∃ a, first = .ok a ∧ next a = .error error := by
  cases first <;> simp [bind, Except.bind]

theorem Span.between_eq_ok_iff {start stop : Offset} {span : Span} :
    Span.between start stop = .ok span ↔ span.start = start ∧ span.stop = stop := by
  obtain ⟨start', stop', ordered⟩ := span
  unfold Span.between
  split
  · simp [eq_comm]
  next inverted =>
    simp only [reduceCtorEq, false_iff]
    rintro ⟨rfl, rfl⟩
    exact inverted ordered

theorem Atom.read_eq_ok_iff {kind : LeafKind} {text : String} {atom : Atom} :
    Atom.read kind text = .ok atom ↔ atom.kind = kind ∧ atom.text = text := by
  constructor
  · intro reads
    cases kind with
    | identifier =>
        simp only [Atom.read] at reads
        split at reads
        next name found =>
          cases reads
          exact ⟨rfl, Identifier.ofString?_eq_some_iff.1 found⟩
        · cases reads
    | int =>
        simp only [Atom.read, IntLiteral.ofString] at reads
        split at reads
        · cases reads
          exact ⟨rfl, rfl⟩
        · cases reads
    | float =>
        simp only [Atom.read, FloatLiteral.ofString] at reads
        split at reads
        · cases reads
          exact ⟨rfl, rfl⟩
        · cases reads
    | string =>
        cases reads
        exact ⟨rfl, rfl⟩
    | bytes =>
        cases reads
        exact ⟨rfl, rfl⟩
  · rintro ⟨rfl, rfl⟩
    exact atom.read_text

/-- Whether a place ends inside its source. -/
def Place.Within (place : Place) : Prop :=
  place.span.stop ≤ place.source.length

instance (place : Place) : Decidable place.Within :=
  inferInstanceAs (Decidable (_ ≤ _))

namespace Expr

/-! ## What each maker accepts -/

@[simp] theorem checkOrder_eq_ok_iff {kind : NodeKind} {before after : Offset} {done : Unit} :
    checkOrder kind before after = .ok done ↔ before ≤ after := by
  unfold checkOrder
  split
  next crossed => simp [UInt32.not_le.2 crossed]
  next ordered => simp [UInt32.not_lt.1 ordered]

@[simp] theorem checkSource_eq_ok_iff {kind : NodeKind} {expected : Source} {part : Expr}
    {done : Unit} :
    checkSource kind expected part = .ok done ↔ expected.SameText part.source := by
  unfold checkSource
  split
  next same => simp [same]
  next foreign => simp [foreign]

theorem makeLeaf_eq_ok_iff {kind : LeafKind} {source : Source} {start stop : Offset}
    {text : String} {expr : Expr} :
    makeLeaf kind source start text stop = .ok expr ↔
      ∃ span atom, expr = .leaf ⟨source, span⟩ atom ∧ span.start = start ∧ span.stop = stop ∧
        atom.kind = kind ∧ atom.text = text := by
  constructor
  · intro makes
    unfold makeLeaf at makes
    split at makes
    · cases makes
    next atom reads =>
      split at makes
      · cases makes
      next span ordered =>
        cases makes
        obtain ⟨starts, stops⟩ := Span.between_eq_ok_iff.1 ordered
        obtain ⟨sort, spelled⟩ := Atom.read_eq_ok_iff.1 reads
        exact ⟨span, atom, rfl, starts, stops, sort, spelled⟩
  · rintro ⟨span, atom, rfl, rfl, rfl, rfl, rfl⟩
    have ordered : Span.between span.start span.stop = .ok span :=
      Span.between_eq_ok_iff.2 ⟨rfl, rfl⟩
    simp only [makeLeaf, atom.read_text, ordered]

/-- On the place that it has, a leaf is made again from the text of its content. -/
theorem makeLeaf_place (place : Place) (atom : Atom) :
    makeLeaf atom.kind place.source place.span.start atom.text place.span.stop =
      .ok (.leaf place atom) :=
  makeLeaf_eq_ok_iff.2 ⟨place.span, atom, rfl, rfl, rfl, rfl, rfl⟩

/-- Parts give the leaf that consists of them, if it ends inside its source. -/
theorem rebuild_leaf_eq_ok_iff {kind : LeafKind} {parts : LeafParts} {expr : Expr} :
    parts.rebuild (.leaf kind) = .ok expr ↔
      parts.stop ≤ parts.source.length ∧
        makeLeaf kind parts.source parts.start parts.text parts.stop = .ok expr := by
  unfold LeafParts.rebuild LeafParts.checkSpan
  by_cases inverted : parts.stop < parts.start
  · simp only [if_pos inverted, reduceCtorEq, false_iff, not_and]
    intro _ makes
    obtain ⟨span, atom, -, starts, stops, -⟩ := makeLeaf_eq_ok_iff.1 makes
    rw [← starts, ← stops] at inverted
    exact UInt32.not_le.2 inverted span.start_le_stop
  · by_cases beyond : parts.source.length < parts.stop
    · simp [if_neg inverted, if_pos beyond, UInt32.not_le.2 beyond]
    · simp [if_neg inverted, if_neg beyond, UInt32.not_lt.1 beyond]

theorem makeUnary_eq_ok_iff {op : UnaryOp} {opOffset : Offset} {operand expr : Expr} :
    makeUnary op opOffset operand = .ok expr ↔
      opOffset ≤ operand.start ∧ expr = .unary op opOffset operand := by
  simp only [makeUnary, bind_eq_ok_iff, checkOrder_eq_ok_iff, pure, Except.pure, Except.ok.injEq,
    exists_and_left, exists_const, @eq_comm _ expr]

theorem makeBinary_eq_ok_iff {lhs rhs expr : Expr} {op : BinaryOp} {opOffset : Offset} :
    makeBinary lhs op opOffset rhs = .ok expr ↔
      (lhs.stop ≤ opOffset ∧ opOffset ≤ rhs.start ∧ lhs.source.SameText rhs.source) ∧
        expr = .binary lhs op opOffset rhs := by
  simp only [makeBinary, bind_eq_ok_iff, checkOrder_eq_ok_iff, checkSource_eq_ok_iff, pure,
    Except.pure, Except.ok.injEq, exists_and_left, exists_const, and_assoc, @eq_comm _ expr]

theorem makeConditional_eq_ok_iff {thenCase condition elseCase expr : Expr} :
    makeConditional thenCase condition elseCase = .ok expr ↔
      (thenCase.stop ≤ condition.start ∧ condition.stop ≤ elseCase.start ∧
        thenCase.source.SameText condition.source ∧ thenCase.source.SameText elseCase.source) ∧
        expr = .conditional thenCase condition elseCase := by
  simp only [makeConditional, bind_eq_ok_iff, checkOrder_eq_ok_iff, checkSource_eq_ok_iff, pure,
    Except.pure, Except.ok.injEq, exists_and_left, exists_const, and_assoc, @eq_comm _ expr]

/-- The elements come from texts equal to that of the source and lie one after the other between
two offsets. -/
def InRow (source : Source) (cursor : Offset) (elements : List Expr) (stop : Offset) : Prop :=
  match elements with
  | [] => cursor ≤ stop
  | element :: rest =>
      source.SameText element.source ∧ cursor ≤ element.start ∧ InRow source element.stop rest stop

theorem inRow_iff_checkElements {source : Source} {cursor stop : Offset} {elements : List Expr} :
    InRow source cursor elements stop ↔
      ∃ last, checkElements source cursor elements = .ok last ∧ last ≤ stop := by
  induction elements generalizing cursor with
  | nil => simp [InRow, checkElements]
  | cons element rest ih =>
      simp only [InRow, checkElements, ih, bind_eq_ok_iff, checkOrder_eq_ok_iff,
        checkSource_eq_ok_iff, exists_and_left, exists_const, and_assoc]

theorem makeList_eq_ok_iff {source : Source} {start stop : Offset} {elements : List Expr}
    {expr : Expr} :
    makeList source start elements stop = .ok expr ↔
      ∃ span, expr = .list ⟨source, span⟩ elements ∧ span.start = start ∧ span.stop = stop ∧
        stop ≤ source.length ∧ InRow source start elements stop := by
  unfold makeList
  split
  next inverted =>
    simp only [reduceCtorEq, false_iff, not_exists]
    rintro span ⟨-, starts, stops, -⟩
    rw [Span.between_eq_ok_iff.2 ⟨starts, stops⟩] at inverted
    cases inverted
  next span between =>
    obtain ⟨rfl, rfl⟩ := Span.between_eq_ok_iff.1 between
    split
    next beyond =>
      simp only [reduceCtorEq, false_iff, not_exists]
      rintro other ⟨-, -, -, within, -⟩
      exact UInt32.not_le.2 beyond within
    next within =>
      simp only [bind_eq_ok_iff, checkOrder_eq_ok_iff, pure, Except.pure, Except.ok.injEq,
        exists_and_left, exists_const, inRow_iff_checkElements]
      constructor
      · rintro ⟨last, checked, inside, rfl⟩
        exact ⟨span, rfl, rfl, rfl, UInt32.not_lt.1 within, last, checked, inside⟩
      · rintro ⟨other, rfl, starts, stops, -, last, checked, inside⟩
        refine ⟨last, checked, inside, ?_⟩
        obtain ⟨start', stop', ordered⟩ := other
        obtain rfl : start' = span.start := starts
        obtain rfl : stop' = span.stop := stops
        rfl

/-! ## Made trees -/

/-- The tree comes out of the makers. -/
inductive Made : Expr → Prop where
  | leaf {kind : LeafKind} {source : Source} {start stop : Offset} {text : String} {expr : Expr}
      (makes : makeLeaf kind source start text stop = .ok expr) : Made expr
  | literal {bytes : Bool} {source : Source} {start stop : Offset} {spelling : String} {expr : Expr}
      (makes : readLiteral bytes source start spelling stop = .ok expr) : Made expr
  | rebuilt {kind : NodeKind} {parts : LeafParts} {expr : Expr}
      (makes : parts.rebuild kind = .ok expr) : Made expr
  | unary {op : UnaryOp} {opOffset : Offset} {operand expr : Expr} (operandMade : Made operand)
      (makes : makeUnary op opOffset operand = .ok expr) : Made expr
  | binary {lhs rhs expr : Expr} {op : BinaryOp} {opOffset : Offset} (lhsMade : Made lhs)
      (rhsMade : Made rhs) (makes : makeBinary lhs op opOffset rhs = .ok expr) : Made expr
  | conditional {thenCase condition elseCase expr : Expr} (thenMade : Made thenCase)
      (conditionMade : Made condition) (elseMade : Made elseCase)
      (makes : makeConditional thenCase condition elseCase = .ok expr) : Made expr
  | list {source : Source} {start stop : Offset} {elements : List Expr} {expr : Expr}
      (elementsMade : ∀ element ∈ elements, Made element)
      (makes : makeList source start elements stop = .ok expr) : Made expr

theorem made_leaf (place : Place) (atom : Atom) : Made (.leaf place atom) :=
  .leaf (makeLeaf_place place atom)

end Expr

end ExprTree
