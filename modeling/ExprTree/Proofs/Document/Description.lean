/-
# ExprTree.Proofs.Document.Description — what a record says, and what decoding makes of it

`Record.Describes sources record tree` says that the record spells the tree, its indices being
those of a row of source units: the kinds, the operators, the contents and the offsets are those of
the tree, and each index names the unit of the leaf or list that carries it. It asks nothing about
the order of the parts.

Main statements:

* `toExpr_eq_ok_iff`: decoding gives a tree exactly if the record describes it, the makers make it,
  and its leaves end inside their sources;
* `toExpr_of_leaf_beyond`: a record of a made tree with a leaf that ends beyond its source is
  refused because its parts make up no node;
* `registerAll_getElem?_iff`: the units that decoding registers are the entries of the table, under
  serial numbers that count up.
-/
import ExprTree.Document.Decode
import ExprTree.Proofs.Expr.Order

namespace ExprTree

set_option autoImplicit false

@[simp] theorem mapError_eq_ok_iff {ε ε' α : Type} {result : Except ε α} {change : ε → ε'}
    {value : α} :
    result.mapError change = .ok value ↔ result = .ok value := by
  cases result <;> simp [Except.mapError]

@[simp] theorem UnaryOp.ofSymbol?_eq_some_iff {symbol : String} {op : UnaryOp} :
    ofSymbol? symbol = some op ↔ op.symbol = symbol := by
  constructor
  · intro found
    unfold ofSymbol? at found
    simpa using List.find?_some found
  · rintro rfl
    exact ofSymbol?_symbol op

@[simp] theorem BinaryOp.ofSymbol?_eq_some_iff {symbol : String} {op : BinaryOp} :
    ofSymbol? symbol = some op ↔ op.symbol = symbol := by
  constructor
  · intro found
    unfold ofSymbol? at found
    simpa using List.find?_some found
  · rintro rfl
    exact ofSymbol?_symbol op

/-! ## Registering a table -/

namespace Document

theorem registerAll_cons_eq_ok_iff {serial : Nat} {record : SourceRecord}
    {rest : List SourceRecord} {sources : List Source} :
    registerAll serial (record :: rest) = .ok sources ↔
      ∃ fits units, registerAll (serial + 1) rest = .ok units ∧
        sources = ⟨serial, record.file, record.text, fits⟩ :: units := by
  rw [registerAll, Source.register?]
  by_cases fits : record.text.utf8ByteSize < UInt32.size
  · rw [dif_pos fits]
    cases registerAll (serial + 1) rest with
    | error refusal =>
        constructor
        · intro failed
          cases failed
        · rintro ⟨-, units, failed, -⟩
          cases failed
    | ok units =>
        constructor
        · intro registered
          cases registered
          exact ⟨fits, units, rfl, rfl⟩
        · rintro ⟨-, others, same, rfl⟩
          cases same
          rfl
  · rw [dif_neg fits]
    constructor
    · intro failed
      cases failed
    · rintro ⟨fits', -⟩
      exact absurd fits' fits

theorem exists_registerAll_iff (serial : Nat) {records : List SourceRecord} :
    (∃ sources, registerAll serial records = .ok sources) ↔
      ∀ record ∈ records, record.text.utf8ByteSize < UInt32.size := by
  induction records generalizing serial with
  | nil => simp [registerAll]
  | cons record rest ih =>
      rw [List.forall_mem_cons, ← ih (serial + 1)]
      simp only [registerAll_cons_eq_ok_iff]
      constructor
      · rintro ⟨_, fits, units, later, -⟩
        exact ⟨fits, units, later⟩
      · rintro ⟨fits, units, later⟩
        exact ⟨_, fits, units, later, rfl⟩

/-- The units that are registered are the entries of the table, under serial numbers that count
up. -/
theorem registerAll_getElem?_iff {serial : Nat} {records : List SourceRecord}
    {sources : List Source} (registered : registerAll serial records = .ok sources) (index : Nat)
    (unit : Source) :
    sources[index]? = some unit ↔
      unit.serial = serial + index ∧ records[index]? = some unit.toRecord := by
  induction records generalizing serial sources index with
  | nil =>
      cases registered
      simp
  | cons record rest ih =>
      obtain ⟨fits, units, later, rfl⟩ := registerAll_cons_eq_ok_iff.1 registered
      cases index with
      | zero =>
          obtain ⟨serial', file, text, fits'⟩ := unit
          obtain ⟨file', text'⟩ := record
          simp only [List.getElem?_cons_zero, Option.some.injEq, Source.mk.injEq,
            SourceRecord.mk.injEq, Source.toRecord, Nat.add_zero]
          exact and_congr_left' eq_comm
      | succ index =>
          rw [List.getElem?_cons_succ, List.getElem?_cons_succ, ih later, Nat.add_assoc,
            Nat.add_comm 1]

/-- The units that are registered hold what the entries of the table hold. -/
theorem map_toRecord_of_registerAll {serial : Nat} {records : List SourceRecord}
    {sources : List Source} (registered : registerAll serial records = .ok sources) :
    sources.map Source.toRecord = records := by
  induction records generalizing serial sources with
  | nil =>
      cases registered
      rfl
  | cons record rest ih =>
      obtain ⟨fits, units, later, rfl⟩ := registerAll_cons_eq_ok_iff.1 registered
      rw [List.map_cons, ih later]
      rfl

/-- Different indices of a registered table name different units. -/
theorem index_inj_of_registerAll {serial : Nat} {records : List SourceRecord}
    {sources : List Source} (registered : registerAll serial records = .ok sources)
    {index index' : Nat} {unit : Source} (entry : sources[index]? = some unit)
    (entry' : sources[index']? = some unit) : index = index' := by
  have first := ((registerAll_getElem?_iff registered index unit).1 entry).1
  have second := ((registerAll_getElem?_iff registered index' unit).1 entry').1
  exact Nat.add_left_cancel (first.symm.trans second)

theorem decode_eq_ok_iff {serial : Nat} {document : Document} {tree : Expr} :
    document.decode serial = .ok tree ↔ ∃ sources,
      registerAll serial document.sources = .ok sources ∧
        document.root.toExpr sources = .ok tree :=
  bind_eq_ok_iff

end Document

/-! ## Describing a tree -/

namespace Record

/-- The record spells the tree, its indices being those of a row of source units. -/
inductive Describes (sources : List Source) : Record → Expr → Prop where
  | leaf {index : Nat} (place : Place) {atom : Atom}
      (entry : sources[index]? = some place.source) :
      Describes sources
        (.leaf ⟨atom.kind, index, place.span.start, atom.text, place.span.stop⟩)
        (.leaf place atom)
  | unary {op : UnaryOp} {opOffset : Offset} {operand : Record} {tree : Expr}
      (describes : Describes sources operand tree) :
      Describes sources (.unary op.symbol opOffset operand) (.unary op opOffset tree)
  | binary {lhs rhs : Record} {op : BinaryOp} {opOffset : Offset} {lhsTree rhsTree : Expr}
      (lhsDescribes : Describes sources lhs lhsTree)
      (rhsDescribes : Describes sources rhs rhsTree) :
      Describes sources (.binary lhs op.symbol opOffset rhs) (.binary lhsTree op opOffset rhsTree)
  | conditional {thenCase condition elseCase : Record} {thenTree conditionTree elseTree : Expr}
      (thenDescribes : Describes sources thenCase thenTree)
      (conditionDescribes : Describes sources condition conditionTree)
      (elseDescribes : Describes sources elseCase elseTree) :
      Describes sources (.conditional thenCase condition elseCase)
        (.conditional thenTree conditionTree elseTree)
  | list {index : Nat} (place : Place) {elements : List Record} {trees : List Expr}
      (entry : sources[index]? = some place.source)
      (describes : List.Forall₂ (Describes sources) elements trees) :
      Describes sources (.list index place.span.start elements place.span.stop) (.list place trees)

variable {sources : List Source}

/-- The induction on descriptions, with the elements of a list as a whole. -/
theorem Describes.induct {motive : Record → Expr → Prop}
    (leaf : ∀ (index : Nat) (place : Place) (atom : Atom), sources[index]? = some place.source →
      motive (.leaf ⟨atom.kind, index, place.span.start, atom.text, place.span.stop⟩)
        (.leaf place atom))
    (unary : ∀ (op : UnaryOp) (opOffset : Offset) {operand : Record} {tree : Expr},
      motive operand tree → motive (.unary op.symbol opOffset operand) (.unary op opOffset tree))
    (binary : ∀ (op : BinaryOp) (opOffset : Offset) {lhs rhs : Record} {lhsTree rhsTree : Expr},
      motive lhs lhsTree → motive rhs rhsTree →
        motive (.binary lhs op.symbol opOffset rhs) (.binary lhsTree op opOffset rhsTree))
    (conditional : ∀ {thenCase condition elseCase : Record}
      {thenTree conditionTree elseTree : Expr}, motive thenCase thenTree →
        motive condition conditionTree → motive elseCase elseTree →
        motive (.conditional thenCase condition elseCase)
          (.conditional thenTree conditionTree elseTree))
    (list : ∀ (index : Nat) (place : Place) {elements : List Record} {trees : List Expr},
      sources[index]? = some place.source → List.Forall₂ motive elements trees →
        motive (.list index place.span.start elements place.span.stop) (.list place trees))
    {record : Record} {tree : Expr} (describes : Describes sources record tree) :
    motive record tree := by
  refine Describes.rec (motive_1 := fun record tree _ => motive record tree)
    (motive_2 := fun records trees _ => List.Forall₂ motive records trees)
    ?_ ?_ ?_ ?_ ?_ ?_ ?_ describes
  · intro index place atom entry
    exact leaf index place atom entry
  · intro op opOffset operand tree _ ofOperand
    exact unary op opOffset ofOperand
  · intro lhs rhs op opOffset lhsTree rhsTree _ _ ofLhs ofRhs
    exact binary op opOffset ofLhs ofRhs
  · intro thenCase condition elseCase thenTree conditionTree elseTree _ _ _ ofThen ofCondition
      ofElse
    exact conditional ofThen ofCondition ofElse
  · intro index place elements trees entry _ ofElements
    exact list index place entry ofElements
  · exact .nil
  · intro record tree rest others _ _ ofRecord ofRest
    exact .cons ofRecord ofRest

@[simp] theorem sourceAt_eq_ok_iff {index : Nat} {unit : Source} :
    sourceAt sources index = .ok unit ↔ sources[index]? = some unit := by
  unfold sourceAt
  split
  next found => simp [found]
  next missing => simp [missing]

@[simp] theorem operatorOf_eq_ok_iff {Op : Type} {kind : NodeKind} {ofSymbol? : String → Option Op}
    {symbol : String} {op : Op} :
    operatorOf kind ofSymbol? symbol = .ok op ↔ ofSymbol? symbol = some op := by
  unfold operatorOf
  split
  next found => simp [found]
  next missing => simp [missing]

/-! ### What decoding asks of each shape -/

theorem toExpr_leaf_eq_ok_iff {parts : LeafRecord} {tree : Expr} :
    toExpr sources (.leaf parts) = .ok tree ↔
      ∃ unit, sources[parts.source]? = some unit ∧ parts.stop ≤ unit.length ∧
        Expr.makeLeaf parts.kind unit parts.start parts.text parts.stop = .ok tree := by
  simp only [toExpr, bind_eq_ok_iff, sourceAt_eq_ok_iff, mapError_eq_ok_iff,
    Expr.rebuild_leaf_eq_ok_iff]

theorem toExpr_unary_eq_ok_iff {symbol : String} {opOffset : Offset} {operand : Record}
    {tree : Expr} :
    toExpr sources (.unary symbol opOffset operand) = .ok tree ↔
      ∃ op : UnaryOp, op.symbol = symbol ∧ ∃ operandTree, toExpr sources operand = .ok operandTree ∧
        opOffset ≤ operandTree.start ∧ tree = .unary op opOffset operandTree := by
  simp only [toExpr, bind_eq_ok_iff, operatorOf_eq_ok_iff, UnaryOp.ofSymbol?_eq_some_iff,
    InterchangeError.lift, mapError_eq_ok_iff, Expr.makeUnary_eq_ok_iff]

theorem toExpr_binary_eq_ok_iff {lhs rhs : Record} {symbol : String} {opOffset : Offset}
    {tree : Expr} :
    toExpr sources (.binary lhs symbol opOffset rhs) = .ok tree ↔
      ∃ op : BinaryOp, op.symbol = symbol ∧ ∃ lhsTree, toExpr sources lhs = .ok lhsTree ∧
        ∃ rhsTree, toExpr sources rhs = .ok rhsTree ∧
          (lhsTree.stop ≤ opOffset ∧ opOffset ≤ rhsTree.start ∧
            lhsTree.source.SameText rhsTree.source) ∧
          tree = .binary lhsTree op opOffset rhsTree := by
  simp only [toExpr, bind_eq_ok_iff, operatorOf_eq_ok_iff, BinaryOp.ofSymbol?_eq_some_iff,
    InterchangeError.lift, mapError_eq_ok_iff, Expr.makeBinary_eq_ok_iff]

theorem toExpr_conditional_eq_ok_iff {thenCase condition elseCase : Record} {tree : Expr} :
    toExpr sources (.conditional thenCase condition elseCase) = .ok tree ↔
      ∃ thenTree, toExpr sources thenCase = .ok thenTree ∧
        ∃ conditionTree, toExpr sources condition = .ok conditionTree ∧
          ∃ elseTree, toExpr sources elseCase = .ok elseTree ∧
            (thenTree.stop ≤ conditionTree.start ∧ conditionTree.stop ≤ elseTree.start ∧
              thenTree.source.SameText conditionTree.source ∧
              thenTree.source.SameText elseTree.source) ∧
            tree = .conditional thenTree conditionTree elseTree := by
  simp only [toExpr, bind_eq_ok_iff, InterchangeError.lift, mapError_eq_ok_iff,
    Expr.makeConditional_eq_ok_iff]

theorem toExprs_eq_ok_iff {records : List Record} {trees : List Expr} :
    toExprs sources records = .ok trees ↔
      List.Forall₂ (fun record tree => toExpr sources record = .ok tree) records trees := by
  induction records generalizing trees with
  | nil => simp [toExprs, List.forall₂_nil_left_iff, eq_comm]
  | cons record rest ih =>
      simp only [toExprs, bind_eq_ok_iff, ih, pure, Except.pure, Except.ok.injEq]
      constructor
      · rintro ⟨tree, first, others, each, rfl⟩
        exact .cons first each
      · rintro (_ | ⟨first, each⟩)
        exact ⟨_, first, _, each, rfl⟩

theorem toExpr_list_eq_ok_iff {index : Nat} {start stop : Offset} {elements : List Record}
    {tree : Expr} :
    toExpr sources (.list index start elements stop) = .ok tree ↔
      ∃ unit, sources[index]? = some unit ∧ ∃ trees,
        List.Forall₂ (fun record tree => toExpr sources record = .ok tree) elements trees ∧
          Expr.makeList unit start trees stop = .ok tree := by
  simp only [toExpr, bind_eq_ok_iff, sourceAt_eq_ok_iff, toExprs_eq_ok_iff, InterchangeError.lift,
    mapError_eq_ok_iff]

/-! ### Decoding gives what is described -/

theorem forall₂_toExpr_iff {elements : List Record} {trees : List Expr}
    (each : ∀ record ∈ elements, ∀ {tree}, record.toExpr sources = .ok tree ↔
      Describes sources record tree ∧ tree.Made ∧ tree.Everywhere Expr.LeafWithin) :
    List.Forall₂ (fun record tree => toExpr sources record = .ok tree) elements trees ↔
      List.Forall₂ (Describes sources) elements trees ∧ (∀ tree ∈ trees, tree.Made) ∧
        ∀ tree ∈ trees, tree.Everywhere Expr.LeafWithin := by
  induction elements generalizing trees with
  | nil =>
      cases trees with
      | nil => simp
      | cons tree others => simp
  | cons record rest ih =>
      cases trees with
      | nil => simp
      | cons tree others =>
          have first := @each record (by simp) tree
          have later := @ih others fun other member => each other (by simp [member])
          rw [List.forall₂_cons, List.forall₂_cons, List.forall_mem_cons, List.forall_mem_cons,
            first, later]
          tauto

/-- Decoding gives a tree exactly if the record describes it, the makers make it, and its leaves end
inside their sources. -/
theorem toExpr_eq_ok_iff {record : Record} {tree : Expr} :
    record.toExpr sources = .ok tree ↔
      Describes sources record tree ∧ tree.Made ∧ tree.Everywhere Expr.LeafWithin := by
  induction record using Record.induct generalizing tree with
  | leaf parts =>
      rw [toExpr_leaf_eq_ok_iff]
      constructor
      · rintro ⟨unit, entry, within, makes⟩
        obtain ⟨span, atom, rfl, starts, stops, sort, spelled⟩ := Expr.makeLeaf_eq_ok_iff.1 makes
        obtain ⟨kind, index, start, text, stop⟩ := parts
        simp only at starts stops sort spelled
        subst starts stops sort spelled
        exact ⟨.leaf ⟨unit, span⟩ entry, Expr.made_leaf _ atom,
          Expr.everywhere_leaf.2 within⟩
      · rintro ⟨describes, -, within⟩
        cases describes with
        | @leaf index place atom entry =>
            exact ⟨place.source, entry, Expr.everywhere_leaf.1 within,
              Expr.makeLeaf_eq_ok_iff.2 ⟨place.span, atom, rfl, rfl, rfl, rfl, rfl⟩⟩
  | unary symbol opOffset operand ih =>
      rw [toExpr_unary_eq_ok_iff]
      constructor
      · rintro ⟨op, rfl, operandTree, decoded, order, rfl⟩
        obtain ⟨describes, made, within⟩ := ih.1 decoded
        exact ⟨.unary describes, Expr.made_unary_iff.2 ⟨made, order⟩,
          Expr.everywhere_unary.2 ⟨trivial, within⟩⟩
      · rintro ⟨describes, made, within⟩
        cases describes with
        | @unary op _ _ operandTree describes =>
            obtain ⟨operandMade, order⟩ := Expr.made_unary_iff.1 made
            have operandWithin := (Expr.everywhere_unary.1 within).2
            exact ⟨op, rfl, operandTree, ih.2 ⟨describes, operandMade, operandWithin⟩, order, rfl⟩
  | binary lhs symbol opOffset rhs ihl ihr =>
      rw [toExpr_binary_eq_ok_iff]
      constructor
      · rintro ⟨op, rfl, lhsTree, lhsDecoded, rhsTree, rhsDecoded, accepts, rfl⟩
        obtain ⟨lhsDescribes, lhsMade, lhsWithin⟩ := ihl.1 lhsDecoded
        obtain ⟨rhsDescribes, rhsMade, rhsWithin⟩ := ihr.1 rhsDecoded
        exact ⟨.binary lhsDescribes rhsDescribes,
          Expr.made_binary_iff.2 ⟨lhsMade, rhsMade, accepts⟩,
          Expr.everywhere_binary.2 ⟨trivial, lhsWithin, rhsWithin⟩⟩
      · rintro ⟨describes, made, within⟩
        cases describes with
        | @binary _ _ op _ lhsTree rhsTree lhsDescribes rhsDescribes =>
            obtain ⟨lhsMade, rhsMade, accepts⟩ := Expr.made_binary_iff.1 made
            obtain ⟨-, lhsWithin, rhsWithin⟩ := Expr.everywhere_binary.1 within
            exact ⟨op, rfl, lhsTree, ihl.2 ⟨lhsDescribes, lhsMade, lhsWithin⟩, rhsTree,
              ihr.2 ⟨rhsDescribes, rhsMade, rhsWithin⟩, accepts, rfl⟩
  | conditional thenCase condition elseCase iht ihc ihe =>
      rw [toExpr_conditional_eq_ok_iff]
      constructor
      · rintro ⟨thenTree, thenDecoded, conditionTree, conditionDecoded, elseTree, elseDecoded,
          accepts, rfl⟩
        obtain ⟨thenDescribes, thenMade, thenWithin⟩ := iht.1 thenDecoded
        obtain ⟨conditionDescribes, conditionMade, conditionWithin⟩ := ihc.1 conditionDecoded
        obtain ⟨elseDescribes, elseMade, elseWithin⟩ := ihe.1 elseDecoded
        exact ⟨.conditional thenDescribes conditionDescribes elseDescribes,
          Expr.made_conditional_iff.2 ⟨thenMade, conditionMade, elseMade, accepts⟩,
          Expr.everywhere_conditional.2 ⟨trivial, thenWithin, conditionWithin, elseWithin⟩⟩
      · rintro ⟨describes, made, within⟩
        cases describes with
        | conditional thenDescribes conditionDescribes elseDescribes =>
            obtain ⟨thenMade, conditionMade, elseMade, accepts⟩ := Expr.made_conditional_iff.1 made
            obtain ⟨-, thenWithin, conditionWithin, elseWithin⟩ :=
              Expr.everywhere_conditional.1 within
            exact ⟨_, iht.2 ⟨thenDescribes, thenMade, thenWithin⟩, _,
              ihc.2 ⟨conditionDescribes, conditionMade, conditionWithin⟩, _,
              ihe.2 ⟨elseDescribes, elseMade, elseWithin⟩, accepts, rfl⟩
  | list index start elements stop ih =>
      rw [toExpr_list_eq_ok_iff]
      constructor
      · rintro ⟨unit, entry, trees, decoded, makes⟩
        obtain ⟨span, rfl, rfl, rfl, within, row⟩ := Expr.makeList_eq_ok_iff.1 makes
        obtain ⟨describes, treesMade, treesWithin⟩ := (forall₂_toExpr_iff ih).1 decoded
        exact ⟨.list ⟨unit, span⟩ entry describes,
          Expr.made_list_iff.2 ⟨treesMade, within, row⟩,
          Expr.everywhere_list.2 ⟨trivial, treesWithin⟩⟩
      · rintro ⟨describes, made, within⟩
        cases describes with
        | @list _ place _ trees entry describes =>
            obtain ⟨treesMade, placeWithin, row⟩ := Expr.made_list_iff.1 made
            obtain ⟨-, treesWithin⟩ := Expr.everywhere_list.1 within
            exact ⟨place.source, entry, trees,
              (forall₂_toExpr_iff ih).2 ⟨describes, treesMade, treesWithin⟩,
              Expr.makeList_eq_ok_iff.2 ⟨place.span, rfl, rfl, rfl, placeWithin, row⟩⟩

/-! ### Leaves beyond their sources -/

/-- Refused because parts make up no node. -/
def IsMismatch {α : Type} (result : Except InterchangeError α) : Prop :=
  ∃ kind fault, result = .error (.refused (.mismatch kind fault))

section Steps

variable {α β : Type} {first : Except InterchangeError α} {next : α → Except InterchangeError β}

/-- The first step is refused. -/
theorem IsMismatch.bind (stopped : IsMismatch first) : IsMismatch (first >>= next) := by
  obtain ⟨kind, fault, rfl⟩ := stopped
  exact ⟨kind, fault, rfl⟩

/-- The first step is taken, and what follows is refused. -/
theorem IsMismatch.later {value : α} (done : first = .ok value)
    (stopped : IsMismatch (next value)) : IsMismatch (first >>= next) := by
  rw [done]
  exact stopped

end Steps

theorem toExpr_of_describes {record : Record} {tree : Expr}
    (describes : Describes sources record tree) (made : tree.Made)
    (within : tree.Everywhere Expr.LeafWithin) : record.toExpr sources = .ok tree :=
  toExpr_eq_ok_iff.2 ⟨describes, made, within⟩

/-- The first row with a leaf beyond its source stops the decoding of all rows. -/
theorem toExprs_of_leaf_beyond {records : List Record} {trees : List Expr}
    (describes : List.Forall₂ (Describes sources) records trees)
    (made : ∀ tree ∈ trees, tree.Made)
    (refused : ∀ record ∈ records, ∀ {tree}, Describes sources record tree → tree.Made →
      ¬ tree.Everywhere Expr.LeafWithin → IsMismatch (record.toExpr sources))
    (beyond : ¬ ∀ tree ∈ trees, tree.Everywhere Expr.LeafWithin) :
    IsMismatch (toExprs sources records) := by
  induction describes with
  | nil => simp at beyond
  | @cons record tree rest others first _ ih =>
      rw [List.forall_mem_cons] at made
      rw [toExprs]
      by_cases within : tree.Everywhere Expr.LeafWithin
      · have later := ih made.2 (fun other member => refused other (by simp [member]))
          fun others => beyond (List.forall_mem_cons.2 ⟨within, others⟩)
        exact .later (toExpr_of_describes first made.1 within) later.bind
      · exact .bind (refused record (by simp) first made.1 within)

/-- A record of a made tree with a leaf that ends beyond its source is refused because its parts
make up no node. -/
theorem toExpr_of_leaf_beyond {record : Record} {tree : Expr}
    (describes : Describes sources record tree) (made : tree.Made)
    (beyond : ¬ tree.Everywhere Expr.LeafWithin) : IsMismatch (record.toExpr sources) := by
  induction record using Record.induct generalizing tree with
  | leaf parts =>
      cases describes with
      | @leaf index place atom entry =>
          rw [Expr.everywhere_leaf] at beyond
          have ordered : ¬ place.span.stop < place.span.start :=
            UInt32.not_lt.2 place.span.start_le_stop
          have past : place.source.length < place.span.stop := UInt32.not_le.1 beyond
          rw [toExpr]
          refine .later (sourceAt_eq_ok_iff.2 entry) ?_
          rw [LeafParts.rebuild, LeafParts.checkSpan, if_neg ordered, if_pos past]
          exact ⟨_, _, rfl⟩
  | unary symbol opOffset operand ih =>
      cases describes with
      | @unary op _ _ operandTree describes =>
          rw [Expr.everywhere_unary] at beyond
          have stopped := ih describes (Expr.made_unary_iff.1 made).1
            fun within => beyond ⟨trivial, within⟩
          rw [toExpr]
          exact .later (operatorOf_eq_ok_iff.2 op.ofSymbol?_symbol) stopped.bind
  | binary lhs symbol opOffset rhs ihl ihr =>
      cases describes with
      | @binary _ _ op _ lhsTree rhsTree lhsDescribes rhsDescribes =>
          obtain ⟨lhsMade, rhsMade, -⟩ := Expr.made_binary_iff.1 made
          rw [Expr.everywhere_binary] at beyond
          rw [toExpr]
          refine .later (operatorOf_eq_ok_iff.2 op.ofSymbol?_symbol) ?_
          by_cases lhsWithin : lhsTree.Everywhere Expr.LeafWithin
          · have stopped := ihr rhsDescribes rhsMade
              fun rhsWithin => beyond ⟨trivial, lhsWithin, rhsWithin⟩
            exact .later (toExpr_of_describes lhsDescribes lhsMade lhsWithin) stopped.bind
          · exact .bind (ihl lhsDescribes lhsMade lhsWithin)
  | conditional thenCase condition elseCase iht ihc ihe =>
      cases describes with
      | @conditional _ _ _ thenTree conditionTree elseTree thenDescribes conditionDescribes
          elseDescribes =>
          obtain ⟨thenMade, conditionMade, elseMade, -⟩ := Expr.made_conditional_iff.1 made
          rw [Expr.everywhere_conditional] at beyond
          rw [toExpr]
          by_cases thenWithin : thenTree.Everywhere Expr.LeafWithin
          · refine .later (toExpr_of_describes thenDescribes thenMade thenWithin) ?_
            by_cases conditionWithin : conditionTree.Everywhere Expr.LeafWithin
            · have stopped := ihe elseDescribes elseMade
                fun elseWithin => beyond ⟨trivial, thenWithin, conditionWithin, elseWithin⟩
              exact .later
                (toExpr_of_describes conditionDescribes conditionMade conditionWithin) stopped.bind
            · exact .bind (ihc conditionDescribes conditionMade conditionWithin)
          · exact .bind (iht thenDescribes thenMade thenWithin)
  | list index start elements stop ih =>
      cases describes with
      | @list _ place _ trees entry describes =>
          rw [Expr.everywhere_list] at beyond
          have stopped := toExprs_of_leaf_beyond describes (Expr.made_list_iff.1 made).1
            (fun record member => ih record member) fun within => beyond ⟨trivial, within⟩
          rw [toExpr]
          exact .later (sourceAt_eq_ok_iff.2 entry) stopped.bind

end Record

end ExprTree
