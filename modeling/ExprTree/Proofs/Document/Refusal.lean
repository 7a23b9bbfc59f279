/-
# ExprTree.Proofs.Document.Refusal — what a refused document is blamed for

`Record.Blames` says what an error of decoding claims about a record: an unknown source is an index
that occurs in it and is not in the table, a malformed literal is a leaf of the kind whose text is
refused for that reason, on a span that is in order. The other refusals are mismatches: the makers
know no others (`mismatch_of_makeUnary` to `mismatch_of_makeList`). A record takes the blame of its
parts on (`Blames.mono`), so whatever error comes out of a tree, it blames that tree
(`blames_of_toExpr`).

Main statement: `decode_wellFormed`, which puts this beside the documents that are accepted.
-/
import ExprTree.Proofs.Document.WellFormed
import ExprTree.Proofs.Expr.Parts

namespace ExprTree

set_option autoImplicit false

def SyntaxError.IsMismatch : SyntaxError → Prop
  | .mismatch _ _ => True
  | _ => False

namespace Expr

/-! ## The refusals of makers -/

theorem mismatch_of_checkOrder {kind : NodeKind} {before after : Offset} {error : SyntaxError}
    (failed : checkOrder kind before after = .error error) : error.IsMismatch := by
  unfold checkOrder at failed
  split at failed
  · cases failed
    trivial
  · cases failed

theorem mismatch_of_checkSource {kind : NodeKind} {expected : Source} {part : Expr}
    {error : SyntaxError} (failed : checkSource kind expected part = .error error) :
    error.IsMismatch := by
  unfold checkSource at failed
  split at failed
  · cases failed
  · cases failed
    trivial

theorem mismatch_of_makeUnary {op : UnaryOp} {opOffset : Offset} {operand : Expr}
    {error : SyntaxError} (failed : makeUnary op opOffset operand = .error error) :
    error.IsMismatch := by
  rcases bind_eq_error_iff.1 failed with order | ⟨_, -, made⟩
  · exact mismatch_of_checkOrder order
  · cases made

theorem mismatch_of_makeBinary {lhs rhs : Expr} {op : BinaryOp} {opOffset : Offset}
    {error : SyntaxError} (failed : makeBinary lhs op opOffset rhs = .error error) :
    error.IsMismatch := by
  rcases bind_eq_error_iff.1 failed with before | ⟨_, -, failed⟩
  · exact mismatch_of_checkOrder before
  rcases bind_eq_error_iff.1 failed with after | ⟨_, -, failed⟩
  · exact mismatch_of_checkOrder after
  rcases bind_eq_error_iff.1 failed with foreign | ⟨_, -, made⟩
  · exact mismatch_of_checkSource foreign
  · cases made

theorem mismatch_of_makeConditional {thenCase condition elseCase : Expr} {error : SyntaxError}
    (failed : makeConditional thenCase condition elseCase = .error error) : error.IsMismatch := by
  rcases bind_eq_error_iff.1 failed with first | ⟨_, -, failed⟩
  · exact mismatch_of_checkOrder first
  rcases bind_eq_error_iff.1 failed with second | ⟨_, -, failed⟩
  · exact mismatch_of_checkOrder second
  rcases bind_eq_error_iff.1 failed with foreign | ⟨_, -, failed⟩
  · exact mismatch_of_checkSource foreign
  rcases bind_eq_error_iff.1 failed with foreign | ⟨_, -, made⟩
  · exact mismatch_of_checkSource foreign
  · cases made

theorem mismatch_of_checkElements {source : Source} {cursor : Offset} {elements : List Expr}
    {error : SyntaxError} (failed : checkElements source cursor elements = .error error) :
    error.IsMismatch := by
  induction elements generalizing cursor with
  | nil => cases failed
  | cons element rest ih =>
      rcases bind_eq_error_iff.1 failed with foreign | ⟨_, -, failed⟩
      · exact mismatch_of_checkSource foreign
      rcases bind_eq_error_iff.1 failed with order | ⟨_, -, failed⟩
      · exact mismatch_of_checkOrder order
      · exact ih failed

theorem mismatch_of_makeList {source : Source} {start stop : Offset} {elements : List Expr}
    {error : SyntaxError} (failed : makeList source start elements stop = .error error) :
    error.IsMismatch := by
  unfold makeList at failed
  split at failed
  · cases failed
    trivial
  split at failed
  · cases failed
    trivial
  rcases bind_eq_error_iff.1 failed with element | ⟨_, -, failed⟩
  · exact mismatch_of_checkElements element
  rcases bind_eq_error_iff.1 failed with order | ⟨_, -, made⟩
  · exact mismatch_of_checkOrder order
  · cases made

end Expr

namespace Record

/-! ## What an error says about a record -/

/-- What the error claims about the record is true of it. -/
def Blames (sources : List Source) (record : Record) : InterchangeError → Prop
  | .unknownSource index count =>
      index ∈ record.indices ∧ count = sources.length ∧ count ≤ index
  | .refused (.malformedLiteral kind fault) =>
      ∃ parts : LeafRecord, .leaf parts ∈ record.nodes ∧ parts.kind = kind ∧
        Atom.read kind parts.text = .error fault ∧
        ∃ unit, sources[parts.source]? = some unit ∧
          parts.start ≤ parts.stop ∧ parts.stop ≤ unit.length
  | .refused (.mismatch _ _) => True
  | _ => False

variable {sources : List Source}

theorem Blames.of_mismatch {record : Record} {error : SyntaxError} (mismatch : error.IsMismatch) :
    record.Blames sources (.refused error) := by
  cases error with
  | mismatch => trivial
  | outOfRange => cases mismatch
  | malformedLiteral => cases mismatch

/-- Whoever has the nodes of a record takes its blame on. -/
theorem Blames.mono {part whole : Record} {error : InterchangeError}
    (inside : part.nodes ⊆ whole.nodes) (blames : part.Blames sources error) :
    whole.Blames sources error := by
  unfold Blames at blames ⊢
  split at blames
  · exact ⟨List.filterMap_subset _ inside blames.1, blames.2⟩
  · obtain ⟨parts, occurs, refused⟩ := blames
    exact ⟨parts, inside occurs, refused⟩
  · trivial
  · cases blames

theorem sourceAt_eq_error_iff {index : Nat} {error : InterchangeError} :
    sourceAt sources index = .error error ↔
      sources.length ≤ index ∧ error = .unknownSource index sources.length := by
  unfold sourceAt
  split
  next unit found =>
    have inTable := (List.getElem?_eq_some_iff.1 found).1
    simp only [reduceCtorEq, false_iff, not_and]
    intro beyond
    exact absurd inTable (Nat.not_lt.2 beyond)
  next missing =>
    rw [List.getElem?_eq_none_iff] at missing
    simp [missing, eq_comm]

theorem blames_of_sourceAt {index : Nat} {record : Record} {error : InterchangeError}
    (occurs : index ∈ record.indices) (failed : sourceAt sources index = .error error) :
    record.Blames sources error := by
  obtain ⟨beyond, rfl⟩ := sourceAt_eq_error_iff.1 failed
  exact ⟨occurs, rfl, beyond⟩

theorem blames_of_operatorOf {Op : Type} {kind : NodeKind} {ofSymbol? : String → Option Op}
    {symbol : String} {record : Record} {error : InterchangeError}
    (failed : operatorOf kind ofSymbol? symbol = .error error) : record.Blames sources error := by
  unfold operatorOf at failed
  split at failed
  · cases failed
  · cases failed
    trivial

theorem blames_of_lift {result : Except SyntaxError Expr} {record : Record}
    {error : InterchangeError} (mismatch : ∀ {cause}, result = .error cause → cause.IsMismatch)
    (failed : InterchangeError.lift result = .error error) : record.Blames sources error := by
  cases result with
  | error cause =>
      cases failed
      exact .of_mismatch (mismatch rfl)
  | ok tree => cases failed

/-- A leaf that is not rebuilt has a span that does not fit, or a text that its kind refuses. -/
theorem blames_of_rebuild {parts : LeafRecord} {unit : Source} {error : InterchangeError}
    (entry : sources[parts.source]? = some unit)
    (failed : (LeafParts.rebuild (.leaf parts.kind)
      ⟨unit, parts.start, parts.text, parts.stop⟩).mapError .ofLeafError = .error error) :
    (Record.leaf parts).Blames sources error := by
  by_cases fits : LeafParts.Fits ⟨unit, parts.start, parts.text, parts.stop⟩
  · rw [LeafParts.rebuild_of_fits fits] at failed
    cases read : Atom.read parts.kind parts.text with
    | error fault =>
        rw [read] at failed
        cases failed
        exact ⟨parts, by simp, rfl, read, unit, entry, fits⟩
    | ok atom =>
        rw [read] at failed
        cases failed
  · obtain ⟨fault, refused⟩ := LeafParts.exists_mismatch_of_not_fits parts.kind fits
    rw [refused] at failed
    cases failed
    trivial

theorem exists_of_toExprs_eq_error {records : List Record} {error : InterchangeError}
    (failed : toExprs sources records = .error error) :
    ∃ record ∈ records, record.toExpr sources = .error error := by
  induction records with
  | nil => cases failed
  | cons record rest ih =>
      rcases bind_eq_error_iff.1 failed with first | ⟨_, -, failed⟩
      · exact ⟨record, by simp, first⟩
      rcases bind_eq_error_iff.1 failed with later | ⟨_, -, done⟩
      · obtain ⟨other, member, stopped⟩ := ih later
        exact ⟨other, by simp [member], stopped⟩
      · cases done

/-- An error that comes out of a record blames it. -/
theorem blames_of_toExpr {record : Record} {error : InterchangeError}
    (failed : record.toExpr sources = .error error) : record.Blames sources error := by
  induction record using Record.induct with
  | leaf parts =>
      rcases bind_eq_error_iff.1 failed with unknown | ⟨unit, entry, failed⟩
      · exact blames_of_sourceAt (by simp) unknown
      · exact blames_of_rebuild (sourceAt_eq_ok_iff.1 entry) failed
  | unary op opOffset operand ih =>
      rcases bind_eq_error_iff.1 failed with symbol | ⟨_, -, failed⟩
      · exact blames_of_operatorOf symbol
      rcases bind_eq_error_iff.1 failed with part | ⟨_, -, failed⟩
      · exact (ih part).mono (List.subset_cons_self _ _)
      · exact blames_of_lift Expr.mismatch_of_makeUnary failed
  | binary lhs op opOffset rhs ihl ihr =>
      rcases bind_eq_error_iff.1 failed with symbol | ⟨_, -, failed⟩
      · exact blames_of_operatorOf symbol
      rcases bind_eq_error_iff.1 failed with part | ⟨_, -, failed⟩
      · exact (ihl part).mono fun node occurs => by simp [occurs]
      rcases bind_eq_error_iff.1 failed with part | ⟨_, -, failed⟩
      · exact (ihr part).mono fun node occurs => by simp [occurs]
      · exact blames_of_lift Expr.mismatch_of_makeBinary failed
  | conditional thenCase condition elseCase iht ihc ihe =>
      rcases bind_eq_error_iff.1 failed with part | ⟨_, -, failed⟩
      · exact (iht part).mono fun node occurs => by simp [occurs]
      rcases bind_eq_error_iff.1 failed with part | ⟨_, -, failed⟩
      · exact (ihc part).mono fun node occurs => by simp [occurs]
      rcases bind_eq_error_iff.1 failed with part | ⟨_, -, failed⟩
      · exact (ihe part).mono fun node occurs => by simp [occurs]
      · exact blames_of_lift Expr.mismatch_of_makeConditional failed
  | list source start elements stop ih =>
      rcases bind_eq_error_iff.1 failed with unknown | ⟨unit, -, failed⟩
      · exact blames_of_sourceAt (by simp) unknown
      rcases bind_eq_error_iff.1 failed with part | ⟨_, -, failed⟩
      · obtain ⟨element, member, stopped⟩ := exists_of_toExprs_eq_error part
        refine (ih element member stopped).mono fun node occurs => ?_
        rw [nodes, nodesAll_eq_flatMap, List.mem_cons, List.mem_flatMap]
        exact .inr ⟨element, member, occurs⟩
      · exact blames_of_lift Expr.mismatch_of_makeList failed

end Record

namespace Document

/-- When all texts fit, decoding is decoding the root over units that hold the entries of the table.
-/
theorem decode_eq_toExpr (serial : Nat) {document : Document}
    (fits : ∀ source ∈ document.sources, source.text.utf8ByteSize < UInt32.size) :
    ∃ sources, document.decode serial = document.root.toExpr sources ∧
      sources.map Source.toRecord = document.sources := by
  obtain ⟨sources, registered⟩ := (exists_registerAll_iff serial).2 fits
  refine ⟨sources, ?_, map_toRecord_of_registerAll registered⟩
  simp only [decode, registered, bind, Except.bind]

/-- **Decoding accepts exactly the well-formed documents.** An unknown source that it reports is an
index of the document that is not in the table, and a malformed literal that it reports is a leaf of
the document, on a span of its source, whose text is refused for that reason. -/
theorem decode_wellFormed (serial : Nat) {document : Document}
    (fits : ∀ source ∈ document.sources, source.text.utf8ByteSize < UInt32.size) :
    ((∃ tree, document.decode serial = .ok tree) ↔ document.WellFormed) ∧
    (∀ index count, document.decode serial = .error (.unknownSource index count) →
      index ∈ document.root.indices ∧ count = document.sources.length ∧ count ≤ index) ∧
    (∀ kind fault, document.decode serial = .error (.refused (.malformedLiteral kind fault)) →
      ∃ parts : LeafRecord, .leaf parts ∈ document.root.nodes ∧ parts.kind = kind ∧
        Atom.read kind parts.text = .error fault ∧
        ∃ source, document.sources[parts.source]? = some source ∧
          parts.start ≤ parts.stop ∧ parts.stop.toNat ≤ source.text.utf8ByteSize) := by
  obtain ⟨sources, decodes, table⟩ := decode_eq_toExpr serial fits
  rw [decodes]
  refine ⟨?_, ?_, ?_⟩
  · rw [Record.exists_toExpr_iff, table]
  · intro index count failed
    obtain ⟨occurs, rfl, beyond⟩ := Record.blames_of_toExpr failed
    rw [← table, List.length_map]
    exact ⟨occurs, rfl, beyond⟩
  · intro kind fault failed
    obtain ⟨parts, occurs, sort, refused, unit, entry, ordered, within⟩ :=
      Record.blames_of_toExpr failed
    refine ⟨parts, occurs, sort, refused, unit.toRecord, ?_, ordered, ?_⟩
    · rw [← table, List.getElem?_map, entry]
      rfl
    · rw [UInt32.le_iff_toNat_le, Source.toNat_length] at within
      exact within

/-! ### A sum over two entries with one text -/

namespace Example

/-- The document of `-a + 1` whose operands name two entries of the table. -/
def sum : Document where
  sources := [⟨"sum", "-a + 1"⟩, ⟨"sum", "-a + 1"⟩]
  root := .binary (.unary "-" 0 (.leaf ⟨.identifier, 0, 1, "a", 2⟩)) "+" 3
    (.leaf ⟨.int, 1, 5, "1", 6⟩)

end Example

theorem decode_wellFormed_sum :
    (∀ source ∈ Example.sum.sources, source.text.utf8ByteSize < UInt32.size) ∧
      Example.sum.WellFormed ∧ ∃ tree, Example.sum.decode 0 = .ok tree := by
  have fits : ∀ source ∈ Example.sum.sources, source.text.utf8ByteSize < UInt32.size := by decide
  have wellFormed : Example.sum.WellFormed := by decide
  exact ⟨fits, wellFormed, (decode_wellFormed 0 fits).1.2 wellFormed⟩

end Document

end ExprTree
