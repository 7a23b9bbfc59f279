/-
# ExprTree.Document.Basic — trees as records

A document is a tree together with the table of the sources it was read from. Its records name
sources by their index in the table, kinds by a word and operators by their symbol. Nothing about
them is checked: a document may name a source it does not have.
-/
import ExprTree.NodeKind
import ExprTree.Source.Span

namespace ExprTree

set_option autoImplicit false

/-- An entry of a source table. -/
structure SourceRecord where
  file : String
  text : String
  deriving DecidableEq

structure LeafRecord where
  kind : LeafKind
  source : Nat
  start : Offset
  text : String
  stop : Offset
  deriving DecidableEq

/-- A tree whose sources are indices and whose operators are symbols. -/
inductive Record where
  | leaf (leaf : LeafRecord)
  | unary (op : String) (opOffset : Offset) (operand : Record)
  | binary (lhs : Record) (op : String) (opOffset : Offset) (rhs : Record)
  | conditional (thenCase condition elseCase : Record)
  | list (source : Nat) (start : Offset) (elements : List Record) (stop : Offset)

/-- A tree and the table of its sources. -/
structure Document where
  sources : List SourceRecord
  root : Record

namespace Record

theorem induct {motive : Record → Prop}
    (leaf : ∀ leaf, motive (.leaf leaf))
    (unary : ∀ op opOffset operand, motive operand → motive (.unary op opOffset operand))
    (binary : ∀ lhs op opOffset rhs, motive lhs → motive rhs →
      motive (.binary lhs op opOffset rhs))
    (conditional : ∀ thenCase condition elseCase, motive thenCase → motive condition →
      motive elseCase → motive (.conditional thenCase condition elseCase))
    (list : ∀ source start elements stop, (∀ element ∈ elements, motive element) →
      motive (.list source start elements stop)) (record : Record) : motive record := by
  refine Record.rec (motive_1 := motive)
    (motive_2 := fun elements => ∀ element ∈ elements, motive element)
    leaf unary binary conditional list ?_ ?_ record
  · intro element absurd
    cases absurd
  · intro head tail ofHead ofTail element member
    cases member with
    | head => exact ofHead
    | tail _ member => exact ofTail element member

end Record

end ExprTree
