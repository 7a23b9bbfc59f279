/-
# ExprTree.NodeKind — the nine kinds of nodes

A leaf is one of five kinds, and a node is a leaf of some kind or one of four composites. `name` is
the word that messages use; the order of kinds is the order of `NodeKind.all`.
-/

namespace ExprTree

set_option autoImplicit false

/-- The kinds of nodes that have no parts. -/
inductive LeafKind where
  | identifier
  | int
  | float
  | string
  | bytes
  deriving DecidableEq

inductive NodeKind where
  | leaf (kind : LeafKind)
  | unaryOperator
  | binaryOperator
  | conditional
  | list
  deriving DecidableEq

namespace LeafKind

/-- The word that messages use for the kind. -/
def name : LeafKind → String
  | .identifier => "identifier"
  | .int => "int literal"
  | .float => "float literal"
  | .string => "string literal"
  | .bytes => "bytes literal"

/-- A constant is every leaf but a name. -/
def isLiteral : LeafKind → Bool
  | .identifier => false
  | _ => true

def all : List LeafKind :=
  [.identifier, .int, .float, .string, .bytes]

end LeafKind

namespace NodeKind

def all : List NodeKind :=
  LeafKind.all.map .leaf ++ [.unaryOperator, .binaryOperator, .conditional, .list]

def name : NodeKind → String
  | .leaf kind => kind.name
  | .unaryOperator => "unary operator"
  | .binaryOperator => "binary operator"
  | .conditional => "conditional expression"
  | .list => "list expression"

def isLiteral : NodeKind → Bool
  | .leaf kind => kind.isLiteral
  | _ => false

def isLeaf : NodeKind → Bool
  | .leaf _ => true
  | _ => false

def rank (kind : NodeKind) : Nat :=
  all.idxOf kind

instance : Ord NodeKind where
  compare a b := compare a.rank b.rank

instance : ToString NodeKind where
  toString := name

end NodeKind

end ExprTree
