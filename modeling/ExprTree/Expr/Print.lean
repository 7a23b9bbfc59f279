/-
# ExprTree.Expr.Print — trees as source text

A tree is written on one line. An operand that is itself an operator expression or a conditional
stands between parentheses, whatever the operators are; the elements of a list do not. Numbers keep
their spelling, and the text of a string or bytes literal is quoted again.
-/
import ExprTree.Expr.Basic
import ExprTree.Literal.Quoting

namespace ExprTree

set_option autoImplicit false

inductive QuoteStyle where
  | double
  | single
  deriving DecidableEq

def QuoteStyle.char : QuoteStyle → Char
  | .double => '"'
  | .single => '\''

structure PrintOptions where
  quote : QuoteStyle := .double
  /-- Write the characters of literals in ASCII. -/
  asciiOnly : Bool := false
  deriving DecidableEq

def Atom.print (options : PrintOptions) : Atom → List Char
  | .identifier name => name.name.toList
  | .int literal => literal.spelling.toList
  | .float literal => literal.spelling.toList
  | .string text => quotedChars text.toList false options.quote.char options.asciiOnly
  | .bytes text => quotedChars text.toList true options.quote.char options.asciiOnly

namespace Expr

/-- Whether the node is put between parentheses where it is an operand. -/
def isEnclosed (expr : Expr) : Bool :=
  match expr.kind with
  | .unaryOperator | .binaryOperator | .conditional => true
  | _ => false

def enclose (expr : Expr) (text : List Char) : List Char :=
  if expr.isEnclosed then '(' :: (text ++ [')']) else text

/-- A word operator before its operand is set apart by a space. -/
def unarySymbol (op : UnaryOp) : List Char :=
  op.symbol.toList ++ if op = .not then [' '] else []

mutual

def printChars (options : PrintOptions) : Expr → List Char
  | .leaf _ atom => atom.print options
  | .unary op _ operand => unarySymbol op ++ enclose operand (printChars options operand)
  | .binary lhs op _ rhs =>
      enclose lhs (printChars options lhs) ++ ' ' :: (op.symbol.toList ++
        ' ' :: enclose rhs (printChars options rhs))
  | .conditional thenCase condition elseCase =>
      enclose thenCase (printChars options thenCase) ++ " if ".toList ++
        enclose condition (printChars options condition) ++ " else ".toList ++
        enclose elseCase (printChars options elseCase)
  | .list _ elements => '[' :: (printElements options elements ++ [']'])

def printElements (options : PrintOptions) : List Expr → List Char
  | [] => []
  | element :: rest =>
      printChars options element ++
        if rest.isEmpty then [] else ',' :: ' ' :: printElements options rest

end

def print (options : PrintOptions) (expr : Expr) : String :=
  String.ofList (expr.printChars options)

end Expr

end ExprTree
