/-
# ExprTree.Operator — the operators and their symbols

Each operator has one symbol; `ofSymbol?` finds the operator of a symbol, if there is one. The plus
and the minus sign are symbols of both tables.
-/

namespace ExprTree

set_option autoImplicit false

/-- Operators that stand before their operand. -/
inductive UnaryOp where
  | minus
  | plus
  | tilde
  | not
  deriving DecidableEq

namespace UnaryOp

def all : List UnaryOp :=
  [.minus, .plus, .tilde, .not]

def symbol : UnaryOp → String
  | .minus => "-"
  | .plus => "+"
  | .tilde => "~"
  | .not => "not"

def ofSymbol? (symbol : String) : Option UnaryOp :=
  all.find? fun op => op.symbol == symbol

@[simp] theorem ofSymbol?_symbol (op : UnaryOp) : ofSymbol? op.symbol = some op := by
  cases op <;> decide

end UnaryOp

/-- Operators that stand between their operands. -/
inductive BinaryOp where
  | or
  | and
  | equal
  | notEqual
  | less
  | greater
  | lessEqual
  | greaterEqual
  | isIn
  | notIn
  | pipe
  | caret
  | ampersand
  | shiftLeft
  | shiftRight
  | plus
  | minus
  | star
  | slash
  | doubleSlash
  | percent
  deriving DecidableEq

namespace BinaryOp

def all : List BinaryOp :=
  [.or, .and, .equal, .notEqual, .less, .greater, .lessEqual, .greaterEqual, .isIn, .notIn, .pipe,
    .caret, .ampersand, .shiftLeft, .shiftRight, .plus, .minus, .star, .slash, .doubleSlash,
    .percent]

def symbol : BinaryOp → String
  | .or => "or"
  | .and => "and"
  | .equal => "=="
  | .notEqual => "!="
  | .less => "<"
  | .greater => ">"
  | .lessEqual => "<="
  | .greaterEqual => ">="
  | .isIn => "in"
  | .notIn => "not in"
  | .pipe => "|"
  | .caret => "^"
  | .ampersand => "&"
  | .shiftLeft => "<<"
  | .shiftRight => ">>"
  | .plus => "+"
  | .minus => "-"
  | .star => "*"
  | .slash => "/"
  | .doubleSlash => "//"
  | .percent => "%"

def ofSymbol? (symbol : String) : Option BinaryOp :=
  all.find? fun op => op.symbol == symbol

@[simp] theorem ofSymbol?_symbol (op : BinaryOp) : ofSymbol? op.symbol = some op := by
  cases op <;> decide

end BinaryOp

end ExprTree
