/-
# ExprTree.Numeral.Integer — integer literals

An integer is spelled by decimal digits, or by `0x`, `0o` or `0b` (of either case) and digits of the
radix sixteen, eight or two. A decimal numeral of several digits does not begin with zero. The value
is at most the largest signed word of 64 bits.

`IntLiteral` keeps the spelling beside the value, with the evidence that the one reads as the other.
-/
import ExprTree.Error
import ExprTree.Text.Digits

namespace ExprTree

set_option autoImplicit false

open Text (isDigitIn numeralValue)

def largestInteger : Nat := 0x7FFFFFFFFFFFFFFF

/-- The radix that a spelling announces, and its digits. -/
def splitRadix : List Char → Nat × List Char
  | '0' :: 'x' :: digits => (16, digits)
  | '0' :: 'X' :: digits => (16, digits)
  | '0' :: 'o' :: digits => (8, digits)
  | '0' :: 'O' :: digits => (8, digits)
  | '0' :: 'b' :: digits => (2, digits)
  | '0' :: 'B' :: digits => (2, digits)
  | digits => (10, digits)

def readInteger (spelling : String) : Except LiteralFault Nat :=
  let (radix, digits) := splitRadix spelling.toList
  if digits.isEmpty then .error (.missingDigits spelling)
  else match digits.find? fun c => !isDigitIn radix c with
    | some bad => .error (.invalidDigit bad spelling)
    | none =>
        if radix = 10 ∧ 1 < digits.length ∧ digits.head? = some '0' then
          .error (.leadingZeros spelling)
        else
          let value := numeralValue radix digits
          if value ≤ largestInteger then .ok value else .error (.valueOutOfRange spelling)

/-- An integer literal: its spelling, and the value that it reads as. -/
structure IntLiteral where
  spelling : String
  value : Nat
  reads : readInteger spelling = .ok value
  deriving DecidableEq

def IntLiteral.ofString (spelling : String) : Except LiteralFault IntLiteral :=
  match reads : readInteger spelling with
  | .ok value => .ok ⟨spelling, value, reads⟩
  | .error fault => .error fault

@[simp] theorem IntLiteral.ofString_spelling (literal : IntLiteral) :
    IntLiteral.ofString literal.spelling = .ok literal := by
  obtain ⟨spelling, value, reads⟩ := literal
  unfold IntLiteral.ofString
  split
  next other same =>
    obtain rfl : other = value := by simpa [reads] using same.symm
    rfl
  next fault same => simp [reads] at same

end ExprTree
