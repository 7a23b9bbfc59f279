/-
# ExprTree.Text.Digits — digits and numerals of a radix

Reading: `digitValue?` gives the value of a digit in either case, `isDigitIn` asks whether it is a
digit of a radix, `numeralValue` is the positional value of a row of digits, and `splitSign` takes a
sign from the front of a numeral. Writing: `fixedHex` gives a fixed number of lower-case hexadecimal
digits.
-/

namespace ExprTree.Text

set_option autoImplicit false

/-- The value of a hexadecimal digit of either case. -/
def digitValue? (c : Char) : Option Nat :=
  if '0' ≤ c ∧ c ≤ '9' then some (c.toNat - '0'.toNat)
  else if 'a' ≤ c ∧ c ≤ 'f' then some (c.toNat - 'a'.toNat + 10)
  else if 'A' ≤ c ∧ c ≤ 'F' then some (c.toNat - 'A'.toNat + 10)
  else none

/-- Whether the character is a digit of that radix, which is at most sixteen. -/
def isDigitIn (radix : Nat) (c : Char) : Bool :=
  match digitValue? c with
  | some value => value < radix
  | none => false

/-- A character that can begin a numeral without a sign. -/
def isNumeralStart (c : Char) : Bool :=
  isDigitIn 10 c || c == '.'

/-- Whether a minus sign is in front, and what follows the sign, if there is one. -/
def splitSign : List Char → Bool × List Char
  | '-' :: unsigned => (true, unsigned)
  | '+' :: unsigned => (false, unsigned)
  | unsigned => (false, unsigned)

/-- The positional value of a row of digits, the first digit being the highest. -/
def numeralValue (radix : Nat) (digits : List Char) : Nat :=
  digits.foldl (fun value c => value * radix + (digitValue? c).getD 0) 0

/-- The lowest `width` hexadecimal digits of a number, in lower case. -/
def fixedHex : Nat → Nat → List Char
  | 0, _ => []
  | width + 1, n => fixedHex width (n / 16) ++ [Nat.digitChar (n % 16)]

theorem splitSign_length_le (chars : List Char) : (splitSign chars).2.length ≤ chars.length := by
  unfold splitSign
  split <;> simp

theorem fixedHex_length (width n : Nat) : (fixedHex width n).length = width := by
  induction width generalizing n with
  | zero => rfl
  | succ width ih => simp [fixedHex, ih]

end ExprTree.Text
