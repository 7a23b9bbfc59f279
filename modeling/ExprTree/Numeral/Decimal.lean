/-
# ExprTree.Numeral.Decimal — decimal fractions

A decimal fraction has digits before or after a point, or both, and may have an exponent of ten.
`Decimal.nearest?` rounds its exact value to a binary number. A value beyond `10^310` is too large
and one below `10^-400` rounds to zero whatever its digits are, so powers of ten are only computed
between these bounds.
-/
import ExprTree.Numeral.Binary64
import ExprTree.Text.Digits

namespace ExprTree

set_option autoImplicit false

open Text (isDigitIn numeralValue splitSign)

/-- An unsigned decimal fraction: the digits around the point and the exponent of ten. -/
structure Decimal where
  whole : List Char
  fraction : List Char
  exponent : Int
  deriving DecidableEq

namespace Decimal

/-- The exponent after its letter: an optional sign and one or more digits. -/
def exponent? (chars : List Char) : Option Int :=
  let (negative, digits) := splitSign chars
  if digits.isEmpty then none
  else if digits.all (isDigitIn 10) then
    let size : Int := numeralValue 10 digits
    some (if negative then -size else size)
  else none

def ofChars? (chars : List Char) : Option Decimal :=
  let (whole, rest) := chars.span (isDigitIn 10)
  let (fraction, rest) : List Char × List Char := match rest with
    | '.' :: more => more.span (isDigitIn 10)
    | _ => ([], rest)
  if whole.isEmpty ∧ fraction.isEmpty then none
  else match rest with
    | [] => some ⟨whole, fraction, 0⟩
    | c :: more =>
        if c = 'e' ∨ c = 'E' then (exponent? more).map fun exponent => ⟨whole, fraction, exponent⟩
        else none

/-- The nearest binary number to the value; `none` when it is too large for any. -/
def nearest? (decimal : Decimal) : Option Binary64 :=
  let digits := (decimal.whole ++ decimal.fraction).dropWhile (· == '0')
  let power : Int := decimal.exponent - (decimal.fraction.length : Int)
  let magnitude : Int := power + (digits.length : Int)
  if digits.isEmpty then some .zero
  else if 310 < magnitude then none
  else if magnitude < -400 then some .zero
  else
    let value := numeralValue 10 digits
    if 0 ≤ power then Binary64.nearest? (value * Nat.pow 10 power.toNat) 1
    else Binary64.nearest? value (Nat.pow 10 (-power).toNat)

end Decimal

end ExprTree
