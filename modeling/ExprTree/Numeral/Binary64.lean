/-
# ExprTree.Numeral.Binary64 — rounding a ratio to a binary floating-point number

The numbers of the format are `m · 2^q` with `m < 2^53` and `q` from -1074 to 971; beyond them lies
infinity. `nearest?` rounds a ratio of naturals to the nearest number, a tie to the even `m`, in
exact arithmetic: it takes the smallest exponent at which the quotient stays below `2^53`, or -1074
if that is larger, and rounds the quotient there. A result that would be infinite is `none`.

The bits of `m · 2^q` are `(q + 1074) · 2^52 + m`, for subnormal numbers (`q = -1074`, `m < 2^52`)
as for normal ones, and also when rounding carries `m` to `2^53`. `significand` and `exponent` read
`m` and `q` off the bits, and `mul?` rounds the exact product of two numbers.
-/

namespace ExprTree

set_option autoImplicit false

/-- The bits of positive infinity, which are above those of every finite number. -/
def Binary64.infinityBits : Nat := 0x7FF0000000000000

/-- A non-negative finite number, by its bits: eleven of exponent above fifty-two of fraction. -/
structure Binary64 where
  bits : UInt64
  finite : bits.toNat < Binary64.infinityBits
  deriving DecidableEq

/-- The quotient rounded to the nearest natural number, a half to the even one. -/
def roundHalfEven (num den : Nat) : Nat :=
  let quotient := num / den
  let twice := 2 * (num % den)
  if twice < den then quotient
  else if den < twice then quotient + 1
  else if quotient % 2 = 0 then quotient
  else quotient + 1

namespace Binary64

def ofBits (bits : Nat) (finite : bits < infinityBits) : Binary64 :=
  ⟨.ofNatLT bits (Nat.lt_trans finite (by decide)), by rwa [UInt64.toNat_ofNatLT]⟩

@[simp] theorem toNat_bits_ofBits {bits : Nat} (finite : bits < infinityBits) :
    (ofBits bits finite).bits.toNat = bits :=
  UInt64.toNat_ofNatLT

/-- The number with these bits; `none` for the bits of infinity and what is beyond. -/
def ofBits? (bits : Nat) : Option Binary64 :=
  if finite : bits < infinityBits then some (ofBits bits finite) else none

def zero : Binary64 := ⟨0, by decide⟩

/-- The exponent at which a positive ratio is rounded. -/
def exponentFor (num den : Nat) : Int :=
  let estimate : Int := (num.log2 : Int) - (den.log2 : Int)
  let reaches : Bool := if 0 ≤ estimate then den * Nat.pow 2 estimate.toNat ≤ num
    else den ≤ num * Nat.pow 2 (-estimate).toNat
  max (if reaches then estimate - 52 else estimate - 53) (-1074)

/-- The ratio in units of `2^exponent`, rounded to a natural number. -/
def roundAt (num den : Nat) (exponent : Int) : Nat :=
  if 0 ≤ exponent then roundHalfEven num (den * Nat.pow 2 exponent.toNat)
  else roundHalfEven (num * Nat.pow 2 (-exponent).toNat) den

/-- The nearest number to a ratio; `none` when it is too large for any. -/
def nearest? (num den : Nat) : Option Binary64 :=
  if num = 0 then some zero
  else
    let exponent := exponentFor num den
    ofBits? ((exponent + 1074).toNat * Nat.pow 2 52 + roundAt num den exponent)

/-- The `m` of `m · 2^q`: the fraction bits, below a leading one unless the number is subnormal. -/
def significand (number : Binary64) : Nat :=
  let bits := number.bits.toNat
  if bits / Nat.pow 2 52 = 0 then bits else Nat.pow 2 52 + bits % Nat.pow 2 52

/-- The `q` of `m · 2^q`. -/
def exponent (number : Binary64) : Int :=
  let field : Int := (number.bits.toNat / Nat.pow 2 52 : Nat)
  max field 1 - 1075

/-- The product, rounded to nearest; `none` when it is too large for any number. -/
def mul? (left right : Binary64) : Option Binary64 :=
  let significand := left.significand * right.significand
  let exponent := left.exponent + right.exponent
  if 0 ≤ exponent then nearest? (significand * Nat.pow 2 exponent.toNat) 1
  else nearest? significand (Nat.pow 2 (-exponent).toNat)

end Binary64

end ExprTree
