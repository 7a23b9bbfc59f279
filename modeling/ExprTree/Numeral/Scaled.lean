/-
# ExprTree.Numeral.Scaled — a decimal fraction held in one word

A word of 64 bits and a power of ten stand for `word · 10^power`, a cheap stand-in for a decimal
fraction with any number of digits. The word takes the digits before the point as long as they fit;
those left over are dropped, and each raises the power by one. It then takes the digits after the
point as long as they fit, each lowering the power by one; those left over count for nothing.

`Scaled.isFinite` asks whether the value is a binary floating-point number when the word, the power
of ten and their product are rounded one after the other. Near the largest number the answer can
differ from that of `Decimal.nearest?`, which rounds the exact value once.
-/
import ExprTree.Numeral.Decimal

namespace ExprTree

set_option autoImplicit false

/-- A word of 64 bits and a power of ten. -/
structure Scaled where
  word : UInt64
  power : Int
  deriving DecidableEq

namespace Scaled

/-- The word with one more decimal digit at its end; `none` when 64 bits do not hold it. -/
def push? (word : UInt64) (digit : Char) : Option UInt64 :=
  let longer := word.toNat * 10 + (Text.digitValue? digit).getD 0
  if fits : longer < UInt64.size then some (.ofNatLT longer fits) else none

/-- The word after the digits that fit, and the digits from the first that does not. -/
def fill (word : UInt64) : List Char → UInt64 × List Char
  | [] => (word, [])
  | digit :: rest => match push? word digit with
    | some longer => fill longer rest
    | none => (word, digit :: rest)

/-- The value of a decimal fraction, as far as the word holds its digits. -/
def ofDecimal (decimal : Decimal) : Scaled :=
  let (word, wholeLeft) := fill 0 decimal.whole
  let (word, fractionLeft) := fill word decimal.fraction
  let taken : Int := decimal.fraction.length - fractionLeft.length
  ⟨word, decimal.exponent + wholeLeft.length - taken⟩

/-- Whether the rounded word times the rounded power of ten rounds to a finite number. A power of
at most zero leaves a value not above the word; `10^309` is beyond every number. -/
def isFinite (scaled : Scaled) : Bool :=
  if scaled.word = 0 ∨ scaled.power ≤ 0 then true
  else if 308 < scaled.power then false
  else
    let product := do
      let word ← Binary64.nearest? scaled.word.toNat 1
      let power ← Binary64.nearest? (Nat.pow 10 scaled.power.toNat) 1
      word.mul? power
    product.isSome

end Scaled

end ExprTree
