/-
# ExprTree.Proofs.Numeral.Grid — the numbers of the binary format

Every number of the format is a multiple of the least positive one, and bits are compared as the
multiples are (`Binary64.units_strictMono`). Bits beyond the finite numbers count on in the same
way, as if exponents had no end. So two neighbours differ in the parity of their significands, and
of all numbers only one is nearest to a given value when a tie goes to the even significand
(`Binary64.IsNearest.unique`).

`IsClosest` is nearness among all bits, the ones beyond the finite numbers included. Bits closest to
a value are those of a finite number exactly if the value is below the middle between the largest
number and the power of two that would follow it (`Binary64.IsClosest.finite_iff`).
-/
import ExprTree.Numeral.Binary64
import Mathlib.Algebra.Order.Ring.Abs
import Mathlib.Tactic.Linarith
import Mathlib.Tactic.Ring

namespace ExprTree.Binary64

set_option autoImplicit false

/-! ## Bits in units of the least positive number -/

/-- The number that bits stand for, in units of the least positive number. -/
def units (bits : Nat) : Nat :=
  if bits / 2 ^ 52 = 0 then bits
  else (2 ^ 52 + bits % 2 ^ 52) * 2 ^ (bits / 2 ^ 52 - 1)

/-- The bits of a significand at an exponent, which is counted from the least one. The significand
may be the power of two behind the largest; below the least exponent's it is only at that one. -/
theorem units_eq {exponent significand : Nat} (small : significand ≤ 2 ^ 53)
    (normal : exponent = 0 ∨ 2 ^ 52 ≤ significand) :
    units (exponent * 2 ^ 52 + significand) = significand * 2 ^ exponent := by
  unfold units
  split
  next subnormal =>
    obtain rfl : exponent = 0 := by omega
    simp
  next large =>
    rcases Nat.lt_or_eq_of_le small with below | rfl
    · have field : (exponent * 2 ^ 52 + significand) / 2 ^ 52 = exponent + 1 := by omega
      have fraction : 2 ^ 52 + (exponent * 2 ^ 52 + significand) % 2 ^ 52 = significand := by omega
      rw [field, fraction, Nat.add_sub_cancel]
    · have field : (exponent * 2 ^ 52 + 2 ^ 53) / 2 ^ 52 = exponent + 2 := by omega
      have fraction : 2 ^ 52 + (exponent * 2 ^ 52 + 2 ^ 53) % 2 ^ 52 = 2 ^ 52 := by omega
      rw [field, fraction]
      show 2 ^ 52 * 2 ^ (exponent + 1) = 2 ^ (52 + 1) * 2 ^ exponent
      rw [pow_succ, pow_succ 2 52]
      ring

/-- Bits consist of an exponent and a significand. -/
theorem exists_parts (bits : Nat) : ∃ exponent significand,
    bits = exponent * 2 ^ 52 + significand ∧ significand < 2 ^ 53 ∧
      (exponent = 0 ∨ 2 ^ 52 ≤ significand) := by
  by_cases subnormal : bits < 2 ^ 52
  · exact ⟨0, bits, by omega, by omega, .inl rfl⟩
  · exact ⟨bits / 2 ^ 52 - 1, 2 ^ 52 + bits % 2 ^ 52, by omega, by omega, .inr (by omega)⟩

theorem units_strictMono : StrictMono units := by
  refine strictMono_nat_of_lt_succ fun bits => ?_
  obtain ⟨exponent, significand, rfl, small, normal⟩ := exists_parts bits
  rw [Nat.add_assoc, units_eq small.le normal, units_eq small (normal.imp_right Nat.le_succ_of_le)]
  exact Nat.mul_lt_mul_of_pos_right (Nat.lt_succ_self _) (Nat.two_pow_pos _)

/-! ## Closest bits -/

/-- No other bits stand for a number that is as close to `x` units, unless these are even. -/
def IsClosest (x : ℚ) (bits : Nat) : Prop :=
  ∀ other, other ≠ bits → |x - units bits| < |x - units other| ∨
    |x - units bits| = |x - units other| ∧ bits % 2 = 0

/-- Closest bits do not exceed odd ones exactly if the value lies below the middle between these and
the next ones, to which the middle goes. -/
theorem IsClosest.le_iff {x : ℚ} {bits odd : Nat} (closest : IsClosest x bits)
    (isOdd : odd % 2 = 1) : bits ≤ odd ↔ 2 * x < units odd + units (odd + 1) := by
  constructor
  · intro small
    by_contra beyond
    have below : (units bits : ℚ) ≤ units odd := by
      exact_mod_cast units_strictMono.monotone small
    have step : (units odd : ℚ) < units (odd + 1) := by
      exact_mod_cast units_strictMono (Nat.lt_succ_self odd)
    have near : |x - units (odd + 1)| ≤ x - units odd := by
      rw [abs_le]
      constructor <;> linarith
    rcases closest (odd + 1) (by omega) with closer | ⟨tie, even⟩
    · linarith [le_abs_self (x - units bits)]
    · have same : (units bits : ℚ) = units odd := by
        linarith [le_abs_self (x - units bits)]
      have same' : bits = odd := units_strictMono.injective (by exact_mod_cast same)
      omega
  · intro below
    by_contra large
    have above : (units (odd + 1) : ℚ) ≤ units bits := by
      exact_mod_cast units_strictMono.monotone (Nat.lt_of_not_le large)
    have step : (units odd : ℚ) < units (odd + 1) := by
      exact_mod_cast units_strictMono (Nat.lt_succ_self odd)
    have near : |x - units odd| < units (odd + 1) - x := by
      rw [abs_lt]
      constructor <;> linarith
    have far : units (odd + 1) - x ≤ |x - units bits| := by
      rw [abs_sub_comm]
      exact le_trans (by linarith) (le_abs_self _)
    rcases closest odd (by omega) with closer | ⟨tie, -⟩
    · linarith
    · linarith

theorem units_infinityBits : units infinityBits = 2 ^ 53 * 2 ^ 2045 := by
  have parts : infinityBits = 2045 * 2 ^ 52 + 2 ^ 53 := by decide
  rw [parts, units_eq (Nat.le_refl _) (.inr (by decide))]

theorem units_infinityBits_pred : units (infinityBits - 1) = (2 ^ 53 - 1) * 2 ^ 2045 := by
  have parts : infinityBits - 1 = 2045 * 2 ^ 52 + (2 ^ 53 - 1) := by decide
  rw [parts, units_eq (by decide) (.inr (by decide))]

/-- The closest bits are those of a finite number exactly if the value lies below the middle between
the largest number and the next power of two. -/
theorem IsClosest.finite_iff {x : ℚ} {bits : Nat} (closest : IsClosest x bits) :
    bits < infinityBits ↔ x < (2 ^ 53 - 1 / 2) * 2 ^ 2045 := by
  have next : infinityBits - 1 + 1 = infinityBits := by decide
  have largest : ((2 ^ 53 - 1 : Nat) : ℚ) = 2 ^ 53 - 1 := by norm_num
  rw [← Nat.le_sub_one_iff_lt (by decide), closest.le_iff (by decide), next, units_infinityBits,
    units_infinityBits_pred]
  simp only [Nat.cast_mul, Nat.cast_pow, Nat.cast_ofNat, largest]
  generalize (2 : ℚ) ^ 2045 = top
  constructor <;> intro below <;> linarith

/-! ## Numbers -/

def least : ℚ :=
  2 ^ (-1074 : ℤ)

theorem least_pos : 0 < least :=
  zpow_pos (by norm_num) _

def value (number : Binary64) : ℚ :=
  number.significand * 2 ^ number.exponent

/-- No number is closer to `x`, and if another one is as close, the significand of this one is even.
-/
structure IsNearest (number : Binary64) (x : ℚ) : Prop where
  closest : ∀ other : Binary64, |x - number.value| ≤ |x - other.value|
  even : ∀ other : Binary64, other ≠ number → |x - number.value| = |x - other.value| →
    number.significand % 2 = 0

theorem value_eq_units (number : Binary64) :
    number.value = units number.bits.toNat * least := by
  unfold value significand exponent units least
  simp only [Nat.pow_eq]
  generalize number.bits.toNat = bits
  split
  next subnormal =>
    have field : max ((0 : Nat) : ℤ) 1 - 1075 = -1074 := by decide
    rw [subnormal, field]
  next large =>
    have field : max ((bits / 2 ^ 52 : Nat) : ℤ) 1 - 1075 =
        ((bits / 2 ^ 52 - 1 : Nat) : ℤ) + -1074 := by omega
    rw [field, zpow_add₀ (by norm_num), zpow_natCast]
    generalize (2 : ℚ) ^ (-1074 : ℤ) = least
    push_cast
    ring

theorem eq_of_toNat_bits_eq {number other : Binary64}
    (same : number.bits.toNat = other.bits.toNat) : number = other := by
  obtain ⟨bits, finite⟩ := number
  obtain rfl : bits = other.bits := UInt64.toNat_inj.1 same
  rfl

theorem value_lt_value {number other : Binary64} (ordered : number.bits.toNat < other.bits.toNat) :
    number.value < other.value := by
  rw [value_eq_units, value_eq_units]
  exact mul_lt_mul_of_pos_right (by exact_mod_cast units_strictMono ordered) least_pos

theorem abs_sub_value (x : ℚ) (number : Binary64) :
    |x - number.value| = |x / least - units number.bits.toNat| * least := by
  have scaled : x - number.value = (x / least - units number.bits.toNat) * least := by
    rw [value_eq_units, sub_mul, div_mul_cancel₀ x least_pos.ne']
  rw [scaled, abs_mul, abs_of_pos least_pos]

theorem significand_mod_two (number : Binary64) :
    number.significand % 2 = number.bits.toNat % 2 := by
  unfold significand
  simp only [Nat.pow_eq]
  split <;> omega

/-- Bits that are closest among all bits belong to the nearest number. -/
theorem IsClosest.isNearest {x : ℚ} {number : Binary64}
    (closest : IsClosest (x / least) number.bits.toNat) : number.IsNearest x := by
  have compare (other : Binary64) (different : other ≠ number) :
      |x - number.value| < |x - other.value| ∨
        |x - number.value| = |x - other.value| ∧ number.significand % 2 = 0 := by
    have bits : other.bits.toNat ≠ number.bits.toNat :=
      fun same => different (eq_of_toNat_bits_eq same)
    rw [abs_sub_value, abs_sub_value, significand_mod_two]
    rcases closest _ bits with closer | ⟨tie, even⟩
    · exact .inl (mul_lt_mul_of_pos_right closer least_pos)
    · exact .inr ⟨congrArg (· * least) tie, even⟩
  refine ⟨fun other => ?_, fun other different tie => ?_⟩
  · by_cases same : other = number
    · rw [same]
    · exact (compare other same).elim le_of_lt fun tie => tie.1.le
  · rcases compare other different with closer | ⟨-, even⟩
    · exact absurd tie closer.ne
    · exact even

/-- Bits between those of two numbers, or those of the smaller one, are bits of a number. -/
theorem exists_bits_eq_succ {number other : Binary64}
    (ordered : number.bits.toNat < other.bits.toNat) :
    ∃ next : Binary64, next.bits.toNat = number.bits.toNat + 1 := by
  have finite : number.bits.toNat + 1 < infinityBits := Nat.lt_of_le_of_lt ordered other.finite
  exact ⟨ofBits _ finite, toNat_bits_ofBits finite⟩

theorem IsNearest.unique {number other : Binary64} {x : ℚ} (nearest : number.IsNearest x)
    (nearest' : other.IsNearest x) : number = other := by
  by_contra different
  wlog ordered : number.bits.toNat < other.bits.toNat generalizing number other
  · refine this nearest' nearest (Ne.symm different) ?_
    refine Nat.lt_of_le_of_ne (Nat.le_of_not_lt ordered) fun same => ?_
    exact different (eq_of_toNat_bits_eq same.symm)
  have tie : |x - number.value| = |x - other.value| :=
    le_antisymm (nearest.closest other) (nearest'.closest number)
  have even := nearest.even other (Ne.symm different) tie
  have even' := nearest'.even number different tie.symm
  rw [significand_mod_two] at even even'
  -- Bits of one parity are not neighbours, and what stands between the two numbers is closer to the
  -- middle than they are.
  obtain ⟨next, succ⟩ := exists_bits_eq_succ ordered
  have above : number.value < next.value := value_lt_value (by omega)
  have below : next.value < other.value := value_lt_value (by omega)
  have middle : x - number.value = other.value - x := by
    rcases abs_eq_abs.1 tie with same | opposite
    · linarith
    · linarith
  have closer : |x - next.value| < x - number.value := by
    rw [abs_lt]
    constructor <;> linarith
  exact absurd (nearest.closest next) (not_le.2 (lt_of_lt_of_le closer (le_abs_self _)))

end ExprTree.Binary64
