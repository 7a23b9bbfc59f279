/-
# ExprTree.Proofs.Numeral.Nearest — rounding finds the nearest number

A positive value is rounded at the exponent that leaves it 53 bits in front of the point, or at the
least exponent if that is larger (`Binary64.exponentFor_eq`). On multiples of that power of two,
rounding to a natural number decides which is closest (`RoundsTo.closer`); multiples of smaller
powers that are no such multiples lie below all 53-bit ones and hence further away. So the rounded
bits are closest among all bits (`Binary64.isClosest_of_roundsTo`).

Main statements: `Binary64.rounds_nearest?` for ratios, and from it `Decimal.rounds_nearest?` for
decimal fractions, whose digits are not looked at where the magnitude alone decides. What is read is
the number nearest to what is spelled (`exists_readFloat_of_spelledBy`).
-/
import ExprTree.Proofs.Numeral.Float
import ExprTree.Proofs.Numeral.Grid
import ExprTree.Proofs.Numeral.Value
import Mathlib.Data.Int.Log
import Mathlib.Data.Rat.Floor

namespace ExprTree

set_option autoImplicit false

open Text (isDigitIn numeralValue)

/-! ## Rounding to natural numbers -/

/-- The natural number is at most a half away, and is even where that is the distance. -/
structure RoundsTo (x : ℚ) (rounded : Nat) : Prop where
  within : |x - rounded| ≤ 1 / 2
  even : |x - rounded| = 1 / 2 → rounded % 2 = 0

/-- All other natural numbers are further away, or as far when the rounded one is even. -/
theorem RoundsTo.closer {x : ℚ} {rounded other : Nat} (rounds : RoundsTo x rounded)
    (different : other ≠ rounded) :
    |x - rounded| < |x - other| ∨ |x - rounded| = |x - other| ∧ rounded % 2 = 0 := by
  have apart : (1 : ℚ) ≤ |(rounded : ℚ) - other| := by
    exact_mod_cast Int.one_le_abs (show (rounded : ℤ) - other ≠ 0 by omega)
  have triangle : |(rounded : ℚ) - other| ≤ |x - rounded| + |x - other| := by
    rw [abs_sub_comm x rounded]
    exact abs_sub_le _ _ _
  rcases lt_or_eq_of_le rounds.within with inside | half
  · exact .inl (by linarith)
  · rcases lt_or_eq_of_le (show |x - rounded| ≤ |x - other| by linarith) with closer | tie
    · exact .inl closer
    · exact .inr ⟨tie, rounds.even half⟩

theorem RoundsTo.abs_sub_le {x : ℚ} {rounded : Nat} (rounds : RoundsTo x rounded) (other : Nat) :
    |x - rounded| ≤ |x - other| := by
  by_cases same : other = rounded
  · rw [same]
  · exact (rounds.closer same).elim le_of_lt fun tie => tie.1.le

theorem RoundsTo.le_of_lt {x : ℚ} {rounded bound : Nat} (rounds : RoundsTo x rounded)
    (below : x < bound) : rounded ≤ bound := by
  have near := (abs_le.1 rounds.within).1
  have small : (rounded : ℚ) < (bound + 1 : Nat) := by
    push_cast
    linarith
  exact Nat.le_of_lt_succ (by exact_mod_cast small)

theorem RoundsTo.le_of_le {x : ℚ} {rounded bound : Nat} (rounds : RoundsTo x rounded)
    (above : bound ≤ x) : bound ≤ rounded := by
  have near := (abs_le.1 rounds.within).2
  have large : (bound : ℚ) < (rounded + 1 : Nat) := by
    push_cast
    linarith
  exact Nat.le_of_lt_succ (by exact_mod_cast large)

section Halves

variable {quotient : Nat} {fraction : ℚ}

theorem roundsTo_down (nonneg : 0 ≤ fraction) (small : fraction ≤ 1 / 2)
    (even : fraction = 1 / 2 → quotient % 2 = 0) : RoundsTo (quotient + fraction) quotient := by
  have distance : |(quotient + fraction : ℚ) - quotient| = fraction := by
    rw [add_sub_cancel_left, abs_of_nonneg nonneg]
  exact ⟨distance.trans_le small, fun half => even (distance.symm.trans half)⟩

theorem roundsTo_up (large : 1 / 2 ≤ fraction) (bounded : fraction ≤ 1)
    (odd : fraction = 1 / 2 → quotient % 2 = 1) :
    RoundsTo (quotient + fraction) (quotient + 1) := by
  have distance : |(quotient + fraction : ℚ) - (quotient + 1 : Nat)| = 1 - fraction := by
    rw [Nat.cast_succ, add_sub_add_left_eq_sub, abs_sub_comm, abs_of_nonneg (sub_nonneg.2 bounded)]
  refine ⟨distance.trans_le (by linarith), fun half => ?_⟩
  have tie := odd (by linarith [distance.symm.trans half])
  omega

end Halves

theorem roundsTo_roundHalfEven (num : Nat) {den : Nat} (positive : 0 < den) :
    RoundsTo (num / den) (roundHalfEven num den) := by
  have positive' : (0 : ℚ) < den := by exact_mod_cast positive
  have divided : (num : ℚ) / den = (num / den : Nat) + (num % den : Nat) / den := by
    rw [div_eq_iff positive'.ne', add_mul, div_mul_cancel₀ _ positive'.ne']
    exact_mod_cast (Nat.div_add_mod' num den).symm
  have below := Nat.mod_lt num positive
  rw [divided]
  unfold roundHalfEven
  generalize num / den = quotient
  generalize num % den = rest at below ⊢
  have nonneg : (0 : ℚ) ≤ rest / den := by positivity
  have bounded : (rest : ℚ) / den ≤ 1 := (div_le_one₀ positive').2 (by exact_mod_cast below.le)
  have less_iff : (rest : ℚ) / den < 1 / 2 ↔ 2 * rest < den := by
    rw [div_lt_div_iff₀ positive' two_pos, one_mul, mul_comm]
    exact_mod_cast Iff.rfl
  have more_iff : 1 / 2 < (rest : ℚ) / den ↔ den < 2 * rest := by
    rw [div_lt_div_iff₀ two_pos positive', one_mul, mul_comm]
    exact_mod_cast Iff.rfl
  simp only
  split
  next less =>
    have small := less_iff.2 less
    exact roundsTo_down nonneg small.le fun half => absurd half small.ne
  next notLess =>
  split
  next more =>
    have large := more_iff.2 more
    exact roundsTo_up large.le bounded fun half => absurd half large.ne'
  next notMore =>
    have small := not_lt.1 (mt more_iff.1 notMore)
    have large := not_lt.1 (mt less_iff.1 notLess)
    split
    next even => exact roundsTo_down nonneg small fun _ => even
    next odd => exact roundsTo_up large bounded fun _ => by omega

/-- Powers with an integer exponent, through natural ones. -/
theorem natCast_zpow_eq (base : Nat) (exponent : ℤ) : (base : ℚ) ^ exponent =
    if 0 ≤ exponent then ((base ^ exponent.toNat : Nat) : ℚ)
    else ((base ^ (-exponent).toNat : Nat) : ℚ)⁻¹ := by
  split
  next natural =>
    conv_lhs => rw [← Int.toNat_of_nonneg natural]
    rw [zpow_natCast, Nat.cast_pow]
  next negative =>
    have opposite : exponent = -((-exponent).toNat : ℤ) := by omega
    conv_lhs => rw [opposite]
    rw [zpow_neg, zpow_natCast, Nat.cast_pow]

namespace Binary64

/-- The logarithm of a ratio is nearly the difference of the logarithms of its terms. -/
theorem log_ratio_bounds {num den : Nat} (numPos : 0 < num) (denPos : 0 < den) :
    (num.log2 : ℤ) - den.log2 - 1 ≤ Int.log 2 (num / den : ℚ) ∧
      Int.log 2 (num / den : ℚ) < (num.log2 : ℤ) - den.log2 + 1 := by
  have denPos' : (0 : ℚ) < den := by exact_mod_cast denPos
  have ratioPos : (0 : ℚ) < num / den := by positivity
  have power (exponent : ℤ) : (0 : ℚ) < 2 ^ exponent := zpow_pos two_pos _
  have numLow : 2 ^ num.log2 ≤ num := Nat.log2_self_le numPos.ne'
  have numHigh : num < 2 ^ (num.log2 + 1) := Nat.lt_log2_self
  have denLow : 2 ^ den.log2 ≤ den := Nat.log2_self_le denPos.ne'
  have denHigh : den < 2 ^ (den.log2 + 1) := Nat.lt_log2_self
  constructor
  · rw [← Int.zpow_le_iff_le_log Nat.one_lt_two ratioPos, Nat.cast_ofNat, sub_sub,
      zpow_sub₀ two_ne_zero, div_le_div_iff₀ (power _) denPos']
    exact_mod_cast Nat.mul_le_mul numLow denHigh.le
  · rw [← Int.lt_zpow_iff_log_lt Nat.one_lt_two ratioPos, Nat.cast_ofNat, sub_add_eq_add_sub,
      zpow_sub₀ two_ne_zero, div_lt_div_iff₀ denPos' (power _)]
    exact_mod_cast Nat.mul_lt_mul_of_lt_of_le numHigh denLow denPos

/-- A positive ratio is rounded at the exponent that leaves it 53 bits in front of the point, or at
the least one if that is larger. -/
theorem exponentFor_eq {num den : Nat} (numPos : 0 < num) (denPos : 0 < den) :
    exponentFor num den = max (Int.log 2 (num / den : ℚ) - 52) (-1074) := by
  have denPos' : (0 : ℚ) < den := by exact_mod_cast denPos
  have ratioPos : (0 : ℚ) < num / den := by positivity
  have reaches (estimate : ℤ) :
      (if 0 ≤ estimate then decide (den * Nat.pow 2 estimate.toNat ≤ num)
        else decide (den ≤ num * Nat.pow 2 (-estimate).toNat)) = true ↔
      estimate ≤ Int.log 2 (num / den : ℚ) := by
    rw [← Int.zpow_le_iff_le_log Nat.one_lt_two ratioPos, natCast_zpow_eq, le_div_iff₀ denPos']
    split
    next =>
      rw [decide_eq_true_iff, mul_comm]
      exact_mod_cast Iff.rfl
    next =>
      have powerPos : (0 : ℚ) < (2 ^ (-estimate).toNat : Nat) := by positivity
      rw [decide_eq_true_iff, inv_mul_le_iff₀ powerPos, mul_comm]
      exact_mod_cast Iff.rfl
  obtain ⟨low, high⟩ := log_ratio_bounds numPos denPos
  unfold exponentFor
  simp only
  generalize (num.log2 : ℤ) - den.log2 = estimate at low high ⊢
  by_cases reached : estimate ≤ Int.log 2 (num / den : ℚ)
  · rw [if_pos ((reaches estimate).2 reached)]
    omega
  · rw [if_neg (mt (reaches estimate).1 reached)]
    omega

/-- A ratio is rounded in units of a power of two. -/
theorem roundsTo_roundAt (num : Nat) {den : Nat} (denPos : 0 < den) (exponent : ℤ) :
    RoundsTo (num / den / 2 ^ exponent) (roundAt num den exponent) := by
  unfold roundAt
  rw [← Nat.cast_ofNat, natCast_zpow_eq]
  split
  next =>
    rw [div_div, ← Nat.cast_mul]
    exact roundsTo_roundHalfEven _ (Nat.mul_pos denPos (Nat.two_pow_pos _))
  next =>
    rw [div_inv_eq_mul, div_mul_eq_mul_div, ← Nat.cast_mul]
    exact roundsTo_roundHalfEven _ denPos

/-- Numbers of a smaller exponent lie below all that have 53 bits at the larger one. -/
theorem mul_two_pow_lt {significand exponent exponent' : Nat} (small : significand < 2 ^ 53)
    (less : exponent' < exponent) : significand * 2 ^ exponent' < 2 ^ 52 * 2 ^ exponent := by
  calc significand * 2 ^ exponent' < 2 ^ 53 * 2 ^ exponent' :=
        Nat.mul_lt_mul_of_pos_right small (Nat.two_pow_pos _)
    _ = 2 ^ 52 * 2 ^ (exponent' + 1) := by ring
    _ ≤ 2 ^ 52 * 2 ^ exponent := Nat.mul_le_mul_left _ (Nat.pow_le_pow_right two_pos less)

/-- Rounding in units of a power of two finds the closest bits if the value has 53 bits in front of
the point, or fewer at the least exponent. -/
theorem isClosest_of_roundsTo {x : ℚ} {exponent rounded : Nat} (rounds : RoundsTo x rounded)
    (small : x < 2 ^ 53) (normal : exponent = 0 ∨ 2 ^ 52 ≤ x) :
    IsClosest (x * 2 ^ exponent) (exponent * 2 ^ 52 + rounded) := by
  have small' : rounded ≤ 2 ^ 53 := rounds.le_of_lt (by exact_mod_cast small)
  have normal' : exponent = 0 ∨ 2 ^ 52 ≤ rounded :=
    normal.imp_right fun large => rounds.le_of_le (by exact_mod_cast large)
  have power : (0 : ℚ) < 2 ^ exponent := by positivity
  have distance (other : ℚ) : |x * 2 ^ exponent - other * 2 ^ exponent| =
      |x - other| * 2 ^ exponent := by
    rw [← sub_mul, abs_mul, abs_of_pos power]
  intro other different
  have different' : units other ≠ units (exponent * 2 ^ 52 + rounded) :=
    units_strictMono.injective.ne different
  obtain ⟨exponent', significand, rfl, below, normal''⟩ := exists_parts other
  rw [units_eq small' normal', units_eq below.le normal''] at different' ⊢
  rw [Nat.cast_mul rounded, Nat.cast_pow, Nat.cast_ofNat, distance]
  rcases Nat.lt_or_ge exponent' exponent with less | same
  · -- A smaller power of two leaves the other number below all values of the larger exponent.
    have large : (2 : ℚ) ^ 52 ≤ x := normal.resolve_left (Nat.ne_zero_of_lt less)
    have further : ((significand * 2 ^ exponent' : Nat) : ℚ) < 2 ^ 52 * 2 ^ exponent := by
      exact_mod_cast mul_two_pow_lt below less
    have within : |x - rounded| ≤ x - 2 ^ 52 := by
      have least := rounds.abs_sub_le (2 ^ 52)
      rwa [Nat.cast_pow, Nat.cast_ofNat, abs_of_nonneg (sub_nonneg.2 large)] at least
    left
    calc |x - rounded| * 2 ^ exponent ≤ (x - 2 ^ 52) * 2 ^ exponent := by gcongr
      _ = x * 2 ^ exponent - 2 ^ 52 * 2 ^ exponent := sub_mul _ _ _
      _ < x * 2 ^ exponent - (significand * 2 ^ exponent' : Nat) := sub_lt_sub_left further _
      _ ≤ |x * 2 ^ exponent - (significand * 2 ^ exponent' : Nat)| := le_abs_self _
  · -- The other number is a multiple of the same power of two.
    obtain ⟨further, rfl⟩ := Nat.exists_eq_add_of_le' same
    rw [pow_add, ← mul_assoc] at different' ⊢
    generalize significand * 2 ^ further = multiple at different' ⊢
    have other : multiple ≠ rounded := fun equal => different' (by rw [equal])
    rw [Nat.cast_mul, Nat.cast_pow, Nat.cast_ofNat, distance]
    rcases rounds.closer other with closer | ⟨tie, even⟩
    · exact .inl (mul_lt_mul_of_pos_right closer power)
    · exact .inr ⟨by rw [tie], by omega⟩

/-- The bits that a positive ratio is rounded to are closest to it. -/
theorem isClosest_of_ratio {num den : Nat} (numPos : 0 < num) (denPos : 0 < den) :
    IsClosest (num / den / least) ((exponentFor num den + 1074).toNat * 2 ^ 52 +
      roundAt num den (exponentFor num den)) := by
  have positive : (0 : ℚ) < num / den := by positivity
  have parts := exponentFor_eq numPos denPos
  have rounds := roundsTo_roundAt num denPos (exponentFor num den)
  generalize roundAt num den (exponentFor num den) = rounded at rounds ⊢
  generalize (num : ℚ) / den = x at positive parts rounds ⊢
  generalize exponentFor num den = exponent at parts rounds ⊢
  have power : (0 : ℚ) < 2 ^ exponent := zpow_pos two_pos _
  have units : (2 : ℚ) ^ exponent = 2 ^ (exponent + 1074).toNat * least := by
    have sum : exponent = ((exponent + 1074).toNat : ℤ) + -1074 := by omega
    conv_lhs => rw [sum]
    rw [zpow_add₀ two_ne_zero, zpow_natCast, least]
  have scaled : x / least = x / 2 ^ exponent * 2 ^ (exponent + 1074).toNat := by
    rw [units, div_mul_eq_mul_div, mul_comm x, mul_div_mul_left _ _ (pow_ne_zero _ two_ne_zero)]
  rw [scaled]
  refine isClosest_of_roundsTo rounds ?_ ?_
  · have below : x < (2 : Nat) ^ (53 + exponent) := by
      rw [Int.lt_zpow_iff_log_lt Nat.one_lt_two positive]
      omega
    rw [div_lt_iff₀ power]
    rwa [Nat.cast_ofNat, zpow_add₀ two_ne_zero] at below
  · by_cases lowest : exponent = -1074
    · exact .inl (by omega)
    · have above : (2 : Nat) ^ (52 + exponent) ≤ x := by
        rw [Int.zpow_le_iff_le_log Nat.one_lt_two positive]
        omega
      rw [Nat.cast_ofNat, zpow_add₀ two_ne_zero] at above
      exact .inr ((le_div_iff₀ power).2 above)

/-- Bits are closest to a value of less than half a unit if they are zero. -/
theorem isClosest_zero {x : ℚ} (positive : 0 ≤ x) (small : x < 1 / 2) : IsClosest x 0 := by
  have distance : |x - (0 : Nat)| = x := by rw [Nat.cast_zero, sub_zero, abs_of_nonneg positive]
  have rounds : RoundsTo x 0 := ⟨distance.trans_le small.le, fun _ => rfl⟩
  simpa using isClosest_of_roundsTo rounds (small.trans (by norm_num)) (.inl rfl)

/-- The middle between the largest number and the next power of two. -/
theorem limit_eq : (2 ^ 53 - 1 / 2) * 2 ^ 2045 * least = 2 ^ 1024 - 2 ^ 970 := by
  have top : (2 : ℚ) ^ 2045 * least = 2 ^ 971 := by
    rw [least, ← zpow_natCast 2 2045, ← zpow_add₀ two_ne_zero, ← zpow_natCast 2 971]
    congr 1
  have end' : (2 : ℚ) ^ 1024 = 2 ^ 53 * 2 ^ 971 := pow_add 2 53 971
  have half : (2 : ℚ) ^ 971 = 2 ^ 970 * 2 := pow_succ 2 970
  rw [mul_assoc, top, end', half]
  generalize (2 : ℚ) ^ 970 = power
  ring

/-- What rounding makes of a value: the nearest number, or none beyond the range of the format. -/
inductive Rounds (x : ℚ) : Option Binary64 → Prop where
  | nearest {number : Binary64} (below : x < 2 ^ 1024 - 2 ^ 970) (nearest : number.IsNearest x) :
      Rounds x (some number)
  | overflow (beyond : 2 ^ 1024 - 2 ^ 970 ≤ x) : Rounds x none

theorem Rounds.isSome_iff {x : ℚ} {result : Option Binary64} (rounds : Rounds x result) :
    result.isSome ↔ x < 2 ^ 1024 - 2 ^ 970 := by
  cases rounds with
  | nearest below => exact iff_of_true rfl below
  | overflow beyond => exact iff_of_false nofun beyond.not_gt

theorem Rounds.exists_isNearest {x : ℚ} {result : Option Binary64} (rounds : Rounds x result)
    (below : x < 2 ^ 1024 - 2 ^ 970) : ∃ number, result = some number ∧ number.IsNearest x := by
  cases rounds with
  | nearest _ nearest => exact ⟨_, rfl, nearest⟩
  | overflow beyond => exact absurd below beyond.not_gt

/-- The closest bits are those of the nearest number, below the end of the range. -/
theorem IsClosest.rounds {x : ℚ} {bits : Nat} (closest : IsClosest (x / least) bits) :
    Rounds x (ofBits? bits) := by
  have range : bits < infinityBits ↔ x < 2 ^ 1024 - 2 ^ 970 := by
    rw [closest.finite_iff, div_lt_iff₀ least_pos, limit_eq]
  unfold ofBits?
  split
  next finite =>
    refine .nearest (range.1 finite) (IsClosest.isNearest ?_)
    rwa [toNat_bits_ofBits]
  next infinite => exact .overflow (not_lt.1 fun below => infinite (range.2 below))

theorem rounds_zero : Rounds 0 (some zero) := by
  have closest : IsClosest (0 / least) 0 := by
    rw [zero_div]
    exact isClosest_zero le_rfl (by norm_num)
  exact closest.rounds

/-- Rounding finds the nearest number to any ratio in the range of the format. -/
theorem rounds_nearest? (num : Nat) {den : Nat} (denPos : 0 < den) :
    Rounds (num / den) (nearest? num den) := by
  unfold nearest?
  split
  next none =>
    rw [none, Nat.cast_zero, zero_div]
    exact rounds_zero
  next some => exact (isClosest_of_ratio (Nat.pos_of_ne_zero some) denPos).rounds

end Binary64

namespace Decimal

variable {decimal : Decimal}

/-- The rounding with the digits and the exponent of the last one under their names. -/
theorem nearest?_eq (decimal : Decimal) : decimal.nearest? =
    if decimal.digits.isEmpty then some .zero
    else if 310 < decimal.power + decimal.digits.length then none
    else if decimal.power + decimal.digits.length < -400 then some .zero
    else if 0 ≤ decimal.power then
      Binary64.nearest? (numeralValue 10 decimal.digits * 10 ^ decimal.power.toNat) 1
    else Binary64.nearest? (numeralValue 10 decimal.digits) (10 ^ (-decimal.power).toNat) :=
  rfl

/-- Values with more than 310 digits in front of the point are out of range. -/
theorem limit_le_value (all : ∀ c ∈ decimal.digits, isDigitIn 10 c = true)
    (nonempty : decimal.digits ≠ [])
    (large : 310 < decimal.power + (decimal.digits.length : ℤ)) :
    2 ^ 1024 - 2 ^ 970 ≤ decimal.value := by
  have powers : (2 : ℚ) ^ 1024 ≤ 10 ^ 310 := by
    calc (2 : ℚ) ^ 1024 = (2 ^ 93) ^ 11 * 2 := by rw [← pow_mul, ← pow_succ]
      _ ≤ (10 ^ 28) ^ 11 * 10 ^ 2 := by gcongr <;> norm_num
      _ = 10 ^ 310 := by rw [← pow_mul, ← pow_add]
  have subtrahend : (0 : ℚ) < 2 ^ 970 := pow_pos two_pos _
  have magnitude : (10 : ℚ) ^ 310 ≤ decimal.value := by
    refine le_trans ?_ (le_value all nonempty)
    rw [← zpow_natCast]
    exact zpow_le_zpow_right₀ (by norm_num) (by omega)
  exact (sub_le_self _ subtrahend.le).trans (powers.trans magnitude)

/-- Values with more than 400 zeros behind the point are closest to zero. -/
theorem isClosest_zero_of_magnitude (all : ∀ c ∈ decimal.digits, isDigitIn 10 c = true)
    (small : decimal.power + (decimal.digits.length : ℤ) < -400) :
    Binary64.IsClosest (decimal.value / Binary64.least) 0 := by
  have positive : 0 ≤ decimal.value := by
    rw [value_eq]
    exact mul_nonneg (Nat.cast_nonneg _) (zpow_nonneg (by norm_num) _)
  refine Binary64.isClosest_zero (div_nonneg positive Binary64.least_pos.le) ?_
  rw [div_lt_iff₀ Binary64.least_pos]
  have powers : (2 : ℚ) ^ 1075 ≤ 10 ^ 401 := by
    calc (2 : ℚ) ^ 1075 ≤ 2 ^ 1203 := pow_le_pow_right₀ one_le_two (by norm_num)
      _ = (2 ^ 3) ^ 401 := pow_mul 2 3 401
      _ ≤ 10 ^ 401 := by gcongr; norm_num
  have half : (2 : ℚ) ^ (-1075 : ℤ) = 1 / 2 * Binary64.least := by
    rw [Binary64.least, one_div, ← zpow_neg_one, ← zpow_add₀ two_ne_zero]
    congr 1
  calc decimal.value < 10 ^ (decimal.power + decimal.digits.length) := value_lt all
    _ ≤ 10 ^ (-401 : ℤ) := zpow_le_zpow_right₀ (by norm_num) (by omega)
    _ ≤ 2 ^ (-1075 : ℤ) := by
        rw [zpow_neg, zpow_neg]
        exact inv_anti₀ (zpow_pos two_pos _) (by exact_mod_cast powers)
    _ = 1 / 2 * Binary64.least := half

/-- Rounding finds the nearest number to any decimal fraction in the range of the format. -/
theorem rounds_nearest? (all : ∀ c ∈ decimal.digits, isDigitIn 10 c = true) :
    Binary64.Rounds decimal.value decimal.nearest? := by
  rw [nearest?_eq]
  split
  next none =>
    have zero : decimal.value = 0 := by
      rw [value_eq, List.isEmpty_iff.1 none]
      simp [numeralValue]
    rw [zero]
    exact Binary64.rounds_zero
  next some =>
  split
  next large =>
    have nonempty : decimal.digits ≠ [] := by simpa using some
    exact .overflow (limit_le_value all nonempty large)
  next =>
  split
  next small => exact (isClosest_zero_of_magnitude all small).rounds
  next =>
    have ten : (10 : ℚ) = (10 : Nat) := rfl
    rw [value_eq, ten, natCast_zpow_eq]
    split
    next =>
      rw [← Nat.cast_mul, ← div_one (Nat.cast _), ← Nat.cast_one]
      exact Binary64.rounds_nearest? _ Nat.one_pos
    next =>
      rw [← div_eq_mul_inv]
      exact Binary64.rounds_nearest? _ (Nat.pow_pos (by decide))

theorem SpelledBy.isDigitIn_of_mem_digits {chars : List Char} (spelled : decimal.SpelledBy chars) :
    ∀ c ∈ decimal.digits, isDigitIn 10 c = true := by
  obtain ⟨whole, -, _, _, -, point, -⟩ := spelled
  refine Decimal.isDigitIn_of_mem_digits whole ?_
  generalize decimal.fraction = fraction at point
  cases point with
  | none => exact nofun
  | point all => exact all

end Decimal

/-- What is read is the number nearest to the decimal fraction. -/
theorem exists_readFloat_of_spelledBy {spelling : String} {decimal : Decimal}
    (spelled : decimal.SpelledBy spelling.toList) (below : decimal.value < 2 ^ 1024 - 2 ^ 970) :
    ∃ number, readFloat spelling = .ok (.finite false number) ∧ number.IsNearest decimal.value := by
  obtain ⟨number, result, nearest⟩ :=
    (Decimal.rounds_nearest? spelled.isDigitIn_of_mem_digits).exists_isNearest below
  refine ⟨number, ?_, nearest⟩
  rw [readFloat_of_spelledBy spelled, result]

end ExprTree
