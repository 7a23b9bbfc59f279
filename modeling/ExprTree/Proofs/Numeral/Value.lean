/-
# ExprTree.Proofs.Numeral.Value — the numbers that numerals denote

A digit counts by its place: with a power of the radix in front of a point, and with a fraction of
it behind. `DenotesInteger` says so of integers, `Decimal.value` of decimal fractions, without the
accumulation from left to right that reads them. The readers compute these values
(`spellsInteger_iff_denotes`, `Decimal.value_eq`).

A row of decimal digits lies between two powers of ten if no zero begins it, so the digits and the
exponent of a decimal fraction bound its value (`Decimal.le_value` and `Decimal.value_lt`).
-/
import ExprTree.Proofs.Numeral.Spelling
import Mathlib.Data.Nat.Digits.Lemmas
import Mathlib.Tactic.FieldSimp

namespace ExprTree

set_option autoImplicit false

namespace Text

/-- The numbers of the digits in a row, the last digit first. -/
def digitNumbers (digits : List Char) : List Nat :=
  (digits.map fun c => (digitValue? c).getD 0).reverse

theorem length_digitNumbers (digits : List Char) :
    (digitNumbers digits).length = digits.length := by
  rw [digitNumbers, List.length_reverse, List.length_map]

theorem digitNumbers_append (front back : List Char) :
    digitNumbers (front ++ back) = digitNumbers back ++ digitNumbers front := by
  rw [digitNumbers, List.map_append, List.reverse_append, digitNumbers, digitNumbers]

theorem lt_of_mem_digitNumbers {radix : Nat} {digits : List Char}
    (all : ∀ c ∈ digits, isDigitIn radix c = true) :
    ∀ number ∈ digitNumbers digits, number < radix := by
  intro number member
  rw [digitNumbers, List.mem_reverse, List.mem_map] at member
  obtain ⟨c, inRow, rfl⟩ := member
  have digit := all c inRow
  unfold isDigitIn at digit
  split at digit
  next value found =>
    rw [found]
    exact of_decide_eq_true digit
  next => cases digit

/-- The value of a row of digits is the sum of its digits, each times the power of its place. -/
theorem numeralValue_eq_ofDigits (radix : Nat) (digits : List Char) :
    numeralValue radix digits = Nat.ofDigits radix (digitNumbers digits) := by
  induction digits using List.reverseRec with
  | nil => rfl
  | append_singleton digits c ih =>
      rw [numeralValue_append_singleton, digitNumbers_append, ih]
      show _ = Nat.ofDigits radix (_ :: digitNumbers digits)
      rw [Nat.ofDigits_cons, Nat.add_comm, Nat.mul_comm]

theorem numeralValue_append (radix : Nat) (front back : List Char) :
    numeralValue radix (front ++ back) =
      numeralValue radix front * radix ^ back.length + numeralValue radix back := by
  simp only [numeralValue_eq_ofDigits]
  rw [digitNumbers_append, Nat.ofDigits_append, length_digitNumbers, Nat.add_comm, Nat.mul_comm]

theorem numeralValue_lt {radix : Nat} (large : 1 < radix) {digits : List Char}
    (all : ∀ c ∈ digits, isDigitIn radix c = true) :
    numeralValue radix digits < radix ^ digits.length := by
  rw [numeralValue_eq_ofDigits, ← length_digitNumbers]
  exact Nat.ofDigits_lt_base_pow_length large (lt_of_mem_digitNumbers all)

theorem numeralValue_dropWhile (radix : Nat) (digits : List Char) :
    numeralValue radix (digits.dropWhile (· == '0')) = numeralValue radix digits := by
  induction digits with
  | nil => rfl
  | cons c rest ih =>
      rw [List.dropWhile_cons]
      split
      next zero =>
        obtain rfl : c = '0' := by simpa using zero
        have first : numeralValue radix ['0'] = 0 := by simp [numeralValue, digitValue?]
        rw [ih, ← List.singleton_append, numeralValue_append, first, Nat.zero_mul, Nat.zero_add]
      next => rfl

/-- Only the zero has the value zero. -/
theorem eq_zero_of_digitValue? {c : Char} (found : digitValue? c = some 0) : c = '0' := by
  unfold digitValue? at found
  split at found
  next decimal =>
    have above : '0'.toNat ≤ c.toNat := decimal.1
    rw [Option.some.injEq] at found
    exact Char.toNat_inj.1 (by omega)
  · split at found
    · cases found
    · split at found <;> cases found

/-- A row of digits that no zero begins is not below the power of its first place. -/
theorem le_numeralValue {radix : Nat} {c : Char} {rest : List Char}
    (digit : isDigitIn radix c = true) (front : c ≠ '0') :
    radix ^ rest.length ≤ numeralValue radix (c :: rest) := by
  unfold isDigitIn at digit
  split at digit
  next value found =>
    have positive : 0 < value := by
      refine Nat.pos_of_ne_zero ?_
      rintro rfl
      exact front (eq_zero_of_digitValue? found)
    have first : numeralValue radix [c] = value := by simp [numeralValue, found]
    rw [← List.singleton_append, numeralValue_append, first]
    exact Nat.le_trans (Nat.le_mul_of_pos_left _ positive) (Nat.le_add_right _ _)
  next => cases digit

end Text

open Text (IsDigits isDigitIn numeralValue digitNumbers)

/-! ## Integers -/

/-- The digits of an integer and their radix. Decimal digits stand alone, and no zero begins them
unless it is the only digit; others stand behind a zero and the mark of their radix. -/
def WritesInteger (chars : List Char) (radix : Nat) (digits : List Char) : Prop :=
  IsDigits radix digits ∧
    (radix = 10 ∧ chars = digits ∧ (digits.head? = some '0' → digits = ['0']) ∨
      ∃ mark, (mark, radix) ∈ radixMarks ∧ chars = '0' :: mark :: digits)

/-- The characters denote the integer: it is the sum of their digits, each times the power of the
radix that belongs to its place. -/
def DenotesInteger (chars : List Char) (value : Nat) : Prop :=
  ∃ radix digits, WritesInteger chars radix digits ∧
    value = Nat.ofDigits radix (digitNumbers digits)

theorem spellsInteger_iff_denotes {chars : List Char} {value : Nat} :
    SpellsInteger chars value ↔ DenotesInteger chars value := by
  simp only [DenotesInteger, ← Text.numeralValue_eq_ofDigits]
  constructor
  · intro spells
    cases spells with
    | zero =>
        have row : IsDigits 10 ['0'] := ⟨by simp, List.forall_mem_singleton.2 rfl⟩
        exact ⟨10, ['0'], ⟨row, .inl ⟨rfl, rfl, fun _ => rfl⟩⟩, rfl⟩
    | decimal row front =>
        exact ⟨10, chars, ⟨row, .inl ⟨rfl, rfl, fun zero => absurd zero front⟩⟩, rfl⟩
    | @marked mark radix digits known row =>
        exact ⟨radix, digits, ⟨row, .inr ⟨mark, known, rfl⟩⟩, rfl⟩
  · rintro ⟨radix, digits, ⟨row, ⟨rfl, rfl, single⟩ | ⟨mark, known, rfl⟩⟩, rfl⟩
    · by_cases zero : chars.head? = some '0'
      · rw [single zero]
        exact .zero
      · exact .decimal row zero
    · exact .marked known row

theorem largestInteger_eq : largestInteger = 2 ^ 63 - 1 := by decide

/-- Integers are read as the values that they denote, as far as a signed word holds them. -/
theorem readInteger_eq_ok_iff_denotes {spelling : String} {value : Nat} :
    readInteger spelling = .ok value ↔
      DenotesInteger spelling.toList value ∧ value ≤ 2 ^ 63 - 1 := by
  rw [readInteger_eq_ok_iff, spellsInteger_iff_denotes, largestInteger_eq]

/-! ## Decimal fractions -/

namespace Decimal

/-- The number that the fraction denotes: the digits in front of the point and the digits behind it,
the latter divided by the power of ten of their last place, times the power of the exponent. -/
def value (decimal : Decimal) : ℚ :=
  (Nat.ofDigits 10 (digitNumbers decimal.whole) +
    Nat.ofDigits 10 (digitNumbers decimal.fraction) / 10 ^ decimal.fraction.length) *
      10 ^ decimal.exponent

/-- All digits together, without the zeros that begin them. -/
def digits (decimal : Decimal) : List Char :=
  (decimal.whole ++ decimal.fraction).dropWhile (· == '0')

/-- The exponent that belongs to the last digit. -/
def power (decimal : Decimal) : Int :=
  decimal.exponent - decimal.fraction.length

/-- All digits together count in units of the last place. -/
theorem value_eq (decimal : Decimal) :
    decimal.value = numeralValue 10 decimal.digits * 10 ^ decimal.power := by
  have places (digits : List Char) :
      Nat.ofDigits (10 : ℚ) (digitNumbers digits) = numeralValue 10 digits := by
    rw [Text.numeralValue_eq_ofDigits, Nat.coe_ofDigits, Nat.cast_ofNat]
  rw [value, digits, power, places, places, Text.numeralValue_dropWhile, Text.numeralValue_append,
    zpow_sub₀ (by norm_num), zpow_natCast]
  push_cast
  field_simp

variable {decimal : Decimal}

theorem isDigitIn_of_mem_digits (whole : ∀ c ∈ decimal.whole, isDigitIn 10 c = true)
    (fraction : ∀ c ∈ decimal.fraction, isDigitIn 10 c = true) :
    ∀ c ∈ decimal.digits, isDigitIn 10 c = true := by
  intro c member
  have row := (List.dropWhile_sublist _).subset member
  exact (List.mem_append.1 row).elim (whole c) (fraction c)

theorem value_lt (all : ∀ c ∈ decimal.digits, isDigitIn 10 c = true) :
    decimal.value < 10 ^ (decimal.power + decimal.digits.length) := by
  have bound : (numeralValue 10 decimal.digits : ℚ) < 10 ^ decimal.digits.length := by
    exact_mod_cast Text.numeralValue_lt (by decide) all
  rw [value_eq, add_comm, zpow_add₀ (by norm_num), zpow_natCast]
  exact mul_lt_mul_of_pos_right bound (zpow_pos (by norm_num) _)

theorem le_value (all : ∀ c ∈ decimal.digits, isDigitIn 10 c = true)
    (nonempty : decimal.digits ≠ []) :
    10 ^ (decimal.power + decimal.digits.length - 1) ≤ decimal.value := by
  rw [value_eq]
  cases row : decimal.digits with
  | nil => exact absurd row nonempty
  | cons c rest =>
      rw [row] at all
      have front : c ≠ '0' := by
        have stops := List.head?_dropWhile_not (· == '0') (decimal.whole ++ decimal.fraction)
        rw [← digits, row] at stops
        exact of_decide_eq_false stops
      have bound : (10 : ℚ) ^ rest.length ≤ numeralValue 10 (c :: rest) := by
        exact_mod_cast Text.le_numeralValue (all c List.mem_cons_self) front
      have place : decimal.power + ((c :: rest).length : ℤ) - 1 = rest.length + decimal.power := by
        rw [List.length_cons]
        omega
      rw [place, zpow_add₀ (by norm_num), zpow_natCast]
      exact mul_le_mul_of_nonneg_right bound (zpow_nonneg (by norm_num) _)

end Decimal

end ExprTree
