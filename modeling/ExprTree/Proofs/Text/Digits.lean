/-
# ExprTree.Proofs.Text.Digits — what is written by digits is read back

A number is written by the digits of a radix, and a row of digits has a positional value. Writing
and reading are put side by side for the two kinds of numerals that are written: a fixed number of
hexadecimal digits (`numeralValue_fixedHex`), and as many decimal digits as a number needs
(`numeralValue_toDigits`), without a superfluous zero in front (`head?_toDigits`).
-/
import ExprTree.Text.Digits
import Mathlib.Data.List.Basic

namespace ExprTree.Text

set_option autoImplicit false

def IsDigits (radix : Nat) (digits : List Char) : Prop :=
  digits ≠ [] ∧ ∀ c ∈ digits, isDigitIn radix c = true

theorem ne_of_isDigitIn {radix : Nat} {c c' : Char} (digit : isDigitIn radix c = true)
    (other : isDigitIn radix c' = false) : c ≠ c' := by
  rintro rfl
  rw [digit] at other
  cases other

theorem isDigitIn_mono {radix radix' : Nat} (le : radix ≤ radix') {c : Char}
    (digit : isDigitIn radix c = true) : isDigitIn radix' c = true := by
  unfold isDigitIn at digit ⊢
  split at digit
  next value found =>
    simp only [decide_eq_true_eq] at digit ⊢
    exact Nat.lt_of_lt_of_le digit le
  next => cases digit

theorem IsDigits.exists_cons {radix : Nat} {digits : List Char} (row : IsDigits radix digits) :
    ∃ c rest, digits = c :: rest ∧ isDigitIn radix c = true := by
  cases digits with
  | nil => exact absurd rfl row.1
  | cons c rest => exact ⟨c, rest, rfl, row.2 c (by simp)⟩

/-! ## Hexadecimal digits -/

theorem digitValue?_digitChar {digit : Nat} (small : digit < 16) :
    digitValue? (Nat.digitChar digit) = some digit := by
  revert digit
  decide

theorem isDigitIn_digitChar {radix digit : Nat} (small : digit < radix) (bounded : radix ≤ 16) :
    isDigitIn radix (Nat.digitChar digit) = true := by
  simp [isDigitIn, digitValue?_digitChar (Nat.lt_of_lt_of_le small bounded), small]

theorem isDigitIn_of_mem_fixedHex {width n : Nat} {c : Char} (member : c ∈ fixedHex width n) :
    isDigitIn 16 c = true := by
  induction width generalizing n with
  | zero => cases member
  | succ width ih =>
      rw [fixedHex, List.mem_append, List.mem_singleton] at member
      rcases member with front | rfl
      · exact ih front
      · exact isDigitIn_digitChar (Nat.mod_lt n (by decide)) (by decide)

theorem numeralValue_append_singleton (radix : Nat) (digits : List Char) (c : Char) :
    numeralValue radix (digits ++ [c]) =
      numeralValue radix digits * radix + (digitValue? c).getD 0 := by
  simp [numeralValue, List.foldl_append]

theorem numeralValue_fixedHex {width n : Nat} (fits : n < Nat.pow 16 width) :
    numeralValue 16 (fixedHex width n) = n := by
  induction width generalizing n with
  | zero =>
      obtain rfl : n = 0 := by simpa using fits
      rfl
  | succ width ih =>
      have front : n / 16 < Nat.pow 16 width :=
        Nat.div_lt_of_lt_mul (Nat.mul_comm _ 16 ▸ fits)
      have last : n % 16 < 16 := Nat.mod_lt n (by decide)
      rw [fixedHex, numeralValue_append_singleton, ih front, digitValue?_digitChar last,
        Option.getD_some]
      omega

/-! ## Decimal digits -/

/-- The decimal digits of a number are put together from the last one. -/
theorem toDigits_induct {motive : Nat → List Char → Prop}
    (single : ∀ digit < 10, motive digit [Nat.digitChar digit])
    (more : ∀ n, 10 ≤ n → motive (n / 10) (Nat.toDigits 10 (n / 10)) →
      motive n (Nat.toDigits 10 (n / 10) ++ [Nat.digitChar (n % 10)])) (n : Nat) :
    motive n (Nat.toDigits 10 n) := by
  induction n using Nat.strongRecOn with
  | ind n ih =>
      rcases Nat.lt_or_ge n 10 with small | large
      · rw [Nat.toDigits_of_lt_base small]
        exact single n small
      · rw [Nat.toDigits_of_base_le (by decide) large]
        exact more n large (ih (n / 10) (by omega))

theorem isDigits_toDigits (n : Nat) : IsDigits 10 (Nat.toDigits 10 n) := by
  refine ⟨Nat.toDigits_ne_nil, ?_⟩
  induction n using toDigits_induct with
  | single digit small =>
      rw [List.forall_mem_singleton]
      exact isDigitIn_digitChar small (by decide)
  | more n large ih =>
      rw [List.forall_mem_append, List.forall_mem_singleton]
      exact ⟨ih, isDigitIn_digitChar (Nat.mod_lt n (by decide)) (by decide)⟩

@[simp] theorem numeralValue_toDigits (n : Nat) : numeralValue 10 (Nat.toDigits 10 n) = n := by
  induction n using toDigits_induct with
  | single digit small =>
      have known : digit < 16 := by omega
      simp [numeralValue, digitValue?_digitChar known]
  | more n large ih =>
      have known : n % 10 < 16 := by omega
      rw [numeralValue_append_singleton, ih, digitValue?_digitChar known, Option.getD_some]
      omega

/-- Only zero begins with a zero. -/
theorem head?_toDigits (n : Nat) : n ≠ 0 → (Nat.toDigits 10 n).head? ≠ some '0' := by
  induction n using toDigits_induct with
  | single digit small =>
      revert digit
      decide
  | more n large ih =>
      intro _
      rw [List.head?_append_of_ne_nil _ Nat.toDigits_ne_nil]
      exact ih (by omega)

/-! ## What begins a numeral -/

theorem isNumeralStart_of_isDigitIn {c : Char} (digit : isDigitIn 10 c = true) :
    isNumeralStart c = true := by
  rw [isNumeralStart, digit, Bool.true_or]

/-- Digits and the point come before the letters. -/
theorem toNat_lt_of_isNumeralStart {c : Char} (start : isNumeralStart c = true) :
    c.toNat < 0x41 := by
  rw [isNumeralStart, Bool.or_eq_true, beq_iff_eq] at start
  rcases start with digit | rfl
  · unfold isDigitIn digitValue? at digit
    split at digit
    next value found =>
      split at found
      next decimal =>
        have last : c.toNat ≤ '9'.toNat := decimal.2
        exact Nat.lt_of_le_of_lt last (by decide)
      next =>
        -- the letters stand for ten and more
        have large : 10 ≤ value := by
          split at found
          · cases found
            exact Nat.le_add_left 10 _
          split at found
          · cases found
            exact Nat.le_add_left 10 _
          · cases found
        exact absurd (of_decide_eq_true digit) (Nat.not_lt.2 large)
    next => cases digit
  · decide

/-! ## Signs -/

/-- A sign is taken from the front if there is one. -/
theorem splitSign_cases (chars : List Char) :
    (∃ unsigned, chars = '-' :: unsigned ∧ splitSign chars = (true, unsigned)) ∨
      (∃ unsigned, chars = '+' :: unsigned ∧ splitSign chars = (false, unsigned)) ∨
      splitSign chars = (false, chars) := by
  unfold splitSign
  split
  · exact .inl ⟨_, rfl, rfl⟩
  · exact .inr (.inl ⟨_, rfl, rfl⟩)
  · exact .inr (.inr rfl)

theorem splitSign_of_head {c : Char} {rest : List Char} (minus : c ≠ '-') (plus : c ≠ '+') :
    splitSign (c :: rest) = (false, c :: rest) := by
  rcases splitSign_cases (c :: rest) with ⟨_, split, -⟩ | ⟨_, split, -⟩ | unsigned
  · exact absurd (List.cons.inj split).1 minus
  · exact absurd (List.cons.inj split).1 plus
  · exact unsigned

theorem splitSign_digits {digits : List Char} (row : IsDigits 10 digits) (rest : List Char) :
    splitSign (digits ++ rest) = (false, digits ++ rest) := by
  obtain ⟨c, tail, rfl, digit⟩ := row.exists_cons
  exact splitSign_of_head (ne_of_isDigitIn digit (by decide)) (ne_of_isDigitIn digit (by decide))

end ExprTree.Text
