/-
# ExprTree.Proofs.Expr.NumberKinds — integers and floats that are spelled alike

A printed number is its spelling, which does not say whether it was read as an integer or as a
decimal fraction. Most spellings can be read in one way only: the mark of a radix is no part of a
decimal fraction, and a point or an exponent is no part of an integer. What is left are the rows of
decimal digits that no superfluous zero begins (`Text.IsPlain`); those that a signed word can hold
are read in both ways (`accepts_int_and_float_iff`).

`Expr.Replaces` puts one leaf in the place of another, anywhere in a tree. The text changes if the
shape of the leaf does (`Replaces.print_eq_print_iff`), and the shape of a number is its spelling.

Main statement: `Expr.numbers_spelled_alike`.
-/
import ExprTree.Proofs.Expr.Numbers
import ExprTree.Proofs.Expr.Readability

namespace ExprTree

set_option autoImplicit false

open Text (IsDigits numeralValue)

/-! ## Spellings that are read in both ways -/

namespace Text

/-- A row of decimal digits which no zero begins, unless it is the only digit. -/
def IsPlain (chars : List Char) : Prop :=
  IsDigits 10 chars ∧ (chars.head? = some '0' → chars = ['0'])

end Text

/-- A decimal fraction does not announce a radix. -/
theorem Decimal.SpelledBy.ne_marked {decimal : Decimal} {chars digits : List Char} {mark : Char}
    {radix : Nat} (spelled : decimal.SpelledBy chars) (known : (mark, radix) ∈ radixMarks) :
    chars ≠ '0' :: mark :: digits := by
  rintro rfl
  have decimalChar := spelled.isDecimalChar mark (by simp)
  have other : ∀ announced ∈ radixMarks, Text.isDecimalChar announced.1 = false := by decide
  rw [other _ known] at decimalChar
  cases decimalChar

theorem Text.IsPlain.spellsInteger {chars : List Char} (plain : Text.IsPlain chars) :
    SpellsInteger chars (numeralValue 10 chars) := by
  obtain ⟨row, single⟩ := plain
  by_cases zero : chars.head? = some '0'
  · rw [single zero]
    exact .zero
  · exact .decimal row zero

/-- Plain digits spell a decimal fraction too, without a point and an exponent. -/
theorem Text.IsDigits.spelledBy {chars : List Char} (row : IsDigits 10 chars) :
    (⟨chars, [], 0⟩ : Decimal).SpelledBy chars :=
  ⟨row.2, .inl row.1, [], [], by simp, .none, .none⟩

theorem Decimal.value_whole (digits : List Char) :
    (⟨digits, [], 0⟩ : Decimal).value = numeralValue 10 digits := by
  have none : Nat.ofDigits (10 : ℚ) (Text.digitNumbers []) = 0 := rfl
  rw [Decimal.value, Text.numeralValue_eq_ofDigits, Nat.coe_ofDigits, none]
  simp

/-- An integer that is spelled like a decimal fraction has plain digits, which are its value. -/
theorem SpellsInteger.isPlain {chars : List Char} {value : Nat} {decimal : Decimal}
    (spells : SpellsInteger chars value) (spelled : decimal.SpelledBy chars) :
    Text.IsPlain chars ∧ value = numeralValue 10 chars := by
  cases spells with
  | zero => exact ⟨⟨⟨by simp, List.forall_mem_singleton.2 rfl⟩, fun _ => rfl⟩, rfl⟩
  | decimal row front => exact ⟨⟨row, fun zero => absurd zero front⟩, rfl⟩
  | marked known row => exact absurd rfl (spelled.ne_marked known)

/-- The largest integer is far below the first value that no float is nearest to. -/
theorem lt_limit_of_le_largestInteger {value : Nat} (small : value ≤ 2 ^ 63 - 1) :
    (value : ℚ) < 2 ^ 1024 - 2 ^ 970 := by
  have below : (value : ℚ) < 2 ^ 63 := by exact_mod_cast Nat.lt_of_le_pred (by decide) small
  have power : (2 : ℚ) ^ 1024 = 2 ^ 970 * 2 ^ 54 := pow_add 2 970 54
  have large : (2 : ℚ) ^ 63 ≤ 2 ^ 970 := pow_le_pow_right₀ one_le_two (by decide)
  rw [power]
  generalize (2 : ℚ) ^ 970 = scale at large ⊢
  linarith

/-- Both kinds of numbers accept a spelling if it is that of an integer in plain digits. -/
theorem accepts_int_and_float_iff {spelling : String} :
    LeafKind.Accepts .int spelling ∧ LeafKind.Accepts .float spelling ↔
      Text.IsPlain spelling.toList ∧ numeralValue 10 spelling.toList ≤ 2 ^ 63 - 1 := by
  rw [← largestInteger_eq]
  constructor
  · rintro ⟨⟨value, small, spells⟩, decimal, spelled, -⟩
    obtain ⟨plain, rfl⟩ := spells.isPlain spelled
    exact ⟨plain, small⟩
  · rintro ⟨plain, small⟩
    have spelled := plain.1.spelledBy
    refine ⟨⟨_, small, plain.spellsInteger⟩, _, spelled, ?_⟩
    rw [(Decimal.rounds_nearest? spelled.isDigitIn_of_mem_digits).isSome_iff, Decimal.value_whole]
    exact lt_limit_of_le_largestInteger (largestInteger_eq ▸ small)

namespace Expr

/-! ## One leaf in the place of another -/

/-- The second tree is the first one with `new` in one place where the first one has `old`. -/
inductive Replaces (old new : Expr) : Expr → Expr → Prop where
  | here : Replaces old new old new
  | operand {op : UnaryOp} {opOffset : Offset} {a b : Expr} (inside : Replaces old new a b) :
      Replaces old new (.unary op opOffset a) (.unary op opOffset b)
  | lhs {op : BinaryOp} {opOffset : Offset} {a b rhs : Expr} (inside : Replaces old new a b) :
      Replaces old new (.binary a op opOffset rhs) (.binary b op opOffset rhs)
  | rhs {op : BinaryOp} {opOffset : Offset} {a b lhs : Expr} (inside : Replaces old new a b) :
      Replaces old new (.binary lhs op opOffset a) (.binary lhs op opOffset b)
  | thenCase {a b condition elseCase : Expr} (inside : Replaces old new a b) :
      Replaces old new (.conditional a condition elseCase) (.conditional b condition elseCase)
  | condition {a b thenCase elseCase : Expr} (inside : Replaces old new a b) :
      Replaces old new (.conditional thenCase a elseCase) (.conditional thenCase b elseCase)
  | elseCase {a b thenCase condition : Expr} (inside : Replaces old new a b) :
      Replaces old new (.conditional thenCase condition a) (.conditional thenCase condition b)
  | element {place : Place} {front back : List Expr} {a b : Expr} (inside : Replaces old new a b) :
      Replaces old new (.list place (front ++ a :: back)) (.list place (front ++ b :: back))

@[simp] theorem shapes_eq_map (trees : List Expr) : shapes trees = trees.map shape := by
  induction trees with
  | nil => rfl
  | cons tree trees ih => rw [shapes, ih, List.map_cons]

variable {old new a b : Expr}

/-- The shape of the whole changes exactly if that of the part does. -/
theorem Replaces.shape_eq_shape_iff (replaces : Replaces old new a b) :
    a.shape = b.shape ↔ old.shape = new.shape := by
  induction replaces with
  | here => exact Iff.rfl
  | operand inside ih => simp [ih]
  | lhs inside ih => simp [ih]
  | rhs inside ih => simp [ih]
  | thenCase inside ih => simp [ih]
  | condition inside ih => simp [ih]
  | elseCase inside ih => simp [ih]
  | element inside ih => simp [ih]

/-- The text of the whole changes exactly if the shape of the part does. -/
theorem Replaces.print_eq_print_iff (replaces : Replaces old new a b) (options : PrintOptions) :
    a.print options = b.print options ↔ old.shape = new.shape := by
  rw [print, print, String.ofList_inj, ← replaces.shape_eq_shape_iff]
  exact ⟨shape_eq_of_printChars_eq, printChars_congr⟩

/-- **Which numbers keep their kind in print.** A spelling makes both an integer and a float exactly
if it consists of plain digits and its value is at most `2 ^ 63 - 1`. A float in the place of an
integer, wherever in a tree that is, changes the printed text unless both have one spelling. -/
theorem numbers_spelled_alike (spelling : String) (options : PrintOptions) :
    (∀ (source : Source) (start stop : Offset), start ≤ stop →
      ((∃ integer, makeLeaf .int source start spelling stop = .ok integer) ∧
        (∃ float, makeLeaf .float source start spelling stop = .ok float) ↔
      Text.IsPlain spelling.toList ∧ numeralValue 10 spelling.toList ≤ 2 ^ 63 - 1)) ∧
    ∀ (place place' : Place) (integer : IntLiteral) (float : FloatLiteral) (a b : Expr),
      Replaces (.leaf place (.int integer)) (.leaf place' (.float float)) a b →
        (a.print options = b.print options ↔ integer.spelling = float.spelling) := by
  constructor
  · intro source start stop ordered
    rw [exists_makeLeaf_iff source ordered, exists_makeLeaf_iff source ordered,
      accepts_int_and_float_iff]
  · intro place place' integer float a b replaces
    rw [replaces.print_eq_print_iff]
    simp [shape, Atom.shape]

namespace Example

def negative : Source :=
  ⟨0, "negative", "-10", by decide⟩

def digits : Place :=
  ⟨negative, 1, 3, by decide⟩

def integer : IntLiteral :=
  ⟨"10", 10, by decide⟩

/-- The number ten as a decimal fraction, with a point or without one. -/
def fraction (pointed : Bool) : FloatLiteral :=
  ⟨if pointed then "10.0" else "10", .finite false ⟨0x4024000000000000, by decide⟩,
    by cases pointed <;> decide⟩

end Example

open Example in
/-- The digits in `-10` make an integer and a float. With a float in the place of the integer, the
text is another one if the float is spelled `10.0`. -/
theorem number_kinds_ten :
    (1 : Offset) ≤ 3 ∧
    ((∃ integer, makeLeaf .int negative 1 "10" 3 = .ok integer) ∧
      ∃ float, makeLeaf .float negative 1 "10" 3 = .ok float) ∧
    ∀ options pointed,
      Replaces (.leaf digits (.int integer)) (.leaf digits (.float (fraction pointed)))
        (.unary .minus 0 (.leaf digits (.int integer)))
        (.unary .minus 0 (.leaf digits (.float (fraction pointed)))) ∧
      ((unary .minus 0 (.leaf digits (.int integer))).print options =
        (unary .minus 0 (.leaf digits (.float (fraction pointed)))).print options ↔
          pointed = false) := by
  have plain : Text.IsPlain "10".toList := ⟨⟨by decide, List.all_eq_true.1 (by decide)⟩, by decide⟩
  refine ⟨by decide, ?_, fun options pointed => ⟨.operand .here, ?_⟩⟩
  · exact ((numbers_spelled_alike "10" ⟨.double, false⟩).1 negative 1 3 (by decide)).2
      ⟨plain, by decide⟩
  · rw [(numbers_spelled_alike "10" options).2 digits digits integer (fraction pointed) _ _
      (.operand .here)]
    cases pointed <;> decide

open Example in
/-- The digits `10` make an integer and a float, which are printed alike. -/
theorem print_ten_both :
    makeLeaf .int negative 1 "10" 3 = .ok (.leaf digits (.int integer)) ∧
    makeLeaf .float negative 1 "10" 3 = .ok (.leaf digits (.float (fraction false))) ∧
    ∀ options, (leaf digits (.int integer)).print options =
      (leaf digits (.float (fraction false))).print options :=
  ⟨makeLeaf_place digits (.int integer), makeLeaf_place digits (.float (fraction false)),
    fun _ => rfl⟩

end Expr

end ExprTree
