/-
# ExprTree.Proofs.Expr.Numbers — the numbers that leaves hold

On a span that is in order, a leaf is made of any text that its kind accepts, and any other text is
malformed (`exists_makeLeaf_iff` and `exists_malformed_iff`). A numeral is accepted for the number
that it denotes, so a leaf holds the value itself if that is an integer (`makeLeaf_int`), and the
nearest number of the binary format if it is a decimal fraction (`makeLeaf_float`).
-/
import ExprTree.Proofs.Expr.Parts
import ExprTree.Proofs.Numeral.Nearest

namespace ExprTree.Expr

set_option autoImplicit false

section Leaf

variable {kind : LeafKind} (source : Source) {start stop : Offset} (ordered : start ≤ stop)
  {text : String}

/-- On a span that is in order, a leaf is made if its text reads. -/
theorem makeLeaf_of_ordered (kind : LeafKind) (text : String) :
    makeLeaf kind source start text stop = match Atom.read kind text with
      | .ok atom => .ok (.leaf ⟨source, ⟨start, stop, ordered⟩⟩ atom)
      | .error fault => .error (.refused (.malformedLiteral kind fault)) := by
  rw [makeLeaf]
  cases Atom.read kind text with
  | error fault => rfl
  | ok atom => simp only [Span.between, dif_pos ordered]

include ordered

theorem exists_makeLeaf_iff :
    (∃ expr, makeLeaf kind source start text stop = .ok expr) ↔ kind.Accepts text := by
  rw [makeLeaf_of_ordered source ordered, ← Atom.exists_read_iff]
  cases Atom.read kind text <;> simp

theorem exists_malformed_iff :
    (∃ fault, makeLeaf kind source start text stop =
      .error (.refused (.malformedLiteral kind fault))) ↔ ¬ kind.Accepts text := by
  rw [makeLeaf_of_ordered source ordered, ← Atom.exists_read_iff]
  cases Atom.read kind text <;> simp

end Leaf

/-- **Integer literals hold the integers that they denote.** The numerals are a zero, decimal digits
that no zero begins, and the mark of a radix with at least one digit of that radix. A leaf is made
of a numeral exactly if its value is at most `2 ^ 63 - 1`; the leaf has this value and the spelling,
and every other text is a malformed literal. -/
theorem makeLeaf_int (source : Source) {start stop : Offset} (ordered : start ≤ stop)
    (spelling : String) :
    ((∃ expr, makeLeaf .int source start spelling stop = .ok expr) ↔
      ∃ value ≤ 2 ^ 63 - 1, DenotesInteger spelling.toList value) ∧
    (∀ value ≤ 2 ^ 63 - 1, DenotesInteger spelling.toList value →
      ∃ literal : IntLiteral, literal.spelling = spelling ∧ literal.value = value ∧
        makeLeaf .int source start spelling stop =
          .ok (.leaf ⟨source, ⟨start, stop, ordered⟩⟩ (.int literal))) ∧
    ((∃ fault, makeLeaf .int source start spelling stop =
        .error (.refused (.malformedLiteral .int fault))) ↔
      ¬ ∃ value ≤ 2 ^ 63 - 1, DenotesInteger spelling.toList value) := by
  have accepts : LeafKind.Accepts .int spelling ↔
      ∃ value ≤ 2 ^ 63 - 1, DenotesInteger spelling.toList value := by
    simp only [LeafKind.Accepts, spellsInteger_iff_denotes, largestInteger_eq]
  refine ⟨(exists_makeLeaf_iff source ordered).trans accepts, fun value small denotes => ?_,
    (exists_malformed_iff source ordered).trans (not_congr accepts)⟩
  let literal : IntLiteral := ⟨spelling, value, readInteger_eq_ok_iff_denotes.2 ⟨denotes, small⟩⟩
  have read : Atom.read .int spelling = .ok (.int literal) := Atom.read_eq_ok_iff.2 ⟨rfl, rfl⟩
  refine ⟨literal, rfl, rfl, ?_⟩
  rw [makeLeaf_of_ordered source ordered, read]

namespace Example

def sum : Source :=
  ⟨0, "sum", "0x2A + 1.5", by decide⟩

end Example

/-- The integer in `0x2A + 1.5`. -/
theorem makeLeaf_int_hexadecimal :
    (0 : Offset) ≤ 4 ∧ ∃ literal : IntLiteral, literal.spelling = "0x2A" ∧ literal.value = 42 ∧
      makeLeaf .int Example.sum 0 "0x2A" 4 =
        .ok (.leaf ⟨Example.sum, ⟨0, 4, by decide⟩⟩ (.int literal)) := by
  have row : Text.IsDigits 16 ['2', 'A'] := ⟨by simp, List.all_eq_true.1 (by decide)⟩
  have denotes : DenotesInteger "0x2A".toList 42 :=
    ⟨16, ['2', 'A'], ⟨row, .inr ⟨'x', by decide, by decide⟩⟩, by decide⟩
  exact ⟨by decide, (makeLeaf_int Example.sum (by decide) "0x2A").2.1 42 (by decide) denotes⟩

/-- **Float literals hold the nearest numbers of the binary format.** The numerals have digits in
front of a point or behind it, and may have an exponent. A leaf is made of a numeral exactly if its
value is less than `2 ^ 1024 - 2 ^ 970`; the leaf has the spelling and, without a sign, the only
number nearest to the value, which is the one of even significand if two are equally near. Every
other text is a malformed literal. -/
theorem makeLeaf_float (source : Source) {start stop : Offset} (ordered : start ≤ stop)
    (spelling : String) :
    ((∃ expr, makeLeaf .float source start spelling stop = .ok expr) ↔
      ∃ decimal : Decimal, decimal.SpelledBy spelling.toList ∧
        decimal.value < 2 ^ 1024 - 2 ^ 970) ∧
    (∀ decimal : Decimal, decimal.SpelledBy spelling.toList →
      decimal.value < 2 ^ 1024 - 2 ^ 970 →
        ∃ (literal : FloatLiteral) (number : Binary64), literal.spelling = spelling ∧
          literal.value = .finite false number ∧
          (∀ other : Binary64, other.IsNearest decimal.value ↔ other = number) ∧
          makeLeaf .float source start spelling stop =
            .ok (.leaf ⟨source, ⟨start, stop, ordered⟩⟩ (.float literal))) ∧
    ((∃ fault, makeLeaf .float source start spelling stop =
        .error (.refused (.malformedLiteral .float fault))) ↔
      ¬ ∃ decimal : Decimal, decimal.SpelledBy spelling.toList ∧
        decimal.value < 2 ^ 1024 - 2 ^ 970) := by
  have accepts : LeafKind.Accepts .float spelling ↔
      ∃ decimal : Decimal, decimal.SpelledBy spelling.toList ∧
        decimal.value < 2 ^ 1024 - 2 ^ 970 := by
    refine exists_congr fun decimal => and_congr_right fun spelled => ?_
    exact (Decimal.rounds_nearest? spelled.isDigitIn_of_mem_digits).isSome_iff
  refine ⟨(exists_makeLeaf_iff source ordered).trans accepts, fun decimal spelled below => ?_,
    (exists_malformed_iff source ordered).trans (not_congr accepts)⟩
  obtain ⟨number, found, nearest⟩ := exists_readFloat_of_spelledBy spelled below
  let literal : FloatLiteral := ⟨spelling, .finite false number, found⟩
  have read : Atom.read .float spelling = .ok (.float literal) := Atom.read_eq_ok_iff.2 ⟨rfl, rfl⟩
  refine ⟨literal, number, rfl, rfl, fun other => ⟨(·.unique nearest), ?_⟩, ?_⟩
  · rintro rfl
    exact nearest
  · rw [makeLeaf_of_ordered source ordered, read]

/-- The decimal fraction in `0x2A + 1.5`. -/
theorem makeLeaf_float_fraction :
    (7 : Offset) ≤ 10 ∧ ∃ (literal : FloatLiteral) (number : Binary64),
      literal.spelling = "1.5" ∧ literal.value = .finite false number ∧
      (∀ other : Binary64, other.IsNearest (3 / 2) ↔ other = number) ∧
      makeLeaf .float Example.sum 7 "1.5" 10 =
        .ok (.leaf ⟨Example.sum, ⟨7, 10, by decide⟩⟩ (.float literal)) := by
  have spelled : (⟨['1'], ['5'], 0⟩ : Decimal).SpelledBy "1.5".toList :=
    ⟨List.all_eq_true.1 (by decide), .inl (by decide), ['.', '5'], [], by decide,
      .point (List.all_eq_true.1 (by decide)), .none⟩
  have value : (⟨['1'], ['5'], 0⟩ : Decimal).value = 3 / 2 := by
    have digits : Text.digitNumbers ['1'] = [1] ∧ Text.digitNumbers ['5'] = [5] := by decide
    norm_num [Decimal.value, digits, Nat.ofDigits]
  have below : (3 / 2 : ℚ) < 2 ^ 1024 - 2 ^ 970 := by
    have power : (2 : ℚ) ^ 1024 = 2 ^ 970 * 2 ^ 54 := pow_add 2 970 54
    have least : (1 : ℚ) ≤ 2 ^ 970 := one_le_pow₀ one_le_two
    rw [power]
    generalize (2 : ℚ) ^ 970 = scale at least ⊢
    linarith
  rw [← value] at below ⊢
  exact ⟨by decide, (makeLeaf_float Example.sum (by decide) "1.5").2.1 _ spelled below⟩

end ExprTree.Expr
