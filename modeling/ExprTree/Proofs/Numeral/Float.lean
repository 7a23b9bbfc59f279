/-
# ExprTree.Proofs.Numeral.Float — what is read as a float literal

The grammar that `FloatValue.ofChars?` reads is stated without a reader, from that of decimal
fractions: a sign may stand in front, and a name may stand in the place of the fraction
(`FloatValue.SpelledBy`). Of what this grammar spells, only decimal fractions without a sign begin
with a digit or a point, for a fraction begins with one of these and a name with a letter
(`FloatValue.SpelledBy.exists_decimal`). Of these fractions, the finite ones are left.

Main statements: `FloatValue.ofChars?_eq_some_iff`, the reader takes exactly the texts of the wide
grammar, and `readFloat_of_spelledBy` and `readFloat_of_not_spelledBy`, what a float literal is read
as and why a text is refused, with `readFloat_eq_ok_iff` as their consequence.
-/
import ExprTree.Numeral.Float
import ExprTree.Proofs.Numeral.Spelling

namespace ExprTree

set_option autoImplicit false

open Text (isNumeralStart splitSign)

/-! ## The wide grammar -/

/-- The characters are the sign of a value that is negative or not; no sign is that of one that is
not. -/
inductive SpellsSign : List Char → Bool → Prop where
  | none : SpellsSign [] false
  | plus : SpellsSign ['+'] false
  | minus : SpellsSign ['-'] true

/-- The characters spell the value: a decimal fraction that is rounded, or a name in letters of
either case, behind a sign or without one. -/
inductive FloatValue.SpelledBy : FloatValue → List Char → Prop where
  | decimal {sign chars : List Char} {negative : Bool} {decimal : Decimal}
      (signed : SpellsSign sign negative) (spelled : decimal.SpelledBy chars) :
      SpelledBy (.ofDecimal negative decimal) (sign ++ chars)
  | infinite {sign name : List Char} {negative : Bool} (signed : SpellsSign sign negative)
      (named : name.map Char.toLower = "inf".toList ∨
        name.map Char.toLower = "infinity".toList) :
      SpelledBy (.infinite negative) (sign ++ name)
  | nan {sign name : List Char} {negative : Bool} (signed : SpellsSign sign negative)
      (named : name.map Char.toLower = "nan".toList) : SpelledBy (.nan negative) (sign ++ name)

/-! ## First characters -/

/-- A decimal fraction begins with a digit or a point. -/
theorem Decimal.SpelledBy.exists_head {decimal : Decimal} {chars : List Char}
    (spelled : decimal.SpelledBy chars) :
    ∃ c, chars.head? = some c ∧ isNumeralStart c = true := by
  obtain ⟨front, nonempty, point, ending, rfl, spells, -⟩ := spelled
  obtain ⟨whole, fraction, exponent⟩ := decimal
  simp only at front nonempty spells ⊢
  cases whole with
  | cons c rest => exact ⟨c, rfl, Text.isNumeralStart_of_isDigitIn (front c (by simp))⟩
  | nil =>
      -- without digits in front of it, a fraction begins with its point
      cases spells with
      | none => simp at nonempty
      | point all => exact ⟨'.', rfl, by decide⟩

/-- What is a letter in the other case is a letter. -/
theorem le_toNat_of_toLower {c : Char} (letter : 0x41 ≤ c.toLower.toNat) : 0x41 ≤ c.toNat := by
  unfold Char.toLower at letter
  split at letter
  next upper => exact upper.1
  next => exact letter

/-- A name begins with a letter. -/
theorem exists_head_of_map_toLower {first : Char} {others chars : List Char}
    (named : chars.map Char.toLower = first :: others) (letter : 0x41 ≤ first.toNat) :
    ∃ c rest, chars = c :: rest ∧ 0x41 ≤ c.toNat := by
  obtain ⟨c, rest, rfl, rfl, -⟩ := List.map_eq_cons_iff.1 named
  exact ⟨c, rest, rfl, le_toNat_of_toLower letter⟩

/-! ## Reading the wide grammar -/

/-- A text is split behind its sign. -/
theorem exists_spellsSign (chars : List Char) : ∃ sign negative unsigned,
    chars = sign ++ unsigned ∧ SpellsSign sign negative ∧
      splitSign chars = (negative, unsigned) := by
  rcases Text.splitSign_cases chars with ⟨unsigned, rfl, split⟩ | ⟨unsigned, rfl, split⟩ | split
  · exact ⟨['-'], true, unsigned, rfl, .minus, split⟩
  · exact ⟨['+'], false, unsigned, rfl, .plus, split⟩
  · exact ⟨[], false, chars, rfl, .none, split⟩

theorem SpellsSign.splitSign_append {sign : List Char} {negative : Bool}
    (signed : SpellsSign sign negative) {c : Char} (minus : c ≠ '-') (plus : c ≠ '+')
    (rest : List Char) : splitSign (sign ++ c :: rest) = (negative, c :: rest) := by
  cases signed with
  | none => exact Text.splitSign_of_head minus plus
  | plus => rfl
  | minus => rfl

namespace FloatValue

theorem ofName?_eq_some_iff {negative : Bool} {name : List Char} {value : FloatValue} :
    ofName? negative name = some value ↔
      (name.map Char.toLower = "inf".toList ∨ name.map Char.toLower = "infinity".toList) ∧
          value = .infinite negative ∨
        name.map Char.toLower = "nan".toList ∧ value = .nan negative := by
  simp only [ofName?]
  generalize name.map Char.toLower = lower
  split
  next infinite =>
    have other : lower ≠ "nan".toList := by rcases infinite with rfl | rfl <;> decide
    rw [Option.some.injEq, and_iff_right infinite, or_iff_left fun nan => other nan.1, eq_comm]
  next notInfinite =>
    rw [or_iff_right fun infinite => notInfinite infinite.1]
    split
    next nan => rw [Option.some.injEq, and_iff_right nan, eq_comm]
    next notNan => exact iff_of_false nofun fun nan => notNan nan.1

/-- What begins with a letter is read as a name. -/
theorem ofChars?_of_letter {sign : List Char} {negative : Bool} (signed : SpellsSign sign negative)
    {c : Char} (letter : 0x41 ≤ c.toNat) (rest : List Char) :
    ofChars? (sign ++ c :: rest) = ofName? negative (c :: rest) := by
  have other {d : Char} (small : d.toNat < 0x41) : c ≠ d := by
    rintro rfl
    exact absurd letter (Nat.not_le.2 small)
  have noFraction : Decimal.ofChars? (c :: rest) = none := by
    rw [Option.eq_none_iff_forall_ne_some]
    intro decimal reads
    obtain ⟨_, ⟨⟩, start⟩ := (Decimal.ofChars?_eq_some_iff.1 reads).exists_head
    exact absurd letter (Nat.not_le.2 (Text.toNat_lt_of_isNumeralStart start))
  rw [ofChars?, signed.splitSign_append (other (by decide)) (other (by decide))]
  simp only [noFraction]

/-- A decimal fraction is read with the sign in front of it. -/
theorem ofChars?_of_spelledBy {sign chars : List Char} {negative : Bool} {decimal : Decimal}
    (signed : SpellsSign sign negative) (spelled : decimal.SpelledBy chars) :
    ofChars? (sign ++ chars) = some (ofDecimal negative decimal) := by
  obtain ⟨c, first, start⟩ := spelled.exists_head
  obtain ⟨rest, rfl⟩ := List.head?_eq_some_iff.1 first
  have other {d : Char} (refused : isNumeralStart d = false) : c ≠ d := by
    rintro rfl
    rw [start] at refused
    cases refused
  rw [ofChars?, signed.splitSign_append (other (by decide)) (other (by decide))]
  simp only [Decimal.ofChars?_eq_some_iff.2 spelled]

/-- The reader takes what the wide grammar spells. -/
theorem ofChars?_eq_some_iff {chars : List Char} {value : FloatValue} :
    ofChars? chars = some value ↔ value.SpelledBy chars := by
  constructor
  · intro reads
    obtain ⟨sign, negative, unsigned, rfl, signed, split⟩ := exists_spellsSign chars
    rw [ofChars?, split] at reads
    simp only at reads
    split at reads
    next decimal fraction =>
      cases reads
      exact .decimal signed (Decimal.ofChars?_eq_some_iff.1 fraction)
    next =>
      rcases ofName?_eq_some_iff.1 reads with ⟨named, rfl⟩ | ⟨named, rfl⟩
      · exact .infinite signed named
      · exact .nan signed named
  · intro spelled
    cases spelled with
    | decimal signed spelled => exact ofChars?_of_spelledBy signed spelled
    | infinite signed named =>
        obtain ⟨c, rest, rfl, letter⟩ := named.elim
          (exists_head_of_map_toLower · (by decide)) (exists_head_of_map_toLower · (by decide))
        rw [ofChars?_of_letter signed letter, ofName?_eq_some_iff]
        exact .inl ⟨named, rfl⟩
    | nan signed named =>
        obtain ⟨c, rest, rfl, letter⟩ := exists_head_of_map_toLower named (by decide)
        rw [ofChars?_of_letter signed letter, ofName?_eq_some_iff]
        exact .inr ⟨named, rfl⟩

end FloatValue

/-! ## Float literals -/

/-- What begins like a numeral has no sign. -/
theorem SpellsSign.of_head {sign chars : List Char} {negative : Bool}
    (signed : SpellsSign sign negative) (start : (sign ++ chars).head?.any isNumeralStart = true) :
    sign = [] ∧ negative = false := by
  cases signed with
  | none => exact ⟨rfl, rfl⟩
  | plus => exact absurd (show isNumeralStart '+' = true from start) (by decide)
  | minus => exact absurd (show isNumeralStart '-' = true from start) (by decide)

/-- What begins like a numeral is no name. -/
theorem not_named_of_head {first : Char} {others name : List Char} (letter : 0x41 ≤ first.toNat)
    (start : name.head?.any isNumeralStart = true) :
    name.map Char.toLower ≠ first :: others := by
  intro named
  obtain ⟨c, rest, rfl, letter'⟩ := exists_head_of_map_toLower named letter
  exact absurd letter' (Nat.not_le.2 (Text.toNat_lt_of_isNumeralStart start))

/-- What begins like a numeral is spelled as a decimal fraction without a sign. -/
theorem FloatValue.SpelledBy.exists_decimal {value : FloatValue} {chars : List Char}
    (spelled : value.SpelledBy chars) (start : chars.head?.any isNumeralStart = true) :
    ∃ decimal : Decimal, decimal.SpelledBy chars ∧ value = .ofDecimal false decimal := by
  cases spelled with
  | decimal signed spelled =>
      obtain ⟨rfl, rfl⟩ := signed.of_head start
      exact ⟨_, spelled, rfl⟩
  | infinite signed named =>
      obtain ⟨rfl, -⟩ := signed.of_head start
      rcases named with named | named
      · exact absurd named (not_named_of_head (by decide) start)
      · exact absurd named (not_named_of_head (by decide) start)
  | nan signed named =>
      obtain ⟨rfl, -⟩ := signed.of_head start
      exact absurd named (not_named_of_head (by decide) start)

section Reading

variable {spelling : String} {decimal : Decimal}

/-- A decimal fraction is read as the number nearest to it, and refused if there is none. -/
theorem readFloat_of_spelledBy (spelled : decimal.SpelledBy spelling.toList) :
    readFloat spelling = match decimal.nearest? with
      | some number => .ok (.finite false number)
      | none => .error (.valueOutOfRange spelling) := by
  obtain ⟨c, first, start⟩ := spelled.exists_head
  have reads : FloatValue.ofChars? spelling.toList = some (.ofDecimal false decimal) :=
    FloatValue.ofChars?_of_spelledBy .none spelled
  rw [readFloat, first, reads, Option.any_some, if_pos start, FloatValue.ofDecimal]
  cases decimal.nearest? with
  | some number => rfl
  | none => rfl

/-- Everything else is refused for its spelling. -/
theorem readFloat_of_not_spelledBy
    (none : ¬ ∃ decimal : Decimal, decimal.SpelledBy spelling.toList) :
    readFloat spelling = .error (.invalidFloat spelling) := by
  rw [readFloat]
  split
  next start =>
    cases reads : FloatValue.ofChars? spelling.toList with
    | none => rfl
    | some value =>
        obtain ⟨decimal, spelled, -⟩ :=
          (FloatValue.ofChars?_eq_some_iff.1 reads).exists_decimal start
        exact absurd ⟨decimal, spelled⟩ none
  next => rfl

/-- Float literals are unsigned decimal fractions, as far as binary numbers reach. -/
theorem readFloat_eq_ok_iff {value : FloatValue} : readFloat spelling = .ok value ↔
    ∃ (decimal : Decimal) (number : Binary64), decimal.SpelledBy spelling.toList ∧
      decimal.nearest? = some number ∧ value = .finite false number := by
  constructor
  · intro reads
    by_cases spelled : ∃ decimal : Decimal, decimal.SpelledBy spelling.toList
    · obtain ⟨decimal, spelled⟩ := spelled
      rw [readFloat_of_spelledBy spelled] at reads
      cases nearest : decimal.nearest? with
      | none =>
          rw [nearest] at reads
          cases reads
      | some number =>
          rw [nearest] at reads
          cases reads
          exact ⟨decimal, number, spelled, nearest, rfl⟩
    · rw [readFloat_of_not_spelledBy spelled] at reads
      cases reads
  · rintro ⟨decimal, number, spelled, nearest, rfl⟩
    rw [readFloat_of_spelledBy spelled, nearest]

end Reading

end ExprTree
