/-
# ExprTree.Json.Token — the tokens of JSON text

Brackets, braces, commas and colons are tokens of their own; a word, a number and a string are the
value they denote. `tokenize` splits a text into tokens, with blanks (space, tab, line feed and
carriage return) between them. A number takes as many characters as it can and has no superfluous
zero in front; a string is read unit by unit, and `stringContent?` joins the halves of surrogate
pairs afterwards.

Main statements: `next?_length_le`, a token leaves no more than was there.
-/
import ExprTree.Json.Basic

namespace ExprTree.Json

set_option autoImplicit false

open Text (isDigitIn numeralValue splitSign)

inductive Token where
  | openArray
  | closeArray
  | openObject
  | closeObject
  | comma
  | colon
  /-- A word, a number or a string, as the value it denotes. -/
  | scalar (value : Json)

/-! ## Strings -/

/-- A unit of a string: a character, or sixteen bits that an escape names. -/
inductive StringUnit where
  | literal (c : Char)
  | numbered (code : Nat)
  deriving DecidableEq

def escapedChar? : Char → Option Char
  | '"' => some '"'
  | '\\' => some '\\'
  | '/' => some '/'
  | 'b' => some '\x08'
  | 'f' => some '\x0c'
  | 'n' => some '\n'
  | 'r' => some '\r'
  | 't' => some '\t'
  | _ => none

/-- The units of a string up to its closing quote, and what follows the quote. -/
def stringUnits? : List Char → Option (List StringUnit × List Char)
  | [] => none
  | '"' :: rest => some ([], rest)
  | '\\' :: 'u' :: a :: b :: c :: d :: rest =>
      if [a, b, c, d].all (isDigitIn 16) then
        (stringUnits? rest).map fun (units, after) =>
          (.numbered (numeralValue 16 [a, b, c, d]) :: units, after)
      else none
  | '\\' :: mark :: rest =>
      match escapedChar? mark with
      | some c => (stringUnits? rest).map fun (units, after) => (.literal c :: units, after)
      | none => none
  | c :: rest =>
      if c = '\\' ∨ c.toNat < 0x20 then none
      else (stringUnits? rest).map fun (units, after) => (.literal c :: units, after)

def isHighHalf (code : Nat) : Bool := 0xD800 ≤ code && code < 0xDC00

def isLowHalf (code : Nat) : Bool := 0xDC00 ≤ code && code < 0xE000

/-- The character that a surrogate pair stands for. -/
def joinHalves (high low : Nat) : Char :=
  Char.ofNat (0x10000 + (high - 0xD800) * 0x400 + (low - 0xDC00))

/-- The characters of a row of units; `none` when half of a surrogate pair stands alone. -/
def stringContent? : List StringUnit → Option (List Char)
  | [] => some []
  | .literal c :: rest => (stringContent? rest).map (c :: ·)
  | .numbered high :: .numbered low :: rest =>
      if isHighHalf high then
        if isLowHalf low then (stringContent? rest).map (joinHalves high low :: ·) else none
      else if isLowHalf high then none
      else (stringContent? (.numbered low :: rest)).map (Char.ofNat high :: ·)
  | .numbered code :: rest =>
      if isHighHalf code || isLowHalf code then none
      else (stringContent? rest).map (Char.ofNat code :: ·)

def string? (chars : List Char) : Option (Json × List Char) := do
  let (units, rest) ← stringUnits? chars
  pure (.string ((stringContent? units).map String.ofList), rest)

/-! ## Numbers -/

/-- The digits before the point: a zero, or a row that begins with none. -/
def wholeDigits? (chars : List Char) : Option (List Char × List Char) :=
  match chars with
  | '0' :: rest => some (['0'], rest)
  | _ =>
      let digits := chars.takeWhile (isDigitIn 10)
      if digits.isEmpty then none else some (digits, chars.drop digits.length)

def someDigits? (chars : List Char) : Option (List Char × List Char) :=
  let digits := chars.takeWhile (isDigitIn 10)
  if digits.isEmpty then none else some (digits, chars.drop digits.length)

def fraction? (chars : List Char) : Option (Option (List Char) × List Char) :=
  match chars with
  | '.' :: rest => (someDigits? rest).map fun (digits, rest) => (some digits, rest)
  | _ => some (none, chars)

def exponent? (chars : List Char) : Option (Option Int × List Char) :=
  match chars with
  | [] => some (none, [])
  | c :: rest =>
      if c = 'e' ∨ c = 'E' then
        let (negative, rest) := splitSign rest
        (someDigits? rest).map fun (digits, rest) =>
          let size : Int := numeralValue 10 digits
          (some (if negative then -size else size), rest)
      else some (none, c :: rest)

def unsigned? (negative : Bool) (chars : List Char) : Option (Json × List Char) := do
  let (whole, rest) ← wholeDigits? chars
  let (fraction, rest) ← fraction? rest
  let (exponent, rest) ← exponent? rest
  pure (.number ⟨negative, whole, fraction, exponent⟩, rest)

/-! ## Tokens -/

def afterWord? (word chars : List Char) : Option (List Char) :=
  if word.isPrefixOf chars then some (chars.drop word.length) else none

def mark? : Char → Option Token
  | '[' => some .openArray
  | ']' => some .closeArray
  | '\x7b' => some .openObject
  | '\x7d' => some .closeObject
  | ',' => some .comma
  | ':' => some .colon
  | _ => none

/-- The word, number or string that begins with the character `c`, and what follows it. -/
def scalar? (c : Char) (rest : List Char) : Option (Json × List Char) :=
  if c = '"' then string? rest
  else if c = 't' then (afterWord? ['r', 'u', 'e'] rest).map fun after => (.bool true, after)
  else if c = 'f' then (afterWord? ['a', 'l', 's', 'e'] rest).map fun after => (.bool false, after)
  else if c = 'n' then (afterWord? ['u', 'l', 'l'] rest).map fun after => (.null, after)
  else if c = '-' then unsigned? true rest
  else unsigned? false (c :: rest)

def next? (c : Char) (rest : List Char) : Option (Token × List Char) :=
  match mark? c with
  | some token => some (token, rest)
  | none => (scalar? c rest).map fun (value, after) => (.scalar value, after)

def isBlank (c : Char) : Bool :=
  c == ' ' || c == '\t' || c == '\n' || c == '\r'

theorem stringUnits?_length_le {chars after : List Char} {units : List StringUnit}
    (read : stringUnits? chars = some (units, after)) : after.length ≤ chars.length := by
  fun_induction stringUnits? chars generalizing units with
  | case1 => cases read
  | case2 rest =>
      cases read
      simp
  | case3 a b c d rest digits ih =>
      simp only [Option.map_eq_some_iff, Prod.exists, Prod.mk.injEq] at read
      obtain ⟨inner, _, found, _, rfl⟩ := read
      have := ih found
      simp only [List.length_cons]
      omega
  | case4 => cases read
  | case5 mark rest _ c _ ih =>
      simp only [Option.map_eq_some_iff, Prod.exists, Prod.mk.injEq] at read
      obtain ⟨inner, _, found, _, rfl⟩ := read
      have := ih found
      simp only [List.length_cons]
      omega
  | case6 => cases read
  | case7 => cases read
  | case8 c rest _ _ _ _ ih =>
      simp only [Option.map_eq_some_iff, Prod.exists, Prod.mk.injEq] at read
      obtain ⟨inner, _, found, _, rfl⟩ := read
      have := ih found
      simp only [List.length_cons]
      omega

theorem string?_length_le {chars after : List Char} {value : Json}
    (read : string? chars = some (value, after)) : after.length ≤ chars.length := by
  simp only [string?, Option.bind_eq_bind, Option.bind_eq_some_iff, Prod.exists] at read
  obtain ⟨units, rest, found, same⟩ := read
  cases same
  exact stringUnits?_length_le found

theorem someDigits?_length_lt {chars digits after : List Char}
    (read : someDigits? chars = some (digits, after)) : after.length < chars.length := by
  unfold someDigits? at read
  simp only [List.isEmpty_iff, Option.ite_none_left_eq_some, Option.some.injEq,
    Prod.mk.injEq] at read
  obtain ⟨nonempty, rfl, rfl⟩ := read
  have positive := List.length_pos_iff.2 nonempty
  have bounded := (List.takeWhile_prefix (p := isDigitIn 10) (l := chars)).length_le
  simp only [List.length_drop]
  omega

theorem wholeDigits?_length_lt {chars digits after : List Char}
    (read : wholeDigits? chars = some (digits, after)) : after.length < chars.length := by
  unfold wholeDigits? at read
  split at read
  · cases read
    simp
  · exact someDigits?_length_lt read

theorem fraction?_length_le {chars after : List Char} {digits : Option (List Char)}
    (read : fraction? chars = some (digits, after)) : after.length ≤ chars.length := by
  unfold fraction? at read
  split at read
  · simp only [Option.map_eq_some_iff, Prod.exists, Prod.mk.injEq] at read
    obtain ⟨inner, _, found, _, rfl⟩ := read
    have := someDigits?_length_lt found
    simp only [List.length_cons]
    omega
  · cases read
    exact Nat.le_refl _

theorem exponent?_length_le {chars after : List Char} {exponent : Option Int}
    (read : exponent? chars = some (exponent, after)) : after.length ≤ chars.length := by
  cases chars with
  | nil =>
      cases read
      exact Nat.le_refl _
  | cons c rest =>
      simp only [exponent?] at read
      split at read
      · simp only [Option.map_eq_some_iff, Prod.exists, Prod.mk.injEq] at read
        obtain ⟨digits, _, found, _, rfl⟩ := read
        have := someDigits?_length_lt found
        have := Text.splitSign_length_le rest
        simp only [List.length_cons]
        omega
      · cases read
        exact Nat.le_refl _

theorem unsigned?_length_lt {negative : Bool} {chars after : List Char} {value : Json}
    (read : unsigned? negative chars = some (value, after)) : after.length < chars.length := by
  simp only [unsigned?, Option.bind_eq_bind, Option.bind_eq_some_iff, Prod.exists] at read
  obtain ⟨whole, rest, one, fraction, rest', two, exponent, rest'', three, same⟩ := read
  cases same
  have := wholeDigits?_length_lt one
  have := fraction?_length_le two
  have := exponent?_length_le three
  omega

theorem afterWord?_length_le {word chars after : List Char} {value value' : Json}
    (read : (afterWord? word chars).map (fun after => (value, after)) = some (value', after)) :
    after.length ≤ chars.length := by
  simp only [afterWord?, Option.map_eq_some_iff, Option.ite_none_right_eq_some, Option.some.injEq,
    Prod.mk.injEq] at read
  obtain ⟨_, ⟨_, rfl⟩, _, rfl⟩ := read
  simp

theorem scalar?_length_le {c : Char} {rest after : List Char} {value : Json}
    (read : scalar? c rest = some (value, after)) : after.length ≤ rest.length := by
  unfold scalar? at read
  by_cases quote : c = '"'
  · rw [if_pos quote] at read
    exact string?_length_le read
  rw [if_neg quote] at read
  by_cases isTrue : c = 't'
  · rw [if_pos isTrue] at read
    exact afterWord?_length_le read
  rw [if_neg isTrue] at read
  by_cases isFalse : c = 'f'
  · rw [if_pos isFalse] at read
    exact afterWord?_length_le read
  rw [if_neg isFalse] at read
  by_cases isNull : c = 'n'
  · rw [if_pos isNull] at read
    exact afterWord?_length_le read
  rw [if_neg isNull] at read
  by_cases minus : c = '-'
  · rw [if_pos minus] at read
    exact Nat.le_of_lt (unsigned?_length_lt read)
  rw [if_neg minus] at read
  exact Nat.le_of_lt_succ (unsigned?_length_lt read)

/-- A token leaves no more than was there after its first character. -/
theorem next?_length_le {c : Char} {rest after : List Char} {token : Token}
    (read : next? c rest = some (token, after)) : after.length ≤ rest.length := by
  unfold next? at read
  split at read
  · cases read
    exact Nat.le_refl _
  · simp only [Option.map_eq_some_iff, Prod.exists, Prod.mk.injEq] at read
    obtain ⟨value, _, found, _, rfl⟩ := read
    exact scalar?_length_le found

def tokenize (chars : List Char) : Option (List Token) :=
  match _skipped : chars.dropWhile isBlank with
  | [] => some []
  | c :: rest => match _read : next? c rest with
    | none => none
    | some (token, after) => (tokenize after).map (token :: ·)
  termination_by chars.length
  decreasing_by
    have left := next?_length_le _read
    have bounded := (List.dropWhile_suffix isBlank (l := chars)).length_le
    rw [_skipped, List.length_cons] at bounded
    omega

end ExprTree.Json
