/-
# ExprTree.Literal.Piece — the pieces of a literal body

The body of a quoted literal is a row of pieces: ordinary characters, quotes, line feeds, escapes,
and backslashes that begin no escape. `Piece.next?` takes the first piece off a body. An escape
takes as many characters as it can: an octal escape has up to three digits, the others have a fixed
number, and a backslash with too few digits after it is a piece of its own.

Main statements: `next?_spelling`, the spelling of the piece and the rest make up the body, so
pieces neither lose nor invent characters; and `next?_eq_none_iff`, only the empty body has none.
-/
import ExprTree.Text.Digits

namespace ExprTree

set_option autoImplicit false

open Text (isDigitIn)

inductive Piece where
  /-- A character that is no backslash, no quote and no line feed. -/
  | ordinary (c : Char)
  /-- A quote of either sort. -/
  | quote (c : Char)
  | newline
  /-- A backslash before a line feed. -/
  | lineContinuation
  /-- A backslash and up to three octal digits. -/
  | octal (digits : List Char)
  /-- A backslash, an `x` and two hexadecimal digits. -/
  | hex (digits : List Char)
  /-- A backslash, a `u` and four hexadecimal digits. -/
  | unicode (digits : List Char)
  /-- A backslash, a `U` and eight hexadecimal digits. -/
  | longUnicode (digits : List Char)
  /-- A backslash and a letter or mark that stands for a character. -/
  | simple (mark denoted : Char)
  /-- A backslash that begins no escape. -/
  | strayBackslash
  deriving DecidableEq

def simpleEscape? : Char → Option Char
  | 'a' => some '\x07'
  | 'b' => some '\x08'
  | 'f' => some '\x0c'
  | 'n' => some '\n'
  | 'r' => some '\r'
  | 't' => some '\t'
  | 'v' => some '\x0b'
  | '\\' => some '\\'
  | '\'' => some '\''
  | '"' => some '"'
  | _ => none

namespace Piece

/-- The characters that the piece takes up in the body. -/
def spelling : Piece → List Char
  | .ordinary c => [c]
  | .quote c => [c]
  | .newline => ['\n']
  | .lineContinuation => ['\\', '\n']
  | .octal digits => '\\' :: digits
  | .hex digits => '\\' :: 'x' :: digits
  | .unicode digits => '\\' :: 'u' :: digits
  | .longUnicode digits => '\\' :: 'U' :: digits
  | .simple mark _ => ['\\', mark]
  | .strayBackslash => ['\\']

/-- The escape of exactly `count` hexadecimal digits after its letter, or else the backslash alone.
-/
def hexEscape (escape : List Char → Piece) (letter : Char) (count : Nat) (rest : List Char) :
    Piece × List Char :=
  let digits := (rest.take count).takeWhile (isDigitIn 16)
  if digits.length = count then (escape digits, rest.drop count)
  else (.strayBackslash, letter :: rest)

/-- The piece that a backslash begins, given what follows the backslash. -/
def afterBackslash : List Char → Piece × List Char
  | [] => (.strayBackslash, [])
  | c :: rest =>
      if c = '\n' then (.lineContinuation, rest)
      else if isDigitIn 8 c then
        let digits := ((c :: rest).take 3).takeWhile (isDigitIn 8)
        (.octal digits, (c :: rest).drop digits.length)
      else if c = 'x' then hexEscape .hex c 2 rest
      else if c = 'u' then hexEscape .unicode c 4 rest
      else if c = 'U' then hexEscape .longUnicode c 8 rest
      else match simpleEscape? c with
        | some denoted => (.simple c denoted, rest)
        | none => (.strayBackslash, c :: rest)

def next? : List Char → Option (Piece × List Char)
  | [] => none
  | c :: rest =>
      if c = '\\' then some (afterBackslash rest)
      else if c = '\n' then some (.newline, rest)
      else if c = '"' ∨ c = '\'' then some (.quote c, rest)
      else some (.ordinary c, rest)

/-- A leading part and what is left after its length make up the whole. -/
theorem append_drop_of_leading {part whole : List Char} (leading : part <+: whole) :
    part ++ whole.drop part.length = whole := by
  obtain ⟨rest, rfl⟩ := leading
  rw [List.drop_left]

theorem hexEscape_spelling {escape : List Char → Piece} {letter : Char} {count : Nat}
    {rest : List Char} (spelled : ∀ digits, (escape digits).spelling = '\\' :: letter :: digits) :
    (hexEscape escape letter count rest).1.spelling ++ (hexEscape escape letter count rest).2 =
      '\\' :: letter :: rest := by
  have head : (rest.take count).takeWhile (isDigitIn 16) <+: rest :=
    (List.takeWhile_prefix _).trans (List.take_prefix _ _)
  by_cases full : ((rest.take count).takeWhile (isDigitIn 16)).length = count
  · have whole := append_drop_of_leading head
    rw [full] at whole
    simp only [hexEscape, if_pos full, spelled, List.cons_append, whole]
  · simp [hexEscape, full, spelling]

/-- A backslash and what follows it are the spelling of the piece and the rest. -/
theorem afterBackslash_spelling (rest : List Char) :
    (afterBackslash rest).1.spelling ++ (afterBackslash rest).2 = '\\' :: rest := by
  cases rest with
  | nil => rfl
  | cons c rest =>
      by_cases newline : c = '\n'
      · simp [afterBackslash, newline, spelling]
      by_cases octal : isDigitIn 8 c = true
      · have head : ((c :: rest).take 3).takeWhile (isDigitIn 8) <+: c :: rest :=
          (List.takeWhile_prefix _).trans (List.take_prefix _ _)
        rw [afterBackslash, if_neg newline, if_pos octal]
        simp only [spelling, List.cons_append, append_drop_of_leading head]
      by_cases two : c = 'x'
      · rw [afterBackslash, if_neg newline, if_neg octal, if_pos two, two]
        exact hexEscape_spelling fun _ => rfl
      by_cases four : c = 'u'
      · rw [afterBackslash, if_neg newline, if_neg octal, if_neg two, if_pos four, four]
        exact hexEscape_spelling fun _ => rfl
      by_cases eight : c = 'U'
      · rw [afterBackslash, if_neg newline, if_neg octal, if_neg two, if_neg four, if_pos eight,
          eight]
        exact hexEscape_spelling fun _ => rfl
      rw [afterBackslash, if_neg newline, if_neg octal, if_neg two, if_neg four, if_neg eight]
      cases simpleEscape? c <;> simp [spelling]

/-- The spelling of the first piece and the rest make up the body. -/
theorem next?_spelling {body rest : List Char} {piece : Piece}
    (step : next? body = some (piece, rest)) : piece.spelling ++ rest = body := by
  cases body with
  | nil => cases step
  | cons c tail =>
      by_cases backslash : c = '\\'
      · have whole := afterBackslash_spelling tail
        rw [next?, if_pos backslash, Option.some.injEq] at step
        rw [step] at whole
        rw [backslash]
        exact whole
      by_cases newline : c = '\n'
      · rw [next?, if_neg backslash, if_pos newline] at step
        cases step
        simp [spelling, newline]
      by_cases quote : c = '"' ∨ c = '\''
      · rw [next?, if_neg backslash, if_neg newline, if_pos quote] at step
        cases step
        simp [spelling]
      rw [next?, if_neg backslash, if_neg newline, if_neg quote] at step
      cases step
      simp [spelling]

theorem spelling_ne_nil (piece : Piece) : piece.spelling ≠ [] := by
  cases piece <;> simp [spelling]

theorem next?_eq_none_iff {body : List Char} : next? body = none ↔ body = [] := by
  cases body with
  | nil => simp [next?]
  | cons c rest =>
      simp only [next?, reduceCtorEq, iff_false]
      split
      · simp
      split
      · simp
      split <;> simp

theorem next?_length_lt {body rest : List Char} {piece : Piece}
    (step : next? body = some (piece, rest)) : rest.length < body.length := by
  have nonempty := List.length_pos_iff.2 piece.spelling_ne_nil
  rw [← next?_spelling step, List.length_append]
  omega

end Piece

end ExprTree
