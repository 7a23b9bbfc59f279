/-
# ExprTree.Proofs.Literal.Scan — what the scan of a body never meets

Whether a literal is closed is judged from its end, by the number of backslashes there; its body is
then scanned from the front, by pieces. The two agree: each piece leaves the end of the body as it
is (`endsEscaped_of_next?`), so the scan comes to a lone backslash exactly if the number is odd, and
so does a reader who lets each backslash take the next character along.

The functions of `Checked` read a body from the slices of its pieces. They cut the slices, convert
the digits to words of 32 bits and look up the marks, and give `none` where one of these steps
fails. What pieces are made of (`Piece.Formed`) says that none does (`Checked.readBody_eq`).

Main statement: `Quoted.parity_agrees_with_scan`.
-/
import ExprTree.Proofs.Literal.Grammar
import ExprTree.Proofs.Numeral.Value

namespace ExprTree

set_option autoImplicit false

open Text (isDigitIn numeralValue byteLength)

/-! ## The points of the scan -/

/-- The number of backslashes at the end is odd exactly if the reader comes to a lone one. -/
theorem endsEscaped_eq_true_iff {body : List Char} :
    endsEscaped body = true ↔ ['\\'] ∈ readingPoints body := by
  induction body using forward_induction with
  | nil => simp [endsEscaped]
  | plain c rest other ih =>
      simp [endsEscaped_plain other, readingPoints_plain other, Ne.symm other, ih]
  | lone => simp [endsEscaped]
  | escape c rest ih => simp [ih]

/-- A piece leaves the end of the body as it is, unless it is a backslash there. -/
theorem endsEscaped_of_next? {body rest : List Char} {piece : Piece}
    (step : Piece.next? body = some (piece, rest)) (more : body ≠ ['\\']) :
    endsEscaped body = endsEscaped rest := by
  have formed := Piece.formed_of_next? step
  obtain rfl := Piece.next?_spelling step
  cases piece with
  | ordinary c => exact endsEscaped_plain formed.1 rest
  | quote c => exact endsEscaped_plain (formed.ne (by decide)).symm rest
  | newline => exact endsEscaped_plain (by decide) rest
  | lineContinuation => exact endsEscaped_escape '\n' rest
  | octal digits =>
      obtain ⟨⟨octal, -⟩, nonempty⟩ := formed
      obtain ⟨d, row, rfl⟩ := List.exists_cons_of_ne_nil nonempty
      exact (endsEscaped_escape d (row ++ rest)).trans
        (endsEscaped_digits (List.forall_mem_cons.1 octal).2 rest)
  | hex digits =>
      exact (endsEscaped_escape 'x' (digits ++ rest)).trans (endsEscaped_digits formed.2 rest)
  | unicode digits =>
      exact (endsEscaped_escape 'u' (digits ++ rest)).trans (endsEscaped_digits formed.2 rest)
  | longUnicode digits =>
      exact (endsEscaped_escape 'U' (digits ++ rest)).trans (endsEscaped_digits formed.2 rest)
  | simple mark denoted => exact endsEscaped_escape mark rest
  | strayBackslash =>
      -- The reader takes the next character along, the scan does not; but that one is ordinary.
      cases rest with
      | nil => exact absurd rfl more
      | cons c rest =>
          have ordinary := formed.2 c rfl
          exact (endsEscaped_escape c rest).trans (endsEscaped_plain ordinary.1 rest).symm

namespace Piece

/-- The scan of a body comes to the point, given by what is still to be scanned there. -/
inductive Reaches : List Char → List Char → Prop where
  | here (point : List Char) : Reaches point point
  | next {body rest point : List Char} {piece : Piece} (step : next? body = some (piece, rest))
      (later : Reaches rest point) : Reaches body point

theorem Reaches.endsEscaped {body point : List Char} (reaches : Reaches body point)
    (ends : endsEscaped point = true) : ExprTree.endsEscaped body = true := by
  induction reaches with
  | here => exact ends
  | @next body rest point piece step later ih =>
      by_cases lone : body = ['\\']
      · rw [lone]
        rfl
      · rw [endsEscaped_of_next? step lone]
        exact ih ends

theorem reaches_lone (body : List Char) (ends : endsEscaped body = true) :
    Reaches body ['\\'] := by
  by_cases lone : body = ['\\']
  · rw [lone]
    exact .here _
  cases step : next? body with
  | none =>
      rw [next?_eq_none_iff.1 step] at ends
      cases ends
  | some first =>
      obtain ⟨piece, rest⟩ := first
      rw [endsEscaped_of_next? step lone] at ends
      exact .next step (reaches_lone rest ends)
termination_by body.length
decreasing_by exact next?_length_lt step

/-- The scan comes to a backslash as the last character exactly if the number of backslashes at the
end is odd. -/
theorem reaches_lone_iff {body : List Char} : Reaches body ['\\'] ↔ endsEscaped body = true :=
  ⟨fun reaches => reaches.endsEscaped rfl, reaches_lone body⟩

end Piece

/-! ## Steps that are checked -/

namespace Checked

/-- The characters of a slice from a byte on. -/
def sliceFrom? (slice : List Char) (start : Nat) : Option (List Char) :=
  (Text.splitAt? slice start).map Prod.snd

/-- What follows a plus sign, or else all of it. -/
def unsigned : List Char → List Char
  | '+' :: rest => rest
  | chars => chars

/-- The word that a row of digits spells, with or without a plus sign in front. -/
def number? (radix : Nat) (chars : List Char) : Option Nat :=
  let digits := unsigned chars
  if !digits.isEmpty && digits.all (isDigitIn radix) &&
      decide (numeralValue radix digits < UInt32.size) then
    some (numeralValue radix digits)
  else none

/-- What a slice stands for by the number behind its first bytes. -/
def readNumber (radix start : Nat) (charOf : List Char → Nat → Except LiteralFault (List Char))
    (slice : List Char) : Option (Except LiteralFault (List Char)) := do
  let code ← number? radix (← sliceFrom? slice start)
  pure (charOf slice code)

/-- The character that a mark stands for: one of the table, or else the mark itself if there is
one. -/
def denotedBy? : List Char → Option Char
  | ['a'] => some '\x07'
  | ['b'] => some '\x08'
  | ['f'] => some '\x0c'
  | ['n'] => some '\n'
  | ['r'] => some '\r'
  | ['t'] => some '\t'
  | ['v'] => some '\x0b'
  | other => other.head?

/-- What a piece stands for in a literal of the style, by the slice that it takes up. -/
def readPiece (style : QuotedStyle) (after : List Char) (piece : Piece) :
    Option (Except LiteralFault (List Char)) :=
  let slice := piece.spelling
  match piece with
  | .ordinary _ | .quote _ => some (.ok slice)
  | .newline => some (if style.triple then .ok ['\n'] else .error .newlineInside)
  | .strayBackslash =>
      if style.raw then some (.ok slice)
      else some (.error (.invalidEscape (String.ofList ((slice ++ after).take 2))))
  | .lineContinuation => some (.ok (if style.raw then slice else []))
  | .octal _ => if style.raw then some (.ok slice) else readNumber 8 1 Piece.asciiOf slice
  | .hex _ => if style.raw then some (.ok slice) else readNumber 16 2 Piece.asciiOf slice
  | .unicode _ | .longUnicode _ =>
      if style.raw then some (.ok slice) else readNumber 16 2 Piece.scalarOf slice
  | .simple _ _ =>
      if style.raw then some (.ok slice)
      else do
        let denoted ← denotedBy? (← sliceFrom? slice 1)
        pure (.ok [denoted])

def readBody (style : QuotedStyle) (run : Nat) (body : List Char) :
    Option (Except LiteralFault (List Char)) :=
  match _step : Piece.next? body with
  | none =>
      if style.triple ∧ 0 < run then some (.error (.quoteBeforeDelimiter style.quote))
      else some (.ok [])
  | some (piece, rest) =>
      if piece = .quote style.quote then
        if style.triple ∧ run + 1 < 3 then do
          let text ← readBody style (run + 1) rest
          pure (text.map (style.quote :: ·))
        else some (.error (.unescapedQuote style.quote))
      else do
        match ← readPiece style rest piece with
        | .error fault => pure (.error fault)
        | .ok chars =>
            let text ← readBody style 0 rest
            pure (text.map (chars ++ ·))
  termination_by body.length
  decreasing_by all_goals exact Piece.next?_length_lt _step

theorem sliceFrom?_append (before after : List Char) :
    sliceFrom? (before ++ after) (byteLength before) = some after := by
  have cut : Text.splitAt? (before ++ after) (byteLength before) = some (before, after) :=
    Text.splitAt?_eq_some_iff.2 ⟨rfl, rfl⟩
  rw [sliceFrom?, cut]
  rfl

theorem unsigned_digits {radix : Nat} {digits : List Char}
    (all : ∀ c ∈ digits, isDigitIn radix c = true) : unsigned digits = digits := by
  unfold unsigned
  split
  next => cases all '+' List.mem_cons_self
  next => rfl

/-- A row of digits is converted to its value if a word holds all values of its length. -/
theorem number?_eq {radix : Nat} (large : 1 < radix) {digits : List Char} (nonempty : digits ≠ [])
    (all : ∀ c ∈ digits, isDigitIn radix c = true) (short : radix ^ digits.length ≤ UInt32.size) :
    number? radix digits = some (numeralValue radix digits) := by
  have fits := Nat.lt_of_lt_of_le (Text.numeralValue_lt large all) short
  have digitsOnly : digits.all (isDigitIn radix) = true := List.all_eq_true.2 all
  simp [number?, unsigned_digits all, nonempty, digitsOnly, fits]

theorem readNumber_eq (front : List Char)
    (charOf : List Char → Nat → Except LiteralFault (List Char)) {radix : Nat} (large : 1 < radix)
    {digits : List Char} (nonempty : digits ≠ []) (all : ∀ c ∈ digits, isDigitIn radix c = true)
    (short : radix ^ digits.length ≤ UInt32.size) :
    readNumber radix (byteLength front) charOf (front ++ digits) =
      some (charOf (front ++ digits) (numeralValue radix digits)) := by
  simp [readNumber, sliceFrom?_append, number?_eq large nonempty all short]

/-- Up to eight hexadecimal digits behind a letter. -/
theorem readNumber_hex (letter : Char)
    (charOf : List Char → Nat → Except LiteralFault (List Char)) {count : Nat} (few : count < 8)
    {digits : List Char} (full : digits.length = count + 1)
    (hex : ∀ c ∈ digits, isDigitIn 16 c = true) :
    readNumber 16 (byteLength ['\\', letter]) charOf ('\\' :: letter :: digits) =
      some (charOf ('\\' :: letter :: digits) (numeralValue 16 digits)) := by
  have short : 16 ^ digits.length ≤ UInt32.size :=
    (Nat.pow_le_pow_right (by decide) (by omega : digits.length ≤ 8)).trans (by decide)
  exact readNumber_eq ['\\', letter] charOf (by decide) (List.ne_nil_of_length_eq_add_one full) hex
    short

theorem denotedBy?_eq {mark denoted : Char} (known : simpleEscape? mark = some denoted) :
    denotedBy? [mark] = some denoted := by
  unfold simpleEscape? at known
  split at known <;> cases known <;> rfl

/-- In a raw literal a slice stands for itself, and nothing is converted. -/
theorem unlessRaw_eq {style : QuotedStyle} {slice : List Char}
    {checked : Option (Except LiteralFault (List Char))} {stands : Except LiteralFault (List Char)}
    (agrees : checked = some stands) :
    (if style.raw then some (.ok slice) else checked) =
      some (if style.raw then .ok slice else stands) := by
  rw [agrees, ← apply_ite some]

/-- No step of reading a piece fails. -/
theorem readPiece_eq {style : QuotedStyle} {after : List Char} {piece : Piece}
    (formed : piece.Formed after) :
    readPiece style after piece = some (piece.read style after) := by
  cases piece with
  | ordinary c => rfl
  | quote c => rfl
  | newline => rfl
  | lineContinuation => rfl
  | octal digits =>
      obtain ⟨⟨octal, longest⟩, nonempty⟩ := formed
      have few : digits.length ≤ 3 := by omega
      have short : 8 ^ digits.length ≤ UInt32.size :=
        (Nat.pow_le_pow_right (by decide) few).trans (by decide)
      exact unlessRaw_eq (readNumber_eq ['\\'] Piece.asciiOf (by decide) nonempty octal short)
  | hex digits =>
      exact unlessRaw_eq (readNumber_hex 'x' Piece.asciiOf (by decide) formed.1 formed.2)
  | unicode digits =>
      exact unlessRaw_eq (readNumber_hex 'u' Piece.scalarOf (by decide) formed.1 formed.2)
  | longUnicode digits =>
      exact unlessRaw_eq (readNumber_hex 'U' Piece.scalarOf (by decide) formed.1 formed.2)
  | simple mark denoted =>
      have slice : sliceFrom? ['\\', mark] 1 = some [mark] := sliceFrom?_append ['\\'] [mark]
      have character := denotedBy?_eq formed
      cases raw : style.raw <;>
        simp [readPiece, Piece.read, Piece.spelling, raw, slice, character]
  | strayBackslash => exact unlessRaw_eq rfl

/-- No step of reading a body fails. -/
theorem readBody_eq (style : QuotedStyle) (run : Nat) (body : List Char) :
    readBody style run body = some (ExprTree.readBody style run body) := by
  fun_induction ExprTree.readBody style run body with
  | case1 run body ended quotes =>
      rw [readBody]
      split
      next => rw [if_pos quotes]
      next found => cases ended.symm.trans found
  | case2 run body ended none =>
      rw [readBody]
      split
      next => rw [if_neg none]
      next found => cases ended.symm.trans found
  | case3 run body rest few step ih =>
      rw [readBody]
      split
      next ended => cases step.symm.trans ended
      next found =>
        cases step.symm.trans found
        rw [if_pos rfl, if_pos few, ih]
        cases ExprTree.readBody style (run + 1) rest <;> rfl
  | case4 run body rest many step =>
      rw [readBody]
      split
      next ended => cases step.symm.trans ended
      next found =>
        cases step.symm.trans found
        rw [if_pos rfl, if_neg many]
  | case5 run body piece rest step other ih =>
      rw [readBody]
      split
      next ended => cases step.symm.trans ended
      next found =>
        cases step.symm.trans found
        rw [if_neg other, readPiece_eq (Piece.formed_of_next? step)]
        cases piece.read style rest with
        | error fault => rfl
        | ok chars =>
            simp only [Option.bind_eq_bind, Option.bind_some, ih]
            cases ExprTree.readBody style 0 rest <;> rfl

end Checked

/-! ## What a body is refused for -/

/-- The fault is one of quotes that make a delimiter too early, or of a piece that the scan of the
body comes to and that stands for nothing there. -/
inductive RefusedFor (style : QuotedStyle) (body : List Char) : LiteralFault → Prop where
  | unescapedQuote : RefusedFor style body (.unescapedQuote style.quote)
  | quoteBeforeDelimiter : RefusedFor style body (.quoteBeforeDelimiter style.quote)
  | piece {point rest : List Char} {piece : Piece} {fault : LiteralFault}
      (reaches : Piece.Reaches body point) (step : Piece.next? point = some (piece, rest))
      (fails : piece.read style rest = .error fault) : RefusedFor style body fault

theorem RefusedFor.of_next? {style : QuotedStyle} {body rest : List Char} {piece : Piece}
    {fault : LiteralFault} (step : Piece.next? body = some (piece, rest))
    (refused : RefusedFor style rest fault) : RefusedFor style body fault := by
  cases refused with
  | unescapedQuote => exact .unescapedQuote
  | quoteBeforeDelimiter => exact .quoteBeforeDelimiter
  | piece reaches there fails => exact .piece (.next step reaches) there fails

theorem refusedFor_of_readBody {style : QuotedStyle} {run : Nat} {body : List Char}
    {fault : LiteralFault} (fails : readBody style run body = .error fault) :
    RefusedFor style body fault := by
  fun_induction readBody style run body with
  | case1 run body ended quotes =>
      cases fails
      exact .quoteBeforeDelimiter
  | case2 run body ended none => cases fails
  | case3 run body rest few step ih =>
      rcases bind_eq_error_iff.1 fails with later | ⟨text, -, impossible⟩
      · exact (ih later).of_next? step
      · cases impossible
  | case4 run body rest many step =>
      cases fails
      exact .unescapedQuote
  | case5 run body piece rest step other ih =>
      rcases bind_eq_error_iff.1 fails with stands | ⟨chars, -, fails⟩
      · exact .piece (.here body) step stands
      rcases bind_eq_error_iff.1 fails with later | ⟨text, -, impossible⟩
      · exact (ih later).of_next? step
      · cases impossible

namespace Piece

theorem asciiOf_ne_invalidEscape {spelling : List Char} {code : Nat} {escape : String} :
    asciiOf spelling code ≠ .error (.invalidEscape escape) := by
  unfold asciiOf
  split <;> simp

theorem scalarOf_ne_invalidEscape {spelling : List Char} {code : Nat} {escape : String} :
    scalarOf spelling code ≠ .error (.invalidEscape escape) := by
  unfold scalarOf
  split <;> simp

/-- Escapes are refused only in literals that are not raw. -/
theorem cooked_of_error {style : QuotedStyle} {slice : List Char} {fault : LiteralFault}
    {stands : Except LiteralFault (List Char)}
    (fails : (if style.raw then .ok slice else stands) = .error fault) :
    style.raw = false ∧ stands = .error fault := by
  cases raw : style.raw
  · rw [raw] at fails
    exact ⟨rfl, fails⟩
  · rw [raw] at fails
    cases fails

/-- What is refused as an escape is a backslash that begins none, and up to one character more. -/
theorem stray_of_read {style : QuotedStyle} {after : List Char} {piece : Piece} {escape : String}
    (fails : piece.read style after = .error (.invalidEscape escape)) :
    style.raw = false ∧ piece = .strayBackslash ∧
      escape = String.ofList ('\\' :: after.take 1) := by
  cases piece with
  | ordinary c => cases fails
  | quote c => cases fails
  | newline => cases triple : style.triple <;> rw [read, triple] at fails <;> cases fails
  | lineContinuation => cases fails
  | octal digits => exact absurd (cooked_of_error fails).2 asciiOf_ne_invalidEscape
  | hex digits => exact absurd (cooked_of_error fails).2 asciiOf_ne_invalidEscape
  | unicode digits => exact absurd (cooked_of_error fails).2 scalarOf_ne_invalidEscape
  | longUnicode digits => exact absurd (cooked_of_error fails).2 scalarOf_ne_invalidEscape
  | simple mark denoted => cases fails
  | strayBackslash =>
      obtain ⟨cooked, refused⟩ := cooked_of_error fails
      cases refused
      exact ⟨cooked, rfl, rfl⟩

end Piece

/-- Where the backslashes at the end of the body come in pairs, one that is refused is not the last
character. -/
theorem RefusedFor.exists_stray {style : QuotedStyle} {body : List Char} {escape : String}
    (refused : RefusedFor style body (.invalidEscape escape)) (paired : endsEscaped body = false) :
    style.raw = false ∧ ∃ c rest, Piece.Reaches body ('\\' :: c :: rest) ∧
      ¬ BeginsEscape (c :: rest) ∧ escape = String.ofList ['\\', c] := by
  cases refused with
  | @piece point after piece _ reaches step fails =>
      obtain ⟨cooked, rfl, rfl⟩ := Piece.stray_of_read fails
      have formed := Piece.formed_of_next? step
      obtain rfl := Piece.next?_spelling step
      cases after with
      | nil =>
          rw [Piece.reaches_lone_iff.1 reaches] at paired
          cases paired
      | cons c rest => exact ⟨cooked, c, rest, reaches, formed.1, rfl⟩

namespace Quoted

/-- The spelling is a closed literal that is not raw, and the scan of its body comes to a backslash
before the character, which begins no escape. -/
structure StraysBefore (spelling : String) (style : QuotedStyle) (body : List Char) (c : Char) :
    Prop where
  cooked : style.raw = false
  whole : ∃ mark ∈ literalMarks style.bytes style.raw,
    spelling.toList = mark ++ (style.delimiter ++ (body ++ style.delimiter))
  paired : endsEscaped body = false
  stray : ∃ rest, Piece.Reaches body ('\\' :: c :: rest) ∧ ¬ BeginsEscape (c :: rest)

/-- **The backslashes at the end of a body tell how its scan ends.** Their number is odd exactly if
a reader who lets each backslash take the next character along is left with a lone one, and exactly
if the scan by pieces comes to a backslash as the last character, whatever the style. No conversion
of digits and no look-up of a mark fails on the slices that the scan gives. And what is refused as
an invalid escape, behind delimiters that have passed that check, is a backslash that begins no
escape and exactly one character after it, which the wording quotes. -/
theorem parity_agrees_with_scan :
    (∀ body, endsEscaped body = true ↔ ['\\'] ∈ readingPoints body) ∧
    (∀ body, endsEscaped body = true ↔ Piece.Reaches body ['\\']) ∧
    (∀ style run body, Checked.readBody style run body = some (readBody style run body)) ∧
    ∀ spelling kind escape,
      read spelling = .error (.malformedLiteral kind (.invalidEscape escape)) →
        ∃ style body c, StraysBefore spelling style body c ∧
          (LiteralFault.invalidEscape escape).message =
            "invalid escape sequence " ++ String.ofList ['\\', c] := by
  refine ⟨fun _ => endsEscaped_eq_true_iff, fun _ => Piece.reaches_lone_iff.symm,
    Checked.readBody_eq, fun spelling kind escape fails => ?_⟩
  obtain ⟨style, mark, body, marked, whole, paired, ofBody, -⟩ :=
    exists_readBody_of_read_error fails (by simp) (by simp)
  obtain ⟨cooked, c, rest, reaches, stray, rfl⟩ :=
    (refusedFor_of_readBody ofBody).exists_stray paired
  exact ⟨style, body, c, ⟨cooked, ⟨mark, marked, whole⟩, paired, rest, reaches, stray⟩, rfl⟩

/-- A backslash before a letter of no escape, behind an octal number and an escaped backslash. -/
theorem parity_agrees_with_scan_stray :
    read "'\\101\\\\\\qb'" = .error (.malformedLiteral .string (.invalidEscape "\\q")) ∧
      ∃ style body c, StraysBefore "'\\101\\\\\\qb'" style body c ∧
        (LiteralFault.invalidEscape "\\q").message =
          "invalid escape sequence " ++ String.ofList ['\\', c] := by
  have fails : read "'\\101\\\\\\qb'" =
      .error (.malformedLiteral .string (.invalidEscape "\\q")) := by decide +kernel
  exact ⟨fails, parity_agrees_with_scan.2.2.2 _ _ _ fails⟩

end Quoted

end ExprTree
