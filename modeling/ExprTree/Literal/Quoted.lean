/-
# ExprTree.Literal.Quoted — reading quoted literals

A quoted literal is an optional mark (`b` for bytes, `r` for raw, either order of both), an opening
delimiter (a quote, or three of them), a body, and the same delimiter again. `Quoted.read` gives the
text that the literal denotes. The delimiters are taken off both ends first; a body that ends in an
odd row of backslashes has its closing delimiter escaped, so it does not end there. The body is then
read piece by piece (`readBody`), with a count of the delimiter quotes that stand in a row.

A raw literal denotes its body as it is spelled. In any other, escapes denote characters, and an
escape of an octal or a two-digit number denotes an ASCII character only.
-/
import ExprTree.Error
import ExprTree.Literal.Piece

namespace ExprTree

set_option autoImplicit false

structure QuotedStyle where
  /-- Marked as a bytes literal. -/
  bytes : Bool
  /-- Marked as raw: escapes are not read. -/
  raw : Bool
  /-- Delimited by three quotes. -/
  triple : Bool
  quote : Char
  deriving DecidableEq

namespace QuotedStyle

def kind (style : QuotedStyle) : LeafKind :=
  if style.bytes then .bytes else .string

def delimiter (style : QuotedStyle) : List Char :=
  if style.triple then [style.quote, style.quote, style.quote] else [style.quote]

end QuotedStyle

namespace Piece

/-- The ASCII character of a code that an escape names. -/
def asciiOf (spelling : List Char) (code : Nat) : Except LiteralFault (List Char) :=
  if code < 128 then .ok [Char.ofNat code]
  else .error (.nonAsciiEscape (String.ofList spelling))

def scalarOf (spelling : List Char) (code : Nat) : Except LiteralFault (List Char) :=
  if code.isValidChar then .ok [Char.ofNat code]
  else .error (.invalidCodePoint (String.ofList spelling))

/-- What a piece stands for in a literal of the style; `after` is what follows the piece. -/
def read (style : QuotedStyle) (after : List Char) (piece : Piece) :
    Except LiteralFault (List Char) :=
  match piece with
  | .ordinary c | .quote c => .ok [c]
  | .newline => if style.triple then .ok ['\n'] else .error .newlineInside
  | .strayBackslash =>
      if style.raw then .ok piece.spelling
      else .error (.invalidEscape (String.ofList (piece.spelling ++ after.take 1)))
  | .lineContinuation => .ok (if style.raw then piece.spelling else [])
  | .simple _ denoted => .ok (if style.raw then piece.spelling else [denoted])
  | .octal digits =>
      if style.raw then .ok piece.spelling
      else asciiOf piece.spelling (Text.numeralValue 8 digits)
  | .hex digits =>
      if style.raw then .ok piece.spelling
      else asciiOf piece.spelling (Text.numeralValue 16 digits)
  | .unicode digits | .longUnicode digits =>
      if style.raw then .ok piece.spelling
      else scalarOf piece.spelling (Text.numeralValue 16 digits)

end Piece

/-- The text of a body, `run` delimiter quotes standing directly before it. -/
def readBody (style : QuotedStyle) (run : Nat) (body : List Char) :
    Except LiteralFault (List Char) :=
  match _step : Piece.next? body with
  | none =>
      if style.triple ∧ 0 < run then .error (.quoteBeforeDelimiter style.quote) else .ok []
  | some (piece, rest) =>
      if piece = .quote style.quote then
        if style.triple ∧ run + 1 < 3 then do
          let text ← readBody style (run + 1) rest
          pure (style.quote :: text)
        else .error (.unescapedQuote style.quote)
      else do
        let chars ← piece.read style rest
        let text ← readBody style 0 rest
        pure (chars ++ text)
  termination_by body.length
  decreasing_by all_goals exact Piece.next?_length_lt _step

/-- Whether the backslashes at the end of a body escape what follows it. -/
def endsEscaped (body : List Char) : Bool :=
  (body.reverse.takeWhile (· == '\\')).length % 2 == 1

/-- A literal that has been read: its style and the text it denotes. -/
structure Quoted extends QuotedStyle where
  text : String
  deriving DecidableEq

namespace Quoted

/-- Splits the mark off a spelling: whether it asks for bytes, whether for raw, and the rest. -/
def splitMark : List Char → Bool × Bool × List Char
  | 'r' :: 'b' :: rest => (true, true, rest)
  | 'b' :: 'r' :: rest => (true, true, rest)
  | 'b' :: rest => (true, false, rest)
  | 'r' :: rest => (false, true, rest)
  | rest => (false, false, rest)

/-- What stands between an opening delimiter and the same delimiter at the end. -/
def body? (delimiter rest : List Char) : Option (List Char) :=
  let afterOpening := rest.drop delimiter.length
  if delimiter.isSuffixOf afterOpening then
    some (afterOpening.take (afterOpening.length - delimiter.length))
  else none

def read (spelling : String) : Except SyntaxError Quoted :=
  let (bytes, raw, rest) := splitMark spelling.toList
  let refuse (fault : LiteralFault) : SyntaxError :=
    .malformedLiteral (if bytes then .bytes else .string) fault
  match rest with
  | [] => .error (refuse .missingOpeningQuote)
  | quote :: _ =>
      if quote = '"' ∨ quote = '\'' then
        let style : QuotedStyle :=
          ⟨bytes, raw, [quote, quote, quote].isPrefixOf rest, quote⟩
        match body? style.delimiter rest with
        | none => .error (refuse .unterminated)
        | some body =>
            if endsEscaped body then .error (refuse .unterminated)
            else match readBody style 0 body with
              | .ok text => .ok ⟨style, String.ofList text⟩
              | .error fault => .error (refuse fault)
      else .error (refuse .missingOpeningQuote)

end Quoted

end ExprTree
