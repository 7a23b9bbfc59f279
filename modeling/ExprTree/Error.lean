/-
# ExprTree.Error — why something is refused

A refusal is a cause; its wording is one function, `SyntaxError.message`. Three families of causes
exist: an offset outside its source, a literal whose text cannot be read (`LiteralFault`), and parts
that do not make up a node (`PartsFault`). Only the second comes from what a user wrote, so
`SyntaxError.isInternal` holds of the other two.

`LeafError` adds what a caller gets who makes a leaf on a span that ends before it starts.
-/
import ExprTree.NodeKind
import ExprTree.Source.Span
import ExprTree.Text.Diagnostic

namespace ExprTree

set_option autoImplicit false

open Text (shownText shownChar)

/-- Why the text of a literal or of a name cannot be read. -/
inductive LiteralFault where
  /-- The spelling has no quote where the literal should open. -/
  | missingOpeningQuote
  /-- The spelling does not end with the delimiter it opened with. -/
  | unterminated
  /-- A literal of one line contains a line feed. -/
  | newlineInside
  /-- The delimiter occurs before the end of the literal. -/
  | unescapedQuote (quote : Char)
  /-- A quote stands directly before the closing delimiter. -/
  | quoteBeforeDelimiter (quote : Char)
  /-- A backslash begins no escape. -/
  | invalidEscape (spelling : String)
  /-- An octal or two-digit hexadecimal escape names a byte above 0x7F. -/
  | nonAsciiEscape (spelling : String)
  /-- An escape names no Unicode scalar value. -/
  | invalidCodePoint (spelling : String)
  /-- A string literal stands where a bytes literal is wanted. -/
  | missingBytesMark
  /-- A bytes literal stands where a string literal is wanted. -/
  | unexpectedBytesMark
  /-- A numeral has no digits. -/
  | missingDigits (spelling : String)
  /-- A numeral has a character that is no digit of its radix. -/
  | invalidDigit (digit : Char) (spelling : String)
  /-- A decimal numeral of several digits begins with zero. -/
  | leadingZeros (spelling : String)
  /-- The value of a numeral is too large. -/
  | valueOutOfRange (spelling : String)
  /-- The text is not spelled as a decimal fraction. -/
  | invalidFloat (spelling : String)
  /-- The text is not spelled as a name. -/
  | invalidIdentifier (name : String)
  deriving DecidableEq

def LiteralFault.message : LiteralFault → String
  | .missingOpeningQuote => "missing opening quote"
  | .unterminated => "unterminated literal"
  | .newlineInside => "unterminated literal: newline before closing quote"
  | .unescapedQuote quote => s!"unescaped {quote} in literal"
  | .quoteBeforeDelimiter quote => s!"unescaped {quote} before closing delimiter"
  | .invalidEscape spelling => s!"invalid escape sequence {spelling}"
  | .nonAsciiEscape spelling =>
      s!"non-ASCII escape {spelling}; use a \\u escape for non-ASCII characters"
  | .invalidCodePoint spelling => s!"invalid Unicode code point {spelling}"
  | .missingBytesMark => "missing b prefix"
  | .unexpectedBytesMark => "unexpected b prefix"
  | .missingDigits spelling => s!"missing digits in {shownText spelling}"
  | .invalidDigit digit spelling =>
      s!"invalid digit {shownChar digit} in {shownText spelling}"
  | .leadingZeros spelling =>
      s!"leading zeros are not allowed in {shownText spelling}; use 0o for octal"
  | .valueOutOfRange spelling => s!"{spelling} is out of range"
  | .invalidFloat spelling => s!"invalid float literal {shownText spelling}"
  | .invalidIdentifier name => s!"{shownText name} is not a valid identifier"

/-- Why parts do not make up a node. -/
inductive PartsFault where
  /-- Four parts were offered for a composite. -/
  | notALeaf
  /-- The span ends before it starts. -/
  | stopBeforeStart (start stop : Offset)
  /-- The span ends beyond its source. -/
  | stopBeyondSource (stop : Offset) (file : String) (length : Offset)
  /-- A part begins at `after`, before the one in front of it is over at `before`. -/
  | outOfOrder (before after : Offset)
  /-- A part of kind `part` comes from another source than the rest. -/
  | foreignSource (part : NodeKind) (file expected : String)
  /-- The symbol is not in the operator table of the kind. -/
  | unknownOperator (symbol : String)
  deriving DecidableEq

def PartsFault.message : PartsFault → String
  | .notALeaf => "not a leaf kind"
  | .stopBeforeStart start stop =>
      s!"end offset {stop.toNat} precedes start offset {start.toNat}"
  | .stopBeyondSource stop file length =>
      s!"end offset {stop.toNat} is beyond {file} (length {length.toNat})"
  | .outOfOrder before after =>
      s!"children out of order: offset {after.toNat} precedes offset {before.toNat}"
  | .foreignSource part file expected => s!"{part.name} comes from {file}, not {expected}"
  | .unknownOperator symbol => s!"unknown operator {shownText symbol}"

/-- A refusal of the tree layer. -/
inductive SyntaxError where
  /-- The offset lies beyond the end of its source. -/
  | outOfRange (file : String) (offset length : Offset)
  /-- The text of a literal, or of a name, cannot be read. -/
  | malformedLiteral (kind : LeafKind) (fault : LiteralFault)
  /-- The parts do not make up a node of the kind. -/
  | mismatch (kind : NodeKind) (fault : PartsFault)
  deriving DecidableEq

namespace SyntaxError

def message : SyntaxError → String
  | .outOfRange file offset length =>
      s!"offset {offset.toNat} is out of range for {file} (length {length.toNat})"
  | .malformedLiteral kind fault => s!"malformed {kind.name}: {fault.message}"
  | .mismatch kind fault => s!"cannot reconstruct {kind.name}: {fault.message}"

/-- Whether the refusal points to the producer of a tree and not to what a user wrote. -/
def isInternal : SyntaxError → Bool
  | .malformedLiteral _ _ => false
  | _ => true

end SyntaxError

/-- Why a leaf is not made. -/
inductive LeafError where
  /-- Its text cannot be read. -/
  | refused (error : SyntaxError)
  /-- Its caller names a span that ends before it starts. -/
  | invertedSpan (kind : LeafKind) (start stop : Offset)
  deriving DecidableEq

def LeafError.message : LeafError → String
  | .refused error => error.message
  | .invertedSpan kind start stop =>
      s!"{kind.name} span is inverted: {start.toNat} > {stop.toNat}"

end ExprTree
