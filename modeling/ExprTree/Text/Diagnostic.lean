/-
# ExprTree.Text.Diagnostic — how a message shows a text or a character

Messages quote the text they speak of. `shownText` writes it between double quotes, `shownChar`
writes a character between single quotes. NUL, tab, line feed, carriage return and the backslash
have short escapes, the quote in use is escaped, a character that extends its neighbour, that a
display may leave out or that has no visible form of its own is written by its number, and every
other character stands for itself.
-/
import ExprTree.Text.Ranges
import ExprTree.Text.DefaultIgnorable
import ExprTree.Text.GraphemeExtend
import ExprTree.Text.Unprintable

namespace ExprTree.Text

set_option autoImplicit false

/-- Whether a message writes the character by its number. -/
def isShownByNumber (c : Char) : Bool :=
  inRanges c.toNat graphemeExtendRanges || inRanges c.toNat defaultIgnorableRanges ||
    inRanges c.toNat unprintableRanges

def shown (quote c : Char) : List Char :=
  if c = '\x00' then ['\\', '0']
  else if c = '\t' then ['\\', 't']
  else if c = '\r' then ['\\', 'r']
  else if c = '\n' then ['\\', 'n']
  else if c = '\\' then ['\\', '\\']
  else if c = quote then ['\\', c]
  else if isShownByNumber c then ['\\', 'u', '\x7b'] ++ Nat.toDigits 16 c.toNat ++ ['\x7d']
  else [c]

def shownText (text : String) : String :=
  String.ofList ('"' :: text.toList.flatMap (shown '"') ++ ['"'])

def shownChar (c : Char) : String :=
  String.ofList ('\'' :: shown '\'' c ++ ['\''])

end ExprTree.Text
