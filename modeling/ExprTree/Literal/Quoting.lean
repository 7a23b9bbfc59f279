/-
# ExprTree.Literal.Quoting — writing quoted literals

`quoted` spells a text as a literal of one line between two quotes. Every character has one form:
a backslash and the quote itself are escaped, line feed, carriage return and tab have short escapes,
other ASCII controls are written by two hexadecimal digits, and characters beyond ASCII by four or
eight when ASCII alone is wanted. All else stands for itself.
-/
import ExprTree.Text.Digits

namespace ExprTree

set_option autoImplicit false

open Text (fixedHex)

def isAsciiControl (c : Char) : Bool :=
  c.toNat < 0x20 || c.toNat == 0x7f

def quotedChar (quote : Char) (asciiOnly : Bool) (c : Char) : List Char :=
  if c = '\\' then ['\\', '\\']
  else if c = '\n' then ['\\', 'n']
  else if c = '\r' then ['\\', 'r']
  else if c = '\t' then ['\\', 't']
  else if c = quote then ['\\', c]
  else if isAsciiControl c then '\\' :: 'x' :: fixedHex 2 c.toNat
  else if asciiOnly ∧ 0x80 ≤ c.toNat then
    if c.toNat ≤ 0xFFFF then '\\' :: 'u' :: fixedHex 4 c.toNat
    else '\\' :: 'U' :: fixedHex 8 c.toNat
  else [c]

/-- The spelling of a text between two quotes, marked as bytes if so wanted. -/
def quotedChars (text : List Char) (bytes : Bool) (quote : Char) (asciiOnly : Bool) : List Char :=
  (if bytes then ['b'] else []) ++
    quote :: (text.flatMap (quotedChar quote asciiOnly) ++ [quote])

def quoted (text : String) (bytes : Bool) (quote : Char) (asciiOnly : Bool) : String :=
  String.ofList (quotedChars text.toList bytes quote asciiOnly)

end ExprTree
