/-
# ExprTree.Json.Write — JSON values as text

A value is written without blanks, its fields in order. In a string the quote and the backslash are
escaped, the controls below the space have short escapes or are written by four hexadecimal digits,
and every other character stands for itself.
-/
import ExprTree.Json.Basic

namespace ExprTree.Json

set_option autoImplicit false

def writeChar (c : Char) : List Char :=
  if c = '"' then ['\\', '"']
  else if c = '\\' then ['\\', '\\']
  else if c = '\x08' then ['\\', 'b']
  else if c = '\t' then ['\\', 't']
  else if c = '\n' then ['\\', 'n']
  else if c = '\x0c' then ['\\', 'f']
  else if c = '\r' then ['\\', 'r']
  else if c.toNat < 0x20 then '\\' :: 'u' :: Text.fixedHex 4 c.toNat
  else [c]

/-- A string between its quotes; one without content as half of a surrogate pair. -/
def writeString (content : Option String) : List Char :=
  match content with
  | some text => '"' :: (text.toList.flatMap writeChar ++ ['"'])
  | none => "\"\\ud800\"".toList

def writeNumber (number : JsonNumber) : List Char :=
  (if number.negative then ['-'] else []) ++ number.whole ++
    (match number.fraction with
      | some digits => '.' :: digits
      | none => []) ++
    (match number.exponent with
      | some exponent =>
          'e' :: ((if exponent < 0 then ['-'] else []) ++ Nat.toDigits 10 exponent.natAbs)
      | none => [])

mutual

def write : Json → List Char
  | .null => ['n', 'u', 'l', 'l']
  | .bool true => ['t', 'r', 'u', 'e']
  | .bool false => ['f', 'a', 'l', 's', 'e']
  | .number value => writeNumber value
  | .string content => writeString content
  | .array items => '[' :: (writeItems items ++ [']'])
  | .object fields => '\x7b' :: (writeFields fields ++ ['\x7d'])

def writeItems : List Json → List Char
  | [] => []
  | item :: rest => item.write ++ if rest.isEmpty then [] else ',' :: writeItems rest

def writeFields : List (Option String × Json) → List Char
  | [] => []
  | (name, value) :: rest =>
      writeString name ++ ':' :: (value.write ++
        if rest.isEmpty then [] else ',' :: writeFields rest)

end

end ExprTree.Json
