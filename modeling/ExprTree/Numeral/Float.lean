/-
# ExprTree.Numeral.Float — float literals

A text is read as a number of the binary format in three steps. It is refused unless it begins with
a digit or a point. Then it is read by a grammar that is wider than that of float literals:
`FloatValue.ofChars?` takes signs in front of decimal fractions, and the names of the infinities and
of what is no number, in letters of either case; a decimal fraction that is too large for any number
is an infinity there. At last the value has to be finite (`readFloat`).

`FloatLiteral` keeps the spelling beside the value, with the evidence that the one reads as the
other.
-/
import ExprTree.Error
import ExprTree.Numeral.Decimal

namespace ExprTree

set_option autoImplicit false

/-- A value of the binary format: a finite number, an infinity, or no number, each with a sign. -/
inductive FloatValue where
  | finite (negative : Bool) (magnitude : Binary64)
  | infinite (negative : Bool)
  | nan (negative : Bool)
  deriving DecidableEq

namespace FloatValue

def isFinite : FloatValue → Bool
  | finite _ _ => true
  | infinite _ | nan _ => false

/-- The bits of the value, the highest of which is that of the sign. -/
def bits (value : FloatValue) : UInt64 :=
  let (negative, magnitude) : Bool × UInt64 := match value with
    | finite negative magnitude => (negative, magnitude.bits)
    | infinite negative => (negative, 0x7FF0000000000000)
    | nan negative => (negative, 0x7FF8000000000000)
  if negative then magnitude ||| 0x8000000000000000 else magnitude

/-- The value nearest to a decimal fraction with a sign. -/
def ofDecimal (negative : Bool) (decimal : Decimal) : FloatValue :=
  match decimal.nearest? with
  | some magnitude => finite negative magnitude
  | none => infinite negative

/-- The value with that name, whose letters may be of either case. -/
def ofName? (negative : Bool) (chars : List Char) : Option FloatValue :=
  let name := chars.map Char.toLower
  if name = "inf".toList ∨ name = "infinity".toList then some (infinite negative)
  else if name = "nan".toList then some (nan negative)
  else none

def ofChars? (chars : List Char) : Option FloatValue :=
  let (negative, unsigned) := Text.splitSign chars
  match Decimal.ofChars? unsigned with
  | some decimal => some (ofDecimal negative decimal)
  | none => ofName? negative unsigned

end FloatValue

def readFloat (spelling : String) : Except LiteralFault FloatValue :=
  if spelling.toList.head?.any Text.isNumeralStart then
    match FloatValue.ofChars? spelling.toList with
    | none => .error (.invalidFloat spelling)
    | some value => if value.isFinite then .ok value else .error (.valueOutOfRange spelling)
  else .error (.invalidFloat spelling)

/-- A float literal: its spelling, and the value that it reads as. -/
structure FloatLiteral where
  spelling : String
  value : FloatValue
  reads : readFloat spelling = .ok value
  deriving DecidableEq

namespace FloatLiteral

def ofString (spelling : String) : Except LiteralFault FloatLiteral :=
  match reads : readFloat spelling with
  | .ok value => .ok ⟨spelling, value, reads⟩
  | .error fault => .error fault

@[simp] theorem ofString_spelling (literal : FloatLiteral) :
    ofString literal.spelling = .ok literal := by
  obtain ⟨spelling, value, reads⟩ := literal
  unfold ofString
  split
  next other same =>
    obtain rfl : other = value := by simpa [reads] using same.symm
    rfl
  next fault same => simp [reads] at same

end FloatLiteral

end ExprTree
