/-
# ExprTree.Atom — what a leaf holds

A leaf holds a name, a number with its spelling, or the text of a string or bytes literal. The value
of a bytes literal is its text in UTF-8, so the text is all that is kept. `Atom.read` makes the
content of a leaf from its text, and `Atom.text` gives that text back: the name, the spelling of a
number, the decoded text of a string or bytes literal.

Main statement: `read_text`, the text of any content reads as that content.
-/
import ExprTree.Error
import ExprTree.Numeral.Float
import ExprTree.Numeral.Integer
import ExprTree.Text.Name

namespace ExprTree

set_option autoImplicit false

/-- The content of a leaf. -/
inductive Atom where
  | identifier (name : Identifier)
  | int (literal : IntLiteral)
  | float (literal : FloatLiteral)
  | string (text : String)
  | bytes (text : String)
  deriving DecidableEq

namespace Atom

def kind : Atom → LeafKind
  | .identifier _ => .identifier
  | .int _ => .int
  | .float _ => .float
  | .string _ => .string
  | .bytes _ => .bytes

/-- The text that the content is made from. -/
def text : Atom → String
  | .identifier name => name.name
  | .int literal => literal.spelling
  | .float literal => literal.spelling
  | .string text => text
  | .bytes text => text

/-- The content that a text gives a leaf of the kind. -/
def read (kind : LeafKind) (text : String) : Except LiteralFault Atom :=
  match kind with
  | .identifier => match Identifier.ofString? text with
    | some name => .ok (.identifier name)
    | none => .error (.invalidIdentifier text)
  | .int => (IntLiteral.ofString text).map .int
  | .float => (FloatLiteral.ofString text).map .float
  | .string => .ok (.string text)
  | .bytes => .ok (.bytes text)

theorem read_text (atom : Atom) : read atom.kind atom.text = .ok atom := by
  cases atom with
  | identifier name =>
      have found : Identifier.ofString? name.name = some name :=
        Identifier.ofString?_eq_some_iff.2 rfl
      simp [read, kind, text, found]
  | int literal => simp [read, kind, text, Except.map]
  | float literal => simp [read, kind, text, Except.map]
  | string => rfl
  | bytes => rfl

end Atom

end ExprTree
