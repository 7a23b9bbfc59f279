/-
# ExprTree.Json.Read — JSON values from tokens

A reader takes one token after the other. It knows what may come next and which arrays and objects
are open around it, the innermost first. `Reader.next?` is one step of it and `Json.read?` runs it
over a whole text, which has to hold one value and nothing else. A comma is always followed by
another item or another field.
-/
import ExprTree.Json.Token

namespace ExprTree.Json

set_option autoImplicit false

/-- An open array or object, with what was read of it, the latest first. -/
inductive Frame where
  | array (items : List Json)
  /-- The value of the field called `name` is being read. -/
  | object (fields : List (Option String × Json)) (name : Option String)

/-- What may come next, inside the open arrays and objects. -/
inductive Reader where
  /-- A value. -/
  | expectValue (around : List Frame)
  /-- The first item of an array, or its end. -/
  | arrayStart (around : List Frame)
  /-- The first name of an object, or its end. -/
  | objectStart (around : List Frame)
  /-- A comma, or the end of the array. -/
  | afterItem (around : List Frame) (items : List Json)
  /-- A comma, or the end of the object. -/
  | afterField (around : List Frame) (fields : List (Option String × Json))
  /-- A name. -/
  | expectName (around : List Frame) (fields : List (Option String × Json))
  /-- A colon. -/
  | expectColon (around : List Frame) (fields : List (Option String × Json)) (name : Option String)
  /-- Nothing: the value is complete. -/
  | done (value : Json)

namespace Reader

def complete (around : List Frame) (value : Json) : Reader :=
  match around with
  | [] => .done value
  | .array items :: around => .afterItem around (value :: items)
  | .object fields name :: around => .afterField around ((name, value) :: fields)

def begin? (around : List Frame) : Token → Option Reader
  | .openArray => some (.arrayStart around)
  | .openObject => some (.objectStart around)
  | .scalar value => some (complete around value)
  | _ => none

/-- The reader after one more token; `none` when the token may not come here. -/
def next? : Reader → Token → Option Reader
  | .expectValue around, token => begin? around token
  | .arrayStart around, .closeArray => some (complete around (.array []))
  | .arrayStart around, token => begin? (.array [] :: around) token
  | .objectStart around, .closeObject => some (complete around (.object []))
  | .objectStart around, .scalar (.string name) => some (.expectColon around [] name)
  | .afterItem around items, .comma => some (.expectValue (.array items :: around))
  | .afterItem around items, .closeArray => some (complete around (.array items.reverse))
  | .afterField around fields, .comma => some (.expectName around fields)
  | .afterField around fields, .closeObject => some (complete around (.object fields.reverse))
  | .expectName around fields, .scalar (.string name) => some (.expectColon around fields name)
  | .expectColon around fields name, .colon => some (.expectValue (.object fields name :: around))
  | _, _ => none

end Reader

def ofTokens? (tokens : List Token) : Option Json := do
  match ← tokens.foldlM Reader.next? (.expectValue []) with
  | .done value => pure value
  | _ => none

def read? (text : List Char) : Option Json := do
  ofTokens? (← tokenize text)

end ExprTree.Json
