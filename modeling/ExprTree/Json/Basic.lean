/-
# ExprTree.Json.Basic — JSON values

A value as it stands in a text: fields in the order written and repeated ones kept, numbers by their
digits. A string has a content unless an escape in it names half of a surrogate pair without the
other half, which no text can hold.

`Json.depth` is the largest number of arrays and objects that are open at once while the value is
read. `Json.isPlain` asks that every string in the value has a content and that every number is
finite as the word and the power of ten that `Scaled.ofDecimal` keeps of it.

`Json.induct` is the induction principle of values, with the items of an array and the values of the
fields of an object as a whole.
-/
import ExprTree.Numeral.Scaled

namespace ExprTree

set_option autoImplicit false

structure JsonNumber where
  negative : Bool
  whole : List Char
  fraction : Option (List Char)
  exponent : Option Int
  deriving DecidableEq

namespace JsonNumber

def ofNat (n : Nat) : JsonNumber :=
  ⟨false, Nat.toDigits 10 n, none, none⟩

/-- The value of a number without sign, point and exponent. -/
def natural? (number : JsonNumber) : Option Nat :=
  match number with
  | ⟨false, whole, none, none⟩ => some (Text.numeralValue 10 whole)
  | _ => none

/-- Whether the number is finite as a word and a power of ten; the sign does not matter. -/
def isFinite (number : JsonNumber) : Bool :=
  (Scaled.ofDecimal ⟨number.whole, number.fraction.getD [], number.exponent.getD 0⟩).isFinite

end JsonNumber

inductive Json where
  | null
  | bool (value : Bool)
  | number (value : JsonNumber)
  /-- Without content when half of a surrogate pair stands alone in it. -/
  | string (content : Option String)
  | array (items : List Json)
  | object (fields : List (Option String × Json))

namespace Json

theorem induct {motive : Json → Prop} (null : motive .null)
    (bool : ∀ value, motive (.bool value)) (number : ∀ value, motive (.number value))
    (string : ∀ content, motive (.string content))
    (array : ∀ items, (∀ item ∈ items, motive item) → motive (.array items))
    (object : ∀ fields, (∀ field ∈ fields, motive field.2) → motive (.object fields))
    (json : Json) : motive json := by
  refine Json.rec (motive_1 := motive) (motive_2 := fun items => ∀ item ∈ items, motive item)
    (motive_3 := fun fields => ∀ field ∈ fields, motive field.2)
    (motive_4 := fun field => motive field.2)
    null bool number string array object ?_ ?_ ?_ ?_ ?_ json
  · intro item absurd
    cases absurd
  · intro head tail ofHead ofTail
    exact List.forall_mem_cons.2 ⟨ofHead, ofTail⟩
  · intro field absurd
    cases absurd
  · intro head tail ofHead ofTail
    exact List.forall_mem_cons.2 ⟨ofHead, ofTail⟩
  · intro name value ofValue
    exact ofValue

def text (content : String) : Json :=
  .string (some content)

def natural (n : Nat) : Json :=
  .number (.ofNat n)

def record (fields : List (String × Json)) : Json :=
  .object (fields.map fun (name, value) => (some name, value))

mutual

/-- The largest number of arrays and objects open at once. -/
@[simp] def depth : Json → Nat
  | .array items => 1 + itemsDepth items
  | .object fields => 1 + fieldsDepth fields
  | _ => 0

@[simp] def itemsDepth : List Json → Nat
  | [] => 0
  | item :: rest => max item.depth (itemsDepth rest)

@[simp] def fieldsDepth : List (Option String × Json) → Nat
  | [] => 0
  | (_, value) :: rest => max value.depth (fieldsDepth rest)

end

mutual

/-- Whether all strings have a content and all numbers are finite. -/
def isPlain : Json → Bool
  | .null | .bool _ => true
  | .number value => value.isFinite
  | .string content => content.isSome
  | .array items => itemsPlain items
  | .object fields => fieldsPlain fields

def itemsPlain : List Json → Bool
  | [] => true
  | item :: rest => item.isPlain && itemsPlain rest

def fieldsPlain : List (Option String × Json) → Bool
  | [] => true
  | (name, value) :: rest => name.isSome && value.isPlain && fieldsPlain rest

end

end Json

end ExprTree
