/-
# ExprTree.Text.Utf8 — byte offsets into a text

Offsets count the bytes of a text in UTF-8, while the text itself is handled as its characters.
`byteLength` measures a row of characters, `splitAt?` cuts it at a byte offset when a character
begins there (or the text ends there) and `slice?` takes the characters between two such offsets.
`headsIn` reads the bytes themselves: it counts those in a range that begin a character.

Main statements: `splitAt?_eq_some_iff`, cutting succeeds exactly at the byte lengths of the
leading parts of the text, and `byteLength_toList`, the measure is the one of the encoded text.
-/

namespace ExprTree.Text

set_option autoImplicit false

@[simp] def byteLength : List Char → Nat
  | [] => 0
  | c :: rest => c.utf8Size + byteLength rest

@[simp] theorem byteLength_append (before after : List Char) :
    byteLength (before ++ after) = byteLength before + byteLength after := by
  induction before with
  | nil => simp
  | cons c rest ih => simp [ih, Nat.add_assoc]

theorem utf8ByteSize_ofList (chars : List Char) :
    (String.ofList chars).utf8ByteSize = byteLength chars := by
  induction chars with
  | nil => simp
  | cons c rest ih =>
      rw [show c :: rest = [c] ++ rest from rfl, String.ofList_append, String.utf8ByteSize_append,
        ih]
      simp

/-- A text takes as many bytes as its characters together. -/
theorem byteLength_toList (text : String) : byteLength text.toList = text.utf8ByteSize := by
  rw [← utf8ByteSize_ofList, String.ofList_toList]

/-- The characters before and from a byte offset; `none` when the offset falls inside a character
or beyond the end. -/
def splitAt? : List Char → Nat → Option (List Char × List Char)
  | chars, 0 => some ([], chars)
  | [], _ + 1 => none
  | c :: rest, offset + 1 =>
      if c.utf8Size ≤ offset + 1 then
        (splitAt? rest (offset + 1 - c.utf8Size)).map fun (before, after) => (c :: before, after)
      else none

/-- Whether a character begins at the byte offset, or the text ends there. -/
def isBoundary (chars : List Char) (offset : Nat) : Bool :=
  (splitAt? chars offset).isSome

/-- The characters between two byte offsets, both of which have to be boundaries. -/
def slice? (chars : List Char) (start stop : Nat) : Option (List Char) := do
  let (_, after) ← splitAt? chars start
  let (inside, _) ← splitAt? after (stop - start)
  pure inside

/-- Whether a byte goes on with a character that began before it: its two high bits are `10`. -/
def isContinuation (byte : UInt8) : Bool :=
  byte &&& 0xC0 == 0x80

/-- The number of bytes of a text, from `start` up to `stop`, that begin a character. -/
def headsIn (text : String) (start stop : Nat) : Nat :=
  (text.toUTF8.extract start stop).data.toList.countP fun byte => !isContinuation byte

/-- Cutting succeeds exactly at the byte lengths of the leading parts. -/
theorem splitAt?_eq_some_iff {chars before after : List Char} {offset : Nat} :
    splitAt? chars offset = some (before, after) ↔
      chars = before ++ after ∧ byteLength before = offset := by
  induction chars generalizing before after offset with
  | nil =>
      cases offset with
      | zero => cases before <;> cases after <;> simp [splitAt?]
      | succ offset => cases before <;> simp [splitAt?]
  | cons c rest ih =>
      have positive : 0 < c.utf8Size := c.utf8Size_pos
      cases offset with
      | zero =>
          cases before with
          | nil => simp [splitAt?, eq_comm]
          | cons d before =>
              have positive : 0 < d.utf8Size := d.utf8Size_pos
              simp only [splitAt?, byteLength, Option.some.injEq, Prod.mk.injEq]
              constructor
              · rintro ⟨impossible, -⟩
                cases impossible
              · rintro ⟨-, impossible⟩
                omega
      | succ offset =>
          cases before with
          | nil =>
              simp only [splitAt?, byteLength]
              split <;> simp
          | cons d before =>
              simp only [splitAt?, byteLength, List.cons_append, List.cons.injEq]
              split
              next fits =>
                simp only [Option.map_eq_some_iff, Prod.exists, Prod.mk.injEq, List.cons.injEq]
                constructor
                · rintro ⟨left, right, cut, ⟨rfl, rfl⟩, rfl⟩
                  obtain ⟨rfl, length⟩ := ih.1 cut
                  exact ⟨⟨rfl, rfl⟩, by omega⟩
                · rintro ⟨⟨rfl, rfl⟩, length⟩
                  exact ⟨before, after, ih.2 ⟨rfl, by omega⟩, ⟨rfl, rfl⟩, rfl⟩
              next tooWide =>
                simp only [false_iff, reduceCtorEq]
                rintro ⟨⟨rfl, -⟩, length⟩
                omega

end ExprTree.Text
