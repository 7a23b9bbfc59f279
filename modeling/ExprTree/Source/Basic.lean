/-
# ExprTree.Source.Basic — source units

A source unit is a named text whose length fits an offset. Two units that were registered apart are
told apart by their serial numbers even when they hold the same text, and `SameText` asks for the
name and the text alone. A unit turns byte offsets into lines and columns, and back into texts:

* `lineCol` counts columns in characters, and an offset inside a character has the column of that
  character;
* `lineText?` gives a line without its terminator;
* `textAt?` gives the text of a span that begins and ends between characters.
-/
import ExprTree.Error
import ExprTree.Source.LineTable
import ExprTree.Source.Location
import ExprTree.Text.Utf8

namespace ExprTree

set_option autoImplicit false

/-- A named text, registered under a serial number. -/
structure Source where
  serial : Nat
  file : String
  text : String
  fits : text.utf8ByteSize < UInt32.size
  deriving DecidableEq

namespace Source

/-- Registers a text; `none` when its length does not fit an offset. -/
def register? (serial : Nat) (file text : String) : Option Source :=
  if fits : text.utf8ByteSize < UInt32.size then some ⟨serial, file, text, fits⟩ else none

/-- Whether two units have the same name and the same text, however they were registered. -/
def SameText (a b : Source) : Prop :=
  a.file = b.file ∧ a.text = b.text

instance (a b : Source) : Decidable (SameText a b) :=
  inferInstanceAs (Decidable (_ ∧ _))

@[simp] theorem SameText.refl (source : Source) : source.SameText source :=
  ⟨rfl, rfl⟩

theorem SameText.symm {a b : Source} (same : a.SameText b) : b.SameText a :=
  ⟨same.1.symm, same.2.symm⟩

theorem SameText.trans {a b c : Source} (first : a.SameText b) (second : b.SameText c) :
    a.SameText c :=
  ⟨first.1.trans second.1, first.2.trans second.2⟩

def chars (source : Source) : List Char :=
  source.text.toList

/-- The length in bytes, which is the largest valid offset. -/
def length (source : Source) : Offset :=
  source.text.utf8ByteSize.toUInt32

theorem toNat_length (source : Source) : source.length.toNat = source.text.utf8ByteSize := by
  have fits := source.fits
  show source.text.utf8ByteSize % 2 ^ 32 = _
  exact Nat.mod_eq_of_lt fits

theorem SameText.length_eq {a b : Source} (same : a.SameText b) : a.length = b.length := by
  simp only [length, same.2]

def isEmpty (source : Source) : Bool :=
  source.text.isEmpty

def lineTable (source : Source) : LineTable :=
  .ofChars source.chars

/-- The number of lines, of which the last is empty after a final line feed. -/
def lineCount (source : Source) : Nat :=
  source.lineTable.starts.size

def lineCol (source : Source) (offset : Offset) : Except SyntaxError LineCol :=
  if source.length < offset then .error (.outOfRange source.file offset source.length)
  else
    let table := source.lineTable
    let line := table.lineAt offset
    let lineStart := table.starts[line]
    let heads := Text.headsIn source.text lineStart.toNat offset.toNat
    -- Inside a character, that character's head has been counted already.
    let column := if Text.isBoundary source.chars offset.toNat then heads else heads - 1
    .ok ⟨line.val.toUInt32 + 1, column.toUInt32 + 1⟩

def location (source : Source) (offset : Offset) : Except SyntaxError Location := do
  let position ← source.lineCol offset
  pure ⟨source.file, position.line, position.column⟩

def dropCarriageReturn (line : List Char) : List Char :=
  if line.getLast? = some '\r' then line.dropLast else line

/-- The text of a line, counted from one, without its terminator. -/
def lineText? (source : Source) (line : UInt32) : Option String :=
  if line = 0 then none
  else do
    let index := line.toNat - 1
    let starts := source.lineTable.starts
    let start ← starts[index]?
    let stop := match starts[index + 1]? with
      | some next => next.toNat - 1
      | none => source.text.utf8ByteSize
    let chars ← Text.slice? source.chars start.toNat stop
    pure (String.ofList (dropCarriageReturn chars))

/-- The text of a span; `none` unless it begins and ends between characters of the unit. -/
def textAt? (source : Source) (span : Span) : Option String :=
  (Text.slice? source.chars span.start.toNat span.stop.toNat).map String.ofList

/-- The summary of a unit that diagnostics print: its name and its length. -/
def summary (source : Source) : String :=
  "FileLocations \x7b file: " ++ Text.shownText source.file ++ ", len: " ++
    toString source.length.toNat ++ ", .. \x7d"

end Source

structure Place where
  source : Source
  span : Span
  deriving DecidableEq

namespace Place

/-- Whether two places are the same span of the same text. -/
def SameText (a b : Place) : Prop :=
  a.source.SameText b.source ∧ a.span = b.span

instance (a b : Place) : Decidable (SameText a b) :=
  inferInstanceAs (Decidable (_ ∧ _))

end Place

end ExprTree
