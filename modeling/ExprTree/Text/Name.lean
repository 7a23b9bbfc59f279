/-
# ExprTree.Text.Name — the spelling of names

A name is an underscore or a character of `XID_Start`, followed by characters of `XID_Continue`.
`Identifier` is a name together with the evidence that it is one, so that no later stage has to
ask again; `Identifier.ofString?` is the only question.
-/
import ExprTree.Text.Ranges
import ExprTree.Text.XidStart
import ExprTree.Text.XidContinue

namespace ExprTree.Text

set_option autoImplicit false

def isNameStart (c : Char) : Bool :=
  c == '_' || inRanges c.toNat xidStartRanges

def isNameContinue (c : Char) : Bool :=
  inRanges c.toNat xidContinueRanges

def isName : List Char → Bool
  | [] => false
  | c :: rest => isNameStart c && rest.all isNameContinue

theorem isNameStart_ascii {c : Char} (ascii : c.toNat < 0x80) :
    isNameStart c = (c == '_' || c.isAlpha) := by
  rw [isNameStart, inRanges_xidStartRanges_ascii _ ascii, Char.ofNat_toNat]

theorem isNameContinue_ascii {c : Char} (ascii : c.toNat < 0x80) :
    isNameContinue c = (c.isAlphanum || c == '_') := by
  rw [isNameContinue, inRanges_xidContinueRanges_ascii _ ascii, Char.ofNat_toNat]

end ExprTree.Text

namespace ExprTree

structure Identifier where
  name : String
  spelled : Text.isName name.toList = true
  deriving DecidableEq

namespace Identifier

def ofString? (name : String) : Option Identifier :=
  if spelled : Text.isName name.toList = true then some ⟨name, spelled⟩ else none

theorem ofString?_eq_some_iff {text : String} {identifier : Identifier} :
    ofString? text = some identifier ↔ identifier.name = text := by
  constructor
  · intro read
    unfold ofString? at read
    split at read
    · cases read
      rfl
    · cases read
  · rintro rfl
    simp [ofString?, identifier.spelled]

/-- Of ASCII, a name has letters, digits and underscores only. -/
theorem isAlphanum_of_ascii (identifier : Identifier) {c : Char}
    (member : c ∈ identifier.name.toList) (ascii : c.toNat < 0x80) :
    (c.isAlphanum || c == '_') = true := by
  have spelled := identifier.spelled
  cases chars : identifier.name.toList with
  | nil =>
      rw [chars] at member
      cases member
  | cons first rest =>
      rw [chars, Text.isName, Bool.and_eq_true, List.all_eq_true] at spelled
      rw [chars, List.mem_cons] at member
      rcases member with rfl | later
      · have start := spelled.1
        rw [Text.isNameStart_ascii ascii, Bool.or_comm, Bool.or_eq_true] at start
        rw [Char.isAlphanum, Bool.or_eq_true, Bool.or_eq_true]
        exact start.imp_left .inl
      · rw [← Text.isNameContinue_ascii ascii]
        exact spelled.2 c later

/-- The rest of ASCII does not occur in a name. -/
theorem notMem_of_others (identifier : Identifier) {others : List Char}
    (ascii : (others.all fun c => c.toNat < 0x80 && !(c.isAlphanum || c == '_')) = true) :
    ∀ c ∈ identifier.name.toList, c ∉ others := by
  intro c member other
  have parts := List.all_eq_true.1 ascii c other
  rw [Bool.and_eq_true, decide_eq_true_eq, Bool.not_eq_true'] at parts
  have wordChar := identifier.isAlphanum_of_ascii member parts.1
  rw [parts.2] at wordChar
  cases wordChar

end Identifier

end ExprTree
