/-
# ExprTree.Proofs.Text.Fields — splitting source text where nothing is open

`fields` splits a text at a separator wherever it stands outside of quotes and of brackets. A scan
of the text keeps count of the brackets that are open, and of whether a literal is; it knows one
quote, and that a backslash inside a literal takes the next character with it.

A text that is never split and leaves the scan as it was is crossed as a whole (`Crosses`). Texts
that are crossed one after the other are crossed together (`Crosses.append`), and what stands
between brackets only has to be crossed with something open (`Passes.enclose`). So the fields of a
text that is put together from such parts are these parts: `fields_of_passes` for the last one and
`fields_append_separator` for those before it.
-/
import Mathlib.Data.List.Basic

namespace ExprTree.Text

set_option autoImplicit false

/-- What a character of source text belongs to. -/
inductive Mode where
  | code
  | literal
  /-- A literal, directly after a backslash. -/
  | escape
  deriving DecidableEq

/-- How many brackets are open, and what the next character belongs to. -/
structure Scan where
  depth : Nat
  mode : Mode
  deriving DecidableEq

namespace Scan

def outside : Scan :=
  ⟨0, .code⟩

def step (quote : Char) (scan : Scan) (c : Char) : Scan :=
  match scan.mode with
  | .code =>
      if c = quote then ⟨scan.depth, .literal⟩
      else if c = '(' ∨ c = '[' then ⟨scan.depth + 1, .code⟩
      else if c = ')' ∨ c = ']' then ⟨scan.depth - 1, .code⟩
      else scan
  | .literal =>
      if c = quote then ⟨scan.depth, .code⟩
      else if c = '\\' then ⟨scan.depth, .escape⟩
      else scan
  | .escape => ⟨scan.depth, .literal⟩

end Scan

/-- The fields of a text between separators that stand where nothing is open. -/
def fields (quote separator : Char) (scan : Scan) : List Char → List (List Char)
  | [] => [[]]
  | c :: rest =>
      if scan = .outside ∧ c = separator then [] :: fields quote separator .outside rest
      else (fields quote separator (scan.step quote c) rest).modifyHead (c :: ·)

/-- Whatever follows it, the text is not split, and takes the scan from one state to another. -/
def Crosses (quote separator : Char) (before after : Scan) (text : List Char) : Prop :=
  ∀ rest, fields quote separator before (text ++ rest) =
    (fields quote separator after rest).modifyHead (text ++ ·)

/-- The text is crossed wherever at least that many brackets are open. -/
def Passes (quote separator : Char) (level : Nat) (text : List Char) : Prop :=
  ∀ depth, level ≤ depth → Crosses quote separator ⟨depth, .code⟩ ⟨depth, .code⟩ text

variable {quote separator : Char}

namespace Crosses

theorem nil (scan : Scan) : Crosses quote separator scan scan [] := by
  intro rest
  show fields quote separator scan rest = (fields quote separator scan rest).modifyHead id
  rw [List.modifyHead_id, id]

theorem cons {before after : Scan} {c : Char} {text : List Char}
    (inside : ¬ (before = .outside ∧ c = separator))
    (crosses : Crosses quote separator (before.step quote c) after text) :
    Crosses quote separator before after (c :: text) := by
  intro rest
  rw [List.cons_append, fields, if_neg inside, crosses rest, List.modifyHead_modifyHead]
  rfl

theorem append {before between after : Scan} {first second : List Char}
    (crossesFirst : Crosses quote separator before between first)
    (crossesSecond : Crosses quote separator between after second) :
    Crosses quote separator before after (first ++ second) := by
  intro rest
  rw [List.append_assoc, crossesFirst, crossesSecond, List.modifyHead_modifyHead]
  congr 1
  funext field
  exact (List.append_assoc first second field).symm

/-- Inside a literal, any character but its quote and a backslash leaves the scan there. -/
theorem literal_cons {depth : Nat} {after : Scan} {c : Char} {text : List Char}
    (notQuote : c ≠ quote) (notBackslash : c ≠ '\\')
    (crosses : Crosses quote separator ⟨depth, .literal⟩ after text) :
    Crosses quote separator ⟨depth, .literal⟩ after (c :: text) := by
  refine .cons ?_ ?_
  · rintro ⟨nothing, -⟩
    cases congrArg Scan.mode nothing
  · have stays : Scan.step quote ⟨depth, .literal⟩ c = ⟨depth, .literal⟩ := by
      simp [Scan.step, notQuote, notBackslash]
    rw [stays]
    exact crosses

/-- A backslash takes the next character with it, whatever that is. -/
theorem escape_cons {depth : Nat} {after : Scan} {c : Char} {text : List Char}
    (notQuote : '\\' ≠ quote) (crosses : Crosses quote separator ⟨depth, .literal⟩ after text) :
    Crosses quote separator ⟨depth, .literal⟩ after ('\\' :: c :: text) := by
  refine .cons ?_ (.cons ?_ ?_)
  · rintro ⟨nothing, -⟩
    cases congrArg Scan.mode nothing
  · have escapes : Scan.step quote ⟨depth, .literal⟩ '\\' = ⟨depth, .escape⟩ := by
      simp [Scan.step, notQuote]
    rw [escapes]
    rintro ⟨nothing, -⟩
    cases congrArg Scan.mode nothing
  · have back : Scan.step quote (Scan.step quote ⟨depth, .literal⟩ '\\') c =
        ⟨depth, .literal⟩ := by
      simp [Scan.step, notQuote]
    rw [back]
    exact crosses

end Crosses

namespace Passes

variable {level : Nat}

theorem nil (level : Nat) : Passes quote separator level [] :=
  fun _ _ => .nil _

theorem append {first second : List Char} (passesFirst : Passes quote separator level first)
    (passesSecond : Passes quote separator level second) :
    Passes quote separator level (first ++ second) :=
  fun depth deep => (passesFirst depth deep).append (passesSecond depth deep)

/-- A character that opens and closes nothing passes, unless it separates. -/
theorem cons {c : Char} {text : List Char} (notQuote : c ≠ quote)
    (notBracket : c ∉ ['(', '[', ')', ']']) (inside : c ≠ separator ∨ 0 < level)
    (passes : Passes quote separator level text) :
    Passes quote separator level (c :: text) := by
  intro depth deep
  refine .cons ?_ ?_
  · rintro ⟨nothing, same⟩
    have atTop : depth = 0 := congrArg Scan.depth nothing
    rcases inside with other | positive
    · exact other same
    · omega
  · simp only [List.mem_cons, List.not_mem_nil, or_false, not_or] at notBracket
    obtain ⟨notRound, notSquare, notRoundEnd, notSquareEnd⟩ := notBracket
    have stays : Scan.step quote ⟨depth, .code⟩ c = ⟨depth, .code⟩ := by
      simp [Scan.step, notQuote, notRound, notSquare, notRoundEnd, notSquareEnd]
    rw [stays]
    exact passes depth deep

/-- Brackets hide what stands between them. -/
theorem enclose {opening closing : Char} {text : List Char}
    (opens : ∀ depth, Scan.step quote ⟨depth, .code⟩ opening = ⟨depth + 1, .code⟩)
    (closes : ∀ depth, Scan.step quote ⟨depth + 1, .code⟩ closing = ⟨depth, .code⟩)
    (notSeparator : opening ≠ separator) (passes : Passes quote separator (level + 1) text) :
    Passes quote separator level (opening :: (text ++ [closing])) := by
  intro depth deep
  have within := passes (depth + 1) (Nat.add_le_add_right deep 1)
  refine .cons (fun separates => notSeparator separates.2) ?_
  rw [opens]
  refine within.append (.cons ?_ ?_)
  · rintro ⟨nothing, -⟩
    cases congrArg Scan.depth nothing
  · rw [closes]
    exact .nil _

/-- Quotes hide what stands between them. -/
theorem literal {body : List Char} (notSeparator : quote ≠ separator)
    (crosses : ∀ depth, Crosses quote separator ⟨depth, .literal⟩ ⟨depth, .literal⟩ body) :
    Passes quote separator level (quote :: (body ++ [quote])) := by
  intro depth _
  refine .cons (fun separates => notSeparator separates.2) ?_
  have opens : Scan.step quote ⟨depth, .code⟩ quote = ⟨depth, .literal⟩ := by
    simp [Scan.step]
  have closes : Scan.step quote ⟨depth, .literal⟩ quote = ⟨depth, .code⟩ := by
    simp [Scan.step]
  rw [opens]
  refine (crosses depth).append (.cons ?_ ?_)
  · rintro ⟨nothing, -⟩
    cases congrArg Scan.mode nothing
  · rw [closes]
    exact .nil _

/-- A text that opens and closes nothing passes, if it has no separators or stands inside. -/
theorem of_forall {text : List Char}
    (plain : ∀ c ∈ text, c ≠ quote ∧ c ∉ ['(', '[', ')', ']'] ∧ (c ≠ separator ∨ 0 < level)) :
    Passes quote separator level text := by
  induction text with
  | nil => exact .nil level
  | cons c text ih =>
      obtain ⟨⟨notQuote, notBracket, inside⟩, later⟩ := List.forall_mem_cons.1 plain
      exact .cons notQuote notBracket inside (ih later)

end Passes

/-- A text that passes is one field. -/
theorem fields_of_passes {text : List Char} (passes : Passes quote separator 0 text) :
    fields quote separator .outside text = [text] := by
  have whole := passes 0 (Nat.le_refl 0) []
  rw [List.append_nil] at whole
  rw [Scan.outside, whole, fields, List.modifyHead_cons, List.append_nil]

/-- A text that passes is the field before the separator. -/
theorem fields_append_separator {text : List Char} (passes : Passes quote separator 0 text)
    (rest : List Char) :
    fields quote separator .outside (text ++ separator :: rest) =
      text :: fields quote separator .outside rest := by
  have whole := passes 0 (Nat.le_refl 0) (separator :: rest)
  rw [Scan.outside, whole, fields, if_pos ⟨rfl, rfl⟩, List.modifyHead_cons, List.append_nil,
    Scan.outside]

/-- Texts that pass and are followed by a separator, or by nothing, are told apart. -/
theorem eq_of_append_eq {first second tail tail' : List Char}
    (passesFirst : Passes quote separator 0 first) (passesSecond : Passes quote separator 0 second)
    (ends : tail = [] ∨ ∃ rest, tail = separator :: rest)
    (ends' : tail' = [] ∨ ∃ rest, tail' = separator :: rest)
    (same : first ++ tail = second ++ tail') : first = second ∧ tail = tail' := by
  have head : ∀ {text tail : List Char}, Passes quote separator 0 text →
      (tail = [] ∨ ∃ rest, tail = separator :: rest) →
      (fields quote separator .outside (text ++ tail)).head? = some text := by
    rintro text _ passes (rfl | ⟨rest, rfl⟩)
    · rw [List.append_nil, fields_of_passes passes]
      rfl
    · rw [fields_append_separator passes]
      rfl
  have heads := head passesFirst ends
  rw [same, head passesSecond ends', Option.some.injEq] at heads
  subst heads
  exact ⟨rfl, List.append_cancel_left same⟩

end ExprTree.Text
