/-
# ExprTree.Proofs.Expr.Readability — printed trees are read one way

`Expr.shape` is what is left of a tree when its offsets and units, and the kinds of its numbers, are
forgotten. The text of a tree depends on nothing else (`printChars_congr`), and it says all of it.

Split where nothing is open, a printed tree falls into words (`fields_printChars`): operands, each
of them one word because what is made of several words stands between parentheses, and operators.
How many words there are and what the first begins with says which kind of node was printed
(`ofWords_words`), even if names are spelled like operators; the operands are then read in the same
way, and the elements of a list are split at its commas.

Main statement: `print_eq_print_iff_shape_eq`.
-/
import ExprTree.Proofs.Expr.Leaves

namespace ExprTree

set_option autoImplicit false

open Text (Passes Scan fields)

/-- A tree without offsets and units. -/
inductive Shape where
  | leaf (leaf : LeafShape)
  | unary (op : UnaryOp) (operand : Shape)
  | binary (lhs : Shape) (op : BinaryOp) (rhs : Shape)
  | conditional (thenCase condition elseCase : Shape)
  | list (elements : List Shape)

namespace Expr

mutual

/-- The kinds, operators and contents of a tree. -/
@[simp] def shape : Expr → Shape
  | .leaf _ atom => .leaf atom.shape
  | .unary op _ operand => .unary op (shape operand)
  | .binary lhs op _ rhs => .binary (shape lhs) op (shape rhs)
  | .conditional thenCase condition elseCase =>
      .conditional (shape thenCase) (shape condition) (shape elseCase)
  | .list _ elements => .list (shapes elements)

def shapes : List Expr → List Shape
  | [] => []
  | tree :: trees => shape tree :: shapes trees

end

def operandChars (options : PrintOptions) (expr : Expr) : List Char :=
  expr.enclose (expr.printChars options)

/-! ## The text of a shape -/

theorem isEnclosed_congr {a b : Expr} (same : a.shape = b.shape) : a.isEnclosed = b.isEnclosed := by
  cases a <;> cases b <;> simp_all [isEnclosed, kind]

theorem operandChars_congr {options : PrintOptions} {a b : Expr} (same : a.shape = b.shape)
    (text : a.printChars options = b.printChars options) :
    a.operandChars options = b.operandChars options := by
  rw [operandChars, operandChars, enclose, enclose, isEnclosed_congr same, text]

theorem printElements_congr {options : PrintOptions} {elements others : List Expr}
    (each : ∀ a ∈ elements, ∀ b : Expr, a.shape = b.shape →
      a.printChars options = b.printChars options)
    (same : shapes elements = shapes others) :
    printElements options elements = printElements options others := by
  induction elements generalizing others with
  | nil =>
      cases others with
      | nil => rfl
      | cons b others => cases same
  | cons a rest ih =>
      cases others with
      | nil => cases same
      | cons b others =>
          obtain ⟨first, later⟩ := List.cons.inj same
          have rows := ih (fun other member => each other (by simp [member])) later
          have ends : rest.isEmpty = others.isEmpty := by
            cases rest <;> cases others <;> first | rfl | cases later
          rw [printElements, printElements, each a (by simp) b first, ends, rows]

theorem printChars_congr {options : PrintOptions} {a b : Expr} (same : a.shape = b.shape) :
    a.printChars options = b.printChars options := by
  induction a using Expr.induct generalizing b with
  | leaf place atom =>
      cases b with
      | leaf place' atom' => exact Atom.print_eq_print_iff.2 (Shape.leaf.inj same)
      | _ => cases same
  | unary op opOffset operand ih =>
      cases b with
      | unary op' opOffset' operand' =>
          obtain ⟨rfl, part⟩ := Shape.unary.inj same
          have text := operandChars_congr part (ih part)
          simp only [printChars]
          exact congrArg (unarySymbol op ++ ·) text
      | _ => cases same
  | binary lhs op opOffset rhs ihl ihr =>
      cases b with
      | binary lhs' op' opOffset' rhs' =>
          obtain ⟨left, rfl, right⟩ := Shape.binary.inj same
          have textL := operandChars_congr left (ihl left)
          have textR := operandChars_congr right (ihr right)
          simp only [operandChars] at textL textR
          rw [printChars, printChars, textL, textR]
      | _ => cases same
  | conditional thenCase condition elseCase iht ihc ihe =>
      cases b with
      | conditional thenCase' condition' elseCase' =>
          obtain ⟨first, second, third⟩ := Shape.conditional.inj same
          have textT := operandChars_congr first (iht first)
          have textC := operandChars_congr second (ihc second)
          have textE := operandChars_congr third (ihe third)
          simp only [operandChars] at textT textC textE
          rw [printChars, printChars, textT, textC, textE]
      | _ => cases same
  | list place elements ih =>
      cases b with
      | list place' elements' =>
          have rows := printElements_congr (fun a member b => ih a member)
            (Shape.list.inj same)
          rw [printChars, printChars, rows]
      | _ => cases same

/-! ## Where printed trees are split -/

section Passes

variable {options : PrintOptions} {separator : Char}

theorem isPlain_unarySymbol (op : UnaryOp) : Text.isPlain (unarySymbol op) = true := by
  cases op <;> decide

theorem isPlain_symbol (op : BinaryOp) : Text.isPlain op.symbol.toList = true := by
  cases op <;> decide

/-- Spaces and operators are split at spaces only, and only where nothing is open. -/
theorem passes_operator (separates : separator ∈ [' ', ',']) {level : Nat}
    (inside : separator ≠ ' ' ∨ 0 < level) {text : List Char}
    (plain : Text.isPlain text = true) : Passes options.quote.char separator level text :=
  passes_of_isPlain options.quote.isQuote_char separates plain fun _ => inside

/-- Brackets of either sort hide what stands between them. -/
theorem passes_enclosed (separates : separator ∈ [' ', ',']) {level : Nat} {text : List Char}
    (passes : Passes options.quote.char separator (level + 1) text) :
    Passes options.quote.char separator level ('(' :: (text ++ [')'])) ∧
      Passes options.quote.char separator level ('[' :: (text ++ [']'])) := by
  have isQuote := options.quote.isQuote_char
  generalize options.quote.char = quote at isQuote passes ⊢
  constructor
  · refine .enclose ?_ ?_ ?_ passes
    · rcases isQuote with rfl | rfl <;> exact fun _ => rfl
    · rcases isQuote with rfl | rfl <;> exact fun _ => rfl
    · rintro rfl
      exact absurd separates (by decide)
  · refine .enclose ?_ ?_ ?_ passes
    · rcases isQuote with rfl | rfl <;> exact fun _ => rfl
    · rcases isQuote with rfl | rfl <;> exact fun _ => rfl
    · rintro rfl
      exact absurd separates (by decide)

/-- The elements of a list, with something open around them, are not split. -/
theorem passes_printElements {level : Nat} (inside : 0 < level) {elements : List Expr}
    (each : ∀ element ∈ elements, Passes options.quote.char separator level
      (element.printChars options)) :
    Passes options.quote.char separator level (printElements options elements) := by
  induction elements with
  | nil => exact .nil level
  | cons element rest ih =>
      obtain ⟨first, later⟩ := List.forall_mem_cons.1 each
      rw [printElements]
      refine first.append ?_
      split
      · exact .nil level
      · have isQuote := options.quote.isQuote_char
        have comma : ',' ≠ options.quote.char := isQuote.ne (by decide)
        have space : ' ' ≠ options.quote.char := isQuote.ne (by decide)
        exact .cons comma (by decide) (.inr inside)
          (.cons space (by decide) (.inr inside) (ih later))

/-- A printed tree is split at its spaces only; an operand is not split at all. -/
theorem passes_printChars (separates : separator ∈ [' ', ',']) (expr : Expr) :
    (∀ level, separator ≠ ' ' ∨ 0 < level →
      Passes options.quote.char separator level (expr.printChars options)) ∧
    ∀ level, Passes options.quote.char separator level (expr.operandChars options) := by
  -- for an operator expression or a conditional, the second follows from the first
  have enclosed : ∀ {expr : Expr}, expr.isEnclosed = true →
      (∀ level, separator ≠ ' ' ∨ 0 < level →
        Passes options.quote.char separator level (expr.printChars options)) →
      ∀ level, Passes options.quote.char separator level (expr.operandChars options) := by
    intro expr isEnclosed passes level
    rw [operandChars, enclose, if_pos isEnclosed]
    exact (passes_enclosed separates (passes (level + 1) (.inr (Nat.succ_pos level)))).1
  induction expr using Expr.induct with
  | leaf place atom =>
      have passes level := Atom.passes_print options separates level atom
      exact ⟨fun level _ => passes level, passes⟩
  | unary op opOffset operand ih =>
      have passes : ∀ level, separator ≠ ' ' ∨ 0 < level → Passes options.quote.char separator level
          ((unary op opOffset operand).printChars options) := by
        intro level inside
        rw [printChars]
        exact (passes_operator separates inside (isPlain_unarySymbol op)).append
          (ih.2 level)
      exact ⟨passes, enclosed rfl passes⟩
  | binary lhs op opOffset rhs ihl ihr =>
      have passes : ∀ level, separator ≠ ' ' ∨ 0 < level → Passes options.quote.char separator level
          ((binary lhs op opOffset rhs).printChars options) := by
        intro level inside
        have space : Passes options.quote.char separator level [' '] :=
          passes_operator separates inside (by decide)
        have symbol : Passes options.quote.char separator level op.symbol.toList :=
          passes_operator separates inside (isPlain_symbol op)
        rw [printChars]
        exact (ihl.2 level).append (space.append (symbol.append (space.append (ihr.2 level))))
      exact ⟨passes, enclosed rfl passes⟩
  | conditional thenCase condition elseCase iht ihc ihe =>
      have passes : ∀ level, separator ≠ ' ' ∨ 0 < level → Passes options.quote.char separator level
          ((conditional thenCase condition elseCase).printChars options) := by
        intro level inside
        have ifWord : Passes options.quote.char separator level " if ".toList :=
          passes_operator separates inside (by decide)
        have elseWord : Passes options.quote.char separator level " else ".toList :=
          passes_operator separates inside (by decide)
        rw [printChars]
        exact ((((iht.2 level).append ifWord).append (ihc.2 level)).append elseWord).append
          (ihe.2 level)
      exact ⟨passes, enclosed rfl passes⟩
  | list place elements ih =>
      have passes : ∀ level, Passes options.quote.char separator level
          ((list place elements).printChars options) := by
        intro level
        rw [printChars]
        exact (passes_enclosed separates (passes_printElements (Nat.succ_pos level)
          fun element member => (ih element member).1 _ (.inr (Nat.succ_pos level)))).2
      exact ⟨fun level _ => passes level, passes⟩

end Passes

/-! ## The words of a tree -/

end Expr

def BinaryOp.words (op : BinaryOp) : List (List Char) :=
  if op = .notIn then ["not".toList, "in".toList] else [op.symbol.toList]

theorem BinaryOp.intercalate_words (op : BinaryOp) :
    [' '].intercalate op.words = op.symbol.toList := by
  cases op <;> rfl

theorem BinaryOp.eq_of_words_eq {op op' : BinaryOp} (same : op.words = op'.words) : op = op' := by
  have symbols : op.symbol.toList = op'.symbol.toList := by
    rw [← op.intercalate_words, same, op'.intercalate_words]
  have found := ofSymbol?_symbol op
  rw [String.toList_inj.1 symbols, ofSymbol?_symbol, Option.some.injEq] at found
  exact found.symm

namespace Expr

/-- The words that a printed tree consists of. -/
def words (options : PrintOptions) : Expr → List (List Char)
  | .leaf _ atom => [atom.print options]
  | .unary op _ operand =>
      if op = .not then [op.symbol.toList, operand.operandChars options]
      else [op.symbol.toList ++ operand.operandChars options]
  | .binary lhs op _ rhs =>
      lhs.operandChars options :: (op.words ++ [rhs.operandChars options])
  | .conditional thenCase condition elseCase =>
      [thenCase.operandChars options, "if".toList, condition.operandChars options, "else".toList,
        elseCase.operandChars options]
  | .list _ elements => ['[' :: (printElements options elements ++ [']'])]

theorem passes_word {options : PrintOptions} {text : List Char}
    (word : Text.isWord text = true) : Passes options.quote.char ' ' 0 text :=
  passes_of_isWord options.quote.isQuote_char (by decide) word

theorem passes_operandChars (options : PrintOptions) (expr : Expr) :
    Passes options.quote.char ' ' 0 (expr.operandChars options) :=
  (passes_printChars (by decide) expr).2 0

theorem fields_symbol (options : PrintOptions) (op : BinaryOp) (rest : List Char) :
    fields options.quote.char ' ' .outside (op.symbol.toList ++ ' ' :: rest) =
      op.words ++ fields options.quote.char ' ' .outside rest := by
  by_cases twoWords : op = .notIn
  · subst twoWords
    show fields _ _ _ ("not".toList ++ ' ' :: ("in".toList ++ ' ' :: rest)) = _
    rw [Text.fields_append_separator (passes_word (by decide)),
      Text.fields_append_separator (passes_word (by decide))]
    rfl
  · have word : Text.isWord op.symbol.toList = true := by
      cases op <;> first | decide | exact absurd rfl twoWords
    rw [Text.fields_append_separator (passes_word word), BinaryOp.words, if_neg twoWords]
    rfl

/-- Split at spaces where nothing is open, a printed tree falls into its words. -/
theorem fields_printChars (options : PrintOptions) (expr : Expr) :
    fields options.quote.char ' ' .outside (expr.printChars options) = expr.words options := by
  have operand := passes_operandChars options
  cases expr with
  | leaf place atom => exact Text.fields_of_passes (operand (.leaf place atom))
  | unary op opOffset part =>
      cases op with
      | not =>
          show fields _ _ _ ("not".toList ++ ' ' :: part.operandChars options) = _
          rw [Text.fields_append_separator (passes_word (by decide)),
            Text.fields_of_passes (operand part)]
          rfl
      | minus => exact Text.fields_of_passes ((passes_word (by decide)).append (operand part))
      | plus => exact Text.fields_of_passes ((passes_word (by decide)).append (operand part))
      | tilde => exact Text.fields_of_passes ((passes_word (by decide)).append (operand part))
  | binary lhs op opOffset rhs =>
      show fields _ _ _ (lhs.operandChars options ++
        ' ' :: (op.symbol.toList ++ ' ' :: rhs.operandChars options)) = _
      rw [Text.fields_append_separator (operand lhs), fields_symbol,
        Text.fields_of_passes (operand rhs), words]
  | conditional thenCase condition elseCase =>
      have whole : (conditional thenCase condition elseCase).printChars options =
          thenCase.operandChars options ++ ' ' :: ("if".toList ++
            ' ' :: (condition.operandChars options ++ ' ' :: ("else".toList ++
              ' ' :: elseCase.operandChars options))) := by
        simp [printChars, operandChars]
      rw [whole, Text.fields_append_separator (operand thenCase),
        Text.fields_append_separator (passes_word (by decide)),
        Text.fields_append_separator (operand condition),
        Text.fields_append_separator (passes_word (by decide)),
        Text.fields_of_passes (operand elseCase), words]
  | list place elements => exact Text.fields_of_passes (operand (.list place elements))

/-! ## What the words say -/

inductive Form where
  | leaf
  | unary
  | binary
  | conditional
  | list
  deriving DecidableEq

def form : Expr → Form
  | .leaf _ _ => .leaf
  | .unary _ _ _ => .unary
  | .binary _ _ _ _ => .binary
  | .conditional _ _ _ => .conditional
  | .list _ _ => .list

/-- The form that a row of words spells: one word is a leaf, a list, or an operand with a sign in
front of it. -/
def Form.ofWords : List (List Char) → Form
  | [word] =>
      if word.head? = some '[' then .list
      else if word.head?.any ['-', '+', '~'].contains then .unary
      else .leaf
  | [_, _] => .unary
  | [_, _, _] => .binary
  | [_, _, _, _] => .binary
  | _ => .conditional

/-- The words of a tree spell its form. -/
theorem ofWords_words (options : PrintOptions) (expr : Expr) :
    Form.ofWords (expr.words options) = expr.form := by
  cases expr with
  | leaf place atom =>
      obtain ⟨c, head, notSign⟩ := atom.head?_print options
      simp only [List.mem_cons, List.not_mem_nil, or_false, not_or] at notSign
      simp [words, Form.ofWords, head, notSign, form]
  | unary op opOffset operand =>
      cases op with
      | not => rfl
      | minus => rfl
      | plus => rfl
      | tilde => rfl
  | binary lhs op opOffset rhs => cases op <;> rfl
  | conditional thenCase condition elseCase => rfl
  | list place elements => rfl

theorem head?_printChars_of_not_isEnclosed {options : PrintOptions} {expr : Expr}
    (bare : ¬ expr.isEnclosed = true) : (expr.printChars options).head? ≠ some '(' := by
  cases expr with
  | leaf place atom =>
      obtain ⟨c, head, notOpening⟩ := atom.head?_print options
      rw [printChars, head]
      rintro ⟨⟩
      exact notOpening (by decide)
  | list place elements =>
      rw [printChars]
      exact fun same => absurd (Option.some.inj same) (by decide)
  | unary op opOffset operand => exact absurd rfl bare
  | binary lhs op opOffset rhs => exact absurd rfl bare
  | conditional thenCase condition elseCase => exact absurd rfl bare

theorem printChars_ne_nil (options : PrintOptions) (expr : Expr) :
    expr.printChars options ≠ [] := by
  intro empty
  have form := ofWords_words options expr
  have none := fields_printChars options expr
  rw [empty] at none
  rw [← none] at form
  cases expr with
  | leaf place atom =>
      obtain ⟨c, head, -⟩ := atom.head?_print options
      rw [printChars] at empty
      simp [empty] at head
  | _ => cases form

/-- What an operand is read as decides how it is read between parentheses. -/
theorem shape_eq_of_operandChars_eq {options : PrintOptions} {a b : Expr}
    (reads : ∀ {b : Expr}, a.printChars options = b.printChars options → a.shape = b.shape)
    (same : a.operandChars options = b.operandChars options) : a.shape = b.shape := by
  unfold operandChars enclose at same
  split at same
  · split at same
    · exact reads (List.append_cancel_right (List.cons.inj same).2)
    next bare =>
      have head := congrArg List.head? same
      exact absurd head.symm (head?_printChars_of_not_isEnclosed bare)
  next bare =>
    split at same
    · have head := congrArg List.head? same
      exact absurd head (head?_printChars_of_not_isEnclosed bare)
    · exact reads same

/-- Lists with the same text have the same elements. -/
theorem shapes_eq_of_printElements_eq {options : PrintOptions} {elements others : List Expr}
    (reads : ∀ a ∈ elements, ∀ {b : Expr}, a.printChars options = b.printChars options →
      a.shape = b.shape)
    (same : printElements options elements = printElements options others) :
    shapes elements = shapes others := by
  induction elements generalizing others with
  | nil =>
      cases others with
      | nil => rfl
      | cons b others =>
          rw [printElements, printElements] at same
          exact absurd (List.append_eq_nil_iff.1 same.symm).1 (printChars_ne_nil options b)
  | cons a rest ih =>
      cases others with
      | nil =>
          rw [printElements, printElements] at same
          exact absurd (List.append_eq_nil_iff.1 same).1 (printChars_ne_nil options a)
      | cons b others =>
          have passes (expr : Expr) : Passes options.quote.char ',' 0 (expr.printChars options) :=
            (passes_printChars (by decide) expr).1 0 (.inl (by decide))
          have ends (row : List Expr) :
              (if row.isEmpty then [] else ',' :: ' ' :: printElements options row) = [] ∨
                ∃ tail, (if row.isEmpty then [] else ',' :: ' ' :: printElements options row) =
                  ',' :: tail := by
            split
            · exact .inl rfl
            · exact .inr ⟨_, rfl⟩
          rw [printElements, printElements] at same
          obtain ⟨first, later⟩ :=
            Text.eq_of_append_eq (passes a) (passes b) (ends rest) (ends others) same
          have rows : printElements options rest = printElements options others := by
            cases rest with
            | nil =>
                cases others with
                | nil => rfl
                | cons _ _ => cases later
            | cons _ _ =>
                cases others with
                | nil => cases later
                | cons _ _ => exact (List.cons.inj (List.cons.inj later).2).2
          rw [shapes, shapes, reads a (by simp) first,
            ih (fun other member => reads other (by simp [member])) rows]

theorem words_congr {options : PrintOptions} {a b : Expr}
    (same : a.printChars options = b.printChars options) : a.words options = b.words options := by
  rw [← fields_printChars, same, fields_printChars]

theorem form_congr {options : PrintOptions} {a b : Expr}
    (same : a.printChars options = b.printChars options) : a.form = b.form := by
  rw [← ofWords_words options a, words_congr same, ofWords_words]

/-- Operator expressions with the same words have the same operator and the same operand. -/
theorem unary_of_words_eq {options : PrintOptions} {op op' : UnaryOp} {opOffset opOffset' : Offset}
    {operand operand' : Expr}
    (same : (unary op opOffset operand).words options =
      (unary op' opOffset' operand').words options) :
    op = op' ∧ operand.operandChars options = operand'.operandChars options := by
  cases op <;> cases op' <;> simp_all [words, UnaryOp.symbol]

theorem binary_of_words_eq {options : PrintOptions} {lhs lhs' rhs rhs' : Expr} {op op' : BinaryOp}
    {opOffset opOffset' : Offset}
    (same : (binary lhs op opOffset rhs).words options =
      (binary lhs' op' opOffset' rhs').words options) :
    lhs.operandChars options = lhs'.operandChars options ∧ op = op' ∧
      rhs.operandChars options = rhs'.operandChars options := by
  obtain ⟨left, later⟩ := List.cons.inj same
  obtain ⟨symbols, right⟩ := List.append_inj' later rfl
  exact ⟨left, BinaryOp.eq_of_words_eq symbols, (List.cons.inj right).1⟩

/-- A printed tree is read one way only. -/
theorem shape_eq_of_printChars_eq {options : PrintOptions} {a b : Expr}
    (same : a.printChars options = b.printChars options) : a.shape = b.shape := by
  induction a using Expr.induct generalizing b with
  | leaf place atom =>
      cases b with
      | leaf place' atom' => rw [shape, shape, Atom.print_eq_print_iff.1 same]
      | _ => cases form_congr same
  | unary op opOffset operand ih =>
      cases b with
      | unary op' opOffset' operand' =>
          obtain ⟨rfl, text⟩ := unary_of_words_eq (words_congr same)
          rw [shape, shape, shape_eq_of_operandChars_eq ih text]
      | _ => cases form_congr same
  | binary lhs op opOffset rhs ihl ihr =>
      cases b with
      | binary lhs' op' opOffset' rhs' =>
          obtain ⟨textL, rfl, textR⟩ := binary_of_words_eq (words_congr same)
          rw [shape, shape, shape_eq_of_operandChars_eq ihl textL,
            shape_eq_of_operandChars_eq ihr textR]
      | _ => cases form_congr same
  | conditional thenCase condition elseCase iht ihc ihe =>
      cases b with
      | conditional thenCase' condition' elseCase' =>
          have split := words_congr same
          simp only [words, List.cons.injEq, true_and, and_true] at split
          obtain ⟨textT, textC, textE⟩ := split
          rw [shape, shape, shape_eq_of_operandChars_eq iht textT,
            shape_eq_of_operandChars_eq ihc textC, shape_eq_of_operandChars_eq ihe textE]
      | _ => cases form_congr same
  | list place elements ih =>
      cases b with
      | list place' elements' =>
          have inner := List.append_cancel_right (List.cons.inj same).2
          rw [shape, shape, shapes_eq_of_printElements_eq ih inner]
      | _ => cases form_congr same

/-- **Printed source is unambiguous.** Whatever the options, two trees are written alike exactly if
they have one shape. -/
theorem print_eq_print_iff_shape_eq (options : PrintOptions) (a b : Expr) :
    a.print options = b.print options ↔ a.shape = b.shape := by
  rw [print, print, String.ofList_inj]
  exact ⟨shape_eq_of_printChars_eq, printChars_congr⟩

end Expr

end ExprTree
