/-
# ExprTree.Proofs.Expr.CleanText — printed trees are clean lines

A printed tree consists of operators, brackets and leaves. What stands around leaves is printable
ASCII, and so are numerals. Names have no control characters, and quoted literals spell theirs by
escapes (`mem_quotedChar`), as they do with all that ASCII does not have when ASCII alone is wanted.
So only names bring in characters beyond ASCII then, and they do so in the order in which the tree
is walked.

`Clean` says this of one text and the names in it; texts that follow one another keep it
(`Clean.append`), and the main statement, `print_clean`, follows by induction on trees.
-/
import ExprTree.Proofs.Expr.Leaves
import ExprTree.Proofs.Expr.Order

namespace ExprTree

set_option autoImplicit false

/-! ## Characters -/

namespace Text

/-- An ASCII character with a visible form, or a space. -/
def isPrintable (c : Char) : Bool :=
  0x20 ≤ c.toNat && c.toNat < 0x7f

def isBeyondAscii (c : Char) : Bool :=
  0x80 ≤ c.toNat

def controls : List Char :=
  (0x7f :: List.range 0x20).map Char.ofNat

theorem mem_controls {c : Char} (control : isAsciiControl c = true) : c ∈ controls := by
  refine List.mem_map.2 ⟨c.toNat, ?_, Char.ofNat_toNat c⟩
  rw [isAsciiControl, Bool.or_eq_true, decide_eq_true_eq, beq_iff_eq] at control
  rw [List.mem_cons, List.mem_range]
  exact control.symm

theorem isAsciiControl_eq_false_iff {c : Char} :
    isAsciiControl c = false ↔ isPrintable c = true ∨ isBeyondAscii c = true := by
  simp only [isAsciiControl, isPrintable, isBeyondAscii, Bool.or_eq_false_iff, Bool.and_eq_true,
    decide_eq_true_eq, decide_eq_false_iff_not, beq_eq_false_iff_ne]
  omega

theorem isBeyondAscii_of_isPrintable {c : Char} (printable : isPrintable c = true) :
    isBeyondAscii c = false := by
  rw [isPrintable, Bool.and_eq_true, decide_eq_true_eq, decide_eq_true_eq] at printable
  exact decide_eq_false (by omega)

theorem isPrintable_of_isDigitIn {radix : Nat} {c : Char} (digit : isDigitIn radix c = true) :
    isPrintable c = true := by
  have between {first last : Char} (bounds : first ≤ c ∧ c ≤ last)
      (printable : 0x20 ≤ first.toNat ∧ last.toNat < 0x7f) : isPrintable c = true := by
    have low : first.toNat ≤ c.toNat := bounds.1
    have high : c.toNat ≤ last.toNat := bounds.2
    rw [isPrintable, Bool.and_eq_true, decide_eq_true_eq, decide_eq_true_eq]
    omega
  unfold isDigitIn digitValue? at digit
  split at digit
  next value found =>
    split at found
    next decimal => exact between decimal (by decide)
    split at found
    next lower => exact between lower (by decide)
    split at found
    next upper => exact between upper (by decide)
    cases found
  next => cases digit

theorem isPrintable_of_isNumeralChar {c : Char} (numeral : isNumeralChar c = true) :
    isPrintable c = true := by
  rw [isNumeralChar, Bool.or_eq_true] at numeral
  rcases numeral with digit | mark
  · exact isPrintable_of_isDigitIn digit
  · have all : ['x', 'X', 'o', 'O', '.', '+', '-'].all isPrintable = true := by decide
    exact List.all_eq_true.1 all c (List.contains_iff_mem.1 mark)

end Text

open Text (isPrintable isBeyondAscii)

theorem Identifier.isAsciiControl_eq_false (identifier : Identifier) :
    ∀ c ∈ identifier.name.toList, isAsciiControl c = false := by
  intro c member
  rw [← Bool.not_eq_true]
  intro control
  exact identifier.notMem_of_others (by decide) c member (Text.mem_controls control)

/-- What a character is spelled with is printable ASCII, unless it stands for itself. -/
theorem mem_quotedChar {quote c c' : Char} {asciiOnly : Bool} (isQuote : IsQuote quote)
    (member : c' ∈ quotedChar quote asciiOnly c) :
    isPrintable c' = true ∨ asciiOnly = false ∧ isBeyondAscii c' = true := by
  have escape {mark : Char} (known : isPrintable mark = true) (among : c' ∈ ['\\', mark]) :
      isPrintable c' = true := by
    simp only [List.mem_cons, List.not_mem_nil, or_false] at among
    rcases among with rfl | rfl
    · decide
    · exact known
  have hex {letter : Char} {width : Nat} (known : isPrintable letter = true)
      (among : c' ∈ '\\' :: letter :: Text.fixedHex width c.toNat) : isPrintable c' = true := by
    simp only [List.mem_cons] at among
    rcases among with rfl | rfl | digit
    · decide
    · exact known
    · exact Text.isPrintable_of_isDigitIn (Text.isDigitIn_of_mem_fixedHex digit)
  unfold quotedChar at member
  split at member
  · exact .inl (escape (by decide) member)
  split at member
  · exact .inl (escape (by decide) member)
  split at member
  · exact .inl (escape (by decide) member)
  split at member
  · exact .inl (escape (by decide) member)
  split at member
  next delimiter =>
    subst delimiter
    rcases isQuote with rfl | rfl
    · exact .inl (escape (by decide) member)
    · exact .inl (escape (by decide) member)
  split at member
  · exact .inl (hex (by decide) member)
  next visible =>
  split at member
  · split at member
    · exact .inl (hex (by decide) member)
    · exact .inl (hex (by decide) member)
  next itself =>
    obtain rfl : c' = c := by simpa using member
    rcases Text.isAsciiControl_eq_false_iff.1 (by simpa using visible) with printable | beyond
    · exact .inl printable
    · refine .inr ⟨?_, beyond⟩
      rw [← Bool.not_eq_true]
      exact fun only => itself ⟨only, of_decide_eq_true beyond⟩

/-! ## Texts and the names in them -/

/-- The text has no control characters, and if only ASCII is wanted, its characters beyond are those
of the names. -/
structure Clean (asciiOnly : Bool) (names : List Identifier) (text : List Char) : Prop where
  visible : ∀ c ∈ text, isAsciiControl c = false
  beyond : asciiOnly = true → text.filter isBeyondAscii =
    (names.flatMap fun name => name.name.toList).filter isBeyondAscii

namespace Clean

variable {asciiOnly : Bool} {names names' : List Identifier} {text text' : List Char}

theorem append (clean : Clean asciiOnly names text) (clean' : Clean asciiOnly names' text') :
    Clean asciiOnly (names ++ names') (text ++ text') where
  visible := List.forall_mem_append.2 ⟨clean.visible, clean'.visible⟩
  beyond := by
    intro only
    rw [List.filter_append, List.flatMap_append, List.filter_append, clean.beyond only,
      clean'.beyond only]

theorem of_forall
    (each : ∀ c ∈ text, isPrintable c = true ∨ asciiOnly = false ∧ isBeyondAscii c = true) :
    Clean asciiOnly [] text where
  visible := fun c member =>
    Text.isAsciiControl_eq_false_iff.2 ((each c member).imp_right And.right)
  beyond := by
    rintro rfl
    refine List.filter_eq_nil_iff.2 fun c member => ?_
    rcases each c member with printable | ⟨other, -⟩
    · simp [Text.isBeyondAscii_of_isPrintable printable]
    · cases other

theorem of_name (identifier : Identifier) :
    Clean asciiOnly [identifier] identifier.name.toList where
  visible := identifier.isAsciiControl_eq_false
  beyond := fun _ => by rw [List.flatMap_singleton]

theorem of_printable (printable : text.all isPrintable = true) : Clean asciiOnly [] text :=
  of_forall fun c member => .inl (List.all_eq_true.1 printable c member)

/-- Printable characters on both sides change nothing. -/
theorem between (clean : Clean asciiOnly names text) (before after : List Char)
    (printable : before.all isPrintable = true) (printable' : after.all isPrintable = true) :
    Clean asciiOnly names (before ++ (text ++ after)) := by
  simpa using (of_printable printable).append (clean.append (of_printable printable'))

/-- Quoted literals bring in no names. -/
theorem of_quotedChars {quote : Char} (isQuote : IsQuote quote) (text : List Char) (bytes : Bool) :
    Clean asciiOnly [] (quotedChars text bytes quote asciiOnly) := by
  have body : Clean asciiOnly [] (text.flatMap (quotedChar quote asciiOnly)) := by
    refine .of_forall fun c member => ?_
    obtain ⟨_, -, spelling⟩ := List.mem_flatMap.1 member
    exact mem_quotedChar isQuote spelling
  have delimiter : [quote].all isPrintable = true := by rcases isQuote with rfl | rfl <;> decide
  have mark : (if bytes then ['b'] else []).all isPrintable = true := by cases bytes <;> decide
  simpa [quotedChars] using (body.between _ _ delimiter delimiter).between _ [] mark rfl

/-- The text is printable ASCII if the names are ASCII. -/
theorem printable_of_ascii (clean : Clean true names text)
    (ascii : ∀ name ∈ names, ∀ c ∈ name.name.toList, c.toNat < 0x80) :
    ∀ c ∈ text, isPrintable c = true := by
  intro c member
  refine (Text.isAsciiControl_eq_false_iff.1 (clean.visible c member)).resolve_right fun other => ?_
  have among : c ∈ (names.flatMap fun name => name.name.toList).filter isBeyondAscii := by
    rw [← clean.beyond rfl]
    exact List.mem_filter.2 ⟨member, other⟩
  obtain ⟨inNames, -⟩ := List.mem_filter.1 among
  obtain ⟨name, known, inName⟩ := List.mem_flatMap.1 inNames
  exact absurd (of_decide_eq_true other) (Nat.not_le.2 (ascii name known c inName))

end Clean

/-! ## Trees -/

namespace Expr

def identifier? : Expr → Option Identifier
  | .leaf _ (.identifier name) => some name
  | _ => none

/-- The names in a tree, in the order in which it is walked. -/
def identifiers (expr : Expr) : List Identifier :=
  expr.preorder.filterMap identifier?

@[simp] theorem identifiers_unary (op : UnaryOp) (opOffset : Offset) (operand : Expr) :
    (unary op opOffset operand).identifiers = operand.identifiers := by
  simp [identifiers, List.filterMap_cons, identifier?]

@[simp] theorem identifiers_binary (lhs rhs : Expr) (op : BinaryOp) (opOffset : Offset) :
    (binary lhs op opOffset rhs).identifiers = lhs.identifiers ++ rhs.identifiers := by
  simp [identifiers, List.filterMap_cons, identifier?]

@[simp] theorem identifiers_conditional (thenCase condition elseCase : Expr) :
    (conditional thenCase condition elseCase).identifiers =
      thenCase.identifiers ++ condition.identifiers ++ elseCase.identifiers := by
  simp [identifiers, List.filterMap_cons, identifier?]

@[simp] theorem identifiers_list (place : Place) (elements : List Expr) :
    (list place elements).identifiers = elements.flatMap identifiers := by
  simp [identifiers, List.filterMap_cons, identifier?, List.filterMap_flatMap]
  rfl

variable (options : PrintOptions)

theorem clean_leaf (place : Place) (atom : Atom) :
    Clean options.asciiOnly (leaf place atom).identifiers (atom.print options) := by
  have isQuote := options.quote.isQuote_char
  cases atom with
  | identifier name => exact .of_name name
  | int literal =>
      exact .of_printable (List.all_eq_true.2 fun c member =>
        Text.isPrintable_of_isNumeralChar (literal.spelling_spec.1 c member))
  | float literal =>
      exact .of_printable (List.all_eq_true.2 fun c member =>
        Text.isPrintable_of_isNumeralChar (literal.spelling_spec.1 c member))
  | string text => exact .of_quotedChars isQuote text.toList false
  | bytes text => exact .of_quotedChars isQuote text.toList true

theorem clean_enclose {names : List Identifier} (expr : Expr) {text : List Char}
    (clean : Clean options.asciiOnly names text) :
    Clean options.asciiOnly names (expr.enclose text) := by
  rw [enclose]
  split
  · exact clean.between ['('] [')'] (by decide) (by decide)
  · exact clean

/-- The elements of a list are clean together. -/
theorem clean_printElements {elements : List Expr}
    (each : ∀ element ∈ elements,
      Clean options.asciiOnly element.identifiers (element.printChars options)) :
    Clean options.asciiOnly (elements.flatMap identifiers) (printElements options elements) := by
  induction elements with
  | nil => exact .of_printable rfl
  | cons element rest ih =>
      obtain ⟨first, later⟩ := List.forall_mem_cons.1 each
      rw [printElements, List.flatMap_cons]
      refine first.append ?_
      split
      next last =>
        rw [List.isEmpty_iff.1 last]
        exact .of_printable rfl
      next =>
        simpa using (ih later).between [',', ' '] [] (by decide) rfl

/-- A printed tree is clean. -/
theorem clean_printChars (expr : Expr) :
    Clean options.asciiOnly expr.identifiers (expr.printChars options) := by
  induction expr using Expr.induct with
  | leaf place atom =>
      rw [printChars]
      exact clean_leaf options place atom
  | unary op opOffset operand ih =>
      have symbol : (unarySymbol op).all isPrintable = true := by cases op <;> decide
      rw [printChars, identifiers_unary]
      simpa using (clean_enclose options operand ih).between _ [] symbol rfl
  | binary lhs op opOffset rhs ihl ihr =>
      have symbol : (' ' :: (op.symbol.toList ++ [' '])).all isPrintable = true := by
        cases op <;> decide
      rw [printChars, identifiers_binary]
      simpa using (clean_enclose options lhs ihl).append
        ((clean_enclose options rhs ihr).between _ [] symbol rfl)
  | conditional thenCase condition elseCase iht ihc ihe =>
      have ifWord : " if ".toList.all isPrintable = true := by decide
      have elseWord : " else ".toList.all isPrintable = true := by decide
      rw [printChars, identifiers_conditional]
      simpa only [List.append_assoc] using ((clean_enclose options thenCase iht).append
        ((clean_enclose options condition ihc).between _ _ ifWord elseWord)).append
          (clean_enclose options elseCase ihe)
  | list place elements ih =>
      rw [printChars, identifiers_list]
      exact (clean_printElements options ih).between ['['] [']'] (by decide) (by decide)

/-- **A printed tree is one clean line.** It has no control characters of ASCII. If ASCII alone is
wanted, its characters beyond ASCII are those of the names in the tree, one name after the other in
the order in which the tree is walked; if names have none either, the line is printable ASCII. -/
theorem print_clean (options : PrintOptions) (expr : Expr) :
    (∀ c ∈ (expr.print options).toList, 0x20 ≤ c.toNat ∧ c.toNat ≠ 0x7f) ∧
    (options.asciiOnly = true →
      (expr.print options).toList.filter (fun c => 0x80 ≤ c.toNat) =
        (expr.identifiers.flatMap fun identifier => identifier.name.toList).filter
          fun c => 0x80 ≤ c.toNat) ∧
    (options.asciiOnly = true →
      (∀ identifier ∈ expr.identifiers, ∀ c ∈ identifier.name.toList, c.toNat < 0x80) →
        ∀ c ∈ (expr.print options).toList, 0x20 ≤ c.toNat ∧ c.toNat < 0x7f) := by
  have clean := clean_printChars options expr
  rw [print, String.toList_ofList]
  refine ⟨fun c member => ?_, clean.beyond, fun only ascii c member => ?_⟩
  · have other := clean.visible c member
    rw [isAsciiControl, Bool.or_eq_false_iff, decide_eq_false_iff_not, beq_eq_false_iff_ne] at other
    exact ⟨Nat.not_lt.1 other.1, other.2⟩
  · rw [only] at clean
    have printable := clean.printable_of_ascii ascii c member
    rwa [isPrintable, Bool.and_eq_true, decide_eq_true_eq, decide_eq_true_eq] at printable

namespace Example

def equation : Source :=
  ⟨0, "equation", "x == \"ß\"", by decide⟩

/-- The comparison of the text, with any name in the place of the first one. -/
def comparison (name : Identifier) : Expr :=
  .binary (.leaf ⟨equation, ⟨0, 1, by decide⟩⟩ (.identifier name)) .equal 2
    (.leaf ⟨equation, ⟨5, 9, by decide⟩⟩ (.string "ß"))

end Example

/-- A comparison in ASCII, of a name that has other characters and of one that has none. -/
theorem print_clean_comparison :
    ((Example.comparison ⟨"größe", by decide⟩).print ⟨.double, true⟩).toList.filter
      (fun c => 0x80 ≤ c.toNat) = ['ö', 'ß'] ∧
    ∀ c ∈ ((Example.comparison ⟨"x", by decide⟩).print ⟨.double, true⟩).toList,
      0x20 ≤ c.toNat ∧ c.toNat < 0x7f := by
  constructor
  · rw [(print_clean ⟨.double, true⟩ (Example.comparison ⟨"größe", by decide⟩)).2.1 rfl]
    decide
  · have ascii : "x".toList.all (fun c => c.toNat < 0x80) = true := by decide
    refine (print_clean ⟨.double, true⟩ (Example.comparison ⟨"x", by decide⟩)).2.2 rfl ?_
    refine List.forall_mem_singleton.2 fun c member => ?_
    exact of_decide_eq_true (List.all_eq_true.1 ascii c member)

end Expr

end ExprTree
