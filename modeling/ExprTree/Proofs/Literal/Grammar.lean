/-
# ExprTree.Proofs.Literal.Grammar — literals as they are read from left to right

Reading takes the delimiters off both ends of a spelling, counts the backslashes at the end of the
body, goes by pieces of one to ten characters and counts the quotes that stand in a row. Whoever
reads from left to right needs one rule: a backslash takes the character after it along.
`readingPoints` lists where such a reader stands, and `QuotedStyle.Spells` says in these terms what
the literals of a style are. `forward_induction` has one case for each move of the reader.

Main statements:

* `endsEscaped_eq_false_iff`: the backslashes at the end of a body come in pairs exactly if the
  reader gets to its end;
* `bodyReads_iff_inOrder`: a body is read exactly if the reader finds it in order. The quotes that
  have been counted are put back in front of the body, so the count needs no case of its own;
* `exists_read_iff_spells`: the spellings that are read are the literals of the grammar.
-/
import ExprTree.Proofs.Literal.Escapes
import Mathlib.Tactic.MkIffOfInductiveProp

namespace ExprTree

set_option autoImplicit false

/-! ## A reader who goes from left to right -/

/-- The points at which a reader stands who passes each backslash together with the character after
it. A point is given by what is still to be read; behind a backslash that has nothing to take along
there is none. -/
def readingPoints : List Char → List (List Char)
  | [] => [[]]
  | [c] => if c = '\\' then [[c]] else [[c], []]
  | c :: d :: rest =>
      (c :: d :: rest) :: if c = '\\' then readingPoints rest else readingPoints (d :: rest)

@[simp] theorem readingPoints_nil : readingPoints [] = [[]] := rfl

@[simp] theorem readingPoints_lone : readingPoints ['\\'] = [['\\']] := rfl

@[simp] theorem readingPoints_escape (c : Char) (rest : List Char) :
    readingPoints ('\\' :: c :: rest) = ('\\' :: c :: rest) :: readingPoints rest := rfl

theorem readingPoints_plain {c : Char} (plain : c ≠ '\\') (rest : List Char) :
    readingPoints (c :: rest) = (c :: rest) :: readingPoints rest := by
  cases rest <;> simp [readingPoints, plain]

/-- One case for each move of the reader. -/
theorem forward_induction {motive : List Char → Prop} (nil : motive [])
    (plain : ∀ c rest, c ≠ '\\' → motive rest → motive (c :: rest)) (lone : motive ['\\'])
    (escape : ∀ c rest, motive rest → motive ('\\' :: c :: rest)) (text : List Char) :
    motive text := by
  fun_induction readingPoints text with
  | case1 => exact nil
  | case2 => exact lone
  | case3 c other => exact plain c [] other nil
  | case4 c d rest afterPair afterOne =>
    by_cases backslash : c = '\\'
    · subst backslash
      exact escape d rest afterPair
    · exact plain c (d :: rest) backslash afterOne

/-- A point is given by an end of the text. -/
theorem suffix_of_mem_readingPoints {text point : List Char} (stands : point ∈ readingPoints text) :
    point <:+ text := by
  induction text using forward_induction with
  | nil => simp_all
  | plain c rest other ih =>
      rw [readingPoints_plain other, List.mem_cons] at stands
      rcases stands with rfl | later
      · exact List.suffix_rfl
      · exact (ih later).trans (List.suffix_cons c rest)
  | lone => simp_all
  | escape c rest ih =>
      rw [readingPoints_escape, List.mem_cons] at stands
      rcases stands with rfl | later
      · exact List.suffix_rfl
      · exact (ih later).trans ((List.suffix_cons c rest).trans (List.suffix_cons '\\' _))

theorem self_mem_readingPoints (text : List Char) : text ∈ readingPoints text := by
  cases text using forward_induction with
  | nil => simp
  | plain c rest other => simp [readingPoints_plain other]
  | lone => simp
  | escape c rest => simp

/-! ## The end of a body -/

/-- The backslashes at the end of a body come in pairs exactly if the reader gets to its end. -/
theorem endsEscaped_eq_false_iff {body : List Char} :
    endsEscaped body = false ↔ [] ∈ readingPoints body := by
  induction body using forward_induction with
  | nil => simp [endsEscaped]
  | plain c rest other ih => simp [endsEscaped_plain other, readingPoints_plain other, ih]
  | lone => simp [endsEscaped]
  | escape c rest ih => simp [ih]

/-- The reader comes to what stands behind a text exactly if it gets to the end of the text. -/
theorem mem_readingPoints_append_iff {text behind : List Char} (some : behind ≠ []) :
    behind ∈ readingPoints (text ++ behind) ↔ endsEscaped text = false := by
  have longer (front : List Char) (more : front ≠ []) : behind ≠ front ++ behind :=
    fun same => more (List.self_eq_append_left.1 same)
  rw [endsEscaped_eq_false_iff]
  induction text using forward_induction with
  | nil => simp [self_mem_readingPoints]
  | plain c rest other ih =>
      have notHere : behind ≠ c :: (rest ++ behind) := longer (c :: rest) (by simp)
      simp [readingPoints_plain other, ih, notHere]
  | lone =>
      obtain ⟨c, rest, rfl⟩ := List.exists_cons_of_ne_nil some
      have notLater : c :: rest ∉ readingPoints rest := fun stands =>
        Nat.not_succ_le_self _ (suffix_of_mem_readingPoints stands).length_le
      simp [notLater]
  | escape c rest ih =>
      have notHere : behind ≠ '\\' :: c :: (rest ++ behind) :=
        longer ('\\' :: c :: rest) (by simp)
      simp [ih, notHere]

/-- A row of quotes in front of a text adds a point for each of them. -/
theorem forall_readingPoints_replicate {quote : Char} (isQuote : IsQuote quote)
    {property : List Char → Prop} (run : Nat) (rest : List Char) :
    (∀ point ∈ readingPoints (List.replicate run quote ++ rest), property point) ↔
      (∀ k < run, property (List.replicate (k + 1) quote ++ rest)) ∧
        ∀ point ∈ readingPoints rest, property point := by
  have plain : quote ≠ '\\' := (isQuote.ne (by decide)).symm
  induction run with
  | zero => simp
  | succ run ih =>
      simp only [List.replicate_succ, List.cons_append, readingPoints_plain plain,
        List.forall_mem_cons, Nat.forall_lt_succ_right] at ih ⊢
      simp only [ih]
      tauto

theorem endsEscaped_replicate_append {quote : Char} (isQuote : IsQuote quote) (run : Nat)
    (rest : List Char) : endsEscaped (List.replicate run quote ++ rest) = endsEscaped rest := by
  refine endsEscaped_append_plain (fun c member => ?_) rest
  rw [List.eq_of_mem_replicate member]
  exact (isQuote.ne (by decide)).symm

/-! ## Bodies in order -/

namespace QuotedStyle

variable {style : QuotedStyle}

theorem delimiter_eq_replicate (style : QuotedStyle) :
    style.delimiter = List.replicate style.delimiter.length style.quote := by
  unfold delimiter
  split <;> rfl

theorem delimiter_ne_nil (style : QuotedStyle) : style.delimiter ≠ [] := by
  unfold delimiter
  split <;> simp

/-- Fewer quotes than the delimiter has, before another character, are no delimiter. -/
theorem not_delimiter_isPrefix {k : Nat} (few : k < style.delimiter.length) {c : Char}
    (other : c ≠ style.quote) (rest : List Char) :
    ¬ style.delimiter <+: List.replicate k style.quote ++ c :: rest := by
  rintro ⟨behind, same⟩
  rw [delimiter_eq_replicate] at same
  have atK := congrArg (·[k]?) same
  rw [List.getElem?_append_left (by simpa using few), List.getElem?_append_right (by simp)] at atK
  simp [few] at atK
  exact other atK.symm

/-- Read from left to right, the body of a literal of the style is in order. -/
@[mk_iff]
structure InOrder (style : QuotedStyle) (body : List Char) : Prop where
  /-- The reader comes to the delimiter behind the body. -/
  closed : style.delimiter ∈ readingPoints (body ++ style.delimiter)
  /-- There is no delimiter that the reader comes to before. -/
  first : ∀ point ∈ readingPoints (body ++ style.delimiter),
    style.delimiter <+: point → point = style.delimiter
  /-- Between single quotes, the reader comes to no line feed. -/
  oneLine : style.triple = false → ∀ point ∈ readingPoints body, point.head? ≠ some '\n'
  /-- Unless the literal is raw, every backslash that the reader comes to begins an escape. -/
  escapes : style.raw = false → ∀ point ∈ readingPoints body, ∀ rest, point = '\\' :: rest →
    BeginsEscape rest

theorem inOrder_iff_endsEscaped {body : List Char} :
    style.InOrder body ↔ endsEscaped body = false ∧
      (∀ point ∈ readingPoints (body ++ style.delimiter),
        style.delimiter <+: point → point = style.delimiter) ∧
      (style.triple = false → ∀ point ∈ readingPoints body, point.head? ≠ some '\n') ∧
      (style.raw = false → ∀ point ∈ readingPoints body, ∀ rest, point = '\\' :: rest →
        BeginsEscape rest) := by
  rw [inOrder_iff, mem_readingPoints_append_iff style.delimiter_ne_nil]

theorem inOrder_nil (style : QuotedStyle) : style.InOrder [] := by
  refine ⟨self_mem_readingPoints _, fun point stands leading => ?_, by simp, by simp⟩
  have short := suffix_of_mem_readingPoints stands
  exact (leading.eq_of_length (Nat.le_antisymm leading.length_le short.length_le)).symm

/-- A delimiter in front of anything is too early. -/
theorem not_inOrder_delimiter_append {rest : List Char} :
    ¬ style.InOrder (style.delimiter ++ rest) := by
  intro inOrder
  have early := inOrder.first _ (self_mem_readingPoints _)
    ((List.prefix_append _ rest).trans (List.prefix_append _ _))
  have some := List.length_pos_iff.2 style.delimiter_ne_nil
  have lengths := congrArg List.length early
  simp only [List.length_append] at lengths
  omega

theorem inOrder_replicate_iff {run : Nat} :
    style.InOrder (List.replicate run style.quote) ↔ run = 0 := by
  constructor
  · intro inOrder
    have whole : List.replicate run style.quote ++ style.delimiter =
        style.delimiter ++ List.replicate run style.quote := by
      rw [delimiter_eq_replicate, List.replicate_append_replicate, List.replicate_append_replicate,
        Nat.add_comm]
    have early := inOrder.first _ (self_mem_readingPoints _)
      (whole ▸ List.prefix_append style.delimiter _)
    simpa using congrArg List.length early
  · rintro rfl
    exact style.inOrder_nil

/-- Too few quotes for a delimiter, before another character, leave the order as it is. -/
theorem inOrder_replicate_append_iff (isQuote : IsQuote style.quote) {run : Nat}
    (few : run < style.delimiter.length) {c : Char} (other : c ≠ style.quote) (rest : List Char) :
    style.InOrder (List.replicate run style.quote ++ c :: rest) ↔ style.InOrder (c :: rest) := by
  have notNewline : style.quote ≠ '\n' := (isQuote.ne (by decide)).symm
  have notBackslash : style.quote ≠ '\\' := (isQuote.ne (by decide)).symm
  have notDelimiter : ∀ k < run, style.delimiter <+:
      List.replicate (k + 1) style.quote ++ (c :: rest ++ style.delimiter) →
        List.replicate (k + 1) style.quote ++ (c :: rest ++ style.delimiter) = style.delimiter :=
    fun k fewer leading => absurd leading
      (not_delimiter_isPrefix (Nat.lt_of_le_of_lt fewer few) other _)
  have notLine : ∀ k < run,
      (List.replicate (k + 1) style.quote ++ c :: rest).head? ≠ some '\n' := by
    simp [List.replicate_succ, notNewline]
  have notEscape : ∀ k < run, ∀ tail,
      List.replicate (k + 1) style.quote ++ c :: rest = '\\' :: tail → BeginsEscape tail := by
    simp [List.replicate_succ, notBackslash]
  simp only [inOrder_iff_endsEscaped,
    endsEscaped_replicate_append isQuote, List.append_assoc,
    forall_readingPoints_replicate isQuote, and_iff_right notDelimiter, and_iff_right notLine,
    and_iff_right notEscape]

/-- A character that the reader passes by itself. -/
theorem inOrder_plain_iff {c : Char} (plain : c ≠ '\\') (other : c ≠ style.quote)
    (rest : List Char) :
    style.InOrder (c :: rest) ↔ (style.triple = false → c ≠ '\n') ∧ style.InOrder rest := by
  have notDelimiter : style.delimiter <+: c :: (rest ++ style.delimiter) →
      c :: (rest ++ style.delimiter) = style.delimiter :=
    fun leading => absurd leading
      (not_delimiter_isPrefix (List.length_pos_iff.2 style.delimiter_ne_nil) other _)
  simp only [inOrder_iff_endsEscaped, endsEscaped_plain plain, List.cons_append,
    readingPoints_plain plain, List.forall_mem_cons, and_iff_right notDelimiter, List.head?_cons,
    ne_eq, Option.some.injEq, List.cons.injEq, plain, false_and, false_implies, implies_true,
    true_and]
  tauto

/-- A backslash and the character that it takes along. -/
theorem inOrder_escape_iff (isQuote : IsQuote style.quote) (c : Char) (rest : List Char) :
    style.InOrder ('\\' :: c :: rest) ↔
      (style.raw = false → BeginsEscape (c :: rest)) ∧ style.InOrder rest := by
  have notDelimiter : style.delimiter <+: '\\' :: c :: (rest ++ style.delimiter) →
      '\\' :: c :: (rest ++ style.delimiter) = style.delimiter :=
    fun leading => absurd leading
      (not_delimiter_isPrefix (List.length_pos_iff.2 style.delimiter_ne_nil)
        (isQuote.ne (by decide)) _)
  have notNewline : '\\' ≠ '\n' := by decide
  simp only [inOrder_iff_endsEscaped, endsEscaped_escape, List.cons_append, readingPoints_escape,
    List.forall_mem_cons, and_iff_right notDelimiter, List.head?_cons, ne_eq, Option.some.injEq,
    notNewline, not_false_eq_true, List.cons.injEq, true_and, forall_eq', imp_and]
  tauto

end QuotedStyle

/-! ## What is read is what is in order -/

section BodyReads

variable {style : QuotedStyle} {run : Nat} {rest : List Char}

theorem QuotedStyle.length_delimiter (style : QuotedStyle) :
    style.delimiter.length = if style.triple then 3 else 1 := by
  unfold delimiter
  split <;> rfl

/-- A body that ends is read if no quotes stand before the delimiter. -/
theorem bodyReads_nil_iff (few : run < style.delimiter.length) :
    BodyReads style run [] ↔ run = 0 := by
  have ends : readBody style run [] =
      if style.triple ∧ 0 < run then .error (.quoteBeforeDelimiter style.quote) else .ok [] := by
    rw [readBody]
    simp [Piece.next?]
  rw [BodyReads, ends]
  by_cases counted : style.triple ∧ 0 < run
  · simp [if_pos counted, Nat.ne_of_gt counted.2]
  · have none : run = 0 := by
      rw [style.length_delimiter] at few
      split at few
      next triple =>
        have notMore : ¬ 0 < run := fun more => counted ⟨triple, more⟩
        omega
      next => omega
    simp [none]

/-- A quote of the delimiter is read if it does not complete one, and it counts for what follows. -/
theorem bodyReads_delimiter_iff (isQuote : IsQuote style.quote) :
    BodyReads style run (style.quote :: rest) ↔
      run + 1 < style.delimiter.length ∧ BodyReads style (run + 1) rest := by
  have step : Piece.next? (style.quote :: rest) = some (.quote style.quote, rest) := by
    rw [Piece.next?, if_neg (isQuote.ne (by decide)).symm, if_neg (isQuote.ne (by decide)).symm]
    exact if_pos isQuote
  have few : (style.triple ∧ run + 1 < 3) ↔ run + 1 < style.delimiter.length := by
    rw [style.length_delimiter]
    split <;> simp_all
  rw [BodyReads, readBody]
  split
  case h_1 none =>
    rw [step] at none
    cases none
  case h_2 found =>
    rw [step] at found
    cases found
    rw [if_pos rfl]
    by_cases counted : style.triple ∧ run + 1 < 3
    · rw [if_pos counted, and_iff_right (few.1 counted)]
      simp [BodyReads, pure, Except.pure]
    · simp [← few, counted]

/-- A character by itself is read unless it is a line feed between single quotes. -/
theorem bodyReads_plain_iff {c : Char} (plain : c ≠ '\\') (other : c ≠ style.quote) :
    BodyReads style run (c :: rest) ↔
      (style.triple = false → c ≠ '\n') ∧ BodyReads style 0 rest := by
  by_cases newline : c = '\n'
  · have step : Piece.next? (c :: rest) = some (.newline, rest) := by
      rw [Piece.next?, if_neg plain, if_pos newline]
    rw [bodyReads_of_next? step (by simp)]
    cases triple : style.triple <;> simp [Piece.read, triple, newline]
  by_cases quote : IsQuote c
  · have step : Piece.next? (c :: rest) = some (.quote c, rest) := by
      rw [Piece.next?, if_neg plain, if_neg newline]
      exact if_pos quote
    rw [bodyReads_of_next? step (by simpa using other)]
    simp [Piece.read, newline]
  · rw [bodyReads_ordinary ⟨plain, newline, quote⟩]
    simp [newline]

end BodyReads

/-- A body whose last backslashes come in pairs is read exactly if it is in order, the quotes that
stand before it being put back in front. -/
theorem bodyReads_iff_inOrder {style : QuotedStyle} (isQuote : IsQuote style.quote) {run : Nat}
    (few : run < style.delimiter.length) {body : List Char} (paired : endsEscaped body = false) :
    BodyReads style run body ↔ style.InOrder (List.replicate run style.quote ++ body) := by
  induction body using forward_induction generalizing run with
  | nil => rw [bodyReads_nil_iff few, List.append_nil, QuotedStyle.inOrder_replicate_iff]
  | plain c rest plain ih =>
      rw [endsEscaped_plain plain] at paired
      by_cases delimiter : c = style.quote
      · subst delimiter
        have counted : List.replicate run style.quote ++ style.quote :: rest =
            List.replicate (run + 1) style.quote ++ rest := by
          rw [List.replicate_succ', List.append_assoc, List.singleton_append]
        rw [bodyReads_delimiter_iff isQuote, counted]
        by_cases more : run + 1 < style.delimiter.length
        · rw [and_iff_right more, ih more paired]
        · have full : List.replicate (run + 1) style.quote = style.delimiter := by
            rw [QuotedStyle.delimiter_eq_replicate style]
            congr 1
            omega
          simp only [more, false_and, full, style.not_inOrder_delimiter_append]
      · have some := List.length_pos_iff.2 style.delimiter_ne_nil
        rw [bodyReads_plain_iff plain delimiter, ih some paired,
          style.inOrder_replicate_append_iff isQuote few delimiter,
          style.inOrder_plain_iff plain delimiter, List.replicate_zero, List.nil_append]
  | lone => cases paired
  | escape c rest ih =>
      have some := List.length_pos_iff.2 style.delimiter_ne_nil
      rw [endsEscaped_escape] at paired
      rw [bodyReads_escape_iff, ih some paired,
        style.inOrder_replicate_append_iff isQuote few (isQuote.ne (by decide)),
        style.inOrder_escape_iff isQuote, List.replicate_zero, List.nil_append]

/-! ## The whole literal -/

/-- The spelling is the mark, the delimiter, the body and the delimiter again, as a reader finds it
who goes from left to right. -/
@[mk_iff]
structure QuotedStyle.Spells (style : QuotedStyle) (mark body spelling : List Char) : Prop where
  marked : mark ∈ literalMarks style.bytes style.raw
  quoted : IsQuote style.quote
  whole : spelling = mark ++ style.delimiter ++ body ++ style.delimiter
  /-- The delimiter is the long one if three quotes stand behind the mark, and only then. -/
  tripled : style.triple = true ↔
    (spelling.drop mark.length).take 3 = [style.quote, style.quote, style.quote]
  inOrder : style.InOrder body

namespace Quoted

/-- A body whose last backslashes come in pairs is read exactly if it is in order. -/
theorem exists_readBody_iff {style : QuotedStyle} (isQuote : IsQuote style.quote)
    {body : List Char} :
    (endsEscaped body = false ∧ ∃ text : String, readBody style 0 body = .ok text.toList) ↔
      style.InOrder body := by
  have some := List.length_pos_iff.2 style.delimiter_ne_nil
  have asText : (∃ text : String, readBody style 0 body = .ok text.toList) ↔
      BodyReads style 0 body :=
    ⟨fun ⟨text, reads⟩ => ⟨_, reads⟩,
      fun ⟨chars, reads⟩ => ⟨String.ofList chars, by rw [reads, String.toList_ofList]⟩⟩
  rw [asText]
  constructor
  · rintro ⟨paired, reads⟩
    exact (bodyReads_iff_inOrder isQuote some paired).1 reads
  · intro inOrder
    have paired := (style.inOrder_iff_endsEscaped.1 inOrder).1
    exact ⟨paired, (bodyReads_iff_inOrder isQuote some paired).2 inOrder⟩

/-- **The spellings that are read are the literals of the grammar.** Reading succeeds exactly on
the spellings that are literals to a reader who goes from left to right, and what it gives has the
marks and the delimiter that this reader has seen. -/
theorem exists_read_iff_spells (spelling : String) (style : QuotedStyle) :
    (∃ text, read spelling = .ok ⟨style, text⟩) ↔
      ∃ mark body, style.Spells mark body spelling.toList := by
  have tripled {mark rest : List Char} (whole : spelling.toList = mark ++ rest) :
      (spelling.toList.drop mark.length).take 3 = [style.quote, style.quote, style.quote] ↔
        [style.quote, style.quote, style.quote] <+: rest := by
    rw [whole, List.drop_left, List.prefix_iff_eq_take, eq_comm]
    rfl
  simp only [read_eq_ok_iff, QuotedStyle.spells_iff, List.append_assoc]
  constructor
  · rintro ⟨text, mark, body, marked, isQuote, whole, triple, paired, reads⟩
    exact ⟨mark, body, marked, isQuote, whole, triple.trans (tripled whole).symm,
      (exists_readBody_iff isQuote).1 ⟨paired, text, reads⟩⟩
  · rintro ⟨mark, body, marked, isQuote, whole, triple, inOrder⟩
    obtain ⟨paired, text, reads⟩ := (exists_readBody_iff isQuote).2 inOrder
    exact ⟨text, mark, body, marked, isQuote, whole, triple.trans (tripled whole), paired, reads⟩

end Quoted

end ExprTree
