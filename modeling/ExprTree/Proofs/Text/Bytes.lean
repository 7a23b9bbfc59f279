/-
# ExprTree.Proofs.Text.Bytes — from byte offsets back to characters

An offset that falls inside a character stands for that character's first byte. `takeBytes` gives
the characters in front of it: the longest leading part of the text that ends at or before the
offset. What positions say about an offset, they say about these characters alone.

Main statements: `takeBytes_eq_iff`, which leading part it is, `takeBytes_isPrefix_takeBytes`, a
larger offset has no fewer characters in front of it, `isGreatest_boundary`, that part ends at the
largest boundary not above the offset, `takeBytes_eq_takeBytes_iff`, two offsets with no boundary
between them have the same characters in front of them, `getElem?_toUTF8_eq_some_iff`, an ASCII
character is exactly where its byte is, `slice?_slice?`, a slice that lies inside another one is a
slice of it, and `headsIn_append`, how many characters begin between two offsets.
-/
import ExprTree.Text.Utf8
import Mathlib.Order.Bounds.Defs

namespace ExprTree.Text

set_option autoImplicit false

/-- The characters that end at or before the offset. -/
def takeBytes : List Char → Nat → List Char
  | [], _ => []
  | c :: rest, offset =>
      if c.utf8Size ≤ offset then c :: takeBytes rest (offset - c.utf8Size) else []

/-- The offset is that of the end of a leading part, or lies inside the character that follows it.
-/
def EndsUnder (before after : List Char) (offset : Nat) : Prop :=
  byteLength before ≤ offset ∧ ∀ c ∈ after.head?, offset < byteLength before + c.utf8Size

theorem endsUnder_cons {c : Char} {before after : List Char} {offset : Nat} :
    EndsUnder (c :: before) after offset ↔
      c.utf8Size ≤ offset ∧ EndsUnder before after (offset - c.utf8Size) := by
  simp only [EndsUnder, byteLength]
  constructor
  · rintro ⟨reached, next⟩
    refine ⟨by omega, by omega, fun d first => ?_⟩
    have := next d first
    omega
  · rintro ⟨fits, reached, next⟩
    refine ⟨by omega, fun d first => ?_⟩
    have := next d first
    omega

/-- The characters in front of an offset are the leading part that ends there or under it. -/
theorem takeBytes_eq_iff {before after : List Char} {offset : Nat} :
    takeBytes (before ++ after) offset = before ↔ EndsUnder before after offset := by
  induction before generalizing offset with
  | nil =>
      cases after with
      | nil => simp [takeBytes, EndsUnder]
      | cons c after => simp [takeBytes, EndsUnder]
  | cons c before ih =>
      rw [endsUnder_cons, List.cons_append, takeBytes]
      split
      next fits => simp only [List.cons.injEq, true_and, ih, fits]
      next tooWide => simp [tooWide]

theorem takeBytes_isPrefix (chars : List Char) (offset : Nat) :
    takeBytes chars offset <+: chars := by
  induction chars generalizing offset with
  | nil => exact List.prefix_rfl
  | cons c rest ih =>
      rw [takeBytes]
      split
      · exact List.cons_prefix_cons.2 ⟨rfl, ih _⟩
      · exact List.nil_prefix

/-- A text splits at every offset, under the offset. -/
theorem exists_endsUnder (chars : List Char) (offset : Nat) :
    ∃ before after, chars = before ++ after ∧ EndsUnder before after offset := by
  obtain ⟨after, split⟩ := takeBytes_isPrefix chars offset
  refine ⟨takeBytes chars offset, after, split.symm, takeBytes_eq_iff.1 ?_⟩
  rw [split]

/-- A larger offset has no fewer characters in front of it. -/
theorem takeBytes_isPrefix_takeBytes (chars : List Char) {offset offset' : Nat}
    (ordered : offset ≤ offset') : takeBytes chars offset <+: takeBytes chars offset' := by
  induction chars generalizing offset offset' with
  | nil => exact List.prefix_rfl
  | cons c rest ih =>
      rw [takeBytes, takeBytes]
      split
      next fits =>
        rw [if_pos (Nat.le_trans fits ordered)]
        exact List.cons_prefix_cons.2 ⟨rfl, ih (Nat.sub_le_sub_right ordered _)⟩
      · exact List.nil_prefix

theorem byteLength_le_of_isPrefix {before chars : List Char} (leading : before <+: chars) :
    byteLength before ≤ byteLength chars := by
  obtain ⟨after, rfl⟩ := leading
  rw [byteLength_append]
  exact Nat.le_add_right _ _

theorem length_le_byteLength (chars : List Char) : chars.length ≤ byteLength chars := by
  induction chars with
  | nil => exact Nat.le_refl _
  | cons c rest ih =>
      have wide := c.utf8Size_pos
      rw [List.length_cons, byteLength]
      omega

theorem endsUnder_byteLength (before after : List Char) :
    EndsUnder before after (byteLength before) :=
  ⟨Nat.le_refl _, fun c _ => Nat.lt_add_of_pos_right c.utf8Size_pos⟩

theorem isBoundary_eq_true_iff {chars : List Char} {offset : Nat} :
    isBoundary chars offset = true ↔
      ∃ before after, chars = before ++ after ∧ byteLength before = offset := by
  rw [isBoundary, Option.isSome_iff_exists, Prod.exists]
  exact exists₂_congr fun _ _ => splitAt?_eq_some_iff

/-- An offset is a boundary if the characters in front of it end there. -/
theorem isBoundary_iff {before after : List Char} {offset : Nat}
    (under : EndsUnder before after offset) :
    isBoundary (before ++ after) offset = true ↔ byteLength before = offset := by
  rw [isBoundary_eq_true_iff]
  constructor
  · rintro ⟨before', after', split, rfl⟩
    have same : before = before' := by
      rw [← takeBytes_eq_iff.2 under, split, takeBytes_eq_iff.2 (endsUnder_byteLength _ _)]
    rw [same]
  · intro reached
    exact ⟨before, after, rfl, reached⟩

/-- The characters in front of an offset end at the largest boundary that is not above it. -/
theorem isGreatest_boundary {before after : List Char} {offset : Nat}
    (under : EndsUnder before after offset) :
    IsGreatest {point | point ≤ offset ∧ isBoundary (before ++ after) point = true}
      (byteLength before) := by
  refine ⟨⟨under.1, (isBoundary_iff (endsUnder_byteLength before after)).2 rfl⟩, ?_⟩
  rintro point ⟨reached, boundary⟩
  obtain ⟨before', after', split, rfl⟩ := isBoundary_eq_true_iff.1 boundary
  have leading := takeBytes_isPrefix_takeBytes (before ++ after) reached
  rw [takeBytes_eq_iff.2 under, split, takeBytes_eq_iff.2 (endsUnder_byteLength _ _)] at leading
  exact byteLength_le_of_isPrefix leading

/-- The characters in front of an offset take no more bytes than the offset counts. -/
theorem byteLength_takeBytes_le (chars : List Char) (offset : Nat) :
    byteLength (takeBytes chars offset) ≤ offset := by
  obtain ⟨before, after, split, under⟩ := exists_endsUnder chars offset
  rw [split, takeBytes_eq_iff.2 under]
  exact under.1

/-- A larger offset has the same characters in front of it exactly if there is no boundary behind
the smaller one that it reaches. -/
theorem takeBytes_eq_takeBytes_iff {chars : List Char} {offset offset' : Nat}
    (ordered : offset ≤ offset') :
    takeBytes chars offset = takeBytes chars offset' ↔
      ¬ ∃ point, offset < point ∧ point ≤ offset' ∧ isBoundary chars point = true := by
  constructor
  · rintro same ⟨point, beyond, reached, boundary⟩
    obtain ⟨before, after, rfl, rfl⟩ := isBoundary_eq_true_iff.1 boundary
    have leading := takeBytes_isPrefix_takeBytes (before ++ after) reached
    rw [takeBytes_eq_iff.2 (endsUnder_byteLength before after), ← same] at leading
    have shorter := byteLength_le_of_isPrefix leading
    have bound := byteLength_takeBytes_le (before ++ after) offset
    omega
  · intro none
    obtain ⟨more, whole⟩ := takeBytes_isPrefix_takeBytes chars ordered
    obtain ⟨behind, split⟩ := takeBytes_isPrefix chars offset'
    cases more with
    | nil => rw [← whole, List.append_nil]
    | cons c more =>
        -- The end of the longer part would be a boundary that only the larger offset reaches.
        refine absurd ⟨byteLength (takeBytes chars offset'), ?_, ?_, ?_⟩ none
        · have taken : takeBytes (takeBytes chars offset ++ (c :: more ++ behind)) offset =
              takeBytes chars offset := by
            rw [← List.append_assoc, whole, split]
          have next := (takeBytes_eq_iff.1 taken).2 c rfl
          have wide := c.utf8Size_pos
          rw [← whole, byteLength_append, byteLength]
          omega
        · exact byteLength_takeBytes_le chars offset'
        · exact isBoundary_eq_true_iff.2 ⟨_, behind, split.symm, rfl⟩

/-! ## The character at an offset -/

/-- The character whose first byte is at the offset. -/
def charAt? (chars : List Char) (offset : Nat) : Option Char := do
  let (_, after) ← splitAt? chars offset
  after.head?

theorem charAt?_eq_some_iff {chars : List Char} {offset : Nat} {c : Char} :
    charAt? chars offset = some c ↔
      ∃ before after, chars = before ++ c :: after ∧ byteLength before = offset := by
  simp only [charAt?, Option.bind_eq_bind, Option.bind_eq_some_iff, Prod.exists,
    splitAt?_eq_some_iff]
  constructor
  · rintro ⟨before, after, ⟨split, reached⟩, first⟩
    obtain ⟨after, rfl⟩ := List.head?_eq_some_iff.1 first
    exact ⟨before, after, split, reached⟩
  · rintro ⟨before, after, split, reached⟩
    exact ⟨before, c :: after, ⟨split, reached⟩, rfl⟩

/-! ## The byte at an offset -/

theorem charAt?_cons (c : Char) (rest : List Char) (offset : Nat) :
    charAt? (c :: rest) offset =
      if offset = 0 then some c
      else if c.utf8Size ≤ offset then charAt? rest (offset - c.utf8Size) else none := by
  cases offset with
  | zero => rfl
  | succ offset =>
      simp only [charAt?, splitAt?, Nat.succ_ne_zero, if_false]
      split
      · cases splitAt? rest (offset + 1 - c.utf8Size) <;> rfl
      · rfl

theorem utf8EncodeChar_ascii {c : Char} (ascii : c.toNat < 128) :
    String.utf8EncodeChar c = [c.toUInt8] := by
  have short : c.val.toNat ≤ 0x7f := Nat.le_of_lt_succ ascii
  rw [String.utf8EncodeChar, if_pos short]
  rfl

theorem toNat_toUInt8_ascii {c : Char} (ascii : c.toNat < 128) : c.toUInt8.toNat = c.toNat := by
  show c.toNat % 256 = c.toNat
  omega

/-- Characters beyond ASCII have no bytes of ASCII. -/
theorem le_toNat_of_mem_utf8EncodeChar {c : Char} (beyond : 128 ≤ c.toNat) {byte : UInt8}
    (inside : byte ∈ String.utf8EncodeChar c) : 128 ≤ byte.toNat := by
  have notAscii : ¬ c.val.toNat ≤ 0x7f := Nat.not_le.2 beyond
  have high : ∀ n, 128 ≤ n → n < 256 → 128 ≤ (UInt8.ofNat n).toNat := by
    intro n above small
    rw [UInt8.toNat_ofNat', Nat.mod_eq_of_lt small]
    exact above
  simp only [String.utf8EncodeChar, if_neg notAscii] at inside
  split at inside
  · simp only [List.mem_cons, List.not_mem_nil, or_false] at inside
    rcases inside with rfl | rfl <;> exact high _ (by omega) (by omega)
  split at inside
  · simp only [List.mem_cons, List.not_mem_nil, or_false] at inside
    rcases inside with rfl | rfl | rfl <;> exact high _ (by omega) (by omega)
  · simp only [List.mem_cons, List.not_mem_nil, or_false] at inside
    rcases inside with rfl | rfl | rfl | rfl <;> exact high _ (by omega) (by omega)

/-- Among the bytes of a character, that of an ASCII character is found in this character alone. -/
theorem getElem?_utf8EncodeChar_eq_some_iff {c d : Char} (ascii : d.toNat < 128) {index : Nat} :
    (String.utf8EncodeChar c)[index]? = some d.toUInt8 ↔ c = d ∧ index = 0 := by
  by_cases small : c.toNat < 128
  · have same : c.toUInt8 = d.toUInt8 ↔ c = d := by
      rw [← UInt8.toNat_inj, toNat_toUInt8_ascii small, toNat_toUInt8_ascii ascii, Char.toNat_inj]
    rw [utf8EncodeChar_ascii small, List.getElem?_singleton]
    split
    next first => rw [Option.some.injEq, same, and_iff_left first]
    next later => simp [later]
  · refine iff_of_false (fun found => ?_) ?_
    · have high := le_toNat_of_mem_utf8EncodeChar (Nat.not_lt.1 small) (List.mem_of_getElem? found)
      rw [toNat_toUInt8_ascii ascii] at high
      omega
    · rintro ⟨rfl, -⟩
      exact small ascii

/-- The bytes of a text are those of its characters, one character after the other. -/
theorem toUTF8_eq (text : String) :
    text.toUTF8.data.toList = text.toList.flatMap String.utf8EncodeChar := by
  have encoded := String.toByteArray_ofList (l := text.toList)
  rw [String.ofList_toList] at encoded
  rw [String.toUTF8_eq_toByteArray, encoded]
  exact List.toList_data_toByteArray

theorem getElem?_toUTF8 (text : String) (offset : Nat) :
    text.toUTF8[offset]? = (text.toList.flatMap String.utf8EncodeChar)[offset]? := by
  rw [← toUTF8_eq, Array.getElem?_toList]
  rfl

/-- The byte of an ASCII character is exactly where that character is. -/
theorem getElem?_toUTF8_eq_some_iff {text : String} {d : Char} (ascii : d.toNat < 128)
    {offset : Nat} :
    text.toUTF8[offset]? = some d.toUInt8 ↔ charAt? text.toList offset = some d := by
  rw [getElem?_toUTF8]
  generalize text.toList = chars
  induction chars generalizing offset with
  | nil => cases offset <;> simp [charAt?, splitAt?]
  | cons c rest ih =>
      have size := String.length_utf8EncodeChar c
      have wide := c.utf8Size_pos
      rw [List.flatMap_cons, charAt?_cons]
      by_cases inside : offset < c.utf8Size
      · rw [List.getElem?_append_left (by omega), getElem?_utf8EncodeChar_eq_some_iff ascii]
        split
        next first => simp [first]
        next later => simp [later, Nat.not_le.2 inside]
      · rw [List.getElem?_append_right (by omega), size, ih, if_neg (by omega), if_pos (by omega)]

/-! ## Slices -/

theorem slice?_eq_some_iff {chars inside : List Char} {start stop : Nat} :
    slice? chars start stop = some inside ↔ ∃ before after, chars = before ++ (inside ++ after) ∧
      byteLength before = start ∧ byteLength inside = stop - start := by
  simp only [slice?, Option.bind_eq_bind, Option.bind_eq_some_iff, Prod.exists,
    splitAt?_eq_some_iff, pure, Option.some.injEq]
  constructor
  · rintro ⟨before, rest, ⟨rfl, reached⟩, _, after, ⟨rfl, length⟩, rfl⟩
    exact ⟨before, after, rfl, reached, length⟩
  · rintro ⟨before, after, rfl, reached, length⟩
    exact ⟨before, inside ++ after, ⟨rfl, reached⟩, inside, after, ⟨rfl, length⟩, rfl⟩

/-- Of two leading parts, the shorter one begins the longer one. -/
theorem isPrefix_of_byteLength_le {chars before before' : List Char} (leading : before <+: chars)
    (leading' : before' <+: chars) (shorter : byteLength before ≤ byteLength before') :
    before <+: before' := by
  obtain ⟨after, rfl⟩ := leading
  obtain ⟨after', split⟩ := leading'
  have nested := takeBytes_isPrefix_takeBytes (before ++ after) shorter
  rw [takeBytes_eq_iff.2 (endsUnder_byteLength before after), ← split,
    takeBytes_eq_iff.2 (endsUnder_byteLength before' after')] at nested
  exact nested

theorem exists_slice?_iff {chars : List Char} {start stop : Nat} (ordered : start ≤ stop) :
    (∃ inside, slice? chars start stop = some inside) ↔
      isBoundary chars start = true ∧ isBoundary chars stop = true := by
  simp only [slice?_eq_some_iff, isBoundary_eq_true_iff]
  constructor
  · rintro ⟨inside, before, after, split, reached, length⟩
    refine ⟨⟨before, inside ++ after, split, reached⟩, before ++ inside, after, ?_, ?_⟩
    · rw [split, List.append_assoc]
    · rw [byteLength_append, reached, length, Nat.add_sub_cancel' ordered]
  · rintro ⟨⟨before, rest, split, rfl⟩, before', after, split', rfl⟩
    obtain ⟨inside, rfl⟩ :=
      isPrefix_of_byteLength_le ⟨rest, split.symm⟩ ⟨after, split'.symm⟩ ordered
    refine ⟨inside, before, after, ?_, rfl, ?_⟩
    · rw [split', List.append_assoc]
    · rw [byteLength_append, Nat.add_sub_cancel_left]

/-- A slice that lies inside another one is a slice of it. -/
theorem slice?_slice? {chars outer inner : List Char} {start stop start' stop' : Nat}
    (cut : slice? chars start stop = some outer) (cut' : slice? chars start' stop' = some inner)
    (reached : start ≤ start') (ordered : start' ≤ stop') (inside : stop' ≤ stop) :
    slice? outer (start' - start) (stop' - start) = some inner := by
  obtain ⟨before, after, split, rfl, length⟩ := slice?_eq_some_iff.1 cut
  obtain ⟨before', after', split', rfl, length'⟩ := slice?_eq_some_iff.1 cut'
  obtain ⟨front, rfl⟩ := isPrefix_of_byteLength_le ⟨_, split.symm⟩ ⟨_, split'.symm⟩ reached
  -- What stands in front of the inner slice and the slice itself begin the outer one.
  have same : outer ++ after = front ++ inner ++ after' := by
    rw [split', List.append_assoc, List.append_cancel_left_eq] at split
    rw [← split, List.append_assoc]
  have shorter : byteLength (front ++ inner) ≤ byteLength outer := by
    rw [byteLength_append] at reached ordered length' ⊢
    omega
  obtain ⟨back, rfl⟩ := isPrefix_of_byteLength_le ⟨after', same.symm⟩ ⟨after, rfl⟩ shorter
  refine slice?_eq_some_iff.2 ⟨front, back, List.append_assoc _ _ _, ?_, ?_⟩
  · rw [byteLength_append, Nat.add_sub_cancel_left]
  · rw [byteLength_append] at length' ordered ⊢
    omega

/-- A slice has the bytes between its ends. -/
theorem toUTF8_slice {text : String} {inside : List Char} {start stop : Nat}
    (ordered : start ≤ stop) (cut : slice? text.toList start stop = some inside) :
    (String.ofList inside).toUTF8 = text.toUTF8.extract start stop := by
  obtain ⟨before, after, split, rfl, length⟩ := slice?_eq_some_iff.1 cut
  have whole : text = String.ofList before ++ (String.ofList inside ++ String.ofList after) := by
    rw [← String.ofList_append, ← String.ofList_append, ← split, String.ofList_toList]
  have size (chars : List Char) : byteLength chars = (String.ofList chars).toByteArray.size := by
    rw [String.size_toByteArray, utf8ByteSize_ofList]
  have reached : byteLength before + byteLength inside = stop := by
    rw [length, Nat.add_sub_cancel' ordered]
  rw [whole, ← reached]
  simp only [String.toUTF8_eq_toByteArray, String.toByteArray_append]
  calc (String.ofList inside).toByteArray
    _ = ((String.ofList inside).toByteArray ++ (String.ofList after).toByteArray).extract 0
          (byteLength inside) := (ByteArray.extract_append_eq_left (size inside)).symm
    _ = ((String.ofList before).toByteArray ++
          ((String.ofList inside).toByteArray ++ (String.ofList after).toByteArray)).extract
            (byteLength before + 0) (byteLength before + byteLength inside) :=
        (ByteArray.extract_append_size_add' (size before)).symm

/-- Boundaries are the positions of the text that are valid. -/
theorem isBoundary_iff_isValid {text : String} {offset : Nat} :
    isBoundary text.toList offset = true ↔ (⟨offset⟩ : String.Pos.Raw).IsValid text := by
  rw [isBoundary_eq_true_iff, String.Pos.Raw.isValid_iff_exists_append]
  constructor
  · rintro ⟨before, after, split, rfl⟩
    refine ⟨String.ofList before, String.ofList after, ?_, ?_⟩
    · rw [← String.ofList_append, ← split, String.ofList_toList]
    · rw [← utf8ByteSize_ofList]
      rfl
  · rintro ⟨before, after, rfl, reached⟩
    refine ⟨before.toList, after.toList, String.toList_append, ?_⟩
    rw [byteLength_toList]
    exact congrArg String.Pos.Raw.byteIdx reached.symm

/-! ## Counting characters by the bytes that begin them -/

/-- The continuation bytes are the 64 behind ASCII. -/
theorem isContinuation_ofNat {n : Nat} (small : n < 256) :
    isContinuation (UInt8.ofNat n) = true ↔ 128 ≤ n ∧ n < 192 := by
  have all : ∀ n < 256, isContinuation (UInt8.ofNat n) = true ↔ 128 ≤ n ∧ n < 192 := by
    decide +kernel
  exact all n small

/-- The first byte of a character is no continuation byte, and the others are. -/
theorem utf8EncodeChar_eq_cons (c : Char) : ∃ lead tail, String.utf8EncodeChar c = lead :: tail ∧
    isContinuation lead = false ∧ ∀ byte ∈ tail, isContinuation byte = true := by
  have first {n : Nat} (small : n < 256) (outside : n < 128 ∨ 192 ≤ n) :
      isContinuation (UInt8.ofNat n) = false := by
    rw [← Bool.not_eq_true, isContinuation_ofNat small]
    omega
  have further (n : Nat) : isContinuation (UInt8.ofNat (n % 64 + 128)) = true := by
    rw [isContinuation_ofNat (by omega)]
    omega
  rw [String.utf8EncodeChar]
  split
  next ascii => exact ⟨_, [], rfl, first (by omega) (by omega), by simp⟩
  split
  · exact ⟨_, _, rfl, first (by omega) (by omega), List.forall_mem_singleton.2 (further _)⟩
  split
  · exact ⟨_, _, rfl, first (by omega) (by omega),
      List.forall_mem_cons.2 ⟨further _, List.forall_mem_singleton.2 (further _)⟩⟩
  · refine ⟨_, _, rfl, first (by omega) (by omega), ?_⟩
    exact List.forall_mem_cons.2
      ⟨further _, List.forall_mem_cons.2 ⟨further _, List.forall_mem_singleton.2 (further _)⟩⟩

/-- However many bytes of a character are taken, one of them begins it. -/
theorem countP_take_utf8EncodeChar (c : Char) (size : Nat) :
    ((String.utf8EncodeChar c).take size).countP (fun byte => !isContinuation byte) =
      if size = 0 then 0 else 1 := by
  obtain ⟨lead, tail, bytes, begins, continues⟩ := utf8EncodeChar_eq_cons c
  cases size with
  | zero => rfl
  | succ size =>
      have none : (tail.take size).countP (fun byte => !isContinuation byte) = 0 := by
        rw [List.countP_eq_zero]
        intro byte inside
        simp [continues byte (List.mem_of_mem_take inside)]
      rw [bytes, List.take_succ_cons, List.countP_cons_of_pos (by simp [begins]), none]
      rfl

/-- The characters of a text are as many as the bytes that begin one. -/
theorem countP_flatMap_utf8EncodeChar (chars : List Char) :
    (chars.flatMap String.utf8EncodeChar).countP (fun byte => !isContinuation byte) =
      chars.length := by
  induction chars with
  | nil => rfl
  | cons c rest ih =>
      have one := countP_take_utf8EncodeChar c c.utf8Size
      rw [List.take_of_length_le (Nat.le_of_eq (String.length_utf8EncodeChar c)),
        if_neg (Nat.ne_of_gt c.utf8Size_pos)] at one
      rw [List.flatMap_cons, List.countP_append, one, ih, List.length_cons, Nat.add_comm]

theorem length_flatMap_utf8EncodeChar (chars : List Char) :
    (chars.flatMap String.utf8EncodeChar).length = byteLength chars := by
  induction chars with
  | nil => rfl
  | cons c rest ih =>
      rw [List.flatMap_cons, List.length_append, ih, String.length_utf8EncodeChar, byteLength]

/-- Between the end of one leading part and an offset at or under the end of a second one begin the
characters that the second has more, and the one that the offset lies inside of. -/
theorem headsIn_append {text : String} {first between after : List Char} {offset : Nat}
    (split : text.toList = first ++ between ++ after)
    (under : EndsUnder (first ++ between) after offset) (inside : offset ≤ text.utf8ByteSize) :
    headsIn text (byteLength first) offset =
      between.length + if byteLength (first ++ between) = offset then 0 else 1 := by
  obtain ⟨reached, next⟩ := under
  obtain ⟨more, rfl⟩ := Nat.exists_eq_add_of_le reached
  rw [← byteLength_toList, split, byteLength_append _ after, Nat.add_le_add_iff_left] at inside
  have bytes : (text.toUTF8.extract (byteLength first)
      (byteLength (first ++ between) + more)).data.toList =
        between.flatMap String.utf8EncodeChar ++
          (after.flatMap String.utf8EncodeChar).take more := by
    have back : byteLength (first ++ between) + more - byteLength first =
        (between.flatMap String.utf8EncodeChar).length + more := by
      rw [byteLength_append, length_flatMap_utf8EncodeChar]
      omega
    rw [ByteArray.data_extract, Array.toList_extract, List.extract_eq_take_drop, toUTF8_eq, split,
      List.append_assoc, List.flatMap_append, List.flatMap_append, back,
      List.drop_left' (length_flatMap_utf8EncodeChar first), List.take_length_add_append]
  rw [headsIn, bytes, List.countP_append, countP_flatMap_utf8EncodeChar]
  congr 1
  cases after with
  | nil =>
      have none : more = 0 := Nat.le_zero.1 inside
      simp [none]
  | cons c after =>
      have short : more ≤ (String.utf8EncodeChar c).length := by
        have := next c rfl
        rw [String.length_utf8EncodeChar]
        omega
      rw [List.flatMap_cons, List.take_append_of_le_length short, countP_take_utf8EncodeChar]
      simp

/-- Without the character that the offset lies inside of, they are the characters that the second
leading part has more. -/
theorem length_between {text : String} {first between after : List Char} {offset : Nat}
    (split : text.toList = first ++ between ++ after)
    (under : EndsUnder (first ++ between) after offset) (inside : offset ≤ text.utf8ByteSize) :
    (if isBoundary text.toList offset then headsIn text (byteLength first) offset
      else headsIn text (byteLength first) offset - 1) = between.length := by
  have boundary := isBoundary_iff under
  rw [← split] at boundary
  rw [headsIn_append split under inside]
  simp only [boundary]
  split <;> simp

end ExprTree.Text
