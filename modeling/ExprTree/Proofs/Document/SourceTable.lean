/-
# ExprTree.Proofs.Document.SourceTable — numbering by first visit

The table of a tree is what is left of its units, in the order of a walk, when each one is kept at
its first visit only (`sourceTable_eq_eraseDups`). Numbering by first visit does not depend on what
is numbered: a change that keeps different entries apart changes no number (`idxOf_eraseDups_map`).
So the numbers tell where a row repeats its entries, and nothing else (`numbering_eq_iff`); with a
table of what is said of the entries, they tell what is said along the row too
(`table_and_numbering_eq_iff`).
-/
import ExprTree.Document.Encode
import Mathlib.Data.List.Basic
import Mathlib.Data.List.Induction

namespace ExprTree

set_option autoImplicit false

/-! ## First visits -/

section FirstVisits

variable {α β : Type} [DecidableEq α] [DecidableEq β]

theorem eraseDups_concat (front : List α) (last : α) :
    (front ++ [last]).eraseDups =
      if last ∈ front then front.eraseDups else front.eraseDups ++ [last] := by
  rw [List.eraseDups_append, List.removeAll]
  by_cases known : last ∈ front
  · simp [known]
  · simp [known, List.eraseDups_cons]

/-- First visits are those of the images, when different entries have different images. -/
theorem eraseDups_map_of_inj {f : α → β} {entries : List α}
    (apart : ∀ a ∈ entries, ∀ b ∈ entries, f a = f b → a = b) :
    (entries.map f).eraseDups = entries.eraseDups.map f := by
  induction entries using List.reverseRec with
  | nil => rfl
  | append_singleton front last ih =>
      have known : f last ∈ front.map f ↔ last ∈ front := by
        rw [List.mem_map]
        constructor
        · rintro ⟨a, member, same⟩
          rwa [← apart a (by simp [member]) last (by simp) same]
        · exact fun member => ⟨last, member, rfl⟩
      rw [List.map_append, List.map_singleton, eraseDups_concat, eraseDups_concat,
        ih fun a member b member' => apart a (by simp [member]) b (by simp [member'])]
      simp only [known]
      split
      · rfl
      · rw [List.map_append, List.map_singleton]

theorem idxOf_map_of_inj {f : α → β} {entries : List α} {a : α}
    (apart : ∀ b ∈ entries, f b = f a → b = a) :
    (entries.map f).idxOf (f a) = entries.idxOf a := by
  induction entries with
  | nil => rfl
  | cons b rest ih =>
      rw [List.map_cons]
      by_cases first : b = a
      · rw [first, List.idxOf_cons_self, List.idxOf_cons_self]
      · have images : f b ≠ f a := fun same => first (apart b (by simp) same)
        rw [List.idxOf_cons_ne _ first, List.idxOf_cons_ne _ images,
          ih fun c member => apart c (by simp [member])]

/-- First visits are numbered alike before and after. -/
theorem idxOf_eraseDups_map {f : α → β} {entries : List α}
    (apart : ∀ a ∈ entries, ∀ b ∈ entries, f a = f b → a = b) {a : α} (member : a ∈ entries) :
    (entries.map f).eraseDups.idxOf (f a) = entries.eraseDups.idxOf a := by
  rw [eraseDups_map_of_inj apart]
  exact idxOf_map_of_inj fun b visited same =>
    apart b (List.mem_eraseDups.1 visited) a member same

/-- The table holds the entries of a row once each, in the order in which they first occur. -/
structure FirstVisits (row table : List α) : Prop where
  mem_iff : ∀ a, a ∈ table ↔ a ∈ row
  once : table.Nodup
  inOrder : table.Pairwise fun a b => row.idxOf a < row.idxOf b

theorem pairwise_idxOf_eraseDups (row : List α) :
    row.eraseDups.Pairwise fun a b => row.idxOf a < row.idxOf b := by
  induction row using List.reverseRec with
  | nil => exact .nil
  | append_singleton front last ih =>
      have kept : front.eraseDups.Pairwise fun a b =>
          (front ++ [last]).idxOf a < (front ++ [last]).idxOf b := by
        refine ih.imp_of_mem fun member member' before => ?_
        rwa [List.idxOf_append_of_mem (List.mem_eraseDups.1 member),
          List.idxOf_append_of_mem (List.mem_eraseDups.1 member')]
      rw [eraseDups_concat]
      split
      next known => exact kept
      next new =>
        refine List.pairwise_append.2
          ⟨kept, List.pairwise_singleton _ _, fun a member b last' => ?_⟩
        rw [List.mem_singleton.1 last', List.idxOf_append_of_notMem new,
          List.idxOf_append_of_mem (List.mem_eraseDups.1 member)]
        exact Nat.lt_add_right _ (List.idxOf_lt_length_iff.2 (List.mem_eraseDups.1 member))

theorem firstVisits_eraseDups (row : List α) : FirstVisits row row.eraseDups where
  mem_iff _ := List.mem_eraseDups
  once := (pairwise_idxOf_eraseDups row).imp fun before same => by simp [same] at before
  inOrder := pairwise_idxOf_eraseDups row

/-! ### Numbering by first visit -/

/-- The number of each entry of a row, entries being numbered by first visit. -/
def numbering (row : List α) : List Nat :=
  row.map fun a => row.eraseDups.idxOf a

/-- Two rows repeat their entries at the same places. -/
def SamePattern {α β : Type} (row : List α) (other : List β) : Prop :=
  ∀ i j : Nat, row[i]? = row[j]? ↔ other[i]? = other[j]?

/-- A row repeats its images where it repeats its entries, when different entries have different
images. -/
theorem samePattern_map_of_inj {α β : Type} {f : α → β} {row : List α}
    (apart : ∀ a ∈ row, ∀ b ∈ row, f a = f b → a = b) : SamePattern row (row.map f) := by
  intro i j
  rw [List.getElem?_map, List.getElem?_map]
  refine ⟨fun same => by rw [same], fun same => ?_⟩
  cases first : row[i]? with
  | none =>
      cases second : row[j]? with
      | none => rfl
      | some b => simp [first, second] at same
  | some a =>
      cases second : row[j]? with
      | none => simp [first, second] at same
      | some b =>
          have images : f a = f b := by simpa [first, second] using same
          rw [apart a (List.mem_of_getElem? first) b (List.mem_of_getElem? second) images]

/-- Rows of one pattern end at the same place. -/
theorem SamePattern.getElem?_eq_none_iff {α β : Type} {row : List α} {other : List β}
    (pattern : SamePattern row other) (i : Nat) : row[i]? = none ↔ other[i]? = none := by
  have behind := pattern i (row.length + other.length)
  rwa [List.getElem?_eq_none (Nat.le_add_right _ _),
    List.getElem?_eq_none (Nat.le_add_left _ _)] at behind

/-- A row of the same pattern consists of images of the entries, different ones for different
entries. -/
theorem SamePattern.exists_map {β : Type} {row : List α} {other : List β}
    (pattern : SamePattern row other) :
    ∃ f : α → Option β, row.map f = other.map some ∧
      ∀ a ∈ row, ∀ b ∈ row, f a = f b → a = b := by
  refine ⟨fun a => other[row.idxOf a]?, List.ext_getElem? fun i => ?_, ?_⟩
  · rw [List.getElem?_map, List.getElem?_map]
    cases entry : row[i]? with
    | none =>
        rw [(pattern.getElem?_eq_none_iff i).1 entry]
        rfl
    | some a =>
        have first : row[row.idxOf a]? = row[i]? := by
          rw [List.getElem?_idxOf (List.mem_of_getElem? entry), entry]
        have found : other[i]? ≠ none := by
          rw [Ne, ← pattern.getElem?_eq_none_iff, entry]
          exact Option.some_ne_none a
        obtain ⟨b, found⟩ := Option.ne_none_iff_exists'.1 found
        rw [Option.map_some, (pattern _ _).1 first, found]
        rfl
  · intro a member b member' same
    have places := (pattern _ _).2 same
    rw [List.getElem?_idxOf member, List.getElem?_idxOf member'] at places
    exact Option.some.inj places

theorem numbering_map_of_inj {f : α → β} {row : List α}
    (apart : ∀ a ∈ row, ∀ b ∈ row, f a = f b → a = b) :
    numbering (row.map f) = numbering row := by
  rw [numbering, numbering, List.map_map]
  exact List.map_congr_left fun a member => idxOf_eraseDups_map apart member

theorem samePattern_numbering (row : List α) : SamePattern row (numbering row) :=
  samePattern_map_of_inj fun _ member _ _ same =>
    (List.idxOf_inj (List.mem_eraseDups.2 member)).1 same

/-- Two rows are numbered alike exactly if they repeat their entries at the same places. -/
theorem numbering_eq_iff {row : List α} {other : List β} :
    numbering row = numbering other ↔ SamePattern row other := by
  constructor
  · intro same i j
    rw [samePattern_numbering row i j, same, ← samePattern_numbering other i j]
  · intro pattern
    obtain ⟨f, images, apart⟩ := pattern.exists_map
    rw [← numbering_map_of_inj apart, images,
      numbering_map_of_inj fun _ _ _ _ same => Option.some.inj same]

/-- What a table says of the entries of a row is found by their numbers. -/
theorem map_getElem?_numbering {γ : Type} (say : α → γ) (row : List α) :
    (numbering row).map ((row.eraseDups.map say)[·]?) = (row.map say).map some := by
  rw [numbering, List.map_map, List.map_map]
  refine List.map_congr_left fun a member => ?_
  rw [Function.comp_apply, List.getElem?_map, List.getElem?_idxOf (List.mem_eraseDups.2 member)]
  rfl

/-- A table of what is said of the entries and the numbers of the entries tell what is said along
the row and where the row repeats its entries, and nothing else. -/
theorem table_and_numbering_eq_iff {γ : Type} {say : α → γ} {row other : List α} :
    row.eraseDups.map say = other.eraseDups.map say ∧ numbering row = numbering other ↔
      row.map say = other.map say ∧ SamePattern row other := by
  have some_inj {δ : Type} {l l' : List δ} : l.map some = l'.map some ↔ l = l' :=
    List.map_inj_right fun _ _ => Option.some.inj
  rw [numbering_eq_iff]
  refine and_congr_left fun pattern => ⟨fun tables => ?_, fun rows => ?_⟩
  · rw [← some_inj, ← map_getElem?_numbering, ← map_getElem?_numbering, tables,
      numbering_eq_iff.2 pattern]
  · obtain ⟨f, images, apart⟩ := pattern.exists_map
    have each : row.map (some ∘ say) = row.map (Option.map say ∘ f) :=
      calc row.map (some ∘ say)
        _ = (other.map say).map some := by rw [← rows, List.map_map]
        _ = (other.map some).map (Option.map say) := by rw [List.map_map, List.map_map]; rfl
        _ = row.map (Option.map say ∘ f) := by rw [← images, List.map_map]
    have said := List.map_inj_left.1 each
    rw [← some_inj]
    calc (row.eraseDups.map say).map some
      _ = (row.eraseDups.map f).map (Option.map say) := by
        rw [List.map_map, List.map_map]
        exact List.map_congr_left fun a visited => said a (List.mem_eraseDups.1 visited)
      _ = (other.eraseDups.map some).map (Option.map say) := by
        rw [← eraseDups_map_of_inj apart, images,
          eraseDups_map_of_inj fun _ _ _ _ same => Option.some.inj same]
      _ = (other.eraseDups.map say).map some := by
        rw [List.map_map, List.map_map]
        rfl

end FirstVisits

/-- What an entry looks up stands at the place of the entry, when all look-ups succeed. -/
theorem getElem?_filterMap_idxOf {α β : Type} [DecidableEq α] {look : α → Option β}
    {entries : List α} {a : α} (found : ∀ b ∈ entries, (look b).isSome) (member : a ∈ entries) :
    (entries.filterMap look)[entries.idxOf a]? = look a := by
  induction entries with
  | nil => cases member
  | cons b rest ih =>
      rw [List.forall_mem_cons] at found
      obtain ⟨entry, looked⟩ := Option.isSome_iff_exists.1 found.1
      rw [List.filterMap_cons_some looked]
      by_cases first : b = a
      · rw [first, List.idxOf_cons_self, List.getElem?_cons_zero, ← looked, first]
      · have later : a ∈ rest := (List.mem_cons.1 member).resolve_left (Ne.symm first)
        rw [List.idxOf_cons_ne _ first, List.getElem?_cons_succ, ih found.2 later]

/-! ## The table of a tree -/

/-- The table of a tree holds its units in the order of first visit. -/
theorem Expr.sourceTable_eq_eraseDups (expr : Expr) :
    expr.sourceTable = expr.carriedSources.eraseDups := by
  rw [sourceTable]
  induction expr.carriedSources using List.reverseRec with
  | nil => rfl
  | append_singleton front last ih =>
      rw [List.foldl_concat, ih, eraseDups_concat, enter]
      simp only [List.mem_eraseDups]

/-- The table of a tree holds the units of its leaves and lists, and nothing else. -/
theorem Expr.mem_sourceTable_iff {expr : Expr} {unit : Source} :
    unit ∈ expr.sourceTable ↔ unit ∈ expr.carriedSources := by
  rw [sourceTable_eq_eraseDups, List.mem_eraseDups]

end ExprTree
