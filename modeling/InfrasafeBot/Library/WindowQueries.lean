import Mathlib.Data.List.Dedup
import InfrasafeBot.Library.Table

/-! Queries that order their rows by a key, the greatest first: a limit of one row, and
`row_number()` over the rows of each part. Rows of one key come in any order, which may be
another one in every query. -/

set_option autoImplicit false

namespace InfrasafeBot.Library

/-- How an engine orders rows by a key, `DESC`. -/
structure Descending {Row : Type} (key : Row → Nat) where
  arrange : List Row → List Row
  perm : ∀ rows, (arrange rows).Perm rows
  sorted : ∀ rows, (arrange rows).Pairwise fun left right => key right ≤ key left

namespace Descending

variable {Row Part : Type} [DecidableEq Part] {key : Row → Nat} {engine : Descending key}
  {part : Row → Part} {selects : Row → Bool} {rows : List Row} {row : Row}

def first (engine : Descending key) (rows : List Row) : Option Row := (engine.arrange rows).head?

def rowNumbers (engine : Descending key) (part : Row → Part) (rows : List Row) : List (Row × Nat) :=
  (rows.map part).dedup.flatMap fun value =>
    (engine.arrange (rows.filter fun row => part row = value)).zipIdx 1

theorem first_eq_none_iff : engine.first rows = none ↔ rows = [] := by
  rw [first, List.head?_eq_none_iff, ← List.length_eq_zero_iff, (engine.perm rows).length_eq,
    List.length_eq_zero_iff]

theorem first_spec (found : engine.first rows = some row) :
    row ∈ rows ∧ ∀ other ∈ rows, key other ≤ key row := by
  obtain ⟨rest, arranged⟩ := List.head?_eq_some_iff.mp found
  have same := engine.perm rows
  have sorted := engine.sorted rows
  rw [arranged] at same sorted
  refine ⟨same.subset List.mem_cons_self, fun other listed => ?_⟩
  rcases List.mem_cons.mp (same.symm.subset listed) with rfl | later
  · exact Nat.le_refl _
  · exact List.rel_of_pairwise_cons sorted later

theorem first_eq_latest (ordered : Ordered key selects rows) :
    engine.first (rows.filter selects) = latest key selects rows := by
  cases found : engine.first (rows.filter selects) with
  | none =>
    refine (latest_eq_none_iff.mpr fun row listed => ?_).symm
    have missed := List.filter_eq_nil_iff.mp (first_eq_none_iff.mp found) row listed
    exact Bool.eq_false_of_not_eq_true missed
  | some row =>
    obtain ⟨kept, above⟩ := first_spec found
    obtain ⟨listed, selected⟩ := List.mem_filter.mp kept
    refine (latest_eq_some ordered listed selected fun other otherListed otherSelected => ?_).symm
    exact above other (List.mem_filter.mpr ⟨otherListed, otherSelected⟩)

theorem rowNumbers_one_iff : (row, 1) ∈ engine.rowNumbers part rows ↔
    engine.first (rows.filter fun other => part other = part row) = some row := by
  unfold rowNumbers first
  rw [List.mem_flatMap]
  constructor
  · rintro ⟨value, _, numbered⟩
    have head := List.mem_zipIdx_iff_le_and_getElem?_sub.mp numbered
    have found : (engine.arrange (rows.filter fun other => part other = value)).head? =
        some row := by
      rw [List.head?_eq_getElem?]
      exact head.2
    obtain ⟨kept, _⟩ := first_spec found
    have own : part row = value := of_decide_eq_true (List.mem_filter.mp kept).2
    rw [own]
    exact found
  · intro found
    obtain ⟨kept, _⟩ := first_spec found
    refine ⟨part row, List.mem_dedup.mpr (List.mem_map_of_mem (List.mem_filter.mp kept).1), ?_⟩
    refine List.mem_zipIdx_iff_le_and_getElem?_sub.mpr ⟨Nat.le_refl 1, ?_⟩
    rw [List.head?_eq_getElem?] at found
    exact found

end Descending

def dictOf {Row Key : Type} [DecidableEq Key] (key : Row → Key) (rows : List Row) : Key → Option Row :=
  rows.foldl (fun dict row => Function.update dict (key row) (some row)) fun _ => none

section

variable {Row Key : Type} [DecidableEq Key] {key : Row → Key} {rows : List Row} {row : Row}
  {wanted : Key}

theorem dictOf_eq_getLast? :
    dictOf key rows wanted = (rows.filter fun row => key row = wanted).getLast? := by
  induction rows using List.reverseRecOn with
  | nil => rfl
  | append_singleton earlier last ih =>
    unfold dictOf at ih ⊢
    rw [List.foldl_append, List.foldl_cons, List.foldl_nil, List.filter_append]
    by_cases hit : key last = wanted
    · subst hit
      rw [Function.update_self, List.filter_cons_of_pos (by simp), List.filter_nil, List.getLast?_concat]
    · rw [Function.update_of_ne (Ne.symm hit), List.filter_cons_of_neg (by simpa using hit),
        List.filter_nil, List.append_nil, ih]

theorem dictOf_eq_some_iff
    (distinct : ∀ left ∈ rows, ∀ right ∈ rows, key left = key right → left = right) :
    dictOf key rows wanted = some row ↔ row ∈ rows ∧ key row = wanted := by
  rw [dictOf_eq_getLast?]
  constructor
  · intro found
    have kept := List.mem_filter.mp (List.mem_of_getLast? found)
    exact ⟨kept.1, of_decide_eq_true kept.2⟩
  · rintro ⟨listed, rfl⟩
    have kept : row ∈ rows.filter fun other => key other = key row := List.mem_filter.mpr ⟨listed, by simp⟩
    cases last : (rows.filter fun other => key other = key row).getLast? with
    | none => simp [List.getLast?_eq_none_iff.mp last] at kept
    | some other =>
      obtain ⟨otherListed, same⟩ := List.mem_filter.mp (List.mem_of_getLast? last)
      rw [distinct other otherListed row listed (of_decide_eq_true same)]

end

end InfrasafeBot.Library
