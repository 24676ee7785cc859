import Mathlib.Algebra.Order.BigOperators.Group.List
import Mathlib.Tactic.Abel

/-! Sums over the rows a condition selects, as `SELECT sum(amount) ... WHERE` takes
them. -/

set_option autoImplicit false

namespace InfrasafeBot.Library

variable {Row Amount : Type} [AddCommMonoid Amount]

def sumOf (selects : Row → Bool) (amount : Row → Amount) (rows : List Row) : Amount :=
  ((rows.filter selects).map amount).sum

variable {selects : Row → Bool} {amount : Row → Amount} {rows : List Row}

@[simp] theorem sumOf_nil : sumOf selects amount [] = 0 := rfl

theorem sumOf_cons {row : Row} : sumOf selects amount (row :: rows) =
    (if selects row then amount row else 0) + sumOf selects amount rows := by
  cases hit : selects row with
  | true | false => simp [sumOf, hit]

theorem sumOf_append {more : List Row} : sumOf selects amount (rows ++ more) =
    sumOf selects amount rows + sumOf selects amount more := by
  simp [sumOf]

theorem sumOf_eq_sum_ite : sumOf selects amount rows =
    (rows.map fun row => if selects row then amount row else 0).sum := by
  induction rows with
  | nil => rfl
  | cons row rest ih => rw [sumOf_cons, ih, List.map_cons, List.sum_cons]

theorem sumOf_eq_zero (unselected : ∀ row ∈ rows, selects row = false) : sumOf selects amount rows = 0 := by
  have none : rows.filter selects = [] := by simpa using unselected
  simp [sumOf, none]

theorem sumOf_of_all (selected : ∀ row ∈ rows, selects row = true) :
    sumOf selects amount rows = (rows.map amount).sum := by
  have all : rows.filter selects = rows := by simpa using selected
  simp [sumOf, all]

theorem sumOf_forall₂ {Other : Type} {chooses : Other → Bool} {share : Other → Amount}
    {others : List Other}
    (agree : List.Forall₂ (fun row other =>
      selects row = chooses other ∧ amount row = share other) rows others) :
    sumOf selects amount rows = sumOf chooses share others := by
  induction agree with
  | nil => rfl
  | cons first rest ih => rw [sumOf_cons, sumOf_cons, first.1, first.2, ih]

theorem sumOf_nonneg [Preorder Amount] [AddLeftMono Amount]
    (nonneg : ∀ row ∈ rows, 0 ≤ amount row) : 0 ≤ sumOf selects amount rows := by
  apply List.sum_nonneg
  intro share listed
  obtain ⟨row, kept, rfl⟩ := List.mem_map.mp listed
  exact nonneg row (List.mem_of_mem_filter kept)

section

variable {Key : Type} [DecidableEq Key] {key : Row → Key} {keys : List Key}

theorem sum_indicator {wanted : Key} (distinct : keys.Nodup) (listed : wanted ∈ keys)
    (share : Amount) : (keys.map fun key => if wanted = key then share else 0).sum = share := by
  induction keys with
  | nil => cases listed
  | cons key rest ih =>
    obtain ⟨fresh, tail⟩ := List.nodup_cons.mp distinct
    rw [List.map_cons, List.sum_cons]
    rcases List.mem_cons.mp listed with rfl | later
    · have none : ∀ other ∈ rest, (if wanted = other then share else 0) = 0 :=
        fun other member => if_neg fun (same : wanted = other) => fresh (same ▸ member)
      rw [if_pos rfl, List.map_congr_left none]
      simp
    · have other : wanted ≠ key := fun same => fresh (same ▸ later)
      rw [if_neg other, zero_add, ih tail later]

theorem sum_sumOf_keys (distinct : keys.Nodup) (covered : ∀ row ∈ rows, key row ∈ keys) :
    (keys.map fun wanted => sumOf (fun row => key row = wanted) amount rows).sum =
      (rows.map amount).sum := by
  induction rows with
  | nil => simp
  | cons row rest ih =>
    obtain ⟨here, later⟩ := List.forall_mem_cons.mp covered
    simp only [sumOf_cons, decide_eq_true_eq, List.sum_map_add, List.map_cons, List.sum_cons]
    rw [ih later, sum_indicator distinct here]

end

section

variable {Balance : Type} [AddCommGroup Balance] {value change extra : Row → Balance} {first : Row}
  {rest : List Row}

theorem sum_of_chain
    (steps : List.IsChain (fun earlier later =>
      change later = value later - value earlier + extra later) (first :: rest)) :
    (rest.map change).sum =
      value ((first :: rest).getLast (List.cons_ne_nil _ _)) - value first +
        (rest.map extra).sum := by
  induction rest generalizing first with
  | nil => simp
  | cons second rest ih =>
    obtain ⟨step, later⟩ := List.isChain_cons_cons.mp steps
    rw [List.map_cons, List.sum_cons, ih later, List.map_cons, List.sum_cons, step,
      List.getLast_cons (List.cons_ne_nil _ _)]
    abel

end

end InfrasafeBot.Library
