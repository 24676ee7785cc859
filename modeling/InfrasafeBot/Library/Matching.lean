import Mathlib.Algebra.BigOperators.Fin

/-! Places by keys: where no key is more frequent among the items than among the places, every
item can be given a place of its own. -/

set_option autoImplicit false

namespace InfrasafeBot.Library

section

variable {Item Place Key : Type} [DecidableEq Place] [BEq Key] [LawfulBEq Key] {itemKey : Item → Key}
  {placeKey : Place → Key} {items : List Item} {places : List Place}

omit [LawfulBEq Key] in
theorem count_map_erase {place : Place} (listed : place ∈ places) (key : Key) :
    (places.map placeKey).count key =
      ((places.erase place).map placeKey).count key + if placeKey place == key then 1 else 0 := by
  have same := ((List.perm_cons_erase listed).map placeKey).count_eq key
  rw [same, List.map_cons, List.count_cons]

theorem exists_places {relates : Item → Place → Prop}
    (fits : ∀ item ∈ items, ∀ place, itemKey item = placeKey place → relates item place)
    (room : ∀ key, (items.map itemKey).count key ≤ (places.map placeKey).count key) :
    ∃ chosen, List.Forall₂ relates items chosen ∧ chosen.Subperm places := by
  induction items generalizing places with
  | nil => exact ⟨[], .nil, List.nil_subperm⟩
  | cons item rest ih =>
    have own := room (itemKey item)
    rw [List.map_cons, List.count_cons_self] at own
    obtain ⟨place, listed, same⟩ := List.mem_map.mp
      (List.count_pos_iff.mp (Nat.lt_of_lt_of_le (Nat.succ_pos _) own))
    have less : ∀ key, (rest.map itemKey).count key ≤
        ((places.erase place).map placeKey).count key := by
      intro key
      have bound := room key
      rw [count_map_erase listed, same, List.map_cons, List.count_cons] at bound
      exact Nat.le_of_add_le_add_right bound
    obtain ⟨chosen, placed, among⟩ :=
      ih (fun later member => fits later (List.mem_cons_of_mem _ member)) less
    refine ⟨place :: chosen, .cons (fits item List.mem_cons_self place same.symm) placed, ?_⟩
    exact (List.subperm_cons place |>.mpr among).trans (List.perm_cons_erase listed).symm.subperm

end

section

variable {n : Nat} {Stage : Type}

def workersAt (counts : Stage → Bool) (stages : Fin n → Stage) : Nat :=
  ∑ worker, (counts (stages worker)).toNat

theorem workersAt_update (counts : Stage → Bool) (stages : Fin n → Stage) (worker : Fin n)
    (stage : Stage) :
    workersAt counts (Function.update stages worker stage) + (counts (stages worker)).toNat =
      workersAt counts stages + (counts stage).toNat := by
  unfold workersAt
  rw [← Finset.add_sum_erase _ _ (Finset.mem_univ worker),
    ← Finset.add_sum_erase Finset.univ (fun other => (counts (stages other)).toNat)
      (Finset.mem_univ worker), Function.update_self]
  have others : ∑ other ∈ Finset.univ.erase worker,
      (counts (Function.update stages worker stage other)).toNat =
        ∑ other ∈ Finset.univ.erase worker, (counts (stages other)).toNat := by
    refine Finset.sum_congr rfl fun other listed => ?_
    rw [Function.update_of_ne (Finset.ne_of_mem_erase listed)]
  omega

theorem countP_set_add {stages : List Stage} {index : Nat} {before : Stage}
    (found : stages[index]? = some before) (counts : Stage → Bool) (after : Stage) :
    (stages.set index after).countP counts + (counts before).toNat =
      stages.countP counts + (counts after).toNat := by
  induction stages generalizing index with
  | nil => cases found
  | cons first rest ih =>
    cases index with
    | zero =>
      obtain rfl : first = before := by simpa using found
      simp only [List.set_cons_zero, List.countP_cons, Bool.toNat, Bool.cond_eq_ite]
      omega
    | succ index =>
      have moved := ih (by simpa using found)
      simp only [List.set_cons_succ, List.countP_cons]
      omega

end

end InfrasafeBot.Library
