import Mathlib.Algebra.BigOperators.Group.List.Basic
import Mathlib.Tactic.Linarith

/-! Loads that are levelled: one unit at a time goes from a holder to another one who has at
least two units less. -/

set_option autoImplicit false

namespace InfrasafeBot.Library

/-- The sum is kept, no load is above all that were or below all that were, and the sum of
the squares is less. -/
structure Levelled (before after : List Nat) : Prop where
  sum : after.sum = before.sum
  max : ∀ load ∈ after, ∃ other ∈ before, load ≤ other
  min : ∀ load ∈ after, ∃ other ∈ before, other ≤ load
  squares : (after.map (· ^ 2)).sum < (before.map (· ^ 2)).sum

namespace Levelled

variable {before middle after : List Nat}

theorem trans (first : Levelled before middle) (second : Levelled middle after) :
    Levelled before after where
  sum := second.sum.trans first.sum
  max := by
    intro load listed
    obtain ⟨other, held, most⟩ := second.max load listed
    obtain ⟨former, initial, more⟩ := first.max other held
    exact ⟨former, initial, most.trans more⟩
  min := by
    intro load listed
    obtain ⟨other, held, least⟩ := second.min load listed
    obtain ⟨former, initial, less⟩ := first.min other held
    exact ⟨former, initial, less.trans least⟩
  squares := second.squares.trans first.squares

theorem perm {earlier later : List Nat} (levelled : Levelled before after)
    (left : before.Perm earlier) (right : after.Perm later) : Levelled earlier later where
  sum := by rw [← right.sum_eq, ← left.sum_eq, levelled.sum]
  max := by
    intro load listed
    obtain ⟨other, held, most⟩ := levelled.max load (right.symm.subset listed)
    exact ⟨other, left.subset held, most⟩
  min := by
    intro load listed
    obtain ⟨other, held, least⟩ := levelled.min load (right.symm.subset listed)
    exact ⟨other, left.subset held, least⟩
  squares := by
    rw [← (right.map (· ^ 2)).sum_eq, ← (left.map (· ^ 2)).sum_eq]
    exact levelled.squares

theorem of_unit {high low : Nat} (rest : List Nat) (gap : low < high) :
    Levelled ((high + 1) :: low :: rest) (high :: (low + 1) :: rest) where
  sum := by
    simp only [List.sum_cons]
    omega
  max := by
    intro load listed
    rcases List.mem_cons.mp listed with rfl | listed
    · exact ⟨load + 1, by simp, by omega⟩
    · rcases List.mem_cons.mp listed with rfl | listed
      · exact ⟨high + 1, by simp, by omega⟩
      · exact ⟨load, by simp [listed], le_rfl⟩
  min := by
    intro load listed
    rcases List.mem_cons.mp listed with rfl | listed
    · exact ⟨low, by simp, by omega⟩
    · rcases List.mem_cons.mp listed with rfl | listed
      · exact ⟨low, by simp, by omega⟩
      · exact ⟨load, by simp [listed], le_rfl⟩
  squares := by
    simp only [List.map_cons, List.sum_cons]
    nlinarith

theorem max?_le (levelled : Levelled before after) : after.max?.getD 0 ≤ before.max?.getD 0 := by
  cases most : after.max? with
  | none => exact Nat.zero_le _
  | some load =>
    obtain ⟨other, held, above⟩ := levelled.max load (List.max?_mem most)
    cases former : before.max? with
    | none =>
      rw [List.max?_eq_none_iff.mp former] at held
      cases held
    | some greatest => exact above.trans ((List.max?_eq_some_iff.mp former).2 other held)

theorem le_min? (levelled : Levelled before after) (filled : after ≠ []) :
    before.min?.getD 0 ≤ after.min?.getD 0 := by
  cases least : after.min? with
  | none => exact absurd (List.min?_eq_none_iff.mp least) filled
  | some load =>
    obtain ⟨other, held, below⟩ := levelled.min load (List.min?_mem least)
    cases former : before.min? with
    | none => exact Nat.zero_le _
    | some smallest => exact ((List.min?_eq_some_iff.mp former).2 other held).trans below

end Levelled

variable {Holder : Type} [DecidableEq Holder] {holders : List Holder} {giver taker : Holder}
  {before after : Holder → Nat}

theorem levelled_of_move (unique : holders.Nodup) (gives : giver ∈ holders)
    (takes : taker ∈ holders) (given : after giver + 1 = before giver)
    (taken : after taker = before taker + 1)
    (others : ∀ holder, holder ≠ giver → holder ≠ taker → after holder = before holder)
    (gap : before taker + 2 ≤ before giver) :
    Levelled (holders.map before) (holders.map after) := by
  have different : taker ≠ giver := by
    intro same
    rw [same] at gap
    omega
  have remains : taker ∈ holders.erase giver := (List.mem_erase_of_ne different).mpr takes
  have pair : holders.Perm (giver :: taker :: (holders.erase giver).erase taker) :=
    (List.perm_cons_erase gives).trans ((List.perm_cons_erase remains).cons giver)
  have rest : ((holders.erase giver).erase taker).map after =
      ((holders.erase giver).erase taker).map before := by
    refine List.map_congr_left fun holder listed => ?_
    obtain ⟨untaken, listed⟩ := (unique.erase giver).mem_erase_iff.mp listed
    exact others holder (unique.mem_erase_iff.mp listed).1 untaken
  have step := Levelled.of_unit (((holders.erase giver).erase taker).map before)
    (show before taker < after giver by omega)
  refine step.perm ?_ ?_
  · rw [given]
    exact (pair.map before).symm
  · rw [← taken, ← rest]
    exact (pair.map after).symm

end InfrasafeBot.Library
