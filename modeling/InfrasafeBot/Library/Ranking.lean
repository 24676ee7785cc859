import Mathlib.Data.List.Sort

/-! Sorting by a rank: what comes first, and when the order of the collection does not
matter. -/

set_option autoImplicit false

namespace InfrasafeBot.Library

variable {Item : Type} {rank : Item → Nat} {items others rest : List Item} {first : Item}

def sortByRank (rank : Item → Nat) (items : List Item) : List Item :=
  items.insertionSort fun left right => rank left ≤ rank right

theorem least_of_insertionSort {precedes : Item → Item → Prop} [DecidableRel precedes]
    [Std.Total precedes] [IsTrans Item precedes]
    (sorted : items.insertionSort precedes = first :: rest) :
    first ∈ items ∧ ∀ item ∈ items, precedes first item := by
  have same := List.perm_insertionSort precedes items
  have ordered := List.pairwise_insertionSort precedes items
  rw [sorted] at same ordered
  refine ⟨same.subset List.mem_cons_self, ?_⟩
  intro item member
  rcases List.mem_cons.mp (same.symm.subset member) with rfl | later
  · exact (Std.Total.total item item).elim id id
  · exact List.rel_of_pairwise_cons ordered later

section

variable {Key : Type} [LinearOrder Key] {key : Item → Key}

theorem key_total : Std.Total fun left right : Item => key left ≤ key right :=
  ⟨fun left right => le_total (key left) (key right)⟩

theorem key_trans : IsTrans Item fun left right => key left ≤ key right :=
  ⟨fun _ _ _ below above => le_trans below above⟩

theorem least_of_head?
    (found : (items.insertionSort fun left right => key left ≤ key right).head? = some first) :
    first ∈ items ∧ ∀ item ∈ items, key first ≤ key item := by
  have total := @key_total Item Key _ key
  have trans := @key_trans Item Key _ key
  obtain ⟨rest, sorted⟩ := List.head?_eq_some_iff.mp found
  exact least_of_insertionSort sorted

theorem head?_insertionSort_eq_none_iff :
    (items.insertionSort fun left right => key left ≤ key right).head? = none ↔ items = [] := by
  rw [List.head?_eq_none_iff, ← List.length_eq_zero_iff, List.length_insertionSort, List.length_eq_zero_iff]

end

theorem sortByRank_perm : (sortByRank rank items).Perm items := List.perm_insertionSort _ items

theorem sortByRank_pairwise :
    (sortByRank rank items).Pairwise fun left right => rank left ≤ rank right := by
  have total := @key_total Item Nat _ rank
  have trans := @key_trans Item Nat _ rank
  exact List.pairwise_insertionSort _ items

theorem least_of_sortByRank (sorted : sortByRank rank items = first :: rest) :
    first ∈ items ∧ ∀ item ∈ items, rank first ≤ rank item :=
  least_of_head? (List.head?_eq_some_iff.mpr ⟨rest, sorted⟩)

theorem sortByRank_eq_nil_iff : sortByRank rank items = [] ↔ items = [] := by
  rw [← List.head?_eq_none_iff]
  exact head?_insertionSort_eq_none_iff

theorem sortByRank_eq_of_perm
    (untied : ∀ left ∈ items, ∀ right ∈ items, rank left = rank right → left = right)
    (same : items.Perm others) : sortByRank rank items = sortByRank rank others := by
  refine List.Perm.eq_of_pairwise ?_ sortByRank_pairwise sortByRank_pairwise
    (sortByRank_perm.trans (same.trans sortByRank_perm.symm))
  intro left right inLeft inRight below above
  refine untied left (sortByRank_perm.subset inLeft) right
    (same.symm.subset (sortByRank_perm.subset inRight)) ?_
  exact Nat.le_antisymm below above

end InfrasafeBot.Library
