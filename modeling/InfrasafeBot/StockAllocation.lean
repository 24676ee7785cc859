import InfrasafeBot.StockLedger

/-! The allocation of a demand over the lots in their order: lots are emptied one after the
other, and only the last one drawn from may keep something. -/

set_option autoImplicit false

namespace InfrasafeBot.MaterialService

open Library

section

variable {value bound : Decimal}

theorem natAbs_roundHalfUp (value : Decimal) : ((roundHalfUp value).natAbs : Int) = ⌊|value| + 1 / 2⌋ := by
  have rounded : 0 ≤ ⌊|value| + 1 / 2⌋ := Int.floor_nonneg.mpr (by linarith [abs_nonneg value])
  unfold roundHalfUp
  split
  · next nonneg =>
      rw [abs_of_nonneg nonneg] at rounded ⊢
      exact Int.natAbs_of_nonneg rounded
  · next negative =>
      rw [abs_of_neg (not_le.mp negative)] at rounded ⊢
      rw [Int.natAbs_neg]
      exact Int.natAbs_of_nonneg rounded

theorem money_eq_ok_iff {rounded : Decimal} : money value = .ok rounded ↔
    (roundHalfUp (value * 100)).natAbs < 10 ^ contextPrecision ∧
      rounded = roundHalfUp (value * 100) / 100 := by
  unfold money quantized
  split
  · next wide => simp [Nat.not_lt.mpr wide]
  · next narrow => simp [Nat.lt_of_not_le narrow, eq_comm]

theorem money_of_le {amount : Decimal} (smaller : |value| ≤ |bound|)
    (priced : money bound = .ok amount) : ∃ rounded, money value = .ok rounded := by
  have narrow := (money_eq_ok_iff.mp priced).1
  refine ⟨_, money_eq_ok_iff.mpr ⟨lt_of_le_of_lt ?_ narrow, rfl⟩⟩
  have scaled : |value * 100| + 1 / 2 ≤ |bound * 100| + 1 / 2 := by
    rw [abs_mul, abs_mul]
    linarith [mul_le_mul_of_nonneg_right smaller (abs_nonneg (100 : Decimal))]
  have floors := Int.floor_le_floor scaled
  rw [← natAbs_roundHalfUp, ← natAbs_roundHalfUp] at floors
  exact_mod_cast floors

end

/-- The value of the whole lot is an amount of money. -/
def Valued (batch : BatchView) : Prop := ∃ amount, money (batch.qtyRemaining * batch.unitPrice) = .ok amount

structure Takes (batch : BatchView) (allocation : Allocation) : Prop where
  source : allocation.receiptId = batch.id
  positive : 0 < allocation.qty
  within : allocation.qty ≤ batch.qtyRemaining
  price : allocation.unitPrice = batch.unitPrice
  priced : money (allocation.qty * batch.unitPrice) = .ok allocation.amount

def Empties (batch : BatchView) (allocation : Allocation) : Prop :=
  Takes batch allocation ∧ allocation.qty = batch.qtyRemaining

/-- The demand is served from the lots in their order, each once, and those before the last
one drawn from are emptied. -/
structure FifoServed (batches : List BatchView) (qty : Decimal) (allocations : List Allocation) : Prop where
  total : (allocations.map (·.qty)).sum = qty
  ordered : ∃ used, used.Sublist batches ∧ List.Forall₂ Takes used allocations
  emptied : ∃ earlier last later front final, batches = earlier ++ last :: later ∧
    allocations = front ++ [final] ∧ Takes last final ∧
    List.Forall₂ Empties (earlier.filter fun batch => 0 < batch.qtyRemaining) front

def totalRemaining (batches : List BatchView) : Decimal := (batches.map (·.qtyRemaining)).sum

variable {batches : List BatchView} {qty : Decimal}

section

variable {batch : BatchView} {wanted : Decimal} {allocation : Allocation}
  {allocations : List Allocation}

theorem FifoServed.single (takes : Takes batch allocation) (rest : List BatchView) :
    FifoServed (batch :: rest) allocation.qty [allocation] where
  total := by simp
  ordered := ⟨[batch], by simp, .cons takes .nil⟩
  emptied := ⟨[], batch, rest, [], allocation, rfl, rfl, takes, .nil⟩

theorem FifoServed.skip (served : FifoServed batches wanted allocations)
    (empty : batch.qtyRemaining ≤ 0) : FifoServed (batch :: batches) wanted allocations where
  total := served.total
  ordered := by
    obtain ⟨used, sublist, takes⟩ := served.ordered
    exact ⟨used, sublist.cons batch, takes⟩
  emptied := by
    obtain ⟨earlier, last, later, front, final, rfl, rfl, takes, emptied⟩ := served.emptied
    refine ⟨batch :: earlier, last, later, front, final, rfl, rfl, takes, ?_⟩
    rwa [List.filter_cons_of_neg (by simpa using empty)]

theorem FifoServed.whole (served : FifoServed batches wanted allocations)
    (empties : Empties batch allocation) :
    FifoServed (batch :: batches) (allocation.qty + wanted) (allocation :: allocations) where
  total := by rw [List.map_cons, List.sum_cons, served.total]
  ordered := by
    obtain ⟨used, sublist, takes⟩ := served.ordered
    exact ⟨batch :: used, sublist.cons_cons batch, .cons empties.1 takes⟩
  emptied := by
    obtain ⟨earlier, last, later, front, final, rfl, rfl, takes, emptied⟩ := served.emptied
    refine ⟨batch :: earlier, last, later, allocation :: front, final, rfl, rfl, takes, ?_⟩
    have stocked : 0 < batch.qtyRemaining := empties.2 ▸ empties.1.positive
    rw [List.filter_cons_of_pos (by simpa using stocked)]
    exact .cons empties emptied

theorem allocateBatches_satisfied (satisfied : wanted ≤ 0) :
    allocateBatches batches wanted = .ok ([], wanted) := by
  cases batches with
  | nil => rfl
  | cons batch rest => rw [allocateBatches, if_pos satisfied]

theorem allocateBatches_stocked (wants : 0 < wanted) (stocked : 0 < batch.qtyRemaining)
    (valued : Valued batch) (rest : List BatchView) :
    ∃ allocation, Takes batch allocation ∧ allocation.qty = min batch.qtyRemaining wanted ∧
      ∀ taken unserved,
        allocateBatches rest (wanted - allocation.qty) = .ok (taken, unserved) →
        allocateBatches (batch :: rest) wanted = .ok (allocation :: taken, unserved) := by
  obtain ⟨whole, priced⟩ := valued
  have least : 0 < min batch.qtyRemaining wanted := lt_min stocked wants
  have smaller : |min batch.qtyRemaining wanted * batch.unitPrice| ≤
      |batch.qtyRemaining * batch.unitPrice| := by
    rw [abs_mul, abs_mul, abs_of_pos least, abs_of_pos stocked]
    exact mul_le_mul_of_nonneg_right (min_le_left _ _) (abs_nonneg _)
  obtain ⟨amount, rounded⟩ := money_of_le smaller priced
  refine ⟨⟨batch.id, min batch.qtyRemaining wanted, batch.unitPrice, amount⟩,
    ⟨rfl, least, min_le_left _ _, rfl, rounded⟩, rfl, ?_⟩
  intro taken unserved continued
  rw [allocateBatches, if_neg (not_le.mpr wants), if_neg (not_le.mpr stocked)]
  exact bind_eq_ok_iff.mpr ⟨amount, rounded, bind_eq_ok_iff.mpr ⟨_, continued, rfl⟩⟩

theorem allocateBatches_short (held : ∀ batch ∈ batches, 0 ≤ batch.qtyRemaining)
    (valued : ∀ batch ∈ batches, Valued batch) (short : totalRemaining batches < wanted) :
    ∃ taken, allocateBatches batches wanted = .ok (taken, wanted - totalRemaining batches) := by
  induction batches generalizing wanted with
  | nil => exact ⟨[], by simp [allocateBatches, totalRemaining]⟩
  | cons batch rest ih =>
    obtain ⟨holds, later⟩ := List.forall_mem_cons.mp held
    obtain ⟨worth, laterWorth⟩ := List.forall_mem_cons.mp valued
    have split : totalRemaining (batch :: rest) = batch.qtyRemaining + totalRemaining rest := List.sum_cons
    have nonneg : 0 ≤ totalRemaining rest := List.sum_nonneg (List.forall_mem_map.mpr later)
    rw [split] at short ⊢
    have wants : 0 < wanted := by linarith
    obtain ⟨taken, continued⟩ := ih later laterWorth
      (show totalRemaining rest < wanted - batch.qtyRemaining by linarith)
    rw [sub_sub] at continued
    rcases holds.eq_or_lt with empty | stocked
    · refine ⟨taken, ?_⟩
      rw [allocateBatches, if_neg (not_le.mpr wants), if_pos empty.ge, ← continued, ← empty, sub_zero]
    · obtain ⟨allocation, _, quantity, turns⟩ := allocateBatches_stocked wants stocked worth rest
      rw [min_eq_left (by linarith)] at quantity
      exact ⟨_, turns taken _ (quantity ▸ continued)⟩

theorem allocateBatches_enough (held : ∀ batch ∈ batches, 0 ≤ batch.qtyRemaining)
    (valued : ∀ batch ∈ batches, Valued batch) (wants : 0 < wanted)
    (enough : wanted ≤ totalRemaining batches) :
    ∃ taken, allocateBatches batches wanted = .ok (taken, 0) ∧
      FifoServed batches wanted taken := by
  induction batches generalizing wanted with
  | nil => exact absurd wants (not_lt.mpr enough)
  | cons batch rest ih =>
    obtain ⟨holds, later⟩ := List.forall_mem_cons.mp held
    obtain ⟨worth, laterWorth⟩ := List.forall_mem_cons.mp valued
    have split : totalRemaining (batch :: rest) = batch.qtyRemaining + totalRemaining rest := List.sum_cons
    rw [split] at enough
    rcases holds.eq_or_lt with empty | stocked
    · obtain ⟨taken, continued, served⟩ := ih later laterWorth wants (by linarith)
      refine ⟨taken, ?_, served.skip empty.ge⟩
      rw [allocateBatches, if_neg (not_le.mpr wants), if_pos empty.ge, continued]
    · obtain ⟨allocation, takes, quantity, turns⟩ := allocateBatches_stocked wants stocked worth rest
      rcases le_or_gt wanted batch.qtyRemaining with last | more
      · rw [min_eq_right last] at quantity
        refine ⟨[allocation], ?_, quantity ▸ FifoServed.single takes rest⟩
        have nothing : wanted - allocation.qty = 0 := by rw [quantity, sub_self]
        refine turns [] 0 ?_
        rw [nothing, allocateBatches_satisfied le_rfl]
      · rw [min_eq_left more.le] at quantity
        obtain ⟨taken, continued, served⟩ := ih later laterWorth
          (show 0 < wanted - batch.qtyRemaining by linarith) (by linarith)
        refine ⟨allocation :: taken, turns taken 0 (quantity ▸ continued), ?_⟩
        have whole := served.whole ⟨takes, quantity⟩
        rwa [quantity, add_sub_cancel] at whole

end

theorem fits_iff {precision scale : Nat} {value : Decimal} :
    fits precision scale value = true ↔ |value| < 10 ^ (precision - scale) := by
  rw [fits, Bool.and_eq_true, decide_eq_true_eq, decide_eq_true_eq, abs_lt]

theorem valued_of_columns {batch : BatchView} (quantity : fits 12 3 batch.qtyRemaining = true)
    (price : fits 14 2 batch.unitPrice = true) : Valued batch := by
  have bounded : |batch.qtyRemaining * batch.unitPrice * 100| < 10 ^ 23 := by
    have first : |batch.qtyRemaining| < 10 ^ 9 := fits_iff.mp quantity
    have second : |batch.unitPrice| < 10 ^ 12 := fits_iff.mp price
    have product := mul_lt_mul'' first second (abs_nonneg _) (abs_nonneg _)
    rw [abs_mul, abs_mul, abs_of_pos (by norm_num : (0 : Decimal) < 100)]
    linarith
  have floored : ((roundHalfUp (batch.qtyRemaining * batch.unitPrice * 100)).natAbs : Int) <
      10 ^ contextPrecision := by
    rw [natAbs_roundHalfUp, Int.floor_lt]
    push_cast [contextPrecision]
    linarith
  exact ⟨_, money_eq_ok_iff.mpr ⟨by exact_mod_cast floored, rfl⟩⟩

def sampleLots : List BatchView := [⟨1, 2, 10⟩, ⟨2, 0, 5⟩, ⟨3, 3, 4⟩, ⟨4, 1, 1⟩]

end InfrasafeBot.MaterialService
