import Mathlib.Algebra.BigOperators.Ring.List
import Mathlib.Data.List.Dedup
import InfrasafeBot.StockAllocation
import InfrasafeBot.StockPrices

/-! The reversal of an issue: what comes back for what has been taken. -/

set_option autoImplicit false

namespace InfrasafeBot.MaterialService

open Library Machine RequestWorkflow

theorem roundHalfUp_sum {values : List Decimal} (nonneg : 0 ≤ values.sum) :
    roundHalfUp values.sum = (values.map roundHalfUp).sum +
      ⌊(values.map fun value => value - roundHalfUp value).sum + 1 / 2⌋ := by
  have split : values.sum = ((values.map roundHalfUp).sum : Int) +
      (values.map fun value => value - roundHalfUp value).sum := by
    clear nonneg
    induction values with
    | nil => simp
    | cons value rest ih =>
      simp only [List.map_cons, List.sum_cons, Int.cast_add]
      linarith
  rw [roundHalfUp, if_pos nonneg]
  conv_lhs => rw [split]
  rw [add_assoc, Int.floor_intCast_add]

section

variable {rows : List MaterialIssueAllocation}

/-- The groups are the prices of the rows, each once, with the quantities taken at them. -/
structure GroupsOf (rows : List MaterialIssueAllocation) (groups : List (Decimal × Decimal)) : Prop where
  distinct : (groups.map Prod.fst).Nodup
  prices : ∀ price, price ∈ groups.map Prod.fst ↔ price ∈ rows.map (·.unitPrice)
  quantity : ∀ group ∈ groups, group.2 = sumOf (fun row => row.unitPrice = group.1) (·.qty) rows

variable {groups : List (Decimal × Decimal)}

theorem GroupsOf.unpriced (groupsOf : GroupsOf rows groups) {price : Decimal}
    (missing : price ∉ groups.map Prod.fst) :
    sumOf (fun row => row.unitPrice = price) (·.qty) rows = 0 := by
  refine sumOf_eq_zero fun row listed => decide_eq_false fun same => missing ?_
  exact (groupsOf.prices price).mpr (same ▸ List.mem_map_of_mem listed)

theorem GroupsOf.added (groupsOf : GroupsOf rows groups) (row : MaterialIssueAllocation) :
    GroupsOf (rows ++ [row]) (addToPrice groups row) := by
  unfold addToPrice
  split
  · next known =>
      have same : (groups.map fun group =>
          if group.1 = row.unitPrice then (group.1, group.2 + row.qty) else group).map Prod.fst =
            groups.map Prod.fst := by
        rw [List.map_map]
        refine List.map_congr_left fun group _ => ?_
        dsimp only [Function.comp_apply]
        split <;> rfl
      have listed : row.unitPrice ∈ groups.map Prod.fst := by
        obtain ⟨group, member, fits⟩ := List.any_eq_true.mp known
        exact List.mem_map.mpr ⟨group, member, of_decide_eq_true fits⟩
      refine ⟨same ▸ groupsOf.distinct, fun price => ?_, ?_⟩
      · rw [same, groupsOf.prices, List.map_append, List.mem_append, List.map_singleton, List.mem_singleton]
        refine ⟨.inl, ?_⟩
        rintro (before | rfl)
        · exact before
        · exact (groupsOf.prices _).mp listed
      · intro changed member
        obtain ⟨group, before, rfl⟩ := List.mem_map.mp member
        rw [sumOf_append]
        split
        · next same => simp [sumOf_cons, groupsOf.quantity group before, same]
        · next other => simp [sumOf_cons, groupsOf.quantity group before, Ne.symm other]
  · next unknown =>
      have missing : row.unitPrice ∉ groups.map Prod.fst := by
        intro listed
        obtain ⟨group, member, same⟩ := List.mem_map.mp listed
        exact unknown (List.any_eq_true.mpr ⟨group, member, decide_eq_true same⟩)
      refine ⟨?_, fun price => ?_, ?_⟩
      · rw [List.map_append, List.nodup_append]
        refine ⟨groupsOf.distinct, by simp, fun price before fresh single same => ?_⟩
        have own : fresh = row.unitPrice := by simpa using single
        exact missing ((same.trans own) ▸ before)
      · simp [groupsOf.prices]
      · intro group member
        rw [sumOf_append]
        rcases List.mem_append.mp member with before | fresh
        · have other : row.unitPrice ≠ group.1 := fun same => missing (same ▸ List.mem_map_of_mem before)
          simp [sumOf_cons, groupsOf.quantity group before, other]
        · obtain rfl := List.mem_singleton.mp fresh
          rw [groupsOf.unpriced missing]
          simp [sumOf_cons]

theorem groupsOf_byPrice (rows : List MaterialIssueAllocation) : GroupsOf rows (byPrice rows) := by
  induction rows using List.reverseRecOn with
  | nil => exact ⟨by simp [byPrice], by simp [byPrice], by simp [byPrice]⟩
  | append_singleton rows row ih =>
    have last : byPrice (rows ++ [row]) = addToPrice (byPrice rows) row := by
      simp [byPrice]
    exact last ▸ ih.added row

theorem GroupsOf.sum_prices {Amount : Type} [AddCommMonoid Amount]
    (groupsOf : GroupsOf rows groups) (amount : MaterialIssueAllocation → Amount) :
    ((groups.map Prod.fst).map fun price =>
      sumOf (fun row => row.unitPrice = price) amount rows).sum = (rows.map amount).sum :=
  sum_sumOf_keys groupsOf.distinct fun _ listed => (groupsOf.prices _).mpr (List.mem_map_of_mem listed)

theorem GroupsOf.total (groupsOf : GroupsOf rows groups) :
    (groups.map Prod.snd).sum = (rows.map (·.qty)).sum := by
  rw [← groupsOf.sum_prices, List.map_map]
  exact congrArg List.sum (List.map_congr_left groupsOf.quantity)

theorem GroupsOf.at_price (groupsOf : GroupsOf rows groups) (price : Decimal) :
    sumOf (fun group => group.1 = price) Prod.snd groups =
      sumOf (fun row => row.unitPrice = price) (·.qty) rows := by
  have shares : sumOf (fun group => group.1 = price) Prod.snd groups =
      ((groups.map Prod.fst).map fun key =>
        if price = key then sumOf (fun row => row.unitPrice = price) (·.qty) rows else 0).sum := by
    rw [sumOf_eq_sum_ite, List.map_map]
    refine congrArg List.sum (List.map_congr_left fun group listed => ?_)
    by_cases same : group.1 = price
    · simp [same, groupsOf.quantity group listed]
    · simp [same, Ne.symm same]
  rw [shares]
  by_cases listed : price ∈ groups.map Prod.fst
  · exact sum_indicator groupsOf.distinct listed _
  · rw [groupsOf.unpriced listed]
    simp [Function.comp_def]

end

section

variable {rows : List MaterialIssueAllocation}

/-- What a row costs before it is rounded, in cents. -/
def cents (row : MaterialIssueAllocation) : Decimal := row.qty * row.unitPrice * 100

def dropped (row : MaterialIssueAllocation) : Decimal := cents row - roundHalfUp (cents row)

/-- The cents the rows of a price have dropped, taken together. -/
def centsDropped (rows : List MaterialIssueAllocation) (price : Decimal) : Int :=
  ⌊sumOf (fun row => row.unitPrice = price) dropped rows + 1 / 2⌋

/-- Over all the prices nothing is lost or won by rounding a price at once. -/
def RoundingCancels (rows : List MaterialIssueAllocation) : Prop :=
  ((rows.map (·.unitPrice)).dedup.map (centsDropped rows)).sum = 0

instance : DecidablePred RoundingCancels := fun _ => inferInstanceAs (Decidable (_ = _))

variable {group : Decimal × Decimal} {groups : List (Decimal × Decimal)}

theorem GroupsOf.cost (groupsOf : GroupsOf rows groups) (listed : group ∈ groups) :
    group.2 * group.1 * 100 = sumOf (fun row => row.unitPrice = group.1) cents rows := by
  rw [groupsOf.quantity group listed, sumOf_eq_sum_ite, sumOf_eq_sum_ite,
    ← List.sum_map_mul_right, ← List.sum_map_mul_right]
  refine congrArg List.sum (List.map_congr_left fun row _ => ?_)
  by_cases same : row.unitPrice = group.1
  · simp [same, cents]
  · simp [same]

theorem GroupsOf.rounded (groupsOf : GroupsOf rows groups) (nonneg : ∀ row ∈ rows, 0 ≤ cents row)
    (listed : group ∈ groups) :
    roundHalfUp (group.2 * group.1 * 100) =
      sumOf (fun row => row.unitPrice = group.1) (fun row => roundHalfUp (cents row)) rows +
        centsDropped rows group.1 := by
  have sign : 0 ≤ ((rows.filter fun row => row.unitPrice = group.1).map cents).sum := sumOf_nonneg nonneg
  rw [groupsOf.cost listed, sumOf, roundHalfUp_sum sign, List.map_map, List.map_map]
  rfl

theorem GroupsOf.sum_rounded (groupsOf : GroupsOf rows groups)
    (nonneg : ∀ row ∈ rows, 0 ≤ cents row) :
    (groups.map fun group => roundHalfUp (group.2 * group.1 * 100)).sum =
      (rows.map fun row => roundHalfUp (cents row)).sum +
        ((rows.map (·.unitPrice)).dedup.map (centsDropped rows)).sum := by
  have keys : (groups.map Prod.fst).Perm (rows.map (·.unitPrice)).dedup := by
    rw [List.perm_ext_iff_of_nodup groupsOf.distinct (List.nodup_dedup _)]
    exact fun price => (groupsOf.prices price).trans List.mem_dedup.symm
  calc (groups.map fun group => roundHalfUp (group.2 * group.1 * 100)).sum
      = (groups.map fun group =>
          sumOf (fun row => row.unitPrice = group.1) (fun row => roundHalfUp (cents row)) rows +
            centsDropped rows group.1).sum :=
        congrArg List.sum (List.map_congr_left fun _ listed => groupsOf.rounded nonneg listed)
    _ = (rows.map fun row => roundHalfUp (cents row)).sum +
          ((groups.map Prod.fst).map (centsDropped rows)).sum := by
        rw [← groupsOf.sum_prices, List.map_map, List.map_map, ← List.sum_map_add]
        rfl
    _ = _ := by rw [(keys.map _).sum_eq]

end

section

variable {before after : Ledger} {surroundings : Surroundings} {materialId : Nat}
  {createdBy : UserId} {issue : MaterialIssue} {allocations : List Allocation}

theorem allocateBatches_takes {batches : List BatchView} {wanted unserved : Decimal}
    (allocated : allocateBatches batches wanted = .ok (allocations, unserved)) :
    ∀ allocation ∈ allocations, ∃ batch ∈ batches, Takes batch allocation := by
  induction batches generalizing wanted allocations with
  | nil =>
    cases allocated
    simp
  | cons batch rest ih =>
    rw [allocateBatches] at allocated
    split at allocated
    · cases allocated
      simp
    · next wanting =>
        split at allocated
        · intro allocation listed
          obtain ⟨other, member, takes⟩ := ih allocated allocation listed
          exact ⟨other, List.mem_cons_of_mem _ member, takes⟩
        · next stocked =>
            obtain ⟨amount, priced, allocated⟩ := bind_eq_ok_iff.mp allocated
            obtain ⟨⟨others, left⟩, continued, allocated⟩ := bind_eq_ok_iff.mp allocated
            cases allocated
            have least := lt_min (not_le.mp stocked) (not_le.mp wanting)
            intro allocation listed
            rcases List.mem_cons.mp listed with rfl | later
            · exact ⟨batch, List.mem_cons_self, rfl, least, min_le_left _ _, rfl, priced⟩
            · obtain ⟨other, member, takes⟩ := ih continued allocation later
              exact ⟨other, List.mem_cons_of_mem _ member, takes⟩

def Sold (ledger : Ledger) (allocation : Allocation) : Prop :=
  (∃ receipt ∈ ledger.receipts.rows, receipt.id = allocation.receiptId ∧
    receipt.unitPrice = allocation.unitPrice) ∧ 0 < allocation.qty ∧
  allocation.amount = roundHalfUp (allocation.qty * allocation.unitPrice * 100) / 100

theorem issueMaterial_sold {qty : Number} {docType : String}
    {requestNumber : Option RequestNumber} {reason : Option String} {reversal : Option Nat}
    (returned : (issueMaterial surroundings materialId qty createdBy docType requestNumber
      reason reversal).runOn before = (.ok issue, after)) :
    ∃ allocations, IssueAdded before after issue allocations ∧
      ∀ allocation ∈ allocations, Sold before allocation := by
  obtain ⟨demand, middle, demanded, required⟩ := Session.bind_ok_iff.mp returned
  obtain ⟨_, checked⟩ := Session.check_bind_ok_iff.mp required
  obtain ⟨allocations, reached, allocated, applied⟩ := Session.bind_ok_iff.mp checked
  obtain ⟨rfl, identified, positive⟩ := newDemand_ok demanded
  obtain ⟨rfl, serves, priced⟩ := allocateDemand_ok identified positive allocated
  refine ⟨allocations, applyIssue_ok serves priced applied, fun allocation listed => ?_⟩
  unfold allocateDemand at allocated
  rw [Session.read_bind] at allocated
  have outcome : allocateFifo ((openBatches materialId reached).map batchView) demand.qty =
      .ok allocations := congrArg Prod.fst allocated
  obtain ⟨⟨taken, unserved⟩, looped, ended⟩ := bind_eq_ok_iff.mp outcome
  dsimp only at ended
  split at ended
  · cases ended
  · cases ended
    obtain ⟨batch, member, takes⟩ := allocateBatches_takes looped allocation listed
    obtain ⟨receipt, opened, rfl⟩ := List.mem_map.mp member
    have rounded := (money_eq_ok_iff.mp takes.priced).2
    rw [← takes.price] at rounded
    exact ⟨⟨receipt, (mem_openBatches opened).1, takes.source.symm, takes.price.symm⟩,
      takes.positive, rounded⟩

def Copies (issueId : Nat) (row : MaterialIssueAllocation) (allocation : Allocation) : Prop :=
  Stores issueId row allocation ∧ row.unitPrice = allocation.unitPrice

theorem addAllocations_copies (issueId : Nat) (allocations : List Allocation)
    (table : Table MaterialIssueAllocation.id) :
    ∃ added, (allocations.foldl (addAllocation issueId) table).rows = table.rows ++ added ∧
      List.Forall₂ (Copies issueId) added allocations :=
  addAllocations_related (fun _ _ => ⟨⟨rfl, rfl, rfl, rfl⟩, rfl⟩) allocations table

theorem IssueAdded.rows_copy (added : IssueAdded before after issue allocations)
    (balanced : Balanced before) : ∃ rows, (allocationsOf issue.id after).Perm rows ∧
      List.Forall₂ (Copies issue.id) rows allocations := by
  obtain ⟨rows, listed, copies⟩ := addAllocations_copies issue.id allocations before.allocations
  refine ⟨rows, ?_, copies⟩
  have old : before.allocations.rows.filter (fun row => row.issueId = issue.id) = [] := by
    simpa using balanced.allocated_of_fresh added.fresh
  have own : rows.filter (fun row => row.issueId = issue.id) = rows := by
    rw [List.filter_eq_self]
    intro row member
    obtain ⟨allocation, _, stores⟩ := Stores.all (copies.imp fun _ _ copied => copied.1) row member
    exact decide_eq_true stores.1
  unfold allocationsOf
  rw [added.allocations, listed, List.filter_append, old, own]
  exact List.perm_insertionSort _ _

theorem Move.allocationsOf_eq (move : Move before after)
    (written : issue ∈ before.issues.rows) :
    issue ∈ after.issues.rows ∧ allocationsOf issue.id after = allocationsOf issue.id before := by
  unfold allocationsOf
  cases move with
  | catalog receipts issues allocations =>
    rw [issues, allocations]
    exact ⟨written, rfl⟩
  | receipt receipt added =>
    rw [added.issues, added.allocations]
    exact ⟨written, rfl⟩
  | issue other allocations added =>
    have different : other.id ≠ issue.id := fun same => added.fresh (same ▸ List.mem_map_of_mem written)
    obtain ⟨rows, listed, copies⟩ := addAllocations_copies other.id allocations before.allocations
    have foreign : rows.filter (fun row => row.issueId = issue.id) = [] := by
      rw [List.filter_eq_nil_iff]
      intro row member
      obtain ⟨_, _, stores⟩ := Stores.all (copies.imp fun _ _ copied => copied.1) row member
      simpa [stores.1] using different
    rw [added.issues, added.allocations, listed, List.filter_append, foreign, List.append_nil]
    exact ⟨List.mem_append_left _ written, rfl⟩

theorem Moves.allocationsOf_eq (moves : Moves before after)
    (written : issue ∈ before.issues.rows) :
    issue ∈ after.issues.rows ∧ allocationsOf issue.id after = allocationsOf issue.id before := by
  induction moves with
  | refl => exact ⟨written, rfl⟩
  | tail _ move ih =>
    obtain ⟨stays, onward⟩ := move.allocationsOf_eq ih.1
    exact ⟨stays, onward.trans ih.2⟩

theorem allocationsOf_run (balanced : Balanced after) (written : issue ∈ after.issues.rows)
    (inputs : List Input) : Balanced (run next after inputs) ∧
      issue ∈ (run next after inputs).issues.rows ∧
      allocationsOf issue.id (run next after inputs) = allocationsOf issue.id after := by
  refine run_invariant next (fun ledger => Balanced ledger ∧ issue ∈ ledger.issues.rows ∧
    allocationsOf issue.id ledger = allocationsOf issue.id after) ⟨balanced, written, rfl⟩ ?_ inputs
  rintro ledger input ⟨balanced, written, same⟩
  obtain ⟨stays, onward⟩ := (next_moves balanced input).allocationsOf_eq written
  exact ⟨balanced.next input, stays, onward.trans same⟩

/-- A row at a price in cents, for its amount rounded. -/
structure Charged (row : MaterialIssueAllocation) : Prop where
  positive : 0 < row.qty
  price : IsMoney row.unitPrice
  amount : row.amount = roundHalfUp (cents row) / 100

theorem charged_of_sold {rows : List MaterialIssueAllocation} {issueId : Nat}
    (priced : Priced before) (sold : ∀ allocation ∈ allocations, Sold before allocation)
    (copies : List.Forall₂ (Copies issueId) rows allocations) : ∀ row ∈ rows, Charged row := by
  induction copies with
  | nil => simp
  | cons copied rest ih =>
    obtain ⟨here, later⟩ := List.forall_mem_cons.mp sold
    obtain ⟨⟨receipt, stored, _, listedPrice⟩, positive, amount⟩ := here
    obtain ⟨⟨_, _, quantity, charged⟩, price⟩ := copied
    refine List.forall_mem_cons.mpr ⟨⟨quantity ▸ positive, ?_, ?_⟩, ih later⟩
    · rw [price, ← listedPrice]
      exact priced receipt stored
    · rw [charged, amount, cents, quantity, price]

end

section

variable {before after : Ledger} {surroundings : Surroundings} {materialId : Nat}
  {createdBy : UserId} {given : Decimal} {group : Decimal × Decimal} {receipt : MaterialReceipt}

theorem parseQty_finite {qty : Decimal} (parsed : parseQty (.finite given) = .ok qty) : qty = given := by
  rw [parseQty] at parsed
  split at parsed
  · cases parsed
  · obtain ⟨stepped, _, ended⟩ := bind_eq_ok_iff.mp parsed
    split at ended
    · cases ended
    · cases ended
      rfl

theorem parsePrice_finite {price : Decimal} (whole : IsMoney given)
    (parsed : parsePrice (.finite given) = .ok price) : price = given ∧ 0 ≤ given := by
  rw [parsePrice] at parsed
  split at parsed
  · cases parsed
  · next nonneg => exact ⟨money_eq_self whole parsed, not_lt.mp nonneg⟩

/-- A lot that gives back the quantity of a group at its price. -/
structure Restored (materialId : Nat) (group : Decimal × Decimal) (receipt : MaterialReceipt) : Prop where
  material : receipt.materialId = materialId
  qty : receipt.qty = group.2
  whole : receipt.qtyRemaining = group.2
  price : receipt.unitPrice = group.1
  nonneg : 0 ≤ group.1
  amount : receipt.totalAmount = roundHalfUp (group.2 * group.1 * 100) / 100

variable {details : ReceiptDetails} {docType : String} {reversal : Option Nat}
  {groups : List (Decimal × Decimal)}

theorem createReceipt_restored (whole : IsMoney group.1)
    (returned : (createReceipt surroundings materialId (.finite group.2) (.finite group.1)
      createdBy details docType reversal).runOn before = (.ok receipt, after)) :
    Restored materialId group receipt := by
  obtain ⟨row, middle, drafted, inserted⟩ := Session.bind_ok_iff.mp returned
  rw [Session.read_bind, Session.write_bind] at inserted
  obtain ⟨_, flushed⟩ := Session.check_bind_ok_iff.mp inserted
  obtain ⟨rfl, _⟩ := Session.pure_ok_iff.mp flushed
  unfold newReceipt at drafted
  split at drafted
  · cases drafted
  · obtain ⟨amount, parsed, quantified⟩ := Session.ofExcept_bind_ok_iff.mp drafted
    obtain ⟨price, priced, valued⟩ := Session.ofExcept_bind_ok_iff.mp quantified
    obtain ⟨material, _, active, loaded⟩ := Session.bind_ok_iff.mp valued
    obtain ⟨total, totalled, ended⟩ := Session.ofExcept_bind_ok_iff.mp loaded
    obtain ⟨rfl, _⟩ := Session.pure_ok_iff.mp ended
    obtain rfl := parseQty_finite parsed
    obtain ⟨rfl, nonneg⟩ := parsePrice_finite whole priced
    exact ⟨(getActiveMaterial_ok active).1, rfl, rfl, rfl, nonneg, (money_eq_ok_iff.mp totalled).2⟩

theorem createReceipts_restored {created : List MaterialReceipt}
    (whole : ∀ group ∈ groups, IsMoney group.1)
    (returned : (groups.mapM fun group => createReceipt surroundings materialId
      (.finite group.2) (.finite group.1) createdBy details docType reversal).runOn before =
        (.ok created, after)) :
    after.receipts.rows = before.receipts.rows ++ created ∧
      List.Forall₂ (Restored materialId) groups created := by
  induction groups generalizing before created with
  | nil =>
    obtain ⟨rfl, rfl⟩ := Session.pure_ok_iff.mp returned
    exact ⟨by simp, .nil⟩
  | cons group rest ih =>
    obtain ⟨here, later⟩ := List.forall_mem_cons.mp whole
    rw [List.mapM_cons] at returned
    obtain ⟨receipt, middle, first, others⟩ := Session.bind_ok_iff.mp returned
    obtain ⟨more, reached, looped, ended⟩ := Session.bind_ok_iff.mp others
    obtain ⟨rfl, rfl⟩ := Session.pure_ok_iff.mp ended
    obtain ⟨rows, restored⟩ := ih later looped
    refine ⟨?_, .cons (createReceipt_restored here first) restored⟩
    rw [rows, (createReceipt_ok first).1.rows, List.append_assoc, List.singleton_append]

theorem reversibleGroups_found {issueId : Nat}
    (returned : (reversibleGroups materialId issueId).runOn before = (.ok groups, after)) :
    (∃ issue ∈ before.issues.rows, issue.id = issueId ∧ issue.materialId = materialId) ∧
      groups = byPrice (allocationsOf issueId before) := by
  unfold reversibleGroups at returned
  rw [Session.read_bind] at returned
  cases found : before.issues.find? issueId with
  | none =>
    rw [found] at returned
    cases returned
  | some issue =>
    rw [found] at returned
    obtain ⟨matched, continued⟩ := Session.check_bind_ok_iff.mp returned
    rw [Session.read_bind] at continued
    obtain ⟨_, fresh⟩ := Session.check_bind_ok_iff.mp continued
    rw [Session.read_bind] at fresh
    obtain ⟨_, grouped⟩ := Session.check_bind_ok_iff.mp fresh
    obtain ⟨rfl, rfl⟩ := Session.pure_ok_iff.mp grouped
    exact ⟨⟨issue, Table.mem_of_find? found, Table.key_of_find? found, of_decide_eq_true matched⟩, rfl⟩

end

section

variable {ledger before after : Ledger} {materialId : Nat} {issue : MaterialIssue}
  {allocations : List Allocation}

/-- `SUM(qty_remaining * unit_price)` over the lots of a material in stock, which the list of
the stock shows in cents. -/
def stockWorth (ledger : Ledger) (materialId : Nat) : Decimal :=
  sumOf (fun receipt => receipt.materialId = materialId && 0 < receipt.qtyRemaining)
    (fun receipt => receipt.qtyRemaining * receipt.unitPrice) ledger.receipts.rows

theorem Balanced.stockWorth_eq (balanced : Balanced ledger) (materialId : Nat) :
    stockWorth ledger materialId = sumOf (fun receipt => receipt.materialId = materialId)
      (fun receipt => receipt.qtyRemaining * receipt.unitPrice) ledger.receipts.rows := by
  unfold stockWorth
  rw [sumOf_eq_sum_ite, sumOf_eq_sum_ite]
  refine congrArg List.sum (List.map_congr_left fun receipt listed => ?_)
  rcases (balanced.stock receipt listed).2.1.eq_or_lt with empty | stocked
  · simp [← empty]
  · simp [stocked]

theorem sumOf_drawnDown {receipts : List MaterialReceipt}
    (distinct : (receipts.map (·.id)).Nodup)
    (sold : ∀ allocation ∈ allocations, ∃ receipt ∈ receipts,
      receipt.id = allocation.receiptId ∧ receipt.unitPrice = allocation.unitPrice) :
    ((receipts.map (drawnDown allocations)).map fun receipt =>
        receipt.qtyRemaining * receipt.unitPrice).sum +
      (allocations.map fun allocation => allocation.qty * allocation.unitPrice).sum =
    (receipts.map fun receipt => receipt.qtyRemaining * receipt.unitPrice).sum := by
  have listed : ∀ allocation ∈ allocations, allocation.receiptId ∈ receipts.map (·.id) := by
    intro allocation member
    obtain ⟨receipt, stored, same, _⟩ := sold allocation member
    exact same ▸ List.mem_map_of_mem stored
  rw [← sum_sumOf_keys distinct listed, List.map_map, List.map_map, ← List.sum_map_add]
  refine congrArg List.sum (List.map_congr_left fun receipt stored => ?_)
  have share : sumOf (fun allocation => allocation.receiptId = receipt.id) (·.qty) allocations *
      receipt.unitPrice = sumOf (fun allocation => allocation.receiptId = receipt.id)
        (fun allocation => allocation.qty * allocation.unitPrice) allocations := by
    rw [sumOf_eq_sum_ite, sumOf_eq_sum_ite, ← List.sum_map_mul_right]
    refine congrArg List.sum (List.map_congr_left fun allocation member => ?_)
    by_cases own : allocation.receiptId = receipt.id
    · obtain ⟨lot, held, same, price⟩ := sold allocation member
      have lotSame : lot = receipt := List.inj_on_of_nodup_map distinct held stored (same.trans own)
      simp [own, ← price, lotSame]
    · simp [own]
  simp only [Function.comp_apply, drawnDown, ← share]
  ring

theorem IssueAdded.stockWorth_eq (added : IssueAdded before after issue allocations)
    (balanced : Balanced before) (sold : ∀ allocation ∈ allocations, Sold before allocation) :
    stockWorth after issue.materialId +
        (allocations.map fun allocation => allocation.qty * allocation.unitPrice).sum =
      stockWorth before issue.materialId := by
  rw [balanced.stockWorth_eq, (balanced.issue_added added).stockWorth_eq, added.receipt_rows,
    sumOf, sumOf, List.filter_map]
  have kept : ((fun receipt : MaterialReceipt => decide (receipt.materialId = issue.materialId)) ∘
      drawnDown allocations) = fun receipt => decide (receipt.materialId = issue.materialId) := rfl
  rw [kept]
  refine sumOf_drawnDown (before.receipts.unique.sublist (List.filter_sublist.map _)) ?_
  intro allocation member
  obtain ⟨⟨receipt, stored, same, price⟩, _⟩ := sold allocation member
  obtain ⟨lot, held, numbered, material, _⟩ := added.serves.drawn allocation member
  obtain rfl := Table.eq_of_key stored held (same.trans numbered.symm)
  exact ⟨receipt, List.mem_filter.mpr ⟨stored, decide_eq_true material⟩, same, price⟩

end

section

variable {ledger before after issued reversed : Ledger} {surroundings : Surroundings}
  {materialId : Nat} {createdBy : UserId} {issue : MaterialIssue} {created : List MaterialReceipt}
  {groups : List (Decimal × Decimal)}

/-- A reversal gives back what its issue has taken: the quantity, at the same prices, for the
same amount, and the stock is worth as much more as it has been worth less. -/
structure ReversalNeutral (issue : MaterialIssue) (created : List MaterialReceipt)
    (before issued later reversed : Ledger) : Prop where
  quantity : (created.map (·.qty)).sum = issue.qty
  prices : ∀ price, sumOf (fun receipt => receipt.unitPrice = price) (·.qty) created =
    sumOf (fun row => row.unitPrice = price) (·.qty) (allocationsOf issue.id issued)
  amount : (created.map (·.totalAmount)).sum = issue.totalCost
  worth : stockWorth reversed issue.materialId - stockWorth later issue.materialId =
    stockWorth before issue.materialId - stockWorth issued issue.materialId

theorem sum_allocationsOf {Amount : Type} [AddCommMonoid Amount] (issueId : Nat)
    (amount : MaterialIssueAllocation → Amount) :
    ((allocationsOf issueId ledger).map amount).sum =
      sumOf (fun row => row.issueId = issueId) amount ledger.allocations.rows :=
  ((List.perm_insertionSort _ _).map amount).sum_eq

theorem sum_hundredths (values : List Int) :
    (values.map fun value : Int => (value : Decimal) / 100).sum = (values.sum : Int) / 100 := by
  induction values with
  | nil => simp
  | cons value rest ih =>
    rw [List.map_cons, List.sum_cons, List.sum_cons, ih]
    push_cast
    ring

theorem map_restored {Value : Type} {ofReceipt : MaterialReceipt → Value}
    {ofGroup : Decimal × Decimal → Value}
    (agree : ∀ group receipt, Restored materialId group receipt → ofReceipt receipt = ofGroup group)
    (restored : List.Forall₂ (Restored materialId) groups created) :
    created.map ofReceipt = groups.map ofGroup := by
  induction restored with
  | nil => rfl
  | cons first rest ih => rw [List.map_cons, List.map_cons, agree _ _ first, ih]

theorem restored_each (restored : List.Forall₂ (Restored materialId) groups created) :
    (∀ group ∈ groups, 0 ≤ group.1) ∧ ∀ receipt ∈ created, receipt.materialId = materialId := by
  induction restored with
  | nil => simp
  | cons first rest ih =>
    exact ⟨List.forall_mem_cons.mpr ⟨first.nonneg, ih.1⟩, List.forall_mem_cons.mpr ⟨first.material, ih.2⟩⟩

variable {rows : List MaterialIssueAllocation}

theorem sum_amount (charged : ∀ row ∈ rows, Charged row) :
    (rows.map (·.amount)).sum = ((rows.map fun row => roundHalfUp (cents row)).sum : Int) / 100 := by
  rw [← sum_hundredths, List.map_map]
  exact congrArg List.sum (List.map_congr_left fun row listed => (charged row listed).amount)

theorem cents_nonneg (groupsOf : GroupsOf rows groups) (charged : ∀ row ∈ rows, Charged row)
    (nonneg : ∀ group ∈ groups, 0 ≤ group.1) :
    ∀ row ∈ rows, 0 ≤ cents row := by
  intro row listed
  obtain ⟨group, grouped, same⟩ := List.mem_map.mp ((groupsOf.prices _).mpr (List.mem_map_of_mem listed))
  have price : 0 ≤ row.unitPrice := same ▸ nonneg group grouped
  exact mul_nonneg (mul_nonneg (charged row listed).positive.le price) (by norm_num)

theorem sum_totalAmount (groupsOf : GroupsOf rows groups) (charged : ∀ row ∈ rows, Charged row)
    (restored : List.Forall₂ (Restored materialId) groups created) :
    (created.map (·.totalAmount)).sum = (rows.map (·.amount)).sum +
      (((rows.map (·.unitPrice)).dedup.map (centsDropped rows)).sum : Int) / 100 := by
  have nonneg := cents_nonneg groupsOf charged (restored_each restored).1
  calc (created.map (·.totalAmount)).sum
      = ((groups.map fun group => roundHalfUp (group.2 * group.1 * 100)).map
          fun value : Int => (value : Decimal) / 100).sum := by
        rw [map_restored (fun _ _ back => back.amount) restored, List.map_map]
        rfl
    _ = _ := by
        rw [sum_hundredths, groupsOf.sum_rounded nonneg, sum_amount charged, Int.cast_add, add_div]

theorem sum_worth (groupsOf : GroupsOf rows groups)
    (restored : List.Forall₂ (Restored materialId) groups created) :
    (created.map fun receipt => receipt.qtyRemaining * receipt.unitPrice).sum * 100 =
      (rows.map cents).sum := by
  have agree : ∀ group receipt, Restored materialId group receipt →
      receipt.qtyRemaining * receipt.unitPrice * 100 = group.2 * group.1 * 100 := by
    intro group receipt back
    rw [back.whole, back.price]
  rw [← List.sum_map_mul_right, map_restored agree restored, ← groupsOf.sum_prices, List.map_map]
  exact congrArg List.sum (List.map_congr_left fun _ listed => groupsOf.cost listed)

theorem IssueAdded.charged {allocations : List Allocation}
    (added : IssueAdded before after issue allocations) (balanced : Balanced before)
    (priced : Priced before) (sold : ∀ allocation ∈ allocations, Sold before allocation) :
    (∀ row ∈ allocationsOf issue.id after, Charged row) ∧
      ((allocationsOf issue.id after).map cents).sum =
        (allocations.map fun allocation => allocation.qty * allocation.unitPrice).sum * 100 := by
  obtain ⟨rows, same, copies⟩ := added.rows_copy balanced
  have charged := charged_of_sold priced sold copies
  refine ⟨fun row listed => charged row (same.mem_iff.mp listed), ?_⟩
  rw [(same.map cents).sum_eq, ← List.sum_map_mul_right]
  clear same sold charged added
  induction copies with
  | nil => rfl
  | cons copied rest ih =>
    rw [List.map_cons, List.map_cons, List.sum_cons, List.sum_cons, ih, cents, copied.2, copied.1.2.2.1]

theorem reverseIssue_restored {reason : String} (balanced : Balanced before)
    (known : issue ∈ before.issues.rows)
    (charged : ∀ row ∈ allocationsOf issue.id before, Charged row)
    (returned : (reverseIssue surroundings materialId issue.id reason createdBy).runOn before =
      (.ok created, reversed)) :
    List.Forall₂ (Restored issue.materialId) (byPrice (allocationsOf issue.id before)) created ∧
      reversed.receipts.rows = before.receipts.rows ++ created ∧ Balanced reversed := by
  obtain ⟨_, moves, _⟩ := reverseIssue_ok returned
  obtain ⟨groups, middle, grouped, looped⟩ := Session.bind_ok_iff.mp returned
  obtain ⟨rfl, _⟩ := reversibleGroups_ok grouped
  obtain ⟨⟨stored, listed, numbered, rfl⟩, rfl⟩ := reversibleGroups_found grouped
  obtain rfl := Table.eq_of_key known listed numbered.symm
  have whole : ∀ group ∈ byPrice (allocationsOf issue.id middle), IsMoney group.1 := by
    intro group member
    have price := ((groupsOf_byPrice _).prices group.1).mp (List.mem_map_of_mem member)
    obtain ⟨row, charging, same⟩ := List.mem_map.mp price
    exact same ▸ (charged row charging).price
  obtain ⟨rows, restored⟩ := createReceipts_restored whole looped
  exact ⟨restored, rows, balanced.moves moves⟩

/-- The reversal of an issue, at once or after other calls, gives back exactly what the issue
has taken where the rounding of the rows cancels out. -/
theorem reversal_neutral_iff {inputs later : List Input} {qty : Number} {docType : String}
    {requestNumber : Option RequestNumber} {reason : Option String} {link : Option Nat}
    {reversing : Surroundings} {reversedMaterial : Nat} {note : String} {reversedBy : UserId}
    (issues : (issueMaterial surroundings materialId qty createdBy docType requestNumber reason
      link).runOn (run next .empty inputs) = (.ok issue, issued))
    (reverses : (reverseIssue reversing reversedMaterial issue.id note reversedBy).runOn
      (run next issued later) = (.ok created, reversed)) :
    ReversalNeutral issue created (run next .empty inputs) issued (run next issued later)
      reversed ↔ RoundingCancels (allocationsOf issue.id issued) := by
  have balanced := (stock_ledger inputs).1
  obtain ⟨allocations, added, sold⟩ := issueMaterial_sold issues
  have balancedIssued := balanced.issue_added added
  have written : issue ∈ issued.issues.rows :=
    added.issues ▸ List.mem_append_right _ (List.mem_singleton_self _)
  obtain ⟨charged, cost⟩ := added.charged balanced (priced_run inputs) sold
  obtain ⟨balancedLater, known, same⟩ := allocationsOf_run balancedIssued written later
  obtain ⟨restored, rows, balancedReversed⟩ :=
    reverseIssue_restored balancedLater known (same ▸ charged) reverses
  rw [same] at restored
  have groupsOf := groupsOf_byPrice (allocationsOf issue.id issued)
  obtain ⟨quantity, total⟩ := balancedIssued.issued issue written
  rw [issuedQty, ← sum_allocationsOf] at quantity
  rw [issuedCost, ← sum_allocationsOf] at total
  have amounts := sum_totalAmount groupsOf charged restored
  constructor
  · intro neutral
    have zero := neutral.amount
    rw [amounts, total, add_eq_left, div_eq_zero_iff] at zero
    exact_mod_cast zero.resolve_right (by norm_num)
  · intro cancels
    refine ⟨?_, fun price => ?_, ?_, ?_⟩
    · rw [map_restored (fun _ _ back => back.qty) restored, groupsOf.total, quantity]
    · rw [← groupsOf.at_price price]
      refine sumOf_forall₂ (restored.flip.imp fun _ _ back => ⟨by rw [back.price], back.qty⟩)
    · rw [amounts, total, show _ = _ from cancels, Int.cast_zero, zero_div, add_zero]
    · have worth := sum_worth groupsOf restored
      have drained := added.stockWorth_eq balanced sold
      rw [balancedReversed.stockWorth_eq, balancedLater.stockWorth_eq, rows, sumOf_append,
        sumOf_of_all fun receipt listed => decide_eq_true ((restored_each restored).2 receipt listed)]
      linarith

end

def workshop : Surroundings := ⟨0, [], true⟩

def stockedWith (lots : List (Decimal × Decimal)) : List Input :=
  ⟨workshop, .createMaterial "клей" "kg" none none⟩ ::
    lots.map fun lot =>
      ⟨workshop, .createReceipt 1 (.finite lot.1) (.finite lot.2) 7 (.noted "склад") "purchase"⟩

def householdIssue (lots : List (Decimal × Decimal)) (qty : Decimal) :
    Except MaterialError MaterialIssue × Ledger :=
  (issueMaterial workshop 1 (.finite qty) 7 "household" none (some "ремонт") none).runOn
    (run next .empty (stockedWith lots))

def mistaken (ledger : Ledger) : Except MaterialError (List MaterialReceipt) × Ledger :=
  (reverseIssue workshop 1 1 "ошибка" 7).runOn ledger

def halfCents : List (Decimal × Decimal) := [(1 / 200, 1), (1 / 200, 1)]

theorem halfCents_amounts :
    (householdIssue halfCents (1 / 100)).1.map (fun issue => (issue.id, issue.totalCost)) =
      .ok (1, 1 / 50) ∧
    (mistaken (householdIssue halfCents (1 / 100)).2).1.map
      (fun created => (created.map (·.totalAmount)).sum) = .ok (1 / 100) := by
  decide +kernel

/-- Each of the lots costs a cent when it is issued, together they cost one when they come
back. -/
theorem halfCents_not_restored : ∃ issue issued created reversed,
    householdIssue halfCents (1 / 100) = (.ok issue, issued) ∧
    mistaken issued = (.ok created, reversed) ∧
    ¬ ReversalNeutral issue created (run next .empty (stockedWith halfCents)) issued issued
      reversed := by
  obtain ⟨costs, back⟩ := halfCents_amounts
  obtain ⟨issue, issues, cost⟩ := map_eq_ok_iff.mp costs
  obtain ⟨created, creates, amount⟩ := map_eq_ok_iff.mp back
  refine ⟨issue, _, created, _, Prod.ext issues rfl, Prod.ext creates rfl, fun neutral => ?_⟩
  have same := neutral.amount
  rw [amount, (Prod.mk.inj cost).2] at same
  norm_num at same

def wholeCents : List (Decimal × Decimal) := [(2, 10), (3, 5 / 2)]

/-- Lots of whole cents come back as they were. -/
theorem wholeCents_restored : ∃ issue issued created reversed,
    householdIssue wholeCents 4 = (.ok issue, issued) ∧
    mistaken issued = (.ok created, reversed) ∧
    (ReversalNeutral issue created (run next .empty (stockedWith wholeCents)) issued issued
      reversed ↔ RoundingCancels (allocationsOf issue.id issued)) := by
  have numbered : (householdIssue wholeCents 4).1.map (·.id) = .ok 1 := by decide +kernel
  have returns : (mistaken (householdIssue wholeCents 4).2).1.isOk = true := by decide +kernel
  cases taken : householdIssue wholeCents 4 with
  | mk outcome issued =>
    rw [taken] at numbered returns
    obtain ⟨issue, rfl, first⟩ := map_eq_ok_iff.mp numbered
    cases back : mistaken issued with
    | mk restored reversed =>
      rw [back] at returns
      cases restored with
      | error error => cases returns
      | ok created =>
        have same : (reverseIssue workshop 1 issue.id "ошибка" 7).runOn (run next issued []) =
            (.ok created, reversed) := by
          rw [show issue.id = 1 from first]
          exact back
        exact ⟨issue, issued, created, reversed, rfl, back, reversal_neutral_iff taken same⟩

end InfrasafeBot.MaterialService
