import InfrasafeBot.Library.Machine
import InfrasafeBot.Library.Sums
import InfrasafeBot.MaterialService

/-! The stock ledger balances: what a lot has left is what its allocations have not
taken, an issue is the sum of its allocations, and every operation is reversed at
most once. -/

set_option autoImplicit false

namespace InfrasafeBot.MaterialService

open Library Machine RequestWorkflow

section

variable {value rounded qty : Decimal} {number : Number}

def IsMoney (amount : Decimal) : Prop := ∃ cents : Int, amount = cents / 100

theorem quantized_ok {coefficient : Int} {scale : Nat}
    (kept : quantized coefficient scale = .ok rounded) : rounded = coefficient / scale := by
  unfold quantized at kept
  split at kept
  · cases kept
  · cases kept
    rfl

theorem isMoney_money (kept : money value = .ok rounded) : IsMoney rounded := ⟨_, quantized_ok kept⟩

theorem roundHalfUp_intCast (cents : Int) : roundHalfUp (cents : Decimal) = cents := by
  have rounds : ∀ whole : Int, ⌊(whole : Decimal) + 1 / 2⌋ = whole := by
    intro whole
    rw [Int.floor_eq_iff]
    constructor <;> linarith
  unfold roundHalfUp
  split
  · exact rounds cents
  · have negated := rounds (-cents)
    push_cast at negated
    rw [negated, neg_neg]

theorem money_eq_self (whole : IsMoney value) (kept : money value = .ok rounded) : rounded = value := by
  obtain ⟨cents, rfl⟩ := whole
  have same : roundHalfUp ((cents : Decimal) / 100 * 100) = cents := by
    rw [div_mul_cancel₀ _ (by norm_num)]
    exact roundHalfUp_intCast cents
  have quotient := quantized_ok kept
  rw [same] at quotient
  exact_mod_cast quotient

theorem IsMoney.add {left right : Decimal} (first : IsMoney left) (second : IsMoney right) :
    IsMoney (left + right) := by
  obtain ⟨a, rfl⟩ := first
  obtain ⟨b, rfl⟩ := second
  exact ⟨a + b, by push_cast; ring⟩

theorem isMoney_sum {amounts : List Decimal} (each : ∀ amount ∈ amounts, IsMoney amount) :
    IsMoney amounts.sum := by
  induction amounts with
  | nil => exact ⟨0, by simp⟩
  | cons amount rest ih =>
    rw [List.sum_cons]
    exact (each amount List.mem_cons_self).add
      (ih fun later listed => each later (List.mem_cons_of_mem _ listed))

theorem parseQty_pos (parsed : parseQty number = .ok qty) : 0 < qty := by
  cases number with
  | notANumber | nan => cases parsed
  | infinity negative => cases negative <;> cases parsed
  | finite given =>
    rw [parseQty] at parsed
    split at parsed
    · cases parsed
    · next positive =>
        obtain ⟨stepped, _, stepped_ok⟩ := bind_eq_ok_iff.mp parsed
        split at stepped_ok
        · cases stepped_ok
        · cases stepped_ok
          exact not_le.mp positive

end

variable {allocations : List Allocation}

section

variable {batches : List BatchView} {wanted unserved : Decimal}

/-- An allocation takes no more than its lot has, for an amount in cents. -/
def Drawn (batches : List BatchView) (allocation : Allocation) : Prop :=
  (∃ batch ∈ batches, batch.id = allocation.receiptId ∧ 0 < allocation.qty ∧
    allocation.qty ≤ batch.qtyRemaining) ∧ IsMoney allocation.amount

theorem Drawn.later {batch : BatchView} {allocation : Allocation}
    (drawn : Drawn batches allocation) : Drawn (batch :: batches) allocation := by
  obtain ⟨⟨other, listed, taken⟩, amount⟩ := drawn
  exact ⟨⟨other, List.mem_cons_of_mem _ listed, taken⟩, amount⟩

theorem allocateBatches_ok
    (allocated : allocateBatches batches wanted = .ok (allocations, unserved)) :
    (allocations.map (·.qty)).sum + unserved = wanted ∧
    (allocations.map (·.receiptId)).Sublist (batches.map (·.id)) ∧
    (∀ allocation ∈ allocations, Drawn batches allocation) ∧
    (0 ≤ wanted → 0 ≤ unserved) := by
  induction batches generalizing wanted allocations with
  | nil =>
    cases allocated
    refine ⟨by simp, by simp, ?_, id⟩
    intro allocation listed
    cases listed
  | cons batch rest ih =>
    rw [allocateBatches] at allocated
    split at allocated
    · cases allocated
      refine ⟨by simp, by simp, ?_, id⟩
      intro allocation listed
      cases listed
    · next wanting =>
        split at allocated
        · next empty =>
            obtain ⟨total, order, drawn, served⟩ := ih allocated
            exact ⟨total, order.cons _, fun allocation listed => (drawn allocation listed).later, served⟩
        · next stocked =>
            obtain ⟨amount, priced, allocated⟩ := bind_eq_ok_iff.mp allocated
            obtain ⟨⟨others, left⟩, continued, allocated⟩ := bind_eq_ok_iff.mp allocated
            cases allocated
            obtain ⟨total, order, drawn, served⟩ := ih continued
            have wants : 0 < wanted := not_le.mp wanting
            have holds : 0 < batch.qtyRemaining := not_le.mp stocked
            refine ⟨?_, order.cons_cons _, ?_, ?_⟩
            · rw [List.map_cons, List.sum_cons]
              linarith
            · intro allocation listed
              rcases List.mem_cons.mp listed with rfl | later
              · exact ⟨⟨batch, List.mem_cons_self, rfl, lt_min holds wants,
                  min_le_left _ _⟩, isMoney_money priced⟩
              · exact (drawn allocation later).later
            · intro _
              have taken : min batch.qtyRemaining wanted ≤ wanted := min_le_right _ _
              exact served (by linarith)

theorem allocateFifo_ok (positive : 0 < wanted)
    (allocated : allocateFifo batches wanted = .ok allocations) :
    (allocations.map (·.qty)).sum = wanted ∧
    (allocations.map (·.receiptId)).Sublist (batches.map (·.id)) ∧
    ∀ allocation ∈ allocations, Drawn batches allocation := by
  obtain ⟨⟨taken, unserved⟩, looped, allocated⟩ := bind_eq_ok_iff.mp allocated
  obtain ⟨total, order, drawn, served⟩ := allocateBatches_ok looped
  dsimp only at allocated
  split at allocated
  · cases allocated
  · next satisfied =>
      cases allocated
      have none : unserved = 0 := le_antisymm (not_lt.mp satisfied) (served positive.le)
      exact ⟨by rw [← total, none, add_zero], order, drawn⟩

theorem mem_openBatches {materialId : Nat} {ledger : Ledger} {receipt : MaterialReceipt}
    (listed : receipt ∈ openBatches materialId ledger) :
    receipt ∈ ledger.receipts.rows ∧ receipt.materialId = materialId := by
  unfold openBatches at listed
  rw [List.mem_insertionSort, List.mem_filter, Bool.and_eq_true] at listed
  exact ⟨listed.1, by simpa using listed.2.1⟩

theorem openBatches_nodup (materialId : Nat) (ledger : Ledger) :
    ((openBatches materialId ledger).map MaterialReceipt.id).Nodup := by
  unfold openBatches
  rw [((List.perm_insertionSort _ _).map _).nodup_iff]
  exact ledger.receipts.unique.sublist (List.filter_sublist.map _)

end

variable {before after : Ledger} {surroundings : Surroundings} {materialId : Nat}
  {createdBy : UserId} {material : Material} {receipt : MaterialReceipt} {issue : MaterialIssue}

section

structure ReceiptAdded (before after : Ledger) (receipt : MaterialReceipt) : Prop where
  rows : after.receipts.rows = before.receipts.rows ++ [receipt]
  fresh : receipt.id ∉ before.receipts.rows.map (·.id)
  whole : receipt.qtyRemaining = receipt.qty
  positive : 0 < receipt.qty
  issues : after.issues = before.issues
  allocations : after.allocations = before.allocations

/-- Allocations that serve a demand from the lots of a material. -/
structure Serves (ledger : Ledger) (materialId : Nat) (qty : Decimal)
    (allocations : List Allocation) : Prop where
  total : (allocations.map (·.qty)).sum = qty
  distinct : (allocations.map (·.receiptId)).Nodup
  drawn : ∀ allocation ∈ allocations, ∃ receipt ∈ ledger.receipts.rows,
    receipt.id = allocation.receiptId ∧ receipt.materialId = materialId ∧
      0 < allocation.qty ∧ allocation.qty ≤ receipt.qtyRemaining

structure IssueAdded (before after : Ledger) (issue : MaterialIssue)
    (allocations : List Allocation) : Prop where
  serves : Serves before issue.materialId issue.qty allocations
  cost : (allocations.map (·.amount)).sum = issue.totalCost
  receipts : after.receipts = decrementBatches allocations before.receipts
  issues : after.issues.rows = before.issues.rows ++ [issue]
  fresh : issue.id ∉ before.issues.rows.map (·.id)
  allocations : after.allocations = allocations.foldl (addAllocation issue.id) before.allocations

inductive Move (before after : Ledger) : Prop where
  | catalog (receipts : after.receipts = before.receipts) (issues : after.issues = before.issues)
      (allocations : after.allocations = before.allocations)
  | receipt (receipt : MaterialReceipt) (added : ReceiptAdded before after receipt)
  | issue (issue : MaterialIssue) (allocations : List Allocation)
      (added : IssueAdded before after issue allocations)

variable {details : ReceiptDetails} {docType : String} {qty unitPrice : Number}
  {reversal : Option Nat} {target : IssueTarget} {Item : Type} {demand : Demand}
  {reason : Option String} {requestNumber : Option RequestNumber} {created : List MaterialReceipt}
  {issueId receiptId : Nat}

theorem getActiveMaterial_ok
    (returned : (getActiveMaterial materialId).runOn before = (.ok material, after)) :
    material.id = materialId ∧ after = before := by
  unfold getActiveMaterial at returned
  rw [Session.read_bind] at returned
  cases found : before.materials.find? materialId with
  | none =>
    rw [found] at returned
    cases returned
  | some card =>
    rw [found] at returned
    obtain ⟨_, returned⟩ := Session.check_bind_ok_iff.mp returned
    obtain ⟨rfl, rfl⟩ := Session.pure_ok_iff.mp returned
    exact ⟨Table.key_of_find? found, rfl⟩

theorem newReceipt_ok {row : MaterialReceipt}
    (returned : (newReceipt surroundings materialId qty unitPrice createdBy details docType
      reversal).runOn before = (.ok row, after)) :
    after = before ∧ row.qtyRemaining = row.qty ∧ 0 < row.qty ∧
      row.reversalOfIssueId = reversal := by
  unfold newReceipt at returned
  split at returned
  · cases returned
  · obtain ⟨amount, parsed, quantified⟩ := Session.ofExcept_bind_ok_iff.mp returned
    obtain ⟨price, _, valued⟩ := Session.ofExcept_bind_ok_iff.mp quantified
    obtain ⟨material, middle, active, loaded⟩ := Session.bind_ok_iff.mp valued
    obtain ⟨total, _, totalled⟩ := Session.ofExcept_bind_ok_iff.mp loaded
    obtain ⟨rfl, rfl⟩ := Session.pure_ok_iff.mp totalled
    exact ⟨(getActiveMaterial_ok active).2, rfl, parseQty_pos parsed, rfl⟩

theorem createReceipt_ok
    (returned : (createReceipt surroundings materialId qty unitPrice createdBy details docType
      reversal).runOn before = (.ok receipt, after)) :
    ReceiptAdded before after receipt ∧ receipt.reversalOfIssueId = reversal := by
  obtain ⟨row, middle, drafted, inserted⟩ := Session.bind_ok_iff.mp returned
  rw [Session.read_bind, Session.write_bind] at inserted
  obtain ⟨_, flushed⟩ := Session.check_bind_ok_iff.mp inserted
  obtain ⟨rfl, rfl⟩ := Session.pure_ok_iff.mp flushed
  obtain ⟨rfl, whole, positive, linked⟩ := newReceipt_ok drafted
  exact ⟨⟨rfl, Table.nextKey_fresh _, whole, positive, rfl, rfl⟩, linked⟩

theorem buildIssue_ok {qty : Decimal} {row : MaterialIssue}
    (priced : ∀ allocation ∈ allocations, IsMoney allocation.amount)
    (built : buildIssue surroundings allocations material qty target createdBy = .ok row) :
    row.materialId = material.id ∧ row.qty = qty ∧
      (allocations.map (·.amount)).sum = row.totalCost := by
  obtain ⟨cost, rounded, made⟩ := bind_eq_ok_iff.mp built
  cases made
  have whole : IsMoney (allocations.map (·.amount)).sum := by
    apply isMoney_sum
    intro amount listed
    obtain ⟨allocation, member, rfl⟩ := List.mem_map.mp listed
    exact priced allocation member
  exact ⟨rfl, rfl, (money_eq_self whole rounded).symm⟩

theorem applyIssue_ok {qty : Decimal} (serves : Serves before material.id qty allocations)
    (priced : ∀ allocation ∈ allocations, IsMoney allocation.amount)
    (returned : (applyIssue surroundings allocations material qty target createdBy).runOn
      before = (.ok issue, after)) : IssueAdded before after issue allocations := by
  unfold applyIssue at returned
  rw [Session.write_bind] at returned
  obtain ⟨row, built, inserted⟩ := Session.ofExcept_bind_ok_iff.mp returned
  rw [Session.read_bind, Session.write_bind] at inserted
  obtain ⟨_, flushed⟩ := Session.check_bind_ok_iff.mp inserted
  rw [Session.write_bind] at flushed
  obtain ⟨_, allocated⟩ := Session.check_bind_ok_iff.mp flushed
  obtain ⟨rfl, rfl⟩ := Session.pure_ok_iff.mp allocated
  obtain ⟨same, quantity, cost⟩ := buildIssue_ok priced built
  refine ⟨?_, cost, rfl, rfl, Table.nextKey_fresh _, rfl⟩
  dsimp only
  rw [same, quantity]
  exact serves

theorem mapM_ok {Value : Type} {step : Item → Operation Value} {items : List Item}
    {values : List Value} (related : Ledger → Ledger → Prop)
    (reflexive : ∀ ledger, related ledger ledger)
    (transitive : ∀ first second third, related first second → related second third →
      related first third) (each : ∀ item ledger value reached, item ∈ items →
      (step item).runOn ledger = (.ok value, reached) → related ledger reached)
    (returned : (items.mapM step).runOn before = (.ok values, after)) :
    related before after := by
  induction items generalizing before values with
  | nil =>
    obtain ⟨_, rfl⟩ := Session.pure_ok_iff.mp returned
    exact reflexive _
  | cons item rest ih =>
    rw [List.mapM_cons] at returned
    obtain ⟨value, middle, first, later⟩ := Session.bind_ok_iff.mp returned
    obtain ⟨others, reached, looped, ended⟩ := Session.bind_ok_iff.mp later
    obtain ⟨_, rfl⟩ := Session.pure_ok_iff.mp ended
    have onward : related middle reached := by
      refine ih ?_ looped
      intro other ledger value reached listed stepped
      exact each other ledger value reached (List.mem_cons_of_mem _ listed) stepped
    exact transitive _ _ _ (each item before value middle List.mem_cons_self first) onward

abbrev Moves : Ledger → Ledger → Prop := Relation.ReflTransGen Move

theorem newDemand_ok
    (returned : (newDemand materialId qty docType requestNumber reason reversal).runOn before =
      (.ok demand, after)) :
    after = before ∧ demand.material.id = materialId ∧ 0 < demand.qty := by
  obtain ⟨wanted, parsed, quantified⟩ := Session.ofExcept_bind_ok_iff.mp returned
  obtain ⟨known, _, targeted⟩ := Session.ofExcept_bind_ok_iff.mp quantified
  obtain ⟨material, middle, active, loaded⟩ := Session.bind_ok_iff.mp targeted
  obtain ⟨rfl, rfl⟩ := Session.pure_ok_iff.mp loaded
  obtain ⟨identified, same⟩ := getActiveMaterial_ok active
  exact ⟨same, identified, parseQty_pos parsed⟩

theorem allocateDemand_ok (identified : demand.material.id = materialId)
    (positive : 0 < demand.qty)
    (returned : (allocateDemand materialId demand).runOn before = (.ok allocations, after)) :
    after = before ∧ Serves before demand.material.id demand.qty allocations ∧
      ∀ allocation ∈ allocations, IsMoney allocation.amount := by
  unfold allocateDemand at returned
  rw [Session.read_bind] at returned
  have outcome : allocateFifo ((openBatches materialId before).map batchView) demand.qty =
      .ok allocations := congrArg Prod.fst returned
  have same : before = after := congrArg Prod.snd returned
  obtain ⟨total, order, drawn⟩ := allocateFifo_ok positive outcome
  have sameIds : ((openBatches materialId before).map batchView).map (·.id) =
      (openBatches materialId before).map MaterialReceipt.id := by
    rw [List.map_map]
    rfl
  refine ⟨same.symm, ⟨total, ?_, ?_⟩, fun allocation listed => (drawn allocation listed).2⟩
  · exact (openBatches_nodup materialId before).sublist (sameIds ▸ order)
  · intro allocation listed
    obtain ⟨⟨batch, member, numbered, positive, bounded⟩, _⟩ := drawn allocation listed
    obtain ⟨receipt, opened, rfl⟩ := List.mem_map.mp member
    obtain ⟨stored, same⟩ := mem_openBatches opened
    exact ⟨receipt, stored, numbered, same.trans identified.symm, positive, bounded⟩

theorem issueMaterial_ok
    (returned : (issueMaterial surroundings materialId qty createdBy docType requestNumber
      reason reversal).runOn before = (.ok issue, after)) : Move before after := by
  obtain ⟨demand, middle, demanded, required⟩ := Session.bind_ok_iff.mp returned
  obtain ⟨_, checked⟩ := Session.check_bind_ok_iff.mp required
  obtain ⟨allocations, reached, allocated, applied⟩ := Session.bind_ok_iff.mp checked
  obtain ⟨rfl, identified, positive⟩ := newDemand_ok demanded
  obtain ⟨rfl, serves, priced⟩ := allocateDemand_ok identified positive allocated
  exact .issue issue allocations (applyIssue_ok serves priced applied)

theorem addToPrice_ne_nil (groups : List (Decimal × Decimal))
    (allocation : MaterialIssueAllocation) : addToPrice groups allocation ≠ [] := by
  unfold addToPrice
  split
  · next listed =>
      intro none
      rw [List.map_eq_nil_iff.mp none] at listed
      cases listed
  · simp

theorem byPrice_ne_nil {allocations : List MaterialIssueAllocation} (some : allocations ≠ []) :
    byPrice allocations ≠ [] := by
  have grows : ∀ (rest : List MaterialIssueAllocation) (groups : List (Decimal × Decimal)),
      groups ≠ [] → rest.foldl addToPrice groups ≠ [] := by
    intro rest
    induction rest with
    | nil => exact fun _ kept => kept
    | cons allocation rest ih => exact fun groups _ => ih _ (addToPrice_ne_nil groups allocation)
  cases allocations with
  | nil => exact absurd rfl some
  | cons allocation rest => exact grows rest _ (addToPrice_ne_nil [] allocation)

theorem reversal_added {step : Item → Operation MaterialReceipt} {items : List Item}
    (some : items ≠ []) (each : ∀ item ledger receipt reached,
      (step item).runOn ledger = (.ok receipt, reached) →
      ReceiptAdded ledger reached receipt ∧ receipt.reversalOfIssueId = .some issueId)
    (returned : (items.mapM step).runOn before = (.ok created, after)) :
    ∃ receipt ∈ after.receipts.rows, receipt.reversalOfIssueId = .some issueId := by
  cases items with
  | nil => exact absurd rfl some
  | cons item rest =>
    rw [List.mapM_cons] at returned
    obtain ⟨receipt, middle, first, later⟩ := Session.bind_ok_iff.mp returned
    obtain ⟨others, reached, looped, ended⟩ := Session.bind_ok_iff.mp later
    obtain ⟨_, rfl⟩ := Session.pure_ok_iff.mp ended
    obtain ⟨added, reversal⟩ := each item before receipt middle first
    have kept : middle.receipts.rows ⊆ reached.receipts.rows := by
      refine mapM_ok (fun before after => before.receipts.rows ⊆ after.receipts.rows)
        (fun _ => List.Subset.refl _) (fun _ _ _ => List.Subset.trans) ?_ looped
      intro other ledger value next _ stepped
      rw [(each other ledger value next stepped).1.rows]
      exact List.subset_append_left _ _
    refine ⟨receipt, kept ?_, reversal⟩
    rw [added.rows]
    exact List.mem_append_right _ (List.mem_singleton_self _)

theorem reversibleGroups_ok {groups : List (Decimal × Decimal)}
    (returned : (reversibleGroups materialId issueId).runOn before = (.ok groups, after)) :
    after = before ∧
    (∀ receipt ∈ before.receipts.rows, receipt.reversalOfIssueId ≠ some issueId) ∧
    groups ≠ [] := by
  unfold reversibleGroups at returned
  rw [Session.read_bind] at returned
  cases found : before.issues.find? issueId with
  | none =>
    rw [found] at returned
    cases returned
  | some issue =>
    rw [found] at returned
    obtain ⟨_, matched⟩ := Session.check_bind_ok_iff.mp returned
    rw [Session.read_bind] at matched
    obtain ⟨unreversed, fresh⟩ := Session.check_bind_ok_iff.mp matched
    rw [Session.read_bind] at fresh
    obtain ⟨allocated, grouped⟩ := Session.check_bind_ok_iff.mp fresh
    obtain ⟨rfl, rfl⟩ := Session.pure_ok_iff.mp grouped
    have some : allocationsOf issueId before ≠ [] := by simpa using allocated
    exact ⟨rfl, by simpa using unreversed, byPrice_ne_nil some⟩

theorem reverseIssue_ok {reason : String}
    (returned : (reverseIssue surroundings materialId issueId reason createdBy).runOn before =
      (.ok created, after)) :
    (∀ receipt ∈ before.receipts.rows, receipt.reversalOfIssueId ≠ some issueId) ∧
    Moves before after ∧
    ∃ receipt ∈ after.receipts.rows, receipt.reversalOfIssueId = some issueId := by
  obtain ⟨groups, middle, grouped, looped⟩ := Session.bind_ok_iff.mp returned
  obtain ⟨rfl, unreversed, some⟩ := reversibleGroups_ok grouped
  refine ⟨unreversed, ?_, ?_⟩
  · refine mapM_ok Moves (fun _ => .refl) (fun _ _ _ => .trans) ?_ looped
    intro group ledger receipt reached _ stepped
    exact .single (.receipt receipt (createReceipt_ok stepped).1)
  · exact reversal_added some
      (fun group ledger receipt reached stepped => createReceipt_ok stepped) looped

theorem wholeReceipt_ok
    (returned : (wholeReceipt materialId receiptId).runOn before = (.ok receipt, after)) :
    after = before ∧ before.receipts.find? receiptId = some receipt ∧
      receipt.materialId = materialId ∧ receipt.qtyRemaining = receipt.qty := by
  unfold wholeReceipt at returned
  rw [Session.read_bind] at returned
  cases found : before.receipts.find? receiptId with
  | none =>
    rw [found] at returned
    cases returned
  | some lot =>
    rw [found] at returned
    obtain ⟨matching, matched⟩ := Session.check_bind_ok_iff.mp returned
    obtain ⟨untouched, whole⟩ := Session.check_bind_ok_iff.mp matched
    obtain ⟨rfl, rfl⟩ := Session.pure_ok_iff.mp whole
    exact ⟨rfl, rfl, of_decide_eq_true matching, of_decide_eq_true untouched⟩

theorem writtenOff_ok {allocation : Allocation}
    (returned : (writtenOff receipt materialId).runOn before = (.ok (material, allocation), after)) :
    after = before ∧ material.id = materialId ∧ allocation.receiptId = receipt.id ∧
      allocation.qty = receipt.qty ∧ IsMoney allocation.amount := by
  unfold writtenOff at returned
  rw [Session.read_bind] at returned
  cases card : before.materials.find? materialId with
  | none =>
    rw [card] at returned
    cases returned
  | some found =>
    rw [card] at returned
    obtain ⟨amount, priced, ended⟩ := Session.ofExcept_bind_ok_iff.mp returned
    obtain ⟨pair, rfl⟩ := Session.pure_ok_iff.mp ended
    cases pair
    exact ⟨rfl, Table.key_of_find? card, rfl, rfl, isMoney_money priced⟩

theorem reverseReceipt_ok {reason : String}
    (stocked : ∀ receipt ∈ before.receipts.rows, 0 < receipt.qty)
    (returned : (reverseReceipt surroundings materialId receiptId reason createdBy).runOn
      before = (.ok issue, after)) :
    ∃ receipt allocation, before.receipts.find? receiptId = some receipt ∧
      receipt.qtyRemaining = receipt.qty ∧ allocation.receiptId = receiptId ∧
      allocation.qty = receipt.qty ∧ IssueAdded before after issue [allocation] := by
  obtain ⟨receipt, middle, checked, loaded⟩ := Session.bind_ok_iff.mp returned
  obtain ⟨⟨material, allocation⟩, reached, charged, applied⟩ := Session.bind_ok_iff.mp loaded
  obtain ⟨rfl, found, matching, intact⟩ := wholeReceipt_ok checked
  obtain ⟨rfl, identified, source, quantity, priced⟩ := writtenOff_ok charged
  have stored := Table.mem_of_find? found
  have serves : Serves reached material.id receipt.qty [allocation] := by
    refine ⟨by simp [quantity], by simp, ?_⟩
    intro other listed
    rw [List.mem_singleton] at listed
    subst listed
    exact ⟨receipt, stored, source.symm, matching.trans identified.symm,
      quantity ▸ stocked receipt stored, (quantity.trans intact.symm).le⟩
  have cents : ∀ other ∈ [allocation], IsMoney other.amount := by simpa using priced
  have numbered : allocation.receiptId = receiptId := source.trans (Table.key_of_find? found)
  exact ⟨receipt, allocation, found, intact, numbered, quantity, applyIssue_ok serves cents applied⟩

end

def consumed (ledger : Ledger) (receiptId : Nat) : Decimal :=
  sumOf (fun allocation => allocation.receiptId = receiptId) (·.qty) ledger.allocations.rows

def issuedQty (ledger : Ledger) (issueId : Nat) : Decimal :=
  sumOf (fun allocation => allocation.issueId = issueId) (·.qty) ledger.allocations.rows

def issuedCost (ledger : Ledger) (issueId : Nat) : Decimal :=
  sumOf (fun allocation => allocation.issueId = issueId) (·.amount) ledger.allocations.rows

structure Balanced (ledger : Ledger) : Prop where
  stock : ∀ receipt ∈ ledger.receipts.rows,
    receipt.qtyRemaining = receipt.qty - consumed ledger receipt.id ∧
      0 ≤ receipt.qtyRemaining ∧ receipt.qtyRemaining ≤ receipt.qty ∧ 0 < receipt.qty
  issued : ∀ issue ∈ ledger.issues.rows,
    issuedQty ledger issue.id = issue.qty ∧ issuedCost ledger issue.id = issue.totalCost
  linked : ∀ allocation ∈ ledger.allocations.rows, 0 < allocation.qty ∧
    ∃ receipt ∈ ledger.receipts.rows, ∃ issue ∈ ledger.issues.rows,
      receipt.id = allocation.receiptId ∧ issue.id = allocation.issueId ∧
        receipt.materialId = issue.materialId

theorem Balanced.consumed_of_fresh (balanced : Balanced before) {id : Nat}
    (fresh : id ∉ before.receipts.rows.map (·.id)) : consumed before id = 0 := by
  apply sumOf_eq_zero
  intro allocation listed
  obtain ⟨_, receipt, stored, _, _, same, _⟩ := balanced.linked allocation listed
  have other : allocation.receiptId ≠ id := by
    intro equal
    exact fresh (List.mem_map.mpr ⟨receipt, stored, same.trans equal⟩)
  simp [other]

theorem Balanced.allocated_of_fresh (balanced : Balanced before) {id : Nat}
    (fresh : id ∉ before.issues.rows.map (·.id)) :
    ∀ allocation ∈ before.allocations.rows, allocation.issueId ≠ id := by
  intro allocation listed equal
  obtain ⟨_, _, _, issue, stored, _, same, _⟩ := balanced.linked allocation listed
  exact fresh (List.mem_map.mpr ⟨issue, stored, same.trans equal⟩)

theorem Balanced.receipt_added (balanced : Balanced before)
    (added : ReceiptAdded before after receipt) : Balanced after := by
  have same : ∀ id, consumed after id = consumed before id := by
    intro id
    rw [consumed, consumed, added.allocations]
  constructor
  · intro stored listed
    rw [added.rows, List.mem_append, List.mem_singleton] at listed
    rw [same]
    rcases listed with old | rfl
    · exact balanced.stock stored old
    · have none := balanced.consumed_of_fresh added.fresh
      have positive := added.positive
      have whole := added.whole
      exact ⟨by rw [none, whole, sub_zero], by rw [whole]; exact positive.le, whole.le, positive⟩
  · intro stored listed
    rw [issuedQty, issuedCost, added.allocations]
    rw [added.issues] at listed
    exact balanced.issued stored listed
  · intro allocation listed
    rw [added.allocations] at listed
    obtain ⟨positive, lot, stored, issue, written, linked⟩ := balanced.linked allocation listed
    refine ⟨positive, lot, ?_, issue, added.issues ▸ written, linked⟩
    rw [added.rows]
    exact List.mem_append_left _ stored

def drawnDown (allocations : List Allocation) (receipt : MaterialReceipt) : MaterialReceipt :=
  { receipt with
    qtyRemaining := receipt.qtyRemaining -
      sumOf (fun allocation => allocation.receiptId = receipt.id) (·.qty) allocations }

theorem decrementBatches_rows (receipts : Table MaterialReceipt.id) :
    (decrementBatches allocations receipts).rows =
      receipts.rows.map (drawnDown allocations) := by
  induction allocations generalizing receipts with
  | nil =>
    have same : drawnDown [] = id := by
      funext receipt
      simp [drawnDown]
    simp [decrementBatches, same]
  | cons allocation rest ih =>
    have step : decrementBatches (allocation :: rest) receipts =
        decrementBatches rest (decrement receipts allocation) := rfl
    rw [step, ih]
    simp only [decrement, Table.update, List.map_map]
    apply List.map_congr_left
    intro receipt _
    by_cases hit : receipt.id = allocation.receiptId
    · simp [drawnDown, sumOf_cons, hit, sub_sub]
    · simp [drawnDown, sumOf_cons, hit, Ne.symm hit]

def Stores (issueId : Nat) (stored : MaterialIssueAllocation) (allocation : Allocation) : Prop :=
  stored.issueId = issueId ∧ stored.receiptId = allocation.receiptId ∧
    stored.qty = allocation.qty ∧ stored.amount = allocation.amount

theorem addAllocations_related {relates : MaterialIssueAllocation → Allocation → Prop}
    {issueId : Nat} (related : ∀ id allocation, relates
      ⟨id, issueId, allocation.receiptId, allocation.qty, allocation.unitPrice,
        allocation.amount⟩ allocation)
    (allocations : List Allocation) (table : Table MaterialIssueAllocation.id) :
    ∃ added, (allocations.foldl (addAllocation issueId) table).rows = table.rows ++ added ∧
      List.Forall₂ relates added allocations := by
  induction allocations generalizing table with
  | nil => exact ⟨[], by simp, .nil⟩
  | cons allocation rest ih =>
    obtain ⟨added, rows, others⟩ := ih (addAllocation issueId table allocation)
    refine ⟨_ :: added, ?_, .cons (related table.nextKey allocation) others⟩
    rw [List.foldl_cons, rows, addAllocation, Table.insert, List.append_assoc]
    rfl

theorem addAllocations_rows (issueId : Nat) (allocations : List Allocation)
    (table : Table MaterialIssueAllocation.id) :
    ∃ added, (allocations.foldl (addAllocation issueId) table).rows = table.rows ++ added ∧
      List.Forall₂ (Stores issueId) added allocations :=
  addAllocations_related (fun _ _ => ⟨rfl, rfl, rfl, rfl⟩) allocations table

theorem drawn_le {bound : Decimal} {receiptId : Nat} (nonneg : 0 ≤ bound)
    (distinct : (allocations.map (·.receiptId)).Nodup)
    (bounded : ∀ allocation ∈ allocations, allocation.receiptId = receiptId → allocation.qty ≤ bound) :
    sumOf (fun allocation => allocation.receiptId = receiptId) (·.qty) allocations ≤ bound := by
  induction allocations with
  | nil => simpa using nonneg
  | cons allocation rest ih =>
    rw [List.map_cons, List.nodup_cons] at distinct
    rw [sumOf_cons]
    by_cases hit : allocation.receiptId = receiptId
    · have none : sumOf (fun allocation => allocation.receiptId = receiptId) (·.qty) rest =
          0 := by
        apply sumOf_eq_zero
        intro other listed
        have different : other.receiptId ≠ receiptId := by
          intro equal
          exact distinct.1 (List.mem_map.mpr ⟨other, listed, equal.trans hit.symm⟩)
        simp [different]
      rw [none, add_zero]
      simpa [hit] using bounded allocation List.mem_cons_self hit
    · have later := ih distinct.2 fun other listed => bounded other (List.mem_cons_of_mem _ listed)
      simpa [hit] using later

theorem Stores.all {stored : List MaterialIssueAllocation} {issueId : Nat}
    (stores : List.Forall₂ (Stores issueId) stored allocations) :
    ∀ row ∈ stored, ∃ allocation ∈ allocations, Stores issueId row allocation := by
  induction stores with
  | nil => simp
  | cons first rest ih =>
    intro row listed
    rcases List.mem_cons.mp listed with rfl | later
    · exact ⟨_, List.mem_cons_self, first⟩
    · obtain ⟨allocation, member, same⟩ := ih row later
      exact ⟨allocation, List.mem_cons_of_mem _ member, same⟩

section

variable (added : IssueAdded before after issue allocations)

include added

theorem IssueAdded.consumed_eq (receiptId : Nat)
    : consumed after receiptId = consumed before receiptId +
      sumOf (fun allocation => allocation.receiptId = receiptId) (·.qty) allocations := by
  obtain ⟨stored, rows, stores⟩ := addAllocations_rows issue.id allocations before.allocations
  rw [consumed, added.allocations, rows, sumOf_append]
  congr 1
  apply sumOf_forall₂
  exact stores.imp fun _ _ same => ⟨by rw [same.2.1], same.2.2.1⟩

theorem IssueAdded.sums_eq (balanced : Balanced before) :
    (∀ issueId ≠ issue.id, issuedQty after issueId = issuedQty before issueId ∧
      issuedCost after issueId = issuedCost before issueId) ∧
    issuedQty after issue.id = issue.qty ∧ issuedCost after issue.id = issue.totalCost := by
  obtain ⟨stored, rows, stores⟩ := addAllocations_rows issue.id allocations before.allocations
  have others := balanced.allocated_of_fresh added.fresh
  have unselected : ∀ row ∈ before.allocations.rows, decide (row.issueId = issue.id) = false :=
    fun row listed => decide_eq_false (others row listed)
  unfold issuedQty issuedCost
  rw [added.allocations, rows]
  simp only [sumOf_append, sumOf_eq_zero unselected, zero_add]
  refine ⟨?_, ?_, ?_⟩
  · intro issueId different
    have none : ∀ row ∈ stored, decide (row.issueId = issueId) = false := by
      intro row listed
      obtain ⟨_, _, same⟩ := Stores.all stores row listed
      simp [same.1, different.symm]
    simp [sumOf_eq_zero none]
  · calc sumOf (fun row => row.issueId = issue.id) (·.qty) stored
        = sumOf (fun _ => true) (·.qty) allocations :=
          sumOf_forall₂ (stores.imp fun _ _ same => ⟨by simp [same.1], same.2.2.1⟩)
      _ = (allocations.map (·.qty)).sum := sumOf_of_all fun _ _ => rfl
      _ = issue.qty := added.serves.total
  · calc sumOf (fun row => row.issueId = issue.id) (·.amount) stored
        = sumOf (fun _ => true) (·.amount) allocations :=
          sumOf_forall₂ (stores.imp fun _ _ same => ⟨by simp [same.1], same.2.2.2⟩)
      _ = (allocations.map (·.amount)).sum := sumOf_of_all fun _ _ => rfl
      _ = issue.totalCost := added.cost

theorem IssueAdded.share_le (listed : receipt ∈ before.receipts.rows)
    (stocked : 0 ≤ receipt.qtyRemaining) :
    sumOf (fun allocation => allocation.receiptId = receipt.id) (·.qty) allocations ≤
      receipt.qtyRemaining := by
  apply drawn_le stocked added.serves.distinct
  intro allocation member same
  obtain ⟨drawn, stored, numbered, _, _, bounded⟩ := added.serves.drawn allocation member
  rw [Table.eq_of_key listed stored (same.symm.trans numbered.symm)]
  exact bounded

theorem IssueAdded.share_nonneg (selects : Allocation → Bool)
    : 0 ≤ sumOf selects (·.qty) allocations := by
  apply sumOf_nonneg
  intro allocation member
  obtain ⟨_, _, _, _, positive, _⟩ := added.serves.drawn allocation member
  exact positive.le

theorem IssueAdded.receipt_rows :
    after.receipts.rows = before.receipts.rows.map (drawnDown allocations) := by
  rw [added.receipts, decrementBatches_rows]

end

theorem Balanced.issue_added (balanced : Balanced before)
    (added : IssueAdded before after issue allocations) : Balanced after := by
  constructor
  · intro receipt listed
    rw [added.receipt_rows] at listed
    obtain ⟨lot, stored, rfl⟩ := List.mem_map.mp listed
    obtain ⟨remaining, nonneg, bounded, positive⟩ := balanced.stock lot stored
    have taken := added.consumed_eq lot.id
    have least := added.share_le stored nonneg
    have share := added.share_nonneg fun allocation => allocation.receiptId = lot.id
    dsimp only [drawnDown]
    refine ⟨?_, ?_, ?_, positive⟩
    · rw [taken]
      linarith
    · linarith
    · linarith
  · intro written listed
    obtain ⟨others, quantity, cost⟩ := added.sums_eq balanced
    rw [added.issues, List.mem_append, List.mem_singleton] at listed
    rcases listed with old | rfl
    · have different : written.id ≠ issue.id := by
        intro same
        exact added.fresh (List.mem_map.mpr ⟨written, old, same⟩)
      rw [(others written.id different).1, (others written.id different).2]
      exact balanced.issued written old
    · exact ⟨quantity, cost⟩
  · intro row listed
    obtain ⟨stored, rows, stores⟩ := addAllocations_rows issue.id allocations
      before.allocations
    rw [added.allocations, rows, List.mem_append] at listed
    rw [added.receipt_rows, added.issues]
    rcases listed with old | fresh
    · obtain ⟨positive, lot, held, written, kept, linked⟩ := balanced.linked row old
      exact ⟨positive, drawnDown allocations lot, List.mem_map_of_mem held, written,
        List.mem_append_left _ kept, linked⟩
    · obtain ⟨allocation, member, owner, source, quantity, _⟩ := Stores.all stores row fresh
      obtain ⟨lot, held, numbered, same, positive, _⟩ := added.serves.drawn allocation member
      exact ⟨quantity ▸ positive, drawnDown allocations lot, List.mem_map_of_mem held, issue,
        List.mem_append_right _ (List.mem_singleton_self _), numbered.trans source.symm,
        owner.symm, same⟩

theorem Balanced.move (balanced : Balanced before) (move : Move before after) : Balanced after := by
  cases move with
  | catalog receipts issues allocations =>
    constructor
    · intro receipt listed
      rw [receipts] at listed
      rw [consumed, allocations]
      exact balanced.stock receipt listed
    · intro issue listed
      rw [issues] at listed
      rw [issuedQty, issuedCost, allocations]
      exact balanced.issued issue listed
    · rw [allocations, receipts, issues]
      exact balanced.linked
  | receipt receipt added => exact balanced.receipt_added added
  | issue issue allocations added => exact balanced.issue_added added

theorem Balanced.moves (balanced : Balanced before) (moves : Moves before after) : Balanced after := by
  induction moves with
  | refl => exact balanced
  | tail _ move ih => exact ih.move move

section

variable {category : Option String} {minStock : Option Number} {name unit : String}
  {card : Material} {patch : MaterialPatch} {adjustment : Adjustment}

theorem newMaterial_ok {row : Material}
    (returned : (newMaterial name unit category minStock).runOn before = (.ok row, after)) :
    after = before := by
  obtain ⟨_, named⟩ := Session.check_bind_ok_iff.mp returned
  obtain ⟨known, _, measured⟩ := Session.ofExcept_bind_ok_iff.mp named
  obtain ⟨stock, _, bounded⟩ := Session.ofExcept_bind_ok_iff.mp measured
  rw [Session.read_bind] at bounded
  split at bounded
  · cases bounded
  · exact (Session.pure_ok_iff.mp bounded).2.symm

theorem createMaterial_ok
    (returned : (createMaterial surroundings name unit category minStock).runOn before =
      (.ok material, after)) : Move before after := by
  obtain ⟨row, middle, drafted, inserted⟩ := Session.bind_ok_iff.mp returned
  rw [Session.read_bind, Session.write_bind] at inserted
  obtain ⟨_, flushed⟩ := Session.check_bind_ok_iff.mp inserted
  obtain ⟨_, rfl⟩ := Session.pure_ok_iff.mp flushed
  rw [newMaterial_ok drafted]
  exact .catalog rfl rfl rfl

theorem patchUnit_ok (returned : (patchUnit patch card).runOn before = (.ok material, after)) :
    after = before := by
  unfold patchUnit at returned
  split at returned
  · exact (Session.pure_ok_iff.mp returned).2.symm
  · split at returned
    · exact (Session.pure_ok_iff.mp returned).2.symm
    · obtain ⟨_, _, known⟩ := Session.ofExcept_bind_ok_iff.mp returned
      rw [Session.read_bind] at known
      obtain ⟨_, unmoved⟩ := Session.check_bind_ok_iff.mp known
      exact (Session.pure_ok_iff.mp unmoved).2.symm

theorem patchName_ok (returned : (patchName patch card).runOn before = (.ok material, after)) :
    after = before := by
  unfold patchName at returned
  split at returned
  · exact (Session.pure_ok_iff.mp returned).2.symm
  · obtain ⟨_, named⟩ := Session.check_bind_ok_iff.mp returned
    rw [Session.read_bind] at named
    obtain ⟨_, unique⟩ := Session.check_bind_ok_iff.mp named
    exact (Session.pure_ok_iff.mp unique).2.symm

theorem loadMaterial_ok (returned : (loadMaterial materialId).runOn before = (.ok card, after)) :
    card.id = materialId ∧ after = before := by
  unfold loadMaterial at returned
  rw [Session.read_bind] at returned
  split at returned
  · cases returned
  · next found =>
      obtain ⟨rfl, rfl⟩ := Session.pure_ok_iff.mp returned
      exact ⟨Table.key_of_find? found, rfl⟩

theorem updateMaterial_ok (returned : (updateMaterial surroundings materialId patch).runOn before =
      (.ok material, after)) : Move before after := by
  obtain ⟨card, first, loaded, patched⟩ := Session.bind_ok_iff.mp returned
  obtain ⟨_, second, united, renamed⟩ := Session.bind_ok_iff.mp patched
  obtain ⟨_, third, named, stocked⟩ := Session.bind_ok_iff.mp renamed
  obtain ⟨_, _, bounded⟩ := Session.ofExcept_bind_ok_iff.mp stocked
  rw [Session.write_bind] at bounded
  obtain ⟨_, flushed⟩ := Session.check_bind_ok_iff.mp bounded
  obtain ⟨_, written⟩ := Session.pure_ok_iff.mp flushed
  rw [patchName_ok named, patchUnit_ok united, (loadMaterial_ok loaded).2] at written
  subst written
  exact .catalog rfl rfl rfl

/-- What an adjustment that returns has done, by its reversal links. -/
inductive Adjustment.Done (adjustment : Adjustment) (before after : Ledger) : Prop where
  | issueReversed (issueId : Nat) (linked : adjustment.reversalOfIssueId = some issueId)
      (unlinked : adjustment.reversalOfReceiptId = none)
      (first : ∀ receipt ∈ before.receipts.rows, receipt.reversalOfIssueId ≠ some issueId)
      (moves : Moves before after)
      (marked : ∃ receipt ∈ after.receipts.rows, receipt.reversalOfIssueId = some issueId)
  | receiptReversed (receiptId : Nat) (issue : MaterialIssue) (receipt : MaterialReceipt)
      (allocation : Allocation) (linked : adjustment.reversalOfReceiptId = some receiptId)
      (unlinked : adjustment.reversalOfIssueId = none)
      (found : before.receipts.find? receiptId = some receipt)
      (whole : receipt.qtyRemaining = receipt.qty)
      (drains : allocation.receiptId = receiptId ∧ allocation.qty = receipt.qty)
      (added : IssueAdded before after issue [allocation])
  | inventory (unlinked : adjustment.isReversal = false) (move : Move before after)

theorem validateAdjustment_one_link {issueId : Nat}
    (valid : validateAdjustment adjustment = .ok ())
    (linked : adjustment.reversalOfIssueId = some issueId) :
    adjustment.reversalOfReceiptId = none := by
  unfold validateAdjustment at valid
  split at valid
  · cases valid
  · split at valid
    · cases valid
    · split at valid
      · cases valid
      · next single =>
          rw [linked] at single
          simpa using single

theorem adjust_ok {adjusted : Adjusted} (balanced : Balanced before)
    (returned : (adjust surroundings materialId adjustment createdBy).runOn before =
      (.ok adjusted, after)) : adjustment.Done before after := by
  obtain ⟨_, valid, matched⟩ := Session.ofExcept_bind_ok_iff.mp returned
  cases issueLink : adjustment.reversalOfIssueId with
  | some issueId =>
    have single := validateAdjustment_one_link valid issueLink
    rw [issueLink] at matched
    obtain ⟨_, reached, reversed, ended⟩ := Session.bind_ok_iff.mp matched
    obtain ⟨_, rfl⟩ := Session.pure_ok_iff.mp ended
    obtain ⟨first, moves, marked⟩ := reverseIssue_ok reversed
    exact .issueReversed issueId issueLink single first moves marked
  | none =>
    rw [issueLink] at matched
    cases receiptLink : adjustment.reversalOfReceiptId with
    | some receiptId =>
      rw [receiptLink] at matched
      obtain ⟨_, reached, reversed, ended⟩ := Session.bind_ok_iff.mp matched
      obtain ⟨_, rfl⟩ := Session.pure_ok_iff.mp ended
      have stocked := fun receipt listed => (balanced.stock receipt listed).2.2.2
      obtain ⟨receipt, allocation, found, whole, same, quantity, added⟩ :=
        reverseReceipt_ok stocked reversed
      exact .receiptReversed receiptId _ receipt allocation receiptLink issueLink found whole
        ⟨same, quantity⟩ added
    | none =>
      rw [receiptLink] at matched
      have unlinked : adjustment.isReversal = false := by
        simp [Adjustment.isReversal, issueLink, receiptLink]
      dsimp only at matched
      split at matched
      · obtain ⟨receipt, reached, created, ended⟩ := Session.bind_ok_iff.mp matched
        obtain ⟨_, rfl⟩ := Session.pure_ok_iff.mp ended
        exact .inventory unlinked (.receipt receipt (createReceipt_ok created).1)
      · obtain ⟨issue, reached, issued, ended⟩ := Session.bind_ok_iff.mp matched
        obtain ⟨_, rfl⟩ := Session.pure_ok_iff.mp ended
        exact .inventory unlinked (issueMaterial_ok issued)

theorem Adjustment.Done.moves (done : adjustment.Done before after) : Moves before after := by
  cases done with
  | issueReversed _ _ _ _ moves _ => exact moves
  | receiptReversed _ issue _ allocation _ _ _ _ _ added => exact .single (.issue issue _ added)
  | inventory _ move => exact .single move

theorem operation_moves {call : Call} (balanced : Balanced before)
    (returned : (operation surroundings call).runOn before = (.ok (), after)) :
    Moves before after := by
  cases call with
  | createMaterial name unit category minStock =>
    obtain ⟨_, created⟩ := Session.discard_ok_iff.mp returned
    exact .single (createMaterial_ok created)
  | updateMaterial materialId patch =>
    obtain ⟨_, updated⟩ := Session.discard_ok_iff.mp returned
    exact .single (updateMaterial_ok updated)
  | createReceipt materialId qty unitPrice createdBy details docType =>
    obtain ⟨receipt, created⟩ := Session.discard_ok_iff.mp returned
    exact .single (.receipt receipt (createReceipt_ok created).1)
  | issueMaterial | issueMaterialSync =>
    obtain ⟨_, issued⟩ := Session.discard_ok_iff.mp returned
    exact .single (issueMaterial_ok issued)
  | adjust materialId adjustment createdBy =>
    obtain ⟨_, adjusted⟩ := Session.discard_ok_iff.mp returned
    exact (adjust_ok balanced adjusted).moves

end

section

variable {ledger : Ledger} {input : Input}

/-- A lot keeps its number, its size and its link, and never gains stock. -/
def Keeps (before after : Ledger) : Prop :=
  ∀ receipt ∈ before.receipts.rows, ∃ later ∈ after.receipts.rows,
    later.id = receipt.id ∧ later.qty = receipt.qty ∧
      later.reversalOfIssueId = receipt.reversalOfIssueId ∧
      later.qtyRemaining ≤ receipt.qtyRemaining

theorem Keeps.refl (ledger : Ledger) : Keeps ledger ledger :=
  fun receipt listed => ⟨receipt, listed, rfl, rfl, rfl, le_rfl⟩

theorem Keeps.trans {middle : Ledger} (first : Keeps before middle)
    (second : Keeps middle after) : Keeps before after := by
  intro receipt listed
  obtain ⟨later, kept, numbered, sized, linked, bounded⟩ := first receipt listed
  obtain ⟨last, held, sameId, sameQty, sameLink, less⟩ := second later kept
  exact ⟨last, held, sameId.trans numbered, sameQty.trans sized, sameLink.trans linked, less.trans bounded⟩

theorem Move.keeps (move : Move before after) : Keeps before after := by
  cases move with
  | catalog receipts issues allocations =>
    intro receipt listed
    exact ⟨receipt, receipts ▸ listed, rfl, rfl, rfl, le_rfl⟩
  | receipt fresh added =>
    intro receipt listed
    refine ⟨receipt, ?_, rfl, rfl, rfl, le_rfl⟩
    rw [added.rows]
    exact List.mem_append_left _ listed
  | issue issue allocations added =>
    intro receipt listed
    refine ⟨drawnDown allocations receipt, ?_, rfl, rfl, rfl, ?_⟩
    · rw [added.receipt_rows]
      exact List.mem_map_of_mem listed
    · have share := added.share_nonneg fun allocation => allocation.receiptId = receipt.id
      exact sub_le_self _ share

theorem Moves.keeps (moves : Moves before after) : Keeps before after := by
  induction moves with
  | refl => exact .refl _
  | tail _ move ih => exact ih.trans move.keeps

theorem next_moves (balanced : Balanced ledger) (input : Input) : Moves ledger (next ledger input) := by
  cases performed : perform ledger input with
  | mk outcome written =>
    have reached : next ledger input = written := congrArg Prod.snd performed
    rw [reached]
    cases outcome with
    | ok value => exact operation_moves balanced (Session.transact_ok_iff.mp performed)
    | error error =>
      have unchanged : (perform ledger input).2 = ledger :=
        Session.transact_error (congrArg Prod.fst performed)
      rw [performed] at unchanged
      rw [show written = ledger from unchanged]

theorem balanced_empty : Balanced .empty := by
  constructor <;> simp [Ledger.empty, Table.empty]

theorem Balanced.next (balanced : Balanced ledger) (input : Input) : Balanced (next ledger input) :=
  balanced.moves (next_moves balanced input)

/-- The input is an adjustment that goes through and whose link names the number. -/
def reverses (link : Adjustment → Option Nat) (id : Nat) (ledger : Ledger) (input : Input) : Bool :=
  match input.call with
  | .adjust _ adjustment _ => link adjustment = some id && (perform ledger input).1.isOk
  | _ => false

theorem reverses_done {link : Adjustment → Option Nat} {id : Nat} (balanced : Balanced ledger)
    (reversed : reverses link id ledger input = true) :
    ∃ adjustment : Adjustment, link adjustment = some id ∧
      adjustment.Done ledger (next ledger input) := by
  obtain ⟨surroundings, call⟩ := input
  cases call with
  | adjust materialId adjustment createdBy =>
    rw [reverses, Bool.and_eq_true] at reversed
    refine ⟨adjustment, of_decide_eq_true reversed.1, ?_⟩
    cases performed : perform ledger ⟨surroundings, .adjust materialId adjustment createdBy⟩ with
    | mk outcome written =>
      rw [performed] at reversed
      cases outcome with
      | error error => cases reversed.2
      | ok value =>
        obtain ⟨_, adjusted⟩ := Session.discard_ok_iff.mp (Session.transact_ok_iff.mp performed)
        rw [MaterialService.next, performed]
        exact adjust_ok balanced adjusted
  | createMaterial | updateMaterial | createReceipt | issueMaterial | issueMaterialSync => cases reversed

/-- Some lot carries the mark of the reversal of an issue. -/
def IssueReversed (issueId : Nat) (ledger : Ledger) : Prop :=
  ∃ receipt ∈ ledger.receipts.rows, receipt.reversalOfIssueId = some issueId

/-- The lot of a receipt is no longer whole. -/
def ReceiptTouched (receiptId : Nat) (ledger : Ledger) : Prop :=
  ∃ receipt ∈ ledger.receipts.rows, receipt.id = receiptId ∧ receipt.qtyRemaining < receipt.qty

theorem issue_reversed_once (issueId : Nat) (inputs : List Input) :
    occurrences next (reverses (·.reversalOfIssueId) issueId) .empty inputs ≤ 1 := by
  apply occurrences_le_one next (IssueReversed issueId) Balanced balanced_empty
  · exact fun ledger input balanced => balanced.next input
  · intro ledger input balanced reversed
    obtain ⟨adjustment, linked, done⟩ := reverses_done balanced reversed
    cases done with
    | issueReversed other same _ _ _ marked =>
      rw [linked] at same
      cases same
      exact marked
    | receiptReversed _ _ _ _ _ unlinked =>
      rw [linked] at unlinked
      cases unlinked
    | inventory unlinked => simp [Adjustment.isReversal, linked] at unlinked
  · intro ledger input balanced marked
    obtain ⟨receipt, listed, link⟩ := marked
    obtain ⟨later, kept, _, _, same, _⟩ := (next_moves balanced input).keeps receipt listed
    exact ⟨later, kept, same.trans link⟩
  · intro ledger input balanced marked
    obtain ⟨receipt, listed, link⟩ := marked
    by_contra reversed
    obtain ⟨adjustment, linked, done⟩ := reverses_done balanced ((Bool.not_eq_false _).mp reversed)
    cases done with
    | issueReversed other same _ first =>
      rw [linked] at same
      cases same
      exact first receipt listed link
    | receiptReversed _ _ _ _ _ unlinked =>
      rw [linked] at unlinked
      cases unlinked
    | inventory unlinked => simp [Adjustment.isReversal, linked] at unlinked

theorem receipt_reversed_once (receiptId : Nat) (inputs : List Input) :
    occurrences next (reverses (·.reversalOfReceiptId) receiptId) .empty inputs ≤ 1 := by
  apply occurrences_le_one next (ReceiptTouched receiptId) Balanced balanced_empty
  · exact fun ledger input balanced => balanced.next input
  · intro ledger input balanced reversed
    obtain ⟨adjustment, linked, done⟩ := reverses_done balanced reversed
    cases done with
    | issueReversed _ _ unlinked =>
      rw [linked] at unlinked
      cases unlinked
    | receiptReversed other issue receipt allocation same _ found whole drains added =>
      rw [linked] at same
      cases same
      have stored := Table.mem_of_find? found
      have numbered : receipt.id = receiptId := Table.key_of_find? found
      refine ⟨drawnDown [allocation] receipt, ?_, numbered, ?_⟩
      · rw [added.receipt_rows]
        exact List.mem_map_of_mem stored
      · have positive := (balanced.stock receipt stored).2.2.2
        simp [drawnDown, sumOf_cons, drains.1, drains.2, numbered, whole, positive]
    | inventory unlinked => simp [Adjustment.isReversal, linked] at unlinked
  · intro ledger input balanced touched
    obtain ⟨receipt, listed, numbered, less⟩ := touched
    obtain ⟨later, kept, sameId, sameQty, _, bounded⟩ := (next_moves balanced input).keeps receipt listed
    exact ⟨later, kept, sameId.trans numbered, sameQty ▸ bounded.trans_lt less⟩
  · intro ledger input balanced touched
    obtain ⟨receipt, listed, numbered, less⟩ := touched
    by_contra reversed
    obtain ⟨adjustment, linked, done⟩ := reverses_done balanced ((Bool.not_eq_false _).mp reversed)
    cases done with
    | issueReversed _ _ unlinked =>
      rw [linked] at unlinked
      cases unlinked
    | receiptReversed other issue lot allocation same _ found whole =>
      rw [linked] at same
      cases same
      have same : receipt = lot := Table.eq_of_key listed (Table.mem_of_find? found)
        (numbered.trans (Table.key_of_find? found).symm)
      rw [same, whole] at less
      exact lt_irrefl _ less
    | inventory unlinked => simp [Adjustment.isReversal, linked] at unlinked

/-- After any calls the ledger balances and no document is reversed twice, and a call
that raises changes nothing. -/
theorem stock_ledger (inputs : List Input) :
    Balanced (run next .empty inputs) ∧
    (∀ issueId, occurrences next (reverses (·.reversalOfIssueId) issueId) .empty inputs ≤ 1) ∧
    (∀ receiptId, occurrences next (reverses (·.reversalOfReceiptId) receiptId) .empty inputs ≤ 1) ∧
    ∀ ledger input error, (perform ledger input).1 = .error error →
      (perform ledger input).2 = ledger := by
  refine ⟨?_, fun issueId => issue_reversed_once issueId inputs,
    fun receiptId => receipt_reversed_once receiptId inputs, ?_⟩
  · exact run_invariant next Balanced balanced_empty
      (fun ledger input balanced => balanced.next input) inputs
  · intro ledger input error raised
    exact Session.transact_error raised

end

end InfrasafeBot.MaterialService
