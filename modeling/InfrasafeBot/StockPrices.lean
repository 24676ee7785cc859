import InfrasafeBot.Library.SessionTriples
import InfrasafeBot.StockLedger

/-! Lots are priced in whole cents, whatever calls the ledger has gone through. -/

set_option autoImplicit false

namespace InfrasafeBot.MaterialService

open Library Machine RequestWorkflow Session

def Priced (ledger : Ledger) : Prop := ∀ receipt ∈ ledger.receipts.rows, IsMoney receipt.unitPrice

theorem parsePrice_isMoney {number : Number} {price : Decimal}
    (parsed : parsePrice number = .ok price) : IsMoney price := by
  cases number with
  | notANumber | nan => cases parsed
  | infinity negative => cases negative <;> cases parsed
  | finite given =>
    rw [parsePrice] at parsed
    split at parsed
    · cases parsed
    · exact isMoney_money parsed

variable {surroundings : Surroundings} {materialId : Nat} {docType : String} {qty : Number}
  {reversal : Option Nat}

section

variable {holds : Ledger → Prop}

theorem getActiveMaterial_keeps : Ensures holds (getActiveMaterial materialId) fun _ => holds := by
  unfold getActiveMaterial
  refine ensures_read_bind fun found => ?_
  cases found with
  | none => exact ensures_throw _
  | some material => exact ensures_check_bind fun _ => ensures_pure fun _ held => held.1

theorem newReceipt_keeps {unitPrice : Number} {createdBy : UserId} {details : ReceiptDetails} :
    Ensures holds (newReceipt surroundings materialId qty unitPrice createdBy details docType
      reversal) fun row ledger => holds ledger ∧ IsMoney row.unitPrice := by
  unfold newReceipt
  split
  · exact ensures_throw _
  · refine ensures_ofExcept_bind fun amount _ => ?_
    refine ensures_ofExcept_bind fun price parsed => ?_
    refine getActiveMaterial_keeps.bind fun material => ?_
    refine ensures_ofExcept_bind fun total _ => ?_
    exact ensures_pure fun _ held => ⟨held, parsePrice_isMoney parsed⟩

theorem newDemand_keeps {requestNumber : Option RequestNumber} {reason : Option String} :
    Ensures holds (newDemand materialId qty docType requestNumber reason reversal)
      fun _ => holds := by
  unfold newDemand
  refine ensures_ofExcept_bind fun _ _ => ensures_ofExcept_bind fun _ _ => ?_
  exact getActiveMaterial_keeps.bind fun _ => ensures_pure fun _ held => held

theorem allocateDemand_keeps {demand : Demand} :
    Ensures holds (allocateDemand materialId demand) fun _ => holds := by
  unfold allocateDemand
  refine ensures_read_bind fun _ => ensures_ofExcept fun _ _ _ held => held.1

theorem reversibleGroups_keeps {issueId : Nat} :
    Ensures holds (reversibleGroups materialId issueId) fun _ => holds := by
  unfold reversibleGroups
  refine ensures_read_bind fun found => ?_
  cases found with
  | none => exact ensures_throw _
  | some issue =>
    refine ensures_check_bind fun _ => ensures_read_bind fun _ => ?_
    refine ensures_check_bind fun _ => ensures_read_bind fun _ => ?_
    exact ensures_check_bind fun _ => ensures_pure fun _ held => held.1.1.1

theorem wholeReceipt_keeps {receiptId : Nat} :
    Ensures holds (wholeReceipt materialId receiptId) fun _ => holds := by
  unfold wholeReceipt
  refine ensures_read_bind fun found => ?_
  cases found with
  | none => exact ensures_throw _
  | some receipt =>
    refine ensures_check_bind fun _ => ensures_check_bind fun _ => ?_
    exact ensures_pure fun _ held => held.1

theorem writtenOff_keeps {receipt : MaterialReceipt} :
    Ensures holds (writtenOff receipt materialId) fun _ => holds := by
  unfold writtenOff
  refine ensures_read_bind fun card => ?_
  cases card with
  | none => exact ensures_throw _
  | some material => exact ensures_ofExcept_bind fun _ _ => ensures_pure fun _ held => held.1

end

section

variable {createdBy : UserId}

variable {reason : String}

theorem createReceipt_priced {unitPrice : Number} {details : ReceiptDetails} :
    Ensures Priced (createReceipt surroundings materialId qty unitPrice createdBy details docType
      reversal) fun _ => Priced := by
  refine newReceipt_keeps.bind fun row => ensures_read_bind fun id => ?_
  refine ensures_write_bind Priced ?_ (ensures_check_bind fun _ => ensures_pure fun _ held => held)
  rintro ledger ⟨⟨priced, cents⟩, _⟩ receipt listed
  rcases (Table.mem_insert _).mp listed with before | rfl
  · exact priced receipt before
  · exact cents

theorem priced_decrementBatches {ledger : Ledger} (priced : Priced ledger)
    (allocations : List Allocation) :
    Priced { ledger with receipts := decrementBatches allocations ledger.receipts } := by
  intro receipt listed
  change receipt ∈ (decrementBatches allocations ledger.receipts).rows at listed
  rw [decrementBatches_rows] at listed
  obtain ⟨lot, stored, rfl⟩ := List.mem_map.mp listed
  exact priced lot stored

theorem applyIssue_priced {allocations : List Allocation} {material : Material} {qty : Decimal}
    {target : IssueTarget} :
    Ensures Priced (applyIssue surroundings allocations material qty target createdBy)
      fun _ => Priced := by
  unfold applyIssue
  refine ensures_write_bind Priced (fun ledger priced => priced_decrementBatches priced allocations) ?_
  refine ensures_ofExcept_bind fun row _ => ensures_read_bind fun id => ?_
  refine ensures_write_bind Priced (fun ledger held => held.1) ?_
  refine ensures_check_bind fun _ => ?_
  refine ensures_write_bind Priced (fun ledger held => held) ?_
  exact ensures_check_bind fun _ => ensures_pure fun _ held => held

theorem issueMaterial_priced {requestNumber : Option RequestNumber} {reason : Option String} :
    Ensures Priced (issueMaterial surroundings materialId qty createdBy docType requestNumber
      reason reversal) fun _ => Priced :=
  newDemand_keeps.bind fun _ => ensures_check_bind fun _ =>
    allocateDemand_keeps.bind fun _ => applyIssue_priced

theorem reverseIssue_priced {issueId : Nat} :
    Ensures Priced (reverseIssue surroundings materialId issueId reason createdBy)
      fun _ => Priced :=
  reversibleGroups_keeps.bind fun _ => Ensures.mapM fun _ _ => createReceipt_priced

theorem reverseReceipt_priced {receiptId : Nat} :
    Ensures Priced (reverseReceipt surroundings materialId receiptId reason createdBy)
      fun _ => Priced :=
  wholeReceipt_keeps.bind fun _ => writtenOff_keeps.bind fun _ => applyIssue_priced

theorem adjust_priced {adjustment : Adjustment} :
    Ensures Priced (adjust surroundings materialId adjustment createdBy) fun _ => Priced := by
  refine ensures_ofExcept_bind fun _ _ => ?_
  split
  · exact reverseIssue_priced.bind fun _ => ensures_pure fun _ held => held
  · exact reverseReceipt_priced.bind fun _ => ensures_pure fun _ held => held
  · dsimp only
    split
    · exact createReceipt_priced.bind fun _ => ensures_pure fun _ held => held
    · exact issueMaterial_priced.bind fun _ => ensures_pure fun _ held => held

theorem createMaterial_priced {name unit : String} {category : Option String}
    {minStock : Option Number} :
    Ensures Priced (createMaterial surroundings name unit category minStock) fun _ => Priced := by
  intro before material after priced returned
  obtain ⟨row, middle, drafted, inserted⟩ := bind_ok_iff.mp returned
  rw [newMaterial_ok drafted, read_bind, write_bind] at inserted
  obtain ⟨_, flushed⟩ := check_bind_ok_iff.mp inserted
  obtain ⟨_, rfl⟩ := pure_ok_iff.mp flushed
  exact priced

theorem updateMaterial_priced {patch : MaterialPatch} :
    Ensures Priced (updateMaterial surroundings materialId patch) fun _ => Priced := by
  intro before material after priced returned
  obtain ⟨card, first, loaded, patched⟩ := bind_ok_iff.mp returned
  obtain ⟨_, second, united, renamed⟩ := bind_ok_iff.mp patched
  obtain ⟨_, third, named, stocked⟩ := bind_ok_iff.mp renamed
  obtain ⟨_, _, bounded⟩ := ofExcept_bind_ok_iff.mp stocked
  rw [write_bind] at bounded
  obtain ⟨_, flushed⟩ := check_bind_ok_iff.mp bounded
  obtain ⟨_, rfl⟩ := pure_ok_iff.mp flushed
  rw [patchName_ok named, patchUnit_ok united, (loadMaterial_ok loaded).2]
  exact priced

theorem operation_priced (call : Call) : Ensures Priced (operation surroundings call) fun _ => Priced := by
  cases call with
  | createMaterial name unit category minStock => exact createMaterial_priced.discarded
  | updateMaterial materialId patch => exact updateMaterial_priced.discarded
  | createReceipt materialId qty unitPrice createdBy details docType => exact createReceipt_priced.discarded
  | issueMaterial | issueMaterialSync =>
    exact issueMaterial_priced.discarded
  | adjust materialId adjustment createdBy => exact adjust_priced.discarded

end

theorem Priced.next {ledger : Ledger} (priced : Priced ledger) (input : Input) :
    Priced (next ledger input) :=
  (operation_priced input.call).transacted priced

theorem priced_run (inputs : List Input) : Priced (run next .empty inputs) := by
  have nothing : Priced .empty := by
    intro receipt listed
    cases listed
  exact run_invariant next Priced nothing (fun _ input priced => priced.next input) inputs

end InfrasafeBot.MaterialService
