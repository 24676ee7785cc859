import InfrasafeBot.MaterialService

/-! The calls of the material service side by side, one statement at a time, at READ
COMMITTED and under the row locks their statements take. -/

set_option autoImplicit false

namespace InfrasafeBot.MaterialService

open Library RequestWorkflow

/-- The modes of a lock on the row of a card: the check of a foreign key, an update
of columns no key uses, an update of the unique name. -/
inductive CardLock where
  | keyShare
  | noKeyUpdate
  | update

inductive Lock where
  | card (mode : CardLock) (materialId : Nat)
  | name (text : String)
  | receipt (receiptId : Nat)
  | issue (issueId : Nat)

def CardLock.conflicts : CardLock → CardLock → Bool
  | .keyShare, .keyShare => false
  | .keyShare, .noKeyUpdate => false
  | .noKeyUpdate, .keyShare => false
  | _, _ => true

def Lock.conflicts : Lock → Lock → Bool
  | .card mode materialId, .card other otherId => materialId = otherId && mode.conflicts other
  | .name text, .name other => text = other
  | .receipt receiptId, .receipt other => receiptId = other
  | .issue issueId, .issue other => issueId = other
  | _, _ => false

structure ReceiptDraft where
  materialId : Nat
  qty : Number
  unitPrice : Number
  createdBy : UserId
  details : ReceiptDetails
  docType : String
  reversalOfIssueId : Option Nat

def ReceiptDraft.row (draft : ReceiptDraft) (surroundings : Surroundings) : Operation MaterialReceipt :=
  newReceipt surroundings draft.materialId draft.qty draft.unitPrice draft.createdBy
    draft.details draft.docType draft.reversalOfIssueId

inductive Transaction where
  | idle
  | called (call : Call)
  | creating (row : Material)
  | created (row : Material)
  /-- The card is loaded; the receipts, the name and the write come next. -/
  | updating (patch : MaterialPatch) (card : Material)
  | measured (patch : MaterialPatch) (card material : Material)
  | renamed (card material : Material)
  | updated (card material : Material)
  | receiving (reversed : Option Nat) (drafts : List ReceiptDraft)
      (inserted : List MaterialReceipt)
  | received (reversed : Option Nat) (row : MaterialReceipt) (drafts : List ReceiptDraft)
      (inserted : List MaterialReceipt)
  | demanding (createdBy : UserId) (demand : Demand)
  | reversing (createdBy : UserId) (reason : String) (receipt : MaterialReceipt)
  | allocated (createdBy : UserId) (demand : Demand) (locked : List Nat)
      (allocations : List Allocation)
  | issued (row : MaterialIssue) (locked : List Nat) (allocations : List Allocation)

/-- The flush of a card writes the columns the patch has changed. -/
def updateLocks (card material : Material) : List Lock :=
  if card.name ≠ material.name then [.card .update card.id, .name material.name]
  else if card ≠ material then [.card .noKeyUpdate card.id]
  else []

def held : Transaction → List Lock
  | .created row => [.name row.name]
  | .updated card material => updateLocks card material
  | .receiving reversed _ inserted =>
    reversed.toList.map .issue ++ inserted.map fun row => .card .keyShare row.materialId
  | .received reversed _ _ inserted =>
    reversed.toList.map .issue ++ inserted.map fun row => .card .keyShare row.materialId
  | .reversing _ _ receipt => [.receipt receipt.id]
  | .allocated _ _ locked _ => locked.map .receipt
  | .issued row locked _ => .card .keyShare row.materialId :: locked.map .receipt
  | _ => []

def Adjustment.locks (adjustment : Adjustment) : List Lock :=
  match adjustment.reversalOfIssueId, adjustment.reversalOfReceiptId with
  | some issueId, _ => [.issue issueId]
  | none, some receiptId => [.receipt receiptId]
  | none, none => []

def wanted (ledger : Ledger) : Transaction → List Lock
  | .called (.adjust _ adjustment _) => adjustment.locks
  | .creating row => [.name row.name]
  | .renamed card material => updateLocks card material
  | .received _ row _ _ => [.card .keyShare row.materialId]
  | .demanding _ demand => (openBatches demand.material.id ledger).map fun receipt => .receipt receipt.id
  | .allocated _ demand _ _ => [.card .keyShare demand.material.id]
  | _ => []

def query {Value : Type} (operation : Operation Value) (ledger : Ledger) : Except MaterialError Value :=
  (operation.runOn ledger).1

def require (condition : Bool) (error : MaterialError) : Except MaterialError Unit :=
  if condition then .ok () else .error error

def nameFree (ledger : Ledger) (material : Material) : Bool :=
  ledger.materials.rows.all fun card => card.name ≠ material.name || card.id = material.id

def startAdjust (surroundings : Surroundings) (ledger : Ledger) (materialId : Nat)
    (adjustment : Adjustment) (createdBy : UserId) : Except MaterialError Transaction := do
  validateAdjustment adjustment
  match adjustment.reversalOfIssueId, adjustment.reversalOfReceiptId with
  | some issueId, _ =>
    let groups ← query (reversibleGroups materialId issueId) ledger
    let drafts := groups.map fun group =>
      ⟨materialId, .finite group.2, .finite group.1, createdBy, .noted adjustment.reason,
        "surplus", some issueId⟩
    return .receiving (some issueId) drafts []
  | none, some receiptId =>
    let receipt ← query (wholeReceipt materialId receiptId) ledger
    return .reversing createdBy adjustment.reason receipt
  | none, none =>
    let qty := adjustment.qty.getD .notANumber
    if adjustment.direction = "surplus" then
      let row ← query (newReceipt surroundings materialId qty
        (adjustment.unitPrice.getD (.finite 0)) createdBy (.noted adjustment.reason)
        "surplus" none) ledger
      return .received none row [] []
    else
      let demand ← query (newDemand materialId qty "shortage" none (some adjustment.reason) none) ledger
      return .demanding createdBy demand

def start (surroundings : Surroundings) (ledger : Ledger) : Call → Except MaterialError Transaction
  | .createMaterial name unit category minStock =>
    (query (newMaterial name unit category minStock) ledger).map .creating
  | .updateMaterial materialId patch => (query (loadMaterial materialId) ledger).map (.updating patch)
  | .createReceipt materialId qty unitPrice createdBy details docType =>
    (query (newReceipt surroundings materialId qty unitPrice createdBy details docType none)
      ledger).map fun row => .received none row [] []
  | .issueMaterial materialId qty createdBy docType requestNumber reason =>
    (query (newDemand materialId qty docType requestNumber reason none) ledger).map
      (.demanding createdBy)
  | .issueMaterialSync materialId qty createdBy docType requestNumber reason =>
    (query (newDemand materialId qty docType requestNumber reason none) ledger).map
      (.demanding createdBy)
  | .adjust materialId adjustment createdBy =>
    startAdjust surroundings ledger materialId adjustment createdBy

def advance (surroundings : Surroundings) (ledger : Ledger) : Transaction → Except MaterialError Transaction
  | .called call => start surroundings ledger call
  | .creating row => do
      require (nameFree ledger row) (.conflict s!"материал «{row.name}» уже существует")
      require (materialFits row && surroundings.accepted) .database
      return .created row
  | .updating patch card => (query (patchUnit patch card) ledger).map (.measured patch card)
  | .measured patch card material => do
      let material ← query (patchName patch material) ledger
      let material ← patchRest patch material
      return .renamed card material
  | .renamed card material => do
      require (card.name = material.name || nameFree ledger material) .database
      require (materialFits material && surroundings.accepted) .database
      return .updated card material
  | .receiving reversed (draft :: drafts) inserted =>
    (query (draft.row surroundings) ledger).map fun row => .received reversed row drafts inserted
  | .received reversed row drafts inserted => do
      require (receiptFits row && surroundings.accepted) .database
      return .receiving reversed drafts (inserted ++ [row])
  | .demanding createdBy demand => do
      query (requireRequest surroundings demand.target) ledger
      let locked := (openBatches demand.material.id ledger).map (·.id)
      let allocations ← query (allocateDemand demand.material.id demand) ledger
      return .allocated createdBy demand locked allocations
  | .reversing createdBy reason receipt => do
      let (material, allocation) ← query (writtenOff receipt receipt.materialId) ledger
      return .allocated createdBy ⟨material, receipt.qty, .ofReversal reason receipt.id⟩
        [receipt.id] [allocation]
  | .allocated createdBy demand locked allocations => do
      let row ← buildIssue surroundings allocations demand.material demand.qty demand.target
        createdBy
      require (issueFits row && allocations.all allocationFits && surroundings.accepted)
        .database
      return .issued row locked allocations
  | finished => .ok finished

def rewrite (card material row : Material) : Material where
  id := row.id
  name := flushed card.name material.name row.name
  unit := flushed card.unit material.unit row.unit
  category := flushed card.category material.category row.category
  minStock := flushed card.minStock material.minStock row.minStock
  isActive := flushed card.isActive material.isActive row.isActive

theorem rewrite_id (card material row : Material) : (rewrite card material row).id = row.id := rfl

/-- The commit of a transaction whose call has returned. The rows take their numbers
here: a sequence gives none twice. -/
def commit : Transaction → Ledger → Ledger
  | .created row, ledger => { ledger with materials := insertMaterial ledger.materials row }
  | .updated card material, ledger =>
    { ledger with
      materials := ledger.materials.update (fun row => row.id = card.id)
        (rewrite card material) (rewrite_id card material) }
  | .receiving _ [] inserted, ledger =>
    { ledger with receipts := inserted.foldl insertReceipt ledger.receipts }
  | .issued row _ allocations, ledger =>
    { ledger with
      receipts := decrementBatches allocations ledger.receipts
      issues := insertIssue ledger.issues row
      allocations := allocations.foldl (addAllocation ledger.issues.nextKey) ledger.allocations }
  | _, ledger => ledger

def finished : Transaction → Bool
  | .created _ => true
  | .updated _ _ => true
  | .receiving _ [] _ => true
  | .issued _ _ _ => true
  | _ => false

structure Store (workers : Nat) where
  ledger : Ledger
  transactions : Fin workers → Transaction

def Store.empty (workers : Nat) : Store workers := ⟨.empty, fun _ => .idle⟩

inductive Action where
  | call (call : Call)
  | statement (surroundings : Surroundings)
  | commit
  | rollback

structure Event (workers : Nat) where
  worker : Fin workers
  action : Action

variable {workers : Nat}

def blocked (store : Store workers) (worker : Fin workers) : Bool :=
  decide (∃ other, other ≠ worker ∧
    ∃ lock ∈ wanted store.ledger (store.transactions worker),
      ∃ taken ∈ held (store.transactions other), lock.conflicts taken = true)

def Store.set (store : Store workers) (worker : Fin workers) (transaction : Transaction) : Store workers :=
  { store with transactions := Function.update store.transactions worker transaction }

def isIdle : Transaction → Bool
  | .idle => true
  | _ => false

def step (store : Store workers) (event : Event workers) : Store workers :=
  match event.action with
  | .call call =>
    if isIdle (store.transactions event.worker) then store.set event.worker (.called call)
    else store
  | .statement surroundings =>
    if blocked store event.worker then store
    else
      match advance surroundings store.ledger (store.transactions event.worker) with
      | .ok transaction => store.set event.worker transaction
      | .error _ => store.set event.worker .idle
  | .commit =>
    if finished (store.transactions event.worker) then
      { (store.set event.worker .idle) with
        ledger := commit (store.transactions event.worker) store.ledger }
    else store
  | .rollback => store.set event.worker .idle

end InfrasafeBot.MaterialService
