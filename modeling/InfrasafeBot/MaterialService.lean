import Mathlib.Data.List.Sort
import Mathlib.Data.Rat.Floor
import InfrasafeBot.Library.Session
import InfrasafeBot.Library.Table
import InfrasafeBot.RequestWorkflow.Types

/-! Stock accounting of materials: receipts as FIFO lots, issues with their
allocations, inventory adjustments and reversals (`services/material_service`). -/

set_option autoImplicit false

namespace InfrasafeBot.MaterialService

open Library RequestWorkflow

/-- A finite `Decimal`. Sums and products of stored amounts have at most 28 digits,
so the arithmetic of the context is exact on them. -/
abbrev Decimal := Rat

inductive Number where
  | notANumber
  | nan
  | infinity (negative : Bool)
  | finite (value : Decimal)

inductive MaterialError where
  | validation (message : String)
  | notFound (message : String)
  | conflict (message : String)
  | requestNotFound (message : String)
  | insufficientStock (available : Decimal)
  | invalidOperation
  | database
  deriving DecidableEq

def contextPrecision : Nat := 28

/-- A quantized value whose coefficient exceeds the precision is refused. -/
def quantized (coefficient : Int) (scale : Nat) : Except MaterialError Decimal :=
  if 10 ^ contextPrecision ≤ coefficient.natAbs then .error .invalidOperation
  else .ok (coefficient / scale)

def roundHalfUp (value : Decimal) : Int :=
  if 0 ≤ value then ⌊value + 1 / 2⌋ else -⌊-value + 1 / 2⌋

def roundHalfEven (value : Decimal) : Int :=
  let below := ⌊value⌋
  if value - below < 1 / 2 then below
  else if 1 / 2 < value - below then below + 1
  else if below % 2 = 0 then below else below + 1

def money (value : Decimal) : Except MaterialError Decimal := quantized (roundHalfUp (value * 100)) 100

def parseQty : Number → Except MaterialError Decimal
  | .notANumber => .error (.validation "количество — не число")
  | .nan => .error .invalidOperation
  | .infinity true => .error (.validation "количество должно быть больше нуля")
  | .infinity false => .error .invalidOperation
  | .finite qty => do
      if qty ≤ 0 then throw (.validation "количество должно быть больше нуля")
      let stepped ← quantized (roundHalfEven (qty * 1000)) 1000
      if qty ≠ stepped then throw (.validation "количество — не более 3 знаков после запятой")
      return qty

def parsePrice : Number → Except MaterialError Decimal
  | .notANumber => .error (.validation "цена — не число")
  | .nan => .error .invalidOperation
  | .infinity true => .error (.validation "цена не может быть отрицательной")
  | .infinity false => .error .invalidOperation
  | .finite price =>
    if price < 0 then .error (.validation "цена не может быть отрицательной")
    else money price

inductive MaterialUnit where
  | pcs
  | m
  | m2
  | l
  | kg
  | pack
  | set
  deriving DecidableEq

def MaterialUnit.ofText? : String → Option MaterialUnit
  | "pcs" => some .pcs
  | "m" => some .m
  | "m2" => some .m2
  | "l" => some .l
  | "kg" => some .kg
  | "pack" => some .pack
  | "set" => some .set
  | _ => none

def validateUnit (unit : String) : Except MaterialError MaterialUnit :=
  match MaterialUnit.ofText? unit with
  | some known => .ok known
  | none => .error (.validation "единица измерения должна быть одной из: pcs, m, m2, l, kg, pack, set")

inductive ReceiptDocType where
  | purchase
  | surplus

def ReceiptDocType.ofText? : String → Option ReceiptDocType
  | "purchase" => some .purchase
  | "surplus" => some .surplus
  | _ => none

inductive IssueDocType where
  | request
  | household
  | shortage
  deriving DecidableEq

def IssueDocType.ofText? : String → Option IssueDocType
  | "request" => some .request
  | "household" => some .household
  | "shortage" => some .shortage
  | _ => none

structure Material where
  id : Nat
  name : String
  unit : MaterialUnit
  category : Option String
  minStock : Option Decimal
  isActive : Bool
  deriving DecidableEq

structure MaterialReceipt where
  id : Nat
  materialId : Nat
  docType : ReceiptDocType
  qty : Decimal
  qtyRemaining : Decimal
  unitPrice : Decimal
  totalAmount : Decimal
  supplier : Option String
  docNumber : Option String
  docDate : Option Int
  note : Option String
  reversalOfIssueId : Option Nat
  materialName : String
  unit : MaterialUnit
  createdBy : UserId
  createdAt : Moment

structure MaterialIssue where
  id : Nat
  materialId : Nat
  docType : IssueDocType
  qty : Decimal
  totalCost : Decimal
  requestNumber : Option RequestNumber
  reason : Option String
  reversalOfReceiptId : Option Nat
  materialName : String
  unit : MaterialUnit
  createdBy : UserId
  createdAt : Moment

structure MaterialIssueAllocation where
  id : Nat
  issueId : Nat
  receiptId : Nat
  qty : Decimal
  unitPrice : Decimal
  amount : Decimal

structure Ledger where
  materials : Table Material.id
  receipts : Table MaterialReceipt.id
  issues : Table MaterialIssue.id
  allocations : Table MaterialIssueAllocation.id

def Ledger.empty : Ledger := ⟨.empty, .empty, .empty, .empty⟩

/-- What a call finds around the ledger: the time of its transaction, the requests
that exist, and whether the database takes the flushed rows for every reason but
the width of their numbers (an unknown user, a text too long, a lost connection). -/
structure Surroundings where
  now : Moment
  requests : List RequestNumber
  accepted : Bool

abbrev Operation := Session MaterialError Ledger

structure BatchView where
  id : Nat
  qtyRemaining : Decimal
  unitPrice : Decimal

structure Allocation where
  receiptId : Nat
  qty : Decimal
  unitPrice : Decimal
  amount : Decimal

def allocateBatches : List BatchView → Decimal → Except MaterialError (List Allocation × Decimal)
  | [], remaining => .ok ([], remaining)
  | batch :: batches, remaining =>
    if remaining ≤ 0 then .ok ([], remaining)
    else if batch.qtyRemaining ≤ 0 then allocateBatches batches remaining
    else do
      let take := min batch.qtyRemaining remaining
      let amount ← money (take * batch.unitPrice)
      let (allocations, unserved) ← allocateBatches batches (remaining - take)
      return (⟨batch.id, take, batch.unitPrice, amount⟩ :: allocations, unserved)

def allocateFifo (batches : List BatchView) (qty : Decimal) :
    Except MaterialError (List Allocation) := do
  let (allocations, remaining) ← allocateBatches batches qty
  if 0 < remaining then throw (.insufficientStock ((batches.map (·.qtyRemaining)).sum))
  return allocations

def filled (text : String) : Bool := pyStrip text ≠ ""

def given (text : Option String) : Bool := text.any (· ≠ "")

def validateIssueTarget (docType : String) (requestNumber : Option RequestNumber)
    (reason : Option String) : Except MaterialError IssueDocType :=
  match IssueDocType.ofText? docType with
  | none => .error (.validation s!"недопустимый тип расхода: {docType}")
  | some .request =>
    if !given requestNumber then .error (.validation "расход по заявке требует request_number")
    else if given reason then .error (.validation "reason запрещён при расходе по заявке")
    else .ok .request
  | some known =>
    if !given reason then .error (.validation s!"расход '{docType}' требует reason")
    else if given requestNumber then
      .error (.validation s!"request_number запрещён при расходе '{docType}'")
    else .ok known

def fits (precision scale : Nat) (value : Decimal) : Bool :=
  -(10 ^ (precision - scale) : Decimal) < value && value < (10 ^ (precision - scale) : Decimal)

def receiptFits (receipt : MaterialReceipt) : Bool :=
  fits 12 3 receipt.qty && fits 14 2 receipt.unitPrice && fits 14 2 receipt.totalAmount

def issueFits (issue : MaterialIssue) : Bool := fits 12 3 issue.qty && fits 14 2 issue.totalCost

def allocationFits (allocation : Allocation) : Bool :=
  fits 12 3 allocation.qty && fits 14 2 allocation.unitPrice && fits 14 2 allocation.amount

def flush (surroundings : Surroundings) (fitting : Bool) : Operation Unit :=
  Session.check (fitting && surroundings.accepted) .database

def getActiveMaterial (materialId : Nat) : Operation Material := do
  let found ← Session.read (·.materials.find? materialId)
  match found with
  | none => throw (.notFound s!"материал {materialId} не найден")
  | some material =>
    Session.check material.isActive
      (.validation s!"материал «{material.name}» деактивирован")
    return material

structure ReceiptDetails where
  supplier : Option String
  docNumber : Option String
  docDate : Option Int
  note : Option String

def ReceiptDetails.noted (note : String) : ReceiptDetails := ⟨none, none, none, some note⟩

def newReceipt (surroundings : Surroundings) (materialId : Nat) (qty unitPrice : Number)
    (createdBy : UserId) (details : ReceiptDetails) (docType : String)
    (reversalOfIssueId : Option Nat) : Operation MaterialReceipt :=
  match ReceiptDocType.ofText? docType with
  | none => throw (.validation s!"недопустимый тип прихода: {docType}")
  | some docType => do
      let qty ← Session.ofExcept (parseQty qty)
      let unitPrice ← Session.ofExcept (parsePrice unitPrice)
      let material ← getActiveMaterial materialId
      let totalAmount ← Session.ofExcept (money (qty * unitPrice))
      return {
        id := 0
        materialId := material.id
        docType := docType
        qty := qty
        qtyRemaining := qty
        unitPrice := unitPrice
        totalAmount := totalAmount
        supplier := details.supplier
        docNumber := details.docNumber
        docDate := details.docDate
        note := details.note
        reversalOfIssueId := reversalOfIssueId
        materialName := material.name
        unit := material.unit
        createdBy := createdBy
        createdAt := surroundings.now }

def insertReceipt (receipts : Table MaterialReceipt.id) (row : MaterialReceipt) :
    Table MaterialReceipt.id :=
  receipts.insert (fun id => { row with id := id }) fun _ => rfl

def createReceipt (surroundings : Surroundings) (materialId : Nat) (qty unitPrice : Number)
    (createdBy : UserId) (details : ReceiptDetails) (docType : String)
    (reversalOfIssueId : Option Nat) : Operation MaterialReceipt := do
  let row ← newReceipt surroundings materialId qty unitPrice createdBy details docType
    reversalOfIssueId
  let id ← Session.read (·.receipts.nextKey)
  Session.write fun ledger => { ledger with receipts := insertReceipt ledger.receipts row }
  flush surroundings (receiptFits row)
  return { row with id := id }

def decrement (receipts : Table MaterialReceipt.id) (allocation : Allocation) : Table MaterialReceipt.id :=
  receipts.update (fun receipt => receipt.id = allocation.receiptId)
    (fun receipt => { receipt with qtyRemaining := receipt.qtyRemaining - allocation.qty })
    fun _ => rfl

def decrementBatches (allocations : List Allocation) (receipts : Table MaterialReceipt.id) :
    Table MaterialReceipt.id :=
  allocations.foldl decrement receipts

def addAllocation (issueId : Nat) (allocations : Table MaterialIssueAllocation.id)
    (allocation : Allocation) : Table MaterialIssueAllocation.id :=
  allocations.insert
    (fun id => {
      id := id
      issueId := issueId
      receiptId := allocation.receiptId
      qty := allocation.qty
      unitPrice := allocation.unitPrice
      amount := allocation.amount })
    fun _ => rfl

structure IssueTarget where
  docType : IssueDocType
  requestNumber : Option RequestNumber
  reason : Option String
  reversalOfReceiptId : Option Nat

def buildIssue (surroundings : Surroundings) (allocations : List Allocation)
    (material : Material) (qty : Decimal) (target : IssueTarget) (createdBy : UserId) :
    Except MaterialError MaterialIssue := do
  let totalCost ← money ((allocations.map (·.amount)).sum)
  return {
    id := 0
    materialId := material.id
    docType := target.docType
    qty := qty
    totalCost := totalCost
    requestNumber := target.requestNumber
    reason := target.reason
    reversalOfReceiptId := target.reversalOfReceiptId
    materialName := material.name
    unit := material.unit
    createdBy := createdBy
    createdAt := surroundings.now }

def insertIssue (issues : Table MaterialIssue.id) (row : MaterialIssue) : Table MaterialIssue.id :=
  issues.insert (fun id => { row with id := id }) fun _ => rfl

def applyIssue (surroundings : Surroundings) (allocations : List Allocation)
    (material : Material) (qty : Decimal) (target : IssueTarget) (createdBy : UserId) :
    Operation MaterialIssue := do
  Session.write fun ledger => { ledger with receipts := decrementBatches allocations ledger.receipts }
  let row ← Session.ofExcept (buildIssue surroundings allocations material qty target createdBy)
  let id ← Session.read (·.issues.nextKey)
  Session.write fun ledger => { ledger with issues := insertIssue ledger.issues row }
  flush surroundings (issueFits row)
  Session.write fun ledger =>
    { ledger with allocations := allocations.foldl (addAllocation id) ledger.allocations }
  flush surroundings (allocations.all allocationFits)
  return { row with id := id }

def fifoOrder (left right : MaterialReceipt) : Bool :=
  left.createdAt < right.createdAt || (left.createdAt = right.createdAt && left.id ≤ right.id)

def openBatches (materialId : Nat) (ledger : Ledger) : List MaterialReceipt :=
  (ledger.receipts.rows.filter fun receipt =>
    receipt.materialId = materialId && 0 < receipt.qtyRemaining).insertionSort
      fun left right => fifoOrder left right

def batchView (receipt : MaterialReceipt) : BatchView :=
  ⟨receipt.id, receipt.qtyRemaining, receipt.unitPrice⟩

def requireRequest (surroundings : Surroundings) (target : IssueTarget) : Operation Unit :=
  let number := target.requestNumber.getD ""
  Session.check (target.docType ≠ .request || surroundings.requests.contains number)
    (.requestNotFound s!"заявка {number} не найдена")

structure Demand where
  material : Material
  qty : Decimal
  target : IssueTarget

def newDemand (materialId : Nat) (qty : Number) (docType : String)
    (requestNumber : Option RequestNumber) (reason : Option String)
    (reversalOfReceiptId : Option Nat) : Operation Demand := do
  let qty ← Session.ofExcept (parseQty qty)
  let docType ← Session.ofExcept (validateIssueTarget docType requestNumber reason)
  let material ← getActiveMaterial materialId
  return ⟨material, qty, ⟨docType, requestNumber, reason, reversalOfReceiptId⟩⟩

def allocateDemand (materialId : Nat) (demand : Demand) : Operation (List Allocation) := do
  let batches ← Session.read (openBatches materialId)
  Session.ofExcept (allocateFifo (batches.map batchView) demand.qty)

def issueMaterial (surroundings : Surroundings) (materialId : Nat) (qty : Number)
    (createdBy : UserId) (docType : String) (requestNumber : Option RequestNumber)
    (reason : Option String) (reversalOfReceiptId : Option Nat) : Operation MaterialIssue := do
  let demand ← newDemand materialId qty docType requestNumber reason reversalOfReceiptId
  requireRequest surroundings demand.target
  let allocations ← allocateDemand materialId demand
  applyIssue surroundings allocations demand.material demand.qty demand.target createdBy

/-- The bot's path does the same in a session of its own. -/
def issueMaterialSync (surroundings : Surroundings) (materialId : Nat) (qty : Number)
    (createdBy : UserId) (docType : String) (requestNumber : Option RequestNumber)
    (reason : Option String) : Operation MaterialIssue :=
  issueMaterial surroundings materialId qty createdBy docType requestNumber reason none

def addToPrice (groups : List (Decimal × Decimal)) (allocation : MaterialIssueAllocation) :
    List (Decimal × Decimal) :=
  if groups.any fun group => group.1 = allocation.unitPrice then
    groups.map fun group =>
      if group.1 = allocation.unitPrice then (group.1, group.2 + allocation.qty) else group
  else groups ++ [(allocation.unitPrice, allocation.qty)]

def byPrice (allocations : List MaterialIssueAllocation) : List (Decimal × Decimal) :=
  allocations.foldl addToPrice []

def allocationsOf (issueId : Nat) (ledger : Ledger) : List MaterialIssueAllocation :=
  (ledger.allocations.rows.filter fun allocation =>
    allocation.issueId = issueId).insertionSort fun left right => left.id ≤ right.id

def reversibleGroups (materialId issueId : Nat) : Operation (List (Decimal × Decimal)) := do
  let found ← Session.read (·.issues.find? issueId)
  match found with
  | none => throw (.validation s!"расход {issueId} не найден")
  | some issue =>
    Session.check (issue.materialId = materialId)
      (.conflict "material_id не совпадает с материалом сторнируемого расхода")
    let receipts ← Session.read (·.receipts.rows)
    Session.check (receipts.all fun receipt => receipt.reversalOfIssueId ≠ some issueId)
      (.conflict s!"расход {issueId} уже сторнирован")
    let allocations ← Session.read (allocationsOf issueId)
    Session.check (!allocations.isEmpty) (.conflict s!"у расхода {issueId} нет аллокаций")
    return byPrice allocations

/-- A full reversal, once: one surplus lot for each price of the allocations. -/
def reverseIssue (surroundings : Surroundings) (materialId issueId : Nat) (reason : String)
    (createdBy : UserId) : Operation (List MaterialReceipt) := do
  let groups ← reversibleGroups materialId issueId
  groups.mapM fun group =>
    createReceipt surroundings materialId (.finite group.2) (.finite group.1) createdBy
      (.noted reason) "surplus" (some issueId)

def wholeReceipt (materialId receiptId : Nat) : Operation MaterialReceipt := do
  let found ← Session.read (·.receipts.find? receiptId)
  match found with
  | none => throw (.validation s!"приход {receiptId} не найден")
  | some receipt =>
    Session.check (receipt.materialId = materialId)
      (.conflict "material_id не совпадает с материалом сторнируемого прихода")
    Session.check (receipt.qtyRemaining = receipt.qty)
      (.conflict ("партия уже частично списана или сторнирована — " ++ "сторно прихода невозможно"))
    return receipt

def writtenOff (receipt : MaterialReceipt) (materialId : Nat) :
    Operation (Material × Allocation) := do
  let card ← Session.read (·.materials.find? materialId)
  match card with
  | none => throw .database
  | some material =>
    let amount ← Session.ofExcept (money (receipt.qty * receipt.unitPrice))
    return (material, ⟨receipt.id, receipt.qty, receipt.unitPrice, amount⟩)

def IssueTarget.ofReversal (reason : String) (receiptId : Nat) : IssueTarget :=
  ⟨.shortage, none, some reason, some receiptId⟩

/-- The reversal of an untouched receipt: its own lot is written off, past the FIFO. -/
def reverseReceipt (surroundings : Surroundings) (materialId receiptId : Nat)
    (reason : String) (createdBy : UserId) : Operation MaterialIssue := do
  let receipt ← wholeReceipt materialId receiptId
  let (material, allocation) ← writtenOff receipt materialId
  applyIssue surroundings [allocation] material receipt.qty (.ofReversal reason receiptId)
    createdBy

inductive Adjusted where
  | receipts (created : List MaterialReceipt)
  | issue (created : MaterialIssue)

structure Adjustment where
  direction : String
  reason : String
  qty : Option Number
  unitPrice : Option Number
  reversalOfIssueId : Option Nat
  reversalOfReceiptId : Option Nat

def Adjustment.isReversal (adjustment : Adjustment) : Bool :=
  adjustment.reversalOfIssueId.isSome || adjustment.reversalOfReceiptId.isSome

def validateAdjustment (adjustment : Adjustment) : Except MaterialError Unit :=
  if adjustment.direction ≠ "surplus" && adjustment.direction ≠ "shortage" then
    .error (.validation "direction должен быть surplus или shortage")
  else if !filled adjustment.reason then .error (.validation "reason обязателен для корректировки")
  else if adjustment.reversalOfIssueId.isSome && adjustment.reversalOfReceiptId.isSome then
    .error (.validation "допустима только одна reversal-ссылка")
  else if adjustment.isReversal && adjustment.qty.isSome then
    .error (.validation "qty запрещён при сторно: объём берётся из исходной операции")
  else if adjustment.unitPrice.isSome && (adjustment.isReversal || adjustment.direction = "shortage") then
    .error (.validation "unit_price допустим только при инвентаризационном излишке (surplus)")
  else if !adjustment.isReversal && adjustment.qty.isNone then
    .error (.validation "qty обязателен для инвентаризационной корректировки")
  else if adjustment.reversalOfIssueId.isSome && adjustment.direction ≠ "surplus" then
    .error (.validation "reversal_of_issue_id допустим только при direction=surplus")
  else if adjustment.reversalOfReceiptId.isSome && adjustment.direction ≠ "shortage" then
    .error (.validation "reversal_of_receipt_id допустим только при direction=shortage")
  else .ok ()

def adjust (surroundings : Surroundings) (materialId : Nat) (adjustment : Adjustment)
    (createdBy : UserId) : Operation Adjusted := do
  Session.ofExcept (validateAdjustment adjustment)
  match adjustment.reversalOfIssueId, adjustment.reversalOfReceiptId with
  | some issueId, _ =>
    let created ← reverseIssue surroundings materialId issueId adjustment.reason createdBy
    return .receipts created
  | none, some receiptId =>
    let created ←
      reverseReceipt surroundings materialId receiptId adjustment.reason createdBy
    return .issue created
  | none, none =>
    let qty := adjustment.qty.getD .notANumber
    if adjustment.direction = "surplus" then
      let created ← createReceipt surroundings materialId qty
        (adjustment.unitPrice.getD (.finite 0)) createdBy (.noted adjustment.reason)
        "surplus" none
      return .receipts [created]
    else
      let created ← issueMaterial surroundings materialId qty createdBy "shortage" none
        (some adjustment.reason) none
      return .issue created

def minStockOf : Option Number → Except MaterialError (Option Decimal)
  | none => .ok none
  | some value => (parseQty value).map some

def newMaterial (name unit : String) (category : Option String) (minStock : Option Number) :
    Operation Material := do
  let name := pyStrip name
  Session.check (name ≠ "") (.validation "название обязательно")
  let unit ← Session.ofExcept (validateUnit unit)
  let minStock ← Session.ofExcept (minStockOf minStock)
  let existing ← Session.read fun ledger => ledger.materials.rows.find? (·.name = name)
  match existing with
  | some card =>
    let hint := if card.isActive then "" else ", деактивирован — реактивируйте"
    throw (.conflict s!"материал «{name}» уже существует (id={card.id}{hint})")
  | none => return ⟨0, name, unit, category, minStock, true⟩

def insertMaterial (materials : Table Material.id) (row : Material) : Table Material.id :=
  materials.insert (fun id => { row with id := id }) fun _ => rfl

def materialFits (material : Material) : Bool := material.minStock.all (fits 12 3)

def createMaterial (surroundings : Surroundings) (name unit : String)
    (category : Option String) (minStock : Option Number) : Operation Material := do
  let row ← newMaterial name unit category minStock
  let id ← Session.read (·.materials.nextKey)
  Session.write fun ledger => { ledger with materials := insertMaterial ledger.materials row }
  flush surroundings (materialFits row)
  return { row with id := id }

/-- The fields a `PATCH` of a card gives. `minStock` may be given as null. -/
structure MaterialPatch where
  name : Option String
  category : Option String
  minStock : Option (Option Number)
  isActive : Option Bool
  unit : Option String

def hasMoves (materialId : Nat) (ledger : Ledger) : Bool :=
  ledger.receipts.rows.any fun receipt => receipt.materialId = materialId

def patchUnit (patch : MaterialPatch) (material : Material) : Operation Material :=
  match patch.unit with
  | none => return material
  | some text =>
    if MaterialUnit.ofText? text = some material.unit then return material
    else do
      let unit ← Session.ofExcept (validateUnit text)
      let moves ← Session.read (hasMoves material.id)
      Session.check (!moves)
        (.conflict "единицу измерения нельзя менять: по материалу есть движения")
      return { material with unit := unit }

def patchName (patch : MaterialPatch) (material : Material) : Operation Material :=
  match patch.name with
  | none => return material
  | some text => do
      let name := pyStrip text
      Session.check (name ≠ "") (.validation "название не может быть пустым")
      let duplicate ← Session.read fun ledger =>
        ledger.materials.rows.any fun card => card.name = name && card.id ≠ material.id
      Session.check (name = material.name || !duplicate)
        (.conflict s!"материал «{name}» уже существует")
      return { material with name := name }

def patchMinStock (patch : MaterialPatch) (material : Material) : Except MaterialError Material :=
  match patch.minStock with
  | none => .ok material
  | some given => do
      let minStock ← minStockOf given
      return { material with minStock := minStock }

def patchCategory (patch : MaterialPatch) (material : Material) : Material :=
  match patch.category with
  | none => material
  | some category => { material with category := if category = "" then none else some category }

def patchRest (patch : MaterialPatch) (material : Material) : Except MaterialError Material := do
  let material ← patchMinStock patch (patchCategory patch material)
  return { material with isActive := patch.isActive.getD material.isActive }

def loadMaterial (materialId : Nat) : Operation Material := do
  let found ← Session.read (·.materials.find? materialId)
  match found with
  | none => throw (.notFound s!"материал {materialId} не найден")
  | some card => return card

def updateMaterial (surroundings : Surroundings) (materialId : Nat) (patch : MaterialPatch) :
    Operation Material := do
  let card ← loadMaterial materialId
  let material ← patchUnit patch card
  let material ← patchName patch material
  let material ← Session.ofExcept (patchRest patch material)
  Session.write fun ledger => { ledger with materials := ledger.materials.put material }
  flush surroundings (materialFits material)
  return material

inductive Call where
  | createMaterial (name unit : String) (category : Option String) (minStock : Option Number)
  | updateMaterial (materialId : Nat) (patch : MaterialPatch)
  | createReceipt (materialId : Nat) (qty unitPrice : Number) (createdBy : UserId)
      (details : ReceiptDetails) (docType : String)
  | issueMaterial (materialId : Nat) (qty : Number) (createdBy : UserId) (docType : String)
      (requestNumber : Option RequestNumber) (reason : Option String)
  | issueMaterialSync (materialId : Nat) (qty : Number) (createdBy : UserId)
      (docType : String) (requestNumber : Option RequestNumber) (reason : Option String)
  | adjust (materialId : Nat) (adjustment : Adjustment) (createdBy : UserId)

structure Input where
  surroundings : Surroundings
  call : Call

def operation (surroundings : Surroundings) : Call → Operation Unit
  | .createMaterial name unit category minStock =>
    discard (createMaterial surroundings name unit category minStock)
  | .updateMaterial materialId patch => discard (updateMaterial surroundings materialId patch)
  | .createReceipt materialId qty unitPrice createdBy details docType =>
    discard (createReceipt surroundings materialId qty unitPrice createdBy details docType none)
  | .issueMaterial materialId qty createdBy docType requestNumber reason =>
    discard (issueMaterial surroundings materialId qty createdBy docType requestNumber reason none)
  | .issueMaterialSync materialId qty createdBy docType requestNumber reason =>
    discard (issueMaterialSync surroundings materialId qty createdBy docType requestNumber reason)
  | .adjust materialId adjustment createdBy => discard (adjust surroundings materialId adjustment createdBy)

def perform (ledger : Ledger) (input : Input) : Except MaterialError Unit × Ledger :=
  Session.transact (operation input.surroundings input.call) ledger

def next (ledger : Ledger) (input : Input) : Ledger := (perform ledger input).2

end InfrasafeBot.MaterialService
