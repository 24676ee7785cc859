import InfrasafeBot.Shifts.Handover

/-! The transfer of a shift from its executor to another, in the bot
(`services/shift_transfer_service.py`) and in the web (`api/shifts/service/web_transfers.py`,
`api/shifts/service/transfers.py`, `api/shifts/router/transfers.py`), one statement after the
other. A row that is read `FOR UPDATE` or written is locked to the end of the transaction;
the bot reads shifts, and the expiry reads transfers, without a lock. -/

set_option autoImplicit false

namespace InfrasafeBot.Shifts

open Library RequestWorkflow

/-- The two places that have a creation of their own. -/
inductive Site where
  | bot
  | web
  deriving DecidableEq

def TransferStatus.text : TransferStatus → String
  | .pending => "pending"
  | .assigned => "assigned"
  | .accepted => "accepted"
  | .rejected => "rejected"
  | .cancelled => "cancelled"
  | .completed => "completed"
  | .expired => "expired"

def TransferStatus.isOpen : TransferStatus → Bool
  | .pending => true
  | .assigned => true
  | .accepted => true
  | _ => false

inductive TransferError where
  | refused (refusal : Refusal)
  | http (statusCode : Nat) (detail : String)
  | multipleResultsFound

def newTransfer (shiftId : ShiftId) (executor : UserId) (reason : String) (now : Moment)
    (id : TransferId) : ShiftTransfer where
  id
  shiftId
  fromExecutorId := executor
  toExecutorId := none
  assignedBy := none
  status := .pending
  reason := if reason = "" then "other" else reason
  autoAssigned := false
  createdAt := now
  assignedAt := none
  respondedAt := none
  completedAt := none

theorem newTransfer_id (shiftId : ShiftId) (executor : UserId) (reason : String) (now : Moment)
    (id : TransferId) : (newTransfer shiftId executor reason now id).id = id := rfl

namespace ShiftTransfer

variable (transfer : ShiftTransfer)

def canBeAssignedTo (executor : UserId) : Bool :=
  executor ≠ transfer.fromExecutorId && transfer.status = .pending

def assignedTo (executor : UserId) (manager : Option UserId) (now : Moment) : ShiftTransfer :=
  { (transfer.updateStatus .assigned now).getD transfer with
    toExecutorId := some executor, assignedBy := manager }

def approvedFor (executor manager : UserId) (now : Moment) : ShiftTransfer :=
  { transfer with
    status := .assigned, toExecutorId := some executor, assignedBy := some manager
    assignedAt := some now }

def expired (now : Moment) : ShiftTransfer :=
  { transfer with status := .expired, respondedAt := some now, completedAt := some now }

end ShiftTransfer

namespace Roster

variable (roster : Roster)

def openTransfers (shiftId : ShiftId) : List ShiftTransfer :=
  roster.transfers.rows.filter fun row => row.shiftId = shiftId && row.status.isOpen

def expiredRows (cutoff : Moment) : List ShiftTransfer :=
  roster.transfers.rows.filter fun row =>
    (row.status = .pending || row.status = .assigned) && row.createdAt < cutoff

def expireAll (now : Moment) (rows : List ShiftTransfer) : Roster :=
  rows.foldl (fun roster row => roster.putTransfer row (row.expired now)) roster

end Roster

/-- What the bot's guards of a new owner are for. -/
inductive Errand where
  | assign (transfer : ShiftTransfer) (manager : Option UserId)
  | accept (transfer : ShiftTransfer)
  | reassign (manager : Option UserId)

def Errand.transfer : Errand → Option ShiftTransfer
  | .assign transfer _ => some transfer
  | .accept transfer => some transfer
  | .reassign _ => none

/-- An assignment leaves the shift alone; the others write it. -/
def Errand.writesShift : Errand → Bool
  | .assign _ _ => false
  | _ => true

def Errand.locks (errand : Errand) : List LockKey :=
  errand.transfer.toList.map fun transfer => .transfer transfer.id

inductive TransferStage where
  | idle
  | creating (site : Site) (shiftId : ShiftId) (executor : UserId) (reason : String)
      (now : Moment)
  | seeking (site : Site) (shiftId : ShiftId) (executor : UserId) (reason : String)
      (now : Moment)
  | inserting (site : Site) (shiftId : ShiftId) (executor : UserId) (reason : String)
      (now : Moment)
  | assigning (transferId : TransferId) (executor : UserId) (manager : Option UserId)
      (now : Moment)
  | accepting (transferId : TransferId) (executor : UserId) (now : Moment)
  | reading (errand : Errand) (shiftId : ShiftId) (executor : UserId) (now : Moment)
  | judging (errand : Errand) (shift : Shift) (executor : UserId) (now : Moment)
  | comparing (errand : Errand) (shift : Shift) (ending : Moment) (executor : UserId)
      (now : Moment)
  | flushing (errand : Errand) (shift : Shift) (executor : UserId) (now : Moment)
  | rejecting (transferId : TransferId) (executor : UserId) (now : Moment)
  | approving (transferId : TransferId) (executor : Option UserId) (manager : UserId)
      (now : Moment)
  | approvingFor (transfer : ShiftTransfer) (executor manager : UserId) (now : Moment)
  | handlingReject (transferId : TransferId)
  | readingShift (loaded changed : ShiftTransfer)
  | handlingCancel (transferId : TransferId)
  | committing (loaded changed : ShiftTransfer) (shift : Option ShiftId)
  | sweeping (cutoff now : Moment)
  | expiring (locked rest : List ShiftTransfer) (now : Moment)
  | handover (stage : HandoverStage)
  | returning (error : Option TransferError)

def TransferStage.locks : TransferStage → List LockKey
  | .seeking .web shiftId _ _ _ => [.shift shiftId]
  | .inserting .web shiftId _ _ _ => [.shift shiftId]
  | .reading errand _ _ _ => errand.locks
  | .judging errand _ _ _ => errand.locks
  | .comparing errand _ _ _ _ => errand.locks
  | .flushing errand shift _ _ => (if errand.writesShift then [.shift shift.id] else []) ++ errand.locks
  | .approvingFor transfer _ _ _ => [.transfer transfer.id]
  | .readingShift loaded _ => [.transfer loaded.id]
  | .committing loaded _ shift => .transfer loaded.id :: shift.toList.map .shift
  | .expiring locked _ _ => locked.map fun row => .transfer row.id
  | .handover stage => stage.locks
  | _ => []

section

variable (roster : Roster)

/-- The guards of `_validate_reassign_target` before its overlap. -/
def judgeTarget (shift : Shift) (executor : UserId) : Option Refusal :=
  if shift.userId.isNone || !shift.transferable then some .shiftNotTransferable
  else
    match roster.users.find? executor with
    | none => some .executorNotFound
    | some user =>
      if user.status ≠ .approved then some .notApproved
      else if !hasRole user "executor" then some .notExecutor
      else if shift.userId = some executor then some .sameExecutor
      else if !hasRequiredSpecs user shift then some .specMismatch
      else none

def commitErrand (errand : Errand) (shift : Shift) (executor : UserId) (now : Moment) : Roster :=
  match errand, shift.userId with
  | .assign transfer manager, _ => roster.putTransfer transfer (transfer.assignedTo executor manager now)
  | .accept transfer, _ => (roster.giveShift shift executor).putTransfer transfer (transfer.accepted now)
  | .reassign manager, some oldExecutor =>
    (roster.giveShift shift executor).addTransfer
      (historyRow shift oldExecutor executor manager now)
      (historyRow_id shift oldExecutor executor manager now)
  | .reassign _, none => roster.giveShift shift executor

def refuse (refusal : Refusal) : TransferStage := .returning (some (.refused refusal))

def foundOpen (site : Site) : List ShiftTransfer → Option TransferError
  | [] => none
  | _ :: rest =>
    if site = .web && !rest.isEmpty then some .multipleResultsFound
    else some (.refused .transferAlreadyExists)

def wrongStatus (action : String) (transfer : ShiftTransfer) (expected : String) : TransferStage :=
  .returning (some (.http 409 s!"Cannot {action} transfer in status '{transfer.status.text}'{expected}"))

def transferMissing : TransferStage := .returning (some (.http 404 "Transfer not found"))

/-- `create_transfer`, `assign_transfer`, `accept_transfer`, `reject_transfer` and
`manager_direct_reassign`. -/
def performBot : TransferStage → Roster × TransferStage
  | .creating site shiftId executor reason now =>
    match roster.shifts.find? shiftId with
    | none => (roster, refuse .shiftNotFound)
    | some shift =>
      if shift.userId ≠ some executor then (roster, refuse .notYourShift)
      else if !shift.transferable then (roster, refuse .shiftNotTransferable)
      else (roster, .seeking site shiftId executor reason now)
  | .seeking site shiftId executor reason now =>
    match foundOpen site (roster.openTransfers shiftId) with
    | some error => (roster, .returning (some error))
    | none => (roster, .inserting site shiftId executor reason now)
  | .inserting _ shiftId executor reason now =>
    (roster.addTransfer (newTransfer shiftId executor reason now)
        (newTransfer_id shiftId executor reason now),
      .returning none)
  | .assigning transferId executor manager now =>
    match roster.transfers.find? transferId with
    | none => (roster, refuse .transferNotFound)
    | some transfer =>
      if transfer.status ≠ .pending then (roster, refuse .wrongStatus)
      else if !transfer.canBeAssignedTo executor then (roster, refuse .cannotAssignToSelf)
      else (roster, .reading (.assign transfer manager) transfer.shiftId executor now)
  | .accepting transferId executor now =>
    match roster.transfers.find? transferId with
    | none => (roster, refuse .transferNotFound)
    | some transfer =>
      if transfer.status ≠ .assigned then (roster, refuse .wrongStatus)
      else if transfer.toExecutorId ≠ some executor then (roster, refuse .notYourTransfer)
      else (roster, .reading (.accept transfer) transfer.shiftId executor now)
  | .reading errand shiftId executor now =>
    match roster.shifts.find? shiftId with
    | none => (roster, refuse .shiftNotFound)
    | some shift => (roster, .judging errand shift executor now)
  | .judging errand shift executor now =>
    match judgeTarget roster shift executor, shift.endTime with
    | some refusal, _ => (roster, refuse refusal)
    | none, some ending => (roster, .comparing errand shift ending executor now)
    | none, none => (roster, .flushing errand shift executor now)
  | .comparing errand shift ending executor now =>
    if roster.shifts.rows.any fun other =>
        rivalShift executor shift other && overlapsBot shift ending other then
      (roster, refuse .overlap)
    else (roster, .flushing errand shift executor now)
  | .flushing errand shift executor now => (commitErrand roster errand shift executor now, .returning none)
  | .rejecting transferId executor now =>
    match roster.transfers.find? transferId with
    | none => (roster, refuse .transferNotFound)
    | some transfer =>
      if transfer.status ≠ .assigned then (roster, refuse .wrongStatus)
      else if transfer.toExecutorId ≠ some executor then (roster, refuse .notYourTransfer)
      else
        match transfer.updateStatus .rejected now with
        | none => (roster, refuse .wrongStatus)
        | some changed => (roster, .committing transfer changed none)
  | stage => (roster, stage)

def performHandling : TransferStage → Roster × TransferStage
  | .approving transferId executor manager now =>
    match roster.transfers.find? transferId, executor with
    | none, _ => (roster, transferMissing)
    | some transfer, none =>
      if transfer.status ≠ .pending then (roster, wrongStatus "approve" transfer " — expected 'pending'")
      else
        let detail := "to_executor_id is required for action 'approve'"
        (roster, .returning (some (.http 422 detail)))
    | some transfer, some executor =>
      if transfer.status ≠ .pending then (roster, wrongStatus "approve" transfer " — expected 'pending'")
      else (roster, .approvingFor transfer executor manager now)
  | .approvingFor transfer executor manager now =>
    match roster.users.find? executor with
    | none => (roster, .returning (some (.http 404 "Executor not found")))
    | some user =>
      if !(parseUserRoles user).contains "executor" then
        (roster, .returning (some (.http 422 "Target user does not have executor role")))
      else (roster, .committing transfer (transfer.approvedFor executor manager now) none)
  | .handlingReject transferId =>
    match roster.transfers.find? transferId with
    | none => (roster, transferMissing)
    | some transfer =>
      if transfer.status ≠ .assigned then (roster, wrongStatus "reject" transfer " — expected 'assigned'")
      else (roster, .readingShift transfer { transfer with status := .rejected })
  | .readingShift loaded changed =>
    (roster, .committing loaded changed ((roster.shifts.find? loaded.shiftId).map (·.id)))
  | .handlingCancel transferId =>
    match roster.transfers.find? transferId with
    | none => (roster, transferMissing)
    | some transfer =>
      if transfer.status ≠ .pending ∧ transfer.status ≠ .assigned then
        (roster, wrongStatus "cancel" transfer "")
      else (roster, .committing transfer { transfer with status := .cancelled } none)
  | stage => (roster, stage)

def performTransfer : TransferStage → Roster × TransferStage
  | .idle => (roster, .idle)
  | .committing loaded changed _ => (roster.putTransfer loaded changed, .returning none)
  | .sweeping cutoff now => (roster, .expiring [] (roster.expiredRows cutoff) now)
  | .expiring locked (row :: rest) now => (roster, .expiring (locked ++ [row]) rest now)
  | .expiring locked [] now => (roster.expireAll now locked, .returning none)
  | .handover stage =>
    let handed := performHandover roster stage
    (handed.1, .handover handed.2)
  | .returning error => (roster, .returning error)
  | .approving transferId executor manager now =>
    performHandling roster (.approving transferId executor manager now)
  | .approvingFor transfer executor manager now =>
    performHandling roster (.approvingFor transfer executor manager now)
  | .handlingReject transferId => performHandling roster (.handlingReject transferId)
  | .readingShift loaded changed => performHandling roster (.readingShift loaded changed)
  | .handlingCancel transferId => performHandling roster (.handlingCancel transferId)
  | stage => performBot roster stage

end

inductive TransferCall where
  | createTransfer (site : Site) (shiftId : ShiftId) (executor : UserId) (reason : String)
      (now : Moment)
  | assignTransfer (transferId : TransferId) (executor : UserId) (manager : Option UserId)
      (now : Moment)
  | acceptTransfer (transferId : TransferId) (executor : UserId) (now : Moment)
  | rejectTransfer (transferId : TransferId) (executor : UserId) (now : Moment)
  | processExpiredTransfers (cutoff now : Moment)
  | managerDirectReassign (shiftId : ShiftId) (executor : UserId) (manager : Option UserId)
      (now : Moment)
  | acceptTransferWeb (transferId : TransferId) (executor : UserId) (now : Moment)
  | rejectTransferWebByRecipient (transferId : TransferId) (executor : UserId) (now : Moment)
  | approve (transferId : TransferId) (executor : Option UserId) (manager : UserId)
      (now : Moment)
  | reject (transferId : TransferId)
  | cancel (transferId : TransferId)
  | reassignShiftWeb (shiftId : ShiftId) (executor manager : UserId) (now : Moment)

def TransferCall.start : TransferCall → TransferStage
  | .createTransfer site shiftId executor reason now => .creating site shiftId executor reason now
  | .assignTransfer transferId executor manager now => .assigning transferId executor manager now
  | .acceptTransfer transferId executor now => .accepting transferId executor now
  | .rejectTransfer transferId executor now => .rejecting transferId executor now
  | .processExpiredTransfers cutoff now => .sweeping cutoff now
  | .managerDirectReassign shiftId executor manager now => .reading (.reassign manager) shiftId executor now
  | .acceptTransferWeb transferId executor now => .handover (.accepting transferId executor now)
  | .rejectTransferWebByRecipient transferId executor now => .rejecting transferId executor now
  | .approve transferId executor manager now => .approving transferId executor manager now
  | .reject transferId => .handlingReject transferId
  | .cancel transferId => .handlingCancel transferId
  | .reassignShiftWeb shiftId executor manager now => .handover (.reassigning shiftId executor manager now)

def TransferStage.free : TransferStage → Bool
  | .idle => true
  | .returning _ => true
  | .handover (.finished _) => true
  | _ => false

theorem TransferCall.start_unlocked (call : TransferCall) : call.start.locks = [] := by
  cases call <;> rfl

def transferProgram : Program Roster TransferStage TransferCall LockKey where
  idle := .idle
  start := TransferCall.start
  free := TransferStage.free
  perform := performTransfer
  locks := TransferStage.locks
  idle_unlocked := rfl
  start_unlocked := TransferCall.start_unlocked

end InfrasafeBot.Shifts
