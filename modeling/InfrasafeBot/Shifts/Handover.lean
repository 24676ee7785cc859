import InfrasafeBot.Library.Interleaving
import InfrasafeBot.Shifts.Reassignment

/-! A shift that changes hands in the web, by a manager's reassignment or by the acceptance
of a transfer (`api/shifts/service/web_transfers.py`), one statement after the other. The
requests that go with the shift are left out here. -/

set_option autoImplicit false

namespace InfrasafeBot.Shifts

open Library RequestWorkflow

structure Roster where
  users : Table User.id
  shifts : Table Shift.id
  transfers : Table ShiftTransfer.id

inductive LockKey where
  | shift (id : ShiftId)
  | transfer (id : TransferId)
  | scope (executor : UserId)
  deriving DecidableEq

namespace ShiftTransfer

def validTransitions : TransferStatus → List TransferStatus
  | .pending => [.assigned, .cancelled]
  | .assigned => [.accepted, .rejected, .cancelled]
  | .accepted => [.completed, .cancelled]
  | .rejected => [.pending, .cancelled]
  | .cancelled => []
  | .completed => []
  | .expired => []

def updateStatus (transfer : ShiftTransfer) (newStatus : TransferStatus) (now : Moment) :
    Option ShiftTransfer :=
  if newStatus ∈ validTransitions transfer.status then
    some { transfer with
      status := newStatus
      assignedAt := if newStatus = .assigned then some now else transfer.assignedAt
      respondedAt :=
        if newStatus = .accepted ∨ newStatus = .rejected then some now else transfer.respondedAt
      completedAt := if newStatus = .completed then some now else transfer.completedAt }
  else none

def flush (loaded changed stored : ShiftTransfer) : ShiftTransfer :=
  { stored with
    toExecutorId := assignedColumn changed.toExecutorId loaded.toExecutorId stored.toExecutorId
    assignedBy := assignedColumn changed.assignedBy loaded.assignedBy stored.assignedBy
    status := assignedColumn changed.status loaded.status stored.status
    assignedAt := assignedColumn changed.assignedAt loaded.assignedAt stored.assignedAt
    respondedAt := assignedColumn changed.respondedAt loaded.respondedAt stored.respondedAt
    completedAt := assignedColumn changed.completedAt loaded.completedAt stored.completedAt }

theorem flush_id (loaded changed stored : ShiftTransfer) :
    (flush loaded changed stored).id = stored.id := rfl

def accepted (transfer : ShiftTransfer) (now : Moment) : ShiftTransfer :=
  match transfer.updateStatus .accepted now with
  | none => transfer
  | some changed => (changed.updateStatus .completed now).getD changed

end ShiftTransfer

namespace Roster

variable (roster : Roster)

def putTransfer (loaded changed : ShiftTransfer) : Roster :=
  { roster with
    transfers := roster.transfers.update (fun row => row.id = loaded.id)
      (ShiftTransfer.flush loaded changed) (ShiftTransfer.flush_id loaded changed) }

def addTransfer (make : TransferId → ShiftTransfer) (numbered : ∀ id, (make id).id = id) : Roster :=
  { roster with transfers := roster.transfers.insert make numbered }

theorem given_id (loaded : Shift) (executor : UserId) (row : Shift) :
    Shift.id { row with userId := assignedColumn (some executor) loaded.userId row.userId } = row.id := rfl

def giveShift (loaded : Shift) (executor : UserId) : Roster :=
  { roster with
    shifts := roster.shifts.update (fun row => row.id = loaded.id)
      (fun row => { row with userId := assignedColumn (some executor) loaded.userId row.userId })
      (given_id loaded executor) }

def findOverlapping (executor : UserId) (startTime ending : Moment) (exclude : Option ShiftId) : Bool :=
  roster.shifts.rows.any fun other =>
    other.userId = some executor && (other.status = .active || other.status = .planned) &&
      overlapsWeb startTime ending other && exclude.all (other.id ≠ ·)

end Roster

inductive Purpose where
  | reassign (manager : UserId)
  | accept (transfer : ShiftTransfer)

def Purpose.locks : Purpose → List LockKey
  | .reassign _ => []
  | .accept transfer => [.transfer transfer.id]

inductive HandoverStage where
  | reassigning (shiftId : ShiftId) (executor manager : UserId) (now : Moment)
  | accepting (transferId : TransferId) (executor : UserId) (now : Moment)
  | following (transfer : ShiftTransfer) (executor : UserId) (now : Moment)
  | judging (purpose : Purpose) (shift : Shift) (executor : UserId) (now : Moment)
  | locking (purpose : Purpose) (shift : Shift) (ending : Moment) (executor : UserId)
      (now : Moment)
  | checking (purpose : Purpose) (shift : Shift) (ending : Moment) (executor : UserId)
      (now : Moment)
  | handing (purpose : Purpose) (shift : Shift) (executor : UserId) (now : Moment)
  | finished (refusal : Option Refusal)

def HandoverStage.locks : HandoverStage → List LockKey
  | .reassigning _ _ _ _ => []
  | .accepting _ _ _ => []
  | .following transfer _ _ => [.transfer transfer.id]
  | .judging purpose shift _ _ => .shift shift.id :: purpose.locks
  | .locking purpose shift _ _ _ => .shift shift.id :: purpose.locks
  | .checking purpose shift _ executor _ => .scope executor :: .shift shift.id :: purpose.locks
  | .handing purpose shift executor _ =>
    (if shift.endTime.isSome then [.scope executor] else []) ++ .shift shift.id :: purpose.locks
  | .finished _ => []

section

variable (roster : Roster)

def judgeHandover (purpose : Purpose) (shift : Shift) (executor : UserId) : Option Refusal :=
  if shift.userId.isNone || !shift.transferable then some .shiftNotTransferable
  else
    match purpose, roster.users.find? executor with
    | .reassign _, none => some .executorNotFound
    | .reassign _, some user =>
      if user.status ≠ .approved then some .notApproved
      else if !(parseUserRoles user).contains "executor" then some .notExecutor
      else if shift.userId = some executor then some .sameExecutor
      else if !hasRequiredSpecs user shift then some .specMismatch
      else none
    | .accept _, none => some .notExecutor
    | .accept _, some user =>
      if user.status ≠ .approved || !(parseUserRoles user).contains "executor" then some .notExecutor
      else if !hasRequiredSpecs user shift then some .specMismatch
      else none

def commitHandover (purpose : Purpose) (shift : Shift) (executor : UserId) (now : Moment) : Roster :=
  let given := roster.giveShift shift executor
  match purpose, shift.userId with
  | .reassign manager, some oldExecutor =>
    given.addTransfer (historyRow shift oldExecutor executor (some manager) now)
      (historyRow_id shift oldExecutor executor (some manager) now)
  | .reassign _, none => given
  | .accept transfer, _ => given.putTransfer transfer (transfer.accepted now)

def performHandover : HandoverStage → Roster × HandoverStage
  | .reassigning shiftId executor manager now =>
    match roster.shifts.find? shiftId with
    | none => (roster, .finished (some .shiftNotFound))
    | some shift => (roster, .judging (.reassign manager) shift executor now)
  | .accepting transferId executor now =>
    match roster.transfers.find? transferId with
    | none => (roster, .finished (some .transferNotFound))
    | some transfer =>
      if transfer.status ≠ .assigned then (roster, .finished (some .wrongStatus))
      else if transfer.toExecutorId ≠ some executor then (roster, .finished (some .notYourTransfer))
      else (roster, .following transfer executor now)
  | .following transfer executor now =>
    match roster.shifts.find? transfer.shiftId with
    | none => (roster, .finished (some .shiftNotFound))
    | some shift => (roster, .judging (.accept transfer) shift executor now)
  | .judging purpose shift executor now =>
    match judgeHandover roster purpose shift executor, shift.endTime with
    | some refusal, _ => (roster, .finished (some refusal))
    | none, some ending => (roster, .locking purpose shift ending executor now)
    | none, none => (roster, .handing purpose shift executor now)
  | .locking purpose shift ending executor now => (roster, .checking purpose shift ending executor now)
  | .checking purpose shift ending executor now =>
    if roster.findOverlapping executor shift.startTime ending (some shift.id) then
      (roster, .finished (some .overlap))
    else (roster, .handing purpose shift executor now)
  | .handing purpose shift executor now =>
    (commitHandover roster purpose shift executor now, .finished none)
  | .finished refusal => (roster, .finished refusal)

end

theorem performHandover_reads (roster : Roster) (stage : HandoverStage) :
    (performHandover roster stage).1 = roster ∨
      ∃ purpose shift executor now, stage = .handing purpose shift executor now := by
  cases stage with
  | handing purpose shift executor now => exact .inr ⟨purpose, shift, executor, now, rfl⟩
  | _ =>
    left
    simp only [performHandover]
    repeat' split
    all_goals rfl

end InfrasafeBot.Shifts
