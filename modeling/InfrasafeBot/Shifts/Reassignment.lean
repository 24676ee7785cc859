import InfrasafeBot.Shifts.RequestMoves

/-! The manager's reassignment of a shift, in the bot
(`services/shift_transfer_service.py`) and in the web
(`api/shifts/service/web_transfers.py`), which calls itself a mirror of the first. -/

set_option autoImplicit false

namespace InfrasafeBot.Shifts

open RequestWorkflow

/-- The order in which a run of the program goes through a set. -/
structure SetOrder (Value : Type) where
  enumerate : List Value → List Value
  mem_iff : ∀ values value, value ∈ enumerate values ↔ value ∈ values

inductive Refusal where
  | shiftNotFound
  | shiftNotTransferable
  | executorNotFound
  | notApproved
  | notExecutor
  | sameExecutor
  | specMismatch
  | overlap
  | transferNotFound
  | wrongStatus
  | notYourTransfer
  | notYourShift
  | transferAlreadyExists
  | cannotAssignToSelf

/-- `ACTIVE_REQUEST_STATUSES` of the bot, `REASSIGN_MOVE_STATUSES` of the web. -/
def movesWithShift (status : RequestStatus) : Bool :=
  status = .inProgress || status = .purchase || status = .clarification

section

variable (store : Store) (shift : Shift) (executor : UserId)

/-- The requests attached to the shift; those of its owner, if none is and it is active. -/
def requestNumbersOf (oldExecutor : UserId) : List RequestNumber :=
  let attached := (store.shiftAssignments.filter fun row =>
    row.shiftId = shift.id && row.status ≠ .completed && row.status ≠ .cancelled).map
      (·.requestNumber)
  if attached.isEmpty && shift.status = .active then
    (store.database.requests.rows.filter fun row =>
      row.executorId = some oldExecutor && movesWithShift row.status).map (·.requestNumber)
  else attached

def movable (number : RequestNumber) : Bool :=
  (store.database.requests.find? number).any fun request => movesWithShift request.status

def moveEach (store : Store) (executor : UserId) : List RequestNumber → Store × Nat
  | [] => (store, 0)
  | number :: rest =>
    if movable store number then
      let (found, changed) := store.reassignExecutor number executor
      let (last, moved) := moveEach changed executor rest
      (last, if found then moved + 1 else moved)
    else moveEach store executor rest

def moveEachWeb (store : Store) (executor : UserId) :
    List RequestNumber → Except Raised (Store × List RequestNumber)
  | [] => .ok (store, [])
  | number :: rest =>
    if movable store number then do
      let (found, changed) ← store.reassignExecutorAsync number executor
      let (last, moved) ← moveEachWeb changed executor rest
      .ok (last, if found then number :: moved else moved)
    else moveEachWeb store executor rest

def moveActiveRequests (order : SetOrder RequestNumber) (oldExecutor : UserId) : Store × Nat :=
  moveEach store executor (order.enumerate (requestNumbersOf store shift oldExecutor))

def moveActiveRequestsWeb (order : SetOrder RequestNumber) (oldExecutor : UserId) :
    Except Raised (Store × List RequestNumber) :=
  moveEachWeb store executor (order.enumerate (requestNumbersOf store shift oldExecutor))

end

def rivalShift (executor : UserId) (shift other : Shift) : Bool :=
  other.userId = some executor && (other.status = .active || other.status = .planned) && other.id ≠ shift.id

/-- The overlap as the bot's query sees it: a comparison with a missing end is not true. -/
def overlapsBot (shift : Shift) (ending : Moment) (other : Shift) : Bool :=
  other.startTime < ending && other.endTime.any (shift.startTime < ·)

/-- `find_overlapping_shift_for_update`: a shift without an end lasts forever. -/
def overlapsWeb (startTime ending : Moment) (other : Shift) : Bool :=
  other.startTime < ending && other.endTime.all (startTime < ·)

def validateReassignTarget (store : Store) (shift : Shift) (executor : UserId) : Option Refusal :=
  if shift.userId.isNone || !shift.transferable then some .shiftNotTransferable
  else
    match store.users.find? executor with
    | none => some .executorNotFound
    | some user =>
      if user.status ≠ .approved then some .notApproved
      else if !hasRole user "executor" then some .notExecutor
      else if shift.userId = some executor then some .sameExecutor
      else if !hasRequiredSpecs user shift then some .specMismatch
      else
        match shift.endTime with
        | none => none
        | some ending =>
          if store.shifts.rows.any fun other =>
              rivalShift executor shift other && overlapsBot shift ending other then
            some .overlap
          else none

def validateReassignWeb (store : Store) (shift : Shift) (executor : UserId) : Option Refusal :=
  if shift.userId.isNone || !shift.transferable then some .shiftNotTransferable
  else
    match store.users.find? executor with
    | none => some .executorNotFound
    | some user =>
      if user.status ≠ .approved then some .notApproved
      else if !(parseUserRoles user).contains "executor" then some .notExecutor
      else if shift.userId = some executor then some .sameExecutor
      else if !hasRequiredSpecs user shift then some .specMismatch
      else
        match shift.endTime with
        | none => none
        | some ending =>
          if store.shifts.rows.any fun other =>
              rivalShift executor shift other && overlapsWeb shift.startTime ending other then
            some .overlap
          else none

def historyRow (shift : Shift) (oldExecutor executor : UserId) (manager : Option UserId)
    (now : Moment) (id : TransferId) : ShiftTransfer where
  id
  shiftId := shift.id
  fromExecutorId := oldExecutor
  toExecutorId := some executor
  assignedBy := manager
  status := .completed
  reason := "manager_reassign"
  autoAssigned := true
  createdAt := now
  assignedAt := some now
  respondedAt := some now
  completedAt := some now

theorem historyRow_id (shift : Shift) (oldExecutor executor : UserId) (manager : Option UserId)
    (now : Moment) (id : TransferId) :
    (historyRow shift oldExecutor executor manager now id).id = id := rfl

def Store.recordHistory (store : Store) (shift : Shift) (oldExecutor executor : UserId)
    (manager : Option UserId) (now : Moment) : Store :=
  { store with
    transfers := store.transfers.insert (historyRow shift oldExecutor executor manager now)
      (historyRow_id shift oldExecutor executor manager now) }

def Store.handShift (store : Store) (shift : Shift) (executor : UserId) : Store :=
  { store with shifts := store.shifts.put { shift with userId := some executor } }

section

variable (order : SetOrder RequestNumber) (store : Store) (shiftId : ShiftId)
  (executor : UserId) (now : Moment)

def reassignShift (actorManager : Option UserId) (recordHistory : Bool) : Except Refusal (Store × Nat) :=
  match store.shifts.find? shiftId with
  | none => .error .shiftNotFound
  | some shift =>
    match validateReassignTarget store shift executor, shift.userId with
    | some refusal, _ => .error refusal
    | none, none => .error .shiftNotTransferable
    | none, some oldExecutor =>
      let (moved, count) := moveActiveRequests (store.handShift shift executor) shift
        executor order oldExecutor
      .ok (if recordHistory then moved.recordHistory shift oldExecutor executor actorManager now
        else moved, count)

inductive Failure where
  | refused (refusal : Refusal)
  | raised (exception : Raised)

def reassignShiftWeb (manager : UserId) : Except Failure (Store × List RequestNumber) :=
  match store.shifts.find? shiftId with
  | none => .error (.refused .shiftNotFound)
  | some shift =>
    match validateReassignWeb store shift executor, shift.userId with
    | some refusal, _ => .error (.refused refusal)
    | none, none => .error (.refused .shiftNotTransferable)
    | none, some oldExecutor =>
      match moveActiveRequestsWeb (store.handShift shift executor) shift executor order
          oldExecutor with
      | .error exception => .error (.raised exception)
      | .ok (moved, numbers) =>
        .ok (moved.recordHistory shift oldExecutor executor (some manager) now, numbers)

end

end InfrasafeBot.Shifts
