import InfrasafeBot.Shifts.Handover

/-! The automatic assignment of executors to shifts and the reassignment of an absent one's
(`services/shift_assignment_service/service.py`), one statement after the other, beside
managers who assign by hand. A session keeps what it has loaded until it commits or rolls
back; then the next look at a shift reads its row again. How executors are scored is left to
a parameter. -/

set_option autoImplicit false

namespace InfrasafeBot.Shifts

open Library RequestWorkflow

inductive AuditAction where
  | shiftAutoAssigned
  | shiftUnassignedNoReplacement
  | batchAssignmentCompleted
  | executorAbsenceReassignment
  deriving DecidableEq

structure ShiftAudit where
  userId : Option UserId
  action : AuditAction
  shiftId : Option ShiftId
  deriving DecidableEq

/-- What the journal remembers, the newest first: a run that selects its shifts, a manager
who gives a shift an owner, and a run's commit with the owners it changes. -/
inductive BoardEntry where
  | selected (run : Nat) (shifts : List ShiftId)
  | manual (shiftId : ShiftId) (owner : Option UserId)
  | automatic (run : Nat) (changed : List (ShiftId × Option UserId)) (audits : List ShiftAudit)
  deriving DecidableEq

structure Board where
  shifts : Table Shift.id
  executors : List UserId
  journal : List BoardEntry

/-- The scoring of executors and the search for conflicts, with the shifts that the queries of
a score return. A score of zero is no candidate. -/
structure Scoring where
  score : Table Shift.id → Shift → UserId → Nat
  conflicted : Table Shift.id → Shift → UserId → Bool
  reads : Table Shift.id → Shift → UserId → List ShiftId

structure OwnerWrite where
  shift : Shift
  owner : Option UserId

def written (writes : List OwnerWrite) (row : Shift) : Option UserId :=
  match writes.find? (·.shift.id = row.id) with
  | some write => assignedColumn write.owner write.shift.userId row.userId
  | none => row.userId

theorem written_id (writes : List OwnerWrite) (row : Shift) :
    Shift.id { row with userId := written writes row } = row.id := rfl

theorem owned_id (owner : Option UserId) (row : Shift) :
    Shift.id { row with userId := owner } = row.id := rfl

namespace Board

variable (board : Board)

def changes (writes : List OwnerWrite) : List (ShiftId × Option UserId) :=
  board.shifts.rows.filterMap fun row =>
    if written writes row = row.userId then none else some (row.id, written writes row)

def flush (run : Nat) (writes : List OwnerWrite) (audits : List ShiftAudit) : Board :=
  { board with
    shifts := board.shifts.update (fun _ => true)
      (fun row => { row with userId := written writes row }) (written_id writes)
    journal := .automatic run (board.changes writes) audits :: board.journal }

def assignByHand (shiftId : ShiftId) (owner : Option UserId) : Board :=
  { board with
    shifts := board.shifts.update (fun row => row.id = shiftId)
      (fun row => { row with userId := owner }) (owned_id owner)
    journal := .manual shiftId owner :: board.journal }

def select (shifts : List ShiftId) : Board :=
  { board with journal := .selected board.journal.length shifts :: board.journal }

def executorShifts (executor : UserId) (now : Moment) : List Shift :=
  board.shifts.rows.filter fun row =>
    row.userId = some executor && row.transferable && row.plannedStartTime.any (now ≤ ·)

end Board

def BoardEntry.selects (run : Nat) (shiftId : ShiftId) : BoardEntry → Bool
  | .selected other shifts => other = run && shifts.contains shiftId
  | _ => false

/-- The last owner of the shift is from a manager, who gave it after the run's selection. -/
def overruled (run : Nat) (shiftId : ShiftId) : List BoardEntry → Bool
  | [] => false
  | .selected _ _ :: before => overruled run shiftId before
  | .manual id _ :: before =>
    if id = shiftId then before.any (BoardEntry.selects run shiftId)
    else overruled run shiftId before
  | .automatic _ changed _ :: before =>
    if changed.any (·.1 = shiftId) then false else overruled run shiftId before

/-- A run in its session: the shifts that wait, the objects that are not expired, and those
whose owner has been taken away since the last commit. -/
structure Session where
  run : Nat
  absent : Option UserId
  executors : List UserId
  todo : List ShiftId
  loaded : List Shift
  unassigned : List Shift

/-- An assignment whose comparison has passed, and whether it has passed over a manager. -/
structure Assignment where
  shift : Shift
  executor : UserId
  overruled : Bool

inductive AutoStage where
  | idle
  | selecting (shiftIds : List ShiftId) (forceReassign : Bool)
  | selectingAbsent (executor : UserId) (now : Moment)
  | gathering (session : Session)
  | loading (session : Session) (shiftId : ShiftId)
  | evaluating (session : Session) (shift : Shift) (rest : List UserId)
      (scores : List (UserId × Nat))
  | checking (session : Session) (shift : Shift) (candidates : List UserId)
  | locking (session : Session) (shift : Shift) (executor : UserId)
  | reloading (session : Session) (shiftId : ShiftId)
  | assigning (session : Session) (assignment : Assignment)
  | committing (session : Session) (assignment : Option Assignment)
  | reading (shiftId : ShiftId) (owner : Option UserId)
  | writing (row : Shift) (owner : Option UserId)
  | finished

namespace Session

variable (session : Session)

def expire : Session := { session with loaded := [], unassigned := [] }

def learn (rows : List Shift) : Session :=
  { session with
    loaded := session.loaded ++ rows.filter fun row =>
      session.todo.contains row.id && !session.loaded.any (·.id = row.id) }

def proceed : AutoStage :=
  match session.absent, session.todo with
  | _, [] => .committing session none
  | none, id :: rest => .loading { session with todo := rest } id
  | some _, _ :: _ => .gathering session

def giveUp (shift : Shift) : AutoStage :=
  match session.absent with
  | none => session.proceed
  | some _ => proceed { session with unassigned := session.unassigned ++ [shift] }

def writes (assignment : Option Assignment) : List OwnerWrite :=
  (session.unassigned.map fun shift => ⟨shift, none⟩) ++
    assignment.toList.map fun made => ⟨made.shift, some made.executor⟩

def summary : ShiftAudit :=
  match session.absent with
  | none => ⟨none, .batchAssignmentCompleted, none⟩
  | some executor => ⟨some executor, .executorAbsenceReassignment, none⟩

def audits (assignment : Option Assignment) : List ShiftAudit :=
  (session.unassigned.map fun shift => ⟨session.absent, .shiftUnassignedNoReplacement, some shift.id⟩) ++
    match assignment with
    | some made => [⟨some made.executor, .shiftAutoAssigned, some made.shift.id⟩]
    | none => [session.summary]

end Session

def ranked (scores : List (UserId × Nat)) : List UserId :=
  (scores.insertionSort fun left right => right.2 ≤ left.2).map (·.1)

/-- The rows that are locked by a `FOR UPDATE` or by the flush. -/
def AutoStage.locks : AutoStage → List LockKey
  | .assigning _ made => [.shift made.shift.id]
  | .committing session assignment => (session.writes assignment).map fun write => .shift write.shift.id
  | .writing row _ => [.shift row.id]
  | _ => []

section

variable (scoring : Scoring) (board : Board)

def rowsOf (ids : List ShiftId) : List Shift := board.shifts.rows.filter fun row => ids.contains row.id

def beginRun (absent : Option UserId) (shifts : List Shift) : Board × AutoStage :=
  let ids := shifts.map (·.id)
  (board.select ids,
    if shifts.isEmpty then .finished
    else .gathering ⟨board.journal.length, absent, [], ids, shifts, []⟩)

def performAuto : AutoStage → Board × AutoStage
  | .selecting shiftIds forceReassign =>
    beginRun board none ((rowsOf board shiftIds).filter fun row => row.userId.isNone || forceReassign)
  | .selectingAbsent executor now => beginRun board (some executor) (board.executorShifts executor now)
  | .gathering session =>
    match session.absent, session.todo with
    | none, _ =>
      if board.executors.isEmpty then (board, .finished)
      else (board, { session with executors := board.executors }.proceed)
    | some absent, id :: rest =>
      (board, .loading { session with executors := board.executors.filter (· ≠ absent), todo := rest } id)
    | some _, [] => (board, session.proceed)
  | .loading session id =>
    match session.loaded.find? (·.id = id), board.shifts.find? id with
    | some shift, _ => (board, .evaluating session shift session.executors [])
    | none, some shift =>
      (board, .evaluating { session with loaded := session.loaded ++ [shift] } shift session.executors [])
    | none, none => (board, .finished)
  | .evaluating session shift (executor :: rest) scores =>
    let value := scoring.score board.shifts shift executor
    let read := session.learn (rowsOf board (scoring.reads board.shifts shift executor))
    (board, .evaluating read shift rest (if value = 0 then scores else scores ++ [(executor, value)]))
  | .evaluating session shift [] scores => (board, .checking session shift (ranked scores))
  | .checking session shift (executor :: rest) =>
    let read := session.learn (rowsOf board (scoring.reads board.shifts shift executor))
    if scoring.conflicted board.shifts shift executor then (board, .checking read shift rest)
    else (board, .locking read shift executor)
  | .checking session shift [] => (board, session.giveUp shift)
  | .locking session shift executor =>
    match board.shifts.find? shift.id with
    | none => (board, .reloading session.expire shift.id)
    | some row =>
      if row.userId ≠ shift.userId then (board, .reloading session.expire shift.id)
      else (board, .assigning session ⟨row, executor, overruled session.run row.id board.journal⟩)
  | .reloading session id =>
    match board.shifts.find? id with
    | none => (board, .finished)
    | some row => (board, { session with loaded := [row] }.giveUp row)
  | .assigning session made => (board, .committing session (some made))
  | .committing session assignment =>
    (board.flush session.run (session.writes assignment) (session.audits assignment),
      match assignment with
      | some _ => session.expire.proceed
      | none => .finished)
  | .reading shiftId owner =>
    match board.shifts.find? shiftId with
    | none => (board, .finished)
    | some row => if row.userId = owner then (board, .finished) else (board, .writing row owner)
  | .writing row owner => (board.assignByHand row.id owner, .finished)
  | .idle => (board, .idle)
  | .finished => (board, .finished)

end

inductive AutoCall where
  | autoAssignExecutorsToShifts (shiftIds : List ShiftId) (forceReassign : Bool)
  | reassignOnAbsence (executor : UserId) (now : Moment)
  | assignManually (shiftId : ShiftId) (owner : Option UserId)

def AutoCall.start : AutoCall → AutoStage
  | .autoAssignExecutorsToShifts shiftIds forceReassign => .selecting shiftIds forceReassign
  | .reassignOnAbsence executor now => .selectingAbsent executor now
  | .assignManually shiftId owner => .reading shiftId owner

def AutoStage.free : AutoStage → Bool
  | .idle => true
  | .finished => true
  | _ => false

theorem AutoCall.start_unlocked (call : AutoCall) : call.start.locks = [] := by
  cases call <;> rfl

def autoProgram (scoring : Scoring) : Program Board AutoStage AutoCall LockKey where
  idle := .idle
  start := AutoCall.start
  free := AutoStage.free
  perform := performAuto scoring
  locks := AutoStage.locks
  idle_unlocked := rfl
  start_unlocked := AutoCall.start_unlocked

end InfrasafeBot.Shifts
