import Mathlib.Data.List.Dedup
import InfrasafeBot.Shifts.Handover

/-! The manager's writes of shifts in the web (`api/shifts/router/shift_crud.py`,
`api/shifts/service/lifecycle.py`, `api/shifts/service/templates.py`), one statement after
the other. The advisory lock of an executor's shifts is held to the end of a transaction;
a row that a flush writes is waited for. -/

set_option autoImplicit false

namespace InfrasafeBot.Shifts

open Library RequestWorkflow

/-- A field of a body that may be left out or be given as null. -/
inductive Given (Value : Type) where
  | unset
  | null
  | value (given : Value)
  deriving DecidableEq

def Given.isSet {Value : Type} : Given Value → Bool
  | .unset => false
  | _ => true

def Given.orStored {Value : Type} (field : Given Value) (stored : Option Value) : Option Value :=
  match field with
  | .unset => stored
  | .null => none
  | .value given => some given

structure CreateShiftBody where
  userId : UserId
  startTime : Moment
  endTime : Moment
  specializationFocus : List String
  timeOrder : startTime < endTime

/-- Of the other columns only whether one of them is given. -/
structure UpdateShiftBody where
  status : Given ShiftStatus
  userId : Option UserId
  startTime : Given Moment
  endTime : Given Moment
  otherContent : Bool

def UpdateShiftBody.setsTimes (body : UpdateShiftBody) : Bool := body.startTime.isSet || body.endTime.isSet

inductive BookingError where
  | http (statusCode : Nat) (detail : String)
  | notNullViolation
  | typeError

def overlapConflict : BookingError :=
  .http 409 "User already has an active shift overlapping with the requested time range"

def ShiftStatus.text : ShiftStatus → String
  | .planned => "planned"
  | .active => "active"
  | .paused => "paused"
  | .completed => "completed"
  | .cancelled => "cancelled"
  | .other text => text

def validShiftTransitions : ShiftStatus → List ShiftStatus
  | .planned => [.active, .cancelled]
  | .active => [.paused, .cancelled]
  | .paused => [.active, .cancelled]
  | _ => []

def editableStatus (status : ShiftStatus) : Bool :=
  status = .planned || status = .active || status = .paused

def refusesStatus (loaded : Shift) : Given ShiftStatus → Bool
  | .value status => !(validShiftTransitions loaded.status).contains status
  | _ => false

def updateWindow (loaded : Shift) (body : UpdateShiftBody) :
    Except BookingError (Option (Moment × Moment)) :=
  match body.startTime.orStored (some loaded.startTime), body.endTime.orStored loaded.endTime with
  | some startTime, some ending =>
    if ending ≤ startTime then .error (.http 422 "end_time must be after start_time")
    else .ok (if body.setsTimes then some (startTime, ending) else none)
  | _, _ => .ok none

def validateUpdate (loaded : Shift) (body : UpdateShiftBody) :
    Except BookingError (Option (Moment × Moment)) :=
  if refusesStatus loaded body.status then
    let wanted := (body.status.orStored none).elim "" ShiftStatus.text
    .error (.http 409 s!"Transition '{loaded.status.text}' → '{wanted}' is not allowed")
  else if body.userId.isSome && body.userId ≠ loaded.userId then
    .error (.http 422 "Смена исполнителя только через POST /shifts/\x7bid\x7d/reassign")
  else if (body.setsTimes || body.otherContent) && !editableStatus loaded.status then
    .error (.http 409 s!"Cannot edit a '{loaded.status.text}' shift")
  else updateWindow loaded body

def UpdateShiftBody.violatesNotNull (body : UpdateShiftBody) : Bool :=
  body.status = .null || body.startTime = .null

def patchShift (loaded : Shift) (body : UpdateShiftBody) (stored : Shift) : Shift :=
  { stored with
    status := assignedColumn ((body.status.orStored (some loaded.status)).getD loaded.status)
      loaded.status stored.status
    startTime :=
      assignedColumn ((body.startTime.orStored (some loaded.startTime)).getD loaded.startTime)
        loaded.startTime stored.startTime
    endTime := assignedColumn (body.endTime.orStored loaded.endTime) loaded.endTime stored.endTime
    plannedStartTime :=
      if body.startTime.isSet then
        assignedColumn (body.startTime.orStored none) loaded.plannedStartTime
          stored.plannedStartTime
      else stored.plannedStartTime
    plannedEndTime :=
      if body.endTime.isSet then
        assignedColumn (body.endTime.orStored none) loaded.plannedEndTime stored.plannedEndTime
      else stored.plannedEndTime }

theorem patchShift_id (loaded : Shift) (body : UpdateShiftBody) (stored : Shift) :
    (patchShift loaded body stored).id = stored.id := rfl

def newShift (executor : UserId) (startTime ending : Moment) (status : ShiftStatus)
    (focus : Json) (id : ShiftId) : Shift :=
  ⟨id, some executor, startTime, some ending, status, some startTime, some ending, focus⟩

theorem newShift_id (executor : UserId) (startTime ending : Moment) (status : ShiftStatus)
    (focus : Json) (id : ShiftId) : (newShift executor startTime ending status focus id).id = id :=
  rfl

namespace Roster

variable (roster : Roster)

def addShift (executor : UserId) (startTime ending : Moment) (status : ShiftStatus)
    (focus : Json) : Roster :=
  { roster with
    shifts := roster.shifts.insert (newShift executor startTime ending status focus)
      (newShift_id executor startTime ending status focus) }

def applyUpdate (loaded : Shift) (body : UpdateShiftBody) : Roster :=
  { roster with
    shifts := roster.shifts.update (fun row => row.id = loaded.id) (patchShift loaded body)
      (patchShift_id loaded body) }

def addBatch (startTime ending : Moment) (focus : Json) (users : List UserId) : Roster :=
  users.foldl (fun roster user => roster.addShift user startTime ending .planned focus) roster

end Roster

structure TemplateWindow where
  startTime : Moment
  endTime : Moment
  focus : Json

inductive BookingStage where
  | idle
  | creating (body : CreateShiftBody)
  | lockingNew (body : CreateShiftBody)
  | checkingNew (body : CreateShiftBody)
  | inserting (body : CreateShiftBody)
  | updating (shiftId : ShiftId) (body : UpdateShiftBody)
  | lockingOwner (loaded : Shift) (body : UpdateShiftBody) (owner : UserId)
      (window : Moment × Moment)
  | checkingOwner (loaded : Shift) (body : UpdateShiftBody) (owner : UserId)
      (window : Moment × Moment)
  | flushing (loaded : Shift) (body : UpdateShiftBody) (checked : Option (UserId × Moment × Moment))
  | patching (loaded : Shift) (body : UpdateShiftBody) (checked : Option (UserId × Moment × Moment))
  | batching (window : TemplateWindow) (users : List UserId)
  | lockingBatch (window : TemplateWindow) (clear conflicts : List UserId) (user : UserId)
      (rest : List UserId)
  | checkingBatch (window : TemplateWindow) (clear conflicts : List UserId) (user : UserId)
      (rest : List UserId)
  | insertingBatch (window : TemplateWindow) (users : List UserId)
  | handover (stage : HandoverStage)
  | returning (error : Option BookingError)

def scopesOf (users : List UserId) : List LockKey := users.map .scope

def BookingStage.locks : BookingStage → List LockKey
  | .checkingNew body => [.scope body.userId]
  | .inserting body => [.scope body.userId]
  | .checkingOwner _ _ owner _ => [.scope owner]
  | .flushing _ _ checked => checked.toList.map fun window => .scope window.1
  | .patching loaded _ checked => .shift loaded.id :: checked.toList.map fun window => .scope window.1
  | .lockingBatch _ clear conflicts _ _ => scopesOf (clear ++ conflicts)
  | .checkingBatch _ clear conflicts user _ => scopesOf (user :: clear ++ conflicts)
  | .insertingBatch _ users => scopesOf users
  | .handover stage => stage.locks
  | _ => []

def nextOfBatch (window : TemplateWindow) (clear conflicts : List UserId) : List UserId → BookingStage
  | user :: rest => .lockingBatch window clear conflicts user rest
  | [] =>
    if conflicts = [] then .insertingBatch window clear
    else .returning (some (.http 409 s!"Overlapping shifts for users: {conflicts}"))

section

variable (roster : Roster)

def performBooking : BookingStage → Roster × BookingStage
  | .idle => (roster, .idle)
  | .creating body =>
    match roster.users.find? body.userId with
    | none => (roster, .returning (some (.http 404 "User not found")))
    | some user =>
      if !(parseUserRoles user).contains "executor" then
        (roster, .returning (some (.http 422 "User does not have executor role")))
      else (roster, .lockingNew body)
  | .lockingNew body => (roster, .checkingNew body)
  | .checkingNew body =>
    if roster.findOverlapping body.userId body.startTime body.endTime none then
      (roster, .returning (some overlapConflict))
    else (roster, .inserting body)
  | .inserting body =>
    (roster.addShift body.userId body.startTime body.endTime .active
        (.array (body.specializationFocus.map .string)),
      .returning none)
  | .updating shiftId body =>
    match roster.shifts.find? shiftId with
    | none => (roster, .returning (some (.http 404 "Shift not found")))
    | some loaded =>
      match validateUpdate loaded body, loaded.userId with
      | .error error, _ => (roster, .returning (some error))
      | .ok none, _ => (roster, .flushing loaded body none)
      | .ok (some _), none => (roster, .returning (some .typeError))
      | .ok (some window), some owner => (roster, .lockingOwner loaded body owner window)
  | .lockingOwner loaded body owner window => (roster, .checkingOwner loaded body owner window)
  | .checkingOwner loaded body owner window =>
    if roster.findOverlapping owner window.1 window.2 (some loaded.id) then
      (roster, .returning (some overlapConflict))
    else (roster, .flushing loaded body (some (owner, window)))
  | .flushing loaded body checked =>
    if body.violatesNotNull then (roster, .returning (some .notNullViolation))
    else (roster, .patching loaded body checked)
  | .patching loaded body _ => (roster.applyUpdate loaded body, .returning none)
  | .batching window users =>
    let missing := users.filter fun user => (roster.users.find? user).isNone
    if missing = [] then (roster, nextOfBatch window [] [] (users.dedup.insertionSort (· ≤ ·)))
    else (roster, .returning (some (.http 404 s!"Users not found: {missing}")))
  | .lockingBatch window clear conflicts user rest =>
    (roster, .checkingBatch window clear conflicts user rest)
  | .checkingBatch window clear conflicts user rest =>
    if roster.findOverlapping user window.startTime window.endTime none then
      (roster, nextOfBatch window clear (conflicts ++ [user]) rest)
    else (roster, nextOfBatch window (clear ++ [user]) conflicts rest)
  | .insertingBatch window users =>
    (roster.addBatch window.startTime window.endTime window.focus users, .returning none)
  | .handover stage =>
    let handed := performHandover roster stage
    (handed.1, .handover handed.2)
  | .returning error => (roster, .returning error)

end

inductive BookingCall where
  | createShift (body : CreateShiftBody)
  | updateShift (shiftId : ShiftId) (body : UpdateShiftBody)
  | createFromTemplate (window : TemplateWindow) (users : List UserId)
  | reassignShiftWeb (shiftId : ShiftId) (executor manager : UserId) (now : Moment)
  | acceptTransferWeb (transferId : TransferId) (executor : UserId) (now : Moment)

def BookingCall.start : BookingCall → BookingStage
  | .createShift body => .creating body
  | .updateShift shiftId body => .updating shiftId body
  | .createFromTemplate window users => .batching window users
  | .reassignShiftWeb shiftId executor manager now => .handover (.reassigning shiftId executor manager now)
  | .acceptTransferWeb transferId executor now => .handover (.accepting transferId executor now)

def BookingStage.free : BookingStage → Bool
  | .idle => true
  | .returning _ => true
  | .handover (.finished _) => true
  | _ => false

theorem BookingCall.start_unlocked (call : BookingCall) : call.start.locks = [] := by
  cases call <;> rfl

def bookingProgram : Program Roster BookingStage BookingCall LockKey where
  idle := .idle
  start := BookingCall.start
  free := BookingStage.free
  perform := performBooking
  locks := BookingStage.locks
  idle_unlocked := rfl
  start_unlocked := BookingCall.start_unlocked

end InfrasafeBot.Shifts
