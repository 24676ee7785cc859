import InfrasafeBot.AssignmentService

/-! The staff, their shifts, the transfers of shifts and the requests that follow a
shift, with the columns that the shift services use. -/

set_option autoImplicit false

namespace InfrasafeBot.Shifts

open Library RequestWorkflow

abbrev ShiftId := Nat
abbrev TransferId := Nat

inductive AccountStatus where
  | pending
  | approved
  | blocked
  | deleted
  | other (text : String)
  deriving DecidableEq

structure User where
  id : UserId
  roles : Option String
  activeRole : Option String
  status : AccountStatus
  specialization : Option String
  deletedAt : Option Moment
  deletedBy : Option UserId
  deletionReason : Option String

inductive ShiftStatus where
  | planned
  | active
  | paused
  | completed
  | cancelled
  | other (text : String)
  deriving DecidableEq

structure Shift where
  id : ShiftId
  userId : Option UserId
  startTime : Moment
  endTime : Option Moment
  status : ShiftStatus
  plannedStartTime : Option Moment
  plannedEndTime : Option Moment
  specializationFocus : Json

def Shift.transferable (shift : Shift) : Bool := shift.status = .planned || shift.status = .active

inductive AttachmentStatus where
  | completed
  | cancelled
  | other (text : String)
  deriving DecidableEq

structure ShiftAssignment where
  shiftId : ShiftId
  requestNumber : RequestNumber
  status : AttachmentStatus

inductive TransferStatus where
  | pending
  | assigned
  | accepted
  | rejected
  | cancelled
  | completed
  | expired
  deriving DecidableEq

structure ShiftTransfer where
  id : TransferId
  shiftId : ShiftId
  fromExecutorId : UserId
  toExecutorId : Option UserId
  assignedBy : Option UserId
  status : TransferStatus
  reason : String
  autoAssigned : Bool
  createdAt : Moment
  assignedAt : Option Moment
  respondedAt : Option Moment
  completedAt : Option Moment
  deriving DecidableEq

/-- The index `uq_request_assignments_active`: one active assignment for each request. -/
def ActiveUnique (assignments : Table RequestAssignment.id) : Prop :=
  ∀ left ∈ assignments.rows, ∀ right ∈ assignments.rows,
    left.status = .active → right.status = .active → left.requestNumber = right.requestNumber → left = right

structure Store where
  users : Table User.id
  shifts : Table Shift.id
  shiftAssignments : List ShiftAssignment
  transfers : Table ShiftTransfer.id
  database : Database
  activeUnique : ActiveUnique database.assignments

def roleParts (text : String) : List String :=
  (splitChars ',' text.toList).map fun part => String.ofList (stripChars part)

/-- `_has_role`, the parser of the bot. -/
def hasRole (user : User) (role : String) : Bool :=
  match user.roles with
  | none => false
  | some raw =>
    if raw = "" then false
    else
      let text := pyStrip raw
      if text.toList.head? = some '[' then
        match Json.loads text with
        | some (.array items) => (items.map fun item => pyStrip item.elementText).contains role
        | _ => (roleParts text).contains role
      else (roleParts text).contains role

def legacyPrimaryRole (user : User) : Option String :=
  match user.activeRole with
  | some role =>
    if role = "" then (WorkflowRunner.parseRolesSafe user.roles).head? else some role
  | none => (WorkflowRunner.parseRolesSafe user.roles).head?

def parseUserRoles (user : User) : List String :=
  let roles := WorkflowRunner.parseRolesSafe user.roles
  if roles.isEmpty then
    match legacyPrimaryRole user with
    | some role => if role = "" then [] else [role]
    | none => []
  else roles

def focusTokens : Json → List String
  | .null => []
  | .array items => (items.map fun item => pyStrip item.elementText).filter (· ≠ "")
  | .string text => Specializations.rawSpecializationTokens (some text)
  | value => [pyStrip value.elementText].filter (· ≠ "")

def parseShiftSpecs (focus : Json) : List String :=
  (focusTokens focus).flatMap fun token =>
    if pyLower (pyStrip token) = Specializations.universalSpecialization then
      [Specializations.universalSpecialization]
    else Specializations.normalizeSpecialization token .need

/-- `has_required_specs`: a requirement that names nothing known fits nobody. -/
def hasRequiredSpecs (user : User) (shift : Shift) : Bool :=
  let required := parseShiftSpecs shift.specializationFocus
  if required.isEmpty then (focusTokens shift.specializationFocus).isEmpty
  else
    Specializations.matchesRequiredSpecs
      (Specializations.parseSpecializations user.specialization) required

theorem reassigned_id (executor : UserId) (row : RequestAssignment) :
    RequestAssignment.id { row with executorId := some executor } = row.id := rfl

theorem ActiveUnique.update {assignments : Table RequestAssignment.id}
    (unique : ActiveUnique assignments) (condition : RequestAssignment → Bool)
    (executor : UserId) :
    ActiveUnique (assignments.update condition
      (fun row => { row with executorId := some executor }) (reassigned_id executor)) := by
  intro left leftListed right rightListed leftActive rightActive same
  obtain ⟨first, firstListed, rfl⟩ := (Table.mem_update _).mp leftListed
  obtain ⟨second, secondListed, rfl⟩ := (Table.mem_update _).mp rightListed
  have kept : ∀ row : RequestAssignment,
      (if condition row then { row with executorId := some executor } else row).status = row.status ∧
        (if condition row then { row with executorId := some executor } else row).requestNumber =
          row.requestNumber := by
    intro row
    split
    · exact ⟨rfl, rfl⟩
    · exact ⟨rfl, rfl⟩
  rw [(kept first).1] at leftActive
  rw [(kept second).1] at rightActive
  rw [(kept first).2, (kept second).2] at same
  rw [unique first firstListed second secondListed leftActive rightActive same]

namespace Store

theorem applyExecutorReassign_unique {database : Database} (request : Request)
    (active : Option RequestAssignment) (executor : UserId)
    (unique : ActiveUnique database.assignments) :
    ActiveUnique
      (AssignmentService.applyExecutorReassign database request active executor).assignments := by
  unfold AssignmentService.applyExecutorReassign
  dsimp only
  cases active with
  | none => exact unique
  | some assignment =>
    dsimp only
    split
    · exact unique.update _ executor
    · exact unique

def applyExecutorReassign (store : Store) (request : Request)
    (active : Option RequestAssignment) (executor : UserId) : Store :=
  { store with
    database := AssignmentService.applyExecutorReassign store.database request active executor
    activeUnique := applyExecutorReassign_unique request active executor store.activeUnique }

def activeAssignments (store : Store) (number : RequestNumber) : List RequestAssignment :=
  store.database.assignments.rows.filter (RequestAssignment.isActiveOf number)

/-- `AssignmentService.reassign_executor`, which takes the first active assignment. -/
def reassignExecutor (store : Store) (number : RequestNumber) (executor : UserId) : Bool × Store :=
  match AssignmentService.getRequestByNumber store.database number with
  | none => (false, store)
  | some request =>
    (true, store.applyExecutorReassign request (store.activeAssignments number).head? executor)

end Store

inductive Raised where
  | multipleResultsFound

def scalarOneOrNone {Row : Type} : List Row → Except Raised (Option Row)
  | [] => .ok none
  | [row] => .ok (some row)
  | _ :: _ :: _ => .error .multipleResultsFound

/-- `AsyncAssignmentService.reassign_executor`, which wants one active assignment at most. -/
def Store.reassignExecutorAsync (store : Store) (number : RequestNumber) (executor : UserId) :
    Except Raised (Bool × Store) :=
  match AssignmentService.getRequestByNumber store.database number with
  | none => .ok (false, store)
  | some request => do
      let active ← scalarOneOrNone (store.activeAssignments number)
      .ok (true, store.applyExecutorReassign request active executor)

end InfrasafeBot.Shifts
