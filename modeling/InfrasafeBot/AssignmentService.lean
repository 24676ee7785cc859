import InfrasafeBot.WorkflowRunner

/-! The second writer of assignments, beside the runner: it assigns, reassigns and
cancels without a plan (`services/assignment_service.py`). -/

set_option autoImplicit false

namespace InfrasafeBot.AssignmentService

open Library RequestWorkflow WorkflowRunner

def getRequestByNumber (db : Database) (number : RequestNumber) : Option Request :=
  if number = "" then none else db.requests.find? number

def isInProgress (request : Request) : Bool := normalizeStatus (newStateFrom request) = .inProgress

def createAuditLog (db : Database) (number : RequestNumber) (user : UserId)
    (description : String) : Database :=
  { db with
    auditLogs := db.auditLogs ++ [{
      userId := some user
      requestNumber := number
      action := "request_assigned"
      details := .assignment s!"Заявка {number}: {description}" }] }

def commitAssignment (directory : Directory) (db : Database) (request : Request)
    (type : AssignmentType) (group : Option String) (executor : Option UserId)
    (assignedBy : UserId) : Except String (RequestAssignment × Database) :=
  if (directory.users.find? assignedBy).isNone then
    .error "IntegrityError: request_assignments_created_by_fkey"
  else
    let make : Nat → RequestAssignment := fun id =>
      { id
        requestNumber := request.requestNumber
        assignmentType := type
        groupSpecialization := group
        executorId := executor
        status := .active
        createdBy := assignedBy }
    let assignments := cancelActive request.requestNumber db.assignments
    .ok (make assignments.nextKey,
      { db with
        requests := db.requests.put request
        assignments := assignments.insert make fun _ => rfl })

def assignToGroup (directory : Directory) (db : Database) (number : RequestNumber)
    (specialization : String) (assignedBy : UserId) :
    Except String (RequestAssignment × Database) :=
  match getRequestByNumber db number with
  | none => .error s!"Заявка с номером {number} не найдена"
  | some request =>
    if request.executorId.isSome && isInProgress request then
      let executor := (PyValue.ofOption PyValue.int request.executorId).toText
      .error (s!"Заявка {number} уже в работе у исполнителя {executor}: групповое " ++
        "назначение оставило бы её в работе без исполнителя. Сначала переназначьте её.")
    else do
      let (assignment, db) ← commitAssignment directory db
        { request with
          assignmentType := some .group
          assignedGroup := some specialization
          executorId := none
          assignedAt := some directory.clock
          assignedBy := some assignedBy }
        .group (some specialization) none assignedBy
      .ok (assignment, createAuditLog db number assignedBy s!"Назначена группе: {specialization}")

def fullName (user : User) : String := pyStrip (user.firstName.getD "" ++ " " ++ user.lastName.getD "")

def assignToExecutor (directory : Directory) (db : Database) (number : RequestNumber)
    (executor assignedBy : UserId) : Except String (RequestAssignment × Database) :=
  match getRequestByNumber db number with
  | none => .error s!"Заявка с номером {number} не найдена"
  | some request =>
    match directory.users.find? executor with
    | none => .error s!"Исполнитель с ID {executor} не найден"
    | some user => do
        let (assignment, db) ← commitAssignment directory db
          { request with
            assignmentType := some .individual
            executorId := some executor
            assignedAt := some directory.clock
            assignedBy := some assignedBy }
          .individual none (some executor) assignedBy
        .ok (assignment, createAuditLog db number assignedBy s!"Назначена исполнителю: {fullName user}")

/-- `apply_executor_reassign`: the executor of the active assignment, if that is an
individual one, and always of the request. -/
def applyExecutorReassign (db : Database) (request : Request)
    (active : Option RequestAssignment) (newExecutor : UserId) : Database :=
  let assignments :=
    match active with
    | none => db.assignments
    | some assignment =>
      if assignment.assignmentType = .individual then
        db.assignments.update (fun row => row.id = assignment.id)
          (fun row => { row with executorId := some newExecutor }) fun _ => rfl
      else db.assignments
  { db with
    requests := db.requests.put { request with executorId := some newExecutor }
    assignments }

def reassignExecutor (db : Database) (number : RequestNumber) (newExecutor : UserId) : Bool × Database :=
  match getRequestByNumber db number with
  | none => (false, db)
  | some request =>
    let active := db.assignments.rows.find? (RequestAssignment.isActiveOf number)
    (true, applyExecutorReassign db request active newExecutor)

def releaseRequest (db : Database) (number : RequestNumber) : Database :=
  match getRequestByNumber db number with
  | none => db
  | some request =>
    { db with
      requests := db.requests.put
        { request with
          assignmentType := none
          assignedGroup := none
          executorId := none
          assignedAt := none
          assignedBy := none } }

theorem cancelled_id (row : RequestAssignment) :
    RequestAssignment.id { row with status := .cancelled } = row.id := rfl

def markCancelled (db : Database) (assignmentId : Nat) : Database :=
  { db with
    assignments := db.assignments.update (fun row => row.id = assignmentId)
      (fun row => { row with status := .cancelled }) cancelled_id }

def cancelAssignment (db : Database) (assignmentId : Nat) (cancelledBy : UserId) :
    Except String (Bool × Database) :=
  match db.assignments.find? assignmentId with
  | none => .error s!"Назначение с ID {assignmentId} не найдено"
  | some assignment =>
    let released := releaseRequest (markCancelled db assignmentId) assignment.requestNumber
    .ok (true, createAuditLog released assignment.requestNumber cancelledBy "Назначение отменено")

inductive Operation where
  | assignToGroup (number : RequestNumber) (specialization : String) (assignedBy : UserId)
  | assignToExecutor (number : RequestNumber) (executor assignedBy : UserId)
  | cancelAssignment (assignmentId : Nat) (cancelledBy : UserId)
  | reassignExecutor (number : RequestNumber) (newExecutor : UserId)

def perform (directory : Directory) (db : Database) : Operation → Except String Database
  | .assignToGroup number specialization assignedBy =>
    (assignToGroup directory db number specialization assignedBy).map (·.2)
  | .assignToExecutor number executor assignedBy =>
    (assignToExecutor directory db number executor assignedBy).map (·.2)
  | .cancelAssignment assignmentId cancelledBy => (cancelAssignment db assignmentId cancelledBy).map (·.2)
  | .reassignExecutor number newExecutor => .ok (reassignExecutor db number newExecutor).2

end InfrasafeBot.AssignmentService
