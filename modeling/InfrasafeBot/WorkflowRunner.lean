import InfrasafeBot.RequestWorkflow.Planner
import InfrasafeBot.WebhookSender

/-! The only write path of workflow transitions: a command reads its actor and a
snapshot under the row lock, is decided, and is applied in one transaction
(`services/workflow_runner.py`). The synchronous and the asynchronous runner are
mirrors of each other, so one definition stands for both. -/

set_option autoImplicit false

namespace InfrasafeBot.WorkflowRunner

open Library RequestWorkflow WebhookSender

structure User where
  id : UserId
  telegramId : Int
  roles : Option String
  activeRole : Option String
  specialization : Option String
  firstName : Option String
  lastName : Option String

structure UserApartment where
  userId : UserId
  apartmentId : ApartmentId
  status : String

structure Shift where
  userId : UserId
  status : String
  startTime : Moment
  endTime : Option Moment

/-- The tables a command only reads, and the clock, at the moment it runs. -/
structure Directory where
  users : Table User.id
  userApartments : List UserApartment
  shifts : List Shift
  clock : Moment

inductive Command where
  | action (command : ActionCommand)
  | status (intent : LegacyStatusIntent)

/-- One call of `run_command_sync` or `run_command_async`. -/
structure Call where
  requestNumber : RequestNumber
  principal : PrincipalRef
  command : Command
  now : Moment
  directory : Directory

structure CommandOutcome where
  requestNumber : RequestNumber
  noOp : Bool
  oldState : RequestState
  newState : RequestState
  oldStatus : RequestStatus
  newStatus : RequestStatus
  newCanonStatus : RequestStatus
  publicStatus : RequestStatus
  postCommitIntents : List EventIntent

/-- `_decide` -/
def decideTransition (snap : WorkflowSnapshot) (command : ActionCommand)
    (actor : ActorContext) (principal : PrincipalRef) (now : Moment) :
    Except WorkflowError TransitionResult :=
  match checkRepeat snap command actor with
  | .error error => .error error
  | .ok (some result) => .ok result
  | .ok none => planTransition snap command actor principal now

def parseRolesSafe (roles : Option String) : List String :=
  match roles with
  | none => []
  | some text =>
    if text = "" then []
    else
      match Json.loads text with
      | some parsed => parsed.stringItems?.getD []
      | none => splitStripped ',' text

def getUserRoles (user : User) : List String :=
  let roles := parseRolesSafe user.roles
  if roles.isEmpty then [roleApplicant] else roles

def getActiveRole (user : User) : String :=
  match user.activeRole with
  | some role => if role = "" then (getUserRoles user).headD roleApplicant else role
  | none => (getUserRoles user).headD roleApplicant

def approvedApartmentIds (directory : Directory) (user : UserId) : List ApartmentId :=
  (directory.userApartments.filter fun row =>
    row.userId = user && row.status = "approved").map (·.apartmentId)

def loadActorContext (directory : Directory) (principal : PrincipalRef) :
    Except WorkflowError ActorContext :=
  match principal.kind with
  | .system => .ok ⟨.system, none, principal.systemActor, [], none, [], []⟩
  | .user =>
    match principal.userId.bind directory.users.find? with
    | none =>
      let user := (PyValue.ofOption PyValue.int principal.userId).toText
      .error (.notAuthorized s!"unknown user {user}")
    | some user =>
      .ok {
        kind := .user
        userId := some user.id
        systemActor := none
        roles := getUserRoles user
        activeRole := some (getActiveRole user)
        approvedApartmentIds := approvedApartmentIds directory user.id
        specializations := Specializations.parseSpecializations user.specialization
      }

def isOnShiftNow (directory : Directory) (user : Option UserId) : Bool :=
  directory.shifts.any fun shift =>
    some shift.userId = user && shift.status = "active" &&
      shift.startTime ≤ directory.clock &&
      match shift.endTime with
      | none => true
      | some ending => directory.clock ≤ ending

def newStateFrom (row : Request) : RequestState :=
  { requestNumber := row.requestNumber
    userId := row.userId
    status := row.status
    managerConfirmed := row.managerConfirmed
    isReturned := row.isReturned
    apartmentId := row.apartmentId
    executorId := row.executorId
    acceptanceMode := row.acceptanceMode }

def buildSnapshot (db : Database) (directory : Directory) (row : Request)
    (actor : ActorContext) : WorkflowSnapshot :=
  let active := db.assignments.rows.find? (RequestAssignment.isActiveOf row.requestNumber)
  let executor := active.bind (·.executorId)
  let type := active.map (·.assignmentType)
  { request := newStateFrom row
    hasRating := db.ratings.rows.any fun rating => rating.requestNumber = row.requestNumber
    activeAssignmentExecutorId := executor
    actorHasActiveShift := actor.kind = .user && actor.roles.contains roleExecutor &&
      isOnShiftNow directory actor.userId
    activeAssignmentType := type
    activeAssignmentGroup := active.bind (·.groupSpecialization)
    activeAssignmentUnclaimed := type = some .group && executor.isNone }

def opValue (op : Op) (value : PyValue) (actor : ActorContext) (now : Moment)
    (current : PyValue) : PyValue :=
  match op with
  | .set => value
  | .clear => .none
  | .setActor => .ofOption .int actor.userId
  | .setNow => .datetime now
  | .append => .str (current.asText.getD "" ++ value.toText)

def applyPatch (actor : ActorContext) (now : Moment) (row : Request) (patch : List PatchEntry) : Request :=
  patch.foldl (fun row entry =>
    row.setattr entry.column
      (opValue entry.op entry.value actor now (row.getattr entry.column))) row

def bumpVersion (oldStatus : RequestStatus) (row : Request) : Request :=
  if row.status ≠ oldStatus then { row with statusVersion := row.statusVersion + 1 } else row

def getSystemUserId (deployment : Deployment) (directory : Directory) : Except WorkflowError UserId :=
  match directory.users.rows.find? fun user =>
      user.telegramId = deployment.systemUserTelegramId with
  | some user => .ok user.id
  | none => .error (.other
      ("System user not found — apply migration 009_seed_infrasafe_system_user " ++
        "(users.telegram_id == settings.INFRASAFE_SYSTEM_USER_TELEGRAM_ID)"))

def cancelActive (number : RequestNumber) (assignments : Table RequestAssignment.id) :
    Table RequestAssignment.id :=
  assignments.update (RequestAssignment.isActiveOf number)
    (fun row => { row with status := .cancelled }) fun _ => rfl

def isUnclaimedOf (number : RequestNumber) (row : RequestAssignment) : Bool :=
  row.isActiveOf number && row.assignmentType = .group && row.executorId.isNone

def takeUnclaimed (number : RequestNumber) (executor : Option UserId)
    (assignments : Table RequestAssignment.id) : Table RequestAssignment.id :=
  assignments.update (isUnclaimedOf number)
    (fun row => { row with assignmentType := .individual, executorId := executor })
    fun _ => rfl

/-- The conversion of the unclaimed group assignment, with its rowcount guard. -/
def takeGroupAssignment (operation : String) (db : Database) (number : RequestNumber)
    (executor : Option UserId) : Except WorkflowError Database :=
  let updated := db.assignments.rowcount (isUnclaimedOf number)
  if updated ≠ 1 then .error (.other s!"{operation}: ожидалась 1 строка, обновлено {updated}")
  else .ok { db with assignments := takeUnclaimed number executor db.assignments }

def assignmentCreator (deployment : Deployment) (directory : Directory)
    (actor : ActorContext) : Except WorkflowError UserId :=
  match actor.kind with
  | .user => .ok (actor.userId.getD 0)
  | .system => getSystemUserId deployment directory

def applyDomainOp (deployment : Deployment) (directory : Directory) (row : Request)
    (actor : ActorContext) (db : Database) : DomainOp → Except WorkflowError Database
  | .createRating rating =>
    .ok { db with
      ratings := db.ratings.insert
        (fun id => ⟨id, row.requestNumber, actor.userId, rating.asInteger⟩) fun _ => rfl }
  | .cancelActiveAssignments => .ok { db with assignments := cancelActive row.requestNumber db.assignments }
  | .claimGroupAssignment => takeGroupAssignment "claim_group_assignment" db row.requestNumber actor.userId
  | .promoteGroupAssignment executor =>
    takeGroupAssignment "promote_group_assignment" db row.requestNumber executor.asInteger
  | .createAssignment data => do
      let createdBy ← assignmentCreator deployment directory actor
      .ok { db with
        assignments := (cancelActive row.requestNumber db.assignments).insert
          (fun id =>
            { id
              requestNumber := row.requestNumber
              assignmentType := if (data.get "group").truthy then .group else .individual
              groupSpecialization := (data.get "group").asText
              executorId := (data.get "executor_id").asInteger
              status := .active
              createdBy }) fun _ => rfl }

def buildAudit (row : Request) (actor : ActorContext) (details : AuditDetails) : AuditLog :=
  { userId := if actor.kind = .user then actor.userId else none
    requestNumber := row.requestNumber
    action := "request_status_changed"
    details }

def applyEvent (deployment : Deployment) (directory : Directory) (row : Request)
    (actor : ActorContext) (db : Database) : EventIntent → Except WorkflowError Database
  | .audit action oldCanon newCanon oldRawStatus principalKind principalId source payload =>
    .ok { db with
      auditLogs := db.auditLogs ++ [buildAudit row actor
        (.statusChanged action oldCanon newCanon oldRawStatus row.status principalKind
          principalId source payload)] }
  | .webhook number oldStatus newStatus =>
    match emitRequestStatusChanged deployment db.outbox directory.clock
        ⟨number, oldStatus, newStatus⟩ (some ⟨some row.statusVersion, none⟩) with
    | .ok outbox => .ok { db with outbox }
    | .error message => .error (.other message)
  | .realtime _ _ | .notify _ _ => .ok db

/-- The changed row is flushed if the executor it newly names exists. -/
def flushRequest (directory : Directory) (previous row : Request) (db : Database) :
    Except WorkflowError Database :=
  match row.executorId with
  | some executor =>
    if previous.executorId = some executor || (directory.users.find? executor).isSome then
      .ok { db with requests := db.requests.put row }
    else .error (.other "IntegrityError: requests_executor_id_fkey")
  | none => .ok { db with requests := db.requests.put row }

def applyTransition (deployment : Deployment) (directory : Directory) (db : Database)
    (row : Request) (result : TransitionResult) (actor : ActorContext) (now : Moment) :
    Except WorkflowError (Request × Database) :=
  if result.noOp then .ok (row, db)
  else do
    let changed := bumpVersion row.status (applyPatch actor now row result.patch)
    let db ← result.domainOps.foldlM (applyDomainOp deployment directory changed actor) db
    let db ← result.events.foldlM (applyEvent deployment directory changed actor) db
    let db ← flushRequest directory row changed db
    .ok (changed, db)

def splitIntents (result : TransitionResult) : List EventIntent :=
  result.events.filter fun
    | .realtime _ _ | .notify _ _ => true
    | _ => false

def buildOutcome (row : Request) (snap : WorkflowSnapshot) (result : TransitionResult) : CommandOutcome :=
  let newState := if result.noOp then snap.request else newStateFrom row
  { requestNumber := snap.request.requestNumber
    noOp := result.noOp
    oldState := snap.request
    newState
    oldStatus := snap.request.status
    newStatus := if result.noOp then snap.request.status else row.status
    newCanonStatus := result.newCanonStatus
    publicStatus := projectPublicStatus newState
    postCommitIntents := splitIntents result }

structure Reading where
  row : Request
  actor : ActorContext
  snap : WorkflowSnapshot
  command : ActionCommand

def actionOf (snap : WorkflowSnapshot) (actor : ActorContext) : Command → Except WorkflowError ActionCommand
  | .action command => .ok command
  | .status intent => resolveCommand snap actor intent

def readUnderLock (db : Database) (call : Call) : Except WorkflowError Reading :=
  match db.requests.find? call.requestNumber with
  | none => .error (.requestNotFound call.requestNumber)
  | some row => do
      let actor ← loadActorContext call.directory call.principal
      let snap := buildSnapshot db call.directory row actor
      let command ← actionOf snap actor call.command
      .ok ⟨row, actor, snap, command⟩

def runCommand (deployment : Deployment) (db : Database) (call : Call) :
    Except WorkflowError (CommandOutcome × Database) := do
  let reading ← readUnderLock db call
  let result ← decideTransition reading.snap reading.command reading.actor call.principal
    call.now
  let (row, db) ← applyTransition deployment call.directory db reading.row result
    reading.actor call.now
  .ok (buildOutcome row reading.snap result, db)

/-- The database after a call: a command that raises is rolled back. -/
def commit (deployment : Deployment) (db : Database) (call : Call) : Database :=
  match runCommand deployment db call with
  | .ok (_, committed) => committed
  | .error _ => db

end InfrasafeBot.WorkflowRunner
