import InfrasafeBot.RequestWorkflow.Projections
import InfrasafeBot.Specializations

/-! Authorisation per action: the capabilities of system actors and the guards on
a snapshot (`utils/request_workflow/guards.py`). -/

set_option autoImplicit false

namespace InfrasafeBot.RequestWorkflow

open Specializations

def roleApplicant : String := "applicant"
def roleExecutor : String := "executor"
def roleManager : String := "manager"

def systemCapabilities (systemActor : String) : List Action :=
  if systemActor = "dispatcher" then [.systemDispatchAssign, .assignGroup]
  else if systemActor = "auto_manager" then [.systemAutoPromote, .systemDispatchAssign, .assignGroup]
  else []

def isManager (actor : ActorContext) : Bool := actor.kind = .user && actor.roles.contains roleManager

/-- The executor of the active assignment or, where it has none (or the falsy id
0), the one of the request. -/
def assignedExecutor (snap : WorkflowSnapshot) : Option UserId :=
  match snap.activeAssignmentExecutorId with
  | some executor => if executor = 0 then snap.request.executorId else some executor
  | none => snap.request.executorId

def isAssignedExecutor (snap : WorkflowSnapshot) (actor : ActorContext) : Bool :=
  if actor.kind ≠ .user || !actor.roles.contains roleExecutor then false
  else
    let assigned := assignedExecutor snap
    assigned ≠ none && assigned = actor.userId

def executorCanWork (snap : WorkflowSnapshot) (actor : ActorContext) : Bool :=
  isAssignedExecutor snap actor && snap.actorHasActiveShift

def executorCanClaim (snap : WorkflowSnapshot) (actor : ActorContext) : Bool :=
  if actor.kind ≠ .user || !actor.roles.contains roleExecutor then false
  else if !snap.actorHasActiveShift then false
  else if !snap.activeAssignmentUnclaimed then false
  else
    let required := parseSpecializationValues snap.activeAssignmentGroup .need false
    if required.isEmpty then false
    else matchesRequiredSpecs actor.specializations required

def systemCanPromote (snap : WorkflowSnapshot) (_actor : ActorContext) : Bool :=
  snap.activeAssignmentUnclaimed && snap.request.executorId.isNone

def isOwner (snap : WorkflowSnapshot) (actor : ActorContext) : Bool :=
  actor.kind = .user && some snap.request.userId = actor.userId

def canAccept (snap : WorkflowSnapshot) (actor : ActorContext) : Bool :=
  if snap.request.acceptanceMode = .manager then false
  else if actor.kind ≠ .user then false
  else if isOwner snap actor then true
  else
    match snap.request.apartmentId with
    | none => false
    | some apartment => actor.approvedApartmentIds.contains apartment

def ownerCanReturn (snap : WorkflowSnapshot) (actor : ActorContext) : Bool :=
  if snap.request.acceptanceMode = .manager then false
  else isOwner snap actor

def canCancel (snap : WorkflowSnapshot) (actor : ActorContext) : Bool :=
  if isManager actor then true
  else isOwner snap actor && actor.roles.contains roleApplicant && normalizeStatus snap.request = .new

end InfrasafeBot.RequestWorkflow
