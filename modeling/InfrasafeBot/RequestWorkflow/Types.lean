import Mathlib.Data.Int.Order.Basic
import InfrasafeBot.Library.PyValue

/-! Statuses, errors, actions and the frozen data of the request workflow
(`utils/request_workflow/types.py` and the constants it imports). -/

set_option autoImplicit false

namespace InfrasafeBot.RequestWorkflow

open Library

abbrev UserId := Int
abbrev ApartmentId := Int
abbrev RequestNumber := String
abbrev Moment := Int

/-- The order that is computed with, before those of the complete lattices. -/
instance (priority := high) momentOrder : Preorder Moment := Int.instLinearOrder.toPreorder

/-- The canonical statuses under their English names, and any other text the
status column or a client's target may hold. -/
inductive RequestStatus where
  | new
  | inProgress
  | purchase
  | clarification
  | executed
  | completed
  | returned
  | approved
  | cancelled
  | other (text : String)
  deriving DecidableEq

namespace RequestStatus

def text : RequestStatus → String
  | .new => "Новая"
  | .inProgress => "В работе"
  | .purchase => "Закуп"
  | .clarification => "Уточнение"
  | .executed => "Выполнена"
  | .completed => "Исполнено"
  | .returned => "Возвращена"
  | .approved => "Принято"
  | .cancelled => "Отменена"
  | .other text => text

def ofText (text : String) : RequestStatus :=
  if text = "Новая" then .new
  else if text = "В работе" then .inProgress
  else if text = "Закуп" then .purchase
  else if text = "Уточнение" then .clarification
  else if text = "Выполнена" then .executed
  else if text = "Исполнено" then .completed
  else if text = "Возвращена" then .returned
  else if text = "Принято" then .approved
  else if text = "Отменена" then .cancelled
  else .other text

end RequestStatus

def canonStatuses : List RequestStatus :=
  [.new, .inProgress, .purchase, .clarification, .executed, .completed, .returned, .approved, .cancelled]

def terminalStatuses : List RequestStatus := [.approved, .cancelled]

def isTerminal (status : RequestStatus) : Bool := terminalStatuses.contains status

@[simp] theorem RequestStatus.ofText_text {status : RequestStatus}
    (canonical : status ∈ canonStatuses) : ofText status.text = status := by
  simp only [canonStatuses, List.mem_cons, List.not_mem_nil, or_false] at canonical
  rcases canonical with rfl | rfl | rfl | rfl | rfl | rfl | rfl | rfl | rfl <;> decide

inductive WorkflowError where
  | invalidTransition (message : String)
  | notAuthorized (message : String)
  | payloadInvalid (message : String)
  | repeatRejected (message : String)
  | repeatConflict (message : String)
  | requestNotFound (requestNumber : RequestNumber)
  | other (message : String)

inductive Action where
  | systemDispatchAssign
  | managerAssign
  | assignGroup
  | executorPurchase
  | managerPurchase
  | managerPurchaseDone
  | clarifyRequest
  | clarifyResolved
  | executorResume
  | executorClaim
  | systemAutoPromote
  | executorComplete
  | managerComplete
  | managerConfirm
  | managerReturnToWork
  | applicantAccept
  | applicantReturn
  | managerForceAccept
  | cancel
  deriving DecidableEq

def Action.value : Action → String
  | .systemDispatchAssign => "system_dispatch_assign"
  | .managerAssign => "manager_assign"
  | .assignGroup => "assign_group"
  | .executorPurchase => "executor_purchase"
  | .managerPurchase => "manager_purchase"
  | .managerPurchaseDone => "manager_purchase_done"
  | .clarifyRequest => "clarify_request"
  | .clarifyResolved => "clarify_resolved"
  | .executorResume => "executor_resume"
  | .executorClaim => "executor_claim"
  | .systemAutoPromote => "system_auto_promote"
  | .executorComplete => "executor_complete"
  | .managerComplete => "manager_complete"
  | .managerConfirm => "manager_confirm"
  | .managerReturnToWork => "manager_return_to_work"
  | .applicantAccept => "applicant_accept"
  | .applicantReturn => "applicant_return"
  | .managerForceAccept => "manager_force_accept"
  | .cancel => "cancel"

inductive RepeatPolicy where
  | reject
  | noOpIfSame
  | repeatable

inductive Op where
  | set
  | clear
  | setActor
  | setNow
  | append
  deriving DecidableEq

inductive Column where
  | status
  | executorId
  | assignmentType
  | assignedGroup
  | assignedAt
  | assignedBy
  | requestedMaterials
  | managerMaterialsComment
  | completionReport
  | completionMedia
  | isReturned
  | notes
  | managerConfirmed
  | managerConfirmedBy
  | managerConfirmedAt
  | managerConfirmationNotes
  | managerReturnReason
  | completedAt
  | returnReason
  | returnMedia
  | returnedAt
  | returnedBy
  deriving DecidableEq

inductive ActorKind where
  | user
  | system
  deriving DecidableEq

/-- Who performs a command; `__post_init__` refuses a reference without the
identity of its kind. -/
structure PrincipalRef where
  kind : ActorKind
  userId : Option UserId
  source : String
  systemActor : Option String
  systemNamed : kind = .system → systemActor.getD "" ≠ ""
  userKnown : kind = .user → userId.isSome = true

theorem user_systemNamed : ActorKind.user = .system → (none : Option String).getD "" ≠ "" := nofun

theorem user_userKnown (userId : UserId) : ActorKind.user = .user → (some userId).isSome = true :=
  fun _ => rfl

structure ActorContext where
  kind : ActorKind
  userId : Option UserId
  systemActor : Option String
  roles : List String
  activeRole : Option String
  approvedApartmentIds : List ApartmentId
  specializations : List String

inductive AcceptanceMode where
  | resident
  | manager
  deriving DecidableEq

inductive AssignmentType where
  | group
  | individual
  deriving DecidableEq

def AssignmentType.text : AssignmentType → String
  | .group => "group"
  | .individual => "individual"

def AssignmentType.ofText (text : String) : Option AssignmentType :=
  if text = "group" then some .group
  else if text = "individual" then some .individual
  else none

structure RequestState where
  requestNumber : RequestNumber
  userId : UserId
  status : RequestStatus
  managerConfirmed : Bool
  isReturned : Bool
  apartmentId : Option ApartmentId
  executorId : Option UserId
  acceptanceMode : AcceptanceMode

structure WorkflowSnapshot where
  request : RequestState
  hasRating : Bool
  activeAssignmentExecutorId : Option UserId
  actorHasActiveShift : Bool
  activeAssignmentType : Option AssignmentType
  activeAssignmentGroup : Option String
  activeAssignmentUnclaimed : Bool

abbrev Payload := List (String × PyValue)

namespace Payload

def get (payload : Payload) (key : String) : PyValue := (payload.lookup key).getD .none

def has (payload : Payload) (key : String) : Bool := (payload.lookup key).isSome

end Payload

structure ActionCommand where
  commandId : String
  action : Action
  payload : Payload

structure LegacyStatusIntent where
  commandId : String
  targetStatus : RequestStatus
  payload : Payload

inductive DomainOp where
  | createRating (rating : PyValue)
  | cancelActiveAssignments
  | createAssignment (data : Payload)
  | claimGroupAssignment
  | promoteGroupAssignment (executorId : PyValue)

inductive PrincipalId where
  | user (id : UserId)
  | system (name : Option String)

inductive EventIntent where
  | audit (action : Action) (oldCanon newCanon oldRawStatus : RequestStatus)
      (principalKind : ActorKind) (principalId : PrincipalId) (source : String)
      (payload : Payload)
  | webhook (requestNumber : RequestNumber) (oldStatus newStatus : RequestStatus)
  | realtime (requestNumber : RequestNumber) (status : RequestStatus)
  | notify (action : Action) (requestNumber : RequestNumber)

structure PatchEntry where
  column : Column
  op : Op
  value : PyValue

structure TransitionResult where
  oldState : RequestState
  newCanonStatus : RequestStatus
  patch : List PatchEntry
  domainOps : List DomainOp
  events : List EventIntent
  noOp : Bool

end InfrasafeBot.RequestWorkflow
