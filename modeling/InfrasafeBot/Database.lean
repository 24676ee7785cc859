import InfrasafeBot.Library.Table
import InfrasafeBot.RequestWorkflow.Types

/-! The rows the request workflow reads and writes (`database/models`), with the
columns it uses. The partial unique index on active assignments and the unique
constraint on ratings are not part of the model: nothing here relies on them. -/

set_option autoImplicit false

namespace InfrasafeBot

open Library RequestWorkflow

structure Request where
  requestNumber : RequestNumber
  userId : UserId
  status : RequestStatus
  acceptanceMode : AcceptanceMode
  apartmentId : Option ApartmentId
  executorId : Option UserId
  notes : Option String
  completionReport : Option String
  completionMedia : PyValue
  assignmentType : Option AssignmentType
  assignedGroup : Option String
  assignedAt : Option Moment
  assignedBy : Option UserId
  requestedMaterials : Option String
  managerMaterialsComment : Option String
  isReturned : Bool
  returnReason : Option String
  returnMedia : PyValue
  managerReturnReason : Option String
  returnedAt : Option Moment
  returnedBy : Option UserId
  managerConfirmed : Bool
  managerConfirmedBy : Option UserId
  managerConfirmedAt : Option Moment
  managerConfirmationNotes : Option String
  completedAt : Option Moment
  statusVersion : Nat

namespace Request

def getattr (row : Request) : Column → PyValue
  | .status => .str row.status.text
  | .executorId => .ofOption .int row.executorId
  | .assignmentType => .ofOption (fun type => .str type.text) row.assignmentType
  | .assignedGroup => .ofOption .str row.assignedGroup
  | .assignedAt => .ofOption .datetime row.assignedAt
  | .assignedBy => .ofOption .int row.assignedBy
  | .requestedMaterials => .ofOption .str row.requestedMaterials
  | .managerMaterialsComment => .ofOption .str row.managerMaterialsComment
  | .completionReport => .ofOption .str row.completionReport
  | .completionMedia => row.completionMedia
  | .isReturned => .bool row.isReturned
  | .notes => .ofOption .str row.notes
  | .managerConfirmed => .bool row.managerConfirmed
  | .managerConfirmedBy => .ofOption .int row.managerConfirmedBy
  | .managerConfirmedAt => .ofOption .datetime row.managerConfirmedAt
  | .managerConfirmationNotes => .ofOption .str row.managerConfirmationNotes
  | .managerReturnReason => .ofOption .str row.managerReturnReason
  | .completedAt => .ofOption .datetime row.completedAt
  | .returnReason => .ofOption .str row.returnReason
  | .returnMedia => row.returnMedia
  | .returnedAt => .ofOption .datetime row.returnedAt
  | .returnedBy => .ofOption .int row.returnedBy

def setattr (row : Request) (column : Column) (value : PyValue) : Request :=
  match column with
  | .status => { row with status := RequestStatus.ofText (value.asText.getD "") }
  | .executorId => { row with executorId := value.asInteger }
  | .assignmentType => { row with assignmentType := value.asText.bind AssignmentType.ofText }
  | .assignedGroup => { row with assignedGroup := value.asText }
  | .assignedAt => { row with assignedAt := value.asMoment }
  | .assignedBy => { row with assignedBy := value.asInteger }
  | .requestedMaterials => { row with requestedMaterials := value.asText }
  | .managerMaterialsComment => { row with managerMaterialsComment := value.asText }
  | .completionReport => { row with completionReport := value.asText }
  | .completionMedia => { row with completionMedia := value }
  | .isReturned => { row with isReturned := value.truthy }
  | .notes => { row with notes := value.asText }
  | .managerConfirmed => { row with managerConfirmed := value.truthy }
  | .managerConfirmedBy => { row with managerConfirmedBy := value.asInteger }
  | .managerConfirmedAt => { row with managerConfirmedAt := value.asMoment }
  | .managerConfirmationNotes => { row with managerConfirmationNotes := value.asText }
  | .managerReturnReason => { row with managerReturnReason := value.asText }
  | .completedAt => { row with completedAt := value.asMoment }
  | .returnReason => { row with returnReason := value.asText }
  | .returnMedia => { row with returnMedia := value }
  | .returnedAt => { row with returnedAt := value.asMoment }
  | .returnedBy => { row with returnedBy := value.asInteger }

end Request

def Request.created (requestNumber : RequestNumber) (userId : UserId)
    (apartmentId : Option ApartmentId) (acceptanceMode : AcceptanceMode) : Request where
  requestNumber
  userId
  status := .new
  acceptanceMode
  apartmentId
  executorId := none
  notes := none
  completionReport := none
  completionMedia := .list []
  assignmentType := none
  assignedGroup := none
  assignedAt := none
  assignedBy := none
  requestedMaterials := none
  managerMaterialsComment := none
  isReturned := false
  returnReason := none
  returnMedia := .list []
  managerReturnReason := none
  returnedAt := none
  returnedBy := none
  managerConfirmed := false
  managerConfirmedBy := none
  managerConfirmedAt := none
  managerConfirmationNotes := none
  completedAt := none
  statusVersion := 0

inductive AssignmentStatus where
  | active
  | cancelled
  | completed
  deriving DecidableEq

structure RequestAssignment where
  id : Nat
  requestNumber : RequestNumber
  assignmentType : AssignmentType
  groupSpecialization : Option String
  executorId : Option UserId
  status : AssignmentStatus
  createdBy : UserId

def RequestAssignment.isActiveOf (number : RequestNumber) (row : RequestAssignment) : Bool :=
  row.requestNumber = number && row.status = .active

structure Rating where
  id : Nat
  requestNumber : RequestNumber
  userId : Option UserId
  rating : Option Int

inductive AuditDetails where
  | statusChanged (action : Action) (oldCanon newCanon oldRawStatus newStatus : RequestStatus)
      (principalKind : ActorKind) (principalId : PrincipalId) (source : String)
      (payload : Payload)
  | assignment (details : String)

structure AuditLog where
  userId : Option UserId
  requestNumber : RequestNumber
  action : String
  details : AuditDetails

structure WebhookPayload where
  eventId : String
  event : String
  requestNumber : RequestNumber
  oldStatus : RequestStatus
  newStatus : RequestStatus
  deriving DecidableEq

inductive OutboxStatus where
  | pending
  | inFlight
  | sent
  | failed
  deriving DecidableEq

structure WebhookOutbox where
  id : Nat
  eventId : String
  event : String
  endpoint : String
  payload : WebhookPayload
  status : OutboxStatus
  attempts : Nat
  lastError : Option String
  retryAfter : Option Moment
  createdAt : Moment
  sentAt : Option Moment
  claimToken : Option String
  claimedAt : Option Moment
  claimCount : Nat
  deriving DecidableEq

structure Database where
  requests : Table Request.requestNumber
  assignments : Table RequestAssignment.id
  ratings : Table Rating.id
  auditLogs : List AuditLog
  outbox : Table WebhookOutbox.id

def Database.ofRequest (row : Request) : Database where
  requests := ⟨[row], by simp⟩
  assignments := .empty
  ratings := .empty
  auditLogs := []
  outbox := .empty

end InfrasafeBot
