import InfrasafeBot.AccessControl.Equipment

/-! Camera events, their decisions, the commands of the barriers and the manual openings
(`domain/events.py`, `domain/commands.py`, `domain/audit.py`) with their repositories, and
the scope of an event (`services/ingestion.py`). -/

set_option autoImplicit false

namespace InfrasafeBot.AccessControl

open Library RequestWorkflow

inductive DecisionType where
  | allow
  | deny
  | manualReview
  deriving DecidableEq

inductive DecisionStatus where
  | pendingReview
  | allowed
  | allowedManually
  | denied
  | deniedManually
  | expired
  deriving DecidableEq

inductive DecisionReason where
  | permanentVehicleAllowed
  | temporaryPassAllowed
  | assignedSpotAllowed
  | spotNotAssigned
  | spotRentalExpired
  | sharedAccessAllowed
  | perApartmentLimitExceeded
  | parkingSpotOccupied
  | vehicleNotFound
  | vehicleBlocked
  | zoneNotAllowed
  | passExpired
  | passAlreadyUsed
  | lowConfidence
  deriving DecidableEq

def DecisionType.candidate : DecisionType → DecisionStatus
  | .allow => .allowed
  | .deny => .denied
  | .manualReview => .pendingReview

structure EngineDecision where
  decision : DecisionType
  reason : Option DecisionReason
  status : DecisionStatus
  matchedVehicleId : Option Nat
  matchedPassId : Option Nat
  proposed : status = decision.candidate
  deriving DecidableEq

def EngineDecision.of (decision : DecisionType) (reason : Option DecisionReason)
    (matchedVehicleId matchedPassId : Option Nat) : EngineDecision :=
  ⟨decision, reason, decision.candidate, matchedVehicleId, matchedPassId, rfl⟩

/-- The confidence is counted in the ten-thousandths of its column. -/
structure AnprIngestInput where
  controllerId : Nat
  eventId : String
  zoneId : Option Nat
  gateId : Option Nat
  barrierId : Option Nat
  plateNumberOriginal : Option String
  direction : Direction
  confidence : Option Nat
  capturedAt : Moment
  deriving DecidableEq

structure Scope where
  zoneId : Option Nat
  gateId : Option Nat
  barrierId : Option Nat
  violation : Option DecisionReason

def authorizeScope (equipment : Equipment) (data : AnprIngestInput) : Scope :=
  let ctrlZone := (getController equipment data.controllerId).bind (·.zoneId)
  if data.zoneId.isSome && ctrlZone.isSome && data.zoneId ≠ ctrlZone then
    ⟨ctrlZone, none, none, some .zoneNotAllowed⟩
  else
    let zoneId := ctrlZone.or data.zoneId
    match data.gateId with
    | some gateId =>
      if gateBelongsToController equipment gateId data.controllerId then
        ⟨zoneId, some gateId, firstActiveBarrierForGate equipment gateId, none⟩
      else ⟨zoneId, none, none, some .zoneNotAllowed⟩
    | none =>
      let gateId := firstActiveGateForController equipment data.controllerId
      ⟨zoneId, gateId, gateId.bind (firstActiveBarrierForGate equipment), none⟩

def AnprIngestInput.scoped (data : AnprIngestInput) (scope : Scope) : AnprIngestInput :=
  { data with zoneId := scope.zoneId, gateId := scope.gateId, barrierId := scope.barrierId }

structure CameraEvent where
  id : Nat
  controllerId : Nat
  eventId : String
  gateId : Option Nat
  zoneId : Option Nat
  plateNumberNormalized : Option String
  direction : Direction
  capturedAt : Moment

/-- The group of a decision is named by its first row. -/
structure AccessDecision where
  id : Nat
  cameraEventId : Nat
  decisionGroupId : Nat
  supersedesDecisionId : Option Nat
  decision : DecisionType
  status : DecisionStatus
  reason : Option DecisionReason
  matchedVehicleId : Option Nat
  matchedPassId : Option Nat
  reviewDeadlineAt : Option Moment
  resolvedByUserId : Option UserId
  resolvedAt : Option Moment
  deriving DecidableEq

structure BarrierCommand where
  commandId : Nat
  decisionId : Option Nat
  controllerId : Nat
  barrierId : Nat
  expiresAt : Moment
  deriving DecidableEq

structure ManualOpening where
  id : Nat
  barrierId : Nat
  commandId : Nat
  decisionId : Option Nat
  operatorUserId : UserId
  reason : String
  capturedEventId : Option Nat
  createdAt : Moment

structure Journal where
  cameraEvents : Table CameraEvent.id
  decisions : Table AccessDecision.id
  commands : Table BarrierCommand.commandId
  manualOpenings : Table ManualOpening.id

def Journal.empty : Journal := ⟨.empty, .empty, .empty, .empty⟩

section

variable (journal : Journal) (data : AnprIngestInput)

def findEventId : Option Nat :=
  (journal.cameraEvents.rows.find? fun event =>
    event.controllerId = data.controllerId && event.eventId = data.eventId).map (·.id)

def initialForEvent (cameraEventId : Nat) : Option AccessDecision :=
  journal.decisions.rows.find? fun row =>
    row.cameraEventId = cameraEventId && row.supersedesDecisionId = none

def dedupWindowSeconds : Int := 10

/-- The event stands in the window of the same car at the same gate, under another key. -/
def inWindow (plate : String) (gateId : Nat) (event : CameraEvent) : Bool :=
  event.gateId = some gateId && event.direction = data.direction &&
    event.plateNumberNormalized = some plate &&
    data.capturedAt - dedupWindowSeconds ≤ event.capturedAt &&
    event.capturedAt ≤ data.capturedAt + dedupWindowSeconds &&
    !(event.controllerId = data.controllerId && event.eventId = data.eventId)

def findWindowDuplicate (normalized : Option String) : Option Nat :=
  match normalized, data.gateId with
  | some plate, some gateId =>
    ((journal.cameraEvents.rows.filter fun event =>
      (initialForEvent journal event.id).isSome && inWindow data plate gateId event).argmin
        CameraEvent.capturedAt).map (·.id)
  | _, _ => none

def cameraEvent (normalized : Option String) (id : Nat) : CameraEvent where
  id := id
  controllerId := data.controllerId
  eventId := data.eventId
  gateId := data.gateId
  zoneId := data.zoneId
  plateNumberNormalized := normalized
  direction := data.direction
  capturedAt := data.capturedAt

theorem cameraEvent_id (normalized : Option String) (id : Nat) :
    (cameraEvent data normalized id).id = id := rfl

end

section

variable (journal : Journal)

def highest (rows : List AccessDecision) : Option AccessDecision := rows.argmax AccessDecision.id

def latestForEvent (cameraEventId : Nat) : Option AccessDecision :=
  highest (journal.decisions.rows.filter (·.cameraEventId = cameraEventId))

def currentPending (row : AccessDecision) : Bool :=
  row.status = .pendingReview && latestForEvent journal row.cameraEventId = some row

def atBarrier (equipment : Equipment) (barrierId : Nat) (row : AccessDecision) : Bool :=
  (equipment.barriers.find? barrierId).any fun barrier =>
    (journal.cameraEvents.find? row.cameraEventId).any fun event => event.gateId = some barrier.gateId

def overdue (now : Moment) (row : AccessDecision) : Bool := row.reviewDeadlineAt.any (· < now)

def activePendingEventForBarrier (equipment : Equipment) (barrierId : Nat) (now : Moment) : Option Nat :=
  (highest (journal.decisions.rows.filter fun row =>
    atBarrier journal equipment barrierId row && currentPending journal row &&
      !overdue now row)).map (·.cameraEventId)

def expiredPendingForBarrier (equipment : Equipment) (barrierId : Nat) (now : Moment) :
    List AccessDecision :=
  journal.decisions.rows.filter fun row =>
    atBarrier journal equipment barrierId row && currentPending journal row && overdue now row

def initialDecision (cameraEventId : Nat) (decision : DecisionType) (engine : EngineDecision)
    (finalStatus : DecisionStatus) (reviewDeadlineAt : Option Moment) (id : Nat) :
    AccessDecision where
  id := id
  cameraEventId := cameraEventId
  decisionGroupId := id
  supersedesDecisionId := none
  decision := decision
  status := finalStatus
  reason := engine.reason
  matchedVehicleId := engine.matchedVehicleId
  matchedPassId := engine.matchedPassId
  reviewDeadlineAt := reviewDeadlineAt
  resolvedByUserId := none
  resolvedAt := none

theorem initialDecision_id (cameraEventId : Nat) (decision : DecisionType)
    (engine : EngineDecision) (finalStatus : DecisionStatus) (reviewDeadlineAt : Option Moment)
    (id : Nat) :
    (initialDecision cameraEventId decision engine finalStatus reviewDeadlineAt id).id = id := rfl

def insertInitial (cameraEventId : Nat) (decision : DecisionType) (engine : EngineDecision)
    (finalStatus : DecisionStatus) (reviewDeadlineAt : Option Moment) : Journal :=
  { journal with
    decisions := journal.decisions.insert
      (initialDecision cameraEventId decision engine finalStatus reviewDeadlineAt)
      (initialDecision_id cameraEventId decision engine finalStatus reviewDeadlineAt) }

def transition (current : AccessDecision) (newStatus : DecisionStatus)
    (newDecision : DecisionType) (operatorUserId : Option UserId) (now : Moment) (id : Nat) :
    AccessDecision where
  id := id
  cameraEventId := current.cameraEventId
  decisionGroupId := current.decisionGroupId
  supersedesDecisionId := some current.id
  decision := newDecision
  status := newStatus
  reason := current.reason
  matchedVehicleId := current.matchedVehicleId
  matchedPassId := current.matchedPassId
  reviewDeadlineAt := none
  resolvedByUserId := operatorUserId
  resolvedAt := some now

theorem transition_id (current : AccessDecision) (newStatus : DecisionStatus)
    (newDecision : DecisionType) (operatorUserId : Option UserId) (now : Moment) (id : Nat) :
    (transition current newStatus newDecision operatorUserId now id).id = id := rfl

def insertTransition (current : AccessDecision) (newStatus : DecisionStatus)
    (newDecision : DecisionType) (operatorUserId : Option UserId) (now : Moment) : Journal :=
  { journal with
    decisions := journal.decisions.insert
      (transition current newStatus newDecision operatorUserId now)
      (transition_id current newStatus newDecision operatorUserId now) }

end

section

variable (journal : Journal)

def commandForDecision (decisionId : Nat) : Option BarrierCommand :=
  journal.commands.rows.find? (·.decisionId = some decisionId)

def openCommand (decisionId : Option Nat) (controllerId barrierId : Nat) (expiresAt : Moment)
    (id : Nat) : BarrierCommand := ⟨id, decisionId, controllerId, barrierId, expiresAt⟩

theorem openCommand_id (decisionId : Option Nat) (controllerId barrierId : Nat)
    (expiresAt : Moment) (id : Nat) :
    (openCommand decisionId controllerId barrierId expiresAt id).commandId = id := rfl

def createOpenCommand (decisionId : Option Nat) (controllerId barrierId : Nat)
    (expiresAt : Moment) : Journal × BarrierCommand :=
  let created := openCommand decisionId controllerId barrierId expiresAt
  let inserted : Journal × BarrierCommand :=
    ({ journal with
        commands := journal.commands.insert created
          (openCommand_id decisionId controllerId barrierId expiresAt) },
      created journal.commands.nextKey)
  match decisionId.bind (commandForDecision journal) with
  | some existing => (journal, existing)
  | none => inserted

def manualOpening (barrierId commandId : Nat) (decisionId : Option Nat) (operatorUserId : UserId)
    (reason : String) (capturedEventId : Option Nat) (createdAt : Moment) (id : Nat) :
    ManualOpening :=
  ⟨id, barrierId, commandId, decisionId, operatorUserId, reason, capturedEventId, createdAt⟩

theorem manualOpening_id (barrierId commandId : Nat) (decisionId : Option Nat)
    (operatorUserId : UserId) (reason : String) (capturedEventId : Option Nat)
    (createdAt : Moment) (id : Nat) :
    (manualOpening barrierId commandId decisionId operatorUserId reason capturedEventId createdAt
      id).id = id := rfl

def insertManualOpening (barrierId commandId : Nat) (decisionId : Option Nat)
    (operatorUserId : UserId) (reason : String) (capturedEventId : Option Nat)
    (createdAt : Moment) : Journal :=
  { journal with
    manualOpenings := journal.manualOpenings.insert
      (manualOpening barrierId commandId decisionId operatorUserId reason capturedEventId createdAt)
      (manualOpening_id barrierId commandId decisionId operatorUserId reason capturedEventId createdAt) }

def recentOpenExists (barrierId : Nat) (since : Moment) : Bool :=
  journal.manualOpenings.rows.any fun opening => opening.barrierId = barrierId && since ≤ opening.createdAt

end

end InfrasafeBot.AccessControl
