import InfrasafeBot.Library.CanonicalJson
import InfrasafeBot.Library.HashChain
import InfrasafeBot.AccessControl.ReviewLifecycle

/-! The append-only journals (`domain/events.py`, `domain/audit.py`), their hash chains
(`services/hashchain.py`), the repositories that append to them, and the transactions that use
these. -/

set_option autoImplicit false

namespace InfrasafeBot.AccessControl

open Library RequestWorkflow

def DecisionType.value : DecisionType → String
  | .allow => "allow"
  | .deny => "deny"
  | .manualReview => "manual_review"

def DecisionStatus.value : DecisionStatus → String
  | .pendingReview => "pending_review"
  | .allowed => "allowed"
  | .allowedManually => "allowed_manually"
  | .denied => "denied"
  | .deniedManually => "denied_manually"
  | .expired => "expired"

def DecisionReason.value : DecisionReason → String
  | .permanentVehicleAllowed => "permanent_vehicle_allowed"
  | .temporaryPassAllowed => "temporary_pass_allowed"
  | .assignedSpotAllowed => "assigned_spot_allowed"
  | .spotNotAssigned => "spot_not_assigned"
  | .spotRentalExpired => "spot_rental_expired"
  | .sharedAccessAllowed => "shared_access_allowed"
  | .perApartmentLimitExceeded => "per_apartment_limit_exceeded"
  | .parkingSpotOccupied => "parking_spot_occupied"
  | .vehicleNotFound => "vehicle_not_found"
  | .vehicleBlocked => "vehicle_blocked"
  | .zoneNotAllowed => "zone_not_allowed"
  | .passExpired => "pass_expired"
  | .passAlreadyUsed => "pass_already_used"
  | .lowConfidence => "low_confidence"

def Direction.value : Direction → String
  | .entry => "entry"
  | .exit => "exit"

inductive EventSource where
  | connected
  | edgeOffline

def EventSource.value : EventSource → String
  | .connected => "connected"
  | .edgeOffline => "edge_offline"

namespace Journals

open Json HashChain

structure Uuid where
  text : String
  sized : text.length = 36

/-- A row of `access_decisions` without its number and its hashes. The confidence is counted in
the ten-thousandths of its column. -/
structure DecisionColumns where
  cameraEventId : Nat
  decisionGroupId : Option Uuid
  supersedesDecisionId : Option Nat
  decision : String
  status : String
  reason : Option String
  confidence : Option Nat
  matchedVehicleId : Option Nat
  matchedPassId : Option Nat
  reviewDeadlineAt : Option Moment
  resolvedByUserId : Option UserId
  resolvedAt : Option Moment
  source : String

structure AccessEventColumns where
  controllerId : Nat
  eventId : String
  cameraEventId : Option Nat
  decisionId : Option Nat
  vehicleId : Option Nat
  passId : Option Nat
  apartmentId : Option Nat
  gateId : Option Nat
  zoneId : Option Nat
  direction : String
  plateNumberNormalized : Option String
  decision : Option String
  reason : Option String
  occurredAt : Moment
  source : String

structure ManualOpeningColumns where
  barrierId : Nat
  commandId : Option Uuid
  decisionId : Option Nat
  operatorUserId : UserId
  reason : String
  capturedEventId : Option Nat

structure AuditColumns where
  actorUserId : Option UserId
  action : String
  entityType : Option String
  entityId : Option String
  details : Document
  ipAddress : Option String

inductive Table where
  | accessDecisions
  | accessEvents
  | manualOpenings
  | accessAuditLogs
  deriving DecidableEq

inductive Row where
  | accessDecisions (columns : DecisionColumns)
  | accessEvents (columns : AccessEventColumns)
  | manualOpenings (columns : ManualOpeningColumns)
  | accessAuditLogs (columns : AuditColumns)

def tableOf : Row → Table
  | .accessDecisions _ => .accessDecisions
  | .accessEvents _ => .accessEvents
  | .manualOpenings _ => .manualOpenings
  | .accessAuditLogs _ => .accessAuditLogs

abbrev Payload := List (String × Document)

def canonicalJson (payload : Payload) : String := dumpsMembers payload

/-- The row hash of `next_hash`, where `hash` stands for the digest of a text. -/
def nextHash (hash : String → String) (prevHash : Option String) (payload : Payload) : String :=
  hash (prevHash.getD "" ++ canonicalJson payload)

def str : Option Uuid → String
  | none => "None"
  | some id => id.text

def initialPayload (columns : DecisionColumns) : Payload :=
  [("camera_event_id", .ofNat columns.cameraEventId),
    ("decision_group_id", .string (str columns.decisionGroupId)),
    ("decision", .string columns.decision),
    ("status", .string columns.status),
    ("reason", .optional .string columns.reason),
    ("matched_vehicle_id", .optional .ofNat columns.matchedVehicleId),
    ("matched_pass_id", .optional .ofNat columns.matchedPassId),
    ("source", .string columns.source)]

def transitionPayload (columns : DecisionColumns) (superseded : Nat) : Payload :=
  [("camera_event_id", .ofNat columns.cameraEventId),
    ("decision_group_id", .string (str columns.decisionGroupId)),
    ("supersedes_decision_id", .ofNat superseded),
    ("decision", .string columns.decision),
    ("status", .string columns.status),
    ("reason", .optional .string columns.reason),
    ("source", .string columns.source)]

def accessEventPayload (columns : AccessEventColumns) : Payload :=
  [("controller_id", .ofNat columns.controllerId),
    ("event_id", .string columns.eventId),
    ("camera_event_id", .optional .ofNat columns.cameraEventId),
    ("decision_id", .optional .ofNat columns.decisionId),
    ("vehicle_id", .optional .ofNat columns.vehicleId),
    ("pass_id", .optional .ofNat columns.passId),
    ("apartment_id", .optional .ofNat columns.apartmentId),
    ("gate_id", .optional .ofNat columns.gateId),
    ("zone_id", .optional .ofNat columns.zoneId),
    ("direction", .string columns.direction),
    ("plate_number_normalized", .optional .string columns.plateNumberNormalized),
    ("decision", .optional .string columns.decision),
    ("reason", .optional .string columns.reason),
    ("source", .string columns.source)]

def manualOpeningPayload (columns : ManualOpeningColumns) : Payload :=
  [("barrier_id", .ofNat columns.barrierId),
    ("command_id", .optional .string (columns.commandId.map (·.text))),
    ("decision_id", .optional .ofNat columns.decisionId),
    ("operator_user_id", .ofInt columns.operatorUserId),
    ("reason", .string columns.reason),
    ("captured_event_id", .optional .ofNat columns.capturedEventId)]

def auditPayload (columns : AuditColumns) : Payload :=
  [("actor_user_id", .optional .ofInt columns.actorUserId),
    ("action", .string columns.action),
    ("entity_type", .optional .string columns.entityType),
    ("entity_id", .optional .string columns.entityId),
    ("details", columns.details),
    ("ip_address", .optional .string columns.ipAddress)]

/-- The payload of a row by its columns alone: decisions have one of two forms. -/
def payloadOf : Row → Payload
  | .accessDecisions columns =>
    match columns.supersedesDecisionId with
    | none => initialPayload columns
    | some superseded => transitionPayload columns superseded
  | .accessEvents columns => accessEventPayload columns
  | .manualOpenings columns => manualOpeningPayload columns
  | .accessAuditLogs columns => auditPayload columns

abbrev Write := Statement Row Payload

structure StoredDecision extends DecisionColumns where
  id : Nat

def insertInitial (groupId : Uuid) (cameraEventId : Nat) (decision : DecisionType)
    (status : DecisionStatus) (reason : Option DecisionReason)
    (matchedVehicleId matchedPassId : Option Nat) (reviewDeadlineAt : Option Moment)
    (source : EventSource) : List Write :=
  let payload : Payload :=
    [("camera_event_id", .ofNat cameraEventId),
      ("decision_group_id", .string groupId.text),
      ("decision", .string decision.value),
      ("status", .string status.value),
      ("reason", .optional .string (reason.map (·.value))),
      ("matched_vehicle_id", .optional .ofNat matchedVehicleId),
      ("matched_pass_id", .optional .ofNat matchedPassId),
      ("source", .string source.value)]
  let row : DecisionColumns :=
    { cameraEventId := cameraEventId
      decisionGroupId := some groupId
      supersedesDecisionId := none
      decision := decision.value
      status := status.value
      reason := reason.map (·.value)
      confidence := none
      matchedVehicleId := matchedVehicleId
      matchedPassId := matchedPassId
      reviewDeadlineAt := reviewDeadlineAt
      resolvedByUserId := none
      resolvedAt := none
      source := source.value }
  [.append (.accessDecisions row) payload, .flush]

def insertTransition (current : StoredDecision) (newStatus : DecisionStatus)
    (newDecision : DecisionType) (operatorUserId : Option UserId) (now : Moment) : List Write :=
  let payload : Payload :=
    [("camera_event_id", .ofNat current.cameraEventId),
      ("decision_group_id", .string (str current.decisionGroupId)),
      ("supersedes_decision_id", .ofNat current.id),
      ("decision", .string newDecision.value),
      ("status", .string newStatus.value),
      ("reason", .optional .string current.reason),
      ("source", .string current.source)]
  let row : DecisionColumns :=
    { cameraEventId := current.cameraEventId
      decisionGroupId := current.decisionGroupId
      supersedesDecisionId := some current.id
      decision := newDecision.value
      status := newStatus.value
      reason := current.reason
      confidence := none
      matchedVehicleId := current.matchedVehicleId
      matchedPassId := current.matchedPassId
      reviewDeadlineAt := none
      resolvedByUserId := operatorUserId
      resolvedAt := some now
      source := current.source }
  [.append (.accessDecisions row) payload, .flush]

def writeExpiredTransition (current : StoredDecision) (now : Moment) : List Write :=
  let payload : Payload :=
    [("camera_event_id", .ofNat current.cameraEventId),
      ("decision_group_id", .string (str current.decisionGroupId)),
      ("supersedes_decision_id", .ofNat current.id),
      ("decision", .string DecisionType.manualReview.value),
      ("status", .string DecisionStatus.expired.value),
      ("reason", .optional .string current.reason),
      ("source", .string current.source)]
  let row : DecisionColumns :=
    { cameraEventId := current.cameraEventId
      decisionGroupId := current.decisionGroupId
      supersedesDecisionId := some current.id
      decision := DecisionType.manualReview.value
      status := DecisionStatus.expired.value
      reason := current.reason
      confidence := none
      matchedVehicleId := current.matchedVehicleId
      matchedPassId := current.matchedPassId
      reviewDeadlineAt := none
      resolvedByUserId := none
      resolvedAt := some now
      source := current.source }
  [.append (.accessDecisions row) payload, .flush]

def insertAccessEvent (data : AnprIngestInput) (source : EventSource) (cameraEventId : Nat)
    (decisionId : Nat) (decision : DecisionType) (reason : Option DecisionReason)
    (matchedVehicleId matchedPassId : Option Nat) (apartmentForVehicle : Nat → Option Nat)
    (normalized : Option String) : List Write :=
  let apartmentId := matchedVehicleId.bind apartmentForVehicle
  let payload : Payload :=
    [("controller_id", .ofNat data.controllerId),
      ("event_id", .string data.eventId),
      ("camera_event_id", .ofNat cameraEventId),
      ("decision_id", .ofNat decisionId),
      ("vehicle_id", .optional .ofNat matchedVehicleId),
      ("pass_id", .optional .ofNat matchedPassId),
      ("apartment_id", .optional .ofNat apartmentId),
      ("gate_id", .optional .ofNat data.gateId),
      ("zone_id", .optional .ofNat data.zoneId),
      ("direction", .string data.direction.value),
      ("plate_number_normalized", .optional .string normalized),
      ("decision", .string decision.value),
      ("reason", .optional .string (reason.map (·.value))),
      ("source", .string source.value)]
  let row : AccessEventColumns :=
    { controllerId := data.controllerId
      eventId := data.eventId
      cameraEventId := some cameraEventId
      decisionId := some decisionId
      vehicleId := matchedVehicleId
      passId := matchedPassId
      apartmentId := apartmentId
      gateId := data.gateId
      zoneId := data.zoneId
      direction := data.direction.value
      plateNumberNormalized := normalized
      decision := some decision.value
      reason := reason.map (·.value)
      occurredAt := data.capturedAt
      source := source.value }
  [.append (.accessEvents row) payload]

def insertManualOpening (barrierId : Nat) (commandId : Uuid) (decisionId : Option Nat)
    (operatorUserId : UserId) (reason : String) (capturedEventId : Option Nat) : List Write :=
  let payload : Payload :=
    [("barrier_id", .ofNat barrierId),
      ("command_id", .string commandId.text),
      ("decision_id", .optional .ofNat decisionId),
      ("operator_user_id", .ofInt operatorUserId),
      ("reason", .string reason),
      ("captured_event_id", .optional .ofNat capturedEventId)]
  let row : ManualOpeningColumns :=
    { barrierId := barrierId
      commandId := some commandId
      decisionId := decisionId
      operatorUserId := operatorUserId
      reason := reason
      capturedEventId := capturedEventId }
  [.append (.manualOpenings row) payload, .flush]

def writeAudit (actorUserId : Option UserId) (action entityType : String) (entityId : Option Nat)
    (details : Option Document) (ipAddress : Option String) : List Write :=
  let payload : Payload :=
    [("actor_user_id", .optional .ofInt actorUserId),
      ("action", .string action),
      ("entity_type", .string entityType),
      ("entity_id", .optional .string (entityId.map toString)),
      ("details", details.getD .null),
      ("ip_address", .optional .string ipAddress)]
  let row : AuditColumns :=
    { actorUserId := actorUserId
      action := action
      entityType := some entityType
      entityId := entityId.map toString
      details := details.getD .null
      ipAddress := ipAddress }
  [.append (.accessAuditLogs row) payload]

def update (members extra : List (String × Document)) : List (String × Document) :=
  (members.filter fun member => member.1 ∉ extra.map Prod.fst) ++ extra

def insertAudit (actorUserId : Option UserId) (action entityType : String) (entityId : Option Nat)
    (barrierId : Option Nat) (source : String) (reason ipAddress : Option String)
    (extraDetails : List (String × Document)) : List Write :=
  let details : Document := .object (update
    [("barrier_id", .optional .ofNat barrierId),
      ("source", .string source),
      ("reason", .optional .string reason)] extraDetails)
  let payload : Payload :=
    [("actor_user_id", .optional .ofInt actorUserId),
      ("action", .string action),
      ("entity_type", .string entityType),
      ("entity_id", .optional .string (entityId.map toString)),
      ("details", details),
      ("ip_address", .optional .string ipAddress)]
  let row : AuditColumns :=
    { actorUserId := actorUserId
      action := action
      entityType := some entityType
      entityId := entityId.map toString
      details := details
      ipAddress := ipAddress }
  [.append (.accessAuditLogs row) payload]

/-- The journaled part of a transaction. Its values are those the transaction has read, generated
or got back from a flush; `decisionId` is the number of the decision it has written. -/
inductive Operation where
  | ingest (data : AnprIngestInput) (source : EventSource) (normalized : Option String)
      (engine : EngineDecision) (verdict : Verdict) (groupId : Uuid) (cameraEventId : Nat)
      (decisionId : Nat) (apartmentForVehicle : Nat → Option Nat)
  | expireLazily (current : StoredDecision) (decisionId : Nat) (operatorUserId : UserId)
      (barrierId : Option Nat) (source : String) (ipAddress : Option String) (now : Moment)
  | manualOpen (current : StoredDecision) (decisionId : Nat) (operatorUserId : UserId)
      (barrierId : Nat) (commandId : Uuid) (eventId : Nat) (reason source : String)
      (ipAddress : Option String) (now : Moment)
  | deny (current : StoredDecision) (decisionId : Nat) (operatorUserId : UserId)
      (barrierId : Option Nat) (reason source : String) (ipAddress : Option String) (now : Moment)
  | manualOpenBarrier (expired : List StoredDecision) (pending : Bool) (barrierId : Nat)
      (commandId : Uuid) (operatorUserId : UserId) (reason source : String)
      (ipAddress : Option String) (now : Moment)
  | redeemCode (passId apartmentId : Nat) (passType : String) (barrierId : Nat) (commandId : Uuid)
      (operatorUserId : UserId) (ipAddress : Option String)
  | expireReview (current : StoredDecision) (decisionId : Nat) (barrierId : Option Nat)
      (now : Moment)
  | closePresenceSession (sessionId : Nat) (operatorUserId : UserId) (closeReason : String)
      (ipAddress : Option String)
  /-- Every operation of the management, the residents, the equipment, the parking places, the
  diagnostics and the photos ends with one row of the audit. -/
  | audited (actorUserId : Option UserId) (action entityType : String) (entityId : Option Nat)
      (details : Option Document) (ipAddress : Option String)

def lazyExpireBarrierPending (expired : List StoredDecision) (now : Moment) : List Write :=
  expired.flatMap fun current => insertTransition current .expired .manualReview none now

def Operation.program : Operation → List Write
  | .ingest data source normalized engine verdict groupId cameraEventId decisionId apartment =>
    insertInitial groupId cameraEventId verdict.decision verdict.finalStatus engine.reason
        engine.matchedVehicleId engine.matchedPassId verdict.reviewDeadlineAt source ++
      insertAccessEvent data source cameraEventId decisionId verdict.decision engine.reason
        engine.matchedVehicleId engine.matchedPassId apartment normalized
  | .expireLazily current decisionId operatorUserId barrierId source ipAddress now =>
    insertTransition current .expired .manualReview none now ++
      insertAudit none "access.review_expired_lazy" "access_decision" (some decisionId) barrierId
        source none ipAddress [("triggered_by_user_id", .ofInt operatorUserId)]
  | .manualOpen current decisionId operatorUserId barrierId commandId eventId reason source
      ipAddress now =>
      insertTransition current .allowedManually .allow (some operatorUserId) now ++
        (insertManualOpening barrierId commandId (some decisionId) operatorUserId reason (some eventId) ++
          insertAudit (some operatorUserId) "access.manual_open" "access_decision"
            (some decisionId) (some barrierId) source (some reason) ipAddress [])
  | .deny current decisionId operatorUserId barrierId reason source ipAddress now =>
    insertTransition current .deniedManually .deny (some operatorUserId) now ++
      insertAudit (some operatorUserId) "access.deny" "access_decision" (some decisionId)
        barrierId source (some reason) ipAddress []
  | .manualOpenBarrier expired pending barrierId commandId operatorUserId reason source ipAddress
      now =>
      lazyExpireBarrierPending expired now ++
        if pending then []
        else
          insertManualOpening barrierId commandId none operatorUserId reason none ++
            insertAudit (some operatorUserId) "access.barrier_manual_open" "access_barrier"
              (some barrierId) (some barrierId) source (some reason) ipAddress []
  | .redeemCode passId apartmentId passType barrierId commandId operatorUserId ipAddress =>
    insertManualOpening barrierId commandId none operatorUserId "guest_code" none ++
      insertAudit (some operatorUserId) "access.guest_code_redeemed" "access_pass" (some passId)
        (some barrierId) "guest_code" none ipAddress
        [("apartment_id", .ofNat apartmentId), ("pass_type", .string passType)]
  | .expireReview current decisionId barrierId now =>
    writeExpiredTransition current now ++
      insertAudit none "access.review_expired" "access_decision" (some decisionId) barrierId
        "review_expiry_worker" none none []
  | .closePresenceSession sessionId operatorUserId closeReason ipAddress =>
    insertAudit (some operatorUserId) "access.presence_close" "vehicle_presence_session"
      (some sessionId) none "operator_presence_close" (some closeReason) ipAddress []
  | .audited actorUserId action entityType entityId details ipAddress =>
    writeAudit actorUserId action entityType entityId details ipAddress

/-- Any number of workers, each with one transaction at a time, that wait for the locks of the
journals and may fail between any two statements. -/
abbrev Store (n : Nat) := HashChain.State Table Row Payload String n

def next {n : Nat} (hash : String → String) : Store n → HashChain.Event Operation n → Store n :=
  HashChain.next tableOf (nextHash hash) Operation.program

def journal {n : Nat} (hash : String → String) (events : List (HashChain.Event Operation n))
    (table : Table) : List (Stored Row String) :=
  (Machine.run (next hash) State.initial events).tables table

section

variable {dirty : List Table} {rest : List Write}

theorem disciplined_initial {groupId : Uuid} {cameraEventId : Nat} {decision : DecisionType}
    {status : DecisionStatus} {reason : Option DecisionReason}
    {matchedVehicleId matchedPassId : Option Nat} {reviewDeadlineAt : Option Moment}
    {source : EventSource} (clean : .accessDecisions ∉ dirty)
    (later : Disciplined tableOf payloadOf [] rest) :
    Disciplined tableOf payloadOf dirty (insertInitial groupId cameraEventId decision status
      reason matchedVehicleId matchedPassId reviewDeadlineAt source ++ rest) :=
  ⟨rfl, clean, later⟩

theorem disciplined_transition {current : StoredDecision} {newStatus : DecisionStatus}
    {newDecision : DecisionType} {operatorUserId : Option UserId} {now : Moment}
    (clean : .accessDecisions ∉ dirty) (later : Disciplined tableOf payloadOf [] rest) :
    Disciplined tableOf payloadOf dirty
      (insertTransition current newStatus newDecision operatorUserId now ++ rest) :=
  ⟨rfl, clean, later⟩

theorem writeExpiredTransition_eq (current : StoredDecision) (now : Moment) :
    writeExpiredTransition current now = insertTransition current .expired .manualReview none now := rfl

theorem disciplined_opening {barrierId : Nat} {commandId : Uuid} {decisionId : Option Nat}
    {operatorUserId : UserId} {reason : String} {capturedEventId : Option Nat}
    (clean : .manualOpenings ∉ dirty) (later : Disciplined tableOf payloadOf [] rest) :
    Disciplined tableOf payloadOf dirty (insertManualOpening barrierId commandId decisionId
      operatorUserId reason capturedEventId ++ rest) :=
  ⟨rfl, clean, later⟩

theorem disciplined_expiries (expired : List StoredDecision) (now : Moment)
    (later : Disciplined tableOf payloadOf [] rest) :
    Disciplined tableOf payloadOf [] (lazyExpireBarrierPending expired now ++ rest) := by
  induction expired with
  | nil => exact later
  | cons current others ih =>
    rw [lazyExpireBarrierPending, List.flatMap_cons, List.append_assoc]
    exact disciplined_transition List.not_mem_nil ih

theorem disciplined_audit {actorUserId : Option UserId} {action entityType : String}
    {entityId barrierId : Option Nat} {source : String} {reason ipAddress : Option String}
    {extraDetails : List (String × Document)} :
    Disciplined tableOf payloadOf [] (insertAudit actorUserId action entityType entityId barrierId
      source reason ipAddress extraDetails) :=
  ⟨rfl, List.not_mem_nil, trivial⟩

theorem disciplined (operation : Operation) : Disciplined tableOf payloadOf [] operation.program := by
  cases operation with
  | ingest => exact disciplined_initial List.not_mem_nil ⟨rfl, List.not_mem_nil, trivial⟩
  | expireLazily | deny => exact disciplined_transition List.not_mem_nil disciplined_audit
  | manualOpen =>
    exact disciplined_transition List.not_mem_nil
      (disciplined_opening List.not_mem_nil disciplined_audit)
  | manualOpenBarrier expired pending =>
    apply disciplined_expiries
    cases pending with
    | true => trivial
    | false => exact disciplined_opening List.not_mem_nil disciplined_audit
  | redeemCode => exact disciplined_opening List.not_mem_nil disciplined_audit
  | expireReview =>
    rw [Operation.program, writeExpiredTransition_eq]
    exact disciplined_transition List.not_mem_nil disciplined_audit
  | closePresenceSession => exact disciplined_audit
  | audited => exact ⟨rfl, List.not_mem_nil, trivial⟩

end

end Journals

end InfrasafeBot.AccessControl
