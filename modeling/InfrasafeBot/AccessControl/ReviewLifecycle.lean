import InfrasafeBot.Library.Machine
import InfrasafeBot.AccessControl.EquipmentAdmin
import InfrasafeBot.AccessControl.Events
import InfrasafeBot.Library.Locks

/-! The reception of camera events, the resolution of reviews, the manual openings and the
expiry worker (`services/ingestion.py`, `services/lifecycle.py`, `services/review_expiry.py`),
one statement after the other. A transaction waits for its advisory lock and keeps it to its
end; its writes are seen by the others when it commits. -/

set_option autoImplicit false

namespace InfrasafeBot.AccessControl

open Library Locks RequestWorkflow

def commandTtlSeconds : Int := 120

def manualReviewDeadlineSeconds : Int := 120

inductive LifecycleError where
  | noBarrier (eventId : Nat)
  | noDecision (eventId : Nat)
  | openFieldsRequired
  | denyReasonRequired
  | reasonRequired
  | unknownBarrier (barrierId : Nat)
  | pendingReviewConflict (eventId : Nat)
  | decisionIdMismatch (decisionId current : Nat)
  | barrierUnavailable (eventId : Nat)
  deriving DecidableEq

structure IngestResult where
  decision : DecisionType
  status : DecisionStatus
  reason : Option DecisionReason
  decisionId : Option Nat
  decisionGroupId : Option Nat
  command : Option BarrierCommand
  replayed : Bool
  deriving DecidableEq

structure ResolveResult where
  status : DecisionStatus
  decisionId : Nat
  decisionGroupId : Nat
  commandId : Option Nat
  replayed : Bool
  deriving DecidableEq

structure ManualOpenResult where
  manualOpeningId : Nat
  commandId : Nat
  barrierId : Nat
  deriving DecidableEq

inductive Reply where
  | ingested (result : IngestResult)
  | resolved (result : ResolveResult)
  | opened (result : ManualOpenResult)
  | expired (count : Nat)
  | refused (error : LifecycleError)
  deriving DecidableEq

section

variable (journal : Journal) (time : Moment) (data : AnprIngestInput)

def Scope.enforce (scope : Scope) (engine : EngineDecision) : EngineDecision :=
  match scope.violation with
  | some reason => .of .deny (some reason) none none
  | none => engine

def loadExistingResult (cameraEventId : Nat) : IngestResult :=
  match initialForEvent journal cameraEventId with
  | some decision =>
    ⟨decision.decision, decision.status, decision.reason, some decision.id,
      some decision.decisionGroupId, commandForDecision journal decision.id, true⟩
  | none => ⟨.deny, .denied, none, none, none, none, true⟩

def repeatedEvent (normalized : Option String) : Option Nat :=
  (findEventId journal data).or (findWindowDuplicate journal data normalized)

structure Verdict where
  decision : DecisionType
  finalStatus : DecisionStatus
  reviewDeadlineAt : Option Moment
  deriving DecidableEq

/-- A disputed entry waits for a review, unless its barrier has been opened by hand since. -/
def verdict (engine : EngineDecision) : Verdict :=
  if engine.decision = .manualReview then
    if data.barrierId.any fun barrierId => recentOpenExists journal barrierId data.capturedAt then
      ⟨.allow, .allowedManually, none⟩
    else ⟨.manualReview, .pendingReview, some (time + manualReviewDeadlineSeconds)⟩
  else ⟨engine.decision, engine.status, none⟩

def insertCameraEvent (normalized : Option String) : Journal :=
  { journal with
    cameraEvents := journal.cameraEvents.insert (cameraEvent data normalized)
      (cameraEvent_id data normalized) }

def openedBy (verdict : Verdict) : Option Nat :=
  if verdict.decision = .allow ∧ verdict.finalStatus = .allowed then data.barrierId else none

def recordEvent (normalized : Option String) (engine : EngineDecision) (verdict : Verdict) :
    Journal × IngestResult :=
  let decisionId := journal.decisions.nextKey
  let decided := insertInitial (insertCameraEvent journal data normalized)
    journal.cameraEvents.nextKey verdict.decision engine verdict.finalStatus
    verdict.reviewDeadlineAt
  let result := IngestResult.mk verdict.decision verdict.finalStatus engine.reason
    (some decisionId) (some decisionId)
  match openedBy data verdict with
  | none => (decided, result none false)
  | some barrierId =>
    let created := createOpenCommand decided (some decisionId) data.controllerId barrierId
      (time + commandTtlSeconds)
    (created.1, result (some created.2) false)

def commitEvent (normalized : Option String) (engine : EngineDecision) (verdict : Verdict) :
    Journal × IngestResult :=
  match findEventId journal data with
  | some existing => (journal, loadExistingResult journal existing)
  | none => recordEvent journal time data normalized engine verdict

end

inductive ResolveAction where
  | manualOpen
  | deny
  deriving DecidableEq

structure ResolveRequest where
  eventId : Nat
  action : ResolveAction
  operatorUserId : UserId
  reason : Option String
  barrierId : Option Nat
  decisionId : Option Nat
  deriving DecidableEq

def reasonGiven (reason : Option String) : Bool := reason.any fun text => pyStrip text ≠ ""

inductive Resolution where
  | expire
  | manualOpen (barrierId controllerId : Nat) (reason : String)
  | deny
  deriving DecidableEq

section

variable (journal : Journal) (time : Moment) (request : ResolveRequest)

def barrierAndControllerForEvent (equipment : Equipment) (cameraEventId : Nat) : Option Nat × Option Nat :=
  barrierAndControllerForGate equipment
    ((journal.cameraEvents.find? cameraEventId).bind (·.gateId))

def eventLockKey (equipment : Equipment) (cameraEventId : Nat) : Option Nat :=
  (journal.cameraEvents.find? cameraEventId).bind fun event =>
    lockKeyForEvent equipment event.gateId event.controllerId

def replayResult (current : AccessDecision) : ResolveResult where
  status := current.status
  decisionId := current.id
  decisionGroupId := current.decisionGroupId
  commandId :=
    if current.status = .allowedManually then (commandForDecision journal current.id).map (·.commandId)
    else none
  replayed := true

def settlePending (derivedBarrier controllerId : Option Nat) (current : AccessDecision) :
    Except LifecycleError Resolution :=
  if let some decisionId := request.decisionId.filter (· ≠ current.id) then
    .error (.decisionIdMismatch decisionId current.id)
  else
    match request.action with
    | .manualOpen =>
      if !reasonGiven request.reason || request.barrierId.isNone ||
          request.decisionId.isNone then .error .openFieldsRequired
      else
        match derivedBarrier, controllerId with
        | some barrierId, some controllerId =>
          .ok (.manualOpen barrierId controllerId (request.reason.getD ""))
        | _, _ => .error (.barrierUnavailable request.eventId)
    | .deny => if reasonGiven request.reason then .ok .deny else .error .denyReasonRequired

def settle (derivedBarrier controllerId : Option Nat) (now : Moment) :
    Reply ⊕ (Resolution × AccessDecision) :=
  match latestForEvent journal request.eventId with
  | none => .inl (.refused (.noDecision request.eventId))
  | some current =>
    if current.status ≠ .pendingReview then .inl (.resolved (replayResult journal current))
    else if overdue now current then .inr (.expire, current)
    else
      match settlePending request derivedBarrier controllerId current with
      | .error error => .inl (.refused error)
      | .ok resolution => .inr (resolution, current)

def Resolution.status : Resolution → DecisionStatus
  | .expire => .expired
  | .manualOpen _ _ _ => .allowedManually
  | .deny => .deniedManually

def Resolution.decision : Resolution → DecisionType
  | .expire => .manualReview
  | .manualOpen _ _ _ => .allow
  | .deny => .deny

def Resolution.operator (operatorUserId : UserId) : Resolution → Option UserId
  | .expire => none
  | .manualOpen _ _ _ => some operatorUserId
  | .deny => some operatorUserId

def commitResolution (now : Moment) (current : AccessDecision) (resolution : Resolution) :
    Journal × ResolveResult :=
  let newId := journal.decisions.nextKey
  let moved := insertTransition journal current resolution.status resolution.decision
    (resolution.operator request.operatorUserId) now
  match resolution with
  | .manualOpen barrierId controllerId reason =>
    let created := createOpenCommand moved (some newId) controllerId barrierId
      (time + commandTtlSeconds)
    (insertManualOpening created.1 barrierId created.2.commandId (some newId)
        request.operatorUserId reason (some request.eventId) now,
      ⟨resolution.status, newId, current.decisionGroupId, some created.2.commandId, false⟩)
  | _ => (moved, ⟨resolution.status, newId, current.decisionGroupId, none, false⟩)

end

structure ManualOpenRequest where
  barrierId : Nat
  operatorUserId : UserId
  reason : String
  deriving DecidableEq

section

variable (equipment : Equipment) (journal : Journal) (time : Moment)

def expireRow (now : Moment) (journal : Journal) (current : AccessDecision) : Journal :=
  insertTransition journal current .expired .manualReview none now

def expireRows (now : Moment) (rows : List AccessDecision) : Journal := rows.foldl (expireRow now) journal

def commitOpening (request : ManualOpenRequest) (controllerId : Nat) (now : Moment)
    (lapsed : List AccessDecision) : Journal × ManualOpenResult :=
  let swept := expireRows journal now lapsed
  let created := createOpenCommand swept none controllerId request.barrierId
    (time + commandTtlSeconds)
  (insertManualOpening created.1 request.barrierId created.2.commandId none
      request.operatorUserId request.reason none now,
    ⟨created.1.manualOpenings.nextKey, created.2.commandId, request.barrierId⟩)

def sweepKeys (event : CameraEvent) : List Nat :=
  match equipment.barriers.rows.filter fun barrier =>
      event.gateId.any fun gateId => activeAt gateId barrier with
  | [] => [event.gateId.getD event.controllerId]
  | barriers => barriers.map (·.id)

def dueReviews (now : Moment) : List (Nat × Nat) :=
  (journal.decisions.rows.filter fun row =>
    currentPending journal row && overdue now row).flatMap fun row =>
      match journal.cameraEvents.find? row.cameraEventId with
      | none => []
      | some event => (sweepKeys equipment event).map (row.id, ·)

def currentDecisionIfPending (decisionId : Nat) : Option AccessDecision :=
  (journal.decisions.find? decisionId).filter fun row =>
    row.status = .pendingReview &&
      !journal.decisions.rows.any fun other => other.supersedesDecisionId = some decisionId

end

inductive Work where
  | receiving (data : AnprIngestInput) (normalized : Option String) (engine : EngineDecision)
  | deciding (data : AnprIngestInput) (normalized : Option String) (engine : EngineDecision)
  | recording (data : AnprIngestInput) (normalized : Option String) (engine : EngineDecision)
      (verdict : Verdict)
  | settling (request : ResolveRequest) (derivedBarrier controllerId : Option Nat) (now : Moment)
  | moving (request : ResolveRequest) (resolution : Resolution) (current : AccessDecision)
      (now : Moment)
  | sweeping (request : ManualOpenRequest) (controllerId : Nat) (now : Moment)
  | checking (request : ManualOpenRequest) (controllerId : Nat) (now : Moment)
      (lapsed : List AccessDecision)
  | opening (request : ManualOpenRequest) (controllerId : Nat) (now : Moment)
      (lapsed : List AccessDecision)
  | refusing (eventId : Nat) (now : Moment) (lapsed : List AccessDecision)
  | rechecking (decisionId : Nat) (rest : List (Nat × Nat)) (count : Nat) (now : Moment)
  | expiring (current : AccessDecision) (rest : List (Nat × Nat)) (count : Nat) (now : Moment)
  deriving DecidableEq

inductive Stage where
  | idle
  | scoping (data : AnprIngestInput) (normalized : Option String) (engine : EngineDecision)
  | locating (request : ResolveRequest) (now : Moment)
  | keying (request : ResolveRequest) (derivedBarrier controllerId : Option Nat) (now : Moment)
  | addressing (request : ManualOpenRequest) (now : Moment)
  | collecting (now : Moment)
  | waiting (key : Nat) (work : Work)
  | holding (key : Nat) (work : Work)
  | returning (reply : Reply)
  deriving DecidableEq

def nextRow (count : Nat) (now : Moment) : List (Nat × Nat) → Stage
  | [] => .returning (.expired count)
  | (decisionId, key) :: rest => .waiting key (.rechecking decisionId rest count now)

section

variable (equipment : Equipment) (journal : Journal) (time : Moment)

def prepare : Stage → Stage
  | .scoping data normalized engine =>
    let scope := authorizeScope equipment data
    match canonicalLockKey scope.barrierId scope.gateId (some data.controllerId) with
    | none => .idle
    | some key => .waiting key (.receiving (data.scoped scope) normalized (scope.enforce engine))
  | .locating request now =>
    let found := barrierAndControllerForEvent journal equipment request.eventId
    .keying request found.1 found.2 now
  | .keying request derivedBarrier controllerId now =>
    match eventLockKey journal equipment request.eventId with
    | none => .returning (.refused (.noBarrier request.eventId))
    | some key => .waiting key (.settling request derivedBarrier controllerId now)
  | .addressing request now =>
    if reasonGiven (some request.reason) then
      match activeControllerForBarrier equipment request.barrierId with
      | none => .returning (.refused (.unknownBarrier request.barrierId))
      | some controllerId => .waiting request.barrierId (.sweeping request controllerId now)
    else .returning (.refused .reasonRequired)
  | .collecting now => nextRow 0 now (dueReviews equipment journal now)
  | stage => stage

def perform (key : Nat) : Work → Journal × Stage
  | .receiving data normalized engine =>
    match repeatedEvent journal data normalized with
    | some existing => (journal, .returning (.ingested (loadExistingResult journal existing)))
    | none => (journal, .holding key (.deciding data normalized engine))
  | .deciding data normalized engine =>
    (journal, .holding key (.recording data normalized engine (verdict journal time data engine)))
  | .recording data normalized engine verdict =>
    let committed := commitEvent journal time data normalized engine verdict
    (committed.1, .returning (.ingested committed.2))
  | .settling request derivedBarrier controllerId now =>
    match settle journal request derivedBarrier controllerId now with
    | .inl reply => (journal, .returning reply)
    | .inr (resolution, current) => (journal, .holding key (.moving request resolution current now))
  | .moving request resolution current now =>
    let committed := commitResolution journal time request now current resolution
    (committed.1, .returning (.resolved committed.2))
  | .sweeping request controllerId now =>
    (journal,
      .holding key (.checking request controllerId now
        (expiredPendingForBarrier journal equipment request.barrierId now)))
  | .checking request controllerId now lapsed =>
    match activePendingEventForBarrier (expireRows journal now lapsed) equipment
        request.barrierId now with
    | some eventId => (journal, .holding key (.refusing eventId now lapsed))
    | none => (journal, .holding key (.opening request controllerId now lapsed))
  | .opening request controllerId now lapsed =>
    let committed := commitOpening journal time request controllerId now lapsed
    (committed.1, .returning (.opened committed.2))
  | .refusing eventId now lapsed =>
    (expireRows journal now lapsed, .returning (.refused (.pendingReviewConflict eventId)))
  | .rechecking decisionId rest count now =>
    match currentDecisionIfPending journal decisionId with
    | some current => (journal, .holding key (.expiring current rest count now))
    | none => (journal, nextRow count now rest)
  | .expiring current rest count now => (expireRow now journal current, nextRow (count + 1) now rest)

end

structure Store (n : Nat) where
  equipment : Equipment
  journal : Journal
  time : Moment
  workers : Fin n → Stage

inductive Call where
  | ingestAnpr (data : AnprIngestInput) (normalized : Option String) (engine : EngineDecision)
  | resolveEvent (request : ResolveRequest)
  | manualOpenBarrier (request : ManualOpenRequest)
  | expireDueReviews

def Call.start (now : Moment) : Call → Stage
  | .ingestAnpr data normalized engine => .scoping data normalized engine
  | .resolveEvent request => .locating request now
  | .manualOpenBarrier request => .addressing request now
  | .expireDueReviews => .collecting now

def Stage.free : Stage → Bool
  | .idle => true
  | .returning _ => true
  | _ => false

def Stage.heldKey : Stage → Option Nat
  | .holding key _ => some key
  | _ => none

namespace Store

variable {n : Nat} (store : Store n)

def held (worker : Fin n) : Option Nat := (store.workers worker).heldKey

def put (worker : Fin n) (stage : Stage) : Store n :=
  { store with workers := Function.update store.workers worker stage }

def advance (worker : Fin n) : Store n :=
  match store.workers worker with
  | .waiting key work =>
    if Free store.held worker key then store.put worker (.holding key work) else store
  | .holding key work =>
    let performed := perform store.equipment store.journal store.time key work
    { store.put worker performed.2 with journal := performed.1 }
  | stage => store.put worker (prepare store.equipment store.journal stage)

end Store

/-- What happens next. The engine's decision on an event is part of its call: nothing here
depends on how it is found. An administrator may move or switch a barrier at any time. -/
inductive Event (n : Nat) where
  | call (worker : Fin n) (call : Call)
  | step (worker : Fin n)
  | crash (worker : Fin n)
  | tick (elapsed : Nat)
  | equip (barrierId : Nat) (patch : BarrierPatch)

def next {n : Nat} (store : Store n) : Event n → Store n
  | .call worker call =>
    if (store.workers worker).free then store.put worker (call.start store.time) else store
  | .step worker => store.advance worker
  | .crash worker => store.put worker .idle
  | .tick elapsed => { store with time := store.time + elapsed }
  | .equip barrierId patch =>
    match updateBarrier store.equipment barrierId patch with
    | .ok equipment => { store with equipment := equipment }
    | .error _ => store

def Store.initial {n : Nat} (equipment : Equipment) (time : Moment) : Store n :=
  ⟨equipment, .empty, time, fun _ => .idle⟩

end InfrasafeBot.AccessControl
