import InfrasafeBot.AccessControl.DecisionEngine
import InfrasafeBot.AccessControl.ReviewLifecycle

/-! One camera event from its reception to its command (`_run_ingest` of
`services/ingestion.py`) and the redemption of one-time codes
(`services/one_time_codes.py`), each as one transaction. -/

set_option autoImplicit false

namespace InfrasafeBot.AccessControl

open RequestWorkflow

structure System where
  equipment : Equipment
  registry : Registry
  journal : Journal
  time : Moment

section

variable (forms : TextForms) (system : System) (data : AnprIngestInput)

def decisionInput (normalized : Option String) : AnprDecisionInput where
  zoneId := data.zoneId
  plateNumberNormalized := normalized.getD ""
  direction := data.direction
  confidence := data.confidence
  capturedAt := data.capturedAt

def decideExit (normalized : Option String) : EngineDecision :=
  .of .allow none
    ((normalized.filter (· ≠ "")).bind fun plate =>
      (activeVehicleByPlate system.registry plate).map (·.id)) none

def engineFor (normalized : Option String) : EngineDecision :=
  match data.direction with
  | .exit => decideExit system normalized
  | .entry => decide system.equipment system.registry (decisionInput data normalized)

theorem engineFor_entry (normalized : Option String) (entry : data.direction = .entry) :
    engineFor system data normalized =
      decide system.equipment system.registry (decisionInput data normalized) := by
  rw [engineFor, entry]

def taxiPass (engine : EngineDecision) : Option Nat :=
  if engine.decision = .allow ∧ engine.reason = some .temporaryPassAllowed then engine.matchedPassId
  else none

def consumeTaxi (registry : Registry) (engine : EngineDecision) : Registry × EngineDecision :=
  match taxiPass engine with
  | none => (registry, engine)
  | some passId =>
    let consumed := consumeTaxiEntry registry passId
    if consumed.2 then (consumed.1, engine)
    else (consumed.1, .of .deny (some .passAlreadyUsed) none (some passId))

def trackPresence (registry : Registry) (engine : EngineDecision) (verdict : Verdict) : Registry :=
  match engine.matchedVehicleId, data.zoneId with
  | some vehicleId, some zoneId =>
    if verdict.decision ≠ .allow then registry
    else
      match data.direction with
      | .exit => closePresenceSession registry vehicleId zoneId data.capturedAt
      | .entry =>
        if verdict.finalStatus = .allowed then openPresenceSession registry vehicleId zoneId data.capturedAt
        else registry
  | _, _ => registry

/-- The part after the scope: a new event, with the values of its scope. -/
def receiveEvent (normalized : Option String) (scope : Scope) : System × IngestResult :=
  let consumed := consumeTaxi system.registry (scope.enforce (engineFor system data normalized))
  let decided := verdict system.journal system.time data consumed.2
  let recorded := recordEvent system.journal system.time data normalized consumed.2 decided
  ({ system with
      registry := trackPresence data consumed.1 consumed.2 decided
      journal := recorded.1 },
    recorded.2)

def runIngest : System × IngestResult :=
  let scope := authorizeScope system.equipment data
  let located := data.scoped scope
  let normalized := normalizeOptional forms data.plateNumberOriginal
  match repeatedEvent system.journal located normalized with
  | some existing => (system, loadExistingResult system.journal existing)
  | none => receiveEvent system located normalized scope

end

inductive RedeemError where
  | invalidOrExpired
  /-- `int(None)`: the barrier of the zone has no controller. -/
  | typeError
  deriving DecidableEq

structure RedeemRequest where
  code : String
  operatorUserId : UserId
  barrierId : Option Nat

structure RedeemResult where
  passId : Nat
  apartmentId : Nat
  passType : PassType
  validUntil : Option Moment
  commandId : Nat
  barrierId : Nat
  deriving DecidableEq

section

def gateZone (equipment : Equipment) (barrierId : Nat) : Option Nat :=
  (equipment.barriers.find? barrierId).bind fun barrier =>
    (equipment.gates.find? barrier.gateId).map (·.zoneId)

def firstActiveBarrierOfZone (equipment : Equipment) (zoneId : Nat) : Option Nat :=
  lowest ((equipment.barriers.rows.filter fun barrier =>
    barrier.isActive && gateZone equipment barrier.id = some zoneId).map (·.id))

def resolveBarrier (equipment : Equipment) (zoneId barrierId : Option Nat) :
    Except RedeemError (Nat × Nat) :=
  match barrierId with
  | some barrierId =>
    match activeControllerForBarrier equipment barrierId with
    | none => .error .invalidOrExpired
    | some controllerId => .ok (barrierId, controllerId)
  | none =>
    match zoneId.bind (firstActiveBarrierOfZone equipment) with
    | none => .error .invalidOrExpired
    | some barrierId =>
      match (equipment.barriers.find? barrierId).bind (·.controllerId) with
      | none => .error .typeError
      | some controllerId => .ok (barrierId, controllerId)

def findCandidate (registry : Registry) (codeHash : String) (now : Moment) : Option AccessPass :=
  registry.passes.rows.find? fun pass =>
    pass.passType = .guest && pass.oneTimeCodeHash = some codeHash && pass.status = .active &&
      pass.validUntil.any (now < ·) && pass.usedEntries < pass.maxEntries

def redeemable (passId : Nat) (pass : AccessPass) : Bool :=
  pass.id = passId && pass.status = .active && pass.usedEntries < pass.maxEntries

variable (hashCode : String → String) (system : System) (request : RedeemRequest)

def commitRedeem (candidate : AccessPass) (barrierId controllerId : Nat) : System × RedeemResult :=
  let created := createOpenCommand system.journal none controllerId barrierId
    (system.time + commandTtlSeconds)
  ({ system with
      registry := consumeWhere system.registry (redeemable candidate.id)
      journal := insertManualOpening created.1 barrierId created.2.commandId none
        request.operatorUserId "guest_code" none system.time },
    ⟨candidate.id, candidate.apartmentId, candidate.passType, candidate.validUntil,
      created.2.commandId, barrierId⟩)

def redeemCode : Except RedeemError (System × RedeemResult) :=
  match findCandidate system.registry (hashCode request.code) system.time with
  | none => .error .invalidOrExpired
  | some candidate =>
    match resolveBarrier system.equipment candidate.zoneId request.barrierId with
    | .error error => .error error
    | .ok (barrierId, controllerId) =>
      if system.registry.passes.rowcount (redeemable candidate.id) = 1 then
        .ok (commitRedeem system request candidate barrierId controllerId)
      else .error .invalidOrExpired

end

end InfrasafeBot.AccessControl
