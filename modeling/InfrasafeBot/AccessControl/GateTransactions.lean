import InfrasafeBot.AccessControl.SystemRuns

/-! The ingestion, the redemption of codes, the cancellation and the change of passes, one
statement after the other. Every statement reads what the others have committed. A row that a
transaction has written, the key of an event it has inserted and its advisory lock are its own
to its end. -/

set_option autoImplicit false

namespace InfrasafeBot.AccessControl.Gates

open Library Locks RequestWorkflow

structure GuestCodeRedeemed where
  passId : Nat
  operatorUserId : UserId
  barrierId : Nat
  apartmentId : Nat
  passType : PassType

structure Ledger where
  system : System
  redemptions : List GuestCodeRedeemed

inductive Answer where
  | ingested (data : AnprIngestInput) (result : IngestResult)
  | redeemed (result : RedeemResult)
  | cancelled (outcome : CancelOutcome)
  | updated (passId : Nat)
  | refusedCode (error : RedeemError)
  | refused (error : RegistryError)

/-- The next statement of a transaction, with what it has read; `written` is the row it leaves
behind when it commits. -/
inductive Work where
  | scoping (data : AnprIngestInput)
  | searching (data : AnprIngestInput) (normalized : Option String) (scope : Scope)
  | inserting (data : AnprIngestInput) (normalized : Option String) (scope : Scope)
  | judging (data : AnprIngestInput) (normalized : Option String) (scope : Scope)
  | granting (data : AnprIngestInput) (normalized : Option String)
  | spending (data : AnprIngestInput) (normalized : Option String) (engine : EngineDecision)
      (passId : Nat)
  | recording (data : AnprIngestInput) (normalized : Option String) (engine : EngineDecision)
      (written : Option AccessPass)
  | seeking (request : RedeemRequest) (now : Moment)
  | burning (request : RedeemRequest) (candidate : AccessPass) (barrierId controllerId : Nat)
  | opening (request : RedeemRequest) (candidate : AccessPass) (barrierId controllerId : Nat)
      (written : AccessPass)
  | cancelling (actorUserId : UserId) (passId : Nat)
  | revoking (passId : Nat)
  | editing (passId : Nat) (request : UpdatePassRequest)
  | patching (loaded : AccessPass) (request : UpdatePassRequest)
  | saving (written : AccessPass) (answer : Answer)

/-- `working` keeps the advisory lock, if it has one. -/
inductive Stage where
  | idle
  | waiting (key : Nat) (work : Work)
  | working (key : Option Nat) (work : Work)
  | returning (answer : Answer)

section

variable (forms : TextForms) (hashCode : String → String) (ledger : Ledger)

def judge (system : System) (data : AnprIngestInput) (normalized : Option String)
    (scope : Scope) : Option EngineDecision :=
  match scope.violation with
  | some reason => some (.of .deny (some reason) none none)
  | none =>
    match data.direction with
    | .exit => some (decideExit system normalized)
    | .entry =>
      if data.confidence.any (· < confidenceThreshold) then
        some (.of .manualReview (some .lowConfidence) none none)
      else decidePermanent system.equipment system.registry (decisionInput data normalized)

def putPass (registry : Registry) (written : AccessPass) : Registry :=
  { registry with passes := registry.passes.put written }

def commitIngest (system : System) (data : AnprIngestInput) (normalized : Option String)
    (engine : EngineDecision) (written : Option AccessPass) : System × IngestResult :=
  let decided := verdict system.journal system.time data engine
  let recorded := recordEvent system.journal system.time data normalized engine decided
  let registry := written.elim system.registry (putPass system.registry)
  ({ system with
      registry := trackPresence data registry engine decided
      journal := recorded.1 },
    recorded.2)

def redemption (request : RedeemRequest) (candidate : AccessPass) (barrierId : Nat) : GuestCodeRedeemed :=
  ⟨candidate.id, request.operatorUserId, barrierId, candidate.apartmentId, candidate.passType⟩

def commitOpened (request : RedeemRequest) (candidate : AccessPass)
    (barrierId controllerId : Nat) (written : AccessPass) : Ledger × RedeemResult :=
  let committed := commitRedeem ledger.system request candidate barrierId controllerId
  ({ system := { committed.1 with registry := putPass ledger.system.registry written }
     redemptions := ledger.redemptions ++ [redemption request candidate barrierId] },
    committed.2)

/-- A column that is set to what has been loaded is not written. -/
def assigned {Value : Type} [DecidableEq Value] (given : Option Value) (loaded stored : Value) : Value :=
  match given with
  | some value => if value = loaded then stored else value
  | none => stored

def patchedPass (loaded stored : AccessPass) (request : UpdatePassRequest) :
    Except RegistryError AccessPass :=
  match assigned request.maxEntries (some loaded.maxEntries) (some stored.maxEntries) with
  | none => .error .integrity
  | some maxEntries =>
    if limited : 0 < maxEntries ∧ stored.usedEntries ≤ maxEntries then
      .ok { stored with
        zoneId := assigned request.zoneId loaded.zoneId stored.zoneId
        validUntil := assigned request.validUntil loaded.validUntil stored.validUntil
        maxEntries := maxEntries
        plateNumberOriginal :=
          assigned request.plateNumberOriginal loaded.plateNumberOriginal
            stored.plateNumberOriginal
        plateNumberNormalized :=
          assigned (request.plateNumberOriginal.map (normalizeOptional forms))
            loaded.plateNumberNormalized stored.plateNumberNormalized
        status :=
          if request.revoked && loaded.status ≠ .revoked then .revoked else stored.status
        limited := limited }
    else .error .integrity

def revokedPass (stored : AccessPass) : AccessPass := { stored with status := .revoked }

/-- The part of the engine's decision that is about passes; a pass that is granted is spent
next. -/
def afterEngine (data : AnprIngestInput) (normalized : Option String) (engine : EngineDecision) : Work :=
  match taxiPass engine with
  | some passId => .spending data normalized engine passId
  | none => .recording data normalized engine none

def perform (key : Option Nat) : Work → Ledger × Stage
  | .scoping data =>
    let scope := authorizeScope ledger.system.equipment data
    match canonicalLockKey scope.barrierId scope.gateId (some data.controllerId) with
    | none => (ledger, .idle)
    | some key =>
      (ledger,
        .waiting key (.searching (data.scoped scope)
          (normalizeOptional forms data.plateNumberOriginal) scope))
  | .searching data normalized scope =>
    match repeatedEvent ledger.system.journal data normalized with
    | some existing =>
      (ledger, .returning (.ingested data (loadExistingResult ledger.system.journal existing)))
    | none => (ledger, .working key (.inserting data normalized scope))
  | .inserting data normalized scope =>
    match findEventId ledger.system.journal data with
    | some existing =>
      (ledger, .returning (.ingested data (loadExistingResult ledger.system.journal existing)))
    | none => (ledger, .working key (.judging data normalized scope))
  | .judging data normalized scope =>
    match judge ledger.system data normalized scope with
    | some engine => (ledger, .working key (.recording data normalized engine none))
    | none => (ledger, .working key (.granting data normalized))
  | .granting data normalized =>
    (ledger,
      .working key (afterEngine data normalized
        (decideTaxi ledger.system.registry (decisionInput data normalized))))
  | .spending data normalized engine passId =>
    match ledger.system.registry.passes.rows.find? (hasRoom passId) with
    | some stored => (ledger, .working key (.recording data normalized engine (some (consumed stored))))
    | none =>
      (ledger,
        .working key (.recording data normalized
          (.of .deny (some .passAlreadyUsed) none (some passId)) none))
  | .recording data normalized engine written =>
    let committed := commitIngest ledger.system data normalized engine written
    ({ ledger with system := committed.1 }, .returning (.ingested data committed.2))
  | .seeking request now =>
    match findCandidate ledger.system.registry (hashCode request.code) now with
    | none => (ledger, .returning (.refusedCode .invalidOrExpired))
    | some candidate =>
      match resolveBarrier ledger.system.equipment candidate.zoneId request.barrierId with
      | .error error => (ledger, .returning (.refusedCode error))
      | .ok (barrierId, controllerId) =>
        (ledger, .waiting barrierId (.burning request candidate barrierId controllerId))
  | .burning request candidate barrierId controllerId =>
    match ledger.system.registry.passes.rows.find? (redeemable candidate.id) with
    | some stored =>
      (ledger, .working key (.opening request candidate barrierId controllerId (consumed stored)))
    | none => (ledger, .returning (.refusedCode .invalidOrExpired))
  | .opening request candidate barrierId controllerId written =>
    let committed := commitOpened ledger request candidate barrierId controllerId written
    (committed.1, .returning (.redeemed committed.2))
  | .cancelling actorUserId passId =>
    match ledger.system.registry.passes.find? passId with
    | none => (ledger, .returning (.refused (.passNotFound passId)))
    | some pass =>
      if !ownsPass ledger.system.registry actorUserId pass then
        (ledger, .returning (.refused (.passNotOwned passId actorUserId)))
      else if pass.status = .revoked then (ledger, .returning (.cancelled ⟨pass.id, pass.status, true⟩))
      else (ledger, .working key (.revoking passId))
  | .revoking passId =>
    match ledger.system.registry.passes.find? passId with
    | none => (ledger, .idle)
    | some stored =>
      (ledger, .working key (.saving (revokedPass stored) (.cancelled ⟨passId, .revoked, false⟩)))
  | .editing passId request =>
    match ledger.system.registry.passes.find? passId with
    | none => (ledger, .returning (.refused (.passNotFound passId)))
    | some loaded => (ledger, .working key (.patching loaded request))
  | .patching loaded request =>
    match ledger.system.registry.passes.find? loaded.id with
    | none => (ledger, .idle)
    | some stored =>
      match patchedPass forms loaded stored request with
      | .error error => (ledger, .returning (.refused error))
      | .ok changed => (ledger, .working key (.saving changed (.updated loaded.id)))
  | .saving written answer =>
    ({ ledger with system := { ledger.system with registry := putPass ledger.system.registry written } },
      .returning answer)

end

inductive Call where
  | ingestAnpr (data : AnprIngestInput)
  | redeemCode (request : RedeemRequest)
  | cancelResidentPass (actorUserId : UserId) (passId : Nat)
  | updatePass (passId : Nat) (request : UpdatePassRequest)

def Call.accepted : Call → Bool
  | .updatePass _ request => request.accepted
  | _ => true

def Call.start (now : Moment) : Call → Stage
  | .ingestAnpr data => .working none (.scoping data)
  | .redeemCode request => .working none (.seeking request now)
  | .cancelResidentPass actorUserId passId => .working none (.cancelling actorUserId passId)
  | .updatePass passId request => .working none (.editing passId request)

def Stage.free : Stage → Bool
  | .idle => true
  | .returning _ => true
  | _ => false

def Stage.barrierKey : Stage → Option Nat
  | .working key _ => key
  | _ => none

def Work.eventKey : Work → Option (Nat × String)
  | .judging data _ _ => some (data.controllerId, data.eventId)
  | .granting data _ => some (data.controllerId, data.eventId)
  | .spending data _ _ _ => some (data.controllerId, data.eventId)
  | .recording data _ _ _ => some (data.controllerId, data.eventId)
  | _ => none

def Work.written : Work → Option AccessPass
  | .recording _ _ _ written => written
  | .opening _ _ _ _ written => some written
  | .saving written _ => some written
  | _ => none

def Stage.eventKey : Stage → Option (Nat × String)
  | .working _ work => work.eventKey
  | _ => none

def Stage.written : Stage → Option AccessPass
  | .working _ work => work.written
  | _ => none

def Stage.passId (stage : Stage) : Option Nat := stage.written.map (·.id)

structure State (n : Nat) where
  ledger : Ledger
  workers : Fin n → Stage

namespace State

variable {n : Nat} (state : State n)

def barrierKeys (worker : Fin n) : Option Nat := (state.workers worker).barrierKey

def eventKeys (worker : Fin n) : Option (Nat × String) := (state.workers worker).eventKey

def passIds (worker : Fin n) : Option Nat := (state.workers worker).passId

def put (worker : Fin n) (stage : Stage) : State n :=
  { state with workers := Function.update state.workers worker stage }

def enters (worker : Fin n) (stage : Stage) : Bool :=
  stage.eventKey.all (fun key => Free state.eventKeys worker key) &&
    stage.passId.all fun passId => Free state.passIds worker passId

def advance (forms : TextForms) (hashCode : String → String) (worker : Fin n) : State n :=
  match state.workers worker with
  | .waiting key work =>
    if Free state.barrierKeys worker key then state.put worker (.working (some key) work)
    else state
  | .working key work =>
    let performed := perform forms hashCode state.ledger key work
    if state.enters worker performed.2 then { state.put worker performed.2 with ledger := performed.1 }
    else state
  | _ => state

end State

def single : SystemCall → Bool
  | .ingestAnpr _ => false
  | .redeemCode _ => false
  | .register (.updatePass _ _) => false
  | .register (.cancelResidentPass _ _) => false
  | _ => true

inductive Event (n : Nat) where
  | call (worker : Fin n) (call : Call)
  | step (worker : Fin n)
  | fail (worker : Fin n)
  | operate (call : SystemCall)

section

variable (forms : TextForms) (hashCode : String → String) {n : Nat}

def next (state : State n) : Event n → State n
  | .call worker call =>
    if call.accepted && (state.workers worker).free then
      state.put worker (call.start state.ledger.system.time)
    else state
  | .step worker => state.advance forms hashCode worker
  | .fail worker => state.put worker .idle
  | .operate call =>
    if single call then
      { state with
        ledger := { state.ledger with
          system := AccessControl.step forms hashCode state.ledger.system call } }
    else state

end

def State.initial {n : Nat} (territory : Territory) (time : Moment) : State n :=
  ⟨⟨System.initial territory time, []⟩, fun _ => .idle⟩

end InfrasafeBot.AccessControl.Gates
