import InfrasafeBot.Library.Machine
import InfrasafeBot.AccessControl.Registration
import InfrasafeBot.Library.Locks

/-! Several reviews of one request of a resident (`review_request` of `services/management.py`),
one statement after the other. The request is read without a lock. A row that is written and the
plate of a vehicle that is created stay with their transaction to its end. -/

set_option autoImplicit false

namespace InfrasafeBot.AccessControl.Reviews

open Library Locks RequestWorkflow

structure ReviewAudit where
  actorUserId : UserId
  action : String
  requestId : Nat
  zoneIds : List Nat
  vehicleId : Option Nat

structure ReviewCall where
  actorUserId : UserId
  review : ReviewRequest
  deriving DecidableEq

structure Grant where
  vehicle : Vehicle
  created : Bool
  link : Option VehicleApartment
  deriving DecidableEq

/-- The next statement of a review with what it has loaded; a rejection grants nothing. -/
inductive Stage where
  | idle
  | loading (call : ReviewCall)
  | resolving (call : ReviewCall) (request : ResidentAccessRequest)
  | searching (call : ReviewCall) (request : ResidentAccessRequest)
  | creating (call : ReviewCall) (request : ResidentAccessRequest)
  | linking (call : ReviewCall) (request : ResidentAccessRequest) (vehicle : Vehicle)
      (created : Bool)
  | flushing (call : ReviewCall) (request : ResidentAccessRequest) (grant : Option Grant)
  | committing (call : ReviewCall) (request : ResidentAccessRequest) (grant : Option Grant)
  | refreshing (vehicleId : Option Nat)
  deriving DecidableEq

structure State (n : Nat) where
  registry : Registry
  audit : List ReviewAudit
  returned : List ReviewOutcome
  workers : Fin n → Stage

section

variable (forms : TextForms) (registry : Registry)

def grantLink (request : ResidentAccessRequest) (grant : Grant) : Registry :=
  match grant.link with
  | some existing =>
    if existing.status = .active then registry
    else { registry with links := registry.links.put { existing with status := .active } }
  | none =>
    { registry with
      links := registry.links.insert (newLink grant.vehicle.id request.apartmentId)
        (newLink_id grant.vehicle.id request.apartmentId) }

def grantVehicle (request : ResidentAccessRequest) (grant : Grant) : Except RegistryError Registry :=
  if grant.created then addVehicle registry request.original (request.normalized forms)
  else activateVehicle registry grant.vehicle

def rejectedRow (stored : ResidentAccessRequest) : ResidentAccessRequest :=
  { stored with status := .rejected }

theorem rejectedRow_id (stored : ResidentAccessRequest) : (rejectedRow stored).id = stored.id := rfl

def approvedRow (request : ResidentAccessRequest) (vehicleId : Nat)
    (stored : ResidentAccessRequest) : ResidentAccessRequest :=
  { stored with
    status := .approved
    vehicleId :=
      if request.vehicleId = some vehicleId then stored.vehicleId else some vehicleId }

theorem approvedRow_id (request : ResidentAccessRequest) (vehicleId : Nat)
    (stored : ResidentAccessRequest) : (approvedRow request vehicleId stored).id = stored.id := rfl

def updateRequest (requestId : Nat) (change : ResidentAccessRequest → ResidentAccessRequest)
    (keeps : ∀ row, (change row).id = row.id) : Registry :=
  { registry with requests := registry.requests.update (·.id = requestId) change keeps }

/-- What the transaction of a review commits; no other column of the rows it writes changes
meanwhile. -/
def commitReview (call : ReviewCall) (request : ResidentAccessRequest) :
    Option Grant → Except RegistryError Registry
  | none => .ok (updateRequest registry request.id rejectedRow rejectedRow_id)
  | some grant => do
      let stored ← grantVehicle forms registry request grant
      let linked := grantLink stored request grant
      let ruled := call.review.effectiveZones.foldl
        (addZoneRule grant.vehicle.id (some request.apartmentId)) linked
      return updateRequest ruled request.id (approvedRow request grant.vehicle.id)
        (approvedRow_id request grant.vehicle.id)

def resultVehicleId (request : ResidentAccessRequest) : Option Grant → Option Nat
  | none => request.vehicleId
  | some grant => some grant.vehicle.id

def auditRow (call : ReviewCall) (request : ResidentAccessRequest) (grant : Option Grant) :
    ReviewAudit where
  actorUserId := call.actorUserId
  action := if grant.isSome then "access.request_approve" else "access.request_reject"
  requestId := request.id
  zoneIds := call.review.effectiveZones
  vehicleId := resultVehicleId request grant

end

def Stage.requestId : Stage → Option Nat
  | .committing _ request _ => some request.id
  | _ => none

/-- A plate that is entered into the unique index: of a created vehicle, and of one that leaves
the archive. -/
def Stage.plate (forms : TextForms) : Stage → Option String
  | .linking _ request _ true => some (request.normalized forms)
  | .flushing _ request (some ⟨_, true, _⟩) => some (request.normalized forms)
  | .committing _ request (some ⟨_, true, _⟩) => some (request.normalized forms)
  | .committing _ _ (some ⟨vehicle, false, _⟩) =>
    if vehicle.status = .archived then some vehicle.plateNumberNormalized else none
  | _ => none

inductive Event (n : Nat) where
  | call (worker : Fin n) (call : ReviewCall)
  | step (worker : Fin n)
  | fail (worker : Fin n)

section

variable (forms : TextForms) (requestId : Nat) {n : Nat} (state : State n) (worker : Fin n)

def State.put (stage : Stage) : State n :=
  { state with workers := Function.update state.workers worker stage }

def State.answer (outcome : ReviewOutcome) : State n :=
  { state.put worker .idle with returned := state.returned ++ [outcome] }

def State.enters (stage : Stage) : Bool :=
  stage.requestId.all (fun id => Free (fun other => (state.workers other).requestId) worker id) &&
    (stage.plate forms).all fun plate => Free (fun other => (state.workers other).plate forms) worker plate

def State.await (stage : Stage) : State n :=
  if state.enters forms worker stage then state.put worker stage else state

def State.advance : State n :=
  match state.workers worker with
  | .idle => state
  | .loading call =>
    match state.registry.requests.find? requestId with
    | none => state.put worker .idle
    | some request =>
      if request.status ≠ .pending then
        state.answer worker ⟨request.id, request.status, request.vehicleId, true⟩
      else
        match call.review.action with
        | .approve => state.put worker (.resolving call request)
        | .reject => state.put worker (.flushing call request none)
  | .resolving call request =>
    match request.vehicleId.bind state.registry.vehicles.find? with
    | some existing => state.put worker (.linking call request existing false)
    | none => state.put worker (.searching call request)
  | .searching call request =>
    match (request.plateNumberNormalized.filter (· ≠ "")).bind
        (activeVehicleByPlate state.registry) with
    | some byPlate => state.put worker (.linking call request byPlate false)
    | none => state.put worker (.creating call request)
  | .creating call request =>
    match addVehicle state.registry request.original (request.normalized forms) with
    | .error _ => state.put worker .idle
    | .ok _ =>
      state.await forms worker (.linking call request
        (newVehicle request.original (request.normalized forms) state.registry.vehicles.nextKey) true)
  | .linking call request vehicle created =>
    state.put worker (.flushing call request (some ⟨vehicle, created,
      state.registry.links.rows.find? (linksTo vehicle.id request.apartmentId)⟩))
  | .flushing call request grant => state.await forms worker (.committing call request grant)
  | .committing call request grant =>
    match commitReview forms state.registry call request grant with
    | .error _ => state.put worker .idle
    | .ok committed =>
      { state.put worker (.refreshing (resultVehicleId request grant)) with
        registry := committed
        audit := state.audit ++ [auditRow call request grant] }
  | .refreshing vehicleId =>
    match state.registry.requests.find? requestId with
    | none => state.put worker .idle
    | some request => state.answer worker ⟨request.id, request.status, vehicleId, false⟩

def next : Event n → State n
  | .call worker call =>
    if state.workers worker = .idle then state.put worker (.loading call) else state
  | .step worker => state.advance forms requestId worker
  | .fail worker => state.put worker .idle

end

def State.initial {n : Nat} (registry : Registry) : State n := ⟨registry, [], [], fun _ => .idle⟩

end InfrasafeBot.AccessControl.Reviews
