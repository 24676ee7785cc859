import InfrasafeBot.AccessControl.Ingestion
import InfrasafeBot.AccessControl.Registration

/-! The calls of the access control as transactions that follow one another, and what they
do to the whole system. -/

set_option autoImplicit false

namespace InfrasafeBot.AccessControl

open Library RequestWorkflow

inductive RegistryCall where
  | createVehicle (request : CreateVehicleRequest)
  | setVehicleStatus (vehicleId : Nat) (request : VehicleStatusRequest)
  | updateVehicle (vehicleId : Nat) (request : UpdateVehicleRequest)
  | createTaxiPass (actorUserId : UserId) (request : TaxiPassRequest)
  | updatePass (passId : Nat) (request : UpdatePassRequest)
  | reviewRequest (requestId : Nat) (review : ReviewRequest)
  | createResidentRequest (actorUserId : UserId) (request : CreateResidentRequest)
  | createResidentPass (actorUserId : UserId) (code : String) (request : CreateResidentPass)
  | cancelResidentPass (actorUserId : UserId) (passId : Nat)

def RegistryCall.accepted : RegistryCall → Bool
  | .createVehicle request => request.accepted
  | .setVehicleStatus _ request => request.accepted
  | .updateVehicle _ request => request.accepted
  | .createTaxiPass _ request => request.accepted
  | .updatePass _ request => request.accepted
  | .createResidentRequest _ request => request.accepted
  | .createResidentPass _ _ request => request.accepted
  | _ => true

def callRegistry (forms : TextForms) (hashCode : String → String) (registry : Registry)
    (now : Moment) : RegistryCall → Except RegistryError Registry
  | .createVehicle request => createVehicle forms registry request
  | .setVehicleStatus vehicleId request => setVehicleStatus registry vehicleId request
  | .updateVehicle vehicleId request => updateVehicle forms registry vehicleId request
  | .createTaxiPass actorUserId request => createTaxiPass forms registry now actorUserId request
  | .updatePass passId request => updatePass forms registry passId request
  | .reviewRequest requestId review => (reviewRequest forms registry requestId review).map (·.1)
  | .createResidentRequest actorUserId request => createResidentRequest forms registry actorUserId request
  | .createResidentPass actorUserId code request =>
    (createResidentPass forms registry hashCode code now actorUserId request).map (·.1)
  | .cancelResidentPass actorUserId passId => (cancelResidentPass registry actorUserId passId).map (·.1)

inductive EquipmentCall where
  | createZone (code : String) (parkingType : Option ParkingType) (cap : Option Nat)
  | updateZone (zoneId : Nat) (patch : ZonePatch)
  | createGate (code : String) (zoneId : Nat) (direction : Direction)
      (controllerId : Option Nat) (isActive : Bool)
  | updateGate (gateId : Nat) (patch : GatePatch)
  | createBarrier (code : String) (gateId : Nat) (controllerId : Option Nat) (isActive : Bool)
  | updateBarrier (barrierId : Nat) (patch : BarrierPatch)
  | createController (controllerUid : String) (zoneId gateId : Option Nat)
  | updateController (controllerId : Nat) (patch : ControllerPatch)

def callEquipment (equipment : Equipment) : EquipmentCall → Except EquipmentError Equipment
  | .createZone code parkingType cap => createZone equipment code parkingType cap
  | .updateZone zoneId patch => updateZone equipment zoneId patch
  | .createGate code zoneId direction controllerId isActive =>
    createGate equipment code zoneId direction controllerId isActive
  | .updateGate gateId patch => updateGate equipment gateId patch
  | .createBarrier code gateId controllerId isActive =>
    createBarrier equipment code gateId controllerId isActive
  | .updateBarrier barrierId patch => updateBarrier equipment barrierId patch
  | .createController controllerUid zoneId gateId => createController equipment controllerUid zoneId gateId
  | .updateController controllerId patch => updateController equipment controllerId patch

section

variable (equipment : Equipment) (journal : Journal) (time : Moment)

def resolveEvent (request : ResolveRequest) : Journal × Reply :=
  let found := barrierAndControllerForEvent journal equipment request.eventId
  match eventLockKey journal equipment request.eventId with
  | none => (journal, .refused (.noBarrier request.eventId))
  | some _ =>
    match settle journal request found.1 found.2 time with
    | .inl reply => (journal, reply)
    | .inr (resolution, current) =>
      let committed := commitResolution journal time request time current resolution
      (committed.1, .resolved committed.2)

def manualOpenBarrier (request : ManualOpenRequest) : Journal × Reply :=
  if reasonGiven (some request.reason) then
    match activeControllerForBarrier equipment request.barrierId with
    | none => (journal, .refused (.unknownBarrier request.barrierId))
    | some controllerId =>
      let lapsed := expiredPendingForBarrier journal equipment request.barrierId time
      let swept := expireRows journal time lapsed
      match activePendingEventForBarrier swept equipment request.barrierId time with
      | some eventId => (swept, .refused (.pendingReviewConflict eventId))
      | none =>
        let committed := commitOpening journal time request controllerId time lapsed
        (committed.1, .opened committed.2)
  else (journal, .refused .reasonRequired)

def expireDue (journal : Journal) (decisionId : Nat) : Journal :=
  match currentDecisionIfPending journal decisionId with
  | some current => expireRow time journal current
  | none => journal

def expireDueReviews : Journal :=
  ((dueReviews equipment journal time).map (·.1)).foldl (expireDue time) journal

end

inductive SystemCall where
  | register (call : RegistryCall)
  | equip (call : EquipmentCall)
  | furnish (territory : Territory) (spots : Table ParkingSpot.id)
      (assignments : Table ParkingSpotAssignment.id)
  | ingestAnpr (data : AnprIngestInput)
  | redeemCode (request : RedeemRequest)
  | resolveEvent (request : ResolveRequest)
  | manualOpenBarrier (request : ManualOpenRequest)
  | expireDueReviews
  | tick (elapsed : Nat)

section

variable (forms : TextForms) (hashCode : String → String) (system : System)

def register (call : RegistryCall) : System :=
  if call.accepted then
    match callRegistry forms hashCode system.registry system.time call with
    | .ok registry => { system with registry := registry }
    | .error _ => system
  else system

def equip (call : EquipmentCall) : System :=
  match callEquipment system.equipment call with
  | .ok equipment => { system with equipment := equipment }
  | .error _ => system

def redeem (request : RedeemRequest) : System :=
  match redeemCode hashCode system request with
  | .ok (redeemed, _) => redeemed
  | .error _ => system

def step (system : System) : SystemCall → System
  | .register call => register forms hashCode system call
  | .equip call => equip system call
  | .furnish territory spots assignments =>
    { system with
      registry := { system.registry with
        territory := territory
        spots := spots
        assignments := assignments } }
  | .ingestAnpr data => (runIngest forms system data).1
  | .redeemCode request => redeem hashCode system request
  | .resolveEvent request =>
    { system with journal := (resolveEvent system.equipment system.journal system.time request).1 }
  | .manualOpenBarrier request =>
    { system with journal := (manualOpenBarrier system.equipment system.journal system.time request).1 }
  | .expireDueReviews =>
    { system with journal := expireDueReviews system.equipment system.journal system.time }
  | .tick elapsed => { system with time := system.time + elapsed }

end

def Equipment.empty : Equipment := ⟨.empty, .empty, .empty, .empty, by simp [Table.empty]⟩

def System.initial (territory : Territory) (time : Moment) : System :=
  ⟨.empty, .empty territory, .empty, time⟩

end InfrasafeBot.AccessControl
