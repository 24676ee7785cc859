import InfrasafeBot.AccessControl.Events
import InfrasafeBot.AccessControl.Registry

/-! The decision on an entry (`services/decision_engine.py`) and the grants it rests on. -/

set_option autoImplicit false

namespace InfrasafeBot.AccessControl

open Library RequestWorkflow

/-- In ten-thousandths. -/
def confidenceThreshold : Nat := 7000

structure AnprDecisionInput where
  zoneId : Option Nat
  plateNumberNormalized : String
  direction : Direction
  confidence : Option Nat
  capturedAt : Moment

def withinWindow (moment : Moment) (validFrom validUntil : Option Moment) : Bool :=
  !validFrom.any (moment < ·) && !validUntil.any (· < moment)

section

variable (equipment : Equipment) (registry : Registry)

def activeApartmentIds (vehicleId : Nat) (moment : Moment) : List Nat :=
  (registry.links.rows.filter fun link =>
    link.vehicleId = vehicleId && link.status = .active &&
      withinWindow moment link.validFrom link.validUntil).map (·.apartmentId)

def ruleMatches (vehicleId : Nat) (apartmentIds : List Nat) (zoneId : Option Nat)
    (direction : Direction) (moment : Moment) (rule : AccessRule) : Bool :=
  rule.isActive && zoneId = some rule.zoneId &&
    (rule.vehicleId = some vehicleId || rule.apartmentId.any (apartmentIds.contains ·)) &&
    withinWindow moment rule.validFrom rule.validUntil &&
    rule.allowedDirections.all fun allowed => allowed.isEmpty || allowed.contains direction

def zoneRuleMatches (vehicleId : Nat) (apartmentIds : List Nat) (zoneId : Option Nat)
    (direction : Direction) (moment : Moment) : Bool :=
  registry.rules.rows.any (ruleMatches vehicleId apartmentIds zoneId direction moment)

def spotInZone (zoneId : Nat) (assignment : ParkingSpotAssignment) : Bool :=
  (registry.spots.find? assignment.spotId).any fun spot => spot.zoneId = zoneId && spot.status = .active

def assignmentsFor (apartmentIds : List Nat) (zoneId : Nat) : List ParkingSpotAssignment :=
  registry.assignments.rows.filter fun assignment =>
    spotInZone registry zoneId assignment && apartmentIds.contains assignment.apartmentId &&
      (assignment.status = .active || assignment.status = .expired)

def isCurrent (moment : Moment) (assignment : ParkingSpotAssignment) : Bool :=
  assignment.status = .active && withinWindow moment assignment.validFrom assignment.validUntil

def currentAssignments (apartmentIds : List Nat) (zoneId : Nat) (moment : Moment) :
    List ParkingSpotAssignment :=
  (assignmentsFor registry apartmentIds zoneId).filter (isCurrent moment)

def decideAssigned (vehicleId : Nat) (apartmentIds : List Nat) (zoneId : Nat)
    (moment : Moment) : EngineDecision :=
  if apartmentIds = [] then .of .deny (some .spotNotAssigned) (some vehicleId) none
  else if currentAssignments registry apartmentIds zoneId moment = [] then
    if (assignmentsFor registry apartmentIds zoneId).any (·.validUntil.any (· < moment)) then
      .of .deny (some .spotRentalExpired) (some vehicleId) none
    else .of .deny (some .spotNotAssigned) (some vehicleId) none
  else if (currentAssignments registry apartmentIds zoneId moment).all (·.enforceLimit) &&
      (currentAssignments registry apartmentIds zoneId moment).length ≤
        countOpenForApartmentZone registry apartmentIds zoneId then
    .of .manualReview (some .parkingSpotOccupied) (some vehicleId) none
  else .of .allow (some .assignedSpotAllowed) (some vehicleId) none

def countActiveApartmentVehicles (apartmentId : Nat) (moment : Moment) : Nat :=
  registry.links.rowcount fun link =>
    link.apartmentId = apartmentId && link.status = .active &&
      (registry.vehicles.find? link.vehicleId).any (·.status = .active) &&
      withinWindow moment link.validFrom link.validUntil

def servedApartments (apartmentIds : List Nat) (zoneId : Nat) : List Nat :=
  apartmentIds.filter (servedByZone registry · zoneId)

def decideShared (vehicleId : Nat) (apartmentIds : List Nat) (zone : ParkingZone)
    (moment : Moment) : EngineDecision :=
  let served := servedApartments registry apartmentIds zone.id
  if served = [] then .of .deny (some .zoneNotAllowed) (some vehicleId) none
  else if zone.maxPermanentVehiclesPerApartment.any fun cap =>
      served.any (cap < countActiveApartmentVehicles registry · moment) then
    .of .manualReview (some .perApartmentLimitExceeded) (some vehicleId) none
  else .of .allow (some .sharedAccessAllowed) (some vehicleId) none

def decideByZone (vehicleId : Nat) (apartmentIds : List Nat) (zoneId : Option Nat)
    (moment : Moment) : EngineDecision :=
  match zoneId.bind equipment.zones.find? with
  | none => .of .deny (some .zoneNotAllowed) (some vehicleId) none
  | some zone =>
    match zone.parkingType with
    | .assigned => decideAssigned registry vehicleId apartmentIds zone.id moment
    | .shared => decideShared registry vehicleId apartmentIds zone moment

def decidePermanent (data : AnprDecisionInput) : Option EngineDecision :=
  (activeVehicleByPlate registry data.plateNumberNormalized).map fun vehicle =>
    if vehicle.status = .blocked then .of .deny (some .vehicleBlocked) (some vehicle.id) none
    else
      let apartmentIds := activeApartmentIds registry vehicle.id data.capturedAt
      if zoneRuleMatches registry vehicle.id apartmentIds data.zoneId data.direction
          data.capturedAt then
        .of .allow (some .permanentVehicleAllowed) (some vehicle.id) none
      else decideByZone equipment registry vehicle.id apartmentIds data.zoneId data.capturedAt

def decideTaxi (data : AnprDecisionInput) : EngineDecision :=
  match taxiPassByPlate registry data.plateNumberNormalized with
  | none => .of .deny (some .vehicleNotFound) none none
  | some pass =>
    if pass.zoneId.isSome && data.zoneId.isSome && pass.zoneId ≠ data.zoneId then
      .of .deny (some .zoneNotAllowed) none (some pass.id)
    else if !withinWindow data.capturedAt pass.validFrom pass.validUntil then
      .of .deny (some .passExpired) none (some pass.id)
    else if pass.maxEntries ≤ pass.usedEntries then .of .deny (some .passAlreadyUsed) none (some pass.id)
    else .of .allow (some .temporaryPassAllowed) none (some pass.id)

def decide (data : AnprDecisionInput) : EngineDecision :=
  if data.confidence.any (· < confidenceThreshold) then .of .manualReview (some .lowConfidence) none none
  else
    match decidePermanent equipment registry data with
    | some permanent => permanent
    | none => decideTaxi registry data

end

/-- What lets a car in: a rule of a zone, a spot there, a zone that serves its apartment, or a
pass, which may be for every zone. -/
inductive Grant where
  | rule (granted : AccessRule)
  | assignment (granted : ParkingSpotAssignment) (zoneId : Nat)
  | service (apartmentId zoneId : Nat)
  | pass (granted : AccessPass)

def Grant.zone : Grant → Option Nat
  | .rule granted => some granted.zoneId
  | .assignment _ zoneId => some zoneId
  | .service _ zoneId => some zoneId
  | .pass granted => granted.zoneId

section

variable (registry : Registry) (data : AnprDecisionInput)

/-- The grants a decision rests on, by its reason. -/
inductive Used (engine : EngineDecision) : Grant → Prop where
  | rule {vehicle : Vehicle} {rule : AccessRule}
      (reason : engine.reason = some .permanentVehicleAllowed)
      (bearer : activeVehicleByPlate registry data.plateNumberNormalized = some vehicle)
      (listed : rule ∈ registry.rules.rows)
      (fits : ruleMatches vehicle.id (activeApartmentIds registry vehicle.id data.capturedAt)
        data.zoneId data.direction data.capturedAt rule = true) : Used engine (.rule rule)
  | assignment {vehicle : Vehicle} {assignment : ParkingSpotAssignment} {zoneId : Nat}
      (reason : engine.reason = some .assignedSpotAllowed)
      (bearer : activeVehicleByPlate registry data.plateNumberNormalized = some vehicle)
      (zone : data.zoneId = some zoneId)
      (current : assignment ∈ currentAssignments registry
        (activeApartmentIds registry vehicle.id data.capturedAt) zoneId data.capturedAt) :
      Used engine (.assignment assignment zoneId)
  | service {vehicle : Vehicle} {apartmentId zoneId : Nat}
      (reason : engine.reason = some .sharedAccessAllowed)
      (bearer : activeVehicleByPlate registry data.plateNumberNormalized = some vehicle)
      (zone : data.zoneId = some zoneId)
      (served : apartmentId ∈ servedApartments registry
        (activeApartmentIds registry vehicle.id data.capturedAt) zoneId) :
      Used engine (.service apartmentId zoneId)
  | pass {pass : AccessPass} (reason : engine.reason = some .temporaryPassAllowed)
      (found : taxiPassByPlate registry data.plateNumberNormalized = some pass) :
      Used engine (.pass pass)

end

section

variable {equipment : Equipment} {registry : Registry} {data : AnprDecisionInput}
  {vehicleId : Nat} {apartmentIds : List Nat} {moment : Moment}

theorem decideAssigned_allows {zoneId : Nat}
    (allows : (decideAssigned registry vehicleId apartmentIds zoneId moment).decision = .allow) :
    (decideAssigned registry vehicleId apartmentIds zoneId moment).reason = some .assignedSpotAllowed ∧
      currentAssignments registry apartmentIds zoneId moment ≠ [] := by
  unfold decideAssigned at allows ⊢
  split at allows
  · cases allows
  · split at allows
    · split at allows <;> cases allows
    · next held =>
        split at allows
        · cases allows
        · next linked room => exact ⟨by simp [linked, held, room, EngineDecision.of], held⟩

theorem decideShared_allows {zone : ParkingZone}
    (allows : (decideShared registry vehicleId apartmentIds zone moment).decision = .allow) :
    (decideShared registry vehicleId apartmentIds zone moment).reason = some .sharedAccessAllowed ∧
      servedApartments registry apartmentIds zone.id ≠ [] := by
  unfold decideShared at allows ⊢
  dsimp only at allows ⊢
  split at allows
  · cases allows
  · next served =>
      split at allows
      · cases allows
      · next below => exact ⟨by simp [served, below, EngineDecision.of], served⟩

theorem decideByZone_allows {zoneId : Option Nat}
    (allows : (decideByZone equipment registry vehicleId apartmentIds zoneId moment).decision = .allow) :
    ∃ zone, zoneId = some zone ∧
      ((decideByZone equipment registry vehicleId apartmentIds zoneId moment).reason =
          some .assignedSpotAllowed ∧
          currentAssignments registry apartmentIds zone moment ≠ [] ∨
        (decideByZone equipment registry vehicleId apartmentIds zoneId moment).reason =
          some .sharedAccessAllowed ∧ servedApartments registry apartmentIds zone ≠ []) := by
  unfold decideByZone at allows ⊢
  split at allows
  · cases allows
  · next zone found =>
      obtain ⟨named, own, present⟩ := Option.bind_eq_some_iff.mp found
      obtain rfl := Table.key_of_find? present
      refine ⟨zone.id, own, ?_⟩
      split at allows
      · exact .inl (decideAssigned_allows allows)
      · exact .inr (decideShared_allows allows)

theorem decidePermanent_allows {engine : EngineDecision}
    (decided : decidePermanent equipment registry data = some engine)
    (allows : engine.decision = .allow) :
    engine.reason ≠ some .temporaryPassAllowed ∧ ∃ grant, Used registry data engine grant := by
  obtain ⟨vehicle, bearer, rfl⟩ := Option.map_eq_some_iff.mp decided
  dsimp only at allows ⊢
  split at allows
  · cases allows
  · next unblocked =>
      split at allows
      · next matched =>
          obtain ⟨rule, listed, fits⟩ := List.any_eq_true.mp matched
          simp only [unblocked, matched, if_true, if_false]
          exact ⟨by simp [EngineDecision.of], .rule rule, .rule rfl bearer listed fits⟩
      · next unruled =>
          obtain ⟨zone, own, byZone⟩ := decideByZone_allows allows
          simp only [unblocked, unruled, if_false]
          rcases byZone with ⟨reason, held⟩ | ⟨reason, served⟩
          · obtain ⟨assignment, current⟩ := List.exists_mem_of_ne_nil _ held
            exact ⟨by simp [reason], .assignment assignment zone, .assignment reason bearer own current⟩
          · obtain ⟨apartmentId, listed⟩ := List.exists_mem_of_ne_nil _ served
            exact ⟨by simp [reason], .service apartmentId zone, .service reason bearer own listed⟩

theorem decideTaxi_allows (allows : (decideTaxi registry data).decision = .allow) :
    ∃ pass, taxiPassByPlate registry data.plateNumberNormalized = some pass ∧
      decideTaxi registry data = .of .allow (some .temporaryPassAllowed) none (some pass.id) := by
  unfold decideTaxi at allows ⊢
  split at allows
  · cases allows
  · next pass found =>
      refine ⟨pass, found, ?_⟩
      grind [EngineDecision.of]

theorem decide_allows (allows : (decide equipment registry data).decision = .allow) :
    ∃ grant, Used registry data (decide equipment registry data) grant := by
  unfold decide at allows ⊢
  split at allows
  · cases allows
  · next certain =>
      simp only [certain]
      split at allows
      · next engine decided => exact (decidePermanent_allows decided allows).2
      · next missing =>
          obtain ⟨pass, found, decided⟩ := decideTaxi_allows allows
          rw [decided]
          exact ⟨.pass pass, .pass rfl found⟩

theorem used_of_bearer {vehicle : Vehicle} {grant : Grant}
    (bearer : activeVehicleByPlate registry data.plateNumberNormalized = some vehicle)
    (allows : (decide equipment registry data).decision = .allow)
    (used : Used registry data (decide equipment registry data) grant) :
    ∃ zone, grant.zone = some zone ∧ data.zoneId = some zone := by
  cases used with
  | @rule _ rule reason own listed fits =>
    simp only [ruleMatches, Bool.and_eq_true] at fits
    exact ⟨rule.zoneId, rfl, of_decide_eq_true fits.1.1.1.2⟩
  | @assignment _ _ zoneId reason own zone current => exact ⟨zoneId, rfl, zone⟩
  | @service _ _ zoneId reason own zone served => exact ⟨zoneId, rfl, zone⟩
  | pass reason found =>
    unfold decide at allows reason
    split at allows
    · cases allows
    · next certain =>
        obtain ⟨engine, decided⟩ : ∃ engine,
            decidePermanent equipment registry data = some engine :=
          ⟨_, Option.map_eq_some_iff.mpr ⟨vehicle, bearer, rfl⟩⟩
        simp only [certain, decided] at allows reason
        exact absurd reason (decidePermanent_allows decided allows).1

theorem used_of_stranger {grant : Grant} {engine : EngineDecision}
    (stranger : activeVehicleByPlate registry data.plateNumberNormalized = none)
    (used : Used registry data engine grant) :
    ∃ pass, taxiPassByPlate registry data.plateNumberNormalized = some pass ∧
      grant = .pass pass := by
  cases used with
  | rule reason own listed fits | assignment reason own zone current => cases stranger.symm.trans own
  | service reason own zone served => cases stranger.symm.trans own
  | pass reason found => exact ⟨_, found, rfl⟩

end

end InfrasafeBot.AccessControl
