import InfrasafeBot.AccessControl.SystemRuns
import InfrasafeBot.Library.Computation

/-! What the writers of the registry leave alone: the vehicles and the passes. -/

set_option autoImplicit false

namespace InfrasafeBot.AccessControl

open Library RequestWorkflow

section

variable {registry changed : Registry}

structure SameBearers (before after : Registry) : Prop where
  vehicles : after.vehicles = before.vehicles
  passes : after.passes = before.passes

theorem SameBearers.refl : SameBearers registry registry := ⟨rfl, rfl⟩

theorem SameBearers.trans {last : Registry} (first : SameBearers registry changed)
    (second : SameBearers changed last) : SameBearers registry last :=
  ⟨second.vehicles.trans first.vehicles, second.passes.trans first.passes⟩

theorem ensureActiveLink_bearers (vehicleId apartmentId : Nat) :
    SameBearers registry (ensureActiveLink registry vehicleId apartmentId) := by
  unfold ensureActiveLink
  split
  · split <;> exact ⟨rfl, rfl⟩
  · exact ⟨rfl, rfl⟩

theorem relinkApartment_bearers (vehicleId apartmentId : Nat) :
    SameBearers registry (relinkApartment registry vehicleId apartmentId) := by
  unfold relinkApartment
  exact ⟨(ensureActiveLink_bearers vehicleId apartmentId).vehicles,
    (ensureActiveLink_bearers vehicleId apartmentId).passes⟩

theorem addZoneRule_bearers (vehicleId : Nat) (apartmentId : Option Nat) (registry : Registry)
    (zoneId : Nat) : SameBearers registry (addZoneRule vehicleId apartmentId registry zoneId) :=
  ⟨rfl, rfl⟩

theorem restoreZoneRule_bearers (vehicleId : Nat) (apartmentId : Option Nat)
    (registry : Registry) (zoneId : Nat) :
    SameBearers registry (restoreZoneRule vehicleId apartmentId registry zoneId) := by
  unfold restoreZoneRule
  split <;> exact ⟨rfl, rfl⟩

theorem foldl_bearers {write : Registry → Nat → Registry}
    (once : ∀ registry zoneId, SameBearers registry (write registry zoneId)) (zoneIds : List Nat)
    (registry : Registry) : SameBearers registry (zoneIds.foldl write registry) := by
  induction zoneIds generalizing registry with
  | nil => exact .refl
  | cons zoneId rest ih => exact (once registry zoneId).trans (ih _)

theorem syncVehicleZoneRules_bearers (vehicleId : Nat) (apartmentId : Option Nat)
    (zoneIds : List Nat) :
    SameBearers registry (syncVehicleZoneRules registry vehicleId apartmentId zoneIds) := by
  have restored := foldl_bearers (restoreZoneRule_bearers vehicleId apartmentId)
  unfold syncVehicleZoneRules
  exact ⟨(restored _ _).vehicles, (restored _ _).passes⟩

theorem elim_bearers {α : Type} {given : Option α} {write : α → Registry}
    (once : ∀ value, SameBearers registry (write value)) :
    SameBearers registry (given.elim registry write) := by
  cases given with
  | none => exact .refl
  | some value => exact once value

theorem storeVehicles_eq_ok {vehicles : Table Vehicle.id}
    (stored : storeVehicles registry vehicles = .ok changed) :
    changed.vehicles = vehicles ∧ changed.passes = registry.passes := by
  unfold storeVehicles at stored
  split at stored
  · cases stored
    exact ⟨rfl, rfl⟩
  · cases stored

theorem trackPresence_bearers {data : AnprIngestInput} {engine : EngineDecision}
    {decided : Verdict} : SameBearers registry (trackPresence data registry engine decided) := by
  unfold trackPresence
  split
  · split
    · exact .refl
    · split
      · exact ⟨rfl, rfl⟩
      · split
        · unfold openPresenceSession
          split <;> exact ⟨rfl, rfl⟩
        · exact .refl
  · exact .refl

def PassesGrow (before after : Registry) : Prop :=
  after.passes = before.passes ∨
    ∃ (make : Nat → AccessPass) (numbered : ∀ id, (make id).id = id),
      (∀ id, (make id).usedEntries = 0) ∧ after.passes = before.passes.insert make numbered

variable {after before : Registry} {vehicle : Vehicle} {actorUserId : UserId} {now : Moment}
  {hashCode : String → String}

theorem PassesGrow.listed (grow : PassesGrow before after) {pass : AccessPass}
    (listed : pass ∈ after.passes.rows) :
    pass ∈ before.passes.rows ∨
      pass.usedEntries = 0 ∧ ∀ old ∈ before.passes.rows, old.id ≠ pass.id := by
  rcases grow with same | ⟨make, numbered, unused, grown⟩
  · exact .inl (same ▸ listed)
  · rw [grown] at listed
    rcases (Table.mem_insert numbered).mp listed with old | rfl
    · exact .inl old
    · refine .inr ⟨unused _, fun old there same => ?_⟩
      have older := Table.lt_nextKey there
      rw [numbered] at same
      omega

theorem PassesGrow.found (grow : PassesGrow before after) {passId : Nat} {stored : AccessPass}
    (found : before.passes.find? passId = some stored) :
    after.passes.find? passId = some stored := by
  rcases grow with same | ⟨make, numbered, _, grown⟩
  · rw [same]
    exact found
  · rw [grown, Table.find?_insert, found, Option.some_or]

variable {forms : TextForms}

theorem createVehicle_passes {request : CreateVehicleRequest}
    (created : createVehicle forms registry request = .ok changed) :
    changed.passes = registry.passes := by
  unfold createVehicle at created
  dsimp only at created
  split at created
  · cases created
  · obtain ⟨added, stored, rest⟩ := bind_eq_ok_iff.mp created
    cases rest
    have linked : SameBearers added (request.apartmentId.elim added
        (ensureActiveLink added registry.vehicles.nextKey)) :=
      elim_bearers (ensureActiveLink_bearers registry.vehicles.nextKey)
    have kept := (storeVehicles_eq_ok stored).2
    cases request.zoneId with
    | none | some => exact linked.passes.trans kept

theorem updateVehicle_passes {vehicleId : Nat} {request : UpdateVehicleRequest}
    (updated : updateVehicle forms registry vehicleId request = .ok changed) :
    changed.passes = registry.passes := by
  unfold updateVehicle at updated
  split at updated
  · cases updated
  · obtain ⟨replated, _, rest⟩ := bind_eq_ok_iff.mp updated
    obtain ⟨stored, flushed, rest⟩ := bind_eq_ok_iff.mp rest
    cases rest
    have relinked : SameBearers stored (request.apartmentId.elim stored
        (relinkApartment stored vehicleId)) :=
      elim_bearers (relinkApartment_bearers vehicleId)
    refine SameBearers.passes (relinked.trans ?_) |>.trans (storeVehicles_eq_ok flushed).2
    exact elim_bearers (syncVehicleZoneRules_bearers vehicleId _)

theorem resolveOrCreateVehicle_passes {request : ResidentAccessRequest}
    (resolved : resolveOrCreateVehicle forms registry request = .ok (changed, vehicle)) :
    changed.passes = registry.passes := by
  unfold resolveOrCreateVehicle at resolved
  split at resolved
  · cases resolved
    rfl
  · obtain ⟨added, stored, rest⟩ := bind_eq_ok_iff.mp resolved
    cases rest
    exact (storeVehicles_eq_ok stored).2

theorem activateVehicle_passes (activated : activateVehicle registry vehicle = .ok changed) :
    changed.passes = registry.passes := by
  unfold activateVehicle at activated
  split at activated
  · cases activated
    rfl
  · exact (storeVehicles_eq_ok activated).2

theorem reviewRequest_passes {requestId : Nat} {review : ReviewRequest} {outcome : ReviewOutcome}
    (reviewed : reviewRequest forms registry requestId review = .ok (changed, outcome)) :
    changed.passes = registry.passes := by
  unfold reviewRequest at reviewed
  split at reviewed
  · cases reviewed
  · split at reviewed
    · cases reviewed
      rfl
    · split at reviewed
      · obtain ⟨⟨resolved, vehicle⟩, known, rest⟩ := bind_eq_ok_iff.mp reviewed
        obtain ⟨activated, active, rest⟩ := bind_eq_ok_iff.mp rest
        cases rest
        have ruled (apartmentId : Nat) (start : Registry) :
            SameBearers start (review.effectiveZones.foldl
              (addZoneRule vehicle.id (some apartmentId)) start) :=
          foldl_bearers (addZoneRule_bearers vehicle.id (some apartmentId)) _ start
        exact (((ruled _ _).passes.trans (ensureActiveLink_bearers _ _).passes).trans
          (activateVehicle_passes active)).trans (resolveOrCreateVehicle_passes known)
      · cases reviewed
        rfl

theorem createTaxiPass_passes {request : TaxiPassRequest}
    (created : createTaxiPass forms registry now actorUserId request = .ok changed) :
    PassesGrow registry changed := by
  unfold createTaxiPass at created
  dsimp only at created
  split at created
  · cases created
    exact .inr ⟨_, newTaxiPass_id _ _ _ _ _ _, fun _ => rfl, rfl⟩
  · cases created

theorem createResidentPass_passes {code : String} {request : CreateResidentPass}
    {drawn : Option String}
    (created : createResidentPass forms registry hashCode code now actorUserId request =
      .ok (changed, drawn)) : PassesGrow registry changed := by
  obtain ⟨_, _, created⟩ := bind_eq_ok_iff.mp created
  obtain ⟨zoneId, _, created⟩ := bind_eq_ok_iff.mp created
  dsimp only at created
  split at created
  · cases created
    exact .inr ⟨_, newResidentPass_id _ _ _ _ _ _ _, fun _ => rfl, rfl⟩
  · cases created

theorem callRegistry_passes {call : RegistryCall}
    (unchanged : ∀ passId request, call ≠ .updatePass passId request)
    (uncancelled : ∀ actorUserId passId, call ≠ .cancelResidentPass actorUserId passId)
    (called : callRegistry forms hashCode registry now call = .ok changed) :
    PassesGrow registry changed := by
  cases call with
  | createVehicle request => exact .inl (createVehicle_passes called)
  | setVehicleStatus vehicleId request =>
    simp only [callRegistry, setVehicleStatus] at called
    split at called
    · cases called
    · exact .inl (storeVehicles_eq_ok called).2
  | updateVehicle vehicleId request => exact .inl (updateVehicle_passes called)
  | createTaxiPass actorUserId request => exact createTaxiPass_passes called
  | updatePass passId request => exact absurd rfl (unchanged passId request)
  | reviewRequest requestId review =>
    obtain ⟨⟨reviewed, outcome⟩, answered, rfl⟩ := map_eq_ok_iff.mp called
    exact .inl (reviewRequest_passes answered)
  | createResidentRequest actorUserId request =>
    obtain ⟨_, _, created⟩ := bind_eq_ok_iff.mp called
    cases created
    exact .inl rfl
  | createResidentPass actorUserId code request =>
    obtain ⟨⟨created, drawn⟩, answered, rfl⟩ := map_eq_ok_iff.mp called
    exact createResidentPass_passes answered
  | cancelResidentPass actorUserId passId => exact absurd rfl (uncancelled actorUserId passId)

end

end InfrasafeBot.AccessControl
