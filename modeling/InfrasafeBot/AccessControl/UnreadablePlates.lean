import InfrasafeBot.AccessControl.Arrivals
import InfrasafeBot.AccessControl.RegistryFrames
import InfrasafeBot.AccessControl.ZoneGrants

/-! Entries whose plate has not been read: they are let in by nothing, as long as nothing of
the registry bears the empty plate. -/

set_option autoImplicit false

namespace InfrasafeBot.AccessControl

open Library Machine RequestWorkflow

/-- No vehicle and no taxi pass bears the empty plate. -/
structure Legible (registry : Registry) : Prop where
  vehicles : ∀ vehicle ∈ registry.vehicles.rows, vehicle.plateNumberNormalized ≠ ""
  passes : ∀ pass ∈ registry.passes.rows, pass.passType = .taxi → pass.plateNumberNormalized ≠ some ""

variable {changed : Registry}

section

variable {registry : Registry}

theorem Legible.stranger (legible : Legible registry) : activeVehicleByPlate registry "" = none := by
  refine List.find?_eq_none.mpr fun vehicle listed borne => ?_
  rw [Bool.and_eq_true] at borne
  exact legible.vehicles vehicle listed (of_decide_eq_true borne.1)

theorem Legible.unpassed (legible : Legible registry) : taxiPassByPlate registry "" = none := by
  refine List.argmax_eq_none.mpr (List.filter_eq_nil_iff.mpr fun pass listed borne => ?_)
  simp only [Bool.and_eq_true, decide_eq_true_eq] at borne
  exact legible.passes pass listed borne.1.2 borne.1.1

theorem SameBearers.legible (same : SameBearers registry changed) (legible : Legible registry) :
    Legible changed := by
  constructor
  · rw [same.vehicles]
    exact legible.vehicles
  · rw [same.passes]
    exact legible.passes

section

variable (legible : Legible registry)

include legible

theorem addVehicle_legible {original normalized : String} (readable : normalized ≠ "")
    (added : addVehicle registry original normalized = .ok changed) : Legible changed := by
  obtain ⟨vehicles, passes⟩ := storeVehicles_eq_ok added
  constructor
  · rw [vehicles]
    intro vehicle listed
    rcases (Table.mem_insert (newVehicle_id original normalized)).mp listed with old | rfl
    · exact legible.vehicles vehicle old
    · exact readable
  · rw [passes]
    exact legible.passes

theorem putVehicle_legible {vehicle : Vehicle} (readable : vehicle.plateNumberNormalized ≠ "")
    (stored : storeVehicles registry (registry.vehicles.put vehicle) = .ok changed) :
    Legible changed := by
  obtain ⟨vehicles, passes⟩ := storeVehicles_eq_ok stored
  constructor
  · rw [vehicles]
    intro other listed
    rcases Table.mem_put listed with rfl | ⟨old, _⟩
    · exact readable
    · exact legible.vehicles other old
  · rw [passes]
    exact legible.passes

theorem addPass_legible {make : Nat → AccessPass} {numbered : ∀ id, (make id).id = id}
    (readable : ∀ id, (make id).passType = .taxi → (make id).plateNumberNormalized ≠ some "") :
    Legible (addPass registry make numbered) := by
  constructor
  · exact legible.vehicles
  · intro pass listed
    rcases (Table.mem_insert numbered).mp listed with old | rfl
    · exact legible.passes pass old
    · exact readable _

theorem consumeWhere_legible (condition : AccessPass → Bool) :
    Legible (consumeWhere registry condition) := by
  constructor
  · exact legible.vehicles
  · intro pass listed taxi
    obtain ⟨old, before, rfl⟩ := (Table.mem_update consumed_id).mp listed
    obtain ⟨plate, kind⟩ := consumed_plate old
    split at taxi
    · next taken =>
        rw [if_pos taken, plate]
        exact legible.passes old before (kind.symm.trans taxi)
    · next left =>
        rw [if_neg left]
        exact legible.passes old before taxi

theorem putPass_legible {pass : AccessPass}
    (readable : pass.passType = .taxi → pass.plateNumberNormalized ≠ some "") :
    Legible { registry with passes := registry.passes.put pass } := by
  constructor
  · exact legible.vehicles
  · intro other listed
    rcases Table.mem_put listed with rfl | ⟨old, _⟩
    · exact readable
    · exact legible.passes other old

end

end

variable {hashCode : String → String}

section

variable (forms : TextForms) (registry : Registry)

/-- The request would give a vehicle or a taxi pass a plate of which nothing is left. -/
def RegistryCall.storesEmptyPlate : RegistryCall → Bool
  | .createVehicle request => normalizePlate forms request.plateNumberOriginal = ""
  | .updateVehicle _ request =>
    request.plateNumberOriginal.any fun given => given.any fun original =>
      pyStrip original ≠ "" && normalizePlate forms (pyStrip original) = ""
  | .createTaxiPass _ request => normalizeOptional forms request.plateNumberOriginal = some ""
  | .updatePass passId request =>
    (registry.passes.find? passId).any (·.passType = .taxi) &&
      request.plateNumberOriginal.any (normalizeOptional forms · = some "")
  | .reviewRequest requestId review =>
    review.action = .approve &&
      (registry.requests.find? requestId).any fun request =>
        request.status = .pending && (knownVehicle registry request).isNone && request.normalized forms = ""
  | .createResidentPass _ _ request =>
    request.passType = .taxi && normalizeOptional forms request.plateNumberOriginal = some ""
  | _ => false

variable {forms : TextForms} {registry : Registry} (legible : Legible registry)

include legible

theorem createVehicle_legible {request : CreateVehicleRequest}
    (readable : normalizePlate forms request.plateNumberOriginal ≠ "")
    (created : createVehicle forms registry request = .ok changed) : Legible changed := by
  unfold createVehicle at created
  dsimp only at created
  split at created
  · cases created
  · obtain ⟨added, stored, rest⟩ := bind_eq_ok_iff.mp created
    cases rest
    have vehicle := addVehicle_legible legible readable stored
    have linked : SameBearers added (request.apartmentId.elim added
        (ensureActiveLink added registry.vehicles.nextKey)) :=
      elim_bearers (ensureActiveLink_bearers registry.vehicles.nextKey)
    have ruled : ∀ zoneId, SameBearers added (addZoneRule registry.vehicles.nextKey
        request.apartmentId (request.apartmentId.elim added
          (ensureActiveLink added registry.vehicles.nextKey)) zoneId) :=
      fun zoneId => linked.trans (addZoneRule_bearers _ _ _ zoneId)
    cases request.zoneId with
    | none => exact linked.legible vehicle
    | some zoneId => exact (ruled zoneId).legible vehicle

variable {vehicleId passId : Nat} {vehicle : Vehicle} {actorUserId : UserId} {now : Moment}

theorem setVehicleStatus_legible {request : VehicleStatusRequest}
    (updated : setVehicleStatus registry vehicleId request = .ok changed) : Legible changed := by
  unfold setVehicleStatus at updated
  split at updated
  · cases updated
  · next vehicle found =>
      refine putVehicle_legible legible ?_ updated
      exact legible.vehicles vehicle (Table.mem_of_find? found)

omit legible in
theorem replate_readable {replated : Vehicle} {given : Option String}
    (readable : ∀ original, given = some original → pyStrip original ≠ "" →
      normalizePlate forms (pyStrip original) ≠ "")
    (accepted : replate forms registry vehicle given = .ok replated) :
    replated.plateNumberNormalized ≠ "" := by
  unfold replate at accepted
  dsimp only at accepted
  split at accepted
  · cases accepted
  · next nonempty =>
      split at accepted
      · cases accepted
      · cases accepted
        cases given with
        | none => exact absurd (by decide) nonempty
        | some original => exact readable original rfl nonempty

theorem updateVehicle_legible {request : UpdateVehicleRequest}
    (readable : ∀ given original, request.plateNumberOriginal = some given →
      given = some original → pyStrip original ≠ "" →
      normalizePlate forms (pyStrip original) ≠ "")
    (updated : updateVehicle forms registry vehicleId request = .ok changed) :
    Legible changed := by
  unfold updateVehicle at updated
  split at updated
  · cases updated
  · next vehicle found =>
      obtain ⟨replated, accepted, rest⟩ := bind_eq_ok_iff.mp updated
      obtain ⟨stored, flushed, rest⟩ := bind_eq_ok_iff.mp rest
      cases rest
      have plated : replated.plateNumberNormalized ≠ "" := by
        cases given : request.plateNumberOriginal with
        | none =>
          rw [given] at accepted
          cases accepted
          exact legible.vehicles vehicle (Table.mem_of_find? found)
        | some value =>
          rw [given, Option.elim_some] at accepted
          exact replate_readable (fun original => readable value original given) accepted
      have vehicles := putVehicle_legible legible plated flushed
      have relinked : SameBearers stored (request.apartmentId.elim stored
          (relinkApartment stored vehicleId)) :=
        elim_bearers (relinkApartment_bearers vehicleId)
      refine SameBearers.legible (relinked.trans ?_) vehicles
      exact elim_bearers (syncVehicleZoneRules_bearers vehicleId _)

theorem createTaxiPass_legible {request : TaxiPassRequest}
    (readable : normalizeOptional forms request.plateNumberOriginal ≠ some "")
    (created : createTaxiPass forms registry now actorUserId request = .ok changed) :
    Legible changed := by
  unfold createTaxiPass at created
  dsimp only at created
  split at created
  · cases created
    exact addPass_legible legible fun _ _ => readable
  · cases created

theorem updatePass_legible {request : UpdatePassRequest}
    (readable : ∀ pass original, registry.passes.find? passId = some pass →
      pass.passType = .taxi → request.plateNumberOriginal = some original →
      normalizeOptional forms original ≠ some "")
    (updated : updatePass forms registry passId request = .ok changed) : Legible changed := by
  unfold updatePass at updated
  split at updated
  · cases updated
  · next pass found =>
      split at updated
      · cases updated
      · split at updated
        · cases updated
          refine putPass_legible legible fun taxi => ?_
          cases given : request.plateNumberOriginal with
          | none => exact legible.passes pass (Table.mem_of_find? found) taxi
          | some original => exact readable pass original found taxi given
        · cases updated

theorem createResidentPass_legible {code : String} {request : CreateResidentPass}
    {drawn : Option String} (readable : request.passType = .taxi →
      normalizeOptional forms request.plateNumberOriginal ≠ some "")
    (created : createResidentPass forms registry hashCode code now actorUserId request =
      .ok (changed, drawn)) : Legible changed := by
  obtain ⟨_, _, created⟩ := bind_eq_ok_iff.mp created
  obtain ⟨zoneId, _, created⟩ := bind_eq_ok_iff.mp created
  dsimp only at created
  split at created
  · cases created
    exact addPass_legible legible fun _ => readable
  · cases created

theorem cancelResidentPass_legible {outcome : CancelOutcome}
    (cancelled : cancelResidentPass registry actorUserId passId = .ok (changed, outcome)) :
    Legible changed := by
  unfold cancelResidentPass at cancelled
  split at cancelled
  · cases cancelled
  · next pass found =>
      split at cancelled
      · cases cancelled
      · split at cancelled
        · cases cancelled
          exact legible
        · cases cancelled
          exact putPass_legible legible (legible.passes pass (Table.mem_of_find? found))

theorem resolveOrCreateVehicle_legible {request : ResidentAccessRequest}
    (readable : knownVehicle registry request = none → request.normalized forms ≠ "")
    (resolved : resolveOrCreateVehicle forms registry request = .ok (changed, vehicle)) :
    Legible changed ∧ vehicle.plateNumberNormalized ≠ "" := by
  unfold resolveOrCreateVehicle at resolved
  split at resolved
  · next existing known =>
      cases resolved
      refine ⟨legible, ?_⟩
      rcases Option.or_eq_some_iff.mp known with linked | ⟨_, byPlate⟩
      · obtain ⟨vehicleId, _, found⟩ := Option.bind_eq_some_iff.mp linked
        exact legible.vehicles vehicle (Table.mem_of_find? found)
      · obtain ⟨plate, _, found⟩ := Option.bind_eq_some_iff.mp byPlate
        exact legible.vehicles vehicle (List.mem_of_find?_eq_some found)
  · next unknown =>
      obtain ⟨added, stored, rest⟩ := bind_eq_ok_iff.mp resolved
      cases rest
      exact ⟨addVehicle_legible legible (readable unknown) stored, readable unknown⟩

theorem activateVehicle_legible (readable : vehicle.plateNumberNormalized ≠ "")
    (activated : activateVehicle registry vehicle = .ok changed) : Legible changed := by
  unfold activateVehicle at activated
  split at activated
  · cases activated
    exact legible
  · exact putVehicle_legible legible (by exact readable) activated

theorem reviewRequest_legible {requestId : Nat} {review : ReviewRequest}
    {outcome : ReviewOutcome}
    (readable : ∀ request, review.action = .approve →
      registry.requests.find? requestId = some request → request.status = .pending →
      knownVehicle registry request = none → request.normalized forms ≠ "")
    (reviewed : reviewRequest forms registry requestId review = .ok (changed, outcome)) :
    Legible changed := by
  unfold reviewRequest at reviewed
  split at reviewed
  · cases reviewed
  · next request found =>
      split at reviewed
      · cases reviewed
        exact legible
      · next pending =>
          split at reviewed
          · next approve =>
              obtain ⟨⟨resolved, vehicle⟩, known, rest⟩ := bind_eq_ok_iff.mp reviewed
              obtain ⟨activated, active, rest⟩ := bind_eq_ok_iff.mp rest
              cases rest
              obtain ⟨kept, plated⟩ := resolveOrCreateVehicle_legible legible
                (readable request approve found (not_not.mp pending)) known
              have linked := (ensureActiveLink_bearers vehicle.id request.apartmentId).legible
                (activateVehicle_legible kept plated active)
              have ruled : ∀ start : Registry, SameBearers start (review.effectiveZones.foldl
                  (addZoneRule vehicle.id (some request.apartmentId)) start) :=
                foldl_bearers (addZoneRule_bearers vehicle.id (some request.apartmentId)) _
              have last := (ruled _).legible linked
              exact ⟨last.vehicles, last.passes⟩
          · cases reviewed
            exact ⟨legible.vehicles, legible.passes⟩

theorem callRegistry_legible {call : RegistryCall}
    (stored : call.storesEmptyPlate forms registry = false)
    (called : callRegistry forms hashCode registry now call = .ok changed) : Legible changed := by
  cases call with
  | createVehicle request => exact createVehicle_legible legible (of_decide_eq_false stored) called
  | setVehicleStatus vehicleId request => exact setVehicleStatus_legible legible called
  | updateVehicle vehicleId request =>
    refine updateVehicle_legible legible (fun given original set same nonempty empty => ?_) called
    simp [RegistryCall.storesEmptyPlate, set, same, nonempty, empty] at stored
  | createTaxiPass actorUserId request =>
    exact createTaxiPass_legible legible (of_decide_eq_false stored) called
  | updatePass passId request =>
    refine updatePass_legible legible (fun pass original found taxi set empty => ?_) called
    simp [RegistryCall.storesEmptyPlate, found, taxi, set, empty] at stored
  | reviewRequest requestId review =>
    obtain ⟨⟨reviewed, outcome⟩, answered, rfl⟩ := map_eq_ok_iff.mp called
    refine reviewRequest_legible legible
      (fun request approve found pending unknown empty => ?_) answered
    simp [RegistryCall.storesEmptyPlate, approve, found, pending, unknown, empty] at stored
  | createResidentRequest actorUserId request =>
    obtain ⟨_, _, created⟩ := bind_eq_ok_iff.mp called
    cases created
    exact ⟨legible.vehicles, legible.passes⟩
  | createResidentPass actorUserId code request =>
    obtain ⟨⟨created, drawn⟩, answered, rfl⟩ := map_eq_ok_iff.mp called
    refine createResidentPass_legible legible (fun taxi empty => ?_) answered
    simp [RegistryCall.storesEmptyPlate, taxi, empty] at stored
  | cancelResidentPass actorUserId passId =>
    obtain ⟨⟨cancelled, outcome⟩, answered, rfl⟩ := map_eq_ok_iff.mp called
    exact cancelResidentPass_legible legible answered

end

def CameraEvent.unreadEntry (event : CameraEvent) : Bool :=
  event.direction = .entry && event.plateNumberNormalized.getD "" = ""

def AccessDecision.LetsIn (row : AccessDecision) : Prop := row.decision = .allow ∧ row.status = .allowed

/-- The first decision on an event whose plate has not been read lets nobody in. -/
def Guarded (journal : Journal) : Prop :=
  ∀ row ∈ journal.decisions.rows, row.supersedesDecisionId = none →
    ∃ event ∈ journal.cameraEvents.rows, event.id = row.cameraEventId ∧
      (event.unreadEntry = true → ¬ row.LetsIn)

theorem SameArrivals.guarded {journal changed : Journal} (same : SameArrivals journal changed)
    (guarded : Guarded journal) : Guarded changed := by
  intro row listed start
  rw [same.events]
  exact guarded row (same.initial listed start) start

/-- Nobody is let in, no entry is taken from a pass, and what is decided is about nobody. -/
structure KeepsOut (system after : System) (result : IngestResult) : Prop where
  refused : ¬ (result.decision = .allow ∧ result.status = .allowed)
  unconsumed : after.registry.passes = system.registry.passes
  unmatched : ∀ row ∈ after.journal.decisions.rows, row ∉ system.journal.decisions.rows →
    row.matchedVehicleId = none ∧ row.matchedPassId = none

variable {system : System} {data : AnprIngestInput}

section

variable {forms : TextForms} {normalized : Option String} {scope : Scope}

variable {registry : Registry} {engine : EngineDecision} {journal : Journal} {time : Moment}

theorem decide_unread {equipment : Equipment} {asked : AnprDecisionInput}
    (legible : Legible registry) (unread : asked.plateNumberNormalized = "") :
    (decide equipment registry asked).decision ≠ .allow ∧
      (decide equipment registry asked).matchedVehicleId = none ∧
      (decide equipment registry asked).matchedPassId = none := by
  unfold decide
  split
  · exact ⟨by rintro ⟨⟩, rfl, rfl⟩
  · have stranger : decidePermanent equipment registry asked = none := by
      rw [decidePermanent, unread, legible.stranger, Option.map_none]
    simp only [stranger, decideTaxi, unread, legible.unpassed]
    exact ⟨by rintro ⟨⟩, rfl, rfl⟩

theorem enforce_unread (kept : engine.decision ≠ .allow ∧ engine.matchedVehicleId = none ∧
      engine.matchedPassId = none) :
    (scope.enforce engine).decision ≠ .allow ∧ (scope.enforce engine).matchedVehicleId = none ∧
      (scope.enforce engine).matchedPassId = none := by
  unfold Scope.enforce
  split
  · exact ⟨by rintro ⟨⟩, rfl, rfl⟩
  · exact kept

theorem consumeTaxi_refused (refused : engine.decision ≠ .allow) :
    consumeTaxi registry engine = (registry, engine) := by
  have unspent : taxiPass engine = none := if_neg fun allowed => refused allowed.1
  simp only [consumeTaxi, unspent]

theorem engine_unread (scope : Scope) (legible : Legible system.registry)
    (entry : data.direction = .entry)
    (unread : normalized.getD "" = "") :
    (scope.enforce (engineFor system data normalized)).decision ≠ .allow ∧
      (scope.enforce (engineFor system data normalized)).matchedVehicleId = none ∧
      (scope.enforce (engineFor system data normalized)).matchedPassId = none := by
  apply enforce_unread
  rw [engineFor_entry system data normalized entry]
  exact decide_unread legible unread

theorem verdict_refused (refused : engine.decision ≠ .allow) :
    ¬ ((verdict journal time data engine).decision = .allow ∧
      (verdict journal time data engine).finalStatus = .allowed) :=
  fun letsIn => refused (verdict_allowed letsIn.2)

theorem guarded_recordEvent {decided : Verdict} (guarded : Guarded journal)
    (refused : (cameraEvent data normalized journal.cameraEvents.nextKey).unreadEntry = true →
      ¬ (decided.decision = .allow ∧ decided.finalStatus = .allowed)) :
    Guarded (recordEvent journal time data normalized engine decided).1 := by
  intro row listed start
  rw [recordEvent_decisions] at listed
  rw [recordEvent_cameraEvents]
  rcases mem_insertInitial.mp listed with old | rfl
  · obtain ⟨event, present, own, kept⟩ := guarded row old start
    exact ⟨event, (Table.mem_insert (cameraEvent_id data normalized)).mpr (.inl present), own, kept⟩
  · exact ⟨_, (Table.mem_insert (cameraEvent_id data normalized)).mpr (.inr rfl), rfl, refused⟩

theorem receiveEvent_unread (legible : Legible system.registry) (entry : data.direction = .entry)
    (unread : normalized.getD "" = "") :
    KeepsOut system (receiveEvent system data normalized scope).1
      (receiveEvent system data normalized scope).2 := by
  obtain ⟨refused, noVehicle, noPass⟩ := engine_unread scope legible entry unread
  unfold receiveEvent
  rw [consumeTaxi_refused refused]
  dsimp only
  constructor
  · obtain ⟨decision, status⟩ := recordEvent_answer system.journal system.time data normalized
      (scope.enforce (engineFor system data normalized))
      (verdict system.journal system.time data (scope.enforce (engineFor system data normalized)))
    rw [decision, status]
    exact verdict_refused refused
  · exact trackPresence_bearers.passes
  · intro row listed fresh
    rw [recordEvent_decisions] at listed
    rcases mem_insertInitial.mp listed with old | rfl
    · exact absurd old fresh
    · exact ⟨noVehicle, noPass⟩

theorem loadExistingResult_unread {event : CameraEvent} (guarded : Guarded journal)
    (listed : event ∈ journal.cameraEvents.rows) (unread : event.unreadEntry = true) :
    ¬ ((loadExistingResult journal event.id).decision = .allow ∧
      (loadExistingResult journal event.id).status = .allowed) := by
  unfold loadExistingResult
  split
  · next row found =>
      have selected := List.find?_some found
      simp only [Bool.and_eq_true, decide_eq_true_eq] at selected
      obtain ⟨stored, present, own, kept⟩ := guarded row (List.mem_of_find?_eq_some found) selected.2
      obtain rfl : stored = event := Table.eq_of_key present listed (own.trans selected.1)
      exact kept unread
  · rintro ⟨⟨⟩, _⟩

theorem repeatedEvent_unread {eventId : Nat} (entry : data.direction = .entry)
    (unread : normalized.getD "" = "")
    (keyed : ∀ event ∈ journal.cameraEvents.rows, event.controllerId = data.controllerId →
      event.eventId = data.eventId → event.unreadEntry = true)
    (repeated : repeatedEvent journal data normalized = some eventId) :
    ∃ event ∈ journal.cameraEvents.rows, event.id = eventId ∧ event.unreadEntry = true := by
  rcases Option.or_eq_some_iff.mp repeated with byKey | ⟨_, inTime⟩
  · obtain ⟨event, found, own⟩ := Option.map_eq_some_iff.mp byKey
    have selected := List.find?_some found
    simp only [Bool.and_eq_true, decide_eq_true_eq] at selected
    have listed := List.mem_of_find?_eq_some found
    exact ⟨event, listed, own, keyed event listed selected.1 selected.2⟩
  · unfold findWindowDuplicate at inTime
    split at inTime
    · next _ _ plate gateId _ =>
        obtain ⟨event, earliest, own⟩ := Option.map_eq_some_iff.mp inTime
        obtain ⟨listed, kept⟩ := List.mem_filter.mp (List.argmin_mem earliest)
        simp only [inWindow, Bool.and_eq_true, decide_eq_true_eq] at kept
        have empty : plate = "" := unread
        refine ⟨event, listed, own, ?_⟩
        simp [CameraEvent.unreadEntry, kept.2.1.1.1.1.2, kept.2.1.1.1.2, entry, empty]
    · cases inTime

end

/-- The call stores no empty plate, and uses the key of no other event for an entry that has
not been read. -/
def SystemCall.readable (forms : TextForms) (system : System) : SystemCall → Bool
  | .register call => !(call.accepted && call.storesEmptyPlate forms system.registry)
  | .ingestAnpr data =>
    !(data.direction = .entry && plateOf forms data = "") ||
      system.journal.cameraEvents.rows.all fun event =>
        !(event.controllerId = data.controllerId && event.eventId = data.eventId) || event.unreadEntry
  | _ => true

/-- Nothing bears the empty plate, and nobody has been let in with it. -/
structure Unopened (system : System) : Prop where
  legible : Legible system.registry
  guarded : Guarded system.journal

section

variable {forms : TextForms}

theorem runIngest_unread (unopened : Unopened system) (entry : data.direction = .entry)
    (unread : plateOf forms data = "")
    (readable : (SystemCall.ingestAnpr data).readable forms system = true) :
    KeepsOut system (runIngest forms system data).1 (runIngest forms system data).2 := by
  unfold runIngest
  dsimp only
  split
  · next eventId repeated =>
      have keyed : ∀ event ∈ system.journal.cameraEvents.rows,
          event.controllerId = data.controllerId → event.eventId = data.eventId →
          event.unreadEntry = true := by
        intro event listed controller key
        simp only [SystemCall.readable, entry, unread, decide_true, Bool.and_self, Bool.not_true,
          Bool.false_or, List.all_eq_true] at readable
        simpa [controller, key] using readable event listed
      have located : (data.scoped (authorizeScope system.equipment data)).direction = .entry := entry
      obtain ⟨event, listed, rfl, silent⟩ := repeatedEvent_unread located unread keyed repeated
      exact ⟨loadExistingResult_unread unopened.guarded listed silent, rfl,
        fun row listed fresh => absurd listed fresh⟩
  · exact receiveEvent_unread unopened.legible entry unread

theorem runIngest_unopened (unopened : Unopened system) : Unopened (runIngest forms system data).1 := by
  unfold runIngest
  dsimp only
  split
  · exact unopened
  · constructor
    · refine trackPresence_bearers.legible ?_
      unfold consumeTaxi
      split
      · exact unopened.legible
      · dsimp only
        split <;> exact consumeWhere_legible unopened.legible _
    · refine guarded_recordEvent unopened.guarded fun silent => ?_
      rw [CameraEvent.unreadEntry, Bool.and_eq_true] at silent
      have unread : (normalizeOptional forms data.plateNumberOriginal).getD "" = "" :=
        of_decide_eq_true silent.2
      obtain ⟨refused, _⟩ := engine_unread (authorizeScope system.equipment data)
        unopened.legible (of_decide_eq_true silent.1) unread
      rw [consumeTaxi_refused refused]
      exact verdict_refused refused

theorem redeem_unopened {request : RedeemRequest} (unopened : Unopened system) :
    Unopened (redeem hashCode system request) := by
  unfold redeem
  split
  · next redeemed result redeems =>
      unfold redeemCode at redeems
      split at redeems
      · cases redeems
      · split at redeems
        · cases redeems
        · split at redeems
          · cases redeems
            exact ⟨consumeWhere_legible unopened.legible _, commitRedeem_arrivals.guarded unopened.guarded⟩
          · cases redeems
  · exact unopened

theorem step_unopened (unopened : Unopened system) {call : SystemCall}
    (readable : call.readable forms system = true) :
    Unopened (step forms hashCode system call) := by
  cases call with
  | register call =>
    simp only [step, register]
    split
    · next accepted =>
        split
        · next registry called =>
            have stored : call.storesEmptyPlate forms system.registry = false := by
              simpa [SystemCall.readable, accepted] using readable
            exact ⟨callRegistry_legible unopened.legible stored called, unopened.guarded⟩
        · exact unopened
    · exact unopened
  | equip call =>
    simp only [step, equip]
    split <;> exact ⟨unopened.legible, unopened.guarded⟩
  | furnish territory spots assignments =>
    exact ⟨⟨unopened.legible.vehicles, unopened.legible.passes⟩, unopened.guarded⟩
  | ingestAnpr data => exact runIngest_unopened unopened
  | redeemCode request => exact redeem_unopened unopened
  | resolveEvent request => exact ⟨unopened.legible, resolveEvent_arrivals.guarded unopened.guarded⟩
  | manualOpenBarrier request =>
    simp only [step]
    exact ⟨unopened.legible, manualOpenBarrier_arrivals.guarded unopened.guarded⟩
  | expireDueReviews => exact ⟨unopened.legible, expireDueReviews_arrivals.guarded unopened.guarded⟩
  | tick elapsed => exact ⟨unopened.legible, unopened.guarded⟩

theorem unopened_initial (territory : Territory) (time : Moment) :
    Unopened (System.initial territory time) :=
  ⟨⟨fun _ listed => (List.not_mem_nil listed).elim, fun _ listed => (List.not_mem_nil listed).elim⟩,
    fun _ listed => (List.not_mem_nil listed).elim⟩

end

/-- Where no request stores an empty plate, an entry whose plate has not been read is kept out
in every state of every run. -/
theorem unreadable_plate_kept_out (forms : TextForms) (hashCode : String → String)
    (territory : Territory) (time : Moment) (calls : List SystemCall)
    (readable : Obeys (step forms hashCode) (fun system call => call.readable forms system = true)
      (System.initial territory time) calls) :
    ∀ taken ∈ trace (step forms hashCode) (System.initial territory time) calls, ∀ data,
      taken.2 = .ingestAnpr data → data.direction = .entry → plateOf forms data = "" →
      KeepsOut taken.1 (runIngest forms taken.1 data).1 (runIngest forms taken.1 data).2 := by
  intro taken listed data called entry unread
  have reached := trace_invariant_of_obeys (step forms hashCode) Unopened
    (unopened_initial territory time) (fun _ _ allowed unopened => step_unopened unopened allowed)
    readable taken listed
  have allowed := readable taken listed
  rw [called] at allowed
  exact runIngest_unread reached entry unread allowed

/-! A taxi pass for the plate "-", and a car whose plate the camera has not read. -/

def unreadCar : AnprIngestInput := { carAtGate with plateNumberOriginal := none }

def taxiFor (plate : String) : TaxiPassRequest := ⟨4, none, 100, some plate, none, 1⟩

def passCreated (plate : String) : List SystemCall :=
  gateInZone 1 ++ [.register (.createTaxiPass 7 (taxiFor plate))]

def beforeArrival (plate : String) : System :=
  run (step .ascii id) (System.initial ⟨[], [], []⟩ 0) (passCreated plate)

theorem unread_car_kept_out :
    KeepsOut (beforeArrival "01B555BB") (runIngest .ascii (beforeArrival "01B555BB") unreadCar).1
      (runIngest .ascii (beforeArrival "01B555BB") unreadCar).2 := by
  have readable : Obeys (step .ascii id) (fun system call => call.readable .ascii system = true)
      (System.initial ⟨[], [], []⟩ 0) (passCreated "01B555BB" ++ [.ingestAnpr unreadCar]) := by
    decide +kernel
  refine unreadable_plate_kept_out .ascii id ⟨[], [], []⟩ 0 _ readable
    (beforeArrival "01B555BB", .ingestAnpr unreadCar) ?_ unreadCar rfl rfl (by decide +kernel)
  rw [trace_concat]
  exact List.mem_append_right _ List.mem_cons_self

theorem unread_car_let_in :
    (runIngest .ascii (beforeArrival "-") unreadCar).2.decision = .allow ∧
      (runIngest .ascii (beforeArrival "-") unreadCar).2.status = .allowed ∧
      ¬ KeepsOut (beforeArrival "-") (runIngest .ascii (beforeArrival "-") unreadCar).1
        (runIngest .ascii (beforeArrival "-") unreadCar).2 := by
  have letIn : (runIngest .ascii (beforeArrival "-") unreadCar).2.decision = .allow ∧
      (runIngest .ascii (beforeArrival "-") unreadCar).2.status = .allowed := by
    decide +kernel
  exact ⟨letIn.1, letIn.2, fun kept => kept.refused letIn⟩

end InfrasafeBot.AccessControl
