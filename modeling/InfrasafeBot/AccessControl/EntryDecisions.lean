import InfrasafeBot.AccessControl.DecisionEngine

/-! What an allowed entry rests on, row by row, and which taxi passes are honoured. -/

set_option autoImplicit false

namespace InfrasafeBot.AccessControl

open Library RequestWorkflow

section

variable (equipment : Equipment) (registry : Registry) (data : AnprDecisionInput)

def Within (moment : Moment) (validFrom validUntil : Option Moment) : Prop :=
  (∀ opens, validFrom = some opens → opens ≤ moment) ∧ ∀ closes, validUntil = some closes → moment ≤ closes

def Linked (vehicleId apartmentId : Nat) (moment : Moment) : Prop :=
  ∃ link ∈ registry.links.rows, link.vehicleId = vehicleId ∧ link.apartmentId = apartmentId ∧
    link.status = .active ∧ Within moment link.validFrom link.validUntil

structure RuleAdmits (vehicle : Vehicle) (rule : AccessRule) : Prop where
  listed : rule ∈ registry.rules.rows
  active : rule.isActive = true
  zone : data.zoneId = some rule.zoneId
  scope : rule.vehicleId = some vehicle.id ∨ ∃ apartmentId, rule.apartmentId = some apartmentId ∧
    Linked registry vehicle.id apartmentId data.capturedAt
  window : Within data.capturedAt rule.validFrom rule.validUntil
  direction : ∀ allowed, rule.allowedDirections = some allowed → allowed = [] ∨ data.direction ∈ allowed

/-- The limit on the spots of the vehicle's apartments: one of them lifts it, or fewer
sessions are open than there are spots. -/
def SpotLeft (vehicle : Vehicle) (zoneId : Nat) : Prop :=
  let apartmentIds := activeApartmentIds registry vehicle.id data.capturedAt
  let current := currentAssignments registry apartmentIds zoneId data.capturedAt
  (∃ assignment ∈ current, assignment.enforceLimit = false) ∨
    countOpenForApartmentZone registry apartmentIds zoneId < current.length

structure SpotAdmits (vehicle : Vehicle) (zone : ParkingZone)
    (assignment : ParkingSpotAssignment) (spot : ParkingSpot) : Prop where
  asked : data.zoneId = some zone.id
  listedZone : zone ∈ equipment.zones.rows
  assigned : zone.parkingType = .assigned
  listed : assignment ∈ registry.assignments.rows
  linked : Linked registry vehicle.id assignment.apartmentId data.capturedAt
  active : assignment.status = .active
  window : Within data.capturedAt assignment.validFrom assignment.validUntil
  listedSpot : spot ∈ registry.spots.rows
  own : assignment.spotId = spot.id
  spotZone : spot.zoneId = zone.id
  spotActive : spot.status = .active
  left : SpotLeft registry data vehicle zone.id

structure ServiceAdmits (vehicle : Vehicle) (zone : ParkingZone) (apartmentId : Nat) : Prop where
  asked : data.zoneId = some zone.id
  listedZone : zone ∈ equipment.zones.rows
  shared : zone.parkingType = .shared
  linked : Linked registry vehicle.id apartmentId data.capturedAt
  served : servedByZone registry apartmentId zone.id = true
  below : ∀ cap, zone.maxPermanentVehiclesPerApartment = some cap → ∀ other,
    Linked registry vehicle.id other data.capturedAt →
      servedByZone registry other zone.id = true →
        countActiveApartmentVehicles registry other data.capturedAt ≤ cap

inductive VehicleAdmitted (vehicle : Vehicle) : Prop where
  | rule {rule : AccessRule} (admits : RuleAdmits registry data vehicle rule)
  | spot {zone : ParkingZone} {assignment : ParkingSpotAssignment} {spot : ParkingSpot}
      (admits : SpotAdmits equipment registry data vehicle zone assignment spot)
  | service {zone : ParkingZone} {apartmentId : Nat}
      (admits : ServiceAdmits equipment registry data vehicle zone apartmentId)

def Stranger : Prop :=
  ∀ vehicle ∈ registry.vehicles.rows,
    vehicle.plateNumberNormalized = data.plateNumberNormalized → vehicle.status = .archived

structure PassAdmits (pass : AccessPass) : Prop where
  listed : pass ∈ registry.passes.rows
  plate : pass.plateNumberNormalized = some data.plateNumberNormalized
  taxi : pass.passType = .taxi
  status : pass.status = .active ∨ pass.status = .used
  zone : pass.zoneId = none ∨ data.zoneId = none ∨ pass.zoneId = data.zoneId
  window : Within data.capturedAt pass.validFrom pass.validUntil
  left : pass.usedEntries < pass.maxEntries

def Confident : Prop := ∀ confidence, data.confidence = some confidence → confidenceThreshold ≤ confidence

structure EntrySound : Prop where
  confident : Confident data
  entitled : (∃ vehicle ∈ registry.vehicles.rows,
      vehicle.plateNumberNormalized = data.plateNumberNormalized ∧ vehicle.status = .active ∧
        VehicleAdmitted equipment registry data vehicle) ∨
    Stranger registry data ∧ ∃ pass, PassAdmits registry data pass
  unblocked : ∀ vehicle ∈ registry.vehicles.rows,
    vehicle.plateNumberNormalized = data.plateNumberNormalized → vehicle.status ≠ .blocked

end

section

variable {equipment : Equipment} {registry : Registry} {data : AnprDecisionInput}

theorem withinWindow_iff {moment : Moment} {validFrom validUntil : Option Moment} :
    withinWindow moment validFrom validUntil = true ↔ Within moment validFrom validUntil := by
  cases validFrom <;> cases validUntil <;> simp [withinWindow, Within]

theorem mem_activeApartmentIds {vehicleId apartmentId : Nat} {moment : Moment} :
    apartmentId ∈ activeApartmentIds registry vehicleId moment ↔
      Linked registry vehicleId apartmentId moment := by
  simp only [activeApartmentIds, List.mem_map, List.mem_filter, Bool.and_eq_true,
    decide_eq_true_eq, withinWindow_iff, Linked]
  constructor
  · rintro ⟨link, ⟨listed, ⟨own, active⟩, window⟩, apartment⟩
    exact ⟨link, listed, own, apartment, active, window⟩
  · rintro ⟨link, listed, own, apartment, active, window⟩
    exact ⟨link, ⟨listed, ⟨own, active⟩, window⟩, apartment⟩

theorem confident_iff : data.confidence.any (· < confidenceThreshold) = false ↔ Confident data := by
  unfold Confident
  cases data.confidence <;> simp

theorem stranger_iff :
    activeVehicleByPlate registry data.plateNumberNormalized = none ↔
      Stranger registry data := by
  simp only [activeVehicleByPlate, List.find?_eq_none, Bool.and_eq_true, decide_eq_true_eq,
    not_and, not_not, Stranger]

theorem bearer_listed {vehicle : Vehicle}
    (bearer : activeVehicleByPlate registry data.plateNumberNormalized = some vehicle) :
    vehicle ∈ registry.vehicles.rows ∧
      vehicle.plateNumberNormalized = data.plateNumberNormalized ∧
        vehicle.status ≠ .archived := by
  have fits := List.find?_some bearer
  simp only [Bool.and_eq_true, decide_eq_true_eq] at fits
  exact ⟨List.mem_of_find?_eq_some bearer, fits⟩

theorem bearer_unique {vehicle other : Vehicle}
    (bearer : activeVehicleByPlate registry data.plateNumberNormalized = some vehicle)
    (listed : other ∈ registry.vehicles.rows)
    (plate : other.plateNumberNormalized = data.plateNumberNormalized)
    (live : other.status ≠ .archived) : other = vehicle := by
  obtain ⟨present, same, kept⟩ := bearer_listed bearer
  refine List.inj_on_of_nodup_map registry.unique ?_ ?_ (plate.trans same.symm)
  · exact List.mem_filter.mpr ⟨listed, decide_eq_true live⟩
  · exact List.mem_filter.mpr ⟨present, decide_eq_true kept⟩

end

section

variable {equipment : Equipment} {registry : Registry} {data : AnprDecisionInput}
  {vehicle : Vehicle}

theorem ruleAdmits_of_matches {rule : AccessRule} (listed : rule ∈ registry.rules.rows)
    (fits : ruleMatches vehicle.id (activeApartmentIds registry vehicle.id data.capturedAt)
      data.zoneId data.direction data.capturedAt rule = true) :
    RuleAdmits registry data vehicle rule := by
  simp only [ruleMatches, Bool.and_eq_true, Bool.or_eq_true, decide_eq_true_eq, withinWindow_iff] at fits
  obtain ⟨⟨⟨⟨active, zone⟩, scope⟩, window⟩, direction⟩ := fits
  refine ⟨listed, active, zone, scope.imp_right fun matched => ?_, window, ?_⟩
  · obtain ⟨apartmentId, own, member⟩ := (Option.any_eq_true _ _).mp matched
    exact ⟨apartmentId, own, mem_activeApartmentIds.mp (List.contains_iff_mem.mp member)⟩
  · intro allowed given
    simpa [given] using direction

theorem spotAdmits_of_allows {zone : ParkingZone} (asked : data.zoneId = some zone.id)
    (listedZone : zone ∈ equipment.zones.rows) (assigned : zone.parkingType = .assigned)
    (allows : (decideAssigned registry vehicle.id
      (activeApartmentIds registry vehicle.id data.capturedAt) zone.id
      data.capturedAt).decision = .allow) :
    ∃ assignment spot, SpotAdmits equipment registry data vehicle zone assignment spot := by
  obtain ⟨assignment, current⟩ := List.exists_mem_of_ne_nil _ (decideAssigned_allows allows).2
  have left : SpotLeft registry data vehicle zone.id := by
    unfold decideAssigned at allows
    split at allows
    · cases allows
    · split at allows
      · split at allows <;> cases allows
      · split at allows
        · cases allows
        · next room =>
            rw [Bool.and_eq_true, decide_eq_true_eq, not_and_or, not_le, List.all_eq_true] at room
            refine room.imp_left fun lifted => ?_
            simpa using lifted
  simp only [currentAssignments, assignmentsFor, List.mem_filter, Bool.and_eq_true,
    Bool.or_eq_true, decide_eq_true_eq, isCurrent, withinWindow_iff] at current
  obtain ⟨⟨listed, ⟨inZone, linked⟩, -⟩, active, window⟩ := current
  obtain ⟨spot, found, fits⟩ := (Option.any_eq_true _ _).mp inZone
  simp only [Bool.and_eq_true, decide_eq_true_eq] at fits
  exact ⟨assignment, spot, asked, listedZone, assigned, listed,
    mem_activeApartmentIds.mp (List.contains_iff_mem.mp linked), active, window,
    Table.mem_of_find? found, (Table.key_of_find? found).symm, fits.1, fits.2, left⟩

theorem serviceAdmits_of_allows {zone : ParkingZone} (asked : data.zoneId = some zone.id)
    (listedZone : zone ∈ equipment.zones.rows) (shared : zone.parkingType = .shared)
    (allows : (decideShared registry vehicle.id
      (activeApartmentIds registry vehicle.id data.capturedAt) zone
      data.capturedAt).decision = .allow) :
    ∃ apartmentId, ServiceAdmits equipment registry data vehicle zone apartmentId := by
  obtain ⟨apartmentId, member⟩ := List.exists_mem_of_ne_nil _ (decideShared_allows allows).2
  obtain ⟨linked, served⟩ := List.mem_filter.mp member
  refine ⟨apartmentId, asked, listedZone, shared, mem_activeApartmentIds.mp linked, served,
    fun cap given other linkedToo servedToo => ?_⟩
  unfold decideShared at allows
  dsimp only at allows
  split at allows
  · cases allows
  · split at allows
    · cases allows
    · next below =>
        have listed : other ∈ servedApartments registry
            (activeApartmentIds registry vehicle.id data.capturedAt) zone.id :=
          List.mem_filter.mpr ⟨mem_activeApartmentIds.mpr linkedToo, servedToo⟩
        by_contra exceeded
        refine below ?_
        rw [given, Option.any_some, List.any_eq_true]
        exact ⟨other, listed, decide_eq_true (Nat.lt_of_not_le exceeded)⟩

theorem vehicleAdmitted_of_allows {engine : EngineDecision}
    (decided : decidePermanent equipment registry data = some engine)
    (allows : engine.decision = .allow) :
    ∃ vehicle, activeVehicleByPlate registry data.plateNumberNormalized = some vehicle ∧
      vehicle.status = .active ∧ VehicleAdmitted equipment registry data vehicle := by
  obtain ⟨vehicle, bearer, rfl⟩ := Option.map_eq_some_iff.mp decided
  dsimp only at allows
  split at allows
  · cases allows
  · next unblocked =>
      have active : vehicle.status = .active := by
        have live := (bearer_listed bearer).2.2
        cases status : vehicle.status with
        | active => rfl
        | blocked => exact absurd status unblocked
        | archived => exact absurd status live
      refine ⟨vehicle, bearer, active, ?_⟩
      split at allows
      · next matched =>
          obtain ⟨rule, listed, fits⟩ := List.any_eq_true.mp matched
          exact .rule (ruleAdmits_of_matches listed fits)
      · unfold decideByZone at allows
        split at allows
        · cases allows
        · next zone found =>
            obtain ⟨named, own, present⟩ := Option.bind_eq_some_iff.mp found
            obtain rfl := Table.key_of_find? present
            have listedZone := Table.mem_of_find? present
            split at allows
            · next assigned =>
                obtain ⟨assignment, spot, admits⟩ := spotAdmits_of_allows own listedZone assigned allows
                exact .spot admits
            · next shared =>
                obtain ⟨apartmentId, admits⟩ := serviceAdmits_of_allows own listedZone shared allows
                exact .service admits

theorem mem_taxiPasses {normalized : String} {pass : AccessPass}
    (found : taxiPassByPlate registry normalized = some pass) :
    pass ∈ registry.passes.rows ∧ pass.plateNumberNormalized = some normalized ∧
      pass.passType = .taxi ∧ (pass.status = .active ∨ pass.status = .used) := by
  have member := List.argmax_mem (Option.mem_def.mpr found)
  simpa only [List.mem_filter, Bool.and_eq_true, Bool.or_eq_true, decide_eq_true_eq, and_assoc] using member

theorem passAdmits_of_allows (allows : (decideTaxi registry data).decision = .allow) :
    ∃ pass, PassAdmits registry data pass := by
  unfold decideTaxi at allows
  split at allows
  · cases allows
  · next pass found =>
      obtain ⟨listed, plate, taxi, status⟩ := mem_taxiPasses found
      split at allows
      · cases allows
      · next zone =>
          split at allows
          · cases allows
          · next window =>
              split at allows
              · cases allows
              · next left =>
                  refine ⟨pass, listed, plate, taxi, status, ?_, ?_, Nat.lt_of_not_le left⟩
                  · cases bound : pass.zoneId <;> cases asked : data.zoneId <;>
                      simp_all
                  · rw [Bool.not_eq_true', Bool.not_eq_false] at window
                    exact withinWindow_iff.mp window

private def courtyard : Equipment where
  zones := ⟨[⟨1, "A", .assigned, none⟩], by decide⟩
  controllers := .empty
  gates := .empty
  barriers := .empty
  serial := nofun

private def oneSpot : Registry where
  vehicles := ⟨[⟨1, "01A", "01A", .active⟩], by decide⟩
  links := ⟨[⟨1, 1, 7, .active, none, none⟩], by decide⟩
  rules := .empty
  passes := .empty
  requests := .empty
  spots := ⟨[⟨4, 1, .active⟩], by decide⟩
  assignments := ⟨[⟨5, 4, 7, some 0, none, .active, true⟩], by decide⟩
  sessions := .empty
  territory := ⟨[], [], []⟩
  unique := by decide

end

section

variable (registry : Registry) (data : AnprDecisionInput)

structure PassValid (pass : AccessPass) : Prop where
  listed : pass ∈ registry.passes.rows
  plate : pass.plateNumberNormalized = some data.plateNumberNormalized
  taxi : pass.passType = .taxi
  active : pass.status = .active
  zone : pass.zoneId = none ∨ pass.zoneId = data.zoneId
  window : Within data.capturedAt pass.validFrom pass.validUntil
  left : pass.usedEntries < pass.maxEntries

def taxiPasses (normalized : String) : List AccessPass :=
  registry.passes.rows.filter fun pass =>
    pass.plateNumberNormalized = some normalized && pass.passType = .taxi &&
      (pass.status = .active || pass.status = .used)

structure Newest (pass : AccessPass) : Prop where
  listed : pass ∈ taxiPasses registry data.plateNumberNormalized
  latest : ∀ other ∈ taxiPasses registry data.plateNumberNormalized, other.createdAt ≤ pass.createdAt
  first : ∀ other ∈ taxiPasses registry data.plateNumberNormalized,
    pass.createdAt ≤ other.createdAt →
      (taxiPasses registry data.plateNumberNormalized).idxOf pass ≤
        (taxiPasses registry data.plateNumberNormalized).idxOf other

def Honoured (equipment : Equipment) : Prop :=
  ∃ pass, PassValid registry data pass ∧ decide equipment registry data =
    .of .allow (some .temporaryPassAllowed) none (some pass.id)

variable {registry data} {equipment : Equipment} {pass : AccessPass}

theorem newest_iff :
    taxiPassByPlate registry data.plateNumberNormalized = some pass ↔
      Newest registry data pass := by
  have chosen : taxiPassByPlate registry data.plateNumberNormalized = some pass ↔ _ :=
    List.argmax_eq_some_iff
  rw [chosen]
  exact ⟨fun ⟨listed, latest, first⟩ => ⟨listed, latest, first⟩,
    fun newest => ⟨newest.listed, newest.latest, newest.first⟩⟩

theorem decide_of_stranger (confident : Confident data) (stranger : Stranger registry data) :
    decide equipment registry data = decideTaxi registry data := by
  have unborne := stranger_iff.mpr stranger
  simp only [decide, confident_iff.mpr confident, decidePermanent, unborne, Option.map_none]
  rfl

theorem decideTaxi_of_valid (found : taxiPassByPlate registry data.plateNumberNormalized = some pass)
    (valid : PassValid registry data pass) :
    decideTaxi registry data = .of .allow (some .temporaryPassAllowed) none (some pass.id) := by
  have fits : (pass.zoneId.isSome && data.zoneId.isSome &&
      Decidable.decide (pass.zoneId ≠ data.zoneId)) = false := by
    rcases valid.zone with free | bound
    · simp [free]
    · simp [bound]
  have window := withinWindow_iff.mpr valid.window
  simp only [decideTaxi, found, fits, window, Nat.not_le.mpr valid.left]
  rfl

/-- A stranger with a valid taxi pass is let in on a valid pass exactly when the newest of the
plate's passes is a valid one. -/
theorem valid_pass_honoured (confident : Confident data) (stranger : Stranger registry data)
    (_held : ∃ pass, PassValid registry data pass) :
    Honoured registry data equipment ↔
      ∃ pass, Newest registry data pass ∧ PassValid registry data pass := by
  unfold Honoured
  rw [decide_of_stranger confident stranger]
  constructor
  · rintro ⟨pass, valid, decided⟩
    obtain ⟨chosen, found, allowed⟩ := decideTaxi_allows (by rw [decided]; rfl)
    have named : pass.id = chosen.id := by
      simpa [EngineDecision.of] using decided.symm.trans allowed
    have same : pass = chosen := Table.eq_of_key valid.listed (mem_taxiPasses found).1 named
    exact ⟨pass, newest_iff.mp (same ▸ found), valid⟩
  · rintro ⟨pass, newest, valid⟩
    exact ⟨pass, valid, decideTaxi_of_valid (newest_iff.mpr newest) valid⟩

private def issuedPass (id usedEntries : Nat) (status : PassStatus) (createdAt : Moment)
    (limited : 0 < 1 ∧ usedEntries ≤ 1) : AccessPass :=
  ⟨id, 7, none, .taxi, none, none, some "01T", none, none, 1, usedEntries, status, none, createdAt, limited⟩

private def withPasses (passes : Table AccessPass.id) : Registry :=
  { Registry.empty ⟨[], [], []⟩ with passes := passes }

/-- A later pass that is used up hides the valid one. -/
theorem valid_pass_hidden :
    ¬ ∀ (equipment : Equipment) (registry : Registry) (data : AnprDecisionInput),
      Confident data → Stranger registry data → (∃ pass, PassValid registry data pass) →
        Honoured registry data equipment := by
  intro honours
  let passes : Table AccessPass.id :=
    ⟨[issuedPass 1 0 .active 1 (by decide), issuedPass 2 1 .used 2 (by decide)], by decide⟩
  obtain ⟨pass, -, decided⟩ := honours courtyard (withPasses passes)
    ⟨some 1, "01T", .entry, none, 10⟩ nofun nofun
    ⟨issuedPass 1 0 .active 1 (by decide), by simp [withPasses, passes], rfl, rfl, rfl, .inl rfl,
      ⟨nofun, nofun⟩, by decide⟩
  have denied : (decide courtyard (withPasses passes) ⟨some 1, "01T", .entry, none, 10⟩).decision =
      .deny := by decide
  rw [decided] at denied
  cases denied

theorem single_pass_honoured :
    Honoured (withPasses ⟨[issuedPass 1 0 .active 1 (by decide)], by decide⟩)
        ⟨some 1, "01T", .entry, none, 10⟩ courtyard ↔
      ∃ pass, Newest (withPasses ⟨[issuedPass 1 0 .active 1 (by decide)], by decide⟩)
          ⟨some 1, "01T", .entry, none, 10⟩ pass ∧
        PassValid (withPasses ⟨[issuedPass 1 0 .active 1 (by decide)], by decide⟩)
          ⟨some 1, "01T", .entry, none, 10⟩ pass :=
  valid_pass_honoured nofun nofun
    ⟨issuedPass 1 0 .active 1 (by decide), by simp [withPasses], rfl, rfl, rfl, .inl rfl,
      ⟨nofun, nofun⟩, by decide⟩

end

end InfrasafeBot.AccessControl
