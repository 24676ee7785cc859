import InfrasafeBot.AccessControl.EntryDecisions

/-! The occupancy of an apartment's spots as it is shown (`services/parking_occupancy.py`) and
as the engine enforces it. -/

set_option autoImplicit false

namespace InfrasafeBot.AccessControl

open Library RequestWorkflow

section

variable (registry : Registry) (apartmentId zoneId : Nat)

def apartmentOpenSessions : Nat :=
  registry.sessions.rowcount fun session =>
    session.apartmentId = some apartmentId && session.zoneId = zoneId && session.isOpen

def assignedIn (assignment : ParkingSpotAssignment) : Bool :=
  assignment.apartmentId = apartmentId &&
    (registry.spots.find? assignment.spotId).any (·.zoneId = zoneId) && assignment.status = .active

/-- What is shown as the first number of the second. -/
def apartmentSpotOccupancy : Nat × Nat :=
  (apartmentOpenSessions registry apartmentId zoneId,
    registry.assignments.rowcount (assignedIn registry apartmentId zoneId))

def inForce (moment : Moment) (assignment : ParkingSpotAssignment) : Bool :=
  (registry.spots.find? assignment.spotId).any (·.status = .active) &&
    withinWindow moment assignment.validFrom assignment.validUntil

def heldSpots (moment : Moment) : List ParkingSpotAssignment :=
  registry.assignments.rows.filter fun assignment =>
    assignedIn registry apartmentId zoneId assignment && inForce registry moment assignment

/-- The active assignments of the apartment that do not hold now: out of their window, or on a
spot that is not active. -/
def phantomSpots (moment : Moment) : List ParkingSpotAssignment :=
  registry.assignments.rows.filter fun assignment =>
    assignedIn registry apartmentId zoneId assignment && !inForce registry moment assignment

end

section

variable {registry : Registry} {vehicleId apartmentId zoneId : Nat} {moment : Moment}

theorem shown_spots :
    (apartmentSpotOccupancy registry apartmentId zoneId).2 =
      (heldSpots registry apartmentId zoneId moment).length +
        (phantomSpots registry apartmentId zoneId moment).length := by
  unfold apartmentSpotOccupancy Table.rowcount heldSpots phantomSpots
  rw [List.countP_eq_length_filter, List.length_eq_countP_add_countP (inForce registry moment),
    List.countP_filter, List.countP_filter, List.countP_eq_length_filter,
    List.countP_eq_length_filter]
  simp only [Bool.and_comm, Bool.not_eq_true, Bool.decide_eq_false]

def OnlyLinked (registry : Registry) (vehicleId apartmentId : Nat) (moment : Moment) : Prop :=
  ∀ other, Linked registry vehicleId other moment ↔ other = apartmentId

section

variable (linked : OnlyLinked registry vehicleId apartmentId moment)

include linked

theorem contains_of_onlyLinked (other : Nat) :
    (activeApartmentIds registry vehicleId moment).contains other =
      Decidable.decide (other = apartmentId) := by
  rw [Bool.eq_iff_iff, List.contains_iff_mem, mem_activeApartmentIds, decide_eq_true_eq]
  exact linked other

theorem currentAssignments_eq :
    currentAssignments registry (activeApartmentIds registry vehicleId moment) zoneId moment =
      heldSpots registry apartmentId zoneId moment := by
  unfold currentAssignments assignmentsFor heldSpots
  rw [List.filter_filter]
  refine List.filter_congr fun assignment _ => ?_
  rw [contains_of_onlyLinked linked]
  unfold isCurrent spotInZone assignedIn inForce
  cases registry.spots.find? assignment.spotId with
  | none => simp
  | some spot =>
    rw [Bool.eq_iff_iff]
    simp only [Option.any_some, Bool.and_eq_true, Bool.or_eq_true, decide_eq_true_eq]
    tauto

theorem shown_open :
    countOpenForApartmentZone registry (activeApartmentIds registry vehicleId moment) zoneId =
      (apartmentSpotOccupancy registry apartmentId zoneId).1 := by
  unfold countOpenForApartmentZone apartmentSpotOccupancy apartmentOpenSessions
  congr 1
  funext session
  cases session.apartmentId with
  | none => simp
  | some own => simp only [Option.any_some, contains_of_onlyLinked linked, Option.some.injEq]

end

theorem currentAssignments_nil : currentAssignments registry [] zoneId moment = [] := by
  simp [currentAssignments, assignmentsFor]

theorem decideAssigned_occupied_iff {apartmentIds : List Nat} :
    (decideAssigned registry vehicleId apartmentIds zoneId moment).reason = some .parkingSpotOccupied ↔
      0 < (currentAssignments registry apartmentIds zoneId moment).length ∧
        (currentAssignments registry apartmentIds zoneId moment).all (·.enforceLimit) = true ∧
        (currentAssignments registry apartmentIds zoneId moment).length ≤
          countOpenForApartmentZone registry apartmentIds zoneId := by
  unfold decideAssigned
  split
  · next unlinked =>
      subst unlinked
      simp [currentAssignments_nil, EngineDecision.of]
  · split
    · next unheld =>
        rw [unheld]
        split <;> simp [EngineDecision.of]
    · next held =>
        have some_held := List.length_pos_of_ne_nil held
        split
        · next full =>
            rw [Bool.and_eq_true, decide_eq_true_eq] at full
            simp [EngineDecision.of, some_held, full]
        · next room =>
            rw [Bool.and_eq_true, decide_eq_true_eq] at room
            simp only [EngineDecision.of, some_held, true_and, room, iff_false]
            simp

/-- The spots that do not hold now make no difference: there are none, or the open sessions
are on the same side of both numbers. -/
def Aligned (registry : Registry) (apartmentId zoneId : Nat) (moment : Moment) : Prop :=
  let held := (heldSpots registry apartmentId zoneId moment).length
  let phantom := (phantomSpots registry apartmentId zoneId moment).length
  let opened := apartmentOpenSessions registry apartmentId zoneId
  phantom = 0 ∨ held = 0 ∧ opened < phantom ∨ 0 < held ∧ (opened < held ∨ held + phantom ≤ opened)

/-- A car linked to one apartment, whose limits are enforced, meets an occupied spot exactly
where the occupancy shown is full. -/
theorem occupied_shown_iff (linked : OnlyLinked registry vehicleId apartmentId moment)
    (enforced : ∀ assignment ∈ registry.assignments.rows, assignment.apartmentId = apartmentId →
      assignment.enforceLimit = true) :
    ((decideAssigned registry vehicleId (activeApartmentIds registry vehicleId moment) zoneId
        moment).reason = some .parkingSpotOccupied ↔
      0 < (apartmentSpotOccupancy registry apartmentId zoneId).2 ∧
        (apartmentSpotOccupancy registry apartmentId zoneId).2 ≤
          (apartmentSpotOccupancy registry apartmentId zoneId).1) ↔
      Aligned registry apartmentId zoneId moment := by
  have all : (heldSpots registry apartmentId zoneId moment).all (·.enforceLimit) = true := by
    refine List.all_eq_true.mpr fun assignment member => ?_
    obtain ⟨listed, fits⟩ := List.mem_filter.mp member
    simp only [assignedIn, Bool.and_eq_true, decide_eq_true_eq] at fits
    exact enforced assignment listed fits.1.1.1
  have opened : (apartmentSpotOccupancy registry apartmentId zoneId).1 =
      apartmentOpenSessions registry apartmentId zoneId := rfl
  have spots : (apartmentSpotOccupancy registry apartmentId zoneId).2 =
      (heldSpots registry apartmentId zoneId moment).length +
        (phantomSpots registry apartmentId zoneId moment).length := shown_spots
  rw [decideAssigned_occupied_iff, currentAssignments_eq linked, shown_open linked, spots, opened]
  simp only [all, true_and, Aligned]
  omega

theorem futureSpot_spots : [4, 5].Nodup := by decide

theorem futureSpot_assignments : [1, 2].Nodup := by decide

theorem futureSpot_plates : platesUnique [⟨1, "01A", "01A", .active⟩] := by decide

private def futureSpot (opened : Table VehiclePresenceSession.id) (validFrom : Moment) : Registry where
  vehicles := ⟨[⟨1, "01A", "01A", .active⟩], List.nodup_singleton 1⟩
  links := ⟨[⟨1, 1, 7, .active, none, none⟩], List.nodup_singleton 1⟩
  rules := .empty
  passes := .empty
  requests := .empty
  spots := ⟨[⟨4, 1, .active⟩, ⟨5, 1, .active⟩], futureSpot_spots⟩
  assignments := ⟨[⟨1, 4, 7, none, none, .active, true⟩,
    ⟨2, 5, 7, some validFrom, none, .active, true⟩], futureSpot_assignments⟩
  sessions := opened
  territory := ⟨[], [], []⟩
  unique := futureSpot_plates

private def parked : Table VehiclePresenceSession.id :=
  ⟨[⟨1, 2, some 7, 1, 0, none, true⟩], List.nodup_singleton 1⟩

private theorem linked_sample (opened : Table VehiclePresenceSession.id) (validFrom : Moment) :
    OnlyLinked (futureSpot opened validFrom) 1 7 10 := by
  intro other
  simp [Linked, futureSpot, Within, eq_comm]

/-- A spot from tomorrow on is counted in what is shown and not in what is enforced. -/
theorem occupied_not_shown :
    ¬ ∀ (registry : Registry) (vehicleId apartmentId zoneId : Nat) (moment : Moment),
      OnlyLinked registry vehicleId apartmentId moment →
      (∀ assignment ∈ registry.assignments.rows, assignment.apartmentId = apartmentId →
        assignment.enforceLimit = true) →
      ((decideAssigned registry vehicleId (activeApartmentIds registry vehicleId moment) zoneId
          moment).reason = some .parkingSpotOccupied ↔
        0 < (apartmentSpotOccupancy registry apartmentId zoneId).2 ∧
          (apartmentSpotOccupancy registry apartmentId zoneId).2 ≤
            (apartmentSpotOccupancy registry apartmentId zoneId).1) := by
  intro agree
  have agrees := agree (futureSpot parked 20) 1 7 1 10 (linked_sample parked 20)
    (by simp [futureSpot])
  exact absurd (agrees.mp (by decide)) (by decide)

theorem occupied_shown_of_current :
    ((decideAssigned (futureSpot parked 0) 1 (activeApartmentIds (futureSpot parked 0) 1 10) 1
        10).reason = some .parkingSpotOccupied ↔
      0 < (apartmentSpotOccupancy (futureSpot parked 0) 7 1).2 ∧
        (apartmentSpotOccupancy (futureSpot parked 0) 7 1).2 ≤
          (apartmentSpotOccupancy (futureSpot parked 0) 7 1).1) ↔
      Aligned (futureSpot parked 0) 7 1 10 :=
  occupied_shown_iff (linked_sample parked 0) (by simp [futureSpot])

end

end InfrasafeBot.AccessControl
