import InfrasafeBot.AccessControl.PassCapacity
import InfrasafeBot.Library.Matching

/-! Whether every car that is let in on a spot has one: the sessions that such entries open,
against the spots of the apartments they are booked on. -/

set_option autoImplicit false

namespace InfrasafeBot.AccessControl.Gates

open Library Machine RequestWorkflow

def Work.spotVehicle (zoneId : Nat) : Work → Option Nat
  | .recording data _ engine _ =>
    if engine.decision = .allow ∧ engine.reason = some .assignedSpotAllowed ∧
        data.zoneId = some zoneId then engine.matchedVehicleId
    else none
  | _ => none

def Stage.spotVehicle (zoneId : Nat) : Stage → Option Nat
  | .working _ work => work.spotVehicle zoneId
  | _ => none

def bookedOn (registry : Registry) (zoneId apartmentId : Nat) (stage : Stage) : Bool :=
  (stage.spotVehicle zoneId).any fun vehicleId => apartmentForVehicle registry vehicleId = some apartmentId

def awaited {n : Nat} (state : State n) (zoneId apartmentId : Nat) : Nat :=
  workersAt (bookedOn state.ledger.system.registry zoneId apartmentId) state.workers

/-- `onSpot` lists the sessions that entries on a spot have opened; the code does not keep
it. -/
structure Watched (n : Nat) where
  state : State n
  onSpot : List Nat

def Watched.registry {n : Nat} (watched : Watched n) : Registry := watched.state.ledger.system.registry

def openedSessions (before after : Registry) : List Nat :=
  (after.sessions.rows.map (·.id)).filter fun id => (before.sessions.find? id).isNone

def entersOnSpot {n : Nat} (zoneId : Nat) (state : State n) : Event n → Bool
  | .step worker => ((state.workers worker).spotVehicle zoneId).isSome
  | _ => false

def watch (forms : TextForms) (hashCode : String → String) {n : Nat} (zoneId : Nat)
    (watched : Watched n) (event : Event n) : Watched n :=
  let after := next forms hashCode watched.state event
  { state := after
    onSpot :=
      if entersOnSpot zoneId watched.state event then
        watched.onSpot ++ openedSessions watched.registry after.ledger.system.registry
      else watched.onSpot }

def inside (sessions : Table VehiclePresenceSession.id) (onSpot : List Nat) (zoneId : Nat) :
    List VehiclePresenceSession :=
  sessions.rows.filter fun session =>
    session.zoneId = zoneId && session.isOpen && onSpot.contains session.id

def Watched.inside {n : Nat} (watched : Watched n) (zoneId : Nat) : List VehiclePresenceSession :=
  Gates.inside watched.registry.sessions watched.onSpot zoneId

def zonePlaces (registry : Registry) (zoneId : Nat) : List ParkingSpotAssignment :=
  registry.assignments.rows.filter fun assignment =>
    spotInZone registry zoneId assignment && assignment.status = .active

def LinkedTo (registry : Registry) (vehicleId apartmentId : Nat) : Prop :=
  ∃ link ∈ registry.links.rows, link.vehicleId = vehicleId ∧ link.status = .active ∧
    link.apartmentId = apartmentId

/-- The cars inside are matched one-to-one to spots of apartments that they are linked to. -/
structure Housed {n : Nat} (zoneId : Nat) (watched : Watched n) : Prop where
  once : ((watched.inside zoneId).map (·.vehicleId)).Nodup
  placed : ∃ places, List.Forall₂ (fun session (place : ParkingSpotAssignment) =>
      LinkedTo watched.registry session.vehicleId place.apartmentId)
        (watched.inside zoneId) places ∧
    places.Nodup ∧ ∀ place ∈ places, place ∈ zonePlaces watched.registry zoneId

def traffic {n : Nat} : Event n → Bool
  | .operate (.tick _) => true
  | .operate _ => false
  | _ => true

/-- The entry of the car comes down to the spots, and these are more than the open sessions of
its apartments. -/
def asksForSpot (registry : Registry) (zoneId : Nat) (data : AnprIngestInput) (scope : Scope)
    (vehicle : Vehicle) : Bool :=
  let apartmentIds := activeApartmentIds registry vehicle.id data.capturedAt
  scope.violation.isNone && data.direction = .entry &&
    !data.confidence.any (· < confidenceThreshold) && data.zoneId = some zoneId &&
    vehicle.status ≠ .blocked &&
    !zoneRuleMatches registry vehicle.id apartmentIds data.zoneId data.direction
      data.capturedAt &&
    countOpenForApartmentZone registry apartmentIds zoneId <
      (currentAssignments registry apartmentIds zoneId data.capturedAt).length

def spotLeft {n : Nat} (state : State n) (zoneId : Nat) (moment : Moment) (apartmentId : Nat) : Bool :=
  countOpenForApartmentZone state.ledger.system.registry [apartmentId] zoneId +
      awaited state zoneId apartmentId <
    (currentAssignments state.ledger.system.registry [apartmentId] zoneId moment).length

/-- A car that asks for a spot when its entry is decided is booked on an apartment that has one
left. -/
def bookable {n : Nat} (zoneId : Nat) (state : State n) : Event n → Bool
  | .step worker =>
    match state.workers worker with
    | .working _ (.judging data normalized scope) =>
      (activeVehicleByPlate state.ledger.system.registry (normalized.getD "")).all
        fun vehicle =>
          !asksForSpot state.ledger.system.registry zoneId data scope vehicle ||
            (apartmentForVehicle state.ledger.system.registry vehicle.id).any
              (spotLeft state zoneId data.capturedAt)
    | _ => true
  | _ => true

structure SameGrants (before after : Registry) : Prop where
  links : after.links = before.links
  spots : after.spots = before.spots
  assignments : after.assignments = before.assignments

/-- A commit leaves the sessions alone, closes those of a car or opens one; where it records an
entry on a spot, that of its car. -/
inductive SessionMove (work : Work) (before after : Registry) : Prop where
  | kept (same : after.sessions = before.sessions)
  | closed (vehicleId zoneId : Nat) (exitedAt : Moment)
      (closes : after.sessions = before.sessions.update (openFor vehicleId zoneId)
        (closedSession exitedAt) (closedSession_id exitedAt))
  | opened (vehicleId zoneId : Nat) (apartmentId : Option Nat) (enteredAt : Moment)
      (own : ∀ zone vehicle, work.spotVehicle zone = some vehicle → vehicle = vehicleId ∧ zone = zoneId)
      (fresh : ∀ session ∈ before.sessions.rows, openFor vehicleId zoneId session = false)
      (booked : apartmentForVehicle before vehicleId = apartmentId)
      (opens : after.sessions = before.sessions.insert
        (newSession vehicleId apartmentId zoneId enteredAt)
        (newSession_id vehicleId apartmentId zoneId enteredAt))

section

variable {forms : TextForms} {hashCode : String → String} {ledger : Ledger} {key : Option Nat}
  {work : Work} {data : AnprIngestInput} {registry changed : Registry} {engine : EngineDecision}
  {decided : Verdict} {normalized : Option String} {written : Option AccessPass}

theorem SameGrants.refl : SameGrants registry registry := ⟨rfl, rfl, rfl⟩

theorem trackPresence_grants : SameGrants registry (trackPresence data registry engine decided) := by
  unfold trackPresence
  split
  · split
    · exact .refl
    · split
      · exact ⟨rfl, rfl, rfl⟩
      · split
        · unfold openPresenceSession
          split <;> exact ⟨rfl, rfl, rfl⟩
        · exact .refl
  · exact .refl

theorem trackPresence_moves : SessionMove (.recording data normalized engine written) registry
    (trackPresence data registry engine decided) := by
  unfold trackPresence
  split
  · next vehicleId zoneId matched zone =>
      split
      · exact .kept rfl
      · split
        · exact .closed vehicleId zoneId data.capturedAt rfl
        · split
          · unfold openPresenceSession
            split
            · exact .kept rfl
            · next none =>
                refine .opened vehicleId zoneId _ data.capturedAt ?_ ?_ rfl rfl
                · intro other vehicle entering
                  simp only [Work.spotVehicle] at entering
                  split at entering
                  · next spot =>
                      exact ⟨Option.some.inj (entering.symm.trans matched),
                        Option.some.inj (spot.2.2.symm.trans zone)⟩
                  · cases entering
                · simpa using none
          · exact .kept rfl
  · exact .kept rfl

theorem putPasses_grants : SameGrants registry (written.elim registry (putPass registry)) := by
  cases written <;> exact ⟨rfl, rfl, rfl⟩

theorem perform_grants :
    SameGrants ledger.system.registry (perform forms hashCode ledger key work).1.system.registry := by
  cases commits : work.commits with
  | false =>
    rw [perform_reads commits]
    exact .refl
  | true =>
    cases work with
    | recording data normalized engine written =>
      have puts := @putPasses_grants ledger.system.registry written
      have tracks := @trackPresence_grants data
        (written.elim ledger.system.registry (putPass ledger.system.registry)) engine
        (verdict ledger.system.journal ledger.system.time data engine)
      exact ⟨tracks.links.trans puts.links, tracks.spots.trans puts.spots,
        tracks.assignments.trans puts.assignments⟩
    | opening | saving => exact ⟨rfl, rfl, rfl⟩
    | _ => cases commits

theorem apartmentForVehicle_congr (same : SameGrants registry changed) (vehicleId : Nat) :
    apartmentForVehicle changed vehicleId = apartmentForVehicle registry vehicleId := by
  unfold apartmentForVehicle
  rw [same.links]

theorem perform_moves : SessionMove work ledger.system.registry
    (perform forms hashCode ledger key work).1.system.registry := by
  cases commits : work.commits with
  | false =>
    rw [perform_reads commits]
    exact .kept rfl
  | true =>
    cases work with
    | recording data normalized engine written =>
      have same : (written.elim ledger.system.registry
          (putPass ledger.system.registry)).sessions = ledger.system.registry.sessions := by
        cases written <;> rfl
      have moves := @trackPresence_moves data
        (written.elim ledger.system.registry (putPass ledger.system.registry)) engine
        (verdict ledger.system.journal ledger.system.time data engine) normalized written
      cases moves with
      | kept unchanged => exact .kept (unchanged.trans same)
      | closed vehicleId zoneId exitedAt closes => exact .closed vehicleId zoneId exitedAt (same ▸ closes)
      | opened vehicleId zoneId apartmentId enteredAt own fresh booked opens =>
        rw [same] at fresh opens
        rw [apartmentForVehicle_congr putPasses_grants] at booked
        exact .opened vehicleId zoneId apartmentId enteredAt own fresh booked opens
    | opening | saving => exact .kept rfl
    | _ => cases commits

end

section

variable {work : Work} {before after : Registry} {onSpot : List Nat} {zoneId vehicleId : Nat}
  {apartmentId : Option Nat} {enteredAt exitedAt : Moment}

def Stored (sessions : Table VehiclePresenceSession.id) (onSpot : List Nat) : Prop :=
  ∀ id ∈ onSpot, id ∈ sessions.rows.map (·.id)

def onSpotAfter (onSpot : List Nat) (before after : Registry) (spot : Bool) : List Nat :=
  if spot then onSpot ++ openedSessions before after else onSpot

theorem openedSessions_of_keys
    (same : after.sessions.rows.map (·.id) = before.sessions.rows.map (·.id)) :
    openedSessions before after = [] := by
  unfold openedSessions
  rw [same, List.filter_eq_nil_iff]
  intro id listed
  obtain ⟨session, member, rfl⟩ := List.mem_map.mp listed
  rw [Table.find?_of_mem member]
  exact Bool.false_ne_true

theorem openedSessions_of_insert (opens : after.sessions = before.sessions.insert
      (newSession vehicleId apartmentId zoneId enteredAt)
      (newSession_id vehicleId apartmentId zoneId enteredAt)) :
    openedSessions before after = [before.sessions.nextKey] := by
  have old : (before.sessions.rows.map (·.id)).filter
      (fun id => (before.sessions.find? id).isNone) = [] := openedSessions_of_keys rfl
  have fresh : before.sessions.find? before.sessions.nextKey = none := by
    refine List.find?_eq_none.mpr fun session member hit => ?_
    exact before.sessions.nextKey_fresh (List.mem_map.mpr ⟨session, member, of_decide_eq_true hit⟩)
  unfold openedSessions
  rw [opens]
  simp only [Table.insert, List.map_append, List.filter_append, old, List.map_singleton,
    newSession_id, List.filter_singleton, fresh, Option.isNone_none, cond_true, List.nil_append]

theorem keys_of_update : (before.sessions.update (openFor vehicleId zoneId)
    (closedSession exitedAt) (closedSession_id exitedAt)).rows.map (·.id) = before.sessions.rows.map (·.id) := by
  rw [Table.update, List.map_map]
  refine List.map_congr_left fun session _ => ?_
  dsimp only [Function.comp_apply]
  split <;> rfl

theorem onSpotAfter_of_keys (same : after.sessions.rows.map (·.id) = before.sessions.rows.map (·.id))
    (spot : Bool) : onSpotAfter onSpot before after spot = onSpot := by
  unfold onSpotAfter
  rw [openedSessions_of_keys same, List.append_nil, ite_self]

theorem Stored.move (stored : Stored before.sessions onSpot) (moves : SessionMove work before after)
    (spot : Bool) : Stored after.sessions (onSpotAfter onSpot before after spot) := by
  have kept : after.sessions.rows.map (·.id) = before.sessions.rows.map (·.id) →
      Stored after.sessions (onSpotAfter onSpot before after spot) := by
    intro same
    rw [onSpotAfter_of_keys same]
    intro id member
    rw [same]
    exact stored id member
  cases moves with
  | kept same => exact kept (congrArg (fun sessions => sessions.rows.map (·.id)) same)
  | closed vehicleId zoneId exitedAt closes =>
    refine kept ?_
    rw [closes]
    exact keys_of_update
  | opened vehicleId zoneId apartmentId enteredAt own fresh booked opens =>
    unfold onSpotAfter
    rw [openedSessions_of_insert opens, opens]
    intro id member
    have old : id ∈ onSpot → id ∈ (before.sessions.insert
        (newSession vehicleId apartmentId zoneId enteredAt) (newSession_id _ _ _ _)).rows.map (·.id) := by
      intro known
      rw [Table.insert, List.map_append]
      exact List.mem_append_left _ (stored id known)
    split at member
    · rcases List.mem_append.mp member with known | added
      · exact old known
      · rw [Table.insert, List.map_append, List.mem_singleton.mp added]
        exact List.mem_append_right _ (List.mem_singleton_self _)
    · exact old member

theorem inside_move (stored : Stored before.sessions onSpot)
    (moves : SessionMove work before after) (spot : Bool) :
    (inside after.sessions (onSpotAfter onSpot before after spot) zoneId).Sublist
        (inside before.sessions onSpot zoneId) ∨
      spot = true ∧ ∃ vehicleId enteredAt id,
        (∀ vehicle, work.spotVehicle zoneId = some vehicle → vehicle = vehicleId) ∧
        (∀ session ∈ inside before.sessions onSpot zoneId, session.vehicleId ≠ vehicleId) ∧
        inside after.sessions (onSpotAfter onSpot before after spot) zoneId =
          inside before.sessions onSpot zoneId ++
            [newSession vehicleId (apartmentForVehicle before vehicleId) zoneId enteredAt id] := by
  cases moves with
  | kept same =>
    rw [onSpotAfter_of_keys (congrArg (fun sessions => sessions.rows.map (·.id)) same), same]
    exact .inl (List.Sublist.refl _)
  | closed vehicleId zone exitedAt closes =>
    have keys : after.sessions.rows.map (·.id) = before.sessions.rows.map (·.id) := by
      rw [closes]
      exact keys_of_update
    rw [onSpotAfter_of_keys keys, closes, inside, Table.filter_update_of_leaving]
    · refine .inl (List.monotone_filter_right _ ?_)
      intro session both
      exact (Bool.and_eq_true_iff.mp both).1
    · intro session _ _
      simp [closedSession]
  | opened vehicleId zone apartmentId enteredAt own fresh booked opens =>
    have unused : before.sessions.nextKey ∉ onSpot := fun known =>
      before.sessions.nextKey_fresh (stored _ known)
    have old : before.sessions.rows.filter (fun session => session.zoneId = zoneId &&
          session.isOpen && (onSpotAfter onSpot before after spot).contains session.id) =
        inside before.sessions onSpot zoneId := by
      refine List.filter_congr fun session member => ?_
      have other : session.id ≠ before.sessions.nextKey := Nat.ne_of_lt (Table.lt_nextKey member)
      unfold onSpotAfter
      rw [openedSessions_of_insert opens]
      split <;> simp [other]
    have grown : inside after.sessions (onSpotAfter onSpot before after spot) zoneId =
        inside before.sessions onSpot zoneId ++
          if zone = zoneId && spot then
            [newSession vehicleId apartmentId zone enteredAt before.sessions.nextKey]
          else [] := by
      rw [inside, opens, Table.filter_insert, old]
      congr 1
      unfold onSpotAfter
      rw [openedSessions_of_insert opens]
      by_cases same : zone = zoneId <;> cases spot <;> simp [newSession, unused, same]
    rw [grown]
    split
    · next entering =>
        obtain ⟨same, entered⟩ := Bool.and_eq_true_iff.mp entering
        obtain rfl := of_decide_eq_true same
        refine .inr ⟨entered, vehicleId, enteredAt, before.sessions.nextKey, ?_, ?_, by rw [booked]⟩
        · intro vehicle spotted
          exact (own _ _ spotted).1
        · intro session present same
          obtain ⟨member, fits⟩ := List.mem_filter.mp present
          have free := fresh session member
          simp only [Bool.and_eq_true, decide_eq_true_eq] at fits
          simp [openFor, same, fits.1.1, fits.1.2] at free
    · rw [List.append_nil]
      exact .inl (List.Sublist.refl _)

end

section

variable {registry : Registry} {system : System} {data : AnprIngestInput}
  {normalized : Option String} {scope : Scope} {engine : EngineDecision} {zoneId vehicleId : Nat}
  {apartmentIds : List Nat} {moment : Moment}

def Enforced (registry : Registry) (zoneId : Nat) : Prop :=
  ∀ assignment ∈ registry.assignments.rows, spotInZone registry zoneId assignment = true →
    assignment.enforceLimit = true

theorem decideAssigned_room (enforced : Enforced registry zoneId)
    (allows : (decideAssigned registry vehicleId apartmentIds zoneId moment).decision = .allow) :
    countOpenForApartmentZone registry apartmentIds zoneId <
      (currentAssignments registry apartmentIds zoneId moment).length := by
  have all : (currentAssignments registry apartmentIds zoneId moment).all (·.enforceLimit) =
      true := by
    refine List.all_eq_true.mpr fun assignment member => ?_
    obtain ⟨member, fits⟩ := List.mem_filter.mp (List.mem_of_mem_filter member)
    simp only [Bool.and_eq_true] at fits
    exact enforced assignment member fits.1.1
  unfold decideAssigned at allows
  split at allows
  · cases allows
  · split at allows
    · split at allows <;> cases allows
    · split at allows
      · cases allows
      · next room =>
          rw [all, Bool.true_and, decide_eq_true_eq] at room
          exact Nat.lt_of_not_le room

theorem decideByZone_room {equipment : Equipment} (enforced : Enforced registry zoneId)
    (allows : (decideByZone equipment registry vehicleId apartmentIds (some zoneId)
      moment).decision = .allow)
    (reason : (decideByZone equipment registry vehicleId apartmentIds (some zoneId)
      moment).reason = some .assignedSpotAllowed) :
    countOpenForApartmentZone registry apartmentIds zoneId <
      (currentAssignments registry apartmentIds zoneId moment).length := by
  unfold decideByZone at allows reason
  split at allows
  · cases allows
  · next zone found =>
      obtain rfl : zone.id = zoneId := Table.key_of_find? found
      simp only [found] at reason
      split at allows
      · exact decideAssigned_room enforced allows
      · next shared =>
          rw [shared] at reason
          rw [(decideShared_allows allows).1] at reason
          cases reason

theorem decideByZone_matched {equipment : Equipment} {zone : Option Nat} :
    (decideByZone equipment registry vehicleId apartmentIds zone moment).matchedVehicleId =
      some vehicleId := by
  unfold decideByZone decideAssigned decideShared
  grind [EngineDecision.of]

theorem asks_of_judge (enforced : Enforced system.registry zoneId)
    (judged : judge system data normalized scope = some engine)
    (allows : engine.decision = .allow) (reason : engine.reason = some .assignedSpotAllowed)
    (zone : data.zoneId = some zoneId) (matched : engine.matchedVehicleId = some vehicleId) :
    ∃ vehicle, activeVehicleByPlate system.registry (normalized.getD "") = some vehicle ∧
      vehicle.id = vehicleId ∧ asksForSpot system.registry zoneId data scope vehicle = true := by
  unfold judge at judged
  split at judged
  · cases judged
    cases allows
  · next lawful =>
      split at judged
      · cases judged
        cases reason
      · next entry =>
          split at judged
          · cases judged
            cases allows
          · next certain =>
              obtain ⟨vehicle, bearer, decided⟩ := Option.map_eq_some_iff.mp judged
              refine ⟨vehicle, bearer, ?_⟩
              dsimp only at decided
              split at decided
              · rw [← decided] at allows
                cases allows
              · next free =>
                  split at decided
                  · rw [← decided] at reason
                    cases reason
                  · next unruled =>
                      have room : countOpenForApartmentZone system.registry
                          (activeApartmentIds system.registry vehicle.id data.capturedAt) zoneId <
                            (currentAssignments system.registry
                              (activeApartmentIds system.registry vehicle.id data.capturedAt)
                                zoneId data.capturedAt).length := by
                        rw [← decided] at allows reason
                        simp only [decisionInput, zone] at allows reason
                        exact decideByZone_room enforced allows reason
                      have own : engine.matchedVehicleId = some vehicle.id := by
                        rw [← decided]
                        exact decideByZone_matched
                      refine ⟨Option.some.inj (own.symm.trans matched), ?_⟩
                      simp only [decisionInput, zone, entry, Bool.not_eq_true] at unruled
                      simp [asksForSpot, lawful, entry, certain, zone, free, unruled, room]

end

section

variable {forms : TextForms} {hashCode : String → String} {ledger : Ledger} {key : Option Nat}
  {work : Work} {data : AnprIngestInput} {normalized : Option String} {scope : Scope}
  {engine : EngineDecision} {zoneId apartmentId : Nat}

def Work.Sober : Work → Prop
  | .spending _ _ engine _ => engine.reason ≠ some .assignedSpotAllowed
  | _ => True

def Stage.Sober : Stage → Prop
  | .waiting _ work => work.Sober ∧ ∀ zoneId, work.spotVehicle zoneId = none
  | .working _ work => work.Sober
  | _ => True

theorem decideTaxi_unspotted {registry : Registry} {asked : AnprDecisionInput} :
    (decideTaxi registry asked).reason ≠ some .assignedSpotAllowed := by
  unfold decideTaxi
  grind [EngineDecision.of]

theorem spotVehicle_of_reason {written : Option AccessPass}
    (other : engine.reason ≠ some .assignedSpotAllowed) :
    (Work.recording data normalized engine written).spotVehicle zoneId = none :=
  if_neg fun spot => other spot.2.1

theorem afterEngine_sober (other : engine.reason ≠ some .assignedSpotAllowed) :
    (afterEngine data normalized engine).Sober ∧
      (afterEngine data normalized engine).spotVehicle zoneId = none := by
  unfold afterEngine
  split
  · exact ⟨other, rfl⟩
  · exact ⟨trivial, spotVehicle_of_reason other⟩

theorem perform_sober (sober : work.Sober) :
    (perform forms hashCode ledger key work).2.Sober ∧
      ((∀ data normalized scope, work ≠ .judging data normalized scope) → ∀ zoneId,
        (perform forms hashCode ledger key work).2.spotVehicle zoneId = none) := by
  cases work with
  | judging data normalized scope =>
    refine ⟨?_, fun other => absurd rfl (other data normalized scope)⟩
    simp only [perform]
    split <;> trivial
  | granting data normalized =>
    refine ⟨?_, fun _ zoneId => ?_⟩
    · exact (@afterEngine_sober data normalized _ 0 decideTaxi_unspotted).1
    · exact (afterEngine_sober decideTaxi_unspotted).2
  | spending data normalized engine passId =>
    simp only [perform]
    split
    · exact ⟨trivial, fun _ _ => if_neg fun spot => sober spot.2.1⟩
    · exact ⟨trivial, fun _ _ => rfl⟩
  | scoping data =>
    simp only [perform]
    split
    · exact ⟨trivial, fun _ _ => rfl⟩
    · exact ⟨⟨trivial, fun _ => rfl⟩, fun _ _ => rfl⟩
  | seeking request now =>
    simp only [perform]
    split
    · exact ⟨trivial, fun _ _ => rfl⟩
    · split
      · exact ⟨trivial, fun _ _ => rfl⟩
      · exact ⟨⟨trivial, fun _ => rfl⟩, fun _ _ => rfl⟩
  | _ =>
    simp only [perform]
    repeat' split
    all_goals exact ⟨trivial, fun _ _ => rfl⟩

end

section

variable {n : Nat} {zoneId vehicleId apartmentId : Nat} {registry changed : Registry}

/-- No apartment has more cars inside, or about to be, than spots. -/
structure Roomy (zoneId : Nat) (registry : Registry) (sessions : List VehiclePresenceSession)
    (stages : Fin n → Stage) : Prop where
  once : (sessions.map (·.vehicleId)).Nodup
  booked : ∀ session ∈ sessions, ∃ apartmentId, session.apartmentId = some apartmentId ∧
    apartmentForVehicle registry session.vehicleId = some apartmentId
  linked : ∀ worker vehicleId, (stages worker).spotVehicle zoneId = some vehicleId →
    ∃ apartmentId, apartmentForVehicle registry vehicleId = some apartmentId
  room : ∀ apartmentId, sessions.countP (·.apartmentId = some apartmentId) +
      workersAt (bookedOn registry zoneId apartmentId) stages ≤
    (zonePlaces registry zoneId).countP (·.apartmentId = apartmentId)

theorem zonePlaces_congr (same : SameGrants registry changed) :
    zonePlaces changed zoneId = zonePlaces registry zoneId := by
  unfold zonePlaces spotInZone
  rw [same.assignments, same.spots]

theorem bookedOn_congr (same : SameGrants registry changed) :
    bookedOn changed zoneId apartmentId = bookedOn registry zoneId apartmentId := by
  funext stage
  unfold bookedOn
  simp only [apartmentForVehicle_congr same]

theorem linkedTo_of_apartment (found : apartmentForVehicle registry vehicleId = some apartmentId) :
    LinkedTo registry vehicleId apartmentId := by
  obtain ⟨link, first, rfl⟩ := Option.map_eq_some_iff.mp found
  obtain ⟨member, fits⟩ := List.mem_filter.mp (List.argmin_mem first)
  obtain ⟨own, active⟩ := Bool.and_eq_true_iff.mp fits
  exact ⟨link, member, of_decide_eq_true own, of_decide_eq_true active, rfl⟩

variable {sessions others : List VehiclePresenceSession} {stages : Fin n → Stage}
  {worker : Fin n} {stage : Stage}

theorem Roomy.congr (roomy : Roomy zoneId registry sessions stages)
    (same : SameGrants registry changed) : Roomy zoneId changed sessions stages where
  once := roomy.once
  booked session member := by
    obtain ⟨apartmentId, own, found⟩ := roomy.booked session member
    exact ⟨apartmentId, own, (apartmentForVehicle_congr same _).trans found⟩
  linked worker vehicleId awaited := by
    rw [apartmentForVehicle_congr same]
    exact roomy.linked worker vehicleId awaited
  room apartmentId := by
    rw [zonePlaces_congr same, bookedOn_congr same]
    exact roomy.room apartmentId

theorem linked_update
    (linked : ∀ worker vehicleId, (stages worker).spotVehicle zoneId = some vehicleId →
      ∃ apartmentId, apartmentForVehicle registry vehicleId = some apartmentId)
    (own : ∀ vehicleId, stage.spotVehicle zoneId = some vehicleId →
      ∃ apartmentId, apartmentForVehicle registry vehicleId = some apartmentId)
    (other : Fin n) (vehicleId : Nat)
    (awaited : (Function.update stages worker stage other).spotVehicle zoneId = some vehicleId) :
    ∃ apartmentId, apartmentForVehicle registry vehicleId = some apartmentId := by
  by_cases same : other = worker
  · rw [same, Function.update_self] at awaited
    exact own vehicleId awaited
  · rw [Function.update_of_ne same] at awaited
    exact linked other vehicleId awaited

theorem Roomy.go (roomy : Roomy zoneId registry sessions stages)
    (fewer : others.Sublist sessions) (unspotted : stage.spotVehicle zoneId = none) :
    Roomy zoneId registry others (Function.update stages worker stage) where
  once := (fewer.map _).nodup roomy.once
  booked session member := roomy.booked session (fewer.subset member)
  linked := linked_update roomy.linked (by simp [unspotted])
  room apartmentId := by
    have held := roomy.room apartmentId
    have counted := fewer.countP_le (p := fun session => session.apartmentId = some apartmentId)
    have moved := workersAt_update (bookedOn registry zoneId apartmentId) stages worker stage
    have nobody : bookedOn registry zoneId apartmentId stage = false := by
      rw [bookedOn, unspotted]
      rfl
    rw [nobody] at moved
    simp only [Bool.toNat_false] at moved
    omega

theorem Roomy.await (roomy : Roomy zoneId registry sessions stages)
    (linked : ∀ vehicleId, stage.spotVehicle zoneId = some vehicleId →
      ∃ apartmentId, apartmentForVehicle registry vehicleId = some apartmentId)
    (left : ∀ apartmentId, bookedOn registry zoneId apartmentId stage = true →
      sessions.countP (·.apartmentId = some apartmentId) +
          workersAt (bookedOn registry zoneId apartmentId) stages <
        (zonePlaces registry zoneId).countP (·.apartmentId = apartmentId)) :
    Roomy zoneId registry sessions (Function.update stages worker stage) where
  once := roomy.once
  booked := roomy.booked
  linked := linked_update roomy.linked linked
  room apartmentId := by
    have held := roomy.room apartmentId
    have moved := workersAt_update (bookedOn registry zoneId apartmentId) stages worker stage
    cases spot : bookedOn registry zoneId apartmentId stage with
    | false =>
      rw [spot] at moved
      simp only [Bool.toNat_false] at moved
      omega
    | true =>
      have more := left apartmentId spot
      rw [spot] at moved
      simp only [Bool.toNat_true] at moved
      omega

theorem Roomy.enter (roomy : Roomy zoneId registry sessions stages) {enteredAt : Moment} {id : Nat}
    (awaited : (stages worker).spotVehicle zoneId = some vehicleId)
    (fresh : ∀ session ∈ sessions, session.vehicleId ≠ vehicleId)
    (unspotted : stage.spotVehicle zoneId = none) :
    Roomy zoneId registry
      (sessions ++ [newSession vehicleId (apartmentForVehicle registry vehicleId) zoneId enteredAt id])
      (Function.update stages worker stage) where
  once := by
    rw [List.map_append, List.nodup_append]
    refine ⟨roomy.once, List.nodup_singleton _, ?_⟩
    intro vehicle present other single same
    obtain ⟨session, member, rfl⟩ := List.mem_map.mp present
    exact fresh session member (same.trans (List.mem_singleton.mp single))
  booked session member := by
    rcases List.mem_append.mp member with old | added
    · exact roomy.booked session old
    · obtain ⟨apartmentId, found⟩ := roomy.linked worker vehicleId awaited
      rw [List.mem_singleton.mp added]
      exact ⟨apartmentId, found, found⟩
  linked := linked_update roomy.linked (by simp [unspotted])
  room apartmentId := by
    have held := roomy.room apartmentId
    have moved := workersAt_update (bookedOn registry zoneId apartmentId) stages worker stage
    have nobody : bookedOn registry zoneId apartmentId stage = false := by
      rw [bookedOn, unspotted]
      rfl
    rw [nobody, bookedOn, awaited, Option.any_some] at moved
    rw [List.countP_append, List.countP_singleton]
    by_cases booked : apartmentForVehicle registry vehicleId = some apartmentId
    · simp only [booked, decide_true, Bool.toNat_true, Bool.toNat_false] at moved
      simp only [newSession, booked, decide_true, if_true]
      omega
    · simp only [booked, decide_false, Bool.toNat_false] at moved
      simp only [newSession, booked, decide_false, Bool.false_eq_true, if_false]
      omega

end

section

variable {forms : TextForms} {hashCode : String → String} {n zoneId : Nat} {watched : Watched n}
  {worker : Fin n} {stage : Stage} {key : Option Nat} {work : Work}

structure Guarded (zoneId : Nat) (watched : Watched n) : Prop where
  enforced : Enforced watched.registry zoneId
  stored : Stored watched.registry.sessions watched.onSpot
  sober : ∀ worker, (watched.state.workers worker).Sober
  roomy : Roomy zoneId watched.registry (watched.inside zoneId) watched.state.workers

/-- An event of the gates; a car that asks for a spot is booked on an apartment that has one
left. -/
def spotTraffic (zoneId : Nat) (watched : Watched n) (event : Event n) : Bool :=
  traffic event && bookable zoneId watched.state event

theorem Enforced.congr {registry changed : Registry} (enforced : Enforced registry zoneId)
    (same : SameGrants registry changed) : Enforced changed zoneId := by
  intro assignment member inZone
  rw [same.assignments] at member
  unfold spotInZone at inZone
  rw [same.spots] at inZone
  exact enforced assignment member inZone

theorem guarded_put (guarded : Guarded zoneId watched) (sober : stage.Sober)
    (unspotted : stage.spotVehicle zoneId = none) :
    Guarded zoneId ⟨watched.state.put worker stage, watched.onSpot⟩ where
  enforced := guarded.enforced
  stored := guarded.stored
  sober := workers_put (·.Sober) sober fun other _ => guarded.sober other
  roomy := guarded.roomy.go (List.Sublist.refl _) unspotted

theorem inside_le_open {apartmentId : Nat} :
    (watched.inside zoneId).countP (·.apartmentId = some apartmentId) ≤
      countOpenForApartmentZone watched.registry [apartmentId] zoneId := by
  unfold Watched.inside inside countOpenForApartmentZone Table.rowcount
  rw [List.countP_filter]
  refine List.countP_mono_left fun session _ fits => ?_
  simp only [Bool.and_eq_true, decide_eq_true_eq] at fits
  simp [fits.1, fits.2.1.1, fits.2.1.2]

theorem current_le_places {registry : Registry} {apartmentId : Nat} {moment : Moment} :
    (currentAssignments registry [apartmentId] zoneId moment).length ≤
      (zonePlaces registry zoneId).countP (·.apartmentId = apartmentId) := by
  unfold currentAssignments assignmentsFor zonePlaces
  rw [← List.countP_eq_length_filter, List.countP_filter, List.countP_filter]
  refine List.countP_mono_left fun assignment _ fits => ?_
  simp only [isCurrent, Bool.and_eq_true, decide_eq_true_eq, List.contains_eq_mem,
    List.mem_singleton] at fits
  simp [fits.1.1, fits.2.1.1, fits.2.1.2]

variable {data : AnprIngestInput} {normalized : Option String} {scope : Scope}

theorem spotLeft_of_judge (enforced : Enforced watched.registry zoneId)
    (judges : watched.state.workers worker = .working key (.judging data normalized scope))
    (fits : bookable zoneId watched.state (.step worker) = true) {vehicleId : Nat}
    (spotted : (perform forms hashCode watched.state.ledger key
      (.judging data normalized scope)).2.spotVehicle zoneId = some vehicleId) :
    ∃ apartmentId, apartmentForVehicle watched.registry vehicleId = some apartmentId ∧
      spotLeft watched.state zoneId data.capturedAt apartmentId = true := by
  simp only [perform] at spotted
  split at spotted
  · next engine judged =>
      simp only [Stage.spotVehicle, Work.spotVehicle] at spotted
      split at spotted
      · next spot =>
          obtain ⟨vehicle, bearer, rfl, asks⟩ :=
            asks_of_judge enforced judged spot.1 spot.2.1 spot.2.2 spotted
          simp only [bookable, judges, bearer, Option.all_some, asks, Bool.not_true, Bool.false_or] at fits
          obtain ⟨apartmentId, found, left⟩ := (Option.any_eq_true _ _).mp fits
          exact ⟨apartmentId, found, left⟩
      · cases spotted
  · cases spotted

theorem guarded_judge (guarded : Guarded zoneId watched)
    (judges : watched.state.workers worker = .working key (.judging data normalized scope))
    (fits : bookable zoneId watched.state (.step worker) = true) :
    Guarded zoneId ⟨watched.state.put worker (perform forms hashCode watched.state.ledger key
      (.judging data normalized scope)).2, watched.onSpot⟩ where
  enforced := guarded.enforced
  stored := guarded.stored
  sober := workers_put (·.Sober)
    (@perform_sober forms hashCode _ key (.judging data normalized scope) trivial).1 fun other _ => guarded.sober other
  roomy := by
    refine guarded.roomy.await (fun vehicleId spotted => ?_) fun apartmentId booked => ?_
    · obtain ⟨apartmentId, found, _⟩ := spotLeft_of_judge guarded.enforced judges fits spotted
      exact ⟨apartmentId, found⟩
    · obtain ⟨vehicleId, spotted, own⟩ := (Option.any_eq_true _ _).mp booked
      obtain ⟨other, found, left⟩ := spotLeft_of_judge guarded.enforced judges fits spotted
      obtain rfl := Option.some.inj (found.symm.trans (of_decide_eq_true own))
      have counted := @inside_le_open n zoneId watched other
      have places := @current_le_places zoneId watched.registry other data.capturedAt
      have fewer := of_decide_eq_true left
      change _ + awaited watched.state zoneId other < _
      change _ + awaited watched.state zoneId other < List.length _ at fewer
      unfold Watched.registry at counted places ⊢
      omega

theorem guarded_perform (guarded : Guarded zoneId watched)
    (works : watched.state.workers worker = .working key work)
    (other : ∀ data normalized scope, work ≠ .judging data normalized scope) :
    let performed := perform forms hashCode watched.state.ledger key work
    Guarded zoneId
      ⟨{ watched.state.put worker performed.2 with ledger := performed.1 },
        onSpotAfter watched.onSpot watched.registry performed.1.system.registry
          (work.spotVehicle zoneId).isSome⟩ := by
  intro performed
  have grants : SameGrants watched.registry performed.1.system.registry := perform_grants
  have moves : SessionMove work watched.registry performed.1.system.registry := perform_moves
  have held : work.Sober := by
    have sober := guarded.sober worker
    rwa [works] at sober
  obtain ⟨sober, unspotted⟩ := @perform_sober forms hashCode watched.state.ledger key work held
  refine ⟨guarded.enforced.congr grants, guarded.stored.move moves _,
    workers_put (·.Sober) sober fun other _ => guarded.sober other, ?_⟩
  refine Roomy.congr ?_ grants
  rcases inside_move guarded.stored moves (work.spotVehicle zoneId).isSome with
    fewer | ⟨spotted, vehicleId, enteredAt, id, own, fresh, grown⟩
  · exact guarded.roomy.go fewer (unspotted other zoneId)
  · obtain ⟨vehicle, awaited⟩ := Option.isSome_iff_exists.mp spotted
    obtain rfl := own vehicle awaited
    have entering : (watched.state.workers worker).spotVehicle zoneId = some vehicle := by
      rw [works]
      exact awaited
    change Roomy zoneId watched.registry (inside performed.1.system.registry.sessions
      (onSpotAfter watched.onSpot watched.registry performed.1.system.registry
        (work.spotVehicle zoneId).isSome) zoneId) _
    rw [grown]
    exact guarded.roomy.enter entering fresh (unspotted other zoneId)

theorem watch_step : watch forms hashCode zoneId watched (.step worker) =
    ⟨watched.state.advance forms hashCode worker,
      onSpotAfter watched.onSpot watched.registry
        (watched.state.advance forms hashCode worker).ledger.system.registry
        ((watched.state.workers worker).spotVehicle zoneId).isSome⟩ := rfl

theorem watch_unspotted (unspotted : (watched.state.workers worker).spotVehicle zoneId = none) :
    watch forms hashCode zoneId watched (.step worker) =
      ⟨watched.state.advance forms hashCode worker, watched.onSpot⟩ := by
  rw [watch_step, unspotted]
  rfl

theorem watch_stays (stays : watched.state.advance forms hashCode worker = watched.state) :
    watch forms hashCode zoneId watched (.step worker) = watched := by
  rw [watch_step, stays]
  exact congrArg (Watched.mk watched.state) (onSpotAfter_of_keys rfl _)

theorem guarded_work (guarded : Guarded zoneId watched)
    (works : watched.state.workers worker = .working key work)
    (fits : bookable zoneId watched.state (.step worker) = true) :
    Guarded zoneId (watch forms hashCode zoneId watched (.step worker)) := by
  by_cases enters : watched.state.enters worker
      (perform forms hashCode watched.state.ledger key work).2 = true
  · have advanced : watched.state.advance forms hashCode worker =
        { watched.state.put worker (perform forms hashCode watched.state.ledger key work).2 with
          ledger := (perform forms hashCode watched.state.ledger key work).1 } := by
      unfold State.advance
      rw [works]
      exact if_pos enters
    by_cases judges : ∃ data normalized scope, work = .judging data normalized scope
    · obtain ⟨data, normalized, scope, rfl⟩ := judges
      rw [watch_unspotted (by rw [works]; rfl), advanced, perform_reads rfl]
      exact guarded_judge guarded works fits
    · have other : ∀ data normalized scope, work ≠ .judging data normalized scope :=
        fun data normalized scope same => judges ⟨data, normalized, scope, same⟩
      have performed := @guarded_perform forms hashCode _ _ _ _ _ _ guarded works other
      rw [watch_step, advanced, works]
      exact performed
  · have stays : watched.state.advance forms hashCode worker = watched.state := by
      unfold State.advance
      rw [works]
      exact if_neg enters
    rw [watch_stays stays]
    exact guarded

theorem guarded_advance (guarded : Guarded zoneId watched)
    (fits : bookable zoneId watched.state (.step worker) = true) :
    Guarded zoneId (watch forms hashCode zoneId watched (.step worker)) := by
  cases stage : watched.state.workers worker with
  | idle | returning =>
    rw [watch_unspotted (by rw [stage]; rfl), State.advance, stage]
    exact guarded
  | waiting key work =>
    have sober := guarded.sober worker
    rw [stage] at sober
    rw [watch_unspotted (by rw [stage]; rfl), State.advance, stage]
    dsimp only
    split
    · exact guarded_put guarded sober.1 (sober.2 zoneId)
    · exact guarded
  | working key work => exact guarded_work guarded stage fits

theorem guarded_watch (guarded : Guarded zoneId watched) (event : Event n)
    (fits : spotTraffic zoneId watched event = true) :
    Guarded zoneId (watch forms hashCode zoneId watched event) := by
  obtain ⟨passing, fits⟩ := Bool.and_eq_true_iff.mp fits
  cases event with
  | call worker call =>
    change Guarded zoneId ⟨next forms hashCode watched.state (.call worker call), watched.onSpot⟩
    simp only [next]
    split
    · cases call <;> exact guarded_put guarded trivial rfl
    · exact guarded
  | step worker => exact guarded_advance guarded fits
  | fail worker => exact guarded_put guarded trivial rfl
  | operate call =>
    cases call with
    | tick elapsed => exact ⟨guarded.enforced, guarded.stored, guarded.sober, guarded.roomy⟩
    | _ => cases passing

theorem guarded_start {start : State n} (idle : ∀ worker, start.workers worker = .idle)
    (enforced : Enforced start.ledger.system.registry zoneId) :
    Guarded zoneId ⟨start, []⟩ := by
  have nobody : inside start.ledger.system.registry.sessions [] zoneId = [] :=
    List.filter_eq_nil_iff.mpr fun session _ => by simp
  have unspotted : ∀ worker, (start.workers worker).spotVehicle zoneId = none := by
    intro worker
    rw [idle worker]
    rfl
  refine ⟨enforced, fun _ member => absurd member List.not_mem_nil, fun worker => ?_, ?_⟩
  · change (start.workers worker).Sober
    rw [idle worker]
    trivial
  · change Roomy zoneId start.ledger.system.registry
      (inside start.ledger.system.registry.sessions [] zoneId) start.workers
    rw [nobody]
    refine ⟨List.nodup_nil, fun _ member => absurd member List.not_mem_nil,
      fun worker vehicleId awaited => ?_, fun apartmentId => ?_⟩
    · rw [unspotted worker] at awaited
      cases awaited
    · have none : workersAt (bookedOn start.ledger.system.registry zoneId apartmentId)
          start.workers = 0 := by
        refine Finset.sum_eq_zero fun worker _ => ?_
        rw [bookedOn, unspotted worker]
        rfl
      rw [none, List.countP_nil]
      exact Nat.zero_le _

theorem Guarded.housed (guarded : Guarded zoneId watched) : Housed zoneId watched := by
  have room : ∀ apartment : Option Nat,
      ((watched.inside zoneId).map (·.apartmentId)).count apartment ≤
        ((zonePlaces watched.registry zoneId).map fun place => some place.apartmentId).count
          apartment := by
    intro apartment
    cases apartment with
    | none =>
      have unbooked : none ∉ (watched.inside zoneId).map (·.apartmentId) := by
        intro member
        obtain ⟨session, present, free⟩ := List.mem_map.mp member
        obtain ⟨apartmentId, own, _⟩ := guarded.roomy.booked session present
        rw [own] at free
        cases free
      rw [List.count_eq_zero_of_not_mem unbooked]
      exact Nat.zero_le _
    | some apartmentId =>
      have held := guarded.roomy.room apartmentId
      rw [List.count_eq_countP, List.countP_map, List.count_eq_countP, List.countP_map]
      refine le_trans (le_of_eq ?_) (le_trans (Nat.le_of_add_right_le held) (le_of_eq ?_))
      · refine List.countP_congr fun session _ => ?_
        simp
      · refine List.countP_congr fun place _ => ?_
        simp
  have linked : ∀ session ∈ watched.inside zoneId, ∀ place : ParkingSpotAssignment,
      session.apartmentId = some place.apartmentId →
        LinkedTo watched.registry session.vehicleId place.apartmentId := by
    intro session present place same
    obtain ⟨apartmentId, own, found⟩ := guarded.roomy.booked session present
    obtain rfl := Option.some.inj (own.symm.trans same)
    exact linkedTo_of_apartment found
  obtain ⟨places, matched, taken, same, among⟩ := exists_places linked room
  have distinct : (zonePlaces watched.registry zoneId).Nodup :=
    (watched.registry.assignments.unique.of_map _).filter _
  exact ⟨guarded.roomy.once, places, matched, same.nodup_iff.mp (among.nodup distinct),
    fun place member => among.subset (same.symm.subset member)⟩

/-- Where every car that asks for a spot is booked on an apartment that has one left, counting
the entries decided and not recorded yet, every car that is let in on a spot has one, in every
state of every run. -/
theorem every_car_housed (forms : TextForms) (hashCode : String → String) (zoneId : Nat)
    (start : State n) (events : List (Event n)) (idle : ∀ worker, start.workers worker = .idle)
    (enforced : Enforced start.ledger.system.registry zoneId)
    (fits : Obeys (watch forms hashCode zoneId)
      (fun watched event => spotTraffic zoneId watched event = true) ⟨start, []⟩ events) :
    Housed zoneId (run (watch forms hashCode zoneId) ⟨start, []⟩ events) := by
  refine Guarded.housed ?_
  exact run_invariant_of_obeys (watch forms hashCode zoneId) (Guarded zoneId)
    (guarded_start idle enforced) (fun _ event allows held => guarded_watch held event allows) fits

end

/-! Two cars at a gate of zone 1, which has one spot: it is of apartment 8. -/

theorem gateSerial : ∀ barrier ∈ [AccessBarrier.mk 1 "b" 1 (some 1) true], 0 < barrier.id := by
  decide

theorem one_nodup : [1].Nodup := List.nodup_singleton 1

def spotGate : Equipment where
  zones := ⟨[⟨1, "A", .assigned, none⟩], one_nodup⟩
  controllers := ⟨[⟨1, "c", some 1, none⟩], one_nodup⟩
  gates := ⟨[⟨1, "g", 1, some 1, .entry, true⟩], one_nodup⟩
  barriers := ⟨[⟨1, "b", 1, some 1, true⟩], one_nodup⟩
  serial := gateSerial

theorem pair_nodup : [1, 2].Nodup := by decide

theorem pair_plates : platesUnique [⟨1, "01A", "01A", .active⟩, ⟨2, "02B", "02B", .active⟩] := by
  decide

def pairRegistry (links : Table VehicleApartment.id) : Registry where
  vehicles := ⟨[⟨1, "01A", "01A", .active⟩, ⟨2, "02B", "02B", .active⟩], pair_nodup⟩
  links := links
  rules := .empty
  passes := .empty
  requests := .empty
  spots := ⟨[⟨4, 1, .active⟩], List.nodup_singleton 4⟩
  assignments := ⟨[⟨5, 4, 8, none, none, .active, true⟩], List.nodup_singleton 5⟩
  sessions := .empty
  territory := ⟨[], [], []⟩
  unique := pair_plates

theorem pair_enforced (links : Table VehicleApartment.id) : Enforced (pairRegistry links) 1 := by
  intro assignment member _
  rw [List.mem_singleton.mp member]

def quietGate (links : Table VehicleApartment.id) : State 1 :=
  ⟨⟨⟨spotGate, pairRegistry links, .empty, 0⟩, []⟩, fun _ => .idle⟩

def arrival (eventId plate : String) : List (Event 1) :=
  .call 0 (.ingestAnpr ⟨1, eventId, none, none, none, some plate, .entry, some 9000, 10⟩) ::
    List.replicate 6 (.step 0)

def bothArrive : List (Event 1) := arrival "1" "01A" ++ arrival "2" "02B"

def sameApartment : Table VehicleApartment.id :=
  ⟨[⟨1, 1, 8, .active, none, none⟩, ⟨2, 2, 8, .active, none, none⟩], pair_nodup⟩

theorem links_nodup : [1, 2, 3].Nodup := by decide

def otherFirst : Table VehicleApartment.id :=
  ⟨[⟨1, 1, 7, .active, none, none⟩, ⟨2, 1, 8, .active, none, none⟩,
    ⟨3, 2, 8, .active, none, none⟩], links_nodup⟩

theorem one_car_housed : Housed 1 (run (watch .ascii id 1) ⟨quietGate sameApartment, []⟩ bothArrive) :=
  every_car_housed .ascii id 1 (quietGate sameApartment) bothArrive (fun _ => rfl)
    (pair_enforced sameApartment) (by decide +kernel)

/-- The first car is booked on its first apartment, which has no spot, and the second one is
let in on the same spot. -/
theorem two_cars_one_spot :
    (∀ worker, (quietGate otherFirst).workers worker = .idle) ∧
      Enforced (quietGate otherFirst).ledger.system.registry 1 ∧
      (quietGate otherFirst).ledger.system.registry.sessions.rows = [] ∧
      (∀ event ∈ bothArrive, traffic event = true) ∧
      ¬ Housed 1 (run (watch .ascii id 1) ⟨quietGate otherFirst, []⟩ bothArrive) := by
  refine ⟨fun _ => rfl, pair_enforced otherFirst, rfl, by decide, fun housed => ?_⟩
  obtain ⟨places, matched, distinct, among⟩ := housed.placed
  have cars : ((run (watch .ascii id 1) ⟨quietGate otherFirst, []⟩ bothArrive).inside 1).length =
      2 := by
    decide +kernel
  have spots : (zonePlaces (run (watch .ascii id 1) ⟨quietGate otherFirst, []⟩
      bothArrive).registry 1).length = 1 := by
    decide +kernel
  have fewer := (distinct.subperm among).length_le
  rw [← matched.length_eq, cars, spots] at fewer
  exact absurd fewer (by decide)

end InfrasafeBot.AccessControl.Gates
