import Mathlib.Algebra.Order.Group.Unbundled.Abs
import Mathlib.Algebra.Order.Group.Int
import InfrasafeBot.AccessControl.EventIntake
import InfrasafeBot.Library.Visits

/-! The presence sessions of a vehicle in a zone against the times its passages were captured at.
Sessions are opened and closed as the events arrive, and the freshness check lets events pass in
another order than the one they were captured in. -/

set_option autoImplicit false

namespace InfrasafeBot.AccessControl

open Library Machine RequestWorkflow

def capturedAtMaxSkewSeconds : Int := 300

def isCapturedAtFresh (capturedAt now : Moment) : Bool :=
  |now - capturedAt| ≤ capturedAtMaxSkewSeconds

inductive Happening where
  | anprEvent (data : AnprIngestInput)
  /-- Whatever else is changed, but for the sessions. -/
  | elsewhere (equipment : Equipment) (registry : Registry) (journal : Journal)
  | tick (elapsed : Nat)

def arrive (forms : TextForms) (system : System) : Happening → System
  | .anprEvent data =>
    if isCapturedAtFresh data.capturedAt system.time then (runIngest forms system data).1
    else system
  | .elsewhere equipment registry journal =>
    { system with
      equipment := equipment
      registry := { registry with sessions := system.registry.sessions }
      journal := journal }
  | .tick elapsed => { system with time := system.time + elapsed }

structure Passage where
  vehicleId : Nat
  zoneId : Nat
  direction : Direction
  capturedAt : Moment
  deriving DecidableEq

def Passage.enters (passage : Passage) : Bool := passage.direction = .entry

def letThrough (data : AnprIngestInput) (engine : EngineDecision) (verdict : Verdict) : Option Passage :=
  match engine.matchedVehicleId, data.zoneId with
  | some vehicleId, some zoneId =>
    if verdict.decision = .allow ∧ (data.direction = .entry → verdict.finalStatus = .allowed) then
      some ⟨vehicleId, zoneId, data.direction, data.capturedAt⟩
    else none
  | _, _ => none

def passageOf (forms : TextForms) (system : System) : Happening → Option Passage
  | .anprEvent data =>
    let scope := authorizeScope system.equipment data
    let located := data.scoped scope
    let normalized := normalizeOptional forms data.plateNumberOriginal
    let engine := (consumeTaxi system.registry (scope.enforce (engineFor system located normalized))).2
    if isCapturedAtFresh data.capturedAt system.time &&
        (repeatedEvent system.journal located normalized).isNone then
      letThrough located engine (verdict system.journal system.time located engine)
    else none
  | _ => none

def passagesOf (vehicleId zoneId : Nat) (passed : List Passage) : List Passage :=
  passed.filter fun passage => passage.vehicleId = vehicleId && passage.zoneId = zoneId

def passed (forms : TextForms) (past : List (System × Happening)) : List Passage :=
  past.filterMap fun taken => passageOf forms taken.1 taken.2

def sessionsOf (vehicleId zoneId : Nat) (registry : Registry) : List VehiclePresenceSession :=
  registry.sessions.rows.filter fun session => session.vehicleId = vehicleId && session.zoneId = zoneId

/-- No two passages are within one window of the search for duplicates. -/
def WindowsApart (passages : List Passage) : Prop :=
  passages.Pairwise fun first second => dedupWindowSeconds < |first.capturedAt - second.capturedAt|

instance (passages : List Passage) : Decidable (WindowsApart passages) :=
  inferInstanceAs (Decidable (List.Pairwise _ _))

structure FollowsRoad (passages : List Passage) (sessions : List VehiclePresenceSession) : Prop where
  ordered : ∀ session ∈ sessions, session.isOpen = false →
    ∃ exitedAt ∈ session.exitedAt, session.enteredAt ≤ exitedAt
  present : (∃ session ∈ sessions, session.isOpen = true) ↔
    ∃ latest ∈ passages, latest.direction = .entry ∧
      ∀ other ∈ passages, other.capturedAt ≤ latest.capturedAt

/-- An entry that arrives first of all or right after an exit is captured no later than the next
exit to arrive, and the last passage to arrive has the direction of the one captured last. -/
structure ArrivesInTurn (passages : List Passage) : Prop where
  exits : ∀ before entry after, passages = before ++ entry :: after →
    Visits.Starts Passage.enters before entry →
    ∀ exit ∈ after.find? (fun passage => !passage.enters), entry.capturedAt ≤ exit.capturedAt
  last : ∀ last ∈ passages.getLast?, ∀ latest ∈ passages,
    (∀ other ∈ passages, other.capturedAt ≤ latest.capturedAt) → latest.direction = last.direction

def VehiclePresenceSession.times (session : VehiclePresenceSession) : Moment × Option Moment × Bool :=
  (session.enteredAt, session.exitedAt, session.isOpen)

def Mirrors (sessions : List VehiclePresenceSession) (visits : Visits Passage) : Prop :=
  sessions.map VehiclePresenceSession.times =
    visits.closed.map (fun visit => (visit.1.capturedAt, some visit.2.capturedAt, false)) ++
      visits.inside.toList.map fun entry => (entry.capturedAt, none, true)

def followPassage (registry : Registry) (passage : Passage) : Registry :=
  match passage.direction with
  | .exit => closePresenceSession registry passage.vehicleId passage.zoneId passage.capturedAt
  | .entry => openPresenceSession registry passage.vehicleId passage.zoneId passage.capturedAt

variable {vehicleId zoneId : Nat}

section

variable {registry : Registry} {data : AnprIngestInput} {engine : EngineDecision}
  {decided : Verdict}

theorem trackPresence_eq : trackPresence data registry engine decided =
    (letThrough data engine decided).elim registry (followPassage registry) := by
  unfold trackPresence letThrough
  cases engine.matchedVehicleId with
  | none => rfl
  | some vehicleId =>
    cases data.zoneId with
    | none => rfl
    | some zoneId =>
      dsimp only
      by_cases allowed : decided.decision = .allow
      · cases direction : data.direction with
        | exit => simp [allowed, followPassage]
        | entry =>
          by_cases final : decided.finalStatus = .allowed
          · simp [allowed, final, followPassage]
          · simp [allowed, final]
      · simp [allowed]

variable {visits : Visits Passage} {passage : Passage}

theorem any_isOpen {sessions : List VehiclePresenceSession} (mirrors : Mirrors sessions visits) :
    sessions.any (·.isOpen) = visits.inside.isSome := by
  have listed : sessions.any (·.isOpen) =
      (sessions.map VehiclePresenceSession.times).any (·.2.2) := by
    rw [List.any_map]
    rfl
  rw [listed, mirrors, List.any_append, List.any_map, List.any_map]
  cases visits.inside with
  | none | some => simp

section

variable (mirrors : Mirrors (sessionsOf vehicleId zoneId registry) visits)

include mirrors

theorem any_openFor :
    registry.sessions.rows.any (openFor vehicleId zoneId) = visits.inside.isSome := by
  rw [← any_isOpen mirrors, sessionsOf, List.any_filter]
  rfl

theorem mirrors_open (entering : passage.enters = true) :
    Mirrors (sessionsOf vehicleId zoneId
      (openPresenceSession registry vehicleId zoneId passage.capturedAt))
      (visits.next Passage.enters passage) := by
  unfold openPresenceSession Visits.next
  rw [any_openFor mirrors, entering]
  cases inside : visits.inside with
  | some entry => exact mirrors
  | none =>
    unfold Mirrors sessionsOf at mirrors ⊢
    simp only [Option.isSome_none, Bool.false_eq_true, if_false, Table.filter_insert]
    rw [List.map_append, mirrors, inside]
    simp [newSession, VehiclePresenceSession.times]

theorem mirrors_close (leaving : passage.enters = false) :
    Mirrors (sessionsOf vehicleId zoneId
      (closePresenceSession registry vehicleId zoneId passage.capturedAt))
      (visits.next Passage.enters passage) := by
  have closed : (sessionsOf vehicleId zoneId
      (closePresenceSession registry vehicleId zoneId passage.capturedAt)).map
        VehiclePresenceSession.times =
      ((sessionsOf vehicleId zoneId registry).map VehiclePresenceSession.times).map fun times =>
        if times.2.2 then (times.1, some passage.capturedAt, false) else times := by
    have updated : sessionsOf vehicleId zoneId
        (closePresenceSession registry vehicleId zoneId passage.capturedAt) =
        (sessionsOf vehicleId zoneId registry).map fun session =>
          if openFor vehicleId zoneId session then closedSession passage.capturedAt session
          else session :=
      @Table.filter_update _ _ _ registry.sessions _ _ (closedSession_id _) _ fun _ _ _ => rfl
    rw [updated, List.map_map, List.map_map]
    refine List.map_congr_left fun session listed => ?_
    have own := (List.mem_filter.mp listed).2
    have same : openFor vehicleId zoneId session = session.isOpen := by
      rw [openFor, own, Bool.true_and]
    simp only [Function.comp_apply, same]
    cases opened : session.isOpen
    · simp [VehiclePresenceSession.times, opened]
    · simp [VehiclePresenceSession.times, closedSession, opened]
  unfold Mirrors at mirrors ⊢
  rw [closed, mirrors, Visits.next, leaving]
  cases inside : visits.inside with
  | none => simp [inside]
  | some entry => simp

theorem mirrors_follow (vehicle : passage.vehicleId = vehicleId) (zone : passage.zoneId = zoneId) :
    Mirrors (sessionsOf vehicleId zoneId (followPassage registry passage))
      (visits.next Passage.enters passage) := by
  unfold followPassage
  rw [vehicle, zone]
  cases direction : passage.direction with
  | entry => exact mirrors_open mirrors (by simp [Passage.enters, direction])
  | exit => exact mirrors_close mirrors (by simp [Passage.enters, direction])

end

theorem sessionsOf_follow_of_other
    (other : (passage.vehicleId = vehicleId && passage.zoneId = zoneId) = false) :
    sessionsOf vehicleId zoneId (followPassage registry passage) =
      sessionsOf vehicleId zoneId registry := by
  unfold followPassage
  cases passage.direction with
  | entry =>
    dsimp only
    unfold openPresenceSession
    split
    · rfl
    · refine (@Table.filter_insert _ _ _ _ (newSession_id _ _ _ _) _).trans ?_
      refine (congrArg (_ ++ ·) (if_neg fun fits => ?_)).trans (List.append_nil _)
      exact Bool.false_ne_true (other.symm.trans fits)
  | exit =>
    have apart : ∀ session : VehiclePresenceSession,
        openFor passage.vehicleId passage.zoneId session = true →
        (session.vehicleId = vehicleId && session.zoneId = zoneId) = false := by
      intro session fits
      simp only [openFor, Bool.and_eq_true, decide_eq_true_eq] at fits
      rw [fits.1.1, fits.1.2]
      exact other
    exact @Table.filter_update_of_disjoint _ _ _ registry.sessions _ _ (closedSession_id _) _
      (fun session _ => apart session) fun session _ => apart session

end

section

variable {forms : TextForms} {system : System}

theorem consumeTaxi_registry (registry : Registry) (engine : EngineDecision) :
    ∃ passes, (consumeTaxi registry engine).1 = { registry with passes := passes } := by
  unfold consumeTaxi
  cases taxiPass engine with
  | none => exact ⟨registry.passes, rfl⟩
  | some passId =>
    dsimp only
    split <;> exact ⟨_, rfl⟩

theorem sessions_follow_passes (registry : Registry) (passes : Table AccessPass.id)
    (passage : Passage) :
    (followPassage { registry with passes := passes } passage).sessions =
      (followPassage registry passage).sessions := by
  unfold followPassage
  cases passage.direction with
  | exit => rfl
  | entry =>
    dsimp only
    unfold openPresenceSession
    split <;> rfl

theorem sessionsOf_arrive (happening : Happening) :
    sessionsOf vehicleId zoneId (arrive forms system happening).registry =
      sessionsOf vehicleId zoneId
        ((passageOf forms system happening).elim system.registry (followPassage system.registry)) := by
  cases happening with
  | elsewhere | tick => rfl
  | anprEvent data =>
    simp only [arrive, passageOf]
    cases fresh : isCapturedAtFresh data.capturedAt system.time with
    | false => rfl
    | true =>
      simp only [if_true, Bool.true_and, runIngest]
      cases repeatedEvent system.journal
        (data.scoped (authorizeScope system.equipment data))
        (normalizeOptional forms data.plateNumberOriginal) with
      | some existing => rfl
      | none =>
        simp only [receiveEvent, trackPresence_eq, Option.isNone_none, if_true]
        generalize (authorizeScope system.equipment data).enforce _ = engine
        obtain ⟨passes, consumed⟩ := consumeTaxi_registry system.registry engine
        rw [consumed]
        cases letThrough _ (consumeTaxi system.registry engine).2 _ with
        | none => rfl
        | some passage =>
          unfold sessionsOf
          rw [Option.elim_some, Option.elim_some, sessions_follow_passes]

theorem passagesOf_concat (past : List (System × Happening)) (happening : Happening) :
    passagesOf vehicleId zoneId (passed forms (past ++ [(system, happening)])) =
      passagesOf vehicleId zoneId (passed forms past) ++
        passagesOf vehicleId zoneId (passageOf forms system happening).toList := by
  unfold passagesOf passed
  rw [List.filterMap_append, List.filter_append, List.filterMap_cons, List.filterMap_nil]
  cases passageOf forms system happening <;> rfl

theorem mirrors_arrive {past : List (System × Happening)}
    (mirrors : Mirrors (sessionsOf vehicleId zoneId system.registry)
      (.ofEvents Passage.enters (passagesOf vehicleId zoneId (passed forms past))))
    (happening : Happening) :
    Mirrors (sessionsOf vehicleId zoneId (arrive forms system happening).registry)
      (.ofEvents Passage.enters
        (passagesOf vehicleId zoneId (passed forms (past ++ [(system, happening)])))) := by
  rw [passagesOf_concat, sessionsOf_arrive]
  cases passageOf forms system happening with
  | none => simpa [passagesOf] using mirrors
  | some passage =>
    cases own : passage.vehicleId = vehicleId && passage.zoneId = zoneId with
    | false =>
      rw [Option.elim_some, sessionsOf_follow_of_other own]
      simpa [passagesOf, own] using mirrors
    | true =>
      have last : passagesOf vehicleId zoneId (some passage).toList = [passage] := by
        simp [passagesOf, own]
      obtain ⟨vehicle, zone⟩ := Bool.and_eq_true_iff.mp own
      rw [last, Visits.ofEvents_concat]
      exact mirrors_follow mirrors (of_decide_eq_true vehicle) (of_decide_eq_true zone)

theorem mirrors_run (unvisited : sessionsOf vehicleId zoneId system.registry = [])
    (happenings : List Happening) :
    Mirrors (sessionsOf vehicleId zoneId (run (arrive forms) system happenings).registry)
      (.ofEvents Passage.enters (passagesOf vehicleId zoneId
        (passed forms (trace (arrive forms) system happenings)))) := by
  refine history_induction (arrive forms) (fun past state =>
    Mirrors (sessionsOf vehicleId zoneId state.registry)
      (.ofEvents Passage.enters (passagesOf vehicleId zoneId (passed forms past)))) ?_ ?_ happenings
  · unfold Mirrors
    rw [unvisited]
    rfl
  · intro past state happening mirrors
    exact mirrors_arrive mirrors happening

end

section

variable {passages : List Passage} {sessions : List VehiclePresenceSession}

theorem ordered_iff (mirrors : Mirrors sessions (.ofEvents Passage.enters passages)) :
    (∀ session ∈ sessions, session.isOpen = false →
      ∃ exitedAt ∈ session.exitedAt, session.enteredAt ≤ exitedAt) ↔
    ∀ entry exit, Visits.ClosedBy Passage.enters passages entry exit →
      entry.capturedAt ≤ exit.capturedAt := by
  have listed : (∀ session ∈ sessions, session.isOpen = false →
      ∃ exitedAt ∈ session.exitedAt, session.enteredAt ≤ exitedAt) ↔
      ∀ times ∈ sessions.map VehiclePresenceSession.times, times.2.2 = false →
        ∃ exitedAt ∈ times.2.1, times.1 ≤ exitedAt := by
    rw [List.forall_mem_map]
    rfl
  rw [listed, mirrors]
  simp only [List.forall_mem_append, List.forall_mem_map, ← Visits.mem_closed_iff]
  constructor
  · rintro ⟨closed, _⟩ entry exit visit
    simpa using closed (entry, exit) visit
  · intro closed
    refine ⟨?_, by simp⟩
    intro visit member _
    exact ⟨_, rfl, closed visit.1 visit.2 member⟩

theorem present_iff (mirrors : Mirrors sessions (.ofEvents Passage.enters passages)) :
    (∃ session ∈ sessions, session.isOpen = true) ↔
      ∃ last ∈ passages.getLast?, last.direction = .entry := by
  have opened := any_isOpen mirrors
  rw [← List.any_eq_true, opened, Visits.isSome_inside]
  simp only [Passage.enters, decide_eq_true_eq]

theorem exists_latest (nonempty : passages ≠ []) :
    ∃ latest ∈ passages, ∀ other ∈ passages, other.capturedAt ≤ latest.capturedAt := by
  cases found : passages.argmax Passage.capturedAt with
  | none => exact absurd (List.argmax_eq_none.mp found) nonempty
  | some latest =>
    exact ⟨latest, List.argmax_mem found, fun other member => List.le_of_mem_argmax member found⟩

theorem eq_of_capturedAt
    (apart : WindowsApart passages)
    {first second : Passage} (listed : first ∈ passages) (listedToo : second ∈ passages)
    (same : first.capturedAt = second.capturedAt) : first = second := by
  have distinct : (passages.map Passage.capturedAt).Nodup := by
    refine List.pairwise_map.mpr (apart.imp fun {first second} gap equal => ?_)
    rw [equal, sub_self, abs_zero] at gap
    cases gap
  exact List.inj_on_of_nodup_map distinct listed listedToo same

theorem last_iff
    (apart : WindowsApart passages) :
    ((∃ last ∈ passages.getLast?, last.direction = .entry) ↔
      ∃ latest ∈ passages, latest.direction = .entry ∧
        ∀ other ∈ passages, other.capturedAt ≤ latest.capturedAt) ↔
    ∀ last ∈ passages.getLast?, ∀ latest ∈ passages,
      (∀ other ∈ passages, other.capturedAt ≤ latest.capturedAt) →
        latest.direction = last.direction := by
  cases final : passages.getLast? with
  | none =>
    rw [List.getLast?_eq_none_iff] at final
    simp [final]
  | some last =>
    have nonempty : passages ≠ [] := by
      rintro rfl
      cases final
    obtain ⟨latest, listed, greatest⟩ := exists_latest nonempty
    have unique : ∀ other ∈ passages,
        (∀ third ∈ passages, third.capturedAt ≤ other.capturedAt) → other = latest := by
      intro other listedToo greatestToo
      exact eq_of_capturedAt apart listedToo listed
        (le_antisymm (greatest other listedToo) (greatestToo latest listed))
    have left : (∃ found ∈ some last, found.direction = Direction.entry) ↔
        last.direction = .entry := by simp
    have right : (∃ found ∈ passages, found.direction = .entry ∧
        ∀ other ∈ passages, other.capturedAt ≤ found.capturedAt) ↔
          latest.direction = .entry := by
      constructor
      · rintro ⟨found, member, enters, most⟩
        exact unique found member most ▸ enters
      · intro enters
        exact ⟨latest, listed, enters, greatest⟩
    have turn : (∀ final ∈ some last, ∀ found ∈ passages,
        (∀ other ∈ passages, other.capturedAt ≤ found.capturedAt) →
          found.direction = final.direction) ↔ latest.direction = last.direction := by
      constructor
      · intro turns
        exact turns last rfl latest listed greatest
      · intro same final is found member most
        rw [unique found member most, same, Option.some.inj is]
    rw [left, right, turn]
    cases latest.direction <;> cases last.direction <;> simp

theorem followsRoad_iff (mirrors : Mirrors sessions (.ofEvents Passage.enters passages))
    (apart : WindowsApart passages) :
    FollowsRoad passages sessions ↔ ArrivesInTurn passages := by
  have exits : (∀ session ∈ sessions, session.isOpen = false →
      ∃ exitedAt ∈ session.exitedAt, session.enteredAt ≤ exitedAt) ↔
      ∀ before entry after, passages = before ++ entry :: after →
        Visits.Starts Passage.enters before entry →
        ∀ exit ∈ after.find? (fun passage => !passage.enters),
          entry.capturedAt ≤ exit.capturedAt := by
    rw [ordered_iff mirrors]
    constructor
    · intro closed before entry after split starts exit found
      exact closed entry exit ⟨before, after, split, starts, found⟩
    · intro turns entry exit closed
      obtain ⟨before, after, split, starts, found⟩ := closed
      exact turns before entry after split starts exit found
  have last := last_iff apart
  rw [← present_iff mirrors] at last
  constructor
  · intro road
    exact ⟨exits.mp road.ordered, last.mp road.present⟩
  · intro turns
    exact ⟨exits.mpr turns.exits, last.mpr turns.last⟩

end

/-- Of the allowed events of a vehicle in a zone, the order of their arrival decides whether its
sessions follow the road. -/
theorem presence_followsRoad_iff (forms : TextForms) (start : System)
    (happenings : List Happening) (vehicleId zoneId : Nat)
    (unvisited : sessionsOf vehicleId zoneId start.registry = [])
    (apart : WindowsApart
      (passagesOf vehicleId zoneId (passed forms (trace (arrive forms) start happenings)))) :
    FollowsRoad
        (passagesOf vehicleId zoneId (passed forms (trace (arrive forms) start happenings)))
        (sessionsOf vehicleId zoneId (run (arrive forms) start happenings).registry) ↔
      ArrivesInTurn
        (passagesOf vehicleId zoneId (passed forms (trace (arrive forms) start happenings))) :=
  followsRoad_iff (mirrors_run unvisited happenings) apart

def carLeaves (eventId : String) (capturedAt : Moment) : AnprIngestInput :=
  { carAt eventId capturedAt with direction := .exit }

/-- In, out and in again, with an exit captured first that arrives last but one. -/
def lateExit : List Happening :=
  [.tick 100, .anprEvent (carAt "e-30" 30), .anprEvent (carLeaves "x-60" 60),
    .anprEvent (carLeaves "x-10" 10), .anprEvent (carAt "e-90" 90)]

theorem lateExit_followsRoad :
    FollowsRoad (passagesOf 1 1 (passed .ascii (trace (arrive .ascii) gateReady.system lateExit)))
        (sessionsOf 1 1 (run (arrive .ascii) gateReady.system lateExit).registry) ↔
      ArrivesInTurn
        (passagesOf 1 1 (passed .ascii (trace (arrive .ascii) gateReady.system lateExit))) :=
  presence_followsRoad_iff .ascii gateReady.system lateExit 1 1 (by decide +kernel)
    (by decide +kernel)

/-- An exit at 30 seconds that arrives after the entry at 60 seconds ends its session, and one at
60 seconds that arrives before the entry at 30 seconds ends none. -/
theorem reordered_passages_off_road :
    (∃ events : List AnprIngestInput,
      passagesOf 1 1 (passed .ascii (trace (arrive .ascii) gateReady.system
        (.tick 100 :: events.map .anprEvent))) = [⟨1, 1, .entry, 60⟩, ⟨1, 1, .exit, 30⟩] ∧
      ¬ FollowsRoad [⟨1, 1, .entry, 60⟩, ⟨1, 1, .exit, 30⟩]
        (sessionsOf 1 1 (run (arrive .ascii) gateReady.system
          (.tick 100 :: events.map .anprEvent)).registry)) ∧
    ∃ events : List AnprIngestInput,
      passagesOf 1 1 (passed .ascii (trace (arrive .ascii) gateReady.system
        (.tick 100 :: events.map .anprEvent))) = [⟨1, 1, .exit, 60⟩, ⟨1, 1, .entry, 30⟩] ∧
      ¬ FollowsRoad [⟨1, 1, .exit, 60⟩, ⟨1, 1, .entry, 30⟩]
        (sessionsOf 1 1 (run (arrive .ascii) gateReady.system
          (.tick 100 :: events.map .anprEvent)).registry) := by
  refine ⟨⟨[carAt "e-60" 60, carLeaves "x-30" 30], by decide +kernel, fun road => ?_⟩,
    ⟨[carLeaves "x-60" 60, carAt "e-30" 30], by decide +kernel, fun road => ?_⟩⟩
  · have ends := road.ordered
    revert ends
    decide +kernel
  · have opened := road.present
    revert opened
    decide +kernel

end InfrasafeBot.AccessControl
