import InfrasafeBot.AccessControl.Arrivals

/-! The reception of camera events with the journal of passages
(`repositories/access_events_repo.py`): what a repetition of a call is answered with. -/

set_option autoImplicit false

namespace InfrasafeBot.AccessControl

open Library Machine RequestWorkflow

structure AccessEvent where
  id : Nat
  controllerId : Nat
  eventId : String
  cameraEventId : Nat
  decisionId : Nat
  vehicleId : Option Nat
  passId : Option Nat
  apartmentId : Option Nat
  gateId : Option Nat
  zoneId : Option Nat
  direction : Direction
  plateNumberNormalized : Option String
  decision : DecisionType
  reason : Option DecisionReason
  occurredAt : Moment

def accessEvent (registry : Registry) (data : AnprIngestInput) (normalized : Option String)
    (decision : AccessDecision) (id : Nat) : AccessEvent where
  id := id
  controllerId := data.controllerId
  eventId := data.eventId
  cameraEventId := decision.cameraEventId
  decisionId := decision.id
  vehicleId := decision.matchedVehicleId
  passId := decision.matchedPassId
  apartmentId := decision.matchedVehicleId.bind (apartmentForVehicle registry)
  gateId := data.gateId
  zoneId := data.zoneId
  direction := data.direction
  plateNumberNormalized := normalized
  decision := decision.decision
  reason := decision.reason
  occurredAt := data.capturedAt

theorem accessEvent_id (registry : Registry) (data : AnprIngestInput)
    (normalized : Option String) (decision : AccessDecision) (id : Nat) :
    (accessEvent registry data normalized decision id).id = id := rfl

/-- `sent` are the calls of the cameras so far, which nothing of the code remembers. -/
structure Intake where
  system : System
  accessEvents : Table AccessEvent.id
  sent : List AnprIngestInput

section

variable (forms : TextForms) (hashCode : String → String)

def located (equipment : Equipment) (data : AnprIngestInput) : AnprIngestInput :=
  data.scoped (authorizeScope equipment data)

def insertAccessEvent (intake : Intake) (data : AnprIngestInput) (after : System)
    (result : IngestResult) : Table AccessEvent.id :=
  match result.decisionId.bind after.journal.decisions.find? with
  | none => intake.accessEvents
  | some decision =>
    let make := accessEvent intake.system.registry (located intake.system.equipment data)
      (normalizeOptional forms data.plateNumberOriginal) decision
    intake.accessEvents.insert make (accessEvent_id _ _ _ decision)

def ingestAnpr (intake : Intake) (data : AnprIngestInput) : Intake × IngestResult :=
  let received := runIngest forms intake.system data
  ({ system := received.1
     accessEvents :=
       if received.2.replayed then intake.accessEvents
       else insertAccessEvent forms intake data received.1 received.2
     sent := intake.sent ++ [data] },
    received.2)

def intakeStep (intake : Intake) : SystemCall → Intake
  | .ingestAnpr data => (ingestAnpr forms intake data).1
  | call => { intake with system := step forms hashCode intake.system call }

end

def Intake.start (system : System) (accessEvents : Table AccessEvent.id) : Intake :=
  ⟨system, accessEvents, []⟩

section

variable (forms : TextForms) (system : System)

def repeats (data : AnprIngestInput) : Option Nat :=
  repeatedEvent system.journal (located system.equipment data)
    (normalizeOptional forms data.plateNumberOriginal)

def storedEvent (data : AnprIngestInput) : CameraEvent :=
  cameraEvent (located system.equipment data) (normalizeOptional forms data.plateNumberOriginal)
    system.journal.cameraEvents.nextKey

def inWindowOf (data : AnprIngestInput) (normalized : Option String) (event : CameraEvent) : Bool :=
  match normalized, data.gateId with
  | some plate, some gateId => inWindow data plate gateId event
  | _, _ => false

def foundInWindow (data : AnprIngestInput) : Option CameraEvent :=
  (findWindowDuplicate system.journal (located system.equipment data)
    (normalizeOptional forms data.plateNumberOriginal)).bind system.journal.cameraEvents.find?

/-- What a new event takes from an earlier call that has no row of its own: the event has the
key of that call, or lies in its window and was captured before the event found there. -/
def displaces (arriving earlier : AnprIngestInput) : Bool :=
  (repeats forms system arriving).isNone && (findEventId system.journal earlier).isNone &&
    (arriving.controllerId = earlier.controllerId && arriving.eventId = earlier.eventId ||
      inWindowOf (located system.equipment earlier)
          (normalizeOptional forms earlier.plateNumberOriginal)
          (storedEvent forms system arriving) &&
        (foundInWindow forms system earlier).any fun found => arriving.capturedAt < found.capturedAt)

/-- The equipment stays, and no new event displaces what an earlier call was answered with. -/
def undisturbed (intake : Intake) : SystemCall → Bool
  | .equip _ => false
  | .ingestAnpr data => intake.sent.all fun earlier => !displaces forms intake.system data earlier
  | _ => true

end

variable {data : AnprIngestInput} {engine : EngineDecision} {decided : Verdict}

section

variable {journal : Journal} {time : Moment} {normalized : Option String}

theorem recordEvent_initial_old (eventId : Nat) (older : eventId ≠ journal.cameraEvents.nextKey) :
    initialForEvent (recordEvent journal time data normalized engine decided).1 eventId =
      initialForEvent journal eventId := by
  unfold initialForEvent
  rw [recordEvent_decisions]
  simp [insertInitial, Table.insert, List.find?_append, initialDecision, Ne.symm older]

theorem recordEvent_initial_new (chained : Chained journal) :
    initialForEvent (recordEvent journal time data normalized engine decided).1
        journal.cameraEvents.nextKey =
      some (initialDecision journal.cameraEvents.nextKey decided.decision engine
        decided.finalStatus decided.reviewDeadlineAt journal.decisions.nextKey) := by
  have fresh : journal.decisions.rows.find? (fun row =>
      row.cameraEventId = journal.cameraEvents.nextKey && row.supersedesDecisionId = none) =
        none := by
    refine List.find?_eq_none.mpr fun row listed kept => ?_
    rw [Bool.and_eq_true] at kept
    obtain ⟨event, present, own⟩ := chained.received row listed
    have older := Table.lt_nextKey present
    have same : row.cameraEventId = journal.cameraEvents.nextKey := of_decide_eq_true kept.1
    omega
  unfold initialForEvent
  rw [recordEvent_decisions]
  simp only [insertInitial, Table.insert, List.find?_append, fresh, Option.none_or]
  simp [initialDecision]

theorem recordEvent_command_old {row : AccessDecision} (listed : row ∈ journal.decisions.rows) :
    commandForDecision (recordEvent journal time data normalized engine decided).1 row.id =
      commandForDecision journal row.id := by
  have older := Table.lt_nextKey listed
  have apart : journal.decisions.nextKey ≠ row.id := by omega
  unfold recordEvent
  dsimp only
  split
  · rfl
  · unfold createOpenCommand
    split
    · rfl
    · simp [commandForDecision, Table.insert, List.find?_append, openCommand, apart, insertInitial,
        insertCameraEvent]

theorem recordEvent_command_new (chained : Chained journal) :
    commandForDecision (recordEvent journal time data normalized engine decided).1
        journal.decisions.nextKey =
      (recordEvent journal time data normalized engine decided).2.command := by
  unfold recordEvent
  dsimp only
  split
  · refine List.find?_eq_none.mpr fun command listed linked => ?_
    obtain ⟨row, present, own, _⟩ := chained.commanded command listed _ (of_decide_eq_true linked)
    have older := Table.lt_nextKey present
    omega
  · exact commandForDecision_createOpenCommand _ _ _ _ _

theorem loadExistingResult_old (eventId : Nat)
    (older : eventId ≠ journal.cameraEvents.nextKey) :
    loadExistingResult (recordEvent journal time data normalized engine decided).1 eventId =
      loadExistingResult journal eventId := by
  unfold loadExistingResult
  rw [recordEvent_initial_old eventId older]
  split
  · next row found => rw [recordEvent_command_old (List.mem_of_find?_eq_some found)]
  · rfl

theorem loadExistingResult_new (chained : Chained journal) :
    loadExistingResult (recordEvent journal time data normalized engine decided).1
        journal.cameraEvents.nextKey =
      { (recordEvent journal time data normalized engine decided).2 with replayed := true } := by
  have command : commandForDecision (recordEvent journal time data normalized engine decided).1
      journal.decisions.nextKey =
        (recordEvent journal time data normalized engine decided).2.command :=
    recordEvent_command_new chained
  unfold loadExistingResult
  rw [recordEvent_initial_new chained]
  dsimp only [initialDecision]
  rw [command]
  unfold recordEvent
  dsimp only
  split <;> rfl

theorem findEventId_recordEvent (asked : AnprIngestInput) :
    findEventId (recordEvent journal time data normalized engine decided).1 asked =
      (findEventId journal asked).or
        (if data.controllerId = asked.controllerId ∧ data.eventId = asked.eventId then
          some journal.cameraEvents.nextKey else none) := by
  unfold findEventId
  rw [recordEvent_cameraEvents]
  simp only [insertCameraEvent, Table.insert, List.find?_append, Option.map_or,
    List.find?_singleton, cameraEvent, Bool.and_eq_true, decide_eq_true_eq]
  split <;> rfl

/-- A new event that is out of the window of a call, or was captured after the event found
there, leaves the search of the call as it was. -/
theorem findWindowDuplicate_recordEvent {asked : AnprIngestInput}
    {plate : Option String} {eventId : Nat}
    (found : findWindowDuplicate journal asked plate = some eventId)
    (behind : inWindowOf asked plate (cameraEvent data normalized journal.cameraEvents.nextKey) =
      true → ∀ event, journal.cameraEvents.find? eventId = some event →
        event.capturedAt ≤ data.capturedAt) :
    findWindowDuplicate (recordEvent journal time data normalized engine decided).1 asked plate =
      some eventId := by
  unfold findWindowDuplicate inWindowOf at *
  split at found
  · next plate gateId gate =>
      simp only [gate] at behind
      obtain ⟨event, earliest, rfl⟩ := Option.map_eq_some_iff.mp found
      have listed := (List.mem_filter.mp (List.argmin_mem earliest)).1
      have kept : journal.cameraEvents.rows.filter (fun event =>
          (initialForEvent (recordEvent journal time data normalized engine decided).1
            event.id).isSome && inWindow asked plate gateId event) =
          journal.cameraEvents.rows.filter fun event =>
            (initialForEvent journal event.id).isSome && inWindow asked plate gateId event := by
        refine List.filter_congr fun other present => ?_
        have older := Table.lt_nextKey present
        rw [recordEvent_initial_old other.id (by omega)]
      rw [recordEvent_cameraEvents]
      simp only [insertCameraEvent, Table.filter_insert, kept]
      split
      · next joined =>
          rw [Bool.and_eq_true] at joined
          have after := behind joined.2 event (Table.find?_of_mem listed)
          rw [List.argmin_concat, earliest]
          simp only [cameraEvent, not_lt.mpr after, if_false, Option.map_some]
      · rw [List.append_nil, earliest, Option.map_some]
  · cases found

end

structure Recalled (forms : TextForms) (system : System) (data : AnprIngestInput)
    (result : IngestResult) : Prop where
  stored : ∃ eventId, repeats forms system data = some eventId ∧
    eventId < system.journal.cameraEvents.nextKey ∧
    loadExistingResult system.journal eventId = { result with replayed := true }

section

variable {forms : TextForms} {hashCode : String → String} {system : System} {intake : Intake}
  {result : IngestResult}

variable {eventId : Nat} {arriving : AnprIngestInput} {call : SystemCall}

theorem runIngest_repeats (repeated : repeats forms system data = some eventId) :
    runIngest forms system data = (system, loadExistingResult system.journal eventId) := by
  have found : repeatedEvent system.journal (data.scoped (authorizeScope system.equipment data))
      (normalizeOptional forms data.plateNumberOriginal) = some eventId := repeated
  simp only [runIngest, found]

theorem runIngest_records (fresh : repeats forms system data = none) :
    ∃ engine decided, (runIngest forms system data).1.equipment = system.equipment ∧
      (runIngest forms system data).1.journal =
        (recordEvent system.journal system.time (located system.equipment data)
          (normalizeOptional forms data.plateNumberOriginal) engine decided).1 ∧
      (runIngest forms system data).2 =
        (recordEvent system.journal system.time (located system.equipment data)
          (normalizeOptional forms data.plateNumberOriginal) engine decided).2 := by
  have missing : repeatedEvent system.journal (data.scoped (authorizeScope system.equipment data))
      (normalizeOptional forms data.plateNumberOriginal) = none := fresh
  simp only [runIngest, missing]
  exact ⟨_, _, rfl, rfl, rfl⟩

theorem recordEvent_nextKey {journal : Journal} {time : Moment} {normalized : Option String} :
    journal.cameraEvents.nextKey <
      (recordEvent journal time data normalized engine decided).1.cameraEvents.nextKey := by
  rw [recordEvent_cameraEvents]
  exact Table.lt_nextKey ((Table.mem_insert (cameraEvent_id data normalized)).mpr (.inr rfl))

theorem loadExistingResult_replayed (journal : Journal) (eventId : Nat) :
    (loadExistingResult journal eventId).replayed = true := by
  unfold loadExistingResult
  split <;> rfl

theorem repeats_listed (repeated : repeats forms system data = some eventId) :
    ∃ event ∈ system.journal.cameraEvents.rows, event.id = eventId := by
  rcases Option.or_eq_some_iff.mp repeated with byKey | ⟨_, inTime⟩
  · obtain ⟨event, found, own⟩ := Option.map_eq_some_iff.mp byKey
    exact ⟨event, List.mem_of_find?_eq_some found, own⟩
  · unfold findWindowDuplicate at inTime
    split at inTime
    · obtain ⟨event, earliest, own⟩ := Option.map_eq_some_iff.mp inTime
      exact ⟨event, (List.mem_filter.mp (List.argmin_mem earliest)).1, own⟩
    · cases inTime

theorem recalled_first (chained : Chained system.journal) (data : AnprIngestInput) :
    Recalled forms (runIngest forms system data).1 data (runIngest forms system data).2 := by
  cases repeated : repeats forms system data with
  | some eventId =>
    rw [runIngest_repeats repeated]
    obtain ⟨event, listed, rfl⟩ := repeats_listed repeated
    have replayed := loadExistingResult_replayed system.journal event.id
    refine ⟨event.id, repeated, Table.lt_nextKey listed, ?_⟩
    cases answer : loadExistingResult system.journal event.id with
    | mk decision status reason decisionId decisionGroupId command replay =>
      rw [answer] at replayed
      cases replayed
      rfl
  | none =>
    obtain ⟨engine, decided, equipment, journal, answer⟩ := runIngest_records repeated
    have unkeyed := (Option.or_eq_none_iff.mp repeated).1
    refine ⟨system.journal.cameraEvents.nextKey, ?_, ?_, ?_⟩
    · have same : (located system.equipment data).controllerId =
          (located system.equipment data).controllerId ∧
          (located system.equipment data).eventId = (located system.equipment data).eventId :=
        ⟨rfl, rfl⟩
      rw [repeats, repeatedEvent, equipment, journal, findEventId_recordEvent, unkeyed,
        if_pos same, Option.none_or, Option.some_or]
    · rw [journal]
      exact recordEvent_nextKey
    · rw [journal, answer]
      exact loadExistingResult_new chained

/-- A new event that displaces nothing of a call leaves the search of the call as it was. -/
theorem repeats_recorded (fresh : repeats forms system arriving = none)
    (kept : displaces forms system arriving data = false)
    (repeated : repeats forms system data = some eventId) :
    repeatedEvent
        (recordEvent system.journal system.time (located system.equipment arriving)
          (normalizeOptional forms arriving.plateNumberOriginal) engine decided).1
        (located system.equipment data) (normalizeOptional forms data.plateNumberOriginal) =
      some eventId := by
  rw [repeatedEvent, findEventId_recordEvent]
  rcases Option.or_eq_some_iff.mp repeated with byKey | ⟨unkeyed, inTime⟩
  · rw [byKey, Option.some_or, Option.some_or]
  · have unkeyedToo : findEventId system.journal data = none := unkeyed
    have foundHere : foundInWindow forms system data =
        system.journal.cameraEvents.find? eventId := by
      rw [foundInWindow, inTime, Option.bind_some]
    simp only [displaces, fresh, unkeyedToo, Option.isNone_none, Bool.and_self, Bool.true_and,
      Bool.or_eq_false_iff, foundHere] at kept
    have keyed : ¬ ((located system.equipment arriving).controllerId =
          (located system.equipment data).controllerId ∧
        (located system.equipment arriving).eventId = (located system.equipment data).eventId) := by
      rintro ⟨controller, key⟩
      have same : arriving.controllerId = data.controllerId ∧ arriving.eventId = data.eventId :=
        ⟨controller, key⟩
      simp [same] at kept
    rw [if_neg keyed, unkeyed, Option.or_none, Option.none_or]
    refine findWindowDuplicate_recordEvent inTime fun joined event found => ?_
    have behind := kept.2
    rw [found] at behind
    have inside : inWindowOf (located system.equipment data)
        (normalizeOptional forms data.plateNumberOriginal)
        (storedEvent forms system arriving) = true := joined
    rw [inside, Bool.true_and, Option.any_some] at behind
    exact not_lt.mp (of_decide_eq_false behind)

theorem recalled_ingest (kept : displaces forms system arriving data = false)
    (recalled : Recalled forms system data result) :
    Recalled forms (runIngest forms system arriving).1 data result := by
  obtain ⟨eventId, repeated, older, answer⟩ := recalled
  cases again : repeats forms system arriving with
  | some stored =>
    rw [runIngest_repeats again]
    exact ⟨eventId, repeated, older, answer⟩
  | none =>
    obtain ⟨engine, decided, equipment, journal, _⟩ := runIngest_records again
    refine ⟨eventId, ?_, ?_, ?_⟩
    · rw [repeats, equipment, journal]
      exact repeats_recorded again kept repeated
    · rw [journal]
      exact older.trans recordEvent_nextKey
    · rw [journal, loadExistingResult_old eventId (Nat.ne_of_lt older)]
      exact answer

theorem recalled_operated (operated : ∀ data, call ≠ .ingestAnpr data)
    (fixed : ∀ change, call ≠ .equip change) (recalled : Recalled forms system data result) :
    Recalled forms (step forms hashCode system call) data result := by
  have same : SameArrivals system.journal (step forms hashCode system call).journal :=
    step_arrivals operated
  obtain ⟨eventId, repeated, older, answer⟩ := recalled
  refine ⟨eventId, ?_, ?_, ?_⟩
  · rw [repeats, step_equipment fixed, same.repeatedEvent]
    exact repeated
  · rw [same.events]
    exact older
  · rw [same.loadExistingResult]
    exact answer

theorem intakeStep_system (call : SystemCall) :
    (intakeStep forms hashCode intake call).system = step forms hashCode intake.system call := by
  cases call <;> rfl

structure Remembers (forms : TextForms) (data : AnprIngestInput) (result : IngestResult)
    (intake : Intake) : Prop where
  sent : data ∈ intake.sent
  recalled : Recalled forms intake.system data result

theorem remembers_step (allowed : undisturbed forms intake call = true)
    (remembers : Remembers forms data result intake) :
    Remembers forms data result (intakeStep forms hashCode intake call) := by
  obtain ⟨sent, recalled⟩ := remembers
  cases call with
  | ingestAnpr arriving =>
    have kept := List.all_eq_true.mp allowed data sent
    rw [Bool.not_eq_true'] at kept
    exact ⟨List.mem_append_left _ sent, recalled_ingest kept recalled⟩
  | equip change => cases allowed
  | _ =>
    refine ⟨sent, ?_⟩
    rw [intakeStep_system]
    exact recalled_operated (by rintro _ ⟨⟩) (by rintro _ ⟨⟩) recalled

theorem remembers_first (chained : Chained intake.system.journal) (data : AnprIngestInput) :
    Remembers forms data (runIngest forms intake.system data).2
      (intakeStep forms hashCode intake (.ingestAnpr data)) :=
  ⟨List.mem_append_right _ List.mem_cons_self, recalled_first chained data⟩

theorem chained_intake (chained : Chained intake.system.journal) (calls : List SystemCall) :
    Chained (run (intakeStep forms hashCode) intake calls).system.journal := by
  refine run_invariant (intakeStep forms hashCode) (fun intake => Chained intake.system.journal)
    chained (fun reached call kept => ?_) calls
  rw [intakeStep_system]
  exact chained_step kept call

theorem remembers_answers (remembers : Remembers forms data result intake) :
    (ingestAnpr forms intake data).2 = { result with replayed := true } ∧
      (ingestAnpr forms intake data).1 = { intake with sent := intake.sent ++ [data] } := by
  obtain ⟨eventId, repeated, _, answer⟩ := remembers.recalled
  have replays := runIngest_repeats repeated
  rw [answer] at replays
  constructor
  · rw [ingestAnpr, replays]
  · simp only [ingestAnpr, replays, if_true]

end

/-- Where no new event displaces what an earlier call was answered with, every repetition of a
call gets the result of the first one, and leaves nothing behind. -/
theorem event_intake_idempotent (forms : TextForms) (hashCode : String → String)
    (territory : Territory) (time : Moment) (setup : List SystemCall)
    (accessEvents : Table AccessEvent.id) (before between : List SystemCall)
    (data : AnprIngestInput)
    (kept : Obeys (intakeStep forms hashCode)
      (fun intake call => undisturbed forms intake call = true)
      (Intake.start (run (step forms hashCode) (System.initial territory time) setup) accessEvents)
      (before ++ .ingestAnpr data :: between)) :
    let start := Intake.start
      (run (step forms hashCode) (System.initial territory time) setup) accessEvents
    let first := ingestAnpr forms (run (intakeStep forms hashCode) start before) data
    let reached := run (intakeStep forms hashCode) start (before ++ .ingestAnpr data :: between)
    (ingestAnpr forms reached data).2 = { first.2 with replayed := true } ∧
      (ingestAnpr forms reached data).1 = { reached with sent := reached.sent ++ [data] } := by
  intro start first reached
  have chained : Chained (run (intakeStep forms hashCode) start before).system.journal :=
    chained_intake (chained_run territory time setup) before
  obtain ⟨_, later⟩ := (obeys_append _ _ _ _ _).mp kept
  obtain ⟨_, after⟩ := (obeys_cons _ _ _ _ _).mp later
  have remembers : Remembers forms data first.2 reached := by
    have held := run_invariant_of_obeys (intakeStep forms hashCode)
      (Remembers forms data first.2) (remembers_first chained data)
      (fun _ _ allowed remembered => remembers_step allowed remembered) after
    rw [show reached = run (intakeStep forms hashCode)
      (intakeStep forms hashCode (run (intakeStep forms hashCode) start before)
        (.ingestAnpr data)) between from run_append _ _ _ _]
    exact held
  exact remembers_answers remembers

/-! Three events of one car at one gate, by their seconds. -/

def carAt (eventId : String) (capturedAt : Moment) : AnprIngestInput where
  controllerId := 1
  eventId := eventId
  zoneId := none
  gateId := none
  barrierId := none
  plateNumberOriginal := some "01A777AA"
  direction := .entry
  confidence := some 9000
  capturedAt := capturedAt

def oneGate : List SystemCall :=
  [.equip (.createZone "Z1" none none), .equip (.createController "edge-1" (some 1) none),
    .equip (.createGate "G1" 1 .entry (some 1) true),
    .equip (.createBarrier "B1" 1 (some 1) true),
    .register (.createVehicle ⟨"01A777AA", some 4, some 1⟩)]

def gateReady : Intake := .start (run (step .ascii id) (System.initial ⟨[], [], []⟩ 0) oneGate) .empty

def afterFifteen (calls : List AnprIngestInput) : Intake :=
  run (intakeStep .ascii id) gateReady
    (.ingestAnpr (carAt "e-15" 15) :: calls.map .ingestAnpr)

/-- The event at 10 seconds is answered with the one at 15 seconds, twice. -/
theorem repetition_answered_alike :
    (ingestAnpr .ascii (afterFifteen [carAt "e-10" 10]) (carAt "e-10" 10)).2 =
      { (ingestAnpr .ascii (afterFifteen []) (carAt "e-10" 10)).2 with replayed := true } := by
  have kept : Obeys (intakeStep .ascii id)
      (fun intake call => undisturbed .ascii intake call = true)
      (Intake.start (run (step .ascii id) (System.initial ⟨[], [], []⟩ 0) oneGate) .empty)
      ([.ingestAnpr (carAt "e-15" 15)] ++ .ingestAnpr (carAt "e-10" 10) :: []) := by
    decide +kernel
  exact (event_intake_idempotent .ascii id ⟨[], [], []⟩ 0 oneGate .empty
    [.ingestAnpr (carAt "e-15" 15)] [] (carAt "e-10" 10) kept).1

/-- The event at 2 seconds comes in between. -/
theorem repetition_answered_otherwise :
    (ingestAnpr .ascii (afterFifteen []) (carAt "e-10" 10)).2.decisionId = some 1 ∧
      (ingestAnpr .ascii (afterFifteen [carAt "e-10" 10, carAt "e-2" 2])
        (carAt "e-10" 10)).2.decisionId = some 2 := by
  decide +kernel

end InfrasafeBot.AccessControl
