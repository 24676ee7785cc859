import InfrasafeBot.AccessControl.Events
import InfrasafeBot.Library.Machine

/-! The edge that takes commands from the fast path and from the durable channel
(`edge/command_consumer.py`) and has its relay open the barrier (`integrations/relay.py`), one
step after the other, with what it has stored in its file. -/

set_option autoImplicit false

namespace InfrasafeBot.AccessControl.Edge

open Library Machine RequestWorkflow

structure StoredResult where
  opened : Bool
  detail : Option String

abbrev Records := List (Nat × StoredResult)

structure RelayResult where
  commandId : Nat
  opened : Bool
  deduplicated : Bool
  detail : Option String

def Records.get (data : Records) (commandId : Nat) : Option RelayResult :=
  (data.find? (·.1 = commandId)).map fun stored => ⟨commandId, stored.2.opened, false, stored.2.detail⟩

def Records.put (data : Records) (commandId : Nat) (result : RelayResult) : Records :=
  data.filter (·.1 ≠ commandId) ++ [(commandId, ⟨result.opened, result.detail⟩)]

inductive StoreFile where
  | missing
  | damaged
  | written (data : Records)

def StoreFile.load : StoreFile → Records
  | .written data => data
  | _ => []

inductive Path where
  | fast
  | pulled (leaseToken : String)

structure ProcessOutcome where
  commandId : Nat
  relayOpened : Bool
  relayDeduplicated : Bool
  acked : Bool
  ackReplayed : Bool
  expired : Bool

inductive AckBody where
  | opened (opened : Bool)
  | skippedExpired
  deriving DecidableEq

inductive Stage where
  | idle
  | checking (commandId barrierId : Nat) (leaseToken : String)
  | looking (commandId barrierId : Nat) (path : Path)
  | calling (commandId barrierId : Nat) (path : Path)
  | putting (path : Path) (result : RelayResult)
  | flushing (path : Path) (result : RelayResult)
  | acking (leaseToken : String) (body : AckBody) (result : RelayResult)
  | returning (outcome : ProcessOutcome)

structure Process where
  data : Records
  stage : Stage

/-- `openings` are the times at which the relay has opened, by their commands. -/
structure State where
  file : StoreFile
  process : Option Process
  time : Moment
  openings : List (Nat × Moment)

inductive RelayReply where
  | answered (statusCode : Nat)
  | raises
  deriving DecidableEq

inductive Event where
  | onFastPath (commandId barrierId : Nat)
  | pullOnce (commandId barrierId : Nat) (leaseToken : String)
  | step
  /-- The relay call, which may open the barrier whatever it answers. -/
  | relay (opens : Bool) (reply : RelayReply)
  | flush (succeeds : Bool)
  /-- A response that is lost is `none`. -/
  | ack (statusCode : Option Nat) (replayed : Bool)
  | crash
  | restart
  | damage
  | tick (elapsed : Nat)

section

variable (expiresAt : Nat → Option Moment)

def isExpired (now : Moment) (commandId : Nat) : Bool := (expiresAt commandId).any (· ≤ now)

def answerTo (result : RelayResult) : Path → Stage
  | .fast => .returning ⟨result.commandId, result.opened, result.deduplicated, false, false, false⟩
  | .pulled leaseToken => .acking leaseToken (.opened result.opened) result

def stepProcess (now : Moment) (process : Process) : Process :=
  match process.stage with
  | .checking commandId barrierId leaseToken =>
    if isExpired expiresAt now commandId then
      { process with stage := .acking leaseToken .skippedExpired ⟨commandId, false, false, none⟩ }
    else { process with stage := .looking commandId barrierId (.pulled leaseToken) }
  | .looking commandId barrierId path =>
    match process.data.get commandId with
    | some saved => { process with stage := answerTo { saved with deduplicated := true } path }
    | none => { process with stage := .calling commandId barrierId path }
  | .putting path result =>
    { data := process.data.put result.commandId result, stage := .flushing path result }
  | _ => process

def afterRelay (commandId : Nat) (path : Path) : RelayReply → Stage
  | .answered statusCode => .putting path ⟨commandId, statusCode = 200, false, some s!"http {statusCode}"⟩
  | .raises => .idle

def acknowledged (body : AckBody) (result : RelayResult) (statusCode : Option Nat)
    (replayed : Bool) : ProcessOutcome :=
  ⟨result.commandId, result.opened, result.deduplicated, statusCode = some 200,
    statusCode = some 200 && replayed, body = .skippedExpired⟩

def Stage.free : Stage → Bool
  | .idle => true
  | .returning _ => true
  | _ => false

def receive (state : State) (stage : Stage) : State :=
  match state.process with
  | some process =>
    if process.stage.free then { state with process := some { process with stage := stage } }
    else state
  | none => state

def next (state : State) : Event → State
  | .onFastPath commandId barrierId => receive state (.looking commandId barrierId .fast)
  | .pullOnce commandId barrierId leaseToken => receive state (.checking commandId barrierId leaseToken)
  | .step => { state with process := state.process.map (stepProcess expiresAt state.time) }
  | .relay opens reply =>
    match state.process with
    | some ⟨data, .calling commandId _ path⟩ =>
      { state with
        process := some ⟨data, afterRelay commandId path reply⟩
        openings :=
          if opens then state.openings ++ [(commandId, state.time)] else state.openings }
    | _ => state
  | .flush succeeds =>
    match state.process with
    | some ⟨data, .flushing path result⟩ =>
      if succeeds then
        { state with
          file := .written data
          process := some ⟨data, answerTo result path⟩ }
      else { state with process := some ⟨data, .idle⟩ }
    | _ => state
  | .ack statusCode replayed =>
    match state.process with
    | some ⟨data, .acking _ body result⟩ =>
      { state with process := some ⟨data, .returning (acknowledged body result statusCode replayed)⟩ }
    | _ => state
  | .crash => { state with process := none }
  | .restart =>
    if state.process.isNone then { state with process := some ⟨state.file.load, .idle⟩ }
    else state
  | .damage => { state with file := .damaged }
  | .tick elapsed => { state with time := state.time + elapsed }

end

def State.initial (time : Moment) : State := ⟨.missing, none, time, []⟩

def openingsOf (state : State) (commandId : Nat) : Nat := state.openings.countP (·.1 = commandId)

/-- The barrier has opened at most once for a command, and before it ran out. -/
structure FiresOnce (expiresAt : Nat → Option Moment) (state : State) : Prop where
  once : ∀ commandId, openingsOf state commandId ≤ 1
  inTime : ∀ opening ∈ state.openings, isExpired expiresAt opening.2 opening.1 = false

def Stage.inHand : Stage → Option Nat
  | .looking commandId _ _ => some commandId
  | .calling commandId _ _ => some commandId
  | _ => none

/-- No call raises after the relay has opened, a restart finds every command that has been opened
in the file, the fast path brings no command that has run out, and no command in hand runs out
before the relay is called. -/
def recorded (expiresAt : Nat → Option Moment) (state : State) : Event → Bool
  | .relay opens reply => !opens || reply ≠ .raises
  | .restart => state.openings.all fun opening => (state.file.load.get opening.1).isSome
  | .onFastPath commandId _ => !isExpired expiresAt state.time commandId
  | .tick elapsed =>
    (state.process.bind (·.stage.inHand)).all fun commandId =>
      !isExpired expiresAt (state.time + elapsed) commandId
  | _ => true

section

variable {expiresAt : Nat → Option Moment} {state : State}

/-- What has been opened is known to the process, but for the command it is about to put. -/
def Process.Knows (process : Process) (commandId : Nat) : Prop :=
  (process.data.get commandId).isSome ∨
    ∃ path result, process.stage = .putting path result ∧ result.commandId = commandId

/-- The command in hand is good, and one that the relay is called for has not been stored. -/
def Process.Ready (expiresAt : Nat → Option Moment) (now : Moment) (process : Process) : Prop :=
  (∀ commandId, process.stage.inHand = some commandId → isExpired expiresAt now commandId = false) ∧
    ∀ commandId barrierId path, process.stage = .calling commandId barrierId path →
      process.data.get commandId = none

structure Guarded (expiresAt : Nat → Option Moment) (state : State) : Prop where
  firesOnce : FiresOnce expiresAt state
  known : ∀ process, state.process = some process → ∀ opening ∈ state.openings, process.Knows opening.1
  ready : ∀ process, state.process = some process → process.Ready expiresAt state.time

theorem guarded_initial (time : Moment) : Guarded expiresAt (State.initial time) where
  firesOnce := ⟨fun _ => Nat.zero_le 1, fun _ listed => nomatch listed⟩
  known := fun _ none => nomatch none
  ready := fun _ none => nomatch none

variable {commandId : Nat} {result : RelayResult} {now : Moment} {process : Process}

theorem get_put {data : Records} :
    ((data.put result.commandId result).get commandId).isSome =
      ((data.get commandId).isSome || decide (result.commandId = commandId)) := by
  simp only [Records.get, Records.put, Option.isSome_map, List.find?_append, Option.isSome_or]
  by_cases same : result.commandId = commandId
  · simp [same]
  · have kept : (data.filter (·.1 ≠ result.commandId)).find? (·.1 = commandId) =
        data.find? (·.1 = commandId) := by
      rw [List.find?_filter]
      refine congrArg (List.find? · data) (funext fun stored => ?_)
      by_cases own : stored.1 = commandId
      · simp [own, Ne.symm same]
      · simp [own]
    rw [kept]
    simp [same]

theorem answerTo_inHand {path : Path} : (answerTo result path).inHand = none := by
  cases path <;> rfl

theorem ready_of_empty (empty : process.stage.inHand = none) : process.Ready expiresAt now := by
  refine ⟨fun commandId held => ?_, fun commandId barrierId path calls => ?_⟩
  · rw [empty] at held
    cases held
  · rw [calls] at empty
    cases empty

theorem Guarded.stored (guarded : Guarded expiresAt state) (up : state.process = some process)
    (settled : ∀ path result, process.stage ≠ .putting path result) :
    ∀ opening ∈ state.openings, (process.data.get opening.1).isSome = true := by
  intro opening listed
  rcases guarded.known process up opening listed with there | ⟨path, result, puts, _⟩
  · exact there
  · exact absurd puts (settled path result)

theorem guarded_stage (guarded : Guarded expiresAt state) (up : state.process = some process)
    (settled : ∀ path result, process.stage ≠ .putting path result) (file : StoreFile)
    (changed : Process) (same : changed.data = process.data)
    (ready : changed.Ready expiresAt state.time) :
    Guarded expiresAt { state with file := file, process := some changed } where
  firesOnce := ⟨guarded.firesOnce.once, guarded.firesOnce.inTime⟩
  known := by
    rintro _ ⟨⟩ opening listed
    refine .inl ?_
    rw [same]
    exact guarded.stored up settled opening listed
  ready := by
    rintro _ ⟨⟩
    exact ready

theorem guarded_receive (guarded : Guarded expiresAt state) {stage : Stage}
    (ready : ∀ data, (Process.mk data stage).Ready expiresAt state.time) :
    Guarded expiresAt (receive state stage) := by
  unfold receive
  split
  · next process up =>
      split
      · next free =>
          refine guarded_stage guarded up (fun path result puts => ?_) _ _ rfl (ready _)
          rw [puts] at free
          cases free
      · exact guarded
  · exact guarded

theorem guarded_step (guarded : Guarded expiresAt state) :
    Guarded expiresAt (next expiresAt state .step) := by
  simp only [next]
  cases up : state.process with
  | none =>
    rw [Option.map_none, ← up]
    exact guarded
  | some process =>
    have goesOn : ∀ changed : Process, changed.data = process.data →
        (∀ path result, process.stage ≠ .putting path result) →
        changed.Ready expiresAt state.time →
        Guarded expiresAt { state with process := some changed } :=
      fun changed same settled ready => guarded_stage guarded up settled _ changed same ready
    have ready := guarded.ready process up
    obtain ⟨data, stage⟩ := process
    cases stage with
    | checking commandId barrierId leaseToken =>
      simp only [Option.map_some, stepProcess]
      split
      · exact goesOn _ rfl (fun _ _ => by rintro ⟨⟩) (ready_of_empty rfl)
      · next good =>
          refine goesOn _ rfl (fun _ _ => by rintro ⟨⟩)
            ⟨fun _ held => ?_, fun _ _ _ calls => ?_⟩
          · obtain rfl := Option.some.inj held
            exact Bool.eq_false_of_not_eq_true good
          · cases calls
    | looking commandId barrierId path =>
      simp only [Option.map_some, stepProcess]
      split
      · exact goesOn _ rfl (fun _ _ => by rintro ⟨⟩) (ready_of_empty answerTo_inHand)
      · next fresh =>
          refine goesOn _ rfl (fun _ _ => by rintro ⟨⟩)
            ⟨fun _ held => ?_, fun _ _ _ calls => ?_⟩
          · obtain rfl := Option.some.inj held
            exact ready.1 commandId rfl
          · cases calls
            exact fresh
    | putting path result =>
      simp only [Option.map_some, stepProcess]
      refine ⟨⟨guarded.firesOnce.once, guarded.firesOnce.inTime⟩, ?_, ?_⟩
      · rintro _ ⟨⟩ opening listed
        refine .inl ?_
        rw [get_put, Bool.or_eq_true]
        rcases guarded.known _ up opening listed with there | ⟨_, _, puts, own⟩
        · exact .inl there
        · cases puts
          exact .inr (decide_eq_true own)
      · rintro _ ⟨⟩
        exact ready_of_empty rfl
    | _ => exact goesOn _ rfl (fun _ _ => by rintro ⟨⟩) ready

theorem openingsOf_append {opened : Nat} :
    openingsOf { state with openings := state.openings ++ [(opened, now)] } commandId =
      openingsOf state commandId + if opened = commandId then 1 else 0 := by
  simp [openingsOf, List.countP_append, List.countP_singleton]

theorem openingsOf_eq_zero (unopened : ∀ opening ∈ state.openings, opening.1 ≠ commandId) :
    openingsOf state commandId = 0 :=
  List.countP_eq_zero.mpr fun opening listed same => unopened opening listed (of_decide_eq_true same)

theorem guarded_relay (guarded : Guarded expiresAt state) {opens : Bool} {reply : RelayReply}
    (allowed : recorded expiresAt state (.relay opens reply) = true) :
    Guarded expiresAt (next expiresAt state (.relay opens reply)) := by
  simp only [next]
  split
  · next data commandId barrierId path up =>
      have stored := guarded.stored up fun _ _ => by rintro ⟨⟩
      obtain ⟨good, fresh⟩ := guarded.ready _ up
      have unopened : ∀ opening ∈ state.openings, opening.1 ≠ commandId := by
        rintro opening listed rfl
        have there := stored opening listed
        rw [fresh _ _ _ rfl] at there
        cases there
      have empty : (afterRelay commandId path reply).inHand = none := by cases reply <;> rfl
      refine ⟨⟨fun wanted => ?_, fun opening listed => ?_⟩, ?_, ?_⟩
      · have before := guarded.firesOnce.once wanted
        cases opens with
        | false => exact before
        | true =>
          have added : openingsOf { state with
              openings := state.openings ++ [(commandId, state.time)] } wanted =
              openingsOf state wanted + if commandId = wanted then 1 else 0 :=
            openingsOf_append
          by_cases own : commandId = wanted
          · rw [if_pos own, ← own, openingsOf_eq_zero unopened] at added
            rw [← own]
            exact le_of_eq added
          · rw [if_neg own] at added
            exact le_of_eq_of_le added before
      · cases opens with
        | false => exact guarded.firesOnce.inTime opening listed
        | true =>
          rcases List.mem_append.mp listed with old | new
          · exact guarded.firesOnce.inTime opening old
          · obtain rfl := List.mem_singleton.mp new
            exact good commandId rfl
      · rintro _ ⟨⟩ opening listed
        cases opens with
        | false => exact .inl (stored opening listed)
        | true =>
          rcases List.mem_append.mp listed with old | new
          · exact .inl (stored opening old)
          · obtain rfl := List.mem_singleton.mp new
            cases reply with
            | answered statusCode => exact .inr ⟨path, _, rfl, rfl⟩
            | raises => cases allowed
      · rintro _ ⟨⟩
        exact ready_of_empty empty
  · exact guarded

theorem guarded_next (guarded : Guarded expiresAt state) {event : Event}
    (allowed : recorded expiresAt state event = true) :
    Guarded expiresAt (next expiresAt state event) := by
  cases event with
  | onFastPath commandId barrierId =>
    refine guarded_receive guarded fun data => ⟨fun _ held => ?_, fun _ _ _ calls => ?_⟩
    · obtain rfl := Option.some.inj held
      exact Bool.eq_false_of_not_eq_true' allowed
    · cases calls
  | pullOnce commandId barrierId leaseToken => exact guarded_receive guarded fun data => ready_of_empty rfl
  | step => exact guarded_step guarded
  | relay opens reply => exact guarded_relay guarded allowed
  | flush succeeds =>
    simp only [next]
    split
    · next data path result up =>
        split
        · exact guarded_stage guarded up (fun _ _ => by rintro ⟨⟩) _ _ rfl
            (ready_of_empty answerTo_inHand)
        · exact guarded_stage guarded up (fun _ _ => by rintro ⟨⟩) _ _ rfl (ready_of_empty rfl)
    · exact guarded
  | ack statusCode replayed =>
    simp only [next]
    split
    · next data leaseToken body result up =>
        exact guarded_stage guarded up (fun _ _ => by rintro ⟨⟩) _ _ rfl (ready_of_empty rfl)
    · exact guarded
  | crash =>
    exact ⟨⟨guarded.firesOnce.once, guarded.firesOnce.inTime⟩, (fun _ none => nomatch none),
      (fun _ none => nomatch none)⟩
  | restart =>
    simp only [next]
    split
    · refine ⟨⟨guarded.firesOnce.once, guarded.firesOnce.inTime⟩, ?_, ?_⟩
      · rintro _ ⟨⟩ opening listed
        exact .inl (List.all_eq_true.mp allowed opening listed)
      · rintro _ ⟨⟩
        exact ready_of_empty rfl
    · exact guarded
  | damage => exact ⟨⟨guarded.firesOnce.once, guarded.firesOnce.inTime⟩, guarded.known, guarded.ready⟩
  | tick elapsed =>
    refine ⟨⟨guarded.firesOnce.once, guarded.firesOnce.inTime⟩, guarded.known,
      fun process up => ⟨fun commandId held => ?_, (guarded.ready process up).2⟩⟩
    have inHand : (state.process.bind (·.stage.inHand)) = some commandId := by
      rw [show state.process = some process from up]
      exact held
    rw [recorded, inHand] at allowed
    exact Bool.eq_false_of_not_eq_true' allowed

end

/-- The barrier opens once at most for a command, and in time, where every opening is recorded
before the edge can forget it and no command that has run out is handed to the relay. -/
theorem relay_fires_once (expiresAt : Nat → Option Moment) (time : Moment) (events : List Event)
    (allowed : Obeys (next expiresAt) (fun state event => recorded expiresAt state event = true)
      (State.initial time) events) :
    FiresOnce expiresAt (run (next expiresAt) (State.initial time) events) :=
  (run_invariant_of_obeys (next expiresAt) (Guarded expiresAt) (guarded_initial time)
    (fun _ _ kept guarded => guarded_next guarded kept) allowed).firesOnce

/-! One command, on both paths and over a restart. -/

def untilSixty (_ : Nat) : Option Moment := some 60

def openedOnce : List Event :=
  [.restart, .onFastPath 1 1, .step, .relay true (.answered 200), .step, .flush true]

def pulledAgain : List Event := [.pullOnce 1 1 "token", .step, .step, .ack none false]

theorem fires_once_on_both_paths :
    openingsOf (run (next untilSixty) (State.initial 0)
        (openedOnce ++ pulledAgain ++ [.crash, .restart] ++ pulledAgain)) 1 = 1 ∧
      FiresOnce untilSixty (run (next untilSixty) (State.initial 0)
        (openedOnce ++ pulledAgain ++ [.crash, .restart] ++ pulledAgain)) :=
  ⟨by decide, relay_fires_once untilSixty 0 _ (by decide)⟩

/-- A call that times out after the relay has opened is made again, and the fast path opens for
a command that has run out. -/
theorem fires_twice_and_too_late :
    ¬ openingsOf (run (next untilSixty) (State.initial 0)
        [.restart, .onFastPath 1 1, .step, .relay true .raises, .pullOnce 1 1 "token", .step,
          .step, .relay true (.answered 200)]) 1 ≤ 1 ∧
      ¬ FiresOnce untilSixty (run (next untilSixty) (State.initial 61)
        [.restart, .onFastPath 1 1, .step, .relay true (.answered 200)]) := by
  refine ⟨by decide, fun fires => ?_⟩
  have late := fires.inTime (1, 61) (by decide)
  cases late

end InfrasafeBot.AccessControl.Edge
