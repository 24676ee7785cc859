import InfrasafeBot.Library.Machine
import Mathlib.Algebra.Order.Ring.Rat
import Mathlib.Data.List.AList
import InfrasafeBot.Library.SlidingWindow

/-! The lockout after wrong codes (`services/code_rate_limit.py`) under attempts of one operator
that may overlap: each command of an attempt on the store is a step of its own. -/

set_option autoImplicit false

namespace InfrasafeBot.AccessControl.CodeRateLimit


def failureThreshold : Nat := 5

def failureWindowSeconds : ℚ := 600

abbrev EventTimes := AList fun _ : String => List ℚ

/-- A counter of Redis, with the time it is dropped at where it has one. -/
structure Counter where
  count : Nat
  expiresAt : Option ℚ

def Counter.live (counter : Counter) (now : ℚ) : Bool := counter.expiresAt.all (now < ·)

inductive FailureStore where
  | inMemory (events : EventTimes)
  | redis (counters : AList fun _ : String => Counter)

def timesOf (events : EventTimes) (key : String) : List ℚ := (events.lookup key).getD []

/-- The dictionary with the times after the cutoff, and the keys that have one. -/
def recentTimes (events : EventTimes) (cutoff : ℚ) : EventTimes where
  entries := (events.entries.map fun entry =>
    (⟨entry.1, entry.2.filter (cutoff < ·)⟩ : Sigma fun _ : String => List ℚ)).filter
      fun entry => !entry.2.isEmpty
  nodupKeys := by
    have same : (events.entries.map fun entry =>
        (⟨entry.1, entry.2.filter (cutoff < ·)⟩ : Sigma fun _ : String => List ℚ)).keys =
          events.entries.keys := by
      simp [List.keys, Function.comp_def]
    have nodup : (events.entries.map fun entry =>
        (⟨entry.1, entry.2.filter (cutoff < ·)⟩ : Sigma fun _ : String => List ℚ)).NodupKeys := by
      unfold List.NodupKeys
      rw [same]
      exact events.nodupKeys
    exact nodup.sublist List.filter_sublist

/-- `_prune`: the times of the key in the window, which are all that is kept of it. -/
def prune (events : EventTimes) (key : String) (now : ℚ) : List ℚ × EventTimes :=
  let cutoff := now - failureWindowSeconds
  let kept := (timesOf events key).filter (cutoff < ·)
  let pruned := if kept = [] then events.erase key else events.insert key kept
  (kept, if pruned.entries.length > 8192 then recentTimes pruned cutoff else pruned)

def liveCounter (counters : AList fun _ : String => Counter) (key : String) (now : ℚ) : Option Counter :=
  (counters.lookup key).filter (·.live now)

namespace FailureStore

def failureCount (store : FailureStore) (key : String) (now : ℚ) : Nat × FailureStore :=
  match store with
  | .inMemory events =>
    let pruned := prune events key now
    (pruned.1.length, .inMemory pruned.2)
  | .redis counters => (((liveCounter counters key now).map (·.count)).getD 0, .redis counters)

/-- `record_failure` up to its first command, and whether a second one follows: Redis sets the
lifetime of a counter that it has just made. -/
def recordFailure (store : FailureStore) (key : String) (now : ℚ) : FailureStore × Bool :=
  match store with
  | .inMemory events =>
    let pruned := prune events key now
    (.inMemory (pruned.2.insert key (pruned.1 ++ [now])), false)
  | .redis counters =>
    match liveCounter counters key now with
    | some counter =>
      (.redis (counters.insert key { counter with count := counter.count + 1 }), counter.count + 1 = 1)
    | none => (.redis (counters.insert key ⟨1, none⟩), true)

def expire (store : FailureStore) (key : String) (now : ℚ) : FailureStore :=
  match store with
  | .inMemory events => .inMemory events
  | .redis counters =>
    match liveCounter counters key now with
    | some counter =>
      .redis (counters.insert key { counter with expiresAt := some (now + failureWindowSeconds) })
    | none => .redis counters

end FailureStore

def rateLimitKeys (operatorUserId : Nat) (sourceIp : Option String) (codeHash : String) : List String :=
  [s!"op:{operatorUserId}", "ip:" ++ (sourceIp.filter (· ≠ "")).getD "unknown", "code:" ++ codeHash]

/-- Where an attempt stands: which keys `is_blocked` has still to read, and which ones
`record_failures` has still to count. -/
inductive Stage where
  | checking (rest : List String)
  | evaluating
  | recording (rest : List String)
  | expiring (key : String) (rest : List String)
  | refused
  | ended
  | stopped
  deriving DecidableEq

def Stage.active : Stage → Bool
  | .checking _ => true
  | .evaluating => true
  | .recording _ => true
  | .expiring _ _ => true
  | .refused => false
  | .ended => false
  | .stopped => false

structure Attempt where
  keys : List String
  stage : Stage
  deriving DecidableEq

def Attempt.halted (attempt : Attempt) : Attempt :=
  if attempt.stage.active then { attempt with stage := .stopped } else attempt

structure Evaluation where
  attempt : Nat
  keys : List String
  time : ℚ

structure State where
  now : ℚ
  store : FailureStore
  attempts : List Attempt
  evaluations : List Evaluation
  /-- When the attempts have evaluated a wrong code or counted it. -/
  wrongTimes : List ℚ

inductive Action where
  | start (sourceIp : Option String) (codeHash : String)
  | step (attempt : Nat)
  | stop (attempt : Nat)

structure Event where
  time : ℚ
  action : Action

def afterRecord : List String → Stage
  | [] => .ended
  | rest => .recording rest

namespace State

def move (state : State) (id : Nat) (attempt : Attempt) (stage : Stage) : State :=
  { state with attempts := state.attempts.set id { attempt with stage := stage } }

def mark (state : State) : State := { state with wrongTimes := state.wrongTimes ++ [state.now] }

def advance (state : State) (id : Nat) (attempt : Attempt) : State :=
  match attempt.stage with
  | .checking [] => state.move id attempt .evaluating
  | .checking (key :: rest) =>
    let read := state.store.failureCount key state.now
    let moved := state.move id attempt
      (if failureThreshold ≤ read.1 then .refused
        else if rest = [] then .evaluating else .checking rest)
    { moved with store := read.2 }
  | .evaluating =>
    { (state.move id attempt (.recording attempt.keys)).mark with
      evaluations := state.evaluations ++ [⟨id, attempt.keys, state.now⟩] }
  | .recording [] => state.move id attempt .ended
  | .recording (key :: rest) =>
    let recorded := state.store.recordFailure key state.now
    let moved := state.move id attempt
      (if recorded.2 then .expiring key rest else afterRecord rest)
    { moved.mark with store := recorded.1 }
  | .expiring key rest =>
    { (state.move id attempt (afterRecord rest)).mark with store := state.store.expire key state.now }
  | _ => state

/-- The dictionary ends with its process, and so do all attempts: a counter of Redis stays, and
so do the attempts of the other processes. -/
def halt (state : State) (id : Nat) (attempt : Attempt) : State :=
  match state.store with
  | .inMemory _ => { state with store := .inMemory ∅, attempts := state.attempts.map Attempt.halted }
  | .redis _ => state.move id attempt .stopped

def perform (operatorUserId : Nat) (state : State) : Action → State
  | .start sourceIp codeHash =>
    let keys := rateLimitKeys operatorUserId sourceIp codeHash
    { state with attempts := state.attempts ++ [⟨keys, .checking keys⟩] }
  | .step id =>
    match state.attempts[id]? with
    | some attempt => state.advance id attempt
    | none => state
  | .stop id =>
    match state.attempts[id]? with
    | some attempt => if attempt.stage.active then state.halt id attempt else state
    | none => state

/-- The clock does not go back: there is no event before the last one. -/
def next (operatorUserId : Nat) (state : State) (event : Event) : State :=
  if state.now ≤ event.time then perform operatorUserId { state with now := event.time } event.action
  else state

def initial (store : FailureStore) (now : ℚ) : State := ⟨now, store, [], [], []⟩

end State

inductive Backend where
  | memory
  | redis

def FailureStore.empty : Backend → FailureStore
  | .memory => .inMemory ∅
  | .redis => .redis ∅

end InfrasafeBot.AccessControl.CodeRateLimit
