import InfrasafeBot.Library.Machine

/-! Workers that go through the statements of their transactions over one committed store,
in any order. A stage is what a worker does next, with what it has read and written so far;
it may hold locks, which make the others wait. The rules below get an invariant of every
interleaving from what one statement keeps. -/

set_option autoImplicit false

namespace InfrasafeBot.Library

open Machine

/-- The transactions of a program. A statement reads the committed store and may commit. -/
structure Program (Store Stage Call Key : Type) where
  idle : Stage
  start : Call → Stage
  /-- The worker is done with its last call. -/
  free : Stage → Bool
  perform : Store → Stage → Store × Stage
  locks : Stage → List Key
  idle_unlocked : locks idle = []
  start_unlocked : ∀ call, locks (start call) = []

namespace Program

structure State (Store Stage : Type) (n : Nat) where
  store : Store
  workers : Fin n → Stage

inductive Event (Call : Type) (n : Nat) where
  | call (worker : Fin n) (call : Call)
  | step (worker : Fin n)
  | fail (worker : Fin n)

variable {Store Stage : Type} {n : Nat} {Call Key : Type}

section

variable (program : Program Store Stage Call Key)

def Apart (stage other : Stage) : Prop := ∀ key ∈ program.locks stage, key ∉ program.locks other

variable {program}

theorem Apart.symm {stage other : Stage} (apart : program.Apart stage other) : program.Apart other stage :=
  fun key held own => apart key own held

theorem apart_of_unlocked {stage other : Stage} (unlocked : program.locks stage = []) :
    program.Apart stage other := by
  intro key held
  rw [unlocked] at held
  cases held

end

namespace State

def put (state : State Store Stage n) (worker : Fin n) (stage : Stage) : State Store Stage n :=
  { state with workers := Function.update state.workers worker stage }

@[simp] theorem put_store (state : State Store Stage n) (worker : Fin n) (stage : Stage) :
    (state.put worker stage).store = state.store := rfl

@[simp] theorem put_self (state : State Store Stage n) (worker : Fin n) (stage : Stage) :
    (state.put worker stage).workers worker = stage := by
  simp only [put, Function.update_self]

theorem put_of_ne {state : State Store Stage n} {worker other : Fin n} {stage : Stage}
    (different : other ≠ worker) :
    (state.put worker stage).workers other = state.workers other := by
  simp only [put, Function.update_of_ne different]

end State

section

variable [DecidableEq Key] (program : Program Store Stage Call Key)

instance apartDecidable (stage other : Stage) : Decidable (program.Apart stage other) :=
  inferInstanceAs (Decidable (∀ key ∈ program.locks stage, key ∉ program.locks other))

def Enters (state : State Store Stage n) (worker : Fin n) (stage : Stage) : Prop :=
  ∀ other, other ≠ worker → program.Apart stage (state.workers other)

instance entersDecidable (state : State Store Stage n) (worker : Fin n) (stage : Stage) :
    Decidable (program.Enters state worker stage) :=
  inferInstanceAs (Decidable (∀ other, other ≠ worker → program.Apart stage (state.workers other)))

/-- A worker whose next stage needs a lock that another holds waits for it. -/
def next (state : State Store Stage n) : Event Call n → State Store Stage n
  | .call worker call =>
    if program.free (state.workers worker) then state.put worker (program.start call)
    else state
  | .step worker =>
    let performed := program.perform state.store (state.workers worker)
    if program.Enters state worker performed.2 then
      { state.put worker performed.2 with store := performed.1 }
    else state
  | .fail worker => state.put worker program.idle

theorem store_next (state : State Store Stage n) (event : Event Call n) :
    (program.next state event).store = state.store ∨
      ∃ worker, event = .step worker ∧ (program.next state event).store =
        (program.perform state.store (state.workers worker)).1 := by
  cases event with
  | call worker call =>
    simp only [next]
    split
    · exact .inl rfl
    · exact .inl rfl
  | step worker =>
    simp only [next]
    split
    · exact .inr ⟨worker, rfl, rfl⟩
    · exact .inl rfl
  | fail worker => exact .inl rfl

def initial (store : Store) : State Store Stage n := ⟨store, fun _ => program.idle⟩

def Allows (allowed : Store → Stage → Prop) (peaceful : Store → Stage → Stage → Prop)
    (state : State Store Stage n) : Event Call n → Prop
  | .step worker =>
    allowed state.store (state.workers worker) ∧
      ∀ other, other ≠ worker → peaceful state.store (state.workers worker) (state.workers other)
  | _ => True

def Regardless (_ : Store) (_ _ : Stage) : Prop := True

def Anytime (_ : Store) (_ : Stage) : Prop := True

instance regardlessDecidable (store : Store) (stage other : Stage) :
    Decidable (Regardless store stage other) :=
  .isTrue trivial

section

variable (allowed : Store → Stage → Prop) (peaceful : Store → Stage → Stage → Prop)

instance allowsDecidable [∀ store stage, Decidable (allowed store stage)]
    [∀ store stage other, Decidable (peaceful store stage other)] (state : State Store Stage n)
    (event : Event Call n) : Decidable (Allows allowed peaceful state event) := by
  cases event with
  | step worker =>
    exact inferInstanceAs (Decidable (allowed state.store (state.workers worker) ∧
      ∀ other, other ≠ worker → peaceful state.store (state.workers worker) (state.workers other)))
  | call | fail => exact .isTrue trivial

/-- Every statement of the run is performed where it is allowed. -/
def Careful (state : State Store Stage n) (events : List (Event Call n)) : Prop :=
  Obeys program.next (Allows allowed peaceful) state events

instance carefulDecidable [∀ store stage, Decidable (allowed store stage)]
    [∀ store stage other, Decidable (peaceful store stage other)] (state : State Store Stage n)
    (events : List (Event Call n)) : Decidable (program.Careful allowed peaceful state events) :=
  inferInstanceAs (Decidable (Obeys program.next (Allows allowed peaceful) state events))

end

theorem careful_anytime (state : State Store Stage n) (events : List (Event Call n)) :
    program.Careful Anytime Regardless state events := by
  intro taken _
  cases taken.2 with
  | call | fail => exact trivial
  | step worker => exact ⟨trivial, fun _ _ => trivial⟩

/-- An invariant of the store with what each stage relies on: what one statement has to
keep, for the store, for its own worker and for the others. -/
structure Sound (allowed : Store → Stage → Prop) (peaceful : Store → Stage → Stage → Prop)
    (invariant : Store → Prop) (relies : Store → Stage → Prop) : Prop where
  idle : ∀ store, invariant store → relies store program.idle
  start : ∀ store call, invariant store → relies store (program.start call)
  step : ∀ store stage, allowed store stage → invariant store → relies store stage →
    invariant (program.perform store stage).1 ∧
      relies (program.perform store stage).1 (program.perform store stage).2
  others : ∀ store stage other, allowed store stage → invariant store → relies store stage →
    relies store other → peaceful store stage other → program.Apart stage other →
      program.Apart (program.perform store stage).2 other → relies (program.perform store stage).1 other

structure Holds (invariant : Store → Prop) (relies : Store → Stage → Prop)
    (state : State Store Stage n) : Prop where
  store : invariant state.store
  workers : ∀ worker, relies state.store (state.workers worker)
  apart : ∀ left right, left ≠ right → program.Apart (state.workers left) (state.workers right)

end

section

variable {program : Program Store Stage Call Key} {allowed : Store → Stage → Prop}
  {peaceful : Store → Stage → Stage → Prop} {invariant : Store → Prop}
  {relies : Store → Stage → Prop}

variable {stage : Stage} {state : State Store Stage n} {worker : Fin n}

theorem apart_put (apart : ∀ left right, left ≠ right →
      program.Apart (state.workers left) (state.workers right))
    (enters : program.Enters state worker stage) (left right : Fin n) (different : left ≠ right) :
    program.Apart ((state.put worker stage).workers left)
      ((state.put worker stage).workers right) := by
  by_cases leftOwn : left = worker
  · subst leftOwn
    rw [State.put_self, State.put_of_ne different.symm]
    exact enters right different.symm
  · by_cases rightOwn : right = worker
    · subst rightOwn
      rw [State.put_self, State.put_of_ne different]
      exact (enters left different).symm
    · rw [State.put_of_ne leftOwn, State.put_of_ne rightOwn]
      exact apart left right different

theorem Holds.put (held : program.Holds invariant relies state)
    (unlocked : program.locks stage = []) (own : relies state.store stage) :
    program.Holds invariant relies (state.put worker stage) where
  store := held.store
  workers := by
    intro other
    by_cases same : other = worker
    · subst same
      rw [State.put_self]
      exact own
    · rw [State.put_of_ne same]
      exact held.workers other
  apart := apart_put held.apart fun _ _ => apart_of_unlocked unlocked

namespace Sound

variable (sound : program.Sound allowed peaceful invariant relies)

include sound

theorem holds_initial {store : Store} (held : invariant store) :
    program.Holds invariant relies (program.initial store : State Store Stage n) where
  store := held
  workers := fun _ => sound.idle store held
  apart := fun _ _ _ => apart_of_unlocked program.idle_unlocked

variable [DecidableEq Key]

variable {state : State Store Stage n} {events : List (Event Call n)}
  {changes : Store → Store → Prop}

theorem holds_next (held : program.Holds invariant relies state) {event : Event Call n}
    (permitted : Allows allowed peaceful state event) :
    program.Holds invariant relies (program.next state event) := by
  cases event with
  | call worker call =>
    unfold next
    dsimp only
    split
    · exact held.put (program.start_unlocked call)
        (sound.start state.store call held.store)
    · exact held
  | fail worker => exact held.put program.idle_unlocked (sound.idle state.store held.store)
  | step worker =>
    unfold next
    dsimp only
    split
    · next enters =>
        have stepped := sound.step state.store (state.workers worker) permitted.1 held.store
          (held.workers worker)
        refine ⟨stepped.1, fun other => ?_, fun left right different =>
          apart_put held.apart enters left right different⟩
        by_cases same : other = worker
        · subst same
          rw [State.put_self]
          exact stepped.2
        · rw [State.put_of_ne same]
          exact sound.others state.store (state.workers worker) (state.workers other) permitted.1
            held.store (held.workers worker) (held.workers other) (permitted.2 other same)
            (held.apart worker other (Ne.symm same)) (enters other same)
    · exact held

theorem holds_run (held : program.Holds invariant relies state)
    (careful : program.Careful allowed peaceful state events) :
    program.Holds invariant relies (run program.next state events) :=
  run_invariant_of_obeys program.next (program.Holds invariant relies) held
    (fun _ _ permitted holds => sound.holds_next holds permitted) careful

theorem holds_trace (held : program.Holds invariant relies state)
    (careful : program.Careful allowed peaceful state events) :
    ∀ taken ∈ trace program.next state events, program.Holds invariant relies taken.1 :=
  trace_invariant_of_obeys program.next (program.Holds invariant relies) held
    (fun _ _ permitted holds => sound.holds_next holds permitted) careful

theorem steps_trace (same : ∀ store, changes store store)
    (changed : ∀ store stage, allowed store stage → invariant store → relies store stage →
      changes store (program.perform store stage).1) (held : program.Holds invariant relies state)
    (careful : program.Careful allowed peaceful state events) :
    ∀ taken ∈ trace program.next state events,
      changes taken.1.store (program.next taken.1 taken.2).store := by
  intro taken listed
  have holds := sound.holds_trace held careful taken listed
  have permitted := careful taken listed
  obtain ⟨reached, event⟩ := taken
  cases event with
  | call worker call =>
    simp only [next]
    split
    · exact same _
    · exact same _
  | fail worker => exact same _
  | step worker =>
    simp only [next]
    split
    · exact changed _ _ permitted.1 holds.store (holds.workers worker)
    · exact same _

theorem run_changes (same : ∀ store, changes store store)
    (joined : ∀ {first second third}, changes first second → changes second third → changes first third)
    (changed : ∀ store stage, allowed store stage → invariant store → relies store stage →
      changes store (program.perform store stage).1) (held : program.Holds invariant relies state)
    (careful : program.Careful allowed peaceful state events) :
    changes state.store (run program.next state events).store := by
  induction events generalizing state with
  | nil => exact same state.store
  | cons event rest ih =>
    have stepped := sound.steps_trace same changed held careful (state, event)
      List.mem_cons_self
    obtain ⟨permitted, later⟩ := (obeys_cons program.next _ state event rest).mp careful
    exact joined stepped (ih (sound.holds_next held permitted) later)

end Sound

end

end Program

end InfrasafeBot.Library
