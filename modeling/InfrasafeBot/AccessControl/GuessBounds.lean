import InfrasafeBot.AccessControl.FailureCounts
import InfrasafeBot.Library.Matching

/-! How far the lockout bounds the guessing of codes. A run keeps within the window as long as no
attempt passes the check while others have yet to count theirs, no counter of Redis is dropped
with recent failures in it, and no process stops between an evaluation and its last count. -/

set_option autoImplicit false

namespace InfrasafeBot.AccessControl.CodeRateLimit

open Library Machine SlidingWindow

def evaluationsOf (evaluations : List Evaluation) (key : String) : List Evaluation :=
  evaluations.filter fun evaluation => key ∈ evaluation.keys

def Stage.counting : Stage → Bool
  | .recording _ => true
  | .expiring _ _ => true
  | .checking _ => false
  | .evaluating => false
  | .refused => false
  | .ended => false
  | .stopped => false

/-- There is no wrong attempt, and has been none in the last 600 seconds. -/
def State.Quiet (state : State) : Prop :=
  (∀ attempt ∈ state.attempts, attempt.stage.counting = false) ∧
    ∀ time ∈ state.wrongTimes, time ≤ state.now - failureWindowSeconds

/-- The step with which `is_blocked` answers an attempt with yes. -/
def State.Blocks (operatorUserId : Nat) (state : State) (event : Event) : Prop :=
  ∃ id, event.action = .step id ∧ state.now ≤ event.time ∧
    (∃ attempt ∈ state.attempts[id]?, attempt.stage.active = true) ∧
    ∃ attempt ∈ (state.next operatorUserId event).attempts[id]?, attempt.stage = .refused

def GuessesBounded (operatorUserId : Nat) (start : State) (events : List Event) : Prop :=
  (∀ key moment, within Evaluation.time failureWindowSeconds moment
    (evaluationsOf (run (State.next operatorUserId) start events).evaluations key) ≤ failureThreshold) ∧
  ∀ taken ∈ trace (State.next operatorUserId) start events,
    taken.1.Blocks operatorUserId taken.2 → ¬ State.Quiet { taken.1 with now := taken.2.time }

def Attempt.cleared (key : String) (attempt : Attempt) : Bool :=
  decide (key ∈ attempt.keys) &&
    match attempt.stage with
    | .checking rest => decide (key ∉ rest)
    | .evaluating => true
    | _ => false

def Attempt.owes (key : String) (attempt : Attempt) : Bool :=
  match attempt.stage with
  | .recording rest => decide (key ∈ rest)
  | .expiring _ rest => decide (key ∈ rest)
  | _ => false

/-- Nothing that a dropped counter has counted is in the window: what is evaluated there has yet
to be counted. -/
def State.Remembers (state : State) (key : String) : Prop :=
  state.store.lapsed key state.now = true →
    since Evaluation.time (state.now - failureWindowSeconds) (evaluationsOf state.evaluations key) ≤
      state.attempts.countP (Attempt.owes key)

/-- A check that passes leaves room for the attempts that are not counted yet. -/
def StepAllowed (state : State) : Stage → Prop
  | .checking (key :: _) =>
    state.Remembers key ∧
      (failureThreshold ≤ (state.store.failureCount key state.now).1 ∨
        (state.store.failureCount key state.now).1 +
          state.attempts.countP (Attempt.cleared key) +
          state.attempts.countP (Attempt.owes key) < failureThreshold)
  | .recording (key :: _) => state.Remembers key
  | _ => True

/-- A process stops when none of its evaluations has still to be counted. -/
def StopAllowed (state : State) (id : Nat) : FailureStore → Prop
  | .inMemory _ => ∀ evaluation ∈ state.evaluations, evaluation.time ≤ state.now - failureWindowSeconds
  | .redis _ => ∀ attempt ∈ state.attempts[id]?, attempt.stage.counting = false

def ActionAllowed (state : State) : Action → Prop
  | .start _ _ => True
  | .step id => ∀ attempt ∈ state.attempts[id]?, StepAllowed state attempt.stage
  | .stop id => StopAllowed state id state.store

def Allowed (state : State) (event : Event) : Prop :=
  ActionAllowed { state with now := event.time } event.action

instance (state : State) (key : String) : Decidable (state.Remembers key) :=
  inferInstanceAs (Decidable (_ → _))

instance (state : State) : (stage : Stage) → Decidable (StepAllowed state stage)
  | .checking [] => .isTrue trivial
  | .checking (_ :: _) => inferInstanceAs (Decidable (_ ∧ _))
  | .evaluating => .isTrue trivial
  | .recording [] => .isTrue trivial
  | .recording (key :: _) => inferInstanceAs (Decidable (state.Remembers key))
  | .expiring _ _ => .isTrue trivial
  | .refused => .isTrue trivial
  | .ended => .isTrue trivial
  | .stopped => .isTrue trivial

instance (state : State) (id : Nat) : (store : FailureStore) → Decidable (StopAllowed state id store)
  | .inMemory _ => inferInstanceAs (Decidable (∀ _ ∈ state.evaluations, _))
  | .redis _ => inferInstanceAs (Decidable (∀ _ ∈ state.attempts[id]?, _))

instance (state : State) : (action : Action) → Decidable (ActionAllowed state action)
  | .start _ _ => .isTrue trivial
  | .step id => inferInstanceAs (Decidable (∀ _ ∈ state.attempts[id]?, _))
  | .stop id => inferInstanceAs (Decidable (StopAllowed state id state.store))

instance (state : State) (event : Event) : Decidable (Allowed state event) :=
  inferInstanceAs (Decidable (ActionAllowed _ _))

def Awaits (attempts : List Attempt) (key : String) : Prop :=
  ∃ attempt ∈ attempts, ∃ rest, attempt.stage = .expiring key rest

def Stage.rest : Stage → List String
  | .checking rest => rest
  | .recording rest => rest
  | .expiring _ rest => rest
  | _ => []

/-- What a run keeps: the codes evaluated in the window, with those cleared for it, are within the
threshold, and the store remembers each of the former that no attempt has still to count. -/
structure Accounted (state : State) : Prop where
  timely : ∀ evaluation ∈ state.evaluations, evaluation.time ≤ state.now
  bounded : ∀ key moment, within Evaluation.time failureWindowSeconds moment
    (evaluationsOf state.evaluations key) ≤ failureThreshold
  roomy : ∀ key, since Evaluation.time (state.now - failureWindowSeconds)
    (evaluationsOf state.evaluations key) + state.attempts.countP (Attempt.cleared key) ≤ failureThreshold
  counted : ∀ key later, state.now ≤ later →
    since Evaluation.time (later - failureWindowSeconds) (evaluationsOf state.evaluations key) ≤
      state.store.remembered key later + state.attempts.countP (Attempt.owes key)
  ordered : ∀ attempt ∈ state.attempts, attempt.keys.Nodup ∧ attempt.stage.rest.Nodup
  traced : state.store.Traced (· ∈ state.wrongTimes) (Awaits state.attempts)

variable {state : State} {id : Nat} {attempt : Attempt} {stage : Stage} {key : String}

theorem owes_afterRecord (key : String) (keys rest : List String) :
    Attempt.owes key ⟨keys, afterRecord rest⟩ = decide (key ∈ rest) := by
  cases rest with
  | nil | cons => rfl

theorem cleared_afterRecord (key : String) (keys rest : List String) :
    Attempt.cleared key ⟨keys, afterRecord rest⟩ = false := by
  cases rest with
  | nil | cons => exact Bool.and_false _

theorem nodup_afterRecord {rest : List String} (nodup : rest.Nodup) : (afterRecord rest).rest.Nodup := by
  cases rest with
  | nil => exact List.nodup_nil
  | cons first rest => exact nodup

/-! The stage after a failure has been recorded, with a second command or without. -/

theorem owes_recorded (second : Bool) (key other : String) (keys rest : List String) :
    Attempt.owes other ⟨keys, if second = true then .expiring key rest else afterRecord rest⟩ =
      decide (other ∈ rest) := by
  split
  · rfl
  · exact owes_afterRecord other keys rest

theorem cleared_recorded (second : Bool) (key other : String) (keys rest : List String) :
    Attempt.cleared other ⟨keys, if second = true then .expiring key rest else afterRecord rest⟩ =
      false := by
  split
  · exact Bool.and_false _
  · exact cleared_afterRecord other keys rest

theorem nodup_recorded {rest : List String} (nodup : rest.Nodup) (second : Bool) (key : String) :
    (if second = true then Stage.expiring key rest else afterRecord rest).rest.Nodup := by
  split
  · exact nodup
  · exact nodup_afterRecord nodup

theorem active_halted (attempt : Attempt) : attempt.halted.stage.active = false := by
  unfold Attempt.halted
  split
  · rfl
  · next inactive => exact Bool.eq_false_of_not_eq_true inactive

theorem cleared_of_inactive (key : String) (inactive : attempt.stage.active = false) :
    attempt.cleared key = false := by
  unfold Attempt.cleared
  split
  · next standing => simp [standing, Stage.active] at inactive
  · next standing => simp [standing, Stage.active] at inactive
  · exact Bool.and_false _

theorem rest_of_inactive (inactive : stage.active = false) : stage.rest = [] := by
  cases stage with
  | refused | ended | stopped | evaluating => rfl
  | checking | recording | expiring => cases inactive

theorem owes_of_not_counting (key : String) (idle : attempt.stage.counting = false) :
    attempt.owes key = false := by
  unfold Attempt.owes
  split
  · next standing => simp [standing, Stage.counting] at idle
  · next standing => simp [standing, Stage.counting] at idle
  · rfl

theorem evaluationsOf_concat (evaluations : List Evaluation) (last : Evaluation) (key : String) :
    evaluationsOf (evaluations ++ [last]) key =
      if key ∈ last.keys then evaluationsOf evaluations key ++ [last]
      else evaluationsOf evaluations key := by
  unfold evaluationsOf
  rw [List.filter_append, List.filter_singleton]
  split
  · next listed => rw [decide_eq_true listed, cond_true]
  · next unlisted => rw [decide_eq_false unlisted, cond_false, List.append_nil]

theorem since_concat_le (cutoff : ℚ) (evaluations : List Evaluation) (last : Evaluation) :
    since Evaluation.time cutoff (evaluations ++ [last]) ≤
      since Evaluation.time cutoff evaluations + 1 := by
  unfold since
  rw [List.countP_append]
  exact Nat.add_le_add_left List.countP_le_length _

theorem Awaits.set {attempts : List Attempt} (awaits : Awaits attempts key)
    (found : attempts[id]? = some attempt) (elsewhere : ∀ rest, attempt.stage ≠ .expiring key rest)
    (after : Attempt) : Awaits (attempts.set id after) key := by
  obtain ⟨other, listed, rest, expires⟩ := awaits
  obtain ⟨index, at_index⟩ := List.mem_iff_getElem?.mp listed
  have different : id ≠ index := by
    rintro rfl
    obtain rfl : attempt = other := Option.some.inj (found.symm.trans at_index)
    exact elsewhere rest expires
  refine ⟨other, List.mem_of_getElem? (i := index) ?_, rest, expires⟩
  rwa [List.getElem?_set_ne different]

theorem Accounted.tick (accounted : Accounted state) {time : ℚ} (later : state.now ≤ time) :
    Accounted { state with now := time } where
  timely evaluation listed := (accounted.timely evaluation listed).trans later
  bounded := accounted.bounded
  roomy key := by
    refine Nat.le_trans (Nat.add_le_add_right ?_ _) (accounted.roomy key)
    exact since_anti (sub_le_sub_right later failureWindowSeconds)
  counted key moment after := accounted.counted key moment (later.trans after)
  ordered := accounted.ordered
  traced := accounted.traced

theorem Accounted.moved (accounted : Accounted state) (found : state.attempts[id]? = some attempt)
    {store : FailureStore} {wrongTimes : List ℚ}
    (room : ∀ key, attempt.cleared key = false →
      Attempt.cleared key { attempt with stage := stage } = true →
      since Evaluation.time (state.now - failureWindowSeconds)
        (evaluationsOf state.evaluations key) +
          state.attempts.countP (Attempt.cleared key) < failureThreshold)
    (counts : ∀ key later, state.now ≤ later →
      since Evaluation.time (later - failureWindowSeconds) (evaluationsOf state.evaluations key) +
          (attempt.owes key).toNat ≤
        store.remembered key later + state.attempts.countP (Attempt.owes key) +
          (Attempt.owes key { attempt with stage := stage }).toNat)
    (ordered : stage.rest.Nodup)
    (traced : store.Traced (· ∈ wrongTimes)
      (Awaits (state.attempts.set id { attempt with stage := stage }))) :
    Accounted ⟨state.now, store, state.attempts.set id { attempt with stage := stage },
      state.evaluations, wrongTimes⟩ where
  timely := accounted.timely
  bounded := accounted.bounded
  roomy key := by
    have moved := countP_set_add found (Attempt.cleared key) { attempt with stage := stage }
    have before := accounted.roomy key
    have pass := room key
    dsimp only
    cases was : attempt.cleared key
    · cases is : Attempt.cleared key { attempt with stage := stage }
      · rw [was, is] at moved
        omega
      · have free := pass was is
        rw [was, is, Bool.toNat_false, Bool.toNat_true] at moved
        omega
    · have one := Bool.toNat_le (Attempt.cleared key { attempt with stage := stage })
      rw [was, Bool.toNat_true] at moved
      omega
  counted key later after := by
    have moved := countP_set_add found (Attempt.owes key) { attempt with stage := stage }
    have bound := counts key later after
    dsimp only at after ⊢
    omega
  ordered other listed := by
    rcases List.mem_or_eq_of_mem_set listed with before | rfl
    · exact accounted.ordered other before
    · exact ⟨(accounted.ordered attempt (List.mem_of_getElem? found)).1, ordered⟩
  traced := traced

section

variable {rest : List String} (accounted : Accounted state)
  (found : state.attempts[id]? = some attempt)

include found in
theorem traced_set {store : FailureStore}
    (traced : store.Traced (· ∈ state.wrongTimes) (Awaits state.attempts))
    (elsewhere : ∀ key rest, attempt.stage ≠ .expiring key rest) (after : Attempt) :
    store.Traced (· ∈ state.wrongTimes) (Awaits (state.attempts.set id after)) :=
  traced.mono (fun _ listed => listed) fun key awaits => awaits.set found (elsewhere key) after

include accounted in
theorem Accounted.since_le_failureCount (remembers : state.Remembers key) :
    since Evaluation.time (state.now - failureWindowSeconds) (evaluationsOf state.evaluations key) ≤
      (state.store.failureCount key state.now).1 + state.attempts.countP (Attempt.owes key) := by
  rw [FailureStore.failureCount_eq]
  split
  · next lapsed => exact (Nat.zero_add _).symm ▸ remembers lapsed
  · exact accounted.counted key state.now le_rfl

include accounted found in
theorem Accounted.checked (standing : attempt.stage = .checking []) :
    Accounted (state.advance id attempt) := by
  simp only [State.advance, standing]
  refine accounted.moved found ?_ ?_ List.nodup_nil ?_
  · intro key was is
    simp_all [Attempt.cleared]
  · intro key later after
    have bound := accounted.counted key later after
    simp only [Attempt.owes, standing]
    exact bound
  · exact traced_set found accounted.traced (by simp [standing]) _

include accounted found in
theorem Accounted.check (standing : attempt.stage = .checking (key :: rest))
    (allowed : StepAllowed state (.checking (key :: rest))) :
    Accounted (state.advance id attempt) := by
  obtain ⟨remembers, room⟩ := allowed
  have bound := accounted.since_le_failureCount remembers
  obtain ⟨_, nodup⟩ := accounted.ordered attempt (List.mem_of_getElem? found)
  rw [standing] at nodup
  have traced := accounted.traced.failureCount key state.now
  have counts : ∀ {stage : Stage},
      (∀ other, Attempt.owes other { attempt with stage := stage } = false) → ∀ other later,
      state.now ≤ later →
        since Evaluation.time (later - failureWindowSeconds)
            (evaluationsOf state.evaluations other) + (attempt.owes other).toNat ≤
          (state.store.failureCount key state.now).2.remembered other later +
            state.attempts.countP (Attempt.owes other) +
              (Attempt.owes other { attempt with stage := stage }).toNat := by
    intro stage free other later after
    rw [free, FailureStore.remembered_failureCount after]
    simp only [Attempt.owes, standing]
    exact accounted.counted other later after
  simp only [State.advance, standing]
  by_cases blocks : failureThreshold ≤ (state.store.failureCount key state.now).1
  · rw [if_pos blocks]
    refine accounted.moved found ?_ ?_ List.nodup_nil ?_
    · intro other was is
      simp [Attempt.cleared] at is
    · exact counts (by simp [Attempt.owes])
    · exact traced_set found traced (by simp [standing]) _
  · rw [if_neg blocks]
    refine accounted.moved found ?_ ?_ ?_ ?_
    · intro other was is
      have free : other ∈ attempt.keys ∧ other ∉ rest := by
        split at is <;> simp_all [Attempt.cleared]
      obtain rfl : other = key := by
        by_contra different
        simp [Attempt.cleared, standing, different, free] at was
      have passes := room.resolve_left blocks
      omega
    · exact counts (by split <;> simp [Attempt.owes])
    · split
      · exact List.nodup_nil
      · exact nodup.of_cons
    · exact traced_set found traced (by simp [standing]) _
include accounted found in
theorem Accounted.counted_last (standing : attempt.stage = .recording []) :
    Accounted (state.advance id attempt) := by
  simp only [State.advance, standing]
  refine accounted.moved found ?_ ?_ List.nodup_nil ?_
  · intro key _ is
    simp [Attempt.cleared] at is
  · intro key later after
    simp only [Attempt.owes, standing, List.not_mem_nil, decide_false]
    exact accounted.counted key later after
  · exact traced_set found accounted.traced (by simp [standing]) _

include accounted in
theorem Accounted.since_le_recordFailure (remembers : state.Remembers key) (owed : Nat)
    (owes : state.attempts.countP (Attempt.owes key) = owed + 1) {later : ℚ}
    (after : state.now ≤ later) :
    since Evaluation.time (later - failureWindowSeconds) (evaluationsOf state.evaluations key) ≤
      (state.store.recordFailure key state.now).1.remembered key later + owed := by
  by_cases inside : later - failureWindowSeconds < state.now
  · rw [FailureStore.remembered_recordFailure after inside]
    split
    · next lapsed =>
        have older := @since_anti ℚ Evaluation _ Evaluation.time _ _
          (evaluationsOf state.evaluations key) (sub_le_sub_right after failureWindowSeconds)
        have recent := remembers lapsed
        omega
    · have bound := accounted.counted key later after
      omega
  · have none : since Evaluation.time (later - failureWindowSeconds)
        (evaluationsOf state.evaluations key) = 0 := by
      refine List.countP_eq_zero.mpr fun evaluation listed newer => inside ?_
      have timely := accounted.timely evaluation (List.mem_of_mem_filter listed)
      exact lt_of_lt_of_le (of_decide_eq_true newer) timely
    omega

include accounted found in
theorem Accounted.count (standing : attempt.stage = .recording (key :: rest))
    (remembers : state.Remembers key) : Accounted (state.advance id attempt) := by
  obtain ⟨_, nodup⟩ := accounted.ordered attempt (List.mem_of_getElem? found)
  rw [standing] at nodup
  obtain ⟨fresh, nodup⟩ := List.nodup_cons.mp nodup
  have mem := List.mem_of_getElem? found
  have owing : 0 < state.attempts.countP (Attempt.owes key) :=
    List.countP_pos_iff.mpr ⟨attempt, mem, by simp [Attempt.owes, standing]⟩
  obtain ⟨owed, owes⟩ := Nat.exists_eq_add_one_of_ne_zero owing.ne'
  have moved : state.advance id attempt = ⟨state.now, (state.store.recordFailure key state.now).1,
      state.attempts.set id { attempt with
        stage := if (state.store.recordFailure key state.now).2 = true then .expiring key rest
          else afterRecord rest },
      state.evaluations, state.wrongTimes ++ [state.now]⟩ := by
    simp only [State.advance, standing]
    rfl
  rw [moved]
  refine accounted.moved found ?_ ?_ (nodup_recorded nodup _ key) ?_
  · intro other _ is
    rw [cleared_recorded] at is
    cases is
  · intro other later since_now
    rw [owes_recorded]
    by_cases same : other = key
    · subst same
      have bound := accounted.since_le_recordFailure remembers owed owes since_now
      simp only [Attempt.owes, standing, List.mem_cons_self, decide_true, Bool.toNat_true, fresh,
        decide_false, Bool.toNat_false]
      omega
    · rw [FailureStore.remembered_recordFailure_of_ne since_now same]
      have bound := accounted.counted other later since_now
      simp only [Attempt.owes, standing, List.mem_cons, same, false_or]
      omega
  · refine FailureStore.Traced.recordFailure (accounted.traced.mono ?_ ?_) ?_ ?_
    · exact fun time listed => List.mem_append_left _ listed
    · exact fun other awaits => awaits.set found (by simp [standing]) _
    · exact List.mem_append_right _ List.mem_cons_self
    · intro made
      have index := (List.getElem?_eq_some_iff.mp found).1
      refine ⟨_, List.mem_set index _, rest, ?_⟩
      rw [if_pos made]

include accounted found in
theorem Accounted.setLifetime (standing : attempt.stage = .expiring key rest) :
    Accounted (state.advance id attempt) := by
  obtain ⟨_, nodup⟩ := accounted.ordered attempt (List.mem_of_getElem? found)
  rw [standing] at nodup
  have moved : state.advance id attempt = ⟨state.now, state.store.expire key state.now,
      state.attempts.set id { attempt with stage := afterRecord rest }, state.evaluations,
      state.wrongTimes ++ [state.now]⟩ := by
    simp only [State.advance, standing]
    rfl
  rw [moved]
  refine accounted.moved found ?_ ?_ (nodup_afterRecord nodup) ?_
  · intro other _ is
    simp [cleared_afterRecord] at is
  · intro other later after
    rw [owes_afterRecord, FailureStore.remembered_expire]
    have bound := accounted.counted other later after
    simp only [Attempt.owes, standing]
    omega
  · refine FailureStore.Traced.expire (accounted.traced.mono ?_ fun _ awaits => awaits) ?_ ?_
    · exact fun time listed => List.mem_append_left _ listed
    · exact List.mem_append_right _ List.mem_cons_self
    · intro other different awaits
      exact awaits.set found (by simp [standing, different.symm]) _

include accounted found in
/-- The codes evaluated in the window and those cleared for it stay within the threshold: the
evaluation turns one of the latter into one of the former. -/
theorem Accounted.evaluate (standing : attempt.stage = .evaluating) :
    Accounted (state.advance id attempt) := by
  obtain ⟨nodup, _⟩ := accounted.ordered attempt (List.mem_of_getElem? found)
  have moved : state.advance id attempt = ⟨state.now, state.store,
      state.attempts.set id { attempt with stage := .recording attempt.keys },
      state.evaluations ++ [⟨id, attempt.keys, state.now⟩], state.wrongTimes ++ [state.now]⟩ := by
    simp only [State.advance, standing]
    rfl
  rw [moved]
  have cleared (key : String) := countP_set_add found (Attempt.cleared key)
    { attempt with stage := .recording attempt.keys }
  have owes (key : String) := countP_set_add found (Attempt.owes key)
    { attempt with stage := .recording attempt.keys }
  simp only [Attempt.cleared, Attempt.owes, standing, Bool.and_true, Bool.and_false,
    Bool.toNat_false, Nat.add_zero] at cleared owes
  refine ⟨?_, ?_, ?_, ?_, ?_, ?_⟩
  · intro evaluation listed
    rcases List.mem_append.mp listed with before | last
    · exact accounted.timely evaluation before
    · rw [List.mem_singleton.mp last]
  · intro key
    dsimp only
    rw [evaluationsOf_concat]
    split
    · next listed =>
        refine within_concat_le (accounted.bounded key) ?_
        have room := accounted.roomy key
        have one := cleared key
        rw [decide_eq_true listed, Bool.toNat_true] at one
        have free : since Evaluation.time (state.now - failureWindowSeconds)
          (evaluationsOf state.evaluations key) < failureThreshold := by omega
        exact free
    · exact accounted.bounded key
  · intro key
    dsimp only
    rw [evaluationsOf_concat]
    have room := accounted.roomy key
    have one := cleared key
    split
    · next listed =>
        have grown := since_concat_le (state.now - failureWindowSeconds)
          (evaluationsOf state.evaluations key) ⟨id, attempt.keys, state.now⟩
        rw [decide_eq_true listed, Bool.toNat_true] at one
        omega
    · next unlisted =>
        rw [decide_eq_false unlisted, Bool.toNat_false] at one
        omega
  · intro key later after
    dsimp only
    rw [evaluationsOf_concat]
    have bound := accounted.counted key later after
    have one := owes key
    split
    · next listed =>
        have grown := since_concat_le (later - failureWindowSeconds)
          (evaluationsOf state.evaluations key) ⟨id, attempt.keys, state.now⟩
        rw [decide_eq_true listed, Bool.toNat_true] at one
        omega
    · next unlisted =>
        rw [decide_eq_false unlisted, Bool.toNat_false] at one
        omega
  · intro other listed
    rcases List.mem_or_eq_of_mem_set listed with before | rfl
    · exact accounted.ordered other before
    · exact ⟨nodup, nodup⟩
  · refine accounted.traced.mono ?_ ?_
    · exact fun time listed => List.mem_append_left _ listed
    · exact fun other awaits => awaits.set found (by simp [standing]) _

include accounted found in
theorem Accounted.advance (allowed : StepAllowed state attempt.stage) :
    Accounted (state.advance id attempt) := by
  rcases standing : attempt.stage with ⟨_ | _⟩ | _ | ⟨_ | _⟩ | _ | _ | _ | _
  · exact accounted.checked found standing
  · exact accounted.check found standing (standing ▸ allowed)
  · exact accounted.evaluate found standing
  · exact accounted.counted_last found standing
  · rw [standing] at allowed
    exact accounted.count found standing allowed
  · exact accounted.setLifetime found standing
  all_goals
    simp only [State.advance, standing]
    exact accounted

include accounted in
theorem Accounted.start {keys : List String} (nodup : keys.Nodup) :
    Accounted { state with attempts := state.attempts ++ [⟨keys, .checking keys⟩] } where
  timely := accounted.timely
  bounded := accounted.bounded
  roomy key := by
    have room := accounted.roomy key
    simpa [Attempt.cleared] using room
  counted key later after := by
    have bound := accounted.counted key later after
    simpa [Attempt.owes] using bound
  ordered attempt listed := by
    rcases List.mem_append.mp listed with before | last
    · exact accounted.ordered attempt before
    · rw [List.mem_singleton.mp last]
      exact ⟨nodup, nodup⟩
  traced := accounted.traced.mono (fun _ listed => listed) fun _ awaits => by
    obtain ⟨attempt, listed, expires⟩ := awaits
    exact ⟨attempt, List.mem_append_left _ listed, expires⟩

include accounted in
theorem Accounted.forget
    (old : ∀ evaluation ∈ state.evaluations, evaluation.time ≤ state.now - failureWindowSeconds) :
    Accounted { state with store := .inMemory ∅, attempts := state.attempts.map Attempt.halted } := by
  have none : ∀ key later, state.now ≤ later →
      since Evaluation.time (later - failureWindowSeconds)
        (evaluationsOf state.evaluations key) = 0 := by
    intro key later after
    refine List.countP_eq_zero.mpr fun evaluation listed newer => ?_
    have older := old evaluation (List.mem_of_mem_filter listed)
    have moved := sub_le_sub_right after failureWindowSeconds
    exact absurd (of_decide_eq_true newer) (not_lt.mpr (older.trans moved))
  refine ⟨accounted.timely, accounted.bounded, ?_, ?_, ?_, ?_⟩
  · intro key
    have clear : (state.attempts.map Attempt.halted).countP (Attempt.cleared key) = 0 := by
      refine List.countP_eq_zero.mpr fun attempt listed => ?_
      obtain ⟨before, _, rfl⟩ := List.mem_map.mp listed
      rw [cleared_of_inactive key (active_halted before)]
      exact Bool.false_ne_true
    have empty := none key state.now le_rfl
    dsimp only
    omega
  · intro key later after
    rw [none key later after]
    exact Nat.zero_le _
  · intro attempt listed
    obtain ⟨before, member, rfl⟩ := List.mem_map.mp listed
    rw [rest_of_inactive (active_halted before)]
    have same : before.halted.keys = before.keys := by
      unfold Attempt.halted
      split <;> rfl
    exact ⟨same ▸ (accounted.ordered before member).1, List.nodup_nil⟩
  · intro key time listed
    cases listed

include accounted found in
theorem Accounted.stop (idle : attempt.stage.counting = false) :
    Accounted (state.move id attempt .stopped) := by
  refine accounted.moved found ?_ ?_ List.nodup_nil ?_
  · intro key _ is
    simp [Attempt.cleared] at is
  · intro key later after
    rw [owes_of_not_counting key idle]
    exact accounted.counted key later after
  · refine traced_set found accounted.traced (fun key rest expires => ?_) _
    rw [expires] at idle
    cases idle

end

theorem nodup_rateLimitKeys (operatorUserId : Nat) (sourceIp : Option String) (codeHash : String) :
    (rateLimitKeys operatorUserId sourceIp codeHash).Nodup := by
  unfold rateLimitKeys
  simp only [List.nodup_cons, List.mem_cons, List.not_mem_nil, or_false, not_or, not_false_eq_true,
    List.nodup_nil, and_true]
  refine ⟨⟨fun same => ?_, fun same => ?_⟩, fun same => ?_⟩
  all_goals
    have heads := congrArg (fun text => text.toList.head?) same
    simp [toString] at heads

variable {operatorUserId : Nat} {event : Event}

theorem Accounted.perform (accounted : Accounted state) {action : Action}
    (allowed : ActionAllowed state action) : Accounted (state.perform operatorUserId action) := by
  cases action with
  | start sourceIp codeHash => exact accounted.start (nodup_rateLimitKeys _ _ _)
  | step id =>
    rcases found : state.attempts[id]? with _ | attempt
    · simpa [State.perform, found] using accounted
    · simp only [State.perform, found]
      exact accounted.advance found (allowed attempt found)
  | stop id =>
    rcases found : state.attempts[id]? with _ | attempt
    · simpa [State.perform, found] using accounted
    · simp only [State.perform, found]
      split
      · have permitted : StopAllowed state id state.store := allowed
        unfold State.halt
        split
        · next events memory => exact accounted.forget (by simpa [StopAllowed, memory] using permitted)
        · next counters redis =>
            rw [redis] at permitted
            exact accounted.stop found (permitted attempt found)
      · exact accounted

theorem Accounted.next (accounted : Accounted state) (allowed : Allowed state event) :
    Accounted (state.next operatorUserId event) := by
  unfold State.next
  split
  · next later => exact (accounted.tick later).perform allowed
  · exact accounted

theorem Accounted.initial (backend : Backend) (now : ℚ) : Accounted (.initial (.empty backend) now) where
  timely _ listed := by cases listed
  bounded _ _ := Nat.zero_le _
  roomy _ := Nat.zero_le _
  counted _ _ _ := Nat.zero_le _
  ordered _ listed := by cases listed
  traced := by
    cases backend with
    | memory => exact fun key time listed => by cases listed
    | redis => exact fun key counter found => by cases found

theorem blocked_of_refused (found : state.attempts[id]? = some attempt)
    (active : attempt.stage.active = true) {after : Attempt}
    (moved : (state.advance id attempt).attempts[id]? = some after)
    (refused : after.stage = .refused) :
    ∃ key, failureThreshold ≤ (state.store.failureCount key state.now).1 := by
  have index := (List.getElem?_eq_some_iff.mp found).1
  have only : ∀ {stage : Stage}, (state.attempts.set id { attempt with stage := stage })[id]? =
      some after → stage = .refused := by
    intro stage set
    rw [List.getElem?_set_self index] at set
    cases set
    exact refused
  rcases standing : attempt.stage with ⟨_ | ⟨key, rest⟩⟩ | _ | ⟨_ | ⟨key, rest⟩⟩ | ⟨key, rest⟩ | _ | _ | _
  all_goals simp only [State.advance, standing] at moved
  · cases only moved
  · have stage := only moved
    by_contra free
    rw [if_neg fun blocked => free ⟨key, blocked⟩] at stage
    split at stage <;> cases stage
  · cases only moved
  · cases only moved
  · have stage := only moved
    split at stage
    · cases stage
    · cases rest <;> cases stage
  · have stage := only moved
    cases rest <;> cases stage
  all_goals
    rw [standing] at active
    cases active

theorem Accounted.not_quiet_of_refused (accounted : Accounted state)
    (found : state.attempts[id]? = some attempt) (active : attempt.stage.active = true)
    {after : Attempt} (moved : (state.advance id attempt).attempts[id]? = some after)
    (refused : after.stage = .refused) : ¬ state.Quiet := by
  rintro ⟨idle, past⟩
  obtain ⟨key, blocked⟩ := blocked_of_refused found active moved refused
  rcases accounted.traced.of_blocked blocked with ⟨other, listed, rest, expires⟩ | ⟨time, known, recent⟩
  · have counting := idle other listed
    rw [expires] at counting
    cases counting
  · exact absurd recent (not_lt.mpr (past time known))

theorem Accounted.not_quiet (accounted : Accounted state)
    (blocks : state.Blocks operatorUserId event) :
    ¬ State.Quiet { state with now := event.time } := by
  obtain ⟨id, step, later, ⟨attempt, found, active⟩, after, moved, refused⟩ := blocks
  have advanced : state.next operatorUserId event =
      ({ state with now := event.time } : State).advance id attempt := by
    simp only [State.next, if_pos later, step, State.perform]
    rw [Option.mem_def.mp found]
  rw [advanced] at moved
  exact (accounted.tick later).not_quiet_of_refused found active moved refused

/-- In a run that keeps the account, no window has more than five wrong codes for a key, and no
operator is blocked without a wrong attempt in the last 600 seconds. -/
theorem guesses_bounded (backend : Backend) (operatorUserId : Nat) (start : ℚ)
    (events : List Event)
    (obeyed : Obeys (State.next operatorUserId) Allowed (.initial (.empty backend) start) events) :
    GuessesBounded operatorUserId (.initial (.empty backend) start) events := by
  have first := Accounted.initial backend start
  have step : ∀ state event, Allowed state event → Accounted state →
      Accounted (state.next operatorUserId event) :=
    fun _ _ allowed accounted => accounted.next allowed
  constructor
  · exact (run_invariant_of_obeys _ Accounted first step obeyed).bounded
  · intro taken listed blocks
    exact (trace_invariant_of_obeys _ Accounted first step obeyed taken listed).not_quiet blocks

def attemptAt (time : ℚ) (id : Nat) : List Event :=
  ⟨time, .start none s!"{id}"⟩ :: List.replicate 10 ⟨time, .step id⟩

/-- Two attempts overlap, and the next ones come when Redis has dropped their counters. -/
theorem overlapping_guesses_bounded :
    GuessesBounded 7 (.initial (.empty .redis) 0)
      ([⟨0, .start none "a"⟩, ⟨0, .start none "b"⟩] ++
        List.replicate 4 ⟨0, .step 0⟩ ++ List.replicate 4 ⟨1, .step 1⟩ ++
        List.replicate 6 ⟨2, .step 0⟩ ++ List.replicate 6 ⟨3, .step 1⟩ ++
        attemptAt 700 2 ++ attemptAt 701 3) :=
  guesses_bounded .redis 7 0 _ (by decide +kernel)

/-- Six attempts of one operator that have all been checked before the first of them is counted; a
counter of Redis that is dropped with three failures two seconds old; a counter that was left
without a lifetime, and blocks after more than an hour. -/
theorem guesses_escape :
    ¬ GuessesBounded 7 (.initial (.empty .memory) 0)
      ((List.range 6).map (fun id => ⟨0, .start none s!"{id}"⟩) ++
        (List.range 6).flatMap (fun id => List.replicate 3 ⟨0, .step id⟩) ++
        (List.range 6).map fun id => ⟨1, .step id⟩) ∧
    ¬ GuessesBounded 7 (.initial (.empty .redis) 0)
      (attemptAt 0 0 ++ attemptAt 599 1 ++ attemptAt 599 2 ++ attemptAt 599 3 ++
        attemptAt 601 4 ++ attemptAt 601 5 ++ attemptAt 601 6) ∧
    ¬ GuessesBounded 7 (.initial (.empty .redis) 0)
      (⟨0, .start none "0"⟩ :: List.replicate 5 ⟨0, .step 0⟩ ++ [⟨0, .stop 0⟩] ++
        attemptAt 1 1 ++ attemptAt 2 2 ++ attemptAt 3 3 ++ attemptAt 4 4 ++
        [⟨5000, .start none "5"⟩] ++ [⟨5000, .step 5⟩]) := by
  refine ⟨?_, ?_, ?_⟩
  · intro bounded
    have window := bounded.1 "op:7" 1
    revert window
    decide +kernel
  · intro bounded
    have window := bounded.1 "op:7" 601
    revert window
    decide +kernel
  · intro bounded
    have last := trace_concat (State.next 7) (.initial (.empty .redis) 0)
      (⟨0, .start none "0"⟩ :: List.replicate 5 ⟨0, .step 0⟩ ++ [⟨0, .stop 0⟩] ++
        attemptAt 1 1 ++ attemptAt 2 2 ++ attemptAt 3 3 ++ attemptAt 4 4 ++
        [⟨5000, .start none "5"⟩]) ⟨5000, .step 5⟩
    have unquiet := bounded.2 _ (last ▸ List.mem_append_right _ List.mem_cons_self)
    refine unquiet ⟨5, rfl, by decide +kernel, ?_, ?_⟩ (by unfold State.Quiet; decide +kernel)
    · exact ⟨⟨rateLimitKeys 7 none "5", .checking (rateLimitKeys 7 none "5")⟩, by decide +kernel, rfl⟩
    · exact ⟨⟨rateLimitKeys 7 none "5", .refused⟩, by decide +kernel, rfl⟩

end InfrasafeBot.AccessControl.CodeRateLimit
