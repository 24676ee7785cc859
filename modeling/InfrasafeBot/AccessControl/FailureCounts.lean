import InfrasafeBot.AccessControl.CodeRateLimit
import Mathlib.Tactic.Linarith

/-! What the two stores remember of the failures that have been counted in them: how each command
changes the count of a key, and which wrong attempts a count comes from. -/

set_option autoImplicit false

namespace InfrasafeBot.AccessControl.CodeRateLimit

theorem timesOf_recentTimes (events : EventTimes) (cutoff : ℚ) (key : String) :
    timesOf (recentTimes events cutoff) key = (timesOf events key).filter (cutoff < ·) := by
  have listed : ∀ times, times ∈ (recentTimes events cutoff).lookup key ↔
      ∃ all ∈ events.lookup key, all.filter (cutoff < ·) = times ∧ times ≠ [] := by
    intro times
    simp only [AList.mem_lookup_iff, recentTimes, List.mem_filter, List.mem_map]
    constructor
    · rintro ⟨⟨entry, among, made⟩, kept⟩
      cases made
      exact ⟨entry.2, among, rfl, by simpa using kept⟩
    · rintro ⟨all, among, rfl, kept⟩
      exact ⟨⟨⟨key, all⟩, among, rfl⟩, by simpa using kept⟩
  unfold timesOf
  cases found : events.lookup key with
  | none =>
    have none : (recentTimes events cutoff).lookup key = none := by
      refine Option.eq_none_iff_forall_not_mem.mpr fun times member => ?_
      obtain ⟨all, among, _⟩ := (listed times).mp member
      simp [found] at among
    simp [none]
  | some all =>
    by_cases emptied : all.filter (cutoff < ·) = []
    · have none : (recentTimes events cutoff).lookup key = none := by
        refine Option.eq_none_iff_forall_not_mem.mpr fun times member => ?_
        obtain ⟨other, among, rfl, kept⟩ := (listed times).mp member
        obtain rfl : all = other := by simpa [found] using among
        exact kept emptied
      simp [none, emptied]
    · have some := (listed _).mpr ⟨all, found, rfl, emptied⟩
      rw [Option.mem_def.mp some]
      rfl

theorem timesOf_erase (events : EventTimes) (key other : String) :
    timesOf (events.erase key) other = if other = key then [] else timesOf events other := by
  unfold timesOf
  split
  · next same => rw [same, AList.lookup_erase]; rfl
  · next different => rw [AList.lookup_erase_ne different]

theorem timesOf_insert (events : EventTimes) (key other : String) (times : List ℚ) :
    timesOf (events.insert key times) other =
      if other = key then times else timesOf events other := by
  unfold timesOf
  split
  · next same => rw [same, AList.lookup_insert]; rfl
  · next different => rw [AList.lookup_insert_ne different]

theorem timesOf_prune (events : EventTimes) (key other : String) (now : ℚ) :
    timesOf (prune events key now).2 other = timesOf events other ∨
      timesOf (prune events key now).2 other =
        (timesOf events other).filter (now - failureWindowSeconds < ·) := by
  unfold prune
  extract_lets cutoff kept pruned
  have own : timesOf pruned other = if other = key then kept else timesOf events other := by
    unfold pruned
    split
    · next emptied => rw [timesOf_erase, emptied]
    · exact timesOf_insert events key other kept
  split
  · rw [timesOf_recentTimes, own]
    split
    · next same => simp [same, kept, cutoff]
    · exact .inr rfl
  · rw [own]
    split
    · next same => rw [same]; exact .inr rfl
    · exact .inl rfl

theorem mem_timesOf_prune {events : EventTimes} {key other : String} {now time : ℚ}
    (kept : time ∈ timesOf (prune events key now).2 other) : time ∈ timesOf events other := by
  rcases timesOf_prune events key other now with same | same
  · exact same ▸ kept
  · rw [same] at kept
    exact List.mem_of_mem_filter kept

theorem countP_filter_window {now later : ℚ} (after : now ≤ later) (times : List ℚ) :
    (times.filter (now - failureWindowSeconds < ·)).countP (later - failureWindowSeconds < ·) =
      times.countP (later - failureWindowSeconds < ·) := by
  rw [List.countP_filter]
  refine List.countP_congr fun time _ => ?_
  simp only [Bool.and_eq_true, decide_eq_true_eq]
  exact ⟨And.left, fun newer => ⟨newer, by linarith⟩⟩

theorem countP_timesOf_prune {now later : ℚ} (after : now ≤ later) (events : EventTimes)
    (key other : String) :
    (timesOf (prune events key now).2 other).countP (later - failureWindowSeconds < ·) =
      (timesOf events other).countP (later - failureWindowSeconds < ·) := by
  rcases timesOf_prune events key other now with same | same
  · rw [same]
  · rw [same, countP_filter_window after]

theorem liveCounter_cases (counters : AList fun _ : String => Counter) (key : String) (now : ℚ) :
    (∃ counter, counters.lookup key = some counter ∧ counter.live now = true ∧
      liveCounter counters key now = some counter) ∨
    (∃ counter, counters.lookup key = some counter ∧ counter.live now = false ∧
      liveCounter counters key now = none) ∨
    counters.lookup key = none ∧ liveCounter counters key now = none := by
  unfold liveCounter
  rcases found : counters.lookup key with _ | counter
  · exact .inr (.inr ⟨rfl, rfl⟩)
  · cases alive : counter.live now
    · exact .inr (.inl ⟨counter, rfl, alive, by simp [Option.filter, alive]⟩)
    · exact .inl ⟨counter, rfl, alive, by simp [Option.filter, alive]⟩

/-- The lifetime of the counter starts with a wrong attempt. Where it has none, an attempt is about
to set it. -/
def Counter.Traced (known : ℚ → Prop) (awaited : Prop) (counter : Counter) : Prop :=
  (∀ moment ∈ counter.expiresAt, known (moment - failureWindowSeconds)) ∧
    (counter.expiresAt = none → awaited)

namespace FailureStore

variable {store : FailureStore} {key other : String} {now later : ℚ}

def lapsed (store : FailureStore) (key : String) (now : ℚ) : Bool :=
  match store with
  | .inMemory _ => false
  | .redis counters => (counters.lookup key).any fun counter => !counter.live now

/-- The failures of a key that a store has kept from the window. A counter of Redis has no times,
and here it has its count even when it has been dropped. -/
def remembered (store : FailureStore) (key : String) (later : ℚ) : Nat :=
  match store with
  | .inMemory events => (timesOf events key).countP (later - failureWindowSeconds < ·)
  | .redis counters => ((counters.lookup key).map (·.count)).getD 0

theorem failureCount_eq (store : FailureStore) (key : String) (now : ℚ) :
    (store.failureCount key now).1 =
      if store.lapsed key now = true then 0 else store.remembered key now := by
  cases store with
  | inMemory events =>
    simp only [failureCount, lapsed, remembered, prune, Bool.false_eq_true, if_false]
    exact List.countP_eq_length_filter.symm
  | redis counters =>
    rcases liveCounter_cases counters key now with
      ⟨counter, found, alive, read⟩ | ⟨counter, found, gone, read⟩ | ⟨found, read⟩
    · simp [failureCount, lapsed, remembered, read, found, alive]
    · simp [failureCount, lapsed, read, found, gone]
    · simp [failureCount, remembered, read, found]

theorem remembered_failureCount (after : now ≤ later) (store : FailureStore) (key other : String) :
    (store.failureCount key now).2.remembered other later = store.remembered other later := by
  cases store with
  | inMemory events => exact countP_timesOf_prune after events key other
  | redis counters => rfl

theorem remembered_recordFailure_of_ne (after : now ≤ later) (different : other ≠ key)
    (store : FailureStore) :
    (store.recordFailure key now).1.remembered other later = store.remembered other later := by
  cases store with
  | inMemory events =>
    simp only [recordFailure, remembered, timesOf_insert, if_neg different]
    exact countP_timesOf_prune after events key other
  | redis counters =>
    simp only [recordFailure, remembered]
    cases liveCounter counters key now with
    | none | some => simp only [AList.lookup_insert_ne different]

theorem remembered_recordFailure (after : now ≤ later) (inside : later - failureWindowSeconds < now)
    (store : FailureStore) (key : String) :
    (store.recordFailure key now).1.remembered key later =
      (if store.lapsed key now = true then 0 else store.remembered key later) + 1 := by
  cases store with
  | inMemory events =>
    simp only [recordFailure, remembered, timesOf_insert, if_true, lapsed, Bool.false_eq_true,
      if_false, List.countP_append, List.countP_singleton, inside, decide_true]
    rw [prune, countP_filter_window after]
  | redis counters =>
    rcases liveCounter_cases counters key now with
      ⟨counter, found, alive, read⟩ | ⟨counter, found, gone, read⟩ | ⟨found, read⟩
    · simp [recordFailure, lapsed, remembered, read, found, alive]
    · simp [recordFailure, lapsed, remembered, read, found, gone]
    · simp [recordFailure, lapsed, remembered, read, found]

theorem remembered_expire (store : FailureStore) (key other : String) (now later : ℚ) :
    (store.expire key now).remembered other later = store.remembered other later := by
  cases store with
  | inMemory events => rfl
  | redis counters =>
    rcases liveCounter_cases counters key now with
      ⟨counter, found, _, read⟩ | ⟨_, _, _, read⟩ | ⟨_, read⟩
    · by_cases same : other = key
      · subst same
        simp [expire, remembered, read, found]
      · simp [expire, remembered, read, AList.lookup_insert_ne same]
    · simp only [expire, read]
    · simp only [expire, read]

def Traced (known : ℚ → Prop) (awaited : String → Prop) : FailureStore → Prop
  | .inMemory events => ∀ key, ∀ time ∈ timesOf events key, known time
  | .redis counters => ∀ key counter, counters.lookup key = some counter →
      counter.Traced known (awaited key)

variable {known known' : ℚ → Prop} {awaited awaited' : String → Prop}

theorem Traced.mono (traced : store.Traced known awaited) (knows : ∀ time, known time → known' time)
    (awaits : ∀ key, awaited key → awaited' key) : store.Traced known' awaited' := by
  cases store with
  | inMemory events => exact fun key time listed => knows time (traced key time listed)
  | redis counters =>
    intro key counter found
    obtain ⟨lifetime, endless⟩ := traced key counter found
    exact ⟨fun moment set => knows _ (lifetime moment set), fun none => awaits key (endless none)⟩

theorem Traced.failureCount (traced : store.Traced known awaited) (key : String) (now : ℚ) :
    (store.failureCount key now).2.Traced known awaited := by
  cases store with
  | inMemory events => exact fun other time kept => traced other time (mem_timesOf_prune kept)
  | redis counters => exact traced

theorem traced_insert {counters : AList fun _ : String => Counter} {counter : Counter}
    (others : ∀ other, other ≠ key → ∀ counter, counters.lookup other = some counter →
      counter.Traced known (awaited other))
    (made : counter.Traced known (awaited key)) :
    (FailureStore.redis (counters.insert key counter)).Traced known awaited := by
  intro other found listed
  by_cases same : other = key
  · subst same
    rw [AList.lookup_insert, Option.some.injEq] at listed
    exact listed ▸ made
  · rw [AList.lookup_insert_ne same] at listed
    exact others other same found listed

theorem Traced.recordFailure (traced : store.Traced known awaited) (now_known : known now)
    (made : (store.recordFailure key now).2 = true → awaited key) :
    (store.recordFailure key now).1.Traced known awaited := by
  cases store with
  | inMemory events =>
    intro other time listed
    rw [timesOf_insert] at listed
    split at listed
    · rcases List.mem_append.mp listed with kept | last
      · exact traced key time (List.mem_of_mem_filter kept)
      · exact List.mem_singleton.mp last ▸ now_known
    · exact traced other time (mem_timesOf_prune listed)
  | redis counters =>
    have others : ∀ other, other ≠ key → ∀ counter, counters.lookup other = some counter →
        counter.Traced known (awaited other) :=
      fun other _ counter found => traced other counter found
    rcases liveCounter_cases counters key now with
      ⟨last, found, _, read⟩ | ⟨_, _, _, read⟩ | ⟨_, read⟩
    · simp only [FailureStore.recordFailure, read]
      exact traced_insert others (traced key last found)
    · simp only [FailureStore.recordFailure, read] at made ⊢
      exact traced_insert others ⟨nofun, fun _ => made trivial⟩
    · simp only [FailureStore.recordFailure, read] at made ⊢
      exact traced_insert others ⟨nofun, fun _ => made trivial⟩

theorem Traced.expire (traced : store.Traced known awaited) (now_known : known now)
    (awaits : ∀ other, other ≠ key → awaited other → awaited' other) :
    (store.expire key now).Traced known awaited' := by
  cases store with
  | inMemory events => exact traced
  | redis counters =>
    have others : ∀ other, other ≠ key → ∀ counter, counters.lookup other = some counter →
        counter.Traced known (awaited' other) := by
      intro other different counter found
      obtain ⟨lifetime, endless⟩ := traced other counter found
      exact ⟨lifetime, fun none => awaits other different (endless none)⟩
    rcases liveCounter_cases counters key now with
      ⟨last, _, _, read⟩ | ⟨last, lasts, gone, read⟩ | ⟨missing, read⟩
    · simp only [FailureStore.expire, read]
      refine traced_insert others ⟨fun moment set => ?_, nofun⟩
      obtain rfl : now + failureWindowSeconds = moment := by simpa using set
      rwa [add_sub_cancel_right]
    · simp only [FailureStore.expire, read]
      intro other counter found
      by_cases same : other = key
      · subst same
        obtain rfl : last = counter := by simpa [lasts] using found
        refine ⟨(traced other last lasts).1, fun endless => ?_⟩
        simp [Counter.live, endless] at gone
      · exact others other same counter found
    · simp only [FailureStore.expire, read]
      intro other counter found
      have different : other ≠ key := by
        rintro rfl
        simp [missing] at found
      exact others other different counter found

theorem Traced.of_blocked (traced : store.Traced known awaited)
    (blocked : failureThreshold ≤ (store.failureCount key now).1) :
    awaited key ∨ ∃ time, known time ∧ now - failureWindowSeconds < time := by
  cases store with
  | inMemory events =>
    have counted : 0 < ((timesOf events key).filter (now - failureWindowSeconds < ·)).length :=
      Nat.lt_of_lt_of_le (by decide : 0 < failureThreshold) blocked
    obtain ⟨time, listed⟩ := List.exists_mem_of_length_pos counted
    obtain ⟨kept, recent⟩ := List.mem_filter.mp listed
    exact .inr ⟨time, traced key time kept, by simpa using recent⟩
  | redis counters =>
    rcases liveCounter_cases counters key now with
      ⟨counter, found, alive, _⟩ | ⟨_, _, _, read⟩ | ⟨_, read⟩
    · obtain ⟨lifetime, endless⟩ := traced key counter found
      cases ends : counter.expiresAt with
      | none => exact .inl (endless ends)
      | some moment =>
        refine .inr ⟨moment - failureWindowSeconds, lifetime moment ends, ?_⟩
        have later : now < moment := by simpa [Counter.live, ends] using alive
        exact sub_lt_sub_right later failureWindowSeconds
    · simp [FailureStore.failureCount, read, failureThreshold] at blocked
    · simp [FailureStore.failureCount, read, failureThreshold] at blocked

end FailureStore

end InfrasafeBot.AccessControl.CodeRateLimit
