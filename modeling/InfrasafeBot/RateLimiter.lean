import InfrasafeBot.Library.Machine
import InfrasafeBot.Library.SlidingWindow
import Mathlib.Data.Rat.Floor

/-! The rate limiters of one key (`utils/redis_rate_limiter.py`): a sorted set of Redis, whose
refused entries are removed by a command of their own, and a list in memory. -/

set_option autoImplicit false

namespace InfrasafeBot.RateLimiter

open Library Machine SlidingWindow

/-- A decision of `is_allowed`, with the clock reading of its call. -/
structure Decision where
  now : NNRat
  allowed : Bool

def granted (decisions : List Decision) : List NNRat :=
  (decisions.filter (·.allowed)).map (·.now)

/-- What `zremrangebyscore(0, cutoff)` leaves. -/
def newer (cutoff : ℚ) (entries : List NNRat) : List NNRat :=
  entries.filter fun entry : NNRat => cutoff < entry

/-- `entries` is the sorted set, whose members are named by their scores; `pending` are the
refused calls before their `zrem`. -/
structure RedisState where
  entries : List NNRat
  pending : List NNRat
  decisions : List Decision

inductive RedisEvent where
  | isAllowed (now : NNRat)
  | zrem (now : NNRat)

variable (maxRequests : Nat) (window : ℚ)

/-- The pipeline of a call is one step, for any reading it has taken before. -/
def RedisState.next (state : RedisState) : RedisEvent → RedisState
  | .isAllowed now =>
    let kept := newer (now - window) state.entries
    let allowed := decide (kept.length < maxRequests)
    { entries := if now ∈ kept then kept else kept ++ [now]
      pending := if allowed then state.pending else state.pending ++ [now]
      decisions := state.decisions ++ [⟨now, allowed⟩] }
  | .zrem now =>
    if now ∈ state.pending then
      { state with
        entries := state.entries.filter (· ≠ now)
        pending := state.pending.erase now }
    else state

structure MemoryState where
  storage : List NNRat
  decisions : List Decision

/-- `InMemoryRateLimiter.is_allowed` under its lock. -/
def MemoryState.next (state : MemoryState) (now : NNRat) : MemoryState :=
  let kept := state.storage.filter fun timestamp : NNRat => (now : ℚ) - timestamp < window
  if maxRequests ≤ kept.length then ⟨kept, state.decisions ++ [⟨now, false⟩]⟩
  else ⟨kept ++ [now], state.decisions ++ [⟨now, true⟩]⟩

def redisRun (events : List RedisEvent) : RedisState :=
  run (RedisState.next maxRequests window) ⟨[], [], []⟩ events

def memoryRun (readings : List NNRat) : MemoryState :=
  run (MemoryState.next maxRequests window) ⟨[], []⟩ readings

/-- The calls that have been allowed in the window before a reading. -/
def grantedIn (decisions : List Decision) (now : NNRat) : Nat :=
  since NNRat.cast (now - window : ℚ) (granted decisions)

/-- No interval shorter than the window has more than the limit, and a call is refused only
where the window before it has the limit. -/
structure ExactWindow (decisions : List Decision) : Prop where
  bounded : ∀ first last : ℚ, last - first < window →
    (granted decisions).countP (fun now : NNRat => first ≤ now ∧ now ≤ last) ≤ maxRequests
  refused : ∀ (past : List Decision) (now : NNRat), past ++ [⟨now, false⟩] <+: decisions →
    maxRequests ≤ within NNRat.cast window (now : ℚ) (granted past)

/-- The clock has not been read before an earlier decision's reading. -/
def InTurn (decisions : List Decision) (now : NNRat) : Prop :=
  ∀ decision ∈ decisions, decision.now ≤ now

instance (decisions : List Decision) (now : NNRat) : Decidable (InTurn decisions now) :=
  inferInstanceAs (Decidable (∀ decision ∈ decisions, _))

/-- No entry of the window has the reading of the call, and where there is room in it, the refused
calls that are before their `zrem` leave some. -/
def RedisState.Apart (state : RedisState) : RedisEvent → Prop
  | .isAllowed now =>
    InTurn state.decisions now ∧ now ∉ newer (now - window) state.entries ∧
      (grantedIn window state.decisions now < maxRequests →
        grantedIn window state.decisions now + (newer (now - window) state.pending).length < maxRequests)
  | .zrem _ => True

instance (state : RedisState) : (event : RedisEvent) → Decidable (state.Apart maxRequests window event)
  | .isAllowed _ => inferInstanceAs (Decidable (_ ∧ _ ∧ _))
  | .zrem _ => .isTrue trivial

/-- What a run keeps of its decisions. -/
structure Windowed (decisions : List Decision) : Prop where
  bounded : ∀ moment : ℚ, within NNRat.cast window moment (granted decisions) ≤ maxRequests
  refused : ∀ (past : List Decision) (now : NNRat), past ++ [⟨now, false⟩] <+: decisions →
    maxRequests ≤ within NNRat.cast window (now : ℚ) (granted past)

/-- The entries that may still count are those of the calls that have been allowed, and some
beside them. -/
def Counted (entries extra : List NNRat) (decisions : List Decision) : Prop :=
  ∀ cutoff : ℚ, (∀ decision ∈ decisions, (decision.now : ℚ) - window ≤ cutoff) →
    (newer cutoff entries).Perm (newer cutoff (granted decisions ++ extra))

variable {maxRequests window} {decisions : List Decision} {entries extra : List NNRat}
  {now : NNRat}

theorem newer_append (cutoff : ℚ) (first second : List NNRat) :
    newer cutoff (first ++ second) = newer cutoff first ++ newer cutoff second :=
  List.filter_append ..

theorem granted_concat (allowed : Bool) :
    granted (decisions ++ [⟨now, allowed⟩]) = granted decisions ++ if allowed then [now] else [] := by
  unfold granted
  rw [List.filter_append, List.map_append]
  cases allowed <;> rfl

theorem grantedIn_le_within (ordered : InTurn decisions now) :
    grantedIn window decisions now ≤ within NNRat.cast window (now : ℚ) (granted decisions) := by
  refine List.countP_mono_left fun reading listed newer => ?_
  obtain ⟨decision, kept, rfl⟩ := List.mem_map.mp listed
  rw [Bool.and_eq_true]
  exact ⟨newer, decide_eq_true (NNRat.cast_le.mpr (ordered decision (List.mem_of_mem_filter kept)))⟩

theorem Windowed.exact (windowed : Windowed maxRequests window decisions) :
    ExactWindow maxRequests window decisions where
  bounded := by
    intro first last short
    refine (List.countP_mono_left fun reading _ inside => ?_).trans (windowed.bounded last)
    obtain ⟨after, before⟩ := of_decide_eq_true inside
    rw [Bool.and_eq_true, decide_eq_true_eq, decide_eq_true_eq]
    exact ⟨by linarith, before⟩
  refused := windowed.refused

theorem Windowed.concat (windowed : Windowed maxRequests window decisions)
    (ordered : InTurn decisions now) :
    Windowed maxRequests window
      (decisions ++ [⟨now, decide (grantedIn window decisions now < maxRequests)⟩]) where
  bounded := by
    rw [granted_concat]
    split
    · next room => exact within_concat_le windowed.bounded (of_decide_eq_true room)
    · rw [List.append_nil]
      exact windowed.bounded
  refused := by
    intro past moment before
    rcases List.prefix_concat_iff.mp before with same | earlier
    · obtain ⟨rfl, last⟩ := List.append_inj' same rfl
      obtain ⟨rfl, full⟩ := Decision.mk.inj (List.singleton_inj.mp last)
      exact (not_lt.mp (of_decide_eq_false full.symm)).trans (grantedIn_le_within ordered)
    · exact windowed.refused past moment earlier

theorem Counted.concat (counted : Counted window entries extra decisions) {allowed : Bool}
    {new left : List NNRat}
    (gained : (granted (decisions ++ [⟨now, allowed⟩]) ++ left).Perm (granted decisions ++ extra ++ new)) :
    Counted window (newer (now - window) entries ++ new) left (decisions ++ [⟨now, allowed⟩]) := by
  intro cutoff after
  have later : (now : ℚ) - window ≤ cutoff := after ⟨now, allowed⟩ (by simp)
  have before := counted cutoff fun decision listed => after decision (List.mem_append_left _ listed)
  have kept : newer cutoff (newer (now - window) entries) = newer cutoff entries := by
    unfold newer
    rw [List.filter_filter]
    refine List.filter_congr fun entry _ => ?_
    rw [Bool.and_eq_left_iff_imp, decide_eq_true_eq, decide_eq_true_eq]
    exact lt_of_le_of_lt later
  rw [newer_append, kept]
  refine (before.append_right _).trans ?_
  rw [← newer_append]
  exact (gained.filter _).symm

/-- Where what is beside them leaves room, a call is allowed by the calls that have been allowed. -/
theorem Counted.decides (maxRequests : Nat) (counted : Counted window entries extra decisions)
    (ordered : InTurn decisions now)
    (calm : grantedIn window decisions now < maxRequests →
      grantedIn window decisions now + (newer (now - window) extra).length < maxRequests) :
    decide ((newer (now - window) entries).length < maxRequests) =
      decide (grantedIn window decisions now < maxRequests) := by
  have same := counted (now - window) fun decision listed =>
    sub_le_sub_right (NNRat.cast_le.mpr (ordered decision listed)) window
  have sum : (newer (now - window) entries).length =
      grantedIn window decisions now + (newer (now - window) extra).length := by
    rw [same.length_eq, newer_append, List.length_append, grantedIn, since, List.countP_eq_length_filter]
    rfl
  rw [decide_eq_decide, sum]
  exact ⟨fun less => (Nat.le_add_right _ _).trans_lt less, calm⟩

variable (maxRequests window) in
structure RedisState.Kept (state : RedisState) : Prop where
  windowed : Windowed maxRequests window state.decisions
  counted : Counted window state.entries state.pending state.decisions
  distinct : state.entries.Nodup

theorem newer_cons_of_not {cutoff : ℚ} (gone : ¬ cutoff < now) (entries : List NNRat) :
    newer cutoff (now :: entries) = newer cutoff entries :=
  List.filter_cons_of_neg (by simpa using gone)

theorem Counted.zrem (counted : Counted window entries extra decisions) (distinct : entries.Nodup)
    (waiting : now ∈ extra) :
    Counted window (entries.filter (· ≠ now)) (extra.erase now) decisions := by
  intro cutoff after
  have queued : (granted decisions ++ extra).Perm (now :: (granted decisions ++ extra.erase now)) :=
    ((List.perm_cons_erase waiting).append_left _).trans List.perm_middle
  have same := (counted cutoff after).trans (queued.filter _)
  by_cases live : cutoff < now
  · have member : now ∈ entries :=
      List.mem_of_mem_filter (same.mem_iff.mpr (List.mem_filter.mpr ⟨List.mem_cons_self, by simpa using live⟩))
    have removed : entries.filter (· ≠ now) = entries.erase now := by
      rw [distinct.erase_eq_filter]
      exact List.filter_congr fun entry _ => by simp [bne, Bool.beq_eq_decide_eq]
    have split := ((List.perm_cons_erase member).filter _).symm.trans same
    rw [List.filter_cons_of_pos (by simpa using live),
      List.filter_cons_of_pos (by simpa using live)] at split
    rw [removed]
    exact split.cons_inv
  · have others : newer cutoff (entries.filter (· ≠ now)) = newer cutoff entries := by
      unfold newer
      rw [List.filter_filter]
      refine List.filter_congr fun entry _ => ?_
      rw [Bool.and_eq_left_iff_imp, decide_eq_true_eq, decide_eq_true_eq]
      rintro newer rfl
      exact live newer
    rw [others]
    exact same.trans (.of_eq (newer_cons_of_not live _))

theorem RedisState.Kept.next {state : RedisState} {event : RedisEvent}
    (kept : state.Kept maxRequests window) (apart : state.Apart maxRequests window event) :
    (state.next maxRequests window event).Kept maxRequests window := by
  cases event with
  | zrem now =>
    simp only [RedisState.next]
    split
    · next waiting => exact ⟨kept.windowed, kept.counted.zrem kept.distinct waiting, kept.distinct.filter _⟩
    · exact kept
  | isAllowed now =>
    obtain ⟨ordered, fresh, calm⟩ := apart
    have agrees := kept.counted.decides maxRequests ordered calm
    simp only [RedisState.next, if_neg fresh]
    refine ⟨?_, kept.counted.concat ?_, ?_⟩
    · rw [agrees]
      exact kept.windowed.concat ordered
    · rw [granted_concat, List.append_assoc, List.append_assoc]
      refine List.Perm.append_left _ ?_
      cases decide ((newer (now - window) state.entries).length < maxRequests) with
      | true => exact List.perm_append_comm
      | false => exact .refl _
    · refine List.nodup_append.mpr ⟨kept.distinct.filter _, by simp, ?_⟩
      rintro entry listed _ last rfl
      obtain rfl := List.mem_singleton.mp last
      exact fresh listed

variable (maxRequests window) in
structure MemoryState.Kept (state : MemoryState) : Prop where
  windowed : Windowed maxRequests window state.decisions
  counted : Counted window state.storage [] state.decisions

theorem MemoryState.Kept.next {state : MemoryState} (kept : state.Kept maxRequests window)
    (ordered : InTurn state.decisions now) :
    (state.next maxRequests window now).Kept maxRequests window := by
  have purged : (state.storage.filter fun timestamp : NNRat => (now : ℚ) - timestamp < window) =
      newer (now - window) state.storage :=
    List.filter_congr fun entry _ => decide_eq_decide.mpr sub_lt_comm
  have agrees := kept.counted.decides maxRequests ordered id
  have windowed := kept.windowed.concat ordered
  simp only [MemoryState.next, purged]
  split
  · next full =>
    rw [← agrees, decide_eq_false (not_lt.mpr full)] at windowed
    have counted : Counted window (newer (now - window) state.storage ++ []) []
        (state.decisions ++ [⟨now, false⟩]) := kept.counted.concat (by simp [granted_concat])
    rw [List.append_nil] at counted
    exact ⟨windowed, counted⟩
  · next room =>
    rw [← agrees, decide_eq_true (not_le.mp room)] at windowed
    exact ⟨windowed, kept.counted.concat (by simp [granted_concat])⟩

theorem windowed_nil : Windowed maxRequests window [] where
  bounded := fun _ => Nat.zero_le _
  refused := by
    intro past now before
    simp at before

/-- `InMemoryRateLimiter.get_remaining_time` -/
def MemoryState.getRemainingTime (window : ℚ) (state : MemoryState) (now : NNRat) : Nat :=
  match state.storage.min? with
  | none => 0
  | some oldest => ⌊window - (now - oldest : ℚ)⌋₊

theorem MemoryState.next_decisions (state : MemoryState) (now : NNRat) :
    (state.next maxRequests window now).decisions = state.decisions ++
      [⟨now, decide ((state.storage.filter fun timestamp : NNRat =>
        (now : ℚ) - timestamp < window).length < maxRequests)⟩] := by
  rw [MemoryState.next]
  split
  · next full => simp [not_lt.mpr full]
  · next room => simp [not_le.mp room]

theorem storage_bounded (maxRequests : Nat) (window : ℚ) (readings : List NNRat) :
    (memoryRun maxRequests window readings).storage.length ≤ maxRequests := by
  refine run_invariant _ (fun state : MemoryState => state.storage.length ≤ maxRequests) (Nat.zero_le _) ?_ _
  intro state now bounded
  rw [MemoryState.next]
  split
  · exact (List.length_filter_le _ _).trans bounded
  · next room => simpa [Nat.succ_le_iff] using not_le.mp room

/-- Whatever the clock reads, before the time that is told after a refusal every call is refused
too, and a second after it one is allowed. -/
theorem refused_until_remaining (maxRequests : Nat) (window : ℚ) (readings : List NNRat)
    (now later : NNRat) :
    let state := memoryRun maxRequests window (readings ++ [now])
    ∃ allowed, (state.next maxRequests window later).decisions = state.decisions ++ [⟨later, allowed⟩] ∧
      (maxRequests = 0 ∨ state.decisions.getLast? = some ⟨now, true⟩ ∨
        ((later : ℚ) < now + state.getRemainingTime window now → allowed = false) ∧
          ((now : ℚ) + state.getRemainingTime window now + 1 ≤ later → allowed = true)) := by
  intro state
  refine ⟨_, state.next_decisions later, or_iff_not_imp_left.mpr fun limited =>
    or_iff_not_imp_left.mpr fun refused => ?_⟩
  have bounded := storage_bounded maxRequests window readings
  have reached : state = (memoryRun maxRequests window readings).next maxRequests window now :=
    run_concat ..
  clear_value state
  subst reached
  generalize memoryRun maxRequests window readings = before at bounded refused ⊢
  rw [MemoryState.next_decisions, List.getLast?_concat] at refused
  rw [MemoryState.next]
  generalize keeps : (before.storage.filter fun timestamp : NNRat => (now : ℚ) - timestamp < window) =
    kept at refused ⊢
  have full : maxRequests = kept.length := by
    refine le_antisymm (by simpa using refused) ?_
    exact keeps ▸ (List.length_filter_le _ _).trans bounded
  rw [if_pos full.le]
  obtain ⟨oldest, first⟩ := Option.isSome_iff_exists.mp
    (List.isSome_min?_of_mem (List.getElem_mem (Nat.pos_of_ne_zero (full ▸ limited))))
  obtain ⟨listed, least⟩ := List.min?_eq_some_iff.mp first
  have live : 0 < window - (now - oldest : ℚ) := by
    subst keeps
    exact sub_pos.mpr (of_decide_eq_true (List.mem_filter.mp listed).2)
  simp only [MemoryState.getRemainingTime, first, decide_eq_false_iff_not, decide_eq_true_eq, not_lt]
  constructor
  · intro soon
    rw [full, List.filter_eq_self.mpr]
    intro entry stored
    have since : (oldest : ℚ) ≤ entry := NNRat.cast_le.mpr (least entry stored)
    exact decide_eq_true (by linarith [Nat.floor_le live.le])
  · intro waited
    have gone : ¬ (later - oldest : ℚ) < window := by
      linarith [Nat.lt_floor_add_one (window - (now - oldest : ℚ))]
    rw [full]
    exact List.length_filter_lt_length_iff_exists.mpr ⟨oldest, listed, by simpa using gone⟩

end InfrasafeBot.RateLimiter
