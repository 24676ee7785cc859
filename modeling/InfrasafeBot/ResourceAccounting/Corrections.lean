import InfrasafeBot.ResourceAccounting.Acts

/-! What a correction leaves in its session: the corrected reading and the later open ones, each
recomputed from the baseline that a query finds by the statuses that are stored. A session
without autoflush shows a query neither the statuses nor the values that it has changed, but the
rows that the query selects are the session's own (`services/readings.py`, `db.py`). -/

set_option autoImplicit false

namespace InfrasafeBot.ResourceAccounting

open Library Machine

namespace Accounts

/-- The rows that `apply_correction` has changed when it returns; nothing is flushed yet. -/
def changedRows (accounts : Accounts) (today : Day) (meter : Meter) (row : Reading)
    (newValue : ℚ) (reason : String) (kind : ReadingKind) : Except Refusal (List Reading) := do
  let corrected ← accounts.correctedRow today meter newValue reason kind row
  let recomputed ← accounts.recomputeForward today meter row.key newValue
  return corrected :: recomputed

/-- Whether a reading is accepted when the correction judges it again: the corrected one by its
new value, a recomputed one on the baseline that is stored. -/
def judgedAgain (accounts : Accounts) (today : Day) (meter : Meter) (row : Reading)
    (newValue : ℚ) (kind : ReadingKind) (reading : Reading) : Bool :=
  if reading.key = row.key then
    passes today meter row.month (accounts.previousValue meter.id row.month) newValue row.readAt kind
  else if accounts.recomputable meter.id row.month reading then
    match reading.value with
    | none => false
    | some value =>
      passes today meter reading.month
        (accounts.heldPrevious row.key newValue meter.id reading.month) value reading.readAt
        reading.kind
  else reading.usable

end Accounts

/-- A reading that the correction has to base anew. -/
def BasedAnew (accounts : Accounts) (row reading : Reading) : Prop :=
  reading.key = row.key ∨ accounts.recomputable row.meterId row.month reading = true

/-- The correction fails for no later reading; every reading that it bases anew stands on the
latest earlier one that is accepted afterwards, evaluated on it; and none stands on one that
the correction leaves in error. -/
structure Rebased (accounts : Accounts) (today : Day) (meter : Meter) (row : Reading)
    (newValue : ℚ) (reason : String) (kind : ReadingKind) : Prop where
  returns : ∀ corrected, accounts.correctedRow today meter newValue reason kind row = .ok corrected →
    ∃ changed, accounts.changedRows today meter row newValue reason kind = .ok changed
  based : ∀ changed, accounts.changedRows today meter row newValue reason kind = .ok changed →
    ∀ reading ∈ (accounts.saveRows changed).readings.rows, BasedAnew accounts row reading →
      reading.previousValue = (accounts.saveRows changed).previousValue row.meterId reading.month ∧
        ∀ value, reading.value = some value → Evaluated today meter reading value
  standing : ∀ changed, accounts.changedRows today meter row newValue reason kind = .ok changed →
    ∀ later ∈ accounts.readings.rows, accounts.recomputable row.meterId row.month later = true →
      ∀ baseline, accounts.getPreviousAccepted row.meterId later.month = some baseline →
        ∀ reading ∈ (accounts.saveRows changed).readings.rows, reading.key = baseline.key →
          reading.status ≠ .error

/-- A later reading that the correction bases rightly: it can be evaluated on its stored
baseline, which stays accepted, and no reading between the two is accepted with another value
when the correction judges it again. -/
structure Undisturbed (accounts : Accounts) (today : Day) (meter : Meter) (row : Reading)
    (newValue : ℚ) (kind : ReadingKind) (later : Reading) : Prop where
  evaluates : ∀ value, later.value = some value → ∃ result,
    evaluateValue (accounts.surroundings today meter later.month) meter later.month
      (accounts.heldPrevious row.key newValue meter.id later.month) value later.readAt
      later.kind = .ok result
  stays : ∀ baseline, accounts.getPreviousAccepted meter.id later.month = some baseline →
    accounts.judgedAgain today meter row newValue kind baseline = true
  spared : ∀ reading ∈ accounts.readings.rows, reading.meterId = meter.id →
    reading.month < later.month →
    (∀ baseline, accounts.getPreviousAccepted meter.id later.month = some baseline →
      baseline.month < reading.month) →
    accounts.judgedAgain today meter row newValue kind reading = true →
      Accounts.heldValue row.key newValue reading =
        accounts.heldPrevious row.key newValue meter.id later.month

variable {accounts : Accounts} {today : Day} {meter : Meter} {row reading old later : Reading}
  {newValue value : ℚ} {reason : String} {kind : ReadingKind} {changed : List Reading}

section

variable {month : Month}

/-- The rows after the correction are those before it, each judged again. -/
structure Judged (accounts : Accounts) (today : Day) (meter : Meter) (row : Reading)
    (newValue : ℚ) (kind : ReadingKind) (old reading : Reading) : Prop where
  key : reading.key = old.key
  usable : reading.usable = accounts.judgedAgain today meter row newValue kind old
  value : reading.value = Accounts.heldValue row.key newValue old

theorem changedRows_ok
    (returned : accounts.changedRows today meter row newValue reason kind = .ok changed) :
    ∃ corrected recomputed, changed = corrected :: recomputed ∧
      accounts.correctedRow today meter newValue reason kind row = .ok corrected ∧
      accounts.recomputeForward today meter row.key newValue = .ok recomputed := by
  obtain ⟨corrected, first, rest⟩ := bind_eq_ok_iff.mp returned
  obtain ⟨recomputed, second, last⟩ := bind_eq_ok_iff.mp rest
  exact ⟨corrected, recomputed, (Except.ok.inj last).symm, first, second⟩

theorem changed_cases (listed : row ∈ accounts.readings.rows)
    (returned : accounts.changedRows today meter row newValue reason kind = .ok changed)
    (member : reading ∈ changed) :
    ∃ old ∈ accounts.readings.rows, reading.key = old.key ∧
      ∃ value, reading.value = some value ∧ Evaluated today meter reading value ∧
        reading.previousValue = accounts.heldPrevious row.key newValue meter.id old.month ∧
        (old = row ∧ value = newValue ∧ reading.readAt = row.readAt ∧ reading.kind = kind ∨
          accounts.recomputable meter.id row.month old = true ∧ old.value = some value ∧
            reading.readAt = old.readAt ∧ reading.kind = old.kind) := by
  obtain ⟨corrected, recomputed, rfl, first, second⟩ := changedRows_ok returned
  rcases List.mem_cons.mp member with rfl | later
  · obtain ⟨key, held, previous, readAt, sameKind, evaluated⟩ := correctedRow_ok first
    have early : row.month ≤ row.key.2 := Nat.le_refl _
    exact ⟨row, listed, key, newValue, held, evaluated,
      previous.trans (heldPrevious_of_le early).symm, .inl ⟨rfl, rfl, readAt, sameKind⟩⟩
  · obtain ⟨old, oldListed, wanted, value, held, made⟩ := mem_recomputed second later
    obtain ⟨key, sameValue, previous, readAt, sameKind, evaluated⟩ := recomputedRow_ok held made
    exact ⟨old, oldListed, key, value, sameValue, evaluated, previous,
      .inr ⟨wanted, held, readAt, sameKind⟩⟩

theorem key_ne_of_later (after : row.month < old.month) : old.key ≠ row.key := by
  intro same
  have level : old.month = row.month := congrArg Prod.snd same
  exact Nat.ne_of_gt after level

theorem changed_distinct
    (returned : accounts.changedRows today meter row newValue reason kind = .ok changed) :
    (changed.map Reading.key).Nodup := by
  obtain ⟨corrected, recomputed, rfl, first, second⟩ := changedRows_ok returned
  refine List.nodup_cons.mpr ⟨fun repeated => ?_, recomputed_distinct second⟩
  obtain ⟨other, member, same⟩ := List.mem_map.mp repeated
  obtain ⟨old, _, wanted, value, held, made⟩ := mem_recomputed second member
  have key := (recomputedRow_ok held made).1
  exact key_ne_of_later (recomputable_iff.mp wanted).2.1
    (key.symm.trans (same.trans (correctedRow_ok first).1))

theorem mem_session
    (returned : accounts.changedRows today meter row newValue reason kind = .ok changed) :
    reading ∈ (accounts.saveRows changed).readings.rows ↔
      reading ∈ changed ∨ reading ∈ accounts.readings.rows ∧
        reading.key ∉ changed.map Reading.key :=
  Table.mem_foldl_save (changed_distinct returned)

theorem changed_judged (listed : row ∈ accounts.readings.rows)
    (returned : accounts.changedRows today meter row newValue reason kind = .ok changed)
    (member : reading ∈ changed) :
    ∃ old ∈ accounts.readings.rows, Judged accounts today meter row newValue kind old reading := by
  obtain ⟨old, oldListed, key, value, held, evaluated, previous, origin⟩ :=
    changed_cases listed returned member
  have month : reading.month = old.month := congrArg Prod.snd key
  refine ⟨old, oldListed, key, ?_, ?_⟩
  · rw [evaluated.usable held, Accounts.judgedAgain, previous, month]
    rcases origin with ⟨rfl, rfl, readAt, sameKind⟩ | ⟨wanted, stored, readAt, sameKind⟩
    · have early : old.month ≤ old.key.2 := Nat.le_refl _
      rw [if_pos rfl, readAt, sameKind, heldPrevious_of_le early]
    · rw [if_neg (key_ne_of_later (recomputable_iff.mp wanted).2.1), if_pos wanted, stored, readAt,
        sameKind]
  · rw [held, Accounts.heldValue]
    rcases origin with ⟨rfl, rfl, _⟩ | ⟨wanted, stored, _⟩
    · rw [if_pos rfl]
    · rw [if_neg (key_ne_of_later (recomputable_iff.mp wanted).2.1), stored]

theorem untouched_judged
    (returned : accounts.changedRows today meter row newValue reason kind = .ok changed)
    (oldListed : old ∈ accounts.readings.rows) (untouched : old.key ∉ changed.map Reading.key) :
    Judged accounts today meter row newValue kind old old := by
  obtain ⟨corrected, recomputed, rfl, first, second⟩ := changedRows_ok returned
  have different : old.key ≠ row.key := by
    intro same
    refine untouched (List.mem_map.mpr ⟨corrected, List.mem_cons_self, ?_⟩)
    exact (correctedRow_ok first).1.trans same.symm
  have unwanted : ¬ accounts.recomputable meter.id row.month old = true := by
    intro wanted
    obtain ⟨new, newListed, key⟩ := recomputed_of_mem second oldListed wanted
    exact untouched (List.mem_map.mpr ⟨new, List.mem_cons_of_mem _ newListed, key⟩)
  refine ⟨rfl, ?_, (heldValue_of_ne different).symm⟩
  rw [Accounts.judgedAgain, if_neg different, if_neg unwanted]

section

variable (listed : row ∈ accounts.readings.rows)

include listed

section

variable (returned : accounts.changedRows today meter row newValue reason kind = .ok changed)

include returned

theorem session_judged (member : reading ∈ (accounts.saveRows changed).readings.rows) :
    ∃ old ∈ accounts.readings.rows, Judged accounts today meter row newValue kind old reading := by
  rcases (mem_session returned).mp member with new | ⟨before, untouched⟩
  · exact changed_judged listed returned new
  · exact ⟨reading, before, untouched_judged returned before untouched⟩

theorem judged_session (oldListed : old ∈ accounts.readings.rows) :
    ∃ reading ∈ (accounts.saveRows changed).readings.rows,
      Judged accounts today meter row newValue kind old reading := by
  by_cases touched : old.key ∈ changed.map Reading.key
  · obtain ⟨reading, member, same⟩ := List.mem_map.mp touched
    obtain ⟨other, otherListed, judged⟩ := changed_judged listed returned member
    obtain rfl : other = old := Table.eq_of_key otherListed oldListed (judged.key.symm.trans same)
    exact ⟨reading, (mem_session returned).mpr (.inl member), judged⟩
  · exact ⟨old, (mem_session returned).mpr (.inr ⟨oldListed, touched⟩),
      untouched_judged returned oldListed touched⟩

/-- The latest accepted reading of the session comes from a stored one that is judged accepted,
and no later one before the month is. -/
theorem session_baseline
    (found : (accounts.saveRows changed).getPreviousAccepted meter.id month = some reading) :
    ∃ old ∈ accounts.readings.rows, old.meterId = meter.id ∧ old.month < month ∧
      Judged accounts today meter row newValue kind old reading ∧
      accounts.judgedAgain today meter row newValue kind old = true ∧
      ∀ other ∈ accounts.readings.rows, other.meterId = meter.id → other.month < month →
        accounts.judgedAgain today meter row newValue kind other = true →
          other.month ≤ old.month := by
  obtain ⟨member, precedes⟩ := latest_selected found
  obtain ⟨own, usable, earlier⟩ := mayPrecede_iff.mp precedes
  obtain ⟨old, oldListed, judged⟩ := session_judged listed returned member
  have ownOld : old.meterId = meter.id := (congrArg Prod.fst judged.key).symm.trans own
  have monthOld : reading.month = old.month := congrArg Prod.snd judged.key
  refine ⟨old, oldListed, ownOld, monthOld ▸ earlier, judged, judged.usable ▸ usable, ?_⟩
  intro other otherListed otherOwn otherEarlier accepted
  obtain ⟨after, afterMember, afterJudged⟩ := judged_session listed returned otherListed
  have sameMeter : after.meterId = other.meterId := congrArg Prod.fst afterJudged.key
  have sameMonth : after.month = other.month := congrArg Prod.snd afterJudged.key
  have selected : mayPrecede meter.id month after = true :=
    mayPrecede_iff.mpr ⟨sameMeter.trans otherOwn, afterJudged.usable.trans accepted,
      sameMonth ▸ otherEarlier⟩
  rw [← sameMonth, ← monthOld]
  exact le_latest found afterMember selected

theorem session_baseline_exists (oldListed : old ∈ accounts.readings.rows)
    (own : old.meterId = meter.id) (earlier : old.month < month)
    (accepted : accounts.judgedAgain today meter row newValue kind old = true) :
    ∃ reading, (accounts.saveRows changed).getPreviousAccepted meter.id month = some reading := by
  obtain ⟨after, member, judged⟩ := judged_session listed returned oldListed
  have sameMeter : after.meterId = old.meterId := congrArg Prod.fst judged.key
  have sameMonth : after.month = old.month := congrArg Prod.snd judged.key
  have selected : mayPrecede meter.id month after = true :=
    mayPrecede_iff.mpr ⟨sameMeter.trans own, judged.usable.trans accepted, sameMonth ▸ earlier⟩
  refine Option.ne_none_iff_exists'.mp fun missing => ?_
  rw [latest_eq_none_iff.mp missing after member] at selected
  cases selected

end

end

theorem eq_of_level {other : Reading} (oldListed : old ∈ accounts.readings.rows)
    (otherListed : other ∈ accounts.readings.rows) (own : old.meterId = meter.id)
    (otherOwn : other.meterId = meter.id) (level : old.month = other.month) : old = other :=
  Table.eq_of_key oldListed otherListed (Prod.ext (own.trans otherOwn.symm) level)

/-- Where the stored baseline stays accepted and nothing else is accepted in between, the
session has the same baseline value. -/
theorem previousValue_session (listed : row ∈ accounts.readings.rows)
    (returned : accounts.changedRows today meter row newValue reason kind = .ok changed)
    (calm : Undisturbed accounts today meter row newValue kind later) :
    (accounts.saveRows changed).previousValue meter.id later.month =
      accounts.heldPrevious row.key newValue meter.id later.month := by
  unfold Accounts.previousValue
  cases found : (accounts.saveRows changed).getPreviousAccepted meter.id later.month with
  | none =>
    cases stored : accounts.getPreviousAccepted meter.id later.month with
    | none =>
      rw [Accounts.heldPrevious, stored]
      rfl
    | some baseline =>
      obtain ⟨baselineListed, precedes⟩ := latest_selected stored
      obtain ⟨own, _, earlier⟩ := mayPrecede_iff.mp precedes
      obtain ⟨reading, some⟩ := session_baseline_exists listed returned baselineListed own
        earlier (calm.stays baseline stored)
      rw [found] at some
      cases some
  | some reading =>
    obtain ⟨old, oldListed, own, earlier, judged, accepted, above⟩ := session_baseline listed returned found
    change reading.value = _
    rw [judged.value]
    by_cases beyond : ∀ baseline,
        accounts.getPreviousAccepted meter.id later.month = some baseline → baseline.month < old.month
    · exact calm.spared old oldListed own earlier beyond accepted
    · obtain ⟨baseline, within⟩ := not_forall.mp beyond
      obtain ⟨stored, notBelow⟩ := Classical.not_imp.mp within
      obtain ⟨baselineListed, precedes⟩ := latest_selected stored
      obtain ⟨baselineOwn, _, baselineEarlier⟩ := mayPrecede_iff.mp precedes
      have below := above baseline baselineListed baselineOwn baselineEarlier
        (calm.stays baseline stored)
      obtain rfl : old = baseline := eq_of_level oldListed baselineListed own baselineOwn
        (Nat.le_antisymm (not_lt.mp notBelow) below)
      rw [Accounts.heldPrevious, stored]
      rfl

end

theorem changedRows_returns (evaluates : ∀ later ∈ accounts.readings.rows,
      accounts.recomputable meter.id row.month later = true →
        Undisturbed accounts today meter row newValue kind later)
    {corrected : Reading}
    (first : accounts.correctedRow today meter newValue reason kind row = .ok corrected) :
    ∃ changed, accounts.changedRows today meter row newValue reason kind = .ok changed := by
  have steps : ∀ old ∈ (accounts.readings.rows.filter
      (accounts.recomputable meter.id row.key.2)).insertionSort
        (fun left right => left.month ≤ right.month),
      ∃ new, accounts.recomputedRow today meter row.key newValue old = .ok new := by
    intro old sorted
    obtain ⟨oldListed, wanted⟩ := List.mem_filter.mp ((List.mem_insertionSort _).mp sorted)
    obtain ⟨value, held⟩ := Option.isSome_iff_exists.mp (recomputable_iff.mp wanted).2.2.1
    obtain ⟨result, evaluated⟩ := (evaluates old oldListed wanted).evaluates value held
    unfold Accounts.recomputedRow
    simp only [held]
    exact ⟨_, bind_eq_ok_iff.mpr ⟨result, evaluated, rfl⟩⟩
  obtain ⟨recomputed, second⟩ := mapM_ok_of_forall steps
  exact ⟨corrected :: recomputed,
    bind_eq_ok_iff.mpr ⟨corrected, first, bind_eq_ok_iff.mpr ⟨recomputed, second, rfl⟩⟩⟩

theorem based_changed (own : row.meterId = meter.id)
    (returned : accounts.changedRows today meter row newValue reason kind = .ok changed)
    (member : reading ∈ (accounts.saveRows changed).readings.rows)
    (anew : BasedAnew accounts row reading) : reading ∈ changed := by
  rcases (mem_session returned).mp member with new | ⟨before, untouched⟩
  · exact new
  · obtain ⟨corrected, recomputed, rfl, first, second⟩ := changedRows_ok returned
    refine absurd ?_ untouched
    rcases anew with same | wanted
    · exact List.mem_map.mpr ⟨corrected, List.mem_cons_self, (correctedRow_ok first).1.trans same.symm⟩
    · obtain ⟨new, newListed, key⟩ := recomputed_of_mem second before (own ▸ wanted)
      exact List.mem_map.mpr ⟨new, List.mem_cons_of_mem _ newListed, key⟩

theorem rebased_of_undisturbed (listed : row ∈ accounts.readings.rows)
    (own : row.meterId = meter.id)
    (calm : ∀ later ∈ accounts.readings.rows,
      accounts.recomputable meter.id row.month later = true →
        Undisturbed accounts today meter row newValue kind later) :
    Rebased accounts today meter row newValue reason kind where
  returns := fun _ first => changedRows_returns calm first
  based := by
    intro changed returned reading member anew
    obtain ⟨old, oldListed, key, value, held, evaluated, previous, origin⟩ :=
      changed_cases listed returned (based_changed own returned member anew)
    have sameMonth : reading.month = old.month := congrArg Prod.snd key
    refine ⟨?_, fun other same => ?_⟩
    · rw [previous, own, sameMonth]
      rcases origin with ⟨rfl, _⟩ | ⟨wanted, _⟩
      · -- the correction changes nothing before the corrected month
        have early : old.month ≤ old.key.2 := Nat.le_refl _
        have steady : SteadyBefore accounts meter.id old.month changed := by
          intro new newMember _ before
          obtain ⟨from', _, newKey, _, _, _, _, newOrigin⟩ := changed_cases listed returned newMember
          have level : new.month = from'.month := congrArg Prod.snd newKey
          rcases newOrigin with ⟨rfl, _⟩ | ⟨after, _⟩
          · exact absurd before (level ▸ Nat.lt_irrefl _)
          · exact absurd (level ▸ before) (Nat.lt_asymm (recomputable_iff.mp after).2.1)
        have rewrites : Rewrites accounts old.key newValue changed := by
          refine ⟨changed_distinct returned, ?_, fun new newMember => ?_⟩
          · obtain ⟨corrected, recomputed, rfl, first, _⟩ := changedRows_ok returned
            exact List.mem_map.mpr ⟨corrected, List.mem_cons_self, (correctedRow_ok first).1⟩
          · obtain ⟨from', fromListed, judged⟩ := changed_judged listed returned newMember
            exact ⟨from', fromListed, judged.key.symm, judged.value⟩
        exact (previousValue_saveRows rewrites steady).symm
      · exact (previousValue_session listed returned (calm old oldListed wanted)).symm
    · cases held.symm.trans same
      exact evaluated
  standing := by
    intro changed returned later laterListed wanted baseline stored reading member same failed
    obtain ⟨baselineListed, precedes⟩ := latest_selected stored
    obtain ⟨old, oldListed, judged⟩ := session_judged listed returned member
    obtain rfl : old = baseline := Table.eq_of_key oldListed baselineListed (judged.key.symm.trans same)
    rw [own] at wanted stored
    have accepted := (calm later laterListed wanted).stays old stored
    rw [← judged.usable, Reading.usable, failed] at accepted
    simp [ReadingStatus.accepted] at accepted

theorem unusable_of_beyond {id : MeterId} {month : Month}
    (listed : reading ∈ accounts.readings.rows) (own : reading.meterId = id)
    (earlier : reading.month < month)
    (beyond : ∀ baseline, accounts.getPreviousAccepted id month = some baseline →
      baseline.month < reading.month) : reading.usable = false := by
  refine Bool.eq_false_iff.mpr fun usable => ?_
  have precedes : mayPrecede id month reading = true := mayPrecede_iff.mpr ⟨own, usable, earlier⟩
  cases found : accounts.getPreviousAccepted id month with
  | none =>
    rw [latest_eq_none_iff.mp found reading listed] at precedes
    cases precedes
  | some baseline => exact absurd (beyond baseline found) (Nat.not_lt.mpr (le_latest found listed precedes))

theorem getPreviousAccepted_of_beyond {id : MeterId} {month following : Month}
    (within : month ≤ following)
    (beyond : ∀ baseline, accounts.getPreviousAccepted id following = some baseline →
      baseline.month < month) :
    accounts.getPreviousAccepted id month = accounts.getPreviousAccepted id following := by
  refine latest_congr (mayPrecede_ordered _) fun reading => ?_
  constructor
  · rintro ⟨listed, precedes⟩
    obtain ⟨own, usable, earlier⟩ := mayPrecede_iff.mp precedes
    exact ⟨listed, mayPrecede_iff.mpr ⟨own, usable, Nat.lt_of_lt_of_le earlier within⟩⟩
  · rintro ⟨listed, precedes⟩
    obtain ⟨own, usable, _⟩ := mayPrecede_iff.mp precedes
    cases found : accounts.getPreviousAccepted id following with
    | none =>
      rw [latest_eq_none_iff.mp found reading listed] at precedes
      cases precedes
    | some baseline =>
      have below := le_latest found listed precedes
      exact ⟨listed, mayPrecede_iff.mpr ⟨own, usable, Nat.lt_of_le_of_lt below (beyond baseline found)⟩⟩

theorem stands_of_changed (listed : row ∈ accounts.readings.rows)
    (returned : accounts.changedRows today meter row newValue reason kind = .ok changed)
    (member : reading ∈ (accounts.saveRows changed).readings.rows)
    (stood : ∀ old ∈ accounts.readings.rows, old.key = reading.key → old.usable = true)
    (standing : reading.status ≠ .error) : reading.usable = true := by
  rcases (mem_session returned).mp member with new | ⟨before, _⟩
  · obtain ⟨old, _, _, value, held, evaluated, _⟩ := changed_cases listed returned new
    obtain ⟨problems, _, ⟨_, failed, _⟩ | ⟨_, accepted, _⟩⟩ := evaluated
    · exact absurd failed standing
    · simp [Reading.usable, held, accepted]
  · exact stood reading before rfl

theorem recomputable_session
    (judged : Judged accounts today meter row newValue kind old reading)
    (wanted : accounts.recomputable meter.id row.month old = true) :
    accounts.recomputable meter.id row.month reading = true := by
  obtain ⟨own, after, valued, unclosed⟩ := recomputable_iff.mp wanted
  have sameMeter : reading.meterId = old.meterId := congrArg Prod.fst judged.key
  have sameMonth : reading.month = old.month := congrArg Prod.snd judged.key
  refine recomputable_iff.mpr ⟨sameMeter.trans own, sameMonth ▸ after, ?_, sameMonth ▸ unclosed⟩
  rw [judged.value, heldValue_of_ne (key_ne_of_later after)]
  exact valued

section

variable (listed : row ∈ accounts.readings.rows)

include listed

/-- A rightly based reading holds the value of the session's baseline, which is the value that
the query for it has found. -/
theorem session_heldPrevious (own : row.meterId = meter.id)
    (rebased : Rebased accounts today meter row newValue reason kind)
    (returned : accounts.changedRows today meter row newValue reason kind = .ok changed)
    (laterListed : later ∈ accounts.readings.rows)
    (wanted : accounts.recomputable meter.id row.month later = true) :
    (accounts.saveRows changed).previousValue meter.id later.month =
      accounts.heldPrevious row.key newValue meter.id later.month := by
  obtain ⟨reading, member, judged⟩ := judged_session listed returned laterListed
  have anew : BasedAnew accounts row reading := .inr (own.symm ▸ recomputable_session judged wanted)
  have sameMonth : reading.month = later.month := congrArg Prod.snd judged.key
  have based := (rebased.based changed returned reading member anew).1
  obtain ⟨old, oldListed, key, _, _, _, previous, _⟩ :=
    changed_cases listed returned (based_changed own returned member anew)
  have level : old.month = later.month := (congrArg Prod.snd key).symm.trans sameMonth
  rw [own, sameMonth, previous, level] at based
  exact based.symm

/-- By the month of the later reading: a reading newly accepted before it is the session's
baseline, or stands before a recomputed one with the same stored baseline. -/
theorem spared_of_rebased (own : row.meterId = meter.id)
    (rebased : Rebased accounts today meter row newValue reason kind)
    (returned : accounts.changedRows today meter row newValue reason kind = .ok changed)
    (month : Month) : ∀ later ∈ accounts.readings.rows, later.month = month →
      accounts.recomputable meter.id row.month later = true →
      ∀ old ∈ accounts.readings.rows, old.meterId = meter.id → old.month < later.month →
        (∀ baseline, accounts.getPreviousAccepted meter.id later.month = some baseline →
          baseline.month < old.month) →
        accounts.judgedAgain today meter row newValue kind old = true →
          Accounts.heldValue row.key newValue old =
            accounts.heldPrevious row.key newValue meter.id later.month := by
  induction month using Nat.strong_induction_on with
  | h month earlierMonths =>
    intro later laterListed rfl wanted old oldListed oldOwn earlier beyond accepted
    obtain ⟨best, found⟩ := session_baseline_exists listed returned oldListed oldOwn earlier accepted
    obtain ⟨last, lastListed, lastOwn, lastEarlier, judged, lastAccepted, above⟩ :=
      session_baseline listed returned found
    have held : Accounts.heldValue row.key newValue last =
        accounts.heldPrevious row.key newValue meter.id later.month := by
      rw [← session_heldPrevious listed own rebased returned laterListed wanted, ← judged.value,
        Accounts.previousValue, found]
      rfl
    have below : old.month ≤ last.month := above old oldListed oldOwn earlier accepted
    rcases Nat.eq_or_lt_of_le below with level | before
    · obtain rfl : old = last := eq_of_level oldListed lastListed oldOwn lastOwn level
      exact held
    · have lastBeyond : ∀ baseline,
          accounts.getPreviousAccepted meter.id later.month = some baseline →
            baseline.month < last.month :=
        fun baseline stored => Nat.lt_trans (beyond baseline stored) before
      have lastUnusable := unusable_of_beyond lastListed lastOwn lastEarlier lastBeyond
      have oldUnusable := unusable_of_beyond oldListed oldOwn earlier beyond
      unfold Accounts.judgedAgain at lastAccepted
      split at lastAccepted
      · next corrected =>
          -- what stands before the corrected reading is judged as it has been
          have lastMonth : last.month = row.month := congrArg Prod.snd corrected
          have different : old.key ≠ row.key := by
            intro same
            have oldMonth : old.month = row.month := congrArg Prod.snd same
            exact Nat.ne_of_lt before (oldMonth.trans lastMonth.symm)
          have unwanted : ¬ accounts.recomputable meter.id row.month old = true := fun after =>
            Nat.lt_asymm (recomputable_iff.mp after).2.1 (lastMonth ▸ before)
          rw [Accounts.judgedAgain, if_neg different, if_neg unwanted, oldUnusable] at accepted
          cases accepted
      · split at lastAccepted
        · next recomputed =>
            have same := getPreviousAccepted_of_beyond (Nat.le_of_lt lastEarlier) lastBeyond
            have carried := earlierMonths last.month lastEarlier last lastListed rfl recomputed
              old oldListed oldOwn before (fun baseline stored => beyond baseline (same ▸ stored)) accepted
            rw [carried, Accounts.heldPrevious, same]
            rfl
        · rw [lastUnusable] at lastAccepted
          cases lastAccepted

theorem undisturbed_of_rebased (own : row.meterId = meter.id)
    (rebased : Rebased accounts today meter row newValue reason kind)
    (returned : accounts.changedRows today meter row newValue reason kind = .ok changed)
    (laterListed : later ∈ accounts.readings.rows)
    (wanted : accounts.recomputable meter.id row.month later = true) :
    Undisturbed accounts today meter row newValue kind later where
  evaluates := by
    intro value held
    obtain ⟨corrected, recomputed, rfl, first, second⟩ := changedRows_ok returned
    obtain ⟨new, _, made⟩ := mem_value_of_mapM second
      ((List.mem_insertionSort _).mpr (List.mem_filter.mpr ⟨laterListed, wanted⟩))
    unfold Accounts.recomputedRow at made
    simp only [held] at made
    obtain ⟨result, evaluated, _⟩ := bind_eq_ok_iff.mp made
    exact ⟨result, evaluated⟩
  stays := by
    intro baseline stored
    obtain ⟨baselineListed, precedes⟩ := latest_selected stored
    obtain ⟨reading, member, judged⟩ := judged_session listed returned baselineListed
    rw [← judged.usable]
    refine stands_of_changed listed returned member (fun old oldListed same => ?_)
      (rebased.standing changed returned later laterListed (own.symm ▸ wanted) baseline
        (own.symm ▸ stored) reading member judged.key)
    obtain rfl : old = baseline := Table.eq_of_key oldListed baselineListed (same.trans judged.key)
    exact (mayPrecede_iff.mp precedes).2.1
  spared := spared_of_rebased listed own rebased returned later.month later laterListed rfl wanted

theorem undisturbed_of_evaluates (own : row.meterId = meter.id)
    (rebased : Rebased accounts today meter row newValue reason kind) {result : Evaluation}
    (evaluated : evaluateValue (accounts.surroundings today meter row.month) meter row.month (accounts.previousValue meter.id row.month) newValue row.readAt kind = .ok result)
    (laterListed : later ∈ accounts.readings.rows)
    (wanted : accounts.recomputable meter.id row.month later = true) :
    Undisturbed accounts today meter row newValue kind later := by
  have first : accounts.correctedRow today meter newValue reason kind row = .ok _ :=
    bind_eq_ok_iff.mpr ⟨result, evaluated, rfl⟩
  obtain ⟨changed, returned⟩ := rebased.returns _ first
  exact undisturbed_of_rebased listed own rebased returned laterListed wanted

end

/-- A correction is right exactly where its own value cannot be evaluated, or every later
reading that it bases anew is undisturbed. -/
theorem rebased_iff (listed : row ∈ accounts.readings.rows) (own : row.meterId = meter.id) :
    Rebased accounts today meter row newValue reason kind ↔
      ((∃ result, evaluateValue (accounts.surroundings today meter row.month) meter row.month
          (accounts.previousValue meter.id row.month) newValue row.readAt kind = .ok result) →
        ∀ later ∈ accounts.readings.rows,
          accounts.recomputable meter.id row.month later = true →
            Undisturbed accounts today meter row newValue kind later) := by
  constructor
  · rintro rebased ⟨result, evaluated⟩ later laterListed wanted
    exact undisturbed_of_evaluates listed own rebased evaluated laterListed wanted
  · intro calm
    by_cases evaluates : ∃ result, evaluateValue (accounts.surroundings today meter row.month)
        meter row.month (accounts.previousValue meter.id row.month) newValue row.readAt kind = .ok result
    · exact rebased_of_undisturbed listed own (calm evaluates)
    · have fails : ∀ corrected,
          accounts.correctedRow today meter newValue reason kind row ≠ .ok corrected := by
        intro corrected first
        obtain ⟨result, evaluated, _⟩ := bind_eq_ok_iff.mp first
        exact evaluates ⟨result, evaluated⟩
      have stops : ∀ changed,
          accounts.changedRows today meter row newValue reason kind ≠ .ok changed := by
        intro changed returned
        obtain ⟨corrected, _, _, first, _⟩ := changedRows_ok returned
        exact fails corrected first
      exact ⟨fun corrected first => absurd first (fails corrected),
        fun changed returned => absurd returned (stops changed),
        fun changed returned => absurd returned (stops changed)⟩

instance undisturbedDecidable (accounts : Accounts) (today : Day) (meter : Meter) (row : Reading)
    (newValue : ℚ) (kind : ReadingKind) (later : Reading) :
    Decidable (Undisturbed accounts today meter row newValue kind later) :=
  decidable_of_iff
    ((∀ value ∈ later.value, (evaluateValue (accounts.surroundings today meter later.month) meter
        later.month (accounts.heldPrevious row.key newValue meter.id later.month) value
        later.readAt later.kind).isOk = true) ∧
      (∀ baseline ∈ accounts.getPreviousAccepted meter.id later.month,
        accounts.judgedAgain today meter row newValue kind baseline = true) ∧
      ∀ reading ∈ accounts.readings.rows, reading.meterId = meter.id →
        reading.month < later.month →
        (∀ baseline ∈ accounts.getPreviousAccepted meter.id later.month, baseline.month < reading.month) →
        accounts.judgedAgain today meter row newValue kind reading = true →
          Accounts.heldValue row.key newValue reading =
            accounts.heldPrevious row.key newValue meter.id later.month)
    ⟨fun parts => ⟨fun value held => isOk_iff.mp (parts.1 value held), parts.2.1, parts.2.2⟩,
      fun calm => ⟨fun value held => isOk_iff.mpr (calm.evaluates value held), calm.stays, calm.spared⟩⟩

def march : Month := january + 2

def firstQuarter : Accounts :=
  run Accounts.next hallAccounts (submittedMonths ++
    [(readingDay, .worksheet (.period (.create march))),
      (readingDay, .worksheet (.entry (.put march 1 (valueEntry 200))))])

def januaryReading : Reading :=
  ⟨1, january, some 100, some 739647, .normal, none, some 100, .ok, none, none, none⟩

def marchReading : Reading :=
  ⟨1, march, some 200, some 739676, .normal, some 150, some 50, .ok, none, none, none⟩

theorem january_rebased :
    Rebased firstQuarter readingDay hallMeter januaryReading 120 "misread" .correction :=
  (rebased_iff (by decide +kernel) rfl).mpr fun _ => by decide +kernel

/-- February falls behind the corrected January, and March still stands on February. -/
theorem february_still_baseline :
    ¬ ∀ (accounts : Accounts) (today : Day) (meter : Meter) (row : Reading) (newValue : ℚ)
        (reason : String) (kind : ReadingKind) (period : ReportingPeriod),
      row ∈ accounts.readings.rows → accounts.meters.find? row.meterId = some meter →
      accounts.periods.find? row.month = some period → period.status.editable = false →
      0 ≤ newValue → Rebased accounts today meter row newValue reason kind := by
  intro rebases
  have rebased := rebases firstQuarter readingDay hallMeter januaryReading 160 "misread" .correction
    ⟨january, .submitted⟩ (by decide +kernel) (by decide +kernel) (by decide +kernel) rfl
    (by decide +kernel)
  have evaluated : evaluateValue (firstQuarter.surroundings readingDay hallMeter january) hallMeter
      january (firstQuarter.previousValue 1 january) 160 (some 739647) .correction =
        .ok ⟨some 160, .ok, none⟩ := by
    decide +kernel
  have calm : Undisturbed firstQuarter readingDay hallMeter januaryReading 160 .correction
      marchReading :=
    undisturbed_of_evaluates (by decide +kernel) rfl rebased evaluated (by decide +kernel)
      (by decide +kernel)
  exact absurd calm (by decide +kernel)

end InfrasafeBot.ResourceAccounting
