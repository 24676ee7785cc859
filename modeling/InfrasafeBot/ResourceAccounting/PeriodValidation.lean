import InfrasafeBot.ResourceAccounting.Baselines

/-! The summary of what blocks the confirmation of a period, and the confirmation itself
(`api/periods.py`). The summary counts the active meters without a reading; the confirmation
looks at the readings that there are. -/

set_option autoImplicit false

namespace InfrasafeBot.ResourceAccounting

open Library

structure PeriodSummary where
  period : ReportingPeriod
  activeMeters : Nat
  entered : Nat
  notEntered : Nat
  byStatus : ReadingStatus → Nat
  warningsWithoutComment : List MeterId
  errors : List (MeterId × Option ValidationMessage)
  canSubmit : Bool

def Reading.uncommented (reading : Reading) : Bool :=
  reading.status = .warning && (reading.comment = none || reading.comment = some "")

namespace Accounts

variable (accounts : Accounts)

def activeIds : List MeterId := (accounts.meters.rows.filter fun meter => meter.status = .active).map (·.id)

def readingsOf (month : Month) : List Reading :=
  accounts.readings.rows.filter fun reading => reading.month = month

def validatePeriod (month : Month) : Except Refusal PeriodSummary := do
  let period ← accounts.getPeriod month
  let activeIds := accounts.activeIds
  let readings := accounts.readingsOf month
  let uncommented := (readings.filter Reading.uncommented).map (·.meterId)
  let errors := (readings.filter fun reading => reading.status = .error).map fun reading =>
    (reading.meterId, reading.validationMessage)
  let enteredActive := ((readings.map (·.meterId)).filter fun id => id ∈ activeIds).dedup
  let notEntered := (activeIds.filter fun id => id ∉ enteredActive).length
  return {
    period := period, activeMeters := activeIds.length, entered := enteredActive.length
    notEntered := notEntered
    byStatus := fun status => readings.countP fun reading => reading.status = status
    warningsWithoutComment := uncommented, errors := errors
    canSubmit := errors.isEmpty && uncommented.isEmpty && notEntered == 0 }

/-- Every active meter has a reading in the month, whatever its status. -/
def AllEntered (month : Month) : Prop :=
  ∀ meter ∈ accounts.meters.rows, meter.status = .active →
    ∃ reading ∈ accounts.readings.rows, reading.month = month ∧ reading.meterId = meter.id

/-- A reading of the month is an error, or a warning without a comment. -/
def Blocked (month : Month) : Prop :=
  ∃ reading ∈ accounts.readings.rows, reading.month = month ∧ reading.blocks = true

end Accounts

section

variable {accounts : Accounts} {month : Month} {period : ReportingPeriod}
  {summary : PeriodSummary} {reading : Reading} {id : MeterId}

theorem mem_activeIds : id ∈ accounts.activeIds ↔
    ∃ meter ∈ accounts.meters.rows, meter.status = .active ∧ meter.id = id := by
  unfold Accounts.activeIds
  simp only [List.mem_map, List.mem_filter, decide_eq_true_eq, and_assoc]

theorem mem_readingsOf : reading ∈ accounts.readingsOf month ↔
    reading ∈ accounts.readings.rows ∧ reading.month = month := by
  unfold Accounts.readingsOf
  rw [List.mem_filter, decide_eq_true_eq]

theorem blocks_iff : reading.blocks = true ↔ reading.status = .error ∨ reading.uncommented = true := by
  unfold Reading.blocks Reading.uncommented
  simp only [Bool.or_eq_true, decide_eq_true_eq]

theorem unblocked_iff :
    (((accounts.readingsOf month).filter fun reading => reading.status = .error) = [] ∧
        (accounts.readingsOf month).filter Reading.uncommented = []) ↔
      ¬ accounts.Blocked month := by
  rw [List.filter_eq_nil_iff, List.filter_eq_nil_iff]
  constructor
  · rintro ⟨noError, noWarning⟩ ⟨reading, listed, own, blocks⟩
    have inPeriod := mem_readingsOf.mpr ⟨listed, own⟩
    rcases blocks_iff.mp blocks with failed | uncommented
    · exact noError reading inPeriod (decide_eq_true failed)
    · exact noWarning reading inPeriod uncommented
  · intro free
    refine ⟨fun reading inPeriod failed => ?_, fun reading inPeriod uncommented => ?_⟩
    · obtain ⟨listed, own⟩ := mem_readingsOf.mp inPeriod
      exact free ⟨reading, listed, own, blocks_iff.mpr (.inl (of_decide_eq_true failed))⟩
    · obtain ⟨listed, own⟩ := mem_readingsOf.mp inPeriod
      exact free ⟨reading, listed, own, blocks_iff.mpr (.inr uncommented)⟩

theorem notEntered_iff :
    (accounts.activeIds.filter fun id => id ∉
        (((accounts.readingsOf month).map (·.meterId)).filter fun id =>
          id ∈ accounts.activeIds).dedup) = [] ↔ accounts.AllEntered month := by
  rw [List.filter_eq_nil_iff]
  constructor
  · intro none meter listed active
    have entered := none meter.id (mem_activeIds.mpr ⟨meter, listed, active, rfl⟩)
    rw [decide_eq_true_eq, not_not, List.mem_dedup] at entered
    obtain ⟨reading, inPeriod, own⟩ := List.mem_map.mp (List.mem_filter.mp entered).1
    obtain ⟨readingListed, sameMonth⟩ := mem_readingsOf.mp inPeriod
    exact ⟨reading, readingListed, sameMonth, own⟩
  · intro all id active
    obtain ⟨meter, listed, isActive, rfl⟩ := mem_activeIds.mp active
    obtain ⟨reading, readingListed, sameMonth, own⟩ := all meter listed isActive
    rw [decide_eq_true_eq, not_not, List.mem_dedup]
    refine List.mem_filter.mpr ⟨?_, decide_eq_true active⟩
    exact List.mem_map.mpr ⟨reading, mem_readingsOf.mpr ⟨readingListed, sameMonth⟩, own⟩

theorem canSubmit_iff (summarized : accounts.validatePeriod month = .ok summary) :
    summary.canSubmit = true ↔ ¬ accounts.Blocked month ∧ accounts.AllEntered month := by
  obtain ⟨period, found, returned⟩ := bind_eq_ok_iff.mp summarized
  cases returned
  rw [← unblocked_iff, ← notEntered_iff]
  simp only [Bool.and_eq_true, List.isEmpty_iff, List.map_eq_nil_iff, beq_iff_eq, List.length_eq_zero_iff]

theorem validatePeriod_ok (found : accounts.getPeriod month = .ok period) :
    ∃ summary, accounts.validatePeriod month = .ok summary :=
  ⟨_, bind_eq_ok_iff.mpr ⟨period, found, rfl⟩⟩

theorem submit_ok_iff (found : accounts.getPeriod month = .ok period)
    (review : period.status = .review) :
    (∃ written, accounts.submit month = .ok written) ↔ ¬ accounts.Blocked month := by
  have scanned : accounts.readings.rows.any
      (fun reading => reading.month = month && reading.blocks) = true ↔
        accounts.Blocked month := by
    simp only [List.any_eq_true, Bool.and_eq_true, decide_eq_true_eq, Accounts.Blocked]
  have moves : .submitted ∈ period.status.flow := by
    rw [review]
    decide
  have reviewed : ¬ period.status ≠ .review := not_not.mpr review
  constructor
  · rintro ⟨written, returned⟩ blocked
    obtain ⟨loaded, again, rest⟩ := bind_eq_ok_iff.mp returned
    cases found.symm.trans again
    dsimp only at rest
    rw [if_neg reviewed, if_pos (scanned.mpr blocked)] at rest
    cases rest
  · intro free
    refine ⟨{ accounts with periods := accounts.periods.put { period with status := .submitted } },
      bind_eq_ok_iff.mpr ⟨period, found, ?_⟩⟩
    dsimp only
    rw [if_neg reviewed, if_neg fun listed => free (scanned.mp listed)]
    refine bind_eq_ok_iff.mpr ⟨period, found, ?_⟩
    dsimp only
    rw [if_neg (not_not.mpr moves)]
    rfl

/-- The summary and the submit agree where every active meter has a reading, or something
blocks the period anyway. -/
theorem can_submit_agrees_iff (found : accounts.getPeriod month = .ok period)
    (review : period.status = .review) :
    ((∃ summary, accounts.validatePeriod month = .ok summary ∧ summary.canSubmit = true) ↔
        ∃ written, accounts.submit month = .ok written) ↔
      accounts.AllEntered month ∨ accounts.Blocked month := by
  obtain ⟨summary, summarized⟩ := validatePeriod_ok found
  have allowed : (∃ summary, accounts.validatePeriod month = .ok summary ∧
      summary.canSubmit = true) ↔ ¬ accounts.Blocked month ∧ accounts.AllEntered month := by
    constructor
    · rintro ⟨other, returned, can⟩
      exact (canSubmit_iff returned).mp can
    · intro free
      exact ⟨summary, summarized, (canSubmit_iff summarized).mpr free⟩
  rw [allowed, submit_ok_iff found review]
  by_cases blocked : accounts.Blocked month
  · simp [blocked]
  · simp [blocked]

end

/-! A period in review, and an active meter without a reading in it. -/

theorem reviewed_periods : [24300].Nodup := List.nodup_singleton 24300

theorem reviewed_meters : [1].Nodup := List.nodup_singleton 1

def unreadAccounts (readings : Table Reading.key) : Accounts where
  meters := ⟨[⟨1, "A-1", "A-1", .electricity, .active, 1, none, 1, none⟩], reviewed_meters⟩
  periods := ⟨[⟨24300, .review⟩], reviewed_periods⟩
  readings := readings
  rules := fun _ => none

/-- The summary does not let the period be submitted, and the submit succeeds. -/
theorem submitted_unread :
    ¬ ∀ (accounts : Accounts) (month : Month) (period : ReportingPeriod),
      accounts.getPeriod month = .ok period → period.status = .review →
        ((∃ summary, accounts.validatePeriod month = .ok summary ∧ summary.canSubmit = true) ↔
          ∃ written, accounts.submit month = .ok written) := by
  intro agree
  have same := agree (unreadAccounts .empty) 24300 ⟨24300, .review⟩ rfl rfl
  obtain ⟨summary, summarized, can⟩ := same.mpr ⟨_, rfl⟩
  cases summarized
  revert can
  decide

/-- With its reading entered the two agree. -/
theorem agree_entered :
    ((∃ summary, (unreadAccounts ⟨[Reading.fresh 1 24300], List.nodup_singleton _⟩).validatePeriod
          24300 = .ok summary ∧ summary.canSubmit = true) ↔
        ∃ written, (unreadAccounts ⟨[Reading.fresh 1 24300], List.nodup_singleton _⟩).submit
          24300 = .ok written) ↔
      (unreadAccounts ⟨[Reading.fresh 1 24300], List.nodup_singleton _⟩).AllEntered 24300 ∨
        (unreadAccounts ⟨[Reading.fresh 1 24300], List.nodup_singleton _⟩).Blocked 24300 :=
  can_submit_agrees_iff rfl rfl

end InfrasafeBot.ResourceAccounting
