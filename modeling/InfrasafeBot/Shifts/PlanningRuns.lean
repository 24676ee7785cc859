import Mathlib.Algebra.GroupWithZero.Nat
import Mathlib.Order.SuccPred.IntervalSucc
import InfrasafeBot.Shifts.ReassignmentProperties
import InfrasafeBot.Shifts.TemplatePlanning

/-! Whether a template yields one batch of shifts for a day. The count that a call makes is as
good as the database is still at its commit; a batch is committed as a whole or not at all. -/

set_option autoImplicit false

namespace InfrasafeBot.Shifts

open Library Library.Machine RequestWorkflow

namespace BusinessZone

variable {zone : BusinessZone} {day other : CalendarDay} {moment : Moment}

theorem midnight_strictMono (zone : BusinessZone) : StrictMono fun day => zone.instant day 0 :=
  strictMono_int_of_lt_succ fun day => (zone.within day 0 (by omega)).2

theorem onDay_unique (onDay : zone.onDay day moment = true)
    (also : zone.onDay other moment = true) : day = other := by
  simp only [BusinessZone.onDay, Bool.and_eq_true, decide_eq_true_eq] at onDay also
  have monotone := zone.midnight_strictMono.monotone
  rcases lt_trichotomy day other with earlier | same | later
  · have before : zone.instant (day + 1) 0 ≤ zone.instant other 0 := monotone earlier
    exact absurd (Int.lt_of_lt_of_le onDay.2 before) (Int.not_lt.mpr also.1)
  · exact same
  · have before : zone.instant (other + 1) 0 ≤ zone.instant day 0 := monotone later
    exact absurd (Int.lt_of_lt_of_le also.2 before) (Int.not_lt.mpr onDay.1)

theorem onDay_wallClock {hour minute : Int}
    (clock : zone.wallClock day hour minute = some moment) : zone.onDay day moment = true := by
  unfold BusinessZone.wallClock at clock
  split at clock
  · next valid =>
      cases clock
      have inDay : hour.toNat * 60 + minute.toNat < 1440 := by omega
      obtain ⟨begun, notYet⟩ := zone.within day _ inDay
      simp [BusinessZone.onDay, begun, notYet]
  · cases clock

end BusinessZone

def PlannedShift.isFor (zone : BusinessZone) (day : CalendarDay) (templateId : TemplateId)
    (row : PlannedShift) : Bool :=
  row.templateId = some templateId && row.shift.plannedStartTime.any (zone.onDay day)

def Batch.isFor (day : CalendarDay) (templateId : TemplateId) (batch : Batch) : Bool :=
  batch.templateId = templateId && batch.day = day

def PlanStore.batchesFor (store : PlanStore) (day : CalendarDay) (templateId : TemplateId) : List Batch :=
  store.batches.filter (Batch.isFor day templateId)

/-- Where the template had no shifts on the day, it has none or one whole batch. -/
def OneBatch (zone : BusinessZone) (start store : PlanStore) : Prop :=
  ∀ day templateId, existingShifts zone start day templateId = 0 →
    existingShifts zone store day templateId = 0 ∨
      ∃ batch, store.batchesFor day templateId = [batch] ∧ batch.size = batch.wanted ∧
        existingShifts zone store day templateId = batch.size

/-- Every batch is a whole one, on a day that had none, and the shifts are those of the start
and of the batches. -/
structure Tally (zone : BusinessZone) (start store : PlanStore) : Prop where
  staff : store.staff = start.staff
  count : ∀ day templateId, existingShifts zone store day templateId =
    existingShifts zone start day templateId + ((store.batchesFor day templateId).map (·.size)).sum
  whole : ∀ batch ∈ store.batches, 0 < batch.size ∧ batch.size = batch.wanted ∧
    existingShifts zone start batch.day batch.templateId = 0

section

variable {zone : BusinessZone} {start store : PlanStore} {day : CalendarDay}
  {templateId : TemplateId}

theorem Tally.le (tally : Tally zone start store) :
    existingShifts zone start day templateId ≤ existingShifts zone store day templateId := by
  have count := tally.count day templateId
  omega

theorem Tally.batches_nil_iff (tally : Tally zone start store)
    (none : existingShifts zone start day templateId = 0) :
    store.batchesFor day templateId = [] ↔ existingShifts zone store day templateId = 0 := by
  have count := tally.count day templateId
  cases found : store.batchesFor day templateId with
  | nil =>
    rw [found] at count
    simp only [List.map_nil, List.sum_nil] at count
    exact iff_of_true rfl (by omega)
  | cons batch rest =>
    have listed : batch ∈ store.batches :=
      (List.mem_filter.mp (show batch ∈ store.batchesFor day templateId by
        rw [found]; exact List.mem_cons_self)).1
    have size := (tally.whole batch listed).1
    rw [found] at count
    simp only [List.map_cons, List.sum_cons] at count
    refine iff_of_false (List.cons_ne_nil batch rest) ?_
    omega

theorem oneBatch_iff (tally : Tally zone start store) :
    OneBatch zone start store ↔
      ∀ day templateId, (store.batchesFor day templateId).length ≤ 1 := by
  constructor
  · intro once day templateId
    cases found : store.batchesFor day templateId with
    | nil => exact Nat.zero_le 1
    | cons batch rest =>
      have listed : batch ∈ store.batchesFor day templateId := by
        rw [found]
        exact List.mem_cons_self
      obtain ⟨known, fits⟩ := List.mem_filter.mp listed
      obtain ⟨rfl, rfl⟩ : batch.templateId = templateId ∧ batch.day = day := by
        simpa [Batch.isFor] using fits
      obtain ⟨_, _, none⟩ := tally.whole batch known
      rcases once batch.day batch.templateId none with empty | ⟨only, single, _⟩
      · rw [(tally.batches_nil_iff none).mpr empty] at found
        cases found
      · rw [← found, single]
        exact Nat.le_refl 1
  · intro short day templateId none
    have bound := short day templateId
    have count := tally.count day templateId
    cases found : store.batchesFor day templateId with
    | nil => exact .inl ((tally.batches_nil_iff none).mp found)
    | cons batch rest =>
      rw [found] at bound count
      have alone : rest = [] := List.eq_nil_of_length_eq_zero (by simpa using bound)
      subst alone
      have listed : batch ∈ store.batches :=
        (List.mem_filter.mp (show batch ∈ store.batchesFor day templateId by
          rw [found]; exact List.mem_cons_self)).1
      refine .inr ⟨batch, rfl, (tally.whole batch listed).2.1, ?_⟩
      simp only [List.map_cons, List.map_nil, List.sum_cons, List.sum_nil] at count
      omega

end

def PlanStage.inserts : PlanStage → Option (Creation × List PlannedShift)
  | .auditing creation (.pending drafts) => some (creation, drafts)
  | .committing creation (.pending drafts) owners => some (creation, ownDrafts drafts owners)
  | _ => none

/-- A whole batch of new shifts, on a day that had none of the template. -/
structure Drafted (zone : BusinessZone) (start : PlanStore) (creation : Creation)
    (drafts : List PlannedShift) : Prop where
  unplanned : existingShifts zone start creation.job.day creation.job.templateId = 0
  nonempty : drafts ≠ []
  own : ∀ draft ∈ drafts, draft.isFor zone creation.job.day creation.job.templateId = true
  number : drafts.length = start.wanted creation

section

variable {zone : BusinessZone} {start store : PlanStore} {creation : Creation}
  {drafts : List PlannedShift}

theorem existingShifts_eq (zone : BusinessZone) (store : PlanStore) (day : CalendarDay)
    (templateId : TemplateId) :
    existingShifts zone store day templateId =
      store.shifts.rows.countP (PlannedShift.isFor zone day templateId) := rfl

theorem countP_insertDrafts {shifts : Table PlannedShift.id} (day : CalendarDay)
    (templateId : TemplateId) :
    (insertDrafts shifts drafts).1.rows.countP (PlannedShift.isFor zone day templateId) =
      shifts.rows.countP (PlannedShift.isFor zone day templateId) +
        drafts.countP (PlannedShift.isFor zone day templateId) := by
  induction drafts generalizing shifts with
  | nil => rfl
  | cons draft rest ih =>
    have added : (shifts.insert draft.numbered (numbered_id draft)).rows =
        shifts.rows ++ [draft.numbered shifts.nextKey] := rfl
    have blind : (draft.numbered shifts.nextKey).isFor zone day templateId =
        draft.isFor zone day templateId := rfl
    simp only [insertDrafts]
    rw [ih, added, List.countP_append, List.countP_cons, List.countP_cons, List.countP_nil, blind]
    omega

theorem countP_own (own : ∀ draft ∈ drafts,
      draft.isFor zone creation.job.day creation.job.templateId = true)
    (day : CalendarDay) (templateId : TemplateId) :
    drafts.countP (PlannedShift.isFor zone day templateId) =
      if creation.job.templateId = templateId ∧ creation.job.day = day then drafts.length
      else 0 := by
  split
  · next same =>
      obtain ⟨rfl, rfl⟩ := same
      exact List.countP_eq_length.mpr own
  · next different =>
      refine List.countP_eq_zero.mpr fun draft listed counted => different ?_
      have mine := own draft listed
      simp only [PlannedShift.isFor, Bool.and_eq_true, decide_eq_true_eq] at mine counted
      cases planned : draft.shift.plannedStartTime with
      | none =>
        rw [planned] at mine
        cases mine.2
      | some moment =>
        rw [planned] at mine counted
        exact ⟨Option.some.inj (mine.1.symm.trans counted.1), BusinessZone.onDay_unique mine.2 counted.2⟩

theorem batchesFor_commitDrafts (day : CalendarDay) (templateId : TemplateId) :
    (store.commitDrafts creation drafts).batchesFor day templateId =
      if creation.job.templateId = templateId ∧ creation.job.day = day then
        ⟨creation.job.templateId, creation.job.day, store.wanted creation, drafts.length⟩ ::
          store.batchesFor day templateId
      else store.batchesFor day templateId := by
  simp only [PlanStore.batchesFor, PlanStore.commitDrafts, List.filter_cons, Batch.isFor,
    Bool.and_eq_true, decide_eq_true_eq]

theorem wanted_congr (staff : store.staff = start.staff) (creation : Creation) :
    store.wanted creation = start.wanted creation := by
  have same : eligible store = eligible start := by
    funext template telegramId
    simp only [eligible, staff]
  simp only [PlanStore.wanted, same]

theorem Tally.commitDrafts (tally : Tally zone start store)
    (drafted : Drafted zone start creation drafts) :
    Tally zone start (store.commitDrafts creation drafts) where
  staff := tally.staff
  count := by
    intro day templateId
    have before := tally.count day templateId
    rw [existingShifts_eq] at before
    rw [existingShifts_eq, batchesFor_commitDrafts]
    have added : (store.commitDrafts creation drafts).shifts.rows.countP
          (PlannedShift.isFor zone day templateId) = _ :=
      countP_insertDrafts day templateId
    rw [added, countP_own drafted.own, before]
    split
    · simp only [List.map_cons, List.sum_cons]
      omega
    · rfl
  whole := by
    intro batch listed
    rcases List.mem_cons.mp listed with rfl | earlier
    · exact ⟨List.length_pos_iff.mpr drafted.nonempty,
        drafted.number.trans (wanted_congr tally.staff creation).symm, drafted.unplanned⟩
    · exact tally.whole batch earlier

theorem commitDrafts_once_iff (tally : Tally zone start store)
    (drafted : Drafted zone start creation drafts) (once : OneBatch zone start store) :
    OneBatch zone start (store.commitDrafts creation drafts) ↔
      existingShifts zone store creation.job.day creation.job.templateId = 0 := by
  rw [oneBatch_iff (tally.commitDrafts drafted), ← tally.batches_nil_iff drafted.unplanned]
  have short := (oneBatch_iff tally).mp once
  constructor
  · intro after
    have bound := after creation.job.day creation.job.templateId
    rw [batchesFor_commitDrafts, if_pos ⟨rfl, rfl⟩, List.length_cons] at bound
    exact List.eq_nil_of_length_eq_zero (by omega)
  · intro alone day templateId
    rw [batchesFor_commitDrafts]
    split
    · next same =>
        obtain ⟨rfl, rfl⟩ := same
        rw [alone]
        exact Nat.le_refl 1
    · exact short day templateId

theorem length_ownDrafts (owners : List UserId) : (ownDrafts drafts owners).length = drafts.length := by
  induction drafts generalizing owners with
  | nil => rfl
  | cons draft rest ih =>
    cases owners with
    | nil => rfl
    | cons owner owners => simp only [ownDrafts, List.length_cons, ih]

theorem isFor_of_mem_ownDrafts {day : CalendarDay} {templateId : TemplateId}
    (own : ∀ draft ∈ drafts, draft.isFor zone day templateId = true) (owners : List UserId) :
    ∀ draft ∈ ownDrafts drafts owners, draft.isFor zone day templateId = true := by
  induction drafts generalizing owners with
  | nil =>
    intro draft listed
    cases listed
  | cons draft rest ih =>
    obtain ⟨first, later⟩ := List.forall_mem_cons.mp own
    cases owners with
    | nil => exact own
    | cons owner owners => exact List.forall_mem_cons.mpr ⟨first, ih later owners⟩

theorem Drafted.ownDrafts (drafted : Drafted zone start creation drafts)
    (owners : List UserId) : Drafted zone start creation (ownDrafts drafts owners) where
  unplanned := drafted.unplanned
  nonempty := by
    have size := List.length_pos_iff.mpr drafted.nonempty
    rw [← length_ownDrafts owners] at size
    exact List.length_pos_iff.mp size
  own := isFor_of_mem_ownDrafts drafted.own owners
  number := (length_ownDrafts owners).trans drafted.number

theorem countP_ownShifts {shifts : Table PlannedShift.id} (day : CalendarDay)
    (templateId : TemplateId) (ids : List ShiftId) (owners : List UserId) :
    (ownShifts shifts ids owners).rows.countP (PlannedShift.isFor zone day templateId) =
      shifts.rows.countP (PlannedShift.isFor zone day templateId) := by
  induction ids generalizing shifts owners with
  | nil => rfl
  | cons id ids ih =>
    cases owners with
    | nil => rfl
    | cons owner owners =>
      simp only [ownShifts]
      rw [ih, Table.update, List.countP_map]
      refine List.countP_congr fun row _ => ?_
      simp only [Function.comp_apply]
      split
      · exact Iff.rfl
      · exact Iff.rfl

end

/-- The drafts for the listed executors so far: with those for the rest they are all. -/
structure Listed (zone : BusinessZone) (start : PlanStore) (creation : Creation)
    (rest : List TelegramId) (drafts : List PlannedShift) : Prop where
  template : creation.template.id = creation.job.templateId
  unplanned : existingShifts zone start creation.job.day creation.job.templateId = 0
  own : ∀ draft ∈ drafts, draft.isFor zone creation.job.day creation.job.templateId = true
  number : (zone.wallClock creation.job.day creation.template.startHour
      creation.template.startMinute).isSome = true →
    drafts.length + (rest.filterMap (eligible start creation.template)).length = start.wanted creation
  valid : drafts ≠ [] → (zone.wallClock creation.job.day creation.template.startHour
    creation.template.startMinute).isSome = true

def Created.Prepared (zone : BusinessZone) (start : PlanStore) (creation : Creation) : Created → Prop
  | .pending drafts => Drafted zone start creation drafts
  | _ => True

def PlanStage.Prepared (zone : BusinessZone) (start : PlanStore) : PlanStage → Prop
  | .counting creation => creation.template.id = creation.job.templateId
  | .listing creation rest drafts => Listed zone start creation rest drafts
  | .gathering creation drafts => Drafted zone start creation drafts
  | .assessing creation _ created => created.Prepared zone start creation
  | .auditing creation created => created.Prepared zone start creation
  | .fallingBack creation created => created.Prepared zone start creation
  | .committing creation created _ => created.Prepared zone start creation
  | _ => True

section

variable {zone : BusinessZone} {suits : List PlannedShift → PlannedShift → Bool}
  {start store : PlanStore} {creation : Creation} {drafts : List PlannedShift}

theorem eligible_congr (staff : store.staff = start.staff) (template : ShiftTemplate)
    (telegramId : TelegramId) : eligible store template telegramId =
      eligible start template telegramId := by
  simp only [eligible, staff]

theorem isFor_of_created {template : ShiftTemplate} {day : CalendarDay} {userId : Option UserId}
    {draft : PlannedShift} (made : createSingleShift zone template day userId = some draft) :
    draft.isFor zone day template.id = true := by
  obtain ⟨moment, clock, rfl⟩ := Option.map_eq_some_iff.mp made
  simp [PlannedShift.isFor, BusinessZone.onDay_wallClock clock]

theorem endJob_prepared (run : PlanRun) : run.endJob.Prepared zone start := by
  unfold PlanRun.endJob
  split
  · trivial
  · split
    · trivial
    · trivial

theorem raised_prepared (stage : PlanStage) : stage.raised.Prepared zone start := by
  cases stage with
  | idle | planningWeek | planningAhead | scheduling | finished => trivial
  | _ => exact endJob_prepared _

theorem Listed.nil (template : creation.template.id = creation.job.templateId)
    (none : existingShifts zone start creation.job.day creation.job.templateId = 0)
    (listed : creation.job.executorIds.isEmpty = false) :
    Listed zone start creation creation.job.executorIds [] where
  template := template
  unplanned := none
  own := fun _ member => by cases member
  number := fun _ => by simp [PlanStore.wanted, listed]
  valid := fun nonempty => absurd rfl nonempty

theorem afterCount_prepared (template : creation.template.id = creation.job.templateId)
    (none : existingShifts zone start creation.job.day creation.job.templateId = 0) :
    (afterCount zone creation).Prepared zone start := by
  unfold afterCount
  split
  · next unlisted =>
      split
      · exact endJob_prepared creation.run
      · next draft made =>
          dsimp only
          split
          · exact endJob_prepared creation.run
          · next filled =>
              refine ⟨none, fun empty => filled (List.isEmpty_iff.mpr empty), ?_, ?_⟩
              · intro member listed
                obtain ⟨_, rfl⟩ := List.mem_replicate.mp listed
                rw [← template]
                exact isFor_of_created made
              · simp [PlanStore.wanted, unlisted]
  · next listed => exact Listed.nil template none (Bool.eq_false_of_not_eq_true listed)

variable {rest : List TelegramId} {telegramId : TelegramId} {stage : PlanStage}

theorem Listed.skip (listed : Listed zone start creation (telegramId :: rest) drafts)
    (refused : eligible start creation.template telegramId = none) :
    Listed zone start creation rest drafts where
  template := listed.template
  unplanned := listed.unplanned
  own := listed.own
  number := by
    intro valid
    have total := listed.number valid
    rw [List.filterMap_cons_none refused] at total
    exact total
  valid := listed.valid

theorem Listed.add {user : User} (listed : Listed zone start creation (telegramId :: rest) drafts)
    (found : eligible start creation.template telegramId = some user) :
    Listed zone start creation rest (drafts ++
      (createSingleShift zone creation.template creation.job.day (some user.id)).toList) where
  template := listed.template
  unplanned := listed.unplanned
  own := by
    intro draft member
    rcases List.mem_append.mp member with old | new
    · exact listed.own draft old
    · rw [← listed.template]
      exact isFor_of_created (Option.mem_toList.mp new)
  number := by
    intro valid
    have total := listed.number valid
    obtain ⟨moment, clock⟩ := Option.isSome_iff_exists.mp valid
    rw [List.filterMap_cons_some found, List.length_cons] at total
    simp only [createSingleShift, clock, Option.map_some, Option.toList_some, List.length_append,
      List.length_cons, List.length_nil]
    omega
  valid := by
    intro nonempty
    cases clock : zone.wallClock creation.job.day creation.template.startHour
        creation.template.startMinute with
    | none =>
      simp only [createSingleShift, clock, Option.map_none, Option.toList_none, List.append_nil] at nonempty
      rw [← clock]
      exact listed.valid nonempty
    | some moment => rfl

theorem Listed.drafted (listed : Listed zone start creation [] drafts) (nonempty : drafts ≠ []) :
    Drafted zone start creation drafts where
  unplanned := listed.unplanned
  nonempty := nonempty
  own := listed.own
  number := listed.number (listed.valid nonempty)

theorem performPlan_prepared (tally : Tally zone start store)
    (prepared : stage.Prepared zone start) :
    (performPlan zone suits store stage).2.Prepared zone start := by
  cases stage with
  | idle | finished | scheduling => trivial
  | planningWeek | planningAhead => exact endJob_prepared _
  | finding run job =>
    simp only [performPlan]
    split
    · exact endJob_prepared run
    · next template found =>
        split
        · exact Table.key_of_find? (Option.filter_eq_some_iff.mp found).1
        · exact endJob_prepared run
  | counting creation =>
    simp only [performPlan]
    split
    · exact endJob_prepared creation.run
    · next none =>
        have counted : existingShifts zone start creation.job.day creation.job.templateId ≤
          existingShifts zone store creation.job.day creation.job.templateId := tally.le
        exact afterCount_prepared prepared (by omega)
  | listing creation rest drafts =>
    cases rest with
    | nil =>
      simp only [performPlan]
      split
      · exact endJob_prepared creation.run
      · next filled => exact prepared.drafted fun empty => filled (List.isEmpty_iff.mpr empty)
    | cons telegramId rest =>
      simp only [performPlan]
      split
      · next refused => exact prepared.skip ((eligible_congr tally.staff _ _).symm.trans refused)
      · next user found => exact prepared.add ((eligible_congr tally.staff _ _).symm.trans found)
  | gathering creation drafts =>
    simp only [performPlan]
    split
    · exact prepared
    · exact prepared
  | assessing creation rest created =>
    cases rest with
    | nil => exact prepared
    | cons draft rest =>
      simp only [performPlan]
      split
      · trivial
      · exact prepared
  | auditing creation created =>
    cases created with
    | pending | stored | lost => trivial
  | fallingBack creation created => exact prepared
  | committing creation created owners =>
    cases created with
    | pending | stored | lost => exact endJob_prepared creation.run

theorem drafted_of_inserts (prepared : stage.Prepared zone start)
    (inserts : stage.inserts = some (creation, drafts)) :
    Drafted zone start creation drafts := by
  cases stage with
  | auditing creation created =>
    cases created with
    | pending drafts =>
      cases inserts
      exact prepared
    | stored | lost => cases inserts
  | committing creation created owners =>
    cases created with
    | pending drafts =>
      cases inserts
      exact Drafted.ownDrafts prepared owners
    | stored | lost => cases inserts
  | _ => cases inserts

theorem performPlan_store (zone : BusinessZone)
    (suits : List PlannedShift → PlannedShift → Bool) (store : PlanStore) (stage : PlanStage) :
    (∃ creation drafts, stage.inserts = some (creation, drafts) ∧
        (performPlan zone suits store stage).1 = store.commitDrafts creation drafts) ∨
      stage.inserts = none ∧
        ((performPlan zone suits store stage).1 = store ∨
          ∃ ids owners, (performPlan zone suits store stage).1 =
            { store with shifts := ownShifts store.shifts ids owners }) := by
  cases stage with
  | auditing creation created =>
    cases created with
    | pending drafts => exact .inl ⟨creation, drafts, rfl, rfl⟩
    | stored | lost => exact .inr ⟨rfl, .inl rfl⟩
  | committing creation created owners =>
    cases created with
    | pending drafts => exact .inl ⟨creation, _, rfl, rfl⟩
    | stored ids => exact .inr ⟨rfl, .inr ⟨ids, owners, rfl⟩⟩
    | lost => exact .inr ⟨rfl, .inl rfl⟩
  | listing creation rest drafts =>
    refine .inr ⟨rfl, .inl ?_⟩
    cases rest with
    | nil | cons =>
      simp only [performPlan]
      split
      · rfl
      · rfl
  | assessing creation rest created =>
    refine .inr ⟨rfl, .inl ?_⟩
    cases rest with
    | nil => rfl
    | cons draft rest =>
      simp only [performPlan]
      split
      · rfl
      · rfl
  | _ =>
    refine .inr ⟨rfl, .inl ?_⟩
    simp only [performPlan]
    repeat' split
    all_goals rfl

theorem Tally.ownShifts (tally : Tally zone start store) (ids : List ShiftId)
    (owners : List UserId) :
    Tally zone start { store with shifts := ownShifts store.shifts ids owners } where
  staff := tally.staff
  count := fun day templateId =>
    (countP_ownShifts day templateId ids owners).trans (tally.count day templateId)
  whole := tally.whole

theorem performPlan_tally (tally : Tally zone start store) (prepared : stage.Prepared zone start) :
    Tally zone start (performPlan zone suits store stage).1 := by
  rcases performPlan_store zone suits store stage with
    ⟨creation, drafts, inserts, committed⟩ | ⟨_, unchanged | ⟨ids, owners, owned⟩⟩
  · rw [committed]
    exact tally.commitDrafts (drafted_of_inserts prepared inserts)
  · rw [unchanged]
    exact tally
  · rw [owned]
    exact tally.ownShifts ids owners

end

/-- A commit with new shifts meets none of the template on the day: the count still stands. -/
def CountStands (zone : BusinessZone) (store : PlanStore) (planner : Planner) : Prop :=
  planner.faults.head? ≠ some true →
    ∀ creation drafts, planner.stage.inserts = some (creation, drafts) →
      existingShifts zone store creation.job.day creation.job.templateId = 0

def PlanStore.start (templates : Table ShiftTemplate.id) (staff : List Member)
    (shifts : Table PlannedShift.id) : PlanStore :=
  ⟨templates, staff, shifts, []⟩

section

variable {n : Nat} {zone : BusinessZone} {suits : List PlannedShift → PlannedShift → Bool}
  {start store : PlanStore}

abbrev PlanState (n : Nat) := Program.State PlanStore Planner n

abbrev PlanEvent (n : Nat) := Program.Event PlanCall n

theorem performPlanner_of_fault {planner : Planner} (fault : planner.faults.head? = some true) :
    performPlanner zone suits store planner =
      (store, ⟨planner.stage.raised, planner.faults.tail⟩) := by
  unfold performPlanner
  rw [if_pos fault]

theorem performPlanner_of_answer {planner : Planner}
    (answered : planner.faults.head? ≠ some true) :
    performPlanner zone suits store planner =
      ((performPlan zone suits store planner.stage).1,
        ⟨(performPlan zone suits store planner.stage).2, planner.faults.tail⟩) := by
  unfold performPlanner
  rw [if_neg answered]

theorem planProgram_sound (zone : BusinessZone)
    (suits : List PlannedShift → PlannedShift → Bool) (start : PlanStore) :
    (planProgram zone suits).Sound Program.Anytime Program.Regardless (Tally zone start)
      (fun _ planner => planner.stage.Prepared zone start) where
  idle := fun _ _ => trivial
  start := by
    intro store call _
    cases call with
    | createShiftFromTemplate | planWeeklySchedule | autoCreateShifts => trivial
  step := by
    intro store planner _ tally prepared
    by_cases fault : planner.faults.head? = some true
    · have performed : (planProgram zone suits).perform store planner = _ := performPlanner_of_fault fault
      rw [performed]
      exact ⟨tally, raised_prepared planner.stage⟩
    · have performed : (planProgram zone suits).perform store planner = _ := performPlanner_of_answer fault
      rw [performed]
      exact ⟨performPlan_tally tally prepared, performPlan_prepared tally prepared⟩
  others := fun _ _ _ _ _ _ prepared _ _ _ => prepared

theorem performPlanner_once_iff {planner : Planner} (tally : Tally zone start store)
    (prepared : planner.stage.Prepared zone start) (once : OneBatch zone start store) :
    OneBatch zone start (performPlanner zone suits store planner).1 ↔
      CountStands zone store planner := by
  by_cases fault : planner.faults.head? = some true
  · rw [performPlanner_of_fault fault]
    exact iff_of_true once fun answered => absurd fault answered
  · rw [performPlanner_of_answer fault]
    rcases performPlan_store zone suits store planner.stage with
      ⟨creation, drafts, inserts, committed⟩ | ⟨silent, unchanged | ⟨ids, owners, owned⟩⟩
    · rw [committed, commitDrafts_once_iff tally (drafted_of_inserts prepared inserts) once]
      constructor
      · intro none _ other others same
        cases inserts.symm.trans same
        exact none
      · intro stands
        exact stands fault creation drafts inserts
    · rw [unchanged]
      refine iff_of_true once fun _ creation drafts inserts => ?_
      cases silent.symm.trans inserts
    · rw [owned]
      have kept : OneBatch zone start
          { store with shifts := ownShifts store.shifts ids owners } :=
        (oneBatch_iff (tally.ownShifts ids owners)).mpr ((oneBatch_iff tally).mp once)
      refine iff_of_true kept fun _ creation drafts inserts => ?_
      cases silent.symm.trans inserts

theorem planProgram_enters (state : PlanState n) (worker : Fin n) (planner : Planner) :
    (planProgram zone suits).Enters state worker planner :=
  fun _ _ => Program.apart_of_unlocked rfl

theorem next_once_iff {state : PlanState n} (event : PlanEvent n)
    (held : (planProgram zone suits).Holds (Tally zone start)
      (fun _ planner => planner.stage.Prepared zone start) state)
    (once : OneBatch zone start state.store) :
    OneBatch zone start ((planProgram zone suits).next state event).store ↔
      Program.Allows (CountStands zone) Program.Regardless state event := by
  cases event with
  | call worker call =>
    refine iff_of_true ?_ trivial
    simp only [Program.next]
    split
    · exact once
    · exact once
  | fail worker => exact iff_of_true once trivial
  | step worker =>
    have stored : ((planProgram zone suits).next state (.step worker)).store =
        (performPlanner zone suits state.store (state.workers worker)).1 := by
      simp only [Program.next]
      rw [if_pos (planProgram_enters state worker _)]
      rfl
    rw [stored, performPlanner_once_iff held.store (held.workers worker) once]
    exact ⟨fun stands => ⟨stands, fun _ _ => trivial⟩, fun allowed => allowed.1⟩

theorem tally_start (templates : Table ShiftTemplate.id) (staff : List Member)
    (shifts : Table PlannedShift.id) :
    Tally zone (.start templates staff shifts) (.start templates staff shifts) where
  staff := rfl
  count := fun _ _ => rfl
  whole := fun _ listed => by cases listed

/-- Along a run every template has one whole batch for a day at most, where the day had none,
exactly where no commit meets shifts that have come since the count. -/
theorem one_batch_iff (templates : Table ShiftTemplate.id) (staff : List Member)
    (shifts : Table PlannedShift.id) (events : List (PlanEvent n)) :
    (∀ past, past <+: events →
        OneBatch zone (.start templates staff shifts) (run (planProgram zone suits).next
          ((planProgram zone suits).initial (.start templates staff shifts)) past).store) ↔
      (planProgram zone suits).Careful (CountStands zone) Program.Regardless
        ((planProgram zone suits).initial (.start templates staff shifts)) events :=
  have sound := planProgram_sound zone suits (.start templates staff shifts)
  holds_along_iff_obeys (planProgram zone suits).next
    (fun state => OneBatch zone (.start templates staff shifts) state.store)
    ((planProgram zone suits).Holds (Tally zone (.start templates staff shifts))
      (fun _ planner => planner.stage.Prepared zone (.start templates staff shifts)))
    (sound.holds_initial (tally_start templates staff shifts))
    (fun _ event held => sound.holds_next held
      ((planProgram zone suits).careful_anytime _ [event] _ List.mem_cons_self))
    (fun _ _ none => .inl none)
    (fun _ event held once => next_once_iff event held once)
    events

end

def PlanStage.drafting : PlanStage → Option Creation
  | .listing creation _ _ => some creation
  | .gathering creation _ => some creation
  | .assessing creation _ (.pending _) => some creation
  | .auditing creation (.pending _) => some creation
  | .fallingBack creation (.pending _) => some creation
  | .committing creation (.pending _) _ => some creation
  | _ => none

/-- What waits for its commit has been counted, and the count still stands. -/
def PlanStage.Alone (zone : BusinessZone) (store : PlanStore) (stage : PlanStage) : Prop :=
  ∀ creation, stage.drafting = some creation →
    existingShifts zone store creation.job.day creation.job.templateId = 0

section

variable {zone : BusinessZone} {suits : List PlannedShift → PlannedShift → Bool}
  {start store : PlanStore}

variable {stage : PlanStage} {creation : Creation}

theorem alone_of_none (none : stage.drafting = none) : stage.Alone zone store := by
  intro creation drafting
  cases none.symm.trans drafting

theorem endJob_drafting (run : PlanRun) : run.endJob.drafting = none := by
  unfold PlanRun.endJob
  split
  · rfl
  · split
    · rfl
    · rfl

theorem raised_drafting (stage : PlanStage) : stage.raised.drafting = none := by
  cases stage with
  | idle | planningWeek | planningAhead | scheduling | finished => rfl
  | _ => exact endJob_drafting _

theorem afterCount_alone
    (none : existingShifts zone store creation.job.day creation.job.templateId = 0) :
    (afterCount zone creation).Alone zone store := by
  unfold afterCount
  split
  · split
    · exact alone_of_none (endJob_drafting creation.run)
    · dsimp only
      split
      · exact alone_of_none (endJob_drafting creation.run)
      · intro same drafting
        cases drafting
        exact none
  · intro same drafting
    cases drafting
    exact none

theorem inserts_drafting {drafts : List PlannedShift}
    (inserts : stage.inserts = some (creation, drafts)) : stage.drafting = some creation := by
  cases stage with
  | auditing creation created | committing creation created owners =>
    cases created with
    | pending drafts =>
      cases inserts
      rfl
    | stored | lost => cases inserts
  | _ => cases inserts

theorem performPlan_alone (alone : stage.Alone zone store) :
    (performPlan zone suits store stage).2.Alone zone (performPlan zone suits store stage).1 := by
  cases stage with
  | finding run job =>
    refine alone_of_none ?_
    simp only [performPlan]
    split
    · exact endJob_drafting run
    · split
      · rfl
      · exact endJob_drafting run
  | counting creation =>
    simp only [performPlan]
    split
    · exact alone_of_none (endJob_drafting creation.run)
    · next counted => exact afterCount_alone (Nat.eq_zero_of_not_pos counted)
  | listing creation rest drafts =>
    cases rest with
    | nil =>
      simp only [performPlan]
      split
      · exact alone_of_none (endJob_drafting creation.run)
      · exact alone
    | cons telegramId rest =>
      simp only [performPlan]
      split
      · exact alone
      · exact alone
  | gathering creation drafts =>
    simp only [performPlan]
    split
    · exact alone
    · exact alone
  | assessing creation rest created =>
    cases rest with
    | nil =>
      cases created with
      | pending drafts => exact alone
      | stored | lost => exact alone_of_none rfl
    | cons draft rest =>
      simp only [performPlan]
      split
      · exact alone_of_none rfl
      · cases created with
        | pending drafts => exact alone
        | stored | lost => exact alone_of_none rfl
  | auditing creation created =>
    cases created with
    | pending | stored | lost => exact alone_of_none rfl
  | fallingBack creation created =>
    cases created with
    | pending drafts => exact alone
    | stored | lost => exact alone_of_none rfl
  | committing creation created owners =>
    refine alone_of_none ?_
    cases created with
    | pending | stored | lost => exact endJob_drafting creation.run
  | planningWeek | planningAhead => exact alone_of_none (endJob_drafting _)
  | _ => exact alone_of_none rfl

/-- One planner after the other: the others do nothing. -/
def Unaccompanied (_ : PlanStore) (_ _ : Planner) : Prop := False

theorem planProgram_alone (zone : BusinessZone)
    (suits : List PlannedShift → PlannedShift → Bool) :
    (planProgram zone suits).Sound Program.Anytime Unaccompanied (fun _ => True)
      (fun store planner => planner.stage.Alone zone store) where
  idle := fun _ _ => alone_of_none rfl
  start := by
    intro store call _
    cases call with
    | createShiftFromTemplate | planWeeklySchedule | autoCreateShifts => exact alone_of_none rfl
  step := by
    intro store planner _ _ alone
    refine ⟨trivial, ?_⟩
    by_cases fault : planner.faults.head? = some true
    · have performed : (planProgram zone suits).perform store planner = _ := performPlanner_of_fault fault
      rw [performed]
      exact alone_of_none (raised_drafting planner.stage)
    · have performed : (planProgram zone suits).perform store planner = _ := performPlanner_of_answer fault
      rw [performed]
      exact performPlan_alone alone
  others := fun _ _ _ _ _ _ _ disturbed _ _ => False.elim disturbed

theorem alone_careful (state : PlanState 1) (events : List (PlanEvent 1))
    (held : (planProgram zone suits).Holds (fun _ => True)
      (fun store planner => planner.stage.Alone zone store) state) :
    (planProgram zone suits).Careful (CountStands zone) Program.Regardless state events := by
  have undisturbed : (planProgram zone suits).Careful Program.Anytime Unaccompanied state
      events := by
    intro taken _
    cases taken.2 with
    | call | fail => trivial
    | step worker => exact ⟨trivial, fun other different =>
      absurd (Subsingleton.elim other worker) different⟩
  intro taken listed
  have reached := (planProgram_alone zone suits).holds_trace held undisturbed taken listed
  cases taken.2 with
  | call | fail => trivial
  | step worker =>
    refine ⟨fun _ creation drafts inserts => ?_, fun _ _ => trivial⟩
    exact reached.workers worker creation (inserts_drafting inserts)

end

/-- Along any run of planners a day that had no shifts of a template gets one whole batch at
most, exactly where no commit meets shifts that have come since its count; a planner that
works alone sees to that itself. -/
theorem template_batches (zone : BusinessZone)
    (suits : List PlannedShift → PlannedShift → Bool) (templates : Table ShiftTemplate.id)
    (staff : List Member) (shifts : Table PlannedShift.id) :
    (∀ (n : Nat) (events : List (PlanEvent n)),
      (∀ past, past <+: events →
          OneBatch zone (.start templates staff shifts) (run (planProgram zone suits).next
            ((planProgram zone suits).initial (.start templates staff shifts)) past).store) ↔
        (planProgram zone suits).Careful (CountStands zone) Program.Regardless
          ((planProgram zone suits).initial (.start templates staff shifts)) events) ∧
      ∀ events : List (PlanEvent 1), ∀ past, past <+: events →
        OneBatch zone (.start templates staff shifts) (run (planProgram zone suits).next
          ((planProgram zone suits).initial (.start templates staff shifts)) past).store := by
  refine ⟨fun n events => one_batch_iff templates staff shifts events, fun events => ?_⟩
  exact (one_batch_iff templates staff shifts events).mpr
    (alone_careful _ events ((planProgram_alone zone suits).holds_initial trivial))

theorem plainInstant_within (day : Int) (minute : Nat) (inDay : minute < 1440) :
    day * 86400 + ((0 : Nat) : Int) * 60 ≤ day * 86400 + (minute : Int) * 60 ∧
      day * 86400 + (minute : Int) * 60 < (day + 1) * 86400 + ((0 : Nat) : Int) * 60 := by
  constructor
  · omega
  · omega

def plainZone : BusinessZone where
  instant := fun day minute => day * 86400 + (minute : Int) * 60
  within := plainInstant_within

def dailyTemplate : ShiftTemplate where
  id := 1
  isActive := true
  autoCreate := true
  startHour := 8
  startMinute := 0
  durationHours := 8
  requiredSpecializations := .null
  minExecutors := 1
  advanceDays := 7
  recurrenceMode := "weekday"
  daysOfWeek := [1, 2, 3, 4, 5, 6, 7]
  cycleDaysOn := none
  cycleDaysOff := none
  cycleAnchorDate := none

theorem dailyTemplate_nodup : ([dailyTemplate].map ShiftTemplate.id).Nodup := by simp

def dailyStore : PlanStore := .start ⟨[dailyTemplate], dailyTemplate_nodup⟩ [] .empty

/-- Both planners count before one of them commits. -/
def crossedPlanners : List (PlanEvent 2) :=
  [.call 0 (.createShiftFromTemplate ⟨1, 100, []⟩ []), .step 0, .step 0,
    .call 1 (.createShiftFromTemplate ⟨1, 100, []⟩ []), .step 1, .step 1,
    .step 0, .step 0, .step 0, .step 1, .step 1, .step 1]

/-- The template wants one shift for the day and gets two. -/
theorem two_batches :
    ¬ OneBatch plainZone dailyStore (run (planProgram plainZone fun _ _ => false).next
        ((planProgram plainZone fun _ _ => false).initial dailyStore : PlanState 2)
          crossedPlanners).store := by
  intro once
  have unplanned : existingShifts plainZone dailyStore 100 1 = 0 := by decide +kernel
  have planned : existingShifts plainZone (run (planProgram plainZone fun _ _ => false).next
      ((planProgram plainZone fun _ _ => false).initial dailyStore : PlanState 2)
        crossedPlanners).store 100 1 = 2 := by
    decide +kernel
  have batches : ((run (planProgram plainZone fun _ _ => false).next
      ((planProgram plainZone fun _ _ => false).initial dailyStore : PlanState 2)
        crossedPlanners).store.batchesFor 100 1).length = 2 := by
    decide +kernel
  rcases once 100 1 unplanned with none | ⟨batch, single, _⟩
  · rw [planned] at none
    cases none
  · rw [single] at batches
    cases batches

end InfrasafeBot.Shifts
