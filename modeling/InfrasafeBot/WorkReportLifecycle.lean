import InfrasafeBot.WorkReportWrites

/-! The lifecycle of a work report over every interleaving of its writers. -/

set_option autoImplicit false

namespace InfrasafeBot.WorkReports

open Library Machine RequestWorkflow MediaStorage

variable {surroundings : Surroundings} {answer : Answer} {reports : Reports} {files : MediaFiles}
  {worker : Worker}

section

/-- What holds of the copies a stage carries. -/
def StageSound (reports : Reports) : Stage → Prop
  | .validating report _ _ => report.status = .publishing
  | .reverting report => report.status = .publishing
  | .locking report _ _ _ => report.status = .publishing
  | .recording report _ _ _ => report.status = .publishing
  | .releasing report _ => report.status = .publishing
  | .describing report _ _ _ => report.status = .publishing
  | .finishing report _ => report.status = .publishing
  | .patching report changed _ _ _ => reports.find? report.id = some report ∧
      mediaEditable report.status = true ∧ changed.status = report.status
  | .autofilling report _ => reports.find? report.id = some report ∧ mediaEditable report.status = true
  | .writing report changed => reports.find? report.id = some report ∧
      mediaEditable report.status = true ∧ mediaEditable changed.status = true
  | .resetting _ copies _ => ∀ copy ∈ copies, ∃ row, reports.find? copy.id = some row ∧
      row.status = .publishing
  | _ => True

variable {after : Reports}

theorem StageSound.frame {stage : Stage} (sound : StageSound reports stage)
    (kept : ∀ id ∈ heldRows stage, ∀ row, reports.find? id = some row →
      after.find? id = some row) : StageSound after stage := by
  cases stage with
  | patching report changed before afterIds beforeActual =>
    exact ⟨kept _ (List.mem_singleton_self _) _ sound.1, sound.2⟩
  | autofilling | writing => exact ⟨kept _ (List.mem_singleton_self _) _ sound.1, sound.2⟩
  | resetting started copies todo =>
    intro copy listed
    obtain ⟨row, found, status⟩ := sound copy listed
    exact ⟨row, kept _ (List.mem_map_of_mem listed) row found, status⟩
  | _ => exact sound

theorem switchStatus_editable (present : Bool) {status : ReportStatus}
    (editable : mediaEditable status = true) :
    mediaEditable (switchStatus present status) = true := by
  cases status with
  | pending | needsMedia => cases present <;> rfl
  | _ => cases editable

theorem switchStatus_changes {present : Bool} {status : ReportStatus}
    (changes : switchStatus present status ≠ status) :
    mediaEditable (switchStatus present status) = true := by
  cases status with
  | pending | needsMedia => exact switchStatus_editable present rfl
  | _ => exact absurd rfl changes

/-- The rows a stage comes to hold are those it has held or taken. -/
abbrev Holds (surroundings : Surroundings) (reports : Reports) (worker : Worker) (stage : Stage) : Prop :=
  ∀ id ∈ heldRows stage, id ∈ heldRows worker.stage ∨ id ∈ wantedRows surroundings reports worker

theorem begin_stage {stepping : Worker} {task : Task} {rest : List Task}
    (idle : worker.stage = .idle) (queued : worker.queue = task :: rest) :
    StageSound (begin surroundings reports files stepping task).reports
      (begin surroundings reports files stepping task).worker.stage ∧
    Holds surroundings reports worker
      (begin surroundings reports files stepping task).worker.stage := by
  have wanted : wantedRows surroundings reports worker = taskRows surroundings reports task := by
    simp [wantedRows, idle, queued]
  have free : ∀ stage, heldRows stage = [] → Holds surroundings reports worker stage := by
    intro stage none id held
    rw [none] at held
    cases held
  cases task with
  | publish reportId moderatedBy =>
    dsimp only [begin, beginPublish]
    split
    · exact ⟨trivial, free _ rfl⟩
    · split
      · exact ⟨rfl, free _ rfl⟩
      · exact ⟨trivial, free _ rfl⟩
  | unpublish reportId moderatorId reason =>
    dsimp only [begin, unpublish]
    split
    · exact ⟨trivial, free _ rfl⟩
    · split <;> exact ⟨trivial, free _ rfl⟩
  | reject reportId moderatorId reason =>
    dsimp only [begin, reject]
    split
    · exact ⟨trivial, free _ rfl⟩
    · split <;> exact ⟨trivial, free _ rfl⟩
  | reopen reportId moderatorId =>
    dsimp only [begin, reopen]
    split
    · exact ⟨trivial, free _ rfl⟩
    · split <;> exact ⟨trivial, free _ rfl⟩
  | patch reportId body =>
    dsimp only [begin, beginPatch]
    split
    · exact ⟨trivial, free _ rfl⟩
    · next report found =>
        have numbered : report.id = reportId := Table.key_of_find? found
        have taken : ∀ id ∈ [report.id], id ∈ heldRows worker.stage ∨
            id ∈ wantedRows surroundings reports worker := by
          intro id held
          rw [wanted]
          exact .inr (numbered ▸ held)
        split
        · exact ⟨trivial, free _ rfl⟩
        · next editable =>
            have open_ : mediaEditable report.status = true := by simpa using editable
            split
            · exact ⟨trivial, free _ rfl⟩
            · split
              · exact ⟨⟨numbered ▸ found, open_, open_⟩, taken⟩
              · exact ⟨⟨numbered ▸ found, open_, rfl⟩, taken⟩
  | autofillOne reportId =>
    dsimp only [begin, beginAutofillOne]
    split
    · exact ⟨trivial, free _ rfl⟩
    · next report found =>
        have numbered : report.id = reportId := Table.key_of_find? found
        split
        · next editable =>
            refine ⟨⟨numbered ▸ found, editable⟩, ?_⟩
            intro id held
            rw [wanted]
            exact .inr (numbered ▸ held)
        · exact ⟨trivial, free _ rfl⟩
  | autofillPending | autofill | revoke => exact ⟨trivial, free _ rfl⟩
  | create requestNumber categoryKey addressPublic =>
    dsimp only [begin, create]
    split <;> exact ⟨trivial, free _ rfl⟩
  | syncDrafts autopost candidates =>
    dsimp only [begin, syncDrafts]
    split <;> exact ⟨trivial, free _ rfl⟩
  | autopublish enabled categories =>
    dsimp only [begin, autopublish]
    split <;> exact ⟨trivial, free _ rfl⟩
  | reconcile =>
    have copied : ∀ row, (stepping.copy row).id = row.id := stepping.copy_id
    dsimp only [begin, beginReconcile]
    split
    · exact ⟨trivial, free _ rfl⟩
    · constructor
      · intro copy listed
        obtain ⟨row, kept, rfl⟩ := List.mem_map.mp listed
        have selected := List.mem_filter.mp kept
        have found : reports.find? (stepping.copy row).id = some row :=
          copied row ▸ Table.find?_of_mem selected.1
        refine ⟨row, found, ?_⟩
        have stale := selected.2
        rw [stuck, Bool.and_eq_true] at stale
        exact of_decide_eq_true stale.1
      · intro id held
        obtain ⟨copy, listed, rfl⟩ := List.mem_map.mp held
        obtain ⟨row, kept, rfl⟩ := List.mem_map.mp listed
        rw [wanted]
        exact .inr (copied row ▸ List.mem_map_of_mem kept)

theorem nextLock_sound (reports : Reports) {report : WorkReport} (moderatedBy : Option UserId)
    (todo acquired : List Nat) (publishing : report.status = .publishing) :
    StageSound reports (nextLock report moderatedBy todo acquired) ∧
      heldRows (nextLock report moderatedBy todo acquired) = [] := by
  unfold nextLock
  split
  · exact ⟨publishing, rfl⟩
  · exact ⟨publishing, rfl⟩

theorem advance_stage (surroundings : Surroundings) (answer : Answer) (files : MediaFiles)
    (sound : StageSound reports worker.stage) :
    StageSound (advance surroundings answer reports files worker).reports
      (advance surroundings answer reports files worker).worker.stage ∧
    Holds surroundings reports worker
      (advance surroundings answer reports files worker).worker.stage := by
  have free : ∀ stage, heldRows stage = [] → Holds surroundings reports worker stage := by
    intro stage none id held
    rw [none] at held
    cases held
  unfold advance
  cases due : worker.stage with
  | idle =>
    dsimp only
    unfold dequeue
    split
    · rw [due]
      exact ⟨trivial, free _ rfl⟩
    · next queued => exact begin_stage due queued
  | validating report moderatedBy before =>
    rw [due] at sound
    dsimp only
    unfold validateStep
    split
    · exact ⟨sound, free _ rfl⟩
    · split
      · exact ⟨sound, free _ rfl⟩
      · exact ⟨sound, free _ rfl⟩
    · exact ⟨sound, free _ rfl⟩
  | reverting | finishing | withdrawing | writing | revoking | resolving => exact ⟨trivial, free _ rfl⟩
  | locking report moderatedBy todo acquired =>
    rw [due] at sound
    dsimp only
    unfold lockStep
    split
    · have sounding := nextLock_sound reports moderatedBy [] acquired sound
      exact ⟨sounding.1, free _ sounding.2⟩
    · split
      · dsimp only
        split
        · exact ⟨sound, free _ rfl⟩
        · exact ⟨sound, free _ rfl⟩
      · exact ⟨sound, free _ rfl⟩
  | recording report moderatedBy todo acquired =>
    rw [due] at sound
    have kept : ({ report with lockedMediaIds := acquired } : WorkReport).status = .publishing := sound
    have sounding := nextLock_sound
      (recordStep reports files worker report moderatedBy todo acquired).reports moderatedBy
      todo acquired kept
    exact ⟨sounding.1, free _ sounding.2⟩
  | releasing report todo =>
    rw [due] at sound
    dsimp only
    unfold releaseStep
    split
    · exact ⟨sound, free _ rfl⟩
    · exact ⟨trivial, free _ rfl⟩
  | describing report moderatedBy acquired before =>
    rw [due] at sound
    dsimp only
    unfold describeStep
    split
    · exact ⟨sound, free _ rfl⟩
    · split
      · exact ⟨sound, free _ rfl⟩
      · exact ⟨trivial, free _ rfl⟩
    · exact ⟨trivial, free _ rfl⟩
  | unlocking todo =>
    dsimp only
    unfold unlockStep
    split <;> exact ⟨trivial, free _ rfl⟩
  | patching report changed before after beforeActual =>
    have holds : ∀ id ∈ [report.id], id ∈ heldRows worker.stage ∨
        id ∈ wantedRows surroundings reports worker := by
      intro id held
      rw [due]
      exact .inl held
    rw [due] at sound
    dsimp only
    unfold patchStep
    split
    · exact ⟨sound, holds⟩
    · split
      · obtain ⟨found, editable, same⟩ := sound
        exact ⟨⟨found, editable, switchStatus_editable _ (same ▸ editable)⟩, holds⟩
      · exact ⟨trivial, free _ rfl⟩
    · exact ⟨trivial, free _ rfl⟩
  | autofilling report before =>
    have holds : ∀ id ∈ [report.id], id ∈ heldRows worker.stage ∨
        id ∈ wantedRows surroundings reports worker := by
      intro id held
      rw [due]
      exact .inl held
    rw [due] at sound
    dsimp only
    unfold autofillStep
    split
    · exact ⟨sound, holds⟩
    · exact ⟨⟨sound.1, sound.2, switchStatus_editable _ sound.2⟩, holds⟩
    · exact ⟨trivial, free _ rfl⟩
  | fetching reportId autopublished before =>
    dsimp only
    unfold fetchStep
    split <;> exact ⟨trivial, free _ rfl⟩
  | applying reportId autopublished beforeIds afterIds =>
    dsimp only
    unfold applyStep
    split
    · exact ⟨trivial, free _ rfl⟩
    · split
      · dsimp only
        split <;> exact ⟨trivial, free _ rfl⟩
      · exact ⟨trivial, free _ rfl⟩
  | resetting started copies todo =>
    have holds : ∀ id ∈ copies.map (·.id), id ∈ heldRows worker.stage ∨
        id ∈ wantedRows surroundings reports worker := by
      intro id held
      rw [due]
      exact .inl held
    rw [due] at sound
    dsimp only
    unfold resetStep
    split
    · exact ⟨sound, holds⟩
    · exact ⟨trivial, free _ rfl⟩
  | listing offset inventory =>
    dsimp only
    unfold listStep
    split
    · dsimp only
      split <;> exact ⟨trivial, free _ rfl⟩
    · exact ⟨trivial, free _ rfl⟩
  | covering inventory =>
    dsimp only
    unfold coverStep
    dsimp only
    split <;> exact ⟨trivial, free _ rfl⟩
  | counting orphaned missing =>
    dsimp only
    unfold countStep
    split <;> exact ⟨trivial, free _ rfl⟩
  | discarding orphaned missing =>
    dsimp only
    unfold discardStep
    split <;> exact ⟨trivial, free _ rfl⟩
  | relocking missing =>
    dsimp only
    unfold relockStep
    split <;> exact ⟨trivial, free _ rfl⟩

end

variable {row reached : WorkReport} {workers : Nat}

section

theorem RowStep.kept_of_apart (step : RowStep surroundings worker row reached)
    (free : row.id ∉ heldRows worker.stage)
    (apart : row.id ∉ wantedRows surroundings reports worker) : reached = row := by
  cases step with
  | kept => rfl
  | written own writes =>
    exfalso
    cases writes with
    | publish idle queued ready => exact apart (by simp [wantedRows, idle, queued, taskRows])
    | unpublish idle queued live => exact apart (by simp [wantedRows, idle, queued, taskRows])
    | reject idle queued editable => exact apart (by simp [wantedRows, idle, queued, taskRows])
    | reopen idle queued rejected => exact apart (by simp [wantedRows, idle, queued, taskRows])
    | revert due | record due | release due | finish due => exact apart (by simp [wantedRows, due, own])
    | write due => exact free (by simp [heldRows, due, own])
    | apply due editable => exact apart (by simp [wantedRows, due])
  | batch writes listed status =>
    exfalso
    cases writes with
    | revoke due => exact apart (by rw [wantedRows, due]; exact listed)
    | reset due => exact free (by rw [due]; exact listed)

/-- The stages are sound, and no two workers hold one row. -/
structure Sound (store : Store workers) : Prop where
  stages : ∀ index, StageSound store.reports (store.workers index).stage
  exclusive : ∀ index other, index ≠ other →
    ∀ id ∈ heldRows (store.workers index).stage, id ∉ heldRows (store.workers other).stage

variable {store : Store workers}

theorem not_blocked {index : Fin workers}
    (free : ¬ blocked store surroundings index = true) (other : Fin workers)
    (different : other ≠ index) :
    ∀ id ∈ wantedRows surroundings store.reports (store.workers index),
      id ∉ heldRows (store.workers other).stage := by
  intro id wanted held
  exact free (decide_eq_true ⟨other, different, id, wanted, held⟩)

theorem Sound.set (sound : Sound store) (index : Fin workers) {worker : Worker}
    (own : StageSound store.reports worker.stage)
    (fewer : ∀ id ∈ heldRows worker.stage, id ∈ heldRows (store.workers index).stage) :
    Sound (store.set index worker) := by
  constructor
  · intro other
    by_cases same : other = index
    · subst same
      simpa [Store.set] using own
    · simpa [Store.set, same] using sound.stages other
  · intro first second different id held
    by_cases same : first = index
    · subst same
      have other : second ≠ first := Ne.symm different
      simp only [Store.set, Function.update_self] at held
      simpa [Store.set, other] using sound.exclusive first second different id (fewer id held)
    · have kept : id ∈ heldRows (store.workers first).stage := by
        simpa [Store.set, same] using held
      by_cases own : second = index
      · subst own
        intro taken
        simp only [Store.set, Function.update_self] at taken
        exact sound.exclusive first second different id kept (fewer id taken)
      · simpa [Store.set, own] using sound.exclusive first second different id kept

theorem Sound.step (sound : Sound store) (answer : Answer) {index : Fin workers}
    (free : ¬ blocked store surroundings index = true) :
    Sound (store.absorb index
      (advance surroundings answer store.reports store.files (store.workers index))) := by
  obtain ⟨own, holds⟩ := advance_stage surroundings answer store.files (sound.stages index)
  have apart : ∀ other ≠ index, ∀ id ∈ heldRows (store.workers other).stage,
      id ∉ heldRows (advance surroundings answer store.reports store.files
        (store.workers index)).worker.stage := by
    intro other different id held taken
    rcases holds id taken with kept | wanted
    · exact sound.exclusive index other (Ne.symm different) id kept held
    · exact not_blocked free other different id wanted held
  constructor
  · intro other
    by_cases same : other = index
    · subst same
      simpa [Store.absorb] using own
    · have kept : ∀ id ∈ heldRows (store.workers other).stage, ∀ row,
          store.reports.find? id = some row →
          (advance surroundings answer store.reports store.files
            (store.workers index)).reports.find? id = some row := by
        intro id held row found
        obtain ⟨reached, stored, step⟩ :=
          advance_reaches surroundings answer store.files (store.workers index) found
        have numbered : row.id = id := Table.key_of_find? found
        have unwritten : row.id ∉ heldRows (store.workers index).stage := by
          rw [numbered]
          exact sound.exclusive other index same id held
        have untaken : row.id ∉ wantedRows surroundings store.reports (store.workers index) := by
          rw [numbered]
          exact fun wanted => not_blocked free other same id wanted held
        rw [stored, step.kept_of_apart unwritten untaken]
      simpa [Store.absorb, same] using (sound.stages other).frame kept
  · intro first second different id held
    by_cases same : first = index
    · subst same
      have other : second ≠ first := Ne.symm different
      simp only [Store.absorb, Function.update_self] at held
      simp only [Store.absorb, Function.update_of_ne other]
      exact fun kept => apart second other id kept held
    · have kept : id ∈ heldRows (store.workers first).stage := by
        simpa [Store.absorb, same] using held
      by_cases own : second = index
      · subst own
        simpa [Store.absorb] using apart first same id kept
      · simpa [Store.absorb, own] using sound.exclusive first second different id kept

theorem Sound.next (sound : Sound store) (event : Event workers) : Sound (next store event) := by
  obtain ⟨index, action⟩ := event
  have nothing : ∀ id ∈ ([] : List Nat), id ∈ heldRows (store.workers index).stage := by
    intro id held
    cases held
  unfold WorkReports.next
  cases action with
  | call call =>
    dsimp only
    split
    · exact sound.set index trivial nothing
    · exact sound
  | step surroundings answer =>
    dsimp only
    split
    · exact sound
    · next free => exact sound.step answer free
  | deadline => exact sound.set index (sound.stages index) fun _ held => held
  | crash => exact sound.set index trivial nothing

def Store.quiet (workers : Nat) (reports : Reports) (files : MediaFiles) : Store workers :=
  ⟨reports, files, fun _ => .fresh⟩

theorem sound_quiet (workers : Nat) (reports : Reports) (files : MediaFiles) :
    Sound (Store.quiet workers reports files) := by
  constructor
  · exact fun _ => trivial
  · intro first second _ id held
    cases held

end

section

def declared : ReportStatus → ReportStatus → Bool
  | .pending, .needsMedia => true
  | .needsMedia, .pending => true
  | .pending, .publishing => true
  | .publishing, .pending => true
  | .publishing, .published => true
  | .published, .needsReview => true
  | .published, .rejected => true
  | .needsReview, .rejected => true
  | .pending, .rejected => true
  | .needsMedia, .rejected => true
  | .rejected, .pending => true
  | _, _ => false

/-- The step is the transaction of `reopen_report`. -/
def Reopens (store : Store workers) (event : Event workers) (id : Nat) : Prop :=
  (store.workers event.worker).stage = .idle ∧
    ∃ moderatorId rest, (store.workers event.worker).queue = .reopen id moderatorId :: rest

/-- The step takes every report along the lifecycle, and out of rejected by a reopen only. -/
def Lawful (store : Store workers) (event : Event workers) : Prop :=
  ∀ id row reached, store.reports.find? id = some row →
    (next store event).reports.find? id = some reached →
    reached.status = row.status ∨
      (declared row.status reached.status = true ∧ (row.status = .rejected → Reopens store event id))

def FindsIn (reports : Reports) (id : Nat) (statuses : List ReportStatus) : Prop :=
  ∀ row, reports.find? id = some row → row.status ∈ statuses

/-- A write on a copy that was read in an earlier transaction, without holding the row
since, finds the row where the copy has left it. -/
def TimelyStage (surroundings : Surroundings) (reports : Reports) (worker : Worker) : Prop :=
  match worker.stage, worker.queue with
  | .idle, .publish id _ :: _ =>
    ∀ row, reports.find? id = some row →
      publishable surroundings (worker.copy row) = true →
      row.status ∈ [.pending, .publishing]
  | .reverting report, _ => FindsIn reports report.id [.publishing, .pending, .needsMedia]
  | .releasing report [], _ => FindsIn reports report.id [.publishing, .pending, .needsMedia]
  | .finishing report _, _ => FindsIn reports report.id [.publishing, .published]
  | .revoking _ copies, _ => ∀ copy ∈ copies, copy.status ≠ .needsReview →
      FindsIn reports copy.id [.published, .needsReview]
  | _, _ => True

def Timely (store : Store workers) (event : Event workers) : Prop :=
  match event.action with
  | .step surroundings _ => blocked store surroundings event.worker = false →
      TimelyStage surroundings store.reports (store.workers event.worker)
  | _ => True

variable {id : Nat}

theorem declared_editable {before after : ReportStatus} (first : mediaEditable before = true)
    (second : mediaEditable after = true) : after = before ∨ declared before after = true := by
  cases before with
  | pending =>
    cases after with
    | pending => exact .inl rfl
    | needsMedia => exact .inr rfl
    | _ => cases second
  | needsMedia =>
    cases after with
    | pending => exact .inr rfl
    | needsMedia => exact .inl rfl
    | _ => cases second
  | _ => cases first

theorem not_rejected_of_editable {status : ReportStatus} (editable : mediaEditable status = true) :
    status ≠ .rejected := by
  rintro rfl
  cases editable

theorem flushReport_status (row : WorkReport) {loaded changed : WorkReport}
    (changes : changed.status ≠ loaded.status) :
    (flushReport loaded changed row).status = changed.status :=
  flushed_of_ne changes row.status

theorem status_lawful (sound : StageSound reports worker.stage)
    (timely : TimelyStage surroundings reports worker) (found : reports.find? id = some row)
    (step : RowStep surroundings worker row reached) :
    reached.status = row.status ∨ (declared row.status reached.status = true ∧
      (row.status = .rejected → worker.stage = .idle ∧
        ∃ moderatorId rest, worker.queue = .reopen id moderatorId :: rest)) := by
  have numbered : row.id = id := Table.key_of_find? found
  subst numbered
  cases step with
  | kept => exact .inl rfl
  | written own writes =>
    cases writes with
    | publish idle queued ready =>
      have pending : (worker.copy row).status = .pending := by
        simp only [publishable, Bool.and_eq_true, decide_eq_true_eq] at ready
        exact ready.1.1.1.1
      rw [flushReport_status row (by simp [pending])]
      rw [TimelyStage, idle, queued] at timely
      have listed := timely row found ready
      simp only [List.mem_cons, List.not_mem_nil, or_false] at listed
      rcases listed with status | status <;> simp [status, declared]
    | unpublish idle queued live =>
      simp only [flushReport, flushed_current]
      rcases live with status | status <;> simp [status, declared]
    | reject idle queued editable =>
      simp only [flushReport, flushed_current]
      cases status : row.status with
      | pending | needsMedia => simp [declared]
      | _ => simp [status, mediaEditable] at editable
    | reopen idle queued rejected =>
      simp only [flushReport, flushed_current]
      exact .inr ⟨by rw [rejected]; rfl, fun _ => ⟨idle, _, _, queued⟩⟩
    | revert due | release due =>
      rw [due] at sound
      rw [flushReport_status row (by simp [show _ = _ from sound])]
      rw [TimelyStage, due] at timely
      have listed := timely row (own ▸ found)
      simp only [List.mem_cons, List.not_mem_nil, or_false] at listed
      rcases listed with status | status | status <;> simp [status, declared]
    | record due => exact .inl (flushed_unchanged _ _)
    | finish due =>
      rw [due] at sound
      rw [flushReport_status row (by simp [show _ = _ from sound])]
      rw [TimelyStage, due] at timely
      have listed := timely row (own ▸ found)
      simp only [List.mem_cons, List.not_mem_nil, or_false] at listed
      rcases listed with status | status <;> simp [status, declared]
    | write due =>
      rw [due] at sound
      obtain ⟨held, editable, kept⟩ := sound
      rw [own, found, Option.some.injEq] at held
      subst held
      simp only [flushReport, flushed_current]
      exact (declared_editable editable kept).imp_right fun law =>
        ⟨law, fun rejected => absurd rejected (not_rejected_of_editable editable)⟩
    | @apply autopublished beforeIds afterIds due editable =>
      by_cases same : (applyMediaSelection surroundings.now (worker.copy row) beforeIds
          afterIds).status = (worker.copy row).status
      · left
        change flushed _ _ row.status = row.status
        rw [same, flushed_unchanged]
      · rw [flushReport_status row same]
        exact (declared_editable editable (switchStatus_changes same)).imp_right fun law =>
          ⟨law, fun rejected => absurd rejected (not_rejected_of_editable editable)⟩
  | batch writes listed status =>
    rcases status with same | ⟨copy, member, own, changes, status⟩
    · exact .inl same
    · rw [status]
      cases writes with
      | revoke due =>
        rw [TimelyStage, due] at timely
        have different : copy.status ≠ .needsReview := Ne.symm changes
        have finds := timely copy member different row (own ▸ found)
        simp only [List.mem_cons, List.not_mem_nil, or_false] at finds
        rcases finds with before | before <;> simp [before, declared, revoked]
      | reset due =>
        rw [due] at sound
        obtain ⟨stuckRow, held, publishing⟩ := sound copy member
        rw [own, found, Option.some.injEq] at held
        subst held
        simp [publishing, declared, unstuck]

theorem advance_publish (answer : Answer) (files : MediaFiles) {moderatedBy : Option UserId}
    {rest : List Task}
    (idle : worker.stage = .idle) (queued : worker.queue = .publish id moderatedBy :: rest)
    (found : reports.find? id = some row)
    (ready : publishable surroundings (worker.copy row) = true) :
    ∃ reached, (advance surroundings answer reports files worker).reports.find? id =
      some reached ∧ reached.status = .publishing := by
  have numbered : (worker.copy row).id = id := (worker.copy_id row).trans (Table.key_of_find? found)
  have copied : Worker.copy ⟨worker.session, rest, worker.stage⟩ row = worker.copy row := rfl
  have pending : (worker.copy row).status = .pending := by
    simp only [publishable, Bool.and_eq_true, decide_eq_true_eq] at ready
    exact ready.1.1.1.1
  unfold advance
  rw [idle]
  dsimp only
  unfold dequeue
  rw [queued]
  dsimp only [begin, beginPublish]
  rw [found]
  dsimp only
  rw [copied, if_pos ready, commit_reports, ← numbered]
  exact ⟨_, find?_writeBack_own _ (numbered ▸ found), flushReport_status row (by simp [pending])⟩

/-- What the law says of a status a step has written. -/
abbrev MayWrite (worker : Worker) (row : WorkReport) (status : ReportStatus) : Prop :=
  status = row.status ∨ (declared row.status status = true ∧
    (row.status = .rejected → worker.stage = .idle ∧
      ∃ moderatorId rest, worker.queue = .reopen row.id moderatorId :: rest))

theorem stage_timely (answer : Answer) (files : MediaFiles)
    (sound : StageSound reports worker.stage)
    (lawful : ∀ id row reached, reports.find? id = some row →
      (advance surroundings answer reports files worker).reports.find? id = some reached →
      MayWrite worker row reached.status) :
    TimelyStage surroundings reports worker := by
  have committed : ∀ (loaded changed : WorkReport) (stage : Stage) (row : WorkReport),
      advance surroundings answer reports files worker = commit reports files worker loaded changed stage →
      changed.status ≠ loaded.status → reports.find? loaded.id = some row →
      MayWrite worker row changed.status := by
    intro loaded changed stage row advanced changes found
    have stored := find?_writeBack_own changed found
    rw [← flushReport_status row changes]
    exact lawful loaded.id row _ found (by rw [advanced]; exact stored)
  unfold TimelyStage
  split
  · next idle queued =>
      intro row found ready
      obtain ⟨reached, stored, status⟩ := advance_publish answer files idle queued found ready
      have law := lawful _ row reached found stored
      rw [status] at law
      rcases law with same | ⟨law, _⟩
      · simp [← same]
      · cases before : row.status <;> simp [before, declared] at law ⊢
  · next report due =>
      rw [due] at sound
      intro row found
      have publishing : report.status = .publishing := sound
      have law := committed report
        { report with status := .pending, stateChangedAt := some surroundings.now } .idle row
        (by unfold advance; rw [due]; rfl) (by simp [publishing]) found
      rcases law with same | ⟨law, onlyReopen⟩
      · simp [← same]
      · cases before : row.status with
        | rejected =>
          have idle := (onlyReopen before).1
          rw [due] at idle
          cases idle
        | _ => simp [before, declared] at law ⊢
  · next report due =>
      rw [due] at sound
      intro row found
      have publishing : report.status = .publishing := sound
      have law := committed report
        { report with
          lockedMediaIds := []
          status := .pending
          stateChangedAt := some surroundings.now } .idle row
        (by unfold advance; rw [due]; rfl) (by simp [publishing]) found
      rcases law with same | ⟨law, onlyReopen⟩
      · simp [← same]
      · cases before : row.status with
        | rejected =>
          have idle := (onlyReopen before).1
          rw [due] at idle
          cases idle
        | _ => simp [before, declared] at law ⊢
  · next report moderatedBy due =>
      rw [due] at sound
      intro row found
      have publishing : report.status = .publishing := sound
      have law := committed report
        { report with
          status := .published
          publishedAt := some surroundings.now
          moderatedBy := moderatedBy } .idle row
        (by unfold advance; rw [due]; rfl) (by simp [publishing]) found
      rcases law with same | ⟨law, _⟩
      · simp [← same]
      · cases before : row.status <;> simp [before, declared] at law ⊢
  · next selectedAt copies due =>
      intro copy listed different row found
      have uniform : ∀ copy, (revoked selectedAt copy).status = .needsReview := fun _ => rfl
      obtain ⟨reached, stored, status⟩ := find?_foldl_writeBack_changed uniform found
        (.inr ⟨copy, listed, rfl, different⟩)
      have law := lawful copy.id row reached found
        (by unfold advance; rw [due]; exact stored)
      rw [status] at law
      rcases law with same | ⟨law, _⟩
      · simp [← same]
      · cases before : row.status <;> simp [before, declared] at law ⊢
  · trivial

theorem lawful_iff_timely {store : Store workers} (sound : Sound store) (event : Event workers) :
    Lawful store event ↔ Timely store event := by
  obtain ⟨index, action⟩ := event
  have unchanged : ∀ after : Store workers, after.reports = store.reports →
      next store ⟨index, action⟩ = after → Lawful store ⟨index, action⟩ := by
    intro after same reached id row kept found stored
    rw [reached, same, found, Option.some.injEq] at stored
    exact .inl (congrArg WorkReport.status stored.symm)
  cases action with
  | call call =>
    refine iff_of_true ?_ trivial
    by_cases free : available (store.workers index) = true
    · exact unchanged (store.set index ⟨[], call.tasks, .idle⟩) rfl (if_pos free)
    · exact unchanged store rfl (if_neg free)
  | step surroundings answer =>
    by_cases held : blocked store surroundings index = true
    · refine iff_of_true (unchanged store rfl (if_pos held)) ?_
      intro free
      rw [held] at free
      cases free
    · have taken : (next store ⟨index, .step surroundings answer⟩).reports =
          (advance surroundings answer store.reports store.files
            (store.workers index)).reports := by
        unfold next
        dsimp only
        rw [if_neg held]
        rfl
      constructor
      · intro lawful _
        apply stage_timely answer store.files (sound.stages index)
        intro id row reached found stored
        have numbered : row.id = id := Table.key_of_find? found
        subst numbered
        exact lawful row.id row reached found (taken ▸ stored)
      · intro timely id row reached found stored
        rw [taken] at stored
        obtain ⟨other, kept, step⟩ :=
          advance_reaches surroundings answer store.files (store.workers index) found
        rw [stored, Option.some.injEq] at kept
        subst kept
        have free : blocked store surroundings index = false := by simpa using held
        exact status_lawful (sound.stages index) (timely free) found step
  | deadline =>
    exact iff_of_true
      (unchanged (store.set index (dropBatch (store.workers index))) rfl rfl) trivial
  | crash => exact iff_of_true (unchanged (store.set index .fresh) rfl rfl) trivial

/-- Over any run the reports move along the lifecycle exactly when every write is timely. -/
theorem lifecycle_iff_timely (workers : Nat) (reports : Reports) (files : MediaFiles)
    (events : List (Event workers)) :
    (∀ taken ∈ trace next (Store.quiet workers reports files) events,
      Lawful taken.1 taken.2) ↔
      Obeys next Timely (Store.quiet workers reports files) events := by
  have reached := trace_invariant next Sound (sound_quiet workers reports files)
    (fun store event sound => sound.next event) events
  constructor
  · intro lawful taken listed
    exact (lawful_iff_timely (reached taken listed) taken.2).mp (lawful taken listed)
  · intro obeyed taken listed
    exact (lawful_iff_timely (reached taken listed) taken.2).mpr (obeyed taken listed)

end

def publishedReport : WorkReport :=
  { draft "250101-001" "plumbing" "ул. Навои, 5" 1 with
    afterMediaIds := [7]
    lockedMediaIds := [7]
    status := .published }

def oneReport : Reports := ⟨[publishedReport], by simp⟩

def returned : Surroundings := ⟨0, fun _ => some false, fun _ => false, 10⟩

/-- A manager unpublishes the report between the query and the commit of a revocation. -/
def revokedAfterReject : List (Event 2) := [
  ⟨0, .call .feed⟩,
  ⟨0, .step returned .failed⟩,
  ⟨1, .call (.unpublish 1 9 none)⟩,
  ⟨1, .step returned .failed⟩]

def racing : Store 2 := run next (Store.quiet 2 oneReport .empty) revokedAfterReject

theorem racing_status : (racing.reports.find? 1).map (·.status) = some .rejected := by
  decide +kernel

theorem raced_status :
    ((next racing ⟨0, .step returned .failed⟩).reports.find? 1).map (·.status) =
      some .needsReview := by
  decide +kernel

theorem rejected_report_returns : ¬ ∀ workers reports files (events : List (Event workers)),
    ∀ taken ∈ trace next (Store.quiet workers reports files) events,
      Lawful taken.1 taken.2 := by
  intro always
  have listed : (racing, (⟨0, .step returned .failed⟩ : Event 2)) ∈
      trace next (Store.quiet 2 oneReport .empty)
        (revokedAfterReject ++ [⟨0, .step returned .failed⟩]) := by
    rw [trace_concat]
    exact List.mem_append_right _ (List.mem_singleton_self _)
  have lawful := always 2 oneReport .empty _ _ listed
  obtain ⟨row, found, rejected⟩ := Option.map_eq_some_iff.mp racing_status
  obtain ⟨reached, stored, review⟩ := Option.map_eq_some_iff.mp raced_status
  have law := lawful 1 row reached found stored
  rw [rejected, review] at law
  rcases law with same | ⟨law, _⟩
  · cases same
  · cases law

end InfrasafeBot.WorkReports
