import InfrasafeBot.WorkReportLifecycle

/-! The photos of a published report are locked in the media service: the publication
saga, the withdrawals and the reconciliation over every interleaving. -/

set_option autoImplicit false

namespace InfrasafeBot.WorkReports

open Library Machine RequestWorkflow MediaStorage

variable {files : MediaFiles} {mediaId : Nat}

section

def Locked (files : MediaFiles) (mediaId : Nat) : Prop :=
  ∃ file, files.find? mediaId = some file ∧ file.publicationLocked = true

variable {other : Nat} {now : Moment}

theorem locked_update {condition : MediaFile → Bool} {change : MediaFile → MediaFile}
    (keeps : ∀ file, (change file).id = file.id) (locked : Locked files mediaId)
    (kept : ∀ file, file.id = mediaId → condition file = true → file.publicationLocked = true →
      (change file).publicationLocked = true) :
    Locked (files.update condition change keeps) mediaId := by
  obtain ⟨file, found, held⟩ := locked
  refine ⟨if condition file then change file else file, ?_, ?_⟩
  · rw [Table.find?_update, found, Option.map_some]
  · split
    · next hit => exact kept file (Table.key_of_find? found) hit held
    · exact held

theorem locked_acquire (locked : Locked files mediaId) :
    Locked (acquirePublicationLock now other files).1 mediaId := by
  unfold acquirePublicationLock
  dsimp only
  exact locked_update _ locked fun _ _ _ _ => rfl

theorem locked_of_acquired (acquired : (acquirePublicationLock now mediaId files).2 = true) :
    Locked (acquirePublicationLock now mediaId files).1 mediaId := by
  have counted : 0 < files.rowcount (active mediaId) := of_decide_eq_true acquired
  obtain ⟨file, listed, live⟩ := List.countP_pos_iff.mp counted
  have numbered : file.id = mediaId := by
    rw [active, Bool.and_eq_true] at live
    exact of_decide_eq_true live.1
  have found : files.find? mediaId = some file := numbered ▸ Table.find?_of_mem listed
  unfold acquirePublicationLock
  refine ⟨{ file with publicationLocked := true, updatedAt := some now }, ?_, rfl⟩
  rw [Table.find?_update, found, Option.map_some, if_pos live]

theorem locked_release (locked : Locked files mediaId) (different : mediaId ≠ other) :
    Locked (releasePublicationLock now other files) mediaId := by
  apply locked_update _ locked
  intro file own hit _
  exact absurd (own.symm.trans (of_decide_eq_true hit)) different

theorem locked_resolve {minutes : Nat} (locked : Locked files mediaId) :
    Locked (resolveStaleTransitions now minutes files).1 mediaId := by
  unfold resolveStaleTransitions
  dsimp only
  exact locked_update _ (locked_update _ locked fun _ _ _ held => held) fun _ _ _ held => held

end

variable {workers : Nat}

section

/-- The photos of the published reports are recorded as locked, and are. -/
def LocksHeld (reports : Reports) (files : MediaFiles) : Prop :=
  ∀ row ∈ reports.rows, row.status = .published → ∀ mediaId ∈ row.mediaIds,
    mediaId ∈ row.lockedMediaIds ∧ Locked files mediaId

def sagaOf : Stage → Option WorkReport
  | .validating report _ _ => some report
  | .reverting report => some report
  | .locking report _ _ _ => some report
  | .recording report _ _ _ => some report
  | .releasing report _ => some report
  | .describing report _ _ _ => some report
  | .finishing report _ => some report
  | _ => none

def releaseOf : Stage → Option Nat
  | .releasing _ (mediaId :: _) => some mediaId
  | .unlocking (mediaId :: _) => some mediaId
  | .resetting _ _ ((_, mediaId) :: _) => some mediaId
  | .discarding (mediaId :: _) _ => some mediaId
  | _ => none

def takenBy : Stage → List Nat
  | .locking _ _ _ acquired => acquired
  | .recording _ _ _ acquired => acquired
  | .describing report _ _ _ => report.mediaIds
  | .finishing report _ => report.mediaIds
  | _ => []

/-- The release that is due next spares the photos of the published reports and the locks
the other publications have taken. -/
def Spares (store : Store workers) (index : Fin workers) (answer : Answer) : Prop :=
  ∀ mediaId ∈ releaseOf (store.workers index).stage, performed answer = true →
    (∀ row ∈ store.reports.rows, row.status = .published → mediaId ∉ row.mediaIds) ∧
    ∀ other ≠ index, mediaId ∉ takenBy (store.workers other).stage

def reconciles (worker : Worker) : Bool :=
  match worker.stage, worker.queue with
  | .idle, .reconcile :: _ => true
  | _, _ => false

/-- The reconciliation that is due next finds no publication of a stuck report going on. -/
def ResetsOver (store : Store workers) (index : Fin workers) (surroundings : Surroundings) : Prop :=
  reconciles (store.workers index) = true →
    ∀ row ∈ store.reports.rows, stuck surroundings.now row = true →
      ∀ other, ∀ report ∈ sagaOf (store.workers other).stage, report.id ≠ row.id

def Undisturbed (store : Store workers) (event : Event workers) : Prop :=
  match event.action with
  | .step surroundings answer => blocked store surroundings event.worker = false →
      Spares store event.worker answer ∧ ResetsOver store event.worker surroundings
  | _ => True

instance (store : Store workers) (index : Fin workers) (answer : Answer) :
    Decidable (Spares store index answer) :=
  inferInstanceAs (Decidable (∀ mediaId ∈ releaseOf (store.workers index).stage,
    performed answer = true → _ ∧ _))

instance (store : Store workers) (index : Fin workers) (surroundings : Surroundings) :
    Decidable (ResetsOver store index surroundings) :=
  inferInstanceAs (Decidable (reconciles (store.workers index) = true → _))

instance (store : Store workers) (event : Event workers) : Decidable (Undisturbed store event) :=
  match event with
  | ⟨_, .step _ _⟩ => inferInstanceAs (Decidable (_ = false → _))
  | ⟨_, .call _⟩ => .isTrue trivial
  | ⟨_, .deadline⟩ => .isTrue trivial
  | ⟨_, .crash⟩ => .isTrue trivial

/-- The calls that take and release locks, with the moderation around them. -/
def lockCall : Call → Bool
  | .publish _ _ => true
  | .unpublish _ _ _ => true
  | .reject _ _ _ => true
  | .reopen _ _ => true
  | .reconcile => true
  | _ => false

def lockTask : Task → Bool
  | .publish _ _ => true
  | .unpublish _ _ _ => true
  | .reject _ _ _ => true
  | .reopen _ _ => true
  | .reconcile => true
  | _ => false

def lockStage : Stage → Bool
  | .patching _ _ _ _ _ => false
  | .autofilling _ _ => false
  | .writing _ _ => false
  | .fetching _ _ _ => false
  | .applying _ _ _ _ => false
  | .revoking _ _ => false
  | _ => true

/-- A worker that has only run such calls, one task in each session. -/
structure LockWorker (worker : Worker) : Prop where
  stage : lockStage worker.stage = true
  queue : worker.queue = [] ∨ ∃ task, worker.queue = [task] ∧ lockTask task = true ∧
    worker.session = [] ∧ worker.stage = .idle

def Progress (files : MediaFiles) : Stage → Prop
  | .locking report _ todo acquired => report.mediaIds = acquired ++ todo ∧
      ∀ mediaId ∈ acquired, mediaId ∈ report.lockedMediaIds ∧ Locked files mediaId
  | .recording report _ todo acquired => report.mediaIds = acquired ++ todo ∧
      ∀ mediaId ∈ acquired, Locked files mediaId
  | .describing report _ _ _ =>
    ∀ mediaId ∈ report.mediaIds, mediaId ∈ report.lockedMediaIds ∧ Locked files mediaId
  | .finishing report _ =>
    ∀ mediaId ∈ report.mediaIds, mediaId ∈ report.lockedMediaIds ∧ Locked files mediaId
  | _ => True

structure Guarded (store : Store workers) : Prop where
  sound : Sound store
  callers : ∀ index, LockWorker (store.workers index)
  sagas : ∀ index report, sagaOf (store.workers index).stage = some report →
    store.reports.find? report.id = some report
  lone : ∀ index other report rival, index ≠ other →
    sagaOf (store.workers index).stage = some report →
    sagaOf (store.workers other).stage = some rival → report.id ≠ rival.id
  free : ∀ index other report, sagaOf (store.workers index).stage = some report →
    report.id ∉ heldRows (store.workers other).stage
  progress : ∀ index, Progress store.files (store.workers index).stage
  held : LocksHeld store.reports store.files

variable {surroundings : Surroundings} {answer : Answer} {reports : Reports} {worker : Worker}

theorem release_locked {released : Nat} (locked : Locked files mediaId)
    (kept : performed answer = true → mediaId ≠ released) :
    Locked (release surroundings answer files released) mediaId := by
  unfold release
  split
  · next done => exact locked_release locked (kept done)
  · exact locked

variable {stepping : Worker} {outcome : Outcome} {report reached : WorkReport} {task : Task}
  {stage : Stage}

theorem begin_files (task : Task) : (begin surroundings reports files stepping task).files = files := by
  cases task with
  | publish reportId moderatedBy =>
    dsimp only [begin, beginPublish]
    split
    · rfl
    · split <;> rfl
  | unpublish reportId moderatorId reason =>
    dsimp only [begin, unpublish]
    split
    · rfl
    · split <;> rfl
  | reject reportId moderatorId reason =>
    dsimp only [begin, reject]
    split
    · rfl
    · split <;> rfl
  | reopen reportId moderatorId =>
    dsimp only [begin, reopen]
    split
    · rfl
    · split <;> rfl
  | patch reportId body =>
    dsimp only [begin, beginPatch]
    split
    · rfl
    · split
      · rfl
      · split
        · rfl
        · split <;> rfl
  | autofillOne reportId =>
    dsimp only [begin, beginAutofillOne]
    split
    · rfl
    · split <;> rfl
  | autofillPending | autofill | revoke => rfl
  | create requestNumber categoryKey addressPublic =>
    dsimp only [begin, create]
    split <;> rfl
  | syncDrafts autopost candidates =>
    dsimp only [begin, syncDrafts]
    split <;> rfl
  | autopublish enabled categories =>
    dsimp only [begin, autopublish]
    split <;> rfl
  | reconcile =>
    dsimp only [begin, beginReconcile]
    split <;> rfl

theorem advance_locked (locked : Locked files mediaId)
    (kept : ∀ released, releaseOf worker.stage = some released →
      performed answer = true → mediaId ≠ released) :
    Locked (advance surroundings answer reports files worker).files mediaId := by
  unfold advance
  cases due : worker.stage with
  | idle =>
    dsimp only
    unfold dequeue
    split
    · exact locked
    · rw [begin_files]
      exact locked
  | locking report moderatedBy todo acquired =>
    dsimp only
    unfold lockStep
    split
    · exact locked
    · split
      · dsimp only
        split <;> exact locked_acquire locked
      · exact locked
  | releasing report todo =>
    rw [due] at kept
    dsimp only
    unfold releaseStep
    split
    · exact release_locked locked (kept _ rfl)
    · exact locked
  | unlocking todo =>
    rw [due] at kept
    dsimp only
    unfold unlockStep
    split
    · exact release_locked locked (kept _ rfl)
    · exact locked
  | resetting started copies todo =>
    rw [due] at kept
    dsimp only
    unfold resetStep
    split
    · exact release_locked locked (kept _ rfl)
    · exact locked
  | discarding orphaned missing =>
    rw [due] at kept
    dsimp only
    unfold discardStep
    split
    · exact release_locked locked (kept _ rfl)
    · exact locked
  | relocking missing =>
    dsimp only
    unfold relockStep
    split
    · dsimp only
      rw [proceed_files]
      split
      · exact locked_acquire locked
      · exact locked
    · exact locked
  | resolving =>
    dsimp only [resolveStep]
    rw [proceed_files]
    split
    · exact locked_resolve locked
    · exact locked
  | validating report moderatedBy before =>
    dsimp only
    unfold validateStep
    split
    · exact locked
    · split <;> exact locked
    · exact locked
  | describing report moderatedBy acquired before =>
    dsimp only
    unfold describeStep
    split
    · exact locked
    · split <;> exact locked
    · exact locked
  | patching report changed before after beforeActual =>
    dsimp only
    unfold patchStep
    split
    · exact locked
    · split <;> exact locked
    · exact locked
  | autofilling report before =>
    dsimp only
    unfold autofillStep
    split <;> exact locked
  | fetching reportId autopublished before =>
    dsimp only
    unfold fetchStep
    split <;> exact locked
  | applying reportId autopublished beforeIds afterIds =>
    dsimp only
    unfold applyStep
    split
    · exact locked
    · split
      · dsimp only
        split <;> exact locked
      · exact locked
  | listing offset inventory =>
    dsimp only
    unfold listStep
    split
    · dsimp only
      split <;> exact locked
    · exact locked
  | covering inventory =>
    dsimp only
    unfold coverStep
    dsimp only
    split <;> exact locked
  | counting orphaned missing =>
    dsimp only
    unfold countStep
    split <;> exact locked
  | _ => exact locked

/-- What a step of a worker makes of its own publication and of the rows it holds. -/
structure OwnStep (surroundings : Surroundings) (reports : Reports) (worker : Worker)
    (outcome : Outcome) : Prop where
  stage : lockStage outcome.worker.stage = true
  queue : outcome.worker.queue = []
  progress : Progress outcome.files outcome.worker.stage
  current : ∀ report, sagaOf outcome.worker.stage = some report →
    outcome.reports.find? report.id = some report
  origin : ∀ report, sagaOf outcome.worker.stage = some report →
    (∃ earlier, sagaOf worker.stage = some earlier ∧ earlier.id = report.id) ∨
    ∃ row, reports.find? report.id = some row ∧ row.status = .pending ∧
      report.id ∈ wantedRows surroundings reports worker
  taken : ∀ id ∈ heldRows outcome.worker.stage, id ∈ heldRows worker.stage ∨
    (worker.stage = .idle ∧ worker.queue = [.reconcile] ∧
      ∃ row ∈ reports.rows, stuck surroundings.now row = true ∧ row.id = id)

theorem OwnStep.plain (stage : lockStage outcome.worker.stage = true)
    (queue : outcome.worker.queue = []) (progress : Progress outcome.files outcome.worker.stage)
    (finished : sagaOf outcome.worker.stage = none) (none : heldRows outcome.worker.stage = []) :
    OwnStep surroundings reports worker outcome := by
  refine ⟨stage, queue, progress, ?_, ?_, ?_⟩
  · intro report going
    rw [finished] at going
    cases going
  · intro report going
    rw [finished] at going
    cases going
  · intro id held
    rw [none] at held
    cases held

theorem OwnStep.onward {earlier : WorkReport} (stage : lockStage outcome.worker.stage = true)
    (queue : outcome.worker.queue = []) (progress : Progress outcome.files outcome.worker.stage)
    (going : sagaOf outcome.worker.stage = some report)
    (none : heldRows outcome.worker.stage = [])
    (current : outcome.reports.find? report.id = some report)
    (before : sagaOf worker.stage = some earlier) (same : earlier.id = report.id) :
    OwnStep surroundings reports worker outcome := by
  refine ⟨stage, queue, progress, ?_, ?_, ?_⟩
  · intro other still
    rw [going, Option.some.injEq] at still
    subst still
    exact current
  · intro other still
    rw [going, Option.some.injEq] at still
    subst still
    exact .inl ⟨earlier, before, same⟩
  · intro id held
    rw [none] at held
    cases held

theorem LockWorker.queue_nil (lock : LockWorker worker) (busy : worker.stage ≠ .idle) :
    worker.queue = [] := by
  rcases lock.queue with none | ⟨task, _, _, _, idle⟩
  · exact none
  · exact absurd idle busy

theorem begin_own (idle : worker.stage = .idle) (queued : worker.queue = [task])
    (known : lockTask task = true) (fresh : worker.session = []) :
    OwnStep surroundings reports worker
      (begin surroundings reports files { worker with queue := [] } task) := by
  have copied : ∀ row, Worker.copy { worker with queue := [] } row = row := by
    intro row
    simp [Worker.copy, fresh]
  have quiet : ∀ (changed : Reports) (next : Worker), next.queue = [] →
      next.stage = .idle →
      OwnStep surroundings reports worker ⟨changed, files, next⟩ := by
    intro changed next none still
    refine .plain ?_ none ?_ ?_ ?_
    · rw [still]
      rfl
    · rw [still]
      trivial
    · rw [still]
      rfl
    · rw [still]
      rfl
  cases task with
  | publish reportId moderatedBy =>
    dsimp only [begin, beginPublish]
    split
    · exact quiet _ _ rfl rfl
    · next row found =>
        have numbered : row.id = reportId := Table.key_of_find? found
        split
        · next ready =>
            rw [copied] at ready ⊢
            have pending : row.status = .pending := by
              simp only [publishable, Bool.and_eq_true, decide_eq_true_eq] at ready
              exact ready.1.1.1.1
            refine ⟨rfl, rfl, trivial, ?_, ?_, fun id held => by cases held⟩
            · rintro report ⟨⟩
              dsimp only
              rw [commit_reports, find?_writeBack_own _ (numbered ▸ found)]
              simp [flushReport]
            · rintro report ⟨⟩
              right
              refine ⟨row, numbered ▸ found, pending, ?_⟩
              simp [wantedRows, idle, queued, taskRows, numbered]
        · exact quiet _ _ rfl rfl
  | unpublish reportId moderatorId reason =>
    dsimp only [begin, unpublish]
    split
    · exact quiet _ _ rfl rfl
    · split
      · exact .plain rfl rfl trivial rfl rfl
      · exact quiet _ _ rfl rfl
  | reject reportId moderatorId reason =>
    dsimp only [begin, reject]
    split
    · exact quiet _ _ rfl rfl
    · split
      · exact quiet _ _ rfl rfl
      · exact quiet _ _ rfl rfl
  | reopen reportId moderatorId =>
    dsimp only [begin, reopen]
    split
    · exact quiet _ _ rfl rfl
    · split
      · exact quiet _ _ rfl rfl
      · exact quiet _ _ rfl rfl
  | reconcile =>
    dsimp only [begin, beginReconcile]
    split
    · exact .plain rfl rfl trivial rfl rfl
    · have none : ∀ report, (Option.none : Option WorkReport) ≠ some report := by
        intro report same
        cases same
      refine ⟨rfl, rfl, trivial, fun report going => absurd going (none report),
        fun report going => absurd going (none report), ?_⟩
      intro id held
      obtain ⟨copy, member, rfl⟩ := List.mem_map.mp held
      obtain ⟨row, kept, rfl⟩ := List.mem_map.mp member
      obtain ⟨stored, old⟩ := List.mem_filter.mp kept
      exact .inr ⟨idle, queued, row, stored, old, (Worker.copy_id _ _).symm⟩
  | _ => cases known

theorem flushReport_current (report : WorkReport) (acquired : List Nat) :
    flushReport report { report with lockedMediaIds := acquired } report =
      { report with lockedMediaIds := acquired } := by
  simp [flushReport]

theorem advance_own (lock : LockWorker worker)
    (current : ∀ report, sagaOf worker.stage = some report → reports.find? report.id = some report)
    (progress : Progress files worker.stage) :
    OwnStep surroundings reports worker
      (advance surroundings answer reports files worker) := by
  have stage := lock.stage
  unfold advance
  by_cases idle : worker.stage = .idle
  · simp only [idle, dequeue]
    rcases lock.queue with none | ⟨task, queued, known, fresh, _⟩
    · rw [none]
      refine .plain ?_ none ?_ ?_ ?_ <;> rw [idle]
      · rfl
      · trivial
      · rfl
      · rfl
    · rw [queued]
      exact begin_own idle queued known fresh
  have queue := lock.queue_nil idle
  cases due : worker.stage with
  | idle => exact absurd due idle
  | validating report moderatedBy before =>
    have before : sagaOf worker.stage = some report := due ▸ rfl
    have stored := current report before
    dsimp only
    unfold validateStep
    split
    · exact .onward rfl queue trivial rfl rfl stored before rfl
    · split
      · refine .onward rfl queue ⟨rfl, ?_⟩ rfl rfl stored before rfl
        intro mediaId none
        cases none
      · exact .onward rfl queue trivial rfl rfl stored before rfl
    · exact .onward rfl queue trivial rfl rfl stored before rfl
  | reverting | finishing | withdrawing | resolving => exact .plain rfl queue trivial rfl rfl
  | locking report moderatedBy todo acquired =>
    have before : sagaOf worker.stage = some report := due ▸ rfl
    have stored := current report before
    rw [due] at progress
    obtain ⟨split_, locked⟩ := progress
    dsimp only
    unfold lockStep
    split
    · refine .onward rfl queue ?_ rfl rfl stored before rfl
      intro mediaId shown
      rw [split_, List.append_nil] at shown
      exact locked mediaId shown
    · next mediaId rest =>
        split
        · dsimp only
          split
          · next taken =>
              refine .onward rfl queue ⟨by simp [split_], ?_⟩ rfl rfl stored before rfl
              intro other listed
              rw [Bool.and_eq_true] at taken
              rcases List.mem_append.mp listed with old | new
              · exact locked_acquire (locked other old).2
              · rw [List.mem_singleton.mp new]
                exact locked_of_acquired taken.1
          · exact .onward rfl queue trivial rfl rfl stored before rfl
        · exact .onward rfl queue trivial rfl rfl stored before rfl
  | recording report moderatedBy todo acquired =>
    have before : sagaOf worker.stage = some report := due ▸ rfl
    have stored := current report before
    rw [due] at progress
    obtain ⟨split_, locked⟩ := progress
    have written : (recordStep reports files worker report moderatedBy todo
        acquired).reports.find? report.id =
        some { report with lockedMediaIds := acquired } := by
      unfold recordStep
      dsimp only
      rw [commit_reports, find?_writeBack_own _ stored, flushReport_current]
    have both : ∀ mediaId ∈ acquired, mediaId ∈ acquired ∧ Locked files mediaId :=
      fun mediaId listed => ⟨listed, locked mediaId listed⟩
    dsimp only
    cases todo with
    | nil =>
      refine .onward rfl queue ?_ rfl rfl written before rfl
      intro mediaId shown
      have all : report.mediaIds = acquired := by rw [split_, List.append_nil]
      exact both mediaId (all ▸ shown)
    | cons mediaId rest => exact .onward rfl queue ⟨split_, both⟩ rfl rfl written before rfl
  | releasing report todo =>
    have before : sagaOf worker.stage = some report := due ▸ rfl
    have stored := current report before
    dsimp only
    unfold releaseStep
    split
    · exact .onward rfl queue trivial rfl rfl stored before rfl
    · exact .plain rfl queue trivial rfl rfl
  | describing report moderatedBy acquired before =>
    have earlier : sagaOf worker.stage = some report := due ▸ rfl
    have stored := current report earlier
    rw [due] at progress
    dsimp only
    unfold describeStep
    split
    · exact .onward rfl queue progress rfl rfl stored earlier rfl
    · split
      · exact .onward rfl queue progress rfl rfl stored earlier rfl
      · exact .plain rfl queue trivial rfl rfl
    · exact .plain rfl queue trivial rfl rfl
  | unlocking todo =>
    dsimp only
    unfold unlockStep
    split <;> exact .plain rfl queue trivial rfl rfl
  | resetting started copies todo =>
    have none : ∀ report, (Option.none : Option WorkReport) ≠ some report := by
      intro report same
      cases same
    dsimp only
    unfold resetStep
    split
    · refine ⟨rfl, queue, trivial, fun report going => absurd going (none report),
        fun report going => absurd going (none report), ?_⟩
      intro id held
      rw [due]
      exact .inl held
    · exact .plain rfl queue trivial rfl rfl
  | listing offset inventory =>
    dsimp only
    unfold listStep
    split
    · dsimp only
      split <;> exact .plain rfl queue trivial rfl rfl
    · exact .plain rfl queue trivial rfl rfl
  | covering inventory =>
    dsimp only
    unfold coverStep
    dsimp only
    split <;> exact .plain rfl queue trivial rfl rfl
  | counting orphaned missing =>
    dsimp only
    unfold countStep
    split <;> exact .plain rfl queue trivial rfl rfl
  | discarding orphaned missing =>
    dsimp only
    unfold discardStep
    split <;> exact .plain rfl queue trivial rfl rfl
  | relocking missing =>
    dsimp only
    unfold relockStep
    split <;> exact .plain rfl queue trivial rfl rfl
  | _ => simp [due, lockStage] at stage

theorem sagaOf_publishing (sound : StageSound reports stage) (going : sagaOf stage = some report) :
    report.status = .publishing := by
  cases stage <;> cases going <;> exact sound

variable {store : Store workers} {index : Fin workers}

theorem Guarded.copy_eq (guarded : Guarded store) {rest : List Task}
    (queued : (store.workers index).queue = task :: rest) (row : WorkReport) :
    (store.workers index).copy row = row := by
  rcases (guarded.callers index).queue with none | ⟨_, _, _, fresh, _⟩
  · rw [none] at queued
    cases queued
  · simp [Worker.copy, fresh]

theorem Guarded.rival_kept (guarded : Guarded store) {other : Fin workers}
    (different : index ≠ other) (going : sagaOf (store.workers other).stage = some report)
    (step : RowStep surroundings (store.workers index) report reached) : reached = report := by
  have publishing := sagaOf_publishing (guarded.sound.stages other) going
  have lone : ∀ mine, sagaOf (store.workers index).stage = some mine → mine.id = report.id →
      reached = report := by
    intro mine running same
    exact absurd same (guarded.lone index other mine report different running going)
  have known := (guarded.callers index).stage
  cases step with
  | kept => rfl
  | written own writes =>
    cases writes with
    | publish idle queued ready =>
      rw [guarded.copy_eq queued] at ready
      simp only [publishable, Bool.and_eq_true, decide_eq_true_eq] at ready
      rw [ready.1.1.1.1] at publishing
      cases publishing
    | unpublish idle queued live =>
      rw [publishing] at live
      rcases live with same | same <;> cases same
    | reject idle queued editable =>
      rw [publishing] at editable
      cases editable
    | reopen idle queued rejected =>
      rw [publishing] at rejected
      cases rejected
    | revert due | record due | release due | finish due => exact lone _ (by rw [due]; rfl) own
    | write due | apply due editable =>
      rw [due] at known
      cases known
  | batch writes listed status =>
    cases writes with
    | revoke due =>
      rw [due] at known
      cases known
    | reset due =>
      have held : report.id ∈ heldRows (store.workers index).stage := by
        rw [due]
        exact listed
      exact absurd held (guarded.free other index report going)

theorem Guarded.published_row (guarded : Guarded store) {row : WorkReport}
    (stored : store.reports.find? row.id = some row) (published : reached.status = .published)
    (step : RowStep surroundings (store.workers index) row reached) :
    reached = row ∨ ∃ moderatedBy, (store.workers index).stage = .finishing row moderatedBy ∧
      reached.mediaIds = row.mediaIds ∧ reached.lockedMediaIds = row.lockedMediaIds := by
  have current : ∀ mine, sagaOf (store.workers index).stage = some mine → mine.id = row.id →
      mine = row := by
    intro mine running same
    have found := guarded.sagas index mine running
    rw [same, stored, Option.some.injEq] at found
    exact found.symm
  have known := (guarded.callers index).stage
  cases step with
  | kept => exact .inl rfl
  | written own writes =>
    cases writes with
    | publish idle queued ready =>
      rw [guarded.copy_eq queued] at published
      simp [flushReport] at published
    | unpublish | reject | reopen => simp [flushReport] at published
    | revert due | release due =>
      rw [current _ (by rw [due]; rfl) own] at published
      simp [flushReport] at published
    | record due =>
      have same := current _ (by rw [due]; rfl) own
      subst same
      have publishing := sagaOf_publishing (guarded.sound.stages index) (by rw [due]; rfl)
      simp [flushReport, publishing] at published
    | finish due =>
      have same := current _ (by rw [due]; rfl) own
      subst same
      exact .inr ⟨_, due, by simp [flushReport, WorkReport.mediaIds], by simp [flushReport]⟩
    | write due | apply due editable =>
      rw [due] at known
      cases known
  | batch writes listed status =>
    cases writes with
    | revoke due =>
      rw [due] at known
      cases known
    | reset due =>
      have sound := guarded.sound.stages index
      rw [due] at sound
      obtain ⟨copy, member, same⟩ := List.mem_map.mp listed
      obtain ⟨held, found, publishing⟩ := sound copy member
      rw [same, stored, Option.some.injEq] at found
      subst found
      rcases status with kept | ⟨_, _, _, _, pending⟩
      · rw [kept, publishing] at published
        cases published
      · rw [pending] at published
        cases published

variable {other : Fin workers}

theorem Guarded.progress_kept (guarded : Guarded store) (different : other ≠ index)
    (spares : Spares store index answer) :
    Progress (advance surroundings answer store.reports store.files
      (store.workers index)).files (store.workers other).stage := by
  have kept : ∀ mediaId ∈ takenBy (store.workers other).stage, Locked store.files mediaId →
      Locked (advance surroundings answer store.reports store.files
        (store.workers index)).files mediaId := by
    intro mediaId taken locked
    apply advance_locked locked
    rintro released releasing done rfl
    exact (spares mediaId releasing done).2 other different taken
  have progress := guarded.progress other
  cases due : (store.workers other).stage with
  | locking report moderatedBy todo acquired =>
    rw [due] at progress kept
    exact ⟨progress.1, fun mediaId listed => (progress.2 mediaId listed).imp_right (kept mediaId listed)⟩
  | recording report moderatedBy todo acquired =>
    rw [due] at progress kept
    exact ⟨progress.1, fun mediaId listed => kept mediaId listed (progress.2 mediaId listed)⟩
  | describing | finishing =>
    rw [due] at progress kept
    exact fun mediaId shown => (progress mediaId shown).imp_right (kept mediaId shown)
  | _ => trivial

theorem writeBack_ids (loaded changed : WorkReport) (reports : Reports) :
    (writeBack loaded changed reports).rows.map (·.id) = reports.rows.map (·.id) := by
  unfold writeBack Table.update
  rw [List.map_map]
  apply List.map_congr_left
  intro row listed
  rw [Function.comp_apply]
  split
  · exact flushReport_id loaded changed row
  · rfl

theorem writeBacks_ids (copies : List WorkReport) (change : WorkReport → WorkReport)
    (reports : Reports) :
    (copies.foldl (fun rows copy => writeBack copy (change copy) rows) reports).rows.map (·.id) =
      reports.rows.map (·.id) := by
  induction copies generalizing reports with
  | nil => rfl
  | cons copy rest ih => rw [List.foldl_cons, ih, writeBack_ids]

theorem begin_ids (known : lockTask task = true) :
    (begin surroundings reports files stepping task).reports.rows.map (·.id) =
      reports.rows.map (·.id) := by
  cases task with
  | publish reportId moderatedBy =>
    dsimp only [begin, beginPublish]
    split
    · rfl
    · split
      · exact writeBack_ids _ _ _
      · rfl
  | unpublish reportId moderatorId reason =>
    dsimp only [begin, unpublish]
    split
    · rfl
    · split
      · exact writeBack_ids _ _ _
      · rfl
  | reject reportId moderatorId reason =>
    dsimp only [begin, reject]
    split
    · rfl
    · split
      · exact writeBack_ids _ _ _
      · rfl
  | reopen reportId moderatorId =>
    dsimp only [begin, reopen]
    split
    · rfl
    · split
      · exact writeBack_ids _ _ _
      · rfl
  | reconcile =>
    dsimp only [begin, beginReconcile]
    split <;> rfl
  | _ => cases known

theorem advance_ids (lock : LockWorker worker) :
    (advance surroundings answer reports files worker).reports.rows.map (·.id) =
      reports.rows.map (·.id) := by
  have known := lock.stage
  unfold advance
  cases due : worker.stage with
  | idle =>
    dsimp only
    unfold dequeue
    rcases lock.queue with none | ⟨task, queued, locking, _, _⟩
    · rw [none]
    · rw [queued]
      exact begin_ids locking
  | validating report moderatedBy before =>
    dsimp only
    unfold validateStep
    split
    · rfl
    · split <;> rfl
    · rfl
  | reverting | recording | finishing => exact writeBack_ids _ _ _
  | locking report moderatedBy todo acquired =>
    dsimp only
    unfold lockStep
    split
    · rfl
    · split
      · dsimp only
        split <;> rfl
      · rfl
  | releasing report todo =>
    dsimp only
    unfold releaseStep
    split
    · rfl
    · exact writeBack_ids _ _ _
  | describing report moderatedBy acquired before =>
    dsimp only
    unfold describeStep
    split
    · rfl
    · split <;> rfl
    · rfl
  | unlocking todo =>
    dsimp only
    unfold unlockStep
    split <;> rfl
  | resetting started copies todo =>
    dsimp only
    unfold resetStep
    split
    · rfl
    · exact writeBacks_ids _ _ _
  | listing offset inventory =>
    dsimp only
    unfold listStep
    split
    · dsimp only
      split <;> rfl
    · rfl
  | covering inventory =>
    dsimp only
    unfold coverStep
    dsimp only
    split <;> rfl
  | counting orphaned missing =>
    dsimp only
    unfold countStep
    split <;> rfl
  | discarding orphaned missing =>
    dsimp only
    unfold discardStep
    split <;> rfl
  | relocking missing =>
    dsimp only
    unfold relockStep
    split <;> rfl
  | withdrawing | resolving => rfl
  | _ => simp [due, lockStage] at known

theorem Guarded.held_step (guarded : Guarded store) (spares : Spares store index answer) :
    LocksHeld
      (advance surroundings answer store.reports store.files (store.workers index)).reports
      (advance surroundings answer store.reports store.files (store.workers index)).files := by
  intro reached listed published mediaId shown
  obtain ⟨row, member, numbered⟩ : ∃ row ∈ store.reports.rows, row.id = reached.id := by
    have stays : reached.id ∈ store.reports.rows.map (·.id) :=
      advance_ids (guarded.callers index) ▸ List.mem_map_of_mem listed
    exact List.mem_map.mp stays
  have stored : store.reports.find? row.id = some row := Table.find?_of_mem member
  obtain ⟨other, found, step⟩ :=
    advance_reaches surroundings answer store.files (store.workers index) stored
  rw [numbered, Table.find?_of_mem listed, Option.some.injEq] at found
  subst found
  rcases guarded.published_row stored published step with same | ⟨moderatedBy, due, media, locks⟩
  · subst same
    have before := guarded.held reached member published mediaId shown
    refine ⟨before.1, advance_locked before.2 ?_⟩
    rintro released releasing done rfl
    exact (spares mediaId releasing done).1 reached member published shown
  · have progress := guarded.progress index
    rw [due] at progress
    have before := progress mediaId (media ▸ shown)
    refine ⟨locks ▸ before.1, advance_locked before.2 ?_⟩
    intro released releasing
    rw [due] at releasing
    cases releasing

theorem heldRows_of_saga (going : sagaOf stage = some report) : heldRows stage = [] := by
  cases stage <;> first | rfl | cases going

theorem Guarded.lone_step (guarded : Guarded store)
    (own : OwnStep surroundings store.reports (store.workers index)
      (advance surroundings answer store.reports store.files (store.workers index)))
    (different : other ≠ index) {rival : WorkReport}
    (going : sagaOf (advance surroundings answer store.reports store.files
      (store.workers index)).worker.stage = some report)
    (still : sagaOf (store.workers other).stage = some rival) : report.id ≠ rival.id := by
  intro same
  rcases own.origin report going with ⟨earlier, before, numbered⟩ | ⟨row, found, pending, _⟩
  · exact guarded.lone index other earlier rival (Ne.symm different) before still
      (numbered.trans same)
  · have publishing := sagaOf_publishing (guarded.sound.stages other) still
    rw [same, guarded.sagas other rival still, Option.some.injEq] at found
    rw [← found, publishing] at pending
    cases pending

theorem Guarded.step (guarded : Guarded store) (free : ¬ blocked store surroundings index = true)
    (spares : Spares store index answer) (resets : ResetsOver store index surroundings) :
    Guarded (store.absorb index
      (advance surroundings answer store.reports store.files (store.workers index))) := by
  have own : OwnStep surroundings store.reports (store.workers index)
      (advance surroundings answer store.reports store.files (store.workers index)) :=
    advance_own (guarded.callers index) (guarded.sagas index) (guarded.progress index)
  constructor
  case sound => exact guarded.sound.step answer free
  case held => exact guarded.held_step spares
  case callers =>
    intro other
    by_cases same : other = index
    · subst same
      simpa [Store.absorb] using LockWorker.mk own.stage (.inl own.queue)
    · simpa [Store.absorb, same] using guarded.callers other
  case progress =>
    intro other
    by_cases same : other = index
    · subst same
      simpa [Store.absorb] using own.progress
    · simpa [Store.absorb, same] using guarded.progress_kept same spares
  case sagas =>
    intro other report going
    by_cases same : other = index
    · subst same
      simp only [Store.absorb, Function.update_self] at going
      exact own.current report going
    · simp only [Store.absorb, Function.update_of_ne same] at going
      obtain ⟨reached, found, step⟩ := advance_reaches surroundings answer store.files
        (store.workers index) (guarded.sagas other report going)
      rw [guarded.rival_kept (Ne.symm same) going step] at found
      exact found
  case lone =>
    intro first second report rival different going still
    by_cases same : first = index
    · subst same
      have other : second ≠ first := Ne.symm different
      simp only [Store.absorb, Function.update_self] at going
      simp only [Store.absorb, Function.update_of_ne other] at still
      exact guarded.lone_step own other going still
    · simp only [Store.absorb, Function.update_of_ne same] at going
      by_cases mine : second = index
      · subst mine
        simp only [Store.absorb, Function.update_self] at still
        exact Ne.symm (guarded.lone_step own same still going)
      · simp only [Store.absorb, Function.update_of_ne mine] at still
        exact guarded.lone first second report rival different going still
  case free =>
    intro first second report going
    by_cases same : first = index
    · subst same
      simp only [Store.absorb, Function.update_self] at going
      by_cases mine : second = first
      · subst mine
        simp [Store.absorb, heldRows_of_saga going]
      · simp only [Store.absorb, Function.update_of_ne mine]
        rcases own.origin report going with ⟨earlier, before, numbered⟩ | ⟨_, _, _, wanted⟩
        · exact numbered ▸ guarded.free first second earlier before
        · exact not_blocked free second mine report.id wanted
    · simp only [Store.absorb, Function.update_of_ne same] at going
      by_cases mine : second = index
      · subst mine
        simp only [Store.absorb, Function.update_self]
        intro held
        rcases own.taken report.id held with before | ⟨idle, queued, row, listed, old, numbered⟩
        · exact guarded.free first second report going before
        · exact resets (by rw [reconciles, idle, queued]) row listed old first report going
            numbered.symm
      · simp only [Store.absorb, Function.update_of_ne mine]
        exact guarded.free first second report going

theorem Guarded.set (guarded : Guarded store) (index : Fin workers) {worker : Worker}
    (caller : LockWorker worker)
    (stage : worker.stage = .idle ∨ worker.stage = (store.workers index).stage) :
    Guarded (store.set index worker) := by
  have saga : ∀ report, sagaOf worker.stage = some report →
      sagaOf (store.workers index).stage = some report := by
    intro report going
    rcases stage with idle | same
    · rw [idle] at going
      cases going
    · exact same ▸ going
  have fewer : ∀ id ∈ heldRows worker.stage, id ∈ heldRows (store.workers index).stage := by
    intro id held
    rcases stage with idle | same
    · rw [idle] at held
      cases held
    · exact same ▸ held
  have sagas : ∀ other report, sagaOf ((store.set index worker).workers other).stage =
      some report → sagaOf (store.workers other).stage = some report := by
    intro other report going
    by_cases same : other = index
    · subst same
      exact saga report (by simpa [Store.set] using going)
    · simpa [Store.set, same] using going
  constructor
  case sound =>
    apply guarded.sound.set index _ fewer
    rcases stage with idle | same
    · rw [idle]
      trivial
    · rw [same]
      exact guarded.sound.stages index
  case held => exact guarded.held
  case callers =>
    intro other
    by_cases same : other = index
    · subst same
      simpa [Store.set] using caller
    · simpa [Store.set, same] using guarded.callers other
  case progress =>
    intro other
    by_cases same : other = index
    · subst same
      simp only [Store.set, Function.update_self]
      rcases stage with idle | same
      · rw [idle]
        trivial
      · rw [same]
        exact guarded.progress other
    · simpa [Store.set, same] using guarded.progress other
  case sagas => exact fun other report going => guarded.sagas other report (sagas other _ going)
  case lone =>
    intro first second report rival different going still
    exact guarded.lone first second report rival different (sagas first _ going)
      (sagas second _ still)
  case free =>
    intro first second report going held
    apply guarded.free first second report (sagas first _ going)
    by_cases same : second = index
    · subst same
      exact fewer _ (by simpa [Store.set] using held)
    · simpa [Store.set, same] using held

theorem LockWorker.of_call {call : Call} (known : lockCall call = true) :
    LockWorker ⟨[], call.tasks, .idle⟩ := by
  refine ⟨rfl, .inr ?_⟩
  cases call with
  | publish | unpublish | reject | reopen | reconcile => exact ⟨_, rfl, rfl, rfl, rfl⟩
  | _ => cases known

theorem LockWorker.dropBatch {worker : Worker} (lock : LockWorker worker) :
    LockWorker (dropBatch worker) := by
  refine ⟨lock.stage, ?_⟩
  rcases lock.queue with none | ⟨task, queued, known, fresh, idle⟩
  · left
    simp [WorkReports.dropBatch, none]
  · cases batch : isBatch task with
    | true =>
      left
      simp [WorkReports.dropBatch, queued, batch]
    | false =>
      right
      exact ⟨task, by simp [WorkReports.dropBatch, queued, batch], known, fresh, idle⟩

def lockEvent (event : Event workers) : Bool :=
  match event.action with
  | .call call => lockCall call
  | _ => true

theorem Guarded.next (guarded : Guarded store) {event : Event workers}
    (known : lockEvent event = true) (undisturbed : Undisturbed store event) :
    Guarded (next store event) := by
  obtain ⟨index, action⟩ := event
  unfold WorkReports.next
  cases action with
  | call call =>
    dsimp only
    split
    · exact guarded.set index (.of_call known) (.inl rfl)
    · exact guarded
  | step surroundings answer =>
    dsimp only
    split
    · exact guarded
    · next free =>
        obtain ⟨spares, resets⟩ := undisturbed (by simpa using free)
        exact guarded.step free spares resets
  | deadline => exact guarded.set index (guarded.callers index).dropBatch (.inr rfl)
  | crash => exact guarded.set index ⟨rfl, .inl rfl⟩ (.inl rfl)

theorem guarded_quiet (workers : Nat) {reports : Reports} (files : MediaFiles)
    (settled : ∀ row ∈ reports.rows, row.status ≠ .published) :
    Guarded (Store.quiet workers reports files) where
  sound := sound_quiet workers reports files
  callers _ := ⟨rfl, .inl rfl⟩
  sagas _ _ going := by cases going
  lone _ _ _ _ _ going := by cases going
  free _ _ _ going := by cases going
  progress _ := trivial
  held row listed published := absurd published (settled row listed)

/-- In a run that is nowhere disturbed, the photos of every published report are locked. -/
theorem published_photos_locked (workers : Nat) {reports : Reports} (files : MediaFiles)
    {events : List (Event workers)}
    (settled : ∀ row ∈ reports.rows, row.status ≠ .publishing ∧ row.status ≠ .published)
    (known : ∀ event ∈ events, lockEvent event = true)
    (undisturbed : Obeys next Undisturbed (Store.quiet workers reports files) events) :
    LocksHeld (run next (Store.quiet workers reports files) events).reports
      (run next (Store.quiet workers reports files) events).files := by
  have initial := guarded_quiet workers files fun row listed => (settled row listed).2
  have allowed : Obeys next (fun store event => lockEvent event = true ∧ Undisturbed store event)
      (Store.quiet workers reports files) events :=
    fun taken listed => ⟨known taken.2 (mem_of_mem_trace next listed), undisturbed taken listed⟩
  have reached := run_invariant_of_obeys next Guarded initial
    (fun _ _ both guarded => guarded.next both.1 both.2) allowed
  exact reached.held

end

def pendingReport : WorkReport :=
  { draft "250101-001" "plumbing" "ул. Навои, 5" 1 with afterMediaIds := [7] }

def pendingReports : Reports := ⟨[pendingReport], by simp⟩

def photo : MediaFile := ⟨7, -100, 70, "AgAC", some "250101-001", .active, false, none, none⟩

def onePhoto : MediaFiles := ⟨[photo], by simp⟩

def eligible (now : Moment) : Surroundings := ⟨now, fun _ => some true, fun _ => false, 10⟩

def photoItem : MediaItem := ⟨7, "photo", "active", some 1⟩

def publishLocks (worker : Fin workers) : List (Event workers) := [
  ⟨worker, .call (.publish 1 9)⟩,
  ⟨worker, .step (eligible 0) .failed⟩,
  ⟨worker, .step (eligible 0) (.items [])⟩,
  ⟨worker, .step (eligible 0) (.items [photoItem])⟩,
  ⟨worker, .step (eligible 0) .delivered⟩,
  ⟨worker, .step (eligible 0) .failed⟩]

def publishEnds (worker : Fin workers) (now : Moment) : List (Event workers) := [
  ⟨worker, .step (eligible now) (.items [])⟩,
  ⟨worker, .step (eligible now) (.items [photoItem])⟩,
  ⟨worker, .step (eligible now) .failed⟩]

def published : Store 1 :=
  run next (Store.quiet 1 pendingReports onePhoto) (publishLocks 0 ++ publishEnds 0 1)

theorem published_photos_locked_alone :
    (published.reports.find? 1).map (·.status) = some .published ∧
      LocksHeld published.reports published.files :=
  ⟨by decide +kernel, published_photos_locked 1 onePhoto (by decide) (by decide) (by decide +kernel)⟩

def reconcileMeanwhile : List (Event 2) := [
  ⟨1, .call .reconcile⟩,
  ⟨1, .step (eligible 960) .failed⟩,
  ⟨1, .step (eligible 960) .delivered⟩,
  ⟨1, .step (eligible 960) .failed⟩]

def delayed : List (Event 2) := publishLocks 0 ++ reconcileMeanwhile ++ publishEnds 0 961

theorem delayed_report :
    ((run next (Store.quiet 2 pendingReports onePhoto) delayed).reports.find? 1).map
      (fun row => (row.status, row.mediaIds, row.lockedMediaIds)) =
      some (.published, [7], []) := by
  decide +kernel

theorem published_photo_unlocked : ¬ ∀ workers reports files (events : List (Event workers)),
    (∀ row ∈ reports.rows, row.status ≠ .publishing ∧ row.status ≠ .published) →
    (∀ event ∈ events, lockEvent event = true) →
    LocksHeld (run next (Store.quiet workers reports files) events).reports
      (run next (Store.quiet workers reports files) events).files := by
  intro always
  have held := always 2 pendingReports onePhoto delayed (by decide) (by decide)
  obtain ⟨row, found, shown⟩ := Option.map_eq_some_iff.mp delayed_report
  simp only [Prod.mk.injEq] at shown
  obtain ⟨published, media, locks⟩ := shown
  have locked := held row (Table.mem_of_find? found) published 7 (by simp [media])
  simp [locks] at locked

end InfrasafeBot.WorkReports
