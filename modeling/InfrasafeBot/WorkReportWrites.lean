import InfrasafeBot.Library.Machine
import InfrasafeBot.WorkReports

/-! What a step of a session writes into the work reports: only rows it holds or takes,
and the statuses by the code that writes them. -/

set_option autoImplicit false

namespace InfrasafeBot.WorkReports

open Library RequestWorkflow MediaStorage

variable {reports : Reports} {files : MediaFiles} {id : Nat} {stage : Stage}

section

variable {worker : Worker} {loaded changed row : WorkReport}

theorem find?_writeBack_other (changed : WorkReport) (other : id ≠ loaded.id) :
    (writeBack loaded changed reports).find? id = reports.find? id := by
  unfold writeBack
  rw [Table.find?_update]
  cases found : reports.find? id with
  | none => rfl
  | some row =>
    have numbered : row.id = id := Table.key_of_find? found
    have missed : ¬ row.id = loaded.id := numbered ▸ other
    simp [missed]

theorem find?_writeBack_own (changed : WorkReport)
    (found : reports.find? loaded.id = some row) :
    (writeBack loaded changed reports).find? loaded.id = some (flushReport loaded changed row) := by
  unfold writeBack
  rw [Table.find?_update, found]
  have numbered : row.id = loaded.id := Table.key_of_find? found
  simp [numbered]

theorem Worker.copy_id (worker : Worker) (row : WorkReport) : (worker.copy row).id = row.id := by
  unfold Worker.copy
  cases found : worker.session.find? (·.id = row.id) with
  | none => rfl
  | some copy => simpa using List.find?_some found

variable {change : WorkReport → WorkReport} {copies : List WorkReport}

theorem find?_foldl_writeBack_other (apart : ∀ copy ∈ copies, copy.id ≠ id) :
    (copies.foldl (fun rows copy => writeBack copy (change copy) rows) reports).find? id =
      reports.find? id := by
  induction copies generalizing reports with
  | nil => rfl
  | cons copy rest ih =>
    rw [List.foldl_cons, ih fun later listed => apart later (List.mem_cons_of_mem _ listed)]
    exact find?_writeBack_other _ (apart copy List.mem_cons_self).symm

theorem find?_foldl_writeBack (copies : List WorkReport) (change : WorkReport → WorkReport)
    (found : reports.find? id = some row) :
    ∃ reached,
      (copies.foldl (fun rows copy => writeBack copy (change copy) rows) reports).find? id = some reached ∧
      (reached.status = row.status ∨
        ∃ copy ∈ copies, copy.id = id ∧ (change copy).status ≠ copy.status ∧
          reached.status = (change copy).status) := by
  induction copies generalizing reports row with
  | nil => exact ⟨row, found, .inl rfl⟩
  | cons copy rest ih =>
    rw [List.foldl_cons]
    by_cases own : copy.id = id
    · subst own
      obtain ⟨reached, kept, status⟩ := ih (find?_writeBack_own (change copy) found)
      refine ⟨reached, kept, ?_⟩
      rcases status with same | later
      · simp only [flushReport, flushed] at same
        split at same
        · exact .inl same
        · next changes => exact .inr ⟨copy, List.mem_cons_self, rfl, changes, same⟩
      · obtain ⟨other, listed, rest⟩ := later
        exact .inr ⟨other, List.mem_cons_of_mem _ listed, rest⟩
    · have other : id ≠ copy.id := fun same => own same.symm
      have missed := (find?_writeBack_other (change copy) other).trans found
      obtain ⟨reached, kept, status⟩ := ih missed
      refine ⟨reached, kept, status.imp_right ?_⟩
      rintro ⟨later, listed, rest⟩
      exact ⟨later, List.mem_cons_of_mem _ listed, rest⟩

theorem find?_foldl_writeBack_changed {status : ReportStatus}
    (uniform : ∀ copy, (change copy).status = status) (found : reports.find? id = some row)
    (due : row.status = status ∨ ∃ copy ∈ copies, copy.id = id ∧ copy.status ≠ status) :
    ∃ reached,
      (copies.foldl (fun rows copy => writeBack copy (change copy) rows) reports).find? id =
        some reached ∧ reached.status = status := by
  induction copies generalizing reports row with
  | nil =>
    rcases due with already | later
    · exact ⟨row, found, already⟩
    · obtain ⟨copy, listed, _⟩ := later
      cases listed
  | cons copy rest ih =>
    rw [List.foldl_cons]
    by_cases own : copy.id = id
    · subst own
      apply ih (find?_writeBack_own (change copy) found)
      simp only [flushReport, flushed, uniform]
      split
      · next same =>
          rcases due with already | ⟨other, listed, key, different⟩
          · exact .inl already
          · rcases List.mem_cons.mp listed with rfl | later
            · exact absurd same.symm different
            · exact .inr ⟨other, later, key, different⟩
      · exact .inl rfl
    · have other : id ≠ copy.id := fun same => own same.symm
      apply ih ((find?_writeBack_other (change copy) other).trans found)
      apply due.imp_right
      rintro ⟨later, listed, key, different⟩
      rcases List.mem_cons.mp listed with rfl | listed
      · exact absurd key own
      · exact ⟨later, listed, key, different⟩

@[simp] theorem proceed_reports : (proceed reports files worker stage).reports = reports := rfl

@[simp] theorem proceed_files : (proceed reports files worker stage).files = files := rfl

@[simp] theorem proceed_worker : (proceed reports files worker stage).worker = worker.enter stage := rfl

@[simp] theorem enter_stage : (worker.enter stage).stage = stage := rfl

@[simp] theorem enter_queue : (worker.enter stage).queue = worker.queue := rfl

@[simp] theorem enter_session : (worker.enter stage).session = worker.session := rfl

@[simp] theorem commit_reports : (commit reports files worker loaded changed stage).reports =
    writeBack loaded changed reports := rfl

@[simp] theorem commit_files : (commit reports files worker loaded changed stage).files = files := rfl

@[simp] theorem commit_stage :
    (commit reports files worker loaded changed stage).worker.stage = stage := rfl

theorem insertNew_found {requestNumber : RequestNumber} {categoryKey addressPublic : String}
    (found : reports.find? id = some row) :
    (insertNew requestNumber categoryKey addressPublic reports).find? id = some row := by
  unfold insertNew
  rw [Table.find?_insert, found, Option.some_or]

theorem insertDraft_found (candidate : RequestNumber × String × Option String)
    (found : reports.find? id = some row) :
    (insertDraft reports candidate).find? id = some row := by
  unfold insertDraft
  split
  · exact found
  · split
    · exact found
    · exact insertNew_found found

theorem insertDrafts_found {candidates : List (RequestNumber × String × Option String)}
    (found : reports.find? id = some row) :
    (candidates.foldl insertDraft reports).find? id = some row := by
  induction candidates generalizing reports with
  | nil => exact found
  | cons candidate rest ih =>
    rw [List.foldl_cons]
    exact ih (insertDraft_found candidate found)

end

section

variable (surroundings : Surroundings) (worker : Worker) (row : WorkReport)

/-- The copies a step flushes over a row, by the code that does. -/
inductive Writes : WorkReport → WorkReport → Prop where
  | publish {moderatedBy : Option UserId} {rest : List Task} (idle : worker.stage = .idle)
      (queued : worker.queue = .publish row.id moderatedBy :: rest)
      (ready : publishable surroundings (worker.copy row) = true) :
      Writes (worker.copy row)
        { worker.copy row with
          status := .publishing
          stateChangedAt := some surroundings.now }
  | unpublish {moderatorId : UserId} {reason : Option String} {rest : List Task}
      (idle : worker.stage = .idle)
      (queued : worker.queue = .unpublish row.id moderatorId reason :: rest)
      (live : row.status = .published ∨ row.status = .needsReview) :
      Writes row
        { row with
          status := .rejected
          rejectReason := if reason.any (· ≠ "") then reason else row.rejectReason
          moderatedBy := some moderatorId
          stateChangedAt := some surroundings.now
          lockedMediaIds := [] }
  | reject {moderatorId : UserId} {reason : String} {rest : List Task}
      (idle : worker.stage = .idle)
      (queued : worker.queue = .reject row.id moderatorId reason :: rest)
      (editable : mediaEditable row.status = true) :
      Writes row
        { row with
          status := .rejected
          rejectReason := some reason
          moderatedBy := some moderatorId
          stateChangedAt := some surroundings.now }
  | reopen {moderatorId : UserId} {rest : List Task} (idle : worker.stage = .idle)
      (queued : worker.queue = .reopen row.id moderatorId :: rest)
      (rejected : row.status = .rejected) :
      Writes row
        { row with
          status := .pending
          rejectReason := none
          stateChangedAt := some surroundings.now }
  | revert {report : WorkReport} (due : worker.stage = .reverting report) :
      Writes report
        { report with status := .pending, stateChangedAt := some surroundings.now }
  | record {report : WorkReport} {moderatedBy : Option UserId} {todo acquired : List Nat}
      (due : worker.stage = .recording report moderatedBy todo acquired) :
      Writes report { report with lockedMediaIds := acquired }
  | release {report : WorkReport} (due : worker.stage = .releasing report []) :
      Writes report
        { report with
          lockedMediaIds := []
          status := .pending
          stateChangedAt := some surroundings.now }
  | finish {report : WorkReport} {moderatedBy : Option UserId}
      (due : worker.stage = .finishing report moderatedBy) :
      Writes report
        { report with
          status := .published
          publishedAt := some surroundings.now
          moderatedBy := moderatedBy }
  | write {report changed : WorkReport} (due : worker.stage = .writing report changed) :
      Writes report changed
  | apply {autopublished : Bool} {beforeIds afterIds : List Nat}
      (due : worker.stage = .applying row.id autopublished beforeIds afterIds)
      (editable : mediaEditable row.status = true) :
      Writes (worker.copy row)
        (applyMediaSelection surroundings.now (worker.copy row) beforeIds afterIds)

inductive WritesAll : List WorkReport → (WorkReport → WorkReport) → Prop where
  | revoke {selectedAt : Moment} {copies : List WorkReport}
      (due : worker.stage = .revoking selectedAt copies) :
      WritesAll copies (revoked selectedAt)
  | reset {started : Moment} {copies : List WorkReport}
      (due : worker.stage = .resetting started copies []) :
      WritesAll copies (unstuck started)

inductive RowStep : WorkReport → Prop where
  | kept : RowStep row
  | written {loaded changed : WorkReport} (own : loaded.id = row.id)
      (writes : Writes surroundings worker row loaded changed) :
      RowStep (flushReport loaded changed row)
  | batch {copies : List WorkReport} {change : WorkReport → WorkReport} {reached : WorkReport}
      (writes : WritesAll worker copies change) (listed : row.id ∈ copies.map (·.id))
      (status : reached.status = row.status ∨
        ∃ copy ∈ copies, copy.id = row.id ∧ (change copy).status ≠ copy.status ∧
          reached.status = (change copy).status) :
      RowStep reached

variable {surroundings worker row} {answer : Answer}

/-- The rows a step has to find. -/
abbrev Reaches (surroundings : Surroundings) (worker : Worker) (row : WorkReport) (id : Nat)
    (outcome : Outcome) : Prop :=
  ∃ reached, outcome.reports.find? id = some reached ∧ RowStep surroundings worker row reached

variable {stepping : Worker}

theorem reaches_proceed (found : reports.find? id = some row) :
    Reaches surroundings worker row id (proceed reports files stepping stage) :=
  ⟨row, found, .kept⟩

theorem reaches_commit {loaded changed : WorkReport} (found : reports.find? id = some row)
    (writes : loaded.id = id → Writes surroundings worker row loaded changed) :
    Reaches surroundings worker row id (commit reports files stepping loaded changed stage) := by
  have numbered : row.id = id := Table.key_of_find? found
  by_cases own : loaded.id = id
  · subst own
    exact ⟨_, find?_writeBack_own changed found, .written numbered.symm (writes rfl)⟩
  · have other : id ≠ loaded.id := fun same => own same.symm
    exact ⟨row, (find?_writeBack_other changed other).trans found, .kept⟩

theorem reaches_commit_loaded {reportId : Nat} {other loaded changed : WorkReport}
    (found : reports.find? row.id = some row) (own : reports.find? reportId = some other)
    (same : loaded.id = other.id) (writes : reportId = row.id → other = row →
      Writes surroundings worker row loaded changed) :
    Reaches surroundings worker row row.id (commit reports files stepping loaded changed stage) := by
  refine reaches_commit found fun key => ?_
  have number : reportId = row.id := (Table.key_of_find? own).symm.trans (same.symm.trans key)
  refine writes number ?_
  rw [number, found, Option.some.injEq] at own
  exact own.symm

theorem reaches_commitAll {copies : List WorkReport} {change : WorkReport → WorkReport}
    (found : reports.find? id = some row) (writes : WritesAll worker copies change) :
    Reaches surroundings worker row id
      (commitAll reports files worker copies change stage) := by
  have numbered : row.id = id := Table.key_of_find? found
  by_cases listed : row.id ∈ copies.map (·.id)
  · obtain ⟨reached, kept, status⟩ := find?_foldl_writeBack copies change found
    exact ⟨reached, kept, .batch writes listed (numbered.symm ▸ status)⟩
  · have apart : ∀ copy ∈ copies, copy.id ≠ id := by
      intro copy member same
      exact listed (List.mem_map.mpr ⟨copy, member, same.trans numbered.symm⟩)
    exact ⟨row, (find?_foldl_writeBack_other apart).trans found, .kept⟩

theorem begin_reaches {task : Task} {rest : List Task} (idle : worker.stage = .idle)
    (queued : worker.queue = task :: rest) (same : stepping.session = worker.session)
    (found : reports.find? id = some row) :
    Reaches surroundings worker row id (begin surroundings reports files stepping task) := by
  have numbered : row.id = id := Table.key_of_find? found
  have copied : ∀ other, stepping.copy other = worker.copy other := by
    intro other
    rw [Worker.copy, Worker.copy, same]
  subst numbered
  cases task with
  | publish reportId moderatedBy =>
    dsimp only [begin, beginPublish]
    split
    · exact reaches_proceed found
    · next other own =>
        split
        · next ready =>
            refine reaches_commit_loaded found own (Worker.copy_id _ _) ?_
            rintro rfl rfl
            rw [copied] at ready ⊢
            exact .publish idle queued ready
        · exact reaches_proceed found
  | unpublish reportId moderatorId reason =>
    dsimp only [begin, unpublish]
    split
    · exact reaches_proceed found
    · next other own =>
        split
        · next live =>
            refine reaches_commit_loaded found own rfl ?_
            rintro rfl rfl
            exact .unpublish idle queued (by simpa using live)
        · exact reaches_proceed found
  | reject reportId moderatorId reason =>
    dsimp only [begin, reject]
    split
    · exact reaches_proceed found
    · next other own =>
        split
        · next editable =>
            refine reaches_commit_loaded found own rfl ?_
            rintro rfl rfl
            exact .reject idle queued editable
        · exact reaches_proceed found
  | reopen reportId moderatorId =>
    dsimp only [begin, reopen]
    split
    · exact reaches_proceed found
    · next other own =>
        split
        · next rejected =>
            refine reaches_commit_loaded found own rfl ?_
            rintro rfl rfl
            exact .reopen idle queued rejected
        · exact reaches_proceed found
  | patch reportId body =>
    dsimp only [begin, beginPatch]
    split
    · exact reaches_proceed found
    · split
      · exact reaches_proceed found
      · split
        · exact reaches_proceed found
        · split <;> exact reaches_proceed found
  | autofillOne reportId =>
    dsimp only [begin, beginAutofillOne]
    split
    · exact reaches_proceed found
    · split <;> exact reaches_proceed found
  | autofillPending => exact ⟨row, found, .kept⟩
  | autofill | revoke => exact reaches_proceed found
  | create requestNumber categoryKey addressPublic =>
    dsimp only [begin, create]
    split
    · exact reaches_proceed found
    · exact ⟨row, insertNew_found found, .kept⟩
  | syncDrafts autopost candidates =>
    dsimp only [begin, syncDrafts]
    split
    · exact ⟨row, insertDrafts_found found, .kept⟩
    · exact reaches_proceed found
  | autopublish enabled categories =>
    dsimp only [begin, autopublish]
    split
    · exact ⟨row, found, .kept⟩
    · exact reaches_proceed found
  | reconcile =>
    dsimp only [begin, beginReconcile]
    split <;> exact reaches_proceed found

theorem advance_reaches (surroundings : Surroundings) (answer : Answer) (files : MediaFiles)
    (worker : Worker) (found : reports.find? id = some row) :
    Reaches surroundings worker row id (advance surroundings answer reports files worker) := by
  have numbered : row.id = id := Table.key_of_find? found
  unfold advance
  split
  · next idle =>
      unfold dequeue
      split
      · exact ⟨row, found, .kept⟩
      · next queued => exact begin_reaches idle queued rfl found
  · unfold validateStep
    split
    · exact reaches_proceed found
    · split <;> exact reaches_proceed found
    · exact reaches_proceed found
  · next due => exact reaches_commit found fun _ => .revert due
  · unfold lockStep
    split
    · exact reaches_proceed found
    · split
      · dsimp only
        split <;> exact ⟨row, found, .kept⟩
      · exact reaches_proceed found
  · next due => exact reaches_commit found fun _ => .record due
  · next due =>
      unfold releaseStep
      split
      · exact reaches_proceed found
      · exact reaches_commit found fun _ => .release due
  · unfold describeStep
    split
    · exact reaches_proceed found
    · split <;> exact reaches_proceed found
    · exact reaches_proceed found
  · next due => exact reaches_commit found fun _ => .finish due
  · exact reaches_proceed found
  · unfold unlockStep
    split <;> exact reaches_proceed found
  · unfold patchStep
    split
    · exact reaches_proceed found
    · split <;> exact reaches_proceed found
    · exact reaches_proceed found
  · unfold autofillStep
    split <;> exact reaches_proceed found
  · next due => exact reaches_commit found fun _ => .write due
  · unfold fetchStep
    split <;> exact reaches_proceed found
  · next reportId autopublished beforeIds afterIds due =>
      unfold applyStep
      split
      · exact reaches_proceed found
      · next other own =>
          split
          · next editable =>
              have reached : Reaches surroundings worker row id
                  (commit reports files worker (worker.copy other)
                    (applyMediaSelection surroundings.now (worker.copy other) beforeIds afterIds)
                    .idle) := by
                subst numbered
                refine reaches_commit_loaded found own (Worker.copy_id _ _) ?_
                rintro rfl rfl
                exact .apply due editable
              dsimp only
              split <;> exact reached
          · exact reaches_proceed found
  · next due => exact reaches_commitAll found (.revoke due)
  · next due =>
      unfold resetStep
      split
      · exact reaches_proceed found
      · exact reaches_commitAll found (.reset due)
  · unfold listStep
    split
    · dsimp only
      split <;> exact reaches_proceed found
    · exact reaches_proceed found
  · unfold coverStep
    dsimp only
    split <;> exact reaches_proceed found
  · unfold countStep
    split <;> exact reaches_proceed found
  · unfold discardStep
    split <;> exact reaches_proceed found
  · unfold relockStep
    split
    · exact ⟨row, found, .kept⟩
    · exact reaches_proceed found
  · exact ⟨row, found, .kept⟩

end

end InfrasafeBot.WorkReports
