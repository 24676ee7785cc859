import InfrasafeBot.WorkReportLifecycle

/-! The two writers of a media selection, PATCH and the autofill, on one report. -/

set_option autoImplicit false

namespace InfrasafeBot.WorkReports

open Library RequestWorkflow MediaStorage

def serve (surroundings : Surroundings) : List Answer → Outcome → Outcome
  | [], outcome => outcome
  | answer :: later, outcome =>
    serve surroundings later
      (advance surroundings answer outcome.reports outcome.files outcome.worker)

def Patch.before (body : Patch) (report : WorkReport) : List Nat :=
  body.beforeMediaIds.getD report.beforeMediaIds

def Patch.after (body : Patch) (report : WorkReport) : List Nat :=
  body.afterMediaIds.getD report.afterMediaIds

def patchWorkReport (surroundings : Surroundings) (reports : Reports) (files : MediaFiles)
    (reportId : Nat) (body : Patch) (beforeListed afterListed : List MediaItem) : Reports :=
  (serve surroundings [.delivered, .items beforeListed, .items afterListed, .delivered]
    ⟨reports, files, ⟨[], [.patch reportId body], .idle⟩⟩).reports

structure Selects (surroundings : Surroundings) (report : WorkReport) (body : Patch)
    (beforeListed afterListed : List MediaItem) : Prop where
  media : (body.beforeMediaIds.isNone && body.afterMediaIds.isNone) = false
  address : (body.addressPublic.isSome &&
    decide (surroundings.requests report.requestNumber = none)) = false
  valid : validateMediaIds surroundings.publicMediaMaxBytes (body.before report)
    (body.after report) beforeListed afterListed = true

def Patch.applied (body : Patch) (now : Moment) (report : WorkReport) : WorkReport :=
  { report with
    addressPublic := body.addressPublic.getD report.addressPublic
    categoryKey := body.categoryKey.getD report.categoryKey
    beforeMediaIds := body.before report
    afterMediaIds := body.after report
    mediaSyncedAt := some now
    status := switchStatus (!(body.before report).isEmpty && !(body.after report).isEmpty)
      report.status }

/-- The row the automatic selection leaves for the lists of the body. -/
def Patch.selected (body : Patch) (now : Moment) (report : WorkReport) : WorkReport :=
  applyMediaSelection now report (body.before report) (body.after report)

@[simp] theorem switchStatus_twice (first second : Bool) (status : ReportStatus) :
    switchStatus second (switchStatus first status) = switchStatus second status := by
  cases status with
  | pending | needsMedia => cases first <;> rfl
  | _ => rfl

theorem switchStatus_inj {status : ReportStatus} (editable : mediaEditable status = true)
    {first second : Bool} :
    switchStatus first status = switchStatus second status ↔ first = second := by
  cases status with
  | pending | needsMedia => cases first <;> cases second <;> decide
  | _ => cases editable

variable {surroundings : Surroundings} {reports : Reports} {report : WorkReport} {body : Patch}
  {beforeListed afterListed : List MediaItem}

theorem find?_writeBack {loaded changed : WorkReport} {id : Nat}
    (found : reports.find? id = some loaded) :
    (writeBack loaded changed reports).find? id = some (flushReport loaded changed loaded) := by
  rw [writeBack, Table.find?_update, found]
  simp

theorem patchWorkReport_find? (files : MediaFiles)
    (found : reports.find? report.id = some report)
    (editable : mediaEditable report.status = true)
    (selects : Selects surroundings report body beforeListed afterListed) :
    (patchWorkReport surroundings reports files report.id body beforeListed
      afterListed).find? report.id = some (body.applied surroundings.now report) := by
  have begun : beginPatch surroundings reports files ⟨[], [], .idle⟩ report.id body =
      proceed reports files ⟨[], [], .idle⟩ (.patching report
        { report with
          addressPublic := body.addressPublic.getD report.addressPublic
          categoryKey := body.categoryKey.getD report.categoryKey }
        (body.before report) (body.after report) none) := by
    simp [beginPatch, found, editable, selects.address, selects.media, Patch.before, Patch.after]
  have valid := selects.valid
  simp only [patchWorkReport, serve, advance, dequeue, begin, begun, proceed, Worker.enter,
    patchStep, valid, if_true, commit]
  rw [find?_writeBack found]
  simp [flushReport, Patch.applied]

@[simp] theorem Patch.before_selected (now : Moment) :
    body.before (body.selected now report) = body.before report := by
  cases given : body.beforeMediaIds with
  | none => simp [Patch.before, Patch.selected, applyMediaSelection, given]
  | some ids => simp [Patch.before, given]

@[simp] theorem Patch.after_selected (now : Moment) :
    body.after (body.selected now report) = body.after report := by
  cases given : body.afterMediaIds with
  | none => simp [Patch.after, Patch.selected, applyMediaSelection, given]
  | some ids => simp [Patch.after, given]

theorem Patch.selected_twice (now later : Moment) :
    (body.selected later (body.selected now report)).status =
      (body.selected now report).status := by
  have again : (body.selected later (body.selected now report)).status =
      switchStatus (!(body.after (body.selected now report)).isEmpty)
        (switchStatus (!(body.after report).isEmpty) report.status) := rfl
  rw [again, Patch.after_selected, switchStatus_twice]
  rfl

theorem Selects.selected (selects : Selects surroundings report body beforeListed afterListed)
    (now : Moment) :
    Selects surroundings (body.selected now report) body beforeListed afterListed where
  media := selects.media
  address := selects.address
  valid := by
    rw [Patch.before_selected, Patch.after_selected]
    exact selects.valid

/-- The two writers leave one status for the lists of the body, and neither changes what
the other has left. -/
structure ReadinessAgrees (surroundings : Surroundings) (reports : Reports) (files : MediaFiles)
    (report : WorkReport) (body : Patch) (beforeListed afterListed : List MediaItem)
    (patched again : WorkReport) : Prop where
  patches : (patchWorkReport surroundings reports files report.id body beforeListed
    afterListed).find? report.id = some patched
  same : patched.status = (body.selected surroundings.now report).status
  selectionKeeps : (applyMediaSelection surroundings.now patched (body.before report)
    (body.after report)).status = patched.status
  patchesAgain : (patchWorkReport surroundings (reports.put (body.selected surroundings.now report))
    files report.id body beforeListed afterListed).find? report.id = some again
  patchKeeps : again.status = (body.selected surroundings.now report).status

/-- The status after PATCH and after the selection is the same one exactly when the selection
shows something before the work or nothing after it. -/
theorem same_status_iff (now : Moment) (editable : mediaEditable report.status = true) :
    (body.applied now report).status = (body.selected now report).status ↔
      body.before report ≠ [] ∨ body.after report = [] := by
  simp only [Patch.applied, Patch.selected, applyMediaSelection]
  rw [switchStatus_inj editable]
  cases body.before report with
  | nil => cases body.after report <;> simp
  | cons first rest => simp

/-- Where both writers have run, PATCH leaves the selection's status exactly when the
selection shows something before the work or nothing after it. -/
theorem patch_agrees_with_selection (files : MediaFiles)
    (found : reports.find? report.id = some report)
    (editable : mediaEditable report.status = true)
    (selects : Selects surroundings report body beforeListed afterListed) :
    (∃ patched again, ReadinessAgrees surroundings reports files report body beforeListed
        afterListed patched again) ↔
      body.before report ≠ [] ∨ body.after report = [] := by
  constructor
  · rintro ⟨patched, again, agrees⟩
    have applied := agrees.patches
    rw [patchWorkReport_find? files found editable selects, Option.some.injEq] at applied
    exact (same_status_iff surroundings.now editable).mp (applied ▸ agrees.same)
  · intro shows
    have same := (same_status_iff surroundings.now editable).mpr shows
    have stored : (reports.put (body.selected surroundings.now report)).find?
        (body.selected surroundings.now report).id = some (body.selected surroundings.now report) :=
      Table.find?_put_self found
    have switched : mediaEditable (body.selected surroundings.now report).status = true := by
      simpa [Patch.selected, applyMediaSelection] using switchStatus_editable _ editable
    have again := patchWorkReport_find? files stored switched (selects.selected surroundings.now)
    refine ⟨_, _, patchWorkReport_find? files found editable selects, same, ?_, again, ?_⟩
    · -- the selection on the patched row switches by the same list again
      rw [same]
      simp [Patch.applied, Patch.selected, applyMediaSelection]
    · have kept : body.before (body.selected surroundings.now report) ≠ [] ∨
          body.after (body.selected surroundings.now report) = [] := by
        simpa using shows
      exact ((same_status_iff surroundings.now switched).mpr kept).trans
        (Patch.selected_twice _ _)

private def inReview : WorkReport := draft "260725-330" "plumbing" "Street 1" 1

private def inReviewStore : Reports := ⟨[inReview], by decide⟩

private def shelf : Surroundings where
  now := 0
  requests := fun _ => some true
  addressLooksLikeApartment := fun _ => false
  publicMediaMaxBytes := 10

private def readyPhoto (id : Nat) : MediaItem := ⟨id, "photo", "active", some 5⟩

/-- A result without a photo of the state before it: the selection leaves the report pending,
PATCH sends it back to needs_media. -/
theorem patch_disagrees_with_selection :
    ¬ ∃ patched again, ReadinessAgrees shelf inReviewStore .empty inReview
        ⟨none, none, some [], some [2]⟩ [] [readyPhoto 2] patched again := by
  rintro ⟨patched, again, agrees⟩
  have selects : Selects shelf inReview ⟨none, none, some [], some [2]⟩ [] [readyPhoto 2] := ⟨rfl, rfl, rfl⟩
  have stored : inReviewStore.find? inReview.id = some inReview := rfl
  have applied := patchWorkReport_find? .empty stored rfl selects
  rw [agrees.patches, Option.some.injEq] at applied
  have same := agrees.same
  rw [applied] at same
  exact absurd same (by decide)

theorem patch_agrees_with_both_sides :
    (∃ patched again, ReadinessAgrees shelf inReviewStore .empty inReview
        ⟨none, none, some [1], some [2]⟩ [readyPhoto 1] [readyPhoto 2] patched again) ↔
      [1] ≠ ([] : List Nat) ∨ [2] = ([] : List Nat) :=
  patch_agrees_with_selection .empty rfl rfl ⟨rfl, rfl, rfl⟩

end InfrasafeBot.WorkReports
