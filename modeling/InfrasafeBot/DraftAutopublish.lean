import InfrasafeBot.WorkReportLifecycle

/-! The publication without moderation: `autopublish_ready_drafts` fills a batch of drafts from the
media service and publishes those that have a photo of the result. -/

set_option autoImplicit false

namespace InfrasafeBot.WorkReports

open Library RequestWorkflow

/-- What the media service answers during a call; `none` is a request that fails. -/
structure MediaClient where
  getRequestMedia : RequestNumber → String → Nat → Option (List MediaItem)
  acquirePublicationLock : Nat → Option Bool

structure WorkReportsConfig where
  autopublish : Bool
  categories : List String

/-- One call: the reports in the order of their creation, and whether the time is over when a loop
reads the clock. -/
structure AutopublishCall where
  surroundings : Surroundings
  mediaClient : MediaClient
  config : WorkReportsConfig
  reports : Reports
  lateFilling : Nat → Bool
  latePublishing : Nat → Bool

structure Filled where
  reports : Reports
  readyIds : List Nat
  left : Nat
  failed : Nat

structure Handed where
  reports : Reports
  published : Nat
  failed : Nat

structure Summary where
  published : Nat
  leftForModeration : Nat
  skippedByCategory : Nat
  failed : Nat
  enabled : Bool

def autofillFetchLimit : Nat := maxMediaPerSide * 4

def validateFetchLimit : Nat := 200

namespace AutopublishCall

variable (call : AutopublishCall)

def allowed (row : WorkReport) : Bool :=
  call.config.categories.isEmpty || call.config.categories.contains row.categoryKey

def getMedia (requestNumber : RequestNumber) (limit : Nat) : Option (List MediaItem × List MediaItem) := do
  let before ← call.mediaClient.getRequestMedia requestNumber "request_photo" limit
  let after ← call.mediaClient.getRequestMedia requestNumber "completion_photo" limit
  return (before, after)

def fetchMediaSelection (requestNumber : RequestNumber) : Option (List Nat × List Nat) := do
  let (beforeRaw, afterRaw) ← call.getMedia requestNumber autofillFetchLimit
  return (filterAndCap call.surroundings.publicMediaMaxBytes beforeRaw,
    filterAndCap call.surroundings.publicMediaMaxBytes afterRaw)

def reverted (report : WorkReport) : WorkReport :=
  { report with status := .pending, stateChangedAt := some call.surroundings.now }

/-- Step 7. A refused lock takes the report back, a request that fails leaves it as it is. -/
def acquireLocks (report : WorkReport) : List Nat → List Nat → Except WorkReport WorkReport
  | [], _ => .ok report
  | mediaId :: rest, acquired =>
    match call.mediaClient.acquirePublicationLock mediaId with
    | none => .error report
    | some false => .error (call.reverted { report with lockedMediaIds := [] })
    | some true =>
      acquireLocks { report with lockedMediaIds := acquired ++ [mediaId] } rest (acquired ++ [mediaId])

def describe (moderatorId : Option UserId) (automatic : Bool) (report : WorkReport) :
    Except WorkReport WorkReport :=
  match call.getMedia report.requestNumber validateFetchLimit with
  | none => .error report
  | some (beforeMeta, afterMeta) =>
    if report.lockedMediaIds.all fun mediaId => (beforeMeta ++ afterMeta).any (·.id = mediaId) then
      .ok { report with
        status := .published
        publishedAt := some call.surroundings.now
        moderatedBy := if automatic then none else moderatorId }
    else .error report

/-- The row that `publish_report` leaves, as an error when it raises. -/
def publishReport (moderatorId : Option UserId) (automatic : Bool) (report : WorkReport) :
    Except WorkReport WorkReport :=
  if publishable call.surroundings report then
    let publishing :=
      { report with status := .publishing, stateChangedAt := some call.surroundings.now }
    match call.getMedia report.requestNumber validateFetchLimit with
    | none => .error (call.reverted publishing)
    | some (beforeActual, afterActual) =>
      if validateMediaIds call.surroundings.publicMediaMaxBytes report.beforeMediaIds
          report.afterMediaIds beforeActual afterActual then
        (call.acquireLocks publishing publishing.mediaIds []).bind (call.describe moderatorId automatic)
      else .error (call.reverted publishing)
  else .error report

def drafts : List WorkReport :=
  call.reports.rows.filter fun row => mediaEditable row.status && call.allowed row

def candidates : List WorkReport := call.drafts.take autopublishBatchLimit

def fillDraft (filled : Filled) (report : WorkReport) : Filled :=
  match call.fetchMediaSelection report.requestNumber with
  | none => { filled with failed := filled.failed + 1 }
  | some (beforeIds, afterIds) =>
    match (filled.reports.find? report.id).filter fun row => mediaEditable row.status with
    | none => filled
    | some row =>
      let changed := applyMediaSelection call.surroundings.now row beforeIds afterIds
      let reports := writeBack row changed filled.reports
      if changed.afterMediaIds.isEmpty then { filled with reports := reports, left := filled.left + 1 }
      else { filled with reports := reports, readyIds := filled.readyIds ++ [report.id] }

def fillDrafts : List WorkReport → Nat → Filled → Filled
  | [], _, filled => filled
  | report :: rest, reading, filled =>
    if call.lateFilling reading then filled
    else fillDrafts rest (reading + 1) (call.fillDraft filled report)

def publishOne (triggeredBy : Option UserId) (handed : Handed) (reportId : Nat) : Handed :=
  match handed.reports.find? reportId with
  | none => { handed with failed := handed.failed + 1 }
  | some report =>
    match call.publishReport triggeredBy true report with
    | .ok changed =>
      { handed with
        reports := writeBack report changed handed.reports, published := handed.published + 1 }
    | .error changed =>
      { handed with
        reports := writeBack report changed handed.reports, failed := handed.failed + 1 }

def publishReady (triggeredBy : Option UserId) : List Nat → Nat → Handed → Handed
  | [], _, handed => handed
  | reportId :: rest, reading, handed =>
    if call.latePublishing reading then handed
    else publishReady triggeredBy rest (reading + 1) (call.publishOne triggeredBy handed reportId)

def filled : Filled := call.fillDrafts call.candidates 0 ⟨call.reports, [], 0, 0⟩

def handed (triggeredBy : Option UserId) : Handed :=
  call.publishReady triggeredBy call.filled.readyIds 0 ⟨call.filled.reports, 0, call.filled.failed⟩

def skippedByCategory : Nat :=
  call.reports.rows.countP fun row => mediaEditable row.status && !call.allowed row

def autopublishReadyDrafts (triggeredBy : Option UserId) : Reports × Summary :=
  if call.config.autopublish then
    let handed := call.handed triggeredBy
    (handed.reports, ⟨handed.published, call.filled.left, call.skippedByCategory, handed.failed, true⟩)
  else (call.reports, ⟨0, 0, 0, 0, false⟩)

/-- Whether the three steps publish the draft. -/
def wouldPublish (triggeredBy : Option UserId) (row : WorkReport) : Bool :=
  match call.fetchMediaSelection row.requestNumber with
  | none => false
  | some (beforeIds, afterIds) =>
    (call.publishReport triggeredBy true
      (applyMediaSelection call.surroundings.now row beforeIds afterIds)).isOk

/-- The mode is on, no request fails and the time is not over. -/
structure Smooth : Prop where
  enabled : call.config.autopublish = true
  fetched : ∀ requestNumber category limit,
    (call.mediaClient.getRequestMedia requestNumber category limit).isSome = true
  locked : ∀ mediaId, (call.mediaClient.acquirePublicationLock mediaId).isSome = true
  filling : ∀ reading, call.lateFilling reading = false
  publishing : ∀ reading, call.latePublishing reading = false

def NotStarved (triggeredBy : Option UserId) : Prop :=
  call.Smooth → (∃ row ∈ call.drafts, call.wouldPublish triggeredBy row = true) →
    0 < (call.autopublishReadyDrafts triggeredBy).2.published

/-- A report that the call publishes is of an allowed category and has a photo of the result. -/
def OnlyReady (triggeredBy : Option UserId) : Prop :=
  ∀ row ∈ (call.autopublishReadyDrafts triggeredBy).1.rows, row.status = .published →
    row ∈ call.reports.rows ∨ (call.allowed row = true ∧ row.afterMediaIds ≠ [])

section

variable {reports : Reports} {row changed : WorkReport}

/-- What the steps of a publication keep of a report. -/
structure SameDraft (report changed : WorkReport) : Prop where
  id : changed.id = report.id
  requestNumber : changed.requestNumber = report.requestNumber
  categoryKey : changed.categoryKey = report.categoryKey

structure SamePhotos (report changed : WorkReport) : Prop extends SameDraft report changed where
  afterMediaIds : changed.afterMediaIds = report.afterMediaIds

theorem SameDraft.flush (same : SameDraft row changed) : flushReport row changed row = changed := by
  obtain ⟨id, requestNumber, _⟩ := same
  simp only [flushReport, flushed_current, ← id, ← requestNumber]

theorem find?_written (stored : reports.find? row.id = some row) (same : SameDraft row changed) :
    (writeBack row changed reports).find? row.id = some changed := by
  rw [find?_writeBack_own changed stored, same.flush]

theorem mem_written (stored : reports.find? row.id = some row) (same : SameDraft row changed)
    {next : WorkReport} (listed : next ∈ (writeBack row changed reports).rows) :
    next = changed ∨ next ∈ reports.rows := by
  obtain ⟨old, oldListed, rfl⟩ := (Table.mem_update (flushReport_id row changed)).mp listed
  by_cases own : old.id = row.id
  · rw [if_pos (decide_eq_true own), Table.eq_of_key oldListed (Table.mem_of_find? stored) own, same.flush]
    exact .inl rfl
  · rw [if_neg (fun held => own (of_decide_eq_true held))]
    exact .inr oldListed

end

section

variable {call : AutopublishCall} {triggeredBy moderatorId : Option UserId} {automatic : Bool}
  {report row changed : WorkReport} {reports : Reports} {filled : Filled} {handed : Handed}

def resulting : Except WorkReport WorkReport → WorkReport
  | .ok changed => changed
  | .error changed => changed

theorem selected_same (now : Moment) (beforeIds afterIds : List Nat) :
    SameDraft row (applyMediaSelection now row beforeIds afterIds) := ⟨rfl, rfl, rfl⟩

theorem SamePhotos.refl (report : WorkReport) : SamePhotos report report := ⟨⟨rfl, rfl, rfl⟩, rfl⟩

theorem acquireLocks_same (call : AutopublishCall) (report : WorkReport) (todo acquired : List Nat) :
    SamePhotos report (resulting (call.acquireLocks report todo acquired)) := by
  induction todo generalizing report acquired with
  | nil => exact .refl report
  | cons mediaId rest ih =>
    unfold acquireLocks
    split
    · exact .refl report
    · exact ⟨⟨rfl, rfl, rfl⟩, rfl⟩
    · obtain ⟨⟨id, requestNumber, categoryKey⟩, photos⟩ :=
        ih { report with lockedMediaIds := acquired ++ [mediaId] } (acquired ++ [mediaId])
      exact ⟨⟨id, requestNumber, categoryKey⟩, photos⟩

theorem describe_same (call : AutopublishCall) (moderatorId : Option UserId) (automatic : Bool)
    (report : WorkReport) :
    SamePhotos report (resulting (call.describe moderatorId automatic report)) := by
  unfold describe
  split
  · exact .refl report
  · split
    · exact ⟨⟨rfl, rfl, rfl⟩, rfl⟩
    · exact .refl report

/-- A publication leaves the row alone, or the report has a photo of the result. -/
theorem publishReport_left (call : AutopublishCall) (moderatorId : Option UserId) (automatic : Bool)
    (report : WorkReport) :
    SamePhotos report (resulting (call.publishReport moderatorId automatic report)) ∧
      (resulting (call.publishReport moderatorId automatic report) = report ∨
        report.afterMediaIds ≠ []) := by
  unfold publishReport
  split
  · next ready =>
      have shown : report.afterMediaIds ≠ [] := by
        simp only [publishable, Bool.and_eq_true, Bool.not_eq_true', List.isEmpty_eq_false_iff] at ready
        exact ready.2
      refine ⟨?_, .inr shown⟩
      dsimp only
      split
      · exact ⟨⟨rfl, rfl, rfl⟩, rfl⟩
      · split
        · have locks := acquireLocks_same call
            { report with status := .publishing, stateChangedAt := some call.surroundings.now }
            (report.beforeMediaIds ++ report.afterMediaIds) []
          simp only [WorkReport.mediaIds]
          generalize call.acquireLocks _ _ _ = locked at locks ⊢
          obtain ⟨⟨id, requestNumber, categoryKey⟩, photos⟩ := locks
          cases locked with
          | error parked => exact ⟨⟨id, requestNumber, categoryKey⟩, photos⟩
          | ok locked =>
            obtain ⟨described, shownToo⟩ :=
              describe_same call moderatorId automatic locked
            exact ⟨⟨described.id.trans id, described.requestNumber.trans requestNumber,
              described.categoryKey.trans categoryKey⟩, shownToo.trans photos⟩
        · exact ⟨⟨rfl, rfl, rfl⟩, rfl⟩
  · exact ⟨.refl report, .inl rfl⟩

/-- A report of the table before the call, or one that may be published. -/
def Kept (call : AutopublishCall) (row : WorkReport) : Prop :=
  row ∈ call.reports.rows ∨
    (call.allowed row = true ∧ (row.status = .published → row.afterMediaIds ≠ []))

theorem allowed_of_kept {draft : WorkReport} (kept : call.Kept row) (listed : draft ∈ call.drafts)
    (same : row.id = draft.id) :
    call.allowed row = true ∧ (row.status = .published → row.afterMediaIds ≠ []) := by
  obtain ⟨stored, own⟩ := List.mem_filter.mp listed
  rw [Bool.and_eq_true] at own
  rcases kept with before | kept
  · cases Table.eq_of_key before stored same
    refine ⟨own.2, fun published => ?_⟩
    rw [published] at own
    cases own.1
  · exact kept

theorem allowed_same (same : SameDraft row changed) : call.allowed changed = call.allowed row := by
  simp only [allowed, same.categoryKey]

theorem kept_written (kept : ∀ row ∈ reports.rows, call.Kept row)
    (stored : reports.find? row.id = some row) (same : SameDraft row changed)
    (draft : row.id ∈ call.drafts.map (·.id))
    (shown : changed = row ∨ changed.status ≠ .published ∨ changed.afterMediaIds ≠ []) :
    ∀ next ∈ (writeBack row changed reports).rows, call.Kept next := by
  intro next listed
  obtain ⟨origin, listedOrigin, own⟩ := List.mem_map.mp draft
  obtain ⟨allows, photos⟩ := allowed_of_kept (kept row (Table.mem_of_find? stored)) listedOrigin own.symm
  rcases mem_written stored same listed with rfl | before
  · refine .inr ⟨(allowed_same same).trans allows, fun published => ?_⟩
    rcases shown with rfl | hidden | shown
    · exact photos published
    · exact absurd published hidden
    · exact shown
  · exact kept next before

theorem fillDraft_kept (kept : ∀ row ∈ filled.reports.rows, call.Kept row) (listed : report ∈ call.drafts) :
    ∀ row ∈ (call.fillDraft filled report).reports.rows, call.Kept row := by
  unfold fillDraft
  split
  · exact kept
  · next beforeIds afterIds _ =>
      split
      · exact kept
      · next row found =>
          obtain ⟨stored, editable⟩ := Option.filter_eq_some_iff.mp found
          have numbered : row.id = report.id := Table.key_of_find? stored
          have written := kept_written kept (numbered ▸ stored)
            (selected_same call.surroundings.now beforeIds afterIds)
            (numbered ▸ List.mem_map.mpr ⟨report, listed, rfl⟩) (.inr (.inl ?_))
          · dsimp only
            split
            · exact written
            · exact written
          · intro published
            have open_ := switchStatus_editable (!afterIds.isEmpty) editable
            rw [show switchStatus _ _ = _ from published] at open_
            cases open_

theorem fillDraft_readyIds {id : Nat} (ready : id ∈ (call.fillDraft filled report).readyIds) :
    id ∈ filled.readyIds ∨ id = report.id := by
  unfold fillDraft at ready
  split at ready
  · exact .inl ready
  · split at ready
    · exact .inl ready
    · dsimp only at ready
      split at ready
      · exact .inl ready
      · exact (List.mem_append.mp ready).imp_right List.mem_singleton.mp

theorem fillDrafts_kept {rows : List WorkReport} (drafts : ∀ row ∈ rows, row ∈ call.drafts)
    (reading : Nat) (kept : ∀ row ∈ filled.reports.rows, call.Kept row)
    (ready : ∀ id ∈ filled.readyIds, id ∈ call.drafts.map (·.id)) :
    (∀ row ∈ (call.fillDrafts rows reading filled).reports.rows, call.Kept row) ∧
      ∀ id ∈ (call.fillDrafts rows reading filled).readyIds, id ∈ call.drafts.map (·.id) := by
  induction rows generalizing filled reading with
  | nil => exact ⟨kept, ready⟩
  | cons report rest ih =>
    unfold fillDrafts
    split
    · exact ⟨kept, ready⟩
    · have listed := drafts report List.mem_cons_self
      refine ih (fun row later => drafts row (List.mem_cons_of_mem _ later)) _ (fillDraft_kept kept listed) ?_
      intro id own
      rcases fillDraft_readyIds own with before | rfl
      · exact ready id before
      · exact List.mem_map.mpr ⟨report, listed, rfl⟩

theorem publishOne_kept {reportId : Nat} (kept : ∀ row ∈ handed.reports.rows, call.Kept row)
    (draft : reportId ∈ call.drafts.map (·.id)) :
    ∀ row ∈ (call.publishOne triggeredBy handed reportId).reports.rows, call.Kept row := by
  unfold publishOne
  split
  · exact kept
  · next report stored =>
      have numbered : report.id = reportId := Table.key_of_find? stored
      obtain ⟨same, left⟩ := publishReport_left call triggeredBy true report
      have written := kept_written kept (numbered ▸ stored) same.toSameDraft (numbered ▸ draft)
        (left.imp_right fun shown => .inr (same.afterMediaIds ▸ shown))
      split
      · next returned =>
          rw [returned] at written
          exact written
      · next raised =>
          rw [raised] at written
          exact written

theorem publishReady_kept {ids : List Nat} (drafts : ∀ id ∈ ids, id ∈ call.drafts.map (·.id))
    (reading : Nat) (kept : ∀ row ∈ handed.reports.rows, call.Kept row) :
    ∀ row ∈ (call.publishReady triggeredBy ids reading handed).reports.rows, call.Kept row := by
  induction ids generalizing handed reading with
  | nil => exact kept
  | cons reportId rest ih =>
    unfold publishReady
    split
    · exact kept
    · exact ih (fun id later => drafts id (List.mem_cons_of_mem _ later)) _
        (publishOne_kept kept (drafts reportId List.mem_cons_self))

theorem onlyReady (call : AutopublishCall) (triggeredBy : Option UserId) : call.OnlyReady triggeredBy := by
  intro row listed published
  unfold autopublishReadyDrafts at listed
  split at listed
  · obtain ⟨kept, ready⟩ := @fillDrafts_kept call ⟨call.reports, [], 0, 0⟩ call.candidates
      (fun _ own => List.mem_of_mem_take own) 0 (fun _ own => .inl own) (fun _ own => by cases own)
    exact (publishReady_kept ready 0 kept row listed).imp_right fun own => ⟨own.1, own.2 published⟩
  · exact .inl listed

def publishes (call : AutopublishCall) (triggeredBy : Option UserId) (row : WorkReport) : Bool :=
  (call.publishReport triggeredBy true row).isOk

theorem publishes_without_photos (missing : changed.afterMediaIds = []) :
    call.publishes triggeredBy changed = false := by
  simp [publishes, publishReport, publishable, missing, Except.isOk, Except.toBool]

/-- After the batch is filled the drafts with a photo of the result are ready, and stored. -/
structure FilledFor (call : AutopublishCall) (triggeredBy : Option UserId) (rows : List WorkReport)
    (filled after : Filled) (ready : List WorkReport) : Prop where
  readyIds : after.readyIds = filled.readyIds ++ ready.map (·.id)
  publishes : ready.countP (call.publishes triggeredBy) = rows.countP (call.wouldPublish triggeredBy)
  named : (ready.map (·.id)).Sublist (rows.map (·.id))
  stored : ∀ row ∈ ready, after.reports.find? row.id = some row
  others : ∀ id, id ∉ rows.map (·.id) → after.reports.find? id = filled.reports.find? id

theorem fetched_of_smooth (smooth : call.Smooth) (requestNumber : RequestNumber) :
    ∃ beforeIds afterIds, call.fetchMediaSelection requestNumber = some (beforeIds, afterIds) := by
  obtain ⟨before, answered⟩ :=
    Option.isSome_iff_exists.mp (smooth.fetched requestNumber "request_photo" autofillFetchLimit)
  obtain ⟨after, answeredToo⟩ :=
    Option.isSome_iff_exists.mp (smooth.fetched requestNumber "completion_photo" autofillFetchLimit)
  refine ⟨filterAndCap call.surroundings.publicMediaMaxBytes before,
    filterAndCap call.surroundings.publicMediaMaxBytes after, ?_⟩
  simp [fetchMediaSelection, getMedia, answered, answeredToo]

theorem fillDraft_stored {beforeIds afterIds : List Nat}
    (fetched : call.fetchMediaSelection report.requestNumber = some (beforeIds, afterIds))
    (stored : filled.reports.find? report.id = some report) (editable : mediaEditable report.status = true) :
    (call.fillDraft filled report).reports = writeBack report
        (applyMediaSelection call.surroundings.now report beforeIds afterIds) filled.reports ∧
      (call.fillDraft filled report).readyIds =
        filled.readyIds ++ if afterIds.isEmpty then [] else [report.id] := by
  have loaded : (some report).filter (fun row => mediaEditable row.status) = some report := by
    simp [Option.filter, editable]
  simp only [fillDraft, fetched, stored, loaded]
  cases missing : afterIds.isEmpty <;> simp [applyMediaSelection, missing]

theorem fillDrafts_smooth (triggeredBy : Option UserId) (smooth : call.Smooth) {rows : List WorkReport} (reading : Nat)
    (distinct : (rows.map (·.id)).Nodup) (stored : ∀ row ∈ rows, filled.reports.find? row.id = some row)
    (editable : ∀ row ∈ rows, mediaEditable row.status = true) :
    ∃ ready, FilledFor call triggeredBy rows filled (call.fillDrafts rows reading filled) ready := by
  induction rows generalizing filled reading with
  | nil => exact ⟨[], (List.append_nil _).symm, rfl, .slnil, (fun _ own => by cases own), fun _ _ => rfl⟩
  | cons report rest ih =>
    obtain ⟨fresh, apart⟩ := List.nodup_cons.mp distinct
    obtain ⟨beforeIds, afterIds, fetched⟩ := fetched_of_smooth smooth report.requestNumber
    have found := stored report List.mem_cons_self
    obtain ⟨written, readyIds⟩ := fillDraft_stored fetched found (editable report List.mem_cons_self)
    have others : ∀ id, id ≠ report.id →
        (call.fillDraft filled report).reports.find? id = filled.reports.find? id := by
      intro id other
      rw [written, find?_writeBack_other _ other]
    obtain ⟨ready, named, counted, listed, kept, frame⟩ := @ih (call.fillDraft filled report)
      (reading + 1) apart (fun row own => (others row.id fun equal =>
        fresh (List.mem_map.mpr ⟨row, own, equal⟩)).trans (stored row (List.mem_cons_of_mem _ own)))
      fun row own => editable row (List.mem_cons_of_mem _ own)
    have outside : ∀ id, id ∉ (report :: rest).map (·.id) →
        (call.fillDrafts rest (reading + 1) (call.fillDraft filled report)).reports.find? id =
          filled.reports.find? id := by
      intro id absent
      obtain ⟨other, later⟩ := not_or.mp (fun own => absent (List.mem_cons.mpr own))
      exact (frame id later).trans (others id other)
    have would : call.wouldPublish triggeredBy report = call.publishes triggeredBy
        (applyMediaSelection call.surroundings.now report beforeIds afterIds) := by
      simp only [wouldPublish, fetched, publishes]
    simp only [fillDrafts, smooth.filling, Bool.false_eq_true, if_false]
    cases missing : afterIds.isEmpty with
    | true =>
      rw [missing, if_pos rfl, List.append_nil] at readyIds
      refine ⟨ready, readyIds ▸ named, ?_, listed.trans (List.sublist_cons_self _ _), kept, outside⟩
      rw [List.countP_cons, would, publishes_without_photos (List.isEmpty_iff.mp missing), counted]
      rfl
    | false =>
      rw [missing, if_neg Bool.false_ne_true] at readyIds
      refine ⟨applyMediaSelection call.surroundings.now report beforeIds afterIds :: ready, ?_, ?_,
        listed.cons_cons report.id, ?_, outside⟩
      · rw [named, readyIds]
        exact List.append_assoc _ _ _
      · rw [List.countP_cons, List.countP_cons, would, counted]
      · intro row own
        rcases List.mem_cons.mp own with rfl | own
        · refine (frame report.id fresh).trans ?_
          rw [written]
          exact find?_written found (selected_same _ _ _)
        · exact kept row own

theorem publishOne_stored (call : AutopublishCall) (triggeredBy : Option UserId)
    (stored : handed.reports.find? report.id = some report) :
    (call.publishOne triggeredBy handed report.id).published =
        handed.published + (if call.publishes triggeredBy report then 1 else 0) ∧
      ∀ id, id ≠ report.id →
        (call.publishOne triggeredBy handed report.id).reports.find? id = handed.reports.find? id := by
  unfold publishOne
  rw [stored]
  dsimp only
  split
  · next outcome =>
      exact ⟨by simp [publishes, outcome, Except.isOk, Except.toBool],
        fun _ other => find?_writeBack_other _ other⟩
  · next outcome =>
      exact ⟨by simp [publishes, outcome, Except.isOk, Except.toBool],
        fun _ other => find?_writeBack_other _ other⟩

theorem publishReady_smooth (smooth : call.Smooth) {ready : List WorkReport} (reading : Nat)
    (distinct : (ready.map (·.id)).Nodup)
    (stored : ∀ row ∈ ready, handed.reports.find? row.id = some row) :
    (call.publishReady triggeredBy (ready.map (·.id)) reading handed).published =
      handed.published + ready.countP (call.publishes triggeredBy) := by
  induction ready generalizing handed reading with
  | nil => rfl
  | cons report rest ih =>
    obtain ⟨fresh, apart⟩ := List.nodup_cons.mp distinct
    obtain ⟨published, others⟩ := publishOne_stored call triggeredBy
      (stored report List.mem_cons_self)
    simp only [List.map_cons, publishReady, smooth.publishing, Bool.false_eq_true, if_false, List.countP_cons]
    rw [ih _ apart, published]
    · omega
    · intro row own
      rw [others row.id fun equal => fresh (List.mem_map.mpr ⟨row, own, equal⟩)]
      exact stored row (List.mem_cons_of_mem _ own)

theorem published_of_smooth (smooth : call.Smooth) : (call.autopublishReadyDrafts triggeredBy).2.published =
    call.candidates.countP (call.wouldPublish triggeredBy) := by
  have candidates : call.candidates.Sublist call.reports.rows :=
    (List.take_sublist _ _).trans List.filter_sublist
  have distinct : (call.candidates.map (·.id)).Nodup := call.reports.unique.sublist (candidates.map _)
  obtain ⟨ready, filled⟩ : ∃ ready, FilledFor call triggeredBy call.candidates
      ⟨call.reports, [], 0, 0⟩ call.filled ready := fillDrafts_smooth triggeredBy smooth 0 distinct
    (fun row own => Table.find?_of_mem (candidates.subset own)) fun row own => by
      have kept := (List.mem_filter.mp (List.mem_of_mem_take own)).2
      rw [Bool.and_eq_true] at kept
      exact kept.1
  have readyIds : call.filled.readyIds = ready.map (·.id) := filled.readyIds
  have published : (call.handed triggeredBy).published = 0 + ready.countP (call.publishes triggeredBy) := by
    rw [handed, readyIds]
    exact publishReady_smooth smooth 0 (distinct.sublist filled.named) filled.stored
  simp only [autopublishReadyDrafts, smooth.enabled, if_true, published, Nat.zero_add, filled.publishes]

/-- The call serves its drafts exactly when one of the first twenty would be published, if one
would at all. -/
theorem autopublish_iff (call : AutopublishCall) (triggeredBy : Option UserId) :
    (call.NotStarved triggeredBy ∧ call.OnlyReady triggeredBy) ↔
      (call.Smooth → (∃ row ∈ call.drafts, call.wouldPublish triggeredBy row = true) →
        ∃ row ∈ call.candidates, call.wouldPublish triggeredBy row = true) := by
  have served (smooth : call.Smooth) : 0 < (call.autopublishReadyDrafts triggeredBy).2.published ↔
      ∃ row ∈ call.candidates, call.wouldPublish triggeredBy row = true := by
    rw [published_of_smooth smooth, List.countP_pos_iff]
  constructor
  · rintro ⟨progress, _⟩ smooth some
    exact (served smooth).mp (progress smooth some)
  · intro early
    exact ⟨fun smooth some => (served smooth).mpr (early smooth some), onlyReady call triggeredBy⟩

def backlogRows : List WorkReport :=
  (List.range 21).map fun id => draft (toString id) "plumbing" "Yard 1" id

theorem backlogRows_nodup : (backlogRows.map WorkReport.id).Nodup := by
  decide

/-- Twenty drafts of requests without photos, and then one with a photo of the result. -/
def photolessBacklog : AutopublishCall where
  surroundings := ⟨0, fun _ => some true, fun _ => false, 10⟩
  mediaClient :=
    { getRequestMedia := fun requestNumber category _ =>
        some (if requestNumber = "20" ∧ category = "completion_photo" then
          [⟨7, "photo", "active", some 5⟩] else [])
      acquirePublicationLock := fun _ => some true }
  config := ⟨true, []⟩
  reports := ⟨backlogRows, backlogRows_nodup⟩
  lateFilling := fun _ => false
  latePublishing := fun _ => false

theorem photoless_backlog_starves : ¬ photolessBacklog.NotStarved none := by
  intro progress
  have smooth : photolessBacklog.Smooth :=
    ⟨rfl, fun _ _ _ => rfl, fun _ => rfl, fun _ => rfl, fun _ => rfl⟩
  have some := List.any_eq_true.mp
    (by decide +kernel : photolessBacklog.drafts.any (photolessBacklog.wouldPublish none) = true)
  exact absurd (progress smooth some) (by decide +kernel)

end

end AutopublishCall

end InfrasafeBot.WorkReports
