import Mathlib.Data.List.Sort
import InfrasafeBot.Library.Session
import InfrasafeBot.MediaStorage

/-! Work reports: drafts, the media selection, the publication saga over the media
service, the revocation and the reconciliation (`services/work_reports`), one
transaction or one call of the media service at a time. -/

set_option autoImplicit false

namespace InfrasafeBot.WorkReports

open Library RequestWorkflow MediaStorage

inductive ReportStatus where
  | pending
  | needsMedia
  | publishing
  | published
  | needsReview
  | rejected
  deriving DecidableEq

def mediaEditable : ReportStatus → Bool
  | .pending => true
  | .needsMedia => true
  | _ => false

def lockHolding : ReportStatus → Bool
  | .published => true
  | .publishing => true
  | .needsReview => true
  | _ => false

structure WorkReport where
  id : Nat
  requestNumber : RequestNumber
  categoryKey : String
  addressPublic : String
  beforeMediaIds : List Nat
  afterMediaIds : List Nat
  lockedMediaIds : List Nat
  status : ReportStatus
  rejectReason : Option String
  publishedAt : Option Moment
  mediaSyncedAt : Option Moment
  stateChangedAt : Option Moment
  moderatedBy : Option UserId

abbrev Reports := Table WorkReport.id

def WorkReport.mediaIds (report : WorkReport) : List Nat := report.beforeMediaIds ++ report.afterMediaIds

def draft (requestNumber : RequestNumber) (categoryKey addressPublic : String) (id : Nat) : WorkReport where
  id := id
  requestNumber := requestNumber
  categoryKey := categoryKey
  addressPublic := addressPublic
  beforeMediaIds := []
  afterMediaIds := []
  lockedMediaIds := []
  status := .pending
  rejectReason := none
  publishedAt := none
  mediaSyncedAt := none
  stateChangedAt := none
  moderatedBy := none

theorem draft_id (requestNumber : RequestNumber) (categoryKey addressPublic : String) (id : Nat) :
    (draft requestNumber categoryKey addressPublic id).id = id := rfl

def insertNew (requestNumber : RequestNumber) (categoryKey addressPublic : String)
    (reports : Reports) : Reports :=
  reports.insert (draft requestNumber categoryKey addressPublic)
    (draft_id requestNumber categoryKey addressPublic)

def flushReport (loaded changed row : WorkReport) : WorkReport where
  id := row.id
  requestNumber := row.requestNumber
  categoryKey := flushed loaded.categoryKey changed.categoryKey row.categoryKey
  addressPublic := flushed loaded.addressPublic changed.addressPublic row.addressPublic
  beforeMediaIds := flushed loaded.beforeMediaIds changed.beforeMediaIds row.beforeMediaIds
  afterMediaIds := flushed loaded.afterMediaIds changed.afterMediaIds row.afterMediaIds
  lockedMediaIds := flushed loaded.lockedMediaIds changed.lockedMediaIds row.lockedMediaIds
  status := flushed loaded.status changed.status row.status
  rejectReason := flushed loaded.rejectReason changed.rejectReason row.rejectReason
  publishedAt := flushed loaded.publishedAt changed.publishedAt row.publishedAt
  mediaSyncedAt := flushed loaded.mediaSyncedAt changed.mediaSyncedAt row.mediaSyncedAt
  stateChangedAt := flushed loaded.stateChangedAt changed.stateChangedAt row.stateChangedAt
  moderatedBy := flushed loaded.moderatedBy changed.moderatedBy row.moderatedBy

theorem flushReport_id (loaded changed row : WorkReport) :
    (flushReport loaded changed row).id = row.id := rfl

def writeBack (loaded changed : WorkReport) (reports : Reports) : Reports :=
  reports.update (fun row => row.id = loaded.id) (flushReport loaded changed)
    (flushReport_id loaded changed)

/-- What the code finds around the two stores: the clock, the requests with their
eligibility, the apartment heuristic and the size limit of the settings. -/
structure Surroundings where
  now : Moment
  requests : RequestNumber → Option Bool
  addressLooksLikeApartment : String → Bool
  publicMediaMaxBytes : Nat

/-- An item of an answer of `get_request_media`. -/
structure MediaItem where
  id : Nat
  fileType : String
  status : String
  fileSize : Option Nat
  deriving DecidableEq

/-- How a call of the media service ends: answered, performed with its answer lost,
or not performed. -/
inductive Answer where
  | items (listed : List MediaItem)
  | delivered
  | lost
  | failed
  deriving DecidableEq

def performed : Answer → Bool
  | .delivered => true
  | .lost => true
  | _ => false

def acceptable (publicMediaMaxBytes : Nat) (item : MediaItem) : Bool :=
  item.fileType = "photo" && item.status = "active" && item.fileSize.any (· ≤ publicMediaMaxBytes)

def maxMediaPerSide : Nat := 4

def filterAndCap (publicMediaMaxBytes : Nat) (items : List MediaItem) : List Nat :=
  ((items.filter (acceptable publicMediaMaxBytes)).take maxMediaPerSide).map (·.id)

def checkSide (publicMediaMaxBytes : Nat) (mediaIds : List Nat) (actual : List MediaItem) : Bool :=
  mediaIds.all fun mediaId => (actual.find? (·.id = mediaId)).any (acceptable publicMediaMaxBytes)

def validateMediaIds (publicMediaMaxBytes : Nat) (beforeMediaIds afterMediaIds : List Nat)
    (beforeActual afterActual : List MediaItem) : Bool :=
  checkSide publicMediaMaxBytes beforeMediaIds beforeActual &&
    checkSide publicMediaMaxBytes afterMediaIds afterActual

/-- The switch between pending and needs_media. -/
def switchStatus (present : Bool) : ReportStatus → ReportStatus
  | .pending => if present then .pending else .needsMedia
  | .needsMedia => if present then .pending else .needsMedia
  | other => other

def applyMediaSelection (now : Moment) (report : WorkReport) (beforeIds afterIds : List Nat) : WorkReport :=
  { report with
    beforeMediaIds := beforeIds
    afterMediaIds := afterIds
    mediaSyncedAt := some now
    status := switchStatus (!afterIds.isEmpty) report.status }

structure Patch where
  addressPublic : Option String
  categoryKey : Option String
  beforeMediaIds : Option (List Nat)
  afterMediaIds : Option (List Nat)

/-- The pieces of work a session runs one after the other. -/
inductive Task where
  | publish (reportId : Nat) (moderatedBy : Option UserId)
  | unpublish (reportId : Nat) (moderatorId : UserId) (reason : Option String)
  | reject (reportId : Nat) (moderatorId : UserId) (reason : String)
  | reopen (reportId : Nat) (moderatorId : UserId)
  | patch (reportId : Nat) (body : Patch)
  | autofillOne (reportId : Nat)
  | autofillPending
  | autofill (reportId : Nat) (autopublished : Bool)
  | create (requestNumber : RequestNumber) (categoryKey addressPublic : String)
  | syncDrafts (autopost : Bool) (candidates : List (RequestNumber × String × Option String))
  | autopublish (autopublish : Bool) (categories : List String)
  | revoke
  | reconcile

inductive Call where
  | publish (reportId : Nat) (moderatorId : UserId)
  | unpublish (reportId : Nat) (moderatorId : UserId) (reason : Option String)
  | reject (reportId : Nat) (moderatorId : UserId) (reason : String)
  | reopen (reportId : Nat) (moderatorId : UserId)
  | patch (reportId : Nat) (body : Patch)
  | autofill (reportId : Nat)
  | autofillPending
  | create (requestNumber : RequestNumber) (categoryKey addressPublic : String)
  | sync (autopost : Bool) (candidates : List (RequestNumber × String × Option String))
      (autopublish : Bool) (categories : List String) (reconciles : Bool)
  | feed
  | reconcile

def Call.tasks : Call → List Task
  | .publish reportId moderatorId => [.publish reportId (some moderatorId)]
  | .unpublish reportId moderatorId reason => [.unpublish reportId moderatorId reason]
  | .reject reportId moderatorId reason => [.reject reportId moderatorId reason]
  | .reopen reportId moderatorId => [.reopen reportId moderatorId]
  | .patch reportId body => [.patch reportId body]
  | .autofill reportId => [.autofillOne reportId]
  | .autofillPending => [.autofillPending]
  | .create requestNumber categoryKey addressPublic => [.create requestNumber categoryKey addressPublic]
  | .sync autopost candidates autopublish categories reconciles =>
    [.syncDrafts autopost candidates, .autopublish autopublish categories, .revoke] ++
      if reconciles then [.reconcile] else []
  | .feed => [.revoke]
  | .reconcile => [.reconcile]

inductive Stage where
  | idle
  /-- `publish_report` after its first commit, step 6 to step 9. -/
  | validating (report : WorkReport) (moderatedBy : Option UserId)
      (before : Option (List MediaItem))
  | reverting (report : WorkReport)
  | locking (report : WorkReport) (moderatedBy : Option UserId) (todo acquired : List Nat)
  | recording (report : WorkReport) (moderatedBy : Option UserId) (todo acquired : List Nat)
  | releasing (report : WorkReport) (todo : List Nat)
  | describing (report : WorkReport) (moderatedBy : Option UserId) (acquired : List Nat)
      (before : Option (List MediaItem))
  | finishing (report : WorkReport) (moderatedBy : Option UserId)
  /-- `unpublish_report` after its commit. -/
  | withdrawing (reportId : Nat) (mediaIdsToRelease : List Nat)
  | unlocking (todo : List Nat)
  /-- PATCH and the autofill of one report hold the row over their calls. -/
  | patching (report changed : WorkReport) (before after : List Nat)
      (beforeActual : Option (List MediaItem))
  | autofilling (report : WorkReport) (before : Option (List MediaItem))
  | writing (report changed : WorkReport)
  /-- The autofill of a batch takes the row for its write only. -/
  | fetching (reportId : Nat) (autopublished : Bool) (before : Option (List MediaItem))
  | applying (reportId : Nat) (autopublished : Bool) (beforeIds afterIds : List Nat)
  | revoking (selectedAt : Moment) (reports : List WorkReport)
  /-- `reconcile_publication_locks`: the stuck reports, held, and the releases left;
  then the inventory, what it misses, and the releases and acquisitions. -/
  | resetting (started : Moment) (reports : List WorkReport) (todo : List (Nat × Nat))
  | listing (offset : Nat) (inventory : List Nat)
  | covering (inventory : List Nat)
  | counting (orphaned missing : List Nat)
  | discarding (orphaned missing : List Nat)
  | relocking (missing : List Nat)
  | resolving

structure Worker where
  session : List WorkReport
  queue : List Task
  stage : Stage

def Worker.fresh : Worker := ⟨[], [], .idle⟩

def Worker.copy (worker : Worker) (row : WorkReport) : WorkReport :=
  (worker.session.find? (·.id = row.id)).getD row

def remember (session : List WorkReport) (report : WorkReport) : List WorkReport :=
  report :: session.filter (·.id ≠ report.id)

structure Outcome where
  reports : Reports
  files : MediaFiles
  worker : Worker

section

variable (surroundings : Surroundings) (answer : Answer) (reports : Reports)
  (files : MediaFiles) (worker : Worker)

/-- Steps 1 to 5 of `publish_report`, on the copy of the session. -/
def publishable (report : WorkReport) : Bool :=
  report.status = .pending && surroundings.requests report.requestNumber = some true &&
    report.addressPublic ≠ "" &&
    !surroundings.addressLooksLikeApartment report.addressPublic &&
    !report.afterMediaIds.isEmpty

def Worker.enter (stage : Stage) : Worker := { worker with stage := stage }

def commit (loaded changed : WorkReport) (stage : Stage) : Outcome where
  reports := writeBack loaded changed reports
  files := files
  worker := { worker with session := remember worker.session changed, stage := stage }

def proceed (stage : Stage) : Outcome := ⟨reports, files, worker.enter stage⟩

def beginPublish (reportId : Nat) (moderatedBy : Option UserId) : Outcome :=
  match reports.find? reportId with
  | none => proceed reports files worker .idle
  | some row =>
    let report := worker.copy row
    if publishable surroundings report then
      let changed := { report with status := .publishing, stateChangedAt := some surroundings.now }
      commit reports files worker report changed (.validating changed moderatedBy none)
    else proceed reports files worker .idle

/-- The two listings of the validation, then the locks. -/
def validateStep (report : WorkReport) (moderatedBy : Option UserId)
    (before : Option (List MediaItem)) : Outcome :=
  match answer, before with
  | .items listed, none => proceed reports files worker (.validating report moderatedBy (some listed))
  | .items listed, some beforeActual =>
    if validateMediaIds surroundings.publicMediaMaxBytes report.beforeMediaIds
        report.afterMediaIds beforeActual listed then
      proceed reports files worker (.locking report moderatedBy report.mediaIds [])
    else proceed reports files worker (.reverting report)
  | _, _ => proceed reports files worker (.reverting report)

def revertStep (report : WorkReport) : Outcome :=
  commit reports files worker report
    { report with status := .pending, stateChangedAt := some surroundings.now } .idle

/-- After the last lock the metadata are read. -/
def nextLock (report : WorkReport) (moderatedBy : Option UserId) (todo acquired : List Nat) : Stage :=
  if todo.isEmpty then .describing report moderatedBy acquired none
  else .locking report moderatedBy todo acquired

def lockStep (report : WorkReport) (moderatedBy : Option UserId) (todo acquired : List Nat) : Outcome :=
  match todo with
  | [] => proceed reports files worker (nextLock report moderatedBy [] acquired)
  | mediaId :: rest =>
    if performed answer then
      let (locked, ok) := acquirePublicationLock surroundings.now mediaId files
      if ok && answer = .delivered then
        proceed reports locked worker (.recording report moderatedBy rest (acquired ++ [mediaId]))
      else proceed reports locked worker (.releasing report acquired)
    else proceed reports files worker (.releasing report acquired)

def recordStep (report : WorkReport) (moderatedBy : Option UserId) (todo acquired : List Nat) : Outcome :=
  let changed := { report with lockedMediaIds := acquired }
  commit reports files worker report changed (nextLock changed moderatedBy todo acquired)

/-- A release that fails is not noticed. -/
def release (mediaId : Nat) : MediaFiles :=
  if performed answer then releasePublicationLock surroundings.now mediaId files else files

def releaseStep (report : WorkReport) (todo : List Nat) : Outcome :=
  match todo with
  | mediaId :: rest =>
    proceed reports (release surroundings answer files mediaId) worker (.releasing report rest)
  | [] =>
    commit reports files worker report
      { report with
        lockedMediaIds := []
        status := .pending
        stateChangedAt := some surroundings.now } .idle

def describeStep (report : WorkReport) (moderatedBy : Option UserId) (acquired : List Nat)
    (before : Option (List MediaItem)) : Outcome :=
  match answer, before with
  | .items listed, none =>
    proceed reports files worker (.describing report moderatedBy acquired (some listed))
  | .items listed, some beforeMeta =>
    if acquired.all fun mediaId => (beforeMeta ++ listed).any (·.id = mediaId) then
      proceed reports files worker (.finishing report moderatedBy)
    else proceed reports files worker .idle
  | _, _ => proceed reports files worker .idle

def finishStep (report : WorkReport) (moderatedBy : Option UserId) : Outcome :=
  commit reports files worker report
    { report with
      status := .published
      publishedAt := some surroundings.now
      moderatedBy := moderatedBy } .idle

end

section

variable (surroundings : Surroundings) (answer : Answer) (reports : Reports)
  (files : MediaFiles) (worker : Worker)

def unpublish (reportId : Nat) (moderatorId : UserId) (reason : Option String) : Outcome :=
  match reports.find? reportId with
  | none => proceed reports files worker .idle
  | some report =>
    if report.status = .published || report.status = .needsReview then
      commit reports files worker report
        { report with
          status := .rejected
          rejectReason := if reason.any (· ≠ "") then reason else report.rejectReason
          moderatedBy := some moderatorId
          stateChangedAt := some surroundings.now
          lockedMediaIds := [] }
        (.withdrawing reportId report.lockedMediaIds)
    else proceed reports files worker .idle

/-- The ids the reports with locks hold, as one query returns them. -/
def heldMediaIds (reports : Reports) (except : Option Nat) : List Nat :=
  (reports.rows.filter fun row => lockHolding row.status && some row.id ≠ except).flatMap
    (·.lockedMediaIds)

def withdrawStep (reportId : Nat) (mediaIdsToRelease : List Nat) : Outcome :=
  let otherLocked := heldMediaIds reports (some reportId)
  proceed reports files worker
    (.unlocking (mediaIdsToRelease.filter fun mediaId => !otherLocked.contains mediaId))

def unlockStep (todo : List Nat) : Outcome :=
  match todo with
  | mediaId :: rest => proceed reports (release surroundings answer files mediaId) worker (.unlocking rest)
  | [] => proceed reports files worker .idle

def reject (reportId : Nat) (moderatorId : UserId) (reason : String) : Outcome :=
  match reports.find? reportId with
  | none => proceed reports files worker .idle
  | some report =>
    if mediaEditable report.status then
      commit reports files worker report
        { report with
          status := .rejected
          rejectReason := some reason
          moderatedBy := some moderatorId
          stateChangedAt := some surroundings.now } .idle
    else proceed reports files worker .idle

def reopen (reportId : Nat) : Outcome :=
  match reports.find? reportId with
  | none => proceed reports files worker .idle
  | some report =>
    if report.status = .rejected then
      commit reports files worker report
        { report with
          status := .pending
          rejectReason := none
          stateChangedAt := some surroundings.now } .idle
    else proceed reports files worker .idle

end

section

variable (surroundings : Surroundings) (answer : Answer) (reports : Reports)
  (files : MediaFiles) (worker : Worker)

def beginPatch (reportId : Nat) (body : Patch) : Outcome :=
  match reports.find? reportId with
  | none => proceed reports files worker .idle
  | some report =>
    if !mediaEditable report.status then proceed reports files worker .idle
    else if body.addressPublic.isSome && surroundings.requests report.requestNumber = none then
      proceed reports files worker .idle
    else
      let changed :=
        { report with
          addressPublic := body.addressPublic.getD report.addressPublic
          categoryKey := body.categoryKey.getD report.categoryKey }
      if body.beforeMediaIds.isNone && body.afterMediaIds.isNone then
        proceed reports files worker (.writing report changed)
      else
        proceed reports files worker
          (.patching report changed (body.beforeMediaIds.getD report.beforeMediaIds)
            (body.afterMediaIds.getD report.afterMediaIds) none)

def patchStep (report changed : WorkReport) (before after : List Nat)
    (beforeActual : Option (List MediaItem)) : Outcome :=
  match answer, beforeActual with
  | .items listed, none =>
    proceed reports files worker (.patching report changed before after (some listed))
  | .items listed, some beforeListed =>
    if validateMediaIds surroundings.publicMediaMaxBytes before after beforeListed listed then
      proceed reports files worker
        (.writing report
          { changed with
            beforeMediaIds := before
            afterMediaIds := after
            mediaSyncedAt := some surroundings.now
            status := switchStatus (!before.isEmpty && !after.isEmpty) changed.status })
    else proceed reports files worker .idle
  | _, _ => proceed reports files worker .idle

def beginAutofillOne (reportId : Nat) : Outcome :=
  match reports.find? reportId with
  | none => proceed reports files worker .idle
  | some report =>
    if mediaEditable report.status then proceed reports files worker (.autofilling report none)
    else proceed reports files worker .idle

def autofillStep (report : WorkReport) (before : Option (List MediaItem)) : Outcome :=
  match answer, before with
  | .items listed, none => proceed reports files worker (.autofilling report (some listed))
  | .items listed, some beforeRaw =>
    proceed reports files worker
      (.writing report
        (applyMediaSelection surroundings.now report
          (filterAndCap surroundings.publicMediaMaxBytes beforeRaw)
          (filterAndCap surroundings.publicMediaMaxBytes listed)))
  | _, _ => proceed reports files worker .idle

def autofillBatchLimit : Nat := 20

def autofillPending : Outcome :=
  let candidates := (reports.rows.filter fun row =>
    row.mediaSyncedAt = none && mediaEditable row.status).take autofillBatchLimit
  ⟨reports, files,
    { worker with
      queue := candidates.map (fun row => .autofill row.id false) ++ worker.queue
      stage := .idle }⟩

def fetchStep (reportId : Nat) (autopublished : Bool) (before : Option (List MediaItem)) : Outcome :=
  match answer, before with
  | .items listed, none => proceed reports files worker (.fetching reportId autopublished (some listed))
  | .items listed, some beforeRaw =>
    proceed reports files worker
      (.applying reportId autopublished
        (filterAndCap surroundings.publicMediaMaxBytes beforeRaw)
        (filterAndCap surroundings.publicMediaMaxBytes listed))
  | _, _ => proceed reports files worker .idle

def isBatch : Task → Bool
  | .autofill _ _ => true
  | .publish _ _ => true
  | _ => false

/-- A ready report is published after the autofills and the earlier ready reports. -/
def enqueueReady (reportId : Nat) (queue : List Task) : List Task :=
  queue.takeWhile isBatch ++ .publish reportId none :: queue.dropWhile isBatch

def applyStep (reportId : Nat) (autopublished : Bool) (beforeIds afterIds : List Nat) : Outcome :=
  match reports.find? reportId with
  | none => proceed reports files worker .idle
  | some row =>
    if mediaEditable row.status then
      let report := worker.copy row
      let changed := applyMediaSelection surroundings.now report beforeIds afterIds
      let outcome := commit reports files worker report changed .idle
      if autopublished && !changed.afterMediaIds.isEmpty then
        { outcome with
          worker := { outcome.worker with queue := enqueueReady reportId outcome.worker.queue } }
      else outcome
    else proceed reports files worker .idle

/-- The time budget of a batch is over: what is left of it is dropped. -/
def dropBatch : Worker := { worker with queue := worker.queue.dropWhile isBatch }

def create (requestNumber : RequestNumber) (categoryKey addressPublic : String) : Outcome :=
  if reports.rows.any (·.requestNumber = requestNumber) ||
      surroundings.requests requestNumber ≠ some true then
    proceed reports files worker .idle
  else
    { proceed reports files worker .idle with
      reports := insertNew requestNumber categoryKey addressPublic reports }

def syncCircuitBreakerLimit : Nat := 200

def insertDraft (reports : Reports) (candidate : RequestNumber × String × Option String) : Reports :=
  match candidate.2.2 with
  | none => reports
  | some address =>
    if reports.rows.any (·.requestNumber = candidate.1) then reports
    else insertNew candidate.1 candidate.2.1 address reports

/-- The candidates are the requests of the query, with their derived addresses. -/
def syncDrafts (autopost : Bool) (candidates : List (RequestNumber × String × Option String)) : Outcome :=
  if autopost && reports.rowcount (fun row => mediaEditable row.status) < syncCircuitBreakerLimit then
    { proceed reports files worker .idle with reports := candidates.foldl insertDraft reports }
  else proceed reports files worker .idle

def autopublishBatchLimit : Nat := 20

/-- The candidates are loaded without a lock, and their copies stay in the session. -/
def autopublish (autopublish : Bool) (categories : List String) : Outcome :=
  if autopublish then
    let candidates := (reports.rows.filter fun row =>
      mediaEditable row.status &&
        (categories.isEmpty || categories.contains row.categoryKey)).take autopublishBatchLimit
    ⟨reports, files,
      { session := (candidates.map worker.copy).foldl remember worker.session
        queue := candidates.map (fun row => .autofill row.id true) ++ worker.queue
        stage := .idle }⟩
  else proceed reports files worker .idle

end

section

variable (surroundings : Surroundings) (answer : Answer) (reports : Reports)
  (files : MediaFiles) (worker : Worker)

/-- One commit of several copies, each changed in the same way. -/
def commitAll (copies : List WorkReport) (change : WorkReport → WorkReport) (stage : Stage) : Outcome where
  reports := copies.foldl (fun rows copy => writeBack copy (change copy) rows) reports
  files := files
  worker :=
    { worker with
      session := (copies.map change).foldl remember worker.session
      stage := stage }

/-- The published reports whose request exists and is not eligible any more: a query
without a lock. -/
def revoke : Outcome :=
  let stale := reports.rows.filter fun row =>
    row.status = .published && surroundings.requests row.requestNumber = some false
  proceed reports files worker (.revoking surroundings.now (stale.map worker.copy))

def revoked (selectedAt : Moment) (report : WorkReport) : WorkReport :=
  { report with
    status := .needsReview
    rejectReason := some "request_no_longer_eligible"
    stateChangedAt := some selectedAt }

def revokeStep (selectedAt : Moment) (copies : List WorkReport) : Outcome :=
  commitAll reports files worker copies (revoked selectedAt) .idle

def reconcileStaleSeconds : Nat := 15 * 60

/-- Stuck in publishing. -/
def stuck (now : Moment) (row : WorkReport) : Bool :=
  row.status = .publishing && row.stateChangedAt.any (· < now - reconcileStaleSeconds)

def beginReconcile : Outcome :=
  let copies := (reports.rows.filter (stuck surroundings.now)).map worker.copy
  if copies.isEmpty then proceed reports files worker (.listing 0 [])
  else
    proceed reports files worker
      (.resetting surroundings.now copies
        (copies.flatMap fun report => report.lockedMediaIds.map fun mediaId => (report.id, mediaId)))

def unstuck (started : Moment) (report : WorkReport) : WorkReport :=
  { report with
    lockedMediaIds := []
    status := .pending
    stateChangedAt := some started }

def resetStep (started : Moment) (copies : List WorkReport) (todo : List (Nat × Nat)) : Outcome :=
  match todo with
  | (_, mediaId) :: rest =>
    proceed reports (release surroundings answer files mediaId) worker
      (.resetting started copies rest)
  | [] => commitAll reports files worker copies (unstuck started) (.listing 0 [])

def publicationLocks (files : MediaFiles) : List Nat :=
  ((files.rows.filter (·.publicationLocked)).map (·.id)).insertionSort (· ≤ ·)

def locksPage : Nat := 200

/-- The inventory is read page by page. -/
def listStep (offset : Nat) (inventory : List Nat) : Outcome :=
  if answer = .delivered then
    let page := ((publicationLocks files).drop offset).take locksPage
    if page.length < locksPage then proceed reports files worker (.covering (inventory ++ page))
    else proceed reports files worker (.listing (offset + locksPage) (inventory ++ page))
  else proceed reports files worker .idle

def coverStep (inventory : List Nat) : Outcome :=
  let covered := heldMediaIds reports none
  let orphaned := inventory.dedup.filter fun mediaId => !covered.contains mediaId
  let missing := covered.dedup.filter fun mediaId => !inventory.contains mediaId
  if orphaned.isEmpty then proceed reports files worker (.relocking missing)
  else proceed reports files worker (.counting orphaned missing)

/-- Orphans are left alone while any report is in publishing. -/
def countStep (orphaned missing : List Nat) : Outcome :=
  if reports.rows.any (·.status = .publishing) then proceed reports files worker (.relocking missing)
  else proceed reports files worker (.discarding orphaned missing)

def discardStep (orphaned missing : List Nat) : Outcome :=
  match orphaned with
  | mediaId :: rest =>
    proceed reports (release surroundings answer files mediaId) worker
      (.discarding rest missing)
  | [] => proceed reports files worker (.relocking missing)

def relockStep (missing : List Nat) : Outcome :=
  match missing with
  | mediaId :: rest =>
    let locked := if performed answer then
      (acquirePublicationLock surroundings.now mediaId files).1 else files
    proceed reports locked worker (.relocking rest)
  | [] => proceed reports files worker .resolving

def resolveStep : Outcome :=
  let resolved := if performed answer then (resolveStaleTransitions surroundings.now 15 files).1 else files
  proceed reports resolved worker .idle

end

section

variable (surroundings : Surroundings) (answer : Answer) (reports : Reports)
  (files : MediaFiles) (worker : Worker)

def begin : Task → Outcome
  | .publish reportId moderatedBy => beginPublish surroundings reports files worker reportId moderatedBy
  | .unpublish reportId moderatorId reason =>
    unpublish surroundings reports files worker reportId moderatorId reason
  | .reject reportId moderatorId reason =>
    reject surroundings reports files worker reportId moderatorId reason
  | .reopen reportId _ => reopen surroundings reports files worker reportId
  | .patch reportId body => beginPatch surroundings reports files worker reportId body
  | .autofillOne reportId => beginAutofillOne reports files worker reportId
  | .autofillPending => autofillPending reports files worker
  | .autofill reportId autopublished => proceed reports files worker (.fetching reportId autopublished none)
  | .create requestNumber categoryKey addressPublic =>
    create surroundings reports files worker requestNumber categoryKey addressPublic
  | .syncDrafts autopost candidates => syncDrafts reports files worker autopost candidates
  | .autopublish enabled categories => autopublish reports files worker enabled categories
  | .revoke => revoke surroundings reports files worker
  | .reconcile => beginReconcile surroundings reports files worker

def dequeue : Outcome :=
  match worker.queue with
  | [] => ⟨reports, files, worker⟩
  | task :: rest => begin surroundings reports files { worker with queue := rest } task

def advance : Outcome :=
  match worker.stage with
  | .idle => dequeue surroundings reports files worker
  | .validating report moderatedBy before =>
    validateStep surroundings answer reports files worker report moderatedBy before
  | .reverting report => revertStep surroundings reports files worker report
  | .locking report moderatedBy todo acquired =>
    lockStep surroundings answer reports files worker report moderatedBy todo acquired
  | .recording report moderatedBy todo acquired =>
    recordStep reports files worker report moderatedBy todo acquired
  | .releasing report todo => releaseStep surroundings answer reports files worker report todo
  | .describing report moderatedBy acquired before =>
    describeStep answer reports files worker report moderatedBy acquired before
  | .finishing report moderatedBy => finishStep surroundings reports files worker report moderatedBy
  | .withdrawing reportId mediaIds => withdrawStep reports files worker reportId mediaIds
  | .unlocking todo => unlockStep surroundings answer reports files worker todo
  | .patching report changed before after beforeActual =>
    patchStep surroundings answer reports files worker report changed before after beforeActual
  | .autofilling report before => autofillStep surroundings answer reports files worker report before
  | .writing report changed => commit reports files worker report changed .idle
  | .fetching reportId autopublished before =>
    fetchStep surroundings answer reports files worker reportId autopublished before
  | .applying reportId autopublished beforeIds afterIds =>
    applyStep surroundings reports files worker reportId autopublished beforeIds afterIds
  | .revoking selectedAt copies => revokeStep reports files worker selectedAt copies
  | .resetting started copies todo => resetStep surroundings answer reports files worker started copies todo
  | .listing offset inventory => listStep answer reports files worker offset inventory
  | .covering inventory => coverStep reports files worker inventory
  | .counting orphaned missing => countStep reports files worker orphaned missing
  | .discarding orphaned missing => discardStep surroundings answer reports files worker orphaned missing
  | .relocking missing => relockStep surroundings answer reports files worker missing
  | .resolving => resolveStep surroundings answer reports files worker

def heldRows : Stage → List Nat
  | .patching report _ _ _ _ => [report.id]
  | .autofilling report _ => [report.id]
  | .writing report _ => [report.id]
  | .resetting _ copies _ => copies.map (·.id)
  | _ => []

def taskRows : Task → List Nat
  | .publish reportId _ => [reportId]
  | .unpublish reportId _ _ => [reportId]
  | .reject reportId _ _ => [reportId]
  | .reopen reportId _ => [reportId]
  | .patch reportId _ => [reportId]
  | .autofillOne reportId => [reportId]
  | .reconcile => (reports.rows.filter (stuck surroundings.now)).map (·.id)
  | _ => []

def wantedRows : List Nat :=
  match worker.stage with
  | .idle => worker.queue.head?.elim [] (taskRows surroundings reports)
  | .reverting report => [report.id]
  | .recording report _ _ _ => [report.id]
  | .releasing report [] => [report.id]
  | .finishing report _ => [report.id]
  | .applying reportId _ _ _ => [reportId]
  | .revoking _ copies => copies.map (·.id)
  | _ => []

end

structure Store (workers : Nat) where
  reports : Reports
  files : MediaFiles
  workers : Fin workers → Worker

inductive Action where
  | call (call : Call)
  | step (surroundings : Surroundings) (answer : Answer)
  | deadline
  | crash

structure Event (workers : Nat) where
  worker : Fin workers
  action : Action

variable {workers : Nat}

def blocked (store : Store workers) (surroundings : Surroundings) (index : Fin workers) : Bool :=
  decide (∃ other, other ≠ index ∧
    ∃ reportId ∈ wantedRows surroundings store.reports (store.workers index),
      reportId ∈ heldRows (store.workers other).stage)

def Store.set (store : Store workers) (index : Fin workers) (worker : Worker) : Store workers :=
  { store with workers := Function.update store.workers index worker }

def Store.absorb (store : Store workers) (index : Fin workers) (outcome : Outcome) : Store workers where
  reports := outcome.reports
  files := outcome.files
  workers := Function.update store.workers index outcome.worker

def available (worker : Worker) : Bool :=
  worker.queue.isEmpty && match worker.stage with
    | .idle => true
    | _ => false

/-- A call takes an available worker and a session of its own; a crash rolls back the
open transaction and loses the rest. -/
def next (store : Store workers) (event : Event workers) : Store workers :=
  let worker := store.workers event.worker
  match event.action with
  | .call call =>
    if available worker then store.set event.worker ⟨[], call.tasks, .idle⟩ else store
  | .step surroundings answer =>
    if blocked store surroundings event.worker then store
    else
      store.absorb event.worker
        (advance surroundings answer store.reports store.files worker)
  | .deadline => store.set event.worker (dropBatch worker)
  | .crash => store.set event.worker .fresh

end InfrasafeBot.WorkReports
