import InfrasafeBot.Library.EpochCache
import InfrasafeBot.WorkReports

/-! The public feed of the work reports (`api/work_reports`): the caches of the API
workers under the shared epoch, and the endpoints that withdraw a report, from one
await to the next. -/

set_option autoImplicit false

namespace InfrasafeBot.PublicFeed

open Library RequestWorkflow
open WorkReports (WorkReport Reports Surroundings ReportStatus mediaEditable writeBack revoked)

structure PublicWorkReportOut where
  id : Nat
  categoryKey : String
  address : String
  completedOn : Int
  before : List Nat
  after : List Nat

structure PublicWorkReportsOut where
  items : List PublicWorkReportOut
  total : Nat
  limit : Nat
  offset : Nat

def emptyFeed (limit offset : Nat) : PublicWorkReportsOut := ⟨[], 0, limit, offset⟩

def feedCacheTtlSeconds : Int := 30

def feedCacheMaxEntries : Nat := 32

def revokeThrottleSeconds : Int := 60

def published (row : WorkReport) : Bool := row.status = .published

/-- `published_at DESC, id DESC`, where NULL comes first. -/
def fresher (left right : WorkReport) : Bool :=
  match left.publishedAt, right.publishedAt with
  | none, none => right.id ≤ left.id
  | none, some _ => true
  | some _, none => false
  | some mine, some other => other < mine || (other = mine && right.id ≤ left.id)

def publishedPage (reports : Reports) (limit offset : Nat) : List WorkReport :=
  (((reports.rows.filter published).insertionSort fun left right => fresher left right = true).drop
    offset).take limit

/-- The day of `performed_at`, which is set with the report, is a parameter. -/
def publicOut (performedOn : Nat → Int) (report : WorkReport) : PublicWorkReportOut where
  id := report.id
  categoryKey := report.categoryKey
  address := report.addressPublic
  completedOn := performedOn report.id
  before := report.beforeMediaIds
  after := report.afterMediaIds

abbrev FeedCache := EpochCache (Nat × Nat) PublicWorkReportsOut

structure Api where
  cache : FeedCache
  lastRevokeCheckAt : Option Int

def Api.fresh : Api := ⟨[], none⟩

def Api.checked (api : Api) (now : Int) : Api := { api with lastRevokeCheckAt := some now }

def Api.cleared (api : Api) : Api := { api with cache := [] }

def Api.due (api : Api) (now : Int) : Bool :=
  api.lastRevokeCheckAt.all fun checked => revokeThrottleSeconds < now - checked

inductive Call where
  | feed (limit offset : Nat)
  | unpublish (reportId : Nat) (moderatorId : UserId) (reason : Option String)
  | reject (reportId : Nat) (moderatorId : UserId) (reason : String)
  | sync

inductive Database where
  | done
  | lost
  | failed
  deriving DecidableEq

inductive Stage where
  | idle
  | opening (key : Nat × Nat) (now : Int)
  | selecting (key : Nat × Nat) (now : Int) (epoch : Nat)
  | committing (key : Nat × Nat) (now : Int) (epoch : Nat) (selectedAt : Moment)
      (stale : List WorkReport)
  | bumping (key : Nat × Nat) (now : Int)
  | counting (key : Nat × Nat) (now : Int) (epoch : Nat)
  | listing (key : Nat × Nat) (now : Int) (epoch total : Nat)
  | serving (page : PublicWorkReportsOut)
  /-- The endpoints of the managers, with the reports they have withdrawn. -/
  | unpublishing (reportId : Nat) (moderatorId : UserId) (reason : Option String)
  | rejecting (reportId : Nat) (moderatorId : UserId) (reason : String)
  | announcing (withdrawn : List Nat)
  | syncing
  | revoking (selectedAt : Moment) (stale : List WorkReport)
  | answering (withdrawn : List Nat)

structure Outcome where
  reports : Reports
  epoch : Nat
  api : Api
  stage : Stage

def staleReports (surroundings : Surroundings) (reports : Reports) : List WorkReport :=
  reports.rows.filter fun row => published row && surroundings.requests row.requestNumber = some false

def revokeAll (selectedAt : Moment) (stale : List WorkReport) (reports : Reports) : Reports :=
  stale.foldl (fun rows report => writeBack report (revoked selectedAt report) rows) reports

def leaving (reports : Reports) (chosen : List WorkReport) : List Nat :=
  (chosen.filter fun report => (reports.find? report.id).any published).map (·.id)

section

variable (surroundings : Surroundings) (performedOn : Nat → Int) (database : Database)
  (reports : Reports) (epoch : Nat) (api : Api)

def goTo (stage : Stage) : Outcome := ⟨reports, epoch, api, stage⟩

def lookUp (key : Nat × Nat) (now : Int) (stamp : Nat) : Outcome :=
  match api.cache.get key now stamp with
  | some page => goTo reports epoch api (.serving page)
  | none => goTo reports epoch api (.counting key now stamp)

def openStep (key : Nat × Nat) (now : Int) : Outcome :=
  if api.due now then goTo reports epoch api (.selecting key now epoch)
  else lookUp reports epoch api key now epoch

def selectStep (key : Nat × Nat) (now : Int) (stamp : Nat) : Outcome :=
  if database = .done then
    goTo reports epoch api
      (.committing key now stamp surroundings.now (staleReports surroundings reports))
  else lookUp reports epoch (api.checked now) key now stamp

def commitStep (key : Nat × Nat) (now : Int) (stamp : Nat) (selectedAt : Moment)
    (stale : List WorkReport) : Outcome :=
  match database with
  | .done =>
    let changed := revokeAll selectedAt stale reports
    if stale.isEmpty then lookUp changed epoch (api.checked now) key now stamp
    else goTo changed epoch api.cleared (.bumping key now)
  | .lost => lookUp (revokeAll selectedAt stale reports) epoch (api.checked now) key now stamp
  | .failed => lookUp reports epoch (api.checked now) key now stamp

def bumpStep (key : Nat × Nat) (now : Int) : Outcome :=
  lookUp reports (epoch + 1) (api.checked now) key now (epoch + 1)

def countStep (key : Nat × Nat) (now : Int) (stamp : Nat) : Outcome :=
  if database = .done then goTo reports epoch api (.listing key now stamp (reports.rows.countP published))
  else goTo reports epoch api (.serving (emptyFeed key.1 key.2))

def listStep (key : Nat × Nat) (now : Int) (stamp total : Nat) : Outcome :=
  if database = .done then
    let page := ⟨(publishedPage reports key.1 key.2).map (publicOut performedOn), total, key.1, key.2⟩
    goTo reports epoch
      { api with cache := api.cache.put feedCacheMaxEntries key ⟨page, now + feedCacheTtlSeconds, stamp⟩ }
      (.serving page)
  else goTo reports epoch api (.serving (emptyFeed key.1 key.2))

def moderate (allowed : ReportStatus → Bool) (reportId : Nat)
    (change : WorkReport → WorkReport) : Outcome :=
  match reports.find? reportId with
  | none => goTo reports epoch api .idle
  | some report =>
    if allowed report.status then
      match database with
      | .done =>
        goTo (writeBack report (change report) reports) epoch api
          (.announcing (leaving reports [report]))
      | .lost => goTo (writeBack report (change report) reports) epoch api .idle
      | .failed => goTo reports epoch api .idle
    else goTo reports epoch api .idle

def unpublishable (status : ReportStatus) : Bool := status = .published || status = .needsReview

def unpublishStep (reportId : Nat) (moderatorId : UserId) (reason : Option String) : Outcome :=
  moderate database reports epoch api unpublishable reportId fun report =>
    { report with
      status := .rejected
      rejectReason := if reason.any (· ≠ "") then reason else report.rejectReason
      moderatedBy := some moderatorId
      stateChangedAt := some surroundings.now
      lockedMediaIds := [] }

def rejectStep (reportId : Nat) (moderatorId : UserId) (reason : String) : Outcome :=
  moderate database reports epoch api mediaEditable reportId fun report =>
    { report with
      status := .rejected
      rejectReason := some reason
      moderatedBy := some moderatorId
      stateChangedAt := some surroundings.now }

def announceStep (withdrawn : List Nat) : Outcome := goTo reports (epoch + 1) api (.answering withdrawn)

def syncStep : Outcome :=
  if database = .done then
    goTo reports epoch api (.revoking surroundings.now (staleReports surroundings reports))
  else goTo reports epoch api .idle

def revokeStep (selectedAt : Moment) (stale : List WorkReport) : Outcome :=
  match database with
  | .done => goTo (revokeAll selectedAt stale reports) epoch api (.answering (leaving reports stale))
  | .lost => goTo (revokeAll selectedAt stale reports) epoch api .idle
  | .failed => goTo reports epoch api .idle

def advance : Stage → Outcome
  | .idle => goTo reports epoch api .idle
  | .opening key now => openStep reports epoch api key now
  | .selecting key now stamp => selectStep surroundings database reports epoch api key now stamp
  | .committing key now stamp selectedAt stale =>
    commitStep database reports epoch api key now stamp selectedAt stale
  | .bumping key now => bumpStep reports epoch api key now
  | .counting key now stamp => countStep database reports epoch api key now stamp
  | .listing key now stamp total => listStep performedOn database reports epoch api key now stamp total
  | .serving _ => goTo reports epoch api .idle
  | .unpublishing reportId moderatorId reason =>
    unpublishStep surroundings database reports epoch api reportId moderatorId reason
  | .rejecting reportId moderatorId reason =>
    rejectStep surroundings database reports epoch api reportId moderatorId reason
  | .announcing withdrawn => announceStep reports epoch api withdrawn
  | .syncing => syncStep surroundings database reports epoch api
  | .revoking selectedAt stale => revokeStep database reports epoch api selectedAt stale
  | .answering _ => goTo reports epoch api .idle

/-- The flag of the settings gates the feed with an empty page, the rest with a 404. -/
def start (enabled : Bool) (now : Int) : Call → Stage
  | .feed limit offset =>
    if enabled then .opening (limit, offset) now else .serving (emptyFeed limit offset)
  | .unpublish reportId moderatorId reason =>
    if enabled then .unpublishing reportId moderatorId reason else .idle
  | .reject reportId moderatorId reason =>
    if enabled then .rejecting reportId moderatorId reason else .idle
  | .sync => if enabled then .syncing else .idle

end

structure Store (workers requests : Nat) where
  enabled : Bool
  performedOn : Nat → Int
  host : Fin requests → Fin workers
  reports : Reports
  epoch : Nat
  apis : Fin workers → Api
  stages : Fin requests → Stage

inductive Action where
  | call (call : Call) (now : Int)
  | step (surroundings : Surroundings) (database : Database)
  | crash

structure Event (requests : Nat) where
  request : Fin requests
  action : Action

variable {workers requests : Nat}

def Store.enter (store : Store workers requests) (index : Fin requests) (stage : Stage) :
    Store workers requests :=
  { store with stages := Function.update store.stages index stage }

def Store.absorb (store : Store workers requests) (index : Fin requests) (outcome : Outcome) :
    Store workers requests :=
  { store with
    reports := outcome.reports
    epoch := outcome.epoch
    apis := Function.update store.apis (store.host index) outcome.api
    stages := Function.update store.stages index outcome.stage }

def Store.step (store : Store workers requests) (index : Fin requests)
    (surroundings : Surroundings) (database : Database) : Outcome :=
  advance surroundings store.performedOn database store.reports store.epoch
    (store.apis (store.host index)) (store.stages index)

def available : Stage → Bool
  | .idle => true
  | _ => false

def next (store : Store workers requests) (event : Event requests) : Store workers requests :=
  match event.action with
  | .call call now =>
    if available (store.stages event.request) then store.enter event.request (start store.enabled now call)
    else store
  | .step surroundings database =>
    store.absorb event.request (store.step event.request surroundings database)
  | .crash => store.enter event.request .idle

def served (store : Store workers requests) (event : Event requests) : Option PublicWorkReportsOut :=
  match event.action, store.stages event.request with
  | .step _ _, .serving page => some page
  | _, _ => none

def told (store : Store workers requests) (event : Event requests) : List Nat :=
  match event.action, store.stages event.request with
  | .step _ _, .answering withdrawn => withdrawn
  | _, _ => []

def Store.started (enabled : Bool) (performedOn : Nat → Int)
    (host : Fin requests → Fin workers) (reports : Reports) (epoch : Nat) :
    Store workers requests :=
  ⟨enabled, performedOn, host, reports, epoch, fun _ => .fresh, fun _ => .idle⟩

end InfrasafeBot.PublicFeed
