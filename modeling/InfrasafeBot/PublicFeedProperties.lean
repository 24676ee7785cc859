import InfrasafeBot.PublicFeed
import InfrasafeBot.WorkReportWrites

/-! A withdrawn report does not come back from the caches of the public feed. -/

set_option autoImplicit false

namespace InfrasafeBot.PublicFeed

open Library Machine RequestWorkflow
open WorkReports (WorkReport Reports Surroundings mediaEditable writeBack revoked flushReport
  find?_writeBack_other find?_writeBack_own)

section

def Hidden (reports : Reports) (reportId : Nat) : Prop :=
  ∀ row, reports.find? reportId = some row → row.status ≠ .published

variable {reports : Reports} {reportId : Nat} {loaded changed : WorkReport}

theorem flush_hides (loaded row : WorkReport) (away : changed.status ≠ .published)
    (hidden : row.status ≠ .published) :
    (flushReport loaded changed row).status ≠ .published := by
  unfold flushReport flushed
  dsimp only
  split
  · exact hidden
  · exact away

theorem hidden_writeBack (loaded : WorkReport) (away : changed.status ≠ .published)
    (hidden : Hidden reports reportId) : Hidden (writeBack loaded changed reports) reportId := by
  intro row found
  by_cases own : reportId = loaded.id
  · subst own
    cases stored : reports.find? loaded.id with
    | none =>
      unfold writeBack at found
      rw [Table.find?_update, stored] at found
      cases found
    | some before =>
      rw [find?_writeBack_own changed stored, Option.some.injEq] at found
      exact found ▸ flush_hides loaded before away (hidden before stored)
  · rw [find?_writeBack_other changed own] at found
    exact hidden row found

theorem writeBack_hides (reports : Reports) (away : changed.status ≠ .published)
    (left : loaded.status = .published) :
    Hidden (writeBack loaded changed reports) loaded.id := by
  intro row found
  cases stored : reports.find? loaded.id with
  | none =>
    unfold writeBack at found
    rw [Table.find?_update, stored] at found
    cases found
  | some before =>
    rw [find?_writeBack_own changed stored, Option.some.injEq] at found
    subst found
    have changes : changed.status ≠ loaded.status := left ▸ away
    exact (flushed_of_ne changes before.status).trans_ne away

theorem revoked_status (selectedAt : Moment) (report : WorkReport) :
    (revoked selectedAt report).status ≠ .published := by
  simp [revoked]

theorem hidden_revokeAll (selectedAt : Moment) (stale : List WorkReport)
    (hidden : Hidden reports reportId) :
    Hidden (revokeAll selectedAt stale reports) reportId := by
  unfold revokeAll
  induction stale generalizing reports with
  | nil => exact hidden
  | cons report rest ih =>
    rw [List.foldl_cons]
    exact ih (hidden_writeBack report (revoked_status selectedAt report) hidden)

theorem revokeAll_hides (selectedAt : Moment) {stale : List WorkReport}
    (selected : ∀ report ∈ stale, report.status = .published)
    (listed : reportId ∈ stale.map (·.id)) :
    Hidden (revokeAll selectedAt stale reports) reportId := by
  unfold revokeAll
  induction stale generalizing reports with
  | nil => cases listed
  | cons report rest ih =>
    have later := fun other member => selected other (List.mem_cons_of_mem report member)
    rw [List.foldl_cons]
    rcases List.mem_cons.mp listed with rfl | member
    · have first : Hidden (writeBack report (revoked selectedAt report) reports) report.id :=
        writeBack_hides reports (revoked_status selectedAt report)
          (selected report List.mem_cons_self)
      exact hidden_revokeAll selectedAt rest first
    · exact ih later member

theorem staleReports_published (surroundings : Surroundings) (reports : Reports) :
    ∀ report ∈ staleReports surroundings reports, report.status = .published := by
  intro report listed
  have selected := (List.mem_filter.mp listed).2
  rw [Bool.and_eq_true] at selected
  exact of_decide_eq_true selected.1

theorem leaving_subset (reports : Reports) (chosen : List WorkReport) :
    ∀ id ∈ leaving reports chosen, id ∈ chosen.map (·.id) := by
  intro id listed
  obtain ⟨report, kept, rfl⟩ := List.mem_map.mp listed
  exact List.mem_map_of_mem (List.mem_filter.mp kept).1

end

section

variable (surroundings : Surroundings) (reports : Reports) (epoch : Nat) (api : Api)
  (files : MediaStorage.MediaFiles) (worker : WorkReports.Worker) (reportId : Nat)

end

section

def shows (reportId : Nat) (page : PublicWorkReportsOut) : Prop := reportId ∈ page.items.map (·.id)

variable {reports : Reports} {reportId : Nat}

theorem publishedPage_hides (performedOn : Nat → Int) (limit offset total : Nat)
    (hidden : Hidden reports reportId) :
    ¬ shows reportId
      ⟨(publishedPage reports limit offset).map (publicOut performedOn), total, limit,
        offset⟩ := by
  intro shown
  obtain ⟨out, listed, rfl⟩ := List.mem_map.mp shown
  obtain ⟨row, member, rfl⟩ := List.mem_map.mp listed
  have sorted := List.mem_of_mem_drop (List.mem_of_mem_take member)
  have kept := (List.mem_insertionSort _).mp sorted
  obtain ⟨stored, live⟩ := List.mem_filter.mp kept
  exact hidden row (Table.find?_of_mem stored) (of_decide_eq_true live)

theorem emptyFeed_shows (reportId limit offset : Nat) :
    ¬ shows reportId (emptyFeed limit offset) := List.not_mem_nil

end

variable {database : Database} {stage : Stage} {since : Nat}

section

def stampOf : Stage → Option Nat
  | .selecting _ _ stamp => some stamp
  | .committing _ _ stamp _ _ => some stamp
  | .counting _ _ stamp => some stamp
  | .listing _ _ stamp _ => some stamp
  | _ => none

variable {surroundings : Surroundings} {performedOn : Nat → Int} {reports : Reports} {epoch : Nat}
  {api : Api}

structure Effect (reports : Reports) (epoch : Nat) (api : Api) (stage : Stage)
    (outcome : Outcome) : Prop where
  hides : ∀ id, Hidden reports id → Hidden outcome.reports id
  grows : epoch ≤ outcome.epoch
  pages : ∀ pair ∈ outcome.api.cache, pair ∈ api.cache ∨
    (pair.2.epoch ∈ stampOf stage ∧ ∀ id, Hidden reports id → ¬ shows id pair.2.page)

theorem Effect.of_cache {outcome : Outcome}
    (hides : ∀ id, Hidden reports id → Hidden outcome.reports id) (grows : epoch ≤ outcome.epoch)
    (cache : outcome.api.cache ⊆ api.cache) : Effect reports epoch api stage outcome :=
  ⟨hides, grows, fun _ listed => .inl (cache listed)⟩

section

variable {key : Nat × Nat} {now : Int} {stamp reportId : Nat}

@[simp] theorem lookUp_reports : (lookUp reports epoch api key now stamp).reports = reports := by
  unfold lookUp
  split <;> rfl

@[simp] theorem lookUp_epoch : (lookUp reports epoch api key now stamp).epoch = epoch := by
  unfold lookUp
  split <;> rfl

@[simp] theorem lookUp_api : (lookUp reports epoch api key now stamp).api = api := by
  unfold lookUp
  split <;> rfl

theorem lookUp_effect {changed : Reports} {later : Nat} {checked : Api}
    (hides : ∀ id, Hidden reports id → Hidden changed id) (grows : epoch ≤ later)
    (cache : checked.cache = api.cache) :
    Effect reports epoch api stage (lookUp changed later checked key now stamp) := by
  apply Effect.of_cache
  · rw [lookUp_reports]
    exact hides
  · rw [lookUp_epoch]
    exact grows
  · rw [lookUp_api, cache]
    exact List.Subset.refl _

/-- The request reads a page the report is not on, or goes on with its stamp. -/
def Later (since reportId : Nat) : Stage → Prop
  | .serving page => ¬ shows reportId page
  | stage => ∀ stamp ∈ stampOf stage, since ≤ stamp

theorem lookUp_later (clean : EpochCache.CleanSince since (shows reportId) api.cache)
    (recent : since ≤ stamp) :
    Later since reportId (lookUp reports epoch api key now stamp).stage := by
  unfold lookUp
  split
  · next page hit => exact clean.get recent hit
  · rintro other ⟨⟩
    exact recent

end

variable {allowed : WorkReports.ReportStatus → Bool} {change : WorkReport → WorkReport}

theorem moderate_effect {reportId : Nat} (away : ∀ report, (change report).status ≠ .published) :
    Effect reports epoch api stage
      (moderate database reports epoch api allowed reportId change) := by
  have same : ∀ id, Hidden reports id → Hidden reports id := fun _ hidden => hidden
  have written : ∀ report id, Hidden reports id →
      Hidden (writeBack report (change report) reports) id :=
    fun report id hidden => hidden_writeBack report (away report) hidden
  unfold moderate
  split
  · exact .of_cache same (Nat.le_refl _) (List.Subset.refl _)
  · next report found =>
      split
      · cases database with
        | done | lost => exact .of_cache (written report) (Nat.le_refl _) (List.Subset.refl _)
        | failed => exact .of_cache same (Nat.le_refl _) (List.Subset.refl _)
      · exact .of_cache same (Nat.le_refl _) (List.Subset.refl _)

theorem advance_effect : Effect reports epoch api stage
    (advance surroundings performedOn database reports epoch api stage) := by
  have same : ∀ id, Hidden reports id → Hidden reports id := fun _ hidden => hidden
  have revoking : ∀ selectedAt stale id, Hidden reports id →
      Hidden (revokeAll selectedAt stale reports) id :=
    fun selectedAt stale _ hidden => hidden_revokeAll selectedAt stale hidden
  have quiet : ∀ going : Stage, Effect reports epoch api stage (goTo reports epoch api going) :=
    fun _ => .of_cache same (Nat.le_refl _) (List.Subset.refl _)
  cases stage with
  | opening key now =>
    dsimp only [advance, openStep]
    split
    · exact quiet _
    · exact lookUp_effect same (Nat.le_refl _) rfl
  | selecting key now stamp =>
    dsimp only [advance, selectStep]
    split
    · exact quiet _
    · exact lookUp_effect same (Nat.le_refl _) rfl
  | committing key now stamp selectedAt stale =>
    cases database with
    | done =>
      dsimp only [advance, commitStep]
      split
      · exact lookUp_effect (revoking selectedAt stale) (Nat.le_refl _) rfl
      · exact .of_cache (revoking selectedAt stale) (Nat.le_refl _) (List.nil_subset _)
    | lost => exact lookUp_effect (revoking selectedAt stale) (Nat.le_refl _) rfl
    | failed => exact lookUp_effect same (Nat.le_refl _) rfl
  | bumping key now => exact lookUp_effect same (Nat.le_succ _) rfl
  | counting key now stamp =>
    dsimp only [advance, countStep]
    split <;> exact quiet _
  | listing key now stamp total =>
    dsimp only [advance, listStep]
    split
    · refine ⟨same, Nat.le_refl _, ?_⟩
      intro pair listed
      rcases EpochCache.mem_put listed with old | rfl
      · exact .inl old
      · right
        exact ⟨rfl, fun id hidden => publishedPage_hides performedOn _ _ total hidden⟩
    · exact quiet _
  | unpublishing | rejecting =>
    apply moderate_effect
    intro report status
    cases status
  | announcing withdrawn => exact .of_cache same (Nat.le_succ _) (List.Subset.refl _)
  | syncing =>
    dsimp only [advance, syncStep]
    split <;> exact quiet _
  | revoking selectedAt stale =>
    cases database with
    | done | lost => exact .of_cache (revoking selectedAt stale) (Nat.le_refl _) (List.Subset.refl _)
    | failed => exact quiet _
  | _ => exact quiet _

variable {reportId : Nat}

theorem moderate_stage :
    (moderate database reports epoch api allowed reportId change).stage = .idle ∨
      ∃ report, reports.find? reportId = some report ∧
        (moderate database reports epoch api allowed reportId change).reports =
          writeBack report (change report) reports ∧
        (moderate database reports epoch api allowed reportId change).stage =
          .announcing (leaving reports [report]) := by
  unfold moderate
  split
  · exact .inl rfl
  · next report found =>
      split
      · cases database with
        | done => exact .inr ⟨report, found, rfl, rfl⟩
        | lost | failed => exact .inl rfl
      · exact .inl rfl

theorem advance_later (hidden : Hidden reports reportId) (current : since ≤ epoch)
    (clean : EpochCache.CleanSince since (shows reportId) api.cache)
    (later : Later since reportId stage) :
    Later since reportId
      (advance surroundings performedOn database reports epoch api stage).stage := by
  have nothing : ∀ stamp ∈ (none : Option Nat), since ≤ stamp := fun _ none => by cases none
  cases stage with
  | opening key now =>
    dsimp only [advance, openStep]
    split
    · rintro stamp ⟨⟩
      exact current
    · exact lookUp_later clean current
  | selecting key now stamp =>
    have recent : since ≤ stamp := later stamp rfl
    dsimp only [advance, selectStep]
    split
    · rintro other ⟨⟩
      exact recent
    · exact lookUp_later clean recent
  | committing key now stamp selectedAt stale =>
    have recent : since ≤ stamp := later stamp rfl
    cases database with
    | done =>
      dsimp only [advance, commitStep]
      split
      · exact lookUp_later clean recent
      · exact nothing
    | lost | failed => exact lookUp_later clean recent
  | bumping key now => exact lookUp_later clean (Nat.le_succ_of_le current)
  | counting key now stamp =>
    dsimp only [advance, countStep]
    split
    · exact later
    · exact emptyFeed_shows reportId key.1 key.2
  | listing key now stamp total =>
    dsimp only [advance, listStep]
    split
    · exact publishedPage_hides performedOn _ _ total hidden
    · exact emptyFeed_shows reportId key.1 key.2
  | unpublishing id moderatorId reason =>
    dsimp only [advance, unpublishStep]
    rcases moderate_stage with idle | ⟨_, _, _, announcing⟩
    · rw [idle]
      exact nothing
    · rw [announcing]
      exact nothing
  | rejecting id moderatorId reason =>
    dsimp only [advance, rejectStep]
    rcases moderate_stage with idle | ⟨_, _, _, announcing⟩
    · rw [idle]
      exact nothing
    · rw [announcing]
      exact nothing
  | syncing =>
    dsimp only [advance, syncStep]
    split <;> exact nothing
  | revoking selectedAt stale => cases database <;> exact nothing
  | _ => exact nothing

end

section

variable {workers requests : Nat}

/-- No cache shows the report on a page begun in the epoch or later, and none will. -/
structure Gone (since reportId : Nat) (store : Store workers requests) : Prop where
  hidden : Hidden store.reports reportId
  current : since ≤ store.epoch
  clean : ∀ worker, EpochCache.CleanSince since (shows reportId) (store.apis worker).cache

def StageKept (store : Store workers requests) : Stage → Prop
  | .announcing withdrawn => ∀ id ∈ withdrawn, Hidden store.reports id
  | .revoking _ stale => ∀ report ∈ stale, report.status = .published
  | .answering withdrawn => ∀ id ∈ withdrawn, ∃ since, Gone since id store
  | stage => ∀ stamp ∈ stampOf stage, stamp ≤ store.epoch

structure Kept (store : Store workers requests) : Prop where
  within : ∀ worker, EpochCache.Within store.epoch (store.apis worker).cache
  stages : ∀ index, StageKept store (store.stages index)

/-- The reports a revocation of POST /sync is about to withdraw. -/
def revokes (reports : Reports) : Action → Stage → List Nat
  | .step _ .done, .revoking _ stale => leaving reports stale
  | _, _ => []

def Uncached (store : Store workers requests) (event : Event requests) : Prop :=
  ∀ id ∈ revokes store.reports event.action (store.stages event.request),
    ∀ worker, ∀ pair ∈ (store.apis worker).cache, pair.2.epoch = store.epoch → ¬ shows id pair.2.page

instance (reportId : Nat) (page : PublicWorkReportsOut) : Decidable (shows reportId page) :=
  inferInstanceAs (Decidable (reportId ∈ page.items.map (·.id)))

instance (store : Store workers requests) (event : Event requests) : Decidable (Uncached store event) :=
  inferInstanceAs (Decidable (∀ id ∈ revokes store.reports event.action
    (store.stages event.request), ∀ worker, ∀ pair ∈ (store.apis worker).cache, _ → ¬ _))

variable {store : Store workers requests} {index : Fin requests} {surroundings : Surroundings}
  {reportId : Nat}

theorem step_effect : Effect store.reports store.epoch (store.apis (store.host index))
    (store.stages index) (store.step index surroundings database) := advance_effect

variable {outcome : Outcome} {after : Store workers requests} {api : Api}

theorem absorb_cache {worker : Fin workers} {motive : FeedCache → Prop}
    (own : motive outcome.api.cache) (others : motive (store.apis worker).cache) :
    motive ((store.absorb index outcome).apis worker).cache := by
  by_cases same : worker = store.host index
  · subst same
    simpa [Store.absorb] using own
  · simpa [Store.absorb, same] using others

theorem Gone.step (gone : Gone since reportId store) :
    Gone since reportId (store.absorb index (store.step index surroundings database)) := by
  have effect : Effect store.reports store.epoch (store.apis (store.host index))
      (store.stages index) (store.step index surroundings database) := step_effect
  refine ⟨effect.hides _ gone.hidden, Nat.le_trans gone.current effect.grows, ?_⟩
  intro worker
  apply absorb_cache
  · intro pair listed recent
    rcases effect.pages pair listed with old | ⟨_, good⟩
    · exact gone.clean _ pair old recent
    · exact good reportId gone.hidden
  · exact gone.clean worker

theorem Gone.next (gone : Gone since reportId store) (event : Event requests) :
    Gone since reportId (next store event) := by
  obtain ⟨index, action⟩ := event
  unfold PublicFeed.next
  cases action with
  | call call now =>
    dsimp only
    split
    · exact ⟨gone.hidden, gone.current, gone.clean⟩
    · exact gone
  | step surroundings database => exact gone.step
  | crash => exact ⟨gone.hidden, gone.current, gone.clean⟩

theorem start_later (since reportId : Nat) (enabled : Bool) (now : Int) (call : Call) :
    Later since reportId (start enabled now call) := by
  have nothing : ∀ stamp ∈ (none : Option Nat), since ≤ stamp := fun _ none => by cases none
  cases call with
  | feed limit offset =>
    dsimp only [start]
    split
    · exact nothing
    · exact emptyFeed_shows reportId limit offset
  | unpublish | reject | sync =>
    dsimp only [start]
    split <;> exact nothing

theorem later_idle : Later since reportId .idle := fun _ none => by cases none

theorem later_next (gone : Gone since reportId store)
    (later : Later since reportId (store.stages index)) (event : Event requests) :
    Later since reportId ((next store event).stages index) := by
  obtain ⟨other, action⟩ := event
  unfold PublicFeed.next
  cases action with
  | call call now =>
    dsimp only
    split
    · by_cases same : index = other
      · subst same
        simpa [Store.enter] using start_later since reportId store.enabled now call
      · simpa [Store.enter, same] using later
    · exact later
  | step surroundings database =>
    by_cases same : index = other
    · subst same
      simpa [Store.absorb, Store.step] using
        advance_later gone.hidden gone.current (gone.clean (store.host index)) later
    · simpa [Store.absorb, same] using later
  | crash =>
    by_cases same : index = other
    · subst same
      simpa [Store.enter] using later_idle
    · simpa [Store.enter, same] using later

theorem StageKept.frame (kept : StageKept store stage) (grows : store.epoch ≤ after.epoch)
    (hides : ∀ id, Hidden store.reports id → Hidden after.reports id)
    (goes : ∀ since id, Gone since id store → Gone since id after) : StageKept after stage := by
  cases stage with
  | announcing withdrawn => exact fun id listed => hides id (kept id listed)
  | revoking selectedAt stale => exact kept
  | answering withdrawn =>
    intro id listed
    obtain ⟨since, gone⟩ := kept id listed
    exact ⟨since, goes since id gone⟩
  | _ => exact fun stamp read => Nat.le_trans (kept stamp read) grows

theorem stageKept_idle (store : Store workers requests) : StageKept store .idle :=
  fun _ none => by cases none

theorem stageKept_start (store : Store workers requests) (enabled : Bool) (now : Int)
    (call : Call) : StageKept store (start enabled now call) := by
  have nothing : ∀ stamp ∈ (none : Option Nat), stamp ≤ store.epoch := fun _ none => by cases none
  cases call with
  | feed | unpublish | reject | sync =>
    dsimp only [start]
    split <;> exact nothing

theorem stageKept_lookUp {reports : Reports} {key : Nat × Nat} {now : Int} {epoch stamp : Nat}
    (past : stamp ≤ store.epoch) :
    StageKept store (lookUp reports epoch api key now stamp).stage := by
  unfold lookUp
  split
  · rintro other ⟨⟩
  · rintro other ⟨⟩
    exact past

theorem stageKept_moderate {allowed : WorkReports.ReportStatus → Bool}
    {change : WorkReport → WorkReport} (away : ∀ report, (change report).status ≠ .published)
    (reached : after.reports =
      (moderate database store.reports store.epoch api allowed reportId change).reports) :
    StageKept after (moderate database store.reports store.epoch api allowed reportId
      change).stage := by
  rcases moderate_stage with idle | ⟨report, found, written, announcing⟩
  · rw [idle]
    exact stageKept_idle after
  · rw [announcing]
    intro id listed
    obtain ⟨other, kept, rfl⟩ := List.mem_map.mp listed
    obtain ⟨only, live⟩ := List.mem_filter.mp kept
    rw [List.mem_singleton] at only
    subst only
    have own : store.reports.find? other.id = some other := Table.find?_of_mem (Table.mem_of_find? found)
    rw [own] at live
    rw [reached, written]
    exact writeBack_hides store.reports (away other) (of_decide_eq_true live)

theorem Kept.gone_bump (kept : Kept store) (reports : after.reports = store.reports)
    (epoch : after.epoch = store.epoch + 1)
    (apis : ∀ worker, (after.apis worker).cache = (store.apis worker).cache)
    (hidden : Hidden store.reports reportId) : Gone (store.epoch + 1) reportId after := by
  refine ⟨reports ▸ hidden, epoch ▸ Nat.le_refl _, ?_⟩
  intro worker
  rw [apis]
  exact (kept.within worker).clean (Nat.lt_succ_self _)

theorem Kept.gone_revoke (kept : Kept store) {selectedAt : Moment} {stale : List WorkReport}
    (reports : after.reports = revokeAll selectedAt stale store.reports)
    (epoch : after.epoch = store.epoch)
    (apis : ∀ worker, (after.apis worker).cache = (store.apis worker).cache)
    (selected : ∀ report ∈ stale, report.status = .published)
    (listed : reportId ∈ leaving store.reports stale)
    (uncached : ∀ worker, ∀ pair ∈ (store.apis worker).cache, pair.2.epoch = store.epoch →
      ¬ shows reportId pair.2.page) : Gone store.epoch reportId after := by
  have chosen := leaving_subset store.reports stale reportId listed
  refine ⟨reports ▸ revokeAll_hides selectedAt selected chosen, epoch ▸ Nat.le_refl _, ?_⟩
  intro worker pair member recent
  rw [apis] at member
  exact uncached worker pair member (Nat.le_antisymm (kept.within worker pair member) recent)

theorem absorb_cache_same (same : outcome.api.cache = (store.apis (store.host index)).cache)
    (worker : Fin workers) :
    ((store.absorb index outcome).apis worker).cache = (store.apis worker).cache := by
  by_cases own : worker = store.host index
  · subst own
    simpa [Store.absorb] using same
  · simp [Store.absorb, own]

theorem Kept.own (kept : Kept store)
    (uncached : Uncached store ⟨index, .step surroundings database⟩) :
    StageKept (store.absorb index (store.step index surroundings database))
      (store.step index surroundings database).stage := by
  have stage := kept.stages index
  unfold Store.step
  cases due : store.stages index with
  | opening key now =>
    dsimp only [advance, openStep]
    split
    · rintro stamp ⟨⟩
      exact Nat.le_refl _
    · apply stageKept_lookUp
      simp [Store.absorb]
  | selecting key now stamp =>
    rw [due] at stage
    have past : stamp ≤ store.epoch := stage stamp rfl
    dsimp only [advance, selectStep]
    split
    · rintro other ⟨⟩
      exact past
    · apply stageKept_lookUp
      simpa [Store.absorb] using past
  | committing key now stamp selectedAt stale =>
    rw [due] at stage
    have past : stamp ≤ store.epoch := stage stamp rfl
    cases database with
    | done =>
      dsimp only [advance, commitStep]
      split
      · apply stageKept_lookUp
        simpa [Store.absorb] using past
      · rintro other ⟨⟩
    | lost | failed =>
      apply stageKept_lookUp
      simpa [Store.absorb, advance, commitStep] using past
  | bumping key now =>
    apply stageKept_lookUp
    simp [Store.absorb, advance, bumpStep]
  | counting key now stamp =>
    rw [due] at stage
    dsimp only [advance, countStep]
    split
    · exact stage
    · rintro other ⟨⟩
  | listing key now stamp total =>
    dsimp only [advance, listStep]
    split <;> rintro other ⟨⟩
  | unpublishing | rejecting =>
    apply stageKept_moderate
    · intro report status
      cases status
    · rfl
  | announcing withdrawn =>
    rw [due] at stage
    intro id listed
    exact ⟨_, kept.gone_bump rfl rfl (absorb_cache_same rfl) (stage id listed)⟩
  | syncing =>
    dsimp only [advance, syncStep]
    split
    · exact staleReports_published surroundings store.reports
    · exact stageKept_idle _
  | revoking selectedAt stale =>
    rw [due] at stage
    cases database with
    | done =>
      intro id listed
      have revoked : id ∈ revokes store.reports (.step surroundings .done)
          (store.stages index) := by
        rw [due]
        exact listed
      exact ⟨_, kept.gone_revoke rfl rfl (absorb_cache_same rfl) stage listed (uncached id revoked)⟩
    | lost | failed => exact stageKept_idle _
  | _ => exact stageKept_idle _

theorem Kept.enter (kept : Kept store) (index : Fin requests) (own : StageKept store stage) :
    Kept (store.enter index stage) := by
  have same : ∀ other, StageKept store other → StageKept (store.enter index stage) other := by
    intro other held
    exact held.frame (Nat.le_refl _) (fun _ hidden => hidden)
      fun _ _ gone => ⟨gone.hidden, gone.current, gone.clean⟩
  refine ⟨kept.within, ?_⟩
  intro other
  by_cases mine : other = index
  · subst mine
    simpa [Store.enter] using same stage own
  · simpa [Store.enter, mine] using same _ (kept.stages other)

theorem Kept.step (kept : Kept store)
    (uncached : Uncached store ⟨index, .step surroundings database⟩) :
    Kept (store.absorb index (store.step index surroundings database)) := by
  have effect : Effect store.reports store.epoch (store.apis (store.host index))
      (store.stages index) (store.step index surroundings database) := step_effect
  constructor
  · intro worker
    apply absorb_cache
    · intro pair listed
      rcases effect.pages pair listed with old | ⟨stamp, _⟩
      · exact Nat.le_trans (kept.within _ pair old) effect.grows
      · have past : pair.2.epoch ≤ store.epoch := by
          have stage := kept.stages index
          cases due : store.stages index with
          | announcing | revoking | answering =>
            rw [due] at stamp
            cases stamp
          | _ =>
            rw [due] at stage stamp
            exact stage _ stamp
        exact Nat.le_trans past effect.grows
    · exact (kept.within worker).mono effect.grows
  · intro other
    by_cases same : other = index
    · subst same
      simpa [Store.absorb] using kept.own uncached
    · have held : StageKept (store.absorb index (store.step index surroundings database))
          (store.stages other) :=
        (kept.stages other).frame effect.grows effect.hides fun _ _ gone => gone.step
      simpa [Store.absorb, same] using held

theorem Kept.next (kept : Kept store) {event : Event requests} (uncached : Uncached store event) :
    Kept (next store event) := by
  obtain ⟨index, action⟩ := event
  unfold PublicFeed.next
  cases action with
  | call call now =>
    dsimp only
    split
    · exact kept.enter index (stageKept_start store store.enabled now call)
    · exact kept
  | step surroundings database => exact kept.step uncached
  | crash => exact kept.enter index (stageKept_idle store)

theorem kept_started (enabled : Bool) (performedOn : Nat → Int) (host : Fin requests → Fin workers)
    (reports : Reports) (epoch : Nat) :
    Kept (Store.started enabled performedOn host reports epoch) where
  within _ := EpochCache.within_nil
  stages _ := stageKept_idle _

end

def publicReport : WorkReport :=
  { WorkReports.draft "250101-001" "plumbing" "ул. Навои, 5" 1 with
    afterMediaIds := [7]
    lockedMediaIds := [7]
    status := .published
    publishedAt := some 0 }

def oneWorker : Store 1 2 := .started true (fun _ => 0) (fun _ => 0) ⟨[publicReport], by simp⟩ 0

def around (eligible : Bool) : Surroundings := ⟨0, fun _ => some eligible, fun _ => false, 10⟩

def feedMisses : List (Event 2) := [
  ⟨0, .call (.feed 12 0) 0⟩,
  ⟨0, .step (around true) .done⟩,
  ⟨0, .step (around true) .done⟩,
  ⟨0, .step (around true) .done⟩,
  ⟨0, .step (around true) .done⟩,
  ⟨0, .step (around true) .done⟩,
  ⟨0, .step (around true) .done⟩]

def feedAgain : List (Event 2) := [
  ⟨0, .call (.feed 12 0) 10⟩,
  ⟨0, .step (around false) .done⟩]

def serve : Event 2 := ⟨0, .step (around false) .done⟩

def unpublishes : List (Event 2) := [
  ⟨1, .call (.unpublish 1 9 none) 5⟩,
  ⟨1, .step (around true) .done⟩,
  ⟨1, .step (around true) .done⟩]

def syncs : List (Event 2) := [
  ⟨1, .call .sync 5⟩,
  ⟨1, .step (around false) .done⟩,
  ⟨1, .step (around false) .done⟩]

def answer : Event 2 := ⟨1, .step (around false) .done⟩

theorem swept_page :
    (served (run next oneWorker (feedMisses ++ syncs ++ [answer] ++ feedAgain)) serve).map
      (fun page => page.items.map (·.id)) = some [1] := by
  decide +kernel

end InfrasafeBot.PublicFeed
