import InfrasafeBot.AccessControl.ReviewSettlement

/-! The audit rows that the resolution, the manual opening and the expiry worker commit with
their decisions (`services/lifecycle.py`, `services/review_expiry.py`), and whether every
decision that expires has its own. -/

set_option autoImplicit false

namespace InfrasafeBot.AccessControl

open Library Machine RequestWorkflow

/-- A row of `access_audit_logs`; of its details only who has triggered a lazy expiry. -/
structure LifecycleAudit where
  actorUserId : Option UserId
  action : String
  entityType : String
  entityId : Option Nat
  reason : Option String
  triggeredBy : Option UserId

def auditOfResolution (request : ResolveRequest) (decisionId : Nat) : Resolution → LifecycleAudit
  | .expire =>
    ⟨none, "access.review_expired_lazy", "access_decision", some decisionId, none,
      some request.operatorUserId⟩
  | .manualOpen _ _ reason =>
    ⟨some request.operatorUserId, "access.manual_open", "access_decision", some decisionId,
      some reason, none⟩
  | .deny =>
    ⟨some request.operatorUserId, "access.deny", "access_decision", some decisionId, request.reason, none⟩

/-- What the statement commits to the audit, beside what it commits to the journal. The reviews
that a manual opening finds overdue leave no row. -/
def auditsOf (journal : Journal) : Work → List LifecycleAudit
  | .moving request resolution _ _ => [auditOfResolution request journal.decisions.nextKey resolution]
  | .opening request _ _ _ =>
    [⟨some request.operatorUserId, "access.barrier_manual_open", "access_barrier",
      some request.barrierId, some request.reason, none⟩]
  | .expiring _ _ _ _ =>
    [⟨none, "access.review_expired", "access_decision", some journal.decisions.nextKey, none, none⟩]
  | _ => []

structure Audited (n : Nat) where
  store : Store n
  audits : List LifecycleAudit

def auditsWritten {n : Nat} (store : Store n) : Event n → List LifecycleAudit
  | .step worker =>
    match store.workers worker with
    | .holding _ work => auditsOf store.journal work
    | _ => []
  | _ => []

def nextAudited {n : Nat} (state : Audited n) (event : Event n) : Audited n :=
  ⟨next state.store event, state.audits ++ auditsWritten state.store event⟩

def Audited.initial {n : Nat} (equipment : Equipment) (time : Moment) : Audited n :=
  ⟨Store.initial equipment time, []⟩

def LifecycleAudit.isExpiry (audit : LifecycleAudit) : Bool :=
  audit.action = "access.review_expired" || audit.action = "access.review_expired_lazy"

def LifecycleAudit.expires (audit : LifecycleAudit) (decisionId : Nat) : Bool :=
  audit.isExpiry && audit.entityType = "access_decision" && audit.entityId = some decisionId

structure Paired (journal : Journal) (audits : List LifecycleAudit) : Prop where
  audited : ∀ row ∈ journal.decisions.rows, row.status = .expired →
    (audits.filter (·.expires row.id)).length = 1
  decided : ∀ audit ∈ audits, audit.isExpiry = true →
    ∃ row ∈ journal.decisions.rows, row.status = .expired ∧ audit.expires row.id = true

/-- The decisions that expire in a commit, and the audit rows that the commit writes. -/
def CommittedTogether {n : Nat} (before after : Audited n) : Prop :=
  ∃ written, after.audits = before.audits ++ written ∧
    (∀ row ∈ after.store.journal.decisions.rows, row.status = .expired →
      row ∉ before.store.journal.decisions.rows → (written.filter (·.expires row.id)).length = 1) ∧
    ∀ audit ∈ written, audit.isExpiry = true →
      ∃ row ∈ after.store.journal.decisions.rows,
        row ∉ before.store.journal.decisions.rows ∧ row.status = .expired ∧ audit.expires row.id = true

def Work.sweeps : Work → Bool
  | .opening _ _ _ lapsed => !lapsed.isEmpty
  | .refusing _ _ lapsed => !lapsed.isEmpty
  | _ => false

def sweepsNothing {n : Nat} (state : Audited n) : Event n → Bool
  | .step worker =>
    match state.store.workers worker with
    | .holding _ work => !work.sweeps
    | _ => true
  | _ => true

variable {journal : Journal} {audits : List LifecycleAudit}

section

variable {changed : Journal} {written : List LifecycleAudit}

theorem expires_entity {audit : LifecycleAudit} {left right : Nat}
    (ofLeft : audit.expires left = true) (ofRight : audit.expires right = true) :
    left = right := by
  unfold LifecycleAudit.expires at ofLeft ofRight
  rw [Bool.and_eq_true] at ofLeft ofRight
  have entity := of_decide_eq_true ofLeft.2
  rw [of_decide_eq_true ofRight.2] at entity
  exact (Option.some.inj entity).symm

theorem isExpiry_of_expires {audit : LifecycleAudit} {id : Nat}
    (expires : audit.expires id = true) : audit.isExpiry = true := by
  unfold LifecycleAudit.expires at expires
  rw [Bool.and_eq_true, Bool.and_eq_true] at expires
  exact expires.1.1

theorem none_expires {id : Nat} (none_of : ∀ audit ∈ audits, audit.expires id = false) :
    (audits.filter (·.expires id)).length = 0 := by
  rw [List.length_eq_zero_iff, List.filter_eq_nil_iff]
  intro audit listed
  rw [none_of audit listed]
  exact Bool.false_ne_true

theorem Paired.unborn (paired : Paired journal audits) {id : Nat}
    (fresh : ∀ row ∈ journal.decisions.rows, row.id ≠ id) :
    ∀ audit ∈ audits, audit.expires id = false := by
  intro audit listed
  cases expires : audit.expires id with
  | false => rfl
  | true =>
    obtain ⟨row, rowListed, _, own⟩ := paired.decided audit listed (isExpiry_of_expires expires)
    exact absurd (expires_entity own expires) (fresh row rowListed)

theorem nextKey_unused : ∀ row ∈ journal.decisions.rows, row.id ≠ journal.decisions.nextKey := by
  intro row listed same
  exact journal.decisions.nextKey_fresh (List.mem_map.mpr ⟨row, listed, same⟩)

theorem Paired.undecided (paired : Paired journal audits)
    (same : changed.decisions = journal.decisions)
    (quiet : ∀ audit ∈ written, audit.isExpiry = false) : Paired changed (audits ++ written) where
  audited := by
    intro row listed expired
    rw [same] at listed
    have none_of : ∀ audit ∈ written, audit.expires row.id = false := by
      intro audit member
      cases expires : audit.expires row.id with
      | false => rfl
      | true => exact absurd (isExpiry_of_expires expires) (by rw [quiet audit member]; simp)
    rw [List.filter_append, List.length_append, none_expires none_of, Nat.add_zero]
    exact paired.audited row listed expired
  decided := by
    intro audit listed expiry
    rw [same]
    rcases List.mem_append.mp listed with old | new
    · exact paired.decided audit old expiry
    · rw [quiet audit new] at expiry
      cases expiry

theorem Paired.decide (paired : Paired journal audits) (row : AccessDecision)
    (fresh : row.id = journal.decisions.nextKey)
    (rows : ∀ other, other ∈ changed.decisions.rows ↔ other ∈ journal.decisions.rows ∨ other = row)
    (own : row.status = .expired → (written.filter (·.expires row.id)).length = 1)
    (about : ∀ audit ∈ written, audit.isExpiry = true →
      row.status = .expired ∧ audit.expires row.id = true) :
    Paired changed (audits ++ written) where
  audited := by
    intro other listed expired
    rw [List.filter_append, List.length_append]
    rcases (rows other).mp listed with old | rfl
    · have none_of : ∀ audit ∈ written, audit.expires other.id = false := by
        intro audit member
        cases expires : audit.expires other.id with
        | false => rfl
        | true =>
          have both := (about audit member (isExpiry_of_expires expires)).2
          exact absurd ((expires_entity expires both).trans fresh) (nextKey_unused other old)
      rw [none_expires none_of, Nat.add_zero]
      exact paired.audited other old expired
    · rw [none_expires (paired.unborn (by rw [fresh]; exact nextKey_unused)), Nat.zero_add]
      exact own expired
  decided := by
    intro audit listed expiry
    rcases List.mem_append.mp listed with old | new
    · obtain ⟨other, there, expired, expires⟩ := paired.decided audit old expiry
      exact ⟨other, (rows other).mpr (.inl there), expired, expires⟩
    · obtain ⟨expired, expires⟩ := about audit new expiry
      exact ⟨row, (rows row).mpr (.inr rfl), expired, expires⟩

theorem expireRows_kept (now : Moment) (lapsed : List AccessDecision) :
    ∀ row ∈ journal.decisions.rows, row ∈ (expireRows journal now lapsed).decisions.rows := by
  induction lapsed generalizing journal with
  | nil => exact fun _ listed => listed
  | cons current rest ih =>
    intro row listed
    exact ih row (mem_insertTransition.mpr (.inl listed))

theorem Paired.not_swept (paired : Paired journal audits) {now : Moment}
    {lapsed : List AccessDecision} (some_lapsed : lapsed ≠ [])
    (same : changed.decisions = (expireRows journal now lapsed).decisions)
    (quiet : ∀ audit ∈ written, audit.isExpiry = false) :
    ¬ Paired changed (audits ++ written) := by
  intro again
  cases lapsed with
  | nil => exact some_lapsed rfl
  | cons current rest =>
    let expired := transition current .expired .manualReview none now journal.decisions.nextKey
    have listed : expired ∈ changed.decisions.rows := by
      rw [same]
      exact expireRows_kept now rest expired (mem_insertTransition.mpr (.inr rfl))
    have one := again.audited expired listed rfl
    have older : (audits.filter (·.expires expired.id)).length = 0 :=
      none_expires (paired.unborn nextKey_unused)
    have newer : (written.filter (·.expires expired.id)).length = 0 := by
      refine none_expires fun audit member => ?_
      cases expires : audit.expires expired.id with
      | false => rfl
      | true => exact absurd (isExpiry_of_expires expires) (by rw [quiet audit member]; simp)
    rw [List.filter_append, List.length_append, older, newer] at one
    cases one

end

def Work.Judged : Work → Prop
  | .recording _ _ _ verdict => verdict.finalStatus ≠ .expired
  | _ => True

section

variable {equipment : Equipment} {time : Moment}

theorem verdict_unexpired (data : AnprIngestInput) (engine : EngineDecision) :
    (verdict journal time data engine).finalStatus ≠ .expired := by
  unfold verdict
  split
  · split
    · rintro ⟨⟩
    · rintro ⟨⟩
  · show engine.status ≠ .expired
    rw [engine.proposed]
    cases engine.decision with
    | allow | deny | manualReview => decide

theorem commitResolution_decisions (request : ResolveRequest) (now : Moment)
    (current : AccessDecision) (resolution : Resolution) :
    (commitResolution journal time request now current resolution).1.decisions =
      (insertTransition journal current resolution.status resolution.decision
        (resolution.operator request.operatorUserId) now).decisions := by
  cases resolution with
  | manualOpen barrierId controllerId reason =>
    simp only [commitResolution, insertManualOpening, createOpenCommand_decisions]
  | expire => rfl
  | deny => rfl

theorem commitOpening_decisions (time : Moment) (request : ManualOpenRequest)
    (controllerId : Nat) (now : Moment) (lapsed : List AccessDecision) :
    (commitOpening journal time request controllerId now lapsed).1.decisions =
      (expireRows journal now lapsed).decisions := by
  simp only [commitOpening, insertManualOpening, createOpenCommand_decisions]

variable {current : AccessDecision} {now : Moment}

theorem resolution_pairs {request : ResolveRequest} {resolution : Resolution}
    (paired : Paired journal audits) :
    Paired (commitResolution journal time request now current resolution).1
      (audits ++ [auditOfResolution request journal.decisions.nextKey resolution]) := by
  let row := transition current resolution.status resolution.decision
    (resolution.operator request.operatorUserId) now journal.decisions.nextKey
  have fresh : row.id = journal.decisions.nextKey := rfl
  refine paired.decide row fresh ?_ ?_ ?_
  · intro other
    rw [commitResolution_decisions]
    exact mem_insertTransition
  · intro expired
    cases resolution with
    | expire => simp [auditOfResolution, LifecycleAudit.expires, LifecycleAudit.isExpiry, fresh]
    | manualOpen | deny => cases expired
  · intro audit member expiry
    rw [List.mem_singleton.mp member] at expiry ⊢
    cases resolution with
    | expire =>
      refine ⟨rfl, ?_⟩
      simp [auditOfResolution, LifecycleAudit.expires, LifecycleAudit.isExpiry, fresh]
    | manualOpen barrierId controllerId reason =>
      simp [auditOfResolution, LifecycleAudit.isExpiry] at expiry
    | deny => simp [auditOfResolution, LifecycleAudit.isExpiry] at expiry

theorem worker_pairs (paired : Paired journal audits) :
    Paired (expireRow now journal current)
      (audits ++ [⟨none, "access.review_expired", "access_decision",
        some journal.decisions.nextKey, none, none⟩]) := by
  let row := transition current .expired .manualReview none now journal.decisions.nextKey
  have fresh : row.id = journal.decisions.nextKey := rfl
  refine paired.decide row fresh (fun other => mem_insertTransition) ?_ ?_
  · intro _
    simp [LifecycleAudit.expires, LifecycleAudit.isExpiry, fresh]
  · intro audit member expiry
    rw [List.mem_singleton.mp member]
    exact ⟨rfl, by simp [LifecycleAudit.expires, LifecycleAudit.isExpiry, fresh]⟩

theorem event_pairs {data : AnprIngestInput} {normalized : Option String}
    {engine : EngineDecision} {decided : Verdict} (judged : decided.finalStatus ≠ .expired)
    (paired : Paired journal audits) :
    Paired (commitEvent journal time data normalized engine decided).1 (audits ++ []) := by
  unfold commitEvent
  split
  · exact paired.undecided rfl (fun _ member => by cases member)
  · let row := initialDecision journal.cameraEvents.nextKey decided.decision engine
      decided.finalStatus decided.reviewDeadlineAt journal.decisions.nextKey
    have fresh : row.id = journal.decisions.nextKey := rfl
    refine paired.decide row fresh ?_ (fun expired => absurd expired judged)
      (fun _ member => by cases member)
    intro other
    rw [recordEvent_decisions]
    exact mem_insertInitial

theorem sweep_pairs_iff {changed : Journal} {written : List LifecycleAudit}
    {lapsed : List AccessDecision} (paired : Paired journal audits)
    (same : changed.decisions = (expireRows journal now lapsed).decisions)
    (quiet : ∀ audit ∈ written, audit.isExpiry = false) :
    Paired changed (audits ++ written) ↔ lapsed.isEmpty = true := by
  cases lapsed with
  | nil => exact iff_of_true (paired.undecided same quiet) rfl
  | cons current rest => exact iff_of_false (paired.not_swept (by simp) same quiet) (by simp)

theorem perform_pairs_iff {key : Nat} {work : Work} (judged : work.Judged)
    (paired : Paired journal audits) :
    Paired (perform equipment journal time key work).1 (audits ++ auditsOf journal work) ↔
      work.sweeps = false := by
  have idle : ∀ {changed : Journal}, changed.decisions = journal.decisions →
      Paired changed (audits ++ []) :=
    fun same => paired.undecided same (fun _ member => by cases member)
  cases work with
  | receiving | settling | checking | rechecking =>
    refine iff_of_true (idle ?_) rfl
    simp only [perform]
    split
    · rfl
    · rfl
  | deciding | sweeping => exact iff_of_true (idle rfl) rfl
  | recording data normalized engine decided => exact iff_of_true (event_pairs judged paired) rfl
  | moving request resolution current now => exact iff_of_true (resolution_pairs paired) rfl
  | opening request controllerId now lapsed =>
    have quiet : ∀ audit ∈ auditsOf journal (.opening request controllerId now lapsed),
        audit.isExpiry = false := by
      intro audit member
      rw [List.mem_singleton.mp member]
      rfl
    rw [Work.sweeps, Bool.not_eq_false']
    exact sweep_pairs_iff paired
      (commitOpening_decisions time request controllerId now lapsed) quiet
  | refusing eventId now lapsed =>
    rw [Work.sweeps, Bool.not_eq_false']
    exact sweep_pairs_iff paired rfl (fun _ member => by cases member)
  | expiring current rest count now => exact iff_of_true (worker_pairs paired) rfl

end

def Stage.Judged : Stage → Prop
  | .waiting _ work => work.Judged
  | .holding _ work => work.Judged
  | _ => True

def Store.Judged {n : Nat} (store : Store n) : Prop := ∀ worker, (store.workers worker).Judged

theorem nextRow_judged (count : Nat) (now : Moment) (rest : List (Nat × Nat)) :
    (nextRow count now rest).Judged := by
  cases rest with
  | nil | cons => trivial

theorem perform_judged (equipment : Equipment) (journal : Journal) (time : Moment) (key : Nat)
    (work : Work) : (perform equipment journal time key work).2.Judged := by
  cases work with
  | receiving | settling | checking =>
    simp only [perform]
    split
    · trivial
    · trivial
  | deciding data normalized engine => exact verdict_unexpired data engine
  | rechecking decisionId rest count now =>
    simp only [perform]
    split
    · trivial
    · exact nextRow_judged count now rest
  | expiring current rest count now => exact nextRow_judged (count + 1) now rest
  | _ => trivial

theorem prepare_judged (equipment : Equipment) (journal : Journal) {stage : Stage}
    (judged : stage.Judged) : (prepare equipment journal stage).Judged := by
  cases stage with
  | scoping | keying =>
    simp only [prepare]
    split
    · trivial
    · trivial
  | addressing request now =>
    simp only [prepare]
    split
    · split
      · trivial
      · trivial
    · trivial
  | collecting now => exact nextRow_judged 0 now (dueReviews equipment journal now)
  | _ => exact judged

variable {n : Nat}

section

variable {store : Store n}

theorem Store.Judged.put (judged : store.Judged) {worker : Fin n} {stage : Stage}
    (own : stage.Judged) : (store.put worker stage).Judged := by
  intro other
  by_cases same : other = worker
  · subst same
    rw [put_same]
    exact own
  · simp only [Store.put, Function.update_of_ne same]
    exact judged other

theorem judged_next (judged : store.Judged) (event : Event n) : (next store event).Judged := by
  cases event with
  | call worker call =>
    simp only [next]
    split
    · cases call with
      | _ => exact judged.put trivial
    · exact judged
  | crash worker => exact judged.put trivial
  | tick elapsed => exact judged
  | equip barrierId patch =>
    simp only [next]
    split
    · exact judged
    · exact judged
  | step worker =>
    have own := judged worker
    simp only [next, Store.advance]
    split
    · next key work at_ =>
        rw [at_] at own
        split
        · exact judged.put own
        · exact judged
    · next key work at_ =>
        exact judged.put (perform_judged store.equipment store.journal store.time key work)
    · exact judged.put (prepare_judged store.equipment store.journal own)

end

section

variable {state : Audited n}

theorem paired_next_iff (judged : state.store.Judged)
    (paired : Paired state.store.journal state.audits) (event : Event n) :
    Paired (nextAudited state event).store.journal (nextAudited state event).audits ↔
      sweepsNothing state event = true := by
  have idle : ∀ {journal : Journal}, journal.decisions = state.store.journal.decisions →
      Paired journal (state.audits ++ []) :=
    fun same => paired.undecided same (fun _ member => by cases member)
  cases event with
  | call | equip =>
    refine iff_of_true (idle ?_) rfl
    simp only [nextAudited, next]
    split
    · rfl
    · rfl
  | crash | tick => exact iff_of_true (idle rfl) rfl
  | step worker =>
    have own := judged worker
    cases at_ : state.store.workers worker with
    | holding key work =>
      rw [at_] at own
      simp only [nextAudited, next, Store.advance, auditsWritten, sweepsNothing, at_, Bool.not_eq_true']
      exact perform_pairs_iff own paired
    | waiting key work =>
      simp only [nextAudited, next, Store.advance, auditsWritten, sweepsNothing, at_]
      refine iff_of_true (idle ?_) trivial
      split
      · rfl
      · rfl
    | _ =>
      simp only [nextAudited, next, Store.advance, auditsWritten, sweepsNothing, at_]
      exact iff_of_true (idle rfl) trivial

theorem perform_keeps_rows (equipment : Equipment) (journal : Journal) (time : Moment) (key : Nat)
    (work : Work) : ∀ row ∈ journal.decisions.rows,
      row ∈ (perform equipment journal time key work).1.decisions.rows := by
  intro row listed
  cases work with
  | receiving | settling | checking | rechecking =>
    simp only [perform]
    split
    · exact listed
    · exact listed
  | recording data normalized engine decided =>
    simp only [perform, commitEvent]
    split
    · exact listed
    · rw [recordEvent_decisions]
      exact mem_insertInitial.mpr (.inl listed)
  | moving request resolution current now =>
    simp only [perform, commitResolution_decisions]
    exact mem_insertTransition.mpr (.inl listed)
  | opening request controllerId now lapsed =>
    simp only [perform, commitOpening_decisions]
    exact expireRows_kept now lapsed row listed
  | refusing eventId now lapsed => exact expireRows_kept now lapsed row listed
  | expiring current rest count now => exact mem_insertTransition.mpr (.inl listed)
  | _ => exact listed

theorem next_keeps_rows (store : Store n) (event : Event n) : ∀ row ∈ store.journal.decisions.rows,
    row ∈ (next store event).journal.decisions.rows := by
  intro row listed
  cases event with
  | call | equip =>
    simp only [next]
    split
    · exact listed
    · exact listed
  | step worker =>
    simp only [next, Store.advance]
    split
    · split
      · exact listed
      · exact listed
    · exact perform_keeps_rows _ _ _ _ _ row listed
    · exact listed
  | _ => exact listed

theorem committedTogether (event : Event n)
    (before : Paired state.store.journal state.audits)
    (after : Paired (nextAudited state event).store.journal (nextAudited state event).audits) :
    CommittedTogether state (nextAudited state event) := by
  have count : ∀ id, ((nextAudited state event).audits.filter (·.expires id)).length =
      (state.audits.filter (·.expires id)).length +
        ((auditsWritten state.store event).filter (·.expires id)).length := by
    intro id
    simp only [nextAudited, List.filter_append, List.length_append]
  refine ⟨auditsWritten state.store event, rfl, fun row listed expired new => ?_,
    fun audit member expiry => ?_⟩
  · have older : (state.audits.filter (·.expires row.id)).length = 0 := by
      refine none_expires fun audit old => ?_
      cases expires : audit.expires row.id with
      | false => rfl
      | true =>
        obtain ⟨other, there, _, own⟩ := before.decided audit old (isExpiry_of_expires expires)
        have same : other = row := Table.eq_of_key (next_keeps_rows state.store event other there)
          listed (expires_entity own expires)
        exact absurd (same ▸ there) new
    have one := after.audited row listed expired
    rw [count, older, Nat.zero_add] at one
    exact one
  · obtain ⟨row, listed, expired, own⟩ := after.decided audit (List.mem_append_right _ member) expiry
    refine ⟨row, listed, fun old => ?_, expired, own⟩
    have one := after.audited row listed expired
    rw [count, before.audited row old expired] at one
    have none_left : ((auditsWritten state.store event).filter (·.expires row.id)) = [] :=
      List.length_eq_zero_iff.mp (Nat.add_left_cancel one)
    exact absurd own (List.filter_eq_nil_iff.mp none_left audit member)

theorem paired_initial (equipment : Equipment) (time : Moment) :
    Paired (Audited.initial (n := n) equipment time).store.journal
      (Audited.initial (n := n) equipment time).audits where
  audited := fun _ listed => by cases listed
  decided := fun _ listed => by cases listed

end

/-- In every state of a run each decision that has expired has its one audit row, each such row
its decision, and both come with one commit, exactly where no manual opening of the run commits
that has found an overdue review. -/
theorem expiries_audited_iff {n : Nat} (equipment : Equipment) (time : Moment)
    (events : List (Event n)) :
    ((∀ past, past <+: events →
        Paired (run nextAudited (Audited.initial equipment time) past).store.journal
          (run nextAudited (Audited.initial equipment time) past).audits) ∧
      ∀ taken ∈ trace nextAudited (Audited.initial equipment time) events,
        CommittedTogether taken.1 (nextAudited taken.1 taken.2)) ↔
      Obeys nextAudited (fun state event => sweepsNothing state event = true)
        (Audited.initial equipment time) events := by
  have judged : (Audited.initial (n := n) equipment time).store.Judged := fun _ => trivial
  have along : (∀ past, past <+: events →
        Paired (run nextAudited (Audited.initial equipment time) past).store.journal
          (run nextAudited (Audited.initial equipment time) past).audits) ↔
      Obeys nextAudited (fun state event => sweepsNothing state event = true)
        (Audited.initial equipment time) events :=
    holds_along_iff_obeys nextAudited
      (fun state : Audited n => Paired state.store.journal state.audits)
      (fun state => state.store.Judged) judged
      (fun _ event kept => judged_next kept event) (paired_initial equipment time)
      (fun _ event kept paired => paired_next_iff kept paired event) events
  rw [← along]
  refine ⟨fun both => both.1, fun paired => ⟨paired, fun taken listed => ?_⟩⟩
  obtain ⟨past, later, split, reached⟩ := split_of_mem_trace nextAudited listed
  obtain ⟨before, event⟩ := taken
  have first := paired past ⟨event :: later, split.symm⟩
  have second := paired (past ++ [event]) ⟨later, by simp [split]⟩
  rw [run_concat, reached] at second
  rw [reached] at first
  exact committedTogether event first second

/-- A disputed car waits until its deadline has passed; then the barrier is opened by hand. -/
def openedAfterDeadline : List (Event 2) :=
  receiveCar ++ .tick 121 :: .call 0 (.manualOpenBarrier ⟨1, 7, "stuck car"⟩) ::
    List.replicate 5 (.step 0)

theorem expiry_without_audit :
    ¬ ∀ (n : Nat) (equipment : Equipment) (time : Moment) (events : List (Event n)),
      (∀ past, past <+: events →
          Paired (run nextAudited (Audited.initial equipment time) past).store.journal
            (run nextAudited (Audited.initial equipment time) past).audits) ∧
        ∀ taken ∈ trace nextAudited (Audited.initial equipment time) events,
          CommittedTogether taken.1 (nextAudited taken.1 taken.2) := by
  intro always
  have paired := (always 2 gateFive 0 openedAfterDeadline).1 openedAfterDeadline
    (List.prefix_refl openedAfterDeadline)
  obtain ⟨row, listed, expired, own⟩ : ∃ row ∈ (run nextAudited (Audited.initial gateFive 0)
      openedAfterDeadline).store.journal.decisions.rows, row.status = .expired ∧ row.id = 2 := by
    decide +kernel
  have unaudited : ((run nextAudited (Audited.initial gateFive 0)
      openedAfterDeadline).audits.filter (·.expires 2)).length = 0 := by
    decide +kernel
  have one := paired.audited row listed expired
  rw [own, unaudited] at one
  cases one

end InfrasafeBot.AccessControl
