import InfrasafeBot.WorkflowRuns

/-! A manager's confirmation stands between the work and its acceptance, and under
manager acceptance the applicant takes no part in it. -/

set_option autoImplicit false

namespace InfrasafeBot.ManagerReview

open Library Machine RequestWorkflow WebhookSender WorkflowRunner RequestLifecycle
  WorkflowOperations WorkflowRefinement WorkflowRuns

variable (deployment : Deployment) {db : Database} {number : RequestNumber}

def reviewed : List RequestStatus := [.completed, .returned, .approved]

variable {action : Action} {card next : Card} {call : Call} {row : Request}

theorem Step.confirms (step : Step action card next) (canonical : Canonical card)
    (before : card.status ∉ reviewed) (after : next.status ∈ reviewed) :
    action = .managerConfirm := by
  have decoded := canonical.canon_eq
  cases step with
  | assign executor starts => simp [Card.moveTo, Card.heldBy, reviewed] at after
  | offer group starts => simp [Card.moveTo, Card.offeredTo, reviewed] at after
  | take executor takes starts only => simp [Card.moveTo, Card.takenBy, reviewed] at after
  | park starts =>
    rcases starts with ⟨_, _, rfl⟩ | ⟨_, _, rfl⟩ | ⟨_, _, rfl⟩ <;>
      simp [Card.moveTo, reviewed] at after
  | resume | complete | sendBack | cancel => simp [Card.moveTo, reviewed] at after
  | confirm | confirmFinally => rfl
  | accept moment starts mode | dispute starts mode =>
    rw [decoded] at starts
    exact absurd (by simp_all [reviewed]) before
  | forceAccept moment starts =>
    rw [decoded] at starts
    refine absurd ?_ before
    simp only [reviewed, List.mem_cons, List.not_mem_nil, or_false] at starts ⊢
    tauto

/-- Manager acceptance leaves the applicant no step. -/
structure ManagersOnly (card : Card) : Prop where
  mode : card.acceptance = .manager
  unrated : card.ratings = 0
  undisputed : card.status ≠ .returned

theorem Step.managersOnly (step : Step action card next) (managers : ManagersOnly card) :
    ManagersOnly next := by
  obtain ⟨mode, unrated, undisputed⟩ := managers
  cases step with
  | park starts =>
    refine ⟨mode, unrated, ?_⟩
    rcases starts with ⟨_, _, rfl⟩ | ⟨_, _, rfl⟩ | ⟨_, _, rfl⟩ <;> simp [Card.moveTo]
  | accept moment starts resident | dispute starts resident =>
    rw [resident] at mode
    cases mode
  | assign => exact ⟨mode, unrated, by simp [Card.moveTo, Card.heldBy]⟩
  | offer => exact ⟨mode, unrated, by simp [Card.moveTo, Card.offeredTo]⟩
  | take => exact ⟨mode, unrated, by simp [Card.moveTo, Card.takenBy]⟩
  | resume | complete | confirm | confirmFinally | sendBack => exact ⟨mode, unrated, by simp [Card.moveTo]⟩
  | forceAccept | cancel => exact ⟨mode, unrated, by simp [Card.moveTo]⟩

theorem Step.resident (step : Step action card next)
    (applicant : action = .applicantAccept ∨ action = .applicantReturn) :
    card.acceptance = .resident := by
  rcases applicant with rfl | rfl <;> cases step <;> simp_all

def ByManager (call : Call) : Prop :=
  ∃ actor, loadActorContext call.directory call.principal = .ok actor ∧
    actor.kind = .user ∧ roleManager ∈ actor.roles

theorem byManager_of_authorized {reading : Reading} (read : ReadUnderLock db call reading)
    (authorized : isManager reading.actor = true) : ByManager call := by
  simp only [isManager, Bool.and_eq_true, decide_eq_true_eq, List.contains_iff_mem] at authorized
  exact ⟨reading.actor, read.loaded, authorized.1, authorized.2⟩

theorem review_confirmed (placed : cardAt db number = some card) (canonical : Canonical card)
    (before : card.status ∉ reviewed)
    (reached : cardAt (commit deployment db call) number = some next)
    (after : next.status ∈ reviewed) :
    call.requestNumber = number ∧
      succeededAction deployment db call = some .managerConfirm ∧ ByManager call := by
  rcases commit_cases deployment db call number with
    kept | ⟨rfl, reading, changed, move, succeeded⟩
  · have same := (cardAt_eq_of_about kept).symm.trans reached
    rw [placed] at same
    cases same
    exact absurd after before
  · have start := move.card_before.symm.trans placed
    have finish := move.card_after.symm.trans reached
    cases start
    cases finish
    have confirms := Step.confirms move.step canonical before after
    have right := authorize_of_authorizes (planTransition_eq_ok_iff.mp move.planned).2.2.2.1
    rw [confirms] at right
    exact ⟨rfl, succeeded.trans (congrArg some confirms), byManager_of_authorized move.read right⟩

def UnderReview (number : RequestNumber) (state : Database) : Prop :=
  ∃ card, cardAt state number = some card ∧ card.status ∈ reviewed

theorem canonical_run (fresh : FreshRequest db number row) (calls : List Call) :
    ∃ card, cardAt (runCalls deployment db calls) number = some card ∧ Canonical card :=
  card_invariant deployment Canonical (fun step held => step.canonical held.decodable)
    (cardAt_of_found fresh.stored) fresh.canonical calls

theorem fresh_not_underReview (fresh : FreshRequest db number row) : ¬ UnderReview number db := by
  rintro ⟨card, placed, under⟩
  have same := (cardAt_of_found fresh.stored).symm.trans placed
  cases same
  have new : (cardOf db row).status = .new := fresh.status
  simp [new, reviewed] at under

def atWork : List RequestStatus := [.new, .inProgress, .purchase, .clarification]

theorem underReview_not_atWork (found : db.requests.find? number = some row)
    (placed : cardAt db number = some card) (canonical : Canonical card)
    (under : UnderReview number db) :
    normalizeStatus (newStateFrom row) ∉ atWork := by
  obtain ⟨shown, at_, listed⟩ := under
  have same := (cardAt_of_found found).symm.trans placed
  cases same
  have shown_eq := at_.symm.trans placed
  cases shown_eq
  rw [canon_cardOf, canonical.canon_eq]
  simp only [reviewed, List.mem_cons, List.not_mem_nil, or_false] at listed
  rcases listed with status | status | status <;> simp [status, atWork]

theorem applicant_excluded (placed : cardAt db call.requestNumber = some card)
    (managers : ManagersOnly card)
    (applicant : action = .applicantAccept ∨ action = .applicantReturn) :
    succeededAction deployment db call ≠ some action := by
  intro succeeded
  obtain ⟨reading, changed, performed, move⟩ := move_of_succeeded deployment succeeded
    (by rcases applicant with rfl | rfl <;> decide)
  cases move.card_before.symm.trans placed
  have resident := Step.resident move.step (performed.symm ▸ applicant)
  rw [managers.mode] at resident
  cases resident

theorem managersOnly_run (fresh : FreshRequest db number row)
    (mode : row.acceptanceMode = .manager) (unrated : ratingsOf db number = [])
    (calls : List Call) :
    ∃ card, cardAt (runCalls deployment db calls) number = some card ∧ ManagersOnly card := by
  have new : (cardOf db row).status = .new := fresh.status
  have initial : ManagersOnly (cardOf db row) :=
    ⟨mode, by rw [cardOf_ratings fresh.stored, unrated]; rfl, by simp [new]⟩
  exact card_invariant deployment ManagersOnly (fun step held => Step.managersOnly step held)
    (cardAt_of_found fresh.stored) initial calls

/-- Work and acceptance are separated by a manager: what is done, disputed or
accepted was confirmed by one since it was last worked on; and where managers
accept, no applicant accepts, disputes or rates. -/
theorem managers_review {row : Request} (fresh : FreshRequest db number row)
    (unrated : ratingsOf db number = []) (calls : List Call) :
    ∃ reached, (runCalls deployment db calls).requests.find? number = some reached ∧
      (normalizeStatus (newStateFrom reached) ∈ reviewed →
        ∃ before call after, calls = before ++ call :: after ∧
          call.requestNumber = number ∧
          succeededAction deployment (runCalls deployment db before) call = some .managerConfirm ∧
          ByManager call ∧
          ∀ length since,
            (runCalls deployment db (before ++ call :: after.take length)).requests.find?
              number = some since →
            normalizeStatus (newStateFrom since) ∉ atWork) ∧
      (row.acceptanceMode = .manager →
        normalizeStatus (newStateFrom reached) ≠ .returned ∧
        ratingsOf (runCalls deployment db calls) number = [] ∧
        ∀ call, call.requestNumber = number →
          succeededAction deployment (runCalls deployment db calls) call ≠ some .applicantAccept ∧
          succeededAction deployment (runCalls deployment db calls) call ≠
            some .applicantReturn) := by
  obtain ⟨card, placed, canonical⟩ := canonical_run deployment fresh calls
  obtain ⟨reached, found, rfl⟩ := Option.map_eq_some_iff.mp placed
  refine ⟨reached, found, ?_, ?_⟩
  · intro under
    rw [canon_cardOf, canonical.canon_eq] at under
    obtain ⟨before, call, after, split, outside, since⟩ :=
      run_entered (commit deployment) (UnderReview number) calls
        (fresh_not_underReview fresh) ⟨_, placed, under⟩
    obtain ⟨start, at_, startCanonical⟩ := canonical_run deployment fresh before
    obtain ⟨next, shown, entered⟩ := since 0
    rw [List.take_zero, run_concat] at shown
    obtain ⟨concerned, confirmed, manager⟩ :=
      review_confirmed deployment at_ startCanonical
        (fun listed => outside ⟨start, at_, listed⟩) shown entered
    refine ⟨before, call, after, split, concerned, confirmed, manager, ?_⟩
    intro length moment stored
    obtain ⟨later, laterPlaced, laterCanonical⟩ :=
      canonical_run deployment fresh (before ++ call :: after.take length)
    exact underReview_not_atWork stored laterPlaced laterCanonical (since length)
  · intro mode
    obtain ⟨final, finalPlaced, managers⟩ := managersOnly_run deployment fresh mode unrated calls
    cases placed.symm.trans finalPlaced
    refine ⟨?_, ?_, ?_⟩
    · rw [canon_cardOf, canonical.canon_eq]
      exact managers.undisputed
    · have none_ := managers.unrated
      rw [cardOf_ratings found] at none_
      exact List.length_eq_zero_iff.mp none_
    · intro call concerned
      subst concerned
      exact ⟨applicant_excluded deployment placed managers (.inl rfl),
        applicant_excluded deployment placed managers (.inr rfl)⟩

theorem managers_review_after_assign :
    let db := Database.ofRequest (sampleRequest .manager)
    let calls := [userCall sampleDirectory 5 "250101-001" 1 .managerAssign [("executor_id", .int 2)]]
    ∃ reached, (runCalls sampleDeployment db calls).requests.find? "250101-001" = some reached ∧
      normalizeStatus (newStateFrom reached) ≠ .returned ∧
      ratingsOf (runCalls sampleDeployment db calls) "250101-001" = [] := by
  intro db calls
  obtain ⟨reached, found, _, managed⟩ :=
    managers_review sampleDeployment (FreshRequest.created _ _ _ _) rfl calls
  obtain ⟨undisputed, unrated, _⟩ := managed rfl
  exact ⟨reached, found, undisputed, unrated⟩

end InfrasafeBot.ManagerReview
