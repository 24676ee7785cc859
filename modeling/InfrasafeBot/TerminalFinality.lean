import InfrasafeBot.AssignmentCoherence

/-! «Принято» and «Отменена» are final, and an acceptance is recorded once. -/

set_option autoImplicit false

namespace InfrasafeBot.TerminalFinality

open Library Machine RequestWorkflow WebhookSender WorkflowRunner RequestLifecycle
  WorkflowOperations WorkflowRefinement WorkflowRuns AssignmentCoherence

/-- The records of a finished request: its moment, its rating, its release. -/
structure Recorded (card : Card) : Prop where
  completed : card.completedAt ≠ none ↔ card.status = .approved
  once : card.ratings ≤ 1
  rated : card.ratings ≠ 0 → card.status = .approved
  released : card.status = .cancelled → card.active = []

variable {card next : Card} {action : Action} {row : Request}

theorem Recorded.unfinished (recorded : Recorded card) (open_ : card.status ∉ terminalStatuses) :
    card.completedAt = none ∧ card.ratings = 0 := by
  have running : card.status ≠ .approved := by
    intro approved
    simp [approved, terminalStatuses] at open_
  constructor
  · by_contra moment
    exact running (recorded.completed.mp moment)
  · by_contra rating
    exact running (recorded.rated rating)

theorem Recorded.of_running (moment : next.completedAt = none) (unrated : next.ratings = 0)
    (running : next.status ∉ terminalStatuses) :
    Recorded next := by
  have unapproved : next.status ≠ .approved := by
    intro approved
    simp [approved, terminalStatuses] at running
  refine ⟨by simp [moment, unapproved], by omega, by simp [unrated], ?_⟩
  intro cancelled
  simp [cancelled, terminalStatuses] at running

theorem Step.recorded (step : Step action card next) (canonical : Canonical card)
    (recorded : Recorded card) : Recorded next := by
  have open_ := step.open
  rw [canonical.canon_eq] at open_
  obtain ⟨moment, unrated⟩ := recorded.unfinished open_
  cases step with
  | assign executor starts =>
    exact .of_running moment unrated (by simp [Card.moveTo, Card.heldBy, terminalStatuses])
  | offer group starts =>
    exact .of_running moment unrated (by simp [Card.moveTo, Card.offeredTo, terminalStatuses])
  | take executor takes starts only =>
    exact .of_running moment unrated (by simp [Card.moveTo, Card.takenBy, terminalStatuses])
  | park starts =>
    refine .of_running moment unrated ?_
    rcases starts with ⟨_, _, rfl⟩ | ⟨_, _, rfl⟩ | ⟨_, _, rfl⟩ <;>
      simp [Card.moveTo, terminalStatuses]
  | resume | complete | confirm => exact .of_running moment unrated (by simp [Card.moveTo, terminalStatuses])
  | sendBack | dispute => exact .of_running moment unrated (by simp [Card.moveTo, terminalStatuses])
  | confirmFinally | forceAccept =>
    exact ⟨by simp [Card.moveTo], recorded.once, fun _ => rfl, by simp [Card.moveTo]⟩
  | accept moment starts mode =>
    exact ⟨by simp [Card.moveTo], by simp [unrated], fun _ => rfl, by simp [Card.moveTo]⟩
  | cancel starts =>
    refine ⟨?_, recorded.once, ?_, fun _ => rfl⟩
    · simp only [Card.moveTo, moment]
      simp
    · intro rating
      exact absurd unrated rating

theorem Step.ratings_eq (step : Step action card next) (other : action ≠ .applicantAccept) :
    next.ratings = card.ratings := by
  cases step <;> first | rfl | exact absurd rfl other

variable (deployment : Deployment) {db : Database} {number : RequestNumber}

theorem terminal_refuses (placed : cardAt db number = some card) (canonical : Canonical card)
    (finished : card.status ∈ terminalStatuses) (call : Call)
    (concerned : call.requestNumber = number) :
    ∃ error, runCommand deployment db call = .error error := by
  cases ran : runCommand deployment db call with
  | error error => exact ⟨error, rfl⟩
  | ok result =>
    obtain ⟨outcome, committed⟩ := result
    subst concerned
    obtain ⟨reading, read, ⟨_, silent, _⟩ | ⟨changed, move, _⟩⟩ := runCommand_cases ran
    · have before := (cardAt_of_found read.found).symm.trans placed
      cases before
      have canon : normalizeStatus reading.snap.request = (cardOf db reading.row).status := by
        rw [read.snapshot]
        exact canonical.canon_eq
      rcases silent.1 with ⟨_, at_⟩ | ⟨_, at_⟩ <;>
        simp [← canon, at_, terminalStatuses] at finished
    · have before := move.card_before.symm.trans placed
      cases before
      have open_ := move.step.open
      rw [canonical.canon_eq] at open_
      exact absurd finished open_

theorem terminal_stays (placed : cardAt db number = some card) (canonical : Canonical card)
    (finished : card.status ∈ terminalStatuses) (later : List Call) :
    about (runCalls deployment db later) number = about db number := by
  refine run_invariant (commit deployment) (fun state => about state number = about db number)
    rfl ?_ later
  intro state call same
  rcases commit_cases deployment state call number with
    kept | ⟨rfl, reading, changed, move, _⟩
  · exact kept.trans same
  · have before := move.card_before.symm.trans ((cardAt_eq_of_about same).trans placed)
    cases before
    have open_ := move.step.open
    rw [canonical.canon_eq] at open_
    exact absurd finished open_

theorem ratings_kept (number : RequestNumber) {call : Call}
    (other : succeededAction deployment db call ≠ some .applicantAccept) :
    (ratingsOf (commit deployment db call) number).length = (ratingsOf db number).length := by
  rcases commit_cases deployment db call number with
    kept | ⟨rfl, reading, changed, move, succeeded⟩
  · exact congrArg List.length (congrArg About.ratings kept)
  · have performed : reading.command.action ≠ .applicantAccept := fun named =>
      other (succeeded.trans (congrArg some named))
    rw [← cardOf_ratings move.stored, ← cardOf_ratings move.read.found]
    exact Step.ratings_eq move.step performed

theorem rated_by_accept (unrated : ratingsOf db number = []) (calls : List Call)
    (rated : ratingsOf (runCalls deployment db calls) number ≠ []) :
    ∃ before call after, calls = before ++ call :: after ∧ call.requestNumber = number ∧
      succeededAction deployment (runCalls deployment db before) call = some .applicantAccept ∧
      ratingsOf (runCalls deployment db (before ++ [call])) number ≠ [] := by
  obtain ⟨before, call, after, split, absent, since⟩ :=
    run_entered (commit deployment) (fun state => ratingsOf state number ≠ []) calls
      (by simpa using unrated) rated
  have appeared : ratingsOf (runCalls deployment db (before ++ [call])) number ≠ [] := since 0
  have missing : ratingsOf (runCalls deployment db before) number = [] := not_not.mp absent
  have accepts : succeededAction deployment (runCalls deployment db before) call =
      some .applicantAccept := by
    by_contra other
    have same := ratings_kept deployment number other
    rw [← runCalls_concat, missing, List.length_nil, List.length_eq_zero_iff] at same
    exact appeared same
  refine ⟨before, call, after, split, ?_, accepts, appeared⟩
  rcases commit_cases deployment (runCalls deployment db before) call number with
    kept | ⟨concerned, _⟩
  · rw [runCalls_concat] at appeared
    exact absurd (congrArg About.ratings kept) fun same => appeared (same.trans missing)
  · exact concerned

theorem FreshRequest.recorded (fresh : FreshRequest db number row)
    (uncompleted : row.completedAt = none) (unrated : ratingsOf db number = []) :
    Recorded (cardOf db row) := by
  refine .of_running uncompleted ?_ ?_
  · rw [cardOf_ratings fresh.stored, unrated]
    rfl
  · have new : (cardOf db row).status = .new := fresh.status
    simp [new, terminalStatuses]

theorem recorded_run (fresh : FreshRequest db number row) (uncompleted : row.completedAt = none)
    (unrated : ratingsOf db number = []) (calls : List Call) :
    ∃ reached, (runCalls deployment db calls).requests.find? number = some reached ∧
      Canonical (cardOf (runCalls deployment db calls) reached) ∧
      Recorded (cardOf (runCalls deployment db calls) reached) := by
  obtain ⟨card, placed, canonical, recorded⟩ :=
    card_invariant deployment (fun card => Canonical card ∧ Recorded card)
      (fun step held => ⟨step.canonical held.1.decodable, Step.recorded step held.1 held.2⟩)
      (cardAt_of_found fresh.stored)
      ⟨fresh.canonical, FreshRequest.recorded fresh uncompleted unrated⟩ calls
  obtain ⟨reached, found, rfl⟩ := Option.map_eq_some_iff.mp placed
  exact ⟨reached, found, canonical, recorded⟩

/-- A terminal request is final for every later call; «Принято» and only it has its
moment; a rating is single and was given by the applicant whose acceptance brought
the request there; a cancelled request is nobody's. -/
theorem terminal_final {row : Request}
    (fresh : FreshRequest db number row) (uncompleted : row.completedAt = none)
    (unrated : ratingsOf db number = []) (calls : List Call) :
    ∃ reached, (runCalls deployment db calls).requests.find? number = some reached ∧
      (isTerminal (normalizeStatus (newStateFrom reached)) = true → ∀ later,
        about (runCalls deployment db (calls ++ later)) number =
          about (runCalls deployment db calls) number ∧
        ∀ call, call.requestNumber = number →
          ∃ error, runCommand deployment (runCalls deployment db (calls ++ later)) call = .error error) ∧
      (reached.completedAt ≠ none ↔ reached.status = .approved) ∧
      (ratingsOf (runCalls deployment db calls) number).length ≤ 1 ∧
      (ratingsOf (runCalls deployment db calls) number ≠ [] →
        reached.status = .approved ∧
        ∃ before call after, calls = before ++ call :: after ∧
          call.requestNumber = number ∧
          succeededAction deployment (runCalls deployment db before) call = some .applicantAccept ∧
          about (runCalls deployment db (before ++ [call])) number =
            about (runCalls deployment db calls) number) ∧
      (reached.status = .cancelled →
        activeRows (runCalls deployment db calls) number = []) := by
  obtain ⟨reached, found, canonical, recorded⟩ := recorded_run deployment fresh uncompleted unrated calls
  have key : reached.requestNumber = number := Table.key_of_find? found
  refine ⟨reached, found, ?_, recorded.completed, ?_, ?_, ?_⟩
  · intro terminal later
    have finished : (cardOf (runCalls deployment db calls) reached).status ∈
        terminalStatuses := by
      rw [canon_cardOf, canonical.canon_eq] at terminal
      simpa [isTerminal] using terminal
    have placed := cardAt_of_found found
    rw [runCalls_append]
    have stays := terminal_stays deployment placed canonical finished later
    refine ⟨stays, fun call concerned => ?_⟩
    exact terminal_refuses deployment ((cardAt_eq_of_about stays).trans placed) canonical
      finished call concerned
  · rw [← cardOf_ratings found]
    exact recorded.once
  · intro rated
    have some_ : (cardOf (runCalls deployment db calls) reached).ratings ≠ 0 := by
      rw [cardOf_ratings found]
      simpa using rated
    refine ⟨recorded.rated some_, ?_⟩
    obtain ⟨before, call, after, split, concerned, accepts, appeared⟩ :=
      rated_by_accept deployment unrated calls rated
    refine ⟨before, call, after, split, concerned, accepts, ?_⟩
    obtain ⟨accepted, at_, settled, recordedThen⟩ :=
      recorded_run deployment fresh uncompleted unrated (before ++ [call])
    have approved := recordedThen.rated (by
      rw [cardOf_ratings at_]
      simpa using appeared)
    have finished : (cardOf (runCalls deployment db (before ++ [call])) accepted).status ∈
        terminalStatuses := by
      rw [approved]
      decide
    have stays := terminal_stays deployment (cardAt_of_found at_) settled finished
      after
    rw [← runCalls_append, List.append_assoc, List.singleton_append, ← split] at stays
    exact stays.symm
  · intro cancelled
    have released := recorded.released cancelled
    rw [cardOf, key] at released
    exact List.map_eq_nil_iff.mp released

theorem terminal_final_after_cancel :
    let db := Database.ofRequest (sampleRequest .resident)
    let calls := [userCall sampleDirectory 5 "250101-001" 7 .cancel []]
    ∃ reached, (runCalls sampleDeployment db calls).requests.find? "250101-001" = some reached ∧
      (reached.completedAt ≠ none ↔ reached.status = .approved) ∧
      (reached.status = .cancelled →
        activeRows (runCalls sampleDeployment db calls) "250101-001" = []) := by
  intro db calls
  obtain ⟨reached, found, _, completed, _, _, released⟩ :=
    terminal_final sampleDeployment (FreshRequest.created _ _ _ _) rfl rfl calls
  exact ⟨reached, found, completed, released⟩

end InfrasafeBot.TerminalFinality
