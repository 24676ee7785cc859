import InfrasafeBot.WorkflowRuns

/-! A request is taken from the pool at most once, and the take-over always finds
its assignment. -/

set_option autoImplicit false

namespace InfrasafeBot.PoolClaim

open Library Machine RequestWorkflow WebhookSender WorkflowRunner RequestLifecycle
  WorkflowOperations WorkflowRefinement WorkflowRuns

variable (deployment : Deployment) {db : Database} {number : RequestNumber}

/-- A request that has an executor and has left «Новая» for good. -/
structure OffPool (card : Card) : Prop where
  held : card.executor ≠ none
  started : card.status ≠ .new

def takingActions : List Action := [.executorClaim, .systemAutoPromote]

variable {action : Action} {card next : Card} {call : Call} {state : Database} {row : Request}
  {actor : ActorContext}

section

variable (step : Step action card next)

include step

theorem Step.take_inv (takes : action ∈ takingActions) :
    ∃ executor, next = (card.moveTo .inProgress).takenBy executor ∧
      card.active.countP Holding.unclaimed = 1 := by
  simp only [takingActions, List.mem_cons, List.not_mem_nil, or_false] at takes
  rcases takes with rfl | rfl
  · cases step with
    | take executor _ _ only => exact ⟨executor, rfl, only⟩
    | _ => simp_all
  · cases step with
    | take executor _ _ only => exact ⟨executor, rfl, only⟩
    | _ => simp_all

theorem Step.take_offPool (takes : action ∈ takingActions) :
    OffPool next := by
  obtain ⟨executor, rfl, _⟩ := Step.take_inv step takes
  exact ⟨by simp [Card.takenBy], by simp [Card.takenBy, Card.moveTo]⟩

theorem Step.not_take (coherent : Coherent card) (off : OffPool card) : action ∉ takingActions := by
  intro takes
  obtain ⟨executor, _, only⟩ := Step.take_inv step takes
  obtain ⟨group, active⟩ := active_of_unclaimed coherent only
  have unheld := (coherent.group ⟨.group, none, group⟩ (by simp [active]) rfl).2.1
  exact off.held unheld

theorem Step.offPool (canonical : Canonical card) (off : OffPool card) : OffPool next := by
  obtain ⟨held, started⟩ := off
  have decoded := canonical.canon_eq
  cases step with
  | assign executor starts => exact ⟨by simp [Card.heldBy], by simp [Card.heldBy, Card.moveTo]⟩
  | offer group starts =>
    rw [decoded] at starts
    exact absurd (List.mem_singleton.mp starts) started
  | take executor takes starts only => exact ⟨by simp [Card.takenBy], by simp [Card.takenBy, Card.moveTo]⟩
  | park starts =>
    refine ⟨held, ?_⟩
    rcases starts with ⟨_, _, rfl⟩ | ⟨_, _, rfl⟩ | ⟨_, _, rfl⟩ <;> simp [Card.moveTo]
  | resume | complete | confirm | confirmFinally | sendBack | accept => exact ⟨held, by simp [Card.moveTo]⟩
  | dispute | forceAccept | cancel => exact ⟨held, by simp [Card.moveTo]⟩

theorem Step.executor_eq (canonical : Canonical card) (coherent : Coherent card)
    (off : OffPool card) (other : action ≠ .managerAssign) :
    next.executor = card.executor := by
  have untaken := Step.not_take step coherent off
  have decoded := canonical.canon_eq
  cases step with
  | assign executor starts =>
    rcases starts with ⟨_, at_⟩ | ⟨named, _⟩
    · rw [decoded] at at_
      exact absurd (List.mem_singleton.mp at_) off.started
    · exact absurd named other
  | offer group starts =>
    rw [decoded] at starts
    exact absurd (List.mem_singleton.mp starts) off.started
  | take executor takes starts only => exact absurd (by simpa [takingActions] using takes) untaken
  | _ => rfl

end

def takes (deployment : Deployment) (number : RequestNumber) (db : Database) (call : Call) : Bool :=
  call.requestNumber = number &&
    takingActions.any fun action => succeededAction deployment db call = some action

theorem move_of_takes (taken : takes deployment number db call = true) :
    call.requestNumber = number ∧ ∃ reading changed, reading.command.action ∈ takingActions ∧
      Move deployment db call reading changed (commit deployment db call) := by
  simp only [takes, Bool.and_eq_true, decide_eq_true_eq, List.any_eq_true] at taken
  obtain ⟨concerned, action, listed, succeeded⟩ := taken
  obtain ⟨reading, changed, performed, move⟩ := move_of_succeeded deployment succeeded
    (by simp only [takingActions, List.mem_cons, List.not_mem_nil, or_false] at listed
        rcases listed with rfl | rfl <;> decide)
  exact ⟨concerned, reading, changed, performed ▸ listed, move⟩

def Reached (number : RequestNumber) (state : Database) : Prop :=
  ∃ card, cardAt state number = some card ∧ Canonical card ∧ Coherent card

theorem Reached.commit (reached : Reached number state) (call : Call) :
    Reached number (commit deployment state call) := by
  obtain ⟨card, placed, laws⟩ := reached
  exact card_preserved deployment (fun card => Canonical card ∧ Coherent card)
    (fun step held => ⟨step.canonical held.1.decodable, step.coherent held.1 held.2⟩)
    placed laws call

theorem reached_run (fresh : FreshRequest db number row) (calls : List Call) :
    Reached number (runCalls deployment db calls) :=
  run_invariant (WorkflowRunner.commit deployment) (Reached number)
    ⟨_, cardAt_of_found fresh.stored, fresh.canonical, fresh.coherent⟩
    (fun _ call held => held.commit deployment call) calls

def Taken (number : RequestNumber) (state : Database) : Prop :=
  ∃ card, cardAt state number = some card ∧ OffPool card

theorem takes_closes (taken : takes deployment number state call = true) :
    Taken number (WorkflowRunner.commit deployment state call) := by
  obtain ⟨rfl, reading, changed, listed, move⟩ := move_of_takes deployment taken
  exact ⟨_, move.card_after, Step.take_offPool move.step listed⟩

theorem taken_stays (reached : Reached number state) (taken : Taken number state) :
    Taken number (WorkflowRunner.commit deployment state call) := by
  obtain ⟨card, placed, canonical, coherent⟩ := reached
  obtain ⟨same, placedToo, off⟩ := taken
  cases placed.symm.trans placedToo
  obtain ⟨next, at_, _, offNext⟩ :=
    card_preserved deployment (fun card => Canonical card ∧ OffPool card)
      (fun step held => ⟨step.canonical held.1.decodable, Step.offPool step held.1 held.2⟩)
      placed ⟨canonical, off⟩ call
  exact ⟨next, at_, offNext⟩

theorem taken_blocks (reached : Reached number state) (taken : Taken number state) :
    takes deployment number state call = false := by
  obtain ⟨card, placed, canonical, coherent⟩ := reached
  obtain ⟨same, placedToo, off⟩ := taken
  cases placed.symm.trans placedToo
  by_contra again
  obtain ⟨rfl, reading, changed, listed, move⟩ := move_of_takes deployment (Bool.not_eq_false _ ▸ again)
  cases move.card_before.symm.trans placed
  exact Step.not_take move.step coherent off listed

def executorOf (state : Database) (number : RequestNumber) : Option UserId :=
  (state.requests.find? number).bind (·.executorId)

theorem executorOf_eq (placed : cardAt state number = some card) :
    executorOf state number = card.executor := by
  obtain ⟨row, found, rfl⟩ := Option.map_eq_some_iff.mp placed
  rw [executorOf, found]
  rfl

theorem taken_executor (reached : Reached number state) (taken : Taken number state)
    (changes : executorOf (WorkflowRunner.commit deployment state call) number ≠ executorOf state number) :
    call.requestNumber = number ∧
      succeededAction deployment state call = some .managerAssign := by
  obtain ⟨card, placed, canonical, coherent⟩ := reached
  obtain ⟨same, placedToo, off⟩ := taken
  cases placed.symm.trans placedToo
  rcases commit_cases deployment state call number with
    kept | ⟨rfl, reading, changed, move, succeeded⟩
  · rw [executorOf_eq placed, executorOf_eq ((cardAt_eq_of_about kept).trans placed)] at changes
    exact absurd rfl changes
  · cases move.card_before.symm.trans placed
    rw [executorOf_eq placed, executorOf_eq move.card_after] at changes
    refine ⟨rfl, succeeded.trans (congrArg some ?_)⟩
    by_contra other
    exact changes (Step.executor_eq move.step canonical coherent off other)

theorem taken_run (reached : Reached number state) (taken : Taken number state)
    (calls : List Call) :
    Reached number (runCalls deployment state calls) ∧
      Taken number (runCalls deployment state calls) :=
  run_invariant (WorkflowRunner.commit deployment)
    (fun state => Reached number state ∧ Taken number state) ⟨reached, taken⟩
    (fun _ call held => ⟨held.1.commit deployment call, taken_stays deployment held.1 held.2⟩)
    calls

theorem unclaimed_of_authorized {snap : WorkflowSnapshot} (listed : action ∈ takingActions)
    (right : (actionTable action).authorize snap actor = true) :
    snap.activeAssignmentUnclaimed = true := by
  simp only [takingActions, List.mem_cons, List.not_mem_nil, or_false] at listed
  rcases listed with rfl | rfl
  · change executorCanClaim snap actor = true at right
    unfold executorCanClaim at right
    by_contra claimed
    simp [claimed] at right
  · change systemCanPromote snap actor = true at right
    simp only [systemCanPromote, Bool.and_eq_true] at right
    exact right.1

theorem only_unclaimed {directory : Directory} (coherent : Coherent (cardOf db row))
    (unclaimed : (buildSnapshot db directory row actor).activeAssignmentUnclaimed = true) :
    (activeOf db.assignments row.requestNumber).countP Holding.unclaimed = 1 := by
  have single : (activeOf db.assignments row.requestNumber).length ≤ 1 := coherent.single
  unfold buildSnapshot at unclaimed
  cases active : db.assignments.rows.find? (RequestAssignment.isActiveOf row.requestNumber) with
  | none => simp [active] at unclaimed
  | some assignment =>
    have member : holding assignment ∈ activeOf db.assignments row.requestNumber :=
      List.mem_map_of_mem (List.mem_filter.mpr ⟨List.mem_of_find?_eq_some active, List.find?_some active⟩)
    have open_ : (holding assignment).unclaimed = true := by
      change (decide (assignment.assignmentType = .group) && assignment.executorId.isNone) = true
      simpa [active] using unclaimed
    have some_ := List.countP_pos_iff.mpr ⟨_, member, open_⟩
    have bounded := List.countP_le_length (p := Holding.unclaimed)
      (l := activeOf db.assignments row.requestNumber)
    omega

theorem takeGroupAssignment_succeeds (operation : String) (executor : Option UserId)
    (only : (activeOf db.assignments number).countP Holding.unclaimed = 1) :
    ∃ assigned, takeGroupAssignment operation db number executor = .ok assigned :=
  ⟨_, takeGroupAssignment_eq_ok_iff.mpr ⟨only, rfl⟩⟩

theorem take_applies {reading : Reading} {result : TransitionResult}
    (reached : Reached call.requestNumber db) (read : ReadUnderLock db call reading)
    (listed : reading.command.action ∈ takingActions)
    (decided : decideTransition reading.snap reading.command reading.actor call.principal
      call.now = .ok result) :
    db.assignments.rowcount (isUnclaimedOf call.requestNumber) = 1 ∧
      ∀ changed : Request, changed.requestNumber = call.requestNumber →
        ∃ assigned, result.domainOps.foldlM
          (applyDomainOp deployment call.directory changed reading.actor) db = .ok assigned := by
  obtain ⟨card, placed, _, coherent⟩ := reached
  cases (cardAt_of_found read.found).symm.trans placed
  rcases decideTransition_eq_ok_iff.mp decided with ⟨silent, _⟩ | planned
  · rcases silent.1 with ⟨confirms, _⟩ | ⟨dispatches, _⟩
    · exact absurd (confirms ▸ listed) (by decide)
    · exact absurd (dispatches ▸ listed) (by decide)
  · obtain ⟨_, _, _, right, _, rfl⟩ := planTransition_eq_ok_iff.mp planned
    have unclaimed := unclaimed_of_authorized listed (authorize_of_authorizes right)
    rw [read.snapshot] at unclaimed
    have only := only_unclaimed coherent unclaimed
    rw [read.numbered] at only
    refine ⟨rowcount_isUnclaimedOf.trans only, ?_⟩
    intro changed numbered
    simp only [takingActions, List.mem_cons, List.not_mem_nil, or_false] at listed
    rcases listed with claims | promotes
    · obtain ⟨assigned, taken⟩ := takeGroupAssignment_succeeds "claim_group_assignment"
        reading.actor.userId only
      refine ⟨assigned, ?_⟩
      simp only [plannedTransition, claims, buildDomainOps, List.foldlM_cons, List.foldlM_nil,
        applyDomainOp, numbered, taken]
      rfl
    · obtain ⟨assigned, taken⟩ := takeGroupAssignment_succeeds "promote_group_assignment"
        (reading.command.payload.get "executor_id").asInteger only
      refine ⟨assigned, ?_⟩
      simp only [plannedTransition, promotes, buildDomainOps, List.foldlM_cons,
        List.foldlM_nil, applyDomainOp, numbered, taken]
      rfl

/-- In every order of the calls one take-over at most succeeds; after it the
executor changes by a manager's assignment only; and the guard of a take-over
that the planner allows is met. -/
theorem take_exclusive {row : Request} (fresh : FreshRequest db number row)
    (calls : List Call) :
    occurrences (WorkflowRunner.commit deployment) (takes deployment number) db calls ≤ 1 ∧
      (∀ before taking middle call,
        takes deployment number (runCalls deployment db before) taking = true →
        executorOf (runCalls deployment db (before ++ taking :: middle ++ [call])) number ≠
          executorOf (runCalls deployment db (before ++ taking :: middle)) number →
        call.requestNumber = number ∧
          succeededAction deployment (runCalls deployment db (before ++ taking :: middle))
            call = some .managerAssign) ∧
      ∀ call reading result, call.requestNumber = number →
        readUnderLock (runCalls deployment db calls) call = .ok reading →
        reading.command.action ∈ takingActions →
        decideTransition reading.snap reading.command reading.actor call.principal call.now = .ok result →
        (runCalls deployment db calls).assignments.rowcount (isUnclaimedOf number) = 1 ∧
          ∀ changed : Request, changed.requestNumber = number →
            ∃ assigned, result.domainOps.foldlM
              (applyDomainOp deployment call.directory changed reading.actor)
              (runCalls deployment db calls) = .ok assigned := by
  refine ⟨?_, ?_, ?_⟩
  · exact occurrences_le_one (WorkflowRunner.commit deployment) (Taken number) (Reached number)
      (reached_run deployment fresh [])
      (fun _ call held => held.commit deployment call)
      (fun _ _ _ taken => takes_closes deployment taken)
      (fun _ _ held taken => taken_stays deployment held taken)
      (fun _ _ held taken => taken_blocks deployment held taken) calls
  · intro before taking middle call taken changes
    have began := reached_run deployment fresh (before ++ [taking])
    have closed := takes_closes deployment taken
    rw [← runCalls_concat] at closed
    obtain ⟨reached, still⟩ := taken_run deployment began closed middle
    rw [← runCalls_append, List.append_assoc, List.singleton_append] at reached still
    rw [runCalls_concat] at changes
    exact taken_executor deployment reached still changes
  · intro call reading result concerned read listed decided
    subst concerned
    exact take_applies deployment (reached_run deployment fresh calls)
      (readUnderLock_eq_ok_iff.mp read) listed decided

theorem take_exclusive_after_offer :
    let db := Database.ofRequest (sampleRequest .resident)
    let calls := [userCall sampleDirectory 5 "250101-001" 1 .assignGroup [("group", .str "plumber")],
      userCall sampleDirectory 6 "250101-001" 2 .executorClaim [],
      userCall sampleDirectory 7 "250101-001" 2 .executorClaim []]
    occurrences (WorkflowRunner.commit sampleDeployment)
      (takes sampleDeployment "250101-001") db calls ≤ 1 :=
  (take_exclusive sampleDeployment (FreshRequest.created _ _ _ _) _).1

end InfrasafeBot.PoolClaim
