import InfrasafeBot.WorkflowRuns

/-! Where a manager can still bring a request to work: everywhere but behind a
purchase or a clarification that was started before anybody had the request. -/

set_option autoImplicit false

namespace InfrasafeBot.WorkReachability

open Library Machine RequestWorkflow WebhookSender WorkflowRunner RequestLifecycle
  WorkflowOperations WorkflowRefinement WorkflowRuns

/-- Nobody has the request and it is past every assignment. -/
structure Stranded (card : Card) : Prop where
  vacant : card.executor = none
  started : card.status ≠ .new
  idle : card.status ≠ .inProgress

/-- Somebody has the request, unless it is new or finished. -/
structure Housed (card : Card) : Prop where
  unheld : card.status = .new → card.executor = none
  held : card.executor = none → card.status ∈ [RequestStatus.new, .approved, .cancelled]

def parkingActions : List Action := [.managerPurchase, .clarifyRequest]

variable {action : Action} {card next : Card} {state : Database} {row : Request} {call : Call}
  {before : Bool}

theorem Step.stranded (step : Step action card next) (canonical : Canonical card)
    (stranded : Stranded card) : Stranded next := by
  obtain ⟨vacant, started, idle⟩ := stranded
  have decoded := canonical.canon_eq
  have unassignable : card.canon ∉ [RequestStatus.new, .inProgress] := by
    simp [decoded, started, idle]
  have unheld : card.executor.isSome ≠ true := by simp [vacant]
  cases step with
  | assign executor starts =>
    rcases starts with ⟨_, at_⟩ | ⟨_, at_⟩
    · exact absurd (List.mem_cons.mpr (.inl (List.mem_singleton.mp at_))) unassignable
    · exact absurd at_ unassignable
  | offer group starts =>
    exact absurd (List.mem_cons.mpr (.inl (List.mem_singleton.mp starts))) unassignable
  | take executor takes starts only => exact absurd starts unassignable
  | park starts =>
    rcases starts with ⟨_, _, rfl⟩ | ⟨_, _, rfl⟩ | ⟨_, _, rfl⟩ <;>
      exact ⟨vacant, by simp [Card.moveTo], by simp [Card.moveTo]⟩
  | resume starts held | sendBack starts held => exact absurd held unheld
  | complete | confirm | confirmFinally => exact ⟨vacant, by simp [Card.moveTo], by simp [Card.moveTo]⟩
  | accept | dispute | forceAccept | cancel => exact ⟨vacant, by simp [Card.moveTo], by simp [Card.moveTo]⟩

theorem Step.strands (step : Step action card next) (housed : Housed card)
    (new : card.status = .new) (parks : action ∈ parkingActions) :
    Stranded next := by
  have vacant := housed.unheld new
  simp only [parkingActions, List.mem_cons, List.not_mem_nil, or_false] at parks
  rcases parks with rfl | rfl
  · cases step with
    | park starts =>
      rcases starts with ⟨named, _⟩ | ⟨_, _, rfl⟩ | ⟨named, _⟩
      · cases named
      · exact ⟨vacant, by simp [Card.moveTo], by simp [Card.moveTo]⟩
      · cases named
    | _ => simp_all
  · cases step with
    | park starts =>
      rcases starts with ⟨named, _⟩ | ⟨named, _⟩ | ⟨_, _, rfl⟩
      · cases named
      · cases named
      · exact ⟨vacant, by simp [Card.moveTo], by simp [Card.moveTo]⟩
    | _ => simp_all

theorem Housed.moved (housed : Housed card) (executor : next.executor = card.executor)
    (left : next.status ≠ .new)
    (ongoing : card.status ∉ [RequestStatus.new, .approved, .cancelled]) : Housed next where
  unheld := fun new => absurd new left
  held := fun vacant => absurd (housed.held (executor.symm.trans vacant)) ongoing

theorem Housed.finished (final : next.status ∈ terminalStatuses) : Housed next := by
  simp only [terminalStatuses, List.mem_cons, List.not_mem_nil, or_false] at final
  constructor
  · intro new
    rcases final with at_ | at_ <;> simp [at_] at new
  · intro _
    rcases final with at_ | at_ <;> simp [at_]

theorem Step.housed (step : Step action card next) (canonical : Canonical card)
    (housed : Housed card) (unparked : ¬ (card.status = .new ∧ action ∈ parkingActions)) :
    Housed next := by
  have decoded := canonical.canon_eq
  cases step with
  | assign executor starts => exact ⟨by simp [Card.moveTo, Card.heldBy], by simp [Card.heldBy]⟩
  | offer group starts => exact ⟨by simp [Card.offeredTo], by simp [Card.moveTo, Card.offeredTo]⟩
  | take executor takes starts only => exact ⟨by simp [Card.moveTo, Card.takenBy], by simp [Card.takenBy]⟩
  | park starts =>
    refine housed.moved rfl ?_ ?_
    · rcases starts with ⟨_, _, rfl⟩ | ⟨_, _, rfl⟩ | ⟨_, _, rfl⟩ <;> simp [Card.moveTo]
    · rw [decoded] at starts
      rcases starts with ⟨_, at_, _⟩ | ⟨rfl, at_, _⟩ | ⟨rfl, at_, _⟩
      · simp [List.mem_singleton.mp at_]
      · have running : card.status ≠ .new := fun new => unparked ⟨new, by decide⟩
        simp only [List.mem_cons, List.not_mem_nil, or_false] at at_
        rcases at_ with new | working
        · exact absurd new running
        · simp [working]
      · have running : card.status ≠ .new := fun new => unparked ⟨new, by decide⟩
        simp only [List.mem_cons, List.not_mem_nil, or_false] at at_
        rcases at_ with new | working | buying
        · exact absurd new running
        · simp [working]
        · simp [buying]
  | resume starts held | sendBack starts held =>
    refine ⟨by simp [Card.moveTo], fun vacant => ?_⟩
    rw [show card.executor = none from vacant] at held
    cases held
  | complete starts =>
    refine housed.moved rfl (by simp [Card.moveTo]) ?_
    rw [decoded] at starts
    simp only [List.mem_cons, List.not_mem_nil, or_false] at starts
    rcases starts with ⟨_, at_⟩ | ⟨_, at_ | at_ | at_⟩ <;> simp [at_]
  | confirm starts mode | dispute starts mode =>
    refine housed.moved rfl (by simp [Card.moveTo]) ?_
    rw [decoded] at starts
    simp [List.mem_singleton.mp starts]
  | confirmFinally | accept | forceAccept => exact .finished (by simp [Card.moveTo, terminalStatuses])
  | cancel => exact .finished (by simp [Card.moveTo, terminalStatuses])

/-- A user with the manager's role. -/
def IsManagerOf (directory : Directory) (manager : UserId) : Prop :=
  ∃ user, directory.users.find? manager = some user ∧ roleManager ∈ getUserRoles user

/-- The manager's actions that bring a request to work. -/
def returningActions : List Action :=
  [.managerAssign, .managerPurchaseDone, .clarifyResolved, .managerReturnToWork]

theorem returning_spec (listed : action ∈ returningActions) :
    (actionTable action).toStatus = .inProgress ∧ (actionTable action).systemOnly = false ∧
      action ≠ .managerConfirm ∧
      ∀ snap actor, (actionTable action).authorize snap actor = isManager actor := by
  simp only [returningActions, List.mem_cons, List.not_mem_nil, or_false] at listed
  rcases listed with rfl | rfl | rfl | rfl <;> exact ⟨rfl, rfl, by decide, fun _ _ => rfl⟩

section

variable {deployment : Deployment} {directory : Directory} {db : Database}
  {number : RequestNumber} {row : Request} {manager : UserId} {action : Action}
  {payload : Payload} {now : Moment}

/-- What has to hold, beside the manager's right, for one of these actions to be
carried out. -/
structure Practicable (deployment : Deployment) (directory : Directory) (db : Database)
    (row : Request) (action : Action) (payload : Payload) (now : Moment) : Prop where
  valid : (payloadSchemas action).validate action payload = .ok ()
  starts : normalizeStatus (newStateFrom row) ∈ (actionTable action).fromStatuses
  enforced : ∀ actor, (∃ entry ∈ buildPatch action .inProgress actor payload,
      entry.column = .executorId ∧ (entry.op = .set ∨ entry.op = .setActor)) ∨
    row.executorId.isSome = true
  operated : ∀ snap actor changed, actor.kind = .user → ∃ assigned,
    (buildDomainOps action snap payload).foldlM
      (applyDomainOp deployment directory changed actor) db = .ok assigned
  known : ∀ actor, ExecutorKnown directory row
    (WorkflowPatches.changedRow actor now row (buildPatch action .inProgress actor payload))

theorem loadActorContext_manager (number : RequestNumber) (now : Moment) (action : Action)
    (payload : Payload) (manages : IsManagerOf directory manager) :
    ∃ actor, loadActorContext directory
        (userCall directory now number manager action payload).principal = .ok actor ∧
      actor.kind = .user ∧ isManager actor = true := by
  obtain ⟨user, found, role⟩ := manages
  have loaded : loadActorContext directory
      (userCall directory now number manager action payload).principal =
        .ok { kind := .user
              userId := some user.id
              systemActor := none
              roles := getUserRoles user
              activeRole := some (getActiveRole user)
              approvedApartmentIds := approvedApartmentIds directory user.id
              specializations :=
                Specializations.parseSpecializations user.specialization } := by
    simp [loadActorContext, userCall, found]
  exact ⟨_, loaded, rfl, by simpa [isManager] using role⟩

theorem move_of_practicable (found : db.requests.find? number = some row)
    (manages : IsManagerOf directory manager) (listed : action ∈ returningActions)
    (practicable : Practicable deployment directory db row action payload now) :
    ∃ reading changed, Move deployment db
        (userCall directory now number manager action payload) reading changed
        (commit deployment db (userCall directory now number manager action payload)) ∧
      changed.status = .inProgress := by
  obtain ⟨target, unrestricted, other, guard⟩ := returning_spec listed
  obtain ⟨actor, loaded, human, right⟩ := loadActorContext_manager number now action payload manages
  have numbered : row.requestNumber = number := Table.key_of_find? found
  let snap := buildSnapshot db directory row actor
  let command : ActionCommand := ⟨"command", action, payload⟩
  let call := userCall directory now number manager action payload
  have read : ReadUnderLock db call ⟨row, actor, snap, command⟩ := ⟨found, numbered, loaded, rfl, rfl⟩
  have effective : effectiveToStatus action (actionTable action).toStatus snap = .inProgress := by
    rw [effectiveToStatus, if_neg fun both => other both.1, target]
  have ungrouped : requireCanonicalGroup action payload = .ok () := by
    simp only [returningActions, List.mem_cons, List.not_mem_nil, or_false] at listed
    rcases listed with rfl | rfl | rfl | rfl <;> rfl
  have planned : planTransition snap command actor call.principal call.now =
      .ok (plannedTransition snap command actor call.principal) := by
    refine planTransition_eq_ok_iff.mpr
      ⟨practicable.valid, ungrouped, practicable.starts, ?_, ?_, rfl⟩
    · simp [authorizes, human, command, unrestricted, guard, right]
    · refine enforceInProgressHasExecutor_eq_ok_iff.mpr fun _ => ?_
      simp only [plannedTransition, command, effective]
      exact practicable.enforced actor
  obtain ⟨assigned, operated⟩ := practicable.operated snap actor
    (WorkflowPatches.changedRow actor now row (buildPatch action .inProgress actor payload)) human
  have applied : ∃ committed, applyTransition deployment directory db row
      (plannedTransition snap command actor call.principal) actor now =
        .ok (WorkflowPatches.changedRow actor now row
          (buildPatch action .inProgress actor payload), committed) := by
    refine ⟨_, (applyTransition_eq_ok_iff rfl rfl).mpr ⟨?_, ?_, assigned, ?_, rfl⟩⟩
    · simp only [plannedTransition, command, effective]
    · exact practicable.known actor
    · exact operated
  obtain ⟨committed, applied⟩ := applied
  have decided := decideTransition_eq_ok_iff.mpr (.inr planned)
  have ran := runCommand_eq_ok_iff.mpr ⟨_, _, _, read, decided, applied, rfl⟩
  have committed_eq : commit deployment db call = committed := by
    unfold commit
    rw [ran]
  refine ⟨_, _, committed_eq ▸ Move.of_applied read planned applied, ?_⟩
  exact WorkflowPatches.status_changedRow (by decide)

theorem practicable_assign {executor : UserId}
    (starts : normalizeStatus (newStateFrom row) ∈ [RequestStatus.new, .inProgress])
    (staffed : (directory.users.find? executor).isSome = true) :
    Practicable deployment directory db row .managerAssign [("executor_id", .int executor)]
      now where
  valid := rfl
  starts := starts
  enforced actor := by
    refine .inl ⟨⟨.executorId, .set, .int executor⟩, ?_, rfl, .inl rfl⟩
    simp [buildPatch, Payload.get, PyValue.isNone]
  operated snap actor changed human := by
    have creator : assignmentCreator deployment directory actor = .ok (actor.userId.getD 0) := by
      simp [assignmentCreator, human]
    simp only [buildDomainOps, Payload.get, List.lookup_cons, PyValue.isNone, beq_self_eq_true,
      Option.getD_some, Bool.not_false, Bool.true_or, if_true, List.foldlM_cons,
      List.foldlM_nil, applyDomainOp, creator]
    exact ⟨_, rfl⟩
  known actor other named := by
    have card : WorkflowPatches.rowCard (WorkflowPatches.changedRow actor now row
        (buildPatch .managerAssign .inProgress actor [("executor_id", .int executor)])) [] 0 =
        _ := WorkflowPatches.changed_assign (.inr rfl) rfl rfl rfl
    have assigned := congrArg Card.executor card
    right
    cases named.symm.trans assigned
    exact staffed

theorem executorKnown_of_kept {patch : List PatchEntry} {target : Card} {actor : ActorContext}
    (card : WorkflowPatches.rowCard (WorkflowPatches.changedRow actor now row patch) [] 0 = target)
    (kept : target.executor = row.executorId) :
    ExecutorKnown directory row (WorkflowPatches.changedRow actor now row patch) := by
  intro executor named
  left
  have same : (WorkflowPatches.changedRow actor now row patch).executorId = row.executorId :=
    (congrArg Card.executor card).trans kept
  exact same.symm.trans named

theorem practicable_resume {status : RequestStatus}
    (resumes : action = .managerPurchaseDone ∧ status = .purchase ∨
      action = .clarifyResolved ∧ status = .clarification)
    (starts : normalizeStatus (newStateFrom row) = status)
    (held : row.executorId.isSome = true) :
    Practicable deployment directory db row action [] now := by
  constructor
  · rcases resumes with ⟨rfl, _⟩ | ⟨rfl, _⟩ <;> rfl
  · rcases resumes with ⟨rfl, rfl⟩ | ⟨rfl, rfl⟩ <;> simp [actionTable, starts]
  · exact fun _ => .inr held
  · intro snap actor changed _
    rcases resumes with ⟨rfl, _⟩ | ⟨rfl, _⟩ <;> exact ⟨db, rfl⟩
  · intro actor
    refine executorKnown_of_kept (WorkflowPatches.changed_plain ?_ (by decide)) rfl
    rcases resumes with ⟨rfl, _⟩ | ⟨rfl, _⟩ <;> decide

theorem practicable_sendBack
    (starts : normalizeStatus (newStateFrom row) ∈ [RequestStatus.executed, .returned, .completed])
    (held : row.executorId.isSome = true) :
    Practicable deployment directory db row .managerReturnToWork
      [("reason", .str "не доделано")] now where
  valid := rfl
  starts := starts
  enforced _ := .inr held
  operated _ _ _ _ := ⟨db, rfl⟩
  known _ := executorKnown_of_kept WorkflowPatches.changed_returnToWork rfl

theorem practicable_of_housed (deployment : Deployment) (now : Moment) {executor : UserId}
    (staffed : (directory.users.find? executor).isSome = true)
    (canonical : Canonical (cardOf db row)) (housed : Housed (cardOf db row))
    (running : row.status ∉ terminalStatuses) :
    ∃ action ∈ returningActions, ∃ payload,
      Practicable deployment directory db row action payload now := by
  have decoded : normalizeStatus (newStateFrom row) = row.status := by
    rw [canon_cardOf, canonical.canon_eq]
    rfl
  have held : row.status ∉ [RequestStatus.new, .approved, .cancelled] →
      row.executorId.isSome = true := by
    intro ongoing
    rw [Option.isSome_iff_ne_none]
    exact fun vacant => ongoing (housed.held vacant)
  have known : row.status ∈ canonStatuses := canonical.known
  simp only [canonStatuses, List.mem_cons, List.not_mem_nil, or_false] at known
  rcases known with at_ | at_ | at_ | at_ | at_ | at_ | at_ | at_ | at_
  · exact ⟨.managerAssign, by decide, _, practicable_assign (by simp [decoded, at_]) staffed⟩
  · exact ⟨.managerAssign, by decide, _, practicable_assign (by simp [decoded, at_]) staffed⟩
  · exact ⟨.managerPurchaseDone, by decide, _,
      practicable_resume (.inl ⟨rfl, rfl⟩) (decoded.trans at_) (held (by simp [at_]))⟩
  · exact ⟨.clarifyResolved, by decide, _,
      practicable_resume (.inr ⟨rfl, rfl⟩) (decoded.trans at_) (held (by simp [at_]))⟩
  · exact ⟨.managerReturnToWork, by decide, _,
      practicable_sendBack (by simp [decoded, at_]) (held (by simp [at_]))⟩
  · exact ⟨.managerReturnToWork, by decide, _,
      practicable_sendBack (by simp [decoded, at_]) (held (by simp [at_]))⟩
  · exact ⟨.managerReturnToWork, by decide, _,
      practicable_sendBack (by simp [decoded, at_]) (held (by simp [at_]))⟩
  · exact absurd (by simp [at_, terminalStatuses]) running
  · exact absurd (by simp [at_, terminalStatuses]) running

end

variable (deployment : Deployment) {directory : Directory} {db : Database}
  {number : RequestNumber} {manager : UserId}

/-- The request is at work and somebody has it. -/
def AtWork (number : RequestNumber) (state : Database) : Prop :=
  ∃ row, state.requests.find? number = some row ∧ row.status = .inProgress ∧ row.executorId ≠ none

/-- Some sequence of the manager's calls brings the request to work. -/
def CanReturnToWork (deployment : Deployment) (directory : Directory) (manager : UserId)
    (number : RequestNumber) (state : Database) : Prop :=
  ∃ commands : List Call,
    (∀ command ∈ commands, command.directory = directory ∧
      command.principal.kind = .user ∧ command.principal.userId = some manager) ∧
    AtWork number (runCalls deployment state commands)

def parksNew (deployment : Deployment) (number : RequestNumber) (db : Database) (call : Call) : Bool :=
  call.requestNumber = number &&
    (db.requests.find? number).any (fun row => row.status = .new) &&
    parkingActions.any fun action => succeededAction deployment db call = some action

theorem stranded_run (placed : cardAt state number = some card) (canonical : Canonical card)
    (stranded : Stranded card) (calls : List Call) :
    ¬ AtWork number (runCalls deployment state calls) := by
  obtain ⟨next, at_, _, still⟩ :=
    card_invariant deployment (fun card => Canonical card ∧ Stranded card)
      (fun step held => ⟨step.canonical held.1.decodable, Step.stranded step held.1 held.2⟩)
      placed ⟨canonical, stranded⟩ calls
  rintro ⟨row, found, working, _⟩
  cases (cardAt_of_found found).symm.trans at_
  exact still.idle working

theorem housed_returns {executor : UserId} (found : db.requests.find? number = some row)
    (manages : IsManagerOf directory manager)
    (staffed : (directory.users.find? executor).isSome = true)
    (canonical : Canonical (cardOf db row)) (coherent : Coherent (cardOf db row))
    (housed : Housed (cardOf db row)) (running : row.status ∉ terminalStatuses) :
    CanReturnToWork deployment directory manager number db := by
  obtain ⟨action, listed, payload, practicable⟩ :=
    practicable_of_housed deployment 0 staffed canonical housed running
  obtain ⟨reading, changed, move, working⟩ := move_of_practicable found manages listed practicable
  have before := Option.some.inj (move.card_before.symm.trans (cardAt_of_found found))
  refine ⟨[userCall directory 0 number manager action payload], ?_, changed, move.stored, working, ?_⟩
  · intro command member
    rw [List.mem_singleton.mp member]
    exact ⟨rfl, rfl, rfl⟩
  · exact (move.step.coherent (before ▸ canonical) (before ▸ coherent)).working working

/-- How a request stands after a history: stranded if it was parked while new. -/
structure Standing (parked : Bool) (card : Card) : Prop where
  canonical : Canonical card
  coherent : Coherent card
  stranded : parked = true → Stranded card
  housed : parked = false → Housed card

theorem move_of_parksNew (parks : parksNew deployment number state call = true) :
    call.requestNumber = number ∧ ∃ reading changed,
      reading.command.action ∈ parkingActions ∧ reading.row.status = .new ∧
      Move deployment state call reading changed (commit deployment state call) := by
  simp only [parksNew, Bool.and_eq_true, decide_eq_true_eq, List.any_eq_true] at parks
  obtain ⟨⟨rfl, new⟩, action, listed, succeeded⟩ := parks
  obtain ⟨reading, changed, performed, move⟩ := move_of_succeeded deployment succeeded
    (by simp only [parkingActions, List.mem_cons, List.not_mem_nil, or_false] at listed
        rcases listed with rfl | rfl <;> decide)
  rw [move.read.found, Option.any_some, decide_eq_true_eq] at new
  exact ⟨rfl, reading, changed, performed ▸ listed, new, move⟩

theorem Standing.parked (placed : cardAt state number = some card)
    (standing : Standing before card) (parks : parksNew deployment number state call = true) :
    ∃ next, cardAt (commit deployment state call) number = some next ∧ Standing true next := by
  obtain ⟨rfl, reading, changed, listed, new, move⟩ := move_of_parksNew deployment parks
  cases move.card_before.symm.trans placed
  have housed : Housed (cardOf state reading.row) := by
    cases before with
    | true => exact absurd new (standing.stranded rfl).started
    | false => exact standing.housed rfl
  exact ⟨_, move.card_after, move.step.canonical standing.canonical.decodable,
    move.step.coherent standing.canonical standing.coherent,
    fun _ => Step.strands move.step housed new listed, fun other => by cases other⟩

theorem Standing.unparked (placed : cardAt state number = some card)
    (standing : Standing before card) (leaves : parksNew deployment number state call = false) :
    ∃ next, cardAt (commit deployment state call) number = some next ∧
      Standing before next := by
  rcases commit_cases deployment state call number with
    kept | ⟨rfl, reading, changed, move, succeeded⟩
  · exact ⟨card, (cardAt_eq_of_about kept).trans placed, standing⟩
  · cases move.card_before.symm.trans placed
    have unparked : ¬ (reading.row.status = .new ∧ reading.command.action ∈ parkingActions) := by
      rintro ⟨new, listed⟩
      have parks : parksNew deployment call.requestNumber state call = true := by
        simp only [parksNew, Bool.and_eq_true, decide_eq_true_eq, List.any_eq_true]
        refine ⟨⟨trivial, ?_⟩, _, listed, succeeded⟩
        rw [move.read.found, Option.any_some, decide_eq_true_eq]
        exact new
      rw [leaves] at parks
      cases parks
    exact ⟨_, move.card_after, move.step.canonical standing.canonical.decodable,
      move.step.coherent standing.canonical standing.coherent,
      fun parked => Step.stranded move.step standing.canonical (standing.stranded parked),
      fun open_ => Step.housed move.step standing.canonical (standing.housed open_) unparked⟩

theorem standing_run (fresh : FreshRequest db number row) (calls : List Call) :
    ∃ card, cardAt (runCalls deployment db calls) number = some card ∧
      Standing ((trace (commit deployment) db calls).any fun taken =>
        parksNew deployment number taken.1 taken.2) card := by
  refine history_induction (commit deployment)
    (fun past state => ∃ card, cardAt state number = some card ∧
      Standing (past.any fun taken => parksNew deployment number taken.1 taken.2) card)
    ?_ ?_ calls
  · refine ⟨_, cardAt_of_found fresh.stored, fresh.canonical, fresh.coherent, by simp, ?_⟩
    intro _
    exact ⟨fun _ => fresh.executor, fun _ => List.mem_cons.mpr (.inl fresh.status)⟩
  · intro past state call ⟨card, placed, standing⟩
    rw [List.any_append, List.any_cons, List.any_nil, Bool.or_false]
    cases parks : parksNew deployment number state call with
    | true =>
      rw [Bool.or_true]
      exact Standing.parked deployment placed standing parks
    | false =>
      rw [Bool.or_false]
      exact Standing.unparked deployment placed standing parks

/-- A request that is not finished can be brought to work by a manager exactly when
nobody parked it while it was new. -/
theorem work_reachable_iff {executor : UserId} {row : Request}
    (fresh : FreshRequest db number row) (manages : IsManagerOf directory manager)
    (staffed : (directory.users.find? executor).isSome = true) (calls : List Call) :
    ∃ reached, (runCalls deployment db calls).requests.find? number = some reached ∧
      (isTerminal (normalizeStatus (newStateFrom reached)) = false →
        (CanReturnToWork deployment directory manager number (runCalls deployment db calls) ↔
          ∀ taken ∈ trace (commit deployment) db calls,
            parksNew deployment number taken.1 taken.2 = false)) := by
  obtain ⟨card, placed, standing⟩ := standing_run deployment fresh calls
  obtain ⟨reached, found, rfl⟩ := Option.map_eq_some_iff.mp placed
  refine ⟨reached, found, fun running => ?_⟩
  rw [canon_cardOf, standing.canonical.canon_eq] at running
  have unfinished : (cardOf (runCalls deployment db calls) reached).status ∉
      terminalStatuses := by
    simpa [isTerminal] using running
  cases parked : (trace (commit deployment) db calls).any fun taken =>
      parksNew deployment number taken.1 taken.2 with
  | true =>
    have stuck : ¬ CanReturnToWork deployment directory manager number
        (runCalls deployment db calls) := by
      rintro ⟨commands, _, working⟩
      exact stranded_run deployment placed standing.canonical (standing.stranded parked)
        commands working
    obtain ⟨taken, member, parks⟩ := List.any_eq_true.mp parked
    constructor
    · intro returns
      exact absurd returns stuck
    · intro leaves
      rw [leaves taken member] at parks
      cases parks
  | false =>
    constructor
    · intro _ taken member
      simpa using List.any_eq_false.mp parked taken member
    · intro _
      exact housed_returns deployment found manages staffed standing.canonical
        standing.coherent (standing.housed parked) unfinished

/-- A manager sends a new request to purchase, and no manager can assign it any more. -/
theorem purchase_strands_new :
    let db := Database.ofRequest (sampleRequest .resident)
    let calls := [userCall sampleDirectory 5 "250101-001" 1 .managerPurchase []]
    ∃ reached, (runCalls sampleDeployment db calls).requests.find? "250101-001" = some reached ∧
      isTerminal (normalizeStatus (newStateFrom reached)) = false ∧
      ∀ directory manager, ¬ CanReturnToWork sampleDeployment directory manager "250101-001"
        (runCalls sampleDeployment db calls) := by
  intro db calls
  refine ⟨_, rfl, by decide, ?_⟩
  rintro directory manager ⟨commands, _, working⟩
  refine stranded_run sampleDeployment (cardAt_of_found rfl) ?_ ⟨rfl, ?_, ?_⟩ commands working
  · exact .of_unmarked (by decide) ⟨rfl, rfl⟩
  · decide
  · decide

theorem work_reachable_after_assign :
    let db := Database.ofRequest (sampleRequest .resident)
    let calls := [userCall sampleDirectory 5 "250101-001" 1 .managerAssign [("executor_id", .int 2)],
      userCall sampleDirectory 6 "250101-001" 1 .managerPurchase []]
    ∃ reached, (runCalls sampleDeployment db calls).requests.find? "250101-001" = some reached ∧
      (isTerminal (normalizeStatus (newStateFrom reached)) = false →
        (CanReturnToWork sampleDeployment sampleDirectory 1 "250101-001"
            (runCalls sampleDeployment db calls) ↔
          ∀ taken ∈ trace (commit sampleDeployment) db calls,
            parksNew sampleDeployment "250101-001" taken.1 taken.2 = false)) :=
  work_reachable_iff sampleDeployment (.created _ _ _ _)
    ⟨⟨1, 10, some "manager", none, none, none, none⟩, rfl, by decide⟩
    (show (sampleDirectory.users.find? 2).isSome = true by decide) _

end InfrasafeBot.WorkReachability
