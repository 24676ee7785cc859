import InfrasafeBot.WorkflowOperations

/-! Every command that is applied is a move of the request's life, and touches no
other request. -/

set_option autoImplicit false

namespace InfrasafeBot.WorkflowRefinement

open Library RequestWorkflow WebhookSender WorkflowRunner RequestLifecycle WorkflowPatches
  WorkflowOperations

variable {deployment : Deployment} {db : Database} {row changed : Request}

section

variable {directory : Directory} {actor : ActorContext} {principal : PrincipalRef} {now : Moment}

def cardOf (db : Database) (row : Request) : Card :=
  rowCard row (activeOf db.assignments row.requestNumber)
    (ratingsOf db row.requestNumber).length

theorem canon_cardOf : normalizeStatus (newStateFrom row) = (cardOf db row).canon := rfl

theorem loadActorContext_user
    (loaded : loadActorContext directory principal = .ok actor)
    (human : actor.kind = .user) :
    ∃ user, directory.users.find? user.id = some user ∧ principal.userId = some user.id ∧
      actor.userId = some user.id ∧ actor.roles = getUserRoles user := by
  unfold loadActorContext at loaded
  cases kind : principal.kind with
  | system =>
    rw [kind] at loaded
    cases loaded
    cases human
  | user =>
    rw [kind] at loaded
    cases found : principal.userId.bind directory.users.find? with
    | none => simp [found] at loaded
    | some user =>
      obtain ⟨id, named, listed⟩ := Option.bind_eq_some_iff.mp found
      simp only [found] at loaded
      cases loaded
      have identified := Table.key_of_find? listed
      exact ⟨user, identified ▸ listed, identified ▸ named, rfl, rfl⟩

theorem executorKnown_of_validate {action : Action} {payload : Payload}
    (assigns : payloadSchemas action = ⟨[("executor_id", .int)], [], []⟩)
    (valid : (payloadSchemas action).validate action payload = .ok ()) :
    (∃ executor, (payload.get "executor_id").asInteger = some executor) ∧
      (payload.get "executor_id").isNone = false ∧ payload.get "group" = .none := by
  obtain ⟨executor, known, given⟩ := executor_of_validate (by rw [assigns]) valid
  refine ⟨⟨executor, known⟩, given, PayloadSchema.known_of_validate valid ?_⟩
  rw [assigns]
  decide

theorem group_of_validate {payload : Payload}
    (valid : (payloadSchemas .assignGroup).validate .assignGroup payload = .ok ())
    (canonical : requireCanonicalGroup .assignGroup payload = .ok ()) :
    ∃ group, payload.get "group" = .str group ∧ group ≠ "" ∧
      payload.get "executor_id" = .none := by
  have typed := (PayloadSchema.required_of_validate valid ("group", .str) (by simp [payloadSchemas])).2
  obtain ⟨group, given⟩ := PyValue.eq_str_of_str typed
  refine ⟨group, given, ?_, PayloadSchema.known_of_validate valid (by decide)⟩
  rintro rfl
  simp only [requireCanonicalGroup, given, if_true] at canonical
  split at canonical
  · next listed => exact absurd listed (by decide)
  · cases canonical

theorem held_of_enforced {action : Action} {snap : WorkflowSnapshot} {patch : List PatchEntry}
    (enforced : enforceInProgressHasExecutor action .inProgress snap patch = .ok ())
    (unset : ∀ entry ∈ patch, entry.column ≠ .executorId) :
    snap.request.executorId.isSome = true := by
  rcases enforceInProgressHasExecutor_eq_ok_iff.mp enforced rfl with ⟨entry, member, sets, _⟩ | held
  · exact absurd sets (unset entry member)
  · exact held

section

variable {action : Action} {payload : Payload} {assigned : Database}

def movedCard (assigned : Database) (changed : Request) (number : RequestNumber) : Card :=
  rowCard changed (activeOf assigned.assignments number) (ratingsOf assigned number).length

theorem createAssignment_of_operated {data : Payload}
    (operated : [DomainOp.createAssignment data].foldlM
      (applyDomainOp deployment directory changed actor) db = .ok assigned)
    (number : changed.requestNumber = row.requestNumber) :
    assigned.ratings = db.ratings ∧
      activeOf assigned.assignments row.requestNumber = [createdHolding data] := by
  rw [List.foldlM_cons] at operated
  obtain ⟨next, created, finished⟩ := bind_eq_ok_iff.mp operated
  cases finished
  obtain ⟨_, ratings, active⟩ := createAssignment_ok created
  exact ⟨ratings, number ▸ active⟩

theorem step_assign
    (assigns : action = .systemDispatchAssign ∧ (cardOf db row).canon ∈ [RequestStatus.new] ∨
      action = .managerAssign ∧ (cardOf db row).canon ∈ [RequestStatus.new, .inProgress])
    (valid : (payloadSchemas action).validate action payload = .ok ())
    (operated : (buildDomainOps action (buildSnapshot db directory row actor) payload).foldlM
      (applyDomainOp deployment directory
        (changedRow actor now row (buildPatch action .inProgress actor payload)) actor) db =
      .ok assigned) :
    Step action (cardOf db row)
      (movedCard assigned (changedRow actor now row (buildPatch action .inProgress actor payload))
        row.requestNumber) := by
  have either : action = .systemDispatchAssign ∨ action = .managerAssign := by tauto
  have schema : payloadSchemas action = ⟨[("executor_id", .int)], [], []⟩ := by
    rcases either with rfl | rfl <;> rfl
  obtain ⟨⟨executor, known⟩, given, ungrouped⟩ := executorKnown_of_validate schema valid
  have operations : buildDomainOps action (buildSnapshot db directory row actor) payload =
      [.createAssignment payload] := by
    rcases either with rfl | rfl <;> simp [buildDomainOps, given]
  rw [operations] at operated
  obtain ⟨ratings, active⟩ := createAssignment_of_operated operated (changedRow_fixed _).1
  have created : createdHolding payload = ⟨.individual, some executor, none⟩ := by
    simp [createdHolding, ungrouped, known, PyValue.truthy, PyValue.asText]
  have moved : movedCard assigned
      (changedRow actor now row (buildPatch action .inProgress actor payload))
        row.requestNumber = ((cardOf db row).moveTo .inProgress).heldBy executor := by
    unfold movedCard
    rw [changed_assign either known given ungrouped, active, created, ratingsOf, ratings]
    rfl
  rw [moved]
  exact .assign executor assigns

theorem step_offer (started : (cardOf db row).canon ∈ [RequestStatus.new])
    (valid : (payloadSchemas .assignGroup).validate .assignGroup payload = .ok ())
    (canonical : requireCanonicalGroup .assignGroup payload = .ok ())
    (operated : (buildDomainOps .assignGroup (buildSnapshot db directory row actor) payload).foldlM
      (applyDomainOp deployment directory
        (changedRow actor now row (buildPatch .assignGroup .new actor payload)) actor) db =
      .ok assigned) :
    Step .assignGroup (cardOf db row)
      (movedCard assigned (changedRow actor now row (buildPatch .assignGroup .new actor payload))
        row.requestNumber) := by
  obtain ⟨group, given, filled, unassigned⟩ := group_of_validate valid canonical
  have operations : buildDomainOps .assignGroup (buildSnapshot db directory row actor) payload =
      [.createAssignment payload] := by
    simp [buildDomainOps, given]
  rw [operations] at operated
  obtain ⟨ratings, active⟩ := createAssignment_of_operated operated (changedRow_fixed _).1
  have created : createdHolding payload = ⟨.group, none, some group⟩ := by
    simp [createdHolding, given, unassigned, filled, PyValue.truthy, PyValue.asText, PyValue.asInteger]
  have moved : movedCard assigned
      (changedRow actor now row (buildPatch .assignGroup .new actor payload))
        row.requestNumber = ((cardOf db row).moveTo .new).offeredTo group := by
    unfold movedCard
    rw [changed_assignGroup given unassigned, active, created, ratingsOf, ratings]
    rfl
  rw [moved]
  exact .offer group started

theorem step_take {executor : UserId} {patched : List PatchEntry} {operation : String}
    (takes : action = .executorClaim ∨ action = .systemAutoPromote)
    (started : (cardOf db row).canon ∈ [RequestStatus.new, .inProgress])
    (changes : ∀ active ratings, rowCard (changedRow actor now row patched) active ratings =
      { (rowCard row active ratings).moveTo .inProgress with
        executor := some executor, assignmentType := some .individual, group := none })
    (operated : takeGroupAssignment operation db row.requestNumber (some executor) = .ok assigned) :
    Step action (cardOf db row)
      (movedCard assigned (changedRow actor now row patched) row.requestNumber) := by
  obtain ⟨only, rfl⟩ := takeGroupAssignment_eq_ok_iff.mp operated
  have moved : movedCard { db with
        assignments := takeUnclaimed row.requestNumber (some executor) db.assignments }
      (changedRow actor now row patched) row.requestNumber =
      ((cardOf db row).moveTo .inProgress).takenBy executor := by
    unfold movedCard
    rw [changes, activeOf_take]
    rfl
  rw [moved]
  exact .take executor takes started only

theorem step_plain (target : RequestStatus) (plain : action ∈ plainActions)
    (known : target ∈ canonStatuses)
    (step : Step action (cardOf db row) ((cardOf db row).moveTo target)) :
    Step action (cardOf db row)
      (movedCard db (changedRow actor now row (buildPatch action target actor payload))
        row.requestNumber) := by
  rw [movedCard, changed_plain plain known]
  exact step

theorem step_complete
    (starts : action = .executorComplete ∧ (cardOf db row).canon ∈ [RequestStatus.inProgress] ∨
      action = .managerComplete ∧
        (cardOf db row).canon ∈ [RequestStatus.inProgress, .purchase, .clarification]) :
    Step action (cardOf db row)
      (movedCard db (changedRow actor now row (buildPatch action .executed actor payload))
        row.requestNumber) := by
  have either : action = .executorComplete ∨ action = .managerComplete := by tauto
  rw [movedCard, changed_complete either]
  exact .complete starts

theorem step_sendBack
    (started : (cardOf db row).canon ∈ [RequestStatus.executed, .returned, .completed])
    (held : row.executorId.isSome = true) :
    Step .managerReturnToWork (cardOf db row)
      (movedCard db (changedRow actor now row
        (buildPatch .managerReturnToWork .inProgress actor payload)) row.requestNumber) := by
  rw [movedCard, changed_returnToWork]
  exact .sendBack started held

theorem step_dispute (started : (cardOf db row).canon ∈ [RequestStatus.completed])
    (mode : row.acceptanceMode = .resident) :
    Step .applicantReturn (cardOf db row)
      (movedCard db (changedRow actor now row
        (buildPatch .applicantReturn .returned actor payload)) row.requestNumber) := by
  rw [movedCard, changed_return]
  exact .dispute started mode

theorem step_forceAccept
    (started : (cardOf db row).canon ∈ [RequestStatus.completed, .returned]) :
    Step .managerForceAccept (cardOf db row)
      (movedCard db (changedRow actor now row
        (buildPatch .managerForceAccept .approved actor payload)) row.requestNumber) := by
  rw [movedCard, changed_forceAccept]
  exact .forceAccept now started

theorem columns_plain {target : RequestStatus} (plain : action ∈ plainActions) :
    ∀ entry ∈ buildPatch action target actor payload, entry.column ≠ .executorId := by
  intro entry member sets
  rcases List.mem_cons.mp member with rfl | rest
  · cases sets
  · have listed := incidental_of_plain plain entry rest
    rw [sets] at listed
    exact absurd listed (by decide)

theorem step_resume (plain : action ∈ plainActions)
    (starts : action = .managerPurchaseDone ∧ (cardOf db row).canon ∈ [RequestStatus.purchase] ∨
      action = .clarifyResolved ∧ (cardOf db row).canon ∈ [RequestStatus.clarification] ∨
      action = .executorResume ∧ (cardOf db row).canon ∈ [RequestStatus.purchase, .clarification])
    (enforced : enforceInProgressHasExecutor action .inProgress
      (buildSnapshot db directory row actor) (buildPatch action .inProgress actor payload) =
      .ok ()) :
    Step action (cardOf db row)
      (movedCard db (changedRow actor now row (buildPatch action .inProgress actor payload))
        row.requestNumber) :=
  step_plain .inProgress plain (by decide)
    (.resume starts (held_of_enforced enforced (columns_plain plain)))

theorem step_cancel
    (started : (cardOf db row).canon ∈ (actionTable .cancel).fromStatuses)
    (operated : (buildDomainOps .cancel (buildSnapshot db directory row actor) payload).foldlM
      (applyDomainOp deployment directory
        (changedRow actor now row (buildPatch .cancel .cancelled actor payload)) actor) db =
      .ok assigned) :
    Step .cancel (cardOf db row)
      (movedCard assigned (changedRow actor now row (buildPatch .cancel .cancelled actor payload))
        row.requestNumber) := by
  cases operated
  have moved : movedCard { db with
        assignments := cancelActive (changedRow actor now row
          (buildPatch .cancel .cancelled actor payload)).requestNumber db.assignments }
      (changedRow actor now row (buildPatch .cancel .cancelled actor payload))
      row.requestNumber = { (cardOf db row).moveTo .cancelled with active := [] } := by
    unfold movedCard
    rw [changed_plain (by decide) (by decide), (changedRow_fixed _).1, activeOf_cancelActive]
    rfl
  rw [moved]
  exact .cancel started

theorem step_accept
    (started : (cardOf db row).canon ∈ [RequestStatus.completed])
    (mode : row.acceptanceMode = .resident)
    (operated : (buildDomainOps .applicantAccept (buildSnapshot db directory row actor)
      payload).foldlM
      (applyDomainOp deployment directory
        (changedRow actor now row (buildPatch .applicantAccept .approved actor payload))
        actor) db = .ok assigned) :
    Step .applicantAccept (cardOf db row)
      (movedCard assigned
        (changedRow actor now row (buildPatch .applicantAccept .approved actor payload))
        row.requestNumber) := by
  change [DomainOp.createRating _].foldlM _ db = _ at operated
  rw [List.foldlM_cons] at operated
  obtain ⟨next, rated, finished⟩ := bind_eq_ok_iff.mp operated
  cases finished
  obtain ⟨_, assignments, ratings⟩ := createRating_ok rated
  rw [(changedRow_fixed _).1] at ratings
  have moved : movedCard assigned
      (changedRow actor now row (buildPatch .applicantAccept .approved actor payload))
      row.requestNumber =
      { (cardOf db row).moveTo .approved with
        completedAt := some now, ratings := (cardOf db row).ratings + 1 } := by
    unfold movedCard
    rw [changed_accept, assignments, ratings]
    rfl
  rw [moved]
  exact .accept now started mode

theorem step_confirm
    (started : (cardOf db row).canon ∈ [RequestStatus.executed]) :
    Step .managerConfirm (cardOf db row)
      (movedCard db (changedRow actor now row (buildPatch .managerConfirm
        (effectiveToStatus .managerConfirm .completed (buildSnapshot db directory row actor))
        actor payload)) row.requestNumber) := by
  have decided : (buildSnapshot db directory row actor).request.acceptanceMode = row.acceptanceMode := rfl
  cases mode : row.acceptanceMode with
  | resident =>
    have target : effectiveToStatus .managerConfirm .completed
        (buildSnapshot db directory row actor) = .completed := by
      simp [effectiveToStatus, decided, mode]
    rw [target, movedCard, changed_confirm]
    exact .confirm started mode
  | manager =>
    have target : effectiveToStatus .managerConfirm .completed
        (buildSnapshot db directory row actor) = .approved := by
      simp [effectiveToStatus, decided, mode]
    rw [target, movedCard, changed_confirmFinally]
    exact .confirmFinally now started mode

theorem step_of_planned {snap : WorkflowSnapshot} {command : ActionCommand}
    {result : TransitionResult}
    (loaded : loadActorContext directory principal = .ok actor)
    (snapshot : snap = buildSnapshot db directory row actor)
    (planned : planTransition snap command actor principal now = .ok result)
    (operated : result.domainOps.foldlM (applyDomainOp deployment directory
      (changedRow actor now row result.patch) actor) db = .ok assigned) :
    Step command.action (cardOf db row)
      (movedCard assigned (changedRow actor now row result.patch) row.requestNumber) := by
  subst snapshot
  obtain ⟨valid, canonical, started, right, enforced, rfl⟩ := planTransition_eq_ok_iff.mp planned
  have authorized := authorize_of_authorizes right
  obtain ⟨commandId, action, payload⟩ := command
  change (cardOf db row).canon ∈ (actionTable action).fromStatuses at started
  dsimp only [plannedTransition] at valid canonical authorized enforced operated ⊢
  cases action with
  | systemDispatchAssign => exact step_assign (.inl ⟨rfl, started⟩) valid operated
  | managerAssign => exact step_assign (.inr ⟨rfl, started⟩) valid operated
  | assignGroup => exact step_offer started valid canonical operated
  | executorPurchase =>
    cases operated
    exact step_plain .purchase (by decide) (by decide) (.park (.inl ⟨rfl, started, rfl⟩))
  | managerPurchase =>
    cases operated
    exact step_plain .purchase (by decide) (by decide) (.park (.inr (.inl ⟨rfl, started, rfl⟩)))
  | managerPurchaseDone =>
    cases operated
    exact step_resume (by decide) (.inl ⟨rfl, started⟩) enforced
  | clarifyRequest =>
    cases operated
    exact step_plain .clarification (by decide) (by decide)
      (.park (.inr (.inr ⟨rfl, started, rfl⟩)))
  | clarifyResolved =>
    cases operated
    exact step_resume (by decide) (.inr (.inl ⟨rfl, started⟩)) enforced
  | executorResume =>
    cases operated
    exact step_resume (by decide) (.inr (.inr ⟨rfl, started⟩)) enforced
  | executorClaim =>
    obtain ⟨user, _, _, known, _⟩ := loadActorContext_user loaded (user_of_executorCanClaim authorized)
    change [DomainOp.claimGroupAssignment].foldlM _ db = _ at operated
    rw [List.foldlM_cons] at operated
    obtain ⟨next, taken, finished⟩ := bind_eq_ok_iff.mp operated
    cases finished
    change takeGroupAssignment _ db _ actor.userId = _ at taken
    rw [known, (changedRow_fixed _).1] at taken
    exact step_take (.inl rfl) started (fun _ _ => changed_claim known) taken
  | systemAutoPromote =>
    obtain ⟨⟨executor, known⟩, _⟩ := executorKnown_of_validate rfl valid
    change [DomainOp.promoteGroupAssignment _].foldlM _ db = _ at operated
    rw [List.foldlM_cons] at operated
    obtain ⟨next, taken, finished⟩ := bind_eq_ok_iff.mp operated
    cases finished
    change takeGroupAssignment _ db _ (payload.get "executor_id").asInteger = _ at taken
    rw [known, (changedRow_fixed _).1] at taken
    exact step_take (.inr rfl) started (fun _ _ => changed_promote known) taken
  | executorComplete =>
    cases operated
    exact step_complete (.inl ⟨rfl, started⟩)
  | managerComplete =>
    cases operated
    exact step_complete (.inr ⟨rfl, started⟩)
  | managerConfirm =>
    cases operated
    exact step_confirm started
  | managerReturnToWork =>
    cases operated
    refine step_sendBack started (held_of_enforced enforced ?_)
    intro entry member
    simp only [buildPatch, List.mem_cons, List.not_mem_nil, or_false] at member
    rcases member with rfl | rfl | rfl | rfl <;> simp
  | applicantAccept => exact step_accept started (resident_of_canAccept authorized) operated
  | applicantReturn =>
    cases operated
    exact step_dispute started (resident_of_ownerCanReturn authorized)
  | managerForceAccept =>
    cases operated
    exact step_forceAccept started
  | cancel => exact step_cancel started operated

end

end

section

variable {committed : Database} {call : Call} {reading : Reading} {outcome : CommandOutcome}

structure About where
  request : Option Request
  assignments : List RequestAssignment
  ratings : List Rating
  auditLogs : List AuditLog
  webhooks : List WebhookOutbox

def webhooksOf (outbox : Table WebhookOutbox.id) (number : RequestNumber) : List WebhookOutbox :=
  outbox.rows.filter fun row => row.payload.requestNumber = number

def about (db : Database) (number : RequestNumber) : About where
  request := db.requests.find? number
  assignments := rowsOf db.assignments number
  ratings := ratingsOf db number
  auditLogs := db.auditLogs.filter fun row => row.requestNumber = number
  webhooks := webhooksOf db.outbox number

structure ReadUnderLock (db : Database) (call : Call) (reading : Reading) : Prop where
  found : db.requests.find? call.requestNumber = some reading.row
  numbered : reading.row.requestNumber = call.requestNumber
  loaded : loadActorContext call.directory call.principal = .ok reading.actor
  snapshot : reading.snap = buildSnapshot db call.directory reading.row reading.actor
  resolved : actionOf reading.snap reading.actor call.command = .ok reading.command

theorem readUnderLock_eq_ok_iff : readUnderLock db call = .ok reading ↔ ReadUnderLock db call reading := by
  unfold readUnderLock
  constructor
  · intro read
    cases found : db.requests.find? call.requestNumber with
    | none => simp [found] at read
    | some row =>
      simp only [found] at read
      obtain ⟨actor, loaded, continued⟩ := bind_eq_ok_iff.mp read
      obtain ⟨command, resolved, finished⟩ := bind_eq_ok_iff.mp continued
      cases finished
      exact ⟨found, Table.key_of_find? found, loaded, rfl, resolved⟩
  · rintro ⟨found, _, loaded, snapshot, resolved⟩
    obtain ⟨row, actor, snap, command⟩ := reading
    dsimp only at found loaded snapshot resolved
    subst snapshot
    simp only [found]
    exact bind_eq_ok_iff.mpr ⟨actor, loaded, bind_eq_ok_iff.mpr ⟨command, resolved, rfl⟩⟩

variable {snap : WorkflowSnapshot} {number : RequestNumber}

theorem decideTransition_eq_ok_iff {command : ActionCommand} {actor : ActorContext}
    {principal : PrincipalRef} {now : Moment} {result : TransitionResult} :
    decideTransition snap command actor principal now = .ok result ↔
      SilentRepeat snap command ∧ result = ⟨snap.request, normalizeStatus snap.request, [], [], [], true⟩ ∨
      planTransition snap command actor principal now = .ok result := by
  unfold decideTransition
  cases repeated : checkRepeat snap command actor with
  | error error =>
    constructor
    · intro decided
      cases decided
    · rintro (⟨silent, _⟩ | planned)
      · obtain ⟨_, same⟩ := silentRepeat_iff.mp silent
        rw [repeated] at same
        cases same
      · have started := (planTransition_eq_ok_iff.mp planned).2.2.1
        rw [checkRepeat_eq_none_of_started started] at repeated
        cases repeated
  | ok found =>
    cases found with
    | none =>
      constructor
      · exact .inr
      · rintro (⟨silent, _⟩ | planned)
        · obtain ⟨_, same⟩ := silentRepeat_iff.mp silent
          rw [repeated] at same
          cases same
        · exact planned
    | some repeat_ =>
      have silent := silentRepeat_iff.mpr ⟨_, repeated⟩
      obtain ⟨_, _, _, _, answer⟩ := checkRepeat_eq_some_iff.mp repeated
      constructor
      · intro decided
        cases decided
        exact .inl ⟨silent, answer⟩
      · rintro (⟨_, same⟩ | planned)
        · rw [same, answer]
        · have started := (planTransition_eq_ok_iff.mp planned).2.2.1
          rw [checkRepeat_eq_none_of_started started] at repeated
          cases repeated

theorem webhooksOf_announce_of_ne {clock : Moment} {outbox : Table WebhookOutbox.id}
    {old : RequestState} {newCanon : RequestStatus} {version : Nat} {other : RequestNumber}
    (different : other ≠ old.requestNumber) :
    webhooksOf (announce deployment clock outbox old newCanon version) other =
      webhooksOf outbox other := by
  unfold announce
  split
  · unfold insertOutbox
    split
    · rfl
    · simp [webhooksOf, Table.filter_insert, different.symm]
  · rfl

theorem runCommand_eq_ok_iff :
    runCommand deployment db call = .ok (outcome, committed) ↔
      ∃ reading result changed, ReadUnderLock db call reading ∧
        decideTransition reading.snap reading.command reading.actor call.principal call.now = .ok result ∧
        applyTransition deployment call.directory db reading.row result reading.actor call.now =
          .ok (changed, committed) ∧
        outcome = buildOutcome changed reading.snap result := by
  unfold runCommand
  simp only [bind_eq_ok_iff, readUnderLock_eq_ok_iff, Except.ok.injEq, Prod.mk.injEq, Prod.exists]
  constructor
  · rintro ⟨reading, read, result, decided, changed, _, applied, rfl, rfl⟩
    exact ⟨reading, result, changed, read, decided, applied, rfl⟩
  · rintro ⟨reading, result, changed, read, decided, applied, rfl⟩
    exact ⟨reading, read, result, decided, changed, committed, applied, rfl, rfl⟩

/-- What a command that changes its request does to the database. -/
structure Move (deployment : Deployment) (db : Database) (call : Call) (reading : Reading)
    (changed : Request) (committed : Database) : Prop where
  read : ReadUnderLock db call reading
  planned : planTransition reading.snap reading.command reading.actor call.principal call.now =
    .ok (plannedTransition reading.snap reading.command reading.actor call.principal)
  row : changed = changedRow reading.actor call.now reading.row
    (plannedTransition reading.snap reading.command reading.actor call.principal).patch
  stored : committed.requests.find? call.requestNumber = some changed
  step : Step reading.command.action (cardOf db reading.row) (cardOf committed changed)
  status : changed.status =
    effectiveToStatus reading.command.action (actionTable reading.command.action).toStatus
      reading.snap
  outbox : committed.outbox = announce deployment call.directory.clock db.outbox
    (newStateFrom reading.row) changed.status changed.statusVersion
  others : ∀ other, other ≠ call.requestNumber → about committed other = about db other

theorem effectiveToStatus_canon {action : Action} :
    effectiveToStatus action (actionTable action).toStatus snap ∈ canonStatuses := by
  unfold effectiveToStatus
  split
  · decide
  · cases action <;> decide

theorem Move.of_applied (read : ReadUnderLock db call reading)
    (planned : planTransition reading.snap reading.command reading.actor call.principal
      call.now = .ok (plannedTransition reading.snap reading.command reading.actor
        call.principal)) (applied : applyTransition deployment call.directory db reading.row
      (plannedTransition reading.snap reading.command reading.actor call.principal)
      reading.actor call.now = .ok (changed, committed)) :
    Move deployment db call reading changed committed := by
  obtain ⟨rowChanged, _, assigned, operated, rfl⟩ := (applyTransition_eq_ok_iff rfl rfl).mp applied
  have fixed : changed.requestNumber = reading.row.requestNumber := by
    rw [rowChanged]
    exact (changedRow_fixed _).1
  have key : changed.requestNumber = call.requestNumber := fixed.trans read.numbered
  have local_ := applyDomainOps_local operated
  have status : changed.status = effectiveToStatus reading.command.action
      (actionTable reading.command.action).toStatus reading.snap := by
    rw [rowChanged]
    exact status_changedRow effectiveToStatus_canon
  have oldState : (plannedTransition reading.snap reading.command reading.actor
      call.principal).oldState = newStateFrom reading.row := by
    rw [read.snapshot]
    rfl
  constructor
  · exact read
  · exact planned
  · exact rowChanged
  · rw [local_.requests, ← key]
    exact Table.find?_put_self (key ▸ read.found)
  · have moved := step_of_planned read.loaded read.snapshot planned (rowChanged ▸ operated)
    rw [← rowChanged] at moved
    unfold cardOf
    rw [fixed]
    exact moved
  · exact status
  · rw [status, ← oldState, ← local_.outbox]
  · intro other different
    rw [← key, fixed] at different
    have requests : (assigned.requests.put changed).find? other = db.requests.find? other := by
      rw [local_.requests]
      exact Table.find?_put_of_ne (fixed ▸ different)
    have auditLogs : ∀ details, (assigned.auditLogs ++
        [buildAudit changed reading.actor details]).filter
          (fun row => row.requestNumber = other) =
        db.auditLogs.filter fun row => row.requestNumber = other := by
      intro details
      have outside : ¬ changed.requestNumber = other := fun same => different (same.symm.trans fixed)
      simp [local_.auditLogs, buildAudit, outside]
    unfold about
    simp only [requests, auditLogs, ratingsOf, local_.outbox]
    rw [webhooksOf_announce_of_ne (by rw [oldState]; exact different),
      local_.assignments other (fixed ▸ different)]
    exact congrArg (fun ratings => About.mk _ _ ratings _ _)
      (local_.ratings other (fixed ▸ different))

theorem runCommand_flushed
    (accepted : runCommand deployment db call = .ok (outcome, committed)) :
    ∃ reading, ReadUnderLock db call reading ∧
      (outcome.noOp = true ∧ SilentRepeat reading.snap reading.command ∧ committed = db ∨
        ∃ changed, Move deployment db call reading changed committed ∧
          committed.requests = db.requests.put changed ∧
          outcome = buildOutcome changed reading.snap (plannedTransition reading.snap
            reading.command reading.actor call.principal)) := by
  obtain ⟨reading, result, changed, read, decided, applied, rfl⟩ := runCommand_eq_ok_iff.mp accepted
  refine ⟨reading, read, ?_⟩
  rcases decideTransition_eq_ok_iff.mp decided with ⟨silent, rfl⟩ | planned
  · cases applied
    exact .inl ⟨rfl, silent, rfl⟩
  · have same := (planTransition_eq_ok_iff.mp planned).2.2.2.2.2
    subst same
    obtain ⟨_, _, assigned, operated, written⟩ := (applyTransition_eq_ok_iff rfl rfl).mp applied
    have flushed : committed.requests = db.requests.put changed := by
      rw [written, (applyDomainOps_local operated).requests]
    exact .inr ⟨changed, .of_applied read planned applied, flushed, rfl⟩

theorem runCommand_cases (accepted : runCommand deployment db call = .ok (outcome, committed)) :
    ∃ reading, ReadUnderLock db call reading ∧
      (outcome.noOp = true ∧ SilentRepeat reading.snap reading.command ∧ committed = db ∨
        ∃ changed, Move deployment db call reading changed committed ∧
          outcome = buildOutcome changed reading.snap (plannedTransition reading.snap
            reading.command reading.actor call.principal)) := by
  obtain ⟨reading, read, repeated | ⟨changed, move, _, answered⟩⟩ := runCommand_flushed accepted
  · exact ⟨reading, read, .inl repeated⟩
  · exact ⟨reading, read, .inr ⟨changed, move, answered⟩⟩

def cardAt (db : Database) (number : RequestNumber) : Option Card :=
  (db.requests.find? number).map (cardOf db)

theorem cardAt_of_found (found : db.requests.find? number = some row) :
    cardAt db number = some (cardOf db row) := by
  rw [cardAt, found]
  rfl

theorem cardAt_eq_of_about {left right : Database} (same : about left number = about right number) :
    cardAt left number = cardAt right number := by
  have requests : left.requests.find? number = right.requests.find? number := congrArg About.request same
  unfold cardAt
  rw [requests]
  cases found : right.requests.find? number with
  | none => rfl
  | some row =>
    have key : row.requestNumber = number := Table.key_of_find? found
    have assignments : rowsOf left.assignments number = rowsOf right.assignments number :=
      congrArg About.assignments same
    have ratings : ratingsOf left number = ratingsOf right number := congrArg About.ratings same
    simp only [Option.map_some, cardOf, key, ratings, activeOf_eq_of_rowsOf assignments]

theorem Move.card_before (move : Move deployment db call reading changed committed) :
    cardAt db call.requestNumber = some (cardOf db reading.row) :=
  cardAt_of_found move.read.found

theorem Move.card_after (move : Move deployment db call reading changed committed) :
    cardAt committed call.requestNumber = some (cardOf committed changed) :=
  cardAt_of_found move.stored

theorem cardOf_ratings (found : db.requests.find? number = some row) :
    (cardOf db row).ratings = (ratingsOf db number).length := by
  have key : row.requestNumber = number := Table.key_of_find? found
  rw [← key]
  rfl

end

end InfrasafeBot.WorkflowRefinement
