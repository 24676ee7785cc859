import InfrasafeBot.WorkflowPatches

/-! The rows a transition writes beside the request itself: assignments, ratings,
the audit log and the outbox. -/

set_option autoImplicit false

namespace InfrasafeBot.WorkflowOperations

open Library RequestWorkflow WebhookSender WorkflowRunner RequestLifecycle WorkflowPatches

def holding (row : RequestAssignment) : Holding :=
  ⟨row.assignmentType, row.executorId, row.groupSpecialization⟩

variable {number : RequestNumber} {executor : Option UserId}

section

variable {assignments : Table RequestAssignment.id} {other : RequestNumber}

def activeOf (assignments : Table RequestAssignment.id) (number : RequestNumber) : List Holding :=
  (assignments.rows.filter (RequestAssignment.isActiveOf number)).map holding

def rowsOf (assignments : Table RequestAssignment.id) (number : RequestNumber) : List RequestAssignment :=
  assignments.rows.filter fun row => row.requestNumber = number

variable {row : RequestAssignment} {make : Nat → RequestAssignment}

theorem requestNumber_of_isActiveOf (active : row.isActiveOf number = true) :
    row.requestNumber = number := by
  simp only [RequestAssignment.isActiveOf, Bool.and_eq_true, decide_eq_true_eq] at active
  exact active.1

theorem activeOf_eq_of_rowsOf {left right : Table RequestAssignment.id}
    (same : rowsOf left number = rowsOf right number) :
    activeOf left number = activeOf right number := by
  have narrowed : ∀ table : Table RequestAssignment.id,
      table.rows.filter (RequestAssignment.isActiveOf number) =
        (rowsOf table number).filter fun row => row.status = .active := by
    intro table
    rw [rowsOf, List.filter_filter]
    congr 1
    funext row
    simp [RequestAssignment.isActiveOf, Bool.and_comm]
  rw [activeOf, activeOf, narrowed, narrowed, same]

theorem activeOf_cancelActive : activeOf (cancelActive number assignments) number = [] := by
  unfold activeOf cancelActive Table.update
  rw [List.map_eq_nil_iff, List.filter_eq_nil_iff]
  intro row member
  obtain ⟨before, _, rfl⟩ := List.mem_map.mp member
  cases active : before.isActiveOf number with
  | true => simp [RequestAssignment.isActiveOf]
  | false => simp [active]

theorem rowsOf_update_of_ne {condition : RequestAssignment → Bool}
    {change : RequestAssignment → RequestAssignment}
    {keeps : ∀ row, RequestAssignment.id (change row) = row.id}
    (covers : ∀ row ∈ assignments.rows, condition row = true → row.requestNumber = number)
    (renames : ∀ row, (change row).requestNumber = row.requestNumber)
    (different : other ≠ number) :
    rowsOf (assignments.update condition change keeps) other = rowsOf assignments other := by
  refine Table.filter_update_of_disjoint ?_ ?_
  · intro row member hit
    simpa [covers row member hit] using different.symm
  · intro row member hit
    simpa [renames, covers row member hit] using different.symm

theorem rowsOf_cancelActive_of_ne (different : other ≠ number) :
    rowsOf (cancelActive number assignments) other = rowsOf assignments other :=
  rowsOf_update_of_ne (fun _ _ => requestNumber_of_isActiveOf) (fun _ => rfl) different

theorem rowsOf_takeUnclaimed_of_ne (different : other ≠ number) :
    rowsOf (takeUnclaimed number executor assignments) other = rowsOf assignments other := by
  refine rowsOf_update_of_ne ?_ (fun _ => rfl) different
  intro row _ hit
  simp only [isUnclaimedOf, Bool.and_eq_true] at hit
  exact requestNumber_of_isActiveOf hit.1.1

theorem activeOf_insert {numbered : ∀ id, (make id).id = id}
    (active : (make assignments.nextKey).isActiveOf number = true) :
    activeOf (assignments.insert make numbered) number =
      activeOf assignments number ++ [holding (make assignments.nextKey)] := by
  simp [activeOf, Table.filter_insert, active]

theorem rowsOf_insert_of_ne {numbered : ∀ id, (make id).id = id}
    (belongs : (make assignments.nextKey).requestNumber = number) (different : other ≠ number) :
    rowsOf (assignments.insert make numbered) other = rowsOf assignments other := by
  have outside : ¬ (make assignments.nextKey).requestNumber = other := by
    rw [belongs]
    exact different.symm
  simp [rowsOf, Table.filter_insert, outside]

theorem unclaimed_holding :
    isUnclaimedOf number row = (row.isActiveOf number && (holding row).unclaimed) := by
  unfold isUnclaimedOf
  rw [Bool.and_assoc]
  rfl

theorem rowcount_isUnclaimedOf :
    assignments.rowcount (isUnclaimedOf number) =
      (activeOf assignments number).countP Holding.unclaimed := by
  unfold Table.rowcount activeOf
  rw [List.countP_map, List.countP_filter]
  congr 1
  funext row
  simp [unclaimed_holding, Bool.and_comm]

theorem activeOf_take :
    activeOf (takeUnclaimed number executor assignments) number =
      (activeOf assignments number).map fun held =>
        if held.unclaimed then { held with type := .individual, executor } else held := by
  simp only [activeOf, takeUnclaimed, Table.update]
  induction assignments.rows with
  | nil => rfl
  | cons row rest ih =>
    cases active : row.isActiveOf number with
    | true =>
      cases unclaimed : (holding row).unclaimed with
      | true =>
        have kept : ({ row with assignmentType := .individual, executorId := executor } :
            RequestAssignment).isActiveOf number = true := active
        simp only [List.map_cons, unclaimed_holding, active, unclaimed, Bool.and_true,
          if_true, List.filter_cons, kept]
        simpa [unclaimed_holding, holding] using ih
      | false =>
        simp only [List.map_cons, unclaimed_holding, active, unclaimed, Bool.and_false,
          Bool.false_eq_true, if_false, List.filter_cons, if_true]
        simpa [unclaimed_holding] using ih
    | false =>
      simp only [List.map_cons, unclaimed_holding, active, Bool.false_and,
        Bool.false_eq_true, if_false, List.filter_cons]
      simpa [unclaimed_holding] using ih

end

section

variable {deployment : Deployment} {directory : Directory} {db committed : Database}
  {row changed : Request} {actor : ActorContext} {principal : PrincipalRef} {now : Moment}

def publicOf (canon : RequestStatus) : RequestStatus :=
  if canon = .returned then .completed else canon

/-- What a transition to `newCanon` queues for the outside. -/
def announce (deployment : Deployment) (clock : Moment) (outbox : Table WebhookOutbox.id)
    (old : RequestState) (newCanon : RequestStatus) (version : Nat) :
    Table WebhookOutbox.id :=
  if publicOf newCanon ≠ projectPublicStatus old ∧ deployment.webhookEnabled = true then
    insertOutbox outbox clock statusChangedEvent requestWebhookEndpoint
      ⟨statusChangedId deployment old.requestNumber version, statusChangedEvent,
        old.requestNumber, projectPublicStatus old, publicOf newCanon⟩
  else outbox

variable {action : Action} {newCanon : RequestStatus} {payload : Payload} {assigned : Database}

theorem applyEvents_eq {old : RequestState} :
    (buildEvents action principal old newCanon payload).foldlM
        (applyEvent deployment directory row actor) db =
      .ok { db with
        auditLogs := db.auditLogs ++ [buildAudit row actor
          (.statusChanged action (normalizeStatus old) newCanon old.status row.status
            principal.kind principal.identity principal.source (safePayload payload))]
        outbox := announce deployment directory.clock db.outbox old newCanon
          row.statusVersion } := by
  unfold buildEvents announce
  change List.foldlM _ db ([_] ++ (if publicOf newCanon ≠ projectPublicStatus old then _ else _) ++ [_]) = _
  by_cases shown : publicOf newCanon ≠ projectPublicStatus old
  · rw [if_pos shown]
    simp only [List.cons_append, List.nil_append, List.foldlM_cons, List.foldlM_nil,
      applyEvent, emitRequestStatusChanged_eq, shown, ne_eq, not_false_eq_true, true_and]
    rfl
  · rw [if_neg shown]
    simp only [List.append_nil, List.cons_append, List.nil_append, List.foldlM_cons,
      List.foldlM_nil, applyEvent, shown, false_and, if_false]
    rfl

/-- The executor a row newly names exists. -/
def ExecutorKnown (directory : Directory) (previous row : Request) : Prop :=
  ∀ executor, row.executorId = some executor →
    previous.executorId = some executor ∨ (directory.users.find? executor).isSome = true

theorem flushRequest_eq_ok_iff :
    flushRequest directory row changed db = .ok committed ↔
      ExecutorKnown directory row changed ∧
        committed = { db with requests := db.requests.put changed } := by
  unfold flushRequest ExecutorKnown
  cases named : changed.executorId with
  | none =>
    constructor
    · intro flushed
      cases flushed
      exact ⟨by simp, rfl⟩
    · rintro ⟨_, rfl⟩
      rfl
  | some executor =>
    dsimp only
    split
    · next known =>
        constructor
        · intro flushed
          cases flushed
          refine ⟨?_, rfl⟩
          intro other same
          cases same
          simpa using known
        · rintro ⟨_, rfl⟩
          rfl
    · next unknown =>
        constructor
        · intro flushed
          cases flushed
        · rintro ⟨known, _⟩
          exact absurd (by simpa using known executor rfl) unknown

theorem applyTransition_eq_ok_iff {result : TransitionResult} (effective : result.noOp = false)
    (announced : result.events = buildEvents action principal result.oldState newCanon payload) :
    applyTransition deployment directory db row result actor now = .ok (changed, committed) ↔
      changed = changedRow actor now row result.patch ∧
      ExecutorKnown directory row changed ∧
      ∃ assigned, result.domainOps.foldlM (applyDomainOp deployment directory changed actor) db =
          .ok assigned ∧
        committed =
          { requests := assigned.requests.put changed
            assignments := assigned.assignments
            ratings := assigned.ratings
            auditLogs := assigned.auditLogs ++ [buildAudit changed actor
              (.statusChanged action (normalizeStatus result.oldState) newCanon
                result.oldState.status changed.status principal.kind principal.identity
                principal.source (safePayload payload))]
            outbox := announce deployment directory.clock assigned.outbox result.oldState
              newCanon changed.statusVersion } := by
  unfold applyTransition
  simp only [effective, Bool.false_eq_true, if_false, announced, bind_eq_ok_iff, applyEvents_eq,
    flushRequest_eq_ok_iff, Except.ok.injEq, Prod.mk.injEq]
  change (∃ assigned, List.foldlM (applyDomainOp deployment directory
    (changedRow actor now row result.patch) actor) db result.domainOps = .ok assigned ∧ _) ↔ _
  constructor
  · rintro ⟨assigned, operated, _, rfl, _, ⟨known, rfl⟩, rfl, rfl⟩
    exact ⟨rfl, known, assigned, operated, rfl⟩
  · rintro ⟨rfl, known, assigned, operated, rfl⟩
    exact ⟨assigned, operated, _, rfl, _, ⟨known, rfl⟩, rfl, rfl⟩

def ratingsOf (db : Database) (number : RequestNumber) : List Rating :=
  db.ratings.rows.filter fun rating => rating.requestNumber = number

/-- What a domain operation for `number` leaves alone. -/
structure LocalTo (number : RequestNumber) (db assigned : Database) : Prop where
  requests : assigned.requests = db.requests
  auditLogs : assigned.auditLogs = db.auditLogs
  outbox : assigned.outbox = db.outbox
  assignments : ∀ other, other ≠ number → rowsOf assigned.assignments other = rowsOf db.assignments other
  ratings : ∀ other, other ≠ number → ratingsOf assigned other = ratingsOf db other

theorem LocalTo.refl (number : RequestNumber) (db : Database) : LocalTo number db db :=
  ⟨rfl, rfl, rfl, fun _ _ => rfl, fun _ _ => rfl⟩

theorem LocalTo.trans {first second third : Database} (before : LocalTo number first second)
    (after : LocalTo number second third) :
    LocalTo number first third where
  requests := after.requests.trans before.requests
  auditLogs := after.auditLogs.trans before.auditLogs
  outbox := after.outbox.trans before.outbox
  assignments other different :=
    (after.assignments other different).trans (before.assignments other different)
  ratings other different := (after.ratings other different).trans (before.ratings other different)

theorem takeGroupAssignment_eq_ok_iff {operation : String} :
    takeGroupAssignment operation db number executor = .ok assigned ↔
      (activeOf db.assignments number).countP Holding.unclaimed = 1 ∧
      assigned = { db with assignments := takeUnclaimed number executor db.assignments } := by
  unfold takeGroupAssignment
  rw [rowcount_isUnclaimedOf]
  by_cases only : (activeOf db.assignments number).countP Holding.unclaimed = 1
  · simp [only, eq_comm]
  · simp [only]

theorem localTo_take :
    LocalTo number db { db with
      assignments := takeUnclaimed number executor db.assignments } :=
  ⟨rfl, rfl, rfl, fun _ => rowsOf_takeUnclaimed_of_ne, fun _ _ => rfl⟩

def createdHolding (data : Payload) : Holding :=
  { type := if (data.get "group").truthy then .group else .individual
    executor := (data.get "executor_id").asInteger
    group := (data.get "group").asText }

theorem createAssignment_ok {data : Payload}
    (operated : applyDomainOp deployment directory row actor db (.createAssignment data) = .ok assigned) :
    LocalTo row.requestNumber db assigned ∧ assigned.ratings = db.ratings ∧
      activeOf assigned.assignments row.requestNumber = [createdHolding data] := by
  obtain ⟨createdBy, _, created⟩ := bind_eq_ok_iff.mp operated
  cases created
  refine ⟨⟨rfl, rfl, rfl, ?_, fun _ _ => rfl⟩, rfl, ?_⟩
  · intro other different
    exact (rowsOf_insert_of_ne rfl different).trans (rowsOf_cancelActive_of_ne different)
  · change activeOf (Table.insert _ _ _) row.requestNumber = _
    rw [activeOf_insert (by simp [RequestAssignment.isActiveOf]), activeOf_cancelActive]
    rfl

theorem createRating_ok {rating : PyValue}
    (operated : applyDomainOp deployment directory row actor db (.createRating rating) = .ok assigned) :
    LocalTo row.requestNumber db assigned ∧ assigned.assignments = db.assignments ∧
      (ratingsOf assigned row.requestNumber).length =
        (ratingsOf db row.requestNumber).length + 1 := by
  cases operated
  refine ⟨⟨rfl, rfl, rfl, fun _ _ => rfl, ?_⟩, rfl, ?_⟩
  · intro other different
    simp [ratingsOf, Table.filter_insert, different.symm]
  · simp [ratingsOf, Table.filter_insert]

theorem applyDomainOp_local {operation : DomainOp}
    (operated : applyDomainOp deployment directory row actor db operation = .ok assigned) :
    LocalTo row.requestNumber db assigned := by
  cases operation with
  | createRating rating => exact (createRating_ok operated).1
  | cancelActiveAssignments =>
    cases operated
    exact ⟨rfl, rfl, rfl, fun _ => rowsOf_cancelActive_of_ne, fun _ _ => rfl⟩
  | createAssignment data => exact (createAssignment_ok operated).1
  | claimGroupAssignment | promoteGroupAssignment =>
    obtain ⟨_, rfl⟩ := takeGroupAssignment_eq_ok_iff.mp operated
    exact localTo_take

theorem applyDomainOps_local {operations : List DomainOp}
    (operated : operations.foldlM (applyDomainOp deployment directory row actor) db = .ok assigned) :
    LocalTo row.requestNumber db assigned := by
  induction operations generalizing db with
  | nil =>
    cases operated
    exact .refl _ _
  | cons operation rest ih =>
    rw [List.foldlM_cons] at operated
    obtain ⟨next, first, others⟩ := bind_eq_ok_iff.mp operated
    exact (applyDomainOp_local first).trans (ih others)

end

end InfrasafeBot.WorkflowOperations
