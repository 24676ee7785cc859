import InfrasafeBot.Library.Computation
import InfrasafeBot.AccessControl.RequestReviews

/-! A request is decided once where no review is committed over another one: the reviews that
have loaded it as pending may not overlap up to their commits. -/

set_option autoImplicit false

namespace InfrasafeBot.AccessControl.Reviews

open Library Machine

section

variable {forms : TextForms} {registry after : Registry} {call : ReviewCall}
  {request : ResidentAccessRequest} {grant : Grant}

def decidedRow (request : ResidentAccessRequest) : Option Grant → ResidentAccessRequest
  | none => rejectedRow request
  | some grant => approvedRow request grant.vehicle.id request

theorem decidedRow_id (request : ResidentAccessRequest) (decision : Option Grant) :
    (decidedRow request decision).id = request.id := by cases decision <;> rfl

theorem decidedRow_status_ne (request : ResidentAccessRequest) (decision : Option Grant) :
    (decidedRow request decision).status ≠ .pending := by
  cases decision <;> simp [decidedRow, rejectedRow, approvedRow]

theorem decidedRow_vehicleId (request : ResidentAccessRequest) (decision : Option Grant) :
    (decidedRow request decision).vehicleId = resultVehicleId request decision := by
  cases decision with
  | none => rfl
  | some grant =>
    simp only [decidedRow, approvedRow, resultVehicleId]
    split
    · next same => exact same
    · rfl

structure KeepsRequests (before after : Registry) : Prop where
  requests : after.requests = before.requests
  rules : after.rules = before.rules

theorem storeVehicles_keeps {vehicles : Table Vehicle.id}
    (stored : storeVehicles registry vehicles = .ok after) : KeepsRequests registry after := by
  unfold storeVehicles at stored
  split at stored
  · cases stored
    exact ⟨rfl, rfl⟩
  · cases stored

theorem grantVehicle_keeps (stored : grantVehicle forms registry request grant = .ok after) :
    KeepsRequests registry after := by
  unfold grantVehicle at stored
  split at stored
  · exact storeVehicles_keeps stored
  · unfold activateVehicle at stored
    split at stored
    · cases stored
      exact ⟨rfl, rfl⟩
    · exact storeVehicles_keeps stored

theorem grantLink_keeps : KeepsRequests registry (grantLink registry request grant) := by
  unfold grantLink
  split
  · split <;> exact ⟨rfl, rfl⟩
  · exact ⟨rfl, rfl⟩

def granted (rule : AccessRule) : Option Nat × Option Nat × Nat :=
  (rule.vehicleId, rule.apartmentId, rule.zoneId)

theorem addZoneRules_eq (vehicleId : Nat) (apartmentId : Option Nat) (zones : List Nat)
    (registry : Registry) :
    let ruled := zones.foldl (addZoneRule vehicleId apartmentId) registry
    ruled.requests = registry.requests ∧
      ∃ added, ruled.rules.rows = registry.rules.rows ++ added ∧
        added.map granted = zones.map fun zone => (some vehicleId, apartmentId, zone) := by
  induction zones generalizing registry with
  | nil => exact ⟨rfl, [], by simp, rfl⟩
  | cons zone rest ih =>
    obtain ⟨kept, added, rows, grants⟩ := ih (addZoneRule vehicleId apartmentId registry zone)
    refine ⟨kept, newRule vehicleId apartmentId zone registry.rules.nextKey :: added, ?_, ?_⟩
    · rw [List.foldl_cons, rows]
      simp [addZoneRule, Table.insert]
    · rw [List.map_cons, List.map_cons, grants]
      rfl

theorem find?_updateRequest {change : ResidentAccessRequest → ResidentAccessRequest}
    {keeps : ∀ row, (change row).id = row.id}
    (found : registry.requests.find? request.id = some request) :
    (updateRequest registry request.id change keeps).requests.find? request.id =
      some (change request) := by
  simp only [updateRequest, Table.find?_update, found, Option.map_some, decide_true, if_true]

theorem find?_committed {decision : Option Grant}
    (committed : commitReview forms registry call request decision = .ok after)
    (found : registry.requests.find? request.id = some request) :
    after.requests.find? request.id = some (decidedRow request decision) := by
  cases decision with
  | none =>
    cases committed
    exact find?_updateRequest found
  | some grant =>
    obtain ⟨stored, vehicles, committed⟩ := bind_eq_ok_iff.mp committed
    cases committed
    have ruled := (addZoneRules_eq grant.vehicle.id (some request.apartmentId)
      call.review.effectiveZones (grantLink stored request grant)).1
    apply find?_updateRequest
    rw [ruled, grantLink_keeps.requests, (grantVehicle_keeps vehicles).requests, found]

def newRules (start registry : Registry) : List AccessRule :=
  registry.rules.rows.filter (· ∉ start.rules.rows)

theorem newRules_nodup {added : List AccessRule}
    (rows : after.rules.rows = registry.rules.rows ++ added)
    (distinct : (added.map granted).Nodup) :
    ((newRules registry after).map granted).Nodup := by
  have split : newRules registry after = added.filter (· ∉ registry.rules.rows) := by
    rw [newRules, rows, List.filter_append]
    simp
  rw [split]
  exact distinct.sublist (List.filter_sublist.map granted)

theorem newRules_committed {decision : Option Grant}
    (committed : commitReview forms registry call request decision = .ok after)
    (distinct : decision.isSome → call.review.effectiveZones.Nodup) :
    ((newRules registry after).map granted).Nodup := by
  cases decision with
  | none =>
    cases committed
    exact newRules_nodup (List.append_nil _).symm List.nodup_nil
  | some grant =>
    obtain ⟨stored, vehicles, committed⟩ := bind_eq_ok_iff.mp committed
    cases committed
    obtain ⟨_, added, rows, grants⟩ := addZoneRules_eq grant.vehicle.id
      (some request.apartmentId) call.review.effectiveZones (grantLink stored request grant)
    have before : (grantLink stored request grant).rules = registry.rules :=
      grantLink_keeps.rules.trans (grantVehicle_keeps vehicles).rules
    rw [before] at rows
    apply newRules_nodup rows
    rw [grants]
    exact (distinct rfl).map fun left right same => by simpa using same

structure GrantsNothing (before after : Registry) : Prop where
  vehicles : after.vehicles = before.vehicles
  links : after.links = before.links
  rules : after.rules = before.rules

theorem grantsNothing_of_rejected
    (committed : commitReview forms registry call request none = .ok after) :
    GrantsNothing registry after := by
  cases committed
  exact ⟨rfl, rfl, rfl⟩

end

section

variable {n : Nat}

/-- One review of the request has taken effect once a call has returned, with one row in the
audit; every call returns the outcome that is stored; no rule has been created twice; and a
request that is rejected has granted nothing. -/
structure DecidedOnce (requestId : Nat) (start : Registry) (state : State n) : Prop where
  audited : state.audit.length ≤ 1
  effective : (state.returned.filter (!·.replayed)).length ≤ 1
  answered : state.returned ≠ [] → state.audit.length = 1
  stored : ∀ outcome ∈ state.returned, ∃ request,
    state.registry.requests.find? requestId = some request ∧ request.status ≠ .pending ∧
      outcome.requestId = requestId ∧ outcome.status = request.status ∧
      outcome.vehicleId = request.vehicleId
  rules : ((newRules start state.registry).map granted).Nodup
  rejected : ∀ request, state.registry.requests.find? requestId = some request →
    request.status = .rejected → GrantsNothing start state.registry

/-- A review is committed on a request that is still pending, and an approval for different
zones. -/
def mayCommit (requestId : Nat) (registry : Registry) : Stage → Bool
  | .committing call _ decision =>
    (registry.requests.find? requestId).any (·.status = .pending) &&
      (decision.isNone || Decidable.decide call.review.effectiveZones.Nodup)
  | _ => true

def Uncontested (requestId : Nat) (state : State n) : Event n → Prop
  | .step worker => mayCommit requestId state.registry (state.workers worker) = true
  | _ => True

instance (requestId : Nat) (state : State n) (event : Event n) :
    Decidable (Uncontested requestId state event) :=
  match event with
  | .call _ _ => inferInstanceAs (Decidable True)
  | .step worker =>
    inferInstanceAs (Decidable (mayCommit requestId state.registry (state.workers worker) = true))
  | .fail _ => inferInstanceAs (Decidable True)

def Stage.loaded : Stage → Option ResidentAccessRequest
  | .resolving _ request => some request
  | .searching _ request => some request
  | .creating _ request => some request
  | .linking _ request _ _ => some request
  | .flushing _ request _ => some request
  | .committing _ request _ => some request
  | _ => none

structure Open (start : Registry) (state : State n) : Prop where
  registry : state.registry = start
  audit : state.audit = []
  returned : state.returned = []
  refreshing : ∀ worker vehicleId, state.workers worker ≠ .refreshing vehicleId

structure Settled (forms : TextForms) (start : Registry) (row : ResidentAccessRequest)
    (decision : Option Grant) (state : State n) : Prop where
  committed : ∃ call, commitReview forms start call row decision = .ok state.registry ∧
    (decision.isSome → call.review.effectiveZones.Nodup)
  audit : state.audit.length = 1
  returned : ∀ outcome ∈ state.returned,
    outcome = ⟨row.id, (decidedRow row decision).status, resultVehicleId row decision, outcome.replayed⟩
  effective : (state.returned.filter (!·.replayed)).length ≤ 1
  refreshing : ∀ worker vehicleId, state.workers worker = .refreshing vehicleId →
    vehicleId = resultVehicleId row decision ∧
      state.returned.filter (!·.replayed) = [] ∧
      ∀ other, state.workers other = .refreshing vehicleId → other = worker

structure Reviewed (forms : TextForms) (start : Registry) (row : ResidentAccessRequest)
    (state : State n) : Prop where
  loaded : ∀ worker request, (state.workers worker).loaded = some request → request = row
  phase : Open start state ∨ ∃ decision, Settled forms start row decision state

variable {forms : TextForms} {start : Registry} {row : ResidentAccessRequest} {state : State n}

theorem decidedOnce_of_reviewed (found : start.requests.find? row.id = some row)
    (pending : row.status = .pending) (reviewed : Reviewed forms start row state) :
    DecidedOnce row.id start state := by
  rcases reviewed.phase with opened | ⟨decision, settled⟩
  · obtain ⟨registry, audit, returned, _⟩ := opened
    refine ⟨by simp [audit], by simp [returned], fun some => absurd returned some,
      by simp [returned], registry ▸ newRules_nodup (List.append_nil _).symm List.nodup_nil,
      fun request listed rejected => ?_⟩
    rw [registry, found] at listed
    cases listed
    rw [pending] at rejected
    cases rejected
  · obtain ⟨call, committed, distinct⟩ := settled.committed
    have after := find?_committed committed found
    refine ⟨settled.audit.le, settled.effective, fun _ => settled.audit, ?_,
      newRules_committed committed distinct, ?_⟩
    · intro outcome listed
      rw [settled.returned outcome listed]
      exact ⟨_, after, decidedRow_status_ne row decision, rfl, rfl,
        (decidedRow_vehicleId row decision).symm⟩
    · intro request listed rejected
      rw [after] at listed
      cases listed
      cases decision with
      | none => exact grantsNothing_of_rejected committed
      | some grant => cases rejected

variable {worker : Fin n} {stage : Stage}

theorem put_worker (state : State n) (worker : Fin n) (stage : Stage) :
    (state.put worker stage).workers worker = stage := Function.update_self ..

variable {other : Fin n} {vehicleId : Option Nat} {decision : Option Grant}
  {request : ResidentAccessRequest}

theorem put_other (different : other ≠ worker) :
    (state.put worker stage).workers other = state.workers other :=
  Function.update_of_ne different ..

def Stage.Quiet (stage : Stage) : Prop := ∀ vehicleId, stage ≠ .refreshing vehicleId

theorem refreshing_of_put (quiet : stage.Quiet)
    (held : (state.put worker stage).workers other = .refreshing vehicleId) :
    state.workers other = .refreshing vehicleId := by
  by_cases own : other = worker
  · subst own
    rw [put_worker] at held
    exact absurd held (quiet vehicleId)
  · rwa [put_other own] at held

theorem Open.put (opened : Open start state) (quiet : stage.Quiet) :
    Open start (state.put worker stage) where
  registry := opened.registry
  audit := opened.audit
  returned := opened.returned
  refreshing := fun other vehicleId held => opened.refreshing other vehicleId (refreshing_of_put quiet held)

theorem Settled.put (settled : Settled forms start row decision state) (quiet : stage.Quiet) :
    Settled forms start row decision (state.put worker stage) where
  committed := settled.committed
  audit := settled.audit
  returned := settled.returned
  effective := settled.effective
  refreshing := fun other vehicleId held => by
    obtain ⟨same, none, only⟩ := settled.refreshing other vehicleId (refreshing_of_put quiet held)
    exact ⟨same, none, fun another again => only another (refreshing_of_put quiet again)⟩

theorem loaded_put (reviewed : Reviewed forms start row state)
    (named : ∀ request, stage.loaded = some request → request = row) :
    ∀ other request, ((state.put worker stage).workers other).loaded = some request →
      request = row := by
  intro other request held
  by_cases own : other = worker
  · subst own
    rw [put_worker] at held
    exact named request held
  · rw [put_other own] at held
    exact reviewed.loaded other request held

theorem Reviewed.put (reviewed : Reviewed forms start row state) (quiet : stage.Quiet)
    (named : ∀ request, stage.loaded = some request → request = row) :
    Reviewed forms start row (state.put worker stage) where
  loaded := loaded_put reviewed named
  phase := reviewed.phase.imp (·.put quiet) fun ⟨decision, settled⟩ => ⟨decision, settled.put quiet⟩

theorem Reviewed.await (reviewed : Reviewed forms start row state) (quiet : stage.Quiet)
    (named : ∀ request, stage.loaded = some request → request = row) :
    Reviewed forms start row (state.await forms worker stage) := by
  unfold State.await
  split
  · exact reviewed.put quiet named
  · exact reviewed

theorem Reviewed.replay (found : start.requests.find? row.id = some row)
    (pending : row.status = .pending) (reviewed : Reviewed forms start row state)
    (listed : state.registry.requests.find? row.id = some request)
    (decided : request.status ≠ .pending) :
    Reviewed forms start row
      (state.answer worker ⟨request.id, request.status, request.vehicleId, true⟩) := by
  have quiet : Stage.Quiet .idle := fun _ same => nomatch same
  refine ⟨loaded_put reviewed (fun _ none => nomatch none), .inr ?_⟩
  rcases reviewed.phase with opened | ⟨decision, settled⟩
  · rw [opened.registry, found] at listed
    cases listed
    exact absurd pending decided
  · obtain ⟨call, committed, _⟩ := settled.committed
    rw [find?_committed committed found] at listed
    cases listed
    have idle : Settled forms start row decision (state.put worker .idle) := settled.put quiet
    refine ⟨decision, settled.committed, settled.audit, ?_, ?_, ?_⟩
    · intro outcome returned
      rcases List.mem_append.mp returned with before | now
      · exact settled.returned outcome before
      · rw [List.mem_singleton.mp now, decidedRow_id, decidedRow_vehicleId]
    · simpa [State.answer] using settled.effective
    · simpa [State.answer, State.put] using idle.refreshing

theorem Reviewed.refresh (found : start.requests.find? row.id = some row)
    (reviewed : Reviewed forms start row state)
    (held : state.workers worker = .refreshing vehicleId)
    (listed : state.registry.requests.find? row.id = some request) :
    Reviewed forms start row
      (state.answer worker ⟨request.id, request.status, vehicleId, false⟩) := by
  refine ⟨loaded_put reviewed (fun _ none => nomatch none), .inr ?_⟩
  rcases reviewed.phase with opened | ⟨decision, settled⟩
  · exact absurd held (opened.refreshing worker vehicleId)
  · obtain ⟨call, committed, _⟩ := settled.committed
    rw [find?_committed committed found] at listed
    cases listed
    obtain ⟨same, none, only⟩ := settled.refreshing worker vehicleId held
    refine ⟨decision, settled.committed, settled.audit, ?_, ?_, ?_⟩
    · intro outcome returned
      rcases List.mem_append.mp returned with before | now
      · exact settled.returned outcome before
      · rw [List.mem_singleton.mp now, decidedRow_id, same]
    · simp [State.answer, State.put, List.filter_append, none]
    · intro other another again
      have quiet : Stage.Quiet .idle := fun _ same => nomatch same
      have earlier := refreshing_of_put quiet again
      obtain ⟨agree, _, _⟩ := settled.refreshing other another earlier
      have own := only other (same ▸ agree ▸ earlier)
      subst own
      rw [State.answer, put_worker] at again
      cases again

theorem Reviewed.commit (found : start.requests.find? row.id = some row)
    (reviewed : Reviewed forms start row state) {call : ReviewCall}
    {stored : ResidentAccessRequest} {committed : Registry}
    (listed : state.registry.requests.find? row.id = some stored)
    (open_ : stored.status = .pending)
    (distinct : decision.isSome → call.review.effectiveZones.Nodup)
    (done : commitReview forms state.registry call row decision = .ok committed) :
    Reviewed forms start row
      { state.put worker (.refreshing (resultVehicleId row decision)) with
        registry := committed
        audit := state.audit ++ [auditRow call row decision] } := by
  refine ⟨loaded_put reviewed (fun _ none => nomatch none), .inr ⟨decision, ?_⟩⟩
  rcases reviewed.phase with opened | ⟨earlier, settled⟩
  · obtain ⟨registry, audit, returned, none⟩ := opened
    refine ⟨⟨call, registry ▸ done, distinct⟩, by simp [audit], by simp [State.put, returned],
      by simp [State.put, returned], ?_⟩
    have own : ∀ other vehicleId,
        (state.put worker (.refreshing (resultVehicleId row decision))).workers other =
          .refreshing vehicleId → other = worker := by
      intro other vehicleId held
      by_contra different
      rw [put_other different] at held
      exact none other vehicleId held
    intro other vehicleId held
    have same := own other vehicleId held
    subst same
    rw [put_worker] at held
    cases held
    exact ⟨rfl, by simp [State.put, returned], fun another again => own another _ again⟩
  · obtain ⟨_, before, _⟩ := settled.committed
    rw [find?_committed before found] at listed
    cases listed
    exact absurd open_ (decidedRow_status_ne row earlier)

theorem quiet_idle : Stage.Quiet .idle := fun _ same => nomatch same

theorem named_idle (row request : ResidentAccessRequest) :
    Stage.idle.loaded = some request → request = row := fun none => nomatch none

theorem Reviewed.idle (reviewed : Reviewed forms start row state) :
    Reviewed forms start row (state.put worker .idle) :=
  reviewed.put quiet_idle (named_idle row)

theorem Reviewed.row_of_pending (found : start.requests.find? row.id = some row)
    (reviewed : Reviewed forms start row state)
    (listed : state.registry.requests.find? row.id = some request)
    (pending : request.status = .pending) : request = row := by
  rcases reviewed.phase with opened | ⟨decision, settled⟩
  · rw [opened.registry, found] at listed
    exact (Option.some.inj listed).symm
  · obtain ⟨_, committed, _⟩ := settled.committed
    rw [find?_committed committed found] at listed
    cases listed
    exact absurd pending (decidedRow_status_ne row decision)

theorem reviewed_advance (found : start.requests.find? row.id = some row)
    (pending : row.status = .pending) (allowed : Uncontested row.id state (.step worker))
    (reviewed : Reviewed forms start row state) :
    Reviewed forms start row (state.advance forms row.id worker) := by
  unfold State.advance
  cases held : state.workers worker with
  | idle => exact reviewed
  | loading call =>
    dsimp only
    split
    · exact reviewed.idle
    · next request listed =>
        split
        · next decided => exact reviewed.replay found pending listed decided
        · next same =>
            have loaded := reviewed.row_of_pending found listed (not_not.mp same)
            split
            · exact reviewed.put (fun _ => nofun)
                (fun _ named => (Option.some.inj named) ▸ loaded)
            · exact reviewed.put (fun _ => nofun)
                (fun _ named => (Option.some.inj named) ▸ loaded)
  | resolving call request | searching call request =>
    have loaded := reviewed.loaded worker request (by rw [held]; rfl)
    dsimp only
    split
    · exact reviewed.put (fun _ => nofun) (fun _ named => (Option.some.inj named) ▸ loaded)
    · exact reviewed.put (fun _ => nofun) (fun _ named => (Option.some.inj named) ▸ loaded)
  | creating call request =>
    have loaded := reviewed.loaded worker request (by rw [held]; rfl)
    dsimp only
    split
    · exact reviewed.idle
    · exact reviewed.await (fun _ => nofun) (fun _ named => (Option.some.inj named) ▸ loaded)
  | linking call request vehicle created =>
    have loaded := reviewed.loaded worker request (by rw [held]; rfl)
    exact reviewed.put (fun _ => nofun) (fun _ named => (Option.some.inj named) ▸ loaded)
  | flushing call request decision =>
    have loaded := reviewed.loaded worker request (by rw [held]; rfl)
    exact reviewed.await (fun _ => nofun) (fun _ named => (Option.some.inj named) ▸ loaded)
  | committing call request decision =>
    have loaded := reviewed.loaded worker request (by rw [held]; rfl)
    subst loaded
    simp only [Uncontested, held, mayCommit, Bool.and_eq_true, Bool.or_eq_true,
      Option.any_eq_true, decide_eq_true_eq] at allowed
    obtain ⟨⟨stored, listed, unchanged⟩, apart⟩ := allowed
    have distinct : decision.isSome → call.review.effectiveZones.Nodup := by
      intro approves
      rcases apart with rejects | distinct
      · rw [Option.isNone_iff_eq_none.mp rejects] at approves
        cases approves
      · exact distinct
    dsimp only
    split
    · exact reviewed.idle
    · next done => exact reviewed.commit found listed unchanged distinct done
  | refreshing vehicleId =>
    dsimp only
    split
    · exact reviewed.idle
    · next listed => exact reviewed.refresh found held listed

theorem reviewed_next {event : Event n} (found : start.requests.find? row.id = some row)
    (pending : row.status = .pending) (allowed : Uncontested row.id state event)
    (reviewed : Reviewed forms start row state) :
    Reviewed forms start row (next forms row.id state event) := by
  cases event with
  | call worker call =>
    simp only [next]
    split
    · exact reviewed.put (fun _ => nofun) (fun _ => nofun)
    · exact reviewed
  | step worker => exact reviewed_advance found pending allowed reviewed
  | fail worker => exact reviewed.idle

/-- Whatever reviews of a pending request are called, in whatever order their statements come and
whichever of them fail, the request is decided once where they do not contend. -/
theorem decided_once {events : List (Event n)} (found : start.requests.find? row.id = some row)
    (pending : row.status = .pending)
    (uncontested : Obeys (next forms row.id) (Uncontested row.id) (State.initial start) events) :
    DecidedOnce row.id start (run (next forms row.id) (State.initial start) events) := by
  have initial : Reviewed forms start row (State.initial (n := n) start) :=
    ⟨(fun _ _ none => nomatch none), .inl ⟨rfl, rfl, rfl, (fun _ _ same => nomatch same)⟩⟩
  have reviewed := run_invariant_of_obeys (next forms row.id) (Reviewed forms start row) initial
    (fun _ _ allowed held => reviewed_next found pending allowed held) uncontested
  exact decidedOnce_of_reviewed found pending reviewed

end

def requestRow : ResidentAccessRequest := ⟨1, 7, 3, none, some "AA 1234", some "AA1234", .pending⟩

def requestRegistry : Registry := { Registry.empty ⟨[], [], []⟩ with requests := ⟨[requestRow], by decide⟩ }

def approval : ReviewCall := ⟨10, ⟨.approve, none, some [4, 5]⟩⟩

def rejection : ReviewCall := ⟨11, ⟨.reject, none, none⟩⟩

def reviewsInTurn : List (Event 2) :=
  .call 0 approval :: List.replicate 7 (.step 0) ++ .call 1 rejection :: [.step 1, .step 0]

def overlappingReviews : List (Event 2) :=
  [.call 0 approval, .call 1 rejection, .step 0, .step 1] ++ List.replicate 6 (.step 0) ++
    List.replicate 3 (.step 1)

theorem decided_once_in_turn :
    DecidedOnce 1 requestRegistry
      (run (next .ascii 1) (State.initial (n := 2) requestRegistry) reviewsInTurn) :=
  @decided_once 2 .ascii requestRegistry requestRow reviewsInTurn (by decide) rfl (by decide)

/-- Both reviews take effect, and behind the request that is rejected stay the vehicle, the link
and the rules of the approval. -/
theorem rejected_with_grants :
    ¬ DecidedOnce 1 requestRegistry
      (run (next .ascii 1) (State.initial (n := 2) requestRegistry) overlappingReviews) := by
  intro once
  have bounded := once.audited
  revert bounded
  decide

end InfrasafeBot.AccessControl.Reviews
