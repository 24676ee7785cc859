import InfrasafeBot.RequestWorkflow.Guards

/-! The action table and the actions open to an actor
(`utils/request_workflow/specs.py`). -/

set_option autoImplicit false

namespace InfrasafeBot.RequestWorkflow

structure ActionSpec where
  fromStatuses : List RequestStatus
  toStatus : RequestStatus
  authorize : WorkflowSnapshot → ActorContext → Bool
  repeatPolicy : RepeatPolicy
  systemOnly : Bool

def actionTable : Action → ActionSpec
  | .systemDispatchAssign => ⟨[.new], .inProgress, fun _ actor => actor.kind = .system, .noOpIfSame, true⟩
  | .assignGroup => ⟨[.new], .new, fun _ actor => actor.kind = .system || isManager actor, .reject, false⟩
  | .managerAssign => ⟨[.new, .inProgress], .inProgress, fun _ actor => isManager actor, .noOpIfSame, false⟩
  | .executorPurchase => ⟨[.inProgress], .purchase, executorCanWork, .reject, false⟩
  | .managerPurchase => ⟨[.new, .inProgress], .purchase, fun _ actor => isManager actor, .reject, false⟩
  | .managerPurchaseDone => ⟨[.purchase], .inProgress, fun _ actor => isManager actor, .reject, false⟩
  | .clarifyRequest =>
    ⟨[.new, .inProgress, .purchase], .clarification, fun _ actor => isManager actor, .reject, false⟩
  | .clarifyResolved => ⟨[.clarification], .inProgress, fun _ actor => isManager actor, .reject, false⟩
  | .executorResume => ⟨[.purchase, .clarification], .inProgress, executorCanWork, .reject, false⟩
  | .executorClaim => ⟨[.new, .inProgress], .inProgress, executorCanClaim, .reject, false⟩
  | .systemAutoPromote => ⟨[.new, .inProgress], .inProgress, systemCanPromote, .reject, true⟩
  | .executorComplete => ⟨[.inProgress], .executed, executorCanWork, .repeatable, false⟩
  | .managerComplete =>
    ⟨[.inProgress, .purchase, .clarification], .executed, fun _ actor => isManager actor,
      .repeatable, false⟩
  | .managerConfirm => ⟨[.executed], .completed, fun _ actor => isManager actor, .noOpIfSame, false⟩
  | .managerReturnToWork =>
    ⟨[.executed, .returned, .completed], .inProgress, fun _ actor => isManager actor, .reject, false⟩
  | .applicantAccept => ⟨[.completed], .approved, canAccept, .reject, false⟩
  | .applicantReturn => ⟨[.completed], .returned, ownerCanReturn, .reject, false⟩
  | .managerForceAccept =>
    ⟨[.completed, .returned], .approved, fun _ actor => isManager actor, .reject, false⟩
  | .cancel =>
    ⟨canonStatuses.filter fun status => !terminalStatuses.contains status, .cancelled,
      canCancel, .reject, false⟩

/-- The keys of the table, in its order. -/
def Action.all : List Action :=
  [.systemDispatchAssign, .assignGroup, .managerAssign, .executorPurchase,
    .managerPurchase, .managerPurchaseDone, .clarifyRequest, .clarifyResolved,
    .executorResume, .executorClaim, .systemAutoPromote, .executorComplete,
    .managerComplete, .managerConfirm, .managerReturnToWork, .applicantAccept,
    .applicantReturn, .managerForceAccept, .cancel]

theorem Action.mem_all (action : Action) : action ∈ Action.all := by
  cases action <;> decide

/-- The right to an action, whatever the status of the request. -/
def authorizes (snap : WorkflowSnapshot) (actor : ActorContext) (action : Action) : Bool :=
  let spec := actionTable action
  match actor.kind with
  | .system => (systemCapabilities (actor.systemActor.getD "")).contains action && spec.authorize snap actor
  | .user => !spec.systemOnly && spec.authorize snap actor

def allowedActions (snap : WorkflowSnapshot) (actor : ActorContext) : List Action :=
  let canon := normalizeStatus snap.request
  Action.all.filter fun action =>
    (actionTable action).fromStatuses.contains canon && authorizes snap actor action

variable {action : Action} {actor : ActorContext} {snap : WorkflowSnapshot}

theorem mem_allowedActions :
    action ∈ allowedActions snap actor ↔
      normalizeStatus snap.request ∈ (actionTable action).fromStatuses ∧
        authorizes snap actor action = true := by
  simp [allowedActions, Action.mem_all]

theorem authorize_of_authorizes (right : authorizes snap actor action = true) :
    (actionTable action).authorize snap actor = true := by
  unfold authorizes at right
  cases kind : actor.kind with
  | system | user =>
    simp only [kind, Bool.and_eq_true] at right
    exact right.2

theorem user_of_executorCanClaim (right : executorCanClaim snap actor = true) : actor.kind = .user := by
  unfold executorCanClaim at right
  cases kind : actor.kind with
  | system => simp [kind] at right
  | user => rfl

theorem resident_of_canAccept (right : canAccept snap actor = true) :
    snap.request.acceptanceMode = .resident := by
  unfold canAccept at right
  cases mode : snap.request.acceptanceMode with
  | manager => simp [mode] at right
  | resident => rfl

theorem resident_of_ownerCanReturn (right : ownerCanReturn snap actor = true) :
    snap.request.acceptanceMode = .resident := by
  unfold ownerCanReturn at right
  cases mode : snap.request.acceptanceMode with
  | manager => simp [mode] at right
  | resident => rfl

end InfrasafeBot.RequestWorkflow
