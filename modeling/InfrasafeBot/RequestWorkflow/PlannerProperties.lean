import InfrasafeBot.RequestWorkflow.Planner

/-! What an accepted command has passed: inversion of the planner and of the
repeat check. -/

set_option autoImplicit false

namespace InfrasafeBot.RequestWorkflow

open Library

def plannedTransition (snap : WorkflowSnapshot) (command : ActionCommand)
    (actor : ActorContext) (principal : PrincipalRef) : TransitionResult :=
  let toStatus := effectiveToStatus command.action (actionTable command.action).toStatus snap
  { oldState := snap.request
    newCanonStatus := toStatus
    patch := buildPatch command.action toStatus actor command.payload
    domainOps := buildDomainOps command.action snap command.payload
    events := buildEvents command.action principal snap.request toStatus command.payload
    noOp := false }

variable {action : Action} {actor : ActorContext} {snap : WorkflowSnapshot}
  {command : ActionCommand} {result : TransitionResult}

theorem requireAllowed_eq_ok_iff :
    requireAllowed snap actor action = .ok () ↔
      normalizeStatus snap.request ∈ (actionTable action).fromStatuses ∧
        authorizes snap actor action = true := by
  rw [← mem_allowedActions]
  unfold requireAllowed
  constructor
  · intro accepted
    by_cases listed : action ∈ allowedActions snap actor
    · exact listed
    · simp only [List.contains_eq_mem, listed, decide_false, Bool.not_false, if_true] at accepted
      split at accepted <;> cases accepted
  · intro listed
    have started := (mem_allowedActions.mp listed).1
    simp [listed, started]

theorem enforceInProgressHasExecutor_eq_ok_iff {toCanon : RequestStatus} {patch : List PatchEntry} :
    enforceInProgressHasExecutor action toCanon snap patch = .ok () ↔
      (toCanon = .inProgress →
        (∃ entry ∈ patch, entry.column = .executorId ∧ (entry.op = .set ∨ entry.op = .setActor)) ∨
        snap.request.executorId.isSome = true) := by
  unfold enforceInProgressHasExecutor
  by_cases working : toCanon = .inProgress
  · by_cases sets : (patch.any fun entry =>
        entry.column = .executorId && (entry.op = .set || entry.op = .setActor)) = true
    · have listed : ∃ entry ∈ patch, entry.column = .executorId ∧
          (entry.op = .set ∨ entry.op = .setActor) := by
        simpa [List.any_eq_true] using sets
      simp [working, sets, listed]
    · have missing : ¬ ∃ entry ∈ patch, entry.column = .executorId ∧
          (entry.op = .set ∨ entry.op = .setActor) := by
        intro listed
        exact sets (by simpa [List.any_eq_true] using listed)
      cases assigned : snap.request.executorId.isSome with
      | true => simp [working]
      | false =>
        simp only [Bool.not_eq_true] at sets
        simp only [working, sets, ne_eq, not_true_eq_false, if_false, Bool.false_eq_true, forall_true_left]
        simp [missing]
  · simp [working]

theorem planTransition_eq_ok_iff {principal : PrincipalRef} {now : Moment} :
    planTransition snap command actor principal now = .ok result ↔
      (payloadSchemas command.action).validate command.action command.payload = .ok () ∧
      requireCanonicalGroup command.action command.payload = .ok () ∧
      normalizeStatus snap.request ∈ (actionTable command.action).fromStatuses ∧
      authorizes snap actor command.action = true ∧
      enforceInProgressHasExecutor command.action
        (plannedTransition snap command actor principal).newCanonStatus snap
        (plannedTransition snap command actor principal).patch = .ok () ∧
      result = plannedTransition snap command actor principal := by
  unfold planTransition
  rw [check_bind_eq_ok_iff, check_bind_eq_ok_iff, check_bind_eq_ok_iff, requireAllowed_eq_ok_iff, and_assoc]
  simp only [check_bind_eq_ok_iff, Except.ok.injEq, eq_comm (b := result)]
  rfl

theorem checkRepeat_eq_some_iff :
    checkRepeat snap command actor = .ok (some result) ↔
      normalizeStatus snap.request = (actionTable command.action).toStatus ∧
      normalizeStatus snap.request ∉ (actionTable command.action).fromStatuses ∧
      (actionTable command.action).repeatPolicy = .noOpIfSame ∧
      (∀ entry ∈ command.payload, isBlank entry.2 = true) ∧
      result = ⟨snap.request, normalizeStatus snap.request, [], [], [], true⟩ := by
  have blank_iff : (command.payload.any fun entry => !isBlank entry.2) = false ↔
      ∀ entry ∈ command.payload, isBlank entry.2 = true := by
    simp
  unfold checkRepeat
  by_cases reached : normalizeStatus snap.request = (actionTable command.action).toStatus
  · by_cases started :
        normalizeStatus snap.request ∈ (actionTable command.action).fromStatuses
    · simp [started]
    · rw [reached] at started ⊢
      cases policy : (actionTable command.action).repeatPolicy with
      | repeatable | reject => simp [started, policy]
      | noOpIfSame =>
        rw [← blank_iff]
        cases differs : command.payload.any fun entry => !isBlank entry.2 with
        | true => simp [started, policy]
        | false => simp [started, policy, eq_comm (b := result)]
  · simp [reached]

/-- The repeats that are answered without a transition. -/
def SilentRepeat (snap : WorkflowSnapshot) (command : ActionCommand) : Prop :=
  (command.action = .managerConfirm ∧ normalizeStatus snap.request = .completed ∨
    command.action = .systemDispatchAssign ∧ normalizeStatus snap.request = .inProgress) ∧
  ∀ entry ∈ command.payload, isBlank entry.2 = true

theorem noOpRepeat_iff {canon : RequestStatus} :
    canon = (actionTable action).toStatus ∧ canon ∉ (actionTable action).fromStatuses ∧
        (actionTable action).repeatPolicy = .noOpIfSame ↔
      action = .managerConfirm ∧ canon = .completed ∨
        action = .systemDispatchAssign ∧ canon = .inProgress := by
  cases action <;> simp [actionTable] <;> rintro rfl <;> simp

theorem silentRepeat_iff :
    SilentRepeat snap command ↔ ∃ result, checkRepeat snap command actor = .ok (some result) := by
  simp only [checkRepeat_eq_some_iff, SilentRepeat, ← noOpRepeat_iff]
  tauto

theorem checkRepeat_eq_none_of_started
    (started : normalizeStatus snap.request ∈ (actionTable command.action).fromStatuses) :
    checkRepeat snap command actor = .ok none := by
  simp [checkRepeat, started]

end InfrasafeBot.RequestWorkflow
