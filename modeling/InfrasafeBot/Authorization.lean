import InfrasafeBot.WorkflowRuns

/-! Who gets an answer: a planned transition has passed every guard, a repeat is
answered before any of them. -/

set_option autoImplicit false

namespace InfrasafeBot.Authorization

open Library RequestWorkflow WorkflowRunner WorkflowRefinement WorkflowRuns

/-- The actor has the right to the command's action and its payload is accepted. -/
def Entitled (snap : WorkflowSnapshot) (command : ActionCommand) (actor : ActorContext) : Prop :=
  authorizes snap actor command.action = true ∧
    (payloadSchemas command.action).validate command.action command.payload = .ok ()

/-- A payload of at most the confirmation notes, which are not a list. -/
def OnlyNotes (payload : Payload) : Prop :=
  ∀ entry ∈ payload, entry.1 = "confirmation_notes" ∧ (payload.get entry.1).isInstance .list = false

theorem authorizes_managerConfirm_iff {snap : WorkflowSnapshot} {actor : ActorContext} :
    authorizes snap actor .managerConfirm = true ↔ isManager actor = true := by
  have incapable : ∀ name, Action.managerConfirm ∉ systemCapabilities name := by
    intro name
    unfold systemCapabilities
    split
    · decide
    · split <;> decide
  unfold authorizes isManager
  cases kind : actor.kind with
  | system => simp [incapable]
  | user => simp [actionTable, isManager, kind]

theorem get_blank {payload : Payload} (blank : ∀ entry ∈ payload, isBlank entry.2 = true)
    (key : String) : isBlank (payload.get key) = true := by
  unfold Payload.get
  cases found : payload.lookup key with
  | none => rfl
  | some value =>
    obtain ⟨before, after, split, _⟩ := List.lookup_eq_some_iff.mp found
    exact blank (key, value) (by simp [split])

theorem validate_confirm_iff {payload : Payload}
    (blank : ∀ entry ∈ payload, isBlank entry.2 = true) :
    (payloadSchemas .managerConfirm).validate .managerConfirm payload = .ok () ↔
      OnlyNotes payload := by
  rw [PayloadSchema.validate_optional_iff rfl rfl]
  unfold OnlyNotes
  refine forall₂_congr fun entry member => ?_
  have empty := get_blank blank entry.1
  by_cases notes : entry.1 = "confirmation_notes"
  · rw [notes] at empty ⊢
    cases value : payload.get "confirmation_notes" <;>
      simp_all [payloadSchemas, PyValue.isInstance, PyValue.isNone, isBlank]
  · have unknown : (payloadSchemas .managerConfirm).optional.lookup entry.1 = none := by
      simp [payloadSchemas, List.lookup_cons, beq_eq_false_iff_ne.mpr notes]
    simp [notes, unknown]

theorem validate_dispatch_blank {payload : Payload}
    (blank : ∀ entry ∈ payload, isBlank entry.2 = true) :
    (payloadSchemas .systemDispatchAssign).validate .systemDispatchAssign payload ≠ .ok () := by
  intro accepted
  obtain ⟨executor, stored, _⟩ := executor_of_validate rfl accepted
  have empty := get_blank blank "executor_id"
  cases value : payload.get "executor_id" <;> simp_all [isBlank, PyValue.asInteger]

/-- A decision is made for the entitled only, exactly when no repeat is answered to
anyone but a manager who confirms without a payload. -/
theorem decided_entitled_iff (snap : WorkflowSnapshot) (command : ActionCommand)
    (actor : ActorContext) (principal : PrincipalRef) (now : Moment) :
    (∀ result, decideTransition snap command actor principal now = .ok result →
      Entitled snap command actor) ↔
    (SilentRepeat snap command →
      command.action = .managerConfirm ∧ isManager actor = true ∧
        OnlyNotes command.payload) := by
  constructor
  · intro entitled silent
    obtain ⟨right, accepted⟩ := entitled _ (decideTransition_eq_ok_iff.mpr (.inl ⟨silent, rfl⟩))
    obtain ⟨action | action, blank⟩ := silent
    · have confirms := action.1
      rw [confirms] at right accepted
      exact ⟨confirms, authorizes_managerConfirm_iff.mp right, (validate_confirm_iff blank).mp accepted⟩
    · rw [action.1] at accepted
      exact absurd accepted (validate_dispatch_blank blank)
  · intro repeats result decided
    rcases decideTransition_eq_ok_iff.mp decided with ⟨silent, _⟩ | planned
    · obtain ⟨confirms, manager, notes⟩ := repeats silent
      unfold Entitled
      rw [confirms]
      exact ⟨authorizes_managerConfirm_iff.mpr manager, (validate_confirm_iff silent.2).mpr notes⟩
    · obtain ⟨accepted, _, _, right, _⟩ := planTransition_eq_ok_iff.mp planned
      exact ⟨right, accepted⟩

def confirmedRequest : Request :=
  { sampleRequest .resident with status := .completed, managerConfirmed := true }

def strangersRepeat : Call := userCall sampleDirectory 5 "250101-001" 2 .managerConfirm []

/-- The repeat is answered to an executor, who learns the request's state. -/
theorem repeat_answers_stranger :
    ∃ reading result, readUnderLock (.ofRequest confirmedRequest) strangersRepeat = .ok reading ∧
      decideTransition reading.snap reading.command reading.actor strangersRepeat.principal
        strangersRepeat.now = .ok result ∧
      runCommand sampleDeployment (.ofRequest confirmedRequest) strangersRepeat =
        .ok (buildOutcome reading.row reading.snap result, .ofRequest confirmedRequest) ∧
      ¬ Entitled reading.snap reading.command reading.actor := by
  refine ⟨_, _, rfl, rfl, rfl, ?_⟩
  rintro ⟨right, _⟩
  exact absurd right (by decide)

end InfrasafeBot.Authorization
