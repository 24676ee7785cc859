import InfrasafeBot.WorkflowRuns

/-! Statuses are stored in the canon: the older encodings are read, never written. -/

set_option autoImplicit false

namespace InfrasafeBot.StatusEncoding

open RequestWorkflow WebhookSender WorkflowRunner RequestLifecycle WorkflowRefinement WorkflowRuns

/-- «Исполнено», stored as «Выполнена» with the manager's confirmation. -/
def LegacyConfirmed (row : Request) : Prop :=
  row.status = .executed ∧ row.managerConfirmed = true ∧ row.isReturned = false

/-- «Возвращена», stored as «Исполнено» with the flag of a return. -/
def LegacyReturned (row : Request) : Prop := row.status = .completed ∧ row.isReturned = true

theorem LegacyConfirmed.decodable {db : Database} {row : Request}
    (legacy : LegacyConfirmed row) : Decodable (cardOf db row) := by
  obtain ⟨status, confirmed, unreturned⟩ := legacy
  have canon : (cardOf db row).canon = .completed := by
    simp [Card.canon, cardOf, WorkflowPatches.rowCard, status, confirmed, unreturned]
  constructor
  · simp [canon]
  · intro returned
    have unmarked : (cardOf db row).returned = false := unreturned
    simp [unmarked] at returned

theorem LegacyReturned.decodable {db : Database} {row : Request}
    (legacy : LegacyReturned row) : Decodable (cardOf db row) := by
  obtain ⟨status, returned⟩ := legacy
  have canon : (cardOf db row).canon = .returned := by
    simp [Card.canon, cardOf, WorkflowPatches.rowCard, status, returned]
  constructor <;> simp [canon]

/-- Every applied command stores the status it planned, in the canon, whatever
encoding the request started in; and from a fresh request the flags stay where
the canon has them. -/
theorem stored_status_canonical (deployment : Deployment) {db : Database}
    {number : RequestNumber} {row : Request} (stored : db.requests.find? number = some row)
    (start : FreshRequest db number row ∨ LegacyConfirmed row ∨ LegacyReturned row)
    (calls : List Call) :
    (∀ call outcome committed, call.requestNumber = number →
      runCommand deployment (runCalls deployment db calls) call = .ok (outcome, committed) →
      outcome.noOp = false →
      ∃ changed, committed.requests.find? number = some changed ∧
        normalizeStatus (newStateFrom changed) = outcome.newCanonStatus ∧
        changed.status = outcome.newCanonStatus) ∧
    (FreshRequest db number row →
      ∃ reached, (runCalls deployment db calls).requests.find? number = some reached ∧
        (reached.managerConfirmed = true →
          reached.status ∈ [RequestStatus.completed, .approved, .cancelled]) ∧
        (reached.isReturned = true →
          reached.status ∈ [RequestStatus.returned, .cancelled])) := by
  constructor
  · intro call outcome committed concerned accepted applied
    have decodable : Decodable (cardOf db row) := by
      rcases start with fresh | confirmed | returned
      · exact fresh.canonical.decodable
      · exact confirmed.decodable
      · exact returned.decodable
    obtain ⟨card, placed, readable⟩ :=
      card_invariant deployment Decodable (fun step held => (step.canonical held).decodable)
        (cardAt_of_found stored) decodable calls
    obtain ⟨reading, read, ⟨silent, _⟩ | ⟨changed, move, rfl⟩⟩ := runCommand_cases accepted
    · rw [silent] at applied
      cases applied
    · subst concerned
      have before := move.card_before.symm.trans placed
      cases before
      have canonical := move.step.canonical readable
      refine ⟨changed, move.stored, ?_, move.status⟩
      rw [canon_cardOf, canonical.canon_eq]
      exact move.status
  · intro fresh
    obtain ⟨card, placed, canonical⟩ :=
      card_invariant deployment Canonical (fun step held => step.canonical held.decodable)
        (cardAt_of_found stored) fresh.canonical calls
    obtain ⟨reached, found, rfl⟩ := Option.map_eq_some_iff.mp placed
    exact ⟨reached, found, canonical.confirmed, canonical.returned⟩

theorem stored_status_canonical_after_assign :
    let db := Database.ofRequest (sampleRequest .resident)
    let calls := [userCall sampleDirectory 5 "250101-001" 1 .managerAssign [("executor_id", .int 2)]]
    ∃ reached, (runCalls sampleDeployment db calls).requests.find? "250101-001" = some reached ∧
      (reached.managerConfirmed = true →
        reached.status ∈ [RequestStatus.completed, .approved, .cancelled]) ∧
      (reached.isReturned = true → reached.status ∈ [RequestStatus.returned, .cancelled]) :=
  (stored_status_canonical sampleDeployment (FreshRequest.created _ _ _ _).stored
    (.inl (.created _ _ _ _)) _).2 (.created _ _ _ _)

end InfrasafeBot.StatusEncoding
