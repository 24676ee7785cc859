import InfrasafeBot.AcceptanceList
import InfrasafeBot.ManagerReview

/-! The predicates that lists read the states by (`utils/workflow_predicates.py`), each with its
clause for queries. -/

set_option autoImplicit false

namespace InfrasafeBot.WorkflowPredicates

open RequestWorkflow WebhookSender WorkflowRunner WorkflowRefinement WorkflowRuns AcceptanceList

section

variable (row : Request)

def awaitingApplicantClause : Bool :=
  !row.isReturned && (row.status = .completed || row.status = .executed && row.managerConfirmed)

def isAwaitingManager : Bool := row.status = .executed && !row.managerConfirmed

def awaitingManagerClause : Bool := row.status = .executed && row.managerConfirmed = false

def isReturnedForReview : Bool :=
  if row.status = .returned then true else row.status = .completed && row.isReturned

def returnedForReviewClause : Bool := row.status = .returned || row.status = .completed && row.isReturned

def isReportEligible : Bool :=
  row.status ∈ [RequestStatus.completed, .approved] && !row.isReturned

def reportEligibleClause : Bool :=
  row.status ∈ [RequestStatus.completed, .approved] && row.isReturned = false

/-- What each predicate and its clause are to tell of the canonical status. -/
def readings : List ((Request → Bool) × (Request → Bool) × (RequestStatus → Bool)) :=
  [(isAwaitingApplicant, awaitingApplicantClause, (· = .completed)),
    (isAwaitingManager, awaitingManagerClause, (· = .executed)),
    (isReturnedForReview, returnedForReviewClause, (· = .returned)),
    (isReportEligible, reportEligibleClause, (· ∈ [RequestStatus.completed, .approved]))]

/-- Python and SQL read the row alike, and as its canonical status is. -/
def ReadsCanonically : Prop := ∀ reading ∈ readings,
  reading.1 row = reading.2.2 (normalizeStatus (newStateFrom row)) ∧ reading.2.1 row = reading.1 row

end

end InfrasafeBot.WorkflowPredicates
