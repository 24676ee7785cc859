import InfrasafeBot.WorkflowRuns

/-! The two places that say who has a request, its row and its assignments, agree
in every reachable state. -/

set_option autoImplicit false

namespace InfrasafeBot.AssignmentCoherence

open Library RequestWorkflow WebhookSender WorkflowRunner RequestLifecycle
  WorkflowOperations WorkflowRefinement WorkflowRuns

def activeRows (db : Database) (number : RequestNumber) : List RequestAssignment :=
  db.assignments.rows.filter (RequestAssignment.isActiveOf number)

structure AssignmentsMirrored (db : Database) (number : RequestNumber) (row : Request) : Prop where
  single : (activeRows db number).length ≤ 1
  working : row.status = .inProgress → row.executorId ≠ none
  individual : ∀ assignment ∈ activeRows db number,
    assignment.assignmentType = .individual →
      row.executorId = assignment.executorId ∧ row.assignmentType = some .individual ∧
        row.assignedGroup = none
  group : ∀ assignment ∈ activeRows db number, assignment.assignmentType = .group →
    assignment.executorId = none ∧ row.executorId = none ∧
      row.assignmentType = some .group ∧
      row.assignedGroup = assignment.groupSpecialization
  vacant : isTerminal (normalizeStatus (newStateFrom row)) = false →
    activeRows db number = [] → row.executorId = none

theorem holding_mem_active {db : Database} {row : Request} {assignment : RequestAssignment}
    (member : assignment ∈ activeRows db row.requestNumber) :
    holding assignment ∈ (cardOf db row).active :=
  List.mem_map_of_mem member

theorem AssignmentsMirrored.of_card {db : Database} {row : Request}
    (canonical : Canonical (cardOf db row)) (coherent : Coherent (cardOf db row)) :
    AssignmentsMirrored db row.requestNumber row where
  single := by
    have bounded := coherent.single
    rwa [cardOf, WorkflowPatches.rowCard, activeOf, List.length_map] at bounded
  working := coherent.working
  individual assignment member typed := coherent.individual _ (holding_mem_active member) typed
  group assignment member typed := coherent.group _ (holding_mem_active member) typed
  vacant := by
    intro running empty
    have unfinished : (cardOf db row).status ∉ terminalStatuses := by
      rw [canon_cardOf, canonical.canon_eq] at running
      simpa [isTerminal] using running
    refine coherent.vacant unfinished ?_
    change (activeRows db row.requestNumber).map holding = []
    rw [empty, List.map_nil]

/-- In every run, whoever calls and whatever fails, the request row mirrors its
single active assignment. -/
theorem assignments_mirrored (deployment : Deployment) {db : Database}
    {number : RequestNumber} {row : Request} (fresh : FreshRequest db number row)
    (calls : List Call) :
    ∃ reached, (runCalls deployment db calls).requests.find? number = some reached ∧
      AssignmentsMirrored (runCalls deployment db calls) number reached := by
  obtain ⟨card, placed, canonical, coherent⟩ :=
    card_invariant deployment (fun card => Canonical card ∧ Coherent card)
      (fun step held => ⟨step.canonical held.1.decodable, step.coherent held.1 held.2⟩)
      (cardAt_of_found fresh.stored) ⟨fresh.canonical, fresh.coherent⟩ calls
  obtain ⟨reached, found, rfl⟩ := Option.map_eq_some_iff.mp placed
  have key : reached.requestNumber = number := Table.key_of_find? found
  exact ⟨reached, found, key ▸ .of_card canonical coherent⟩

theorem assignments_mirrored_after_assign :
    let db := Database.ofRequest (sampleRequest .resident)
    let calls := [userCall sampleDirectory 5 "250101-001" 1 .managerAssign [("executor_id", .int 2)]]
    ∃ reached, (runCalls sampleDeployment db calls).requests.find? "250101-001" = some reached ∧
      AssignmentsMirrored (runCalls sampleDeployment db calls) "250101-001" reached :=
  assignments_mirrored _ (.created _ _ _ _) _

end InfrasafeBot.AssignmentCoherence
