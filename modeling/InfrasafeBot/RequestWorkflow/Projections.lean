import InfrasafeBot.RequestWorkflow.Types

/-! Canonical status from either stored encoding, and what is shown outside
(`utils/request_workflow/projections.py`). -/

set_option autoImplicit false

namespace InfrasafeBot.RequestWorkflow

def normalizeStatus (state : RequestState) : RequestStatus :=
  if state.status = .completed ∧ state.isReturned = true then .returned
  else if state.status = .executed ∧ state.managerConfirmed = true ∧
      state.isReturned = false then .completed
  else state.status

def projectPublicStatus (state : RequestState) : RequestStatus :=
  let canon := normalizeStatus state
  if canon = .returned then .completed else canon

end InfrasafeBot.RequestWorkflow
