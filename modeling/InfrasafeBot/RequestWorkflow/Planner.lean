import Mathlib.Data.List.Sort
import InfrasafeBot.RequestWorkflow.Payloads
import InfrasafeBot.RequestWorkflow.Specs

/-! The transition planner: patches, domain operations and events of a command,
repeats, and the resolution of a wanted status
(`utils/request_workflow/planner.py`). -/

set_option autoImplicit false

namespace InfrasafeBot.RequestWorkflow

open Library Specializations

def storageStatus (canon : RequestStatus) : RequestStatus := canon

def givenEntry (payload : Payload) (key : String) (column : Column) (op : Op) : List PatchEntry :=
  if (payload.get key).isNone then [] else [⟨column, op, payload.get key⟩]

private def stripped : PyValue → PyValue
  | .str text => .str (pyStrip text)
  | value => value

def buildPatch (action : Action) (toCanon : RequestStatus) (actor : ActorContext)
    (payload : Payload) : List PatchEntry :=
  ⟨.status, .set, .str (storageStatus toCanon).text⟩ ::
    match action with
    | .systemDispatchAssign | .managerAssign | .assignGroup =>
      let hasExecutor := !(payload.get "executor_id").isNone
      let hasGroup := !(payload.get "group").isNone
      (if hasExecutor then
        [⟨.executorId, .set, payload.get "executor_id"⟩,
          ⟨.assignmentType, .set, .str "individual"⟩,
          ⟨.assignedGroup, .clear, .none⟩] else []) ++
      (if hasGroup then
        [⟨.assignedGroup, .set, payload.get "group"⟩,
          ⟨.assignmentType, .set, .str "group"⟩,
          ⟨.executorId, .clear, .none⟩] else []) ++
      (if hasExecutor || hasGroup then
        ⟨.assignedAt, .setNow, .none⟩ ::
          (if actor.kind = .user then [⟨.assignedBy, .setActor, .none⟩] else []) else [])
    | .executorClaim =>
      [⟨.executorId, .setActor, .none⟩, ⟨.assignmentType, .set, .str "individual"⟩,
        ⟨.assignedAt, .setNow, .none⟩, ⟨.assignedGroup, .clear, .none⟩]
    | .systemAutoPromote =>
      [⟨.executorId, .set, payload.get "executor_id"⟩,
        ⟨.assignmentType, .set, .str "individual"⟩,
        ⟨.assignedGroup, .clear, .none⟩, ⟨.assignedAt, .setNow, .none⟩]
    | .executorPurchase => [⟨.requestedMaterials, .set, payload.get "requested_materials"⟩]
    | .managerPurchase => givenEntry payload "requested_materials" .requestedMaterials .set
    | .managerPurchaseDone =>
      givenEntry payload "manager_materials_comment" .managerMaterialsComment .set ++
        givenEntry payload "requested_materials" .requestedMaterials .set
    | .executorComplete | .managerComplete =>
      givenEntry payload "completion_report" .completionReport .set ++
        givenEntry payload "completion_media" .completionMedia .set ++
        [⟨.isReturned, .set, .bool false⟩]
    | .clarifyRequest => givenEntry payload "notes" .notes .append
    | .managerConfirm =>
      [⟨.managerConfirmed, .set, .bool true⟩, ⟨.managerConfirmedBy, .setActor, .none⟩,
        ⟨.managerConfirmedAt, .setNow, .none⟩, ⟨.isReturned, .set, .bool false⟩] ++
      (if toCanon = .approved then [⟨.completedAt, .setNow, .none⟩] else []) ++
      givenEntry payload "confirmation_notes" .managerConfirmationNotes .set
    | .managerReturnToWork =>
      [⟨.isReturned, .set, .bool false⟩, ⟨.managerConfirmed, .set, .bool false⟩,
        ⟨.managerReturnReason, .set, stripped (payload.get "reason")⟩]
    | .applicantAccept => [⟨.completedAt, .setNow, .none⟩]
    | .applicantReturn =>
      [⟨.isReturned, .set, .bool true⟩,
        ⟨.returnReason, .set, payload.get "return_reason"⟩,
        ⟨.returnMedia, .set,
          if (payload.get "return_media").truthy then payload.get "return_media"
          else .list []⟩,
        ⟨.returnedAt, .setNow, .none⟩, ⟨.returnedBy, .setActor, .none⟩,
        ⟨.managerConfirmed, .set, .bool false⟩]
    | .managerForceAccept =>
      [⟨.completedAt, .setNow, .none⟩, ⟨.isReturned, .set, .bool false⟩] ++
        givenEntry payload "confirmation_notes" .managerConfirmationNotes .append
    | .cancel => givenEntry payload "notes" .notes .append
    | .clarifyResolved | .executorResume => []

def buildDomainOps (action : Action) (_snap : WorkflowSnapshot) (payload : Payload) : List DomainOp :=
  match action with
  | .applicantAccept => [.createRating (payload.get "rating")]
  | .cancel => [.cancelActiveAssignments]
  | .executorClaim => [.claimGroupAssignment]
  | .systemAutoPromote => [.promoteGroupAssignment (payload.get "executor_id")]
  | .systemDispatchAssign | .managerAssign | .assignGroup =>
    if !(payload.get "executor_id").isNone || !(payload.get "group").isNone then [.createAssignment payload]
    else []
  | _ => []

def safePayloadKeys : List String := ["rating", "executor_id", "group", "reason", "question"]

def safePayload (payload : Payload) : Payload :=
  payload.filter fun entry => safePayloadKeys.contains entry.1

def PrincipalRef.identity (principal : PrincipalRef) : PrincipalId :=
  match principal.userId with
  | some id => if id = 0 then .system principal.systemActor else .user id
  | none => .system principal.systemActor

def buildEvents (action : Action) (principal : PrincipalRef) (old : RequestState)
    (newCanon : RequestStatus) (payload : Payload) : List EventIntent :=
  let oldCanon := normalizeStatus old
  let oldPublic := projectPublicStatus old
  let newPublic := if newCanon = .returned then .completed else newCanon
  [.audit action oldCanon newCanon old.status principal.kind principal.identity
    principal.source (safePayload payload)] ++
  (if newPublic ≠ oldPublic then
    [.webhook old.requestNumber oldPublic newPublic, .realtime old.requestNumber newPublic] else []) ++
  [.notify action old.requestNumber]

def effectiveToStatus (action : Action) (toCanon : RequestStatus) (snap : WorkflowSnapshot) :
    RequestStatus :=
  if action = .managerConfirm ∧ snap.request.acceptanceMode = .manager then .approved
  else toCanon

def enforceInProgressHasExecutor (action : Action) (toCanon : RequestStatus)
    (snap : WorkflowSnapshot) (patch : List PatchEntry) : Except WorkflowError Unit :=
  let setsExecutor := patch.any fun entry =>
    entry.column = .executorId && (entry.op = .set || entry.op = .setActor)
  if toCanon ≠ .inProgress then .ok ()
  else if setsExecutor then .ok ()
  else if snap.request.executorId.isSome then .ok ()
  else .error (.invalidTransition
    (s!"{action.value}: «{RequestStatus.inProgress.text}» без исполнителя — " ++
      "назначьте исполнителя (заявка осталась бы ничьей)"))

def requireCanonicalGroup (action : Action) (payload : Payload) : Except WorkflowError Unit :=
  if action = .assignGroup then
    let group := pyStrip ((payload.get "group").asText.getD "")
    if isCanonical group then .ok ()
    else .error (.payloadInvalid s!"{action.value}: неизвестная специализация {pyRepr group}")
  else .ok ()

/-- The refusals after the payload: an actor without the right, then a status the
action does not start from. -/
def requireAllowed (snap : WorkflowSnapshot) (actor : ActorContext) (action : Action) :
    Except WorkflowError Unit :=
  let spec := actionTable action
  let canon := normalizeStatus snap.request
  if !(allowedActions snap actor).contains action then
    if spec.fromStatuses.contains canon || canon = spec.toStatus then
      .error (.notAuthorized s!"{action.value}: actor not permitted")
    else .error (.invalidTransition s!"{action.value}: not allowed from '{canon.text}'")
  else if !spec.fromStatuses.contains canon then
    .error (.invalidTransition s!"{action.value}: not allowed from '{canon.text}'")
  else .ok ()

def planTransition (snap : WorkflowSnapshot) (command : ActionCommand) (actor : ActorContext)
    (principal : PrincipalRef) (_now : Moment) : Except WorkflowError TransitionResult := do
  let action := command.action
  (payloadSchemas action).validate action command.payload
  requireCanonicalGroup action command.payload
  requireAllowed snap actor action
  let toStatus := effectiveToStatus action (actionTable action).toStatus snap
  let patch := buildPatch action toStatus actor command.payload
  enforceInProgressHasExecutor action toStatus snap patch
  .ok {
    oldState := snap.request
    newCanonStatus := toStatus
    patch
    domainOps := buildDomainOps action snap command.payload
    events := buildEvents action principal snap.request toStatus command.payload
    noOp := false
  }

def isBlank : PyValue → Bool
  | .none => true
  | .str text => text = ""
  | .list items => items.isEmpty
  | _ => false

def checkRepeat (snap : WorkflowSnapshot) (command : ActionCommand) (_actor : ActorContext) :
    Except WorkflowError (Option TransitionResult) :=
  let spec := actionTable command.action
  let canon := normalizeStatus snap.request
  if canon ≠ spec.toStatus || spec.fromStatuses.contains canon then .ok none
  else
    match spec.repeatPolicy with
    | .repeatable => .ok none
    | .reject => .error (.repeatRejected s!"{command.action.value}: already '{canon.text}'")
    | .noOpIfSame =>
      if command.payload.any fun entry => !isBlank entry.2 then
        .error (.repeatConflict
          s!"{command.action.value}: state already '{canon.text}' but payload differs")
      else
        .ok (some {
          oldState := snap.request
          newCanonStatus := canon
          patch := []
          domainOps := []
          events := []
          noOp := true
        })

def statusResolveExclude : List Action := [.executorClaim, .systemAutoPromote]

def resolvePriority : Action → Nat
  | .applicantAccept | .applicantReturn | .executorComplete | .executorPurchase
  | .executorResume => 0
  | .managerConfirm | .managerAssign | .managerReturnToWork | .managerPurchaseDone
  | .managerPurchase | .managerComplete | .clarifyRequest | .clarifyResolved => 1
  | .managerForceAccept | .cancel => 2
  | _ => 9

def resolveCandidates (snap : WorkflowSnapshot) (actor : ActorContext)
    (intent : LegacyStatusIntent) : List Action :=
  let candidates := (allowedActions snap actor).filter fun action =>
    (actionTable action).toStatus = intent.targetStatus && !statusResolveExclude.contains action
  if (intent.payload.get "rating").truthy then candidates
  else candidates.filter fun action => action ≠ .applicantAccept

def resolveCommand (snap : WorkflowSnapshot) (actor : ActorContext)
    (intent : LegacyStatusIntent) : Except WorkflowError ActionCommand :=
  match (resolveCandidates snap actor intent).insertionSort
      (fun left right => resolvePriority left ≤ resolvePriority right) with
  | [] =>
    let canon := (normalizeStatus snap.request).text
    let target := intent.targetStatus.text
    .error (.invalidTransition s!"no action maps '{canon}' -> '{target}' for this actor")
  | action :: _ => .ok ⟨intent.commandId, action, intent.payload⟩

end InfrasafeBot.RequestWorkflow
