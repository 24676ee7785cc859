import InfrasafeBot.Database
import InfrasafeBot.Library.Separators

/-! The write side of the webhook outbox: deterministic event identities and the
insert that ignores an identity already queued (`services/webhook_sender.py`,
`services/webhook_payloads.py`). -/

set_option autoImplicit false

namespace InfrasafeBot.WebhookSender

open Library RequestWorkflow

/-- The settings of an installation, and the name-based UUID of its namespace. -/
structure Deployment where
  webhookEnabled : Bool
  sourceInstance : String
  systemUserTelegramId : Int
  uuid5 : String → String

structure EventIdentity where
  version : Option Nat
  repairRunId : Option String

def versionedEvents : List String :=
  ["building.updated", "building.deleted", "request.status_changed", "request.reconcile"]

def oneShotEvents : List String := ["building.created", "request.created"]

def repairOnlyEvents : List String := ["request.reconcile"]

private def checkIdentity (event : String) (identity : EventIdentity) : Except String Unit :=
  if identity.version.isSome && identity.repairRunId.isSome then
    .error s!"{event}: version и repair_run_id взаимоисключающи"
  else if !versionedEvents.contains event && !oneShotEvents.contains event then
    .error (s!"{event}: неизвестное контрактное событие — добавь в " ++
      "_VERSIONED_EVENTS/_ONE_SHOT_EVENTS (webhook_sender.py)")
  else if repairOnlyEvents.contains event && identity.version.isSome then
    .error s!"{event}: repair-only событие не принимает version"
  else if repairOnlyEvents.contains event && identity.repairRunId.getD "" = "" then
    .error s!"{event}: repair-only событие, требуется непустой repair_run_id"
  else .ok ()

def eventName (source event entityKey : String) (identity : EventIdentity) : Except String String :=
  match identity.repairRunId with
  | some nonce => .ok s!"{source}:{event}:{entityKey}:repair:{nonce}"
  | none =>
    if versionedEvents.contains event then
      match identity.version with
      | none => .error (s!"{event}: требуется EventIdentity.version или repair_run_id " ++
          "(тихий uuid4-фолбэк запрещён)")
      | some version => .ok s!"{source}:{event}:{entityKey}:{version}"
    else if identity.version.isSome then .error s!"{event}: one-shot событие не принимает version"
    else .ok s!"{source}:{event}:{entityKey}"

def deterministicEventId (deployment : Deployment) (event entityKey : String)
    (identity : Option EventIdentity) : Except String String := do
  let identity := identity.getD ⟨none, none⟩
  checkIdentity event identity
  let name ← eventName deployment.sourceInstance event entityKey identity
  .ok (deployment.uuid5 name)

def requestWebhookEndpoint : String := "/api/webhooks/uk/request"

/-- The data of a `request.status_changed` event. -/
structure StatusChange where
  requestNumber : RequestNumber
  oldStatus : RequestStatus
  newStatus : RequestStatus

def buildRequestPayload (deployment : Deployment) (event : String) (data : StatusChange)
    (identity : Option EventIdentity) : Except String WebhookPayload := do
  let eventId ← deterministicEventId deployment event data.requestNumber identity
  .ok ⟨eventId, event, data.requestNumber, data.oldStatus, data.newStatus⟩

/-- `INSERT ... ON CONFLICT (event_id) DO NOTHING` of a pending record. -/
def insertOutbox (outbox : Table WebhookOutbox.id) (clock : Moment) (event endpoint : String)
    (payload : WebhookPayload) : Table WebhookOutbox.id :=
  if outbox.rows.any fun row => row.eventId = payload.eventId then outbox
  else
    outbox.insert (fun id =>
      { id
        eventId := payload.eventId
        event
        endpoint
        payload
        status := .pending
        attempts := 0
        lastError := none
        retryAfter := none
        createdAt := clock
        sentAt := none
        claimToken := none
        claimedAt := none
        claimCount := 0 }) fun _ => rfl

def queueWebhook (deployment : Deployment) (outbox : Table WebhookOutbox.id) (clock : Moment)
    (event endpoint : String) (data : StatusChange) (identity : Option EventIdentity) :
    Except String (Table WebhookOutbox.id) :=
  if !deployment.webhookEnabled then .ok outbox
  else do
    let payload ← buildRequestPayload deployment event data identity
    .ok (insertOutbox outbox clock event endpoint payload)

def statusChangedEvent : String := "request.status_changed"

def emitRequestStatusChanged (deployment : Deployment) (outbox : Table WebhookOutbox.id)
    (clock : Moment) (data : StatusChange) (identity : Option EventIdentity) :
    Except String (Table WebhookOutbox.id) :=
  queueWebhook deployment outbox clock statusChangedEvent requestWebhookEndpoint data identity

/-- The identity of the `version`-th status change of a request. -/
def statusChangedId (deployment : Deployment) (number : RequestNumber) (version : Nat) : String :=
  deployment.uuid5 s!"{deployment.sourceInstance}:{statusChangedEvent}:{number}:{version}"

theorem deterministicEventId_statusChanged (deployment : Deployment) (number : RequestNumber)
    (version : Nat) :
    deterministicEventId deployment statusChangedEvent number (some ⟨some version, none⟩) =
      .ok (statusChangedId deployment number version) := by
  rfl

theorem emitRequestStatusChanged_eq (deployment : Deployment)
    (outbox : Table WebhookOutbox.id) (clock : Moment) (data : StatusChange) (version : Nat) :
    emitRequestStatusChanged deployment outbox clock data (some ⟨some version, none⟩) =
      .ok (if deployment.webhookEnabled then
        insertOutbox outbox clock statusChangedEvent requestWebhookEndpoint
          ⟨statusChangedId deployment data.requestNumber version, statusChangedEvent,
            data.requestNumber, data.oldStatus, data.newStatus⟩
      else outbox) := by
  unfold emitRequestStatusChanged queueWebhook buildRequestPayload
  rw [deterministicEventId_statusChanged]
  cases deployment.webhookEnabled with
  | true => rfl
  | false => rfl

def requestReconcileEvent : String := "request.reconcile"

theorem deterministicEventId_reconcile (deployment : Deployment) (number : RequestNumber)
    {runId : String} (filled : runId ≠ "") :
    deterministicEventId deployment requestReconcileEvent number (some ⟨none, some runId⟩) =
      .ok (deployment.uuid5
        s!"{deployment.sourceInstance}:{requestReconcileEvent}:{number}:repair:{runId}") := by
  have checked : checkIdentity requestReconcileEvent ⟨none, some runId⟩ = .ok () := by
    simp [checkIdentity, filled, versionedEvents, repairOnlyEvents, requestReconcileEvent]
  rw [deterministicEventId, Option.getD_some, checked]
  rfl

/-- The name of a status change determines the request and the version, whatever
characters the request number holds: no version contains the separator. -/
theorem statusChanged_name_injective {source first second : String} {before after : Nat}
    (same : s!"{source}:{statusChangedEvent}:{first}:{before}" =
      s!"{source}:{statusChangedEvent}:{second}:{after}") :
    first = second ∧ before = after := by
  change source ++ ":" ++ statusChangedEvent ++ ":" ++ first ++ ":" ++ Nat.repr before =
    source ++ ":" ++ statusChangedEvent ++ ":" ++ second ++ ":" ++ Nat.repr after at same
  have chars := congrArg String.toList same
  simp only [String.toList_append] at chars
  obtain ⟨keys, versions⟩ := last_separator_unique (not_mem_repr rfl before)
    (not_mem_repr rfl after) (by simpa using chars)
  exact ⟨String.toList_inj.mp (by simpa using keys), repr_toList_injective versions⟩

end InfrasafeBot.WebhookSender
