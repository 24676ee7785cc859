import Mathlib.Data.List.Sort
import InfrasafeBot.WebhookSender

/-! The delivery of the webhook outbox: workers claim rows under a lease, send them
outside any transaction, and finalize by compare-and-set on the claim's token
(`services/webhook_sender.py`, `process_outbox`). -/

set_option autoImplicit false

namespace InfrasafeBot.OutboxDelivery

open Library RequestWorkflow

structure Settings where
  webhookEnabled : Bool
  webhookUrl : String
  webhookSecret : String
  webhookSecretNext : String
  useNextSecret : Bool
  maxRetries : Nat
  claimBatch : Nat
  leaseSeconds : Nat

inductive HttpResult where
  | response (statusCode : Nat) (retryAfter : Option String)
  | timeout (message : String)
  | requestError (message : String)

structure SendResult where
  success : Bool
  error : String
  retryable : Bool
  retryAfterSeconds : Int

def retryAfterOf (header : Option String) : Int :=
  match header with
  | none => 60
  | some text => if text = "" then 60 else (pyInt text).getD 60

def sendWebhook : HttpResult → SendResult
  | .response code header =>
    if code = 200 then ⟨true, "", false, 0⟩
    else if code = 429 then ⟨false, "HTTP 429: rate limited", true, retryAfterOf header⟩
    else if code = 400 || code = 401 || code = 403 then ⟨false, s!"HTTP {code}: permanent error", false, 0⟩
    else if code = 503 then ⟨false, "HTTP 503: service unavailable", true, 0⟩
    else if code ≥ 500 then ⟨false, s!"HTTP {code}: server error", true, 0⟩
    else ⟨false, s!"HTTP {code}: unexpected status", true, 0⟩
  | .timeout message => ⟨false, s!"Timeout: {message}", true, 0⟩
  | .requestError message => ⟨false, s!"Request error: {message}", true, 0⟩

/-- How one delivery of a batch ends: with a result, or with an exception of the
worker itself. -/
inductive Attempt where
  | answered (result : HttpResult)
  | raised (message : String)

structure Claim where
  id : Nat
  token : String
  endpoint : String
  payload : WebhookPayload
  attempts : Nat
  eventId : String
  event : String

structure Delivery where
  claim : Claim
  outcome : Option Attempt

def claimable (now leaseCutoff : Moment) (row : WebhookOutbox) : Bool :=
  (row.status = .pending && row.retryAfter.all (· ≤ now)) ||
    (row.status = .inFlight && row.claimedAt.any (· < leaseCutoff))

def claimRecords (settings : Settings) (now : Moment) (locked : List Nat)
    (outbox : Table WebhookOutbox.id) : List WebhookOutbox :=
  ((outbox.rows.filter fun row =>
      claimable now (now - settings.leaseSeconds) row && !locked.contains row.id).insertionSort
    fun left right => left.createdAt ≤ right.createdAt).take settings.claimBatch

def claimRow (now : Moment) (token : String) (row : WebhookOutbox) : WebhookOutbox :=
  { row with
    status := .inFlight
    claimedAt := some now
    claimToken := some token
    claimCount := row.claimCount + 1 }

def claimOf (token : String) (row : WebhookOutbox) : Claim :=
  ⟨row.id, token, row.endpoint, row.payload, row.attempts, row.eventId, row.event⟩

def tokenFor (taken : List (WebhookOutbox × String)) (id : Nat) : Option String :=
  (taken.find? fun entry => entry.1.id = id).map (·.2)

def claimTaken (now : Moment) (taken : List (WebhookOutbox × String))
    (row : WebhookOutbox) : WebhookOutbox :=
  match tokenFor taken row.id with
  | some token => claimRow now token row
  | none => row

theorem claimTaken_id (now : Moment) (taken : List (WebhookOutbox × String))
    (row : WebhookOutbox) : (claimTaken now taken row).id = row.id := by
  unfold claimTaken
  split <;> rfl

def holds (claim : Claim) (row : WebhookOutbox) : Bool :=
  row.id = claim.id && row.claimToken = some claim.token && row.status = .inFlight

def backoffDelays : List Int := [2, 4, 8]

def backoffDelay (newAttempts : Nat) : Int :=
  backoffDelays.getD (min (newAttempts - 1) (backoffDelays.length - 1)) 0

def finalizedRow (settings : Settings) (now : Moment) (claim : Claim) (outcome : Attempt)
    (row : WebhookOutbox) : WebhookOutbox :=
  match outcome with
  | .raised message =>
    { row with
      status := .pending
      claimToken := none
      claimedAt := none
      lastError := some s!"internal: {message}" }
  | .answered http =>
    let result := sendWebhook http
    if result.success then
      { row with
        status := .sent
        sentAt := some now
        lastError := none
        claimToken := none
        claimedAt := none }
    else
      let newAttempts := claim.attempts + 1
      let changed :=
        { row with
          attempts := newAttempts
          lastError := some result.error
          claimToken := none
          claimedAt := none }
      if !result.retryable || settings.maxRetries ≤ newAttempts then { changed with status := .failed }
      else
        let delay := if result.retryAfterSeconds > 0 then result.retryAfterSeconds
          else backoffDelay newAttempts
        { changed with status := .pending, retryAfter := some (now + delay) }

theorem finalizedRow_id (settings : Settings) (now : Moment) (claim : Claim)
    (outcome : Attempt) (row : WebhookOutbox) :
    (finalizedRow settings now claim outcome row).id = row.id := by
  unfold finalizedRow
  split
  · rfl
  · dsimp only
    split
    · rfl
    · split <;> rfl

def finalize (settings : Settings) (now : Moment) (claim : Claim) (outcome : Attempt)
    (outbox : Table WebhookOutbox.id) : Table WebhookOutbox.id :=
  outbox.update (holds claim) (finalizedRow settings now claim outcome)
    fun row => finalizedRow_id settings now claim outcome row

structure World where
  outbox : Table WebhookOutbox.id
  workers : Nat → List Delivery
  issued : List String

/-- The steps of any number of workers. A batch is finalized row by row: where its
transaction is rolled back instead, the worker crashed before. -/
inductive Input where
  | enqueue (clock : Moment) (event endpoint : String) (payload : WebhookPayload)
  | claim (worker : Nat) (now : Moment) (locked : List Nat) (tokens : List String)
  | deliver (worker : Nat) (record : Nat) (attempt : Attempt)
  | finalize (worker : Nat) (now : Moment)
  | crash (worker : Nat)

def World.handTo (world : World) (worker : Nat) (deliveries : List Delivery) : World :=
  { world with workers := Function.update world.workers worker deliveries }

def baseUrl (settings : Settings) : String :=
  String.ofList (settings.webhookUrl.toList.rdropWhile (· = '/'))

def activeSigningSecret (settings : Settings) : String :=
  if settings.useNextSecret && settings.webhookSecretNext ≠ "" then settings.webhookSecretNext
  else settings.webhookSecret

def configured (settings : Settings) : Bool :=
  settings.webhookEnabled && baseUrl settings ≠ "" && activeSigningSecret settings ≠ ""

def freshTokens (issued tokens : List String) (count : Nat) : Bool :=
  decide tokens.Nodup && (tokens.all fun token => !issued.contains token) && count ≤ tokens.length

def claimPhase (settings : Settings) (world : World) (worker : Nat) (now : Moment)
    (locked : List Nat) (tokens : List String) : World :=
  let records := claimRecords settings now locked world.outbox
  if configured settings && (world.workers worker).isEmpty &&
      freshTokens world.issued tokens records.length then
    let taken := records.zip tokens
    { outbox := world.outbox.update (fun _ => true) (claimTaken now taken) fun row =>
        claimTaken_id now taken row
      workers := Function.update world.workers worker
        (taken.map fun entry => ⟨claimOf entry.2 entry.1, none⟩)
      issued := world.issued ++ tokens }
  else world

def Delivery.ended (record : Nat) (attempt : Attempt) (delivery : Delivery) : Delivery :=
  if delivery.claim.id = record && delivery.outcome.isNone then { delivery with outcome := some attempt }
  else delivery

def deliverPhase (world : World) (worker record : Nat) (attempt : Attempt) : World :=
  world.handTo worker ((world.workers worker).map (Delivery.ended record attempt))

def nextFinalized (world : World) (worker : Nat) : Option (Claim × Attempt) :=
  match world.workers worker with
  | [] => none
  | delivery :: rest =>
    if rest.all fun other => other.outcome.isSome then
      delivery.outcome.map fun outcome => (delivery.claim, outcome)
    else none

def finalizePhase (settings : Settings) (world : World) (worker : Nat) (now : Moment) : World :=
  match nextFinalized world worker with
  | none => world
  | some (claim, outcome) =>
    { world.handTo worker (world.workers worker).tail with
      outbox := finalize settings now claim outcome world.outbox }

def next (settings : Settings) (world : World) : Input → World
  | .enqueue clock event endpoint payload =>
    { world with outbox := WebhookSender.insertOutbox world.outbox clock event endpoint payload }
  | .claim worker now locked tokens => claimPhase settings world worker now locked tokens
  | .deliver worker record attempt => deliverPhase world worker record attempt
  | .finalize worker now => finalizePhase settings world worker now
  | .crash worker => world.handTo worker []

end InfrasafeBot.OutboxDelivery
