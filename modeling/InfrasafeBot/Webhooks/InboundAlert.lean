import InfrasafeBot.Library.Interleaving
import InfrasafeBot.WebhookSender

/-! Alerts of InfraSafe that become requests (`api/webhooks/router.py`,
`api/webhooks/replay.py`, `services/inbound_alert.py`), one statement after the other. The
nonce of an event lives in Redis and is set at once; the rest of a delivery is one transaction
of the database. -/

set_option autoImplicit false

namespace InfrasafeBot.InboundAlert

open Library RequestWorkflow WebhookSender

abbrev EventId := String

abbrev BuildingId := Nat

def typeToCategory : List (String × String) :=
  [("TRANSFORMER_OVERLOAD", "Электрика"), ("TRANSFORMER_CRITICAL_OVERLOAD", "Электрика"),
    ("VOLTAGE_ANOMALY", "Электрика"), ("LEAK_DETECTED", "Сантехника"),
    ("HEATING_FAILURE", "Отопление"), ("POWER_FAILURE", "Электрика"),
    ("OVERHEATING", "Электрика"), ("TEMPERATURE_ANOMALY", "Отопление"),
    ("LOW_PRESSURE", "Сантехника"), ("WATER_LEAK", "Сантехника"),
    ("COMMUNICATION_LOST", "Безопасность")]

def defaultCategory : String := "Другое"

def severityToUrgency : List (String × String) := [("WARNING", "low"), ("CRITICAL", "high")]

def defaultUrgency : String := "low"

def engineerRequiredCategory : String := "Инженерный разбор"

def engineerRequiredUrgency : String := "critical"

def urgencyValues : List String := ["low", "medium", "high", "critical"]

def urgencyRuToKey : List (String × String) :=
  [("Обычная", "low"), ("Средняя", "medium"), ("Срочная", "high"), ("Критическая", "critical")]

def normalizeUrgency (value : String) : Option String :=
  if urgencyValues.contains value then some value else urgencyRuToKey.lookup value

def engineerRequiredEvent : String := "alert.engineer_required"

def requestCreatingEvents : List String := ["alert.created", engineerRequiredEvent]

structure AlertBlock where
  externalId : String
  type : String
  severity : String
  message : String
  reopenSequence : Option Nat
  ukUrgencyOverride : Option String
  ukCategoryOverride : Option String
  deriving DecidableEq

structure InfrasafeAlertIn where
  eventId : EventId
  event : String
  /-- The block as `AlertBlock.model_validate` reads it; `none` where it refuses. -/
  alert : Option AlertBlock
  deriving DecidableEq

/-- The base category and urgency of the event, with the overrides of the sender. -/
def AlertBlock.category (alert : AlertBlock) (event : String) : String :=
  let base :=
    if event = engineerRequiredEvent then engineerRequiredCategory
    else (typeToCategory.lookup alert.type).getD defaultCategory
  match alert.ukCategoryOverride with
  | none => base
  | some text => if pyStrip text = "" then base else pyStrip text

def AlertBlock.urgency (alert : AlertBlock) (event : String) : String :=
  if event = engineerRequiredEvent then engineerRequiredUrgency
  else
    (alert.ukUrgencyOverride.bind normalizeUrgency).getD
      ((severityToUrgency.lookup alert.severity).getD defaultUrgency)

def AlertBlock.description (alert : AlertBlock) : String :=
  match alert.reopenSequence with
  | none => alert.message
  | some sequence =>
    if 2 ≤ sequence then s!"Повторное обращение №{sequence}. {alert.message}" else alert.message

structure Building where
  id : BuildingId
  address : String
  isActive : Bool
  yardActive : Bool
  deriving DecidableEq

structure User where
  id : UserId
  telegramId : Option Int
  deriving DecidableEq

structure Request where
  number : RequestNumber
  userId : UserId
  category : String
  urgency : String
  description : String
  address : String
  buildingId : BuildingId
  /-- The event that it has come from; no column says so. -/
  sourceEventId : EventId
  deriving DecidableEq

/-- The data of a `request.created` event. -/
structure RequestCreated where
  requestNumber : RequestNumber
  category : String
  status : String
  urgency : String
  description : String
  address : String
  sourceEventId : EventId
  deriving DecidableEq

structure OutboxEvent where
  eventId : String
  event : String
  endpoint : String
  data : RequestCreated
  deriving DecidableEq

inductive Outcome where
  | accepted
  | ignored

structure WebhookInbox where
  eventId : EventId
  event : String
  sourceIp : String
  payload : InfrasafeAlertIn
  outcome : Outcome
  requestNumber : Option RequestNumber

structure Records where
  inbox : Table WebhookInbox.eventId
  requests : Table Request.number
  outbox : Table OutboxEvent.eventId

/-- What other transactions commit. -/
structure Surroundings where
  buildings : List Building
  users : List User
  otherNumbers : List RequestNumber
  deriving DecidableEq

structure Nonce where
  eventId : EventId
  expiresAt : Moment

structure AlertStore where
  nonces : List Nonce
  surroundings : Surroundings
  records : Records

/-- Seconds. -/
def replayTtl : Nat := 600

namespace AlertStore

variable (store : AlertStore)

def nonceLive (eventId : EventId) (now : Moment) : Bool :=
  store.nonces.any fun nonce => nonce.eventId = eventId && now < nonce.expiresAt

def setNonce (eventId : EventId) (now : Moment) : AlertStore :=
  { store with nonces := ⟨eventId, now + replayTtl⟩ :: store.nonces }

def known (eventId : EventId) : Bool := (store.records.inbox.find? eventId).isSome

/-- The insert of the request violates no constraint. -/
def admits (request : Request) : Bool :=
  (store.records.requests.find? request.number).isNone &&
    !store.surroundings.otherNumbers.contains request.number &&
    store.surroundings.users.any (·.id = request.userId) &&
    store.surroundings.buildings.any (·.id = request.buildingId)

end AlertStore

/-- The settings, and the hexadecimal digest that external ids are made from. -/
structure Receiver where
  deployment : Deployment
  sha256 : String → String

section

variable (receiver : Receiver)

def expectedExternalId (id : BuildingId) : String :=
  let digest := (receiver.sha256 s!"uk-building-{id}").toList
  let slice (start stop : Nat) := String.ofList ((digest.take stop).drop start)
  "-".intercalate [slice 0 8, slice 8 12, slice 12 16, slice 16 20, slice 20 32]

def resolveBuilding (buildings : List Building) (externalId : String) : Option Building :=
  (buildings.filter fun building => building.isActive && building.yardActive).find?
    fun building => expectedExternalId receiver building.id = externalId

def systemUserId (users : List User) : Option UserId :=
  (users.find? fun user => user.telegramId = some receiver.deployment.systemUserTelegramId).map (·.id)

end

def requestCreatedEvent : String := "request.created"

def newStatus : String := "Новая"

def Request.created (request : Request) : RequestCreated where
  requestNumber := request.number
  category := request.category
  status := newStatus
  urgency := request.urgency
  description := request.description
  address := request.address
  sourceEventId := request.sourceEventId

/-- The record of the outbox; no error where the webhook is disabled. -/
def Request.record (deployment : Deployment) (request : Request) : Except String (Option OutboxEvent) :=
  if deployment.webhookEnabled then do
    let eventId ← deterministicEventId deployment requestCreatedEvent request.number none
    .ok (some ⟨eventId, requestCreatedEvent, requestWebhookEndpoint, request.created⟩)
  else .ok none

/-- What becomes of `SET … NX EX`: an answer, or an error before or after it has had its
effect. -/
inductive RedisOutcome where
  | answers
  | failsBefore
  | failsAfter
  deriving DecidableEq

/-- A delivery that the router lets through, with the numbers that the two attempts to create
a request will get. -/
structure Delivery where
  payload : InfrasafeAlertIn
  sourceIp : String
  now : Moment
  redis : RedisOutcome
  firstNumber : RequestNumber
  secondNumber : RequestNumber
  deriving DecidableEq

def Delivery.eventId (delivery : Delivery) : EventId := delivery.payload.eventId

def Delivery.request (delivery : Delivery) (alert : AlertBlock) (building : Building)
    (userId : UserId) (number : RequestNumber) : Request where
  number
  userId
  category := alert.category delivery.payload.event
  urgency := alert.urgency delivery.payload.event
  description := alert.description
  address := building.address
  buildingId := building.id
  sourceEventId := delivery.eventId

/-- The request of a transaction, with its event. -/
structure Creation where
  request : Request
  event : Option OutboxEvent
  deriving DecidableEq

def Delivery.inboxRow (delivery : Delivery) (work : Option Creation) : WebhookInbox where
  eventId := delivery.eventId
  event := delivery.payload.event
  sourceIp := delivery.sourceIp
  payload := delivery.payload
  outcome := if work.isSome then .accepted else .ignored
  requestNumber := work.map (·.request.number)

inductive InboundBody where
  | ignored (event : String)
  | accepted (requestNumber : RequestNumber)
  | duplicate (requestNumber : Option RequestNumber)
  | detail (text : String)
  deriving DecidableEq

structure InboundResult where
  status : Nat
  body : InboundBody
  deriving DecidableEq

def duplicateResult (existing : Option WebhookInbox) : InboundResult :=
  ⟨409, .duplicate (existing.bind (·.requestNumber))⟩

def Delivery.result (delivery : Delivery) : Option Creation → InboundResult
  | none => ⟨202, .ignored delivery.payload.event⟩
  | some creation => ⟨202, .accepted creation.request.number⟩

inductive AlertStage where
  | idle
  /-- The commit of another transaction. -/
  | outside (surroundings : Surroundings)
  | guarding (delivery : Delivery)
  | looking (delivery : Delivery) (replay : Bool)
  | resolving (delivery : Delivery) (alert : AlertBlock)
  | identifying (delivery : Delivery) (alert : AlertBlock) (building : Building)
  | creating (delivery : Delivery) (request : Request) (retry : Option RequestNumber)
  | queueing (delivery : Delivery) (request : Request)
  | recording (delivery : Delivery) (work : Option Creation)
  | committing (delivery : Delivery) (work : Option Creation)
  | rereading (delivery : Delivery)
  | answered (eventId : Option EventId) (result : InboundResult)
  | raised (eventId : EventId)
  deriving DecidableEq

def Records.commit (records : Records) (delivery : Delivery) (work : Option Creation) : Records where
  inbox := records.inbox.save (delivery.inboxRow work)
  requests := (work.map (·.request)).toList.foldl Table.save records.requests
  outbox := (work.bind (·.event)).toList.foldl Table.save records.outbox

section

variable (receiver : Receiver)

def performAlert (store : AlertStore) : AlertStage → AlertStore × AlertStage
  | .idle => (store, .idle)
  | .outside surroundings => ({ store with surroundings }, .idle)
  | .guarding delivery =>
    match delivery.redis with
    | .answers =>
      if store.nonceLive delivery.eventId delivery.now then (store, .looking delivery true)
      else (store.setNonce delivery.eventId delivery.now, .looking delivery false)
    | .failsBefore => (store, .looking delivery false)
    | .failsAfter =>
      if store.nonceLive delivery.eventId delivery.now then (store, .looking delivery false)
      else (store.setNonce delivery.eventId delivery.now, .looking delivery false)
  | .looking delivery replay =>
    let existing := store.records.inbox.find? delivery.eventId
    if existing.isSome || replay then (store, .answered (some delivery.eventId) (duplicateResult existing))
    else if !requestCreatingEvents.contains delivery.payload.event then (store, .recording delivery none)
    else
      match delivery.payload.alert with
      | none => (store, .answered (some delivery.eventId) ⟨422, .detail "invalid alert payload"⟩)
      | some alert => (store, .resolving delivery alert)
  | .resolving delivery alert =>
    match resolveBuilding receiver store.surroundings.buildings alert.externalId with
    | none => (store, .answered (some delivery.eventId) ⟨422, .detail "unknown building external_id"⟩)
    | some building => (store, .identifying delivery alert building)
  | .identifying delivery alert building =>
    match systemUserId receiver store.surroundings.users with
    | none => (store, .answered (some delivery.eventId) ⟨503, .detail "webhook receiver not configured"⟩)
    | some userId =>
      (store, .creating delivery
        (delivery.request alert building userId delivery.firstNumber)
        (some delivery.secondNumber))
  -- a violated constraint rolls back to the savepoint, and the second time it is raised
  | .creating delivery request retry =>
    if store.admits request then (store, .queueing delivery request)
    else
      match retry with
      | none => (store, .raised delivery.eventId)
      | some number => (store, .creating delivery { request with number } none)
  | .queueing delivery request =>
    match request.record receiver.deployment with
    | .error _ => (store, .raised delivery.eventId)
    | .ok none => (store, .recording delivery (some ⟨request, none⟩))
    | .ok (some event) =>
      if (store.records.outbox.find? event.eventId).isSome then
        (store, .recording delivery (some ⟨request, none⟩))
      else (store, .recording delivery (some ⟨request, some event⟩))
  | .recording delivery work =>
    if store.known delivery.eventId then
      match work with
      | none => (store, .raised delivery.eventId)
      | some _ => (store, .rereading delivery)
    else (store, .committing delivery work)
  | .committing delivery work =>
    ({ store with records := store.records.commit delivery work },
      .answered (some delivery.eventId) (delivery.result work))
  | .rereading delivery =>
    (store, .answered (some delivery.eventId)
      (duplicateResult (store.records.inbox.find? delivery.eventId)))
  | .answered eventId result => (store, .answered eventId result)
  | .raised eventId => (store, .raised eventId)

end

/-- The entries of unique indexes that a transaction has written. -/
inductive AlertKey where
  | request (number : RequestNumber)
  | outbox (eventId : String)
  | inbox (eventId : EventId)
  deriving DecidableEq

def Creation.keys (creation : Creation) : List AlertKey :=
  .request creation.request.number :: (creation.event.map fun event => .outbox event.eventId).toList

def AlertStage.locks : AlertStage → List AlertKey
  | .queueing _ request => [.request request.number]
  | .recording _ work => work.toList.flatMap Creation.keys
  | .committing delivery work => .inbox delivery.eventId :: work.toList.flatMap Creation.keys
  | _ => []

def AlertStage.free : AlertStage → Bool
  | .idle => true
  | .answered _ _ => true
  | .raised _ => true
  | _ => false

/-- A request to the endpoint, with what its signature and its envelope come to. -/
inductive Arrival where
  | unconfigured
  | unsigned (reason : String)
  | malformed
  | delivered (delivery : Delivery)

inductive AlertCall where
  | receive (arrival : Arrival)
  | surround (surroundings : Surroundings)

/-- `receive_infrasafe_alert` up to the handler. -/
def Arrival.start : Arrival → AlertStage
  | .unconfigured => .answered none ⟨503, .detail "webhook receiver not configured"⟩
  | .unsigned reason => .answered none ⟨401, .detail s!"signature {reason}"⟩
  | .malformed => .answered none ⟨422, .detail "invalid payload schema"⟩
  | .delivered delivery => .guarding delivery

def AlertCall.start : AlertCall → AlertStage
  | .receive arrival => arrival.start
  | .surround surroundings => .outside surroundings

theorem AlertCall.start_unlocked (call : AlertCall) : call.start.locks = [] := by
  cases call with
  | receive arrival =>
    cases arrival with
    | unconfigured | unsigned | malformed | delivered => rfl
  | surround surroundings => rfl

def alertProgram (receiver : Receiver) : Program AlertStore AlertStage AlertCall AlertKey where
  idle := .idle
  start := AlertCall.start
  free := AlertStage.free
  perform := performAlert receiver
  locks := AlertStage.locks
  idle_unlocked := rfl
  start_unlocked := AlertCall.start_unlocked

def AlertStore.fresh (surroundings : Surroundings) : AlertStore :=
  ⟨[], surroundings, ⟨.empty, .empty, .empty⟩⟩

end InfrasafeBot.InboundAlert
