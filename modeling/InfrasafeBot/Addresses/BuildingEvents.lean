import InfrasafeBot.Addresses.Directory
import InfrasafeBot.WebhookSender
import Mathlib.Data.Rat.Defs

/-! Buildings and the events that announce them (`services/addresses/core.py`,
`services/addresses/events.py`, `services/webhook_sender.py`), one statement after the other. The
event of a change is queued in its transaction, under an identity of the building's version. -/

set_option autoImplicit false

namespace InfrasafeBot.Addresses.BuildingEvents

open Library WebhookSender

abbrev Coordinate := ℚ

structure Building where
  id : BuildingId
  address : String
  yardId : YardId
  gpsLatitude : Option Coordinate
  gpsLongitude : Option Coordinate
  entranceCount : Int
  floorCount : Int
  description : Option String
  isActive : Bool
  buildingVersion : Nat
  deriving DecidableEq

structure NewBuilding where
  address : String
  yardId : YardId
  gpsLatitude : Option Coordinate
  gpsLongitude : Option Coordinate
  entranceCount : Int
  floorCount : Int
  description : Option String

def newBuilding (fields : NewBuilding) (id : BuildingId) : Building where
  id := id
  address := fields.address
  yardId := fields.yardId
  gpsLatitude := fields.gpsLatitude
  gpsLongitude := fields.gpsLongitude
  entranceCount := fields.entranceCount
  floorCount := fields.floorCount
  description := fields.description
  isActive := true
  buildingVersion := 0

@[simp] theorem newBuilding_id (fields : NewBuilding) (id : BuildingId) :
    (newBuilding fields id).id = id := rfl

/-- `updates`: an absent field is left unchanged, and a present one may be null. -/
structure Changes where
  address : Option (Option String) := none
  yardId : Option (Option YardId) := none
  gpsLatitude : Option (Option Coordinate) := none
  gpsLongitude : Option (Option Coordinate) := none
  entranceCount : Option (Option Int) := none
  floorCount : Option (Option Int) := none
  description : Option (Option String) := none
  isActive : Option (Option Bool) := none

def Changes.set (changes : Changes) (building : Building) : Option Building := do
  let address ← changes.address.getD (some building.address)
  let yardId ← changes.yardId.getD (some building.yardId)
  let entranceCount ← changes.entranceCount.getD (some building.entranceCount)
  let floorCount ← changes.floorCount.getD (some building.floorCount)
  let isActive ← changes.isActive.getD (some building.isActive)
  some {
    building with
    address, yardId, entranceCount, floorCount, isActive
    gpsLatitude := changes.gpsLatitude.getD building.gpsLatitude
    gpsLongitude := changes.gpsLongitude.getD building.gpsLongitude
    description := changes.description.getD building.description }

structure EventData where
  id : BuildingId
  address : String
  yardName : String
  latitude : Option Coordinate
  longitude : Option Coordinate

def buildBuildingEventData (building : Building) (yardName : String) : EventData :=
  ⟨building.id, building.address, yardName, building.gpsLatitude, building.gpsLongitude⟩

structure BuildingPart where
  id : BuildingId
  name : String
  address : String
  town : String
  latitude : Option Coordinate
  longitude : Option Coordinate

structure BuildingPayload where
  eventId : String
  event : String
  building : BuildingPart

structure OutboxRow where
  id : Nat
  eventId : String
  event : String
  endpoint : String
  payload : BuildingPayload

def buildBuildingPayload (deployment : Deployment) (event : String) (data : EventData)
    (identity : Option EventIdentity) : Except String BuildingPayload := do
  let eventId ← deterministicEventId deployment event (toString data.id) identity
  .ok ⟨eventId, event, ⟨data.id, data.address, data.address, data.yardName, data.latitude, data.longitude⟩⟩

def newRow (endpoint : String) (payload : BuildingPayload) (id : Nat) : OutboxRow :=
  ⟨id, payload.eventId, payload.event, endpoint, payload⟩

@[simp] theorem newRow_id (endpoint : String) (payload : BuildingPayload) (id : Nat) :
    (newRow endpoint payload id).id = id := rfl

def insertOutbox (outbox : Table OutboxRow.id) (endpoint : String) (payload : BuildingPayload) :
    Table OutboxRow.id :=
  if outbox.rows.any fun row => row.eventId = payload.eventId then outbox
  else outbox.insert (newRow endpoint payload) (newRow_id endpoint payload)

def queueWebhook (deployment : Deployment) (outbox : Table OutboxRow.id)
    (event endpoint : String) (data : EventData) (identity : Option EventIdentity) :
    Except String (Table OutboxRow.id) :=
  if !deployment.webhookEnabled then .ok outbox
  else do
    let payload ← buildBuildingPayload deployment event data identity
    .ok (insertOutbox outbox endpoint payload)

def createdEvent : String := "building.created"

def updatedEvent : String := "building.updated"

def deletedEvent : String := "building.deleted"

def routing : List (String × String) :=
  [(createdEvent, "/api/webhooks/uk/building"), (updatedEvent, "/api/webhooks/uk/building"),
    (deletedEvent, "/api/webhooks/uk/building")]

def enqueueOutbox (deployment : Deployment) (outbox : Table OutboxRow.id) (event : String)
    (data : EventData) (identity : Option EventIdentity) : Except String (Table OutboxRow.id) :=
  match routing.lookup event with
  | none => .error s!"enqueue_outbox: unknown event '{event}' — add it to _ROUTING"
  | some endpoint => queueWebhook deployment outbox event endpoint data identity

structure Store where
  yards : Table Yard.id
  apartments : Table Apartment.id
  buildings : Table Building.id
  outbox : Table OutboxRow.id

def Store.countActiveApartments (store : Store) (building : BuildingId) : Nat :=
  store.apartments.rowcount fun row => row.buildingId = building && row.isActive

inductive Act where
  | update (changes : Changes)
  | delete

inductive Answer where
  | done
  | unchanged
  | failed (error : DomainError)
  | integrityError
  | valueError (text : String)

inductive Write where
  | insert (fields : NewBuilding) (yardName : String)
  | set (changed : Building) (event yardName : String)

inductive Stage where
  | idle
  | enteringYard (fields : NewBuilding)
  | lockingBuilding (id : BuildingId) (act : Act)
  | countingApartments (building : Building) (act : Act)
  | movingBuilding (building : Building) (changes : Changes)
  | namingYard (changed : Building) (event : String)
  | committing (write : Write)
  | surrounding (yards : Table Yard.id) (apartments : Table Apartment.id)
  | finished (answer : Answer)

def Stage.notFound (message code : String) : Stage := .finished (.failed (.addressNotFound message code))

def Stage.conflict (message : String) (code : Option String) : Stage :=
  .finished (.failed (.addressConflict message code))

def gate (building : Building) (changes : Changes) : Stage :=
  match changes.set building with
  | none => .finished .integrityError
  | some changed =>
    if changed = building then .finished .unchanged
    else .namingYard { changed with buildingVersion := building.buildingVersion + 1 } updatedEvent

def announced (deployment : Deployment) (store : Store) (buildings : Table Building.id)
    (building : Building) (event yardName : String) (identity : Option EventIdentity) :
    Store × Stage :=
  let data := buildBuildingEventData building yardName
  match enqueueOutbox deployment store.outbox event data identity with
  | .ok outbox => ({ store with buildings, outbox }, .finished .done)
  | .error text => (store, .finished (.valueError text))

def Store.setBuilding (store : Store) (changed : Building) : Table Building.id :=
  store.buildings.put changed

def Store.insertBuilding (store : Store) (fields : NewBuilding) : Table Building.id :=
  store.buildings.insert (newBuilding fields) (newBuilding_id fields)

def commit (deployment : Deployment) (store : Store) : Write → Store × Stage
  | .insert fields yardName =>
    if (store.yards.find? fields.yardId).isSome then
      announced deployment store (store.insertBuilding fields)
        (newBuilding fields store.buildings.nextKey) createdEvent yardName none
    else (store, .finished .integrityError)
  | .set changed event yardName =>
    if (store.yards.find? changed.yardId).isSome then
      announced deployment store (store.setBuilding changed) changed event yardName
        (some ⟨some changed.buildingVersion, none⟩)
    else (store, .finished .integrityError)

def perform (deployment : Deployment) (store : Store) : Stage → Store × Stage
  | .idle => (store, .idle)
  | .enteringYard fields =>
    match store.yards.find? fields.yardId with
    | none => (store, .notFound "Двор не найден" "yard_not_found")
    | some yard =>
      if yard.isActive then (store, .committing (.insert fields yard.name))
      else (store, .conflict "Двор неактивен" (some "yard_inactive"))
  | .lockingBuilding id act =>
    match store.buildings.find? id with
    | none => (store, .notFound "Здание не найдено" "building_not_found")
    | some building =>
      match act with
      | .update changes =>
        if changes.isActive = some (some false) ∧ building.isActive = true then
          (store, .countingApartments building act)
        else (store, .movingBuilding building changes)
      | .delete => (store, .countingApartments building act)
  | .countingApartments building act =>
    let active := store.countActiveApartments building.id
    match act with
    | .update changes =>
      if 0 < active then
        (store, .conflict s!"Невозможно деактивировать здание: есть {active} активных квартир" none)
      else (store, .movingBuilding building changes)
    | .delete =>
      if 0 < active then
        (store, .conflict s!"Невозможно удалить здание: есть {active} активных квартир" none)
      else if building.isActive then
        (store, .namingYard { building with
          isActive := false, buildingVersion := building.buildingVersion + 1 } deletedEvent)
      else (store, .finished .unchanged)
  | .movingBuilding building changes =>
    match changes.yardId with
    | none => (store, gate building changes)
    | some none => (store, .notFound "Двор не найден" "yard_not_found")
    | some (some target) =>
      if target = building.yardId then (store, gate building changes)
      else
        match store.yards.find? target with
        | none => (store, .notFound "Двор не найден" "yard_not_found")
        | some yard =>
          if yard.isActive then (store, gate building changes)
          else (store, .conflict "Двор неактивен" (some "yard_inactive"))
  | .namingYard changed event =>
    let yardName := ((store.yards.find? changed.yardId).map Yard.name).getD ""
    (store, .committing (.set changed event yardName))
  | .committing write => commit deployment store write
  | .surrounding yards apartments => ({ store with yards, apartments }, .finished .done)
  | .finished answer => (store, .finished answer)

def Stage.locks : Stage → List BuildingId
  | .countingApartments building _ => [building.id]
  | .movingBuilding building _ => [building.id]
  | .namingYard changed _ => [changed.id]
  | .committing (.set changed _ _) => [changed.id]
  | _ => []

def Stage.free : Stage → Bool
  | .idle => true
  | .finished _ => true
  | _ => false

inductive Call where
  | createBuilding (fields : NewBuilding)
  | updateBuilding (id : BuildingId) (changes : Changes)
  | deleteBuilding (id : BuildingId)
  | surround (yards : Table Yard.id) (apartments : Table Apartment.id)

def Call.start : Call → Stage
  | .createBuilding fields => .enteringYard fields
  | .updateBuilding id changes => .lockingBuilding id (.update changes)
  | .deleteBuilding id => .lockingBuilding id .delete
  | .surround yards apartments => .surrounding yards apartments

theorem Call.start_unlocked (call : Call) : call.start.locks = [] := by
  cases call with
  | createBuilding | updateBuilding | deleteBuilding | surround => rfl

def program (deployment : Deployment) : Program Store Stage Call BuildingId where
  idle := .idle
  start := Call.start
  free := Stage.free
  perform := perform deployment
  locks := Stage.locks
  idle_unlocked := rfl
  start_unlocked := Call.start_unlocked

def Store.fresh (yards : Table Yard.id) (apartments : Table Apartment.id) : Store :=
  ⟨yards, apartments, .empty, .empty⟩

end InfrasafeBot.Addresses.BuildingEvents
