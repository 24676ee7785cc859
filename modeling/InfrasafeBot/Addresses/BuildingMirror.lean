import InfrasafeBot.Addresses.BuildingEvents

/-! The stream of events of a building against its row: every committed change is announced once,
under the next version, and the latest event tells the committed address and coordinates. Whether
it tells as well that the building is gone depends on how it was deactivated. -/

set_option autoImplicit false

namespace InfrasafeBot.Addresses.BuildingEvents

open Library Library.Machine WebhookSender

variable {deployment : Deployment} {version : Option Nat}

section

variable {event other : String} {id key : Nat} {later : Option Nat}

/-- Creations are announced without a version, changes with one. -/
inductive Identified : String → Option Nat → Prop where
  | created : Identified createdEvent none
  | updated (version : Nat) : Identified updatedEvent (some version)
  | deleted (version : Nat) : Identified deletedEvent (some version)

def versionPart : Option Nat → List Char
  | none => []
  | some version => ':' :: version.repr.toList

def eventText (source event : String) (id : Nat) (version : Option Nat) : List Char :=
  source.toList ++ ':' :: (event.toList ++ ':' :: (id.repr.toList ++ versionPart version))

def buildingEventId (deployment : Deployment) (event : String) (id : Nat) (version : Option Nat) : String :=
  deployment.uuid5 (String.ofList (eventText deployment.sourceInstance event id version))

def identityOf (version : Option Nat) : Option EventIdentity :=
  version.map fun version => ⟨some version, none⟩

theorem deterministicEventId_building (identified : Identified event version) :
    deterministicEventId deployment event (toString id) (identityOf version) =
      .ok (buildingEventId deployment event id version) := by
  have name (event : String) (version : Option Nat) (text : String)
      (same : text.toList = eventText deployment.sourceInstance event id version) :
      (.ok (deployment.uuid5 text) : Except String String) =
        .ok (buildingEventId deployment event id version) := by
    rw [buildingEventId, ← same, String.ofList_toList]
  cases identified with
  | created =>
    refine name _ _ (deployment.sourceInstance ++ ":" ++ createdEvent ++ ":" ++ id.repr) ?_
    simp [eventText, versionPart]
  | updated version =>
    refine name _ _ (deployment.sourceInstance ++ ":" ++ updatedEvent ++ ":" ++ id.repr ++ ":" ++
      version.repr) ?_
    simp [eventText, versionPart]
  | deleted version =>
    refine name _ _ (deployment.sourceInstance ++ ":" ++ deletedEvent ++ ":" ++ id.repr ++ ":" ++
      version.repr) ?_
    simp [eventText, versionPart]

theorem Identified.event_free (identified : Identified event version) : ':' ∉ event.toList := by
  cases identified with
  | created | updated | deleted => decide

theorem Identified.version_isSome (identified : Identified event version) :
    version.isSome = decide (event ≠ createdEvent) := by
  cases identified with
  | created => decide
  | updated | deleted => rfl

theorem eventText_injective {source : String} (first : Identified event version)
    (second : Identified other later)
    (same : eventText source event id version = eventText source other key later) :
    event = other ∧ id = key ∧ version = later := by
  unfold eventText at same
  obtain ⟨events, tails⟩ := first_separator_unique first.event_free second.event_free
    (List.cons.inj (List.append_cancel_left same)).2
  obtain rfl := String.toList_inj.mp events
  have versioned := first.version_isSome.trans second.version_isSome.symm
  cases version with
  | none =>
    cases later with
    | none =>
      rw [versionPart, List.append_nil, List.append_nil] at tails
      exact ⟨rfl, repr_toList_injective tails, rfl⟩
    | some later => cases versioned
  | some version =>
    cases later with
    | none => cases versioned
    | some later =>
      obtain ⟨ids, versions⟩ := first_separator_unique (not_mem_repr rfl id)
        (not_mem_repr rfl key) tails
      exact ⟨rfl, repr_toList_injective ids, congrArg some (repr_toList_injective versions)⟩

theorem buildingEventId_injective (collisionFree : Function.Injective deployment.uuid5)
    (first : Identified event version) (second : Identified other later)
    (same : buildingEventId deployment event id version = buildingEventId deployment other key later) :
    event = other ∧ id = key ∧ version = later :=
  eventText_injective first second (String.ofList_injective (collisionFree same))

end

def Store.stream (store : Store) (id : BuildingId) : List OutboxRow :=
  store.outbox.rows.filter fun row => row.payload.building.id = id

structure Tells (record : OutboxRow) (building : Building) : Prop where
  address : record.payload.building.address = building.address
  latitude : record.payload.building.latitude = building.gpsLatitude
  longitude : record.payload.building.longitude = building.gpsLongitude

structure Announces (deployment : Deployment) (record : OutboxRow) (building : Building)
    (event : String) (version : Option Nat) : Prop where
  named : record.event = event
  identity : deterministicEventId deployment event (toString building.id) (identityOf version) =
    .ok record.eventId
  tells : Tells record building

/-- What a step may do to the row of a building and to its stream: the events it emits are the
changes of the row. -/
inductive Emitted (deployment : Deployment) :
    Option Building × List OutboxRow → Option Building × List OutboxRow → Prop where
  | unchanged (view : Option Building × List OutboxRow) : Emitted deployment view view
  | created {building : Building} {record : OutboxRow} : building.buildingVersion = 0 →
      Announces deployment record building createdEvent none →
      Emitted deployment (none, []) (some building, [record])
  | changed {old new : Building} {stream : List OutboxRow} {record : OutboxRow}
      {event : String} : new ≠ old → new.buildingVersion = old.buildingVersion + 1 →
      event ∈ [updatedEvent, deletedEvent] →
      Announces deployment record new event (some new.buildingVersion) →
      Emitted deployment (some old, stream) (some new, stream ++ [record])

def Store.view (store : Store) (id : BuildingId) : Option Building × List OutboxRow :=
  (store.buildings.find? id, store.stream id)

/-- The latest event of the building tells where it stands, and that it is gone exactly if it
is. -/
def Store.Mirrors (store : Store) (id : BuildingId) : Prop :=
  ∀ building, store.buildings.find? id = some building →
    ∃ record, (store.stream id).getLast? = some record ∧ Tells record building ∧
      (building.isActive = false ↔ record.event = deletedEvent)

def Mirrored (deployment : Deployment) {n : Nat} (start : Program.State Store Stage n)
    (events : List (Program.Event Call n)) : Prop :=
  ∀ past event, past ++ [event] <+: events → ∀ id,
    let before := (run (program deployment).next start past).store
    let after := (run (program deployment).next start (past ++ [event])).store
    Emitted deployment (before.view id) (after.view id) ∧ after.Mirrors id

/-- The update that is committed, if one is, leaves its building active. -/
def LeavesActive (store : Store) : Stage → Prop
  | .committing (.set changed event _) =>
    event = updatedEvent → (store.yards.find? changed.yardId).isSome = true → changed.isActive = true
  | _ => True

instance (store : Store) (stage : Stage) : Decidable (LeavesActive store stage) := by
  cases stage with
  | committing write =>
    cases write with
    | insert fields yardName => exact .isTrue trivial
    | set changed event yardName =>
      exact inferInstanceAs (Decidable (event = updatedEvent →
        (store.yards.find? changed.yardId).isSome = true → changed.isActive = true))
  | _ => exact .isTrue trivial

variable {store : Store} {building : Building}

section

variable {event yardName : String}

def buildingEndpoint : String := "/api/webhooks/uk/building"

def record (deployment : Deployment) (building : Building) (event yardName : String)
    (version : Option Nat) (id : Nat) : OutboxRow :=
  newRow buildingEndpoint ⟨buildingEventId deployment event building.id version, event,
    ⟨building.id, building.address, building.address, yardName, building.gpsLatitude,
      building.gpsLongitude⟩⟩ id

theorem record_id (deployment : Deployment) (building : Building) (event yardName : String)
    (version : Option Nat) (id : Nat) :
    (record deployment building event yardName version id).id = id := rfl

theorem record_announces (identified : Identified event version) (id : Nat) :
    Announces deployment (record deployment building event yardName version id) building event
      version :=
  ⟨rfl, deterministicEventId_building identified, ⟨rfl, rfl, rfl⟩⟩

theorem lookup_routing (identified : Identified event version) :
    routing.lookup event = some buildingEndpoint := by
  cases identified with
  | created | updated | deleted => decide

/-- Every record belongs to a building, under a version it has had. -/
def Recorded (deployment : Deployment) (store : Store) : Prop :=
  ∀ row ∈ store.outbox.rows, ∃ building event version,
    store.buildings.find? row.payload.building.id = some building ∧
      Identified event version ∧
      row.eventId = buildingEventId deployment event row.payload.building.id version ∧
      ∀ known ∈ version, known ≤ building.buildingVersion

theorem announced_eq (enabled : deployment.webhookEnabled = true)
    (identified : Identified event version)
    (unused : ∀ row ∈ store.outbox.rows, row.eventId ≠ buildingEventId deployment event building.id version)
    (buildings : Table Building.id) :
    announced deployment store buildings building event yardName (identityOf version) =
      ({ store with
          buildings
          outbox := store.outbox.insert
            (record deployment building event yardName version)
            (record_id deployment building event yardName version) },
        .finished .done) := by
  have fresh : (store.outbox.rows.any fun row =>
      row.eventId = buildingEventId deployment event building.id version) = false := by
    rw [List.any_eq_false]
    exact fun row listed => by simpa using unused row listed
  have queued : enqueueOutbox deployment store.outbox event
      (buildBuildingEventData building yardName) (identityOf version) =
        .ok (store.outbox.insert (record deployment building event yardName version)
          (record_id deployment building event yardName version)) := by
    unfold enqueueOutbox queueWebhook buildBuildingPayload
    rw [lookup_routing identified]
    dsimp only [buildBuildingEventData]
    rw [deterministicEventId_building identified, enabled]
    simp only [Bool.not_true, Bool.false_eq_true, if_false]
    change Except.ok (insertOutbox _ _ _) = _
    rw [insertOutbox, fresh]
    rfl
  rw [announced, queued]

end

structure Pending (store : Store) (changed : Building) (event : String) : Prop where
  follows : ∃ old, store.buildings.find? changed.id = some old ∧
    changed.buildingVersion = old.buildingVersion + 1
  event : event = updatedEvent ∨ event = deletedEvent ∧ changed.isActive = false

def Relies (store : Store) : Stage → Prop
  | .countingApartments building _ => store.buildings.find? building.id = some building
  | .movingBuilding building _ => store.buildings.find? building.id = some building
  | .namingYard changed event => Pending store changed event
  | .committing (.set changed event _) => Pending store changed event
  | _ => True

/-- The building is a new one, or it is the next version of the one in the table. -/
inductive Grows (store : Store) (building : Building) : String → Option Nat → Prop where
  | created : store.buildings.find? building.id = none → building.buildingVersion = 0 →
      Grows store building createdEvent none
  | changed {old : Building} {event : String} : store.buildings.find? building.id = some old →
      building.buildingVersion = old.buildingVersion + 1 → event ∈ [updatedEvent, deletedEvent] →
      Grows store building event (some building.buildingVersion)

/-- The building is committed as it is, with the record of its event. -/
structure Commits (deployment : Deployment) (store after : Store) (building : Building)
    (event : String) (version : Option Nat) : Prop where
  grows : Grows store building event version
  row : after.buildings.find? building.id = some building
  others : ∀ id, id ≠ building.id → after.buildings.find? id = store.buildings.find? id
  outbox : ∃ yardName, after.outbox =
    store.outbox.insert (record deployment building event yardName version)
      (record_id deployment building event yardName version)

variable {after : Store}

section

variable {stage : Stage} {event : String}

theorem Relies.congr (relied : Relies store stage)
    (same : ∀ id ∈ stage.locks, after.buildings.find? id = store.buildings.find? id) :
    Relies after stage := by
  cases stage with
  | countingApartments | movingBuilding => exact (same _ List.mem_cons_self).trans relied
  | namingYard changed event =>
    obtain ⟨⟨old, found, version⟩, event⟩ := relied
    exact ⟨⟨old, (same _ List.mem_cons_self).trans found, version⟩, event⟩
  | committing write =>
    cases write with
    | insert fields yardName => trivial
    | set changed event yardName =>
      obtain ⟨⟨old, found, version⟩, event⟩ := relied
      exact ⟨⟨old, (same _ List.mem_cons_self).trans found, version⟩, event⟩
  | _ => trivial

theorem Changes.set_id {changes : Changes} {changed : Building}
    (set : changes.set building = some changed) : changed.id = building.id := by
  simp only [Changes.set, Option.bind_eq_bind, Option.bind_eq_some_iff] at set
  obtain ⟨_, _, _, _, _, _, _, _, _, _, same⟩ := set
  exact (congrArg Building.id (Option.some.inj same)).symm

theorem relies_gate {changes : Changes}
    (found : store.buildings.find? building.id = some building) :
    Relies store (gate building changes) := by
  unfold gate
  split
  · trivial
  · next changed set =>
      split
      · trivial
      · exact ⟨⟨building, (Changes.set_id set).symm ▸ found, rfl⟩, .inl rfl⟩

theorem perform_reads (reads : ∀ write, stage ≠ .committing write) :
    (perform deployment store stage).1.buildings = store.buildings ∧
      (perform deployment store stage).1.outbox = store.outbox := by
  cases stage with
  | committing write => exact absurd rfl (reads write)
  | enteringYard fields =>
    simp only [perform]
    split
    · exact ⟨rfl, rfl⟩
    · split <;> exact ⟨rfl, rfl⟩
  | lockingBuilding id act =>
    simp only [perform]
    split
    · exact ⟨rfl, rfl⟩
    · cases act with
      | update changes => dsimp only; split <;> exact ⟨rfl, rfl⟩
      | delete => exact ⟨rfl, rfl⟩
  | countingApartments building act =>
    cases act with
    | update changes => simp only [perform]; split <;> exact ⟨rfl, rfl⟩
    | delete =>
      simp only [perform]
      split
      · exact ⟨rfl, rfl⟩
      · split <;> exact ⟨rfl, rfl⟩
  | movingBuilding building changes =>
    simp only [perform]
    split
    · exact ⟨rfl, rfl⟩
    · exact ⟨rfl, rfl⟩
    · split
      · exact ⟨rfl, rfl⟩
      · split
        · exact ⟨rfl, rfl⟩
        · split <;> exact ⟨rfl, rfl⟩
  | _ => exact ⟨rfl, rfl⟩

theorem relies_perform (relied : Relies store stage) (reads : ∀ write, stage ≠ .committing write) :
    Relies store (perform deployment store stage).2 := by
  cases stage with
  | committing write => exact absurd rfl (reads write)
  | enteringYard fields =>
    simp only [perform]
    split
    · trivial
    · split <;> trivial
  | lockingBuilding id act =>
    simp only [perform]
    split
    · trivial
    · next building found =>
        obtain rfl := Table.key_of_find? found
        cases act with
        | update changes => dsimp only; split <;> exact found
        | delete => exact found
  | countingApartments building act =>
    cases act with
    | update changes =>
      simp only [perform]
      split
      · trivial
      · exact relied
    | delete =>
      simp only [perform]
      split
      · trivial
      · split
        · exact ⟨⟨building, relied, rfl⟩, .inr ⟨rfl, rfl⟩⟩
        · trivial
  | movingBuilding building changes =>
    simp only [perform]
    split
    · exact relies_gate relied
    · trivial
    · split
      · exact relies_gate relied
      · split
        · trivial
        · split
          · exact relies_gate relied
          · trivial
  | namingYard changed event => exact relied
  | _ => trivial

theorem find?_nextKey (store : Store) : store.buildings.find? store.buildings.nextKey = none := by
  cases found : store.buildings.find? store.buildings.nextKey with
  | none => rfl
  | some building =>
    have used := List.mem_map_of_mem (f := Building.id) (Table.mem_of_find? found)
    rw [Table.key_of_find? found] at used
    exact absurd used store.buildings.nextKey_fresh

theorem Grows.identified (grows : Grows store building event version) : Identified event version := by
  cases grows with
  | created unknown initial => exact .created
  | changed found next kind =>
    simp only [List.mem_cons, List.not_mem_nil, or_false] at kind
    rcases kind with rfl | rfl
    · exact .updated _
    · exact .deleted _

theorem Recorded.unused (recorded : Recorded deployment store)
    (collisionFree : Function.Injective deployment.uuid5)
    (grows : Grows store building event version) :
    ∀ row ∈ store.outbox.rows,
      row.eventId ≠ buildingEventId deployment event building.id version := by
  intro row listed same
  obtain ⟨known, other, announced, found, identified, named, bounded⟩ := recorded row listed
  obtain ⟨rfl, ids, rfl⟩ :=
    buildingEventId_injective collisionFree identified grows.identified (named.symm.trans same)
  rw [ids] at found
  cases grows with
  | created unknown initial =>
    rw [unknown] at found
    cases found
  | changed before next kind =>
    rw [before] at found
    cases found
    have below := bounded _ rfl
    omega

variable (enabled : deployment.webhookEnabled = true)
  (collisionFree : Function.Injective deployment.uuid5)

include enabled collisionFree

theorem commit_insert (recorded : Recorded deployment store) (fields : NewBuilding)
    (yardName : String) (grounded : (store.yards.find? fields.yardId).isSome = true) :
    Commits deployment store (commit deployment store (.insert fields yardName)).1
      (newBuilding fields store.buildings.nextKey) createdEvent none := by
  have grows : Grows store (newBuilding fields store.buildings.nextKey) createdEvent none :=
    .created (find?_nextKey store) rfl
  have inserted : announced deployment store (store.insertBuilding fields)
      (newBuilding fields store.buildings.nextKey) createdEvent yardName none = _ :=
    announced_eq enabled grows.identified (recorded.unused collisionFree grows)
      (store.insertBuilding fields)
  simp only [commit]
  rw [if_pos grounded, inserted]
  refine ⟨grows, ?_, ?_, ⟨yardName, rfl⟩⟩
  · simp only [Store.insertBuilding, Table.find?_insert, newBuilding_id, find?_nextKey,
      Option.none_or, if_true]
  · intro id other
    rw [newBuilding_id] at other
    simp only [Store.insertBuilding, Table.find?_insert, if_neg other, Option.or_none]

theorem commit_set (recorded : Recorded deployment store) {changed : Building}
    (pending : Pending store changed event) (yardName : String)
    (grounded : (store.yards.find? changed.yardId).isSome = true) :
    Commits deployment store (commit deployment store (.set changed event yardName)).1
      changed event (some changed.buildingVersion) := by
  obtain ⟨⟨old, found, version⟩, kind⟩ := pending
  have grows : Grows store changed event (some changed.buildingVersion) := by
    refine .changed found version ?_
    rcases kind with rfl | ⟨rfl, _⟩
    · exact List.mem_cons_self
    · exact List.mem_cons_of_mem _ List.mem_cons_self
  have put : announced deployment store (store.setBuilding changed) changed event yardName
      (some ⟨some changed.buildingVersion, none⟩) = _ :=
    announced_eq enabled grows.identified (recorded.unused collisionFree grows)
      (store.setBuilding changed)
  simp only [commit]
  rw [if_pos grounded, put]
  exact ⟨grows, Table.find?_put_self found, fun id other => Table.find?_put_of_ne other, ⟨yardName, rfl⟩⟩

end

section

variable {event : String} {id : BuildingId}

theorem Recorded.stream_unknown (recorded : Recorded deployment store)
    (unknown : store.buildings.find? id = none) : store.stream id = [] := by
  rw [Store.stream, List.filter_eq_nil_iff]
  intro row listed same
  obtain ⟨known, _, _, found, _⟩ := recorded row listed
  rw [of_decide_eq_true same, unknown] at found
  cases found

section

variable (commits : Commits deployment store after building event version)

include commits

theorem Commits.stream :
    ∃ yardName number, after.stream building.id = store.stream building.id ++
        [record deployment building event yardName version number] ∧
      ∀ other, other ≠ building.id → after.stream other = store.stream other := by
  obtain ⟨yardName, outbox⟩ := commits.outbox
  refine ⟨yardName, store.outbox.nextKey, ?_, fun other different => ?_⟩
  · have mine : decide ((record deployment building event yardName version
        store.outbox.nextKey).payload.building.id = building.id) = true := decide_eq_true rfl
    rw [Store.stream, outbox, Table.filter_insert, if_pos mine]
    rfl
  · rw [Store.stream, outbox, Table.filter_insert,
      if_neg fun same => different (of_decide_eq_true same).symm, List.append_nil]
    rfl

theorem Commits.emitted (recorded : Recorded deployment store) (id : BuildingId) :
    Emitted deployment (store.view id) (after.view id) := by
  obtain ⟨yardName, number, own, others⟩ := commits.stream
  unfold Store.view
  by_cases same : id = building.id
  · subst same
    rw [own, commits.row]
    have announces : Announces deployment
        (record deployment building event yardName version number) building event version :=
      record_announces commits.grows.identified number
    have grows := commits.grows
    cases grows with
    | created unknown initial =>
      rw [unknown, recorded.stream_unknown unknown]
      exact .created initial announces
    | changed found next kind =>
      rw [found]
      refine .changed (fun unchanged => ?_) next kind announces
      rw [unchanged] at next
      omega
  · rw [others id same, commits.others id same]
    exact .unchanged _

theorem Commits.recorded (recorded : Recorded deployment store) : Recorded deployment after := by
  obtain ⟨yardName, outbox⟩ := commits.outbox
  intro row listed
  rw [outbox] at listed
  rcases (Table.mem_insert (record_id _ _ _ _ _)).mp listed with before | rfl
  · obtain ⟨known, other, announced, found, identified, named, bounded⟩ := recorded row before
    by_cases same : row.payload.building.id = building.id
    · refine ⟨building, other, announced, same ▸ commits.row, identified, named, ?_⟩
      intro version among
      have below := bounded version among
      have grows := commits.grows
      rw [same] at found
      cases grows with
      | created unknown initial =>
        rw [unknown] at found
        cases found
      | changed old next kind =>
        rw [old] at found
        cases found
        omega
    · exact ⟨known, other, announced, (commits.others _ same).trans found, identified, named, bounded⟩
  · refine ⟨building, event, version, commits.row, commits.grows.identified, rfl, ?_⟩
    intro known among
    have grows := commits.grows
    cases grows with
    | created unknown initial => cases among
    | changed old next kind =>
      cases among
      exact Nat.le_refl _

theorem Commits.mirrors_iff (mirrored : ∀ id, store.Mirrors id) :
    (∀ id, after.Mirrors id) ↔ (building.isActive = false ↔ event = deletedEvent) := by
  obtain ⟨yardName, number, own, others⟩ := commits.stream
  have latest : (after.stream building.id).getLast? =
      some (record deployment building event yardName version number) := by
    rw [own, List.getLast?_concat]
  constructor
  · intro mirrors
    obtain ⟨last, found, _, gone⟩ := mirrors building.id building commits.row
    rw [latest] at found
    cases found
    exact gone
  · intro gone id known found
    by_cases same : id = building.id
    · subst same
      rw [commits.row] at found
      cases found
      exact ⟨_, latest, ⟨rfl, rfl, rfl⟩, gone⟩
    · rw [commits.others id same] at found
      rw [others id same]
      exact mirrored id known found

end

end

section

variable {n : Nat}

theorem commit_stage (write : Write) : ∃ answer, (commit deployment store write).2 = .finished answer := by
  have announced_stage (buildings : Table Building.id) (building : Building)
      (event yardName : String) (identity : Option EventIdentity) : ∃ answer,
      (announced deployment store buildings building event yardName identity).2 =
        .finished answer := by
    unfold announced
    dsimp only
    split
    · exact ⟨_, rfl⟩
    · exact ⟨_, rfl⟩
  cases write with
  | insert | set =>
    simp only [commit]
    split
    · exact announced_stage _ _ _ _ _
    · exact ⟨_, rfl⟩

theorem recorded_congr {after : Store} (recorded : Recorded deployment store)
    (buildings : after.buildings = store.buildings) (outbox : after.outbox = store.outbox) :
    Recorded deployment after := by
  intro row listed
  rw [buildings]
  exact recorded row (outbox ▸ listed)

theorem Relies.found {stage : Stage} (relied : Relies store stage) :
    ∀ id ∈ stage.locks, ∃ building, store.buildings.find? id = some building := by
  intro id locked
  cases stage with
  | countingApartments building act => exact ⟨building, List.mem_singleton.mp locked ▸ relied⟩
  | movingBuilding building changes => exact ⟨building, List.mem_singleton.mp locked ▸ relied⟩
  | namingYard changed event =>
    obtain ⟨⟨old, found, _⟩, _⟩ := relied
    exact ⟨old, List.mem_singleton.mp locked ▸ found⟩
  | committing write =>
    cases write with
    | insert fields yardName => cases locked
    | set changed event yardName =>
      obtain ⟨⟨old, found, _⟩, _⟩ := relied
      exact ⟨old, List.mem_singleton.mp locked ▸ found⟩
  | _ => cases locked

variable (enabled : deployment.webhookEnabled = true)
  (collisionFree : Function.Injective deployment.uuid5)

include enabled collisionFree

theorem commit_cases {write : Write} (recorded : Recorded deployment store)
    (relied : Relies store (.committing write)) :
    (commit deployment store write).1 = store ∨
      ∃ building event version,
        Commits deployment store (commit deployment store write).1 building event version ∧
        ∀ other, Relies store other → (program deployment).Apart (.committing write) other →
          building.id ∉ other.locks := by
  cases write with
  | insert fields yardName =>
    by_cases grounded : (store.yards.find? fields.yardId).isSome = true
    · refine .inr ⟨_, _, _, commit_insert enabled collisionFree recorded fields yardName grounded, ?_⟩
      intro other reliedToo _ locked
      obtain ⟨building, found⟩ := reliedToo.found _ locked
      rw [newBuilding_id, find?_nextKey] at found
      cases found
    · simp only [commit]
      rw [if_neg grounded]
      exact .inl rfl
  | set changed event yardName =>
    by_cases grounded : (store.yards.find? changed.yardId).isSome = true
    · exact .inr ⟨_, _, _,
        commit_set enabled collisionFree recorded relied yardName grounded,
        fun other _ apart => apart changed.id List.mem_cons_self⟩
    · simp only [commit]
      rw [if_neg grounded]
      exact .inl rfl

theorem sound : (program deployment).Sound Program.Anytime Program.Regardless
    (Recorded deployment) Relies where
  idle := fun _ _ => trivial
  start := by
    intro store call _
    cases call with
    | createBuilding | updateBuilding | deleteBuilding | surround => trivial
  step := by
    intro store stage _ recorded relied
    by_cases commits : ∃ write, stage = .committing write
    · obtain ⟨write, rfl⟩ := commits
      obtain ⟨answer, finished⟩ := @commit_stage deployment store write
      refine ⟨?_, ?_⟩
      · rcases commit_cases enabled collisionFree recorded relied with same | ⟨_, _, _, done, _⟩
        · exact same.symm ▸ recorded
        · exact done.recorded recorded
      · change Relies _ (commit deployment store write).2
        rw [finished]
        trivial
    · have reads : ∀ write, stage ≠ .committing write := fun write same => commits ⟨write, same⟩
      obtain ⟨buildings, outbox⟩ := @perform_reads deployment store stage reads
      exact ⟨recorded_congr recorded buildings outbox,
        (relies_perform relied reads).congr fun _ _ => congrArg (Table.find? · _) buildings⟩
  others := by
    intro store stage other _ recorded relied reliedToo _ apart _
    by_cases commits : ∃ write, stage = .committing write
    · obtain ⟨write, rfl⟩ := commits
      rcases commit_cases enabled collisionFree recorded relied with
        same | ⟨building, event, version, done, unlocked⟩
      · exact reliedToo.congr fun id _ => congrArg (fun store => store.buildings.find? id) same
      · refine reliedToo.congr fun id locked => done.others id ?_
        rintro rfl
        exact unlocked other reliedToo apart locked
    · have reads : ∀ write, stage ≠ .committing write := fun write same => commits ⟨write, same⟩
      obtain ⟨buildings, _⟩ := @perform_reads deployment store stage reads
      exact reliedToo.congr fun _ _ => congrArg (Table.find? · _) buildings

variable {state : Program.State Store Stage n} {event : Program.Event Call n}

/-- One event of a run: nothing about the buildings changes, or a transaction commits. -/
theorem next_cases
    (held : (program deployment).Holds (Recorded deployment) Relies state) :
    (((program deployment).next state event).store.buildings = state.store.buildings ∧
      ((program deployment).next state event).store.outbox = state.store.outbox) ∨
      ∃ building kind version, Commits deployment state.store
        ((program deployment).next state event).store building kind version := by
  rcases (program deployment).store_next state event with same | ⟨worker, rfl, stepped⟩
  · rw [same]
    exact .inl ⟨rfl, rfl⟩
  · rw [stepped]
    by_cases commits : ∃ write, state.workers worker = .committing write
    · obtain ⟨write, at_⟩ := commits
      have relied := held.workers worker
      rw [at_] at relied ⊢
      rcases commit_cases enabled collisionFree held.store relied with same | ⟨_, _, _, done, _⟩
      · exact .inl ⟨congrArg Store.buildings same, congrArg Store.outbox same⟩
      · exact .inr ⟨_, _, _, done⟩
    · exact .inl (perform_reads fun write same => commits ⟨write, same⟩)

theorem emitted_next (held : (program deployment).Holds (Recorded deployment) Relies state)
    (id : BuildingId) :
    Emitted deployment (state.store.view id)
      (((program deployment).next state event).store.view id) := by
  rcases next_cases enabled collisionFree held with ⟨buildings, outbox⟩ | ⟨_, _, _, commits⟩
  · unfold Store.view Store.stream
    rw [buildings, outbox]
    exact .unchanged _
  · exact commits.emitted held.store id

omit enabled collisionFree in
theorem mirrors_congr {after : Store} (buildings : after.buildings = store.buildings)
    (outbox : after.outbox = store.outbox) {id : BuildingId} :
    after.Mirrors id ↔ store.Mirrors id := by
  unfold Store.Mirrors Store.stream
  rw [buildings, outbox]

theorem mirrors_commit_iff {write : Write} (recorded : Recorded deployment store)
    (relied : Relies store (.committing write)) (mirrored : ∀ id, store.Mirrors id) :
    (∀ id, (commit deployment store write).1.Mirrors id) ↔
      LeavesActive store (.committing write) := by
  cases write with
  | insert fields yardName =>
    refine iff_of_true ?_ trivial
    by_cases grounded : (store.yards.find? fields.yardId).isSome = true
    · exact ((commit_insert enabled collisionFree recorded fields yardName grounded).mirrors_iff
        mirrored).mpr (iff_of_false (fun gone => Bool.noConfusion gone) (by decide))
    · simp only [commit]
      rw [if_neg grounded]
      exact mirrored
  | set changed event yardName =>
    by_cases grounded : (store.yards.find? changed.yardId).isSome = true
    · rw [(commit_set enabled collisionFree recorded relied yardName grounded).mirrors_iff mirrored]
      obtain ⟨_, rfl | ⟨rfl, gone⟩⟩ := relied
      · constructor
        · intro gone _ _
          cases active : changed.isActive with
          | true => rfl
          | false => exact absurd (gone.mp active) (by decide)
        · intro active
          rw [active rfl grounded]
          exact iff_of_false (by decide) (by decide)
      · exact iff_of_true (iff_of_true gone rfl) fun update => absurd update (by decide)
    · refine iff_of_true ?_ fun _ known => absurd known grounded
      simp only [commit]
      rw [if_neg grounded]
      exact mirrored

theorem mirrors_next_iff (held : (program deployment).Holds (Recorded deployment) Relies state)
    (mirrored : ∀ id, state.store.Mirrors id) :
    (∀ id, ((program deployment).next state event).store.Mirrors id) ↔
      Program.Allows LeavesActive Program.Regardless state event := by
  cases event with
  | call worker call =>
    refine iff_of_true (fun id => ?_) trivial
    have same : ((program deployment).next state (.call worker call)).store = state.store := by
      simp only [Program.next]
      split <;> rfl
    exact same ▸ mirrored id
  | fail worker => exact iff_of_true mirrored trivial
  | step worker =>
    have idle : (∀ other, other ≠ worker → Program.Regardless state.store
        (state.workers worker) (state.workers other)) := fun _ _ => trivial
    refine Iff.trans ?_ (and_iff_left idle).symm
    by_cases commits : ∃ write, state.workers worker = .committing write
    · obtain ⟨write, at_⟩ := commits
      obtain ⟨answer, finished⟩ := @commit_stage deployment state.store write
      have enters : (program deployment).Enters state worker
          ((program deployment).perform state.store (state.workers worker)).2 := by
        intro other _
        refine Program.apart_of_unlocked ?_
        rw [at_]
        change (commit deployment state.store write).2.locks = []
        rw [finished]
        rfl
      have stepped : ((program deployment).next state (.step worker)).store =
          (commit deployment state.store write).1 := by
        simp only [Program.next]
        rw [if_pos enters, at_]
        rfl
      rw [stepped, at_]
      exact mirrors_commit_iff enabled collisionFree held.store (at_ ▸ held.workers worker)
        mirrored
    · have reads : ∀ write, state.workers worker ≠ .committing write :=
        fun write same => commits ⟨write, same⟩
      have leaves : LeavesActive state.store (state.workers worker) := by
        cases at_ : state.workers worker with
        | committing write => exact absurd at_ (reads write)
        | _ => trivial
      refine iff_of_true (fun id => ?_) leaves
      rcases (program deployment).store_next state (.step worker) with
        same | ⟨other, same, stepped⟩
      · exact same ▸ mirrored id
      · cases same
        obtain ⟨buildings, outbox⟩ := @perform_reads deployment state.store _ reads
        rw [stepped]
        exact (mirrors_congr buildings outbox).mpr (mirrored id)

omit enabled collisionFree in
theorem fresh_recorded (yards : Table Yard.id) (apartments : Table Apartment.id) :
    Recorded deployment (.fresh yards apartments) := by
  intro row listed
  cases listed

/-- The stream of every building is that of its changes and mirrors it all along a run, exactly
if every update that is committed leaves its building active. -/
theorem mirrored_iff (yards : Table Yard.id) (apartments : Table Apartment.id)
    (events : List (Program.Event Call n)) :
    Mirrored deployment ((program deployment).initial (.fresh yards apartments)) events ↔
      (program deployment).Careful LeavesActive Program.Regardless
        ((program deployment).initial (.fresh yards apartments)) events := by
  have sound := @sound deployment enabled collisionFree
  have held : (program deployment).Holds (Recorded deployment) Relies
      ((program deployment).initial (.fresh yards apartments) : Program.State Store Stage n) :=
    sound.holds_initial (fresh_recorded yards apartments)
  have steps (state : Program.State Store Stage n) (event : Program.Event Call n)
      (holds : (program deployment).Holds (Recorded deployment) Relies state) :
      (program deployment).Holds (Recorded deployment) Relies
        ((program deployment).next state event) := by
    refine sound.holds_next holds ?_
    cases event with
    | step worker => exact ⟨trivial, fun _ _ => trivial⟩
    | call | fail => trivial
  rw [Program.Careful, ← holds_along_iff_obeys (program deployment).next
    (fun state => ∀ id, state.store.Mirrors id)
    ((program deployment).Holds (Recorded deployment) Relies) held steps
    (fun id building found => by cases found)
    (fun state event holds mirrored => mirrors_next_iff enabled collisionFree holds mirrored)]
  constructor
  · intro mirrored past before
    rcases List.eq_nil_or_concat past with rfl | ⟨earlier, event, rfl⟩
    · intro id building found
      cases found
    · rw [List.concat_eq_append] at before ⊢
      exact fun id => (mirrored earlier event before id).2
  · intro mirrored past event before id
    have reached := run_invariant (program deployment).next _ held steps past
    refine ⟨?_, mirrored _ before id⟩
    rw [run_concat]
    exact emitted_next enabled collisionFree reached id

end

def sampleDeployment : Deployment := ⟨true, "uk", 0, id⟩

theorem sampleYard_unique : (([⟨1, "North", true⟩] : List Yard).map Yard.id).Nodup := List.nodup_singleton _

def sampleStart : Program.State Store Stage 1 :=
  (program sampleDeployment).initial (.fresh ⟨[⟨1, "North", true⟩], sampleYard_unique⟩ .empty)

def created : List (Program.Event Call 1) :=
  [.call 0 (.createBuilding ⟨"Street 1", 1, none, none, 1, 9, none⟩), .step 0, .step 0]

def deleted : List (Program.Event Call 1) :=
  created ++ [.call 0 (.updateBuilding 1 { address := some (some "Street 2") }), .step 0, .step 0,
    .step 0, .step 0, .call 0 (.deleteBuilding 1), .step 0, .step 0, .step 0, .step 0]

theorem deleted_mirrored : Mirrored sampleDeployment sampleStart deleted :=
  (@mirrored_iff sampleDeployment 1 rfl (fun _ _ same => same) _ _ deleted).mpr
    (by decide +kernel)

def deactivated : List (Program.Event Call 1) :=
  created ++ [.call 0 (.updateBuilding 1 { isActive := some (some false) }), .step 0, .step 0,
    .step 0, .step 0]

theorem deactivated_not_mirrored : ¬ Mirrored sampleDeployment sampleStart (deactivated ++ [.step 0]) := by
  intro mirrored
  have gone : ((run (program sampleDeployment).next sampleStart
      (deactivated ++ [.step 0])).store.buildings.find? 1).map Building.isActive = some false := by
    decide +kernel
  have told : ((run (program sampleDeployment).next sampleStart
      (deactivated ++ [.step 0])).store.stream 1).getLast?.map OutboxRow.event =
        some updatedEvent := by
    decide +kernel
  obtain ⟨building, found, inactive⟩ := Option.map_eq_some_iff.mp gone
  obtain ⟨record, latest, _, tells⟩ :=
    (mirrored deactivated (.step 0) (List.prefix_refl _) 1).2 building found
  rw [latest] at told
  have updated : record.event = updatedEvent := Option.some.inj told
  rw [tells.mp inactive] at updated
  exact absurd updated (by decide)

end InfrasafeBot.Addresses.BuildingEvents
