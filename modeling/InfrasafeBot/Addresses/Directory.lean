import InfrasafeBot.Addresses.ResidentBindings
import InfrasafeBot.Library.Interleaving

/-! The directory of yards, buildings and apartments with the requests for apartments
(`services/addresses/core.py`), one statement after the other. A building that is updated or
deleted is read `FOR UPDATE`; a flush writes the columns that have changed. -/

set_option autoImplicit false

namespace InfrasafeBot.Addresses

open Library RequestWorkflow

abbrev YardId := Nat

abbrev BuildingId := Nat

structure Yard where
  id : YardId
  name : String
  isActive : Bool
  deriving DecidableEq

structure Building where
  id : BuildingId
  address : String
  yardId : YardId
  isActive : Bool
  buildingVersion : Nat
  deriving DecidableEq

structure Apartment where
  id : ApartmentId
  buildingId : BuildingId
  number : String
  isActive : Bool
  deriving DecidableEq

structure Directory where
  yards : Table Yard.id
  buildings : Table Building.id
  apartments : Table Apartment.id
  bindings : Table UserApartment.id

namespace Directory

variable (directory : Directory)

def yardActive (id : YardId) : Bool := (directory.yards.find? id).any (·.isActive)

def buildingActive (id : BuildingId) : Bool := (directory.buildings.find? id).any (·.isActive)

def apartmentActive (id : ApartmentId) : Bool := (directory.apartments.find? id).any (·.isActive)

def countActiveBuildings (yard : YardId) : Nat :=
  directory.buildings.rowcount fun row => row.yardId = yard && row.isActive

def countActiveApartments (building : BuildingId) : Nat :=
  directory.apartments.rowcount fun row => row.buildingId = building && row.isActive

def countApprovedResidents (apartment : ApartmentId) : Nat :=
  directory.bindings.rowcount fun row => row.apartmentId = apartment && row.status = .approved

def numbersOf (building : BuildingId) : List String :=
  (directory.apartments.rows.filter (·.buildingId = building)).map (·.number)

end Directory

structure YardChanges where
  name : Option String
  isActive : Option Bool

structure BuildingChanges where
  address : Option String
  yardId : Option YardId
  isActive : Option Bool

structure ApartmentChanges where
  buildingId : Option BuildingId
  number : Option String
  isActive : Option Bool

def YardChanges.set (changes : YardChanges) (yard : Yard) : Yard :=
  { yard with
    name := changes.name.getD yard.name
    isActive := changes.isActive.getD yard.isActive }

def BuildingChanges.set (changes : BuildingChanges) (building : Building) : Building :=
  { building with
    address := changes.address.getD building.address
    yardId := changes.yardId.getD building.yardId
    isActive := changes.isActive.getD building.isActive }

def ApartmentChanges.set (changes : ApartmentChanges) (apartment : Apartment) : Apartment :=
  { apartment with
    buildingId := changes.buildingId.getD apartment.buildingId
    number := changes.number.getD apartment.number
    isActive := changes.isActive.getD apartment.isActive }

def Yard.assign (loaded changed stored : Yard) : Yard :=
  { stored with
    name := assignedColumn changed.name loaded.name stored.name
    isActive := assignedColumn changed.isActive loaded.isActive stored.isActive }

def Building.assign (loaded changed stored : Building) : Building :=
  { stored with
    address := assignedColumn changed.address loaded.address stored.address
    yardId := assignedColumn changed.yardId loaded.yardId stored.yardId
    isActive := assignedColumn changed.isActive loaded.isActive stored.isActive
    buildingVersion :=
      assignedColumn changed.buildingVersion loaded.buildingVersion stored.buildingVersion }

def Apartment.assign (loaded changed stored : Apartment) : Apartment :=
  { stored with
    buildingId := assignedColumn changed.buildingId loaded.buildingId stored.buildingId
    number := assignedColumn changed.number loaded.number stored.number
    isActive := assignedColumn changed.isActive loaded.isActive stored.isActive }

@[simp] theorem Yard.assign_id (loaded changed stored : Yard) :
    (loaded.assign changed stored).id = stored.id := rfl

@[simp] theorem Building.assign_id (loaded changed stored : Building) :
    (loaded.assign changed stored).id = stored.id := rfl

@[simp] theorem Apartment.assign_id (loaded changed stored : Apartment) :
    (loaded.assign changed stored).id = stored.id := rfl

inductive DirectoryWrite where
  | insertYard (name : String)
  | setYard (loaded changed : Yard)
  | insertBuilding (address : String) (yardId : YardId)
  | setBuilding (loaded changed : Building)
  | insertApartments (buildingId : BuildingId) (numbers : List String)
  | setApartment (loaded changed : Apartment)
  | insertBinding (user : UserId) (apartment : ApartmentId) (isOwner isPrimary : Bool)
      (now : Moment)
  | review (id : UserApartmentId) (status : UserApartmentStatus) (reviewer : UserId)
      (comment : Option String) (now : Moment)

def newYard (name : String) (id : YardId) : Yard := ⟨id, name, true⟩

@[simp] theorem newYard_id (name : String) (id : YardId) : (newYard name id).id = id := rfl

def newBuilding (address : String) (yardId : YardId) (id : BuildingId) : Building :=
  ⟨id, address, yardId, true, 0⟩

@[simp] theorem newBuilding_id (address : String) (yardId : YardId) (id : BuildingId) :
    (newBuilding address yardId id).id = id := rfl

def newApartment (buildingId : BuildingId) (number : String) (id : ApartmentId) : Apartment :=
  ⟨id, buildingId, number, true⟩

@[simp] theorem newApartment_id (buildingId : BuildingId) (number : String) (id : ApartmentId) :
    (newApartment buildingId number id).id = id := rfl

def withApartments (apartments : Table Apartment.id) (buildingId : BuildingId)
    (numbers : List String) : Table Apartment.id :=
  numbers.foldl (fun apartments number =>
    apartments.insert (newApartment buildingId number) (newApartment_id buildingId number))
    apartments

namespace Directory

variable (directory : Directory)

def setYardRow (loaded changed : Yard) : Table Yard.id :=
  directory.yards.update (·.id = loaded.id) (loaded.assign changed)
    (Yard.assign_id loaded changed)

def setBuildingRow (loaded changed : Building) : Table Building.id :=
  directory.buildings.update (·.id = loaded.id) (loaded.assign changed)
    (Building.assign_id loaded changed)

def setApartmentRow (loaded changed : Apartment) : Table Apartment.id :=
  directory.apartments.update (·.id = loaded.id) (loaded.assign changed)
    (Apartment.assign_id loaded changed)

def admits : DirectoryWrite → Bool
  | .insertYard name => !directory.yards.rows.any (·.name = name)
  | .setYard loaded changed => (((directory.setYardRow loaded changed).rows.map (·.name)).Nodup : Bool)
  | .insertBuilding _ yardId => (directory.yards.find? yardId).isSome
  | .setBuilding _ changed => (directory.yards.find? changed.yardId).isSome
  | .insertApartments buildingId numbers =>
    (directory.buildings.find? buildingId).isSome && (numbers.Nodup : Bool) &&
      numbers.all fun number => !(directory.numbersOf buildingId).contains number
  | .setApartment loaded changed =>
    (directory.buildings.find? changed.buildingId).isSome &&
      (((directory.setApartmentRow loaded changed).rows.map fun row =>
        (row.buildingId, row.number)).Nodup : Bool)
  | .insertBinding user apartment _ _ _ =>
    (directory.apartments.find? apartment).isSome &&
      !directory.bindings.rows.any fun row => row.userId = user && row.apartmentId = apartment
  | .review id _ _ _ _ => (directory.bindings.find? id).isSome

def write : DirectoryWrite → Directory
  | .insertYard name => { directory with yards := directory.yards.insert (newYard name) (newYard_id name) }
  | .setYard loaded changed => { directory with yards := directory.setYardRow loaded changed }
  | .insertBuilding address yardId =>
    { directory with
      buildings := directory.buildings.insert (newBuilding address yardId)
        (newBuilding_id address yardId) }
  | .setBuilding loaded changed => { directory with buildings := directory.setBuildingRow loaded changed }
  | .insertApartments buildingId numbers =>
    { directory with apartments := withApartments directory.apartments buildingId numbers }
  | .setApartment loaded changed =>
    { directory with apartments := directory.setApartmentRow loaded changed }
  | .insertBinding user apartment isOwner isPrimary now =>
    { directory with
      bindings := directory.bindings.insert
        (newBinding user apartment .pending isOwner isPrimary none now)
        (newRequest_id user apartment isOwner isPrimary now) }
  | .review id status reviewer comment now =>
    { directory with
      bindings := directory.bindings.update (·.id = id)
        (fun row => row.review status reviewer comment now)
        fun row => row.review_id _ _ _ _ }

def fresh : Directory := ⟨.empty, .empty, .empty, .empty⟩

end Directory

inductive YardAct where
  | update (changes : YardChanges)
  | delete

inductive BuildingAct where
  | update (changes : BuildingChanges)
  | delete

inductive ApartmentAct where
  | update (changes : ApartmentChanges)
  | delete

inductive NewApartments where
  | one (number : String)
  | bulk (numbers : List String)

inductive DirectoryAnswer where
  | done
  | unchanged
  | bulk (created skipped : Nat) (errors : List String)
  | failed (error : DomainError)
  | integrityError

inductive DirectoryStage where
  | idle
  | namingYard (name : String)
  | loadingYard (id : YardId) (act : YardAct)
  | countingBuildings (yard : Yard) (act : YardAct)
  | comparingYard (yard : Yard) (changes : YardChanges)
  | enteringYard (address : String) (yardId : YardId)
  | lockingBuilding (id : BuildingId) (act : BuildingAct)
  | countingApartments (building : Building) (act : BuildingAct)
  | movingBuilding (building : Building) (changes : BuildingChanges)
  | enteringBuilding (id : BuildingId) (apartments : NewApartments)
  | comparingNumbers (id : BuildingId) (apartments : NewApartments)
  | loadingApartment (id : ApartmentId) (act : ApartmentAct)
  | countingResidents (apartment : Apartment) (act : ApartmentAct)
  | movingApartment (apartment : Apartment) (changes : ApartmentChanges)
  | comparingApartment (apartment : Apartment) (changes : ApartmentChanges)
  | requesting (user : UserId) (apartment : ApartmentId) (isOwner isPrimary : Bool)
      (now : Moment)
  | matching (user : UserId) (apartment : ApartmentId) (isOwner isPrimary : Bool) (now : Moment)
  | loadingRequest (id : UserApartmentId) (approve : Bool) (reviewer : UserId)
      (comment : Option String) (now : Moment)
  | committing (write : DirectoryWrite) (held : Option BuildingId)
      (committed failed : DirectoryAnswer)
  | finished (answer : DirectoryAnswer)

def DirectoryStage.commit (write : DirectoryWrite) (held : Option BuildingId) : DirectoryStage :=
  .committing write held .done .integrityError

def DirectoryStage.notFound (message code : String) : DirectoryStage :=
  .finished (.failed (.addressNotFound message code))

def DirectoryStage.conflict (message : String) (code : Option String) : DirectoryStage :=
  .finished (.failed (.addressConflict message code))

def numberMaxLength : Nat := 20

structure BulkPlan where
  created : List String
  skipped : Nat
  errors : List String

def planBulk (existing : List String) (raws : List String) : BulkPlan :=
  raws.foldl (fun plan raw =>
    let number := pyStrip raw
    if number = "" then { plan with errors := plan.errors ++ ["Пустой номер квартиры пропущен"] }
    else if numberMaxLength < number.length then
      { plan with errors := plan.errors ++ [s!"Номер квартиры '{number}' слишком длинный " ++
          s!"(максимум {numberMaxLength} символов)"] }
    else if existing.contains number || plan.created.contains number then
      { plan with skipped := plan.skipped + 1 }
    else { plan with created := plan.created ++ [number] }) ⟨[], 0, []⟩

def performDirectory (directory : Directory) : DirectoryStage → Directory × DirectoryStage
  | .idle => (directory, .idle)
  | .namingYard name =>
    if directory.yards.rows.any (·.name = name) then
      (directory, .conflict s!"Двор с названием '{name}' уже существует" none)
    else (directory, .commit (.insertYard name) none)
  | .loadingYard id act =>
    match directory.yards.find? id with
    | none => (directory, .notFound "Двор не найден" "yard_not_found")
    | some yard =>
      match act with
      | .update changes =>
        if changes.isActive = some false ∧ yard.isActive = true then
          (directory, .countingBuildings yard act)
        else (directory, .comparingYard yard changes)
      | .delete => (directory, .countingBuildings yard act)
  | .countingBuildings yard act =>
    let active := directory.countActiveBuildings yard.id
    match act with
    | .update changes =>
      if 0 < active then
        (directory, .conflict s!"Невозможно деактивировать двор: есть {active} активных зданий" none)
      else (directory, .comparingYard yard changes)
    | .delete =>
      if 0 < active then
        (directory, .conflict s!"Невозможно удалить двор: есть {active} активных зданий" none)
      else (directory, .commit (.setYard yard { yard with isActive := false }) none)
  | .comparingYard yard changes =>
    let name := changes.name.getD yard.name
    if name ≠ yard.name ∧
        directory.yards.rows.any (fun row => row.name = name && row.id ≠ yard.id) = true then
      (directory, .conflict s!"Двор с названием '{name}' уже существует" none)
    else (directory, .commit (.setYard yard (changes.set yard)) none)
  | .enteringYard address yardId =>
    match directory.yards.find? yardId with
    | none => (directory, .notFound "Двор не найден" "yard_not_found")
    | some yard =>
      if yard.isActive then (directory, .commit (.insertBuilding address yardId) none)
      else (directory, .conflict "Двор неактивен" (some "yard_inactive"))
  | .lockingBuilding id act =>
    match directory.buildings.find? id with
    | none => (directory, .notFound "Здание не найдено" "building_not_found")
    | some building =>
      match act with
      | .update changes =>
        if changes.isActive = some false ∧ building.isActive = true then
          (directory, .countingApartments building act)
        else (directory, .movingBuilding building changes)
      | .delete => (directory, .countingApartments building act)
  | .countingApartments building act =>
    let active := directory.countActiveApartments building.id
    match act with
    | .update changes =>
      if 0 < active then
        (directory, .conflict s!"Невозможно деактивировать здание: есть {active} активных квартир" none)
      else (directory, .movingBuilding building changes)
    | .delete =>
      if 0 < active then
        (directory, .conflict s!"Невозможно удалить здание: есть {active} активных квартир" none)
      else if building.isActive then
        (directory, .commit (.setBuilding building { building with
          isActive := false, buildingVersion := building.buildingVersion + 1 })
            (some building.id))
      else (directory, .finished .unchanged)
  | .movingBuilding building changes =>
    let changed := changes.set building
    let proceed : Directory × DirectoryStage :=
      if changed = building then (directory, .finished .unchanged)
      else (directory, .commit (.setBuilding building { changed with
        buildingVersion := building.buildingVersion + 1 }) (some building.id))
    if changed.yardId = building.yardId then proceed
    else
      match directory.yards.find? changed.yardId with
      | none => (directory, .notFound "Двор не найден" "yard_not_found")
      | some yard =>
        if yard.isActive then proceed
        else (directory, .conflict "Двор неактивен" (some "yard_inactive"))
  | .enteringBuilding id apartments =>
    match directory.buildings.find? id with
    | none => (directory, .notFound "Здание не найдено" "building_not_found")
    | some building =>
      if building.isActive then (directory, .comparingNumbers id apartments)
      else (directory, .conflict "Здание неактивно" (some "building_inactive"))
  | .comparingNumbers id apartments =>
    match apartments with
    | .one number =>
      if (directory.numbersOf id).contains number then
        (directory, .conflict s!"Квартира {number} уже существует в этом здании" none)
      else (directory, .commit (.insertApartments id [number]) none)
    | .bulk numbers =>
      let plan := planBulk (directory.numbersOf id) numbers
      if plan.created.isEmpty then (directory, .finished (.bulk 0 plan.skipped plan.errors))
      else
        (directory, .committing (.insertApartments id plan.created) none
          (.bulk plan.created.length plan.skipped plan.errors)
          (.bulk 0 plan.skipped (plan.errors ++ ["Ошибка целостности БД при массовом создании"])))
  | .loadingApartment id act =>
    match directory.apartments.find? id with
    | none => (directory, .notFound "Квартира не найдена" "apartment_not_found")
    | some apartment =>
      match act with
      | .update changes =>
        if changes.isActive = some false ∧ apartment.isActive = true then
          (directory, .countingResidents apartment act)
        else (directory, .movingApartment apartment changes)
      | .delete => (directory, .countingResidents apartment act)
  | .countingResidents apartment act =>
    let approved := directory.countApprovedResidents apartment.id
    match act with
    | .update changes =>
      if 0 < approved then
        (directory, .conflict ("Невозможно деактивировать квартиру: " ++
          s!"есть {approved} подтвержденных жителей") none)
      else (directory, .movingApartment apartment changes)
    | .delete =>
      if 0 < approved then
        (directory, .conflict s!"Невозможно удалить квартиру: есть {approved} подтвержденных жителей" none)
      else (directory, .commit (.setApartment apartment { apartment with isActive := false }) none)
  | .movingApartment apartment changes =>
    let target := (changes.set apartment).buildingId
    if target = apartment.buildingId then (directory, .comparingApartment apartment changes)
    else
      match directory.buildings.find? target with
      | none => (directory, .notFound "Здание не найдено" "building_not_found")
      | some building =>
        if building.isActive then (directory, .comparingApartment apartment changes)
        else (directory, .conflict "Здание неактивно" (some "building_inactive"))
  | .comparingApartment apartment changes =>
    let changed := changes.set apartment
    if (changed.number ≠ apartment.number ∨ changed.buildingId ≠ apartment.buildingId) ∧
        directory.apartments.rows.any (fun row => row.buildingId = changed.buildingId &&
          row.number = changed.number && row.id ≠ apartment.id) = true then
      (directory, .conflict s!"Квартира {changed.number} уже существует в этом здании" none)
    else (directory, .commit (.setApartment apartment changed) none)
  | .requesting user apartment isOwner isPrimary now =>
    match directory.apartments.find? apartment with
    | none => (directory, .notFound "Квартира не найдена" "apartment_not_found")
    | some row =>
      if row.isActive then (directory, .matching user apartment isOwner isPrimary now)
      else (directory, .conflict "Квартира неактивна" (some "apartment_inactive"))
  | .matching user apartment isOwner isPrimary now =>
    match directory.bindings.rows.find? fun row =>
      row.userId = user && row.apartmentId = apartment with
    | some existing =>
      match existing.status with
      | .pending =>
        (directory, .conflict "Заявка уже отправлена и ожидает рассмотрения"
          (some "request_already_pending"))
      | .approved =>
        (directory, .conflict "Вы уже подтверждены как житель этой квартиры" (some "already_resident"))
      | .rejected =>
        (directory, .conflict "Ваша предыдущая заявка была отклонена. Обратитесь к администратору." none)
    | none => (directory, .commit (.insertBinding user apartment isOwner isPrimary now) none)
  | .loadingRequest id approve reviewer comment now =>
    match directory.bindings.find? id with
    | none => (directory, .notFound "Заявка не найдена" "request_not_found")
    | some binding =>
      if binding.status ≠ .pending then
        (directory, .conflict s!"Заявка уже обработана (статус: {binding.status.value})" none)
      else
        (directory, .commit (.review id (if approve then .approved else .rejected) reviewer
          comment now) none)
  | .committing write _ committed failed =>
    if directory.admits write then (directory.write write, .finished committed)
    else (directory, .finished failed)
  | .finished answer => (directory, .finished answer)

def DirectoryStage.locks : DirectoryStage → List BuildingId
  | .countingApartments building _ => [building.id]
  | .movingBuilding building _ => [building.id]
  | .committing _ held _ _ => held.toList
  | _ => []

def DirectoryStage.free : DirectoryStage → Bool
  | .idle => true
  | .finished _ => true
  | _ => false

inductive DirectoryCall where
  | createYard (name : String)
  | updateYard (id : YardId) (changes : YardChanges)
  | deleteYard (id : YardId)
  | createBuilding (address : String) (yardId : YardId)
  | updateBuilding (id : BuildingId) (changes : BuildingChanges)
  | deleteBuilding (id : BuildingId)
  | createApartment (buildingId : BuildingId) (number : String)
  | bulkCreateApartments (buildingId : BuildingId) (numbers : List String)
  | updateApartment (id : ApartmentId) (changes : ApartmentChanges)
  | deleteApartment (id : ApartmentId)
  | requestApartment (user : UserId) (apartment : ApartmentId) (isOwner isPrimary : Bool)
      (now : Moment)
  | reviewApartmentRequest (id : UserApartmentId) (approve : Bool) (reviewer : UserId)
      (comment : Option String) (now : Moment)

def DirectoryCall.start : DirectoryCall → DirectoryStage
  | .createYard name => .namingYard name
  | .updateYard id changes => .loadingYard id (.update changes)
  | .deleteYard id => .loadingYard id .delete
  | .createBuilding address yardId => .enteringYard address yardId
  | .updateBuilding id changes => .lockingBuilding id (.update changes)
  | .deleteBuilding id => .lockingBuilding id .delete
  | .createApartment buildingId number => .enteringBuilding buildingId (.one number)
  | .bulkCreateApartments buildingId numbers => .enteringBuilding buildingId (.bulk numbers)
  | .updateApartment id changes => .loadingApartment id (.update changes)
  | .deleteApartment id => .loadingApartment id .delete
  | .requestApartment user apartment isOwner isPrimary now =>
    .requesting user apartment isOwner isPrimary now
  | .reviewApartmentRequest id approve reviewer comment now =>
    .loadingRequest id approve reviewer comment now

theorem DirectoryCall.start_unlocked (call : DirectoryCall) : call.start.locks = [] := by
  cases call with
  | createYard | updateYard | deleteYard | createBuilding | updateBuilding | deleteBuilding => rfl
  | createApartment | bulkCreateApartments | updateApartment | deleteApartment | requestApartment => rfl
  | reviewApartmentRequest => rfl

def directoryProgram : Program Directory DirectoryStage DirectoryCall BuildingId where
  idle := .idle
  start := DirectoryCall.start
  free := DirectoryStage.free
  perform := performDirectory
  locks := DirectoryStage.locks
  idle_unlocked := rfl
  start_unlocked := DirectoryCall.start_unlocked

end InfrasafeBot.Addresses
