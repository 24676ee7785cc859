import InfrasafeBot.Addresses.Directory
import Mathlib.Data.List.Dedup

/-! The addresses that a request may be created for (`services/request_address.py`): the checks of
the resolver and the menu that offers them. -/

set_option autoImplicit false

namespace InfrasafeBot.Addresses

open Library RequestWorkflow

structure UserYard where
  userId : UserId
  yardId : YardId

structure AddressBook extends Directory where
  userYards : List UserYard

/-- A loaded row with the parents of its `contains_eager`. -/
inductive Entity where
  | yard (yard : Yard)
  | building (building : Building) (yard : Yard)
  | apartment (apartment : Apartment) (building : Building) (yard : Yard)

structure ResolvedAddress where
  addressType : String
  canonicalAddress : String
  apartmentId : Option ApartmentId
  buildingId : Option BuildingId
  yardId : Option YardId

structure AddressResolutionError where
  message : String
  statusCode : Nat

def formatYardAddress (yard : Yard) : String := yard.name

def formatBuildingAddress (building : Building) (yard : Yard) : String :=
  if yard.name = "" then building.address else s!"{building.address} ({yard.name})"

/-- The fallbacks are for objects whose parents are not loaded. -/
def formatApartmentAddress (apartment : Apartment) (building : Building) (yard : Yard) : String :=
  let base := s!"{building.address}, кв. {apartment.number}"
  if yard.name = "" then base else s!"{base} ({yard.name})"

def buildResolved : Entity → ResolvedAddress
  | .yard yard => ⟨"yard", formatYardAddress yard, none, none, some yard.id⟩
  | .building building yard =>
    ⟨"building", formatBuildingAddress building yard, none, some building.id, none⟩
  | .apartment apartment building yard =>
    ⟨"apartment", formatApartmentAddress apartment building yard, some apartment.id, none, none⟩

def roleAllowedLevels : String → Option (List String)
  | "applicant" => some ["yard", "building", "apartment"]
  | "inspector" => some ["building"]
  | "staff_group" => some ["yard", "building"]
  | _ => none

def unscopedRoles : List String := ["inspector", "staff_group"]

def addressTypes : List String := ["yard", "building", "apartment"]

def checkLevelAllowed (role addressType : String) : Except AddressResolutionError Unit :=
  match roleAllowedLevels role with
  | none => .error ⟨s!"role '{role}' cannot create requests", 403⟩
  | some allowed =>
    if addressType ∉ addressTypes then .error ⟨s!"unsupported address_type '{addressType}'", 422⟩
    else if addressType ∉ allowed then
      .error ⟨s!"address_type '{addressType}' not allowed for role '{role}'", 422⟩
    else .ok ()

namespace AddressBook

variable (book : AddressBook) (userId : UserId)

def joinedBuildings : List (Building × Yard) :=
  book.buildings.rows.filterMap fun building =>
    (book.yards.find? building.yardId).map fun yard => (building, yard)

def joinedApartments : List (Apartment × Building × Yard) :=
  book.apartments.rows.filterMap fun apartment =>
    (book.buildings.find? apartment.buildingId).bind fun building =>
      (book.yards.find? building.yardId).map fun yard => (apartment, building, yard)

def viaApartment (yard : Yard) : Bool :=
  book.buildings.rows.any fun building => book.apartments.rows.any fun apartment =>
    book.bindings.rows.any fun binding =>
      building.yardId = yard.id && building.isActive && apartment.buildingId = building.id &&
        apartment.isActive && binding.apartmentId = apartment.id && binding.userId = userId &&
        binding.status = .approved

def viaUserYard (yard : Yard) : Bool :=
  book.userYards.any fun row => row.yardId = yard.id && row.userId = userId

def hasUserApartment (building : Building) : Bool :=
  book.apartments.rows.any fun apartment => book.bindings.rows.any fun binding =>
    apartment.buildingId = building.id && apartment.isActive &&
      binding.apartmentId = apartment.id && binding.userId = userId && binding.status = .approved

def hasMembership (apartment : Apartment) : Bool :=
  book.bindings.rows.any fun binding =>
    binding.apartmentId = apartment.id && binding.userId = userId && binding.status = .approved

def existsStmt (addressType : String) (addressId : Nat) : List Entity :=
  if addressType = "yard" then
    (book.yards.rows.filter fun yard => yard.id = addressId && yard.isActive).map .yard
  else if addressType = "building" then
    (book.joinedBuildings.filter fun (building, yard) =>
      building.id = addressId && building.isActive && yard.isActive).map fun (building, yard) =>
        .building building yard
  else
    (book.joinedApartments.filter fun (apartment, building, yard) =>
      apartment.id = addressId && apartment.isActive && building.isActive && yard.isActive).map
        fun (apartment, building, yard) => .apartment apartment building yard

def memberStmt (addressType : String) (addressId : Nat) : List Entity :=
  if addressType = "yard" then
    (book.yards.rows.filter fun yard => yard.id = addressId && yard.isActive &&
      (book.viaApartment userId yard || book.viaUserYard userId yard)).map .yard
  else if addressType = "building" then
    (book.joinedBuildings.filter fun (building, yard) =>
      building.id = addressId && building.isActive && yard.isActive &&
        book.hasUserApartment userId building).map fun (building, yard) => .building building yard
  else
    (book.joinedApartments.filter fun (apartment, building, yard) =>
      apartment.id = addressId && apartment.isActive && building.isActive && yard.isActive &&
        book.hasMembership userId apartment).map
          fun (apartment, building, yard) => .apartment apartment building yard

/-- `_decide` -/
def decideAddress (role : String) (memberObj existsObj : Option Entity) :
    Except AddressResolutionError ResolvedAddress :=
  if role ∈ unscopedRoles then
    match existsObj with
    | none => .error ⟨"address not found or inactive", 422⟩
    | some entity => .ok (buildResolved entity)
  else
    match memberObj with
    | some entity => .ok (buildResolved entity)
    | none =>
      if existsObj.isSome then .error ⟨"address not available to user", 403⟩
      else .error ⟨"address not found or inactive", 422⟩

def resolveRequestAddressSync (role addressType : String) (addressId : Nat) :
    Except AddressResolutionError ResolvedAddress := do
  checkLevelAllowed role addressType
  let memberObj :=
    if role = "applicant" then (book.memberStmt userId addressType addressId).head? else none
  let existsObj := (book.existsStmt addressType addressId).head?
  decideAddress role memberObj existsObj

def resolveRequestAddressAsync (role addressType : String) (addressId : Nat) :
    Except AddressResolutionError ResolvedAddress := do
  checkLevelAllowed role addressType
  let mut memberObj := none
  if role = "applicant" then
    memberObj := (book.memberStmt userId addressType addressId).head?
  let existsObj := (book.existsStmt addressType addressId).head?
  decideAddress role memberObj existsObj

structure AvailableAddress where
  id : Nat
  label : String
  buildingId : Option BuildingId
  yardId : Option YardId

structure AvailableAddresses where
  yards : List AvailableAddress
  buildings : List AvailableAddress
  apartments : List AvailableAddress

def AvailableAddresses.level (menu : AvailableAddresses) (addressType : String) :
    List AvailableAddress :=
  if addressType = "yard" then menu.yards
  else if addressType = "building" then menu.buildings
  else if addressType = "apartment" then menu.apartments
  else []

def AvailableAddresses.ids (menu : AvailableAddresses) (addressType : String) : List Nat :=
  (menu.level addressType).map (·.id)

section

variable (collation : String → String → Bool)

def availableYardsStmt : List Yard :=
  (book.yards.rows.filter fun yard => yard.isActive &&
    (book.viaApartment userId yard || book.viaUserYard userId yard)).mergeSort
      fun left right => collation left.name right.name

def availableBuildingsStmt : List (Building × Yard) :=
  (book.joinedBuildings.filter fun (building, yard) =>
    building.isActive && yard.isActive && book.hasUserApartment userId building).mergeSort
      fun left right => collation left.1.address right.1.address

def availableApartmentsStmt : List (Apartment × Building × Yard) :=
  (book.joinedApartments.filter fun (apartment, building, yard) =>
    apartment.isActive && building.isActive && yard.isActive &&
      book.hasMembership userId apartment).mergeSort fun left right =>
        if left.2.1.address = right.2.1.address then collation left.1.number right.1.number
        else collation left.2.1.address right.2.1.address

def serializeAvailable (yards : List Yard) (buildings : List (Building × Yard))
    (apartments : List (Apartment × Building × Yard)) : AvailableAddresses where
  yards := yards.map fun yard => ⟨yard.id, formatYardAddress yard, none, none⟩
  buildings := buildings.map fun (building, yard) =>
    ⟨building.id, formatBuildingAddress building yard, none, some building.yardId⟩
  apartments := apartments.map fun (apartment, building, yard) =>
    ⟨apartment.id, formatApartmentAddress apartment building yard, some apartment.buildingId,
      some building.yardId⟩

def listAvailableRequestAddressesSync : AvailableAddresses :=
  let yards := (book.availableYardsStmt userId collation).dedup
  let buildings := (book.availableBuildingsStmt userId collation).dedup
  let apartments := (book.availableApartmentsStmt userId collation).dedup
  serializeAvailable yards buildings apartments

def listAvailableRequestAddressesAsync : AvailableAddresses :=
  let yres := book.availableYardsStmt userId collation
  let bres := book.availableBuildingsStmt userId collation
  let ares := book.availableApartmentsStmt userId collation
  serializeAvailable yres.dedup bres.dedup ares.dedup

end

def Resides (apartment : ApartmentId) : Prop :=
  ∃ binding ∈ book.bindings.rows,
    binding.apartmentId = apartment ∧ binding.userId = userId ∧ binding.status = .approved

def ResidesIn (building : BuildingId) : Prop :=
  ∃ apartment ∈ book.apartments.rows, apartment.buildingId = building ∧ apartment.isActive = true ∧
    book.Resides userId apartment.id

def Present : Entity → Prop
  | .yard yard => yard ∈ book.yards.rows
  | .building building yard =>
    building ∈ book.buildings.rows ∧ book.yards.find? building.yardId = some yard
  | .apartment apartment building yard =>
    apartment ∈ book.apartments.rows ∧ book.buildings.find? apartment.buildingId = some building ∧
      book.yards.find? building.yardId = some yard

def Belongs : Entity → Prop
  | .yard yard =>
    (∃ building ∈ book.buildings.rows, building.yardId = yard.id ∧ building.isActive = true ∧
      book.ResidesIn userId building.id) ∨ ⟨userId, yard.id⟩ ∈ book.userYards
  | .building building _ => book.ResidesIn userId building.id
  | .apartment apartment _ _ => book.Resides userId apartment.id

end AddressBook

namespace Entity

def level : Entity → String
  | .yard _ => "yard"
  | .building _ _ => "building"
  | .apartment _ _ _ => "apartment"

def id : Entity → Nat
  | .yard row => row.id
  | .building row _ => row.id
  | .apartment row _ _ => row.id

def active : Entity → Bool
  | .yard row => row.isActive
  | .building row around => row.isActive && around.isActive
  | .apartment row around beyond => row.isActive && around.isActive && beyond.isActive

def available (entity : Entity) : AddressBook.AvailableAddress where
  id := entity.id
  label := (buildResolved entity).canonicalAddress
  buildingId := match entity with | .apartment row _ _ => some row.buildingId | _ => none
  yardId := match entity with
    | .yard _ => none
    | .building row _ => some row.yardId
    | .apartment _ around _ => some around.yardId

end Entity

namespace AddressBook

/-- The menu of a user and what the resolver answers to an applicant. -/
structure MenuAccepted (book : AddressBook) (userId : UserId) (menu : AvailableAddresses)
    (resolve : String → Nat → Except AddressResolutionError ResolvedAddress) : Prop where
  offers : ∀ level id label, (∃ row ∈ menu.level level, row.id = id ∧ row.label = label) ↔
    ∃ address, resolve level id = .ok address ∧ address.canonicalAddress = label
  once : ∀ level, (menu.ids level).Nodup
  above_apartment : ∀ apartment building yard, book.Present (.apartment apartment building yard) →
    apartment.id ∈ menu.ids "apartment" → building.id ∈ menu.ids "building" ∧ yard.id ∈ menu.ids "yard"
  above_building : ∀ building yard, book.Present (.building building yard) →
    building.id ∈ menu.ids "building" → yard.id ∈ menu.ids "yard"
  foreign : ∀ level id, (∃ message, resolve level id = .error ⟨message, 403⟩) ↔
    ∃ entity, book.Present entity ∧ entity.level = level ∧ entity.id = id ∧ entity.active = true ∧
      ¬ book.Belongs userId entity
  refused : ∀ level id error, resolve level id = .error error →
    error.statusCode = 403 ∨ error.statusCode = 422

variable {book : AddressBook} {userId : UserId} {entity other : Entity} {level : String} {id : Nat}

theorem hasMembership_iff {apartment : Apartment} :
    book.hasMembership userId apartment = true ↔ book.Resides userId apartment.id := by
  simp only [hasMembership, Resides, List.any_eq_true, Bool.and_eq_true, decide_eq_true_eq, and_assoc]

theorem hasUserApartment_iff {building : Building} :
    book.hasUserApartment userId building = true ↔ book.ResidesIn userId building.id := by
  simp only [hasUserApartment, ResidesIn, Resides, List.any_eq_true, Bool.and_eq_true,
    decide_eq_true_eq, and_assoc]
  exact ⟨fun ⟨apartment, listed, binding, bound, own, live, approved⟩ =>
      ⟨apartment, listed, own, live, binding, bound, approved⟩,
    fun ⟨apartment, listed, own, live, binding, bound, approved⟩ =>
      ⟨apartment, listed, binding, bound, own, live, approved⟩⟩

theorem viaApartment_iff {yard : Yard} : book.viaApartment userId yard = true ↔
    ∃ building ∈ book.buildings.rows, building.yardId = yard.id ∧ building.isActive = true ∧
      book.ResidesIn userId building.id := by
  simp only [viaApartment, ResidesIn, Resides, List.any_eq_true, Bool.and_eq_true,
    decide_eq_true_eq, and_assoc]
  exact ⟨fun ⟨building, built, apartment, listed, binding, bound, around, up, own, live, approved⟩ =>
      ⟨building, built, around, up, apartment, listed, own, live, binding, bound, approved⟩,
    fun ⟨building, built, around, up, apartment, listed, own, live, binding, bound, approved⟩ =>
      ⟨building, built, apartment, listed, binding, bound, around, up, own, live, approved⟩⟩

theorem viaUserYard_iff {yard : Yard} :
    book.viaUserYard userId yard = true ↔ ⟨userId, yard.id⟩ ∈ book.userYards := by
  simp only [viaUserYard, List.any_eq_true, Bool.and_eq_true, decide_eq_true_eq]
  exact ⟨fun ⟨⟨_, _⟩, listed, rfl, rfl⟩ => listed, fun listed => ⟨_, listed, rfl, rfl⟩⟩

theorem mem_joinedBuildings {row : Building × Yard} :
    row ∈ book.joinedBuildings ↔ book.Present (.building row.1 row.2) := by
  obtain ⟨building, yard⟩ := row
  simp only [joinedBuildings, List.mem_filterMap, Option.map_eq_some_iff, Prod.mk.injEq, Present]
  exact ⟨fun ⟨_, listed, _, found, rfl, rfl⟩ => ⟨listed, found⟩,
    fun ⟨listed, found⟩ => ⟨_, listed, _, found, rfl, rfl⟩⟩

theorem mem_joinedApartments {row : Apartment × Building × Yard} :
    row ∈ book.joinedApartments ↔ book.Present (.apartment row.1 row.2.1 row.2.2) := by
  obtain ⟨apartment, building, yard⟩ := row
  simp only [joinedApartments, List.mem_filterMap, Option.bind_eq_some_iff, Option.map_eq_some_iff,
    Prod.mk.injEq, Present]
  exact ⟨fun ⟨_, listed, _, found, _, above, rfl, rfl, rfl⟩ => ⟨listed, found, above⟩,
    fun ⟨listed, found, above⟩ => ⟨_, listed, _, found, _, above, rfl, rfl, rfl⟩⟩

theorem mem_existsStmt (known : level ∈ addressTypes) : entity ∈ book.existsStmt level id ↔
    book.Present entity ∧ entity.level = level ∧ entity.id = id ∧ entity.active = true := by
  simp only [addressTypes, List.mem_cons, List.not_mem_nil, or_false] at known
  rcases known with rfl | rfl | rfl <;> cases entity <;>
    simp [existsStmt, Entity.level, Entity.id, Entity.active, mem_joinedBuildings,
      mem_joinedApartments, Present, and_assoc]

theorem mem_memberStmt (known : level ∈ addressTypes) : entity ∈ book.memberStmt userId level id ↔
    entity ∈ book.existsStmt level id ∧ book.Belongs userId entity := by
  rw [mem_existsStmt known]
  simp only [addressTypes, List.mem_cons, List.not_mem_nil, or_false] at known
  rcases known with rfl | rfl | rfl <;> cases entity <;>
    simp [memberStmt, Entity.level, Entity.id, Entity.active, mem_joinedBuildings,
      mem_joinedApartments, Present, Belongs, viaApartment_iff, viaUserYard_iff,
      hasUserApartment_iff, hasMembership_iff, and_assoc]

theorem eq_of_id (present : book.Present entity) (presentToo : book.Present other)
    (level : entity.level = other.level) (id : entity.id = other.id) : entity = other := by
  cases entity <;> cases other <;> simp only [Entity.level, String.reduceEq] at level
  case yard.yard => rw [Table.eq_of_key present presentToo id]
  case building.building =>
    cases Table.eq_of_key present.1 presentToo.1 id
    cases present.2.symm.trans presentToo.2
    rfl
  case apartment.apartment =>
    cases Table.eq_of_key present.1 presentToo.1 id
    cases present.2.1.symm.trans presentToo.2.1
    cases present.2.2.symm.trans presentToo.2.2
    rfl

variable {collation : String → String → Bool}

/-- What both the menu and the resolver let the user take. -/
@[mk_iff]
structure Offered (book : AddressBook) (userId : UserId) (entity : Entity) : Prop where
  present : book.Present entity
  active : entity.active = true
  belongs : book.Belongs userId entity

theorem mem_availableYards {yard : Yard} :
    yard ∈ (book.availableYardsStmt userId collation).dedup ↔ book.Offered userId (.yard yard) := by
  simp [availableYardsStmt, offered_iff, Present, Entity.active, Belongs, viaApartment_iff,
    viaUserYard_iff]

theorem mem_availableBuildings {row : Building × Yard} :
    row ∈ (book.availableBuildingsStmt userId collation).dedup ↔
      book.Offered userId (.building row.1 row.2) := by
  simp [availableBuildingsStmt, offered_iff, mem_joinedBuildings, Entity.active, Belongs,
    hasUserApartment_iff, and_assoc]

theorem mem_availableApartments {row : Apartment × Building × Yard} :
    row ∈ (book.availableApartmentsStmt userId collation).dedup ↔
      book.Offered userId (.apartment row.1 row.2.1 row.2.2) := by
  simp [availableApartmentsStmt, offered_iff, mem_joinedApartments, Entity.active, Belongs,
    hasMembership_iff, and_assoc]

theorem mem_menu {row : AvailableAddress} :
    row ∈ (book.listAvailableRequestAddressesSync userId collation).level level ↔
      ∃ entity, book.Offered userId entity ∧ entity.level = level ∧ entity.available = row := by
  simp only [listAvailableRequestAddressesSync, serializeAvailable, AvailableAddresses.level]
  constructor
  · intro member
    split_ifs at member with named named named
    · obtain ⟨yard, listed, rfl⟩ := List.mem_map.mp member
      exact ⟨.yard yard, mem_availableYards.mp listed, named.symm, rfl⟩
    · obtain ⟨row, listed, rfl⟩ := List.mem_map.mp member
      exact ⟨.building row.1 row.2, mem_availableBuildings.mp listed, named.symm, rfl⟩
    · obtain ⟨row, listed, rfl⟩ := List.mem_map.mp member
      exact ⟨.apartment row.1 row.2.1 row.2.2, mem_availableApartments.mp listed, named.symm, rfl⟩
    · cases member
  · rintro ⟨entity, offered, rfl, rfl⟩
    cases entity with
    | yard yard => exact List.mem_map.mpr ⟨yard, mem_availableYards.mpr offered, rfl⟩
    | building building yard =>
      exact List.mem_map.mpr ⟨(building, yard), mem_availableBuildings.mpr offered, rfl⟩
    | apartment apartment building yard =>
      exact List.mem_map.mpr ⟨(apartment, building, yard), mem_availableApartments.mpr offered, rfl⟩

theorem nodup_menu (level : String) :
    ((book.listAvailableRequestAddressesSync userId collation).ids level).Nodup := by
  simp only [AvailableAddresses.ids, listAvailableRequestAddressesSync, serializeAvailable, AvailableAddresses.level]
  split_ifs
  · rw [List.map_map]
    refine List.Nodup.map_on (fun row listed other listedToo same => ?_) (List.nodup_dedup _)
    exact (Entity.yard.inj (eq_of_id (mem_availableYards.mp listed).present
      (mem_availableYards.mp listedToo).present rfl same))
  · rw [List.map_map]
    refine List.Nodup.map_on (fun row listed other listedToo same => ?_) (List.nodup_dedup _)
    exact Prod.ext_iff.mpr (Entity.building.inj (eq_of_id (mem_availableBuildings.mp listed).present
      (mem_availableBuildings.mp listedToo).present rfl same))
  · rw [List.map_map]
    refine List.Nodup.map_on (fun row listed other listedToo same => ?_) (List.nodup_dedup _)
    obtain ⟨first, second, third⟩ := Entity.apartment.inj
      (eq_of_id (mem_availableApartments.mp listed).present
        (mem_availableApartments.mp listedToo).present rfl same)
    exact Prod.ext first (Prod.ext second third)
  · exact List.nodup_nil

theorem resolve_of_known (known : level ∈ addressTypes) :
    book.resolveRequestAddressSync userId "applicant" level id =
      decideAddress "applicant" (book.memberStmt userId level id).head?
        (book.existsStmt level id).head? := by
  simp only [addressTypes, List.mem_cons, List.not_mem_nil, or_false] at known
  rcases known with rfl | rfl | rfl <;> rfl

theorem resolve_of_unknown (unknown : level ∉ addressTypes) :
    book.resolveRequestAddressSync userId "applicant" level id =
      .error ⟨s!"unsupported address_type '{level}'", 422⟩ := by
  simp [resolveRequestAddressSync, checkLevelAllowed, roleAllowedLevels, unknown]
  rfl

theorem level_known (entity : Entity) : entity.level ∈ addressTypes := by
  cases entity <;> simp [Entity.level, addressTypes]

/-- What the resolver answers to an applicant. -/
theorem resolve_cases (book : AddressBook) (userId : UserId) (level : String) (id : Nat) :
    (∃ entity, book.Offered userId entity ∧ entity.level = level ∧ entity.id = id ∧
      book.resolveRequestAddressSync userId "applicant" level id = .ok (buildResolved entity)) ∨
    (∃ entity, (book.Present entity ∧ entity.level = level ∧ entity.id = id ∧
        entity.active = true) ∧ ¬ book.Belongs userId entity ∧
      book.resolveRequestAddressSync userId "applicant" level id =
        .error ⟨"address not available to user", 403⟩) ∨
    (¬ ∃ entity, book.Present entity ∧ entity.level = level ∧ entity.id = id ∧
      entity.active = true) ∧ ∃ message,
        book.resolveRequestAddressSync userId "applicant" level id = .error ⟨message, 422⟩ := by
  by_cases known : level ∈ addressTypes
  · rw [resolve_of_known known]
    simp only [decideAddress, if_neg (show "applicant" ∉ unscopedRoles by decide)]
    cases taken : (book.memberStmt userId level id).head? with
    | some entity =>
      obtain ⟨listed, belongs⟩ := (mem_memberStmt known).mp (List.mem_of_head? taken)
      obtain ⟨present, own, key, active⟩ := (mem_existsStmt known).mp listed
      exact .inl ⟨entity, ⟨present, active, belongs⟩, own, key, rfl⟩
    | none =>
      cases found : (book.existsStmt level id).head? with
      | some entity =>
        have listed := List.mem_of_head? found
        refine .inr (.inl ⟨entity, (mem_existsStmt known).mp listed, fun belongs => ?_, rfl⟩)
        have member := (mem_memberStmt known).mpr ⟨listed, belongs⟩
        rw [List.head?_eq_none_iff.mp taken] at member
        cases member
      | none =>
        refine .inr (.inr ⟨fun ⟨entity, row⟩ => ?_, _, rfl⟩)
        have listed := (mem_existsStmt known).mpr row
        rw [List.head?_eq_none_iff.mp found] at listed
        cases listed
  · refine .inr (.inr ⟨?_, _, resolve_of_unknown known⟩)
    rintro ⟨entity, _, rfl, _⟩
    exact known (level_known entity)

theorem mem_ids : id ∈ (book.listAvailableRequestAddressesSync userId collation).ids level ↔
    ∃ entity, book.Offered userId entity ∧ entity.level = level ∧ entity.id = id := by
  simp only [AvailableAddresses.ids, List.mem_map, mem_menu]
  constructor
  · rintro ⟨_, ⟨entity, offered, own, rfl⟩, rfl⟩
    exact ⟨entity, offered, own, rfl⟩
  · rintro ⟨entity, offered, own, rfl⟩
    exact ⟨_, ⟨entity, offered, own, rfl⟩, rfl⟩

theorem Offered.above_building {building : Building} {yard : Yard}
    (offered : book.Offered userId (.building building yard)) : book.Offered userId (.yard yard) where
  present := Table.mem_of_find? offered.present.2
  active := (Bool.and_eq_true_iff.mp offered.active).2
  belongs := .inl ⟨building, offered.present.1, (Table.key_of_find? offered.present.2).symm,
    (Bool.and_eq_true_iff.mp offered.active).1, offered.belongs⟩

theorem Offered.above_apartment {apartment : Apartment} {building : Building} {yard : Yard}
    (offered : book.Offered userId (.apartment apartment building yard)) :
    book.Offered userId (.building building yard) := by
  obtain ⟨⟨listed, found, around⟩, active, belongs⟩ := offered
  obtain ⟨both, top⟩ := Bool.and_eq_true_iff.mp active
  obtain ⟨own, up⟩ := Bool.and_eq_true_iff.mp both
  exact ⟨⟨Table.mem_of_find? found, around⟩, Bool.and_eq_true_iff.mpr ⟨up, top⟩,
    apartment, listed, (Table.key_of_find? found).symm, own, belongs⟩

theorem menuAccepted_sync :
    MenuAccepted book userId (book.listAvailableRequestAddressesSync userId collation)
      (book.resolveRequestAddressSync userId "applicant") where
  offers := by
    intro level id label
    simp only [mem_menu]
    constructor
    · rintro ⟨_, ⟨entity, offered, own, rfl⟩, key, rfl⟩
      rcases resolve_cases book userId level id with
        ⟨other, theirs, ownToo, keyToo, accepted⟩ | ⟨other, row, foreign, _⟩ | ⟨missing, _⟩
      · cases eq_of_id offered.present theirs.present (own.trans ownToo.symm) (key.trans keyToo.symm)
        exact ⟨_, accepted, rfl⟩
      · cases eq_of_id offered.present row.1 (own.trans row.2.1.symm) (key.trans row.2.2.1.symm)
        exact absurd offered.belongs foreign
      · exact absurd ⟨entity, offered.present, own, key, offered.active⟩ missing
    · rintro ⟨address, accepted, rfl⟩
      rcases resolve_cases book userId level id with
        ⟨entity, offered, own, key, resolved⟩ | ⟨_, _, _, refused⟩ | ⟨_, _, refused⟩
      · cases accepted.symm.trans resolved
        exact ⟨_, ⟨entity, offered, own, rfl⟩, key, rfl⟩
      · cases accepted.symm.trans refused
      · cases accepted.symm.trans refused
  once := nodup_menu
  above_apartment := by
    intro apartment building yard present member
    obtain ⟨entity, offered, own, key⟩ := mem_ids.mp member
    cases eq_of_id offered.present present own key
    exact ⟨mem_ids.mpr ⟨_, offered.above_apartment, rfl, rfl⟩,
      mem_ids.mpr ⟨_, offered.above_apartment.above_building, rfl, rfl⟩⟩
  above_building := by
    intro building yard present member
    obtain ⟨entity, offered, own, key⟩ := mem_ids.mp member
    cases eq_of_id offered.present present own key
    exact mem_ids.mpr ⟨_, offered.above_building, rfl, rfl⟩
  foreign := by
    intro level id
    rcases resolve_cases book userId level id with
      ⟨entity, offered, own, key, accepted⟩ | ⟨entity, row, foreign, refused⟩ | ⟨missing, _, refused⟩
    · rw [accepted]
      refine iff_of_false (fun ⟨_, same⟩ => by cases same) ?_
      rintro ⟨other, present, ownToo, keyToo, _, foreign⟩
      cases eq_of_id offered.present present (own.trans ownToo.symm) (key.trans keyToo.symm)
      exact foreign offered.belongs
    · exact iff_of_true ⟨_, refused⟩ ⟨entity, row.1, row.2.1, row.2.2.1, row.2.2.2, foreign⟩
    · rw [refused]
      exact iff_of_false (fun ⟨_, same⟩ => by cases same)
        fun ⟨entity, present, own, key, active, _⟩ => missing ⟨entity, present, own, key, active⟩
  refused := by
    intro level id error returned
    rcases resolve_cases book userId level id with
      ⟨_, _, _, _, accepted⟩ | ⟨_, _, _, refused⟩ | ⟨_, _, refused⟩
    · cases returned.symm.trans accepted
    · cases returned.symm.trans refused
      exact .inl rfl
    · cases returned.symm.trans refused
      exact .inr rfl

theorem resolve_async : book.resolveRequestAddressAsync = book.resolveRequestAddressSync := by
  funext userId role level id
  unfold resolveRequestAddressAsync resolveRequestAddressSync
  split_ifs <;> rfl

/-- The menu of a user offers what the resolver accepts from an applicant, on both sides. -/
theorem menu_accepted (collation : String → String → Bool) (book : AddressBook) (userId : UserId) :
    MenuAccepted book userId (book.listAvailableRequestAddressesSync userId collation)
        (book.resolveRequestAddressSync userId "applicant") ∧
      MenuAccepted book userId (book.listAvailableRequestAddressesAsync userId collation)
        (book.resolveRequestAddressAsync userId "applicant") := by
  rw [resolve_async]
  exact ⟨menuAccepted_sync, menuAccepted_sync⟩

end AddressBook

end InfrasafeBot.Addresses
