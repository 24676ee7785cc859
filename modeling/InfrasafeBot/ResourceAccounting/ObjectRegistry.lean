import InfrasafeBot.Library.Forest
import InfrasafeBot.Library.Interleaving
import InfrasafeBot.Library.Table

/-! The tree of objects and the meters on them (`api/objects.py`, `api/meters.py`), one
statement after the other. Nothing is locked between a check and the write that follows it;
a column that is set to what has been loaded is not written. -/

set_option autoImplicit false

namespace InfrasafeBot.ResourceAccounting

open Library

abbrev TenantId := Nat
abbrev ObjectId := Nat
abbrev MeterId := Nat

structure ResourceObject where
  id : ObjectId
  tenantId : TenantId
  name : String
  parentId : Option ObjectId
  isActive : Bool
  deriving DecidableEq

inductive MeterStatus where
  | active
  | decommissioned
  | archived
  deriving DecidableEq

structure MeterPlace where
  id : MeterId
  tenantId : TenantId
  primaryObjectId : ObjectId
  status : MeterStatus

structure Registry where
  objects : Table ResourceObject.id
  meters : Table MeterPlace.id

inductive ApiError where
  | notFound (entity : String)
  | badRequest (message : String)
  | conflict (message : String)
  deriving DecidableEq

def movedIntoCycle : ApiError := .badRequest "Перемещение создаёт цикл в дереве объектов"

def tooDeep : ApiError := .badRequest "Слишком глубокое дерево объектов"

namespace Registry

variable (registry : Registry)

def parentOf (object : ObjectId) : Option ObjectId := (registry.objects.find? object).bind (·.parentId)

def activeObject (object : ObjectId) : Bool := (registry.objects.find? object).any (·.isActive)

def getObject (tenant : TenantId) (object : ObjectId) : Except ApiError ResourceObject :=
  match registry.objects.find? object with
  | none => .error (.notFound "Объект")
  | some row => if row.tenantId = tenant then .ok row else .error (.notFound "Объект")

def checkActiveObject (tenant : TenantId) (object : ObjectId) : Except ApiError ResourceObject :=
  match registry.getObject tenant object with
  | .error error => .error error
  | .ok row =>
    if row.isActive then .ok row else .error (.badRequest s!"Объект «{row.name}» архивирован")

def getMeter (tenant : TenantId) (meter : MeterId) : Except ApiError MeterPlace :=
  match registry.meters.find? meter with
  | none => .error (.notFound "Счётчик")
  | some row => if row.tenantId = tenant then .ok row else .error (.notFound "Счётчик")

def activeChildren (object : ObjectId) : Nat :=
  registry.objects.rowcount fun row => row.parentId = some object && row.isActive

def activeMeters (object : ObjectId) : Nat :=
  registry.meters.rowcount fun row => row.primaryObjectId = object && row.status = .active

end Registry

inductive MeterWrite where
  | create (tenant : TenantId)
  | move (loaded : MeterPlace)
  | replace (old : MeterPlace)

inductive Answer where
  | done
  | refused (error : ApiError)
  deriving DecidableEq

/-- The next statement of a request. `passed` are the objects that the walk up the tree has
come by. -/
inductive RegistryStage where
  | idle
  | locating (tenant : TenantId) (name : String) (parent : Option ObjectId)
  | inserting (tenant : TenantId) (name : String) (parent : Option ObjectId)
  | loading (tenant : TenantId) (object : ObjectId) (clearParent : Bool)
      (parent : Option ObjectId)
  | seeking (tenant : TenantId) (loaded : ResourceObject) (parent : ObjectId)
  | walking (loaded : ResourceObject) (parent : ObjectId) (passed : List ObjectId)
      (current : ObjectId)
  | moving (loaded : ResourceObject) (parent : ObjectId) (passed : List ObjectId)
  | uprooting (loaded : ResourceObject)
  | opening (tenant : TenantId) (object : ObjectId)
  | countingChildren (loaded : ResourceObject)
  | countingMeters (loaded : ResourceObject)
  | archiving (loaded : ResourceObject)
  | loadingMeter (tenant : TenantId) (meter : MeterId) (primary : Option ObjectId)
  | loadingOld (tenant : TenantId) (meter : MeterId) (primary : ObjectId)
  | checking (tenant : TenantId) (primary : ObjectId) (write : MeterWrite)
  | placing (primary : ObjectId) (write : MeterWrite)
  | returning (answer : Answer)

section

variable (registry : Registry)

theorem relinked_id (value loaded : Option ObjectId) (row : ResourceObject) :
    ResourceObject.id { row with parentId := assignedColumn value loaded row.parentId } = row.id :=
  rfl

theorem archived_id (row : ResourceObject) :
    ResourceObject.id { row with isActive := false } = row.id := rfl

theorem movedMeter_id (value loaded : ObjectId) (row : MeterPlace) :
    MeterPlace.id { row with
      primaryObjectId := assignedColumn value loaded row.primaryObjectId } = row.id := rfl

theorem decommissioned_id (row : MeterPlace) :
    MeterPlace.id { row with status := .decommissioned } = row.id := rfl

def newObject (tenant : TenantId) (name : String) (parent : Option ObjectId) (id : ObjectId) :
    ResourceObject :=
  ⟨id, tenant, name, parent, true⟩

theorem newObject_id (tenant : TenantId) (name : String) (parent : Option ObjectId)
    (id : ObjectId) : (newObject tenant name parent id).id = id := rfl

def newMeter (tenant : TenantId) (primary : ObjectId) (id : MeterId) : MeterPlace :=
  ⟨id, tenant, primary, .active⟩

theorem newMeter_id (tenant : TenantId) (primary : ObjectId) (id : MeterId) :
    (newMeter tenant primary id).id = id := rfl

namespace Registry

def insertObject (tenant : TenantId) (name : String) (parent : Option ObjectId) : Registry :=
  { registry with
    objects := registry.objects.insert (newObject tenant name parent)
      (newObject_id tenant name parent) }

def relink (loaded : ResourceObject) (parent : Option ObjectId) : Registry :=
  { registry with
    objects := registry.objects.update (fun row => row.id = loaded.id)
      (fun row => { row with parentId := assignedColumn parent loaded.parentId row.parentId })
      (relinked_id parent loaded.parentId) }

def archive (object : ObjectId) : Registry :=
  { registry with
    objects := registry.objects.update (fun row => row.id = object)
      (fun row => { row with isActive := false }) archived_id }

def insertMeter (tenant : TenantId) (primary : ObjectId) : Registry :=
  { registry with meters := registry.meters.insert (newMeter tenant primary) (newMeter_id tenant primary) }

def moveMeter (loaded : MeterPlace) (primary : ObjectId) : Registry :=
  { registry with
    meters := registry.meters.update (fun row => row.id = loaded.id)
      (fun row => { row with
        primaryObjectId := assignedColumn primary loaded.primaryObjectId row.primaryObjectId })
      (movedMeter_id primary loaded.primaryObjectId) }

def decommission (meter : MeterId) : Registry :=
  { registry with
    meters := registry.meters.update (fun row => row.id = meter)
      (fun row => { row with status := .decommissioned }) decommissioned_id }

def placeMeter (primary : ObjectId) : MeterWrite → Registry
  | .create tenant => registry.insertMeter tenant primary
  | .move loaded => registry.moveMeter loaded primary
  | .replace old => (registry.decommission old.id).insertMeter old.tenantId primary

end Registry

def walkUp (loaded : ResourceObject) (parent : ObjectId) (passed : List ObjectId)
    (current : ObjectId) : RegistryStage :=
  if current = loaded.id then .returning (.refused movedIntoCycle)
  else if passed.length + 1 > 100 then .returning (.refused tooDeep)
  else
    match registry.parentOf current with
    | none => .moving loaded parent (passed ++ [current])
    | some above => .walking loaded parent (passed ++ [current]) above

def refusing {Row : Type} (result : Except ApiError Row) (proceed : Row → RegistryStage) : RegistryStage :=
  match result with
  | .error error => .returning (.refused error)
  | .ok row => proceed row

def performRegistry : RegistryStage → Registry × RegistryStage
  | .idle => (registry, .idle)
  | .locating tenant name parent =>
    match parent with
    | none => (registry, .inserting tenant name none)
    | some object =>
      (registry, refusing (registry.getObject tenant object) fun _ => .inserting tenant name parent)
  | .inserting tenant name parent => (registry.insertObject tenant name parent, .returning .done)
  | .loading tenant object clearParent parent =>
    (registry, refusing (registry.getObject tenant object) fun loaded =>
      if clearParent then .uprooting loaded
      else
        match parent with
        | none => .returning .done
        | some target => .seeking tenant loaded target)
  | .seeking tenant loaded parent =>
    (registry, refusing (registry.getObject tenant parent) fun _ => .walking loaded parent [] parent)
  | .walking loaded parent passed current => (registry, walkUp registry loaded parent passed current)
  | .moving loaded parent _ => (registry.relink loaded (some parent), .returning .done)
  | .uprooting loaded => (registry.relink loaded none, .returning .done)
  | .opening tenant object => (registry, refusing (registry.getObject tenant object) .countingChildren)
  | .countingChildren loaded =>
    (registry,
      if registry.activeChildren loaded.id ≠ 0 then
        .returning (.refused (.conflict "Сначала архивируйте или переместите дочерние объекты"))
      else .countingMeters loaded)
  | .countingMeters loaded =>
    (registry,
      if registry.activeMeters loaded.id ≠ 0 then
        .returning (.refused (.conflict <|
          "К объекту привязаны активные счётчики; " ++ "сначала перенесите или архивируйте их"))
      else .archiving loaded)
  | .archiving loaded =>
    (if loaded.isActive then registry.archive loaded.id else registry, .returning .done)
  | .loadingMeter tenant meter primary =>
    (registry, refusing (registry.getMeter tenant meter) fun loaded =>
      match primary with
      | none => .returning .done
      | some object => .checking tenant object (.move loaded))
  | .loadingOld tenant meter primary =>
    (registry, refusing (registry.getMeter tenant meter) fun old =>
      if old.status ≠ .active then
        .returning (.refused (.conflict "Заменить можно только активный счётчик"))
      else .checking tenant primary (.replace old))
  | .checking tenant primary write =>
    (registry, refusing (registry.checkActiveObject tenant primary) fun _ => .placing primary write)
  | .placing primary write => (registry.placeMeter primary write, .returning .done)
  | .returning answer => (registry, .returning answer)

end

inductive RegistryCall where
  | createObject (tenant : TenantId) (name : String) (parent : Option ObjectId)
  | updateObject (tenant : TenantId) (object : ObjectId) (clearParent : Bool)
      (parent : Option ObjectId)
  | archiveObject (tenant : TenantId) (object : ObjectId)
  | createMeter (tenant : TenantId) (primary : ObjectId)
  | updateMeter (tenant : TenantId) (meter : MeterId) (primary : Option ObjectId)
  | replaceMeter (tenant : TenantId) (meter : MeterId) (primary : ObjectId)

def RegistryCall.start : RegistryCall → RegistryStage
  | .createObject tenant name parent => .locating tenant name parent
  | .updateObject tenant object clearParent parent => .loading tenant object clearParent parent
  | .archiveObject tenant object => .opening tenant object
  | .createMeter tenant primary => .checking tenant primary (.create tenant)
  | .updateMeter tenant meter primary => .loadingMeter tenant meter primary
  | .replaceMeter tenant meter primary => .loadingOld tenant meter primary

def RegistryStage.free : RegistryStage → Bool
  | .idle => true
  | .returning _ => true
  | _ => false

/-- The requests lock nothing that another waits for. -/
def registryProgram : Program Registry RegistryStage RegistryCall Empty where
  idle := .idle
  start := RegistryCall.start
  free := RegistryStage.free
  perform := performRegistry
  locks := fun _ => []
  idle_unlocked := rfl
  start_unlocked := fun _ => rfl

def Registry.empty : Registry := ⟨.empty, .empty⟩

end InfrasafeBot.ResourceAccounting
