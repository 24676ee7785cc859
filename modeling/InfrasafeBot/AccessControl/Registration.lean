import InfrasafeBot.AccessControl.Registry

/-! What managers and residents write to the registry (`services/management.py`,
`services/resident.py`), with the models their requests pass (`api/management.py`,
`api/resident.py`). -/

set_option autoImplicit false

namespace InfrasafeBot.AccessControl

open Library RequestWorkflow

inductive RegistryError where
  | vehicleAlreadyExists
  | plateRequired
  | vehicleNotFound (vehicleId : Nat)
  | passNotFound (passId : Nat)
  | requestNotFound (requestId : Nat)
  | apartmentNotOwned (apartmentId : Nat) (userId : UserId)
  | passNotOwned (passId : Nat) (userId : UserId)
  | zoneNotResolved
  /-- A constraint of the schema that the service leaves to the database. -/
  | integrity

def plateMaxLen : Nat := 32

def plateSized (plate : String) : Bool := 1 ≤ plate.length && plate.length ≤ plateMaxLen

def plateAccepted (plate : String) : Bool := plateSized plate && pyStrip plate ≠ ""

def optionalPlateAccepted (plate : Option String) : Bool :=
  plate.all fun given => given.length ≤ plateMaxLen

def entriesAccepted (maxEntries : Nat) : Bool := 1 ≤ maxEntries && maxEntries ≤ 100

def windowAccepted (validFrom : Option Moment) (validUntil : Moment) : Bool :=
  validFrom.all (· ≤ validUntil)

structure CreateVehicleRequest where
  plateNumberOriginal : String
  apartmentId : Option Nat
  zoneId : Option Nat

def CreateVehicleRequest.accepted (request : CreateVehicleRequest) : Bool :=
  plateAccepted request.plateNumberOriginal

structure VehicleStatusRequest where
  status : VehicleStatus
  reason : Option String

def VehicleStatusRequest.accepted (request : VehicleStatusRequest) : Bool :=
  request.status ≠ .blocked || request.reason.any fun reason => pyStrip reason ≠ ""

/-- A field that is not set stays; a plate may be set to null. -/
structure UpdateVehicleRequest where
  plateNumberOriginal : Option (Option String)
  apartmentId : Option Nat
  zoneIds : Option (List Nat)

def UpdateVehicleRequest.accepted (request : UpdateVehicleRequest) : Bool :=
  request.plateNumberOriginal.all fun given => given.all plateSized

structure TaxiPassRequest where
  apartmentId : Nat
  zoneId : Option Nat
  validUntil : Moment
  plateNumberOriginal : Option String
  validFrom : Option Moment
  maxEntries : Nat

def TaxiPassRequest.accepted (request : TaxiPassRequest) : Bool :=
  optionalPlateAccepted request.plateNumberOriginal && entriesAccepted request.maxEntries &&
    windowAccepted request.validFrom request.validUntil

structure UpdatePassRequest where
  validUntil : Option (Option Moment)
  maxEntries : Option (Option Nat)
  plateNumberOriginal : Option (Option String)
  zoneId : Option (Option Nat)
  revoked : Bool

def UpdatePassRequest.accepted (request : UpdatePassRequest) : Bool :=
  (request.plateNumberOriginal.all optionalPlateAccepted) &&
    request.maxEntries.all fun given => given.all entriesAccepted

inductive ReviewAction where
  | approve
  | reject
  deriving DecidableEq

structure ReviewRequest where
  action : ReviewAction
  zoneId : Option Nat
  zoneIds : Option (List Nat)
  deriving DecidableEq

def ReviewRequest.effectiveZones (request : ReviewRequest) : List Nat :=
  request.zoneIds.getD request.zoneId.toList

structure CreateResidentRequest where
  apartmentId : Nat
  plateNumberOriginal : String

def CreateResidentRequest.accepted (request : CreateResidentRequest) : Bool :=
  plateAccepted request.plateNumberOriginal

structure CreateResidentPass where
  apartmentId : Nat
  passType : PassType
  validUntil : Moment
  plateNumberOriginal : Option String
  validFrom : Option Moment
  maxEntries : Nat
  zoneId : Option Nat

def residentPassTypes : List PassType := [.taxi, .guest, .delivery]

def CreateResidentPass.accepted (request : CreateResidentPass) : Bool :=
  optionalPlateAccepted request.plateNumberOriginal && entriesAccepted request.maxEntries &&
    residentPassTypes.contains request.passType &&
    windowAccepted request.validFrom request.validUntil

section

variable (registry : Registry) (vehicleId : Nat)

def newLink (vehicleId apartmentId id : Nat) : VehicleApartment :=
  ⟨id, vehicleId, apartmentId, .active, none, none⟩

theorem newLink_id (vehicleId apartmentId id : Nat) : (newLink vehicleId apartmentId id).id = id := rfl

def linksTo (vehicleId apartmentId : Nat) (link : VehicleApartment) : Bool :=
  link.vehicleId = vehicleId && link.apartmentId = apartmentId

def ensureActiveLink (apartmentId : Nat) : Registry :=
  match registry.links.rows.find? (linksTo vehicleId apartmentId) with
  | some existing =>
    if existing.status = .active then registry
    else { registry with links := registry.links.put { existing with status := .active } }
  | none =>
    { registry with
      links := registry.links.insert (newLink vehicleId apartmentId)
        (newLink_id vehicleId apartmentId) }

def archivedLink (link : VehicleApartment) : VehicleApartment := { link with status := .archived }

theorem archivedLink_id (link : VehicleApartment) : (archivedLink link).id = link.id := rfl

def relinkApartment (apartmentId : Nat) : Registry :=
  let archived : Registry :=
    { registry with
      links := registry.links.update
        (fun link => link.vehicleId = vehicleId && link.apartmentId ≠ apartmentId && link.status = .active)
        archivedLink archivedLink_id }
  ensureActiveLink archived vehicleId apartmentId

def pilotAllowedDirections : List Direction := [.entry]

def newRule (vehicleId : Nat) (apartmentId : Option Nat) (zoneId id : Nat) : AccessRule :=
  ⟨id, some vehicleId, apartmentId, zoneId, some pilotAllowedDirections, none, none, true⟩

theorem newRule_id (vehicleId : Nat) (apartmentId : Option Nat) (zoneId id : Nat) :
    (newRule vehicleId apartmentId zoneId id).id = id := rfl

def addZoneRule (apartmentId : Option Nat) (registry : Registry) (zoneId : Nat) : Registry :=
  { registry with
    rules := registry.rules.insert (newRule vehicleId apartmentId zoneId)
      (newRule_id vehicleId apartmentId zoneId) }

def restoreZoneRule (apartmentId : Option Nat) (registry : Registry) (zoneId : Nat) : Registry :=
  match registry.rules.rows.find? fun rule =>
      rule.vehicleId = some vehicleId && rule.zoneId = zoneId && !rule.isActive with
  | some revived => { registry with rules := registry.rules.put { revived with isActive := true } }
  | none => addZoneRule vehicleId apartmentId registry zoneId

def inactiveRule (rule : AccessRule) : AccessRule := { rule with isActive := false }

theorem inactiveRule_id (rule : AccessRule) : (inactiveRule rule).id = rule.id := rfl

def syncVehicleZoneRules (apartmentId : Option Nat) (zoneIds : List Nat) : Registry :=
  let kept : Registry :=
    { registry with
      rules := registry.rules.update
        (fun rule => rule.vehicleId = some vehicleId && rule.isActive && !zoneIds.contains rule.zoneId)
        inactiveRule inactiveRule_id }
  let activeZones := (kept.rules.rows.filter fun rule =>
    rule.vehicleId = some vehicleId && rule.isActive).map (·.zoneId)
  let missing := (zoneIds.filter fun zoneId => !activeZones.contains zoneId).dedup.mergeSort
  missing.foldl (restoreZoneRule vehicleId apartmentId) kept

end

def storeVehicles (registry : Registry) (vehicles : Table Vehicle.id) : Except RegistryError Registry :=
  if unique : platesUnique vehicles.rows then .ok { registry with vehicles := vehicles, unique := unique }
  else .error .integrity

def newVehicle (plateNumberOriginal plateNumberNormalized : String) (id : Nat) : Vehicle :=
  ⟨id, plateNumberOriginal, plateNumberNormalized, .active⟩

theorem newVehicle_id (plateNumberOriginal plateNumberNormalized : String) (id : Nat) :
    (newVehicle plateNumberOriginal plateNumberNormalized id).id = id := rfl

def addVehicle (registry : Registry) (plateNumberOriginal plateNumberNormalized : String) :
    Except RegistryError Registry :=
  storeVehicles registry
    (registry.vehicles.insert (newVehicle plateNumberOriginal plateNumberNormalized)
      (newVehicle_id plateNumberOriginal plateNumberNormalized))

section

variable (forms : TextForms) (registry : Registry)

def createVehicle (request : CreateVehicleRequest) : Except RegistryError Registry := do
  let normalized := normalizePlate forms request.plateNumberOriginal
  if (activeVehicleByPlate registry normalized).isSome then throw .vehicleAlreadyExists
  let vehicleId := registry.vehicles.nextKey
  let created ← addVehicle registry request.plateNumberOriginal normalized
  let linked := request.apartmentId.elim created (ensureActiveLink created vehicleId)
  return request.zoneId.elim linked (addZoneRule vehicleId request.apartmentId linked)

def setVehicleStatus (vehicleId : Nat) (request : VehicleStatusRequest) : Except RegistryError Registry :=
  match registry.vehicles.find? vehicleId with
  | none => .error (.vehicleNotFound vehicleId)
  | some vehicle => storeVehicles registry (registry.vehicles.put { vehicle with status := request.status })

def replate (vehicle : Vehicle) (given : Option String) : Except RegistryError Vehicle :=
  let original := pyStrip (given.getD "")
  if original = "" then .error .plateRequired
  else
    let normalized := normalizePlate forms original
    if (activeVehicleByPlate registry normalized).any (·.id ≠ vehicle.id) then .error .vehicleAlreadyExists
    else
      .ok { vehicle with
        plateNumberOriginal := original
        plateNumberNormalized := normalized }

def updateVehicle (vehicleId : Nat) (request : UpdateVehicleRequest) : Except RegistryError Registry :=
  match registry.vehicles.find? vehicleId with
  | none => .error (.vehicleNotFound vehicleId)
  | some vehicle => do
      let changed ← request.plateNumberOriginal.elim (.ok vehicle) (replate forms registry vehicle)
      let stored ← storeVehicles registry (registry.vehicles.put changed)
      let relinked := request.apartmentId.elim stored (relinkApartment stored vehicleId)
      return request.zoneIds.elim relinked
        (syncVehicleZoneRules relinked vehicleId (apartmentForVehicle relinked vehicleId))

end

section

variable (forms : TextForms) (registry : Registry) (now : Moment)

def addPass (make : Nat → AccessPass) (numbered : ∀ id, (make id).id = id) : Registry :=
  { registry with passes := registry.passes.insert make numbered }

def newTaxiPass (request : TaxiPassRequest) (zoneId : Option Nat) (normalized : Option String)
    (createdByUserId : UserId) (room : 0 < request.maxEntries) (id : Nat) : AccessPass where
  id := id
  apartmentId := request.apartmentId
  createdByUserId := some createdByUserId
  passType := .taxi
  zoneId := zoneId
  plateNumberOriginal := request.plateNumberOriginal
  plateNumberNormalized := normalized
  validFrom := request.validFrom
  validUntil := some request.validUntil
  maxEntries := request.maxEntries
  usedEntries := 0
  status := .active
  oneTimeCodeHash := none
  createdAt := now
  limited := ⟨room, Nat.zero_le _⟩

theorem newTaxiPass_id (request : TaxiPassRequest) (zoneId : Option Nat)
    (normalized : Option String) (createdByUserId : UserId) (room : 0 < request.maxEntries)
    (id : Nat) :
    (newTaxiPass now request zoneId normalized createdByUserId room id).id = id := rfl

def createTaxiPass (actorUserId : UserId) (request : TaxiPassRequest) : Except RegistryError Registry :=
  let zoneId := request.zoneId.or (firstServingZone registry request.apartmentId)
  let normalized := normalizeOptional forms request.plateNumberOriginal
  if room : 0 < request.maxEntries then
    .ok (addPass registry (newTaxiPass now request zoneId normalized actorUserId room)
      (newTaxiPass_id now request zoneId normalized actorUserId room))
  else .error .integrity

def updatePass (passId : Nat) (request : UpdatePassRequest) : Except RegistryError Registry :=
  match registry.passes.find? passId with
  | none => .error (.passNotFound passId)
  | some pass =>
    match request.maxEntries.getD (some pass.maxEntries) with
    | none => .error .integrity
    | some maxEntries =>
      if limited : 0 < maxEntries ∧ pass.usedEntries ≤ maxEntries then
        .ok { registry with
          passes := registry.passes.put
            { pass with
              zoneId := request.zoneId.getD pass.zoneId
              validUntil := request.validUntil.getD pass.validUntil
              maxEntries := maxEntries
              plateNumberOriginal := request.plateNumberOriginal.getD pass.plateNumberOriginal
              plateNumberNormalized :=
                (request.plateNumberOriginal.map (normalizeOptional forms)).getD
                  pass.plateNumberNormalized
              status := if request.revoked then .revoked else pass.status
              limited := limited } }
      else .error .integrity

end

section

variable (forms : TextForms) (registry : Registry)

def approvedApartmentIds (userId : UserId) : List Nat :=
  (registry.territory.approved.filter (·.1 = userId)).map (·.2)

def ensureOwnsApartment (userId : UserId) (apartmentId : Nat) : Except RegistryError Unit :=
  if (approvedApartmentIds registry userId).contains apartmentId then .ok ()
  else .error (.apartmentNotOwned apartmentId userId)

def resolveZoneId (apartmentId : Nat) (zoneId : Option Nat) : Except RegistryError Nat :=
  match zoneId.or (firstServingZone registry apartmentId) with
  | some resolved => .ok resolved
  | none => .error .zoneNotResolved

def newRequest (actorUserId : UserId) (request : CreateResidentRequest) (normalized : String)
    (id : Nat) : ResidentAccessRequest where
  id := id
  apartmentId := request.apartmentId
  createdByUserId := actorUserId
  vehicleId := none
  plateNumberOriginal := some request.plateNumberOriginal
  plateNumberNormalized := some normalized
  status := .pending

theorem newRequest_id (actorUserId : UserId) (request : CreateResidentRequest)
    (normalized : String) (id : Nat) :
    (newRequest actorUserId request normalized id).id = id := rfl

def createResidentRequest (actorUserId : UserId) (request : CreateResidentRequest) :
    Except RegistryError Registry := do
  ensureOwnsApartment registry actorUserId request.apartmentId
  let normalized := normalizePlate forms request.plateNumberOriginal
  return { registry with
    requests := registry.requests.insert (newRequest actorUserId request normalized)
      (newRequest_id actorUserId request normalized) }

def guestCodeMaxTtlSeconds : Int := 1800

def capGuestTtl (now validUntil : Moment) : Moment := min validUntil (now + guestCodeMaxTtlSeconds)

/-- Without a plate a guest gets a code, which is good for one entry. -/
def CreateResidentPass.byCode (request : CreateResidentPass) : Bool :=
  request.passType = .guest && (request.plateNumberOriginal.filter (· ≠ "")).isNone

def CreateResidentPass.entries (request : CreateResidentPass) : Nat :=
  if request.byCode then 1 else request.maxEntries

def newResidentPass (now : Moment) (actorUserId : UserId) (request : CreateResidentPass)
    (zoneId : Nat) (normalized : Option String) (codeHash : String)
    (room : 0 < request.entries) (id : Nat) : AccessPass where
  id := id
  apartmentId := request.apartmentId
  createdByUserId := some actorUserId
  passType := request.passType
  zoneId := some zoneId
  plateNumberOriginal := request.plateNumberOriginal
  plateNumberNormalized := normalized
  validFrom := request.validFrom
  validUntil := some (if request.byCode then capGuestTtl now request.validUntil else request.validUntil)
  maxEntries := request.entries
  usedEntries := 0
  status := .active
  oneTimeCodeHash := if request.byCode then some codeHash else none
  createdAt := now
  limited := ⟨room, Nat.zero_le _⟩

theorem newResidentPass_id (now : Moment) (actorUserId : UserId) (request : CreateResidentPass)
    (zoneId : Nat) (normalized : Option String) (codeHash : String)
    (room : 0 < request.entries) (id : Nat) :
    (newResidentPass now actorUserId request zoneId normalized codeHash room id).id = id := rfl

/-- `code` is the one that is drawn; it is answered where the pass is opened by it. -/
def createResidentPass (hashCode : String → String) (code : String) (now : Moment)
    (actorUserId : UserId) (request : CreateResidentPass) :
    Except RegistryError (Registry × Option String) := do
  ensureOwnsApartment registry actorUserId request.apartmentId
  let zoneId ← resolveZoneId registry request.apartmentId request.zoneId
  let normalized := normalizeOptional forms request.plateNumberOriginal
  if room : 0 < request.entries then
    return (addPass registry
        (newResidentPass now actorUserId request zoneId normalized (hashCode code) room)
        (newResidentPass_id now actorUserId request zoneId normalized (hashCode code) room),
      if request.byCode then some code else none)
  else throw .integrity

def ownsPass (userId : UserId) (pass : AccessPass) : Bool :=
  pass.createdByUserId = some userId || (approvedApartmentIds registry userId).contains pass.apartmentId

structure CancelOutcome where
  passId : Nat
  status : PassStatus
  replayed : Bool

def cancelResidentPass (actorUserId : UserId) (passId : Nat) :
    Except RegistryError (Registry × CancelOutcome) :=
  match registry.passes.find? passId with
  | none => .error (.passNotFound passId)
  | some pass =>
    if !ownsPass registry actorUserId pass then .error (.passNotOwned passId actorUserId)
    else if pass.status = .revoked then .ok (registry, ⟨pass.id, pass.status, true⟩)
    else
      .ok ({ registry with passes := registry.passes.put { pass with status := .revoked } },
        ⟨pass.id, .revoked, false⟩)

end

section

variable (forms : TextForms) (registry : Registry)

def ResidentAccessRequest.original (request : ResidentAccessRequest) : String :=
  ((request.plateNumberOriginal.filter (· ≠ "")).or (request.plateNumberNormalized.filter (· ≠ ""))).getD ""

def ResidentAccessRequest.normalized (request : ResidentAccessRequest) : String :=
  (request.plateNumberNormalized.filter (· ≠ "")).getD (normalizePlate forms request.original)

def knownVehicle (request : ResidentAccessRequest) : Option Vehicle :=
  (request.vehicleId.bind registry.vehicles.find?).or
    ((request.plateNumberNormalized.filter (· ≠ "")).bind (activeVehicleByPlate registry))

def resolveOrCreateVehicle (request : ResidentAccessRequest) : Except RegistryError (Registry × Vehicle) :=
  match knownVehicle registry request with
  | some existing => .ok (registry, existing)
  | none => do
      let created ← addVehicle registry request.original (request.normalized forms)
      return (created, newVehicle request.original (request.normalized forms) registry.vehicles.nextKey)

def activateVehicle (registry : Registry) (vehicle : Vehicle) : Except RegistryError Registry :=
  if vehicle.status = .active then .ok registry
  else storeVehicles registry (registry.vehicles.put { vehicle with status := .active })

structure ReviewOutcome where
  requestId : Nat
  status : ResidentRequestStatus
  vehicleId : Option Nat
  replayed : Bool

def setRequest (registry : Registry) (request : ResidentAccessRequest) : Registry :=
  { registry with requests := registry.requests.put request }

def approveRequest (zones : List Nat) (request : ResidentAccessRequest) :
    Except RegistryError (Registry × ReviewOutcome) := do
  let (found, vehicle) ← resolveOrCreateVehicle forms registry request
  let activated ← activateVehicle found vehicle
  let linked := ensureActiveLink activated vehicle.id request.apartmentId
  let ruled := zones.foldl (addZoneRule vehicle.id (some request.apartmentId)) linked
  return (setRequest ruled { request with status := .approved, vehicleId := some vehicle.id },
    ⟨request.id, .approved, some vehicle.id, false⟩)

def reviewRequest (requestId : Nat) (review : ReviewRequest) :
    Except RegistryError (Registry × ReviewOutcome) :=
  match registry.requests.find? requestId with
  | none => .error (.requestNotFound requestId)
  | some request =>
    if request.status ≠ .pending then .ok (registry, ⟨request.id, request.status, request.vehicleId, true⟩)
    else
      match review.action with
      | .approve => approveRequest forms registry review.effectiveZones request
      | .reject =>
        .ok (setRequest registry { request with status := .rejected },
          ⟨request.id, .rejected, request.vehicleId, false⟩)

end

end InfrasafeBot.AccessControl
