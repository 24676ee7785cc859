import InfrasafeBot.AccessControl.Equipment

/-! Vehicles, rules, passes, spots and presence sessions (`domain/vehicles.py`,
`domain/passes.py`, `domain/parking.py`) with the normalisation of plates
(`services/normalization.py`). -/

set_option autoImplicit false

namespace InfrasafeBot.AccessControl

open Library RequestWorkflow

/-- What Unicode says of a text: its canonical composition and its upper case. -/
structure TextForms where
  nfc : String → String
  upper : String → String

def TextForms.ascii : TextForms where
  nfc := id
  upper := fun text => String.ofList (text.toList.map Char.toUpper)

def isSeparator (c : Char) : Bool := pyIsSpace c || "-_.·•".toList.contains c

def stripAndUpper (forms : TextForms) (value : String) : String :=
  forms.upper (String.ofList ((forms.nfc value).toList.filter fun c => !isSeparator c))

def normalizePlate (forms : TextForms) (plateNumberOriginal : String) : String :=
  stripAndUpper forms plateNumberOriginal

def normalizeOptional (forms : TextForms) (plateNumberOriginal : Option String) : Option String :=
  (plateNumberOriginal.filter (· ≠ "")).map (normalizePlate forms)

inductive VehicleStatus where
  | active
  | blocked
  | archived
  deriving DecidableEq

structure Vehicle where
  id : Nat
  plateNumberOriginal : String
  plateNumberNormalized : String
  status : VehicleStatus
  deriving DecidableEq

inductive VehicleApartmentStatus where
  | pending
  | active
  | rejected
  | archived
  deriving DecidableEq

structure VehicleApartment where
  id : Nat
  vehicleId : Nat
  apartmentId : Nat
  status : VehicleApartmentStatus
  validFrom : Option Moment
  validUntil : Option Moment
  deriving DecidableEq

structure AccessRule where
  id : Nat
  vehicleId : Option Nat
  apartmentId : Option Nat
  zoneId : Nat
  allowedDirections : Option (List Direction)
  validFrom : Option Moment
  validUntil : Option Moment
  isActive : Bool
  deriving DecidableEq

inductive PassType where
  | guest
  | taxi
  | delivery
  | courier
  | service
  | contractor
  | emergency
  deriving DecidableEq

inductive PassStatus where
  | active
  | used
  | expired
  | revoked
  deriving DecidableEq

/-- The entries stay within the limit, which the schema checks. -/
structure AccessPass where
  id : Nat
  apartmentId : Nat
  createdByUserId : Option UserId
  passType : PassType
  zoneId : Option Nat
  plateNumberOriginal : Option String
  plateNumberNormalized : Option String
  validFrom : Option Moment
  validUntil : Option Moment
  maxEntries : Nat
  usedEntries : Nat
  status : PassStatus
  oneTimeCodeHash : Option String
  createdAt : Moment
  limited : 0 < maxEntries ∧ usedEntries ≤ maxEntries
  deriving DecidableEq

inductive ResidentRequestStatus where
  | pending
  | approved
  | rejected
  | cancelled
  deriving DecidableEq

structure ResidentAccessRequest where
  id : Nat
  apartmentId : Nat
  createdByUserId : UserId
  vehicleId : Option Nat
  plateNumberOriginal : Option String
  plateNumberNormalized : Option String
  status : ResidentRequestStatus
  deriving DecidableEq

inductive SpotStatus where
  | active
  | inactive
  | archived
  deriving DecidableEq

structure ParkingSpot where
  id : Nat
  zoneId : Nat
  status : SpotStatus

inductive SpotAssignmentStatus where
  | active
  | expired
  | revoked
  | archived
  deriving DecidableEq

structure ParkingSpotAssignment where
  id : Nat
  spotId : Nat
  apartmentId : Nat
  validFrom : Option Moment
  validUntil : Option Moment
  status : SpotAssignmentStatus
  enforceLimit : Bool
  deriving DecidableEq

structure VehiclePresenceSession where
  id : Nat
  vehicleId : Nat
  apartmentId : Option Nat
  zoneId : Nat
  enteredAt : Moment
  exitedAt : Option Moment
  isOpen : Bool

/-- Apartments with the yard of their building, the yards of the zones and the approved
apartments of the residents. -/
structure Territory where
  apartmentYards : List (Nat × Nat)
  zoneYards : List (Nat × Nat)
  approved : List (UserId × Nat)

def platesUnique (vehicles : List Vehicle) : Prop :=
  ((vehicles.filter (·.status ≠ .archived)).map (·.plateNumberNormalized)).Nodup

instance (vehicles : List Vehicle) : Decidable (platesUnique vehicles) :=
  inferInstanceAs (Decidable (List.Nodup _))

structure Registry where
  vehicles : Table Vehicle.id
  links : Table VehicleApartment.id
  rules : Table AccessRule.id
  passes : Table AccessPass.id
  requests : Table ResidentAccessRequest.id
  spots : Table ParkingSpot.id
  assignments : Table ParkingSpotAssignment.id
  sessions : Table VehiclePresenceSession.id
  territory : Territory
  unique : platesUnique vehicles.rows

def Registry.empty (territory : Territory) : Registry :=
  ⟨.empty, .empty, .empty, .empty, .empty, .empty, .empty, .empty, territory, by decide⟩

section

variable (registry : Registry)

def activeVehicleByPlate (normalized : String) : Option Vehicle :=
  registry.vehicles.rows.find? fun vehicle =>
    vehicle.plateNumberNormalized = normalized && vehicle.status ≠ .archived

def servedByZone (apartmentId zoneId : Nat) : Bool :=
  registry.territory.apartmentYards.any fun apartment =>
    apartment.1 = apartmentId && registry.territory.zoneYards.contains (zoneId, apartment.2)

/-- `SELECT DISTINCT zone_id ... ORDER BY zone_id`, of which the first is taken. -/
def firstServingZone (apartmentId : Nat) : Option Nat :=
  ((registry.territory.zoneYards.map (·.1)).filter (servedByZone registry apartmentId)).min?

def apartmentForVehicle (vehicleId : Nat) : Option Nat :=
  ((registry.links.rows.filter fun link =>
    link.vehicleId = vehicleId && link.status = .active).argmin VehicleApartment.id).map
      (·.apartmentId)

def countOpenForApartmentZone (apartmentIds : List Nat) (zoneId : Nat) : Nat :=
  registry.sessions.rowcount fun session =>
    session.apartmentId.any (apartmentIds.contains ·) && session.zoneId = zoneId && session.isOpen

def taxiPassByPlate (normalized : String) : Option AccessPass :=
  (registry.passes.rows.filter fun pass =>
    pass.plateNumberNormalized = some normalized && pass.passType = .taxi &&
      (pass.status = .active || pass.status = .used)).argmax AccessPass.createdAt

end

section

variable (registry : Registry)

def consumed (pass : AccessPass) : AccessPass :=
  if room : pass.usedEntries < pass.maxEntries then
    { pass with
      usedEntries := pass.usedEntries + 1
      status := if pass.maxEntries ≤ pass.usedEntries + 1 then .used else pass.status
      limited := ⟨pass.limited.1, room⟩ }
  else pass

theorem consumed_id (pass : AccessPass) : (consumed pass).id = pass.id := by
  unfold consumed
  split <;> rfl

theorem consumed_plate (pass : AccessPass) :
    (consumed pass).plateNumberNormalized = pass.plateNumberNormalized ∧
      (consumed pass).passType = pass.passType := by
  unfold consumed
  split <;> exact ⟨rfl, rfl⟩

def consumeWhere (condition : AccessPass → Bool) : Registry :=
  { registry with passes := registry.passes.update condition consumed consumed_id }

def hasRoom (passId : Nat) (pass : AccessPass) : Bool :=
  pass.id = passId && pass.usedEntries < pass.maxEntries

def consumeTaxiEntry (passId : Nat) : Registry × Bool :=
  (consumeWhere registry (hasRoom passId), registry.passes.rowcount (hasRoom passId) = 1)

def newSession (vehicleId : Nat) (apartmentId : Option Nat) (zoneId : Nat) (enteredAt : Moment)
    (id : Nat) : VehiclePresenceSession :=
  ⟨id, vehicleId, apartmentId, zoneId, enteredAt, none, true⟩

theorem newSession_id (vehicleId : Nat) (apartmentId : Option Nat) (zoneId : Nat)
    (enteredAt : Moment) (id : Nat) :
    (newSession vehicleId apartmentId zoneId enteredAt id).id = id := rfl

def openFor (vehicleId zoneId : Nat) (session : VehiclePresenceSession) : Bool :=
  session.vehicleId = vehicleId && session.zoneId = zoneId && session.isOpen

def openPresenceSession (vehicleId zoneId : Nat) (enteredAt : Moment) : Registry :=
  if registry.sessions.rows.any (openFor vehicleId zoneId) then registry
  else
    { registry with
      sessions := registry.sessions.insert
        (newSession vehicleId (apartmentForVehicle registry vehicleId) zoneId enteredAt)
        (newSession_id vehicleId (apartmentForVehicle registry vehicleId) zoneId enteredAt) }

def closedSession (exitedAt : Moment) (session : VehiclePresenceSession) : VehiclePresenceSession :=
  { session with exitedAt := some exitedAt, isOpen := false }

theorem closedSession_id (exitedAt : Moment) (session : VehiclePresenceSession) :
    (closedSession exitedAt session).id = session.id := rfl

def closePresenceSession (vehicleId zoneId : Nat) (exitedAt : Moment) : Registry :=
  { registry with
    sessions := registry.sessions.update (openFor vehicleId zoneId) (closedSession exitedAt)
      (closedSession_id exitedAt) }

end

end InfrasafeBot.AccessControl
