import InfrasafeBot.AccessControl.Equipment

/-! What an administrator can do to zones, gates, barriers and controllers
(`services/equipment_admin.py`). -/

set_option autoImplicit false

namespace InfrasafeBot.AccessControl

open Library

inductive EquipmentError where
  | notFound (text : String)
  | duplicateCode (text : String)
  | duplicateControllerUid (text : String)
  | invalidReference (text : String)
  /-- A foreign key that the service leaves to the database. -/
  | integrity

section

variable (equipment : Equipment)

def zoneExists (zoneId : Nat) : Except EquipmentError Unit :=
  if (equipment.zones.find? zoneId).isSome then .ok ()
  else .error (.invalidReference s!"zone {zoneId} not found")

def gateExists (gateId : Nat) : Except EquipmentError Unit :=
  if (equipment.gates.find? gateId).isSome then .ok ()
  else .error (.invalidReference s!"gate {gateId} not found")

def optional (check : Nat → Except EquipmentError Unit) : Option Nat → Except EquipmentError Unit
  | none => .ok ()
  | some id => check id

def controllerKey (controllerId : Option Nat) : Except EquipmentError Unit :=
  optional (fun id =>
    if (equipment.controllers.find? id).isSome then .ok () else .error .integrity) controllerId

def codeFree (kind : String) (codes : List String) (code : String) : Except EquipmentError Unit :=
  if codes.contains code then .error (.duplicateCode s!"{kind} code {pyRepr code} already exists")
  else .ok ()

def codeKept (kind : String) (codes : List String) (own : String) (patched : Option String) :
    Except EquipmentError Unit :=
  match patched.filter (· ≠ own) with
  | none => .ok ()
  | some code => codeFree kind codes code

end

section

structure ZonePatch where
  code : Option String := none
  parkingType : Option ParkingType := none
  maxPermanentVehiclesPerApartment : Option (Option Nat) := none

def newZone (code : String) (parkingType : Option ParkingType) (cap : Option Nat) (id : Nat) :
    ParkingZone := ⟨id, code, parkingType.getD .shared, cap⟩

theorem newZone_id (code : String) (parkingType : Option ParkingType) (cap : Option Nat)
    (id : Nat) : (newZone code parkingType cap id).id = id := rfl

def patchZone (patch : ZonePatch) (zone : ParkingZone) : ParkingZone :=
  { zone with
    code := patch.code.getD zone.code
    parkingType := patch.parkingType.getD zone.parkingType
    maxPermanentVehiclesPerApartment :=
      patch.maxPermanentVehiclesPerApartment.getD zone.maxPermanentVehiclesPerApartment }

variable (equipment : Equipment)

def createZone (code : String) (parkingType : Option ParkingType) (cap : Option Nat) :
    Except EquipmentError Equipment := do
  codeFree "zone" (equipment.zones.rows.map (·.code)) code
  return { equipment with
    zones := equipment.zones.insert (newZone code parkingType cap)
      (newZone_id code parkingType cap) }

def updateZone (zoneId : Nat) (patch : ZonePatch) : Except EquipmentError Equipment :=
  match equipment.zones.find? zoneId with
  | none => .error (.notFound s!"zone {zoneId} not found")
  | some zone => do
      codeKept "zone" (equipment.zones.rows.map (·.code)) zone.code patch.code
      return { equipment with zones := equipment.zones.put (patchZone patch zone) }

end

section

structure GatePatch where
  code : Option String := none
  zoneId : Option Nat := none
  controllerId : Option (Option Nat) := none
  direction : Option Direction := none
  isActive : Option Bool := none

def newGate (code : String) (zoneId : Nat) (direction : Direction) (controllerId : Option Nat)
    (isActive : Bool) (id : Nat) : AccessGate :=
  ⟨id, code, zoneId, controllerId, direction, isActive⟩

theorem newGate_id (code : String) (zoneId : Nat) (direction : Direction)
    (controllerId : Option Nat) (isActive : Bool) (id : Nat) :
    (newGate code zoneId direction controllerId isActive id).id = id := rfl

def patchGate (patch : GatePatch) (gate : AccessGate) : AccessGate :=
  { gate with
    code := patch.code.getD gate.code
    zoneId := patch.zoneId.getD gate.zoneId
    controllerId := patch.controllerId.getD gate.controllerId
    direction := patch.direction.getD gate.direction
    isActive := patch.isActive.getD gate.isActive }

variable (equipment : Equipment)

def createGate (code : String) (zoneId : Nat) (direction : Direction)
    (controllerId : Option Nat) (isActive : Bool) : Except EquipmentError Equipment := do
  zoneExists equipment zoneId
  codeFree "gate" (equipment.gates.rows.map (·.code)) code
  controllerKey equipment controllerId
  return { equipment with
    gates := equipment.gates.insert (newGate code zoneId direction controllerId isActive)
      (newGate_id code zoneId direction controllerId isActive) }

def updateGate (gateId : Nat) (patch : GatePatch) : Except EquipmentError Equipment :=
  match equipment.gates.find? gateId with
  | none => .error (.notFound s!"gate {gateId} not found")
  | some gate => do
      optional (zoneExists equipment) patch.zoneId
      codeKept "gate" (equipment.gates.rows.map (·.code)) gate.code patch.code
      controllerKey equipment (patch.controllerId.getD none)
      return { equipment with gates := equipment.gates.put (patchGate patch gate) }

end

section

structure BarrierPatch where
  code : Option String := none
  gateId : Option Nat := none
  controllerId : Option (Option Nat) := none
  isActive : Option Bool := none

def newBarrier (code : String) (gateId : Nat) (controllerId : Option Nat) (isActive : Bool)
    (id : Nat) : AccessBarrier := ⟨id, code, gateId, controllerId, isActive⟩

theorem newBarrier_id (code : String) (gateId : Nat) (controllerId : Option Nat)
    (isActive : Bool) (id : Nat) :
    (newBarrier code gateId controllerId isActive id).id = id := rfl

def patchBarrier (patch : BarrierPatch) (barrier : AccessBarrier) : AccessBarrier :=
  { barrier with
    code := patch.code.getD barrier.code
    gateId := patch.gateId.getD barrier.gateId
    controllerId := patch.controllerId.getD barrier.controllerId
    isActive := patch.isActive.getD barrier.isActive }

theorem patchBarrier_id (patch : BarrierPatch) (barrier : AccessBarrier) :
    (patchBarrier patch barrier).id = barrier.id := rfl

def Equipment.addBarrier (equipment : Equipment) (code : String) (gateId : Nat)
    (controllerId : Option Nat) (isActive : Bool) : Equipment where
  zones := equipment.zones
  controllers := equipment.controllers
  gates := equipment.gates
  barriers := equipment.barriers.insert (newBarrier code gateId controllerId isActive)
    (newBarrier_id code gateId controllerId isActive)
  serial := by
    intro barrier listed
    rcases (Table.mem_insert (newBarrier_id code gateId controllerId isActive)).mp listed with
      old | rfl
    · exact equipment.serial barrier old
    · exact Nat.succ_pos _

def Equipment.patchBarriers (equipment : Equipment) (barrierId : Nat) (patch : BarrierPatch) :
    Equipment where
  zones := equipment.zones
  controllers := equipment.controllers
  gates := equipment.gates
  barriers := equipment.barriers.update (fun barrier => barrier.id = barrierId)
    (patchBarrier patch) (patchBarrier_id patch)
  serial := by
    intro barrier listed
    obtain ⟨old, before, rfl⟩ := List.mem_map.mp listed
    have positive := equipment.serial old before
    split
    · rw [patchBarrier_id]
      exact positive
    · exact positive

variable (equipment : Equipment)

def createBarrier (code : String) (gateId : Nat) (controllerId : Option Nat)
    (isActive : Bool) : Except EquipmentError Equipment := do
  gateExists equipment gateId
  codeFree "barrier" (equipment.barriers.rows.map (·.code)) code
  controllerKey equipment controllerId
  return equipment.addBarrier code gateId controllerId isActive

def updateBarrier (barrierId : Nat) (patch : BarrierPatch) : Except EquipmentError Equipment :=
  match equipment.barriers.find? barrierId with
  | none => .error (.notFound s!"barrier {barrierId} not found")
  | some barrier => do
      optional (gateExists equipment) patch.gateId
      codeKept "barrier" (equipment.barriers.rows.map (·.code)) barrier.code patch.code
      controllerKey equipment (patch.controllerId.getD none)
      return equipment.patchBarriers barrierId patch

end

section

structure ControllerPatch where
  zoneId : Option (Option Nat) := none
  gateId : Option (Option Nat) := none

def newController (controllerUid : String) (zoneId gateId : Option Nat) (id : Nat) :
    EdgeController := ⟨id, controllerUid, zoneId, gateId⟩

theorem newController_id (controllerUid : String) (zoneId gateId : Option Nat) (id : Nat) :
    (newController controllerUid zoneId gateId id).id = id := rfl

def patchController (patch : ControllerPatch) (controller : EdgeController) : EdgeController :=
  { controller with
    zoneId := patch.zoneId.getD controller.zoneId
    gateId := patch.gateId.getD controller.gateId }

variable (equipment : Equipment)

def createController (controllerUid : String) (zoneId gateId : Option Nat) :
    Except EquipmentError Equipment := do
  if (equipment.controllers.rows.map (·.controllerUid)).contains controllerUid then
    throw (.duplicateControllerUid s!"controller_uid {pyRepr controllerUid} already exists")
  optional (zoneExists equipment) zoneId
  optional (gateExists equipment) gateId
  return { equipment with
    controllers := equipment.controllers.insert (newController controllerUid zoneId gateId)
      (newController_id controllerUid zoneId gateId) }

def updateController (controllerId : Nat) (patch : ControllerPatch) : Except EquipmentError Equipment :=
  match equipment.controllers.find? controllerId with
  | none => .error (.notFound s!"controller {controllerId} not found")
  | some controller => do
      optional (zoneExists equipment) (patch.zoneId.getD none)
      optional (gateExists equipment) (patch.gateId.getD none)
      return { equipment with controllers := equipment.controllers.put (patchController patch controller) }

end

end InfrasafeBot.AccessControl
