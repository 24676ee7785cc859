import InfrasafeBot.RequestWorkflow.Types
import InfrasafeBot.Library.Table

/-! The equipment of the entries (`domain/equipment.py`, `domain/territory.py`), the lookups
of `repositories/equipment_repo.py` and the lock keys of `services/locks.py`. -/

set_option autoImplicit false

namespace InfrasafeBot.AccessControl

open Library

inductive ParkingType where
  | assigned
  | shared

inductive Direction where
  | entry
  | exit
  deriving DecidableEq

structure ParkingZone where
  id : Nat
  code : String
  parkingType : ParkingType
  maxPermanentVehiclesPerApartment : Option Nat

structure EdgeController where
  id : Nat
  controllerUid : String
  zoneId : Option Nat
  gateId : Option Nat

structure AccessGate where
  id : Nat
  code : String
  zoneId : Nat
  controllerId : Option Nat
  direction : Direction
  isActive : Bool

structure AccessBarrier where
  id : Nat
  code : String
  gateId : Nat
  controllerId : Option Nat
  isActive : Bool

structure Equipment where
  zones : Table ParkingZone.id
  controllers : Table EdgeController.id
  gates : Table AccessGate.id
  barriers : Table AccessBarrier.id
  serial : ∀ barrier ∈ barriers.rows, 0 < barrier.id

def lowest (ids : List Nat) : Option Nat := ids.min?

section

variable (equipment : Equipment)

def getController (controllerId : Nat) : Option EdgeController := equipment.controllers.find? controllerId

def gateBelongsToController (gateId controllerId : Nat) : Bool :=
  (equipment.gates.find? gateId).any (·.controllerId = some controllerId)

def firstActiveGateForController (controllerId : Nat) : Option Nat :=
  lowest ((equipment.gates.rows.filter fun gate =>
    gate.controllerId = some controllerId && gate.isActive).map (·.id))

def activeAt (gateId : Nat) (barrier : AccessBarrier) : Bool := barrier.gateId = gateId && barrier.isActive

def firstActiveBarrierForGate (gateId : Nat) : Option Nat :=
  lowest ((equipment.barriers.rows.filter (activeAt gateId)).map (·.id))

def barrierAndControllerForGate (gateId : Option Nat) : Option Nat × Option Nat :=
  match gateId.bind (firstActiveBarrierForGate equipment) with
  | none => (none, none)
  | some barrierId => (some barrierId, (equipment.barriers.find? barrierId).bind (·.controllerId))

def activeControllerForBarrier (barrierId : Nat) : Option Nat :=
  ((equipment.barriers.find? barrierId).filter (·.isActive)).bind (·.controllerId)

end

def orElse (first second : Option Nat) : Option Nat :=
  match first with
  | none => second
  | some 0 => second
  | some key => some key

def canonicalLockKey (barrierId gateId controllerId : Option Nat) : Option Nat :=
  orElse barrierId (orElse gateId controllerId)

/-- The lock key of an event at a gate, from the controller that has sent it. -/
def lockKeyForEvent (equipment : Equipment) (gateId : Option Nat) (controllerId : Nat) : Option Nat :=
  canonicalLockKey (gateId.bind (firstActiveBarrierForGate equipment)) gateId (some controllerId)

section

variable {equipment : Equipment} {gateId barrierId : Nat}

theorem lowest_mem {ids : List Nat} {id : Nat} (found : lowest ids = some id) : id ∈ ids :=
  List.min?_mem found

theorem firstActiveBarrier_found
    (first : firstActiveBarrierForGate equipment gateId = some barrierId) :
    ∃ barrier, equipment.barriers.find? barrierId = some barrier ∧ barrier.gateId = gateId ∧
      barrier.isActive = true := by
  obtain ⟨barrier, kept, rfl⟩ := List.mem_map.mp (lowest_mem first)
  obtain ⟨listed, active⟩ := List.mem_filter.mp kept
  rw [activeAt, Bool.and_eq_true] at active
  exact ⟨barrier, Table.find?_of_mem listed, of_decide_eq_true active.1, active.2⟩

end

end InfrasafeBot.AccessControl
