import InfrasafeBot.AccessControl.SystemRuns

/-! The zone an entry is granted for, the zone whose barrier opens and the controller the
command is queued for. -/

set_option autoImplicit false

namespace InfrasafeBot.AccessControl

open Library Machine RequestWorkflow

inductive EntryCall where
  | ingestAnpr (data : AnprIngestInput)
  | redeemCode (request : RedeemRequest)

def EntryCall.toSystem : EntryCall → SystemCall
  | .ingestAnpr data => .ingestAnpr data
  | .redeemCode request => .redeemCode request

def EntryCall.Entering : EntryCall → Prop
  | .ingestAnpr data => data.direction = .entry
  | .redeemCode _ => True

def Creates (before after : Journal) (command : BarrierCommand) : Prop :=
  command ∈ after.commands.rows ∧ command ∉ before.commands.rows

instance (before after : Journal) (command : BarrierCommand) : Decidable (Creates before after command) :=
  inferInstanceAs (Decidable (_ ∧ _))

/-- A grant that is bound to no zone covers them all. -/
def Grant.Covers (grant : Grant) (zoneId : Option Nat) : Prop := grant.zone = none ∨ grant.zone = zoneId

/-- The grants of a call cover the zone of the barrier it opens, and the command is queued for
the controller of the barrier, as the openings by hand are. -/
structure OpensOnGrant (equipment : Equipment) (uses : Grant → Prop) (command : BarrierCommand) : Prop where
  granted : ∃ grant, uses grant
  covered : ∀ grant, uses grant → grant.Covers (gateZone equipment command.barrierId)
  served : activeControllerForBarrier equipment command.barrierId = some command.controllerId

section

variable (forms : TextForms) (hashCode : String → String) (system : System)

def plateOf (data : AnprIngestInput) : String := (normalizeOptional forms data.plateNumberOriginal).getD ""

def askedOf (data : AnprIngestInput) : AnprDecisionInput :=
  decisionInput (data.scoped (authorizeScope system.equipment data))
    (normalizeOptional forms data.plateNumberOriginal)

def EntryCall.Uses (call : EntryCall) (grant : Grant) : Prop :=
  match call with
  | .ingestAnpr data =>
    Used system.registry (askedOf forms system data)
      (decide system.equipment system.registry (askedOf forms system data)) grant
  | .redeemCode request =>
    ∃ pass, findCandidate system.registry (hashCode request.code) system.time = some pass ∧
      grant = .pass pass

def entryGate (equipment : Equipment) (data : AnprIngestInput) : Option Nat :=
  data.gateId.or (firstActiveGateForController equipment data.controllerId)

def entryZone (equipment : Equipment) (data : AnprIngestInput) : Option Nat :=
  ((getController equipment data.controllerId).bind (·.zoneId)).or data.zoneId

def zoneOfGate (equipment : Equipment) (gateId : Nat) : Option Nat :=
  (equipment.gates.find? gateId).map (·.zoneId)

def entryBarrier (equipment : Equipment) (data : AnprIngestInput) : Option Nat :=
  (entryGate equipment data).bind (firstActiveBarrierForGate equipment)

/-- The gate of an event lies in the zone its grant is sought for, and its barrier is served by
the controller that has sent it. -/
structure EntryAgrees (data : AnprIngestInput) : Prop where
  served : (entryBarrier system.equipment data).bind
    (activeControllerForBarrier system.equipment) = some data.controllerId
  bearer : (activeVehicleByPlate system.registry (plateOf forms data)).isSome →
    entryZone system.equipment data = (entryGate system.equipment data).bind (zoneOfGate system.equipment)
  stranger : activeVehicleByPlate system.registry (plateOf forms data) = none →
    ∀ pass, taxiPassByPlate system.registry (plateOf forms data) = some pass →
      (Grant.pass pass).Covers
        ((entryGate system.equipment data).bind (zoneOfGate system.equipment))

/-- A barrier that the operator names lies in the zone of the pass. -/
def RedeemAgrees (request : RedeemRequest) : Prop :=
  ∀ barrierId, request.barrierId = some barrierId →
    ∀ pass, findCandidate system.registry (hashCode request.code) system.time = some pass →
      (Grant.pass pass).Covers (gateZone system.equipment barrierId)

def EntryCall.Agrees : EntryCall → Prop
  | .ingestAnpr data => EntryAgrees forms system data
  | .redeemCode request => RedeemAgrees hashCode system request

end

variable {command : BarrierCommand} {data : AnprIngestInput}

section

variable {journal : Journal} {time : Moment}

variable {barrierId : Nat} {decided : Verdict} {engine : EngineDecision}

theorem createOpenCommand_creates {decisionId : Option Nat} {controllerId : Nat}
    {expiresAt : Moment} (created : Creates journal
      (createOpenCommand journal decisionId controllerId barrierId expiresAt).1 command) :
    command.controllerId = controllerId ∧ command.barrierId = barrierId := by
  obtain ⟨listed, fresh⟩ := created
  unfold createOpenCommand at listed
  split at listed
  · exact absurd listed fresh
  · rcases (Table.mem_insert (openCommand_id decisionId controllerId barrierId expiresAt)).mp
      listed with old | rfl
    · exact absurd old fresh
    · exact ⟨rfl, rfl⟩

theorem recordEvent_creates {normalized : Option String}
    (created : Creates journal (recordEvent journal time data normalized engine decided).1 command) :
    openedBy data decided = some command.barrierId ∧
      command.controllerId = data.controllerId := by
  unfold recordEvent at created
  dsimp only at created
  split at created
  · next closed => exact absurd created.1 created.2
  · next barrierId opened =>
      obtain ⟨queued, own⟩ := createOpenCommand_creates (created : Creates
        (insertInitial (insertCameraEvent journal data normalized) journal.cameraEvents.nextKey
          decided.decision engine decided.finalStatus decided.reviewDeadlineAt) _ command)
      exact ⟨by rw [opened, own], queued⟩

theorem openedBy_eq_some :
    openedBy data decided = some barrierId ↔
      decided.decision = .allow ∧ decided.finalStatus = .allowed ∧
        data.barrierId = some barrierId := by
  unfold openedBy
  split
  · next allowed => simp [allowed]
  · next closed =>
      constructor
      · intro impossible
        cases impossible
      · rintro ⟨allow, allowed, _⟩
        exact absurd ⟨allow, allowed⟩ closed

theorem verdict_allowed (allowed : (verdict journal time data engine).finalStatus = .allowed) :
    engine.decision = .allow := by
  unfold verdict at allowed
  split at allowed
  · split at allowed <;> cases allowed
  · have proposed := engine.proposed
    dsimp only at allowed
    rw [allowed] at proposed
    cases decision : engine.decision with
    | allow => rfl
    | deny | manualReview =>
      rw [decision] at proposed
      cases proposed

theorem consumeTaxi_allows {registry : Registry}
    (allows : (consumeTaxi registry engine).2.decision = .allow) :
    (consumeTaxi registry engine).2 = engine := by
  unfold consumeTaxi at allows ⊢
  split at allows
  · rfl
  · dsimp only at allows ⊢
    split at allows
    · next room => rw [if_pos room]
    · cases allows

theorem enforce_allows {scope : Scope} (allows : (scope.enforce engine).decision = .allow) :
    scope.violation = none ∧ scope.enforce engine = engine := by
  unfold Scope.enforce at allows ⊢
  split at allows
  · cases allows
  · next unviolated => exact ⟨unviolated, rfl⟩

end

variable {equipment : Equipment}

section

variable {forms : TextForms} {system : System}

theorem authorizeScope_unviolated (unviolated : (authorizeScope equipment data).violation = none) :
    authorizeScope equipment data =
      ⟨entryZone equipment data, entryGate equipment data, entryBarrier equipment data, none⟩ := by
  unfold authorizeScope at unviolated ⊢
  dsimp only at unviolated ⊢
  split at unviolated
  · cases unviolated
  · next own =>
      rw [if_neg own]
      cases named : data.gateId with
      | none => simp [entryZone, entryBarrier, entryGate, named]
      | some gateId =>
        rw [named] at unviolated
        dsimp only at unviolated ⊢
        split at unviolated
        · next belongs =>
            rw [if_pos belongs]
            simp [entryZone, entryBarrier, entryGate, named]
        · cases unviolated

theorem entryBarrier_gate {barrierId : Nat} (found : entryBarrier equipment data = some barrierId) :
    gateZone equipment barrierId = (entryGate equipment data).bind (zoneOfGate equipment) := by
  obtain ⟨gateId, gate, first⟩ := Option.bind_eq_some_iff.mp found
  obtain ⟨barrier, present, own, _⟩ := firstActiveBarrier_found first
  rw [gateZone, present, gate, Option.bind_some, Option.bind_some, own, zoneOfGate]

theorem runIngest_creates (entry : data.direction = .entry)
    (created : Creates system.journal (runIngest forms system data).1.journal command) :
    (decide system.equipment system.registry (askedOf forms system data)).decision = .allow ∧
      (askedOf forms system data).zoneId = entryZone system.equipment data ∧
      entryBarrier system.equipment data = some command.barrierId ∧
      command.controllerId = data.controllerId := by
  unfold runIngest at created
  dsimp only at created
  split at created
  · exact absurd created.1 created.2
  · obtain ⟨opened, queued⟩ := recordEvent_creates created
    obtain ⟨_, allowed, own⟩ := openedBy_eq_some.mp opened
    have consumedAllows := verdict_allowed allowed
    have kept := consumeTaxi_allows consumedAllows
    rw [kept] at consumedAllows
    obtain ⟨unviolated, enforced⟩ := enforce_allows consumedAllows
    rw [enforced] at consumedAllows
    have scope := authorizeScope_unviolated unviolated
    have asked := engineFor_entry system (data.scoped (authorizeScope system.equipment data))
      (normalizeOptional forms data.plateNumberOriginal) entry
    rw [asked] at consumedAllows
    refine ⟨consumedAllows, ?_, ?_, queued⟩
    · simp only [askedOf, decisionInput, AnprIngestInput.scoped, scope]
    · simpa only [AnprIngestInput.scoped, scope] using own

theorem ingest_opens_iff (entry : data.direction = .entry)
    (created : Creates system.journal (runIngest forms system data).1.journal command) :
    OpensOnGrant system.equipment
        (Used system.registry (askedOf forms system data)
          (decide system.equipment system.registry (askedOf forms system data))) command ↔
      EntryAgrees forms system data := by
  obtain ⟨allows, asked, barrier, queued⟩ := runIngest_creates entry created
  have gate := entryBarrier_gate barrier
  obtain ⟨grant, used⟩ := decide_allows allows
  constructor
  · rintro ⟨_, covered, served⟩
    constructor
    · rw [barrier, Option.bind_some, served, queued]
    · intro borne
      obtain ⟨vehicle, bearer⟩ := Option.isSome_iff_exists.mp borne
      obtain ⟨zone, own, sought⟩ := used_of_bearer bearer allows used
      rcases covered grant used with unbound | same
      · cases own.symm.trans unbound
      · rw [← asked, sought, ← gate, ← same, own]
    · intro stranger pass found
      obtain ⟨taken, same, rfl⟩ := used_of_stranger stranger used
      obtain rfl : taken = pass := Option.some.inj (same.symm.trans found)
      rw [← gate]
      exact covered _ used
  · intro agrees
    refine ⟨⟨grant, used⟩, ?_, ?_⟩
    · intro other usedToo
      rw [gate]
      cases borne : activeVehicleByPlate system.registry (plateOf forms data) with
      | some vehicle =>
        obtain ⟨zone, own, sought⟩ := used_of_bearer borne allows usedToo
        have same := agrees.bearer (by rw [borne]; rfl)
        rw [← asked, sought] at same
        exact .inr (own.trans same)
      | none =>
        obtain ⟨pass, found, rfl⟩ := used_of_stranger borne usedToo
        exact agrees.stranger borne pass found
    · have served := agrees.served
      rw [barrier, Option.bind_some] at served
      rw [served, queued]

end

section

variable {hashCode : String → String} {system redeemed : System} {request : RedeemRequest}
  {result : RedeemResult}

theorem firstActiveBarrierOfZone_found {zoneId barrierId : Nat}
    (first : firstActiveBarrierOfZone equipment zoneId = some barrierId) :
    gateZone equipment barrierId = some zoneId ∧
      activeControllerForBarrier equipment barrierId =
        (equipment.barriers.find? barrierId).bind (·.controllerId) := by
  obtain ⟨barrier, kept, rfl⟩ := List.mem_map.mp (lowest_mem first)
  obtain ⟨listed, active⟩ := List.mem_filter.mp kept
  rw [Bool.and_eq_true] at active
  refine ⟨of_decide_eq_true active.2, ?_⟩
  rw [activeControllerForBarrier, Table.find?_of_mem listed, Option.filter_some_pos active.1]

theorem resolveBarrier_found {zoneId named : Option Nat} {barrierId controllerId : Nat}
    (resolved : resolveBarrier equipment zoneId named = .ok (barrierId, controllerId)) :
    activeControllerForBarrier equipment barrierId = some controllerId ∧
      (named = some barrierId ∨ named = none ∧ zoneId = gateZone equipment barrierId) := by
  unfold resolveBarrier at resolved
  split at resolved
  · split at resolved
    · cases resolved
    · next active =>
        cases resolved
        exact ⟨active, .inl rfl⟩
  · split at resolved
    · cases resolved
    · next first =>
        obtain ⟨zone, rfl, found⟩ := Option.bind_eq_some_iff.mp first
        obtain ⟨own, active⟩ := firstActiveBarrierOfZone_found found
        split at resolved
        · cases resolved
        · next served =>
            cases resolved
            exact ⟨active.trans served, .inr ⟨rfl, own.symm⟩⟩

theorem redeem_creates (redeems : redeemCode hashCode system request = .ok (redeemed, result))
    (created : Creates system.journal redeemed.journal command) :
    ∃ pass, findCandidate system.registry (hashCode request.code) system.time = some pass ∧
      resolveBarrier system.equipment pass.zoneId request.barrierId =
        .ok (command.barrierId, command.controllerId) := by
  unfold redeemCode at redeems
  split at redeems
  · cases redeems
  · next pass found =>
      split at redeems
      · cases redeems
      · next barrierId controllerId resolved =>
          split at redeems
          · cases redeems
            obtain ⟨queued, own⟩ := createOpenCommand_creates created
            exact ⟨pass, found, by rw [resolved, queued, own]⟩
          · cases redeems

theorem redeem_opens_iff (redeems : redeemCode hashCode system request = .ok (redeemed, result))
    (created : Creates system.journal redeemed.journal command) :
    OpensOnGrant system.equipment
        (fun grant => ∃ pass, findCandidate system.registry (hashCode request.code) system.time =
          some pass ∧ grant = .pass pass) command ↔
      RedeemAgrees hashCode system request := by
  obtain ⟨pass, candidate, resolved⟩ := redeem_creates redeems created
  obtain ⟨served, origin⟩ := resolveBarrier_found resolved
  constructor
  · rintro ⟨_, covered, _⟩ barrierId named other found
    rcases origin with own | ⟨missing, _⟩
    · obtain rfl : command.barrierId = barrierId := Option.some.inj (own.symm.trans named)
      exact covered _ ⟨other, found, rfl⟩
    · cases missing.symm.trans named
  · intro agrees
    refine ⟨⟨.pass pass, pass, candidate, rfl⟩, ?_, served⟩
    rintro grant ⟨other, found, rfl⟩
    rcases origin with own | ⟨_, zone⟩
    · exact agrees command.barrierId own other found
    · obtain rfl : pass = other := Option.some.inj (candidate.symm.trans found)
      exact .inr zone

end

/-- A command that a camera event or a guest code creates is for a barrier in the zone of the
grant, at the controller of the barrier, exactly where the references of the call agree. -/
theorem access_granted_for_zone_of_barrier (forms : TextForms) (hashCode : String → String)
    (system : System) (call : EntryCall) (command : BarrierCommand) (entering : call.Entering)
    (created : Creates system.journal (step forms hashCode system call.toSystem).journal command) :
    OpensOnGrant system.equipment (call.Uses forms hashCode system) command ↔
      call.Agrees forms hashCode system := by
  cases call with
  | ingestAnpr data => exact ingest_opens_iff entering created
  | redeemCode request =>
    simp only [EntryCall.toSystem, step, redeem] at created
    split at created
    · next redeemed result redeems => exact redeem_opens_iff redeems created
    · exact absurd created.1 created.2

/-! The only controller stands in zone 1, and so does the rule of the car; its gate is put into
one zone or the other. -/

def gateInZone (zoneId : Nat) : List SystemCall :=
  [.equip (.createZone "Z1" none none), .equip (.createZone "Z2" none none),
    .equip (.createController "edge-1" (some 1) none),
    .equip (.createGate "G1" zoneId .entry (some 1) true),
    .equip (.createBarrier "B1" 1 (some 1) true),
    .register (.createVehicle ⟨"01A777AA", some 4, some 1⟩)]

def withGateInZone (zoneId : Nat) : System :=
  run (step .ascii id) (System.initial ⟨[], [], []⟩ 0) (gateInZone zoneId)

def carAtGate : AnprIngestInput where
  controllerId := 1
  eventId := "e-1"
  zoneId := none
  gateId := none
  barrierId := none
  plateNumberOriginal := some "01 A 777 AA"
  direction := .entry
  confidence := some 9000
  capturedAt := 0

def openGate : BarrierCommand := ⟨1, some 1, 1, 1, 120⟩

theorem opens_zone_of_grant :
    OpensOnGrant (withGateInZone 1).equipment
      ((EntryCall.ingestAnpr carAtGate).Uses .ascii id (withGateInZone 1)) openGate := by
  have created : Creates (withGateInZone 1).journal
      (step .ascii id (withGateInZone 1) (.ingestAnpr carAtGate)).journal openGate := by
    decide +kernel
  refine (access_granted_for_zone_of_barrier .ascii id (withGateInZone 1) (.ingestAnpr carAtGate)
    openGate rfl created).mpr ⟨by decide +kernel, fun _ => by decide +kernel, ?_⟩
  intro stranger
  have borne : (activeVehicleByPlate (withGateInZone 1).registry
      (plateOf .ascii carAtGate)).isSome = true := by
    decide +kernel
  rw [stranger] at borne
  cases borne

theorem opens_other_zone :
    Creates (withGateInZone 2).journal
        (step .ascii id (withGateInZone 2) (.ingestAnpr carAtGate)).journal openGate ∧
      ¬ OpensOnGrant (withGateInZone 2).equipment
        ((EntryCall.ingestAnpr carAtGate).Uses .ascii id (withGateInZone 2)) openGate := by
  have created : Creates (withGateInZone 2).journal
      (step .ascii id (withGateInZone 2) (.ingestAnpr carAtGate)).journal openGate := by
    decide +kernel
  refine ⟨created, fun opens => ?_⟩
  have agrees := (ingest_opens_iff rfl created).mp opens
  have same := agrees.bearer (by decide +kernel)
  have differs : entryZone (withGateInZone 2).equipment carAtGate ≠
      (entryGate (withGateInZone 2).equipment carAtGate).bind
        (zoneOfGate (withGateInZone 2).equipment) := by
    decide +kernel
  exact differs same

end InfrasafeBot.AccessControl
