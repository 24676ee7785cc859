import InfrasafeBot.AccessControl.PassCapacity

/-! One redemption of a guest code beside other transactions (`services/one_time_codes.py`). What
it selects has been committed before it waits for the lock of the barrier; what it updates is
what is committed when it has the lock. -/

set_option autoImplicit false

namespace InfrasafeBot.AccessControl.Gates

open Library Machine RequestWorkflow

section

variable (hashCode : String → String) (seen held : Ledger) (request : RedeemRequest) (now : Moment)

/-- `redeem_code`: the rows that are committed at its end, and what it returns or raises. -/
def redeemCodeAt : Ledger × Except RedeemError RedeemResult :=
  match findCandidate seen.system.registry (hashCode request.code) now with
  | none => (held, .error .invalidOrExpired)
  | some candidate =>
    -- `hmac.compare_digest` compares again what the query has selected by
    if candidate.oneTimeCodeHash.getD "" ≠ hashCode request.code then (held, .error .invalidOrExpired)
    else
      match resolveBarrier seen.system.equipment candidate.zoneId request.barrierId with
      | .error error => (held, .error error)
      | .ok (barrierId, controllerId) =>
        match held.system.registry.passes.rows.find? (redeemable candidate.id) with
        | none => (held, .error .invalidOrExpired)
        | some pass =>
          let committed := commitOpened held request candidate barrierId controllerId (consumed pass)
          (committed.1, .ok committed.2)

/-- The statements of the gates from a call to its answer, on the same rows. -/
def redeemStatements (forms : TextForms) : Ledger × Stage :=
  match (perform forms hashCode seen none (.seeking request now)).2 with
  | .waiting key work =>
    match (perform forms hashCode held (some key) work).2 with
    | .working lock opening => perform forms hashCode held lock opening
    | stage => (held, stage)
  | stage => (held, stage)

def redeemAnswer : Except RedeemError RedeemResult → Answer
  | .ok result => .redeemed result
  | .error error => .refusedCode error

/-- One entry of the pass is spent; one command, one opening and one audit row tell of it, and
nothing else has changed. -/
structure Redeemed (after : Ledger) (result : RedeemResult) : Prop where
  guest : ∃ pass ∈ seen.system.registry.passes.rows, pass.id = result.passId ∧
    pass.passType = .guest ∧ pass.oneTimeCodeHash = some (hashCode request.code)
  spent : ∃ pass, held.system.registry.passes.find? result.passId = some pass ∧
    pass.status = .active ∧ pass.validUntil.any (now < ·) = true ∧
      (consumed pass).usedEntries = pass.usedEntries + 1 ∧
        after.system.registry.passes = held.system.registry.passes.put (consumed pass)
  command : ∃ command, after.system.journal.commands.rows = held.system.journal.commands.rows ++ [command] ∧
    command.commandId = result.commandId ∧ command.barrierId = result.barrierId
  opening : ∃ opening, after.system.journal.manualOpenings.rows =
      held.system.journal.manualOpenings.rows ++ [opening] ∧
    opening.commandId = result.commandId ∧ opening.barrierId = result.barrierId ∧
      opening.operatorUserId = request.operatorUserId
  audit : ∃ row, after.redemptions = held.redemptions ++ [row] ∧ row.passId = result.passId ∧
    row.barrierId = result.barrierId ∧ row.operatorUserId = request.operatorUserId
  rest : after.system = { held.system with
    registry := { held.system.registry with passes := after.system.registry.passes }
    journal := { held.system.journal with
      commands := after.system.journal.commands
      manualOpenings := after.system.journal.manualOpenings } }

/-- It succeeds, or it raises the one error and has changed nothing. -/
def RedeemsOrRefuses : Prop :=
  match redeemCodeAt hashCode seen held request now with
  | (after, .ok result) => Redeemed hashCode seen held request now after result
  | (after, .error error) => error = .invalidOrExpired ∧ after = held

/-- The barrier that opens the zone of the pass has a controller, and the pass has not run out
since it was selected. -/
structure Unhindered (candidate : AccessPass) : Prop where
  served : request.barrierId = none → ∀ barrierId,
    candidate.zoneId.bind (firstActiveBarrierOfZone seen.system.equipment) = some barrierId →
      ((seen.system.equipment.barriers.find? barrierId).bind (·.controllerId)).isSome = true
  valid : ∀ resolved,
    resolveBarrier seen.system.equipment candidate.zoneId request.barrierId = .ok resolved →
      ∀ pass ∈ held.system.registry.passes.rows, redeemable candidate.id pass = true →
        pass.validUntil.any (now < ·) = true

end

section

variable {hashCode : String → String} {seen held : Ledger} {request : RedeemRequest}
  {now : Moment} {candidate pass : AccessPass} {error : RedeemError}

theorem findCandidate_found {registry : Registry} {codeHash : String}
    (found : findCandidate registry codeHash now = some candidate) :
    candidate ∈ registry.passes.rows ∧ candidate.passType = .guest ∧
      candidate.oneTimeCodeHash = some codeHash := by
  have selected := List.find?_some found
  simp only [Bool.and_eq_true, decide_eq_true_eq] at selected
  exact ⟨List.mem_of_find?_eq_some found, selected.1.1.1.1, selected.1.1.1.2⟩

variable {equipment : Equipment} {named zoneId : Option Nat}

theorem resolveBarrier_error (refused : resolveBarrier equipment zoneId named = .error error) :
    error = .invalidOrExpired ↔ (named = none → ∀ barrierId,
      zoneId.bind (firstActiveBarrierOfZone equipment) = some barrierId →
        ((equipment.barriers.find? barrierId).bind (·.controllerId)).isSome = true) := by
  unfold resolveBarrier at refused
  cases named with
  | some barrierId =>
    dsimp only at refused
    split at refused
    · cases refused
      simp
    · cases refused
  | none =>
    dsimp only at refused
    split at refused
    · next missing =>
        cases refused
        simp [missing]
    · next barrierId first =>
        split at refused
        · next unserved =>
            cases refused
            simp [first, unserved]
        · cases refused

theorem resolveBarrier_served {resolved : Nat × Nat}
    (found : resolveBarrier equipment zoneId named = .ok resolved) (unnamed : named = none)
    (barrierId : Nat) (first : zoneId.bind (firstActiveBarrierOfZone equipment) = some barrierId) :
    ((equipment.barriers.find? barrierId).bind (·.controllerId)).isSome = true := by
  subst unnamed
  unfold resolveBarrier at found
  simp only [first] at found
  split at found
  · cases found
  · next served => simp [served]

theorem commitOpened_redeemed {barrierId controllerId : Nat}
    (found : findCandidate seen.system.registry (hashCode request.code) now = some candidate)
    (fits : held.system.registry.passes.rows.find? (redeemable candidate.id) = some pass)
    (valid : pass.validUntil.any (now < ·) = true) :
    Redeemed hashCode seen held request now
      (commitOpened held request candidate barrierId controllerId (consumed pass)).1
      (commitOpened held request candidate barrierId controllerId (consumed pass)).2 := by
  obtain ⟨listed, guest, hash⟩ := findCandidate_found found
  obtain ⟨own, active, room⟩ := redeemable_spends (List.find?_some fits)
  have stored : held.system.registry.passes.find? candidate.id = some pass :=
    own ▸ Table.find?_of_mem (List.mem_of_find?_eq_some fits)
  exact {
    guest := ⟨candidate, listed, rfl, guest, hash⟩
    spent := ⟨pass, stored, active, valid, consumed_used room, rfl⟩
    command := ⟨_, rfl, rfl, rfl⟩
    opening := ⟨_, rfl, rfl, rfl, rfl⟩
    audit := ⟨_, rfl, rfl, rfl, rfl⟩
    rest := rfl }

/-- A call of `redeem_code` does what is asked of it exactly where the pass it finds is
unhindered. -/
theorem redeemsOrRefuses_iff : RedeemsOrRefuses hashCode seen held request now ↔
    ∀ candidate, findCandidate seen.system.registry (hashCode request.code) now =
      some candidate → Unhindered seen held request now candidate := by
  unfold RedeemsOrRefuses redeemCodeAt
  cases found : findCandidate seen.system.registry (hashCode request.code) now with
  | none =>
    refine ⟨fun _ candidate impossible => ?_, fun _ => ⟨rfl, rfl⟩⟩
    cases impossible
  | some candidate =>
    obtain ⟨_, _, hash⟩ := findCandidate_found found
    have same : ¬ candidate.oneTimeCodeHash.getD "" ≠ hashCode request.code := by
      rw [hash]
      exact not_not.mpr rfl
    have alone : (∀ other, some candidate = some other →
        Unhindered seen held request now other) ↔ Unhindered seen held request now candidate :=
      ⟨fun all => all candidate rfl, fun unhindered other own => Option.some.inj own ▸ unhindered⟩
    rw [alone]
    simp only [if_neg same]
    cases resolved :
        resolveBarrier seen.system.equipment candidate.zoneId request.barrierId with
    | error error =>
      dsimp only
      rw [and_iff_left rfl, resolveBarrier_error resolved]
      refine ⟨fun served => ⟨served, fun other found => ?_⟩, fun unhindered => unhindered.served⟩
      cases resolved.symm.trans found
    | ok opened =>
      obtain ⟨barrierId, controllerId⟩ := opened
      have served := resolveBarrier_served resolved
      dsimp only
      cases fits : held.system.registry.passes.rows.find? (redeemable candidate.id) with
      | none =>
        refine ⟨fun _ => ⟨served, fun _ _ pass listed redeems => ?_⟩, fun _ => ⟨rfl, rfl⟩⟩
        exact absurd redeems (List.find?_eq_none.mp fits pass listed)
      | some pass =>
        have listed := List.mem_of_find?_eq_some fits
        have redeems := List.find?_some fits
        constructor
        · intro redeemed
          refine ⟨served, fun _ _ other otherListed otherRedeems => ?_⟩
          obtain ⟨stored, looked, _, valid, _⟩ := redeemed.spent
          have own := (redeemable_spends otherRedeems).1
          have first : held.system.registry.passes.find? candidate.id = some other :=
            own ▸ Table.find?_of_mem otherListed
          cases looked.symm.trans first
          exact valid
        · intro unhindered
          exact commitOpened_redeemed found fits
            (unhindered.valid _ resolved pass listed redeems)

theorem redeemStatements_eq (forms : TextForms) :
    redeemStatements hashCode seen held request now forms =
      ((redeemCodeAt hashCode seen held request now).1,
        .returning (redeemAnswer (redeemCodeAt hashCode seen held request now).2)) := by
  unfold redeemStatements redeemCodeAt
  cases found : findCandidate seen.system.registry (hashCode request.code) now with
  | none => simp [perform, found, redeemAnswer]
  | some candidate =>
    obtain ⟨_, _, hash⟩ := findCandidate_found found
    cases resolved :
        resolveBarrier seen.system.equipment candidate.zoneId request.barrierId with
    | error error => simp [perform, found, hash, resolved, redeemAnswer]
    | ok opened =>
      cases fits : held.system.registry.passes.rows.find? (redeemable candidate.id) with
      | none | some => simp [perform, found, hash, resolved, fits, redeemAnswer]

end

def unservedGate : List SystemCall :=
  [.equip (.createZone "Z1" none none), .equip (.createGate "G1" 1 .entry none true),
    .equip (.createBarrier "B1" 1 none true)]

theorem oneEntry_limited : 0 < 1 ∧ 0 ≤ 1 := ⟨Nat.one_pos, Nat.zero_le 1⟩

def guestPass : AccessPass :=
  ⟨1, 4, some 7, .guest, some 1, none, none, none, some 600, 1, 0, .active, some "12345678", 0,
    oneEntry_limited⟩

/-- What an operator finds whose zone has one barrier, which no controller drives. -/
def unservedLedger : Ledger :=
  let system := run (step .ascii id) (System.initial ⟨[], [], []⟩ 0) unservedGate
  ⟨{ system with registry := { system.registry with passes := system.registry.passes.save guestPass } }, []⟩

/-- There the code of a guest is answered by another exception. -/
theorem unserved_raises :
    ¬ ∀ (hashCode : String → String) (seen held : Ledger) (request : RedeemRequest)
      (now : Moment), RedeemsOrRefuses hashCode seen held request now := by
  intro uniform
  have raised : (redeemCodeAt id unservedLedger unservedLedger ⟨"12345678", 2, none⟩ 0).2 =
      .error .typeError := by
    decide +kernel
  have refused := uniform id unservedLedger unservedLedger ⟨"12345678", 2, none⟩ 0
  unfold RedeemsOrRefuses at refused
  split at refused
  · next after result succeeded =>
      rw [succeeded] at raised
      cases raised
  · next after error failed =>
      rw [failed] at raised
      cases raised
      cases refused.1

end InfrasafeBot.AccessControl.Gates
