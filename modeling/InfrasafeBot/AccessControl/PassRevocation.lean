import InfrasafeBot.AccessControl.PassCapacity

/-! A pass that has been revoked is not entered on, where no ingestion spends a pass that was
revoked after the engine had read it. -/

set_option autoImplicit false

namespace InfrasafeBot.AccessControl.Gates

open Library Machine RequestWorkflow

/-- The entry an ingestion takes is not from a pass that has been revoked meanwhile. -/
def spendsUnrevoked {n : Nat} (state : State n) : Event n → Bool
  | .step worker =>
    match state.workers worker with
    | .working _ (.spending _ _ _ passId) =>
      (state.ledger.system.registry.passes.find? passId).all (·.status ≠ .revoked)
    | _ => true
  | _ => true

structure StaysRevoked (before after : Ledger) (pass : AccessPass) : Prop where
  revoked : ∃ kept ∈ after.system.registry.passes.rows, kept.id = pass.id ∧
    kept.status = .revoked ∧ kept.usedEntries = pass.usedEntries
  entries : entriesOn after pass.id = entriesOn before pass.id
  redemptions : redemptionsOf after pass.id = redemptionsOf before pass.id

def Work.Lawful (registry : Registry) : Work → Prop
  | .recording _ _ _ written =>
    ∀ version, written = some version →
      ∃ stored, registry.passes.find? version.id = some stored ∧ stored.status ≠ .revoked
  | .opening _ _ _ _ version =>
    ∃ stored, registry.passes.find? version.id = some stored ∧ stored.status ≠ .revoked
  | .saving version _ =>
    ∃ stored, registry.passes.find? version.id = some stored ∧
      (stored.status = .revoked → version.status = .revoked ∧ version.usedEntries = stored.usedEntries)
  | _ => True

def Stage.Lawful (registry : Registry) : Stage → Prop
  | .waiting _ work => work.written = none
  | .working _ work => work.Lawful registry
  | _ => True

structure Revocable {n : Nat} (state : State n) : Prop where
  counted : Counted state
  lawful : ∀ worker, (state.workers worker).Lawful state.ledger.system.registry

section

variable {registry changed : Registry} {work : Work} {stage : Stage}

theorem Work.Lawful.congr (lawful : work.Lawful registry)
    (kept : ∀ version, work.written = some version → ∀ stored,
      registry.passes.find? version.id = some stored →
      changed.passes.find? version.id = some stored) : work.Lawful changed := by
  cases work with
  | recording data normalized engine written =>
    intro version own
    obtain ⟨stored, found, unrevoked⟩ := lawful version own
    exact ⟨stored, kept version own stored found, unrevoked⟩
  | opening request candidate barrierId controllerId version =>
    obtain ⟨stored, found, unrevoked⟩ := lawful
    exact ⟨stored, kept version rfl stored found, unrevoked⟩
  | saving version answer =>
    obtain ⟨stored, found, stays⟩ := lawful
    exact ⟨stored, kept version rfl stored found, stays⟩
  | _ => trivial

theorem Stage.Lawful.congr (lawful : stage.Lawful registry)
    (kept : ∀ version, stage.written = some version → ∀ stored,
      registry.passes.find? version.id = some stored →
      changed.passes.find? version.id = some stored) : stage.Lawful changed := by
  cases stage with
  | waiting key work => exact lawful
  | working key work => exact Work.Lawful.congr lawful kept
  | _ => trivial

theorem Work.lawful_of_unwritten (unwritten : work.written = none) : work.Lawful registry := by
  cases work with
  | recording data normalized engine written =>
    intro version own
    rw [show written = none from unwritten] at own
    cases own
  | opening | saving => cases unwritten
  | _ => trivial

end

section

variable {forms : TextForms} {hashCode : String → String} {ledger : Ledger} {key : Option Nat}
  {work : Work}

theorem patchedPass_revoked {loaded stored changed : AccessPass} {request : UpdatePassRequest}
    (patched : patchedPass forms loaded stored request = .ok changed)
    (revoked : stored.status = .revoked) : changed.status = .revoked := by
  unfold patchedPass at patched
  split at patched
  · cases patched
  · split at patched
    · cases patched
      dsimp only
      split
      · rfl
      · exact revoked
    · cases patched

theorem afterEngine_unwritten {data : AnprIngestInput} {normalized : Option String}
    {engine : EngineDecision} : (afterEngine data normalized engine).written = none := by
  unfold afterEngine
  split <;> rfl

theorem perform_lawful (reads : work.commits = false)
    (unrevoked : ∀ data normalized engine passId, work = .spending data normalized engine passId →
      ∀ stored, ledger.system.registry.passes.find? passId = some stored → stored.status ≠ .revoked) :
    (perform forms hashCode ledger key work).2.Lawful ledger.system.registry := by
  cases work with
  | scoping data =>
    simp only [perform]
    split
    · trivial
    · rfl
  | searching | inserting | editing =>
    simp only [perform]
    split <;> trivial
  | judging data normalized scope =>
    simp only [perform]
    split
    · intro version own
      cases own
    · trivial
  | granting data normalized => exact Work.lawful_of_unwritten afterEngine_unwritten
  | spending data normalized engine passId =>
    simp only [perform]
    split
    · next stored found =>
        rintro _ ⟨⟩
        have listed := List.mem_of_find?_eq_some found
        have own := (taxiPass_spends (List.find?_some found)).1
        refine ⟨stored, ?_, unrevoked data normalized engine passId rfl stored ?_⟩
        · rw [consumed_id]
          exact Table.find?_of_mem listed
        · rw [← own]
          exact Table.find?_of_mem listed
    · intro version own
      cases own
  | recording | opening | saving => cases reads
  | seeking request now =>
    simp only [perform]
    split
    · trivial
    · split
      · trivial
      · rfl
  | burning request candidate barrierId controllerId =>
    simp only [perform]
    split
    · next stored found =>
        obtain ⟨own, active, _⟩ := redeemable_spends (List.find?_some found)
        refine ⟨stored, ?_, by rw [active]; rintro ⟨⟩⟩
        rw [consumed_id]
        exact Table.find?_of_mem (List.mem_of_find?_eq_some found)
    · trivial
  | cancelling actorUserId passId =>
    simp only [perform]
    split
    · trivial
    · split
      · trivial
      · split <;> trivial
  | revoking passId =>
    simp only [perform]
    split
    · trivial
    · next stored found =>
        exact ⟨stored, Table.find?_of_mem (Table.mem_of_find? found), fun _ => ⟨rfl, rfl⟩⟩
  | patching loaded request =>
    simp only [perform]
    split
    · trivial
    · next stored found =>
        split
        · trivial
        · next changed patched =>
            obtain ⟨own, used⟩ := patchedPass_keeps patched
            refine ⟨stored, ?_, fun revoked => ⟨patchedPass_revoked patched revoked, used⟩⟩
            rw [own]
            exact Table.find?_of_mem (Table.mem_of_find? found)

theorem perform_grows (commits : work.commits = true) (based : work.Based ledger.system.registry)
    (passId : Nat) :
    entriesOn ledger passId ≤ entriesOn (perform forms hashCode ledger key work).1 passId ∧
      redemptionsOf ledger passId ≤
        redemptionsOf (perform forms hashCode ledger key work).1 passId := by
  cases work with
  | recording data normalized engine written =>
    refine ⟨?_, le_refl _⟩
    simp only [perform, entriesOn, commitIngest_draws based.1]
    exact Nat.le_add_right _ _
  | opening request candidate barrierId controllerId written =>
    have same : (commitRedeem ledger.system request candidate barrierId
        controllerId).1.journal.decisions = ledger.system.journal.decisions :=
      createOpenCommand_decisions
    simp only [perform, commitOpened, entriesOn, redemptionsOf, same, List.countP_append]
    exact ⟨le_refl _, Nat.le_add_right _ _⟩
  | saving written answer => exact ⟨le_refl _, le_refl _⟩
  | _ => cases commits

theorem perform_staysRevoked (commits : work.commits = true)
    (based : work.Based ledger.system.registry) (lawful : work.Lawful ledger.system.registry)
    {pass : AccessPass} (listed : pass ∈ ledger.system.registry.passes.rows)
    (revoked : pass.status = .revoked) :
    StaysRevoked ledger (perform forms hashCode ledger key work).1 pass := by
  obtain ⟨drawn, answer, committed, _, _⟩ := @perform_commits forms hashCode ledger key work commits based
  have found := Table.find?_of_mem listed
  have kept : (∃ kept ∈ (perform forms hashCode ledger key work).1.system.registry.passes.rows,
      kept.id = pass.id ∧ kept.status = .revoked ∧ kept.usedEntries = pass.usedEntries) ∧
        (work.written.map (·.id) = some pass.id → drawn = 0) := by
    by_cases own : work.written.map (·.id) = some pass.id
    · obtain ⟨version, written, same⟩ := Option.map_eq_some_iff.mp own
      obtain ⟨stored, present, used⟩ := committed.based version written
      rw [same, found] at present
      obtain rfl := Option.some.inj present
      have stays : version.status = .revoked ∧ version.usedEntries = pass.usedEntries := by
        cases work with
        | recording data normalized engine taken =>
          obtain ⟨other, there, unrevoked⟩ := lawful version written
          rw [same, found] at there
          obtain rfl := Option.some.inj there
          exact absurd revoked unrevoked
        | opening request candidate barrierId controllerId taken =>
          obtain rfl := Option.some.inj written
          obtain ⟨other, there, unrevoked⟩ := lawful
          rw [same, found] at there
          obtain rfl := Option.some.inj there
          exact absurd revoked unrevoked
        | saving taken answer =>
          obtain rfl := Option.some.inj written
          obtain ⟨other, there, stays⟩ := lawful
          rw [same, found] at there
          obtain rfl := Option.some.inj there
          exact stays revoked
        | _ => cases commits
      refine ⟨⟨version, ?_, same, stays⟩, fun _ => by omega⟩
      rw [committed.passes, written, Option.elim_some]
      have stored : ledger.system.registry.passes.find? version.id = some pass := by
        rw [same]
        exact found
      exact Table.mem_of_find? (Table.find?_put_self stored)
    · exact ⟨⟨pass, Table.mem_of_find? (committed.found found own), rfl, revoked, rfl⟩,
        fun same => absurd same own⟩
  have sum : drawsOf (perform forms hashCode ledger key work).1 pass.id =
      drawsOf ledger pass.id := by
    rw [committed.draws]
    split
    · next own => rw [kept.2 own, Nat.add_zero]
    · exact Nat.add_zero _
  obtain ⟨entries, redemptions⟩ := @perform_grows forms hashCode ledger key work commits based pass.id
  simp only [drawsOf] at sum
  exact ⟨kept.1, by omega, by omega⟩

end

section

variable {forms : TextForms} {hashCode : String → String} {n : Nat} {state : State n}
  {worker : Fin n} {stage : Stage} {key : Option Nat} {work : Work}

theorem StaysRevoked.refl {ledger : Ledger} {pass : AccessPass}
    (listed : pass ∈ ledger.system.registry.passes.rows) (revoked : pass.status = .revoked) :
    StaysRevoked ledger ledger pass :=
  ⟨⟨pass, listed, rfl, revoked, rfl⟩, rfl, rfl⟩

structure KeepsRevoked (before after : State n) : Prop where
  revocable : Revocable after
  stays : ∀ pass ∈ before.ledger.system.registry.passes.rows, pass.status = .revoked →
    StaysRevoked before.ledger after.ledger pass

section

variable (revocable : Revocable state)

include revocable

theorem KeepsRevoked.refl : KeepsRevoked state state :=
  ⟨revocable, fun _ listed revoked => .refl listed revoked⟩

theorem keepsRevoked_put (counted : Counted (state.put worker stage))
    (lawful : stage.Lawful state.ledger.system.registry) :
    KeepsRevoked state (state.put worker stage) where
  revocable := ⟨counted, workers_put (·.Lawful _) lawful fun other _ => revocable.lawful other⟩
  stays := fun _ listed revoked => .refl listed revoked

theorem keepsRevoked_perform (own : state.workers worker = .working key work)
    (unrevoked : spendsUnrevoked state (.step worker) = true)
    (enters : state.enters worker (perform forms hashCode state.ledger key work).2 = true) :
    KeepsRevoked state { state.put worker (perform forms hashCode state.ledger key work).2 with
      ledger := (perform forms hashCode state.ledger key work).1 } := by
  have counted := counted_perform revocable.counted own enters
  have based := revocable.counted.based worker
  have lawful := revocable.lawful worker
  rw [own] at based lawful
  cases commits : work.commits with
  | false =>
    rw [perform_reads commits] at counted ⊢
    refine keepsRevoked_put revocable counted (perform_lawful commits ?_)
    rintro data normalized engine passId rfl stored found
    simp only [spendsUnrevoked, own, found, Option.all_some] at unrevoked
    exact of_decide_eq_true unrevoked
  | true =>
    obtain ⟨drawn, answer, committed, answered, _⟩ :=
      @perform_commits forms hashCode state.ledger key work commits based
    have held : state.passIds worker = work.written.map (·.id) := by
      rw [State.passIds, own]
      rfl
    refine ⟨⟨counted, ?_⟩, fun pass listed revoked =>
      perform_staysRevoked commits based lawful listed revoked⟩
    rw [answered]
    refine workers_put (·.Lawful _) trivial fun other apart =>
      (revocable.lawful other).congr fun version written stored found =>
        committed.found found fun same => apart ?_
    exact revocable.counted.exclusive other worker version.id
      (congrArg (Option.map _) written) (held.trans same)

theorem keepsRevoked_operate {call : SystemCall} (alone : single call = true) :
    KeepsRevoked state { state with
      ledger := { state.ledger with system := step forms hashCode state.ledger.system call } } := by
  have grow : PassesGrow state.ledger.system.registry
      (step forms hashCode state.ledger.system call).registry := single_passes alone
  have same : SameArrivals state.ledger.system.journal
      (step forms hashCode state.ledger.system call).journal := single_arrivals alone
  refine ⟨⟨counted_operate revocable.counted alone, fun worker =>
    (revocable.lawful worker).congr fun _ _ _ found => grow.found found⟩,
    fun pass listed revoked => ⟨⟨pass, ?_, rfl, revoked, rfl⟩, ?_, rfl⟩⟩
  · exact Table.mem_of_find? (grow.found (Table.find?_of_mem listed))
  · have drawn : drawsOf ⟨step forms hashCode state.ledger.system call,
        state.ledger.redemptions⟩ pass.id = drawsOf state.ledger pass.id :=
      drawsOf_single same pass.id
    exact Nat.add_right_cancel drawn

theorem keepsRevoked_next {event : Event n} (unrevoked : spendsUnrevoked state event = true) :
    KeepsRevoked state (next forms hashCode state event) := by
  have counted : Counted (next forms hashCode state event) := counted_next revocable.counted event
  cases event with
  | call worker call =>
    simp only [next] at counted ⊢
    split at counted
    · next begins =>
        rw [if_pos begins]
        refine keepsRevoked_put revocable counted ?_
        cases call <;> trivial
    · next refused =>
        rw [if_neg refused]
        exact .refl revocable
  | step worker =>
    simp only [next]
    unfold State.advance
    split
    · next key work waits =>
        split
        · next free =>
            have held := revocable.lawful worker
            rw [waits] at held
            simp only [next, State.advance, waits, if_pos free] at counted
            exact keepsRevoked_put revocable counted (Work.lawful_of_unwritten held)
        · exact .refl revocable
    · next key work works =>
        dsimp only
        split
        · next enters => exact keepsRevoked_perform revocable works unrevoked enters
        · exact .refl revocable
    · exact .refl revocable
  | fail worker => exact keepsRevoked_put revocable counted trivial
  | operate call =>
    simp only [next]
    split
    · next alone => exact keepsRevoked_operate revocable alone
    · exact .refl revocable

end

theorem revocable_initial (territory : Territory) (time : Moment) :
    Revocable (State.initial (n := n) territory time) :=
  ⟨counted_initial territory time, fun _ => trivial⟩

theorem staysRevoked_run (revocable : Revocable state) {events : List (Event n)}
    (unrevoked : Obeys (next forms hashCode)
      (fun state event => spendsUnrevoked state event = true) state events)
    {pass : AccessPass} (listed : pass ∈ state.ledger.system.registry.passes.rows)
    (revoked : pass.status = .revoked) :
    StaysRevoked state.ledger (run (next forms hashCode) state events).ledger pass := by
  induction events generalizing state pass with
  | nil => exact .refl listed revoked
  | cons event rest ih =>
    obtain ⟨first, later⟩ := (obeys_cons _ _ _ _ _).mp unrevoked
    have keeps : KeepsRevoked state (next forms hashCode state event) := keepsRevoked_next revocable first
    obtain ⟨⟨kept, there, same, still, used⟩, entries, redemptions⟩ := keeps.stays pass listed revoked
    have after := ih keeps.revocable later there still
    rw [run_cons]
    obtain ⟨last, present, own, held, count⟩ := after.revoked
    refine ⟨⟨last, present, own.trans same, held, count.trans used⟩, ?_, ?_⟩
    · rw [← entries, ← same]
      exact after.entries
    · rw [← redemptions, ← same]
      exact after.redemptions

end

/-- Where no ingestion takes an entry from a pass that is revoked by then, a pass that has been
revoked stays revoked, and nobody enters on it any more. -/
theorem revocation_final {n : Nat} (forms : TextForms) (hashCode : String → String)
    (territory : Territory) (time : Moment) (before after : List (Event n))
    (unrevoked : Obeys (next forms hashCode)
      (fun state event => spendsUnrevoked state event = true) (State.initial territory time)
      (before ++ after)) :
    let reached := run (next forms hashCode) (State.initial territory time) before
    let later := run (next forms hashCode) (State.initial territory time) (before ++ after)
    ∀ pass ∈ reached.ledger.system.registry.passes.rows, pass.status = .revoked →
      StaysRevoked reached.ledger later.ledger pass := by
  intro reached later pass listed revoked
  obtain ⟨first, rest⟩ := (obeys_append _ _ _ _ _).mp unrevoked
  have revocable : Revocable reached :=
    run_invariant_of_obeys (next forms hashCode) Revocable (revocable_initial territory time)
      (fun _ _ allowed held => (keepsRevoked_next held allowed).revocable) first
  have same : later = run (next forms hashCode) reached after := run_append _ _ _ _
  rw [same]
  exact staysRevoked_run revocable rest listed revoked

/-! A taxi arrives at the gate while its pass is cancelled. -/

def taxiPassFor (plate : String) : TaxiPassRequest := ⟨4, none, 100, some plate, none, 1⟩

def gateWithPass : List (Event 2) :=
  [.operate (.equip (.createZone "Z1" none none)),
    .operate (.equip (.createController "edge-1" (some 1) none)),
    .operate (.equip (.createGate "G1" 1 .entry (some 1) true)),
    .operate (.equip (.createBarrier "B1" 1 (some 1) true)),
    .operate (.register (.createTaxiPass 7 (taxiPassFor "01A777AA")))]

def taxi : AnprIngestInput where
  controllerId := 1
  eventId := "e-1"
  zoneId := none
  gateId := none
  barrierId := none
  plateNumberOriginal := some "01A777AA"
  direction := .entry
  confidence := some 9000
  capturedAt := 0

def granted : List (Event 2) := .call 0 (.ingestAnpr taxi) :: List.replicate 6 (.step 0)

def spent : List (Event 2) := List.replicate 2 (.step 0)

def cancelled : List (Event 2) := .call 1 (.cancelResidentPass 7 1) :: List.replicate 3 (.step 1)

def taxiRun (events : List (Event 2)) : State 2 :=
  run (next .ascii id) (State.initial ⟨[], [], []⟩ 0) (gateWithPass ++ events)

def cancelledPass : Option AccessPass := (taxiRun cancelled).ledger.system.registry.passes.find? 1

theorem taxi_turned_away :
    cancelledPass.isSome = true ∧ ∀ pass ∈ cancelledPass,
      StaysRevoked (taxiRun cancelled).ledger (taxiRun (cancelled ++ (granted ++ spent))).ledger
        pass := by
  have unrevoked : Obeys (next .ascii id)
      (fun state event => spendsUnrevoked state event = true) (State.initial ⟨[], [], []⟩ 0)
      ((gateWithPass ++ cancelled) ++ (granted ++ spent)) := by
    decide +kernel
  have revoked : ∀ pass ∈ cancelledPass, pass.status = .revoked := by decide +kernel
  refine ⟨by decide +kernel, fun pass found => ?_⟩
  have final := revocation_final .ascii id ⟨[], [], []⟩ 0 (gateWithPass ++ cancelled)
    (granted ++ spent) unrevoked pass (Table.mem_of_find? found) (revoked pass found)
  rw [List.append_assoc] at final
  exact final

/-- The pass that was revoked is used, and the barrier opened. -/
theorem taxi_let_in_on_revoked_pass :
    ((taxiRun (granted ++ cancelled)).ledger.system.registry.passes.rows.map fun pass =>
        (pass.status, pass.usedEntries)) = [(.revoked, 0)] ∧
      ((taxiRun (granted ++ cancelled ++ spent)).ledger.system.registry.passes.rows.map
        fun pass => (pass.status, pass.usedEntries)) = [(.used, 1)] ∧
      (taxiRun (granted ++ cancelled)).ledger.system.journal.commands.rows = [] ∧
      (taxiRun (granted ++ cancelled ++ spent)).ledger.system.journal.commands.rows =
        [⟨1, some 1, 1, 1, 120⟩] := by
  decide +kernel

end InfrasafeBot.AccessControl.Gates
