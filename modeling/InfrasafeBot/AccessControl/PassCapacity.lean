import InfrasafeBot.AccessControl.Arrivals
import InfrasafeBot.AccessControl.GateTransactions
import InfrasafeBot.AccessControl.RegistryFrames

/-! The entries of a pass are counted exactly: there is a decision or a redemption for each. -/

set_option autoImplicit false

namespace InfrasafeBot.AccessControl.Gates

open Library Locks Machine RequestWorkflow

def drawsOn (passId : Nat) (row : AccessDecision) : Bool :=
  row.supersedesDecisionId = none && row.decision = .allow &&
    row.reason = some .temporaryPassAllowed && row.matchedPassId = some passId

def entriesOn (ledger : Ledger) (passId : Nat) : Nat :=
  ledger.system.journal.decisions.rowcount (drawsOn passId)

def redemptionsOf (ledger : Ledger) (passId : Nat) : Nat := ledger.redemptions.countP (·.passId = passId)

def drawsOf (ledger : Ledger) (passId : Nat) : Nat := entriesOn ledger passId + redemptionsOf ledger passId

def Entered (ledger : Ledger) (passId : Nat) : Answer → Prop
  | .ingested data result =>
    data.direction = .entry ∧ result.replayed = false ∧ result.decision = .allow ∧
      result.reason = some .temporaryPassAllowed ∧
      ∃ row ∈ ledger.system.journal.decisions.rows,
        result.decisionId = some row.id ∧ drawsOn passId row = true
  | .redeemed result => result.passId = passId
  | _ => False

def Spends (registry : Registry) (version : AccessPass) : Prop :=
  ∃ stored, registry.passes.find? version.id = some stored ∧
    stored.usedEntries < stored.maxEntries ∧ version = consumed stored

def Sincere (engine : EngineDecision) : Prop :=
  engine.reason = some .temporaryPassAllowed → engine.decision = .allow

def Untaxed (scope : Scope) : Prop := scope.violation ≠ some .temporaryPassAllowed

def Work.Based (registry : Registry) : Work → Prop
  | .searching _ _ scope => Untaxed scope
  | .inserting _ _ scope => Untaxed scope
  | .judging _ _ scope => Untaxed scope
  | .granting data _ => data.direction = .entry
  | .spending data _ engine passId =>
    data.direction = .entry ∧ Sincere engine ∧ taxiPass engine = some passId
  | .recording data _ engine written =>
    Sincere engine ∧ taxiPass engine = written.map (·.id) ∧
      ∀ version, written = some version → data.direction = .entry ∧ Spends registry version
  | .opening _ candidate _ _ written => written.id = candidate.id ∧ Spends registry written
  | .saving written _ =>
    ∃ stored, registry.passes.find? written.id = some stored ∧ written.usedEntries = stored.usedEntries
  | _ => True

def Stage.Based (registry : Registry) : Stage → Prop
  | .waiting _ work => work.written = none ∧ work.Based registry
  | .working _ work => work.Based registry
  | _ => True

/-- Nobody else has written what a transaction has written, and the books are exact. -/
structure Counted {n : Nat} (state : State n) : Prop where
  exclusive : Exclusive state.passIds
  based : ∀ worker, (state.workers worker).Based state.ledger.system.registry
  exact : ∀ pass ∈ state.ledger.system.registry.passes.rows, pass.usedEntries = drawsOf state.ledger pass.id
  known : ∀ passId, (∀ pass ∈ state.ledger.system.registry.passes.rows, pass.id ≠ passId) →
    drawsOf state.ledger passId = 0

theorem counted_initial {n : Nat} (territory : Territory) (time : Moment) :
    Counted (State.initial (n := n) territory time) where
  exclusive := exclusive_of_none fun _ => rfl
  based := fun _ => trivial
  exact := fun _ listed => nomatch listed
  known := fun _ _ => rfl

section

variable {registry changed : Registry} {work : Work} {stage : Stage}

theorem Spends.congr {version : AccessPass} (spends : Spends registry version)
    (kept : ∀ stored, registry.passes.find? version.id = some stored →
      changed.passes.find? version.id = some stored) : Spends changed version := by
  obtain ⟨stored, found, room, spent⟩ := spends
  exact ⟨stored, kept stored found, room, spent⟩

theorem Work.Based.congr (based : work.Based registry)
    (kept : ∀ version, work.written = some version → ∀ stored,
      registry.passes.find? version.id = some stored →
      changed.passes.find? version.id = some stored) : work.Based changed := by
  cases work with
  | recording data normalized engine written =>
    obtain ⟨sincere, own, spends⟩ := based
    refine ⟨sincere, own, fun version same => ⟨(spends version same).1, ?_⟩⟩
    exact (spends version same).2.congr (kept version same)
  | opening request candidate barrierId controllerId written =>
    exact ⟨based.1, based.2.congr (kept written rfl)⟩
  | saving written answer =>
    obtain ⟨stored, found, used⟩ := based
    exact ⟨stored, kept written rfl stored found, used⟩
  | searching | inserting | judging | granting | spending => exact based
  | _ => trivial

theorem Stage.Based.congr (based : stage.Based registry)
    (kept : ∀ version, stage.written = some version → ∀ stored,
      registry.passes.find? version.id = some stored →
      changed.passes.find? version.id = some stored) : stage.Based changed := by
  cases stage with
  | waiting key work =>
    refine ⟨based.1, Work.Based.congr based.2 fun version same => ?_⟩
    rw [based.1] at same
    cases same
  | working key work => exact Work.Based.congr based kept
  | _ => trivial

end

section

variable {system : System} {data : AnprIngestInput} {normalized : Option String}
  {scope : Scope} {engine : EngineDecision} {passId : Nat}

theorem taxiPass_eq_some (granted : taxiPass engine = some passId) :
    engine.decision = .allow ∧ engine.reason = some .temporaryPassAllowed ∧
      engine.matchedPassId = some passId := by
  unfold taxiPass at granted
  split at granted
  · next allowed => exact ⟨allowed.1, allowed.2, granted⟩
  · cases granted

theorem taxiPass_eq_none (other : engine.reason ≠ some .temporaryPassAllowed) : taxiPass engine = none :=
  if_neg fun allowed => other allowed.2

variable {equipment : Equipment} {registry : Registry} {asked : AnprDecisionInput}
  {stored : AccessPass}

theorem decideByZone_untaxed {vehicleId : Nat} {apartmentIds : List Nat} {zoneId : Option Nat}
    {moment : Moment} :
    (decideByZone equipment registry vehicleId apartmentIds zoneId moment).reason ≠
      some .temporaryPassAllowed := by
  unfold decideByZone decideAssigned decideShared
  grind [EngineDecision.of]

theorem decidePermanent_untaxed (decided : decidePermanent equipment registry asked = some engine) :
    engine.reason ≠ some .temporaryPassAllowed := by
  obtain ⟨vehicle, _, rfl⟩ := Option.map_eq_some_iff.mp decided
  dsimp only
  split
  · rintro ⟨⟩
  · split
    · rintro ⟨⟩
    · exact decideByZone_untaxed

theorem authorizeScope_untaxed : Untaxed (authorizeScope equipment data) := by
  unfold Untaxed authorizeScope
  grind

theorem judge_untaxed (untaxed : Untaxed scope)
    (judged : judge system data normalized scope = some engine) :
    engine.reason ≠ some .temporaryPassAllowed := by
  unfold judge at judged
  split at judged
  · next violation violated =>
      cases judged
      intro same
      exact untaxed (violated.trans same)
  · split at judged
    · cases judged
      rintro ⟨⟩
    · split at judged
      · cases judged
        rintro ⟨⟩
      · exact decidePermanent_untaxed judged

theorem judge_entry (unjudged : judge system data normalized scope = none) : data.direction = .entry := by
  unfold judge at unjudged
  split at unjudged
  · cases unjudged
  · split at unjudged
    · cases unjudged
    · next entry => exact entry

theorem decideTaxi_sincere : Sincere (decideTaxi registry asked) := by
  unfold Sincere decideTaxi
  grind [EngineDecision.of]

variable {forms : TextForms} {hashCode : String → String} {ledger : Ledger} {key : Option Nat}
  {work : Work}

def Work.commits : Work → Bool
  | .recording _ _ _ _ => true
  | .opening _ _ _ _ _ => true
  | .saving _ _ => true
  | _ => false

theorem perform_reads (reads : work.commits = false) :
    (perform forms hashCode ledger key work).1 = ledger := by
  cases work with
  | recording | opening | saving => cases reads
  | granting data normalized => rfl
  | _ =>
    simp only [perform]
    grind

theorem taxiPass_spends (fits : hasRoom passId stored = true) :
    stored.id = passId ∧ stored.usedEntries < stored.maxEntries := by
  rw [hasRoom, Bool.and_eq_true] at fits
  exact ⟨of_decide_eq_true fits.1, of_decide_eq_true fits.2⟩

theorem redeemable_spends (fits : redeemable passId stored = true) :
    stored.id = passId ∧ stored.status = .active ∧ stored.usedEntries < stored.maxEntries := by
  rw [redeemable, Bool.and_eq_true, Bool.and_eq_true] at fits
  exact ⟨of_decide_eq_true fits.1.1, of_decide_eq_true fits.1.2, of_decide_eq_true fits.2⟩

theorem spends_consumed (listed : stored ∈ registry.passes.rows)
    (room : stored.usedEntries < stored.maxEntries) :
    Spends registry (consumed stored) := by
  refine ⟨stored, ?_, room, rfl⟩
  rw [consumed_id]
  exact Table.find?_of_mem listed

theorem afterEngine_based (entry : data.direction = .entry) (sincere : Sincere engine) :
    (afterEngine data normalized engine).Based registry := by
  unfold afterEngine
  split
  · next passId granted => exact ⟨entry, sincere, granted⟩
  · next ungranted => exact ⟨sincere, ungranted, fun _ same => nomatch same⟩

theorem patchedPass_keeps {loaded changed : AccessPass} {request : UpdatePassRequest}
    (patched : patchedPass forms loaded stored request = .ok changed) :
    changed.id = stored.id ∧ changed.usedEntries = stored.usedEntries := by
  unfold patchedPass at patched
  split at patched
  · cases patched
  · split at patched
    · cases patched
      exact ⟨rfl, rfl⟩
    · cases patched

theorem perform_based (reads : work.commits = false) (based : work.Based ledger.system.registry) :
    (perform forms hashCode ledger key work).2.Based ledger.system.registry := by
  cases work with
  | scoping data =>
    simp only [perform]
    split
    · trivial
    · exact ⟨rfl, authorizeScope_untaxed⟩
  | searching | inserting =>
    simp only [perform]
    split
    · trivial
    · exact based
  | judging data normalized scope =>
    simp only [perform]
    split
    · next engine judged =>
        have untaxed := judge_untaxed based judged
        exact ⟨fun same => absurd same untaxed, taxiPass_eq_none untaxed, fun _ same => nomatch same⟩
    · next unjudged => exact judge_entry unjudged
  | granting data normalized => exact afterEngine_based based decideTaxi_sincere
  | spending data normalized engine passId =>
    obtain ⟨entry, sincere, granted⟩ := based
    simp only [perform]
    split
    · next stored found =>
        obtain ⟨own, room⟩ := taxiPass_spends (List.find?_some found)
        refine ⟨sincere, ?_, ?_⟩
        · rw [granted, Option.map_some, consumed_id, own]
        · rintro _ ⟨⟩
          exact ⟨entry, spends_consumed (List.mem_of_find?_eq_some found) room⟩
    · exact ⟨(nomatch ·), rfl, fun _ same => nomatch same⟩
  | recording | opening | saving => cases reads
  | seeking request now =>
    simp only [perform]
    split
    · trivial
    · split
      · trivial
      · exact ⟨rfl, trivial⟩
  | burning request candidate barrierId controllerId =>
    simp only [perform]
    split
    · next stored found =>
        obtain ⟨own, _, room⟩ := redeemable_spends (List.find?_some found)
        exact ⟨(consumed_id stored).trans own, spends_consumed (List.mem_of_find?_eq_some found) room⟩
    · trivial
  | cancelling actorUserId passId =>
    simp only [perform]
    split
    · trivial
    · split
      · trivial
      · split <;> trivial
  | revoking passId =>
    simp only [perform]
    split
    · trivial
    · next stored found => exact ⟨stored, Table.find?_of_mem (Table.mem_of_find? found), rfl⟩
  | editing passId request =>
    simp only [perform]
    split <;> trivial
  | patching loaded request =>
    simp only [perform]
    split
    · trivial
    · next stored found =>
        split
        · trivial
        · next changed patched =>
            obtain ⟨own, used⟩ := patchedPass_keeps patched
            refine ⟨stored, ?_, used⟩
            rw [own]
            exact Table.find?_of_mem (Table.mem_of_find? found)

end

/-- A row is put in the place of the one it has been written over, and each entry it has more
is drawn. -/
structure Commits (ledger after : Ledger) (written : Option AccessPass) (drawn : Nat) : Prop where
  passes : after.system.registry.passes =
    written.elim ledger.system.registry.passes ledger.system.registry.passes.put
  based : ∀ version, written = some version →
    ∃ stored, ledger.system.registry.passes.find? version.id = some stored ∧
      version.usedEntries = stored.usedEntries + drawn
  draws : ∀ passId, drawsOf after passId =
    drawsOf ledger passId + if written.map (·.id) = some passId then drawn else 0

section

variable {ledger after : Ledger} {written : Option AccessPass} {drawn : Nat}

section

variable (commits : Commits ledger after written drawn)

include commits

theorem Commits.found {passId : Nat} {stored : AccessPass}
    (found : ledger.system.registry.passes.find? passId = some stored)
    (other : written.map (·.id) ≠ some passId) :
    after.system.registry.passes.find? passId = some stored := by
  rw [commits.passes]
  cases written with
  | none => exact found
  | some version =>
    rw [Option.elim_some, Table.find?_put_of_ne fun same => other (by rw [same]; rfl)]
    exact found

theorem Commits.listed {pass : AccessPass} (listed : pass ∈ after.system.registry.passes.rows) :
    written = some pass ∨
      pass ∈ ledger.system.registry.passes.rows ∧ written.map (·.id) ≠ some pass.id := by
  rw [commits.passes] at listed
  cases written with
  | none => exact .inr ⟨listed, fun same => nomatch same⟩
  | some version =>
    rcases Table.mem_put listed with rfl | ⟨old, other⟩
    · exact .inl rfl
    · exact .inr ⟨old, fun same => other (Option.some.inj same).symm⟩

theorem Commits.exact
    (counts : ∀ pass ∈ ledger.system.registry.passes.rows, pass.usedEntries = drawsOf ledger pass.id)
    :
    ∀ pass ∈ after.system.registry.passes.rows, pass.usedEntries = drawsOf after pass.id := by
  intro pass listed
  rw [commits.draws]
  rcases commits.listed listed with rfl | ⟨old, other⟩
  · obtain ⟨stored, found, used⟩ := commits.based pass rfl
    have own := Table.key_of_find? found
    rw [Option.map_some, if_pos rfl, used, counts stored (Table.mem_of_find? found), own]
  · rw [if_neg other, Nat.add_zero, counts pass old]

theorem Commits.known
    (unknown : ∀ passId, (∀ pass ∈ ledger.system.registry.passes.rows, pass.id ≠ passId) → drawsOf ledger passId = 0)
    (passId : Nat) (missing : ∀ pass ∈ after.system.registry.passes.rows, pass.id ≠ passId) :
    drawsOf after passId = 0 := by
  have other : written.map (·.id) ≠ some passId := by
    intro own
    obtain ⟨version, rfl, same⟩ := Option.map_eq_some_iff.mp own
    obtain ⟨stored, found, _⟩ := commits.based version rfl
    refine missing version ?_ same
    rw [commits.passes, Option.elim_some]
    exact Table.mem_of_find? (Table.find?_put_self found)
  rw [commits.draws, if_neg other, Nat.add_zero]
  refine unknown passId fun pass listed own => ?_
  obtain rfl := own
  exact missing pass
    (Table.mem_of_find? (commits.found (Table.find?_of_mem listed) other)) rfl

end

end

section

variable {forms : TextForms} {hashCode : String → String} {ledger : Ledger} {key : Option Nat}
  {work : Work} {journal : Journal} {time : Moment} {data : AnprIngestInput}
  {engine : EngineDecision}

theorem consumed_used {stored : AccessPass} (room : stored.usedEntries < stored.maxEntries) :
    (consumed stored).usedEntries = stored.usedEntries + 1 := by
  rw [consumed, dif_pos room]

theorem Spends.used {registry : Registry} {version : AccessPass}
    (spends : Spends registry version) :
    ∃ stored, registry.passes.find? version.id = some stored ∧
      version.usedEntries = stored.usedEntries + 1 := by
  obtain ⟨stored, found, room, spent⟩ := spends
  exact ⟨stored, found, by rw [spent, consumed_used room]⟩

theorem verdict_of_allow (allow : engine.decision = .allow) :
    (verdict journal time data engine).decision = .allow := by
  unfold verdict
  rw [if_neg (by rw [allow]; rintro ⟨⟩), allow]

variable {passId : Nat} {normalized : Option String} {system : System} {written : Option AccessPass}

theorem drawsOn_initial (sincere : Sincere engine) {cameraEventId id : Nat} :
    drawsOn passId (initialDecision cameraEventId (verdict journal time data engine).decision
      engine (verdict journal time data engine).finalStatus
      (verdict journal time data engine).reviewDeadlineAt id) = true ↔
      taxiPass engine = some passId := by
  constructor
  · intro draws
    simp only [drawsOn, initialDecision, Bool.and_eq_true] at draws
    have reason : engine.reason = some .temporaryPassAllowed := of_decide_eq_true draws.1.2
    rw [taxiPass, if_pos ⟨sincere reason, reason⟩]
    exact of_decide_eq_true draws.2
  · intro granted
    obtain ⟨allow, reason, matched⟩ := taxiPass_eq_some granted
    simp [drawsOn, initialDecision, reason, matched, verdict_of_allow allow]

theorem commitIngest_draws (sincere : Sincere engine) {system : System}
    {normalized : Option String} {written : Option AccessPass} {passId : Nat} :
    (commitIngest system data normalized engine written).1.journal.decisions.rowcount
        (drawsOn passId) =
      system.journal.decisions.rowcount (drawsOn passId) +
        if taxiPass engine = some passId then 1 else 0 := by
  simp only [commitIngest, recordEvent_decisions, insertInitial, Table.insert, Table.rowcount,
    List.countP_append, List.countP_singleton]
  by_cases granted : taxiPass engine = some passId
  · rw [if_pos granted, if_pos ((drawsOn_initial sincere).mpr granted)]
  · rw [if_neg granted, if_neg fun draws => granted ((drawsOn_initial sincere).mp draws)]

theorem commitIngest_passes :
    (commitIngest system data normalized engine written).1.registry.passes =
      written.elim system.registry.passes system.registry.passes.put := by
  refine (trackPresence_bearers).passes.trans ?_
  cases written <;> rfl

theorem commitIngest_result {system : System} {normalized : Option String}
    {written : Option AccessPass} :
    (commitIngest system data normalized engine written).2.replayed = false ∧
      (commitIngest system data normalized engine written).2.reason = engine.reason ∧
      (commitIngest system data normalized engine written).2.decision =
        (verdict system.journal system.time data engine).decision ∧
      (commitIngest system data normalized engine written).2.decisionId =
        some system.journal.decisions.nextKey := by
  simp only [commitIngest, recordEvent]
  split <;> exact ⟨rfl, rfl, rfl, rfl⟩

theorem commitIngest_entered (sincere : Sincere engine) (entry : data.direction = .entry)
    (granted : taxiPass engine = some passId) {redemptions : List GuestCodeRedeemed} :
    Entered ⟨(commitIngest system data normalized engine written).1, redemptions⟩ passId
      (.ingested data (commitIngest system data normalized engine written).2) := by
  obtain ⟨allow, reason, _⟩ := taxiPass_eq_some granted
  obtain ⟨fresh, answered, decided, numbered⟩ := @commitIngest_result data engine system normalized written
  refine ⟨entry, fresh, decided.trans (verdict_of_allow allow), answered.trans reason,
    initialDecision system.journal.cameraEvents.nextKey
      (verdict system.journal system.time data engine).decision engine
      (verdict system.journal system.time data engine).finalStatus
      (verdict system.journal system.time data engine).reviewDeadlineAt
      system.journal.decisions.nextKey, ?_, numbered, (drawsOn_initial sincere).mpr granted⟩
  simp only [commitIngest, recordEvent_decisions, insertInitial]
  exact (Table.mem_insert (initialDecision_id _ _ _ _ _)).mpr (.inr rfl)

theorem perform_commits (commits : work.commits = true)
    (based : work.Based ledger.system.registry) :
    ∃ drawn answer, Commits ledger (perform forms hashCode ledger key work).1 work.written drawn ∧
      (perform forms hashCode ledger key work).2 = .returning answer ∧
      (drawn = 0 ∨ drawn = 1 ∧ ∀ version, work.written = some version →
        Entered (perform forms hashCode ledger key work).1 version.id answer) := by
  cases work with
  | recording data normalized engine written =>
    obtain ⟨sincere, own, spends⟩ := based
    refine ⟨1, _, ⟨commitIngest_passes, fun version same => (spends version same).2.used, ?_⟩,
      rfl, .inr ⟨rfl, fun version same => ?_⟩⟩
    · intro passId
      have drawn := @commitIngest_draws data engine sincere ledger.system normalized written
        passId
      simp only [perform, drawsOf, entriesOn, redemptionsOf, Work.written, ← own]
      omega
    · have granted : taxiPass engine = some version.id := by
        rw [own]
        exact congrArg (Option.map _) same
      exact commitIngest_entered sincere (spends version same).1 granted
  | opening request candidate barrierId controllerId written =>
    obtain ⟨own, spends⟩ := based
    refine ⟨1, _, ⟨rfl, ?_, ?_⟩, rfl, .inr ⟨rfl, ?_⟩⟩
    · rintro _ ⟨⟩
      exact spends.used
    · intro passId
      have same : (commitRedeem ledger.system request candidate barrierId
          controllerId).1.journal.decisions = ledger.system.journal.decisions :=
        createOpenCommand_decisions
      simp only [perform, commitOpened, drawsOf, entriesOn, redemptionsOf, same,
        List.countP_append, List.countP_singleton, redemption, Work.written, Option.map_some,
        own, Option.some.injEq, decide_eq_true_eq]
      omega
    · rintro _ ⟨⟩
      exact own.symm
  | saving written answer =>
    refine ⟨0, answer, ⟨rfl, ?_, ?_⟩, rfl, .inl rfl⟩
    · rintro _ ⟨⟩
      exact based
    · intro passId
      simp only [perform, drawsOf, entriesOn, redemptionsOf, ite_self, Nat.add_zero]
  | _ => cases commits

end

section

variable {forms : TextForms} {hashCode : String → String} {system : System} {call : SystemCall}

theorem single_passes (alone : single call = true) :
    PassesGrow system.registry (step forms hashCode system call).registry := by
  cases call with
  | register call =>
    simp only [step, register]
    split
    · split
      · next registry called =>
          refine callRegistry_passes ?_ ?_ called
          · rintro passId request rfl
            cases alone
          · rintro actorUserId passId rfl
            cases alone
      · exact .inl rfl
    · exact .inl rfl
  | equip call =>
    simp only [step, equip]
    split <;> exact .inl rfl
  | ingestAnpr | redeemCode => cases alone
  | _ => exact .inl rfl

theorem single_arrivals (alone : single call = true) :
    SameArrivals system.journal (step forms hashCode system call).journal := by
  refine step_arrivals fun data same => ?_
  rw [same] at alone
  cases alone

theorem drawsOf_single {redemptions : List GuestCodeRedeemed} {after : System}
    (same : SameArrivals system.journal after.journal) (passId : Nat) :
    drawsOf ⟨after, redemptions⟩ passId = drawsOf ⟨system, redemptions⟩ passId := by
  obtain ⟨added, rows, later⟩ := same.decisions
  have undrawn : added.countP (drawsOn passId) = 0 := by
    refine List.countP_eq_zero.mpr fun row listed draws => ?_
    simp only [drawsOn, Bool.and_eq_true] at draws
    exact later row listed (of_decide_eq_true draws.1.1.1)
  simp only [drawsOf, entriesOn, redemptionsOf, Table.rowcount, rows, List.countP_append, undrawn,
    Nat.add_zero]

end

section

variable {forms : TextForms} {hashCode : String → String} {n : Nat} {state : State n}
  {worker : Fin n} {stage : Stage} {key : Option Nat} {work : Work}

theorem passIds_update (ledger : Ledger) :
    State.passIds { state.put worker stage with ledger := ledger } =
      Function.update state.passIds worker stage.passId := by
  funext other
  simp only [State.passIds, State.put]
  by_cases own : other = worker
  · rw [own, Function.update_self, Function.update_self]
  · rw [Function.update_of_ne own, Function.update_of_ne own]
    rfl

theorem workers_put (motive : Stage → Prop) (own : motive stage)
    (others : ∀ other, other ≠ worker → motive (state.workers other)) (other : Fin n) :
    motive ((state.put worker stage).workers other) := by
  simp only [State.put]
  by_cases same : other = worker
  · rw [same, Function.update_self]
    exact own
  · rw [Function.update_of_ne same]
    exact others other same

theorem free_of_enters (enters : state.enters worker stage = true) (passId : Nat)
    (own : stage.passId = some passId) : Free state.passIds worker passId := by
  rw [State.enters, Bool.and_eq_true, own] at enters
  exact of_decide_eq_true enters.2

theorem counted_put (counted : Counted state)
    (free : ∀ passId, stage.passId = some passId → Free state.passIds worker passId)
    (based : stage.Based state.ledger.system.registry) : Counted (state.put worker stage) where
  exclusive := by
    have same : (state.put worker stage).passIds =
        Function.update state.passIds worker stage.passId := passIds_update state.ledger
    rw [same]
    exact counted.exclusive.update free
  based := workers_put (·.Based _) based fun other _ => counted.based other
  exact := counted.exact
  known := counted.known

theorem counted_perform (counted : Counted state)
    (own : state.workers worker = .working key work)
    (enters : state.enters worker (perform forms hashCode state.ledger key work).2 = true) :
    Counted { state.put worker (perform forms hashCode state.ledger key work).2 with
      ledger := (perform forms hashCode state.ledger key work).1 } := by
  have based : work.Based state.ledger.system.registry := by
    have held := counted.based worker
    rwa [own] at held
  cases commits : work.commits with
  | false =>
    rw [perform_reads commits]
    exact counted_put counted (free_of_enters enters) (perform_based commits based)
  | true =>
    obtain ⟨drawn, answer, committed, answered, _⟩ :=
      @perform_commits forms hashCode state.ledger key work commits based
    rw [answered]
    have held : state.passIds worker = work.written.map (·.id) := by
      rw [State.passIds, own]
      rfl
    refine ⟨?_, ?_, committed.exact counted.exact, committed.known counted.known⟩
    · rw [passIds_update]
      exact counted.exclusive.update fun _ none => nomatch none
    · refine workers_put (·.Based _) trivial fun other apart =>
        (counted.based other).congr fun version written stored found =>
          committed.found found fun same => apart ?_
      exact counted.exclusive other worker version.id
        (congrArg (Option.map _) written) (held.trans same)

theorem counted_advance (counted : Counted state) : Counted (state.advance forms hashCode worker) := by
  unfold State.advance
  split
  · next key work waits =>
      split
      · have based := counted.based worker
        rw [waits] at based
        refine counted_put counted (fun passId own => ?_) based.2
        rw [Stage.passId, Stage.written, based.1] at own
        cases own
      · exact counted
  · next key work works =>
      dsimp only
      split
      · next enters => exact counted_perform counted works enters
      · exact counted
  · exact counted

theorem counted_operate (counted : Counted state) {call : SystemCall}
    (alone : single call = true) :
    Counted { state with
      ledger := { state.ledger with system := step forms hashCode state.ledger.system call } } := by
  have grow : PassesGrow state.ledger.system.registry
      (step forms hashCode state.ledger.system call).registry := single_passes alone
  have same (passId : Nat) : drawsOf { state.ledger with
      system := step forms hashCode state.ledger.system call } passId =
        drawsOf state.ledger passId := drawsOf_single (single_arrivals alone) passId
  refine ⟨counted.exclusive, fun worker => (counted.based worker).congr
    fun _ _ _ found => grow.found found, fun pass listed => ?_, fun passId missing => ?_⟩
  · rw [same]
    rcases grow.listed listed with old | ⟨unused, fresh⟩
    · exact counted.exact pass old
    · exact unused.trans (counted.known pass.id fresh).symm
  · rw [same]
    refine counted.known passId fun pass listed own => ?_
    exact missing pass (Table.mem_of_find? (grow.found (Table.find?_of_mem listed))) own

theorem counted_next (counted : Counted state) (event : Event n) :
    Counted (next forms hashCode state event) := by
  cases event with
  | call worker call =>
    simp only [next]
    split
    · have begins : (call.start state.ledger.system.time).passId = none ∧
          (call.start state.ledger.system.time).Based state.ledger.system.registry := by
        cases call <;> exact ⟨rfl, trivial⟩
      refine counted_put counted (fun passId own => ?_) begins.2
      rw [begins.1] at own
      cases own
    · exact counted
  | step worker => exact counted_advance counted
  | fail worker => exact counted_put counted (fun _ own => nomatch own) trivial
  | operate call =>
    simp only [next]
    split
    · next alone => exact counted_operate counted alone
    · exact counted

theorem counted_run (territory : Territory) (time : Moment) (events : List (Event n)) :
    Counted (run (next forms hashCode) (State.initial territory time) events) :=
  run_invariant (next forms hashCode) Counted (counted_initial territory time)
    (fun _ event counted => counted_next counted event) events

theorem pass_next (counted : Counted state) (event : Event n) {pass changed : AccessPass}
    (listed : pass ∈ state.ledger.system.registry.passes.rows)
    (present : changed ∈ (next forms hashCode state event).ledger.system.registry.passes.rows)
    (same : changed.id = pass.id) :
    changed.usedEntries = pass.usedEntries ∨
      changed.usedEntries = pass.usedEntries + 1 ∧ ∃ worker answer, event = .step worker ∧
        (next forms hashCode state event).workers worker = .returning answer ∧
        Entered (next forms hashCode state event).ledger pass.id answer := by
  have unchanged : changed ∈ state.ledger.system.registry.passes.rows →
      changed.usedEntries = pass.usedEntries := fun there =>
    congrArg AccessPass.usedEntries (Table.eq_of_key there listed same)
  cases event with
  | call worker call =>
    simp only [next] at present
    split at present <;> exact .inl (unchanged present)
  | fail worker => exact .inl (unchanged present)
  | operate call =>
    simp only [next] at present
    split at present
    · next alone =>
        rcases (single_passes alone).listed present with old | ⟨_, fresh⟩
        · exact .inl (unchanged old)
        · exact absurd same.symm (fresh pass listed)
    · exact .inl (unchanged present)
  | step worker =>
    simp only [next] at present ⊢
    unfold State.advance at present ⊢
    split at present
    · split at present <;> exact .inl (unchanged present)
    · next key work works =>
        dsimp only at present ⊢
        split at present
        · next enters =>
            cases commits : work.commits with
            | false =>
              simp only [perform_reads commits] at present
              exact .inl (unchanged present)
            | true =>
              have based := counted.based worker
              rw [works] at based
              obtain ⟨drawn, answer, committed, answered, draws⟩ :=
                @perform_commits forms hashCode state.ledger key work commits based
              rcases committed.listed present with written | ⟨old, _⟩
              · obtain ⟨stored, found, used⟩ := committed.based changed written
                have own : stored = pass := Table.eq_of_key (Table.mem_of_find? found) listed
                  ((Table.key_of_find? found).trans same)
                rw [own] at used
                rcases draws with rfl | ⟨rfl, entered⟩
                · exact .inl used
                · refine .inr ⟨used, worker, answer, rfl, ?_, ?_⟩
                  · rw [if_pos enters]
                    simp only [State.put, Function.update_self]
                    exact answered
                  · rw [if_pos enters, ← same]
                    exact entered changed written
              · exact .inl (unchanged old)
        · exact .inl (unchanged present)
    · exact .inl (unchanged present)

end

/-- Whatever the order of the statements and wherever they fail, the entries of a pass are its
decisions and its redemptions, and no more than it is good for. A step that changes them
answers an entry on the pass or a redemption of it. -/
theorem pass_capacity_exact {n : Nat} (forms : TextForms) (hashCode : String → String)
    (territory : Territory) (time : Moment) (events : List (Event n)) :
    let state := run (next forms hashCode) (State.initial territory time) events
    (∀ pass ∈ state.ledger.system.registry.passes.rows,
      pass.usedEntries = entriesOn state.ledger pass.id + redemptionsOf state.ledger pass.id ∧
        pass.usedEntries ≤ pass.maxEntries) ∧
    ∀ event, let after := next forms hashCode state event
      ∀ pass ∈ state.ledger.system.registry.passes.rows,
        ∀ changed ∈ after.ledger.system.registry.passes.rows, changed.id = pass.id →
          changed.usedEntries = pass.usedEntries ∨
            changed.usedEntries = pass.usedEntries + 1 ∧ ∃ worker answer,
              event = .step worker ∧ after.workers worker = .returning answer ∧
              Entered after.ledger pass.id answer := by
  intro state
  have counted : Counted state := counted_run territory time events
  refine ⟨fun pass listed => ⟨counted.exact pass listed, pass.limited.2⟩, ?_⟩
  intro event after pass listed changed present same
  exact pass_next counted event listed present same

end InfrasafeBot.AccessControl.Gates
