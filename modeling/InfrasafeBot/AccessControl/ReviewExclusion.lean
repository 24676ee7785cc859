import InfrasafeBot.AccessControl.ReviewSettlement

/-! Manual openings and reviews exclude each other where the equipment does not change: a
transaction that opens a barrier holds the lock of the barrier, and one that receives an event
holds the lock of the first active barrier of its gate. -/

set_option autoImplicit false

namespace InfrasafeBot.AccessControl

open Library Locks Machine RequestWorkflow

def Work.opens : Work → Option Nat
  | .moving _ (.manualOpen barrierId _ _) _ _ => some barrierId
  | .opening request _ _ _ => some request.barrierId
  | _ => none

def Work.opensAlone : Work → Option Nat
  | .opening request _ _ _ => some request.barrierId
  | _ => none

inductive Grows (work : Work) (before : Journal) : Journal → Prop where
  | same : Grows work before before
  | event {data : AnprIngestInput} {normalized : Option String} {engine : EngineDecision}
      {verdict : Verdict} (recording : work = .recording data normalized engine verdict) :
      Grows work before (insertInitial (insertCameraEvent before data normalized)
        before.cameraEvents.nextKey verdict.decision engine verdict.finalStatus
        verdict.reviewDeadlineAt)
  | transition {journal : Journal} {current : AccessDecision} {newStatus : DecisionStatus}
      {newDecision : DecisionType} {operator : Option UserId} {now : Moment}
      (grows : Grows work before journal) (waited : Pending before current)
      (settles : newStatus ≠ .pendingReview) :
      Grows work before (insertTransition journal current newStatus newDecision operator now)
  | command {journal : Journal} {decisionId : Option Nat} {controllerId barrierId : Nat}
      {expiresAt : Moment} (grows : Grows work before journal)
      (alone : decisionId = none → work.opensAlone = some barrierId) :
      Grows work before
        (createOpenCommand journal decisionId controllerId barrierId expiresAt).1
  | opening {journal : Journal} {barrierId commandId : Nat} {decisionId : Option Nat}
      {operatorUserId : UserId} {reason : String} {captured : Option Nat} {createdAt : Moment}
      (grows : Grows work before journal) (opens : work.opens = some barrierId) :
      Grows work before (insertManualOpening journal barrierId commandId decisionId
        operatorUserId reason captured createdAt)

variable {work : Work}

namespace Grows

variable {before after : Journal}

section

variable (grows : Grows work before after)

include grows

theorem decisions {row : AccessDecision} (listed : row ∈ before.decisions.rows)
    : row ∈ after.decisions.rows := by
  induction grows with
  | same => exact listed
  | event recording => exact mem_insertInitial.mpr (.inl listed)
  | transition grows waited settles ih => exact mem_insertTransition.mpr (.inl ih)
  | command grows alone ih =>
    rw [createOpenCommand_decisions]
    exact ih
  | opening grows opens ih => exact ih

theorem pending {row : AccessDecision} (waited : Pending before row) : Pending after row :=
  ⟨grows.decisions waited.listed, waited.pending⟩

theorem cameraEvents {event : CameraEvent} (listed : event ∈ before.cameraEvents.rows)
    : event ∈ after.cameraEvents.rows := by
  induction grows with
  | same => exact listed
  | event recording => exact (Table.mem_insert (cameraEvent_id _ _)).mpr (.inl listed)
  | transition grows waited settles ih | opening grows opens ih => exact ih
  | command grows alone ih =>
    rw [createOpenCommand_cameraEvents]
    exact ih

theorem rooted (rooted : Rooted before) : Rooted after := by
  induction grows with
  | same => exact rooted
  | event recording =>
    apply rooted_insertInitial (rooted_insertCameraEvent rooted)
    · exact ⟨_, (Table.mem_insert (cameraEvent_id _ _)).mpr (.inr rfl), rfl⟩
    · intro row listed same
      obtain ⟨event, present, own⟩ := rooted.received row listed
      have older := Table.lt_nextKey present
      omega
  | transition grows waited settles ih =>
    exact rooted_insertTransition ih (grows.decisions waited.listed) settles
  | command grows alone ih => exact ih.congr createOpenCommand_decisions createOpenCommand_cameraEvents
  | opening grows opens ih => exact ih.congr rfl rfl

theorem newPending {row : AccessDecision} (listed : row ∈ after.decisions.rows)
    (waits : row.status = .pendingReview) :
    row ∈ before.decisions.rows ∨ ∃ data normalized engine verdict,
      work = .recording data normalized engine verdict ∧
        verdict.finalStatus = .pendingReview ∧
        row.cameraEventId = before.cameraEvents.nextKey ∧
        cameraEvent data normalized before.cameraEvents.nextKey ∈ after.cameraEvents.rows := by
  induction grows with
  | same => exact .inl listed
  | event recording =>
    rcases mem_insertInitial.mp listed with old | rfl
    · exact .inl old
    · exact .inr ⟨_, _, _, _, recording, waits, rfl, (Table.mem_insert (cameraEvent_id _ _)).mpr (.inr rfl)⟩
  | transition grows waited settles ih =>
    rcases mem_insertTransition.mp listed with old | rfl
    · exact ih old
    · exact absurd waits settles
  | command grows alone ih =>
    rw [createOpenCommand_decisions] at listed
    rw [createOpenCommand_cameraEvents]
    exact ih listed
  | opening grows opens ih => exact ih listed

theorem newOpening {opening : ManualOpening} (listed : opening ∈ after.manualOpenings.rows) :
    opening ∈ before.manualOpenings.rows ∨ work.opens = some opening.barrierId := by
  induction grows with
  | same | event => exact .inl listed
  | transition grows waited settles ih => exact ih listed
  | command grows alone ih =>
    apply ih
    unfold createOpenCommand at listed
    split at listed <;> exact listed
  | opening grows opens ih =>
    rcases (Table.mem_insert (manualOpening_id _ _ _ _ _ _ _)).mp listed with old | rfl
    · exact ih old
    · exact .inr opens

theorem newCommand {command : BarrierCommand} (listed : command ∈ after.commands.rows)
    (unlinked : command.decisionId = none) :
    command ∈ before.commands.rows ∨ work.opensAlone = some command.barrierId := by
  induction grows with
  | same | event => exact .inl listed
  | transition grows waited settles ih | opening grows opens ih => exact ih listed
  | command grows alone ih =>
    rcases mem_createOpenCommand listed with old | ⟨rfl, _⟩
    · exact ih old
    · exact .inr (alone unlinked)

end

end Grows

variable {now : Moment}

section

variable {equipment : Equipment} {journal : Journal} {time : Moment} {key : Nat}

theorem grows_expireRows {rows : List AccessDecision}
    (waited : ∀ row ∈ rows, Pending journal row) :
    Grows work journal (expireRows journal now rows) := by
  induction rows using List.reverseRecOn with
  | nil => exact .same
  | append_singleton rows last ih =>
    rw [expireRows, List.foldl_append]
    exact .transition (ih fun row listed => waited row (by simp [listed]))
      (waited last (by simp)) (by decide)

theorem grows_commitResolution {request : ResolveRequest} {current : AccessDecision}
    {resolution : Resolution} (waited : Pending journal current) :
    Grows (.moving request resolution current now) journal
      (commitResolution journal time request now current resolution).1 := by
  have moved : Grows (.moving request resolution current now) journal
      (insertTransition journal current resolution.status resolution.decision
        (resolution.operator request.operatorUserId) now) :=
    .transition .same waited resolution.settles
  cases resolution with
  | expire | deny => exact moved
  | manualOpen barrierId controllerId reason => exact .opening (.command moved nofun) rfl

theorem grows_commitEvent {data : AnprIngestInput} {normalized : Option String}
    {engine : EngineDecision} {verdict : Verdict} :
    Grows (.recording data normalized engine verdict) journal
      (commitEvent journal time data normalized engine verdict).1 := by
  unfold commitEvent recordEvent
  dsimp only
  split
  · exact .same
  · split
    · exact .event rfl
    · exact .command (.event rfl) nofun

theorem grows_perform (waited : ∀ row ∈ work.inHand, Pending journal row) :
    Grows work journal (perform equipment journal time key work).1 := by
  cases work with
  | receiving | settling | checking | rechecking =>
    simp only [perform]
    split <;> exact .same
  | deciding | sweeping => exact .same
  | recording data normalized engine verdict => exact grows_commitEvent
  | moving request resolution current started =>
    exact grows_commitResolution (waited current List.mem_cons_self)
  | opening request controllerId started lapsed =>
    exact .opening (.command (grows_expireRows waited) fun _ => rfl) rfl
  | refusing eventId started lapsed => exact grows_expireRows waited
  | expiring current rest count started =>
    exact .transition .same (waited current List.mem_cons_self) (by decide)

end

variable {barrierId : Nat} {other : Work} {changed : Journal} {stage : Stage}

section

variable (equipment : Equipment) (journal : Journal) (time : Moment) (key : Nat)

/-- The barrier of an event is the first active one of its gate; its key comes from both. -/
structure Located (data : AnprIngestInput) : Prop where
  barrier : data.barrierId = data.gateId.bind (firstActiveBarrierForGate equipment)
  keyed : canonicalLockKey data.barrierId data.gateId (some data.controllerId) = some key

/-- A transaction that will open a barrier holds its key. -/
def Work.Keyed : Work → Prop
  | .receiving data _ _ => Located equipment key data
  | .deciding data _ _ => Located equipment key data
  | .recording data _ _ _ => Located equipment key data
  | .settling _ derivedBarrier _ _ => ∀ barrierId, derivedBarrier = some barrierId → key = barrierId
  | .moving _ resolution current _ => Pending journal current ∧
      ∀ barrierId controllerId reason, resolution = .manualOpen barrierId controllerId reason →
        key = barrierId
  | .sweeping request _ now => key = request.barrierId ∧ now ≤ time
  | .checking request _ now lapsed => key = request.barrierId ∧ now ≤ time ∧
      ∀ row ∈ lapsed, Pending journal row ∧ overdue now row = true
  | .opening request _ now lapsed => key = request.barrierId ∧ now ≤ time ∧
      ∀ row ∈ lapsed, Pending journal row
  | .refusing _ _ lapsed => ∀ row ∈ lapsed, Pending journal row
  | .rechecking _ _ _ _ => True
  | .expiring current _ _ _ => Pending journal current

def Stage.Keyed : Stage → Prop
  | .keying request derivedBarrier _ _ => ∀ barrierId, derivedBarrier = some barrierId →
      ∃ event ∈ journal.cameraEvents.rows, event.id = request.eventId ∧
        event.gateId.bind (firstActiveBarrierForGate equipment) = some barrierId
  | .addressing _ now => now ≤ time
  | .waiting key work => work.Keyed equipment journal time key
  | .holding key work => work.Keyed equipment journal time key
  | _ => True

variable {equipment journal time key}

variable {later : Moment}

theorem canonicalLockKey_barrier {gateId : Nat} {other controllerId : Option Nat}
    (first : firstActiveBarrierForGate equipment gateId = some barrierId) :
    canonicalLockKey (some barrierId) other controllerId = some barrierId := by
  obtain ⟨barrier, found, _⟩ := firstActiveBarrier_found first
  have positive := equipment.serial barrier (Table.mem_of_find? found)
  rw [Table.key_of_find? found] at positive
  cases barrierId with
  | zero => exact absurd positive (Nat.lt_irrefl 0)
  | succ number => rfl

theorem Located.key_of_barrier {data : AnprIngestInput} (located : Located equipment key data)
    (own : data.barrierId = some barrierId) : key = barrierId := by
  obtain ⟨gateId, _, first⟩ := Option.bind_eq_some_iff.mp (located.barrier.symm.trans own)
  have keyed := located.keyed
  rw [own, canonicalLockKey_barrier first] at keyed
  exact (Option.some.inj keyed).symm

theorem Work.Keyed.waited (keyed : work.Keyed equipment journal time key) :
    ∀ row ∈ work.inHand, Pending journal row := by
  intro row listed
  cases work with
  | moving request resolution current now =>
    obtain rfl := List.mem_singleton.mp listed
    exact keyed.1
  | checking request controllerId now lapsed => exact (keyed.2.2 row listed).1
  | opening request controllerId now lapsed => exact keyed.2.2 row listed
  | refusing eventId now lapsed => exact keyed row listed
  | expiring current rest count now =>
    obtain rfl := List.mem_singleton.mp listed
    exact keyed
  | _ => cases listed

theorem Work.Keyed.opens (keyed : work.Keyed equipment journal time key)
    (opened : work.opens = some barrierId) : key = barrierId := by
  cases work with
  | moving request resolution current now =>
    cases resolution with
    | manualOpen barrier controllerId reason =>
      cases opened
      exact keyed.2 barrierId controllerId reason rfl
    | expire | deny => cases opened
  | opening request controllerId now lapsed =>
    cases opened
    exact keyed.1
  | _ => cases opened

theorem Work.Keyed.grow (keyed : work.Keyed equipment journal time key)
    (grows : Grows other journal changed) (passed : time ≤ later) :
    work.Keyed equipment changed later key := by
  cases work with
  | receiving | deciding | recording | settling => exact keyed
  | moving request resolution current now => exact ⟨grows.pending keyed.1, keyed.2⟩
  | sweeping request controllerId now => exact ⟨keyed.1, keyed.2.trans passed⟩
  | checking request controllerId now lapsed =>
    exact ⟨keyed.1, keyed.2.1.trans passed, fun row listed =>
      ⟨grows.pending (keyed.2.2 row listed).1, (keyed.2.2 row listed).2⟩⟩
  | opening request controllerId now lapsed =>
    exact ⟨keyed.1, keyed.2.1.trans passed, fun row listed => grows.pending (keyed.2.2 row listed)⟩
  | refusing eventId now lapsed => exact fun row listed => grows.pending (keyed row listed)
  | rechecking decisionId rest count now => trivial
  | expiring current rest count now => exact grows.pending keyed

theorem Stage.Keyed.grow (keyed : stage.Keyed equipment journal time)
    (grows : Grows other journal changed) (passed : time ≤ later) :
    stage.Keyed equipment changed later := by
  cases stage with
  | keying request derivedBarrier controllerId now =>
    intro barrierId derived
    obtain ⟨event, listed, rest⟩ := keyed barrierId derived
    exact ⟨event, grows.cameraEvents listed, rest⟩
  | addressing request now => exact Int.le_trans keyed passed
  | waiting | holding => exact Work.Keyed.grow keyed grows passed
  | _ => trivial

theorem authorizeScope_barrier (data : AnprIngestInput) :
    (authorizeScope equipment data).barrierId =
      (authorizeScope equipment data).gateId.bind (firstActiveBarrierForGate equipment) := by
  unfold authorizeScope
  dsimp only
  split
  · rfl
  · split
    · split <;> rfl
    · rfl

theorem nextRow_keyed (count : Nat) (now : Moment) (rest : List (Nat × Nat)) :
    (nextRow count now rest).Keyed equipment journal time := by
  cases rest with
  | nil | cons => trivial

theorem prepare_keyed (keyed : stage.Keyed equipment journal time) :
    (prepare equipment journal stage).Keyed equipment journal time := by
  cases stage with
  | scoping data normalized engine =>
    simp only [prepare]
    split
    · trivial
    · next key found => exact ⟨authorizeScope_barrier data, found⟩
  | locating request now =>
    intro barrierId derived
    simp only [barrierAndControllerForEvent, barrierAndControllerForGate] at derived
    split at derived
    · cases derived
    · next other found =>
        obtain ⟨gateId, own, first⟩ := Option.bind_eq_some_iff.mp found
        obtain ⟨event, present, gate⟩ := Option.bind_eq_some_iff.mp own
        cases derived
        refine ⟨event, Table.mem_of_find? present, Table.key_of_find? present, ?_⟩
        rw [gate]
        exact first
  | keying request derivedBarrier controllerId now =>
    simp only [prepare]
    split
    · trivial
    · next key found =>
        intro barrierId derived
        obtain ⟨event, listed, own, first⟩ := keyed barrierId derived
        have present : journal.cameraEvents.find? request.eventId = some event :=
          own ▸ Table.find?_of_mem listed
        obtain ⟨gateId, gate, active⟩ := Option.bind_eq_some_iff.mp first
        rw [eventLockKey, present, Option.bind_some, lockKeyForEvent, first,
          canonicalLockKey_barrier active] at found
        exact (Option.some.inj found).symm
  | addressing request now =>
    simp only [prepare]
    split
    · split
      · trivial
      · exact ⟨rfl, keyed⟩
    · trivial
  | collecting now => exact nextRow_keyed 0 now _
  | _ => exact keyed

theorem settle_opens {request : ResolveRequest} {derivedBarrier controller : Option Nat}
    {now : Moment} {current : AccessDecision} {controllerId : Nat} {reason : String}
    (moving : settle journal request derivedBarrier controller now =
      .inr (.manualOpen barrierId controllerId reason, current)) :
    derivedBarrier = some barrierId := by
  unfold settle settlePending at moving
  grind

theorem perform_keyed (keyed : work.Keyed equipment journal time key) :
    (perform equipment journal time key work).2.Keyed equipment
      (perform equipment journal time key work).1 time := by
  cases work with
  | receiving data normalized engine =>
    simp only [perform]
    split
    · trivial
    · exact keyed
  | deciding data normalized engine => exact keyed
  | recording | moving | opening | refusing => trivial
  | settling request derivedBarrier controllerId now =>
    simp only [perform]
    split
    · trivial
    · next resolution current moving =>
        obtain ⟨latest, waits⟩ := settle_moving moving
        refine ⟨⟨(latest_mem latest).1, waits⟩, ?_⟩
        rintro barrierId controller reason rfl
        exact keyed barrierId (settle_opens moving)
  | sweeping request controllerId now =>
    refine ⟨keyed.1, keyed.2, fun row listed => ?_⟩
    obtain ⟨stored, fits⟩ := List.mem_filter.mp listed
    simp only [currentPending, Bool.and_eq_true, decide_eq_true_eq] at fits
    exact ⟨⟨stored, fits.1.2.1⟩, fits.2⟩
  | checking request controllerId now lapsed =>
    simp only [perform]
    split
    · exact fun row listed => (keyed.2.2 row listed).1
    · exact ⟨keyed.1, keyed.2.1, fun row listed => (keyed.2.2 row listed).1⟩
  | rechecking decisionId rest count now =>
    simp only [perform]
    split
    · next current found =>
        obtain ⟨present, fits⟩ := Option.filter_eq_some_iff.mp found
        rw [Bool.and_eq_true] at fits
        exact ⟨Table.mem_of_find? present, of_decide_eq_true fits.1⟩
    · exact nextRow_keyed count now rest
  | expiring current rest count now =>
    simp only [perform]
    exact nextRow_keyed (count + 1) now rest

end

section

def FirstOfGate (equipment : Equipment) (barrierId : Nat) : Prop :=
  ((equipment.barriers.find? barrierId).bind fun barrier =>
    firstActiveBarrierForGate equipment barrier.gateId) = some barrierId

instance (equipment : Equipment) (barrierId : Nat) : Decidable (FirstOfGate equipment barrierId) :=
  inferInstanceAs (Decidable (_ = some barrierId))

/-- Every review that waits at the gate of the barrier is overdue. -/
def Clear (equipment : Equipment) (journal : Journal) (barrierId : Nat) (now : Moment) : Prop :=
  ∀ row ∈ journal.decisions.rows, atBarrier journal equipment barrierId row = true →
    currentPending journal row = true → overdue now row = true

/-- What a transaction has checked and relies on until it commits. -/
def Work.Shielded (equipment : Equipment) (journal : Journal) : Work → Prop
  | .recording data _ _ verdict => verdict.finalStatus = .pendingReview →
      ∀ barrierId, data.barrierId = some barrierId →
        recentOpenExists journal barrierId data.capturedAt = false
  | .opening request _ now _ => FirstOfGate equipment request.barrierId →
      Clear equipment journal request.barrierId now
  | _ => True

def Stage.Shielded (equipment : Equipment) (journal : Journal) : Stage → Prop
  | .waiting _ work => work.fresh
  | .holding _ work => work.Shielded equipment journal
  | _ => True

variable {equipment : Equipment} {journal : Journal} {time : Moment} {key otherKey : Nat}

variable {row : AccessDecision} {lapsed : List AccessDecision}

theorem currentPending_before (grows : Grows other journal changed)
    (listed : row ∈ journal.decisions.rows) (waiting : currentPending changed row = true) :
    currentPending journal row = true := by
  rw [currentPending, Bool.and_eq_true] at waiting ⊢
  refine ⟨waiting.1, decide_eq_true ?_⟩
  have latest : latestForEvent changed row.cameraEventId = some row := of_decide_eq_true waiting.2
  cases found : latestForEvent journal row.cameraEventId with
  | none =>
    have none := List.argmax_eq_none.mp found
    have member : row ∈ journal.decisions.rows.filter
        (·.cameraEventId = row.cameraEventId) := List.mem_filter.mpr ⟨listed, by simp⟩
    rw [none] at member
    cases member
  | some current =>
    obtain ⟨present, own⟩ := latest_mem found
    have above := le_latest found listed rfl
    have below := le_latest latest (grows.decisions present) own
    rw [journal.decisions.eq_of_key present listed (Nat.le_antisymm below above)]

theorem atBarrier_before (grows : Grows other journal changed) (rooted : Rooted journal)
    (listed : row ∈ journal.decisions.rows)
    (there : atBarrier changed equipment barrierId row = true) :
    atBarrier journal equipment barrierId row = true := by
  obtain ⟨event, present, own⟩ := rooted.received row listed
  have before : journal.cameraEvents.find? row.cameraEventId = some event :=
    own ▸ Table.find?_of_mem present
  have after : changed.cameraEvents.find? row.cameraEventId = some event :=
    own ▸ Table.find?_of_mem (grows.cameraEvents present)
  unfold atBarrier at there ⊢
  rw [before]
  rwa [after] at there

theorem located_at_barrier {data : AnprIngestInput} {normalized : Option String}
    (located : Located equipment key data) (first : FirstOfGate equipment barrierId)
    (listed : cameraEvent data normalized row.cameraEventId ∈ journal.cameraEvents.rows)
    (there : atBarrier journal equipment barrierId row = true) : key = barrierId := by
  have found : journal.cameraEvents.find? row.cameraEventId =
      some (cameraEvent data normalized row.cameraEventId) := Table.find?_of_mem listed
  obtain ⟨barrier, present, near⟩ := (Option.any_eq_true _ _).mp there
  rw [found, Option.any_some] at near
  have gate : data.gateId = some barrier.gateId := of_decide_eq_true near
  rw [FirstOfGate, present, Option.bind_some] at first
  apply located.key_of_barrier
  rw [located.barrier, gate]
  exact first

theorem Work.Shielded.grow (shielded : work.Shielded equipment journal)
    (keyed : work.Keyed equipment journal time key)
    (otherKeyed : other.Keyed equipment journal time otherKey) (apart : otherKey ≠ key)
    (rooted : Rooted journal) (grows : Grows other journal changed) :
    work.Shielded equipment changed := by
  cases work with
  | recording data normalized engine verdict =>
    intro waits barrierId own
    have before := shielded waits barrierId own
    rw [recentOpenExists, List.any_eq_false] at before ⊢
    intro opening listed
    rcases grows.newOpening listed with old | opens
    · exact before opening old
    · have different : opening.barrierId ≠ barrierId := by
        intro same
        rw [← otherKeyed.opens opens, ← keyed.key_of_barrier own] at same
        exact apart same
      simp [different]
  | opening request controllerId now lapsed =>
    intro first row listed there waiting
    have waits : row.status = .pendingReview := by
      rw [currentPending, Bool.and_eq_true] at waiting
      exact of_decide_eq_true waiting.1
    rcases grows.newPending listed waits with old | ⟨data, normalized, engine, verdict, recording,
      _, numbered, inserted⟩
    · exact shielded first row old (atBarrier_before grows rooted old there)
        (currentPending_before grows old waiting)
    · subst recording
      rw [← numbered] at inserted
      have same := located_at_barrier otherKeyed first inserted there
      exact absurd (same.trans keyed.1.symm) apart
  | _ => trivial

theorem expireRows_cameraEvents (now : Moment) (rows : List AccessDecision) (journal : Journal) :
    (expireRows journal now rows).cameraEvents = journal.cameraEvents := by
  induction rows generalizing journal with
  | nil => rfl
  | cons current rest ih => exact ih (expireRow now journal current)

theorem mem_expireRows {rows : List AccessDecision}
    (listed : row ∈ (expireRows journal now rows).decisions.rows) :
    row ∈ journal.decisions.rows ∨
      ∃ old ∈ rows, row.cameraEventId = old.cameraEventId := by
  induction rows generalizing journal with
  | nil => exact .inl listed
  | cons current rest ih =>
    rcases ih listed with stored | ⟨old, member, same⟩
    · rcases mem_insertTransition.mp stored with before | rfl
      · exact .inl before
      · exact .inr ⟨current, List.mem_cons_self, rfl⟩
    · exact .inr ⟨old, List.mem_cons_of_mem _ member, same⟩

theorem currentPending_expireRows (rooted : Rooted journal)
    (waited : ∀ old ∈ lapsed, Pending journal old ∧ overdue now old = true)
    (listed : row ∈ journal.decisions.rows) (waiting : currentPending journal row = true)
    (early : overdue now row ≠ true) :
    currentPending (expireRows journal now lapsed) row = true := by
  rw [currentPending, Bool.and_eq_true] at waiting ⊢
  have waits : row.status = .pendingReview := of_decide_eq_true waiting.1
  have latest : latestForEvent journal row.cameraEventId = some row := of_decide_eq_true waiting.2
  have swept : Grows (.refusing 0 now lapsed) journal (expireRows journal now lapsed) :=
    grows_expireRows fun old member => (waited old member).1
  have stays := swept.decisions listed
  refine ⟨waiting.1, decide_eq_true ?_⟩
  cases found : latestForEvent (expireRows journal now lapsed) row.cameraEventId with
  | none =>
    have none := List.argmax_eq_none.mp found
    have member : row ∈ (expireRows journal now lapsed).decisions.rows.filter
        (·.cameraEventId = row.cameraEventId) := List.mem_filter.mpr ⟨stays, by simp⟩
    rw [none] at member
    cases member
  | some current =>
    obtain ⟨present, own⟩ := latest_mem found
    rcases mem_expireRows present with before | ⟨old, member, same⟩
    · have above := le_latest found stays rfl
      have below := le_latest latest before own
      rw [journal.decisions.eq_of_key before listed (Nat.le_antisymm below above)]
    · obtain ⟨oldWaited, late⟩ := waited old member
      have one := rooted.pendingOnce oldWaited ⟨listed, waits⟩ (same.symm.trans own)
      exact absurd (one ▸ late) early

theorem clear_of_checked (rooted : Rooted journal)
    (waited : ∀ row ∈ lapsed, Pending journal row ∧ overdue now row = true)
    (checked : activePendingEventForBarrier (expireRows journal now lapsed) equipment barrierId
      now = none) : Clear equipment journal barrierId now := by
  intro row listed there waiting
  by_contra early
  have swept : Grows (.refusing 0 now lapsed) journal (expireRows journal now lapsed) :=
    grows_expireRows fun row member => (waited row member).1
  have stays := currentPending_expireRows rooted waited listed waiting early
  have near : atBarrier (expireRows journal now lapsed) equipment barrierId row = true := by
    rw [atBarrier, expireRows_cameraEvents]
    exact there
  have none := List.argmax_eq_none.mp (Option.map_eq_none_iff.mp checked)
  have member : row ∈ (expireRows journal now lapsed).decisions.rows.filter fun row =>
      atBarrier (expireRows journal now lapsed) equipment barrierId row &&
        currentPending (expireRows journal now lapsed) row && !overdue now row :=
    List.mem_filter.mpr ⟨swept.decisions listed, by simp [near, stays, early]⟩
  rw [none] at member
  cases member

theorem nextRow_shielded (count : Nat) (now : Moment) (rest : List (Nat × Nat)) :
    (nextRow count now rest).Shielded equipment journal := by
  cases rest with
  | nil | cons => trivial

theorem prepare_shielded {stage : Stage} (outside : ∀ key work, stage ≠ .holding key work)
    (shielded : stage.Shielded equipment journal) :
    (prepare equipment journal stage).Shielded equipment journal := by
  cases stage with
  | scoping | keying =>
    simp only [prepare]
    split <;> trivial
  | addressing request now =>
    simp only [prepare]
    split
    · split <;> trivial
    · trivial
  | collecting now => exact nextRow_shielded 0 now _
  | holding key work => exact absurd rfl (outside key work)
  | _ => exact shielded

theorem Work.fresh.shielded {work : Work} (fresh : work.fresh) : work.Shielded equipment journal := by
  cases work with
  | recording | opening => exact fresh.elim
  | _ => trivial

theorem perform_shielded (keyed : work.Keyed equipment journal time key)
    (rooted : Rooted journal) :
    (perform equipment journal time key work).2.Shielded equipment
      (perform equipment journal time key work).1 := by
  cases work with
  | receiving | settling =>
    simp only [perform]
    split <;> trivial
  | deciding data normalized engine =>
    intro waits barrierId own
    simp only [perform, verdict] at waits ⊢
    split at waits
    · split at waits
      · cases waits
      · next unopened =>
          rw [own, Option.any_some] at unopened
          exact Bool.not_eq_true _ ▸ unopened
    · next decided =>
        rw [engine.proposed] at waits
        cases proposal : engine.decision with
        | allow | deny => simp [proposal, DecisionType.candidate] at waits
        | manualReview => exact absurd proposal decided
  | recording | moving | sweeping | opening | refusing => trivial
  | checking request controllerId now lapsed =>
    simp only [perform]
    split
    · trivial
    · next checked => exact fun _ => clear_of_checked rooted keyed.2.2 checked
  | rechecking decisionId rest count now =>
    simp only [perform]
    split
    · trivial
    · exact nextRow_shielded count now rest
  | expiring current rest count now =>
    simp only [perform]
    exact nextRow_shielded (count + 1) now rest

end

def Event.operates {n : Nat} : Event n → Prop
  | .equip _ _ => False
  | _ => True

instance {n : Nat} (event : Event n) : Decidable event.operates :=
  match event with
  | .equip _ _ => isFalse id
  | .call _ _ => isTrue trivial
  | .step _ => isTrue trivial
  | .crash _ => isTrue trivial
  | .tick _ => isTrue trivial

structure Excluding {n : Nat} (equipment : Equipment) (store : Store n) : Prop where
  layout : store.equipment = equipment
  exclusive : Exclusive store.held
  rooted : Rooted store.journal
  keyed : ∀ worker, (store.workers worker).Keyed equipment store.journal store.time
  shielded : ∀ worker, (store.workers worker).Shielded equipment store.journal

theorem excluding_initial {n : Nat} (equipment : Equipment) (time : Moment) :
    Excluding equipment (Store.initial (n := n) equipment time) :=
  ⟨rfl, exclusive_of_none fun _ => rfl, rooted_empty, fun _ => trivial, fun _ => trivial⟩

section

variable {n : Nat} {equipment : Equipment} {store : Store n} {worker : Fin n}

variable {key : Nat} {event : Event n}

section

variable (excluding : Excluding equipment store)

include excluding

theorem Excluding.put (locks : ∀ key, stage.heldKey = some key → Free store.held worker key)
    (keyed : stage.Keyed equipment store.journal store.time)
    (shielded : stage.Shielded equipment store.journal) :
    Excluding equipment (store.put worker stage) where
  layout := excluding.layout
  exclusive := by
    have moved := excluding.exclusive.update locks
    rwa [← held_move store worker stage store.journal] at moved
  rooted := excluding.rooted
  keyed := by
    intro other
    by_cases own : other = worker
    · simpa only [Store.put, own, Function.update_self] using keyed
    · simpa only [Store.put, Function.update_of_ne own] using excluding.keyed other
  shielded := by
    intro other
    by_cases own : other = worker
    · simpa only [Store.put, own, Function.update_self] using shielded
    · simpa only [Store.put, Function.update_of_ne own] using excluding.shielded other

theorem Excluding.others (stage : store.workers worker = .holding key work) {changed : Journal}
    (grows : Grows work store.journal changed) {other : Fin n} (different : other ≠ worker) :
    (store.workers other).Shielded equipment changed := by
  have own := excluding.keyed worker
  have keyed := excluding.keyed other
  have shielded := excluding.shielded other
  rw [stage] at own
  cases theirs : store.workers other with
  | holding otherKey otherWork =>
    rw [theirs] at keyed shielded
    apply Work.Shielded.grow shielded keyed own _ excluding.rooted grows
    rintro rfl
    exact different (excluding.exclusive other worker key (by simp [Store.held, theirs,
      Stage.heldKey]) (by simp [Store.held, stage, Stage.heldKey]))
  | waiting otherKey otherWork =>
    rw [theirs] at shielded
    exact shielded
  | _ => trivial

theorem excluding_perform (stage : store.workers worker = .holding key work) :
    Excluding equipment { store.put worker
        (perform store.equipment store.journal store.time key work).2 with
      journal := (perform store.equipment store.journal store.time key work).1 } := by
  rw [excluding.layout]
  have keyed := excluding.keyed worker
  rw [stage] at keyed
  have grows : Grows work store.journal
      (perform equipment store.journal store.time key work).1 :=
    grows_perform (Work.Keyed.waited keyed)
  have own : store.held worker = some key := by rw [Store.held, stage, Stage.heldKey]
  refine ⟨excluding.layout, ?_, grows.rooted excluding.rooted, ?_, ?_⟩
  · rw [held_move]
    apply excluding.exclusive.keep
    intro held same
    rw [perform_locked same]
    exact own
  · intro other
    by_cases same : other = worker
    · simpa only [Store.put, same, Function.update_self] using perform_keyed keyed
    · simpa only [Store.put, Function.update_of_ne same] using
        (excluding.keyed other).grow grows (Int.le_refl _)
  · intro other
    by_cases same : other = worker
    · simpa only [Store.put, same, Function.update_self] using
        perform_shielded keyed excluding.rooted
    · simpa only [Store.put, Function.update_of_ne same] using
        excluding.others stage grows same

theorem Excluding.put_unlocked (unlocked : stage.heldKey = none)
    (keyed : stage.Keyed equipment store.journal store.time)
    (shielded : stage.Shielded equipment store.journal) :
    Excluding equipment (store.put worker stage) := by
  apply excluding.put _ keyed shielded
  intro key held
  rw [unlocked] at held
  cases held

theorem excluding_next (operates : event.operates) :
    Excluding equipment (next store event) := by
  cases event with
  | call worker call =>
    simp only [next]
    split
    · cases call with
      | ingestAnpr | resolveEvent | expireDueReviews => exact excluding.put_unlocked rfl trivial trivial
      | manualOpenBarrier request => exact excluding.put_unlocked rfl (Int.le_refl _) trivial
    · exact excluding
  | step worker =>
    have keyed := excluding.keyed worker
    have shielded := excluding.shielded worker
    simp only [next, Store.advance]
    split
    · next key work stage =>
        rw [stage] at keyed shielded
        split
        · next free =>
            have fresh : work.fresh := shielded
            apply excluding.put
            · intro held same
              exact Option.some.inj same ▸ free
            · exact keyed
            · exact Work.fresh.shielded fresh
        · exact excluding
    · next key work stage => exact excluding_perform excluding stage
    · next outside =>
        have plain : ∀ key work, store.workers worker ≠ .holding key work := outside
        rw [excluding.layout]
        obtain ⟨unlocked, _⟩ := prepare_unlocked equipment store.journal plain
        exact excluding.put_unlocked unlocked (prepare_keyed keyed)
          (prepare_shielded plain shielded)
  | crash worker => exact excluding.put_unlocked rfl trivial trivial
  | tick elapsed =>
    have unwritten : Grows (.refusing 0 0 []) store.journal store.journal := .same
    have passed : store.time ≤ store.time + elapsed :=
      Int.le_add_of_nonneg_right (Int.natCast_nonneg elapsed)
    exact ⟨excluding.layout, excluding.exclusive, excluding.rooted, fun other =>
      (excluding.keyed other).grow unwritten passed, excluding.shielded⟩
  | equip barrierId patch => exact operates.elim

end

theorem journal_next (store : Store n) (event : Event n) :
    (next store event).journal = store.journal ∨
      ∃ worker key work, store.workers worker = .holding key work ∧
        (next store event).journal =
          (perform store.equipment store.journal store.time key work).1 := by
  cases event with
  | call | equip =>
    left
    simp only [next]
    split <;> rfl
  | step worker =>
    simp only [next, Store.advance]
    split
    · left
      split <;> rfl
    · next key work stage => exact .inr ⟨worker, key, work, stage, rfl⟩
    · exact .inl rfl
  | crash | tick => exact .inl rfl

def OpensAlone (before after : Journal) (barrierId : Nat) : Prop :=
  ∃ command ∈ after.commands.rows, command ∉ before.commands.rows ∧
    command.decisionId = none ∧ command.barrierId = barrierId

def StartsReview (before after : Journal) (event : CameraEvent) : Prop :=
  event ∈ after.cameraEvents.rows ∧ ∃ row ∈ after.decisions.rows, row ∉ before.decisions.rows ∧
    row.status = .pendingReview ∧ row.cameraEventId = event.id

theorem overdue_later {later : Moment} {row : AccessDecision} (late : overdue now row = true)
    (passed : now ≤ later) : overdue later row = true := by
  obtain ⟨deadline, own, before⟩ := (Option.any_eq_true _ _).mp late
  exact (Option.any_eq_true _ _).mpr
    ⟨deadline, own, decide_eq_true (Int.lt_of_lt_of_le (of_decide_eq_true before) passed)⟩

theorem Clear.none_active {journal : Journal} {time : Moment}
    (clear : Clear equipment journal barrierId now) (passed : now ≤ time) :
    activePendingEventForBarrier journal equipment barrierId time = none := by
  apply Option.map_eq_none_iff.mpr
  apply List.argmax_eq_none.mpr
  apply List.filter_eq_nil_iff.mpr
  intro row listed selected
  rw [Bool.and_eq_true, Bool.and_eq_true] at selected
  have late := overdue_later (clear row listed selected.1.1 selected.1.2) passed
  rw [late] at selected
  simp at selected

theorem Excluding.opens_clear (excluding : Excluding equipment store)
    (first : FirstOfGate equipment barrierId)
    (opens : OpensAlone store.journal (next store event).journal barrierId) :
    activePendingEventForBarrier store.journal equipment barrierId store.time = none := by
  obtain ⟨command, listed, fresh, unlinked, own⟩ := opens
  rcases journal_next store event with same | ⟨worker, key, work, stage, written⟩
  · rw [same] at listed
    exact absurd listed fresh
  · have keyed := excluding.keyed worker
    have shielded := excluding.shielded worker
    rw [stage] at keyed shielded
    rw [written] at listed
    have grows : Grows work store.journal
        (perform store.equipment store.journal store.time key work).1 :=
      grows_perform (Work.Keyed.waited keyed)
    rcases grows.newCommand listed unlinked with old | alone
    · exact absurd old fresh
    · cases work with
      | opening request controllerId now lapsed =>
        have named : request.barrierId = barrierId := (Option.some.inj alone).trans own
        have clear : Clear equipment store.journal request.barrierId now := shielded (named ▸ first)
        exact named ▸ clear.none_active keyed.2.1
      | _ => cases alone

theorem Excluding.starts_unopened (excluding : Excluding equipment store) {received : CameraEvent}
    (starts : StartsReview store.journal (next store event).journal received)
    (located : received.gateId.bind (firstActiveBarrierForGate equipment) = some barrierId) :
    recentOpenExists store.journal barrierId received.capturedAt = false := by
  obtain ⟨present, row, listed, fresh, waits, numbered⟩ := starts
  rcases journal_next store event with same | ⟨worker, key, work, stage, written⟩
  · rw [same] at listed
    exact absurd listed fresh
  · have keyed := excluding.keyed worker
    have shielded := excluding.shielded worker
    rw [stage] at keyed shielded
    rw [written] at listed present
    have grows : Grows work store.journal
        (perform store.equipment store.journal store.time key work).1 :=
      grows_perform (Work.Keyed.waited keyed)
    rcases grows.newPending listed waits with old | ⟨data, normalized, engine, verdict, recording,
      pending, own, inserted⟩
    · exact absurd old fresh
    · subst recording
      obtain rfl : received = cameraEvent data normalized store.journal.cameraEvents.nextKey :=
        Table.eq_of_key present inserted (numbered.symm.trans own)
      have barrier : data.barrierId = some barrierId := (Located.barrier keyed).trans located
      exact shielded pending barrierId barrier

end

/-- Over every run that leaves the equipment alone: a barrier that its gate resolves to is never
opened without a review while one waits at the gate, and no review begins where the barrier has
been opened by hand since the event. -/
theorem standalone_opening_excludes_review {n : Nat} (equipment : Equipment) (time : Moment)
    (events : List (Event n)) (operates : ∀ event ∈ events, event.operates) :
    ∀ taken ∈ trace next (Store.initial equipment time) events,
      (∀ barrierId, FirstOfGate equipment barrierId →
        OpensAlone taken.1.journal (next taken.1 taken.2).journal barrierId →
        activePendingEventForBarrier taken.1.journal equipment barrierId taken.1.time = none) ∧
      ∀ received, StartsReview taken.1.journal (next taken.1 taken.2).journal received →
        ∀ barrierId, received.gateId.bind (firstActiveBarrierForGate equipment) = some barrierId →
          recentOpenExists taken.1.journal barrierId received.capturedAt = false := by
  have obeyed : Obeys next (fun _ event => event.operates)
      (Store.initial (n := n) equipment time) events := by
    intro taken listed
    exact operates taken.2 (mem_of_mem_trace next listed)
  have preserved : ∀ (store : Store n) (event : Event n), event.operates →
      Excluding equipment store → Excluding equipment (next store event) :=
    fun _ _ operates excluding => excluding_next excluding operates
  intro taken listed
  have reached := trace_invariant_of_obeys next (Excluding equipment)
    (excluding_initial equipment time) preserved obeyed taken listed
  refine ⟨fun barrierId first opens => ?_, fun received starts barrierId located => ?_⟩
  · exact reached.opens_clear first opens
  · exact reached.starts_unopened starts located

/-! Gate 5 has two active barriers. While the second one is being opened by hand, a disputed
car is received at the gate under the key of the first one. -/

def gateOfTwo : Equipment where
  zones := gateFive.zones
  controllers := gateFive.controllers
  gates := gateFive.gates
  barriers := ⟨[⟨1, "B1", 5, some 1, true⟩, ⟨2, "B2", 5, some 1, true⟩], by decide⟩
  serial := by decide

def openChecked (barrierId : Nat) : List (Event 2) :=
  .call 0 (.manualOpenBarrier ⟨barrierId, 7, "ambulance"⟩) :: List.replicate 4 (.step 0)

def receiveBeside : List (Event 2) :=
  .call 1 (.ingestAnpr disputedEntry (some "01A777AA") lowConfidenceReview) ::
    List.replicate 5 (.step 1)

def openingRace : Store 2 := run next (Store.initial gateOfTwo 0) (openChecked 2 ++ receiveBeside)

/-- With one barrier the car waits for the lock, and the opening meets no review. -/
theorem standalone_opening_excludes_waiting_car :
    activePendingEventForBarrier
      (run next (Store.initial gateFive 0) (openChecked 1 ++ receiveBeside)).journal gateFive 1
      (run next (Store.initial gateFive 0) (openChecked 1 ++ receiveBeside)).time = none := by
  have operates : ∀ event ∈ openChecked 1 ++ receiveBeside ++ [.step 0], event.operates := by
    decide
  have last : (run next (Store.initial gateFive 0) (openChecked 1 ++ receiveBeside),
      Event.step 0) ∈ trace next (Store.initial gateFive 0)
        (openChecked 1 ++ receiveBeside ++ [.step 0]) := by
    rw [trace_concat]
    exact List.mem_append_right _ (List.mem_singleton.mpr rfl)
  apply (standalone_opening_excludes_review gateFive 0 _ operates _ last).1 1 (by decide)
  exact ⟨⟨1, none, 1, 1, 120⟩, by decide +kernel, by decide +kernel, rfl, rfl⟩

theorem standalone_opening_beside_review :
    OpensAlone openingRace.journal (next openingRace (.step 0)).journal 2 ∧
      activePendingEventForBarrier openingRace.journal gateOfTwo 2 openingRace.time = some 1 :=
  ⟨⟨⟨1, none, 1, 2, 120⟩, by decide +kernel, by decide +kernel, rfl, rfl⟩, by decide +kernel⟩

end InfrasafeBot.AccessControl
