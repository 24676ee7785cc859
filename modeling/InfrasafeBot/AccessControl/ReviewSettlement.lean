import InfrasafeBot.AccessControl.ReviewChain

/-! A disputed entry is settled once. Where two transactions with the same row in hand hold the
same lock, no row is ever in two hands. -/

set_option autoImplicit false

namespace InfrasafeBot.AccessControl

open Library Locks Machine RequestWorkflow

def Stage.inHand : Stage → List AccessDecision
  | .holding _ work => work.inHand
  | _ => []

def Stage.reads (equipment : Equipment) (journal : Journal) : Stage → List AccessDecision
  | .holding _ work => work.reads equipment journal
  | _ => []

/-- A transaction takes its lock before it has read anything to write over. -/
def Work.fresh : Work → Prop
  | .receiving _ _ _ => True
  | .settling _ _ _ _ => True
  | .sweeping _ _ _ => True
  | .rechecking _ _ _ _ => True
  | _ => False

def Stage.addressed : Stage → Prop
  | .waiting _ work => work.fresh
  | .holding _ (.moving request _ current _) => current.cameraEventId = request.eventId
  | _ => True

theorem Work.fresh_inHand {work : Work} (fresh : work.fresh) (key : Nat) :
    work.inHand = [] ∧ (Stage.holding key work).addressed := by
  cases work with
  | receiving | settling | sweeping | rechecking => exact ⟨rfl, trivial⟩
  | _ => exact fresh.elim

/-- Who reads a row that another transaction has in its hand holds the lock of that one. -/
def LocksAgree {n : Nat} (store : Store n) : Event n → Prop
  | .step worker => ∀ other, other ≠ worker →
      ∀ row ∈ (store.workers worker).reads store.equipment store.journal,
        row ∈ (store.workers other).inHand → store.held other = store.held worker
  | _ => True

instance {n : Nat} (store : Store n) (event : Event n) : Decidable (LocksAgree store event) :=
  match event with
  | .step worker => inferInstanceAs (Decidable (∀ other, other ≠ worker →
      ∀ row ∈ (store.workers worker).reads store.equipment store.journal,
        row ∈ (store.workers other).inHand → store.held other = store.held worker))
  | .call _ _ => isTrue trivial
  | .crash _ => isTrue trivial
  | .tick _ => isTrue trivial
  | .equip _ _ => isTrue trivial

/-- No row is in two hands, and no lock is held twice. -/
structure Coherent {n : Nat} (store : Store n) : Prop where
  exclusive : Exclusive store.held
  chained : Chained store.journal
  inHand : ∀ worker, InHand store.journal (store.workers worker).inHand
  apart : ∀ left right row, row ∈ (store.workers left).inHand →
    row ∈ (store.workers right).inHand → left = right
  addressed : ∀ worker, (store.workers worker).addressed

theorem coherent_initial {n : Nat} (equipment : Equipment) (time : Moment) :
    Coherent (Store.initial (n := n) equipment time) where
  exclusive := exclusive_of_none fun _ => rfl
  chained := chained_empty
  inHand := fun _ => inHand_nil
  apart := by
    intro left right row listed _
    cases listed
  addressed := fun _ => trivial

variable {key : Nat} {work : Work}

section

variable {equipment : Equipment} {journal : Journal} {time : Moment}

theorem settle_moving {request : ResolveRequest} {derivedBarrier controllerId : Option Nat}
    {now : Moment} {resolution : Resolution} {current : AccessDecision}
    (moving : settle journal request derivedBarrier controllerId now = .inr (resolution, current)) :
    latestForEvent journal request.eventId = some current ∧ current.status = .pendingReview := by
  unfold settle at moving
  split at moving
  · cases moving
  · next latest found =>
      split at moving
      · cases moving
      · next pending =>
          have waiting := not_not.mp pending
          split at moving
          · cases moving
            exact ⟨found, waiting⟩
          · split at moving
            · cases moving
            · cases moving
              exact ⟨found, waiting⟩

theorem awaits_of_recheck {decisionId : Nat} {current : AccessDecision}
    (found : currentDecisionIfPending journal decisionId = some current) :
    journal.decisions.find? decisionId = some current ∧ Awaits journal current := by
  obtain ⟨present, fits⟩ := Option.filter_eq_some_iff.mp found
  rw [Bool.and_eq_true] at fits
  have listed := Table.mem_of_find? present
  have numbered := Table.key_of_find? present
  refine ⟨present, ⟨listed, of_decide_eq_true fits.1⟩, ?_⟩
  rintro ⟨other, stored, supersedes⟩
  have missed : (journal.decisions.rows.any fun other =>
      other.supersedesDecisionId = some decisionId) = true :=
    List.any_eq_true.mpr ⟨other, stored, decide_eq_true (numbered ▸ supersedes)⟩
  rw [missed] at fits
  simp at fits

theorem nextRow_inHand (count : Nat) (now : Moment) (rest : List (Nat × Nat)) :
    (nextRow count now rest).inHand = [] ∧ (nextRow count now rest).heldKey = none ∧
      (nextRow count now rest).addressed := by
  cases rest with
  | nil | cons => exact ⟨rfl, rfl, trivial⟩

theorem perform_locked {held : Nat}
    (own : (perform equipment journal time key work).2.heldKey = some held) : held = key := by
  have same : ∀ next, (Stage.holding key next).heldKey = some held → held = key :=
    fun _ still => (Option.some.inj still).symm
  cases work with
  | receiving | settling =>
    simp only [perform] at own
    split at own
    · cases own
    · exact same _ own
  | deciding | sweeping => exact same _ own
  | recording | moving | opening | refusing => cases own
  | checking request controllerId started lapsed =>
    simp only [perform] at own
    split at own <;> exact same _ own
  | rechecking decisionId rest count started =>
    simp only [perform] at own
    split at own
    · exact same _ own
    · rw [(nextRow_inHand count started rest).2.1] at own
      cases own
  | expiring current rest count started =>
    simp only [perform] at own
    rw [(nextRow_inHand (count + 1) started rest).2.1] at own
    cases own

/-- What a statement takes in hand waits for its review, and has been there or read. -/
structure Takes (equipment : Equipment) (journal : Journal) (work : Work)
    (performed : Journal × Stage) : Prop where
  inHand : InHand performed.1 performed.2.inHand
  known : ∀ row ∈ performed.2.inHand, row ∈ work.inHand ∨ row ∈ work.reads equipment journal
  addressed : performed.2.addressed

theorem takes_nothing {changed : Journal} {stage : Stage} (empty : stage.inHand = [])
    (addressed : stage.addressed) : Takes equipment journal work (changed, stage) := by
  refine ⟨?_, ?_, addressed⟩
  · rw [empty]
    exact inHand_nil
  · rw [empty]
    intro row listed
    cases listed

theorem takes_perform (chained : Chained journal) (inHand : InHand journal work.inHand) :
    Takes equipment journal work (perform equipment journal time key work) := by
  cases work with
  | receiving data normalized engine =>
    simp only [perform]
    split
    · exact takes_nothing rfl trivial
    · exact takes_nothing rfl trivial
  | deciding | recording | moving | opening | refusing =>
    simp only [perform]
    exact takes_nothing rfl trivial
  | settling request derivedBarrier controllerId started =>
    simp only [perform]
    split
    · exact takes_nothing rfl trivial
    · next resolution current moving =>
        obtain ⟨latest, pending⟩ := settle_moving moving
        refine ⟨inHand_singleton (awaits_of_latest chained latest pending), ?_, (latest_mem latest).2⟩
        intro row listed
        rw [Work.reads, latest]
        exact .inr listed
  | sweeping request controllerId started =>
    refine ⟨inHand_filter fun row _ fits => ?_, fun row listed => .inr listed, trivial⟩
    rw [Bool.and_eq_true, Bool.and_eq_true] at fits
    exact awaits_of_currentPending chained fits.1.2
  | checking request controllerId started lapsed =>
    simp only [perform]
    split
    · exact ⟨inHand, fun row listed => .inl listed, trivial⟩
    · exact ⟨inHand, fun row listed => .inl listed, trivial⟩
  | rechecking decisionId rest count started =>
    simp only [perform]
    split
    · next current found =>
        obtain ⟨present, awaits⟩ := awaits_of_recheck found
        refine ⟨inHand_singleton awaits, ?_, trivial⟩
        intro row listed
        rw [Work.reads, present]
        exact .inr listed
    · obtain ⟨empty, _, addressed⟩ := nextRow_inHand count started rest
      exact takes_nothing empty addressed
  | expiring current rest count started =>
    obtain ⟨empty, _, addressed⟩ := nextRow_inHand (count + 1) started rest
    exact takes_nothing empty addressed

end

variable {n : Nat}

section

variable {store : Store n} {worker : Fin n}

theorem held_move (store : Store n) (worker : Fin n) (stage : Stage) (changed : Journal) :
    Store.held { store.put worker stage with journal := changed } =
      Function.update store.held worker stage.heldKey := by
  funext other
  simp only [Store.held, Store.put]
  by_cases own : other = worker
  · rw [own, Function.update_self, Function.update_self]
  · rw [Function.update_of_ne own, Function.update_of_ne own]
    rfl

variable {stage : Stage}

theorem Coherent.move (coherent : Coherent store) {changed : Journal}
    (keeps : Keeps store.journal (store.workers worker).inHand changed)
    (inHand : InHand changed stage.inHand) (alone : ∀ other, other ≠ worker → ∀ row ∈ stage.inHand,
      row ∉ (store.workers other).inHand)
    (locks : ∀ key, stage.heldKey = some key → Free store.held worker key)
    (addressed : stage.addressed) :
    Coherent { store.put worker stage with journal := changed } where
  exclusive := by
    rw [held_move]
    exact coherent.exclusive.update locks
  chained := keeps.chained
  inHand := by
    intro other
    by_cases own : other = worker
    · simpa only [Store.put, own, Function.update_self] using inHand
    · obtain ⟨awaits, distinct⟩ := coherent.inHand other
      simp only [Store.put, Function.update_of_ne own]
      refine ⟨fun row listed => keeps.others row (awaits row listed) ?_, distinct⟩
      intro shared
      obtain ⟨mine, held, same⟩ := List.mem_map.mp shared
      have present := ((coherent.inHand worker).awaits mine held).listed
      have one := store.journal.decisions.eq_of_key present (awaits row listed).listed same
      exact own (coherent.apart other worker row listed (one ▸ held))
  apart := by
    intro left right row
    by_cases leftOwn : left = worker
    · by_cases rightOwn : right = worker
      · intro _ _
        exact leftOwn.trans rightOwn.symm
      · simp only [Store.put, leftOwn, Function.update_self, Function.update_of_ne rightOwn]
        intro mine theirs
        exact absurd theirs (alone right rightOwn row mine)
    · by_cases rightOwn : right = worker
      · simp only [Store.put, rightOwn, Function.update_self, Function.update_of_ne leftOwn]
        intro theirs mine
        exact absurd theirs (alone left leftOwn row mine)
      · simp only [Store.put, Function.update_of_ne leftOwn, Function.update_of_ne rightOwn]
        exact coherent.apart left right row
  addressed := by
    intro other
    by_cases own : other = worker
    · simpa only [Store.put, own, Function.update_self] using addressed
    · simpa only [Store.put, Function.update_of_ne own] using coherent.addressed other

theorem Coherent.put_unlocked (coherent : Coherent store) (unlocked : stage.heldKey = none)
    (empty : stage.inHand = []) (addressed : stage.addressed) :
    Coherent (store.put worker stage) := by
  apply coherent.move (.refl coherent.chained)
  · rw [empty]
    exact inHand_nil
  · rw [empty]
    intro _ _ row listed
    cases listed
  · rw [unlocked]
    intro _ own
    cases own
  · exact addressed

theorem prepare_unlocked (equipment : Equipment) (journal : Journal)
    (outside : ∀ key work, stage ≠ .holding key work) :
    (prepare equipment journal stage).heldKey = none ∧
      (prepare equipment journal stage).inHand = [] ∧
      (stage.addressed → (prepare equipment journal stage).addressed) := by
  cases stage with
  | idle | locating | returning => exact ⟨rfl, rfl, fun _ => trivial⟩
  | scoping | keying =>
    simp only [prepare]
    split <;> exact ⟨rfl, rfl, fun _ => trivial⟩
  | addressing request now =>
    simp only [prepare]
    split
    · split <;> exact ⟨rfl, rfl, fun _ => trivial⟩
    · exact ⟨rfl, rfl, fun _ => trivial⟩
  | collecting now =>
    obtain ⟨empty, unlocked, addressed⟩ := nextRow_inHand 0 now (dueReviews equipment journal now)
    exact ⟨unlocked, empty, fun _ => addressed⟩
  | waiting key work => exact ⟨rfl, rfl, id⟩
  | holding key work => exact absurd rfl (outside key work)

theorem coherent_prepare (coherent : Coherent store)
    (outside : ∀ key work, store.workers worker ≠ .holding key work) :
    Coherent (store.put worker
      (prepare store.equipment store.journal (store.workers worker))) := by
  obtain ⟨unlocked, empty, addressed⟩ := prepare_unlocked store.equipment store.journal outside
  exact coherent.put_unlocked unlocked empty (addressed (coherent.addressed worker))

theorem coherent_acquire (coherent : Coherent store)
    (stage : store.workers worker = .waiting key work) (free : Free store.held worker key) :
    Coherent (store.put worker (.holding key work)) := by
  have queued := coherent.addressed worker
  rw [stage] at queued
  obtain ⟨empty, addressed⟩ := Work.fresh_inHand queued key
  apply coherent.move (.refl coherent.chained)
  · rw [Stage.inHand, empty]
    exact inHand_nil
  · intro _ _ row listed
    rw [Stage.inHand, empty] at listed
    cases listed
  · intro own same
    exact Option.some.inj same ▸ free
  · exact addressed

theorem coherent_perform (coherent : Coherent store)
    (stage : store.workers worker = .holding key work) (agreed : LocksAgree store (.step worker)) :
    Coherent { store.put worker
        (perform store.equipment store.journal store.time key work).2 with
      journal := (perform store.equipment store.journal store.time key work).1 } := by
  have hand := coherent.inHand worker
  rw [stage] at hand
  have own : store.held worker = some key := by rw [Store.held, stage, Stage.heldKey]
  have takes : Takes store.equipment store.journal work
      (perform store.equipment store.journal store.time key work) :=
    takes_perform coherent.chained hand
  apply coherent.move _ takes.inHand _ _ takes.addressed
  · rw [stage]
    exact keeps_perform coherent.chained hand
  · intro other different row listed theirs
    rcases takes.known row listed with held | read
    · exact different (coherent.apart other worker row theirs (by rw [stage]; exact held))
    · have same := agreed other different row (by rw [stage]; exact read) theirs
      exact different (coherent.exclusive other worker key (same.trans own) own)
  · intro held same
    rw [perform_locked same]
    exact coherent.exclusive.free own

theorem coherent_next (coherent : Coherent store) {event : Event n}
    (agreed : LocksAgree store event) : Coherent (next store event) := by
  cases event with
  | call worker call =>
    simp only [next]
    split
    · cases call with
      | ingestAnpr | resolveEvent | manualOpenBarrier => exact coherent.put_unlocked rfl rfl trivial
      | expireDueReviews => exact coherent.put_unlocked rfl rfl trivial
    · exact coherent
  | step worker =>
    simp only [next, Store.advance]
    split
    · next key work stage =>
        split
        · next free => exact coherent_acquire coherent stage free
        · exact coherent
    · next key work stage => exact coherent_perform coherent stage agreed
    · next outside => exact coherent_prepare coherent fun key work => outside key work
  | crash worker => exact coherent.put_unlocked rfl rfl trivial
  | tick elapsed => exact { coherent with }
  | equip barrierId patch =>
    simp only [next]
    split
    · exact { coherent with }
    · exact coherent

end

section

variable (journal : Journal) (eventId : Nat)

def outOfReview (row : AccessDecision) : Bool :=
  row.cameraEventId = eventId && row.supersedesDecisionId.any fun parent =>
    (journal.decisions.find? parent).any fun old => old.status = .pendingReview

def linkedToEvent (command : BarrierCommand) : Bool :=
  command.decisionId.any fun decisionId =>
    (journal.decisions.find? decisionId).any fun row => row.cameraEventId = eventId

/-- The rows of the event form a chain with one transition and one command at most. -/
structure SettledOnce : Prop where
  start : journal.decisions.rowcount (fun row =>
    row.cameraEventId = eventId && row.supersedesDecisionId = none) ≤ 1
  chain : ∀ row ∈ journal.decisions.rows, row.cameraEventId = eventId → ∀ parent,
    row.supersedesDecisionId = some parent → ∃ old ∈ journal.decisions.rows,
      old.id = parent ∧ old.id < row.id ∧ old.cameraEventId = eventId
  superseded : ∀ row ∈ journal.decisions.rows, row.cameraEventId = eventId →
    journal.decisions.rowcount (fun other => other.supersedesDecisionId = some row.id) ≤ 1
  transition : journal.decisions.rowcount (outOfReview journal eventId) ≤ 1
  command : journal.commands.rowcount (linkedToEvent journal eventId) ≤ 1

/-- The stored row that has settled the review of the event. -/
structure SettledBy (row : AccessDecision) : Prop where
  listed : row ∈ journal.decisions.rows
  own : row.cameraEventId = eventId
  supersedes : row.supersedesDecisionId ≠ none

variable {journal eventId} {left right : AccessDecision}

theorem Chained.origin (chained : Chained journal) (settled : SettledBy journal eventId left) :
    ∃ old ∈ journal.decisions.rows, left.supersedesDecisionId = some old.id ∧
      old.id < left.id ∧ old.cameraEventId = eventId ∧ old.status = .pendingReview ∧
      old.supersedesDecisionId = none := by
  obtain ⟨parent, supersedes⟩ := Option.ne_none_iff_exists'.mp settled.supersedes
  obtain ⟨old, present, named, before, same, pending⟩ :=
    chained.parented left settled.listed parent supersedes
  refine ⟨old, present, by rw [supersedes, named], before, same.trans settled.own, pending, ?_⟩
  by_contra later
  exact chained.settled old present later pending

theorem Chained.transitionOnce (chained : Chained journal)
    (first : SettledBy journal eventId left) (second : SettledBy journal eventId right) :
    left = right := by
  obtain ⟨old, present, supersedes, _, own, _, start⟩ := chained.origin first
  obtain ⟨same, presentToo, overToo, _, ownToo, _, startToo⟩ := chained.origin second
  have one : old = same := chained.initialOnce old present same presentToo start startToo
    (own.trans ownToo.symm)
  exact chained.supersededOnce left first.listed right second.listed old.id supersedes
    (one ▸ overToo)

theorem Chained.settlingOnce (chained : Chained journal)
    (listed : left ∈ journal.decisions.rows) (listedToo : right ∈ journal.decisions.rows)
    (own : left.cameraEventId = eventId) (ownToo : right.cameraEventId = eventId)
    (settles : left.status ≠ .pendingReview) (settlesToo : right.status ≠ .pendingReview) :
    left = right := by
  by_cases first : left.supersedesDecisionId = none
  · by_cases second : right.supersedesDecisionId = none
    · exact chained.initialOnce left listed right listedToo first second (own.trans ownToo.symm)
    · obtain ⟨old, present, _, _, same, pending, start⟩ := chained.origin ⟨listedToo, ownToo, second⟩
      have one := chained.initialOnce old present left listed start first (same.trans own.symm)
      exact absurd (one ▸ pending) settles
  · by_cases second : right.supersedesDecisionId = none
    · obtain ⟨old, present, _, _, same, pending, start⟩ := chained.origin ⟨listed, own, first⟩
      have one := chained.initialOnce old present right listedToo start second
        (same.trans ownToo.symm)
      exact absurd (one ▸ pending) settlesToo
    · exact chained.transitionOnce ⟨listed, own, first⟩ ⟨listedToo, ownToo, second⟩

theorem settledBy_of_outOfReview (listed : left ∈ journal.decisions.rows)
    (out : outOfReview journal eventId left = true) : SettledBy journal eventId left := by
  rw [outOfReview, Bool.and_eq_true] at out
  refine ⟨listed, of_decide_eq_true out.1, fun start => ?_⟩
  have impossible := out.2
  rw [start] at impossible
  cases impossible

theorem linked_row (chained : Chained journal) {command : BarrierCommand}
    (listed : command ∈ journal.commands.rows)
    (linked : linkedToEvent journal eventId command = true) :
    ∃ row ∈ journal.decisions.rows, command.decisionId = some row.id ∧
      row.cameraEventId = eventId ∧ row.status ≠ .pendingReview := by
  obtain ⟨decisionId, named, found⟩ := (Option.any_eq_true _ _).mp linked
  obtain ⟨row, present, own⟩ := (Option.any_eq_true _ _).mp found
  obtain ⟨stored, storedListed, numbered, settles⟩ := chained.commanded command listed decisionId named
  have same : stored = row := journal.decisions.eq_of_key storedListed
    (Table.mem_of_find? present) (numbered.trans (Table.key_of_find? present).symm)
  exact ⟨row, Table.mem_of_find? present, by rw [named, Table.key_of_find? present],
    of_decide_eq_true own, same ▸ settles⟩

theorem settledOnce_of_chained (chained : Chained journal) (eventId : Nat) :
    SettledOnce journal eventId where
  start := by
    apply Table.rowcount_le_one
    intro left listed right listedToo first second
    rw [Bool.and_eq_true] at first second
    have leftOwn : left.cameraEventId = eventId := of_decide_eq_true first.1
    have rightOwn : right.cameraEventId = eventId := of_decide_eq_true second.1
    exact chained.initialOnce left listed right listedToo (of_decide_eq_true first.2)
      (of_decide_eq_true second.2) (leftOwn.trans rightOwn.symm)
  chain := by
    intro row listed own parent supersedes
    obtain ⟨old, present, named, before, same, _⟩ := chained.parented row listed parent supersedes
    exact ⟨old, present, named, before, same.trans own⟩
  superseded := by
    intro row listed own
    apply Table.rowcount_le_one
    intro left leftListed right rightListed first second
    exact chained.supersededOnce left leftListed right rightListed row.id
      (of_decide_eq_true first) (of_decide_eq_true second)
  transition := by
    apply Table.rowcount_le_one
    intro left listed right listedToo first second
    exact chained.transitionOnce (settledBy_of_outOfReview listed first)
      (settledBy_of_outOfReview listedToo second)
  command := by
    apply Table.rowcount_le_one
    intro left listed right listedToo first second
    obtain ⟨row, present, named, own, settles⟩ := linked_row chained listed first
    obtain ⟨other, presentToo, namedToo, ownToo, settlesToo⟩ := linked_row chained listedToo second
    have one := chained.settlingOnce present presentToo own ownToo settles settlesToo
    exact chained.commandOnce left listed right listedToo row.id named (one ▸ namedToo)

end

def Work.resolving : Work → Option ResolveRequest
  | .settling request _ _ _ => some request
  | .moving request _ _ _ => some request
  | _ => none

def Stage.resolving : Stage → Option ResolveRequest
  | .locating request _ => some request
  | .keying request _ _ _ => some request
  | .waiting _ work => work.resolving
  | .holding _ work => work.resolving
  | _ => none

/-- The next statement of a resolution writes nothing; if it answers, then with the stored
result of the row. -/
structure Replays {n : Nat} (store : Store n) (worker : Fin n) (request : ResolveRequest)
    (row : AccessDecision) : Prop where
  unwritten : (next store (.step worker)).journal = store.journal
  answer : ((next store (.step worker)).workers worker).resolving = some request ∨
    (next store (.step worker)).workers worker = .returning (.resolved (replayResult store.journal row))

section

variable {journal : Journal} {row : AccessDecision}

theorem canonicalLockKey_found (barrierId gateId : Option Nat) (controllerId : Nat) :
    ∃ key, canonicalLockKey barrierId gateId (some controllerId) = some key := by
  unfold canonicalLockKey orElse
  split
  · split <;> exact ⟨_, rfl⟩
  · split <;> exact ⟨_, rfl⟩
  · exact ⟨_, rfl⟩

theorem eventLockKey_found (equipment : Equipment) (chained : Chained journal)
    (listed : row ∈ journal.decisions.rows) :
    ∃ key, eventLockKey journal equipment row.cameraEventId = some key := by
  obtain ⟨event, present, own⟩ := chained.received row listed
  have found : journal.cameraEvents.find? row.cameraEventId = some event := own ▸ Table.find?_of_mem present
  rw [eventLockKey, found, Option.bind_some]
  exact canonicalLockKey_found _ _ _

theorem latest_of_settled (chained : Chained journal) {eventId : Nat}
    (settled : SettledBy journal eventId row) : latestForEvent journal eventId = some row := by
  cases found : latestForEvent journal eventId with
  | none =>
    have none := List.argmax_eq_none.mp found
    have member : row ∈ journal.decisions.rows.filter (·.cameraEventId = eventId) :=
      List.mem_filter.mpr ⟨settled.listed, decide_eq_true settled.own⟩
    rw [none] at member
    cases member
  | some current =>
    obtain ⟨present, own⟩ := latest_mem found
    by_cases start : current.supersedesDecisionId = none
    · obtain ⟨old, oldListed, _, before, same, _, first⟩ := chained.origin settled
      have one := chained.initialOnce old oldListed current present first start
        (same.trans own.symm)
      have after := le_latest found settled.listed settled.own
      rw [one] at before
      omega
    · rw [chained.transitionOnce ⟨present, own, start⟩ settled]

theorem settle_replays (chained : Chained journal) {request : ResolveRequest}
    (settled : SettledBy journal request.eventId row)
    (derivedBarrier controllerId : Option Nat) (now : Moment) :
    settle journal request derivedBarrier controllerId now =
      .inl (.resolved (replayResult journal row)) := by
  rw [settle, latest_of_settled chained settled]
  exact if_pos (chained.settled row settled.listed settled.supersedes)

theorem commandForDecision_createOpenCommand (journal : Journal)
    (decisionId controllerId barrierId : Nat) (expiresAt : Moment) :
    commandForDecision
        (createOpenCommand journal (some decisionId) controllerId barrierId expiresAt).1
        decisionId =
      some (createOpenCommand journal (some decisionId) controllerId barrierId expiresAt).2 := by
  simp only [createOpenCommand, Option.bind_some]
  split
  · next existing found => exact found
  · next missing =>
      have unlinked : journal.commands.rows.find? (·.decisionId = some decisionId) = none := missing
      simp [commandForDecision, Table.insert, List.find?_append, unlinked, openCommand]

variable {store : Store n} {worker : Fin n} {request : ResolveRequest}

theorem put_same (stage : Stage) : (store.put worker stage).workers worker = stage := by
  simp only [Store.put, Function.update_self]

theorem replays_of_settled (coherent : Coherent store)
    (resolving : (store.workers worker).resolving = some request)
    (settled : SettledBy store.journal request.eventId row) :
    Replays store worker request row := by
  have chained := coherent.chained
  cases stage : store.workers worker with
  | locating asked now =>
    obtain rfl : asked = request := by simpa [stage, Stage.resolving] using resolving
    constructor
    · simp only [next, Store.advance, stage, Store.put]
    · left
      simp only [next, Store.advance, stage, put_same, prepare, Stage.resolving]
  | keying asked derivedBarrier controllerId now =>
    obtain rfl : asked = request := by simpa [stage, Stage.resolving] using resolving
    obtain ⟨key, found⟩ := eventLockKey_found store.equipment chained settled.listed
    rw [settled.own] at found
    constructor
    · simp only [next, Store.advance, stage, Store.put]
    · left
      simp only [next, Store.advance, stage, put_same, prepare, found, Stage.resolving, Work.resolving]
  | waiting key work =>
    rw [stage, Stage.resolving] at resolving
    constructor
    · simp only [next, Store.advance, stage]
      split <;> rfl
    · left
      simp only [next, Store.advance, stage]
      split
      · simpa only [put_same, Stage.resolving] using resolving
      · simpa only [stage, Stage.resolving] using resolving
  | holding key work =>
    rw [stage, Stage.resolving] at resolving
    cases work with
    | settling asked derivedBarrier controllerId now =>
      obtain rfl : asked = request := by simpa [Work.resolving] using resolving
      have replays := settle_replays chained settled derivedBarrier controllerId now
      constructor
      · simp only [next, Store.advance, stage, perform, replays]
      · right
        simp only [next, Store.advance, stage, perform, replays, put_same]
    | moving asked resolution current now =>
      obtain rfl : asked = request := by simpa [Work.resolving] using resolving
      have hand := coherent.inHand worker
      have addressed := coherent.addressed worker
      rw [stage] at hand addressed
      have awaits := hand.awaits current List.mem_cons_self
      have untouched := awaits.untouched chained settled.listed
        (settled.own.trans addressed.symm)
      exact absurd untouched settled.supersedes
    | _ => cases resolving
  | _ =>
    rw [stage] at resolving
    cases resolving

end

/-- Where no transaction reads what one with another lock has in its hand, every disputed
entry is settled once, and every later resolution gets the stored result. -/
theorem disputed_entry_settled_once {n : Nat} (equipment : Equipment) (time : Moment)
    (events : List (Event n))
    (agreed : Obeys next LocksAgree (Store.initial equipment time) events) :
    (∀ eventId, SettledOnce (run next (Store.initial equipment time) events).journal eventId) ∧
      ∀ taken ∈ trace next (Store.initial equipment time) events, ∀ worker request row,
        (taken.1.workers worker).resolving = some request →
        SettledBy taken.1.journal request.eventId row → Replays taken.1 worker request row := by
  have start : Coherent (Store.initial (n := n) equipment time) := coherent_initial equipment time
  have preserved : ∀ (store : Store n) (event : Event n), LocksAgree store event →
      Coherent store → Coherent (next store event) :=
    fun _ _ agrees coherent => coherent_next coherent agrees
  constructor
  · intro eventId
    have reached := run_invariant_of_obeys next Coherent start preserved agreed
    exact settledOnce_of_chained reached.chained eventId
  · intro taken listed worker request row resolving settled
    have reached := trace_invariant_of_obeys next Coherent start preserved agreed taken listed
    exact replays_of_settled reached resolving settled

/-! Gate 5 has barrier 1. A disputed car waits there; while one operator opens for it, the
barrier is deactivated and another operator denies it. -/

def gateFive : Equipment where
  zones := ⟨[⟨1, "Z1", .shared, none⟩], by decide⟩
  controllers := ⟨[⟨1, "edge-1", some 1, some 5⟩], by decide⟩
  gates := ⟨[⟨5, "G5", 1, some 1, .entry, true⟩], by decide⟩
  barriers := ⟨[⟨1, "B1", 5, some 1, true⟩], by decide⟩
  serial := by decide

def disputedEntry : AnprIngestInput where
  controllerId := 1
  eventId := "e-1"
  zoneId := none
  gateId := some 5
  barrierId := none
  plateNumberOriginal := some "01A777AA"
  direction := .entry
  confidence := some 4000
  capturedAt := 0

def lowConfidenceReview : EngineDecision := .of .manualReview (some .lowConfidence) none none

def openForCar : ResolveRequest := ⟨1, .manualOpen, 7, some "known car", some 1, some 1⟩

def denyCar : ResolveRequest := ⟨1, .deny, 8, some "unknown car", none, some 1⟩

def receiveCar : List (Event 2) :=
  .call 0 (.ingestAnpr disputedEntry (some "01A777AA") lowConfidenceReview) ::
    List.replicate 5 (.step 0)

def deactivated : BarrierPatch := ⟨none, none, none, some false⟩

def operatorsRace : List (Event 2) :=
  receiveCar ++ .call 0 (.resolveEvent openForCar) :: List.replicate 4 (.step 0) ++
    .equip 1 deactivated :: .call 1 (.resolveEvent denyCar) :: List.replicate 5 (.step 1) ++
    [.step 0]

def operatorsInTurn : List (Event 2) :=
  receiveCar ++ .call 0 (.resolveEvent openForCar) :: List.replicate 5 (.step 0) ++
    .equip 1 deactivated :: .call 1 (.resolveEvent denyCar) :: List.replicate 4 (.step 1)

/-- The second operator gets what the first one has stored. -/
theorem disputed_entry_settled_in_turn :
    SettledOnce (run next (Store.initial gateFive 0) operatorsInTurn).journal 1 ∧
      (run next (Store.initial gateFive 0) operatorsInTurn).workers 1 =
        .returning (.resolved ⟨.allowedManually, 2, 1, some 1, true⟩) := by
  have agreed : Obeys next LocksAgree (Store.initial gateFive 0) operatorsInTurn := by
    decide +kernel
  exact ⟨(disputed_entry_settled_once gateFive 0 operatorsInTurn agreed).1 1, by decide +kernel⟩

theorem disputed_entry_settled_twice :
    ¬ SettledOnce (run next (Store.initial gateFive 0) operatorsRace).journal 1 := by
  intro settled
  have two : (run next (Store.initial gateFive 0) operatorsRace).journal.decisions.rowcount
      (outOfReview (run next (Store.initial gateFive 0) operatorsRace).journal 1) = 2 := by
    decide +kernel
  have once := settled.transition
  omega

end InfrasafeBot.AccessControl
