import InfrasafeBot.AccessControl.ReviewLifecycle

/-! The decisions of an event form a chain. What a transaction has read as waiting for a review
is in its hand until it commits, and it writes over no other row. -/

set_option autoImplicit false

namespace InfrasafeBot.AccessControl

open Library RequestWorkflow

def Superseded (journal : Journal) (row : AccessDecision) : Prop :=
  ∃ other ∈ journal.decisions.rows, other.supersedesDecisionId = some row.id

/-- The row has waited for a review when it was written. -/
structure Pending (journal : Journal) (row : AccessDecision) : Prop where
  listed : row ∈ journal.decisions.rows
  pending : row.status = .pendingReview

structure Awaits (journal : Journal) (row : AccessDecision) : Prop extends Pending journal row where
  current : ¬ Superseded journal row

structure Rooted (journal : Journal) : Prop where
  settled : ∀ row ∈ journal.decisions.rows, row.supersedesDecisionId ≠ none → row.status ≠ .pendingReview
  initialOnce : ∀ left ∈ journal.decisions.rows, ∀ right ∈ journal.decisions.rows,
    left.supersedesDecisionId = none → right.supersedesDecisionId = none →
    left.cameraEventId = right.cameraEventId → left = right
  received : ∀ row ∈ journal.decisions.rows, ∃ event ∈ journal.cameraEvents.rows,
    event.id = row.cameraEventId

/-- The rows a transition supersedes are initial ones that waited for a review. -/
structure Chained (journal : Journal) : Prop extends Rooted journal where
  parented : ∀ row ∈ journal.decisions.rows, ∀ parent, row.supersedesDecisionId = some parent →
    ∃ old ∈ journal.decisions.rows, old.id = parent ∧ old.id < row.id ∧
      old.cameraEventId = row.cameraEventId ∧ old.status = .pendingReview
  supersededOnce : ∀ left ∈ journal.decisions.rows, ∀ right ∈ journal.decisions.rows,
    ∀ parent, left.supersedesDecisionId = some parent →
    right.supersedesDecisionId = some parent → left = right
  commanded : ∀ command ∈ journal.commands.rows, ∀ decisionId,
    command.decisionId = some decisionId → ∃ row ∈ journal.decisions.rows,
      row.id = decisionId ∧ row.status ≠ .pendingReview
  commandOnce : ∀ left ∈ journal.commands.rows, ∀ right ∈ journal.commands.rows,
    ∀ decisionId, left.decisionId = some decisionId → right.decisionId = some decisionId →
    left = right

theorem rooted_empty : Rooted .empty := by
  constructor <;> simp [Journal.empty, Table.empty]

theorem chained_empty : Chained .empty where
  toRooted := rooted_empty
  parented := by simp [Journal.empty, Table.empty]
  supersededOnce := by simp [Journal.empty, Table.empty]
  commanded := by simp [Journal.empty, Table.empty]
  commandOnce := by simp [Journal.empty, Table.empty]

variable {current : AccessDecision}

section

variable {journal : Journal} {eventId : Nat} {row : AccessDecision}

theorem latest_mem (latest : latestForEvent journal eventId = some current) :
    current ∈ journal.decisions.rows ∧ current.cameraEventId = eventId := by
  obtain ⟨listed, own⟩ := List.mem_filter.mp (List.argmax_mem latest)
  exact ⟨listed, of_decide_eq_true own⟩

theorem le_latest (latest : latestForEvent journal eventId = some current)
    (listed : row ∈ journal.decisions.rows) (own : row.cameraEventId = eventId) :
    row.id ≤ current.id :=
  List.le_of_mem_argmax (List.mem_filter.mpr ⟨listed, decide_eq_true own⟩) latest

theorem latest_current (chained : Chained journal)
    (latest : latestForEvent journal eventId = some current) : ¬ Superseded journal current := by
  rintro ⟨other, listed, supersedes⟩
  obtain ⟨old, _, named, before, same, _⟩ := chained.parented other listed current.id supersedes
  obtain ⟨present, own⟩ := latest_mem latest
  have oldIs : old = current := journal.decisions.eq_of_key ‹_› present named
  have later := le_latest latest listed (same.symm.trans (oldIs ▸ own))
  omega

theorem awaits_of_latest (chained : Chained journal)
    (latest : latestForEvent journal eventId = some current)
    (pending : current.status = .pendingReview) : Awaits journal current :=
  ⟨⟨(latest_mem latest).1, pending⟩, latest_current chained latest⟩

theorem awaits_of_currentPending (chained : Chained journal)
    (waiting : currentPending journal row = true) : Awaits journal row := by
  rw [currentPending, Bool.and_eq_true] at waiting
  exact awaits_of_latest chained (of_decide_eq_true waiting.2) (of_decide_eq_true waiting.1)

end

variable {now : Moment} {decisionId : Option Nat} {controllerId barrierId : Nat}

section

variable {journal : Journal}

theorem Pending.initial {row : AccessDecision} (rooted : Rooted journal)
    (waited : Pending journal row) : row.supersedesDecisionId = none := by
  by_contra supersedes
  exact rooted.settled row waited.listed supersedes waited.pending

theorem Rooted.pendingOnce {left right : AccessDecision} (rooted : Rooted journal)
    (first : Pending journal left) (second : Pending journal right)
    (same : left.cameraEventId = right.cameraEventId) : left = right :=
  rooted.initialOnce left first.listed right second.listed (first.initial rooted)
    (second.initial rooted) same

theorem Awaits.untouched {row other : AccessDecision} (chained : Chained journal)
    (awaits : Awaits journal row) (listed : other ∈ journal.decisions.rows)
    (same : other.cameraEventId = row.cameraEventId) : other.supersedesDecisionId = none := by
  cases supersedes : other.supersedesDecisionId with
  | none => rfl
  | some parent =>
    obtain ⟨old, present, named, _, event, pending⟩ := chained.parented other listed parent supersedes
    have oldIs : old = row := chained.pendingOnce ⟨present, pending⟩ awaits.toPending (event.trans same)
    exact absurd ⟨other, listed, by rw [supersedes, ← named, oldIs]⟩ awaits.current

theorem Awaits.congr {changed : Journal} {row : AccessDecision} (awaits : Awaits journal row)
    (same : changed.decisions = journal.decisions) : Awaits changed row :=
  ⟨⟨same ▸ awaits.listed, awaits.pending⟩, fun ⟨other, listed, supersedes⟩ =>
    awaits.current ⟨other, same ▸ listed, supersedes⟩⟩

section

variable {newStatus : DecisionStatus} {newDecision : DecisionType} {operator : Option UserId}

theorem mem_insertTransition {row : AccessDecision} :
    row ∈ (insertTransition journal current newStatus newDecision operator now).decisions.rows ↔
      row ∈ journal.decisions.rows ∨
        row = transition current newStatus newDecision operator now journal.decisions.nextKey :=
  Table.mem_insert (transition_id current newStatus newDecision operator now)

theorem awaits_insertTransition {row : AccessDecision} (awaits : Awaits journal row)
    (different : row.id ≠ current.id) :
    Awaits (insertTransition journal current newStatus newDecision operator now) row := by
  refine ⟨⟨mem_insertTransition.mpr (.inl awaits.listed), awaits.pending⟩, ?_⟩
  rintro ⟨other, listed, supersedes⟩
  rcases mem_insertTransition.mp listed with before | rfl
  · exact awaits.current ⟨other, before, supersedes⟩
  · exact different (Option.some.inj supersedes).symm

theorem rooted_insertTransition (rooted : Rooted journal)
    (listed : current ∈ journal.decisions.rows) (settles : newStatus ≠ .pendingReview) :
    Rooted (insertTransition journal current newStatus newDecision operator now) where
  settled := by
    intro row stored supersedes
    rcases mem_insertTransition.mp stored with before | rfl
    · exact rooted.settled row before supersedes
    · exact settles
  initialOnce := by
    intro left leftListed right rightListed leftFirst rightFirst same
    rcases mem_insertTransition.mp leftListed with leftOld | rfl
    · rcases mem_insertTransition.mp rightListed with rightOld | rfl
      · exact rooted.initialOnce left leftOld right rightOld leftFirst rightFirst same
      · cases rightFirst
    · cases leftFirst
  received := by
    intro row stored
    rcases mem_insertTransition.mp stored with before | rfl
    · exact rooted.received row before
    · exact rooted.received current listed

theorem chained_insertTransition (chained : Chained journal) (awaits : Awaits journal current)
    (settles : newStatus ≠ .pendingReview) :
    Chained (insertTransition journal current newStatus newDecision operator now) where
  toRooted := rooted_insertTransition chained.toRooted awaits.listed settles
  parented := by
    intro row listed parent supersedes
    rcases mem_insertTransition.mp listed with before | rfl
    · obtain ⟨old, present, rest⟩ := chained.parented row before parent supersedes
      exact ⟨old, mem_insertTransition.mpr (.inl present), rest⟩
    · exact ⟨current, mem_insertTransition.mpr (.inl awaits.listed), Option.some.inj supersedes,
        Table.lt_nextKey awaits.listed, rfl, awaits.pending⟩
  supersededOnce := by
    intro left leftListed right rightListed parent leftOver rightOver
    rcases mem_insertTransition.mp leftListed with leftOld | leftNew
    · rcases mem_insertTransition.mp rightListed with rightOld | rightNew
      · exact chained.supersededOnce left leftOld right rightOld parent leftOver rightOver
      · rw [rightNew] at rightOver
        exact absurd ⟨left, leftOld, leftOver.trans rightOver.symm⟩ awaits.current
    · rcases mem_insertTransition.mp rightListed with rightOld | rightNew
      · rw [leftNew] at leftOver
        exact absurd ⟨right, rightOld, rightOver.trans leftOver.symm⟩ awaits.current
      · rw [leftNew, rightNew]
  commanded := by
    intro command listed decisionId linked
    obtain ⟨row, present, rest⟩ := chained.commanded command listed decisionId linked
    exact ⟨row, mem_insertTransition.mpr (.inl present), rest⟩
  commandOnce := chained.commandOnce

end

section

variable {data : AnprIngestInput} {normalized : Option String}

theorem rooted_insertCameraEvent (rooted : Rooted journal) :
    Rooted (insertCameraEvent journal data normalized) := by
  refine { rooted with received := ?_ }
  intro row listed
  obtain ⟨event, present, own⟩ := rooted.received row listed
  exact ⟨event, (Table.mem_insert (cameraEvent_id data normalized)).mpr (.inl present), own⟩

theorem chained_insertCameraEvent (chained : Chained journal) :
    Chained (insertCameraEvent journal data normalized) :=
  { chained with toRooted := rooted_insertCameraEvent chained.toRooted }

variable {cameraEventId : Nat} {decision : DecisionType} {engine : EngineDecision}
  {finalStatus : DecisionStatus} {deadline : Option Moment}

theorem mem_insertInitial {row : AccessDecision} :
    row ∈ (insertInitial journal cameraEventId decision engine finalStatus deadline).decisions.rows ↔
      row ∈ journal.decisions.rows ∨
        row = initialDecision cameraEventId decision engine finalStatus deadline
          journal.decisions.nextKey :=
  Table.mem_insert (initialDecision_id cameraEventId decision engine finalStatus deadline)

theorem awaits_insertInitial {row : AccessDecision} (awaits : Awaits journal row) :
    Awaits (insertInitial journal cameraEventId decision engine finalStatus deadline) row := by
  refine ⟨⟨mem_insertInitial.mpr (.inl awaits.listed), awaits.pending⟩, ?_⟩
  rintro ⟨other, listed, supersedes⟩
  rcases mem_insertInitial.mp listed with before | rfl
  · exact awaits.current ⟨other, before, supersedes⟩
  · cases supersedes

theorem rooted_insertInitial (rooted : Rooted journal)
    (inserted : ∃ event ∈ journal.cameraEvents.rows, event.id = cameraEventId)
    (fresh : ∀ row ∈ journal.decisions.rows, row.cameraEventId ≠ cameraEventId) :
    Rooted (insertInitial journal cameraEventId decision engine finalStatus deadline) where
  settled := by
    intro row listed supersedes
    rcases mem_insertInitial.mp listed with before | rfl
    · exact rooted.settled row before supersedes
    · exact absurd rfl supersedes
  initialOnce := by
    intro left leftListed right rightListed leftFirst rightFirst same
    rcases mem_insertInitial.mp leftListed with leftOld | leftNew
    · rcases mem_insertInitial.mp rightListed with rightOld | rightNew
      · exact rooted.initialOnce left leftOld right rightOld leftFirst rightFirst same
      · rw [rightNew] at same
        exact absurd same (fresh left leftOld)
    · rcases mem_insertInitial.mp rightListed with rightOld | rightNew
      · rw [leftNew] at same
        exact absurd same.symm (fresh right rightOld)
      · rw [leftNew, rightNew]
  received := by
    intro row listed
    rcases mem_insertInitial.mp listed with before | rfl
    · exact rooted.received row before
    · exact inserted

theorem chained_insertInitial (chained : Chained journal)
    (inserted : ∃ event ∈ journal.cameraEvents.rows, event.id = cameraEventId)
    (fresh : ∀ row ∈ journal.decisions.rows, row.cameraEventId ≠ cameraEventId) :
    Chained (insertInitial journal cameraEventId decision engine finalStatus deadline) where
  toRooted := rooted_insertInitial chained.toRooted inserted fresh
  parented := by
    intro row listed parent supersedes
    rcases mem_insertInitial.mp listed with before | rfl
    · obtain ⟨old, present, rest⟩ := chained.parented row before parent supersedes
      exact ⟨old, mem_insertInitial.mpr (.inl present), rest⟩
    · cases supersedes
  supersededOnce := by
    intro left leftListed right rightListed parent leftOver rightOver
    rcases mem_insertInitial.mp leftListed with leftOld | rfl
    · rcases mem_insertInitial.mp rightListed with rightOld | rfl
      · exact chained.supersededOnce left leftOld right rightOld parent leftOver rightOver
      · cases rightOver
    · cases leftOver
  commanded := by
    intro command listed decisionId linked
    obtain ⟨row, present, rest⟩ := chained.commanded command listed decisionId linked
    exact ⟨row, mem_insertInitial.mpr (.inl present), rest⟩
  commandOnce := chained.commandOnce

end

section

variable {expiresAt : Moment}

theorem createOpenCommand_decisions :
    (createOpenCommand journal decisionId controllerId barrierId expiresAt).1.decisions =
      journal.decisions := by
  unfold createOpenCommand
  split <;> rfl

theorem createOpenCommand_cameraEvents :
    (createOpenCommand journal decisionId controllerId barrierId expiresAt).1.cameraEvents =
      journal.cameraEvents := by
  unfold createOpenCommand
  split <;> rfl

theorem mem_createOpenCommand {command : BarrierCommand}
    (listed : command ∈
      (createOpenCommand journal decisionId controllerId barrierId expiresAt).1.commands.rows) :
    command ∈ journal.commands.rows ∨
      command = openCommand decisionId controllerId barrierId expiresAt
          journal.commands.nextKey ∧
        ∀ other ∈ journal.commands.rows, ∀ linked, decisionId = some linked →
          other.decisionId ≠ some linked := by
  unfold createOpenCommand at listed
  split at listed
  · exact .inl listed
  · next missing =>
      have inserted := (Table.mem_insert
        (openCommand_id decisionId controllerId barrierId expiresAt)).mp listed
      refine inserted.imp_right fun added => ⟨added, ?_⟩
      intro other present linked named same
      rw [named, Option.bind_some] at missing
      exact List.find?_eq_none.mp missing other present (decide_eq_true same)

theorem Rooted.congr {changed : Journal} (rooted : Rooted journal)
    (same : changed.decisions = journal.decisions)
    (events : changed.cameraEvents = journal.cameraEvents) : Rooted changed where
  settled := same ▸ rooted.settled
  initialOnce := same ▸ rooted.initialOnce
  received := by
    rw [same, events]
    exact rooted.received

theorem chained_createOpenCommand (chained : Chained journal)
    (settles : ∀ linked, decisionId = some linked → ∃ row ∈ journal.decisions.rows,
      row.id = linked ∧ row.status ≠ .pendingReview) :
    Chained (createOpenCommand journal decisionId controllerId barrierId expiresAt).1 where
  toRooted := chained.toRooted.congr createOpenCommand_decisions createOpenCommand_cameraEvents
  parented := by
    rw [createOpenCommand_decisions]
    exact chained.parented
  supersededOnce := by
    rw [createOpenCommand_decisions]
    exact chained.supersededOnce
  commanded := by
    rw [createOpenCommand_decisions]
    intro command listed linked named
    rcases mem_createOpenCommand listed with before | ⟨rfl, _⟩
    · exact chained.commanded command before linked named
    · exact settles linked named
  commandOnce := by
    intro left leftListed right rightListed linked leftNamed rightNamed
    rcases mem_createOpenCommand leftListed with leftOld | ⟨leftNew, leftFirst⟩
    · rcases mem_createOpenCommand rightListed with rightOld | ⟨rightNew, rightFirst⟩
      · exact chained.commandOnce left leftOld right rightOld linked leftNamed rightNamed
      · rw [rightNew] at rightNamed
        exact absurd leftNamed (rightFirst left leftOld linked rightNamed)
    · rcases mem_createOpenCommand rightListed with rightOld | ⟨rightNew, _⟩
      · rw [leftNew] at leftNamed
        exact absurd rightNamed (leftFirst right rightOld linked leftNamed)
      · rw [leftNew, rightNew]

theorem chained_insertManualOpening {commandId : Nat} {operatorUserId : UserId} {reason : String}
    {captured : Option Nat} {createdAt : Moment} (chained : Chained journal) :
    Chained (insertManualOpening journal barrierId commandId decisionId operatorUserId reason
      captured createdAt) := { chained with }

end

section

variable (journal : Journal) (time : Moment) (data : AnprIngestInput)
  (normalized : Option String) (engine : EngineDecision) (decided : Verdict)

theorem recordEvent_cameraEvents :
    (recordEvent journal time data normalized engine decided).1.cameraEvents =
      (insertCameraEvent journal data normalized).cameraEvents := by
  unfold recordEvent
  dsimp only
  split
  · rfl
  · rw [createOpenCommand_cameraEvents]
    rfl

theorem recordEvent_decisions :
    (recordEvent journal time data normalized engine decided).1.decisions =
      (insertInitial journal journal.cameraEvents.nextKey decided.decision engine
        decided.finalStatus decided.reviewDeadlineAt).decisions := by
  unfold recordEvent
  dsimp only
  split
  · rfl
  · rw [createOpenCommand_decisions]
    rfl

theorem recordEvent_answer :
    (recordEvent journal time data normalized engine decided).2.decision = decided.decision ∧
      (recordEvent journal time data normalized engine decided).2.status =
        decided.finalStatus := by
  unfold recordEvent
  dsimp only
  split <;> exact ⟨rfl, rfl⟩

end

end

/-- The rows a transaction has read as waiting and is about to write over. -/
def Work.inHand : Work → List AccessDecision
  | .moving _ _ current _ => [current]
  | .checking _ _ _ lapsed => lapsed
  | .opening _ _ _ lapsed => lapsed
  | .refusing _ _ lapsed => lapsed
  | .expiring current _ _ _ => [current]
  | _ => []

def Work.reads (equipment : Equipment) (journal : Journal) : Work → List AccessDecision
  | .settling request _ _ _ => (latestForEvent journal request.eventId).toList
  | .sweeping request _ now => expiredPendingForBarrier journal equipment request.barrierId now
  | .rechecking decisionId _ _ _ => (journal.decisions.find? decisionId).toList
  | _ => []

structure InHand (journal : Journal) (rows : List AccessDecision) : Prop where
  awaits : ∀ row ∈ rows, Awaits journal row
  distinct : (rows.map (·.id)).Nodup

/-- A transaction keeps the chain and every waiting row that is not in its hand. -/
structure Keeps (journal : Journal) (hand : List AccessDecision) (changed : Journal) : Prop where
  chained : Chained changed
  others : ∀ row, Awaits journal row → row.id ∉ hand.map (·.id) → Awaits changed row

section

variable {equipment : Equipment} {journal changed : Journal} {time : Moment}
  {hand : List AccessDecision}

theorem inHand_nil : InHand journal [] := ⟨by simp, by simp⟩

theorem inHand_singleton {row : AccessDecision} (awaits : Awaits journal row) :
    InHand journal [row] := ⟨by simpa using awaits, by simp⟩

theorem inHand_filter {condition : AccessDecision → Bool}
    (waiting : ∀ row ∈ journal.decisions.rows, condition row = true → Awaits journal row) :
    InHand journal (journal.decisions.rows.filter condition) := by
  refine ⟨fun row kept => ?_, ?_⟩
  · obtain ⟨listed, fits⟩ := List.mem_filter.mp kept
    exact waiting row listed fits
  · exact journal.decisions.unique.sublist (List.filter_sublist.map _)

theorem Keeps.refl (chained : Chained journal) : Keeps journal hand journal :=
  ⟨chained, fun _ awaits _ => awaits⟩

theorem Keeps.congr (keeps : Keeps journal hand changed) {beside : Journal}
    (chained : Chained beside) (same : beside.decisions = changed.decisions) :
    Keeps journal hand beside :=
  ⟨chained, fun row awaits outside => (keeps.others row awaits outside).congr same⟩

theorem keeps_insertTransition {newStatus : DecisionStatus} {newDecision : DecisionType}
    {operator : Option UserId} (chained : Chained journal) (awaits : Awaits journal current)
    (settles : newStatus ≠ .pendingReview) :
    Keeps journal [current]
      (insertTransition journal current newStatus newDecision operator now) := by
  refine ⟨chained_insertTransition chained awaits settles, fun row waiting outside => ?_⟩
  exact awaits_insertTransition waiting fun same => outside (by simp [same])

theorem keeps_expireRows {rows : List AccessDecision} (chained : Chained journal)
    (inHand : InHand journal rows) : Keeps journal rows (expireRows journal now rows) := by
  induction rows generalizing journal with
  | nil => exact .refl chained
  | cons current rest ih =>
    obtain ⟨awaits, distinct⟩ := inHand
    obtain ⟨alone, apart⟩ := List.nodup_cons.mp distinct
    have first : Keeps journal [current] (expireRow now journal current) :=
      keeps_insertTransition chained (awaits current List.mem_cons_self) (by decide)
    have later : InHand (expireRow now journal current) rest := by
      refine ⟨fun row listed => ?_, apart⟩
      apply first.others row (awaits row (List.mem_cons_of_mem _ listed))
      intro same
      have own : row.id = current.id := by simpa using same
      exact alone (List.mem_map.mpr ⟨row, listed, own⟩)
    have swept := ih first.chained later
    refine ⟨swept.chained, fun row waiting outside => ?_⟩
    rw [List.map_cons, List.mem_cons, not_or] at outside
    apply swept.others row _ outside.2
    exact first.others row waiting (by simpa using outside.1)

theorem keeps_createOpenCommand {expiresAt : Moment} (keeps : Keeps journal hand changed)
    (settles : ∀ linked, decisionId = some linked → ∃ row ∈ changed.decisions.rows,
      row.id = linked ∧ row.status ≠ .pendingReview) :
    Keeps journal hand
      (createOpenCommand changed decisionId controllerId barrierId expiresAt).1 :=
  keeps.congr (chained_createOpenCommand keeps.chained settles) createOpenCommand_decisions

theorem keeps_insertManualOpening {commandId : Nat} {operatorUserId : UserId} {reason : String}
    {captured : Option Nat} {createdAt : Moment} (keeps : Keeps journal hand changed) :
    Keeps journal hand (insertManualOpening changed barrierId commandId decisionId operatorUserId
      reason captured createdAt) :=
  keeps.congr (chained_insertManualOpening keeps.chained) rfl

theorem Resolution.settles (resolution : Resolution) : resolution.status ≠ .pendingReview := by
  cases resolution <;> rintro ⟨⟩

theorem keeps_commitResolution {request : ResolveRequest} (chained : Chained journal)
    (awaits : Awaits journal current) (resolution : Resolution) :
    Keeps journal [current]
      (commitResolution journal time request now current resolution).1 := by
  have moved : Keeps journal [current] (insertTransition journal current resolution.status
      resolution.decision (resolution.operator request.operatorUserId) now) :=
    keeps_insertTransition chained awaits resolution.settles
  cases resolution with
  | expire | deny => exact moved
  | manualOpen barrierId controllerId reason =>
    apply keeps_insertManualOpening
    apply keeps_createOpenCommand moved
    intro linked named
    exact ⟨_, mem_insertTransition.mpr (.inr rfl), Option.some.inj named, by rintro ⟨⟩⟩

theorem keeps_commitOpening {request : ManualOpenRequest} {lapsed : List AccessDecision}
    (chained : Chained journal) (inHand : InHand journal lapsed) :
    Keeps journal lapsed (commitOpening journal time request controllerId now lapsed).1 := by
  apply keeps_insertManualOpening
  apply keeps_createOpenCommand (keeps_expireRows chained inHand)
  intro linked named
  cases named

theorem keeps_recordEvent {data : AnprIngestInput} {normalized : Option String}
    {engine : EngineDecision} {verdict : Verdict} (chained : Chained journal) :
    Keeps journal [] (recordEvent journal time data normalized engine verdict).1 := by
  have inserted : Chained (insertCameraEvent journal data normalized) := chained_insertCameraEvent chained
  have decided : Keeps journal [] (insertInitial (insertCameraEvent journal data normalized)
      journal.cameraEvents.nextKey verdict.decision engine verdict.finalStatus
      verdict.reviewDeadlineAt) := by
    refine ⟨chained_insertInitial inserted ?_ ?_, fun row awaits _ => ?_⟩
    · exact ⟨_, (Table.mem_insert (cameraEvent_id data normalized)).mpr (.inr rfl), rfl⟩
    · intro row listed same
      obtain ⟨event, present, own⟩ := chained.received row listed
      have older := Table.lt_nextKey present
      omega
    · exact awaits_insertInitial (awaits.congr rfl)
  unfold recordEvent
  dsimp only
  split
  · exact decided
  · next barrierId opened =>
      apply keeps_createOpenCommand decided
      intro linked named
      refine ⟨_, mem_insertInitial.mpr (.inr rfl), Option.some.inj named, ?_⟩
      have allowed : verdict.finalStatus = .allowed := by
        unfold openedBy at opened
        split at opened
        · next both => exact both.2
        · cases opened
      intro pending
      have both := allowed.symm.trans pending
      cases both

theorem keeps_perform {key : Nat} {work : Work} (chained : Chained journal)
    (inHand : InHand journal work.inHand) :
    Keeps journal work.inHand (perform equipment journal time key work).1 := by
  cases work with
  | receiving | settling | checking | rechecking =>
    simp only [perform]
    split <;> exact .refl chained
  | deciding | sweeping => exact .refl chained
  | recording data normalized engine verdict =>
    simp only [perform, commitEvent]
    split
    · exact .refl chained
    · exact keeps_recordEvent chained
  | moving request resolution current started =>
    exact keeps_commitResolution chained (inHand.awaits current List.mem_cons_self) resolution
  | opening request controllerId started lapsed => exact keeps_commitOpening chained inHand
  | refusing eventId started lapsed => exact keeps_expireRows chained inHand
  | expiring current rest count started =>
    exact keeps_insertTransition chained (inHand.awaits current List.mem_cons_self) (by decide)

end

end InfrasafeBot.AccessControl
