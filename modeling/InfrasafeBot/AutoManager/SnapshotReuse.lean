import InfrasafeBot.AutoManager.Orchestrator
import InfrasafeBot.WorkflowRefinement

/-! One snapshot of the duty serves a whole tick: what the tick counts on agrees with the
database after every request. -/

set_option autoImplicit false

namespace InfrasafeBot.AutoManager

open Library RequestWorkflow RequestLifecycle WorkflowPatches WorkflowRefinement

variable {surroundings : Surroundings} {now : Moment} {item : QueueItem}

section

variable {deployment : WebhookSender.Deployment} {db committed : Database}
  {outcome : WorkflowRunner.CommandOutcome} {executor : UserId} {action : Action}
  {payload : Payload}

/-- A request that has been nobody's open work is flushed, as that of the executor, if any. -/
structure Placed (db committed : Database) (number : RequestNumber) (executor : Option UserId)
    (before after : Request) : Prop where
  found : db.requests.find? number = some before
  stored : committed.requests = db.requests.put after
  numbered : after.requestNumber = number
  idle : ∀ user, loads user before = false
  working : ∀ user, loads user after = decide (executor = some user)
  typed : after.assignmentType.isSome = true

theorem status_of_canon_new {state : RequestState} (canon : normalizeStatus state = .new) :
    state.status = .new := by
  unfold normalizeStatus at canon
  split at canon
  · cases canon
  · split at canon
    · cases canon
    · exact canon

theorem loads_of_new {row : Request} (status : row.status = .new) (user : UserId) :
    loads user row = false := by
  simp [loads, status, openLoadStatuses]

theorem loads_of_unassigned {row : Request} (unassigned : row.executorId = none) (user : UserId) :
    loads user row = false := by
  simp [loads, unassigned]

theorem command_of_read {reading : WorkflowRunner.Reading}
    (read : ReadUnderLock db (commandCall surroundings now item action payload) reading) :
    reading.command = ⟨s!"auto_manager:{item.requestNumber}", action, payload⟩ :=
  (Except.ok.inj read.resolved).symm

theorem moved_of_accepted (filled : ∃ entry ∈ payload, isBlank entry.2 = false)
    (accepted : WorkflowRunner.runCommand deployment db
      (commandCall surroundings now item action payload) = .ok (outcome, committed)) :
    ∃ reading changed, Move deployment db (commandCall surroundings now item action payload)
        reading changed committed ∧
      committed.requests = db.requests.put changed := by
  obtain ⟨reading, read, ⟨_, silent, _⟩ | ⟨changed, move, flushed, _⟩⟩ := runCommand_flushed accepted
  · obtain ⟨entry, listed, given⟩ := filled
    rw [command_of_read read] at silent
    rw [silent.2 entry listed] at given
    cases given
  · exact ⟨reading, changed, move, flushed⟩

theorem idle_of_planned {reading : WorkflowRunner.Reading} {changed : Request}
    (move : Move deployment db (commandCall surroundings now item action payload) reading changed committed)
    (known : action ∈ [Action.systemAutoPromote, .systemDispatchAssign, .assignGroup])
    (user : UserId) : loads user reading.row = false := by
  obtain ⟨_, _, started, right, _⟩ := planTransition_eq_ok_iff.mp move.planned
  have authorized := authorize_of_authorizes right
  have request : reading.snap.request = WorkflowRunner.newStateFrom reading.row := by
    rw [move.read.snapshot]
    rfl
  rw [command_of_read move.read] at started authorized
  rw [request] at started
  have fresh : normalizeStatus (WorkflowRunner.newStateFrom reading.row) = .new →
      loads user reading.row = false :=
    fun canon => loads_of_new (status_of_canon_new canon) user
  simp only [List.mem_cons, List.not_mem_nil, or_false] at known
  rcases known with rfl | rfl | rfl
  · have free : reading.snap.request.executorId.isNone = true := (Bool.and_eq_true_iff.mp authorized).2
    rw [request] at free
    exact loads_of_unassigned (Option.isNone_iff_eq_none.mp free) user
  · exact fresh (List.mem_singleton.mp started)
  · exact fresh (List.mem_singleton.mp started)

theorem placed_of_assigned
    (either : action = .systemAutoPromote ∨ action = .systemDispatchAssign)
    (accepted : WorkflowRunner.runCommand deployment db
      (commandCall surroundings now item action [("executor_id", .int executor)]) =
        .ok (outcome, committed)) :
    ∃ before after, Placed db committed item.requestNumber (some executor) before after := by
  obtain ⟨reading, changed, move, flushed⟩ := moved_of_accepted ⟨_, List.mem_singleton_self _, rfl⟩ accepted
  have card : rowCard changed [] 0 =
      { (rowCard reading.row [] 0).moveTo .inProgress with
        executor := some executor, assignmentType := some .individual, group := none } := by
    rw [move.row, command_of_read move.read]
    rcases either with rfl | rfl
    · exact changed_promote rfl
    · exact changed_assign (.inl rfl) rfl rfl rfl
  have executorSet : changed.executorId = some executor := congrArg Card.executor card
  have status : changed.status = .inProgress := congrArg Card.status card
  have type : changed.assignmentType = some .individual := congrArg Card.assignmentType card
  refine ⟨reading.row, changed, move.read.found, flushed, Table.key_of_find? move.stored,
    idle_of_planned move ?_, fun user => ?_, ?_⟩
  · rcases either with rfl | rfl <;> decide
  · simp [loads, executorSet, status, openLoadStatuses]
  · rw [type]
    rfl

theorem placed_of_offered
    (accepted : WorkflowRunner.runCommand deployment db
      (commandCall surroundings now item .assignGroup [("group", .ofOption .str item.specialization)])
        = .ok (outcome, committed)) :
    ∃ before after, Placed db committed item.requestNumber none before after := by
  obtain ⟨reading, read, ⟨_, silent, _⟩ | ⟨changed, move, flushed, _⟩⟩ := runCommand_flushed accepted
  · rw [command_of_read read] at silent
    obtain ⟨⟨same, _⟩ | ⟨same, _⟩, _⟩ := silent <;> cases same
  · obtain ⟨valid, canonical, _⟩ := planTransition_eq_ok_iff.mp move.planned
    rw [command_of_read move.read] at valid canonical
    obtain ⟨group, given, _, unassigned⟩ := group_of_validate valid canonical
    have card : rowCard changed [] 0 =
        { (rowCard reading.row [] 0).moveTo .new with
          executor := none, assignmentType := some .group, group := some group } := by
      rw [move.row, command_of_read move.read]
      exact changed_assignGroup given unassigned
    have type : changed.assignmentType = some .group := congrArg Card.assignmentType card
    refine ⟨reading.row, changed, move.read.found, flushed, Table.key_of_find? move.stored,
      idle_of_planned move (by decide), fun user => ?_, ?_⟩
    · rw [loads_of_unassigned (congrArg Card.executor card) user]
      simp
    · rw [type]
      rfl

theorem Placed.openLoad_eq {number : RequestNumber} {holder : Option UserId}
    {before after : Request} (placed : Placed db committed number holder before after)
    (user : UserId) :
    openLoad committed user = openLoad db user + if holder = some user then 1 else 0 := by
  have counted := Table.rowcount_put (loads user) (placed.numbered ▸ placed.found)
  rw [placed.idle, placed.working, ← placed.stored] at counted
  unfold openLoad
  simpa using counted

end

variable {tick next : Tick}

/-- The snapshot is the one a fresh query would give. -/
def Current (surroundings : Surroundings) (now : Moment) (tick : Tick) : Prop :=
  tick.snapshot = buildDutySnapshot surroundings.roster tick.database now

def pick (tick : Tick) (item : QueueItem) : Option User :=
  selectExecutor tick.snapshot item.specialization []

theorem pick_best (current : Current surroundings now tick) :
    BestOnDuty surroundings.roster tick.database now item.specialization [] (pick tick item) := by
  unfold pick
  rw [show tick.snapshot = _ from current]
  exact selectExecutor_best

theorem buildDutySnapshot_congr {roster : Roster} {db committed : Database}
    (same : ∀ user, openLoad committed user = openLoad db user) :
    buildDutySnapshot roster committed now = buildDutySnapshot roster db now := by
  unfold buildDutySnapshot
  congr 1
  funext user
  split
  · exact same user
  · rfl

theorem bumpLoad_eq {roster : Roster} {db committed : Database} {executor : UserId}
    (counted : executor ∈ executorIds roster)
    (same : ∀ user, openLoad committed user =
      openLoad db user + if some executor = some user then 1 else 0) :
    (buildDutySnapshot roster db now).bumpLoad executor = buildDutySnapshot roster committed now := by
  have loaded : (buildDutySnapshot roster db now).loadByUser executor = openLoad db executor :=
    loadByUser_of_mem counted
  have loads : Function.update (buildDutySnapshot roster db now).loadByUser executor
      (openLoad db executor + 1) = (buildDutySnapshot roster committed now).loadByUser := by
    funext user
    by_cases listed : user ∈ executorIds roster
    · rw [loadByUser_of_mem listed, same user]
      by_cases own : user = executor
      · simp [own]
      · rw [Function.update_of_ne own, loadByUser_of_mem listed]
        simp [Ne.symm own]
    · have other : user ≠ executor := fun own => listed (own ▸ counted)
      rw [Function.update_of_ne other, loadByUser_of_not_mem listed, loadByUser_of_not_mem listed]
  unfold DutySnapshot.bumpLoad
  rw [loaded, loads]
  rfl

theorem withoutDuty_kept : (tick.withoutDuty surroundings now item).database = tick.database ∧
    (tick.withoutDuty surroundings now item).snapshot = tick.snapshot := by
  unfold Tick.withoutDuty Tick.queueManagerNotify
  split <;> exact ⟨rfl, rfl⟩

section

variable (current : Current surroundings now tick)

include current

theorem withoutDuty_current :
    Current surroundings now (tick.withoutDuty surroundings now item) := by
  unfold Current
  rw [withoutDuty_kept.1, withoutDuty_kept.2]
  exact current

theorem assignCandidate_current {action : Action} {candidate : User}
    (either : action = .systemAutoPromote ∨ action = .systemDispatchAssign)
    (chosen : pick tick item = some candidate) :
    Current surroundings now
      (assignCandidate surroundings now tick item action candidate).2 := by
  unfold assignCandidate
  split
  · next accepted =>
      obtain ⟨_, _, placed⟩ := placed_of_assigned either accepted
      have counted := ((pick_best current).least candidate chosen).1.counted
      change tick.snapshot.bumpLoad candidate.id = _
      rw [show tick.snapshot = _ from current]
      exact bumpLoad_eq counted placed.openLoad_eq
  · exact current

theorem offerToGroup_current :
    Current surroundings now (offerToGroup surroundings now tick item).2 := by
  unfold offerToGroup
  split
  · next committed accepted =>
      obtain ⟨_, _, placed⟩ := placed_of_offered accepted
      have same : ∀ user, openLoad committed user = openLoad tick.database user :=
        fun user => (placed.openLoad_eq user).trans (by simp)
      refine withoutDuty_current ?_
      change tick.snapshot = buildDutySnapshot surroundings.roster committed now
      rw [buildDutySnapshot_congr same]
      exact current
  · split
    · exact withoutDuty_current current
    · exact current

theorem processItem_current (item : QueueItem) :
    Current surroundings now (processItem surroundings now tick item).2 := by
  have begun : Current surroundings now
      { tick with processed := tick.processed ++ [item.requestNumber] } := current
  unfold processItem
  dsimp only
  split
  · unfold processMainItem
    split
    · exact withoutDuty_current begun
    · next candidate chosen => exact assignCandidate_current begun (.inl rfl) chosen
  · unfold processResidualItem
    split
    · exact offerToGroup_current begun
    · next candidate chosen => exact assignCandidate_current begun (.inr rfl) chosen

end

section

variable {items : List QueueItem} {outcome : Except WorkflowError Unit}

theorem startTick_current (db : Database) (orchestrator : Orchestrator) :
    Current surroundings now (startTick surroundings now db orchestrator) := rfl

/-- What the choice of an executor for an item has come to, and where. -/
structure Choice where
  database : Database
  item : QueueItem
  executor : Option User

def choices (surroundings : Surroundings) (now : Moment) (prepare : Tick → Tick) :
    List QueueItem → Tick → List Choice
  | [], _ => []
  | item :: rest, tick =>
    ⟨tick.database, item, pick (prepare tick) item⟩ ::
      match processItem surroundings now (prepare tick) item with
      | (.ok (), next) => choices surroundings now prepare rest next
      | (.error _, _) => []

def Tick.rebuilt (surroundings : Surroundings) (now : Moment) (tick : Tick) : Tick :=
  { tick with snapshot := buildDutySnapshot surroundings.roster tick.database now }

theorem Current.rebuilt_eq (current : Current surroundings now tick) :
    tick.rebuilt surroundings now = tick := by
  unfold Tick.rebuilt
  rw [← show tick.snapshot = _ from current]

theorem choices_nil {prepare : Tick → Tick} : choices surroundings now prepare [] tick = [] := rfl

theorem choices_cons {prepare : Tick → Tick} {item : QueueItem} :
    choices surroundings now prepare (item :: items) tick =
      ⟨tick.database, item, pick (prepare tick) item⟩ ::
        match processItem surroundings now (prepare tick) item with
        | (.ok (), next) => choices surroundings now prepare items next
        | (.error _, _) => [] := rfl

theorem choices_best (current : Current surroundings now tick) :
    choices surroundings now id items tick =
        choices surroundings now (Tick.rebuilt surroundings now) items tick ∧
      ∀ choice ∈ choices surroundings now id items tick,
        BestOnDuty surroundings.roster choice.database now choice.item.specialization []
          choice.executor := by
  induction items generalizing tick with
  | nil =>
    rw [choices_nil, choices_nil]
    exact ⟨rfl, List.forall_mem_nil _⟩
  | cons item rest ih =>
    have stepped := processItem_current current item
    rw [choices_cons, choices_cons, current.rebuilt_eq, id_eq]
    cases reached : processItem surroundings now tick item with
    | mk result next =>
      rw [reached] at stepped
      cases result with
      | error error =>
        refine ⟨rfl, fun choice listed => ?_⟩
        rw [List.mem_singleton.mp listed]
        exact pick_best current
      | ok value =>
        obtain ⟨same, best⟩ := ih stepped
        refine ⟨congrArg _ same, fun choice listed => ?_⟩
        rcases List.mem_cons.mp listed with rfl | later
        · exact pick_best current
        · exact best choice later

/-- Whatever items a tick processes, its one snapshot chooses the executors that a fresh one
before each item would, and each of them is the best on duty at that point. -/
theorem one_snapshot_serves (surroundings : Surroundings) (now : Moment) (db : Database)
    (orchestrator : Orchestrator) (items : List QueueItem) :
    let start := startTick surroundings now db orchestrator
    choices surroundings now id items start =
        choices surroundings now (Tick.rebuilt surroundings now) items start ∧
      ∀ choice ∈ choices surroundings now id items start,
        BestOnDuty surroundings.roster choice.database now choice.item.specialization []
          choice.executor :=
  choices_best (startTick_current db orchestrator)

end

end InfrasafeBot.AutoManager
