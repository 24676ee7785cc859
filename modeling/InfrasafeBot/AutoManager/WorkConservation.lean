import InfrasafeBot.AutoManager.SnapshotReuse

/-! What a tick of the auto-manager gets done: how many requests it takes at least and at
most, and which. -/

set_option autoImplicit false

namespace InfrasafeBot.AutoManager

open Library RequestWorkflow AutoManagerQueue

section

variable {Number : Type} [LinearOrder Number] {requests : Requests Number}
  {manager : AutoManager Number} {now : Moment} {queue : Queue} {slots : Nat}
  {row : QueuedRequest Number}

def forwardBatch (requests : Requests Number) (manager : AutoManager Number) (queue : Queue)
    (slots : Nat) : List (QueuedRequest Number) :=
  (inOrder ((requests.rows.filter (queueFilter queue)).filter
    (isAfter (manager.getCursor queue)))).take (slots * wrapBatchMultiplier)

def headBatch (requests : Requests Number) (queue : Queue) (slots : Nat) : List (QueuedRequest Number) :=
  (queueOf requests queue).take (slots * wrapBatchMultiplier)

def forwardTaken (requests : Requests Number) (manager : AutoManager Number) (now : Moment)
    (queue : Queue) (slots : Nat) : List (QueuedRequest Number) :=
  ((forwardBatch requests manager queue slots).filter fun row => !isCoolingDown manager now row).take slots

theorem forwardScan_batch : forwardScan slots (isCoolingDown manager now)
    (forwardBatch requests manager queue slots) [] =
      forwardTaken requests manager now queue slots := by
  rw [forwardScan_eq, List.nil_append, List.length_nil, Nat.sub_zero]
  rfl

def wrapBatch (requests : Requests Number) (manager : AutoManager Number) (now : Moment)
    (queue : Queue) (slots : Nat) (taken : List (QueuedRequest Number)) :
    List (QueuedRequest Number) :=
  ((queueOf requests queue).take
    (max (slots * wrapBatchMultiplier) (slots + (slots - taken.length)))).filter fun row =>
      !(taken.map (·.requestNumber)).contains row.requestNumber && !isCoolingDown manager now row

theorem takenOf_split : takenOf requests manager now queue slots =
    forwardTaken requests manager now queue slots ++
      (wrapBatch requests manager now queue slots
        (forwardTaken requests manager now queue slots)).take
          (slots - (forwardTaken requests manager now queue slots).length) := by
  have forward := @forwardScan_batch Number _ requests manager now queue slots
  unfold forwardBatch at forward
  unfold takenOf
  simp only [forward]
  split
  · have distinct := ((List.take_sublist (max (slots * wrapBatchMultiplier)
      (slots + (slots - (forwardTaken requests manager now queue slots).length)))
        (queueOf requests queue)).map (·.requestNumber)).nodup queueOf_distinct
    exact wrapScan_eq distinct
  · next full => rw [Nat.sub_eq_zero_of_le (Nat.le_of_not_lt full), List.take_zero, List.append_nil]

theorem takenOf_length_le : (takenOf requests manager now queue slots).length ≤ slots := by
  have first : (forwardTaken requests manager now queue slots).length ≤ slots := List.length_take_le _ _
  have second := List.length_take_le (slots - (forwardTaken requests manager now queue slots).length)
    (wrapBatch requests manager now queue slots (forwardTaken requests manager now queue slots))
  rw [takenOf_split, List.length_append]
  omega

theorem forwardBatch_distinct : ((forwardBatch requests manager queue slots).map
    (·.requestNumber)).Nodup := by
  have selected : (((requests.rows.filter (queueFilter queue)).filter
      (isAfter (manager.getCursor queue))).map (·.requestNumber)).Nodup :=
    (List.filter_sublist.map _).nodup queued_distinct
  refine ((List.take_sublist _ _).map _).nodup ?_
  exact ((inOrder_perm.map _).nodup_iff).mpr selected

theorem takenOf_distinct : ((takenOf requests manager now queue slots).map (·.requestNumber)).Nodup := by
  rw [takenOf_split, List.map_append, List.nodup_append]
  refine ⟨?_, ?_, ?_⟩
  · exact (((List.take_sublist _ _).trans List.filter_sublist).map _).nodup forwardBatch_distinct
  · exact (((List.take_sublist _ _).trans (List.filter_sublist.trans
      (List.take_sublist _ _))).map _).nodup queueOf_distinct
  · intro number forward other wrapped same
    obtain ⟨row, listed, rfl⟩ := List.mem_map.mp wrapped
    have fresh := (Bool.and_eq_true_iff.mp (List.mem_filter.mp (List.mem_of_mem_take listed)).2).1
    rw [Bool.not_eq_true', List.contains_eq_mem, decide_eq_false_iff_not] at fresh
    exact fresh (same ▸ forward)

theorem mem_takenOf (listed : row ∈ takenOf requests manager now queue slots) :
    row ∈ requests.rows ∧ queueFilter queue row = true ∧
      isCoolingDown manager now row = false := by
  rw [takenOf_split, List.mem_append] at listed
  rcases listed with forward | wrapped
  · obtain ⟨member, ready⟩ := List.mem_filter.mp (List.mem_of_mem_take forward)
    have queued := List.mem_of_mem_filter (inOrder_perm.subset (List.mem_of_mem_take member))
    obtain ⟨stored, fits⟩ := List.mem_filter.mp queued
    exact ⟨stored, fits, by simpa using ready⟩
  · obtain ⟨member, ready⟩ := List.mem_filter.mp (List.mem_of_mem_take wrapped)
    obtain ⟨stored, fits⟩ := List.mem_filter.mp
      (inOrder_perm.subset (List.mem_of_mem_take member))
    exact ⟨stored, fits, by simpa using (Bool.and_eq_true_iff.mp ready).2⟩

/-- A request that is ready in one of the two batches keeps a slot from staying empty. -/
theorem takenOf_ne_nil (positive : 0 < slots)
    (seen : row ∈ forwardBatch requests manager queue slots ∨ row ∈ headBatch requests queue slots)
    (ready : isCoolingDown manager now row = false) :
    takenOf requests manager now queue slots ≠ [] := by
  rw [takenOf_split]
  intro nothing
  obtain ⟨forward, wrapped⟩ := List.append_eq_nil_iff.mp nothing
  have some : slots ≠ 0 := Nat.ne_of_gt positive
  rcases seen with behind | first
  · have empty := (List.take_eq_nil_iff.mp forward).resolve_left some
    have passed := List.filter_eq_nil_iff.mp empty row behind
    simp [ready] at passed
  · rw [forward, List.length_nil, Nat.sub_zero] at wrapped
    have empty := (List.take_eq_nil_iff.mp wrapped).resolve_left some
    have member := (List.take_sublist_take_left (Nat.le_max_left (slots * wrapBatchMultiplier)
      (slots + (slots - 0)))).subset first
    have passed := List.filter_eq_nil_iff.mp empty row member
    simp [ready] at passed

end

section

variable {surroundings : Surroundings} {now : Moment} {tick next : Tick} {item : QueueItem}
  {number : RequestNumber}

/-- What handling a request does to a tick: it flushes the row of the request or none, and
may put the request into cooldown. -/
structure Handled (now : Moment) (tick next : Tick) (item : QueueItem) : Prop where
  logged : next.processed = tick.processed
  written : next.database = tick.database ∨ ∃ executor before after,
    Placed tick.database next.database item.requestNumber executor before after
  cooled : next.queues = tick.queues ∨ next.queues = (tick.coolDown now item).queues

theorem Handled.untouched : Handled now tick tick item := ⟨rfl, .inl rfl, .inl rfl⟩

theorem withoutDuty_handled : Handled now tick (tick.withoutDuty surroundings now item) item := by
  refine ⟨?_, .inl withoutDuty_kept.1, .inr ?_⟩
  all_goals
    unfold Tick.withoutDuty Tick.queueManagerNotify
    split <;> rfl

theorem assignCandidate_handled {action : Action} {candidate : User}
    (either : action = .systemAutoPromote ∨ action = .systemDispatchAssign) :
    Handled now tick (assignCandidate surroundings now tick item action candidate).2 item := by
  unfold assignCandidate
  split
  · next accepted =>
      obtain ⟨_, _, placed⟩ := placed_of_assigned either accepted
      exact ⟨rfl, .inr ⟨_, _, _, placed⟩, .inl rfl⟩
  · exact .untouched

theorem offerToGroup_handled : Handled now tick (offerToGroup surroundings now tick item).2 item := by
  unfold offerToGroup
  split
  · next committed accepted =>
      obtain ⟨before, after, placed⟩ := placed_of_offered accepted
      have waits := @withoutDuty_handled surroundings now
        ({ tick with database := committed }.refreshKanban item) item
      refine ⟨waits.logged, .inr ⟨none, before, after, ?_⟩, waits.cooled⟩
      rw [withoutDuty_kept.1]
      exact placed
  · split
    · exact withoutDuty_handled
    · exact .untouched

theorem processItem_handled :
    Handled now { tick with processed := tick.processed ++ [item.requestNumber] }
      (processItem surroundings now tick item).2 item := by
  unfold processItem
  dsimp only
  split
  · unfold processMainItem
    split
    · exact withoutDuty_handled
    · exact assignCandidate_handled (.inl rfl)
  · unfold processResidualItem
    split
    · exact offerToGroup_handled
    · exact assignCandidate_handled (.inr rfl)

def CoolsAt (now : Moment) (number : RequestNumber) (tick : Tick) : Prop :=
  ∃ cooldownUntil, tick.queues.retryAfter number = some cooldownUntil ∧ now < cooldownUntil

theorem isCoolingDown_iff {row : QueuedRequest RequestNumber} :
    isCoolingDown tick.queues now row = true ↔ CoolsAt now row.requestNumber tick := by
  unfold isCoolingDown CoolsAt
  cases tick.queues.retryAfter row.requestNumber <;> simp

theorem Handled.coolsAt (handled : Handled now tick next item) (cools : CoolsAt now number tick) :
    CoolsAt now number next := by
  obtain ⟨cooldownUntil, entered, later⟩ := cools
  unfold CoolsAt
  rcases handled.cooled with same | cooled
  · rw [same]
    exact ⟨cooldownUntil, entered, later⟩
  · rw [cooled]
    by_cases own : number = item.requestNumber
    · refine ⟨now + retryCooldown, ?_, Int.lt_add_of_pos_right now (by decide)⟩
      rw [own]
      exact Function.update_self ..
    · refine ⟨cooldownUntil, ?_, later⟩
      exact (Function.update_of_ne own ..).trans entered

def TypedAt (number : RequestNumber) (tick : Tick) : Prop :=
  ∃ row, tick.database.requests.find? number = some row ∧ row.assignmentType.isSome = true

theorem Handled.typedAt (handled : Handled now tick next item) (typed : TypedAt number tick) :
    TypedAt number next := by
  obtain ⟨row, stored, given⟩ := typed
  unfold TypedAt
  rcases handled.written with same | ⟨executor, before, after, placed⟩
  · rw [same]
    exact ⟨row, stored, given⟩
  · rw [placed.stored]
    by_cases own : number = after.requestNumber
    · refine ⟨after, ?_, placed.typed⟩
      rw [own]
      exact Table.find?_put_self (placed.numbered ▸ placed.found)
    · exact ⟨row, (Table.find?_put_of_ne own).trans stored, given⟩

end

section

variable {surroundings : Surroundings} {now : Moment} {tick next : Tick} {queue : Queue}
  {slots : Nat} {number : RequestNumber}

theorem processItems_log {items : List QueueItem} :
    ∃ front, front <+: items.map (·.requestNumber) ∧
      (processItems surroundings now items tick).2.processed = tick.processed ++ front ∧
      (front = [] → items = []) := by
  induction items generalizing tick with
  | nil => exact ⟨[], List.prefix_rfl, (List.append_nil _).symm, fun _ => rfl⟩
  | cons item rest ih =>
    have logged := (@processItem_handled surroundings now tick item).logged
    unfold processItems
    cases reached : processItem surroundings now tick item with
    | mk outcome next =>
      rw [reached] at logged
      cases outcome with
      | error error =>
        exact ⟨[item.requestNumber], ⟨rest.map (·.requestNumber), rfl⟩, logged,
          fun empty => absurd empty (List.cons_ne_nil _ _)⟩
      | ok value =>
        obtain ⟨front, first, processed, _⟩ := @ih next
        refine ⟨item.requestNumber :: front, List.prefix_cons_inj _ |>.mpr first, ?_,
          fun empty => absurd empty (List.cons_ne_nil _ _)⟩
        change (processItems surroundings now rest next).2.processed = _
        rw [processed, logged, List.append_assoc, List.singleton_append]

def numbersOf (surroundings : Surroundings) (now : Moment) (queue : Queue) (slots : Nat)
    (tick : Tick) : List RequestNumber :=
  (takenOf (queuedRequests surroundings tick.database) tick.queues now queue slots).map
    (·.requestNumber)

theorem processQueue_log :
    ∃ front, front <+: numbersOf surroundings now queue slots tick ∧
      (processQueue surroundings now queue slots tick).2.processed = tick.processed ++ front ∧
      (front = [] → numbersOf surroundings now queue slots tick = []) := by
  unfold processQueue numbersOf
  dsimp only
  generalize takenOf (queuedRequests surroundings tick.database) tick.queues now queue slots = taken
  obtain ⟨front, first, processed, nothing⟩ := @processItems_log surroundings now tick
    (taken.map (itemOf surroundings tick.database queue))
  rw [List.map_map] at first
  refine ⟨front, first, ?_, ?_⟩
  · split
    · next reached _ =>
        rw [reached] at processed
        exact processed
    · next reached _ =>
        rw [reached] at processed
        exact processed
  · intro empty
    rw [List.map_eq_nil_iff.mp (nothing empty), List.map_nil]

theorem processQueue_of_nothing (nothing : numbersOf surroundings now queue slots tick = []) :
    processQueue surroundings now queue slots tick = (.ok (), tick) := by
  unfold processQueue
  rw [List.map_eq_nil_iff.mp nothing]
  rfl

theorem numbersOf_zero : numbersOf surroundings now queue 0 tick = [] := by
  rw [numbersOf, List.eq_nil_of_length_eq_zero (Nat.le_zero.mp takenOf_length_le), List.map_nil]

theorem processQueue_coolsAt (cools : CoolsAt now number tick) :
    CoolsAt now number (processQueue surroundings now queue slots tick).2 :=
  processQueue_keeps (fun _ queue _ held => by cases queue <;> exact held)
    (fun _ _ held => processItem_handled.coolsAt held) cools

theorem processQueue_typedAt (typed : TypedAt number tick) :
    TypedAt number (processQueue surroundings now queue slots tick).2 :=
  processQueue_keeps (fun _ _ _ held => held)
    (fun _ _ held => processItem_handled.typedAt held) typed

theorem processQueue_guarded :
    (if 0 < slots then processQueue surroundings now queue slots tick else (.ok (), tick)) =
      processQueue surroundings now queue slots tick := by
  split
  · rfl
  · next spent =>
      obtain rfl := Nat.eq_zero_of_not_pos spent
      exact (processQueue_of_nothing numbersOf_zero).symm

theorem numbersOf_length_le : (numbersOf surroundings now queue slots tick).length ≤ slots := by
  rw [numbersOf, List.length_map]
  exact takenOf_length_le

theorem numbersOf_distinct : (numbersOf surroundings now queue slots tick).Nodup := takenOf_distinct

theorem ready_of_numbersOf (listed : number ∈ numbersOf surroundings now queue slots tick) :
    ¬ CoolsAt now number tick := by
  obtain ⟨row, taken, rfl⟩ := List.mem_map.mp listed
  rw [← isCoolingDown_iff, (mem_takenOf taken).2.2]
  exact Bool.false_ne_true

theorem stored_of_numbersOf (listed : number ∈ numbersOf surroundings now queue slots tick) :
    ∃ row, tick.database.requests.find? number = some row ∧
      queueFilter queue (queuedRow surroundings row) = true := by
  obtain ⟨taken, inside, rfl⟩ := List.mem_map.mp listed
  obtain ⟨stored, selected, _⟩ := mem_takenOf inside
  obtain ⟨row, member, rfl⟩ := List.mem_map.mp stored
  exact ⟨row, Table.find?_of_mem member, selected⟩

theorem typedAt_of_main (listed : number ∈ numbersOf surroundings now .main slots tick) :
    TypedAt number tick := by
  obtain ⟨row, stored, selected⟩ := stored_of_numbersOf listed
  have type : row.assignmentType = some .group := of_decide_eq_true (Bool.and_eq_true_iff.mp selected).2
  exact ⟨row, stored, by rw [type]; rfl⟩

theorem untyped_of_residual (listed : number ∈ numbersOf surroundings now .residual slots tick) :
    ¬ TypedAt number tick := by
  obtain ⟨row, stored, selected⟩ := stored_of_numbersOf listed
  have free : row.assignmentType = none := Option.isNone_iff_eq_none.mp (Bool.and_eq_true_iff.mp selected).2
  intro ⟨other, found, given⟩
  obtain rfl := Option.some.inj (stored.symm.trans found)
  rw [free] at given
  cases given

end

section

variable {surroundings : Surroundings} {config : Config} {now : Moment} {tick : Tick}
  {mainSlots reserved : Nat}

structure TwoQueues (surroundings : Surroundings) (now : Moment) (mainSlots reserved : Nat)
    (tick between : Tick) (front rest : List RequestNumber) : Prop where
  main : front <+: numbersOf surroundings now .main mainSlots tick
  residual : rest <+: numbersOf surroundings now .residual reserved between
  cooled : ∀ number, CoolsAt now number tick → CoolsAt now number between
  typed : ∀ number, TypedAt number tick → TypedAt number between
  idle : front ++ rest = [] → numbersOf surroundings now .main mainSlots tick = [] ∧
    numbersOf surroundings now .residual reserved tick = []

theorem processQueues_log (started : tick.processed = []) :
    ∃ between front rest,
      (processQueues surroundings now mainSlots reserved tick).2.processed = front ++ rest ∧
        TwoQueues surroundings now mainSlots reserved tick between front rest := by
  obtain ⟨front, first, logged, nothing⟩ := @processQueue_log surroundings now tick .main mainSlots
  have cooled := fun number (held : CoolsAt now number tick) =>
    @processQueue_coolsAt surroundings now tick .main mainSlots number held
  have typed := fun number (held : TypedAt number tick) =>
    @processQueue_typedAt surroundings now tick .main mainSlots number held
  have untouched := @processQueue_of_nothing surroundings now tick .main mainSlots
  rw [started, List.nil_append] at logged
  unfold processQueues
  rw [processQueue_guarded]
  cases reached : processQueue surroundings now .main mainSlots tick with
  | mk outcome next =>
    rw [reached] at logged cooled typed untouched
    dsimp only at logged cooled typed ⊢
    cases outcome with
    | error error =>
      -- A queue that gives nothing raises nothing.
      refine ⟨next, front, [], by rw [List.append_nil, logged],
        first, List.nil_prefix, cooled, typed, fun empty => ?_⟩
      have failed := untouched (nothing (List.append_eq_nil_iff.mp empty).1)
      cases failed
    | ok value =>
      obtain ⟨rest, second, continued, later⟩ := @processQueue_log surroundings now next .residual reserved
      rw [logged] at continued
      dsimp only
      rw [processQueue_guarded]
      refine ⟨next, front, rest, continued, first, second, cooled, typed, fun empty => ?_⟩
      obtain ⟨before, after⟩ := List.append_eq_nil_iff.mp empty
      have same : next = tick := congrArg Prod.snd (untouched (nothing before))
      rw [← same]
      exact ⟨same ▸ nothing before, later after⟩

namespace TwoQueues

variable {between : Tick} {front rest : List RequestNumber}
  (log : TwoQueues surroundings now mainSlots reserved tick between front rest)

include log

theorem length_le : (front ++ rest).length ≤ mainSlots + reserved := by
  have first := log.main.length_le.trans numbersOf_length_le
  have second := log.residual.length_le.trans numbersOf_length_le
  rw [List.length_append]
  exact Nat.add_le_add first second

theorem distinct : (front ++ rest).Nodup := by
  refine List.nodup_append.mpr ⟨log.main.sublist.nodup numbersOf_distinct,
    log.residual.sublist.nodup numbersOf_distinct, ?_⟩
  intro number early other late same
  have typed := log.typed number (typedAt_of_main (log.main.subset early))
  exact untyped_of_residual (log.residual.subset late) (same ▸ typed)

theorem ready : ∀ number ∈ front ++ rest, ¬ CoolsAt now number tick := by
  intro number listed
  rcases List.mem_append.mp listed with early | late
  · exact ready_of_numbersOf (log.main.subset early)
  · intro cools
    exact ready_of_numbersOf (log.residual.subset late) (log.cooled number cools)

end TwoQueues

def windows (requests : Requests RequestNumber) (manager : AutoManager RequestNumber)
    (queue : Queue) (slots : Nat) : List (QueuedRequest RequestNumber) :=
  forwardBatch requests manager queue slots ++ headBatch requests queue slots

def slotsOf (limit : Nat) (hasResidual : Bool) : Queue → Nat
  | .main => limit - residualSlots limit hasResidual
  | .residual => residualSlots limit hasResidual

def leastLimit : Queue → Nat
  | .main => 1
  | .residual => 2

theorem slotsOf_pos {limit : Nat} {waiting : Bool} {queue : Queue}
    (enough : leastLimit queue ≤ limit) (listed : queue = .residual → waiting = true) :
    0 < slotsOf limit waiting queue := by
  cases queue with
  | main =>
    have one : 1 ≤ limit := enough
    unfold slotsOf residualSlots
    dsimp only
    split <;> omega
  | residual =>
    have two : 2 ≤ limit := enough
    unfold slotsOf residualSlots
    dsimp only
    rw [listed rfl, if_pos rfl]
    omega

theorem slots_split {limit : Nat} {waiting : Bool} :
    slotsOf limit waiting .main + slotsOf limit waiting .residual = limit := by
  unfold slotsOf residualSlots
  dsimp only
  split <;> omega

variable {db : Database} {orchestrator : Orchestrator} {queue : Queue} {slots : Nat}
  {row : QueuedRequest RequestNumber} {number : RequestNumber}

theorem getCursor_pruned : ((orchestrator.pruneExpired now).queues).getCursor queue =
    orchestrator.queues.getCursor queue := by
  cases queue <;> rfl

theorem coolsAt_start : CoolsAt now number (startTick surroundings now db orchestrator) ↔
    ∃ cooldownUntil, orchestrator.queues.retryAfter number = some cooldownUntil ∧
      now < cooldownUntil := by
  change (∃ cooldownUntil, (orchestrator.queues.retryAfter number).filter (now < ·) =
    some cooldownUntil ∧ now < cooldownUntil) ↔ _
  simp only [Option.filter_eq_some_iff, decide_eq_true_eq, and_assoc, and_self]

theorem isCoolingDown_start :
    isCoolingDown (startTick surroundings now db orchestrator).queues now row =
      isCoolingDown orchestrator.queues now row := by
  rw [Bool.eq_iff_iff, isCoolingDown_iff, coolsAt_start]
  unfold isCoolingDown
  cases orchestrator.queues.retryAfter row.requestNumber <;> simp

theorem hasResidual_of_window
    (seen : row ∈ windows (queuedRequests surroundings db) orchestrator.queues .residual slots) :
    hasResidual db surroundings = true := by
  have queued : row ∈ (queuedRequests surroundings db).rows.filter residualQueueFilter := by
    rcases List.mem_append.mp seen with forward | head
    · exact List.mem_of_mem_filter (inOrder_perm.subset (List.mem_of_mem_take forward))
    · exact inOrder_perm.subset (List.mem_of_mem_take head)
  obtain ⟨stored, selected⟩ := List.mem_filter.mp queued
  exact List.any_eq_true.mpr ⟨row, stored, selected⟩

theorem numbersOf_ne_nil (positive : 0 < slots)
    (seen : row ∈ windows (queuedRequests surroundings db) orchestrator.queues queue slots)
    (ready : isCoolingDown orchestrator.queues now row = false) :
    numbersOf surroundings now queue slots (startTick surroundings now db orchestrator) ≠ [] := by
  intro nothing
  refine takenOf_ne_nil positive ?_ (isCoolingDown_start.trans ready)
    (List.map_eq_nil_iff.mp nothing)
  unfold forwardBatch
  change row ∈ (inOrder (((queuedRequests surroundings db).rows.filter (queueFilter queue)).filter
    (isAfter ((orchestrator.pruneExpired now).queues.getCursor queue)))).take _ ∨ _
  rw [getCursor_pruned]
  exact List.mem_append.mp seen

def processedBy (surroundings : Surroundings) (config : Config) (now : Moment) (db : Database)
    (orchestrator : Orchestrator) : List RequestNumber :=
  match dbPhase surroundings config now db orchestrator with
  | some (_, tick) => tick.processed
  | none => []

theorem processedBy_eq (on : config.enabled = true) (active : config.isWindowActive now = true) :
    processedBy surroundings config now db orchestrator =
      (processQueues surroundings now
        (slotsOf config.maxRequestsPerRun (hasResidual db surroundings) .main)
        (slotsOf config.maxRequestsPerRun (hasResidual db surroundings) .residual)
        (startTick surroundings now db orchestrator)).2.processed := by
  unfold processedBy dbPhase
  rw [on, active]
  rfl

theorem processedBy_of_idle (idle : ¬ (config.enabled = true ∧ config.isWindowActive now = true)) :
    processedBy surroundings config now db orchestrator = [] := by
  have skipped : (!config.enabled || !config.isWindowActive now) = true := by
    rw [← Bool.not_and, Bool.not_eq_true', Bool.eq_false_iff]
    exact fun both => idle (Bool.and_eq_true_iff.mp both)
  unfold processedBy dbPhase
  rw [if_pos skipped]

/-- A tick processes at most as many requests as it may, each of them once and none in
cooldown; and it processes one if, of the requests it sees of a queue that has a slot, one
is ready. -/
theorem tick_conserves_work (surroundings : Surroundings) (config : Config) (now : Moment)
    (db : Database) (orchestrator : Orchestrator) :
    let done := processedBy surroundings config now db orchestrator
    done.length ≤ config.maxRequestsPerRun ∧ done.Nodup ∧
      (∀ number ∈ done, ∀ cooldownUntil,
        orchestrator.queues.retryAfter number = some cooldownUntil → cooldownUntil ≤ now) ∧
      (config.enabled = true → config.isWindowActive now = true →
        ∀ queue, leastLimit queue ≤ config.maxRequestsPerRun →
          ∀ row ∈ windows (queuedRequests surroundings db) orchestrator.queues queue
              (slotsOf config.maxRequestsPerRun (hasResidual db surroundings) queue),
            isCoolingDown orchestrator.queues now row = false → done ≠ []) := by
  intro done
  by_cases runs : config.enabled = true ∧ config.isWindowActive now = true
  · obtain ⟨between, front, rest, processed, log⟩ := @processQueues_log surroundings now
      (startTick surroundings now db orchestrator)
      (slotsOf config.maxRequestsPerRun (hasResidual db surroundings) .main)
      (slotsOf config.maxRequestsPerRun (hasResidual db surroundings) .residual) rfl
    have same : done = front ++ rest := (processedBy_eq runs.1 runs.2).trans processed
    rw [same]
    refine ⟨log.length_le.trans_eq slots_split, log.distinct, ?_, ?_⟩
    · intro number listed cooldownUntil entered
      refine le_of_not_gt fun later => log.ready number listed ?_
      exact coolsAt_start.mpr ⟨cooldownUntil, entered, later⟩
    · intro _ _ queue enough row seen ready nothing
      have positive := @slotsOf_pos _ (hasResidual db surroundings) queue enough (by
        rintro rfl
        exact hasResidual_of_window seen)
      refine numbersOf_ne_nil positive seen ready ?_
      cases queue with
      | main => exact (log.idle nothing).1
      | residual => exact (log.idle nothing).2
  · have nothing : done = [] := processedBy_of_idle runs
    rw [nothing]
    refine ⟨Nat.zero_le _, List.nodup_nil, nofun, ?_⟩
    intro on active
    exact absurd ⟨on, active⟩ runs

def offeredNumbers : List RequestNumber :=
  ["250101-001", "250101-002", "250101-003", "250101-004", "250101-005", "250101-006"]

def offeredRow (number : RequestNumber) : Request :=
  { Request.created number 7 none .resident with
    assignmentType := some .group, assignedGroup := some "plumber" }

theorem offeredRows_unique : ((offeredNumbers.map offeredRow).map (·.requestNumber)).Nodup := by
  decide

def offeredDatabase : Database where
  requests := ⟨offeredNumbers.map offeredRow, offeredRows_unique⟩
  assignments := .empty
  ratings := .empty
  auditLogs := []
  outbox := .empty

def nobodyOnDuty : Surroundings where
  deployment := ⟨true, "dev", 0, id⟩
  roster := ⟨.empty, []⟩
  userApartments := []
  intake number := ⟨offeredNumbers.idxOf number, "plumbing", none⟩
  clock _ := 0

def oneAtATime : Config where
  enabled := true
  windowStart := 0
  windowEnd := 0
  localTime _ := 0
  maxRequestsPerRun := 1

def allButLast (ready : RequestNumber) : Orchestrator where
  queues := ⟨none, none, fun number => if number = ready then none else some retryCooldown⟩
  notified _ := none

theorem fifth_processed :
    (processedBy nobodyOnDuty oneAtATime 0 offeredDatabase (allButLast "250101-005")) ≠ [] :=
  (tick_conserves_work nobodyOnDuty oneAtATime 0 offeredDatabase
    (allButLast "250101-005")).2.2.2 rfl rfl .main (Nat.le_refl 1)
      (queuedRow nobodyOnDuty (offeredRow "250101-005")) (by decide +kernel) rfl

/-- Behind five requests in cooldown the sixth, which is ready, is not seen. -/
theorem sixth_unseen :
    oneAtATime.enabled = true ∧ oneAtATime.isWindowActive 0 = true ∧
      1 ≤ oneAtATime.maxRequestsPerRun ∧
      (∃ row ∈ queueOf (queuedRequests nobodyOnDuty offeredDatabase) .main,
        isCoolingDown (allButLast "250101-006").queues 0 row = false) ∧
      processedBy nobodyOnDuty oneAtATime 0 offeredDatabase (allButLast "250101-006") = [] := by
  decide +kernel

end

end InfrasafeBot.AutoManager
