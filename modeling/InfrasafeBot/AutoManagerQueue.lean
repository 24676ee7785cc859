import Mathlib.Algebra.Order.Floor.Div
import Mathlib.Data.Prod.Lex
import InfrasafeBot.Library.Rotation
import InfrasafeBot.Library.Table
import InfrasafeBot.RequestWorkflow.Types

/-! The queues of the auto-manager: a forward scan from a keyset cursor, a wrap-around
scan for the free slots, and the cursor left at the last request taken
(`services/auto_manager/orchestrator.py`). -/

set_option autoImplicit false

namespace InfrasafeBot.AutoManagerQueue

open Library RequestWorkflow

section

variable {Number : Type} [LinearOrder Number]

/-- The columns of a request that the queues read. `Number` is the request number in
the order of the database. -/
structure QueuedRequest (Number : Type) where
  requestNumber : Number
  createdAt : Moment
  status : RequestStatus
  executorId : Option UserId
  assignmentType : Option AssignmentType
  deriving DecidableEq

inductive Queue where
  | main
  | residual

def mainQueueFilter (row : QueuedRequest Number) : Bool :=
  [RequestStatus.new, .inProgress].contains row.status && row.executorId.isNone &&
    row.assignmentType = some .group

def residualQueueFilter (row : QueuedRequest Number) : Bool :=
  row.status = .new && row.executorId.isNone && row.assignmentType.isNone

def queueFilter : Queue → QueuedRequest Number → Bool
  | .main => mainQueueFilter
  | .residual => residualQueueFilter

def rowKey (row : QueuedRequest Number) : Moment × Number := (row.createdAt, row.requestNumber)

/-- What the process keeps between ticks. -/
structure AutoManager (Number : Type) where
  cursorMain : Option (Moment × Number)
  cursorResidual : Option (Moment × Number)
  retryAfter : Number → Option Moment

def AutoManager.getCursor (manager : AutoManager Number) : Queue → Option (Moment × Number)
  | .main => manager.cursorMain
  | .residual => manager.cursorResidual

def AutoManager.setCursor (manager : AutoManager Number) (queue : Queue)
    (value : Moment × Number) : AutoManager Number :=
  match queue with
  | .main => { manager with cursorMain := some value }
  | .residual => { manager with cursorResidual := some value }

def wrapBatchMultiplier : Nat := 5

def isAfter (cursor : Option (Moment × Number)) (row : QueuedRequest Number) : Bool :=
  match cursor with
  | none => true
  | some (createdAt, number) =>
    createdAt < row.createdAt || row.createdAt = createdAt && number < row.requestNumber

def inOrder (rows : List (QueuedRequest Number)) : List (QueuedRequest Number) :=
  rows.insertionSort fun left right =>
    left.createdAt < right.createdAt ∨
      left.createdAt = right.createdAt ∧ left.requestNumber ≤ right.requestNumber

def isCoolingDown (manager : AutoManager Number) (now : Moment) (row : QueuedRequest Number) : Bool :=
  match manager.retryAfter row.requestNumber with
  | some cooldownUntil => now < cooldownUntil
  | none => false

def forwardScan (slots : Nat) (coolingDown : QueuedRequest Number → Bool) :
    List (QueuedRequest Number) → List (QueuedRequest Number) → List (QueuedRequest Number)
  | [], taken => taken
  | row :: rest, taken =>
    if slots ≤ taken.length then taken
    else if coolingDown row then forwardScan slots coolingDown rest taken
    else forwardScan slots coolingDown rest (taken ++ [row])

def wrapScan (remaining : Nat) (coolingDown : QueuedRequest Number → Bool) :
    List (QueuedRequest Number) → Nat → List (QueuedRequest Number) → List (QueuedRequest Number)
  | [], _, taken => taken
  | row :: rest, extraTaken, taken =>
    if remaining ≤ extraTaken then taken
    else if (taken.map (·.requestNumber)).contains row.requestNumber then
      wrapScan remaining coolingDown rest extraTaken taken
    else if coolingDown row then wrapScan remaining coolingDown rest extraTaken taken
    else wrapScan remaining coolingDown rest (extraTaken + 1) (taken ++ [row])

abbrev Requests (Number : Type) := Table (QueuedRequest.requestNumber : QueuedRequest Number → Number)

def takenOf (requests : Requests Number) (manager : AutoManager Number) (now : Moment)
    (queue : Queue) (slots : Nat) : List (QueuedRequest Number) :=
  let queued := requests.rows.filter (queueFilter queue)
  let cursor := manager.getCursor queue
  let phase1Rows := (inOrder (queued.filter (isAfter cursor))).take (slots * wrapBatchMultiplier)
  let taken := forwardScan slots (isCoolingDown manager now) phase1Rows []
  if taken.length < slots then
    let remaining := slots - taken.length
    let wrapBatchSize := max (slots * wrapBatchMultiplier) (slots + remaining)
    wrapScan remaining (isCoolingDown manager now) ((inOrder queued).take wrapBatchSize) 0 taken
  else taken

/-- `_process_queue`; what `_process_item` does to the requests and the cooldowns is a
parameter. -/
def processQueue
    (processItem : Queue → Moment → QueuedRequest Number →
      Requests Number × (Number → Option Moment) → Requests Number × (Number → Option Moment))
    (requests : Requests Number) (manager : AutoManager Number) (now : Moment) (queue : Queue)
    (slots : Nat) : Requests Number × AutoManager Number :=
  let taken := takenOf requests manager now queue slots
  let (requests, retryAfter) :=
    taken.foldl (fun found row => processItem queue now row found) (requests, manager.retryAfter)
  let manager := { manager with retryAfter }
  match taken.getLast? with
  | some last => (requests, manager.setCursor queue (last.createdAt, last.requestNumber))
  | none => (requests, manager)

end

section

variable {Number : Type} {slots remaining : Nat}
  {coolingDown : QueuedRequest Number → Bool} {rows taken : List (QueuedRequest Number)}

theorem forwardScan_eq :
    forwardScan slots coolingDown rows taken =
      taken ++ (rows.filter fun row => !coolingDown row).take (slots - taken.length) := by
  induction rows generalizing taken with
  | nil => simp [forwardScan]
  | cons row rest ih =>
    unfold forwardScan
    by_cases full : slots ≤ taken.length
    · rw [if_pos full, Nat.sub_eq_zero_of_le full, List.take_zero, List.append_nil]
    · obtain ⟨spare, free⟩ : ∃ spare, slots - taken.length = spare + 1 :=
        ⟨slots - taken.length - 1, by omega⟩
      rw [if_neg full]
      cases cooling : coolingDown row with
      | true => rw [if_pos rfl, ih, List.filter_cons_of_neg (by simp [cooling])]
      | false =>
        have left : slots - (taken ++ [row]).length = spare := by
          rw [List.length_append, List.length_singleton]
          omega
        rw [if_neg Bool.false_ne_true, ih, List.filter_cons_of_pos (by simp [cooling]),
          free, left, List.take_succ_cons, List.append_assoc, List.singleton_append]

variable [LinearOrder Number]

theorem wrapScan_eq {extraTaken : Nat} (distinct : (rows.map (·.requestNumber)).Nodup) :
    wrapScan remaining coolingDown rows extraTaken taken =
      taken ++ (rows.filter fun row =>
        !(taken.map (·.requestNumber)).contains row.requestNumber && !coolingDown row).take
          (remaining - extraTaken) := by
  induction rows generalizing extraTaken taken with
  | nil => simp [wrapScan]
  | cons row rest ih =>
    obtain ⟨fresh, tail⟩ := List.nodup_cons.mp distinct
    unfold wrapScan
    by_cases full : remaining ≤ extraTaken
    · rw [if_pos full, Nat.sub_eq_zero_of_le full, List.take_zero, List.append_nil]
    · obtain ⟨spare, free⟩ : ∃ spare, remaining - extraTaken = spare + 1 :=
        ⟨remaining - extraTaken - 1, by omega⟩
      rw [if_neg full]
      cases listed : (taken.map (·.requestNumber)).contains row.requestNumber with
      | true => rw [if_pos rfl, ih tail, List.filter_cons_of_neg (by rw [listed]; simp)]
      | false =>
        rw [if_neg Bool.false_ne_true]
        cases cooling : coolingDown row with
        | true => rw [if_pos rfl, ih tail, List.filter_cons_of_neg (by rw [cooling]; simp)]
        | false =>
          have left : remaining - (extraTaken + 1) = spare := by omega
          have same : (rest.filter fun other =>
              !((taken ++ [row]).map (·.requestNumber)).contains other.requestNumber &&
                !coolingDown other) =
              rest.filter fun other =>
                !(taken.map (·.requestNumber)).contains other.requestNumber &&
                  !coolingDown other := by
            refine List.filter_congr ?_
            intro other member
            have different : other.requestNumber ≠ row.requestNumber := by
              intro equal
              exact fresh (List.mem_map.mpr ⟨other, member, equal⟩)
            simp [different]
          rw [if_neg Bool.false_ne_true, ih tail, same, free, left,
            List.filter_cons_of_pos (by rw [listed, cooling]; rfl), List.take_succ_cons,
            List.append_assoc, List.singleton_append]

end

section

variable {Number : Type} [LinearOrder Number] {cursor : Option (Moment × Number)}
  {row : QueuedRequest Number} {rows : List (QueuedRequest Number)}

def orderKey (row : QueuedRequest Number) : Moment ×ₗ Number := toLex (row.createdAt, row.requestNumber)

theorem isAfter_eq_past : isAfter cursor row = past orderKey (cursor.map toLex) row := by
  cases cursor with
  | none => rfl
  | some start =>
    obtain ⟨createdAt, number⟩ := start
    simp only [isAfter, past, Option.map_some, orderKey, Prod.Lex.toLex_lt_toLex]
    by_cases later : createdAt < row.createdAt
    · simp [later]
    · simp [later, eq_comm]

theorem inOrder_perm : (inOrder rows).Perm rows := List.perm_insertionSort _ rows

theorem precedes_iff {left right : QueuedRequest Number} :
    left.createdAt < right.createdAt ∨
        left.createdAt = right.createdAt ∧ left.requestNumber ≤ right.requestNumber ↔
      orderKey left ≤ orderKey right := by
  simp only [orderKey, Prod.Lex.toLex_le_toLex]

theorem inOrder_sorted (distinct : (rows.map (·.requestNumber)).Nodup) :
    (inOrder rows).Pairwise fun left right => orderKey left < orderKey right := by
  have ordered : (inOrder rows).Pairwise fun left right => orderKey left ≤ orderKey right := by
    unfold inOrder
    simp only [precedes_iff]
    have total : Std.Total fun left right : QueuedRequest Number =>
        orderKey left ≤ orderKey right := ⟨fun left right => le_total _ _⟩
    have trans : IsTrans (QueuedRequest Number) fun left right =>
        orderKey left ≤ orderKey right := ⟨fun _ _ _ => le_trans⟩
    exact List.pairwise_insertionSort _ rows
  have numbers : ((inOrder rows).map (·.requestNumber)).Nodup :=
    ((inOrder_perm.map _).nodup_iff).mpr distinct
  have apart : (inOrder rows).Pairwise fun left right =>
      left.requestNumber ≠ right.requestNumber := List.pairwise_map.mp numbers
  refine (ordered.and apart).imp ?_
  rintro left right ⟨below, different⟩
  exact lt_of_le_of_ne below fun same => different (congrArg (fun key => (ofLex key).2) same)

theorem inOrder_filter (distinct : (rows.map (·.requestNumber)).Nodup)
    (condition : QueuedRequest Number → Bool) :
    inOrder (rows.filter condition) = (inOrder rows).filter condition := by
  have selected : ((rows.filter condition).map (·.requestNumber)).Nodup :=
    (List.filter_sublist.map _).nodup distinct
  refine List.Perm.eq_of_pairwise ?_ (inOrder_sorted selected)
    ((inOrder_sorted distinct).filter condition)
    (inOrder_perm.trans (inOrder_perm.filter condition).symm)
  intro left right _ _ below above
  exact absurd (below.trans above) (lt_irrefl _)

end

section

variable {Number : Type} [LinearOrder Number] {requests : Requests Number}
  {manager : AutoManager Number} {now : Moment} {queue : Queue} {slots : Nat}

def queueOf (requests : Requests Number) (queue : Queue) : List (QueuedRequest Number) :=
  inOrder (requests.rows.filter (queueFilter queue))

def cursorKey (manager : AutoManager Number) (queue : Queue) : Option (Moment ×ₗ Number) :=
  (manager.getCursor queue).map toLex

def AllReady (requests : Requests Number) (manager : AutoManager Number) (now : Moment)
    (queue : Queue) : Prop :=
  ∀ row ∈ queueOf requests queue, isCoolingDown manager now row = false

omit [LinearOrder Number] in
theorem queued_distinct : ((requests.rows.filter (queueFilter queue)).map (·.requestNumber)).Nodup :=
  (List.filter_sublist.map _).nodup requests.unique

theorem queueOf_sorted :
    (queueOf requests queue).Pairwise fun left right => orderKey left < orderKey right :=
  inOrder_sorted queued_distinct

theorem queueOf_distinct : ((queueOf requests queue).map (·.requestNumber)).Nodup :=
  ((inOrder_perm.map _).nodup_iff).mpr queued_distinct

/-- The forward scan takes the first requests after the cursor: the batch is no shorter
than the slots. -/
theorem forward_taken (ready : AllReady requests manager now queue) :
    forwardScan slots (isCoolingDown manager now)
        ((inOrder ((requests.rows.filter (queueFilter queue)).filter
          (isAfter (manager.getCursor queue)))).take (slots * wrapBatchMultiplier)) [] =
      ((queueOf requests queue).filter (past orderKey (cursorKey manager queue))).take slots := by
  have after : isAfter (manager.getCursor queue) = past orderKey (cursorKey manager queue) :=
    funext fun _ => isAfter_eq_past
  rw [inOrder_filter queued_distinct, after]
  change forwardScan slots _ (((queueOf requests queue).filter _).take _) [] = _
  generalize rest : (queueOf requests queue).filter (past orderKey (cursorKey manager queue)) = later
  have all : ((later.take (slots * wrapBatchMultiplier)).filter
      fun row => !isCoolingDown manager now row) = later.take (slots * wrapBatchMultiplier) := by
    refine List.filter_eq_self.mpr ?_
    intro row member
    rw [← rest] at member
    simp [ready row (List.mem_of_mem_filter (List.mem_of_mem_take member))]
  rw [forwardScan_eq, all, List.nil_append, List.length_nil, Nat.sub_zero, List.take_take,
    Nat.min_eq_left (Nat.le_mul_of_pos_right slots (by decide))]

/-- The wrap-around scan takes the first requests up to the cursor: its batch holds the
free slots, and the requests taken already stand behind. -/
theorem wrap_taken {earlier later : List (QueuedRequest Number)} {batch : Nat}
    {coolingDown : QueuedRequest Number → Bool}
    (distinct : ((earlier ++ later).map (·.requestNumber)).Nodup)
    (ready : ∀ row ∈ earlier, coolingDown row = false) {remaining : Nat}
    (enough : remaining ≤ batch) :
    wrapScan remaining coolingDown ((earlier ++ later).take batch) 0 later =
      later ++ earlier.take remaining := by
  have sublist : (((earlier ++ later).take batch).map (·.requestNumber)).Nodup :=
    ((List.take_sublist _ _).map _).nodup distinct
  rw [wrapScan_eq sublist, Nat.sub_zero, List.take_append, List.filter_append]
  rw [List.map_append, List.nodup_append] at distinct
  have fresh : ((earlier.take batch).filter fun row =>
      !(later.map (·.requestNumber)).contains row.requestNumber && !coolingDown row) =
      earlier.take batch := by
    refine List.filter_eq_self.mpr ?_
    intro row member
    have listed := List.mem_of_mem_take member
    have absent : row.requestNumber ∉ later.map (·.requestNumber) := fun again =>
      distinct.2.2 _ (List.mem_map_of_mem listed) _ again rfl
    simp only [ready row listed, Bool.not_false, Bool.and_true, Bool.not_eq_true',
      List.contains_eq_mem, decide_eq_false_iff_not]
    exact absent
  have stale : ((later.take (batch - earlier.length)).filter fun row =>
      !(later.map (·.requestNumber)).contains row.requestNumber && !coolingDown row) = [] := by
    refine List.filter_eq_nil_iff.mpr ?_
    intro row member
    have listed : row.requestNumber ∈ later.map (·.requestNumber) :=
      List.mem_map_of_mem (List.mem_of_mem_take member)
    simp only [List.contains_iff_mem.mpr listed, Bool.not_true, Bool.false_and,
      Bool.false_eq_true, not_false_eq_true]
  rw [fresh, stale, List.append_nil, List.take_take, Nat.min_eq_left enough]

theorem takenOf_eq (ready : AllReady requests manager now queue) :
    takenOf requests manager now queue slots =
      served orderKey slots (cursorKey manager queue) (queueOf requests queue) := by
  have split : queueOf requests queue = _ ++
      (queueOf requests queue).filter (past orderKey (cursorKey manager queue)) :=
    split_at_cursor queueOf_sorted
  have distinct := @queueOf_distinct Number _ requests queue
  unfold takenOf
  simp only [forward_taken ready]
  change (if _ then wrapScan _ _ ((queueOf requests queue).take _) 0 _ else _) = _
  unfold served rotatedRows
  generalize (queueOf requests queue).filter (past orderKey (cursorKey manager queue)) = later at split ⊢
  generalize ((queueOf requests queue).filter
    fun row => !past orderKey (cursorKey manager queue) row) = earlier at split ⊢
  rw [split] at distinct
  by_cases full : slots ≤ later.length
  · have taken : (later.take slots).length = slots := by
      rw [List.length_take, Nat.min_eq_left full]
    rw [taken, if_neg (Nat.lt_irrefl _), List.take_append_of_le_length full]
  · have short : later.take slots = later := List.take_of_length_le (Nat.le_of_not_le full)
    have ready' : ∀ row ∈ earlier, isCoolingDown manager now row = false := fun row member =>
      ready row (split ▸ List.mem_append_left _ member)
    rw [short, if_pos (Nat.lt_of_not_le full), split, wrap_taken distinct ready' (by omega),
      List.take_append, short]

end

section

variable {Number : Type} [LinearOrder Number]
  (processItem : Queue → Moment → QueuedRequest Number →
    Requests Number × (Number → Option Moment) → Requests Number × (Number → Option Moment))
  {queue : Queue} {slots : Nat}

structure Tick (Number : Type) where
  requests : Requests Number
  retryAfter : Number → Option Moment
  now : Moment

def Tick.found (tick : Tick Number) (manager : AutoManager Number) : AutoManager Number :=
  { manager with retryAfter := tick.retryAfter }

def runTicks (queue : Queue) (slots : Nat) :
    AutoManager Number → List (Tick Number) → List (List (QueuedRequest Number))
  | _, [] => []
  | manager, tick :: rest =>
    let found := tick.found manager
    let (_, next) := processQueue processItem tick.requests found tick.now queue slots
    takenOf tick.requests found tick.now queue slots :: runTicks queue slots next rest

structure Steady (queue : Queue) (rows : List (QueuedRequest Number)) (tick : Tick Number) : Prop where
  unchanged : (tick.requests.rows.filter (queueFilter queue)).Perm rows
  ready : ∀ row ∈ rows, ∀ cooldownUntil,
    tick.retryAfter row.requestNumber = some cooldownUntil → cooldownUntil ≤ tick.now

omit [LinearOrder Number] in
theorem getCursor_setCursor {manager : AutoManager Number} {value : Moment × Number} :
    (manager.setCursor queue value).getCursor queue = some value := by
  cases queue <;> rfl

theorem cursor_after (requests : Requests Number) (manager : AutoManager Number)
    (now : Moment) :
    (processQueue processItem requests manager now queue slots).2.getCursor queue =
      match (takenOf requests manager now queue slots).getLast? with
      | some last => some (rowKey last)
      | none => manager.getCursor queue := by
  simp only [processQueue]
  cases (takenOf requests manager now queue slots).getLast? with
  | none => cases queue <;> rfl
  | some last => exact getCursor_setCursor

theorem cursorKey_after (requests : Requests Number) (manager : AutoManager Number)
    (now : Moment) :
    cursorKey (processQueue processItem requests manager now queue slots).2 queue =
      advance orderKey (cursorKey manager queue)
        (takenOf requests manager now queue slots) := by
  unfold cursorKey advance
  rw [cursor_after]
  cases (takenOf requests manager now queue slots).getLast? with
  | none | some => rfl

theorem Steady.queueOf_eq {rows : List (QueuedRequest Number)} {tick : Tick Number}
    (steady : Steady queue rows tick) : queueOf tick.requests queue = inOrder rows := by
  have distinct : (rows.map (·.requestNumber)).Nodup :=
    ((steady.unchanged.map _).nodup_iff).mp queued_distinct
  refine List.Perm.eq_of_pairwise ?_ queueOf_sorted (inOrder_sorted distinct)
    (inOrder_perm.trans (steady.unchanged.trans inOrder_perm.symm))
  intro left right _ _ below above
  exact absurd (below.trans above) (lt_irrefl _)

theorem Steady.allReady {rows : List (QueuedRequest Number)} {tick : Tick Number}
    {manager : AutoManager Number} (steady : Steady queue rows tick) :
    AllReady tick.requests (tick.found manager) tick.now queue := by
  intro row member
  have listed : row ∈ rows := steady.unchanged.subset (inOrder_perm.subset member)
  unfold isCoolingDown Tick.found
  cases cooldown : tick.retryAfter row.requestNumber with
  | none => simp [cooldown]
  | some cooldownUntil =>
    have over_ := steady.ready row listed cooldownUntil cooldown
    simp [cooldown, over_]

theorem runTicks_eq_rounds {rows : List (QueuedRequest Number)} {ticks : List (Tick Number)}
    {manager : AutoManager Number} (steady : ∀ tick ∈ ticks, Steady queue rows tick) :
    runTicks processItem queue slots manager ticks =
      rounds orderKey (inOrder rows) (cursorKey manager queue)
        (List.replicate ticks.length slots) := by
  induction ticks generalizing manager with
  | nil => rfl
  | cons tick rest ih =>
    obtain ⟨here, later⟩ := List.forall_mem_cons.mp steady
    have taken : takenOf tick.requests (tick.found manager) tick.now queue slots =
        served orderKey slots (cursorKey manager queue) (inOrder rows) := by
      rw [takenOf_eq here.allReady, here.queueOf_eq]
      rfl
    have moved : cursorKey (processQueue processItem tick.requests (tick.found manager)
        tick.now queue slots).2 queue =
        advance orderKey (cursorKey manager queue)
          (served orderKey slots (cursorKey manager queue) (inOrder rows)) := by
      rw [cursorKey_after, taken]
      rfl
    rw [List.length_cons, List.replicate_succ]
    simp only [runTicks, rounds]
    rw [taken, ih later, moved]

/-- Without cooldowns a tick takes the first requests of the queue rotated to start just
after the cursor, once each, and leaves the cursor at the last of them; over ticks that
find the queue unchanged, every request is taken within ⌈n / slots⌉ of them. -/
theorem round_robin (positive : 1 ≤ slots) :
    (∀ requests manager now, AllReady requests manager now queue →
      let rows := queueOf requests queue
      let taken := takenOf requests manager now queue slots
      taken = (rotatedRows orderKey (cursorKey manager queue) rows).take (min slots rows.length) ∧
        taken.Nodup ∧
        (processQueue processItem requests manager now queue slots).2.getCursor queue =
          match taken.getLast? with
          | some last => some (rowKey last)
          | none => manager.getCursor queue) ∧
    ∀ manager (rows : List (QueuedRequest Number)) (ticks : List (Tick Number)),
      (∀ tick ∈ ticks, Steady queue rows tick) → rows.length ⌈/⌉ slots ≤ ticks.length →
      ∀ row ∈ rows, ∃ taken ∈ runTicks processItem queue slots manager
        (ticks.take (rows.length ⌈/⌉ slots)), row ∈ taken := by
  constructor
  · intro requests manager now ready rows taken
    have rotated : taken = (rotatedRows orderKey (cursorKey manager queue) rows).take slots :=
      takenOf_eq ready
    refine ⟨?_, ?_, cursor_after processItem requests manager now⟩
    · have total : (rotatedRows orderKey (cursorKey manager queue) rows).length = rows.length :=
        length_rotation
      rw [rotated, List.take_eq_take_iff, total]
      omega
    · rw [rotated]
      have distinct : rows.Nodup := queueOf_distinct.of_map _
      exact (List.take_sublist _ _).nodup (rotation_perm.nodup_iff.mpr distinct)
  · intro manager rows ticks steady long row member
    have kept : ∀ tick ∈ ticks.take (rows.length ⌈/⌉ slots), Steady queue rows tick :=
      fun tick listed => steady tick (List.mem_of_mem_take listed)
    rw [runTicks_eq_rounds processItem kept, List.length_take, Nat.min_eq_left long]
    cases ticks with
    | nil =>
      have none_ : rows.length ⌈/⌉ slots ≤ 0 := long
      rw [ceilDiv_le_iff_le_smul positive] at none_
      simp only [smul_zero, nonpos_iff_eq_zero, List.length_eq_zero_iff] at none_
      rw [none_] at member
      cases member
    | cons tick rest =>
      have distinct : (rows.map (·.requestNumber)).Nodup :=
        (((steady tick List.mem_cons_self).unchanged.map _).nodup_iff).mp queued_distinct
      refine rounds_serve_all (inOrder_sorted distinct) ?_ (inOrder_perm.symm.subset member)
      have covered : rows.length ≤ slots • (rows.length ⌈/⌉ slots) := le_smul_ceilDiv positive
      rw [smul_eq_mul, Nat.mul_comm] at covered
      rwa [inOrder_perm.length_eq, List.sum_replicate_nat]

end

def sampleRequests : Requests Nat :=
  ⟨[⟨3, 20, .new, none, none⟩, ⟨1, 10, .new, none, none⟩, ⟨2, 20, .new, none, none⟩], by decide⟩

/-- The residual cursor stands at a request that has left the queue. -/
def sampleManager : AutoManager Nat := ⟨none, some (15, 7), fun _ => none⟩

example : (takenOf sampleRequests sampleManager 0 .residual 2).map (·.requestNumber) = [2, 3] := by
  decide

theorem sample_rounds :
    (takenOf sampleRequests sampleManager 0 .residual 2).Nodup ∧
      ∀ row ∈ sampleRequests.rows,
        ∃ taken ∈ runTicks (fun _ _ _ found => found) .residual 2 sampleManager
          (List.replicate 2 ⟨sampleRequests, fun _ => none, 0⟩), row ∈ taken := by
  have fair := @round_robin Nat _ (fun _ _ _ found => found) .residual 2 (by decide)
  refine ⟨(fair.1 sampleRequests sampleManager 0 fun _ _ => rfl).2.1, ?_⟩
  refine fair.2 sampleManager sampleRequests.rows
    (List.replicate 2 ⟨sampleRequests, fun _ => none, 0⟩) ?_ (by decide)
  intro tick member
  rw [List.eq_of_mem_replicate member]
  exact ⟨by decide, fun _ _ _ => nofun⟩

end InfrasafeBot.AutoManagerQueue
