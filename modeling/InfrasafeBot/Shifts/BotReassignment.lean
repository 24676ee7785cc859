import InfrasafeBot.Shifts.BookingRuns
import InfrasafeBot.Shifts.TransferRuns

/-! Reassignment in the bot, by the acceptance of a transfer or by a manager, and whether it
leaves every executor on one shift at a time. The overlap test reads the shifts of the new
owner, and nothing locks these until the commit; a missing end is compared with nothing. -/

set_option autoImplicit false

namespace InfrasafeBot.Shifts

open Library Library.Machine RequestWorkflow

/-- A moment of the interval; a shift without an end lasts forever. -/
def Shift.Spans (shift : Shift) (moment : Moment) : Prop :=
  shift.startTime ≤ moment ∧ ∀ ending, shift.endTime = some ending → moment < ending

/-- The intervals have a moment in common. -/
def Shift.meets (shift other : Shift) : Bool :=
  shift.endTime.all (max shift.startTime other.startTime < ·) &&
    other.endTime.all (max shift.startTime other.startTime < ·)

/-- No executor owns two planned or active shifts with intersecting intervals. -/
def Roster.SingleBooked (roster : Roster) : Prop :=
  ∀ left ∈ roster.shifts.rows, ∀ right ∈ roster.shifts.rows, left.id ≠ right.id →
    left.inService = true → right.inService = true →
      ∀ executor, left.userId = some executor → right.userId = some executor →
        ∀ moment, left.Spans moment → ¬ right.Spans moment

/-- One of the two intervals has no end. -/
def openEnded (shift other : Shift) : Bool := shift.endTime.isNone || other.endTime.isNone

section

variable {shift other : Shift}

theorem before_end_iff {ending : Option Moment} {moment : Moment} :
    ending.all (moment < ·) = true ↔ ∀ last, ending = some last → moment < last := by
  cases ending with
  | none | some => simp

theorem Shift.meets_iff : shift.meets other = true ↔ ∃ moment, shift.Spans moment ∧ other.Spans moment := by
  unfold meets
  rw [Bool.and_eq_true, before_end_iff, before_end_iff]
  constructor
  · rintro ⟨first, second⟩
    exact ⟨max shift.startTime other.startTime, ⟨Int.le_max_left _ _, first⟩,
      ⟨Int.le_max_right _ _, second⟩⟩
  · rintro ⟨moment, ⟨begun, first⟩, ⟨started, second⟩⟩
    have later : max shift.startTime other.startTime ≤ moment := Int.max_le.mpr ⟨begun, started⟩
    exact ⟨fun last ends => Int.lt_of_le_of_lt later (first last ends),
      fun last ends => Int.lt_of_le_of_lt later (second last ends)⟩

theorem overlapsBot_of_meets {ending : Moment} (meets : shift.meets other = true)
    (ends : shift.endTime = some ending) (bounded : other.endTime.isSome = true) :
    overlapsBot shift ending other = true := by
  obtain ⟨moment, ⟨begun, first⟩, ⟨started, second⟩⟩ := Shift.meets_iff.mp meets
  obtain ⟨last, otherEnds⟩ := Option.isSome_iff_exists.mp bounded
  have early : other.startTime < ending := Int.lt_of_le_of_lt started (first ending ends)
  have late : shift.startTime < last := Int.lt_of_le_of_lt begun (second last otherEnds)
  simp [overlapsBot, otherEnds, early, late]

theorem inService_of_transferable (transferable : shift.transferable = true) : shift.inService = true := by
  unfold Shift.inService
  rw [Bool.or_comm]
  exact transferable

theorem rivalShift_iff {executor : UserId} :
    rivalShift executor shift other = true ↔
      other.userId = some executor ∧ other.inService = true ∧ other.id ≠ shift.id := by
  simp [rivalShift, Shift.inService, and_assoc]

end

/-- What a transaction does next, with the shifts as its last statement has met them. The
flush is a statement of its own: it may wait for the shift with the overlap test behind it. -/
structure Move where
  stage : TransferStage
  seen : List Shift
  flushed : Bool

inductive MoveCall where
  | acceptTransfer (transferId : TransferId) (executor : UserId) (now : Moment)
  | managerDirectReassign (shiftId : ShiftId) (executor : UserId) (manager : Option UserId)
      (now : Moment)

def MoveCall.start : MoveCall → Move
  | .acceptTransfer transferId executor now => ⟨.accepting transferId executor now, [], false⟩
  | .managerDirectReassign shiftId executor manager now =>
    ⟨.reading (.reassign manager) shiftId executor now, [], false⟩

def performMove (roster : Roster) (move : Move) : Roster × Move :=
  match move.flushed, move.stage with
  | false, .flushing errand shift executor now =>
    (roster, ⟨.flushing errand shift executor now, move.seen, true⟩)
  | _, stage =>
    let performed := performTransfer roster stage
    (performed.1, ⟨performed.2, roster.shifts.rows, false⟩)

def Move.locks (move : Move) : List LockKey :=
  match move.flushed, move.stage with
  | false, .flushing errand _ _ _ => errand.locks
  | _, stage => stage.locks

theorem MoveCall.start_unlocked (call : MoveCall) : call.start.locks = [] := by
  cases call <;> rfl

def moveProgram : Program Roster Move MoveCall LockKey where
  idle := ⟨.idle, [], false⟩
  start := MoveCall.start
  free := fun move => move.stage.free
  perform := performMove
  locks := Move.locks
  idle_unlocked := rfl
  start_unlocked := MoveCall.start_unlocked

/-- The other shift has become the executor's since the test. -/
def cameSince (seen : List Shift) (executor : UserId) (other : Shift) : Bool :=
  !seen.any fun row => row.id = other.id && row.userId = some executor

/-- No planned or active shift of the new owner that intersects the moved one has come to him
since the overlap test, and none of the two that intersect lacks its end. -/
def Undisturbed (roster : Roster) (seen : List Shift) (shift : Shift) (executor : UserId) : Prop :=
  ∀ other ∈ roster.shifts.rows, rivalShift executor shift other = true →
    shift.meets other = true → cameSince seen executor other = false ∧ openEnded shift other = false

instance undisturbedDecidable (roster : Roster) (seen : List Shift) (shift : Shift)
    (executor : UserId) : Decidable (Undisturbed roster seen shift executor) :=
  inferInstanceAs (Decidable (∀ other ∈ roster.shifts.rows, _ → _ → _))

/-- What no move changes of a shift. -/
structure SameWindow (before after : Shift) : Prop where
  id : after.id = before.id
  startTime : after.startTime = before.startTime
  endTime : after.endTime = before.endTime
  status : after.status = before.status

def Roster.Keeps (roster : Roster) (shift : Shift) : Prop :=
  ∃ row ∈ roster.shifts.rows, SameWindow shift row

section

variable {roster : Roster} {shift : Shift} {executor : UserId}

namespace SameWindow

variable {first second third : Shift}

theorem refl (shift : Shift) : SameWindow shift shift := ⟨rfl, rfl, rfl, rfl⟩

theorem trans (early : SameWindow first second) (late : SameWindow second third) :
    SameWindow first third where
  id := late.id.trans early.id
  startTime := late.startTime.trans early.startTime
  endTime := late.endTime.trans early.endTime
  status := late.status.trans early.status

theorem spans_iff (same : SameWindow first second) (moment : Moment) :
    second.Spans moment ↔ first.Spans moment := by
  unfold Shift.Spans
  rw [same.startTime, same.endTime]

theorem inService (same : SameWindow first second) : second.inService = first.inService := by
  unfold Shift.inService
  rw [same.status]

end SameWindow

theorem mem_giveShift {row : Shift} :
    row ∈ (roster.giveShift shift executor).shifts.rows ↔
      ∃ old ∈ roster.shifts.rows, (if decide (old.id = shift.id) then
        { old with userId := assignedColumn (some executor) shift.userId old.userId }
        else old) = row :=
  Table.mem_update (Roster.given_id shift executor)

theorem giveShift_keeps (loaded : Shift) {kept : Shift} (there : roster.Keeps kept) :
    (roster.giveShift loaded executor).Keeps kept := by
  obtain ⟨row, listed, same⟩ := there
  refine ⟨_, mem_giveShift.mpr ⟨row, listed, rfl⟩, ?_⟩
  split
  · exact same.trans ⟨rfl, rfl, rfl, rfl⟩
  · exact same

theorem giveShift_rows (different : shift.userId ≠ some executor) {row : Shift}
    (listed : row ∈ (roster.giveShift shift executor).shifts.rows) :
    (row.id ≠ shift.id ∧ row ∈ roster.shifts.rows) ∨
      ∃ old ∈ roster.shifts.rows,
        old.id = shift.id ∧ row = { old with userId := some executor } := by
  obtain ⟨old, oldListed, rfl⟩ := mem_giveShift.mp listed
  by_cases own : old.id = shift.id
  · refine .inr ⟨old, oldListed, own, ?_⟩
    rw [if_pos (decide_eq_true own), assignedColumn, if_neg (Ne.symm different)]
  · rw [if_neg (fun held => own (of_decide_eq_true held))]
    exact .inl ⟨own, oldListed⟩

/-- A move keeps everybody on one shift exactly where it meets no shift of the new owner. -/
theorem giveShift_single_iff (single : roster.SingleBooked) (running : shift.inService = true)
    (there : roster.Keeps shift) (different : shift.userId ≠ some executor) :
    (roster.giveShift shift executor).SingleBooked ↔
      ∀ other ∈ roster.shifts.rows, rivalShift executor shift other = true →
        shift.meets other = false := by
  obtain ⟨stored, storedListed, window⟩ := there
  constructor
  · intro after other listed rival
    obtain ⟨own, serving, distinct⟩ := rivalShift_iff.mp rival
    by_contra met
    obtain ⟨moment, spans, otherSpans⟩ := Shift.meets_iff.mp (Bool.eq_true_of_not_eq_false met)
    have moved : { stored with userId := some executor } ∈
        (roster.giveShift shift executor).shifts.rows := by
      refine mem_giveShift.mpr ⟨stored, storedListed, ?_⟩
      rw [if_pos (decide_eq_true window.id), assignedColumn, if_neg (Ne.symm different)]
    have kept : other ∈ (roster.giveShift shift executor).shifts.rows :=
      mem_giveShift.mpr ⟨other, listed, if_neg fun held => distinct (of_decide_eq_true held)⟩
    exact after _ moved other kept (fun same => distinct (same.symm.trans window.id))
      (window.inService.trans running) serving executor rfl own moment
      ((window.spans_iff moment).mpr spans) otherSpans
  · intro alone
    -- The row that is written against one that is as it was.
    have apart : ∀ old ∈ roster.shifts.rows, old.id = shift.id → ∀ other ∈ roster.shifts.rows,
        other.id ≠ shift.id → other.inService = true → other.userId = some executor →
          ∀ moment, old.Spans moment → ¬ other.Spans moment := by
      intro old oldListed same other listed distinct serving own moment spans otherSpans
      rw [Table.eq_of_key oldListed storedListed (same.trans window.id.symm)] at spans
      have met : shift.meets other = true :=
        Shift.meets_iff.mpr ⟨moment, (window.spans_iff moment).mp spans, otherSpans⟩
      have missed := alone other listed (rivalShift_iff.mpr ⟨own, serving, distinct⟩)
      exact Bool.false_ne_true (missed.symm.trans met)
    intro left leftListed right rightListed distinct leftRuns rightRuns owner leftOwn rightOwn
      moment leftSpans rightSpans
    rcases giveShift_rows different leftListed with
      ⟨leftAway, leftOld⟩ | ⟨old, oldListed, same, rfl⟩
    · rcases giveShift_rows different rightListed with
        ⟨_, rightOld⟩ | ⟨old, oldListed, same, rfl⟩
      · exact single left leftOld right rightOld distinct leftRuns rightRuns owner leftOwn
          rightOwn moment leftSpans rightSpans
      · cases rightOwn
        exact apart old oldListed same left leftOld leftAway leftRuns leftOwn moment rightSpans
          leftSpans
    · rcases giveShift_rows different rightListed with
        ⟨rightAway, rightOld⟩ | ⟨other, otherListed, otherSame, rfl⟩
      · cases leftOwn
        exact apart old oldListed same right rightOld rightAway rightRuns rightOwn moment
          leftSpans rightSpans
      · exact distinct (same.trans otherSame.symm)

end

structure Movable (roster : Roster) (shift : Shift) (executor : UserId) : Prop where
  running : shift.inService = true
  there : roster.Keeps shift
  different : shift.userId ≠ some executor

def Tested (seen : List Shift) (shift : Shift) (executor : UserId) : Prop :=
  ∀ ending, shift.endTime = some ending → ∀ other ∈ seen,
    rivalShift executor shift other = true → overlapsBot shift ending other = false

def TransferStage.Prepared (roster : Roster) (seen : List Shift) : TransferStage → Prop
  | .idle => True
  | .returning _ => True
  | .accepting _ _ _ => True
  | .reading errand _ _ _ => errand.writesShift = true
  | .judging errand shift _ _ => errand.writesShift = true ∧ roster.Keeps shift
  | .comparing errand shift ending executor _ =>
    errand.writesShift = true ∧ Movable roster shift executor ∧ shift.endTime = some ending
  | .flushing errand shift executor _ =>
    errand.writesShift = true ∧ Movable roster shift executor ∧ Tested seen shift executor
  | _ => False

structure Move.Prepared (roster : Roster) (move : Move) : Prop where
  seen : ∀ row ∈ move.seen, roster.Keeps row
  stage : move.stage.Prepared roster move.seen

section

variable {roster after : Roster} {seen : List Shift} {shift : Shift} {executor : UserId}

theorem Roster.keeps_of_mem (listed : shift ∈ roster.shifts.rows) : roster.Keeps shift :=
  ⟨shift, listed, .refl shift⟩

theorem transferable_of_judged (judged : judgeTarget roster shift executor = none) :
    shift.transferable = true := by
  unfold judgeTarget at judged
  cases transferable : shift.transferable with
  | true => rfl
  | false => simp [transferable] at judged

theorem performTransfer_prepared {stage : TransferStage} (prepared : stage.Prepared roster seen)
    (early : ∀ errand shift executor now, stage ≠ .flushing errand shift executor now) :
    (performTransfer roster stage).1 = roster ∧
      (performTransfer roster stage).2.Prepared roster roster.shifts.rows := by
  cases stage with
  | idle | returning => exact ⟨rfl, trivial⟩
  | accepting transferId executor now =>
    simp only [performTransfer, performBot]
    split
    · exact ⟨rfl, trivial⟩
    · split
      · exact ⟨rfl, trivial⟩
      · split
        · exact ⟨rfl, trivial⟩
        · exact ⟨rfl, rfl⟩
  | reading errand shiftId executor now =>
    simp only [performTransfer, performBot]
    split
    · exact ⟨rfl, trivial⟩
    · next found => exact ⟨rfl, prepared, Roster.keeps_of_mem (Table.mem_of_find? found)⟩
  | judging errand shift executor now =>
    obtain ⟨writes, there⟩ := prepared
    simp only [performTransfer, performBot]
    split
    · exact ⟨rfl, trivial⟩
    · next judged ends =>
        exact ⟨rfl, writes, ⟨inService_of_transferable (transferable_of_judged judged), there,
          different_of_judged judged⟩, ends⟩
    · next judged endless =>
        refine ⟨rfl, writes, ⟨inService_of_transferable (transferable_of_judged judged), there,
          different_of_judged judged⟩, ?_⟩
        intro ending ends
        cases endless.symm.trans ends
  | comparing errand shift ending executor now =>
    obtain ⟨writes, movable, ends⟩ := prepared
    simp only [performTransfer, performBot]
    split
    · exact ⟨rfl, trivial⟩
    · next clear =>
        refine ⟨rfl, writes, movable, ?_⟩
        intro last same other listed rival
        cases ends.symm.trans same
        have missed := List.any_eq_false.mp (Bool.eq_false_of_not_eq_true clear) other listed
        rw [rival, Bool.true_and] at missed
        exact Bool.eq_false_of_not_eq_true missed
  | flushing errand shift executor now => exact absurd rfl (early errand shift executor now)
  | _ => exact False.elim prepared

theorem commitErrand_shifts {errand : Errand} (writes : errand.writesShift = true)
    (shift : Shift) (executor : UserId) (now : Moment) :
    (commitErrand roster errand shift executor now).shifts =
      (roster.giveShift shift executor).shifts := by
  cases errand with
  | assign transfer manager => cases writes
  | accept transfer => rfl
  | reassign manager =>
    unfold commitErrand
    cases shift.userId with
    | none | some => rfl

theorem performMove_cases {move : Move} (prepared : move.Prepared roster) :
    ((performMove roster move).1 = roster ∧ (performMove roster move).2.Prepared roster ∧
        ∀ errand shift executor now, move ≠ ⟨.flushing errand shift executor now, move.seen, true⟩) ∨
      ∃ errand shift executor now,
        move = ⟨.flushing errand shift executor now, move.seen, true⟩ ∧
          errand.writesShift = true ∧
          Movable roster shift executor ∧ Tested move.seen shift executor ∧
          (performMove roster move).1 = commitErrand roster errand shift executor now ∧
          (performMove roster move).2 = ⟨.returning none, roster.shifts.rows, false⟩ := by
  obtain ⟨stage, seen, flushed⟩ := move
  by_cases late : ∃ errand shift executor now, stage = .flushing errand shift executor now
  · obtain ⟨errand, shift, executor, now, rfl⟩ := late
    cases flushed with
    | false =>
      refine .inl ⟨rfl, ⟨prepared.seen, prepared.stage⟩, ?_⟩
      intro _ _ _ _ same
      cases same
    | true =>
      obtain ⟨writes, movable, tested⟩ := prepared.stage
      exact .inr ⟨errand, shift, executor, now, rfl, writes, movable, tested, rfl, rfl⟩
  · have early : ∀ errand shift executor now, stage ≠ .flushing errand shift executor now :=
      fun errand shift executor now same => late ⟨errand, shift, executor, now, same⟩
    have performed : performMove roster ⟨stage, seen, flushed⟩ =
        ((performTransfer roster stage).1,
          ⟨(performTransfer roster stage).2, roster.shifts.rows, false⟩) := by
      unfold performMove
      split
      · next same => exact absurd same (early _ _ _ _)
      · rfl
    obtain ⟨same, next⟩ := performTransfer_prepared prepared.stage early
    rw [performed]
    refine .inl ⟨same, ⟨fun row listed => Roster.keeps_of_mem listed, next⟩, ?_⟩
    intro errand shift executor now equal
    exact early errand shift executor now (congrArg Move.stage equal)

theorem Movable.of_keeps (kept : ∀ row, roster.Keeps row → after.Keeps row)
    (movable : Movable roster shift executor) : Movable after shift executor where
  running := movable.running
  there := kept shift movable.there
  different := movable.different

theorem Move.Prepared.of_keeps {move : Move} (kept : ∀ row, roster.Keeps row → after.Keeps row)
    (prepared : move.Prepared roster) : move.Prepared after where
  seen := fun row listed => kept row (prepared.seen row listed)
  stage := by
    obtain ⟨stage, seen, flushed⟩ := move
    have ready := prepared.stage
    cases stage with
    | judging errand shift executor now => exact ⟨ready.1, kept shift ready.2⟩
    | comparing | flushing => exact ⟨ready.1, ready.2.1.of_keeps kept, ready.2.2⟩
    | _ => exact ready

theorem performMove_keeps {move : Move} (prepared : move.Prepared roster) (row : Shift)
    (there : roster.Keeps row) : (performMove roster move).1.Keeps row := by
  rcases performMove_cases prepared with ⟨same, _⟩ | ⟨errand, shift, executor, now, _, writes, _, _,
    committed, _⟩
  · rw [same]
    exact there
  · rw [committed]
    unfold Roster.Keeps
    rw [commitErrand_shifts writes]
    exact giveShift_keeps shift there

theorem moveProgram_sound :
    moveProgram.Sound Program.Anytime Program.Regardless (fun _ => True)
      (fun roster move => move.Prepared roster) where
  idle := fun _ _ => ⟨fun _ listed => (by cases listed), trivial⟩
  start := by
    intro roster call _
    cases call with
    | acceptTransfer transferId executor now => exact ⟨fun _ listed => (by cases listed), trivial⟩
    | managerDirectReassign shiftId executor manager now => exact ⟨fun _ listed => (by cases listed), rfl⟩
  step := by
    intro roster move _ _ prepared
    refine ⟨trivial, ?_⟩
    rcases performMove_cases prepared with
      ⟨same, next, _⟩ | ⟨errand, shift, executor, now, _, writes,
      _, _, committed, next⟩
    · exact same.symm ▸ next
    · have seen : ∀ row ∈ roster.shifts.rows, (performMove roster move).1.Keeps row :=
        fun row listed => performMove_keeps prepared row (Roster.keeps_of_mem listed)
      have moved : (performMove roster move).2.Prepared (performMove roster move).1 := by
        rw [next]
        exact ⟨seen, trivial⟩
      exact moved
  others := fun roster move other _ _ prepared otherPrepared _ _ _ =>
    otherPrepared.of_keeps (performMove_keeps prepared)

end

/-- The commit of a move is undisturbed; the other statements may meet what they like. -/
def CommitsUndisturbed (roster : Roster) (move : Move) : Prop :=
  match move.flushed, move.stage with
  | true, .flushing _ shift executor _ => Undisturbed roster move.seen shift executor
  | _, _ => True

instance commitsDecidable (roster : Roster) (move : Move) : Decidable (CommitsUndisturbed roster move) :=
  match move with
  | ⟨.flushing _ shift executor _, seen, true⟩ =>
    inferInstanceAs (Decidable (Undisturbed roster seen shift executor))
  | ⟨.flushing _ _ _ _, _, false⟩ => .isTrue trivial
  | ⟨stage, seen, flushed⟩ => by
      unfold CommitsUndisturbed
      split
      · infer_instance
      · infer_instance

section

variable {n : Nat} {roster : Roster}

abbrev MoveState (n : Nat) := Program.State Roster Move n

abbrev MoveEvent (n : Nat) := Program.Event MoveCall n

theorem undisturbed_iff {seen : List Shift} {shift : Shift} {executor : UserId}
    (kept : ∀ row ∈ seen, roster.Keeps row) (tested : Tested seen shift executor) :
    Undisturbed roster seen shift executor ↔
      ∀ other ∈ roster.shifts.rows, rivalShift executor shift other = true →
        shift.meets other = false := by
  constructor
  · intro undisturbed other listed rival
    by_contra met
    have meets := Bool.eq_true_of_not_eq_false met
    obtain ⟨old, closed⟩ := undisturbed other listed rival meets
    obtain ⟨row, rowListed, sameId, own⟩ : ∃ row ∈ seen, row.id = other.id ∧
        row.userId = some executor := by
      simpa [cameSince] using old
    obtain ⟨current, currentListed, window⟩ := kept row rowListed
    have equal : current = other := Table.eq_of_key currentListed listed (window.id.trans sameId)
    subst equal
    obtain ⟨_, serving, distinct⟩ := rivalShift_iff.mp rival
    have wasRival : rivalShift executor shift row = true :=
      rivalShift_iff.mpr ⟨own, window.inService.symm.trans serving, sameId ▸ distinct⟩
    obtain ⟨first, second⟩ := Bool.or_eq_false_iff.mp closed
    obtain ⟨ending, ends⟩ := Option.isSome_iff_exists.mp (Option.isNone_eq_false_iff.mp first)
    have overlaps := overlapsBot_of_meets meets ends (Option.isNone_eq_false_iff.mp second)
    have missed := tested ending ends row rowListed wasRival
    unfold overlapsBot at overlaps missed
    rw [window.startTime, window.endTime] at overlaps
    exact Bool.false_ne_true (missed.symm.trans overlaps)
  · intro alone other listed rival met
    exact absurd ((alone other listed rival).symm.trans met) Bool.false_ne_true

theorem performMove_single_iff {move : Move} (single : roster.SingleBooked)
    (prepared : move.Prepared roster) :
    (performMove roster move).1.SingleBooked ↔ CommitsUndisturbed roster move := by
  rcases performMove_cases prepared with ⟨same, _, early⟩ | ⟨errand, shift, executor, now, commit,
    writes, movable, tested, committed, _⟩
  · rw [same]
    refine iff_of_true single ?_
    obtain ⟨stage, seen, flushed⟩ := move
    unfold CommitsUndisturbed
    split
    · next done writing =>
        cases done
        cases writing
        exact absurd rfl (early _ _ _ _)
    · trivial
  · have kept := prepared.seen
    rw [committed, commit]
    unfold Roster.SingleBooked
    rw [commitErrand_shifts writes]
    exact (giveShift_single_iff single movable.running movable.there movable.different).trans
      (undisturbed_iff kept tested).symm

theorem undisturbed_of_waits {state : MoveState n} {worker : Fin n}
    (waits : ¬ moveProgram.Enters state worker (moveProgram.perform state.store (state.workers worker)).2) :
    CommitsUndisturbed state.store (state.workers worker) := by
  cases working : state.workers worker with
  | mk stage seen flushed =>
    rw [working] at waits
    unfold CommitsUndisturbed
    split
    · next done writing =>
        cases done
        cases writing
        exact absurd (fun _ _ => Program.apart_of_unlocked rfl) waits
    · trivial

theorem next_single_iff {state : MoveState n} (event : MoveEvent n)
    (held : moveProgram.Holds (fun _ => True) (fun roster move => move.Prepared roster) state)
    (single : state.store.SingleBooked) :
    (moveProgram.next state event).store.SingleBooked ↔
      Program.Allows CommitsUndisturbed Program.Regardless state event := by
  cases event with
  | call worker call =>
    refine iff_of_true ?_ trivial
    simp only [Program.next]
    split
    · exact single
    · exact single
  | fail worker => exact iff_of_true single trivial
  | step worker =>
    have performed := performMove_single_iff single (held.workers worker)
    by_cases enters : moveProgram.Enters state worker
        (moveProgram.perform state.store (state.workers worker)).2
    · have stored : (moveProgram.next state (.step worker)).store =
          (performMove state.store (state.workers worker)).1 := by
        simp only [Program.next]
        rw [if_pos enters]
        rfl
      rw [stored, performed]
      exact ⟨fun undisturbed => ⟨undisturbed, fun _ _ => trivial⟩, fun allowed => allowed.1⟩
    · have waits : moveProgram.next state (.step worker) = state := by
        simp only [Program.next]
        exact if_neg enters
      rw [waits]
      exact iff_of_true single ⟨undisturbed_of_waits enters, fun _ _ => trivial⟩

/-- Along a run nobody is on two shifts at a time exactly where no commit of a move meets a
planned or active shift in the moved one's interval that has come to the new owner since the
overlap test, or one where either end is missing. -/
theorem moves_single_booked_iff (single : roster.SingleBooked) (events : List (MoveEvent n)) :
    (∀ past, past <+: events →
        (run moveProgram.next (moveProgram.initial roster) past).store.SingleBooked) ↔
      moveProgram.Careful CommitsUndisturbed Program.Regardless (moveProgram.initial roster)
        events :=
  holds_along_iff_obeys moveProgram.next (fun state => state.store.SingleBooked)
    (moveProgram.Holds (fun _ => True) (fun roster move => move.Prepared roster))
    (moveProgram_sound.holds_initial trivial)
    (fun _ event held => moveProgram_sound.holds_next held
      (moveProgram.careful_anytime _ [event] _ List.mem_cons_self))
    single
    (fun _ event held booked => next_single_iff event held booked)
    events

end

theorem singleBooked_iff {roster : Roster} :
    roster.SingleBooked ↔
      ∀ left ∈ roster.shifts.rows, ∀ right ∈ roster.shifts.rows, left.id ≠ right.id →
        left.inService = true → right.inService = true → left.userId.isSome = true →
          left.userId = right.userId → left.meets right = false := by
  constructor
  · intro single left leftListed right rightListed distinct leftRuns rightRuns owned same
    obtain ⟨executor, own⟩ := Option.isSome_iff_exists.mp owned
    by_contra met
    obtain ⟨moment, spans, alsoSpans⟩ := Shift.meets_iff.mp (Bool.eq_true_of_not_eq_false met)
    exact single left leftListed right rightListed distinct leftRuns rightRuns executor own
      (same.symm.trans own) moment spans alsoSpans
  · intro apart left leftListed right rightListed distinct leftRuns rightRuns executor leftOwn
      rightOwn moment spans alsoSpans
    have missed := apart left leftListed right rightListed distinct leftRuns rightRuns
      (leftOwn ▸ rfl) (leftOwn.trans rightOwn.symm)
    exact Bool.false_ne_true
      (missed.symm.trans (Shift.meets_iff.mpr ⟨moment, spans, alsoSpans⟩))

instance singleBookedDecidable (roster : Roster) : Decidable roster.SingleBooked :=
  decidable_of_iff _ singleBooked_iff.symm

theorem twoShifts_nodup (ending : Option Moment) :
    ([shiftOf 1 1 10 ending .planned, shiftOf 2 2 15 (some 25) .planned].map Shift.id).Nodup := by
  simp [shiftOf]

theorem executors_nodup : ([executorNamed 1, executorNamed 2, executorNamed 3].map User.id).Nodup := by
  simp [executorNamed]

def threeExecutorRoster (ending : Option Moment) : Roster where
  users := ⟨[executorNamed 1, executorNamed 2, executorNamed 3], executors_nodup⟩
  shifts := ⟨[shiftOf 1 1 10 ending .planned, shiftOf 2 2 15 (some 25) .planned], twoShifts_nodup ending⟩
  transfers := .empty

def crossedMoves : List (MoveEvent 2) :=
  [.call 0 (.managerDirectReassign 1 3 none 5), .step 0, .step 0, .step 0,
    .call 1 (.managerDirectReassign 2 3 none 6), .step 1, .step 1, .step 1, .step 1, .step 1,
    .step 0, .step 0]

def singleMove (shiftId : ShiftId) (executor : UserId) : List (MoveEvent 1) :=
  [.call 0 (.managerDirectReassign shiftId executor none 5), .step 0, .step 0, .step 0, .step 0, .step 0]

/-- A manager gives the second shift away, and its new owner keeps to one at a time. -/
theorem singleMove_single_booked :
    (∀ past, past <+: singleMove 2 3 → (run moveProgram.next
        (moveProgram.initial (threeExecutorRoster (some 20))) past).store.SingleBooked) ∧
      ((run moveProgram.next (moveProgram.initial (threeExecutorRoster (some 20)))
        (singleMove 2 3)).store.shifts.find? 2).map (·.userId) = some (some 3) := by
  have single : (threeExecutorRoster (some 20)).SingleBooked := by decide +kernel
  have careful : moveProgram.Careful CommitsUndisturbed Program.Regardless
      (moveProgram.initial (threeExecutorRoster (some 20))) (singleMove 2 3) := by
    decide +kernel
  refine ⟨(moves_single_booked_iff single (singleMove 2 3)).mpr careful, ?_⟩
  decide +kernel

/-- Two moves onto one executor at a time, a shift without an end that goes to a busy executor,
and one that goes to the owner of a shift without an end. -/
theorem double_booked :
    (∃ roster : Roster, roster.SingleBooked ∧ ¬ (run moveProgram.next
        (moveProgram.initial roster : MoveState 2) crossedMoves).store.SingleBooked) ∧
      (∃ roster : Roster, roster.SingleBooked ∧ ¬ (run moveProgram.next
        (moveProgram.initial roster : MoveState 1) (singleMove 1 2)).store.SingleBooked) ∧
      ∃ roster : Roster, roster.SingleBooked ∧ ¬ (run moveProgram.next
        (moveProgram.initial roster : MoveState 1) (singleMove 2 1)).store.SingleBooked := by
  refine ⟨⟨threeExecutorRoster (some 20), ?_, ?_⟩, ⟨threeExecutorRoster none, ?_, ?_⟩,
    ⟨threeExecutorRoster none, ?_, ?_⟩⟩
  · decide +kernel
  · decide +kernel
  · decide +kernel
  · decide +kernel
  · decide +kernel
  · decide +kernel

end InfrasafeBot.Shifts
