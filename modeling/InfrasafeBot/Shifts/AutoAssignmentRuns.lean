import InfrasafeBot.Shifts.AutoAssignment
import InfrasafeBot.Shifts.ReassignmentProperties

/-! Whether an automatic run leaves the owners alone that managers have given since it
selected its shifts. The comparison under the lock protects one write, if what it compares
with was loaded before the manager came; taking an owner away compares nothing. -/

set_option autoImplicit false

namespace InfrasafeBot.Shifts

open Library Library.Machine RequestWorkflow

namespace BoardEntry

def touches (shiftId : ShiftId) : BoardEntry → Bool
  | .selected _ _ => false
  | .manual id _ => id = shiftId
  | .automatic _ changed _ => changed.any (·.1 = shiftId)

def author : BoardEntry → Option Nat
  | .automatic run _ _ => some run
  | _ => none

end BoardEntry

def Selected (run : Nat) (shiftId : ShiftId) (journal : List BoardEntry) : Prop :=
  ∃ shifts, BoardEntry.selected run shifts ∈ journal ∧ shiftId ∈ shifts

/-- A shift whose owner a manager has committed after a run selected it, and which nobody but
this run has given another since, has that owner, and the run has not touched it. -/
def Board.KeepsManual (board : Board) : Prop :=
  ∀ after shiftId owner before run,
    board.journal = after ++ .manual shiftId owner :: before → Selected run shiftId before →
      (∀ entry ∈ after, entry.touches shiftId = true → entry.author = some run) →
        (∀ entry ∈ after, entry.touches shiftId = false) ∧
          ∀ row ∈ board.shifts.rows, row.id = shiftId → row.userId = owner

/-- Every owner that a run has changed is named by an audit row of the same transaction. -/
def Board.Audited (board : Board) : Prop :=
  ∀ run changed audits, BoardEntry.automatic run changed audits ∈ board.journal →
    ∀ change ∈ changed, ∃ row ∈ audits, row.shiftId = some change.1

section

variable {run : Nat} {shiftId : ShiftId} {entry : BoardEntry} {journal : List BoardEntry}

theorem overruled_of_untouched (untouched : entry.touches shiftId = false) :
    overruled run shiftId (entry :: journal) = overruled run shiftId journal := by
  cases entry with
  | selected other shifts => rfl
  | manual id owner =>
    have different : id ≠ shiftId := of_decide_eq_false untouched
    simp only [overruled, if_neg different]
  | automatic other changed audits =>
    unfold BoardEntry.touches at untouched
    simp only [overruled, untouched]
    rfl

theorem selected_iff :
    journal.any (BoardEntry.selects run shiftId) = true ↔ Selected run shiftId journal := by
  rw [List.any_eq_true]
  constructor
  · rintro ⟨entry, listed, chosen⟩
    cases entry with
    | selected other shifts =>
      obtain ⟨rfl, member⟩ : other = run ∧ shiftId ∈ shifts := by
        simpa [BoardEntry.selects] using chosen
      exact ⟨shifts, listed, member⟩
    | manual | automatic => cases chosen
  · rintro ⟨shifts, listed, member⟩
    exact ⟨_, listed, by simp [BoardEntry.selects, member]⟩

/-- What it is to be overruled: behind entries that leave the shift alone there is a manager's,
and the selection behind that. -/
theorem overruled_iff :
    overruled run shiftId journal = true ↔
      ∃ after owner before, journal = after ++ .manual shiftId owner :: before ∧
        (∀ entry ∈ after, entry.touches shiftId = false) ∧ Selected run shiftId before := by
  induction journal with
  | nil => simp [overruled]
  | cons entry journal ih =>
    cases touched : entry.touches shiftId with
    | false =>
      rw [overruled_of_untouched touched, ih]
      constructor
      · rintro ⟨after, owner, before, rfl, untouched, selected⟩
        exact ⟨entry :: after, owner, before, rfl, List.forall_mem_cons.mpr ⟨touched, untouched⟩, selected⟩
      · rintro ⟨after, owner, before, split, untouched, selected⟩
        cases after with
        | nil =>
          obtain ⟨rfl, rfl⟩ := List.cons.inj split
          simp [BoardEntry.touches] at touched
        | cons head after =>
          obtain ⟨rfl, rfl⟩ := List.cons.inj split
          exact ⟨after, owner, before, rfl, (List.forall_mem_cons.mp untouched).2, selected⟩
    | true =>
      cases entry with
      | selected other shifts => cases touched
      | manual id owner =>
        have same : id = shiftId := of_decide_eq_true touched
        subst same
        simp only [overruled, if_true]
        rw [selected_iff]
        constructor
        · intro selected
          exact ⟨[], owner, journal, rfl, by simp, selected⟩
        · rintro ⟨after, given, before, split, untouched, selected⟩
          cases after with
          | nil =>
            obtain ⟨_, rfl⟩ := List.cons.inj split
            exact selected
          | cons head after =>
            obtain ⟨rfl, rfl⟩ := List.cons.inj split
            exact absurd ((List.forall_mem_cons.mp untouched).1.symm.trans touched)
              Bool.false_ne_true
      | automatic other changed audits =>
        have touches : changed.any (·.1 = shiftId) = true := touched
        simp only [overruled, touches, if_true, Bool.false_eq_true, false_iff]
        rintro ⟨after, owner, before, split, untouched, selected⟩
        cases after with
        | nil => cases split
        | cons head after =>
          obtain ⟨rfl, rfl⟩ := List.cons.inj split
          exact absurd ((List.forall_mem_cons.mp untouched).1.symm.trans touched)
            Bool.false_ne_true

end

section

variable {board : Board} {run : Nat} {writes : List OwnerWrite} {audits : List ShiftAudit}

theorem changes_any_iff {shiftId : ShiftId} :
    (board.changes writes).any (·.1 = shiftId) = true ↔
      ∃ row ∈ board.shifts.rows, row.id = shiftId ∧ written writes row ≠ row.userId := by
  simp only [Board.changes, List.any_eq_true, List.mem_filterMap, decide_eq_true_eq]
  constructor
  · rintro ⟨change, ⟨row, listed, kept⟩, same⟩
    split at kept
    · cases kept
    · next differs =>
        cases kept
        exact ⟨row, listed, same, differs⟩
  · rintro ⟨row, listed, same, differs⟩
    exact ⟨_, ⟨row, listed, if_neg differs⟩, same⟩

theorem exists_write_of_changed {row : Shift} (differs : written writes row ≠ row.userId) :
    ∃ write ∈ writes, write.shift.id = row.id := by
  unfold written at differs
  split at differs
  · next write found =>
      have same := List.find?_some found
      exact ⟨write, List.mem_of_find?_eq_some found, of_decide_eq_true same⟩
  · exact absurd rfl differs

theorem mem_flush {row : Shift} :
    row ∈ (board.flush run writes audits).shifts.rows ↔
      ∃ old ∈ board.shifts.rows, { old with userId := written writes old } = row := by
  rw [Board.flush, Table.mem_update (written_id writes)]
  simp only [if_true]

theorem flush_untouched {shiftId : ShiftId} {row : Shift}
    (untouched : (board.changes writes).any (·.1 = shiftId) = false)
    (listed : row ∈ (board.flush run writes audits).shifts.rows) (same : row.id = shiftId) :
    row ∈ board.shifts.rows := by
  obtain ⟨old, oldListed, rfl⟩ := mem_flush.mp listed
  have kept : written writes old = old.userId := by
    by_contra differs
    have changed := changes_any_iff.mpr ⟨old, oldListed, same, differs⟩
    exact Bool.false_ne_true (untouched.symm.trans changed)
  rw [kept]
  exact oldListed

/-- A run's commit keeps what managers have given exactly where no owner that it changes is
theirs, given since its selection. -/
theorem flush_keeps_iff (keeps : board.KeepsManual) :
    (board.flush run writes audits).KeepsManual ↔
      ∀ row ∈ board.shifts.rows, written writes row ≠ row.userId →
        overruled run row.id board.journal = false := by
  constructor
  · intro kept row listed differs
    by_contra passed
    obtain ⟨after, owner, before, split, untouched, selected⟩ :=
      overruled_iff.mp (Bool.eq_true_of_not_eq_false passed)
    have touched : (BoardEntry.automatic run (board.changes writes) audits).touches row.id =
        true := changes_any_iff.mpr ⟨row, listed, rfl, differs⟩
    have alone := (kept (.automatic run (board.changes writes) audits :: after) row.id owner before
      run (by rw [List.cons_append, ← split]; rfl) selected ?_).1
    · exact absurd ((List.forall_mem_cons.mp alone).1.symm.trans touched) Bool.false_ne_true
    · refine List.forall_mem_cons.mpr ⟨fun _ => rfl, fun entry member other => ?_⟩
      exact absurd ((untouched entry member).symm.trans other) Bool.false_ne_true
  · intro unmanaged after shiftId owner before other split selected alone
    cases after with
    | nil => cases split
    | cons head after =>
      obtain ⟨rfl, earlier⟩ := List.cons.inj split
      obtain ⟨own, alone⟩ := List.forall_mem_cons.mp alone
      obtain ⟨untouched, owned⟩ := keeps after shiftId owner before other earlier selected alone
      have left : (board.changes writes).any (·.1 = shiftId) = false := by
        by_contra changed
        have touched := Bool.eq_true_of_not_eq_false changed
        have same : run = other := Option.some.inj (own touched)
        subst same
        obtain ⟨row, listed, rfl, differs⟩ := changes_any_iff.mp touched
        have held : overruled run row.id board.journal = true :=
          overruled_iff.mpr ⟨after, owner, before, earlier, untouched, selected⟩
        exact Bool.false_ne_true ((unmanaged row listed differs).symm.trans held)
      refine ⟨List.forall_mem_cons.mpr ⟨left, untouched⟩, fun row listed same => ?_⟩
      exact owned row (flush_untouched left listed same) same

theorem assignByHand_keeps (keeps : board.KeepsManual) (id : ShiftId) (given : Option UserId) :
    (board.assignByHand id given).KeepsManual := by
  intro after shiftId owner before run split selected alone
  cases after with
  | nil =>
    obtain ⟨same, rfl⟩ := List.cons.inj split
    cases same
    refine ⟨by simp, fun row listed own => ?_⟩
    obtain ⟨old, _, rfl⟩ := (Table.mem_update (owned_id given)).mp listed
    split
    · rfl
    · next away =>
        rw [if_neg away] at own
        exact absurd (decide_eq_true own) away
  | cons head after =>
    obtain ⟨rfl, earlier⟩ := List.cons.inj split
    obtain ⟨own, alone⟩ := List.forall_mem_cons.mp alone
    obtain ⟨untouched, owned⟩ := keeps after shiftId owner before run earlier selected alone
    have left : (BoardEntry.manual id given).touches shiftId = false := by
      by_contra touched
      cases own (Bool.eq_true_of_not_eq_false touched)
    refine ⟨List.forall_mem_cons.mpr ⟨left, untouched⟩, fun row listed same => ?_⟩
    obtain ⟨old, oldListed, rfl⟩ := (Table.mem_update (owned_id given)).mp listed
    have different : id ≠ shiftId := of_decide_eq_false left
    by_cases chosen : old.id = id
    · rw [if_pos (decide_eq_true chosen)] at same
      exact absurd (chosen.symm.trans same) different
    · rw [if_neg (fun held => chosen (of_decide_eq_true held))] at same ⊢
      exact owned old oldListed same

theorem select_keeps (keeps : board.KeepsManual) (ids : List ShiftId) : (board.select ids).KeepsManual := by
  intro after shiftId owner before run split selected alone
  cases after with
  | nil => cases split
  | cons head after =>
    obtain ⟨rfl, earlier⟩ := List.cons.inj split
    obtain ⟨untouched, owned⟩ := keeps after shiftId owner before run earlier selected
      (List.forall_mem_cons.mp alone).2
    exact ⟨List.forall_mem_cons.mpr ⟨rfl, untouched⟩, owned⟩

end

def AutoStage.assignment : AutoStage → Option (Nat × Assignment)
  | .assigning session made => some (session.run, made)
  | .committing session (some made) => some (session.run, made)
  | _ => none

def AutoStage.Prepared (board : Board) (stage : AutoStage) : Prop :=
  ∀ run made, stage.assignment = some (run, made) →
    made.overruled = overruled run made.shift.id board.journal

section

variable {scoring : Scoring} {board : Board}

theorem proceed_assignment (session : Session) : session.proceed.assignment = none := by
  unfold Session.proceed
  split
  · rfl
  · rfl
  · rfl

theorem giveUp_assignment (session : Session) (shift : Shift) :
    (session.giveUp shift).assignment = none := by
  unfold Session.giveUp
  split
  · exact proceed_assignment _
  · exact proceed_assignment _

theorem proceed_unlocked (session : Session) (settled : session.unassigned = []) :
    session.proceed.locks = [] := by
  unfold Session.proceed
  split
  · simp [AutoStage.locks, Session.writes, settled]
  · rfl
  · rfl

variable {stage : AutoStage} {assignment : Option Assignment} {session : Session}
  {write : OwnerWrite}

theorem prepared_of_none (none : stage.assignment = none) : stage.Prepared board := by
  intro run made same
  cases none.symm.trans same

theorem assignment_locked {run : Nat} {made : Assignment}
    (same : stage.assignment = some (run, made)) : LockKey.shift made.shift.id ∈ stage.locks := by
  cases stage with
  | assigning session assignment =>
    cases same
    exact List.mem_cons_self
  | committing session assignment =>
    cases assignment with
    | none => cases same
    | some assignment =>
      cases same
      simp [AutoStage.locks, Session.writes]
  | _ => cases same

theorem performAuto_board (scoring : Scoring) (board : Board) (stage : AutoStage) :
    (performAuto scoring board stage).1 = board ∨
      (∃ ids, (performAuto scoring board stage).1 = board.select ids) ∨
      (∃ row owner, stage = .writing row owner ∧
        (performAuto scoring board stage).1 = board.assignByHand row.id owner) ∨
      ∃ session assignment, stage = .committing session assignment ∧
        (performAuto scoring board stage).1 = board.flush session.run (session.writes assignment)
          (session.audits assignment) := by
  cases stage with
  | selecting | selectingAbsent => exact .inr (.inl ⟨_, rfl⟩)
  | writing row owner => exact .inr (.inr (.inl ⟨row, owner, rfl, rfl⟩))
  | committing session assignment => exact .inr (.inr (.inr ⟨session, assignment, rfl, rfl⟩))
  | evaluating session shift rest scores =>
    cases rest with
    | nil | cons => exact .inl rfl
  | checking session shift candidates =>
    refine .inl ?_
    cases candidates with
    | nil => rfl
    | cons executor rest =>
      simp only [performAuto]
      split
      · rfl
      · rfl
  | _ =>
    refine .inl ?_
    simp only [performAuto]
    repeat' split
    all_goals rfl

theorem performAuto_prepared (prepared : stage.Prepared board) :
    (performAuto scoring board stage).2.Prepared (performAuto scoring board stage).1 := by
  cases stage with
  | selecting | selectingAbsent =>
    refine prepared_of_none ?_
    simp only [performAuto, beginRun]
    split
    · rfl
    · rfl
  | gathering session =>
    refine prepared_of_none ?_
    simp only [performAuto]
    split
    · split
      · rfl
      · exact proceed_assignment _
    · rfl
    · exact proceed_assignment _
  | evaluating session shift rest scores =>
    cases rest with
    | nil | cons => exact prepared_of_none rfl
  | checking session shift candidates =>
    refine prepared_of_none ?_
    cases candidates with
    | nil => exact giveUp_assignment session shift
    | cons executor rest =>
      simp only [performAuto]
      split
      · rfl
      · rfl
  | locking session shift executor =>
    simp only [performAuto]
    split
    · exact prepared_of_none rfl
    · split
      · exact prepared_of_none rfl
      · intro run made same
        cases same
        rfl
  | reloading session id =>
    refine prepared_of_none ?_
    simp only [performAuto]
    split
    · rfl
    · exact giveUp_assignment _ _
  | assigning session made => exact prepared
  | committing session assignment =>
    refine prepared_of_none ?_
    cases assignment with
    | none => rfl
    | some made => exact proceed_assignment _
  | _ =>
    refine prepared_of_none ?_
    simp only [performAuto]
    repeat' split
    all_goals rfl

theorem writes_locked (listed : write ∈ session.writes assignment) :
    LockKey.shift write.shift.id ∈ (AutoStage.committing session assignment).locks :=
  List.mem_map.mpr ⟨write, listed, rfl⟩

theorem prepared_of_apart {other : AutoStage} (prepared : other.Prepared board)
    (apart : ∀ key ∈ stage.locks, key ∉ other.locks) :
    other.Prepared (performAuto scoring board stage).1 := by
  intro run made same
  have locked := assignment_locked same
  have kept := prepared run made same
  rcases performAuto_board scoring board stage with
    unchanged | ⟨ids, chosen⟩ | ⟨row, owner, rfl, given⟩ | ⟨session, assignment, rfl, committed⟩
  · rw [unchanged]
    exact kept
  · rw [chosen]
    exact kept
  · rw [given]
    have different : row.id ≠ made.shift.id := by
      intro equal
      exact apart (.shift row.id) List.mem_cons_self (equal ▸ locked)
    have untouched : (BoardEntry.manual row.id owner).touches made.shift.id = false :=
      decide_eq_false different
    exact kept.trans (overruled_of_untouched untouched).symm
  · rw [committed]
    refine kept.trans (overruled_of_untouched ?_).symm
    by_contra touched
    obtain ⟨row, _, own, differs⟩ := changes_any_iff.mp (Bool.eq_true_of_not_eq_false touched)
    obtain ⟨write, listed, equal⟩ := exists_write_of_changed differs
    exact apart _ (writes_locked listed) ((equal.trans own).symm ▸ locked)

theorem audits_of_write (listed : write ∈ session.writes assignment) :
    ∃ row ∈ session.audits assignment, row.shiftId = some write.shift.id := by
  rcases List.mem_append.mp listed with taken | given
  · obtain ⟨shift, member, rfl⟩ := List.mem_map.mp taken
    exact ⟨_, List.mem_append_left _ (List.mem_map.mpr ⟨shift, member, rfl⟩), rfl⟩
  · obtain ⟨made, member, rfl⟩ := List.mem_map.mp given
    obtain rfl := Option.mem_toList.mp member
    exact ⟨_, List.mem_append_right _ List.mem_cons_self, rfl⟩

theorem performAuto_audited (audited : board.Audited) (stage : AutoStage) :
    (performAuto scoring board stage).1.Audited := by
  rcases performAuto_board scoring board stage with
    unchanged | ⟨ids, chosen⟩ | ⟨row, owner, _, given⟩ | ⟨session, assignment, _, committed⟩
  · rw [unchanged]
    exact audited
  · rw [chosen]
    intro run changed audits listed
    rcases List.mem_cons.mp listed with same | earlier
    · cases same
    · exact audited run changed audits earlier
  · rw [given]
    intro run changed audits listed
    rcases List.mem_cons.mp listed with same | earlier
    · cases same
    · exact audited run changed audits earlier
  · rw [committed]
    intro run changed audits listed change member
    rcases List.mem_cons.mp listed with same | earlier
    · cases same
      obtain ⟨row, _, own, differs⟩ := changes_any_iff.mp
        (List.any_eq_true.mpr ⟨change, member, decide_eq_true rfl⟩)
      obtain ⟨write, written, equal⟩ := exists_write_of_changed differs
      obtain ⟨audit, auditListed, named⟩ := audits_of_write written
      exact ⟨audit, auditListed, named.trans (congrArg some (equal.trans own))⟩
    · exact audited run changed audits earlier change member

theorem autoProgram_sound (scoring : Scoring) :
    (autoProgram scoring).Sound Program.Anytime Program.Regardless Board.Audited
      (fun board stage => stage.Prepared board) where
  idle := fun _ _ => prepared_of_none rfl
  start := by
    intro board call _
    cases call with
    | autoAssignExecutorsToShifts | reassignOnAbsence | assignManually => exact prepared_of_none rfl
  step := fun _ stage _ audited prepared =>
    ⟨performAuto_audited audited stage, performAuto_prepared prepared⟩
  others := fun _ _ _ _ _ _ prepared _ apart _ => prepared_of_apart prepared apart

end

/-- A commit changes no owner whose comparison has passed over a manager's change since the
selection, and takes none away that a manager has given since. -/
def CommitsFresh (board : Board) : AutoStage → Prop
  | .committing session assignment =>
    (∀ made, assignment = some made →
      (board.changes (session.writes assignment)).any (·.1 = made.shift.id) = true →
        made.overruled = false) ∧
    ∀ shift ∈ session.unassigned,
      (board.changes (session.writes assignment)).any (·.1 = shift.id) = true →
        overruled session.run shift.id board.journal = false
  | _ => True

def Board.start (shifts : Table Shift.id) (executors : List UserId) : Board := ⟨shifts, executors, []⟩

section

variable {n : Nat} {scoring : Scoring} {board : Board}

abbrev AutoState (n : Nat) := Program.State Board AutoStage n

abbrev AutoEvent (n : Nat) := Program.Event AutoCall n

theorem performAuto_keeps {stage : AutoStage} (keeps : board.KeepsManual)
    (early : ∀ session assignment, stage ≠ .committing session assignment) :
    (performAuto scoring board stage).1.KeepsManual := by
  rcases performAuto_board scoring board stage with
    unchanged | ⟨ids, chosen⟩ | ⟨row, owner, _, given⟩ | ⟨session, assignment, same, _⟩
  · rw [unchanged]
    exact keeps
  · rw [chosen]
    exact select_keeps keeps ids
  · rw [given]
    exact assignByHand_keeps keeps row.id owner
  · exact absurd same (early session assignment)

theorem commit_keeps_iff {session : Session} {assignment : Option Assignment}
    (keeps : board.KeepsManual)
    (prepared : (AutoStage.committing session assignment).Prepared board) :
    (performAuto scoring board (.committing session assignment)).1.KeepsManual ↔
      CommitsFresh board (.committing session assignment) := by
  have flushed : (performAuto scoring board (.committing session assignment)).1.KeepsManual ↔ _ :=
    flush_keeps_iff keeps
  rw [flushed]
  constructor
  · intro fresh
    refine ⟨fun made same changed => ?_, fun shift listed changed => ?_⟩
    · obtain ⟨row, rowListed, own, differs⟩ := changes_any_iff.mp changed
      subst same
      rw [prepared session.run made rfl, ← own]
      exact fresh row rowListed differs
    · obtain ⟨row, rowListed, own, differs⟩ := changes_any_iff.mp changed
      rw [← own]
      exact fresh row rowListed differs
  · rintro ⟨compared, taken⟩ row listed differs
    obtain ⟨write, written, same⟩ := exists_write_of_changed differs
    have changed : (board.changes (session.writes assignment)).any
        (·.1 = write.shift.id) = true := changes_any_iff.mpr ⟨row, listed, same.symm, differs⟩
    rw [← same]
    rcases List.mem_append.mp written with removed | given
    · obtain ⟨shift, member, rfl⟩ := List.mem_map.mp removed
      exact taken shift member changed
    · obtain ⟨made, member, rfl⟩ := List.mem_map.mp given
      obtain rfl := Option.mem_toList.mp member
      rw [← prepared session.run made rfl]
      exact compared made rfl changed

theorem performAuto_keeps_iff {stage : AutoStage} (keeps : board.KeepsManual)
    (prepared : stage.Prepared board) :
    (performAuto scoring board stage).1.KeepsManual ↔ CommitsFresh board stage := by
  cases stage with
  | committing session assignment => exact commit_keeps_iff keeps prepared
  | _ => exact iff_of_true (performAuto_keeps keeps fun _ _ same => by cases same) trivial

theorem fresh_of_waits {state : AutoState n} {worker : Fin n}
    (waits : ¬ (autoProgram scoring).Enters state worker
      ((autoProgram scoring).perform state.store (state.workers worker)).2) :
    CommitsFresh state.store (state.workers worker) := by
  cases working : state.workers worker with
  | committing session assignment =>
    rw [working] at waits
    refine absurd (fun _ _ => Program.apart_of_unlocked ?_) waits
    cases assignment with
    | none => rfl
    | some made => exact proceed_unlocked session.expire rfl
  | _ => trivial

theorem next_keeps_iff {state : AutoState n} (event : AutoEvent n)
    (held : (autoProgram scoring).Holds Board.Audited (fun board stage => stage.Prepared board) state)
    (keeps : state.store.KeepsManual) :
    ((autoProgram scoring).next state event).store.KeepsManual ↔
      Program.Allows CommitsFresh Program.Regardless state event := by
  cases event with
  | call worker call =>
    refine iff_of_true ?_ trivial
    simp only [Program.next]
    split
    · exact keeps
    · exact keeps
  | fail worker => exact iff_of_true keeps trivial
  | step worker =>
    have performed :
        (performAuto scoring state.store (state.workers worker)).1.KeepsManual ↔ _ :=
      performAuto_keeps_iff keeps (held.workers worker)
    by_cases enters : (autoProgram scoring).Enters state worker
        ((autoProgram scoring).perform state.store (state.workers worker)).2
    · have stored : ((autoProgram scoring).next state (.step worker)).store =
          (performAuto scoring state.store (state.workers worker)).1 := by
        simp only [Program.next]
        rw [if_pos enters]
        rfl
      rw [stored, performed]
      exact ⟨fun fresh => ⟨fresh, fun _ _ => trivial⟩, fun allowed => allowed.1⟩
    · have waits : (autoProgram scoring).next state (.step worker) = state := by
        simp only [Program.next]
        exact if_neg enters
      rw [waits]
      exact iff_of_true keeps ⟨fresh_of_waits enters, fun _ _ => trivial⟩

theorem keepsManual_start (shifts : Table Shift.id) (executors : List UserId) :
    (Board.start shifts executors).KeepsManual := by
  intro after shiftId owner before run split
  simp [Board.start] at split

theorem audited_start (shifts : Table Shift.id) (executors : List UserId) :
    (Board.start shifts executors).Audited :=
  fun _ _ _ listed => by cases listed

end

def evenScoring : Scoring where
  score := fun _ _ _ => 1
  conflicted := fun _ _ _ => false
  reads := fun _ _ _ => []

def comingShift (id : ShiftId) (owner : Option UserId) : Shift :=
  { shiftOf id 0 100 (some 110) .planned with userId := owner, plannedStartTime := some 100 }

theorem comingShifts_nodup (owner : Option UserId) :
    ([comingShift 1 owner, comingShift 2 owner].map Shift.id).Nodup := by
  simp [comingShift, shiftOf]

def comingShifts (owner : Option UserId) : Table Shift.id :=
  ⟨[comingShift 1 owner, comingShift 2 owner], comingShifts_nodup owner⟩

/-- The first shift is assigned; then a manager gives the second to executor 5, and the run
loads it again. -/
def reloadedShift : List (AutoEvent 2) :=
  [.call 0 (.autoAssignExecutorsToShifts [1, 2] false), .step 0, .step 0, .step 0, .step 0,
    .step 0, .step 0, .step 0, .step 0, .step 0,
    .call 1 (.assignManually 2 (some 5)), .step 1, .step 1,
    .step 0, .step 0, .step 0, .step 0, .step 0, .step 0, .step 0, .step 0]

/-- A manager gives a shift of the absent executor 7 to executor 5; the comparison notices, and
the run takes the shift from its new owner. -/
def changedMeanwhile : List (AutoEvent 2) :=
  [.call 0 (.reassignOnAbsence 7 50), .step 0, .step 0, .step 0, .step 0, .step 0, .step 0,
    .call 1 (.assignManually 1 (some 5)), .step 1, .step 1,
    .step 0, .step 0, .step 0, .step 0, .step 0, .step 0, .step 0, .step 0, .step 0, .step 0,
    .step 0]

end InfrasafeBot.Shifts
