import InfrasafeBot.Shifts.Booking
import InfrasafeBot.Shifts.ReassignmentProperties

/-! Whether the manager's writes keep every executor on one shift at a time. A check under
the lock of its executor lasts to the commit; what is not checked is a shift that comes back
from a pause, and what is not locked is the shift that a change of times has loaded. -/

set_option autoImplicit false

namespace InfrasafeBot.Shifts

open Library RequestWorkflow Machine

def Shift.inService (shift : Shift) : Bool := shift.status = .active || shift.status = .planned

/-- A moment of the interval of a shift with an end. -/
def Shift.Covers (shift : Shift) (moment : Moment) : Prop :=
  shift.startTime ≤ moment ∧ ∃ ending, shift.endTime = some ending ∧ moment < ending

/-- No executor owns two planned or active shifts with intersecting intervals. -/
def Roster.NoDoubleBooking (roster : Roster) : Prop :=
  ∀ left ∈ roster.shifts.rows, ∀ right ∈ roster.shifts.rows, left.id ≠ right.id →
    left.inService = true → right.inService = true →
      ∀ executor, left.userId = some executor → right.userId = some executor →
        ∀ moment, left.Covers moment → ¬ right.Covers moment

/-- No other planned or active shift of the executor is in the window. -/
def Roster.ClearFor (roster : Roster) (executor : UserId) (exclude : Option ShiftId)
    (startTime ending : Moment) : Prop :=
  ∀ other ∈ roster.shifts.rows, other.userId = some executor → other.inService = true →
    exclude ≠ some other.id → ∀ moment, startTime ≤ moment → moment < ending → ¬ other.Covers moment

/-- The row is where its executor has no other. -/
def Roster.Fits (roster : Roster) (row : Shift) : Prop :=
  row.inService = true → ∀ executor, row.userId = some executor →
    ∀ ending, row.endTime = some ending → roster.ClearFor executor (some row.id) row.startTime ending

/-- Only the shift of one key is another afterwards. -/
structure ChangesOnly (before after : Roster) (changed : ShiftId) : Prop where
  others : ∀ row ∈ after.shifts.rows, row.id ≠ changed → row ∈ before.shifts.rows

variable {roster : Roster} {executor : UserId} {exclude : Option ShiftId}
  {startTime ending : Moment}

section

variable {after : Roster} {changed : ShiftId}

theorem clearFor_of_not_found
    (unfound : roster.findOverlapping executor startTime ending exclude = false) :
    roster.ClearFor executor exclude startTime ending := by
  intro other listed own running different moment after before covers
  obtain ⟨begun, until_, bounded, notYet⟩ := covers
  have missed := List.any_eq_false.mp unfound other listed
  have early : other.startTime < ending := Int.lt_of_le_of_lt begun before
  have late : startTime < until_ := Int.lt_of_le_of_lt after notYet
  have kept : exclude.all (fun id => !decide (other.id = id)) = true := by
    cases exclude with
    | none => rfl
    | some id => simpa using fun same => different (congrArg some same.symm)
  have serving : (decide (other.status = .active) || decide (other.status = .planned)) = true := running
  simp [own, serving, overlapsWeb, bounded, early, late] at missed
  rw [kept] at missed
  cases missed

theorem Roster.ClearFor.exclude_any (clear : roster.ClearFor executor none startTime ending) :
    roster.ClearFor executor exclude startTime ending :=
  fun other listed own running _ => clear other listed own running (by simp)

theorem Roster.ClearFor.of_change (only : ChangesOnly roster after changed)
    (away : ∀ row ∈ after.shifts.rows, row.id = changed → row.userId = some executor →
      row.inService = true → exclude ≠ some changed →
        ∀ moment, startTime ≤ moment → moment < ending → ¬ row.Covers moment)
    (clear : roster.ClearFor executor exclude startTime ending) :
    after.ClearFor executor exclude startTime ending := by
  intro other listed own running different
  by_cases same : other.id = changed
  · exact away other listed same own running (same ▸ different)
  · exact clear other (only.others other listed same) own running different

theorem Roster.NoDoubleBooking.of_change (only : ChangesOnly roster after changed)
    (fits : ∀ row ∈ after.shifts.rows, row.id = changed → roster.Fits row)
    (single : roster.NoDoubleBooking) : after.NoDoubleBooking := by
  -- A changed row against one that is as it was.
  have apart : ∀ row ∈ after.shifts.rows, row.id = changed → row.inService = true →
      ∀ other ∈ after.shifts.rows, other.id ≠ row.id → other.inService = true →
        ∀ executor, row.userId = some executor → other.userId = some executor →
          ∀ moment, row.Covers moment → ¬ other.Covers moment := by
    intro row listed same running other otherListed different serving executor own otherOwn
      moment covers
    obtain ⟨begun, ending, bounded, notYet⟩ := covers
    exact fits row listed same running executor own ending bounded other
      (only.others other otherListed (same ▸ different)) otherOwn serving
      (fun equal => different (Option.some.inj equal).symm) moment begun notYet
  intro left leftListed right rightListed different leftRuns rightRuns executor leftOwn rightOwn
    moment leftCovers rightCovers
  by_cases leftSame : left.id = changed
  · exact apart left leftListed leftSame leftRuns right rightListed different.symm rightRuns
      executor leftOwn rightOwn moment leftCovers rightCovers
  · by_cases rightSame : right.id = changed
    · exact apart right rightListed rightSame rightRuns left leftListed different leftRuns
        executor rightOwn leftOwn moment rightCovers leftCovers
    · exact single left (only.others left leftListed leftSame) right
        (only.others right rightListed rightSame) different leftRuns rightRuns executor leftOwn
        rightOwn moment leftCovers rightCovers

end

variable {shift : Shift}

section

variable {focus : Json} {status : ShiftStatus} {first last : Moment} {other : UserId} {id : ShiftId}

theorem addShift_only :
    ChangesOnly roster (roster.addShift executor startTime ending status focus)
      roster.shifts.nextKey where
  others := by
    intro row listed other
    rcases (Table.mem_insert (newShift_id executor startTime ending status focus)).mp listed with
      old | rfl
    · exact old
    · exact absurd rfl other

theorem addShift_row {row : Shift}
    (listed : row ∈ (roster.addShift executor startTime ending status focus).shifts.rows)
    (added : row.id = roster.shifts.nextKey) :
    row = newShift executor startTime ending status focus roster.shifts.nextKey := by
  rcases (Table.mem_insert (newShift_id executor startTime ending status focus)).mp listed with
    old | same
  · exact absurd (List.mem_map.mpr ⟨row, old, added⟩) roster.shifts.nextKey_fresh
  · exact same

theorem addShift_clear (different : other ≠ executor)
    (clear : roster.ClearFor other exclude first last) :
    (roster.addShift executor startTime ending status focus).ClearFor other exclude first last := by
  refine clear.of_change addShift_only fun row listed added own => ?_
  rw [addShift_row listed added] at own
  exact absurd (Option.some.inj own).symm different

theorem addShift_single (clear : roster.ClearFor executor none startTime ending)
    (single : roster.NoDoubleBooking) :
    (roster.addShift executor startTime ending status focus).NoDoubleBooking := by
  refine single.of_change addShift_only fun row listed added => ?_
  rw [addShift_row listed added]
  intro _ own same until_ bounded
  cases same
  cases bounded
  exact clear.exclude_any

theorem addBatch_single (users : List UserId) (distinct : users.Nodup)
    (clear : ∀ user ∈ users, roster.ClearFor user none startTime ending)
    (single : roster.NoDoubleBooking) :
    (roster.addBatch startTime ending focus users).NoDoubleBooking := by
  induction users generalizing roster with
  | nil => exact single
  | cons user rest ih =>
    obtain ⟨absent, distinct⟩ := List.nodup_cons.mp distinct
    refine ih distinct (fun other member => ?_) (addShift_single (clear user (by simp)) single)
    have different : other ≠ user := fun same => absent (same ▸ member)
    exact addShift_clear different (clear other (by simp [member]))

theorem addBatch_clear (users : List UserId) (absent : other ∉ users)
    (clear : roster.ClearFor other exclude first last) :
    (roster.addBatch startTime ending focus users).ClearFor other exclude first last := by
  induction users generalizing roster with
  | nil => exact clear
  | cons user rest ih =>
    rw [List.mem_cons, not_or] at absent
    exact ih absent.2 (addShift_clear absent.1 clear)

theorem find?_addShift (stored : roster.shifts.find? id = some shift) :
    (roster.addShift executor startTime ending status focus).shifts.find? id = some shift := by
  rw [Roster.addShift, Table.find?_insert, stored, Option.some_or]

theorem find?_addBatch (users : List UserId) (stored : roster.shifts.find? id = some shift) :
    (roster.addBatch startTime ending focus users).shifts.find? id = some shift := by
  induction users generalizing roster with
  | nil => exact stored
  | cons user rest ih => exact ih (find?_addShift stored)

end

section

theorem commitHandover_shifts (purpose : Purpose) (now : Moment) :
    (commitHandover roster purpose shift executor now).shifts =
      (roster.giveShift shift executor).shifts := by
  unfold commitHandover
  split
  · rfl
  · rfl
  · rfl

theorem commitHandover_only (purpose : Purpose) (now : Moment) :
    ChangesOnly roster (commitHandover roster purpose shift executor now) shift.id where
  others := by
    intro row listed other
    rw [commitHandover_shifts] at listed
    obtain ⟨old, stored, rfl⟩ := (Table.mem_update (Roster.given_id shift executor)).mp listed
    split at other
    · next own => exact absurd (by simpa using own) other
    · next away =>
        rw [if_neg away]
        exact stored

variable {now : Moment} {purpose : Purpose} {row : Shift}

theorem commitHandover_row (stored : roster.shifts.find? shift.id = some shift)
    (listed : row ∈ (commitHandover roster purpose shift executor now).shifts.rows)
    (same : row.id = shift.id) : row = { shift with userId := some executor } := by
  rw [commitHandover_shifts] at listed
  obtain ⟨old, oldListed, rfl⟩ := (Table.mem_update (Roster.given_id shift executor)).mp listed
  have own : old.id = shift.id := by
    split at same
    · exact same
    · exact same
  have equal : old = shift := Table.eq_of_key oldListed (Table.mem_of_find? stored) own
  subst equal
  simp only [decide_true, if_true, assignedColumn]
  split
  · next kept => rw [kept]
  · rfl

theorem commitHandover_single (stored : roster.shifts.find? shift.id = some shift)
    (clear : ∀ ending, shift.endTime = some ending →
      roster.ClearFor executor (some shift.id) shift.startTime ending)
    (single : roster.NoDoubleBooking) :
    (commitHandover roster purpose shift executor now).NoDoubleBooking := by
  refine single.of_change (commitHandover_only purpose now) fun row listed same => ?_
  rw [commitHandover_row stored listed same]
  intro _ other own ending bounded
  cases own
  exact clear ending bounded

theorem commitHandover_clear {other : UserId} {exclude : Option ShiftId} {first last : Moment}
    (stored : roster.shifts.find? shift.id = some shift)
    (another : shift.endTime.isSome = true → other ≠ executor)
    (clear : roster.ClearFor other exclude first last) :
    (commitHandover roster purpose shift executor now).ClearFor other exclude first last := by
  refine clear.of_change (commitHandover_only purpose now) fun row listed same own => ?_
  rw [commitHandover_row stored listed same] at own ⊢
  rintro _ _ moment _ _ ⟨_, ending, bounded, _⟩
  exact another (by rw [bounded]; rfl) (Option.some.inj own).symm

theorem find?_commitHandover {id : ShiftId} (different : id ≠ shift.id)
    (stored : roster.shifts.find? id = some row) :
    (commitHandover roster purpose shift executor now).shifts.find? id = some row := by
  have other : row.id ≠ shift.id := (Table.key_of_find? stored) ▸ different
  rw [commitHandover_shifts, Roster.giveShift, Table.find?_update, stored]
  simp [other]

end

def returnsToService (loaded : Shift) (body : UpdateShiftBody) (stored : Shift) : Bool :=
  !stored.inService && (patchShift loaded body stored).inService

def CheckedUpdate (loaded : Shift) (body : UpdateShiftBody) : Option (UserId × Moment × Moment) → Prop
  | none => validateUpdate loaded body = .ok none
  | some (owner, window) => loaded.userId = some owner ∧ validateUpdate loaded body = .ok (some window)

/-- The patch meets the shift it has loaded, if it changes its times; if it checks nothing
and brings the shift back, no other shift of the owner is in the way. -/
def patchAllowed (roster : Roster) (loaded : Shift) (body : UpdateShiftBody)
    (checked : Option (UserId × Moment × Moment)) : Prop :=
  ∀ stored ∈ roster.shifts.rows, stored.id = loaded.id →
    (body.setsTimes = true → stored.userId = loaded.userId ∧
      stored.startTime = loaded.startTime ∧ stored.endTime = loaded.endTime) ∧
    (checked = none → returnsToService loaded body stored = true →
      ∀ executor ∈ stored.userId, ∀ ending ∈ stored.endTime,
        ∀ other ∈ roster.shifts.rows, rivalShift executor stored other = true →
          overlapsBot stored ending other = false)

section

variable {loaded : Shift} {body : UpdateShiftBody}

theorem applyUpdate_only : ChangesOnly roster (roster.applyUpdate loaded body) loaded.id where
  others := by
    intro row listed other
    obtain ⟨old, stored, rfl⟩ := (Table.mem_update (patchShift_id loaded body)).mp listed
    by_cases own : old.id = loaded.id
    · rw [if_pos (decide_eq_true own)] at other
      exact absurd own other
    · rw [if_neg (fun held => own (of_decide_eq_true held))]
      exact stored

theorem applyUpdate_row {row : Shift} (listed : row ∈ (roster.applyUpdate loaded body).shifts.rows)
    (same : row.id = loaded.id) :
    ∃ stored ∈ roster.shifts.rows, stored.id = loaded.id ∧ row = patchShift loaded body stored := by
  obtain ⟨old, stored, rfl⟩ := (Table.mem_update (patchShift_id loaded body)).mp listed
  have own : old.id = loaded.id := by
    by_cases held : old.id = loaded.id
    · exact held
    · rw [if_neg (fun kept => held (of_decide_eq_true kept))] at same
      exact same
  exact ⟨old, stored, own, if_pos (decide_eq_true own)⟩

theorem find?_applyUpdate {id : ShiftId} {row : Shift} (different : id ≠ loaded.id)
    (stored : roster.shifts.find? id = some row) :
    (roster.applyUpdate loaded body).shifts.find? id = some row := by
  have other : row.id ≠ loaded.id := (Table.key_of_find? stored) ▸ different
  rw [Roster.applyUpdate, Table.find?_update, stored]
  simp [other]

theorem patchShift_times_kept (loaded stored : Shift) (kept : body.setsTimes = false) :
    (patchShift loaded body stored).startTime = stored.startTime ∧
      (patchShift loaded body stored).endTime = stored.endTime := by
  unfold UpdateShiftBody.setsTimes at kept
  rw [Bool.or_eq_false_iff] at kept
  have start : body.startTime = .unset := by
    cases given : body.startTime <;> simp [given, Given.isSet] at kept ⊢
  have ending : body.endTime = .unset := by
    cases given : body.endTime <;> simp [given, Given.isSet] at kept ⊢
  simp [patchShift, start, ending, Given.orStored, assignedColumn]

theorem patchShift_times {stored : Shift} (body : UpdateShiftBody)
    (start : stored.startTime = loaded.startTime)
    (ending : stored.endTime = loaded.endTime) :
    (patchShift loaded body stored).startTime =
        (body.startTime.orStored (some loaded.startTime)).getD loaded.startTime ∧
      (patchShift loaded body stored).endTime = body.endTime.orStored loaded.endTime := by
  simp only [patchShift, assignedColumn, start, ending]
  constructor
  · split
    · next same => exact same.symm
    · rfl
  · split
    · next same => exact same.symm
    · rfl

theorem updateWindow_of_validate {window : Option (Moment × Moment)}
    (valid : validateUpdate loaded body = .ok window) : updateWindow loaded body = .ok window := by
  unfold validateUpdate at valid
  by_cases status : refusesStatus loaded body.status = true
  · simp [status] at valid
  · by_cases owner : (body.userId.isSome && decide (body.userId ≠ loaded.userId)) = true
    · rw [if_neg status, if_pos owner] at valid
      cases valid
    · by_cases closed :
          ((body.setsTimes || body.otherContent) && !editableStatus loaded.status) = true
      · rw [if_neg status, if_neg owner, if_pos closed] at valid
        cases valid
      · rw [if_neg status, if_neg owner, if_neg closed] at valid
        exact valid

theorem window_of_validate {window : Moment × Moment}
    (valid : validateUpdate loaded body = .ok (some window)) :
    body.setsTimes = true ∧ body.startTime.orStored (some loaded.startTime) = some window.1 ∧
      body.endTime.orStored loaded.endTime = some window.2 := by
  have left := updateWindow_of_validate valid
  unfold updateWindow at left
  split at left
  · next startTime ending starts ends =>
      split at left
      · cases left
      · cases sets : body.setsTimes with
        | false => simp [sets] at left
        | true =>
          rw [sets, if_pos rfl] at left
          cases left
          exact ⟨rfl, starts, ends⟩
  · cases left

theorem unbounded_of_validate (valid : validateUpdate loaded body = .ok none)
    (sets : body.setsTimes = true) :
    body.startTime.orStored (some loaded.startTime) = none ∨
      body.endTime.orStored loaded.endTime = none := by
  have left := updateWindow_of_validate valid
  cases starts : body.startTime.orStored (some loaded.startTime) with
  | none => exact .inl rfl
  | some startTime =>
    cases ends : body.endTime.orStored loaded.endTime with
    | none => exact .inr rfl
    | some ending =>
      simp only [updateWindow, starts, ends, sets, if_true] at left
      split at left
      · cases left
      · cases left

theorem patched_window {stored : Shift} {checked : Option (UserId × Moment × Moment)}
    (valid : CheckedUpdate loaded body checked) (filled : body.violatesNotNull = false)
    (met : body.setsTimes = true → stored.userId = loaded.userId ∧
      stored.startTime = loaded.startTime ∧ stored.endTime = loaded.endTime)
    {ending : Moment} (bounded : (patchShift loaded body stored).endTime = some ending) :
    (checked = none ∧ (patchShift loaded body stored).startTime = stored.startTime ∧
        stored.endTime = some ending) ∨
      ∃ owner, checked = some (owner, (patchShift loaded body stored).startTime, ending) ∧
        stored.userId = some owner := by
  cases checked with
  | none =>
    refine .inl ⟨rfl, ?_⟩
    cases sets : body.setsTimes with
    | false =>
      obtain ⟨start, kept⟩ := patchShift_times_kept loaded stored sets
      exact ⟨start, kept ▸ bounded⟩
    | true =>
      obtain ⟨_, start, same⟩ := met sets
      have times := patchShift_times body start same
      rcases unbounded_of_validate valid sets with unstarted | unended
      · exfalso
        unfold UpdateShiftBody.violatesNotNull at filled
        cases given : body.startTime with
        | unset | value => simp [given, Given.orStored] at unstarted
        | null => simp [given] at filled
      · rw [times.2, unended] at bounded
        cases bounded
  | some checked =>
    obtain ⟨owner, window⟩ := checked
    obtain ⟨owned, passed⟩ := valid
    obtain ⟨sets, starts, ends⟩ := window_of_validate passed
    obtain ⟨same, start, until_⟩ := met sets
    have times := patchShift_times body start until_
    rw [times.2, ends] at bounded
    cases bounded
    refine .inr ⟨owner, ?_, same.trans owned⟩
    rw [times.1, starts]
    rfl

end

/-- A window in which a check has met no shift of the executor. -/
structure FreeWindow where
  executor : UserId
  exclude : Option ShiftId
  startTime : Moment
  endTime : Moment

def FreeWindow.Holds (window : FreeWindow) (roster : Roster) : Prop :=
  roster.ClearFor window.executor window.exclude window.startTime window.endTime

def TemplateWindow.free (window : TemplateWindow) (user : UserId) : FreeWindow :=
  ⟨user, none, window.startTime, window.endTime⟩

def HandoverStage.found : HandoverStage → List FreeWindow
  | .handing _ shift executor _ =>
    shift.endTime.toList.map fun ending => ⟨executor, some shift.id, shift.startTime, ending⟩
  | _ => []

def BookingStage.found : BookingStage → List FreeWindow
  | .inserting body => [⟨body.userId, none, body.startTime, body.endTime⟩]
  | .flushing loaded _ checked =>
    checked.toList.map fun found => ⟨found.1, some loaded.id, found.2.1, found.2.2⟩
  | .patching loaded _ checked =>
    checked.toList.map fun found => ⟨found.1, some loaded.id, found.2.1, found.2.2⟩
  | .lockingBatch window clear _ _ _ => clear.map window.free
  | .checkingBatch window clear _ _ _ => clear.map window.free
  | .insertingBatch window users => users.map window.free
  | .handover stage => stage.found
  | _ => []

theorem BookingStage.found_locked (stage : BookingStage) :
    ∀ window ∈ stage.found, LockKey.scope window.executor ∈ stage.locks := by
  intro window listed
  cases stage with
  | inserting body =>
    cases List.mem_singleton.mp listed
    exact List.mem_singleton_self _
  | flushing | insertingBatch =>
    obtain ⟨found, member, rfl⟩ := List.mem_map.mp listed
    exact List.mem_map.mpr ⟨found, member, rfl⟩
  | patching loaded body checked =>
    obtain ⟨found, member, rfl⟩ := List.mem_map.mp listed
    exact List.mem_cons_of_mem _ (List.mem_map.mpr ⟨found, member, rfl⟩)
  | lockingBatch free clear conflicts user rest =>
    obtain ⟨found, member, rfl⟩ := List.mem_map.mp listed
    exact List.mem_map.mpr ⟨found, List.mem_append_left _ member, rfl⟩
  | checkingBatch free clear conflicts user rest =>
    obtain ⟨found, member, rfl⟩ := List.mem_map.mp listed
    exact List.mem_map.mpr ⟨found, List.mem_cons_of_mem _ (List.mem_append_left _ member), rfl⟩
  | handover stage =>
    cases stage with
    | handing purpose shift executor now =>
      obtain ⟨ending, bounded, rfl⟩ := List.mem_map.mp listed
      have ends : shift.endTime = some ending := Option.mem_toList.mp bounded
      simp [BookingStage.locks, HandoverStage.locks, ends]
    | _ => cases listed
  | _ => cases listed

def HandoverStage.reads : HandoverStage → Option (Shift × Option Moment)
  | .judging _ shift _ _ => some (shift, none)
  | .locking _ shift ending _ _ => some (shift, some ending)
  | .checking _ shift ending _ _ => some (shift, some ending)
  | .handing _ shift _ _ => some (shift, none)
  | _ => none

theorem HandoverStage.reads_locked {stage : HandoverStage} {shift : Shift}
    {ending : Option Moment} (read : stage.reads = some (shift, ending)) :
    LockKey.shift shift.id ∈ stage.locks := by
  cases stage with
  | judging | locking =>
    cases read
    exact List.mem_cons_self
  | checking purpose own until_ executor now =>
    cases read
    exact List.mem_cons_of_mem _ List.mem_cons_self
  | handing purpose own executor now =>
    cases read
    exact List.mem_append_right _ List.mem_cons_self
  | _ => cases read

def BookingStage.WellFormed : BookingStage → Prop
  | .lockingOwner loaded body owner window => CheckedUpdate loaded body (some (owner, window))
  | .checkingOwner loaded body owner window => CheckedUpdate loaded body (some (owner, window))
  | .flushing loaded body checked => CheckedUpdate loaded body checked
  | .patching loaded body checked => CheckedUpdate loaded body checked ∧ body.violatesNotNull = false
  | .lockingBatch _ clear conflicts user rest => (clear ++ conflicts ++ user :: rest).Nodup
  | .checkingBatch _ clear conflicts user rest => (clear ++ conflicts ++ user :: rest).Nodup
  | .insertingBatch _ users => users.Nodup
  | _ => True

structure BookingRelies (roster : Roster) (stage : BookingStage) : Prop where
  free : ∀ window ∈ stage.found, window.Holds roster
  stored : ∀ handing, stage = .handover handing → ∀ shift ending,
    handing.reads = some (shift, ending) →
      roster.shifts.find? shift.id = some shift ∧ ∀ until_ ∈ ending, shift.endTime = some until_
  formed : stage.WellFormed

def bookingAllows (roster : Roster) : BookingStage → Prop
  | .patching loaded body checked => patchAllowed roster loaded body checked
  | _ => True

/-- A patch that checks nothing brings no shift back into a window that the other request
has found free. -/
def bookingPeaceful (roster : Roster) : BookingStage → BookingStage → Prop
  | .patching loaded body none, other =>
    ∀ stored ∈ roster.shifts.rows, stored.id = loaded.id →
      returnsToService loaded body stored = true → ∀ ending ∈ stored.endTime,
        ∀ window ∈ other.found, stored.userId = some window.executor →
          window.exclude ≠ some stored.id → window.endTime ≤ stored.startTime ∨ ending ≤ window.startTime
  | _, _ => True

instance patchAllowedDecidable (roster : Roster) (loaded : Shift) (body : UpdateShiftBody)
    (checked : Option (UserId × Moment × Moment)) :
    Decidable (patchAllowed roster loaded body checked) := by
  unfold patchAllowed
  infer_instance

instance bookingAllowsDecidable (roster : Roster) (stage : BookingStage) :
    Decidable (bookingAllows roster stage) := by
  unfold bookingAllows
  split
  · infer_instance
  · exact .isTrue trivial

instance bookingPeacefulDecidable (roster : Roster) (stage other : BookingStage) :
    Decidable (bookingPeaceful roster stage other) := by
  unfold bookingPeaceful
  split
  · infer_instance
  · exact .isTrue trivial

/-- A commit leaves alone what another request relies on. -/
structure Spares (roster after : Roster) (other : BookingStage) : Prop where
  shift : ∀ id, .shift id ∈ other.locks → ∀ row, roster.shifts.find? id = some row →
    after.shifts.find? id = some row
  free : ∀ window ∈ other.found, window.Holds roster → window.Holds after

section

variable {other : BookingStage}

theorem Spares.same : Spares roster roster other where
  shift := fun _ _ _ stored => stored
  free := fun _ _ holds => holds

theorem BookingRelies.of_spares {after : Roster} (relies : BookingRelies roster other)
    (spares : Spares roster after other) : BookingRelies after other where
  free := fun window listed => spares.free window listed (relies.free window listed)
  stored := by
    intro handing same shift ending read
    obtain ⟨stored, bounded⟩ := relies.stored handing same shift ending read
    have locked : LockKey.shift shift.id ∈ other.locks := by
      rw [same]
      exact HandoverStage.reads_locked read
    exact ⟨spares.shift shift.id locked shift stored, bounded⟩
  formed := relies.formed

theorem spares_inserting {body : CreateShiftBody} {status : ShiftStatus} {focus : Json}
    (apart : bookingProgram.Apart (.inserting body) other) :
    Spares roster (roster.addShift body.userId body.startTime body.endTime status focus)
      other where
  shift := fun _ _ _ stored => find?_addShift stored
  free := by
    intro window listed holds
    refine addShift_clear (fun same => ?_) holds
    have locked := other.found_locked window listed
    rw [same] at locked
    exact apart (.scope body.userId) (List.mem_singleton_self _) locked

theorem spares_batch {window : TemplateWindow} {users : List UserId}
    (apart : bookingProgram.Apart (.insertingBatch window users) other) :
    Spares roster (roster.addBatch window.startTime window.endTime window.focus users)
      other where
  shift := fun _ _ _ stored => find?_addBatch users stored
  free := by
    intro found listed holds
    refine addBatch_clear users (fun member => ?_) holds
    exact apart (.scope found.executor) (List.mem_map.mpr ⟨_, member, rfl⟩)
      (other.found_locked found listed)

theorem spares_handing {purpose : Purpose} {shift : Shift} {executor : UserId} {now : Moment}
    (stored : roster.shifts.find? shift.id = some shift)
    (apart : bookingProgram.Apart (.handover (.handing purpose shift executor now)) other) :
    Spares roster (commitHandover roster purpose shift executor now) other where
  shift := by
    intro id locked row kept
    refine find?_commitHandover (fun same => ?_) kept
    rw [same] at locked
    exact apart (.shift shift.id) (List.mem_append_right _ List.mem_cons_self) locked
  free := by
    intro window listed holds
    refine commitHandover_clear stored (fun bounded same => ?_) holds
    have locked := other.found_locked window listed
    rw [same] at locked
    refine apart (.scope executor) ?_ locked
    simp [bookingProgram, BookingStage.locks, HandoverStage.locks, bounded]

theorem spares_patching {loaded : Shift} {body : UpdateShiftBody}
    {checked : Option (UserId × Moment × Moment)}
    (allowed : patchAllowed roster loaded body checked)
    (relies : BookingRelies roster (.patching loaded body checked))
    (peaceful : bookingPeaceful roster (.patching loaded body checked) other)
    (apart : bookingProgram.Apart (.patching loaded body checked) other) :
    Spares roster (roster.applyUpdate loaded body) other where
  shift := by
    intro id locked row kept
    refine find?_applyUpdate (fun same => ?_) kept
    rw [same] at locked
    exact apart (.shift loaded.id) List.mem_cons_self locked
  free := by
    intro window listed holds
    refine Roster.ClearFor.of_change applyUpdate_only ?_ holds
    intro row rowListed same own running different moment after before covers
    obtain ⟨stored, storedListed, storedSame, rfl⟩ := applyUpdate_row rowListed same
    obtain ⟨begun, ending, bounded, notYet⟩ := covers
    have met := (allowed stored storedListed storedSame).1
    rcases patched_window relies.formed.1 relies.formed.2 met bounded with
      ⟨rfl, start, ends⟩ | ⟨owner, rfl, owned⟩
    · have different' : window.exclude ≠ some stored.id := storedSame ▸ different
      rw [start] at begun
      cases served : stored.inService with
      | true =>
        exact holds stored storedListed own served different' moment after before
          ⟨begun, ending, ends, notYet⟩
      | false =>
        have returns : returnsToService loaded body stored = true := by
          unfold returnsToService
          rw [served, running]
          rfl
        rcases peaceful stored storedListed storedSame returns ending ends window listed own
          different' with early | late
        · exact absurd (Int.lt_of_lt_of_le before early) (Int.not_lt.mpr begun)
        · exact absurd (Int.lt_of_lt_of_le notYet late) (Int.not_lt.mpr after)
    · have equal : owner = window.executor := Option.some.inj (owned.symm.trans own)
      have locked := other.found_locked window listed
      rw [← equal] at locked
      refine apart (.scope owner) ?_ locked
      exact List.mem_cons_of_mem _ (List.mem_singleton_self _)

end

theorem Roster.NoDoubleBooking.fits (single : roster.NoDoubleBooking) {row : Shift}
    (listed : row ∈ roster.shifts.rows) : roster.Fits row := by
  intro running executor own ending bounded other otherListed otherOwn serving different moment
    begun notYet
  exact single row listed other otherListed (fun same => different (congrArg some same)) running
    serving executor own otherOwn moment ⟨begun, ending, bounded, notYet⟩

theorem clearFor_of_no_rival {stored : Shift} {executor : UserId} {ending : Moment}
    (alone : ∀ other ∈ roster.shifts.rows, rivalShift executor stored other = true →
      overlapsBot stored ending other = false) :
    roster.ClearFor executor (some stored.id) stored.startTime ending := by
  intro other listed own running different moment begun notYet covers
  obtain ⟨started, until_, bounded, still⟩ := covers
  have serving : (decide (other.status = .active) || decide (other.status = .planned)) = true := running
  have distinct : other.id ≠ stored.id := fun same => different (congrArg some same.symm)
  have rival : rivalShift executor stored other = true := by
    simp [rivalShift, own, serving, distinct]
  have early : other.startTime < ending := Int.lt_of_le_of_lt started notYet
  have late : stored.startTime < until_ := Int.lt_of_le_of_lt begun still
  have missed := alone other listed rival
  simp [overlapsBot, early, bounded, late] at missed

theorem applyUpdate_single {loaded : Shift} {body : UpdateShiftBody}
    {checked : Option (UserId × Moment × Moment)}
    (allowed : patchAllowed roster loaded body checked)
    (relies : BookingRelies roster (.patching loaded body checked))
    (single : roster.NoDoubleBooking) : (roster.applyUpdate loaded body).NoDoubleBooking := by
  refine single.of_change applyUpdate_only fun row listed same => ?_
  obtain ⟨stored, storedListed, storedSame, rfl⟩ := applyUpdate_row listed same
  intro running executor own ending bounded
  have permitted := allowed stored storedListed storedSame
  rcases patched_window relies.formed.1 relies.formed.2 permitted.1 bounded with
    ⟨rfl, start, ends⟩ | ⟨owner, rfl, owned⟩
  · rw [start, patchShift_id]
    cases served : stored.inService with
    | true => exact single.fits storedListed served executor own ending ends
    | false =>
      have returns : returnsToService loaded body stored = true := by
        unfold returnsToService
        rw [served, running]
        rfl
      exact clearFor_of_no_rival (permitted.2 rfl returns executor own ending ends)
  · cases owned.symm.trans own
    rw [patchShift_id, storedSame]
    exact relies.free ⟨executor, some loaded.id, (patchShift loaded body stored).startTime, ending⟩
      (List.mem_singleton_self _)

theorem BookingRelies.plain {stage : BookingStage} (found : stage.found = [])
    (unread : ∀ handing, stage = .handover handing → handing.reads = none)
    (formed : stage.WellFormed) : BookingRelies roster stage where
  free := by
    intro window listed
    rw [found] at listed
    cases listed
  stored := by
    intro handing same shift ending read
    rw [unread handing same] at read
    cases read
  formed := formed

theorem nextOfBatch_relies {window : TemplateWindow} {clear conflicts rest : List UserId}
    (free : ∀ user ∈ clear, (window.free user).Holds roster)
    (distinct : (clear ++ conflicts ++ rest).Nodup) :
    BookingRelies roster (nextOfBatch window clear conflicts rest) := by
  have holds : ∀ found ∈ clear.map window.free, found.Holds roster := by
    intro found listed
    obtain ⟨user, member, rfl⟩ := List.mem_map.mp listed
    exact free user member
  cases rest with
  | cons user rest => exact ⟨holds, fun _ same => (by cases same), distinct⟩
  | nil =>
    rw [List.append_nil] at distinct
    simp only [nextOfBatch]
    split
    · next none_left =>
        refine ⟨holds, fun _ same => (by cases same), ?_⟩
        rw [none_left, List.append_nil] at distinct
        exact distinct
    · exact .plain rfl (fun _ same => by cases same) trivial

theorem handover_relies (stage : HandoverStage) (single : roster.NoDoubleBooking)
    (relies : BookingRelies roster (.handover stage)) :
    (performHandover roster stage).1.NoDoubleBooking ∧
      BookingRelies (performHandover roster stage).1
        (.handover (performHandover roster stage).2) := by
  have refused : ∀ refusal, BookingRelies roster (.handover (.finished refusal)) :=
    fun refusal => .plain rfl (fun _ same => by cases same; rfl) trivial
  -- A stage that holds the shift it has read and has found no window yet.
  have reading : ∀ next : HandoverStage, next.found = [] →
      (∀ shift ending, next.reads = some (shift, ending) →
        roster.shifts.find? shift.id = some shift ∧ ∀ until_ ∈ ending, shift.endTime = some until_) →
        BookingRelies roster (.handover next) := by
    intro next none_found read
    refine ⟨fun window listed => ?_, fun handing same => ?_, trivial⟩
    · exact absurd (none_found ▸ listed : window ∈ []) List.not_mem_nil
    · cases same
      exact read
  cases stage with
  | reassigning shiftId executor manager now =>
    simp only [performHandover]
    cases found : roster.shifts.find? shiftId with
    | none => exact ⟨single, refused _⟩
    | some shift =>
      refine ⟨single, reading _ rfl fun _ _ read => ?_⟩
      cases read
      exact ⟨(Table.key_of_find? found) ▸ found, fun _ none_given => by cases none_given⟩
  | accepting transferId executor now =>
    simp only [performHandover]
    cases roster.transfers.find? transferId with
    | none => exact ⟨single, refused _⟩
    | some transfer =>
      dsimp only
      split
      · exact ⟨single, refused _⟩
      · split
        · exact ⟨single, refused _⟩
        · exact ⟨single, .plain rfl (fun _ same => by cases same; rfl) trivial⟩
  | following transfer executor now =>
    simp only [performHandover]
    cases found : roster.shifts.find? transfer.shiftId with
    | none => exact ⟨single, refused _⟩
    | some shift =>
      refine ⟨single, reading _ rfl fun _ _ read => ?_⟩
      cases read
      exact ⟨(Table.key_of_find? found) ▸ found, fun _ none_given => by cases none_given⟩
  | judging purpose shift executor now =>
    have stored := (relies.stored _ rfl shift none rfl).1
    simp only [performHandover]
    cases judgeHandover roster purpose shift executor with
    | some refusal => exact ⟨single, refused _⟩
    | none =>
      cases bounded : shift.endTime with
      | some ending =>
        refine ⟨single, reading _ rfl fun _ _ read => ?_⟩
        cases read
        exact ⟨stored, fun _ given => by cases given; exact bounded⟩
      | none =>
        refine ⟨single, reading _ ?_ fun _ _ read => ?_⟩
        · simp [HandoverStage.found, bounded]
        · cases read
          exact ⟨stored, fun _ none_given => by cases none_given⟩
  | locking purpose shift ending executor now =>
    refine ⟨single, reading _ rfl fun _ _ read => ?_⟩
    cases read
    exact relies.stored _ rfl shift (some ending) rfl
  | checking purpose shift ending executor now =>
    obtain ⟨stored, bounded⟩ := relies.stored _ rfl shift (some ending) rfl
    have ends : shift.endTime = some ending := bounded ending rfl
    simp only [performHandover]
    split
    · exact ⟨single, refused _⟩
    · next unfound =>
        refine ⟨single, fun window listed => ?_, fun handing same => ?_, trivial⟩
        · simp only [BookingStage.found, HandoverStage.found, ends, Option.toList_some,
            List.map_cons, List.map_nil, List.mem_singleton] at listed
          rw [listed]
          exact clearFor_of_not_found (by simpa using unfound)
        · cases same
          intro _ _ read
          cases read
          exact ⟨stored, fun _ none_given => by cases none_given⟩
  | handing purpose shift executor now =>
    refine ⟨commitHandover_single (relies.stored _ rfl shift none rfl).1 ?_ single,
      .plain rfl (fun _ same => by cases same; rfl) trivial⟩
    intro ending bounded
    refine relies.free ⟨executor, some shift.id, shift.startTime, ending⟩ ?_
    simp [BookingStage.found, HandoverStage.found, bounded]
  | finished refusal => exact ⟨single, relies⟩

theorem booking_step (stage : BookingStage) (allowed : bookingAllows roster stage)
    (single : roster.NoDoubleBooking) (relies : BookingRelies roster stage) :
    (performBooking roster stage).1.NoDoubleBooking ∧
      BookingRelies (performBooking roster stage).1 (performBooking roster stage).2 := by
  have returned : ∀ roster error, BookingRelies roster (.returning error) :=
    fun _ _ => .plain rfl (fun _ same => by cases same) trivial
  cases stage with
  | idle | returning => exact ⟨single, relies⟩
  | creating body =>
    simp only [performBooking]
    cases roster.users.find? body.userId with
    | none => exact ⟨single, returned _ _⟩
    | some user =>
      dsimp only
      split
      · exact ⟨single, returned _ _⟩
      · exact ⟨single, .plain rfl (fun _ same => by cases same) trivial⟩
  | lockingNew body => exact ⟨single, .plain rfl (fun _ same => by cases same) trivial⟩
  | checkingNew body =>
    simp only [performBooking]
    split
    · exact ⟨single, returned _ _⟩
    · next unfound =>
        refine ⟨single, fun window listed => ?_, fun _ same => (by cases same), trivial⟩
        rw [List.mem_singleton.mp listed]
        exact clearFor_of_not_found (by simpa using unfound)
  | inserting body =>
    exact ⟨addShift_single (relies.free _ (List.mem_singleton_self _)) single, returned _ _⟩
  | updating shiftId body =>
    simp only [performBooking]
    cases roster.shifts.find? shiftId with
    | none => exact ⟨single, returned _ _⟩
    | some loaded =>
      dsimp only
      cases valid : validateUpdate loaded body with
      | error error => exact ⟨single, returned _ _⟩
      | ok window =>
        cases window with
        | none => exact ⟨single, .plain rfl (fun _ same => by cases same) valid⟩
        | some window =>
          cases owned : loaded.userId with
          | none => exact ⟨single, returned _ _⟩
          | some owner => exact ⟨single, .plain rfl (fun _ same => by cases same) ⟨owned, valid⟩⟩
  | lockingOwner loaded body owner window =>
    exact ⟨single, .plain rfl (fun _ same => by cases same) relies.formed⟩
  | checkingOwner loaded body owner window =>
    simp only [performBooking]
    split
    · exact ⟨single, returned _ _⟩
    · next unfound =>
        refine ⟨single, fun found listed => ?_, fun _ same => (by cases same), relies.formed⟩
        rw [List.mem_singleton.mp listed]
        exact clearFor_of_not_found (by simpa using unfound)
  | flushing loaded body checked =>
    simp only [performBooking]
    split
    · exact ⟨single, returned _ _⟩
    · next filled =>
        exact ⟨single, relies.free, fun _ same => (by cases same), relies.formed, by simpa using filled⟩
  | patching loaded body checked => exact ⟨applyUpdate_single allowed relies single, returned _ _⟩
  | batching window users =>
    simp only [performBooking]
    split
    · refine ⟨single, nextOfBatch_relies (fun _ member => by cases member) ?_⟩
      exact (List.perm_insertionSort _ _).nodup_iff.mpr (List.nodup_dedup users)
    · exact ⟨single, returned _ _⟩
  | lockingBatch window clear conflicts user rest =>
    exact ⟨single, relies.free, fun _ same => (by cases same), relies.formed⟩
  | checkingBatch window clear conflicts user rest =>
    have distinct : (clear ++ conflicts ++ user :: rest).Nodup := relies.formed
    have free : ∀ other ∈ clear, (window.free other).Holds roster :=
      fun other member => relies.free _ (List.mem_map.mpr ⟨other, member, rfl⟩)
    simp only [performBooking]
    split
    · refine ⟨single, nextOfBatch_relies free ?_⟩
      simpa using distinct
    · next unfound =>
        refine ⟨single, nextOfBatch_relies (fun other member => ?_) ?_⟩
        · rcases List.mem_append.mp member with before | last
          · exact free other before
          · rw [List.mem_singleton.mp last]
            exact clearFor_of_not_found (by simpa [TemplateWindow.free] using unfound)
        · refine (List.Perm.nodup_iff ?_).mp distinct
          have moved : (clear ++ (conflicts ++ user :: rest)).Perm
              (clear ++ user :: (conflicts ++ rest)) := List.perm_middle.append_left clear
          simpa using moved
  | insertingBatch window users =>
    refine ⟨addBatch_single users relies.formed (fun user member => ?_) single, returned _ _⟩
    exact relies.free _ (List.mem_map.mpr ⟨user, member, rfl⟩)
  | handover stage => exact handover_relies stage single relies

theorem booking_spares {stage other : BookingStage} (allowed : bookingAllows roster stage)
    (relies : BookingRelies roster stage) (peaceful : bookingPeaceful roster stage other)
    (apart : bookingProgram.Apart stage other) :
    Spares roster (performBooking roster stage).1 other := by
  cases stage with
  | inserting body => exact spares_inserting apart
  | patching loaded body checked => exact spares_patching allowed relies peaceful apart
  | insertingBatch window users => exact spares_batch apart
  | handover stage =>
    rcases performHandover_reads roster stage with
      unchanged | ⟨purpose, shift, executor, now, rfl⟩
    · simp only [performBooking, unchanged]
      exact .same
    · exact spares_handing (relies.stored _ rfl shift none rfl).1 apart
  | _ =>
    have unchanged : ∀ stage : BookingStage, (performBooking roster stage).1 = roster →
        Spares roster (performBooking roster stage).1 other := by
      intro stage same
      rw [same]
      exact .same
    refine unchanged _ ?_
    simp only [performBooking]
    repeat' split
    all_goals rfl

theorem booking_sound :
    bookingProgram.Sound bookingAllows bookingPeaceful Roster.NoDoubleBooking BookingRelies where
  idle := fun _ _ => .plain rfl (fun _ same => by cases same) trivial
  start := by
    intro roster call single
    cases call with
    | createShift | updateShift | createFromTemplate => exact .plain rfl (fun _ same => by cases same) trivial
    | reassignShiftWeb | acceptTransferWeb =>
      exact .plain rfl (fun _ same => by cases same; rfl) trivial
  step := fun _ stage allowed single relies => booking_step stage allowed single relies
  others := fun _ _ _ allowed _ relies otherRelies peaceful apart _ =>
    otherRelies.of_spares (booking_spares allowed relies peaceful apart)

/-- The manager's requests double-book nobody in a run whose changes of times meet the shift
that they have read, and in which no shift comes back from a pause into a window that is
taken. -/
theorem booking_never_doubles {n : Nat} {roster : Roster} (single : roster.NoDoubleBooking)
    {events : List (Program.Event BookingCall n)}
    (careful : bookingProgram.Careful bookingAllows bookingPeaceful
      (bookingProgram.initial roster) events) :
    (run bookingProgram.next (bookingProgram.initial roster) events).store.NoDoubleBooking :=
  (booking_sound.holds_run (booking_sound.holds_initial single) careful).store

def oneShiftRoster : Roster where
  users := ⟨[executorNamed 1], by decide⟩
  shifts := ⟨[shiftOf 1 1 10 (some 20) .active], by decide⟩
  transfers := .empty

theorem oneShift_single : oneShiftRoster.NoDoubleBooking := by
  intro left leftListed right rightListed different
  cases List.mem_singleton.mp leftListed
  cases List.mem_singleton.mp rightListed
  exact absurd rfl different

def statusPatch (status : ShiftStatus) : UpdateShiftBody := ⟨.value status, none, .unset, .unset, false⟩

/-- The shift is paused and taken up again while the next one is created. -/
def pausedRequests : List (Program.Event BookingCall 2) :=
  [.call 0 (.createShift ⟨1, 20, 30, [], by decide⟩),
    .call 1 (.updateShift 1 (statusPatch .paused)),
    .step 0, .step 1, .step 0, .step 1, .step 0, .step 1, .step 0,
    .call 1 (.updateShift 1 (statusPatch .active)), .step 1, .step 1, .step 1]

theorem paused_never_doubles :
    (run bookingProgram.next (bookingProgram.initial oneShiftRoster)
      pausedRequests).store.NoDoubleBooking :=
  have careful : bookingProgram.Careful bookingAllows bookingPeaceful
      (bookingProgram.initial oneShiftRoster) pausedRequests := by decide +kernel
  booking_never_doubles oneShift_single careful

/-- One manager pauses the shift, gives its window to another shift and takes it up again. -/
def refilledRequests : List (Program.Event BookingCall 1) :=
  [.call 0 (.updateShift 1 (statusPatch .paused)), .step 0, .step 0, .step 0,
    .call 0 (.createShift ⟨1, 10, 20, [], by decide⟩), .step 0, .step 0, .step 0, .step 0,
    .call 0 (.updateShift 1 (statusPatch .active)), .step 0, .step 0, .step 0]

theorem refilled_pause_doubles :
    ¬ ∀ (n : Nat) (roster : Roster) (events : List (Program.Event BookingCall n)),
      roster.NoDoubleBooking →
        (run bookingProgram.next (bookingProgram.initial roster) events).store.NoDoubleBooking := by
  intro never
  have single := never 1 oneShiftRoster refilledRequests oneShift_single
  have rows : (run bookingProgram.next (bookingProgram.initial oneShiftRoster)
      refilledRequests).store.shifts.rows =
        [shiftOf 1 1 10 (some 20) .active, newShift 1 10 20 .active (.array []) 2] := rfl
  have first : shiftOf 1 1 10 (some 20) .active ∈ (run bookingProgram.next
      (bookingProgram.initial oneShiftRoster) refilledRequests).store.shifts.rows := by
    rw [rows]
    exact List.mem_cons_self
  have second : newShift 1 10 20 .active (.array []) 2 ∈ (run bookingProgram.next
      (bookingProgram.initial oneShiftRoster) refilledRequests).store.shifts.rows := by
    rw [rows]
    exact List.mem_cons_of_mem _ List.mem_cons_self
  exact single _ first _ second (by decide) rfl rfl 1 rfl rfl 10
    ⟨by decide, 20, rfl, by decide⟩ ⟨by decide, 20, rfl, by decide⟩

end InfrasafeBot.Shifts
