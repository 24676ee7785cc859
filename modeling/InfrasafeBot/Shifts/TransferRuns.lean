import InfrasafeBot.Shifts.ReassignmentProperties
import InfrasafeBot.Shifts.Transfers

/-! Whether the transfers of shifts follow one lifecycle and tell the truth about the shift.
A transfer that is locked stays what it was; what is not locked is a transfer that the expiry
has read, a shift for which the bot creates a transfer, and the owner that a transfer has
named. -/

set_option autoImplicit false

namespace InfrasafeBot.Shifts

open Library RequestWorkflow Machine

/-- A status that one commit may leave after another: the transitions of `update_status`, the
acceptance in one commit, and the expiry. -/
def LifecycleStep (before after : TransferStatus) : Prop :=
  before.isOpen = true ∧
    (after ∈ ShiftTransfer.validTransitions before ∨ (before = .assigned ∧ after = .completed) ∨
      ((before = .pending ∨ before = .assigned) ∧ after = .expired))

/-- At most one transfer of a shift is pending, assigned or accepted. -/
def Roster.OneOpen (roster : Roster) : Prop :=
  ∀ left ∈ roster.transfers.rows, ∀ right ∈ roster.transfers.rows, left.status.isOpen = true →
    right.status.isOpen = true → left.shiftId = right.shiftId → left = right

/-- No transfer is assigned to the executor it comes from. -/
def Roster.AssignedElsewhere (roster : Roster) : Prop :=
  ∀ row ∈ roster.transfers.rows, row.status = .assigned → row.toExecutorId ≠ some row.fromExecutorId

structure Roster.Orderly (roster : Roster) : Prop where
  oneOpen : roster.OneOpen
  elsewhere : roster.AssignedElsewhere

def Roster.NoneOpen (roster : Roster) (shiftId : ShiftId) : Prop :=
  ∀ row ∈ roster.transfers.rows, row.shiftId = shiftId → row.status.isOpen = false

/-- The shift goes from the executor to the other. -/
def ChangesOwner (before after : Roster) (shiftId : ShiftId) (old new : UserId) : Prop :=
  ∃ left ∈ before.shifts.rows, ∃ right ∈ after.shifts.rows,
    left.id = shiftId ∧ right.id = shiftId ∧ left.userId = some old ∧ right.userId = some new

/-- What a commit does to the transfers that there were before. -/
structure Truthful (before after : Roster) : Prop where
  statuses : ∀ row ∈ before.transfers.rows, ∀ next ∈ after.transfers.rows, next.id = row.id →
    next.status = row.status ∨ LifecycleStep row.status next.status
  completions : ∀ row ∈ before.transfers.rows, ∀ next ∈ after.transfers.rows, next.id = row.id →
    row.status ≠ .completed → next.status = .completed →
      ∃ executor, next.toExecutorId = some executor ∧ executor ≠ next.fromExecutorId ∧
        ChangesOwner before after next.shiftId next.fromExecutorId executor

/-- A transfer and what a commit leaves of it. -/
structure Advances (row next : ShiftTransfer) : Prop where
  id : next.id = row.id
  shiftId : next.shiftId = row.shiftId
  fromExecutorId : next.fromExecutorId = row.fromExecutorId
  status : next.status = row.status ∨ LifecycleStep row.status next.status
  elsewhere : (row.status = .assigned → row.toExecutorId ≠ some row.fromExecutorId) →
    next.status = .assigned → next.toExecutorId ≠ some next.fromExecutorId

theorem Advances.same (row : ShiftTransfer) : Advances row row where
  id := rfl
  shiftId := rfl
  fromExecutorId := rfl
  status := .inl rfl
  elsewhere := fun kept assigned => kept assigned

theorem Advances.isOpen {row next : ShiftTransfer} (advances : Advances row next)
    (running : next.status.isOpen = true) : row.status.isOpen = true := by
  rcases advances.status with kept | step
  · rwa [← kept]
  · exact step.1

/-- Every transfer was there before. -/
def Advanced (before after : Roster) : Prop :=
  ∀ next ∈ after.transfers.rows, ∃ row ∈ before.transfers.rows, Advances row next

section

variable {before after : Roster}

theorem Advanced.orderly (advanced : Advanced before after) (orderly : before.Orderly) : after.Orderly where
  oneOpen := by
    intro left leftListed right rightListed leftOpen rightOpen same
    obtain ⟨oldLeft, oldLeftListed, leftAdvances⟩ := advanced left leftListed
    obtain ⟨oldRight, oldRightListed, rightAdvances⟩ := advanced right rightListed
    have equal : oldLeft = oldRight := by
      refine orderly.oneOpen oldLeft oldLeftListed oldRight oldRightListed
        (leftAdvances.isOpen leftOpen) (rightAdvances.isOpen rightOpen) ?_
      rw [← leftAdvances.shiftId, ← rightAdvances.shiftId, same]
    refine Table.eq_of_key leftListed rightListed ?_
    rw [leftAdvances.id, rightAdvances.id, equal]
  elsewhere := by
    intro next listed
    obtain ⟨row, rowListed, advances⟩ := advanced next listed
    exact advances.elsewhere (orderly.elsewhere row rowListed)

theorem Advanced.noneOpen (advanced : Advanced before after) {shiftId : ShiftId}
    (none_open : before.NoneOpen shiftId) : after.NoneOpen shiftId := by
  intro next listed same
  obtain ⟨row, rowListed, advances⟩ := advanced next listed
  have closed := none_open row rowListed (advances.shiftId.symm.trans same)
  cases running : next.status.isOpen with
  | false => rfl
  | true => exact absurd (advances.isOpen running) (by rw [closed]; exact Bool.false_ne_true)

theorem Advanced.statuses (advanced : Advanced before after) :
    ∀ row ∈ before.transfers.rows, ∀ next ∈ after.transfers.rows, next.id = row.id →
      next.status = row.status ∨ LifecycleStep row.status next.status := by
  intro row listed next nextListed same
  obtain ⟨old, oldListed, advances⟩ := advanced next nextListed
  have equal : old = row := Table.eq_of_key oldListed listed (advances.id.symm.trans same)
  rw [← equal]
  exact advances.status

end

section

variable {roster : Roster}

theorem ShiftTransfer.flush_self (loaded changed : ShiftTransfer) :
    ShiftTransfer.flush loaded changed loaded =
      { loaded with
        toExecutorId := changed.toExecutorId, assignedBy := changed.assignedBy
        status := changed.status, assignedAt := changed.assignedAt
        respondedAt := changed.respondedAt, completedAt := changed.completedAt } := by
  have assigned : ∀ {Value : Type} [DecidableEq Value] (value loaded : Value),
      assignedColumn value loaded loaded = value := by
    intro Value _ value loaded
    unfold assignedColumn
    split
    · next same => exact same.symm
    · rfl
  simp only [ShiftTransfer.flush, assigned]

variable {changed loaded next row : ShiftTransfer} {id : TransferId}
  {make : TransferId → ShiftTransfer} {executor : UserId} {shift : Shift}

theorem putTransfer_row (stored : roster.transfers.find? loaded.id = some loaded)
    (listed : next ∈ (roster.putTransfer loaded changed).transfers.rows) :
    next = ShiftTransfer.flush loaded changed loaded ∨
      next ∈ roster.transfers.rows ∧ next.id ≠ loaded.id := by
  obtain ⟨row, rowListed, rfl⟩ := (Table.mem_update (ShiftTransfer.flush_id loaded changed)).mp listed
  by_cases own : row.id = loaded.id
  · left
    rw [if_pos (decide_eq_true own), Table.eq_of_key rowListed (Table.mem_of_find? stored) own]
  · right
    rw [if_neg (fun held => own (of_decide_eq_true held))]
    exact ⟨rowListed, own⟩

theorem putTransfer_advanced (stored : roster.transfers.find? loaded.id = some loaded)
    (advances : Advances loaded (ShiftTransfer.flush loaded changed loaded)) :
    Advanced roster (roster.putTransfer loaded changed) := by
  intro next listed
  rcases putTransfer_row stored listed with rfl | ⟨kept, _⟩
  · exact ⟨loaded, Table.mem_of_find? stored, advances⟩
  · exact ⟨next, kept, .same next⟩

theorem find?_putTransfer (different : id ≠ loaded.id)
    (stored : roster.transfers.find? id = some row) :
    (roster.putTransfer loaded changed).transfers.find? id = some row := by
  have other : row.id ≠ loaded.id := (Table.key_of_find? stored) ▸ different
  rw [Roster.putTransfer, Table.find?_update, stored]
  simp [other]

theorem addTransfer_row {numbered : ∀ id, (make id).id = id}
    (listed : next ∈ (roster.addTransfer make numbered).transfers.rows) :
    next ∈ roster.transfers.rows ∨ next = make roster.transfers.nextKey :=
  (Table.mem_insert numbered).mp listed

theorem find?_addTransfer {numbered : ∀ id, (make id).id = id}
    (stored : roster.transfers.find? id = some row) :
    (roster.addTransfer make numbered).transfers.find? id = some row := by
  rw [Roster.addTransfer, Table.find?_insert, stored, Option.some_or]

theorem addTransfer_fresh {numbered : ∀ id, (make id).id = id} :
    ∀ row ∈ roster.transfers.rows, ∀ next ∈ (roster.addTransfer make numbered).transfers.rows,
      next.id = row.id → next = row := by
  intro row rowListed next listed same
  rcases addTransfer_row listed with old | rfl
  · exact Table.eq_of_key old rowListed same
  · rw [numbered] at same
    exact absurd (List.mem_map.mpr ⟨row, rowListed, same.symm⟩) roster.transfers.nextKey_fresh

theorem addTransfer_orderly {numbered : ∀ id, (make id).id = id}
    (alone : (make roster.transfers.nextKey).status.isOpen = true →
      roster.NoneOpen (make roster.transfers.nextKey).shiftId)
    (unassigned : (make roster.transfers.nextKey).status ≠ .assigned) (orderly : roster.Orderly) :
    (roster.addTransfer make numbered).Orderly where
  oneOpen := by
    have against : ∀ row ∈ roster.transfers.rows, row.status.isOpen = true →
        (make roster.transfers.nextKey).status.isOpen = true →
          row.shiftId ≠ (make roster.transfers.nextKey).shiftId := by
      intro row listed running fresh same
      rw [alone fresh row listed same] at running
      cases running
    intro left leftListed right rightListed leftOpen rightOpen same
    rcases addTransfer_row leftListed with oldLeft | rfl
    · rcases addTransfer_row rightListed with oldRight | rfl
      · exact orderly.oneOpen left oldLeft right oldRight leftOpen rightOpen same
      · exact absurd same (against left oldLeft leftOpen rightOpen)
    · rcases addTransfer_row rightListed with oldRight | rfl
      · exact absurd same.symm (against right oldRight rightOpen leftOpen)
      · rfl
  elsewhere := by
    intro next listed assigned
    rcases addTransfer_row listed with old | rfl
    · exact orderly.elsewhere next old assigned
    · exact absurd assigned unassigned

theorem addTransfer_noneOpen {numbered : ∀ id, (make id).id = id} {shiftId : ShiftId}
    (elsewhere : (make roster.transfers.nextKey).status.isOpen = true →
      (make roster.transfers.nextKey).shiftId ≠ shiftId) (none_open : roster.NoneOpen shiftId) :
    (roster.addTransfer make numbered).NoneOpen shiftId := by
  intro next listed same
  rcases addTransfer_row listed with old | rfl
  · exact none_open next old same
  · cases running : (make roster.transfers.nextKey).status.isOpen with
    | false => rfl
    | true => exact absurd same (elsewhere running)

theorem find?_giveShift {row : Shift} {id : ShiftId} (different : id ≠ shift.id)
    (stored : roster.shifts.find? id = some row) :
    (roster.giveShift shift executor).shifts.find? id = some row := by
  have other : row.id ≠ shift.id := (Table.key_of_find? stored) ▸ different
  rw [Roster.giveShift, Table.find?_update, stored]
  simp [other]

theorem giveShift_changes {stored : Shift} {old : UserId} (listed : stored ∈ roster.shifts.rows)
    (same : stored.id = shift.id) (owned : stored.userId = some old)
    (different : shift.userId ≠ some executor) :
    ChangesOwner roster (roster.giveShift shift executor) shift.id old executor := by
  refine ⟨stored, listed, { stored with userId := some executor }, ?_, same, same, owned, rfl⟩
  refine (Table.mem_update (Roster.given_id shift executor)).mpr ⟨stored, listed, ?_⟩
  rw [if_pos (decide_eq_true same)]
  simp only [assignedColumn, if_neg (Ne.symm different)]

end

/-- A transfer that its recipient may accept. -/
structure Acceptable (transfer : ShiftTransfer) (executor : UserId) : Prop where
  status : transfer.status = .assigned
  recipient : transfer.toExecutorId = some executor
  elsewhere : executor ≠ transfer.fromExecutorId

section

variable {roster : Roster} {transfer : ShiftTransfer} {executor : UserId}

theorem accepted_status (assigned : transfer.status = .assigned) (now : Moment) :
    (transfer.accepted now).status = .completed ∧
      (transfer.accepted now).toExecutorId = transfer.toExecutorId := by
  simp [ShiftTransfer.accepted, ShiftTransfer.updateStatus, ShiftTransfer.validTransitions, assigned]

theorem assignedTo_status (pending : transfer.status = .pending) (manager : Option UserId)
    (now : Moment) : (transfer.assignedTo executor manager now).status = .assigned := by
  simp [ShiftTransfer.assignedTo, ShiftTransfer.updateStatus, ShiftTransfer.validTransitions, pending]

variable {status : TransferStatus} {changed : ShiftTransfer}

theorem lifecycle_assigned (pending : status = .pending) : LifecycleStep status .assigned := by
  subst pending
  exact ⟨rfl, .inl (by decide)⟩

theorem lifecycle_completed (assigned : status = .assigned) : LifecycleStep status .completed := by
  subst assigned
  exact ⟨rfl, .inr (.inl ⟨rfl, rfl⟩)⟩

theorem lifecycle_rejected (assigned : status = .assigned) : LifecycleStep status .rejected := by
  subst assigned
  exact ⟨rfl, .inl (by decide)⟩

theorem lifecycle_cancelled (running : status = .pending ∨ status = .assigned) :
    LifecycleStep status .cancelled := by
  rcases running with rfl | rfl
  · exact ⟨rfl, .inl (by decide)⟩
  · exact ⟨rfl, .inl (by decide)⟩

theorem lifecycle_expired (running : status = .pending ∨ status = .assigned) :
    LifecycleStep status .expired := by
  refine ⟨?_, .inr (.inr ⟨running, rfl⟩)⟩
  rcases running with rfl | rfl
  · rfl
  · rfl

theorem flush_advances (step : LifecycleStep transfer.status changed.status)
    (elsewhere : changed.status = .assigned → changed.toExecutorId ≠ some transfer.fromExecutorId) :
    Advances transfer (ShiftTransfer.flush transfer changed transfer) := by
  rw [ShiftTransfer.flush_self]
  exact ⟨rfl, rfl, rfl, .inr step, fun _ => elsewhere⟩

theorem assignment_advances (pending : transfer.status = .pending)
    (different : executor ≠ transfer.fromExecutorId) (manager : Option UserId) (now : Moment) :
    Advances transfer
      (ShiftTransfer.flush transfer (transfer.assignedTo executor manager now) transfer) := by
  refine flush_advances ?_ fun _ same => different (Option.some.inj same)
  rw [assignedTo_status pending]
  exact lifecycle_assigned pending

theorem approval_advances (pending : transfer.status = .pending)
    (different : executor ≠ transfer.fromExecutorId) (manager : UserId) (now : Moment) :
    Advances transfer
      (ShiftTransfer.flush transfer (transfer.approvedFor executor manager now) transfer) :=
  flush_advances (lifecycle_assigned pending) fun _ same => different (Option.some.inj same)

theorem acceptance_advances (assigned : transfer.status = .assigned) (now : Moment) :
    Advances transfer (ShiftTransfer.flush transfer (transfer.accepted now) transfer) := by
  have status := (accepted_status assigned now).1
  refine flush_advances ?_ fun held => ?_
  · rw [status]
    exact lifecycle_completed assigned
  · rw [status] at held
    cases held

theorem acceptance_advanced (shift : Shift) (executor : UserId) (now : Moment)
    (stored : roster.transfers.find? transfer.id = some transfer) (assigned : transfer.status = .assigned) :
    Advanced (roster.giveShift shift executor)
      ((roster.giveShift shift executor).putTransfer transfer (transfer.accepted now)) :=
  putTransfer_advanced stored (acceptance_advances assigned now)

theorem putTransfer_truthful (stored : roster.transfers.find? transfer.id = some transfer)
    (advances : Advances transfer (ShiftTransfer.flush transfer changed transfer))
    (unfinished : changed.status ≠ .completed) :
    Truthful roster (roster.putTransfer transfer changed) where
  statuses := (putTransfer_advanced stored advances).statuses
  completions := by
    intro row rowListed next listed same open_ completed
    rcases putTransfer_row stored listed with rfl | ⟨kept, _⟩
    · rw [ShiftTransfer.flush_self] at completed
      exact absurd completed unfinished
    · rw [Table.eq_of_key kept rowListed same] at completed
      exact absurd completed open_

theorem acceptance_truthful {shift stored : Shift} {now : Moment}
    (loaded : roster.transfers.find? transfer.id = some transfer)
    (acceptable : Acceptable transfer executor) (same : shift.id = transfer.shiftId)
    (listed : stored ∈ roster.shifts.rows) (storedSame : stored.id = shift.id)
    (owned : stored.userId = some transfer.fromExecutorId)
    (different : shift.userId ≠ some executor) :
    Truthful roster
      ((roster.giveShift shift executor).putTransfer transfer (transfer.accepted now)) where
  statuses := (acceptance_advanced shift executor now loaded acceptable.status).statuses
  completions := by
    intro row rowListed next nextListed nextSame open_ completed
    have written : (roster.giveShift shift executor).transfers.find? transfer.id = some transfer := loaded
    rcases putTransfer_row written nextListed with rfl | ⟨kept, _⟩
    · rw [ShiftTransfer.flush_self]
      refine ⟨executor, ?_, acceptable.elsewhere, ?_⟩
      · exact (accepted_status acceptable.status now).2.trans acceptable.recipient
      · have changes := giveShift_changes listed storedSame owned different
        rw [same] at changes
        exact changes
    · rw [Table.eq_of_key kept rowListed nextSame] at completed
      exact absurd completed open_

end

/-- A row that stays, or that the expiry has marked. -/
structure ExpiresTo (marked : List ShiftTransfer) (row next : ShiftTransfer) : Prop where
  id : next.id = row.id
  shiftId : next.shiftId = row.shiftId
  fromExecutorId : next.fromExecutorId = row.fromExecutorId
  toExecutorId : next.toExecutorId = row.toExecutorId
  status : next.status = row.status ∨ next.status = .expired ∧ ∃ mark ∈ marked, mark.id = row.id

section

variable {roster : Roster} {marked : List ShiftTransfer}

theorem expireAll_rows (now : Moment)
    (running : ∀ mark ∈ marked, mark.status = .pending ∨ mark.status = .assigned) :
    ∀ next ∈ (roster.expireAll now marked).transfers.rows,
      ∃ row ∈ roster.transfers.rows, ExpiresTo marked row next := by
  induction marked generalizing roster with
  | nil =>
    intro next listed
    exact ⟨next, listed, rfl, rfl, rfl, rfl, .inl rfl⟩
  | cons mark rest ih =>
    intro next listed
    obtain ⟨middle, middleListed, reached⟩ :=
      ih (fun other member => running other (List.mem_cons_of_mem _ member)) next listed
    obtain ⟨row, rowListed, rfl⟩ :=
      (Table.mem_update (ShiftTransfer.flush_id mark (mark.expired now))).mp middleListed
    by_cases own : row.id = mark.id
    · rw [if_pos (decide_eq_true own)] at reached
      have unexpired : mark.status ≠ .expired := by
        rcases running mark List.mem_cons_self with pending | assigned
        · rw [pending]
          decide
        · rw [assigned]
          decide
      have status : (ShiftTransfer.flush mark (mark.expired now) row).status = .expired := by
        simp [ShiftTransfer.flush, ShiftTransfer.expired, assignedColumn, unexpired.symm]
      have recipient : (ShiftTransfer.flush mark (mark.expired now) row).toExecutorId =
          row.toExecutorId := by
        simp only [ShiftTransfer.flush, ShiftTransfer.expired, assignedColumn, if_true]
      refine ⟨row, rowListed, reached.id, reached.shiftId, reached.fromExecutorId,
        reached.toExecutorId.trans recipient, .inr ⟨?_, mark, List.mem_cons_self, own.symm⟩⟩
      rcases reached.status with kept | ⟨expired, _⟩
      · exact kept.trans status
      · exact expired
    · rw [if_neg (fun held => own (of_decide_eq_true held))] at reached
      refine ⟨row, rowListed, reached.id, reached.shiftId, reached.fromExecutorId,
        reached.toExecutorId, reached.status.imp id ?_⟩
      rintro ⟨expired, other, member, same⟩
      exact ⟨expired, other, List.mem_cons_of_mem _ member, same⟩

variable (now : Moment)
  (running : ∀ mark ∈ marked, mark.status = .pending ∨ mark.status = .assigned)
  (met : ∀ mark ∈ marked, ∀ stored ∈ roster.transfers.rows, stored.id = mark.id →
    stored.status = .pending ∨ stored.status = .assigned)

include running met

theorem expireAll_advanced : Advanced roster (roster.expireAll now marked) := by
  intro next listed
  obtain ⟨row, rowListed, reached⟩ := expireAll_rows now running next listed
  refine ⟨row, rowListed, reached.id, reached.shiftId, reached.fromExecutorId, ?_, ?_⟩
  · rcases reached.status with kept | ⟨expired, mark, member, same⟩
    · exact .inl kept
    · rw [expired]
      exact .inr (lifecycle_expired (met mark member row rowListed same.symm))
  · intro elsewhere assigned
    rcases reached.status with kept | ⟨expired, _⟩
    · rw [reached.toExecutorId, reached.fromExecutorId]
      exact elsewhere (kept.symm.trans assigned)
    · rw [expired] at assigned
      cases assigned

theorem expireAll_truthful : Truthful roster (roster.expireAll now marked) where
  statuses := (expireAll_advanced now running met).statuses
  completions := by
    intro row rowListed next listed same open_ completed
    obtain ⟨old, oldListed, reached⟩ := expireAll_rows now running next listed
    have equal : old = row := Table.eq_of_key oldListed rowListed (reached.id.symm.trans same)
    rcases reached.status with kept | ⟨expired, _⟩
    · rw [equal, completed] at kept
      exact absurd kept.symm open_
    · rw [expired] at completed
      cases completed

end

theorem find?_expireAll {roster : Roster} {marked : List ShiftTransfer} (now : Moment)
    {id : TransferId} {row : ShiftTransfer} (unmarked : ∀ mark ∈ marked, mark.id ≠ id)
    (stored : roster.transfers.find? id = some row) :
    (roster.expireAll now marked).transfers.find? id = some row := by
  induction marked generalizing roster with
  | nil => exact stored
  | cons mark rest ih =>
    exact ih (fun other member => unmarked other (List.mem_cons_of_mem _ member))
      (find?_putTransfer (unmarked mark List.mem_cons_self).symm stored)

theorem expireAll_shifts (roster : Roster) (now : Moment) (marked : List ShiftTransfer) :
    (roster.expireAll now marked).shifts = roster.shifts := by
  induction marked generalizing roster with
  | nil => rfl
  | cons mark rest ih => exact ih (roster.putTransfer mark (mark.expired now))

def Roster.ownedBy (roster : Roster) (shiftId : ShiftId) (executor : UserId) : Bool :=
  (roster.shifts.find? shiftId).any fun shift => shift.userId = some executor

/-- The condition on the statement that is performed next, on the committed rows. -/
def transferAllows (roster : Roster) : TransferStage → Prop
  | .inserting .bot shiftId _ _ _ => roster.openTransfers shiftId = []
  | .approvingFor transfer executor _ _ => executor ≠ transfer.fromExecutorId
  | .flushing (.accept transfer) shift _ _ => roster.ownedBy shift.id transfer.fromExecutorId = true
  | .handover (.handing (.accept transfer) shift _ _) =>
    roster.ownedBy shift.id transfer.fromExecutorId = true
  | .expiring locked [] _ =>
    ∀ mark ∈ locked, ∀ stored ∈ roster.transfers.rows, stored.id = mark.id →
      stored.status = .pending ∨ stored.status = .assigned
  | _ => True

/-- No creation of the bot is committed for a shift while one of the web is past its search. -/
def transferPeaceful (_ : Roster) : TransferStage → TransferStage → Prop
  | .inserting .bot shiftId _ _ _, .inserting .web other _ _ _ => shiftId ≠ other
  | _, _ => True

instance transferAllowsDecidable (roster : Roster) (stage : TransferStage) :
    Decidable (transferAllows roster stage) := by
  unfold transferAllows
  split
  · infer_instance
  · infer_instance
  · infer_instance
  · infer_instance
  · infer_instance
  · exact .isTrue trivial

instance transferPeacefulDecidable (roster : Roster) (stage other : TransferStage) :
    Decidable (transferPeaceful roster stage other) := by
  unfold transferPeaceful
  split
  · infer_instance
  · exact .isTrue trivial

def Purpose.transfer : Purpose → Option ShiftTransfer
  | .reassign _ => none
  | .accept transfer => some transfer

def HandoverStage.holds : HandoverStage → Option ShiftTransfer
  | .following transfer _ _ => some transfer
  | .judging purpose _ _ _ => purpose.transfer
  | .locking purpose _ _ _ _ => purpose.transfer
  | .checking purpose _ _ _ _ => purpose.transfer
  | .handing purpose _ _ _ => purpose.transfer
  | _ => none

def TransferStage.holds : TransferStage → Option ShiftTransfer
  | .reading errand _ _ _ => errand.transfer
  | .judging errand _ _ _ => errand.transfer
  | .comparing errand _ _ _ _ => errand.transfer
  | .flushing errand _ _ _ => errand.transfer
  | .approvingFor transfer _ _ _ => some transfer
  | .readingShift loaded _ => some loaded
  | .committing loaded _ _ => some loaded
  | .handover stage => stage.holds
  | _ => none

def HandoverStage.shift : HandoverStage → Option Shift
  | .judging _ shift _ _ => some shift
  | .locking _ shift _ _ _ => some shift
  | .checking _ shift _ _ _ => some shift
  | .handing _ shift _ _ => some shift
  | _ => none

def TransferStage.shift : TransferStage → Option Shift
  | .handover stage => stage.shift
  | _ => none

def TransferStage.opens : TransferStage → Option ShiftId
  | .inserting .web shiftId _ _ _ => some shiftId
  | _ => none

theorem TransferStage.holds_locked (stage : TransferStage) {transfer : ShiftTransfer}
    (held : stage.holds = some transfer) : LockKey.transfer transfer.id ∈ stage.locks := by
  have ofErrand : ∀ errand : Errand, errand.transfer = some transfer →
      LockKey.transfer transfer.id ∈ errand.locks := by
    intro errand same
    simp [Errand.locks, same]
  have ofPurpose : ∀ purpose : Purpose, purpose.transfer = some transfer →
      LockKey.transfer transfer.id ∈ purpose.locks := by
    intro purpose same
    cases purpose with
    | reassign manager => cases same
    | accept own =>
      cases same
      exact List.mem_singleton_self _
  cases stage with
  | reading errand shiftId executor now | judging errand shift executor now => exact ofErrand errand held
  | comparing errand shift ending executor now => exact ofErrand errand held
  | flushing errand shift executor now => exact List.mem_append_right _ (ofErrand errand held)
  | approvingFor | readingShift =>
    cases held
    exact List.mem_singleton_self _
  | committing loaded changed shift =>
    cases held
    exact List.mem_cons_self
  | handover stage =>
    cases stage with
    | following own executor now =>
      cases held
      exact List.mem_singleton_self _
    | judging purpose shift executor now => exact List.mem_cons_of_mem _ (ofPurpose purpose held)
    | locking purpose shift ending executor now => exact List.mem_cons_of_mem _ (ofPurpose purpose held)
    | checking purpose shift ending executor now =>
      exact List.mem_cons_of_mem _ (List.mem_cons_of_mem _ (ofPurpose purpose held))
    | handing purpose shift executor now =>
      exact List.mem_append_right _ (List.mem_cons_of_mem _ (ofPurpose purpose held))
    | _ => cases held
  | _ => cases held

theorem TransferStage.shift_locked (stage : TransferStage) {shift : Shift}
    (held : stage.shift = some shift) : LockKey.shift shift.id ∈ stage.locks := by
  cases stage with
  | handover stage =>
    cases stage with
    | judging | locking =>
      cases held
      exact List.mem_cons_self
    | checking purpose own ending executor now =>
      cases held
      exact List.mem_cons_of_mem _ List.mem_cons_self
    | handing purpose own executor now =>
      cases held
      exact List.mem_append_right _ List.mem_cons_self
    | _ => cases held
  | _ => cases held

theorem TransferStage.opens_locked (stage : TransferStage) {shiftId : ShiftId}
    (held : stage.opens = some shiftId) : LockKey.shift shiftId ∈ stage.locks := by
  cases stage with
  | inserting site own executor reason now =>
    cases site with
    | bot => cases held
    | web =>
      cases held
      exact List.mem_singleton_self _
  | _ => cases held

def Errand.WellFormed (executor : UserId) : Errand → Prop
  | .assign transfer _ => transfer.status = .pending ∧ executor ≠ transfer.fromExecutorId
  | .accept transfer => Acceptable transfer executor
  | .reassign _ => True

def Purpose.WellFormed (executor : UserId) (shiftId : ShiftId) : Purpose → Prop
  | .accept transfer => Acceptable transfer executor ∧ shiftId = transfer.shiftId
  | .reassign _ => True

def HandoverStage.WellFormed : HandoverStage → Prop
  | .following transfer executor _ => Acceptable transfer executor
  | .judging purpose shift executor _ => purpose.WellFormed executor shift.id
  | .locking purpose shift _ executor _ => purpose.WellFormed executor shift.id
  | .checking purpose shift _ executor _ => purpose.WellFormed executor shift.id
  | .handing purpose shift executor _ => purpose.WellFormed executor shift.id
  | _ => True

def Errand.Concerns (errand : Errand) (shiftId : ShiftId) : Prop :=
  ∀ transfer ∈ errand.transfer, shiftId = transfer.shiftId

def TransferStage.WellFormed : TransferStage → Prop
  | .reading errand shiftId executor _ => errand.WellFormed executor ∧ errand.Concerns shiftId
  | .judging errand shift executor _ => errand.WellFormed executor ∧ errand.Concerns shift.id
  | .comparing errand shift _ executor _ =>
    (errand.WellFormed executor ∧ errand.Concerns shift.id) ∧ shift.userId ≠ some executor
  | .flushing errand shift executor _ =>
    (errand.WellFormed executor ∧ errand.Concerns shift.id) ∧ shift.userId ≠ some executor
  | .approvingFor transfer _ _ _ => transfer.status = .pending
  | .readingShift loaded changed =>
    Advances loaded (ShiftTransfer.flush loaded changed loaded) ∧ changed.status ≠ .completed
  | .committing loaded changed _ =>
    Advances loaded (ShiftTransfer.flush loaded changed loaded) ∧ changed.status ≠ .completed
  | .expiring locked rest _ => ∀ mark ∈ locked ++ rest, mark.status = .pending ∨ mark.status = .assigned
  | .handover stage => stage.WellFormed
  | _ => True

structure TransferRelies (roster : Roster) (stage : TransferStage) : Prop where
  transfer : ∀ loaded, stage.holds = some loaded → roster.transfers.find? loaded.id = some loaded
  shift : ∀ loaded, stage.shift = some loaded → roster.shifts.find? loaded.id = some loaded
  unopened : ∀ shiftId, stage.opens = some shiftId → roster.NoneOpen shiftId
  formed : stage.WellFormed

/-- A commit leaves alone what another operation relies on. -/
structure SparesTransfer (roster after : Roster) (other : TransferStage) : Prop where
  transfer : ∀ id, .transfer id ∈ other.locks → ∀ row, roster.transfers.find? id = some row →
    after.transfers.find? id = some row
  shift : ∀ id, .shift id ∈ other.locks → ∀ row, roster.shifts.find? id = some row →
    after.shifts.find? id = some row
  unopened : ∀ shiftId, other.opens = some shiftId → roster.NoneOpen shiftId → after.NoneOpen shiftId

theorem TransferRelies.of_spares {roster after : Roster} {other : TransferStage}
    (relies : TransferRelies roster other) (spares : SparesTransfer roster after other) :
    TransferRelies after other where
  transfer := fun loaded held => spares.transfer loaded.id (other.holds_locked held)
    loaded (relies.transfer loaded held)
  shift := fun loaded held => spares.shift loaded.id (other.shift_locked held) loaded
    (relies.shift loaded held)
  unopened := fun shiftId held => spares.unopened shiftId held (relies.unopened shiftId held)
  formed := relies.formed

section

variable {roster : Roster}

theorem Truthful.of_kept {roster after : Roster} (kept : ∀ row ∈ roster.transfers.rows,
    ∀ next ∈ after.transfers.rows, next.id = row.id → next = row) : Truthful roster after where
  statuses := by
    intro row listed next nextListed equal
    rw [kept row listed next nextListed equal]
    exact .inl rfl
  completions := by
    intro row listed next nextListed equal unfinished completed
    rw [kept row listed next nextListed equal] at completed
    exact absurd completed unfinished

theorem Truthful.same (roster : Roster) : Truthful roster roster :=
  .of_kept fun _ listed _ nextListed => Table.eq_of_key nextListed listed

variable {roster : Roster}

variable {shiftId : ShiftId} {executor : UserId} {now : Moment} {shift : Shift}

theorem noneOpen_of_openTransfers (none_found : roster.openTransfers shiftId = []) :
    roster.NoneOpen shiftId := by
  intro row listed same
  cases running : row.status.isOpen with
  | false => rfl
  | true =>
    have found : row ∈ roster.openTransfers shiftId := List.mem_filter.mpr ⟨listed, by simp [same, running]⟩
    rw [none_found] at found
    cases found

theorem ownedBy_stored (owned : roster.ownedBy shiftId executor = true) :
    ∃ stored ∈ roster.shifts.rows, stored.id = shiftId ∧ stored.userId = some executor := by
  unfold Roster.ownedBy at owned
  cases found : roster.shifts.find? shiftId with
  | none =>
    rw [found] at owned
    cases owned
  | some stored =>
    rw [found] at owned
    exact ⟨stored, Table.mem_of_find? found, Table.key_of_find? found, by simpa using owned⟩

/-- What one statement may commit. -/
inductive Commits (roster : Roster) (stage : TransferStage) : Roster → Prop
  | nothing : Commits roster stage roster
  | put {loaded changed : ShiftTransfer} (locked : .transfer loaded.id ∈ stage.locks)
      (stored : roster.transfers.find? loaded.id = some loaded)
      (advances : Advances loaded (ShiftTransfer.flush loaded changed loaded))
      (unfinished : changed.status ≠ .completed) : Commits roster stage (roster.putTransfer loaded changed)
  | given {shift : Shift} {executor : UserId} (locked : .shift shift.id ∈ stage.locks) :
      Commits roster stage (roster.giveShift shift executor)
  | reassigned {shift : Shift} {executor oldExecutor : UserId} {manager : Option UserId}
      {now : Moment} (locked : .shift shift.id ∈ stage.locks) :
      Commits roster stage ((roster.giveShift shift executor).addTransfer
        (historyRow shift oldExecutor executor manager now)
        (historyRow_id shift oldExecutor executor manager now))
  | accepted {transfer : ShiftTransfer} {shift : Shift} {executor : UserId} {now : Moment}
      (shiftLocked : .shift shift.id ∈ stage.locks) (locked : .transfer transfer.id ∈ stage.locks)
      (stored : roster.transfers.find? transfer.id = some transfer)
      (acceptable : Acceptable transfer executor) (same : shift.id = transfer.shiftId)
      (owned : roster.ownedBy shift.id transfer.fromExecutorId = true)
      (different : shift.userId ≠ some executor) :
      Commits roster stage
        ((roster.giveShift shift executor).putTransfer transfer (transfer.accepted now))
  | created {site : Site} {shiftId : ShiftId} {executor : UserId} {reason : String} {now : Moment}
      (own : stage = .inserting site shiftId executor reason now) (alone : roster.NoneOpen shiftId) :
      Commits roster stage (roster.addTransfer (newTransfer shiftId executor reason now)
        (newTransfer_id shiftId executor reason now))
  | expired {marked : List ShiftTransfer} {now : Moment}
      (locked : ∀ mark ∈ marked, .transfer mark.id ∈ stage.locks)
      (running : ∀ mark ∈ marked, mark.status = .pending ∨ mark.status = .assigned)
      (met : ∀ mark ∈ marked, ∀ stored ∈ roster.transfers.rows, stored.id = mark.id →
        stored.status = .pending ∨ stored.status = .assigned) :
      Commits roster stage (roster.expireAll now marked)

theorem different_of_owned {sender : UserId} (stored : roster.shifts.find? shift.id = some shift)
    (owned : roster.ownedBy shift.id sender = true) (elsewhere : executor ≠ sender) :
    shift.userId ≠ some executor := by
  have own : shift.userId = some sender := by
    unfold Roster.ownedBy at owned
    rw [stored] at owned
    simpa using owned
  rw [own]
  exact fun same => elsewhere (Option.some.inj same).symm

theorem handing_commits {purpose : Purpose}
    (allowed : transferAllows roster (.handover (.handing purpose shift executor now)))
    (relies : TransferRelies roster (.handover (.handing purpose shift executor now))) :
    Commits roster (.handover (.handing purpose shift executor now))
      (commitHandover roster purpose shift executor now) := by
  have shiftLocked :=
    TransferStage.shift_locked (.handover (.handing purpose shift executor now)) rfl
  cases purpose with
  | accept transfer =>
    obtain ⟨acceptable, same⟩ : Acceptable transfer executor ∧ shift.id = transfer.shiftId := relies.formed
    have different := different_of_owned (relies.shift shift rfl) allowed acceptable.elsewhere
    have locked :=
      TransferStage.holds_locked (.handover (.handing (.accept transfer) shift executor now)) rfl
    unfold commitHandover
    cases shift.userId with
    | none => exact .accepted shiftLocked locked (relies.transfer transfer rfl) acceptable same allowed different
    | some owner => exact .accepted shiftLocked locked (relies.transfer transfer rfl) acceptable same allowed different
  | reassign manager =>
    unfold commitHandover
    cases shift.userId with
    | none => exact .given shiftLocked
    | some oldExecutor => exact .reassigned shiftLocked

theorem flushing_commits {errand : Errand}
    (allowed : transferAllows roster (.flushing errand shift executor now))
    (relies : TransferRelies roster (.flushing errand shift executor now)) :
    Commits roster (.flushing errand shift executor now)
      (commitErrand roster errand shift executor now) := by
  obtain ⟨⟨formed, concerns⟩, different⟩ := relies.formed
  cases errand with
  | assign transfer manager =>
    obtain ⟨pending, elsewhere⟩ : transfer.status = .pending ∧ executor ≠ transfer.fromExecutorId := formed
    refine .put (List.mem_singleton_self _) (relies.transfer transfer rfl)
      (assignment_advances pending elsewhere manager now) ?_
    rw [assignedTo_status pending]
    decide
  | accept transfer =>
    unfold commitErrand
    cases shift.userId with
    | none | some =>
      exact .accepted List.mem_cons_self (List.mem_cons_of_mem _ (List.mem_singleton_self _))
        (relies.transfer transfer rfl) formed (concerns transfer rfl) allowed different
  | reassign manager =>
    unfold commitErrand
    cases shift.userId with
    | none => exact .given List.mem_cons_self
    | some oldExecutor => exact .reassigned List.mem_cons_self

theorem transfer_commits (stage : TransferStage) (allowed : transferAllows roster stage)
    (relies : TransferRelies roster stage) :
    Commits roster stage (performTransfer roster stage).1 := by
  cases stage with
  | inserting site shiftId executor reason now =>
    refine .created rfl ?_
    cases site with
    | bot => exact noneOpen_of_openTransfers allowed
    | web => exact relies.unopened shiftId rfl
  | flushing errand shift executor now => exact flushing_commits allowed relies
  | committing loaded changed shift =>
    exact .put List.mem_cons_self (relies.transfer loaded rfl) relies.formed.1 relies.formed.2
  | expiring locked rest now =>
    cases rest with
    | nil =>
      exact .expired (fun mark member => List.mem_map.mpr ⟨mark, member, rfl⟩)
        (fun mark member => relies.formed mark (List.mem_append_left _ member)) allowed
    | cons row rest => exact .nothing
  | handover stage =>
    rcases performHandover_reads roster stage with
      unchanged | ⟨purpose, shift, executor, now, rfl⟩
    · simp only [performTransfer, unchanged]
      exact .nothing
    · exact handing_commits allowed relies
  | _ =>
    have unchanged : ∀ stage : TransferStage, (performTransfer roster stage).1 = roster →
        Commits roster stage (performTransfer roster stage).1 := by
      intro stage same
      rw [same]
      exact .nothing
    refine unchanged _ ?_
    simp only [performTransfer, performBot, performHandling]
    repeat' split
    all_goals rfl

variable {stage : TransferStage} {after : Roster}

theorem Commits.orderly (commits : Commits roster stage after) (orderly : roster.Orderly) :
    after.Orderly := by
  have given : ∀ shift executor, (roster.giveShift shift executor).Orderly :=
    fun _ _ => ⟨orderly.oneOpen, orderly.elsewhere⟩
  cases commits with
  | nothing => exact orderly
  | put locked stored advances => exact (putTransfer_advanced stored advances).orderly orderly
  | given locked => exact given _ _
  | reassigned locked =>
    exact addTransfer_orderly (fun running => by cases running) (fun assigned => by cases assigned)
      (given _ _)
  | @accepted transfer shift executor now shiftLocked locked stored acceptable =>
    have advanced := acceptance_advanced shift executor now stored acceptable.status
    exact advanced.orderly (given shift executor)
  | created own alone =>
    exact addTransfer_orderly (fun _ => alone) (fun assigned => by cases assigned) orderly
  | expired locked running met => exact (expireAll_advanced _ running met).orderly orderly

theorem Commits.truthful (commits : Commits roster stage after) : Truthful roster after := by
  cases commits with
  | nothing => exact .same roster
  | put locked stored advances unfinished => exact putTransfer_truthful stored advances unfinished
  | given locked => exact .of_kept fun _ listed _ nextListed => Table.eq_of_key nextListed listed
  | reassigned | created => exact .of_kept addTransfer_fresh
  | accepted shiftLocked locked stored acceptable same owned different =>
    obtain ⟨row, listed, storedSame, storedOwner⟩ := ownedBy_stored owned
    exact acceptance_truthful stored acceptable same listed storedSame storedOwner different
  | expired locked running met => exact expireAll_truthful _ running met

end

section

variable {roster after : Roster} {stage other : TransferStage}

theorem Commits.spares (commits : Commits roster stage after)
    (peaceful : transferPeaceful roster stage other) (apart : transferProgram.Apart stage other) :
    SparesTransfer roster after other := by
  have shifts : ∀ {held id : ShiftId}, .shift held ∈ stage.locks → LockKey.shift id ∈ other.locks →
      id ≠ held := fun own locked same => apart _ own (same ▸ locked)
  have transfers : ∀ {held id : TransferId}, .transfer held ∈ stage.locks →
      LockKey.transfer id ∈ other.locks → id ≠ held := fun own locked same => apart _ own (same ▸ locked)
  cases commits with
  | nothing => exact ⟨fun _ _ _ kept => kept, fun _ _ _ kept => kept, fun _ _ none_open => none_open⟩
  | put own stored advances =>
    exact ⟨fun _ locked _ kept => find?_putTransfer (transfers own locked) kept,
      fun _ _ _ kept => kept,
      fun _ _ none_open => (putTransfer_advanced stored advances).noneOpen none_open⟩
  | given own =>
    exact ⟨fun _ _ _ kept => kept, fun _ locked _ kept => find?_giveShift (shifts own locked) kept,
      fun _ _ none_open => none_open⟩
  | @reassigned shift executor _ _ _ own =>
    exact ⟨fun _ _ _ kept => find?_addTransfer kept,
      fun _ locked _ kept => find?_giveShift (shifts own locked) kept,
      fun _ _ none_open => addTransfer_noneOpen (fun running => by cases running) none_open⟩
  | @accepted transfer shift executor now shiftOwn own stored acceptable =>
    have advanced := acceptance_advanced shift executor now stored acceptable.status
    exact ⟨fun _ locked _ kept => find?_putTransfer (transfers own locked) kept,
      fun _ locked _ kept => find?_giveShift (shifts shiftOwn locked) kept,
      fun _ _ none_open => advanced.noneOpen none_open⟩
  | @created site shiftId executor reason now own alone =>
    subst own
    refine ⟨fun _ _ _ kept => find?_addTransfer kept, fun _ _ _ kept => kept,
      fun id held none_open => addTransfer_noneOpen (fun _ same => ?_) none_open⟩
    have equal : shiftId = id := same
    cases site with
    | web => exact apart (.shift shiftId) (List.mem_singleton_self _) (equal ▸ other.opens_locked held)
    | bot =>
      cases other with
      | inserting site own executor reason now =>
        cases site with
        | bot => cases held
        | web =>
          cases held
          exact peaceful equal
      | _ => cases held
  | @expired marked now own running met =>
    refine ⟨fun id locked row kept => ?_, fun id _ row kept => ?_, fun _ _ none_open =>
      (expireAll_advanced now running met).noneOpen none_open⟩
    · exact find?_expireAll now (fun mark member same => transfers (own mark member) locked same.symm) kept
    · rw [expireAll_shifts]
      exact kept

end

section

variable {roster : Roster}

variable {stage : TransferStage} {id : TransferId} {transfer : ShiftTransfer} {executor : UserId}
  {shift : Shift}

theorem TransferRelies.plain (holds : stage.holds = none) (shift : stage.shift = none)
    (opens : stage.opens = none) (formed : stage.WellFormed) :
    TransferRelies roster stage where
  transfer := by
    intro loaded held
    rw [holds] at held
    cases held
  shift := by
    intro loaded held
    rw [shift] at held
    cases held
  unopened := by
    intro shiftId held
    rw [opens] at held
    cases held
  formed := formed

theorem TransferRelies.returned (error : Option TransferError) : TransferRelies roster (.returning error) :=
  .plain rfl rfl rfl trivial

theorem TransferRelies.holding {loaded : ShiftTransfer}
    (stored : roster.transfers.find? loaded.id = some loaded) (holds : stage.holds = some loaded)
    (shift : stage.shift = none) (opens : stage.opens = none) (formed : stage.WellFormed) :
    TransferRelies roster stage where
  transfer := by
    intro held same
    rw [holds] at same
    cases same
    exact stored
  shift := by
    intro held same
    rw [shift] at same
    cases same
  unopened := by
    intro shiftId held
    rw [opens] at held
    cases held
  formed := formed

theorem stored_as_loaded (found : roster.transfers.find? id = some transfer) :
    roster.transfers.find? transfer.id = some transfer := by
  rw [Table.key_of_find? found]
  exact found

theorem acceptable_of_found (orderly : roster.Orderly)
    (found : roster.transfers.find? id = some transfer) (assigned : transfer.status = .assigned)
    (recipient : transfer.toExecutorId = some executor) :
    Acceptable transfer executor where
  status := assigned
  recipient := recipient
  elsewhere := by
    intro same
    refine orderly.elsewhere transfer (Table.mem_of_find? found) assigned ?_
    rw [recipient, same]

theorem different_of_judged (judged : judgeTarget roster shift executor = none) :
    shift.userId ≠ some executor := by
  intro same
  unfold judgeTarget at judged
  split at judged
  · cases judged
  · split at judged
    · cases judged
    · split at judged
      · cases judged
      · split at judged
        · cases judged
        · cases judged

theorem TransferRelies.ofErrand (errand : Errand) (holds : stage.holds = errand.transfer)
    (stored : ∀ loaded, errand.transfer = some loaded →
      roster.transfers.find? loaded.id = some loaded) (shift : stage.shift = none)
    (opens : stage.opens = none) (formed : stage.WellFormed) :
    TransferRelies roster stage := by
  cases own : errand.transfer with
  | none => exact .plain (holds.trans own) shift opens formed
  | some loaded => exact .holding (stored loaded own) (holds.trans own) shift opens formed

theorem performBot_relies (orderly : roster.Orderly) (relies : TransferRelies roster stage)
    (reads : (performBot roster stage).1 = roster) :
    TransferRelies roster (performBot roster stage).2 := by
  cases stage with
  | creating site shiftId executor reason now =>
    simp only [performBot]
    cases roster.shifts.find? shiftId with
    | none => exact .returned _
    | some shift =>
      dsimp only
      split
      · exact .returned _
      · split
        · exact .returned _
        · exact .plain rfl rfl rfl trivial
  | seeking site shiftId executor reason now =>
    simp only [performBot]
    cases found : foundOpen site (roster.openTransfers shiftId) with
    | some error => exact .returned _
    | none =>
      have none_open : roster.openTransfers shiftId = [] := by
        cases rows : roster.openTransfers shiftId with
        | nil => rfl
        | cons row rest =>
          simp only [rows, foundOpen] at found
          split at found
          · cases found
          · cases found
      refine ⟨fun _ held => (by cases held), fun _ held => (by cases held), ?_, trivial⟩
      intro id held
      cases site with
      | bot => cases held
      | web =>
        cases held
        exact noneOpen_of_openTransfers none_open
  | inserting | flushing => exact .returned _
  | assigning transferId executor manager now =>
    simp only [performBot]
    cases found : roster.transfers.find? transferId with
    | none => exact .returned _
    | some transfer =>
      dsimp only
      by_cases pending : transfer.status = .pending
      · rw [if_neg (not_not_intro pending)]
        cases assignable : transfer.canBeAssignedTo executor with
        | false => exact .returned _
        | true =>
          have elsewhere : executor ≠ transfer.fromExecutorId := by
            unfold ShiftTransfer.canBeAssignedTo at assignable
            rw [Bool.and_eq_true] at assignable
            exact of_decide_eq_true assignable.1
          exact .holding (stored_as_loaded found) rfl rfl rfl
            ⟨⟨pending, elsewhere⟩, fun own same => by cases same; rfl⟩
      · rw [if_pos pending]
        exact .returned _
  | accepting transferId executor now =>
    simp only [performBot]
    cases found : roster.transfers.find? transferId with
    | none => exact .returned _
    | some transfer =>
      dsimp only
      by_cases assigned : transfer.status = .assigned
      · rw [if_neg (not_not_intro assigned)]
        by_cases recipient : transfer.toExecutorId = some executor
        · rw [if_neg (not_not_intro recipient)]
          exact .holding (stored_as_loaded found) rfl rfl rfl
            ⟨acceptable_of_found orderly found assigned recipient, fun own same => by cases same; rfl⟩
        · rw [if_pos recipient]
          exact .returned _
      · rw [if_pos assigned]
        exact .returned _
  | reading errand shiftId executor now =>
    obtain ⟨formed, concerns⟩ := relies.formed
    simp only [performBot]
    cases found : roster.shifts.find? shiftId with
    | none => exact .returned _
    | some shift =>
      refine .ofErrand errand rfl relies.transfer rfl rfl ⟨formed, fun own same => ?_⟩
      rw [Table.key_of_find? found]
      exact concerns own same
  | judging errand shift executor now =>
    simp only [performBot]
    cases judged : judgeTarget roster shift executor with
    | some refusal => exact .returned _
    | none =>
      have different := different_of_judged judged
      cases shift.endTime with
      | none | some => exact .ofErrand errand rfl relies.transfer rfl rfl ⟨relies.formed, different⟩
  | comparing errand shift ending executor now =>
    simp only [performBot]
    split
    · exact .returned _
    · exact .ofErrand errand rfl relies.transfer rfl rfl relies.formed
  | rejecting transferId executor now =>
    simp only [performBot]
    cases found : roster.transfers.find? transferId with
    | none => exact .returned _
    | some transfer =>
      dsimp only
      by_cases assigned : transfer.status = .assigned
      · rw [if_neg (not_not_intro assigned)]
        split
        · exact .returned _
        · cases changed : transfer.updateStatus .rejected now with
          | none => exact .returned _
          | some changed' =>
            have status : changed'.status = .rejected := by
              unfold ShiftTransfer.updateStatus at changed
              split at changed
              · cases changed
                rfl
              · cases changed
            refine .holding (stored_as_loaded found) rfl rfl rfl
              ⟨flush_advances ?_ fun held => ?_, ?_⟩
            · rw [status]
              exact lifecycle_rejected assigned
            · rw [status] at held
              cases held
            · rw [status]
              decide
      · rw [if_pos assigned]
        exact .returned _
  | _ => exact relies

theorem performHandling_reads (stage : TransferStage) : (performHandling roster stage).1 = roster := by
  cases stage with
  | approving | approvingFor | handlingReject | handlingCancel =>
    simp only [performHandling]
    repeat' split
    all_goals rfl
  | _ => rfl

theorem performHandling_relies (allowed : transferAllows roster stage)
    (relies : TransferRelies roster stage) :
    TransferRelies roster (performHandling roster stage).2 := by
  cases stage with
  | approving transferId executor manager now =>
    simp only [performHandling]
    cases found : roster.transfers.find? transferId with
    | none => exact .returned _
    | some transfer =>
      cases executor with
      | none =>
        dsimp only
        split
        · exact .returned _
        · exact .returned _
      | some executor =>
        dsimp only
        by_cases pending : transfer.status = .pending
        · rw [if_neg (not_not_intro pending)]
          exact .holding (stored_as_loaded found) rfl rfl rfl pending
        · rw [if_pos pending]
          exact .returned _
  | approvingFor transfer executor manager now =>
    have stored := relies.transfer transfer rfl
    simp only [performHandling]
    cases roster.users.find? executor with
    | none => exact .returned _
    | some user =>
      dsimp only
      split
      · exact .returned _
      · exact .holding stored rfl rfl rfl
          ⟨approval_advances relies.formed allowed manager now, by
            simp [ShiftTransfer.approvedFor]⟩
  | handlingReject transferId =>
    simp only [performHandling]
    cases found : roster.transfers.find? transferId with
    | none => exact .returned _
    | some transfer =>
      dsimp only
      by_cases assigned : transfer.status = .assigned
      · rw [if_neg (not_not_intro assigned)]
        exact .holding (stored_as_loaded found) rfl rfl rfl
          ⟨flush_advances (lifecycle_rejected assigned) fun held => (by cases held), by simp⟩
      · rw [if_pos assigned]
        exact .returned _
  | readingShift loaded changed => exact .holding (relies.transfer loaded rfl) rfl rfl rfl relies.formed
  | handlingCancel transferId =>
    simp only [performHandling]
    cases found : roster.transfers.find? transferId with
    | none => exact .returned _
    | some transfer =>
      dsimp only
      split
      · exact .returned _
      · next running =>
          have open_ : transfer.status = .pending ∨ transfer.status = .assigned := by
            by_contra neither
            exact running (not_or.mp neither)
          exact .holding (stored_as_loaded found) rfl rfl rfl
            ⟨flush_advances (lifecycle_cancelled open_) fun held => (by cases held), by simp⟩
  | _ => exact relies

theorem TransferRelies.ofPurpose {next : HandoverStage} (purpose : Purpose)
    (holds : next.holds = purpose.transfer) (reads : next.shift = some shift)
    (stored : ∀ loaded, purpose.transfer = some loaded → roster.transfers.find? loaded.id = some loaded)
    (kept : roster.shifts.find? shift.id = some shift) (formed : next.WellFormed) :
    TransferRelies roster (.handover next) where
  transfer := by
    intro loaded held
    exact stored loaded (holds.symm.trans held)
  shift := by
    intro loaded held
    have same : some shift = some loaded := reads.symm.trans held
    cases same
    exact kept
  unopened := fun _ held => by cases held
  formed := formed

theorem performHandover_relies (stage : HandoverStage) (orderly : roster.Orderly)
    (relies : TransferRelies roster (.handover stage))
    (reads : (performHandover roster stage).1 = roster) :
    TransferRelies roster (.handover (performHandover roster stage).2) := by
  have finished : ∀ refusal, TransferRelies roster (.handover (.finished refusal)) :=
    fun _ => .plain rfl rfl rfl trivial
  have known : ∀ {id : ShiftId} {shift : Shift}, roster.shifts.find? id = some shift →
      roster.shifts.find? shift.id = some shift := by
    intro id shift found
    rw [Table.key_of_find? found]
    exact found
  cases stage with
  | reassigning shiftId executor manager now =>
    simp only [performHandover]
    cases found : roster.shifts.find? shiftId with
    | none => exact finished _
    | some shift =>
      exact .ofPurpose (.reassign manager) rfl rfl (fun _ held => by cases held)
        (known found) trivial
  | accepting transferId executor now =>
    simp only [performHandover]
    cases found : roster.transfers.find? transferId with
    | none => exact finished _
    | some transfer =>
      dsimp only
      by_cases assigned : transfer.status = .assigned
      · rw [if_neg (not_not_intro assigned)]
        by_cases recipient : transfer.toExecutorId = some executor
        · rw [if_neg (not_not_intro recipient)]
          exact .holding (stored_as_loaded found) rfl rfl rfl
            (acceptable_of_found orderly found assigned recipient)
        · rw [if_pos recipient]
          exact finished _
      · rw [if_pos assigned]
        exact finished _
  | following transfer executor now =>
    have stored := relies.transfer transfer rfl
    simp only [performHandover]
    cases found : roster.shifts.find? transfer.shiftId with
    | none => exact finished _
    | some shift =>
      refine .ofPurpose (.accept transfer) rfl rfl (fun loaded held => ?_) (known found)
        ⟨relies.formed, Table.key_of_find? found⟩
      cases held
      exact stored
  | judging purpose shift executor now =>
    have kept := relies.shift shift rfl
    simp only [performHandover]
    cases judgeHandover roster purpose shift executor with
    | some refusal => exact finished _
    | none =>
      cases shift.endTime with
      | some | none => exact .ofPurpose purpose rfl rfl relies.transfer kept relies.formed
  | locking purpose shift ending executor now =>
    exact .ofPurpose purpose rfl rfl relies.transfer (relies.shift shift rfl) relies.formed
  | checking purpose shift ending executor now =>
    simp only [performHandover]
    split
    · exact finished _
    · exact .ofPurpose purpose rfl rfl relies.transfer (relies.shift shift rfl) relies.formed
  | handing purpose shift executor now => exact finished _
  | finished refusal => exact relies

theorem expiredRows_running (cutoff : Moment) :
    ∀ mark ∈ roster.expiredRows cutoff, mark.status = .pending ∨ mark.status = .assigned := by
  intro mark member
  have found := (List.mem_filter.mp member).2
  rw [Bool.and_eq_true, Bool.or_eq_true] at found
  exact found.1.imp of_decide_eq_true of_decide_eq_true

theorem transfer_relies (stage : TransferStage) (allowed : transferAllows roster stage)
    (orderly : roster.Orderly) (relies : TransferRelies roster stage) :
    TransferRelies (performTransfer roster stage).1 (performTransfer roster stage).2 := by
  -- A statement that writes ends its transaction; after the others the store is the same.
  have read : ∀ performed : Roster × TransferStage, performed.1 = roster →
      TransferRelies roster performed.2 → TransferRelies performed.1 performed.2 := by
    intro performed same kept
    rw [same]
    exact kept
  cases stage with
  | inserting | flushing | committing => exact .returned _
  | sweeping cutoff now => exact .plain rfl rfl rfl (expiredRows_running cutoff)
  | expiring locked rest now =>
    cases rest with
    | nil => exact .returned _
    | cons row rest =>
      refine .plain rfl rfl rfl ?_
      have running : ∀ mark ∈ locked ++ row :: rest,
        mark.status = .pending ∨ mark.status = .assigned := relies.formed
      intro mark member
      rw [List.append_assoc] at member
      exact running mark member
  | handover stage =>
    rcases performHandover_reads roster stage with
      unchanged | ⟨purpose, shift, executor, now, rfl⟩
    · exact read (performTransfer roster (.handover stage)) unchanged
        (performHandover_relies stage orderly relies unchanged)
    · exact .plain rfl rfl rfl trivial
  | approving | approvingFor | handlingReject | handlingCancel =>
    exact read _ (performHandling_reads _) (performHandling_relies allowed relies)
  | readingShift loaded changed => exact performHandling_relies allowed relies
  | idle | returning => exact relies
  | _ =>
    have same : ∀ stage : TransferStage, TransferRelies roster stage →
        (performBot roster stage).1 = roster →
          TransferRelies (performBot roster stage).1 (performBot roster stage).2 :=
      fun stage own unchanged =>
        read (performBot roster stage) unchanged (performBot_relies orderly own unchanged)
    refine same _ relies ?_
    simp only [performBot]
    repeat' split
    all_goals rfl

end

theorem transfer_sound :
    transferProgram.Sound transferAllows transferPeaceful Roster.Orderly TransferRelies where
  idle := fun _ _ => .plain rfl rfl rfl trivial
  start := by
    intro roster call orderly
    cases call with
    | managerDirectReassign shiftId executor manager now =>
      exact .plain rfl rfl rfl ⟨trivial, fun _ held => by cases held⟩
    | _ => exact .plain rfl rfl rfl trivial
  step := fun _ stage allowed orderly relies =>
    ⟨(transfer_commits stage allowed relies).orderly orderly, transfer_relies stage allowed orderly relies⟩
  others := fun _ stage _ allowed _ relies otherRelies peaceful apart _ =>
    otherRelies.of_spares ((transfer_commits stage allowed relies).spares peaceful apart)

/-- In a careful run no shift has two open transfers, and every commit takes every transfer
along its lifecycle, to the end only with the shift. -/
theorem transfers_truthful {n : Nat} {roster : Roster} (orderly : roster.Orderly)
    {events : List (Program.Event TransferCall n)}
    (careful : transferProgram.Careful transferAllows transferPeaceful
      (transferProgram.initial roster) events) :
    (run transferProgram.next (transferProgram.initial roster) events).store.OneOpen ∧
      ∀ taken ∈ trace transferProgram.next (transferProgram.initial roster) events,
        Truthful taken.1.store (transferProgram.next taken.1 taken.2).store := by
  have held := transfer_sound.holds_initial (n := n) orderly
  exact ⟨(transfer_sound.holds_run held careful).store.oneOpen,
    transfer_sound.steps_trace Truthful.same
      (fun _ stage allowed _ relies => (transfer_commits stage allowed relies).truthful)
      held careful⟩

theorem plannedShift_nodup : ([shiftOf 1 1 10 (some 20) .planned].map Shift.id).Nodup := by
  decide

def twoExecutorRoster : Roster where
  users := ⟨[executorNamed 1, executorNamed 2], by decide⟩
  shifts := ⟨[shiftOf 1 1 10 (some 20) .planned], plannedShift_nodup⟩
  transfers := .empty

theorem twoExecutor_orderly : twoExecutorRoster.Orderly where
  oneOpen := fun _ listed => absurd listed List.not_mem_nil
  elsewhere := fun _ listed => absurd listed List.not_mem_nil

/-- The first executor offers the shift, a manager names the second. -/
def offeredTransfer : List (Program.Event TransferCall 2) :=
  [.call 0 (.createTransfer .web 1 1 "illness" 5), .step 0, .step 0, .step 0,
    .call 0 (.approve 1 (some 2) 3 6), .step 0, .step 0, .step 0]

def takenTransfer : List (Program.Event TransferCall 2) :=
  offeredTransfer ++
    [.call 0 (.acceptTransferWeb 1 2 7), .call 1 (.processExpiredTransfers 4 8), .step 0,
      .step 1, .step 0, .step 0, .step 1, .step 0, .step 0, .step 0]

theorem taken_transfer_truthful :
    (run transferProgram.next (transferProgram.initial twoExecutorRoster) takenTransfer).store.OneOpen ∧
      ∀ taken ∈ trace transferProgram.next (transferProgram.initial twoExecutorRoster)
          takenTransfer,
        Truthful taken.1.store (transferProgram.next taken.1 taken.2).store :=
  have careful : transferProgram.Careful transferAllows transferPeaceful
      (transferProgram.initial twoExecutorRoster) takenTransfer := by decide +kernel
  transfers_truthful twoExecutor_orderly careful

/-- The expiry reads the transfer while it is assigned; then the second executor refuses. -/
def refusedTransfer : List (Program.Event TransferCall 2) :=
  offeredTransfer ++
    [.call 1 (.processExpiredTransfers 100 100), .step 1,
      .call 0 (.rejectTransferWebByRecipient 1 2 101), .step 0, .step 0, .step 1]

def refusedRow (status : TransferStatus) (respondedAt completedAt : Option Moment) : ShiftTransfer :=
  ⟨1, 1, 1, some 2, some 3, status, "illness", false, 5, some 6, respondedAt, completedAt⟩

/-- The expiry is committed over the refusal. -/
theorem refused_transfer_expires :
    ¬ ∀ (n : Nat) (roster : Roster) (events : List (Program.Event TransferCall n)),
      roster.Orderly →
        (run transferProgram.next (transferProgram.initial roster) events).store.OneOpen ∧
          ∀ taken ∈ trace transferProgram.next (transferProgram.initial roster) events,
            Truthful taken.1.store (transferProgram.next taken.1 taken.2).store := by
  intro always
  have truthful := (always 2 twoExecutorRoster (refusedTransfer ++ [.step 1])
    twoExecutor_orderly).2
      (run transferProgram.next (transferProgram.initial twoExecutorRoster) refusedTransfer, .step 1)
      (by
        rw [trace_append]
        exact List.mem_append_right _ List.mem_cons_self)
  have before : refusedRow .rejected (some 101) none ∈ (run transferProgram.next
      (transferProgram.initial twoExecutorRoster) refusedTransfer).store.transfers.rows := by
    decide +kernel
  have after : refusedRow .expired (some 100) (some 100) ∈ (transferProgram.next
      (run transferProgram.next (transferProgram.initial twoExecutorRoster) refusedTransfer)
        (.step 1)).store.transfers.rows := by
    decide +kernel
  rcases truthful.statuses _ before _ after rfl with kept | step
  · cases kept
  · cases step.1

end InfrasafeBot.Shifts
