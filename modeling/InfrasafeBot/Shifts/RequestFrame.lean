import InfrasafeBot.Shifts.ReassignmentProperties

/-! Whose requests a reassigned shift takes along. The attachments say which; whether the
request is still its owner's is not asked. -/

set_option autoImplicit false

namespace InfrasafeBot.Shifts

open Library RequestWorkflow

def ShiftAssignment.live (row : ShiftAssignment) : Bool :=
  row.status ≠ .completed && row.status ≠ .cancelled

/-- Another planned or active shift of the owner. -/
def Store.besides (store : Store) (shift : Shift) (owner : UserId) (id : ShiftId) : Bool :=
  id ≠ shift.id && (store.shifts.find? id).any fun other => other.userId = some owner && other.transferable

/-- Attached to other shifts of the owner, and only to them. -/
def Store.AttachedElsewhere (store : Store) (shift : Shift) (owner : UserId)
    (number : RequestNumber) : Prop :=
  (∃ row ∈ store.shiftAssignments, row.requestNumber = number ∧ row.live = true) ∧
    ∀ row ∈ store.shiftAssignments, row.requestNumber = number → row.live = true →
      store.besides shift owner row.shiftId = true

/-- Of the requests only those of the old owner move, without a change of status. -/
structure MovesOwn (before after : Store) (shift : Shift) (old new : UserId) : Prop where
  moved : ∀ row ∈ before.database.requests.rows, ∀ next ∈ after.database.requests.rows,
    next.requestNumber = row.requestNumber → next.executorId ≠ row.executorId →
      row.executorId = some old ∧ movesWithShift row.status = true ∧
        next.status = row.status ∧ next.executorId = some new
  others : ∀ row ∈ before.database.requests.rows, row.executorId ≠ some old →
    row ∈ after.database.requests.rows
  elsewhere : ∀ row ∈ before.database.requests.rows, row.executorId = some old →
    before.AttachedElsewhere shift old row.requestNumber → row ∈ after.database.requests.rows

/-- A request that the loop can find and that is worked on. -/
def underWay (row : Request) : Bool := row.requestNumber ≠ "" && movesWithShift row.status

/-- What is attached to the shift is its owner's or already the new one's; where nothing is
attached to an active shift, no request of its owner is attached to other shifts alone. -/
structure KeepsOwn (store : Store) (shift : Shift) (old new : UserId) : Prop where
  attached : ∀ row ∈ store.database.requests.rows, underWay row = true →
    (∃ attachment ∈ store.shiftAssignments, attachment.shiftId = shift.id ∧
      attachment.live = true ∧ attachment.requestNumber = row.requestNumber) →
    row.executorId = some old ∨ row.executorId = some new
  fallback : shift.status = .active →
    (∀ attachment ∈ store.shiftAssignments, attachment.live = true → attachment.shiftId ≠ shift.id) →
    ∀ row ∈ store.database.requests.rows, underWay row = true →
      row.executorId = some old → ¬ store.AttachedElsewhere shift old row.requestNumber

section

variable {order : SetOrder RequestNumber} {store after : Store} {shift : Shift}
  {shiftId : ShiftId} {executor old : UserId} {now : Moment} {manager : Option UserId}
  {recordHistory : Bool} {count : Nat}

theorem reassignShift_requests (found : store.shifts.find? shiftId = some shift)
    (owned : shift.userId = some old)
    (returned : reassignShift order store shiftId executor now manager recordHistory = .ok (after, count)) :
    after.database.requests.rows = store.database.requests.rows.map
      (movedRequest ((order.enumerate (requestNumbersOf store shift old)).filter
        (movable store)) executor) := by
  have moved := moveEach_moved executor
    (order.enumerate (requestNumbersOf store shift old)) (store.handShift shift executor)
  simp only [reassignShift, found, owned] at returned
  cases refused : validateReassignTarget store shift executor with
  | some refusal =>
    rw [refused] at returned
    cases returned
  | none =>
    simp only [refused, Except.ok.injEq, Prod.mk.injEq] at returned
    rw [← returned.1]
    cases recordHistory with
    | false | true => exact moved.requests

theorem mem_requestNumbersOf {number : RequestNumber} :
    number ∈ requestNumbersOf store shift old ↔
      (∃ row ∈ store.shiftAssignments, row.shiftId = shift.id ∧ row.live = true ∧
        row.requestNumber = number) ∨
      (shift.status = .active ∧
        (∀ row ∈ store.shiftAssignments, row.live = true → row.shiftId ≠ shift.id) ∧
        ∃ row ∈ store.database.requests.rows, row.executorId = some old ∧
          movesWithShift row.status = true ∧ row.requestNumber = number) := by
  have listed : ∀ row, row ∈ store.shiftAssignments.filter (fun row =>
      row.shiftId = shift.id && row.status ≠ .completed && row.status ≠ .cancelled) ↔
        row ∈ store.shiftAssignments ∧ row.shiftId = shift.id ∧ row.live = true := by
    simp [ShiftAssignment.live, and_assoc]
  unfold requestNumbersOf
  generalize store.shiftAssignments.filter _ = attached at listed ⊢
  cases attached with
  | nil =>
    have nothing : ∀ row ∈ store.shiftAssignments, row.live = true → row.shiftId ≠ shift.id :=
      fun row stored live here => List.not_mem_nil ((listed row).mpr ⟨stored, here, live⟩)
    by_cases active : shift.status = .active
    · simp only [List.map_nil, List.isEmpty_nil, active, decide_true, Bool.and_self, if_true,
        List.mem_map, List.mem_filter, Bool.and_eq_true, decide_eq_true_eq]
      grind
    · simp only [List.map_nil, active, decide_false, Bool.and_false, Bool.false_eq_true,
        if_false, List.not_mem_nil]
      grind
  | cons first rest =>
    obtain ⟨stored, here, live⟩ := (listed first).mp List.mem_cons_self
    rw [if_neg (by simp), List.mem_map]
    constructor
    · rintro ⟨row, member, same⟩
      obtain ⟨rowStored, rowHere, rowLive⟩ := (listed row).mp member
      exact .inl ⟨row, rowStored, rowHere, rowLive, same⟩
    · rintro (⟨row, rowStored, rowHere, rowLive, same⟩ | ⟨_, nothing, _⟩)
      · exact ⟨row, (listed row).mpr ⟨rowStored, rowHere, rowLive⟩, same⟩
      · exact absurd here (nothing first stored live)

def Taken (store : Store) (shift : Shift) (old : UserId) (row : Request) : Prop :=
  underWay row = true ∧ row.requestNumber ∈ requestNumbersOf store shift old

theorem movedRequest_of_listed (order : SetOrder RequestNumber) (executor : UserId) {row : Request}
    (listed : row ∈ store.database.requests.rows) :
    movedRequest ((order.enumerate (requestNumbersOf store shift old)).filter (movable store))
        executor row = row ∨
      Taken store shift old row ∧
        movedRequest ((order.enumerate (requestNumbersOf store shift old)).filter (movable store))
          executor row = { row with executorId := some executor } := by
  unfold movedRequest
  split
  · next moves =>
    obtain ⟨chosen, filled⟩ := moves
    obtain ⟨enumerated, moving⟩ := List.mem_filter.mp chosen
    simp only [movable, Table.find?_of_mem listed, Option.any_some] at moving
    exact .inr ⟨⟨by simp [underWay, filled, moving], (order.mem_iff _ _).mp enumerated⟩, rfl⟩
  · exact .inl rfl

theorem movedRequest_of_taken {row : Request} (listed : row ∈ store.database.requests.rows)
    (taken : Taken store shift old row) :
    movedRequest ((order.enumerate (requestNumbersOf store shift old)).filter (movable store))
      executor row = { row with executorId := some executor } := by
  obtain ⟨working, numbered⟩ := taken
  simp only [underWay, Bool.and_eq_true, decide_eq_true_eq] at working
  have moving : movable store row.requestNumber = true := by
    simp [movable, Table.find?_of_mem listed, working.2]
  rw [movedRequest, if_pos]
  exact ⟨List.mem_filter.mpr ⟨(order.mem_iff _ _).mpr numbered, moving⟩, by simpa using working.1⟩

theorem taken_cases {row : Request} (listed : row ∈ store.database.requests.rows)
    (keeps : KeepsOwn store shift old executor) (taken : Taken store shift old row) :
    row.executorId = some executor ∨
      row.executorId = some old ∧ ¬ store.AttachedElsewhere shift old row.requestNumber := by
  obtain ⟨working, numbered⟩ := taken
  rcases mem_requestNumbersOf.mp numbered with
    ⟨attachment, stored, here, live, same⟩ | ⟨active, nothing, own, ownListed, owned, _, same⟩
  · have not_elsewhere : ¬ store.AttachedElsewhere shift old row.requestNumber := by
      intro elsewhere
      have besides := elsewhere.2 attachment stored same live
      simp [Store.besides, here] at besides
    rcases keeps.attached row listed working ⟨attachment, stored, here, live, same⟩ with
      owned | new
    · exact .inr ⟨owned, not_elsewhere⟩
    · exact .inl new
  · cases Table.eq_of_key ownListed listed same
    exact .inr ⟨owned, keeps.fallback active nothing row listed working owned⟩

theorem different_of_valid (owned : shift.userId = some old)
    (valid : validateReassignTarget store shift executor = none) : executor ≠ old := by
  intro same
  rw [validateReassignTarget, owned, same] at valid
  grind

/-- A reassignment moves only the old owner's requests exactly where what is attached to the
shift is his or the new owner's, and, if nothing is attached to it and it is active, where none
of his requests under way is attached to his other shifts alone. -/
theorem reassign_movesOwn_iff (found : store.shifts.find? shiftId = some shift)
    (owned : shift.userId = some old)
    (returned : reassignShift order store shiftId executor now manager recordHistory = .ok (after, count)) :
    MovesOwn store after shift old executor ↔ KeepsOwn store shift old executor := by
  have rows := reassignShift_requests found owned returned
  have kept_iff : ∀ row ∈ store.database.requests.rows, Taken store shift old row →
      row ∈ after.database.requests.rows → row.executorId = some executor := by
    intro row listed taken kept
    have image : { row with executorId := some executor } ∈ after.database.requests.rows := by
      rw [rows]
      exact List.mem_map.mpr ⟨row, listed, movedRequest_of_taken listed taken⟩
    exact congrArg Request.executorId (Table.eq_of_key kept image rfl)
  constructor
  · intro moves
    refine ⟨fun row listed working attached => ?_,
      fun active nothing row listed working own elsewhere => ?_⟩
    · by_cases own : row.executorId = some old
      · exact .inl own
      · exact .inr (kept_iff row listed ⟨working, mem_requestNumbersOf.mpr (.inl attached)⟩
          (moves.others row listed own))
    · have status : movesWithShift row.status = true := by
        simp only [underWay, Bool.and_eq_true] at working
        exact working.2
      have new := kept_iff row listed
        ⟨working, mem_requestNumbersOf.mpr (.inr ⟨active, nothing, row, listed, own, status, rfl⟩)⟩
        (moves.elsewhere row listed own elsewhere)
      have valid : validateReassignTarget store shift executor = none := by
        cases refused : validateReassignTarget store shift executor with
        | none => rfl
        | some refusal => simp [reassignShift, found, owned, refused] at returned
      exact different_of_valid owned valid (Option.some.inj (new.symm.trans own))
  · intro keeps
    have stays : ∀ row ∈ store.database.requests.rows,
        (row.executorId = some old → store.AttachedElsewhere shift old row.requestNumber) →
          row ∈ after.database.requests.rows := by
      intro row listed reason
      rw [rows]
      refine List.mem_map.mpr ⟨row, listed, ?_⟩
      rcases movedRequest_of_listed order executor listed with
        same | ⟨taken, image⟩
      · exact same
      · rcases taken_cases listed keeps taken with new | ⟨own, here⟩
        · rw [image, ← new]
        · exact absurd (reason own) here
    refine ⟨fun row listed next nextListed same changed => ?_,
      fun row listed other => stays row listed fun own => absurd own other,
      fun row listed _ elsewhere => stays row listed fun _ => elsewhere⟩
    rw [rows] at nextListed
    obtain ⟨source, sourceListed, rfl⟩ := List.mem_map.mp nextListed
    cases Table.eq_of_key sourceListed listed ((movedRequest_number _ _ source).symm.trans same)
    rcases movedRequest_of_listed order executor listed with
      kept | ⟨taken, image⟩
    · exact absurd (congrArg Request.executorId kept) changed
    · rcases taken_cases listed keeps taken with new | ⟨own, _⟩
      · rw [image, new] at changed
        exact absurd rfl changed
      · have status : movesWithShift row.status = true := by
          have working := taken.1
          simp only [underWay, Bool.and_eq_true] at working
          exact working.2
        rw [image]
        exact ⟨own, status, rfl, rfl⟩

end

def plannedShift : Shift := shiftOf 1 1 10 (some 20) .planned

def staleAttachment : Store where
  users := ⟨[executorNamed 1, executorNamed 2, executorNamed 3], by decide⟩
  shifts := ⟨[plannedShift], by simp⟩
  shiftAssignments := [⟨1, "260101-001", .other "assigned"⟩]
  transfers := .empty
  database := .ofRequest { Request.created "260101-001" 9 none .resident with
    status := .inProgress, executorId := some 3 }
  activeUnique := fun _ listed => absurd listed List.not_mem_nil

def reassignedStore : Store :=
  (moveActiveRequests (staleAttachment.handShift plannedShift 2) plannedShift 2 .asListed 1).1

theorem staleAttachment_reassigned :
    reassignShift .asListed staleAttachment 1 2 0 none false = .ok (reassignedStore, 1) := rfl

theorem foreign_request_moves :
    ¬ ∀ (order : SetOrder RequestNumber) (store after : Store) (shift : Shift)
      (shiftId : ShiftId) (executor old : UserId) (now : Moment) (manager : Option UserId)
      (recordHistory : Bool) (count : Nat), store.shifts.find? shiftId = some shift →
        shift.userId = some old →
        reassignShift order store shiftId executor now manager recordHistory =
          .ok (after, count) → MovesOwn store after shift old executor := by
  intro law
  have moves := law .asListed staleAttachment reassignedStore plannedShift 1 2 1 0 none false 1
    rfl rfl staleAttachment_reassigned
  have own := moves.moved _ List.mem_cons_self _ List.mem_cons_self rfl (by decide)
  exact absurd own.1 (by decide)

theorem foreign_request_frame :
    MovesOwn staleAttachment reassignedStore plannedShift 1 2 ↔
      KeepsOwn staleAttachment plannedShift 1 2 :=
  @reassign_movesOwn_iff .asListed _ _ _ 1 _ _ 0 none false 1 rfl rfl staleAttachment_reassigned

end InfrasafeBot.Shifts
