import InfrasafeBot.Shifts.ReassignmentProperties

/-! The deletion of an employee (`api/shifts/router/employees.py`,
`api/shifts/service/employees.py`): his open requests go to another, his running shifts
end, and his account is closed. -/

set_option autoImplicit false

namespace InfrasafeBot.Shifts

open Library RequestWorkflow

def openRequestStatus (status : RequestStatus) : Bool :=
  status = .inProgress || status = .purchase || status = .clarification ||
    status = .executed || status = .completed || status = .returned

structure DeleteEmployeeRequest where
  reason : String
  reassignTo : Option UserId
  reasonGiven : reason ≠ ""

inductive Detail where
  | text (message : String)
  | activeRequests (message : String) (count : Nat)

inductive DeletionError where
  | http (statusCode : Nat) (detail : Detail)
  | raised (exception : Raised)

def ensureNotPrivileged (user : User) (action : String) : Except DeletionError Unit :=
  if (parseUserRoles user).contains "manager" || (parseUserRoles user).contains "admin" then
    .error (.http 403 (.text action))
  else .ok ()

namespace Store

def openRequestsOf (store : Store) (userId : UserId) : List Request :=
  store.database.requests.rows.filter fun row =>
    row.executorId = some userId && openRequestStatus row.status

def countActiveRequests (store : Store) (userId : UserId) : Nat := (store.openRequestsOf userId).length

def reassignEachAsync (store : Store) (executor : UserId) : List RequestNumber → Except Raised Store
  | [] => .ok store
  | number :: rest => do
      let (_, changed) ← store.reassignExecutorAsync number executor
      changed.reassignEachAsync executor rest

def closedAccount (user : User) (reason : String) (deletedBy : UserId) (now : Moment) : User :=
  { user with
    deletedAt := some now
    deletedBy := some deletedBy
    deletionReason := some reason
    status := .deleted }

def isRunningOf (userId : UserId) (shift : Shift) : Bool :=
  shift.userId = some userId && (shift.status = .active || shift.status = .paused)

def endedShift (now : Moment) (shift : Shift) : Shift :=
  { shift with status := .completed, endTime := some now }

theorem endedShift_id (now : Moment) (shift : Shift) : (endedShift now shift).id = shift.id := rfl

def reassignOpenRequests (store : Store) (userId : UserId) (reassignTo : Option UserId)
    (activeCount : Nat) : Except Raised Store :=
  match reassignTo with
  | some target =>
    if 0 < activeCount then
      store.reassignEachAsync target ((store.openRequestsOf userId).map (·.requestNumber))
    else .ok store
  | none => .ok store

def softDeleteEmployee (store : Store) (user : User) (reassignTo : Option UserId)
    (reason : String) (deletedBy : UserId) (activeCount : Nat) (now : Moment) :
    Except Raised Store := do
  let handed ← store.reassignOpenRequests user.id reassignTo activeCount
  .ok { handed with
    users := handed.users.put (closedAccount user reason deletedBy now)
    shifts := handed.shifts.update (isRunningOf user.id) (endedShift now) (endedShift_id now) }

end Store

def checkTarget (store : Store) (reassignTo : Option UserId) (activeCount : Nat) :
    Except DeletionError Unit :=
  match reassignTo with
  | none => .ok ()
  | some target =>
    if 0 < activeCount then
      match store.users.find? target with
      | none => .error (.http 404 (.text "Target employee not found"))
      | some found =>
        if found.deletedAt.isSome then .error (.http 422 (.text "Cannot reassign to a deleted employee"))
        else .ok ()
    else .ok ()

def deleteEmployee (store : Store) (userId : UserId) (body : DeleteEmployeeRequest)
    (currentUser : UserId) (now : Moment) : Except DeletionError Store :=
  match store.users.find? userId with
  | none => .error (.http 404 (.text "User not found"))
  | some user => do
      ensureNotPrivileged user "Cannot delete a manager or admin user"
      if user.deletedAt.isSome then .error (.http 409 (.text "User is already deleted"))
      else
        let activeCount := store.countActiveRequests userId
        if 0 < activeCount && body.reassignTo.isNone then
          .error (.http 422
            (.activeRequests "Employee has active requests that must be reassigned" activeCount))
        else do
          checkTarget store body.reassignTo activeCount
          match store.softDeleteEmployee user body.reassignTo body.reason currentUser activeCount
              now with
          | .ok deleted => .ok deleted
          | .error exception => .error (.raised exception)

theorem reassignEachAsync_moved (executor : UserId) (numbers : List RequestNumber)
    (store : Store) :
    ∃ after, store.reassignEachAsync executor numbers = .ok after ∧
      Moved numbers executor store after := by
  induction numbers generalizing store with
  | nil => exact ⟨store, rfl, .nil store⟩
  | cons number rest ih =>
    obtain ⟨after, returned, later⟩ := ih (store.reassignExecutor number executor).2
    refine ⟨after, ?_, (moved_reassignExecutor store number executor).cons later⟩
    rw [Store.reassignEachAsync, reassignExecutorAsync_eq]
    exact returned

def Store.openNumbersOf (store : Store) (userId : UserId) : List RequestNumber :=
  (store.openRequestsOf userId).map (·.requestNumber)

def handedRequest (store : Store) (userId : UserId) (reassignTo : Option UserId)
    (row : Request) : Request :=
  reassignTo.elim row fun target => movedRequest (store.openNumbersOf userId) target row

def handedAssignment (store : Store) (userId : UserId) (reassignTo : Option UserId)
    (row : RequestAssignment) : RequestAssignment :=
  reassignTo.elim row fun target => movedAssignment (store.openNumbersOf userId) target store row

/-- A deletion that succeeds, by what it leaves in each table. -/
structure Deleted (before after : Store) (userId : UserId) (reassignTo : Option UserId)
    (now : Moment) : Prop where
  target : before.openRequestsOf userId ≠ [] →
    ∃ target found, reassignTo = some target ∧ before.users.find? target = some found ∧
      found.deletedAt = none
  requests : after.database.requests.rows =
    before.database.requests.rows.map (handedRequest before userId reassignTo)
  assignments : after.database.assignments.rows =
    before.database.assignments.rows.map (handedAssignment before userId reassignTo)
  shifts : after.shifts.rows = before.shifts.rows.map fun shift =>
    if Store.isRunningOf userId shift then Store.endedShift now shift else shift
  users : ∀ id, id ≠ userId → after.users.find? id = before.users.find? id

variable {store after : Store} {userId : UserId} {now : Moment}

section

variable {body : DeleteEmployeeRequest} {currentUser : UserId}

theorem openRequestsOf_nonempty_iff :
    0 < store.countActiveRequests userId ↔ store.openRequestsOf userId ≠ [] :=
  List.length_pos_iff

theorem moved_of_softDelete {user : User} {reassignTo : Option UserId} {reason : String}
    {deletedBy : UserId}
    (written : store.softDeleteEmployee user reassignTo reason deletedBy
      (store.countActiveRequests user.id) now = .ok after) :
    ∃ handed, Moved (reassignTo.elim [] fun _ =>
          (store.openRequestsOf user.id).map (·.requestNumber)) (reassignTo.getD 0) store handed ∧
      after = { handed with
        users := handed.users.put (Store.closedAccount user reason deletedBy now)
        shifts := handed.shifts.update (Store.isRunningOf user.id) (Store.endedShift now)
          (Store.endedShift_id now) } := by
  obtain ⟨handed, reassigned, closed⟩ := bind_eq_ok_iff.mp written
  refine ⟨handed, ?_, (Except.ok.inj closed).symm⟩
  cases reassignTo with
  | none =>
    cases reassigned
    exact .nil store
  | some target =>
    unfold Store.reassignOpenRequests at reassigned
    dsimp only at reassigned
    by_cases some_ : 0 < store.countActiveRequests user.id
    · rw [if_pos some_] at reassigned
      obtain ⟨moved, returned, follows⟩ := reassignEachAsync_moved target
        ((store.openRequestsOf user.id).map (·.requestNumber)) store
      rw [returned] at reassigned
      cases reassigned
      exact follows
    · rw [if_neg some_] at reassigned
      cases reassigned
      have empty : store.openRequestsOf user.id = [] :=
        not_not.mp fun left => some_ (openRequestsOf_nonempty_iff.mpr left)
      have same : Moved [] target store store := .nil store
      simpa [empty] using same

theorem target_of_checked {reassignTo : Option UserId} {activeCount : Nat}
    (checked : checkTarget store reassignTo activeCount = .ok ()) (some_ : 0 < activeCount)
    (given : reassignTo.isNone = false) :
    ∃ target found, reassignTo = some target ∧ store.users.find? target = some found ∧
      found.deletedAt = none := by
  cases reassignTo with
  | none => cases given
  | some target =>
    simp only [checkTarget, if_pos some_] at checked
    cases found : store.users.find? target with
    | none => simp [found] at checked
    | some user =>
      cases gone : user.deletedAt with
      | none => exact ⟨target, user, rfl, found, gone⟩
      | some moment => simp [found, gone] at checked

theorem checks_of_deleted
    (deleted : deleteEmployee store userId body currentUser now = .ok after) :
    ∃ user, store.users.find? userId = some user ∧
      (store.openRequestsOf userId ≠ [] → ∃ target found, body.reassignTo = some target ∧
        store.users.find? target = some found ∧ found.deletedAt = none) ∧
      store.softDeleteEmployee user body.reassignTo body.reason currentUser
        (store.countActiveRequests userId) now = .ok after := by
  unfold deleteEmployee at deleted
  cases found : store.users.find? userId with
  | none => simp [found] at deleted
  | some user =>
    simp only [found] at deleted
    obtain ⟨_, _, continued⟩ := bind_eq_ok_iff.mp deleted
    split at continued
    · cases continued
    · split at continued
      · cases continued
      · next needed =>
          obtain ⟨_, checked, written⟩ := bind_eq_ok_iff.mp continued
          refine ⟨user, rfl, fun left => ?_, ?_⟩
          · have positive := openRequestsOf_nonempty_iff.mpr left
            refine target_of_checked checked positive ?_
            simpa only [positive, decide_true, Bool.true_and, Bool.not_eq_true] using needed
          · cases returned : store.softDeleteEmployee user body.reassignTo body.reason
                currentUser (store.countActiveRequests userId) now with
            | error exception => simp [returned] at written
            | ok last =>
              simp only [returned] at written
              exact congrArg Except.ok (Except.ok.inj written)

theorem deleted_of_ok (deleted : deleteEmployee store userId body currentUser now = .ok after) :
    Deleted store after userId body.reassignTo now := by
  obtain ⟨user, found, target, written⟩ := checks_of_deleted deleted
  have named : user.id = userId := Table.key_of_find? found
  rw [← named] at written
  obtain ⟨handed, moved, rfl⟩ := moved_of_softDelete written
  rw [named] at moved
  constructor
  · exact target
  · rw [moved.requests]
    cases body.reassignTo with
    | none => exact List.map_congr_left fun row _ => movedRequest_nil _ row
    | some target => rfl
  · rw [moved.assignments]
    cases body.reassignTo with
    | none => exact List.map_congr_left fun row _ => movedAssignment_nil _ store row
    | some target => rfl
  · simp only [Table.update, moved.others.shifts, named]
  · intro id other
    dsimp only
    rw [Table.find?_put_of_ne (by simpa [Store.closedAccount, named] using other), moved.others.users]

end

/-- Nothing that is still open names the user. -/
structure OwnsNothingOpen (store : Store) (userId : UserId) : Prop where
  requests : ∀ row ∈ store.database.requests.rows, openRequestStatus row.status = true →
    row.executorId ≠ some userId
  assignments : ∀ assignment ∈ store.database.assignments.rows, assignment.status = .active →
    assignment.assignmentType = .individual →
      ∀ row ∈ store.database.requests.rows, row.requestNumber = assignment.requestNumber →
        openRequestStatus row.status = true → assignment.executorId ≠ some userId
  shifts : ∀ shift ∈ store.shifts.rows, shift.userId = some userId →
    shift.status ≠ .planned ∧ shift.status ≠ .active ∧ shift.status ≠ .paused

/-- The open requests that were his are with users that are not deleted. -/
def HandedOn (before after : Store) (userId : UserId) : Prop :=
  ∀ row ∈ before.openRequestsOf userId, ∃ handed ∈ after.database.requests.rows,
    handed.requestNumber = row.requestNumber ∧
      ∃ owner user, handed.executorId = some owner ∧ after.users.find? owner = some user ∧
        user.deletedAt = none

/-- What the deletion does not look at: planned shifts, a target that is the employee
himself, and assignments of requests that are not his. -/
structure LeavesNothing (store : Store) (userId : UserId) (reassignTo : Option UserId) : Prop where
  noPlanned : ∀ shift ∈ store.shifts.rows, shift.userId = some userId → shift.status ≠ .planned
  another : store.openRequestsOf userId ≠ [] → reassignTo ≠ some userId
  numbered : ∀ row ∈ store.openRequestsOf userId, row.requestNumber ≠ ""
  ownOnly : ∀ assignment ∈ store.database.assignments.rows, assignment.status = .active →
    assignment.assignmentType = .individual → assignment.executorId = some userId →
      ∀ row ∈ store.database.requests.rows, row.requestNumber = assignment.requestNumber →
        openRequestStatus row.status = true → row.executorId = some userId

variable {reassignTo : Option UserId}

section

variable {row : Request}

theorem mem_openNumbersOf (listed : row ∈ store.database.requests.rows) :
    row.requestNumber ∈ store.openNumbersOf userId ↔
      row.executorId = some userId ∧ openRequestStatus row.status = true := by
  constructor
  · intro numbered
    obtain ⟨own, selected, same⟩ := List.mem_map.mp numbered
    obtain ⟨stored, fits⟩ := List.mem_filter.mp selected
    have equal : own = row := Table.eq_of_key stored listed same
    subst equal
    simpa using fits
  · intro fits
    exact List.mem_map_of_mem (List.mem_filter.mpr ⟨listed, by simpa using fits⟩)

@[simp] theorem handedRequest_number :
    (handedRequest store userId reassignTo row).requestNumber = row.requestNumber := by
  cases reassignTo with
  | none => rfl
  | some target => exact movedRequest_number _ target row

@[simp] theorem handedRequest_status : (handedRequest store userId reassignTo row).status = row.status := by
  cases reassignTo with
  | none => rfl
  | some target => exact movedRequest_status _ target row

theorem handedRequest_of_other (other : row.requestNumber ∉ store.openNumbersOf userId) :
    handedRequest store userId reassignTo row = row := by
  cases reassignTo with
  | none => rfl
  | some target => exact if_neg fun moves => other moves.1

variable {target : UserId} {assignment : RequestAssignment}

theorem handedRequest_of_own (own : row.requestNumber ∈ store.openNumbersOf userId)
    (numbered : row.requestNumber ≠ "") :
    handedRequest store userId (some target) row = { row with executorId := some target } :=
  if_pos ⟨own, numbered⟩

theorem handedAssignment_of_other (other : assignment.requestNumber ∉ store.openNumbersOf userId) :
    handedAssignment store userId reassignTo assignment = assignment := by
  cases reassignTo with
  | none => rfl
  | some target => exact if_neg fun moves => other moves.1

theorem handedAssignment_kept :
    (handedAssignment store userId reassignTo assignment).requestNumber = assignment.requestNumber ∧
      (handedAssignment store userId reassignTo assignment).status = assignment.status ∧
      (handedAssignment store userId reassignTo assignment).assignmentType =
        assignment.assignmentType := by
  cases reassignTo with
  | none => exact ⟨rfl, rfl, rfl⟩
  | some target =>
    simp only [handedAssignment, Option.elim, movedAssignment]
    split
    · exact ⟨rfl, rfl, rfl⟩
    · exact ⟨rfl, rfl, rfl⟩

theorem handedAssignment_of_own (listed : row ∈ store.database.requests.rows)
    (own : row.requestNumber ∈ store.openNumbersOf userId) (numbered : row.requestNumber ≠ "")
    (same : row.requestNumber = assignment.requestNumber) (active : assignment.status = .active)
    (individual : assignment.assignmentType = .individual) :
    handedAssignment store userId (some target) assignment =
      { assignment with executorId := some target } := by
  have known : store.knows assignment.requestNumber = true := by
    rw [← same]
    simp [Store.knows, AssignmentService.getRequestByNumber, numbered, Table.find?_of_mem listed]
  exact if_pos ⟨same ▸ own, known, active, individual⟩

end

namespace LeavesNothing

variable (leaves : LeavesNothing store userId reassignTo)
  (deleted : Deleted store after userId reassignTo now)

include leaves deleted

theorem target_of_own {row : Request} (listed : row ∈ store.database.requests.rows)
    (own : row.executorId = some userId) (open_ : openRequestStatus row.status = true) :
    ∃ target found, reassignTo = some target ∧ target ≠ userId ∧
      store.users.find? target = some found ∧ found.deletedAt = none ∧
        row.requestNumber ∈ store.openNumbersOf userId ∧ row.requestNumber ≠ "" := by
  have selected : row ∈ store.openRequestsOf userId := List.mem_filter.mpr ⟨listed, by simp [own, open_]⟩
  have some_ : store.openRequestsOf userId ≠ [] := List.ne_nil_of_mem selected
  obtain ⟨target, found, given, stored, present⟩ := deleted.target some_
  refine ⟨target, found, given, ?_, stored, present, (mem_openNumbersOf listed).mpr ⟨own, open_⟩,
    leaves.numbered row selected⟩
  rintro rfl
  exact leaves.another some_ given

theorem requests : ∀ row ∈ after.database.requests.rows, openRequestStatus row.status = true →
    row.executorId ≠ some userId := by
  intro row listed open_ own
  rw [deleted.requests] at listed
  obtain ⟨old, stored, rfl⟩ := List.mem_map.mp listed
  rw [handedRequest_status] at open_
  by_cases his : old.requestNumber ∈ store.openNumbersOf userId
  · have held := (mem_openNumbersOf stored).mp his
    obtain ⟨target, _, rfl, another, _, _, _, numbered⟩ := leaves.target_of_own deleted stored held.1 held.2
    rw [handedRequest_of_own his numbered] at own
    exact another (Option.some.inj own)
  · rw [handedRequest_of_other his] at own
    exact his ((mem_openNumbersOf stored).mpr ⟨own, open_⟩)

theorem assignments : ∀ assignment ∈ after.database.assignments.rows,
    assignment.status = .active → assignment.assignmentType = .individual →
      ∀ row ∈ after.database.requests.rows, row.requestNumber = assignment.requestNumber →
        openRequestStatus row.status = true → assignment.executorId ≠ some userId := by
  intro assignment assignmentListed active individual row listed same open_ own
  rw [deleted.requests] at listed
  rw [deleted.assignments] at assignmentListed
  obtain ⟨old, stored, rfl⟩ := List.mem_map.mp listed
  obtain ⟨oldAssignment, assignmentStored, rfl⟩ := List.mem_map.mp assignmentListed
  rw [handedAssignment_kept.2.1] at active
  rw [handedAssignment_kept.2.2] at individual
  rw [handedAssignment_kept.1, handedRequest_number] at same
  rw [handedRequest_status] at open_
  by_cases his : old.requestNumber ∈ store.openNumbersOf userId
  · have held := (mem_openNumbersOf stored).mp his
    obtain ⟨target, _, rfl, another, _, _, _, numbered⟩ := leaves.target_of_own deleted stored held.1 held.2
    rw [handedAssignment_of_own stored his numbered same active individual] at own
    exact another (Option.some.inj own)
  · rw [handedAssignment_of_other (same ▸ his)] at own
    have held := leaves.ownOnly oldAssignment assignmentStored active individual own old stored
      same open_
    exact his ((mem_openNumbersOf stored).mpr ⟨held, open_⟩)

theorem shifts : ∀ shift ∈ after.shifts.rows, shift.userId = some userId →
    shift.status ≠ .planned ∧ shift.status ≠ .active ∧ shift.status ≠ .paused := by
  intro shift listed own
  rw [deleted.shifts] at listed
  obtain ⟨old, stored, rfl⟩ := List.mem_map.mp listed
  by_cases running : Store.isRunningOf userId old = true
  · rw [if_pos running]
    simp [Store.endedShift]
  · rw [if_neg running] at own ⊢
    simp only [Store.isRunningOf, own, Bool.and_eq_true, Bool.or_eq_true, decide_eq_true_eq,
      true_and, not_or] at running
    exact ⟨leaves.noPlanned old stored own, running⟩

theorem handedOn : HandedOn store after userId := by
  intro row selected
  obtain ⟨stored, fits⟩ := List.mem_filter.mp selected
  simp only [Bool.and_eq_true, decide_eq_true_eq] at fits
  obtain ⟨target, found, rfl, another, known, present, his, numbered⟩ :=
    leaves.target_of_own deleted stored fits.1 fits.2
  refine ⟨handedRequest store userId (some target) row, ?_, handedRequest_number, target, found,
    ?_, ?_, present⟩
  · rw [deleted.requests]
    exact List.mem_map_of_mem stored
  · rw [handedRequest_of_own his numbered]
  · rw [deleted.users target another, known]

end LeavesNothing

theorem leavesNothing_of_owns (deleted : Deleted store after userId reassignTo now)
    (owns : OwnsNothingOpen after userId) : LeavesNothing store userId reassignTo where
  noPlanned := by
    intro shift listed own planned
    have stays : ¬ Store.isRunningOf userId shift = true := by simp [Store.isRunningOf, planned]
    have kept : shift ∈ after.shifts.rows := by
      rw [deleted.shifts]
      exact List.mem_map.mpr ⟨shift, listed, if_neg stays⟩
    exact (owns.shifts shift kept own).1 planned
  another := by
    intro some_ himself
    obtain ⟨row, selected⟩ := List.exists_mem_of_ne_nil _ some_
    obtain ⟨stored, fits⟩ := List.mem_filter.mp selected
    simp only [Bool.and_eq_true, decide_eq_true_eq] at fits
    have kept : handedRequest store userId reassignTo row ∈ after.database.requests.rows := by
      rw [deleted.requests]
      exact List.mem_map_of_mem stored
    refine owns.requests _ kept (by rw [handedRequest_status]; exact fits.2) ?_
    rw [himself]
    simp only [handedRequest, Option.elim, movedRequest]
    split
    · rfl
    · exact fits.1
  numbered := by
    intro row selected unnumbered
    obtain ⟨stored, fits⟩ := List.mem_filter.mp selected
    simp only [Bool.and_eq_true, decide_eq_true_eq] at fits
    have same : handedRequest store userId reassignTo row = row := by
      cases reassignTo with
      | none => rfl
      | some target => exact if_neg fun moves => moves.2 unnumbered
    have kept : row ∈ after.database.requests.rows := by
      rw [deleted.requests]
      exact List.mem_map.mpr ⟨row, stored, same⟩
    exact owns.requests row kept fits.2 fits.1
  ownOnly := by
    intro assignment listed active individual own row stored same open_
    by_contra other
    have his : row.requestNumber ∉ store.openNumbersOf userId :=
      fun numbered => other ((mem_openNumbersOf stored).mp numbered).1
    have kept : row ∈ after.database.requests.rows := by
      rw [deleted.requests]
      exact List.mem_map.mpr ⟨row, stored, handedRequest_of_other his⟩
    have keptToo : assignment ∈ after.database.assignments.rows := by
      rw [deleted.assignments]
      exact List.mem_map.mpr ⟨assignment, listed, handedAssignment_of_other (same ▸ his)⟩
    exact owns.assignments assignment keptToo active individual row kept same open_ own

/-- A deletion leaves the employee nothing open exactly when nothing of his lies outside of
what it looks at. -/
theorem deleteEmployee_owns_nothing_iff {store after : Store} {userId : UserId}
    {body : DeleteEmployeeRequest} {currentUser : UserId} {now : Moment}
    (succeeded : deleteEmployee store userId body currentUser now = .ok after) :
    (OwnsNothingOpen after userId ∧ HandedOn store after userId) ↔
      LeavesNothing store userId body.reassignTo := by
  have deleted := deleted_of_ok succeeded
  constructor
  · intro held
    exact leavesNothing_of_owns deleted held.1
  · intro leaves
    exact ⟨⟨leaves.requests deleted, leaves.assignments deleted, leaves.shifts deleted⟩,
      leaves.handedOn deleted⟩

def workedRequest (number : RequestNumber) (executor : UserId) : Request :=
  { Request.created number 9 none .resident with
    status := .inProgress
    executorId := some executor
    assignmentType := some .individual }

theorem staff_nodup : ([executorNamed 1, executorNamed 2, managerNamed 3].map User.id).Nodup := by
  decide

def busyStore : Store where
  users := ⟨[executorNamed 1, executorNamed 2, managerNamed 3], staff_nodup⟩
  shifts := ⟨[shiftOf 1 1 10 none .active], by decide⟩
  shiftAssignments := []
  transfers := .empty
  database :=
    { Database.ofRequest (workedRequest "250101-001" 1) with
      assignments := ⟨[⟨1, "250101-001", .individual, none, some 1, .active, 3⟩], by decide⟩ }
  activeUnique := by
    intro left leftListed right rightListed _ _ _
    exact (List.mem_singleton.mp leftListed).trans (List.mem_singleton.mp rightListed).symm

def departure (target : Option UserId) : DeleteEmployeeRequest := ⟨"moved away", target, by decide⟩

theorem busy_leaves_nothing : LeavesNothing busyStore 1 (some 2) where
  noPlanned := by decide
  another := by decide
  numbered := by decide
  ownOnly := by decide

theorem busy_departure_owns_nothing :
    ∃ after, deleteEmployee busyStore 1 (departure (some 2)) 3 20 = .ok after ∧
      OwnsNothingOpen after 1 ∧ HandedOn busyStore after 1 :=
  have leaves : LeavesNothing busyStore 1 (departure (some 2)).reassignTo := busy_leaves_nothing
  ⟨_, rfl, (deleteEmployee_owns_nothing_iff rfl).mpr leaves⟩

def plannedStore : Store :=
  .ofStaff ⟨[executorNamed 1, managerNamed 3], by decide⟩
    ⟨[shiftOf 1 1 10 (some 20) .planned], by decide⟩

theorem plannedShift_stays :
    ¬ ∀ (store after : Store) (userId : UserId) (body : DeleteEmployeeRequest)
      (currentUser : UserId) (now : Moment),
        deleteEmployee store userId body currentUser now = .ok after →
          OwnsNothingOpen after userId ∧ HandedOn store after userId := by
  intro owns
  have held := (owns plannedStore _ 1 (departure none) 3 0 rfl).1.shifts
    (shiftOf 1 1 10 (some 20) .planned) List.mem_cons_self rfl
  exact held.1 rfl

end InfrasafeBot.Shifts
