import InfrasafeBot.AssignmentServiceProperties
import InfrasafeBot.Shifts.Store

/-! What a loop of reassignments leaves behind: every row is changed by its own number
alone, so that neither the order nor the repetition of the numbers matters. -/

set_option autoImplicit false

namespace InfrasafeBot.Shifts

open Library RequestWorkflow

section

variable (numbers : List RequestNumber) (executor : UserId)

def Store.knows (store : Store) (number : RequestNumber) : Bool :=
  (AssignmentService.getRequestByNumber store.database number).isSome

def movedRequest (row : Request) : Request :=
  if row.requestNumber ∈ numbers ∧ row.requestNumber ≠ "" then { row with executorId := some executor }
  else row

def movedAssignment (store : Store) (row : RequestAssignment) : RequestAssignment :=
  if row.requestNumber ∈ numbers ∧ store.knows row.requestNumber = true ∧
      row.status = .active ∧ row.assignmentType = .individual then
    { row with executorId := some executor }
  else row

@[simp] theorem movedRequest_number (row : Request) :
    (movedRequest numbers executor row).requestNumber = row.requestNumber := by
  unfold movedRequest
  split
  · rfl
  · rfl

@[simp] theorem movedRequest_status (row : Request) :
    (movedRequest numbers executor row).status = row.status := by
  unfold movedRequest
  split
  · rfl
  · rfl

theorem movedRequest_nil (row : Request) : movedRequest [] executor row = row := by
  simp [movedRequest]

theorem movedAssignment_nil (store : Store) (row : RequestAssignment) :
    movedAssignment [] executor store row = row := by
  simp [movedAssignment]

theorem movedRequest_movedRequest (number : RequestNumber) (row : Request) :
    movedRequest numbers executor (movedRequest [number] executor row) =
      movedRequest (number :: numbers) executor row := by
  by_cases first : row.requestNumber ∈ [number] ∧ row.requestNumber ≠ ""
  · have listed : row.requestNumber ∈ number :: numbers ∧ row.requestNumber ≠ "" :=
      ⟨List.mem_cons.mpr (.inl (List.mem_singleton.mp first.1)), first.2⟩
    by_cases again : row.requestNumber ∈ numbers ∧ row.requestNumber ≠ ""
    · simp only [movedRequest, if_pos first, if_pos listed, if_pos again]
    · simp only [movedRequest, if_pos first, if_pos listed, if_neg again]
  · have same : (row.requestNumber ∈ number :: numbers ∧ row.requestNumber ≠ "") ↔
        (row.requestNumber ∈ numbers ∧ row.requestNumber ≠ "") := by
      rw [List.mem_cons]
      rw [List.mem_singleton] at first
      tauto
    simp only [movedRequest, if_neg first, same]

theorem movedAssignment_movedAssignment {store later : Store}
    (known : ∀ number, later.knows number = store.knows number) (number : RequestNumber)
    (row : RequestAssignment) :
    movedAssignment numbers executor later (movedAssignment [number] executor store row) =
      movedAssignment (number :: numbers) executor store row := by
  by_cases first : row.requestNumber ∈ [number] ∧ store.knows row.requestNumber = true ∧
      row.status = .active ∧ row.assignmentType = .individual
  · have listed : row.requestNumber ∈ number :: numbers ∧
        store.knows row.requestNumber = true ∧ row.status = .active ∧
          row.assignmentType = .individual :=
      ⟨List.mem_cons.mpr (.inl (List.mem_singleton.mp first.1)), first.2⟩
    by_cases again : row.requestNumber ∈ numbers ∧ store.knows row.requestNumber = true ∧
        row.status = .active ∧ row.assignmentType = .individual
    · simp only [movedAssignment, if_pos first, if_pos listed, known, if_pos again]
    · simp only [movedAssignment, if_pos first, if_pos listed, known, if_neg again]
  · have same : (row.requestNumber ∈ number :: numbers ∧
          store.knows row.requestNumber = true ∧ row.status = .active ∧ row.assignmentType = .individual) ↔
        (row.requestNumber ∈ numbers ∧ store.knows row.requestNumber = true ∧
          row.status = .active ∧ row.assignmentType = .individual) := by
      rw [List.mem_cons]
      rw [List.mem_singleton] at first
      tauto
    simp only [movedAssignment, if_neg first, known, same]

end

/-- Two stores that only the requests and their active assignments tell apart. -/
structure SameBesideRequests (before after : Store) : Prop where
  users : after.users = before.users
  shifts : after.shifts = before.shifts
  shiftAssignments : after.shiftAssignments = before.shiftAssignments
  transfers : after.transfers = before.transfers
  ratings : after.database.ratings = before.database.ratings
  auditLogs : after.database.auditLogs = before.database.auditLogs
  outbox : after.database.outbox = before.database.outbox

theorem SameBesideRequests.refl (store : Store) : SameBesideRequests store store :=
  ⟨rfl, rfl, rfl, rfl, rfl, rfl, rfl⟩

theorem SameBesideRequests.trans {first second third : Store}
    (left : SameBesideRequests first second) (right : SameBesideRequests second third) :
    SameBesideRequests first third :=
  ⟨right.users.trans left.users, right.shifts.trans left.shifts,
    right.shiftAssignments.trans left.shiftAssignments, right.transfers.trans left.transfers,
    right.ratings.trans left.ratings, right.auditLogs.trans left.auditLogs,
    right.outbox.trans left.outbox⟩

structure Moved (numbers : List RequestNumber) (executor : UserId) (before after : Store) : Prop where
  requests : after.database.requests.rows =
    before.database.requests.rows.map (movedRequest numbers executor)
  assignments : after.database.assignments.rows =
    before.database.assignments.rows.map (movedAssignment numbers executor before)
  others : SameBesideRequests before after

theorem find?_map_moved {rows : List Request} (numbers : List RequestNumber)
    (executor : UserId) (wanted : RequestNumber) :
    (rows.map (movedRequest numbers executor)).find? (fun row => row.requestNumber = wanted) =
      (rows.find? fun row => row.requestNumber = wanted).map (movedRequest numbers executor) := by
  rw [List.find?_map]
  simp [Function.comp_def]

namespace Moved

variable {numbers : List RequestNumber} {executor : UserId} {before after : Store}

theorem getRequestByNumber (moved : Moved numbers executor before after)
    (number : RequestNumber) :
    AssignmentService.getRequestByNumber after.database number =
      (AssignmentService.getRequestByNumber before.database number).map
        (movedRequest numbers executor) := by
  unfold AssignmentService.getRequestByNumber
  split
  · rfl
  · rw [Table.find?, moved.requests, find?_map_moved]
    rfl

theorem knows (moved : Moved numbers executor before after) (number : RequestNumber) :
    after.knows number = before.knows number := by
  simp [Store.knows, moved.getRequestByNumber]

theorem nil (store : Store) : Moved [] executor store store where
  requests := by
    have same : movedRequest [] executor = id := funext (movedRequest_nil executor)
    rw [same, List.map_id]
  assignments := by
    have same : movedAssignment [] executor store = id := funext (movedAssignment_nil executor store)
    rw [same, List.map_id]
  others := .refl store

theorem cons {number : RequestNumber} {middle : Store}
    (first : Moved [number] executor before middle) (rest : Moved numbers executor middle after) :
    Moved (number :: numbers) executor before after where
  requests := by
    rw [rest.requests, first.requests, List.map_map]
    exact List.map_congr_left fun row _ => movedRequest_movedRequest numbers executor number row
  assignments := by
    rw [rest.assignments, first.assignments, List.map_map]
    exact List.map_congr_left fun row _ =>
      movedAssignment_movedAssignment numbers executor first.knows number row
  others := first.others.trans rest.others

end Moved

variable {number : RequestNumber} {store : Store} {request : Request}

theorem head?_activeAssignments {row : RequestAssignment}
    (listed : row ∈ store.database.assignments.rows) (active : row.status = .active)
    (same : row.requestNumber = number) :
    (store.activeAssignments number).head? = some row := by
  have selected : row ∈ store.activeAssignments number :=
    List.mem_filter.mpr ⟨listed, by simp [RequestAssignment.isActiveOf, active, same]⟩
  cases shown : store.activeAssignments number with
  | nil =>
    rw [shown] at selected
    cases selected
  | cons first rest =>
    have member : first ∈ store.activeAssignments number := shown ▸ List.mem_cons_self
    obtain ⟨firstListed, fits⟩ := List.mem_filter.mp member
    simp only [RequestAssignment.isActiveOf, Bool.and_eq_true, decide_eq_true_eq] at fits
    have unique := store.activeUnique first firstListed row listed fits.2 active
      (fits.1.trans same.symm)
    rw [unique]
    rfl

theorem requests_of_put
    (found : AssignmentService.getRequestByNumber store.database number = some request)
    (executor : UserId) :
    (store.database.requests.put { request with executorId := some executor }).rows =
      store.database.requests.rows.map (movedRequest [number] executor) := by
  obtain ⟨stored, named⟩ := AssignmentService.found_of_getRequestByNumber found
  have filled : number ≠ "" := by
    intro empty
    simp [AssignmentService.getRequestByNumber, empty] at found
  refine List.map_congr_left fun row listed => ?_
  dsimp only
  by_cases hit : row.requestNumber = number
  · have same : row = request := Table.eq_of_key listed (Table.mem_of_find? stored) (hit.trans named.symm)
    subst same
    have moves : row.requestNumber ∈ [number] ∧ row.requestNumber ≠ "" :=
      ⟨List.mem_singleton.mpr hit, named ▸ filled⟩
    rw [movedRequest, if_pos moves, if_pos rfl]
  · have stays : ¬ (row.requestNumber ∈ [number] ∧ row.requestNumber ≠ "") :=
      fun moves => hit (List.mem_singleton.mp moves.1)
    rw [movedRequest, if_neg stays, if_neg (named ▸ hit)]

theorem map_moved_of_none (executor : UserId)
    (none : ∀ row, (store.activeAssignments number).head? = some row → row.assignmentType ≠ .individual) :
    store.database.assignments.rows.map (movedAssignment [number] executor store) =
      store.database.assignments.rows := by
  refine (List.map_congr_left fun row listed => ?_).trans (List.map_id _)
  rw [movedAssignment, if_neg, id]
  rintro ⟨named, _, active, individual⟩
  exact none row (head?_activeAssignments listed active (List.mem_singleton.mp named)) individual

theorem map_moved_of_individual {assignment : RequestAssignment} (executor : UserId)
    (known : store.knows number = true)
    (first : (store.activeAssignments number).head? = some assignment)
    (individual : assignment.assignmentType = .individual) :
    store.database.assignments.rows.map (movedAssignment [number] executor store) =
      store.database.assignments.rows.map fun row =>
        if row.id = assignment.id then { row with executorId := some executor } else row := by
  obtain ⟨stored, fits⟩ := List.mem_filter.mp (List.mem_of_head? first)
  simp only [RequestAssignment.isActiveOf, Bool.and_eq_true, decide_eq_true_eq] at fits
  refine List.map_congr_left fun row listed => ?_
  by_cases same : row.id = assignment.id
  · have equal : row = assignment := Table.eq_of_key listed stored same
    subst equal
    have moves : row.requestNumber ∈ [number] ∧ store.knows row.requestNumber = true ∧
        row.status = .active ∧ row.assignmentType = .individual :=
      ⟨List.mem_singleton.mpr fits.1, fits.1 ▸ known, fits.2, individual⟩
    rw [movedAssignment, if_pos moves, if_pos rfl]
  · rw [movedAssignment, if_neg, if_neg same]
    rintro ⟨named, _, active, _⟩
    have shown := head?_activeAssignments listed active (List.mem_singleton.mp named)
    rw [first] at shown
    exact same (congrArg RequestAssignment.id (Option.some.inj shown).symm)

theorem moved_of_found
    (found : AssignmentService.getRequestByNumber store.database number = some request)
    (executor : UserId) :
    Moved [number] executor store
      (store.applyExecutorReassign request (store.activeAssignments number).head? executor) where
  requests := requests_of_put found executor
  assignments := by
    have known : store.knows number = true := by simp [Store.knows, found]
    unfold Store.applyExecutorReassign AssignmentService.applyExecutorReassign
    dsimp only
    cases first : (store.activeAssignments number).head? with
    | none => rw [map_moved_of_none executor (by simp [first])]
    | some assignment =>
      by_cases individual : assignment.assignmentType = .individual
      · rw [map_moved_of_individual executor known first individual]
        simp [individual, Table.update]
      · rw [map_moved_of_none executor (by simpa [first] using individual)]
        simp [individual]
  others := ⟨rfl, rfl, rfl, rfl, rfl, rfl, rfl⟩

theorem moved_of_missing
    (missing : AssignmentService.getRequestByNumber store.database number = none)
    (executor : UserId) : Moved [number] executor store store where
  requests := by
    symm
    refine (List.map_congr_left fun row listed => ?_).trans (List.map_id _)
    rw [movedRequest, if_neg, id]
    rintro ⟨named, filled⟩
    rw [← List.mem_singleton.mp named, AssignmentService.getRequestByNumber, if_neg filled,
      Table.find?_of_mem listed] at missing
    cases missing
  assignments := by
    have unknown : store.knows number = false := by simp [Store.knows, missing]
    symm
    refine (List.map_congr_left fun row listed => ?_).trans (List.map_id _)
    rw [movedAssignment, if_neg, id]
    rintro ⟨named, known, _⟩
    rw [List.mem_singleton.mp named, unknown] at known
    cases known
  others := .refl store

theorem moved_reassignExecutor (store : Store) (number : RequestNumber) (executor : UserId) :
    Moved [number] executor store (store.reassignExecutor number executor).2 := by
  unfold Store.reassignExecutor
  cases found : AssignmentService.getRequestByNumber store.database number with
  | none => exact moved_of_missing found executor
  | some request => exact moved_of_found found executor

theorem scalarOneOrNone_active (store : Store) (number : RequestNumber) :
    scalarOneOrNone (store.activeAssignments number) =
      .ok (store.activeAssignments number).head? := by
  cases shown : store.activeAssignments number with
  | nil => rfl
  | cons first rest =>
    cases rest with
    | nil => rfl
    | cons second others =>
      have distinct : (store.activeAssignments number).Nodup :=
        (store.database.assignments.unique.of_map _).filter _
      have member : ∀ row ∈ first :: second :: others,
          row ∈ store.database.assignments.rows ∧ row.requestNumber = number ∧
            row.status = .active := by
        intro row listed
        obtain ⟨stored, fits⟩ := List.mem_filter.mp (shown ▸ listed : row ∈ store.activeAssignments number)
        simp only [RequestAssignment.isActiveOf, Bool.and_eq_true, decide_eq_true_eq] at fits
        exact ⟨stored, fits⟩
      obtain ⟨firstListed, firstNamed, firstActive⟩ := member first (by simp)
      obtain ⟨secondListed, secondNamed, secondActive⟩ := member second (by simp)
      have same := store.activeUnique first firstListed second secondListed firstActive
        secondActive (firstNamed.trans secondNamed.symm)
      rw [shown, same] at distinct
      simp at distinct

theorem reassignExecutorAsync_eq (store : Store) (number : RequestNumber) (executor : UserId) :
    store.reassignExecutorAsync number executor = .ok (store.reassignExecutor number executor) := by
  unfold Store.reassignExecutorAsync Store.reassignExecutor
  cases AssignmentService.getRequestByNumber store.database number with
  | none => rfl
  | some request =>
    dsimp only
    rw [scalarOneOrNone_active]
    rfl

end InfrasafeBot.Shifts
