import InfrasafeBot.Shifts.Balancing

/-! The daily synchronisation of the assignments with the shifts
(`services/shift_assignment_service/request_engine.py`). The cancellations wait in the session
while a replacement is sought; one commit ends the call. -/

set_option autoImplicit false

namespace InfrasafeBot.Shifts

open Library RequestWorkflow

/-- `value NOT IN (rows)` with the `NULL`s of SQL; a `WHERE` keeps what is `some true`. -/
def notIn {Value : Type} [DecidableEq Value] (value : Option Value)
    (rows : List (Option Value)) : Option Bool :=
  if rows.isEmpty then some true
  else
    match value with
    | none => none
    | some value =>
      if some value ∈ rows then some false else if none ∈ rows then none else some true

theorem notIn_iff {Value : Type} [DecidableEq Value] {value : Option Value}
    {rows : List (Option Value)} :
    notIn value rows = some true ↔
      rows = [] ∨ ∃ known, value = some known ∧ some known ∉ rows ∧ none ∉ rows := by
  unfold notIn
  cases rows with
  | nil => simp
  | cons first rest =>
    cases value with
    | none => simp
    | some known => grind

inductive PyException where
  | sqlalchemyError
  | valueError (message : String)
  | attributeError (name : String)

/-- `SmartDispatcher` has no such method. -/
def autoAssignRequest (_ : RequestNumber) : Except PyException Bool :=
  .error (.attributeError "auto_assign_request")

def smartAssignRequest (answers : Bool) (db : Database) (number : RequestNumber) :
    Except PyException (Option RequestAssignment) :=
  let attempt : Except PyException (Option RequestAssignment) := do
    let request ←
      if answers then .ok (AssignmentService.getRequestByNumber db number)
      else .error .sqlalchemyError
    if request.isNone then .error (.valueError s!"Заявка с номером {number} не найдена")
    else
      let success ← autoAssignRequest number
      .ok (if success then db.assignments.rows.find? (RequestAssignment.isActiveOf number)
        else none)
  match attempt with
  | .error .sqlalchemyError => .error .sqlalchemyError
  | .error _ => .ok none
  | .ok assignment => .ok assignment

inductive SyncDetail where
  | reassigned (number : RequestNumber) (oldExecutor newExecutor : Option UserId)
  | reassignmentFailed (number : RequestNumber) (oldExecutor : Option UserId)
  | raised (number : RequestNumber)

def SyncDetail.succeeded : SyncDetail → Bool
  | .reassigned _ _ _ => true
  | _ => false

structure SyncReport where
  mismatchedAssignments : Nat
  reassigned : Nat
  failedReassignments : Nat
  details : List SyncDetail

structure SyncSurroundings where
  zone : BusinessZone
  createdAt : RequestNumber → Option Moment
  answers : RequestNumber → Bool
  commits : Bool

section

variable (around : SyncSurroundings) (shifts : Table Shift.id) (db : Database)
  (day : CalendarDay)

def ownersOn : List (Option UserId) :=
  (shifts.rows.filter fun shift =>
    around.zone.onDay day shift.startTime && shift.transferable).map (·.userId)

def activeOfDay (row : RequestAssignment) : Bool :=
  row.status = .active && (db.requests.find? row.requestNumber).isSome &&
    (around.createdAt row.requestNumber).any (around.zone.onDay day)

def mismatchedAssignments : List RequestAssignment :=
  db.assignments.rows.filter fun row =>
    activeOfDay around db day row && notIn row.executorId (ownersOn around shifts day) = some true

def reattempt (row : RequestAssignment) : SyncDetail :=
  match smartAssignRequest (around.answers row.requestNumber) db row.requestNumber with
  | .error _ => .raised row.requestNumber
  | .ok none => .reassignmentFailed row.requestNumber row.executorId
  | .ok (some assignment) => .reassigned row.requestNumber row.executorId assignment.executorId

theorem cancelledBySync_id (row : RequestAssignment) :
    RequestAssignment.id { row with status := .cancelled } = row.id := rfl

def cancelAll (rows : List RequestAssignment) : Database :=
  { db with
    assignments := db.assignments.update (fun row => rows.any (·.id = row.id))
      (fun row => { row with status := .cancelled }) cancelledBySync_id }

/-- `sync_request_assignments_with_shifts`; without a report where it ends in an error. -/
def syncRequestAssignments : Option SyncReport × Database :=
  let mismatched := mismatchedAssignments around shifts db day
  let details := mismatched.map (reattempt around db)
  if around.commits then
    (some
      { mismatchedAssignments := mismatched.length
        reassigned := details.countP SyncDetail.succeeded
        failedReassignments := details.countP fun detail => !detail.succeeded
        details },
      cancelAll db mismatched)
  else (none, db)

/-- What the synchronisation is for: an individual assignment whose executor has no shift. -/
structure OffShift (row : RequestAssignment) : Prop where
  current : activeOfDay around db day row = true
  individual : row.assignmentType = .individual
  absent : ∃ executor, row.executorId = some executor ∧ some executor ∉ ownersOn around shifts day

/-- Replaced by a new assignment that the request mirrors, or left alone. -/
def Settled (after : Database) (row : RequestAssignment) : Prop :=
  (∃ new ∈ after.assignments.rows, new ∉ db.assignments.rows ∧ new.status = .active ∧
    new.requestNumber = row.requestNumber ∧
    ∃ request ∈ after.requests.rows, request.requestNumber = row.requestNumber ∧
      request.executorId = new.executorId) ∨
  row ∈ after.assignments.rows ∧
    ∀ request ∈ db.requests.rows, request.requestNumber = row.requestNumber →
      ∃ kept ∈ after.requests.rows, kept.requestNumber = row.requestNumber ∧
        kept.executorId = request.executorId

/-- A request that keeps its executor without an active assignment. -/
def Orphaned (request : Request) : Prop :=
  request.executorId.isSome = true ∧ ∀ row ∈ db.assignments.rows,
    row.requestNumber = request.requestNumber → row.status ≠ .active

structure Synchronises (after : Database) : Prop where
  selects : ∀ row, row ∈ mismatchedAssignments around shifts db day ↔
    row ∈ db.assignments.rows ∧ OffShift around shifts db day row
  settles : ∀ row ∈ mismatchedAssignments around shifts db day, Settled db after row
  keeps : ∀ request ∈ after.requests.rows, ¬ Orphaned after request

/-- The executor has a shift that day, or the query is right about him; only what is not
committed may be selected. -/
def SyncUndisturbed (row : RequestAssignment) : Prop :=
  match row.executorId with
  | none => ownersOn around shifts day ≠ []
  | some executor =>
    some executor ∈ ownersOn around shifts day ∨
      if row.assignmentType = .individual then around.commits = false ∧ none ∉ ownersOn around shifts day
      else none ∈ ownersOn around shifts day

variable {around shifts db day} {row : RequestAssignment}

theorem mem_mismatchedAssignments :
    row ∈ mismatchedAssignments around shifts db day ↔
      row ∈ db.assignments.rows ∧ activeOfDay around db day row = true ∧
        notIn row.executorId (ownersOn around shifts day) = some true := by
  simp [mismatchedAssignments]

theorem mem_cancelAll {rows : List RequestAssignment}
    (listed : row ∈ (cancelAll db rows).assignments.rows) :
    row.status = .cancelled ∨ row ∈ db.assignments.rows ∧ ∀ other ∈ rows, other.id ≠ row.id := by
  obtain ⟨source, stored, rfl⟩ := (Table.mem_update cancelledBySync_id).mp listed
  split
  · exact .inl rfl
  · next kept => exact .inr ⟨stored, by simpa using kept⟩

theorem not_settled (selected : row ∈ mismatchedAssignments around shifts db day) :
    ¬ Settled db (cancelAll db (mismatchedAssignments around shifts db day)) row := by
  have active : row.status = .active := by
    have current := (mem_mismatchedAssignments.mp selected).2.1
    simp only [activeOfDay, Bool.and_eq_true, decide_eq_true_eq] at current
    exact current.1.1
  rintro (⟨new, listed, fresh, running, _⟩ | ⟨kept, _⟩)
  · rcases mem_cancelAll listed with cancelled | ⟨stored, _⟩
    · rw [cancelled] at running
      cases running
    · exact fresh stored
  · rcases mem_cancelAll kept with cancelled | ⟨_, apart⟩
    · rw [cancelled] at active
      cases active
    · exact apart row selected rfl

theorem cancelAll_nil : cancelAll db [] = db := by
  unfold cancelAll Table.update
  simp

theorem orphaned_cancelAll {request : Request} {rows : List RequestAssignment}
    (orphaned : Orphaned db request) : Orphaned (cancelAll db rows) request := by
  refine ⟨orphaned.1, fun row listed same active => ?_⟩
  rcases mem_cancelAll listed with cancelled | ⟨stored, _⟩
  · rw [cancelled] at active
    cases active
  · exact orphaned.2 row stored same active

theorem syncUndisturbed_iff (current : activeOfDay around db day row = true) :
    SyncUndisturbed around shifts day row ↔
      (notIn row.executorId (ownersOn around shifts day) = some true ↔ OffShift around shifts db day row) ∧
      (around.commits = true →
        notIn row.executorId (ownersOn around shifts day) ≠ some true) := by
  have offShift_iff : OffShift around shifts db day row ↔ row.assignmentType = .individual ∧
      ∃ executor, row.executorId = some executor ∧
        some executor ∉ ownersOn around shifts day :=
    ⟨fun off => ⟨off.individual, off.absent⟩, fun off => ⟨current, off.1, off.2⟩⟩
  rw [offShift_iff, ne_eq, notIn_iff]
  unfold SyncUndisturbed
  cases row.executorId with
  | none => simp +contextual
  | some executor =>
    simp only [Option.some.injEq, exists_eq_left']
    generalize ownersOn around shifts day = owners
    by_cases individual : row.assignmentType = .individual
    · cases around.commits <;> cases owners <;> simp [individual] <;> grind
    · cases owners with
      | nil => simp [individual]
      | cons first rest =>
        simp [individual]
        grind

variable (around shifts db day)

/-- The synchronisation is right exactly where it has nothing to cancel and nothing is amiss
(or, if its commit fails, where the query is right), and no request is orphaned before. -/
theorem synchronises_iff :
    Synchronises around shifts db day (syncRequestAssignments around shifts db day).2 ↔
      (∀ request ∈ db.requests.rows, ¬ Orphaned db request) ∧
        ∀ row ∈ db.assignments.rows, activeOfDay around db day row = true →
          SyncUndisturbed around shifts day row := by
  constructor
  · intro right
    refine ⟨fun request listed orphaned => ?_, fun row listed current => ?_⟩
    · cases commits : around.commits with
      | false =>
        refine right.keeps request ?_ ?_
        · simpa [syncRequestAssignments, commits] using listed
        · simpa [syncRequestAssignments, commits] using orphaned
      | true =>
        refine right.keeps request ?_ ?_
        · simpa [syncRequestAssignments, commits, cancelAll] using listed
        · simpa [syncRequestAssignments, commits] using orphaned_cancelAll orphaned
    · have selects := right.selects row
      rw [mem_mismatchedAssignments] at selects
      refine (syncUndisturbed_iff current).mpr ⟨?_, fun commits taken => ?_⟩
      · exact ⟨fun taken => (selects.mp ⟨listed, current, taken⟩).2,
          fun off => (selects.mpr ⟨listed, off⟩).2.2⟩
      · have selected := mem_mismatchedAssignments.mpr ⟨listed, current, taken⟩
        have settled := right.settles row selected
        simp only [syncRequestAssignments, commits, if_true] at settled
        exact not_settled selected settled
  · rintro ⟨clean, undisturbed⟩
    have selects : ∀ row, row ∈ mismatchedAssignments around shifts db day ↔
        row ∈ db.assignments.rows ∧ OffShift around shifts db day row := by
      intro row
      rw [mem_mismatchedAssignments]
      constructor
      · rintro ⟨listed, current, taken⟩
        exact ⟨listed, ((syncUndisturbed_iff current).mp (undisturbed row listed current)).1.mp taken⟩
      · rintro ⟨listed, off⟩
        exact ⟨listed, off.current,
          ((syncUndisturbed_iff off.current).mp (undisturbed row listed off.current)).1.mpr off⟩
    have unchanged : (syncRequestAssignments around shifts db day).2 = db := by
      cases commits : around.commits with
      | false => simp [syncRequestAssignments, commits]
      | true =>
        have nothing : mismatchedAssignments around shifts db day = [] := by
          refine List.eq_nil_iff_forall_not_mem.mpr fun row selected => ?_
          obtain ⟨listed, current, taken⟩ := mem_mismatchedAssignments.mp selected
          exact ((syncUndisturbed_iff current).mp (undisturbed row listed current)).2 commits taken
        simp only [syncRequestAssignments, commits, if_true, nothing]
        exact cancelAll_nil
    rw [unchanged]
    refine ⟨selects, fun row selected => .inr ⟨((selects row).mp selected).1, ?_⟩, clean⟩
    exact fun request listed same => ⟨request, listed, same, rfl⟩

end

def unstaffedRequest : Request :=
  { Request.created "260101-001" 9 none .resident with status := .inProgress, executorId := some 1 }

def unstaffedDay : Database :=
  { Database.ofRequest unstaffedRequest with
    assignments := ⟨[⟨1, "260101-001", .individual, none, some 1, .active, 5⟩], by simp⟩ }

def plainDays : SyncSurroundings where
  zone := .fixed 0
  createdAt := fun _ => some 60
  answers := fun _ => true
  commits := true

theorem sync_orphans : ¬ ∀ (around : SyncSurroundings) (shifts : Table Shift.id) (db : Database)
    (day : CalendarDay),
    Synchronises around shifts db day (syncRequestAssignments around shifts db day).2 := by
  intro law
  have orphaned : Orphaned (syncRequestAssignments plainDays .empty unstaffedDay 0).2
      unstaffedRequest := ⟨rfl, by decide⟩
  exact (law plainDays .empty unstaffedDay 0).keeps _ List.mem_cons_self orphaned

end InfrasafeBot.Shifts
