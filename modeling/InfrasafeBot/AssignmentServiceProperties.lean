import InfrasafeBot.AssignmentService
import InfrasafeBot.WorkflowRuns

/-! What the second writer keeps of the mirror between a request and its active
assignment, and what it does not. -/

set_option autoImplicit false

namespace InfrasafeBot.AssignmentService

open Library RequestWorkflow WorkflowRunner RequestLifecycle WorkflowOperations WorkflowRuns

/-- A request mirrors its only active assignment, and is at work only with an
executor. -/
structure Mirrors (row : Request) (active : List Holding) : Prop where
  single : active.length ≤ 1
  individual : ∀ holding ∈ active, holding.type = .individual →
    row.executorId = holding.executor ∧ row.assignedGroup = none
  group : ∀ holding ∈ active, holding.type = .group →
    row.executorId = none ∧ row.assignedGroup = holding.group
  vacant : active = [] → row.executorId = none ∧ row.assignedGroup = none
  working : row.status = .inProgress → row.executorId ≠ none

def MirroredAt (db : Database) (number : RequestNumber) : Prop :=
  ∀ row, db.requests.find? number = some row → Mirrors row (activeOf db.assignments number)

variable {row : Request} {executor group : Option _}

theorem mirrors_individual_iff :
    Mirrors row [⟨.individual, executor, group⟩] ↔
      row.executorId = executor ∧ row.assignedGroup = none ∧
        (row.status = .inProgress → row.executorId ≠ none) := by
  constructor
  · intro mirrors
    obtain ⟨same, ungrouped⟩ := mirrors.individual _ List.mem_cons_self rfl
    exact ⟨same, ungrouped, mirrors.working⟩
  · rintro ⟨same, ungrouped, working⟩
    constructor
    · simp
    · simp [same, ungrouped]
    · simp
    · simp
    · exact working

theorem mirrors_group_iff :
    Mirrors row [⟨.group, executor, group⟩] ↔
      row.executorId = none ∧ row.assignedGroup = group ∧ row.status ≠ .inProgress := by
  constructor
  · intro mirrors
    obtain ⟨vacant, same⟩ := mirrors.group _ List.mem_cons_self rfl
    exact ⟨vacant, same, fun working => mirrors.working working vacant⟩
  · rintro ⟨vacant, same, idle⟩
    constructor
    · simp
    · simp
    · simp [vacant, same]
    · simp
    · exact fun working => absurd working idle

theorem not_mirrors_nil (held : row.executorId ≠ none) : ¬ Mirrors row [] :=
  fun mirrors => held (mirrors.vacant rfl).1

variable {db committed : Database} {number other : RequestNumber} {changed : Request}

theorem found_of_getRequestByNumber (found : getRequestByNumber db number = some row) :
    db.requests.find? number = some row ∧ row.requestNumber = number := by
  unfold getRequestByNumber at found
  split at found
  · cases found
  · exact ⟨found, Table.key_of_find? found⟩

theorem mirroredAt_of_same (mirrored : MirroredAt db other)
    (requests : committed.requests.find? other = db.requests.find? other)
    (assignments : rowsOf committed.assignments other = rowsOf db.assignments other) :
    MirroredAt committed other := by
  intro row at_
  rw [requests] at at_
  rw [activeOf_eq_of_rowsOf assignments]
  exact mirrored row at_

theorem mirroredAt_put_iff (mirrored : MirroredAt db other)
    (found : db.requests.find? number = some row)
    (requests : committed.requests = db.requests.put changed)
    (fixed : changed.requestNumber = number)
    (others : other ≠ number → rowsOf committed.assignments other = rowsOf db.assignments other) :
    MirroredAt committed other ↔
      (other = number → Mirrors changed (activeOf committed.assignments number)) := by
  have stored : committed.requests.find? number = some changed := by
    rw [requests, ← fixed]
    exact Table.find?_put_self (fixed.symm ▸ found)
  constructor
  · intro kept same
    subst same
    exact kept changed stored
  · intro mirrors
    by_cases same : other = number
    · intro shown at_
      subst same
      cases stored.symm.trans at_
      exact mirrors rfl
    · refine mirroredAt_of_same mirrored ?_ (others same)
      rw [requests]
      exact Table.find?_put_of_ne (fixed.symm ▸ same)

variable {directory : Directory} {assignment active : RequestAssignment}

theorem commitAssignment_ok {type : AssignmentType} {group : Option String}
    {executor : Option UserId} {assignedBy : UserId}
    (written : commitAssignment directory db changed type group executor assignedBy =
      .ok (assignment, committed)) :
    committed.requests = db.requests.put changed ∧
      activeOf committed.assignments changed.requestNumber = [⟨type, executor, group⟩] ∧
      ∀ other, other ≠ changed.requestNumber →
        rowsOf committed.assignments other = rowsOf db.assignments other := by
  unfold commitAssignment at written
  split at written
  · cases written
  · cases written
    refine ⟨rfl, ?_, ?_⟩
    · rw [activeOf_insert (by simp [RequestAssignment.isActiveOf]), activeOf_cancelActive]
      rfl
    · intro other different
      exact (rowsOf_insert_of_ne rfl different).trans (rowsOf_cancelActive_of_ne different)

theorem activeRows_of_find? (single : (activeOf db.assignments number).length ≤ 1)
    (found : db.assignments.rows.find? (RequestAssignment.isActiveOf number) = some active) :
    db.assignments.rows.filter (RequestAssignment.isActiveOf number) = [active] := by
  rw [activeOf, List.length_map] at single
  rw [← List.head?_filter] at found
  cases listed : db.assignments.rows.filter (RequestAssignment.isActiveOf number) with
  | nil => simp [listed] at found
  | cons first others =>
    cases others with
    | nil => simpa [listed] using found
    | cons second rest => simp [listed] at single

theorem active_of_find?_none
    (missing : db.assignments.rows.find? (RequestAssignment.isActiveOf number) = none) :
    activeOf db.assignments number = [] := by
  rw [activeOf, List.map_eq_nil_iff, List.filter_eq_nil_iff]
  exact List.find?_eq_none.mp missing

theorem rowsOf_updateById_of_ne {change : RequestAssignment → RequestAssignment}
    {keeps : ∀ row, RequestAssignment.id (change row) = row.id}
    (stored : assignment ∈ db.assignments.rows)
    (renames : ∀ row, (change row).requestNumber = row.requestNumber)
    (different : other ≠ assignment.requestNumber) :
    rowsOf (db.assignments.update (fun row => row.id = assignment.id) change keeps) other =
      rowsOf db.assignments other := by
  refine rowsOf_update_of_ne ?_ renames different
  intro row member same
  rw [Table.eq_of_key member stored (of_decide_eq_true same)]

theorem activeOf_reassigned {newExecutor : UserId}
    (listed : db.assignments.rows.filter (RequestAssignment.isActiveOf number) = [active]) :
    activeOf (db.assignments.update (fun row => row.id = active.id)
        (fun row => { row with executorId := some newExecutor }) fun _ => rfl) number =
      [⟨active.assignmentType, some newExecutor, active.groupSpecialization⟩] := by
  rw [activeOf, Table.filter_update, listed]
  · simp [holding]
  · intro row _ _
    rfl

theorem activeOf_markCancelled {assignmentId : Nat} :
    activeOf (markCancelled db assignmentId).assignments number =
      (db.assignments.rows.filter fun row =>
        row.isActiveOf number && !decide (row.id = assignmentId)).map holding := by
  rw [activeOf, markCancelled, Table.filter_update_of_leaving]
  intro row _ _
  simp [RequestAssignment.isActiveOf]

theorem rowsOf_markCancelled_of_ne (stored : assignment ∈ db.assignments.rows)
    (different : other ≠ assignment.requestNumber) :
    rowsOf (markCancelled db assignment.id).assignments other =
      rowsOf db.assignments other := by
  simp only [markCancelled]
  refine rowsOf_updateById_of_ne stored ?_ different
  intro row
  rfl

section

variable {newExecutor : UserId} {assignmentId : Nat} {assignedBy : UserId}

theorem assignToGroup_mirrored {specialization : String} (mirrored : MirroredAt db other)
    (done : assignToGroup directory db number specialization assignedBy =
      .ok (assignment, committed)) : MirroredAt committed other := by
  unfold assignToGroup at done
  cases found : getRequestByNumber db number with
  | none => simp [found] at done
  | some request =>
    simp only [found] at done
    obtain ⟨stored, numbered⟩ := found_of_getRequestByNumber found
    split at done
    · cases done
    · next allowed =>
        obtain ⟨⟨created, written⟩, committing, finished⟩ := bind_eq_ok_iff.mp done
        cases finished
        obtain ⟨requests, active, others⟩ := commitAssignment_ok committing
        refine (mirroredAt_put_iff mirrored stored requests numbered (numbered ▸ others other)).mpr ?_
        intro same
        subst same
        rw [← numbered, active]
        refine mirrors_group_iff.mpr ⟨rfl, rfl, ?_⟩
        -- a request at work has an executor, and then the assignment is refused
        intro atWork
        have working : request.status = .inProgress := atWork
        have held := (mirrored request stored).working working
        simp [isInProgress, newStateFrom, normalizeStatus, working,
          Option.isSome_iff_ne_none.mpr held] at allowed

theorem assignToExecutor_mirrored_iff {executor : UserId} (mirrored : MirroredAt db other)
    (done : assignToExecutor directory db number executor assignedBy = .ok (assignment, committed)) :
    MirroredAt committed other ↔ (other = number →
      ∀ row, db.requests.find? number = some row → row.assignedGroup = none) := by
  unfold assignToExecutor at done
  cases found : getRequestByNumber db number with
  | none => simp [found] at done
  | some request =>
    simp only [found] at done
    obtain ⟨stored, numbered⟩ := found_of_getRequestByNumber found
    split at done
    · cases done
    · obtain ⟨⟨created, written⟩, committing, finished⟩ := bind_eq_ok_iff.mp done
      cases finished
      obtain ⟨requests, active, others⟩ := commitAssignment_ok committing
      refine (mirroredAt_put_iff mirrored stored requests numbered
        (numbered ▸ others other)).trans (imp_congr_right fun _ => ?_)
      rw [← numbered, active, numbered, mirrors_individual_iff]
      simp [stored]

def ActiveIndividual (db : Database) (number : RequestNumber) : Prop :=
  ∃ active, db.assignments.rows.find? (RequestAssignment.isActiveOf number) = some active ∧
    active.assignmentType = .individual

section

variable {request : Request}

theorem applyExecutorReassign_requests (current : Option RequestAssignment) :
    (applyExecutorReassign db request current newExecutor).requests =
      db.requests.put { request with executorId := some newExecutor } := rfl

theorem applyExecutorReassign_others {active : Option RequestAssignment}
    (current : db.assignments.rows.find? (RequestAssignment.isActiveOf number) = active)
    (different : other ≠ number) :
    rowsOf (applyExecutorReassign db request active newExecutor).assignments other =
      rowsOf db.assignments other := by
  cases active with
  | none => rfl
  | some active =>
    have belongs : active.requestNumber = number := requestNumber_of_isActiveOf (List.find?_some current)
    simp only [applyExecutorReassign]
    split
    · refine rowsOf_updateById_of_ne (List.mem_of_find?_eq_some current) ?_
        (belongs.symm ▸ different)
      intro row
      rfl
    · rfl

theorem reassigned_vacant
    (missing : db.assignments.rows.find? (RequestAssignment.isActiveOf number) = none) :
    ¬ Mirrors { request with executorId := some newExecutor }
      (activeOf (applyExecutorReassign db request none newExecutor).assignments number) := by
  change ¬ Mirrors _ (activeOf db.assignments number)
  rw [active_of_find?_none missing]
  exact not_mirrors_nil (by simp)

theorem reassigned_individual (mirrors : Mirrors request (activeOf db.assignments number))
    (found : db.assignments.rows.find? (RequestAssignment.isActiveOf number) = some active)
    (individual : active.assignmentType = .individual) :
    Mirrors { request with executorId := some newExecutor }
      (activeOf (applyExecutorReassign db request (some active) newExecutor).assignments
        number) := by
  have listed := activeRows_of_find? mirrors.single found
  have ungrouped : request.assignedGroup = none := by
    rw [activeOf, listed, List.map_cons, List.map_nil, holding, individual] at mirrors
    exact (mirrors_individual_iff.mp mirrors).2.1
  simp only [applyExecutorReassign, individual, if_true]
  rw [activeOf_reassigned listed, individual]
  exact mirrors_individual_iff.mpr ⟨rfl, ungrouped, by simp⟩

theorem reassigned_group (mirrors : Mirrors request (activeOf db.assignments number))
    (found : db.assignments.rows.find? (RequestAssignment.isActiveOf number) = some active)
    (grouped : active.assignmentType = .group) :
    ¬ Mirrors { request with executorId := some newExecutor }
      (activeOf (applyExecutorReassign db request (some active) newExecutor).assignments
        number) := by
  have listed := activeRows_of_find? mirrors.single found
  have same : (applyExecutorReassign db request (some active) newExecutor).assignments =
      db.assignments := by
    simp [applyExecutorReassign, grouped]
  rw [same, activeOf, listed, List.map_cons, List.map_nil, holding, grouped, mirrors_group_iff]
  intro kept
  cases kept.1

theorem applyExecutorReassign_mirrored_iff (mirrored : MirroredAt db other)
    (stored : db.requests.find? number = some request)
    (numbered : request.requestNumber = number) :
    MirroredAt (applyExecutorReassign db request
        (db.assignments.rows.find? (RequestAssignment.isActiveOf number)) newExecutor) other ↔
      (other = number → ActiveIndividual db number) := by
  refine (mirroredAt_put_iff mirrored stored (applyExecutorReassign_requests _) numbered
    (applyExecutorReassign_others rfl)).trans (imp_congr_right fun same => ?_)
  subst same
  have mirrors := mirrored request stored
  unfold ActiveIndividual
  cases found : db.assignments.rows.find? (RequestAssignment.isActiveOf other) with
  | none => simp [reassigned_vacant found]
  | some active =>
    cases type : active.assignmentType with
    | individual => simp [reassigned_individual mirrors found type, type]
    | group => simp [reassigned_group mirrors found type, type]

end

/-- What is left active beside the cancelled assignment names nobody. -/
def RestUnnamed (db : Database) (assignmentId : Nat) (number : RequestNumber) : Prop :=
  ∀ row ∈ db.assignments.rows, row.isActiveOf number = true → row.id ≠ assignmentId →
    (row.assignmentType = .individual → row.executorId = none) ∧
      (row.assignmentType = .group → row.groupSpecialization = none)

theorem mirrors_released_iff {row : Request} {active : List Holding}
    (executor : row.executorId = none) (group : row.assignedGroup = none)
    (single : active.length ≤ 1) :
    Mirrors row active ↔ row.status ≠ .inProgress ∧ ∀ holding ∈ active,
      (holding.type = .individual → holding.executor = none) ∧
        (holding.type = .group → holding.group = none) := by
  constructor
  · intro mirrors
    refine ⟨fun working => mirrors.working working executor, fun holding member => ⟨?_, ?_⟩⟩
    · intro individual
      exact (mirrors.individual holding member individual).1.symm.trans executor
    · intro grouped
      exact (mirrors.group holding member grouped).2.symm.trans group
  · rintro ⟨idle, unnamed⟩
    constructor
    · exact single
    · intro holding member individual
      exact ⟨executor.trans ((unnamed holding member).1 individual).symm, group⟩
    · intro holding member grouped
      exact ⟨executor, group.trans ((unnamed holding member).2 grouped).symm⟩
    · exact fun _ => ⟨executor, group⟩
    · exact fun working => absurd working idle

theorem holding_markCancelled_iff :
    (∀ held ∈ activeOf (markCancelled db assignmentId).assignments number,
        (held.type = .individual → held.executor = none) ∧ (held.type = .group → held.group = none)) ↔
      RestUnnamed db assignmentId number := by
  rw [activeOf_markCancelled]
  simp only [List.forall_mem_map, List.mem_filter, Bool.and_eq_true, Bool.not_eq_true',
    decide_eq_false_iff_not, and_imp]
  rfl

theorem length_markCancelled {bound : Nat}
    (single : (activeOf db.assignments number).length ≤ bound) :
    (activeOf (markCancelled db assignmentId).assignments number).length ≤ bound := by
  refine le_trans ?_ single
  rw [activeOf_markCancelled, activeOf, List.length_map, List.length_map]
  refine List.Sublist.length_le (List.monotone_filter_right _ fun row both => ?_)
  exact (Bool.and_eq_true_iff.mp both).1

section

variable {cancelledBy : UserId} {answer : Bool}

theorem releaseRequest_assignments : (releaseRequest db number).assignments = db.assignments := by
  unfold releaseRequest
  split
  · rfl
  · rfl

theorem releaseRequest_of_ne (different : other ≠ number) :
    (releaseRequest db number).requests.find? other = db.requests.find? other := by
  unfold releaseRequest
  split
  · rfl
  · next request found =>
      have numbered := (found_of_getRequestByNumber found).2
      exact Table.find?_put_of_ne (numbered.symm ▸ different)

theorem cancelAssignment_mirrored_of_ne (mirrored : MirroredAt db other)
    (located : db.assignments.find? assignmentId = some assignment)
    (different : other ≠ assignment.requestNumber)
    (done : cancelAssignment db assignmentId cancelledBy = .ok (answer, committed)) :
    MirroredAt committed other := by
  simp only [cancelAssignment, located] at done
  cases done
  have identified : assignment.id = assignmentId := Table.key_of_find? located
  subst identified
  refine mirroredAt_of_same mirrored (releaseRequest_of_ne different) ?_
  change rowsOf (releaseRequest _ _).assignments other = _
  rw [releaseRequest_assignments]
  exact rowsOf_markCancelled_of_ne (Table.mem_of_find? located) different

theorem cancelAssignment_mirrored_iff (mirrored : MirroredAt db assignment.requestNumber)
    (located : db.assignments.find? assignmentId = some assignment)
    (nonempty : assignment.requestNumber ≠ "")
    (done : cancelAssignment db assignmentId cancelledBy = .ok (answer, committed)) :
    MirroredAt committed assignment.requestNumber ↔
      ∀ row, db.requests.find? assignment.requestNumber = some row →
        row.status ≠ .inProgress ∧
          RestUnnamed db assignmentId assignment.requestNumber := by
  simp only [cancelAssignment, located] at done
  cases done
  have identified : assignment.id = assignmentId := Table.key_of_find? located
  subst identified
  have fixed : getRequestByNumber (markCancelled db assignment.id) assignment.requestNumber =
      db.requests.find? assignment.requestNumber := if_neg nonempty
  rw [releaseRequest, fixed]
  cases found : db.requests.find? assignment.requestNumber with
  | none =>
    refine iff_of_true ?_ (fun row stored => by cases stored)
    intro row at_
    cases found.symm.trans at_
  | some request =>
    have numbered : request.requestNumber = assignment.requestNumber := Table.key_of_find? found
    refine Iff.trans (mirroredAt_put_iff mirrored found rfl numbered
      (fun different => absurd rfl different)) ?_
    refine Iff.trans (forall_prop_of_true rfl) ?_
    refine Iff.trans (mirrors_released_iff rfl rfl
      (length_markCancelled (mirrored request found).single)) ?_
    change _ ∧ (∀ held ∈ activeOf (markCancelled db assignment.id).assignments _, _) ↔ _
    rw [holding_markCancelled_iff]
    constructor
    · intro released row stored
      cases stored
      exact released
    · intro kept
      exact kept request rfl

end

theorem reassignExecutor_mirrored_iff (mirrored : MirroredAt db other) :
    MirroredAt (reassignExecutor db number newExecutor).2 other ↔
      (other = number →
        ∀ row, getRequestByNumber db number = some row → ActiveIndividual db number) := by
  unfold reassignExecutor
  cases found : getRequestByNumber db number with
  | none => simp [mirrored]
  | some request =>
    obtain ⟨stored, numbered⟩ := found_of_getRequestByNumber found
    refine (applyExecutorReassign_mirrored_iff mirrored stored numbered).trans ?_
    simp

theorem reassignExecutor_of_not_individual {request : Request}
    (found : getRequestByNumber db number = some request) (other : ¬ ActiveIndividual db number) :
    (reassignExecutor db number newExecutor).2 =
      { db with requests := db.requests.put { request with executorId := some newExecutor } } := by
  unfold reassignExecutor applyExecutorReassign
  rw [found]
  dsimp only
  cases active : db.assignments.rows.find? (RequestAssignment.isActiveOf number) with
  | none => rfl
  | some assignment =>
    have grouped : assignment.assignmentType ≠ .individual := fun individual =>
      other ⟨assignment, active, individual⟩
    simp [grouped]

end

/-- What an operation that does not raise makes of the mirror of a request. -/
def Kept (db committed : Database) (number : RequestNumber) : Operation → Prop
  | .assignToGroup _ _ _ => MirroredAt committed number
  | .assignToExecutor assigned _ _ =>
    (number = assigned → ∀ row, db.requests.find? assigned = some row → row.assignedGroup = none) →
    MirroredAt committed number
  | .cancelAssignment assignmentId _ =>
    (∀ assignment, db.assignments.find? assignmentId = some assignment →
      number = assignment.requestNumber → number ≠ "" ∧
      ∀ row, db.requests.find? number = some row →
        row.status ≠ .inProgress ∧ RestUnnamed db assignmentId number) →
    MirroredAt committed number
  | .reassignExecutor reassigned newExecutor =>
    (MirroredAt committed number ↔ (number = reassigned →
      ∀ row, getRequestByNumber db reassigned = some row → ActiveIndividual db reassigned)) ∧
    ∀ row, getRequestByNumber db reassigned = some row → ¬ ActiveIndividual db reassigned →
      committed = { db with requests := db.requests.put { row with executorId := some newExecutor } }

theorem perform_kept (directory : Directory) {db committed : Database} (operation : Operation)
    {number : RequestNumber} (mirrored : MirroredAt db number)
    (done : perform directory db operation = .ok committed) :
    Kept db committed number operation := by
  cases operation with
  | assignToGroup assigned specialization assignedBy =>
    obtain ⟨⟨assignment, written⟩, assigned, rfl⟩ := map_eq_ok_iff.mp done
    exact assignToGroup_mirrored mirrored assigned
  | assignToExecutor assigned executor assignedBy =>
    obtain ⟨⟨assignment, written⟩, assigned, rfl⟩ := map_eq_ok_iff.mp done
    exact (assignToExecutor_mirrored_iff mirrored assigned).mpr
  | cancelAssignment assignmentId cancelledBy =>
    obtain ⟨⟨answer, written⟩, cancelled, rfl⟩ := map_eq_ok_iff.mp done
    intro kept
    cases located : db.assignments.find? assignmentId with
    | none => simp [cancelAssignment, located] at cancelled
    | some assignment =>
      by_cases concerned : number = assignment.requestNumber
      · obtain ⟨nonempty, released⟩ := kept assignment located concerned
        subst concerned
        exact (cancelAssignment_mirrored_iff mirrored located nonempty cancelled).mpr
          released
      · exact cancelAssignment_mirrored_of_ne mirrored located concerned cancelled
  | reassignExecutor reassigned newExecutor =>
    cases done
    exact ⟨reassignExecutor_mirrored_iff mirrored,
      fun row found other => reassignExecutor_of_not_individual found other⟩

def sampleAssigned (row : Request) (assignment : Option RequestAssignment) : Database :=
  { Database.ofRequest row with assignments := ⟨assignment.toList, by cases assignment <;> simp⟩ }

def sampleOffered : Database :=
  sampleAssigned
    { sampleRequest .resident with assignmentType := some .group, assignedGroup := some "plumber" }
    (some ⟨1, "250101-001", .group, some "plumber", none, .active, 1⟩)

def sampleWorking : Database :=
  sampleAssigned
    { sampleRequest .resident with
      status := .inProgress, executorId := some 2, assignmentType := some .individual }
    (some ⟨1, "250101-001", .individual, none, some 2, .active, 1⟩)

theorem sampleOffered_mirrored : MirroredAt sampleOffered "250101-001" := by
  intro row at_
  cases at_
  exact mirrors_group_iff.mpr ⟨rfl, rfl, by decide⟩

theorem sampleWorking_mirrored : MirroredAt sampleWorking "250101-001" := by
  intro row at_
  cases at_
  exact mirrors_individual_iff.mpr ⟨rfl, rfl, by decide⟩

/-- A reassignment gives a request offered to a group an executor beside the group; an
assignment leaves it the group; and a cancellation leaves one at work without anybody. -/
theorem mirror_broken :
    (MirroredAt sampleOffered "250101-001" ∧
      ∃ committed, perform sampleDirectory sampleOffered (.reassignExecutor "250101-001" 2) =
        .ok committed ∧ ¬ MirroredAt committed "250101-001") ∧
    (MirroredAt sampleOffered "250101-001" ∧
      ∃ committed, perform sampleDirectory sampleOffered (.assignToExecutor "250101-001" 2 1) =
        .ok committed ∧ ¬ MirroredAt committed "250101-001") ∧
    (MirroredAt sampleWorking "250101-001" ∧
      ∃ committed, perform sampleDirectory sampleWorking (.cancelAssignment 1 1) =
        .ok committed ∧ ¬ MirroredAt committed "250101-001") := by
  refine ⟨⟨sampleOffered_mirrored, _, rfl, ?_⟩, ⟨sampleOffered_mirrored, _, rfl, ?_⟩,
    ⟨sampleWorking_mirrored, _, rfl, ?_⟩⟩
  · intro mirrored
    have beside := (mirrored _ rfl).group ⟨.group, none, some "plumber"⟩ (by decide) rfl
    cases beside.1
  · intro mirrored
    have stale := (mirrored _ rfl).individual ⟨.individual, some 2, none⟩ (by decide) rfl
    cases stale.2
  · intro mirrored
    exact (mirrored _ rfl).working rfl rfl

theorem perform_kept_after_reassign :
    ∃ committed, perform sampleDirectory sampleWorking (.reassignExecutor "250101-001" 1) =
      .ok committed ∧
      Kept sampleWorking committed "250101-001" (.reassignExecutor "250101-001" 1) :=
  ⟨_, rfl, perform_kept sampleDirectory _ sampleWorking_mirrored rfl⟩

end InfrasafeBot.AssignmentService
