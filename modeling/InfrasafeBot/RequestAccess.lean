import InfrasafeBot.WorkflowRunner

/-! Who may see a request: the canon over ready facts (`utils/request_access.py`)
and the collector that asks the tables only for the facts it still needs
(`services/request_access.py`). Sets are lists; only membership matters. -/

set_option autoImplicit false

namespace InfrasafeBot.RequestAccess

open RequestWorkflow Specializations WorkflowRunner

inductive AccessRule where
  | manager
  | owner
  | executorDirect
  | executorIndividualAssignment
  | executorGroupAssignmentOnShift
  | apartmentResidentOnAccepted
  deriving DecidableEq

def accessRules : List AccessRule :=
  [.manager, .owner, .executorDirect, .executorIndividualAssignment,
    .executorGroupAssignmentOnShift, .apartmentResidentOnAccepted]

def residentAccessStatus : String := "Исполнено"

structure RequestAccessFacts where
  roles : List String
  userId : UserId
  requestOwnerId : Option UserId
  requestExecutorId : Option UserId
  requestStatus : String
  requestApartmentId : Option ApartmentId
  hasIndividualAssignment : Bool
  groupSpecializations : List String
  userSpecializations : List String
  hasActiveShift : Bool
  isApprovedResident : Bool

def intersects (left right : List String) : Bool := left.any right.contains

def accessReason (facts : RequestAccessFacts) : Option AccessRule :=
  let resident :=
    if facts.requestApartmentId.isSome && facts.requestStatus = residentAccessStatus &&
        facts.isApprovedResident then
      some .apartmentResidentOnAccepted
    else none
  if facts.roles.contains roleManager then some .manager
  else if facts.requestOwnerId = some facts.userId then some .owner
  else if facts.roles.contains roleExecutor then
    if facts.requestExecutorId = some facts.userId then some .executorDirect
    else if facts.hasIndividualAssignment then some .executorIndividualAssignment
    else if facts.hasActiveShift && !facts.groupSpecializations.isEmpty &&
        intersects facts.groupSpecializations facts.userSpecializations then
      some .executorGroupAssignmentOnShift
    else resident
  else resident

def hasRequestAccess (facts : RequestAccessFacts) : Bool := (accessReason facts).isSome

def fires (facts : RequestAccessFacts) : AccessRule → Bool
  | .manager => facts.roles.contains roleManager
  | .owner => facts.requestOwnerId = some facts.userId
  | .executorDirect => facts.roles.contains roleExecutor && facts.requestExecutorId = some facts.userId
  | .executorIndividualAssignment => facts.roles.contains roleExecutor && facts.hasIndividualAssignment
  | .executorGroupAssignmentOnShift =>
    facts.roles.contains roleExecutor && facts.hasActiveShift &&
      intersects facts.groupSpecializations facts.userSpecializations
  | .apartmentResidentOnAccepted =>
    facts.requestApartmentId.isSome && facts.requestStatus = residentAccessStatus &&
      facts.isApprovedResident

theorem intersects_iff {left right : List String} :
    intersects left right = true ↔ ∃ name ∈ left, name ∈ right := by
  simp [intersects]

theorem isEmpty_eq_false_of_intersects {left right : List String}
    (meets : intersects left right = true) : left.isEmpty = false := by
  obtain ⟨name, member, _⟩ := intersects_iff.mp meets
  exact List.isEmpty_eq_false_iff.mpr (List.ne_nil_of_mem member)

theorem accessReason_eq_find? (facts : RequestAccessFacts) :
    accessReason facts = accessRules.find? (fires facts) := by
  have filled : (!facts.groupSpecializations.isEmpty &&
      intersects facts.groupSpecializations facts.userSpecializations) =
        intersects facts.groupSpecializations facts.userSpecializations := by
    cases meets : intersects facts.groupSpecializations facts.userSpecializations with
    | false => simp
    | true => simp [isEmpty_eq_false_of_intersects meets]
  unfold accessReason accessRules
  simp only [List.find?_cons, List.find?_nil, fires, Bool.and_assoc, filled]
  by_cases manager : roleManager ∈ facts.roles
  · simp [manager]
  by_cases owner : facts.requestOwnerId = some facts.userId
  · simp [manager, owner]
  by_cases executor : roleExecutor ∈ facts.roles
  · by_cases direct : facts.requestExecutorId = some facts.userId
    · simp [manager, owner, executor, direct]
    · cases individual : facts.hasIndividualAssignment with
      | true => simp [manager, owner, executor, direct]
      | false => grind
  · grind

def baseFacts (user : User) (request : Request) : RequestAccessFacts where
  roles := parseRolesSafe user.roles
  userId := user.id
  requestOwnerId := some request.userId
  requestExecutorId := request.executorId
  requestStatus := request.status.text
  requestApartmentId := request.apartmentId
  hasIndividualAssignment := false
  groupSpecializations := []
  userSpecializations := parseSpecializations user.specialization
  hasActiveShift := false
  isApprovedResident := false

def tableFacts (user : User) (request : Request) (individual : Bool) (groups : List String)
    (shift resident : Bool) : RequestAccessFacts :=
  { baseFacts user request with
    hasIndividualAssignment := individual
    groupSpecializations := groups
    hasActiveShift := shift
    isApprovedResident := resident }

structure Answers where
  individual : Bool
  groups : List String
  shift : Bool
  resident : Bool

def queryIndividual (db : Database) (user : User) (request : Request) : Bool :=
  db.assignments.rows.any fun row =>
    row.requestNumber = request.requestNumber && row.executorId = some user.id && row.status = .active

def queryGroups (db : Database) (request : Request) : List String :=
  (db.assignments.rows.filter fun row =>
    row.requestNumber = request.requestNumber && row.assignmentType = .group &&
      row.status = .active).filterMap fun row =>
    row.groupSpecialization.filter fun group => group ≠ ""

def queryShift (directory : Directory) (user : User) : Bool :=
  directory.shifts.any fun shift => shift.userId = user.id && shift.status = "active"

def queryResident (directory : Directory) (user : User) (request : Request) : Bool :=
  directory.userApartments.any fun row =>
    row.userId = user.id && some row.apartmentId = request.apartmentId && row.status = "approved"

def answers (db : Database) (directory : Directory) (user : User) (request : Request) : Answers where
  individual := queryIndividual db user request
  groups := queryGroups db request
  shift := queryShift directory user
  resident := queryResident directory user request

/-- The canon over every fact of the tables, asked for or not. -/
def eagerReason (db : Database) (directory : Directory) (user : User) (request : Request) :
    Option AccessRule :=
  let asked := answers db directory user request
  accessReason (tableFacts user request asked.individual asked.groups asked.shift asked.resident)

def needsGroupLookup (facts : RequestAccessFacts) : Bool := facts.roles.contains roleExecutor

def needsResidentLookup (facts : RequestAccessFacts) : Bool :=
  facts.requestApartmentId.isSome && facts.requestStatus = residentAccessStatus

/-- The collector of either side. A query that is skipped leaves its default. -/
def requestAccessReason (asked : Answers) (user : User) (request : Request) : Option AccessRule :=
  let cheap := baseFacts user request
  match accessReason cheap with
  | some rule => some rule
  | none =>
    let individual := if needsGroupLookup cheap then asked.individual else false
    let groups :=
      if needsGroupLookup cheap && !individual && !cheap.userSpecializations.isEmpty then asked.groups
      else []
    let shift :=
      if intersects groups cheap.userSpecializations then asked.shift else false
    let resident := if needsResidentLookup cheap then asked.resident else false
    accessReason (tableFacts user request individual groups shift resident)

def requestAccessReasonSync (db : Database) (directory : Directory) (user : User)
    (request : Request) : Option AccessRule :=
  requestAccessReason (answers db directory user request) user request

def requestAccessReasonAsync (db : Database) (directory : Directory) (user : User)
    (request : Request) : Option AccessRule :=
  requestAccessReason (answers db directory user request) user request

section

variable {user : User} {request : Request} {asked : Answers}

theorem accessReason_of_cheap {rule : AccessRule}
    (cheap : accessReason (baseFacts user request) = some rule) :
    accessReason (tableFacts user request asked.individual asked.groups asked.shift
      asked.resident) = some rule := by
  unfold accessReason baseFacts at cheap
  unfold accessReason tableFacts baseFacts
  grind

variable {individual shift resident : Bool} {groups : List String}

theorem reason_of_not_executor (outside : roleExecutor ∉ parseRolesSafe user.roles) :
    accessReason (tableFacts user request individual groups shift resident) =
      accessReason (tableFacts user request false [] false resident) := by
  unfold accessReason tableFacts baseFacts
  simp [outside]

theorem reason_of_individual :
    accessReason (tableFacts user request true groups shift resident) =
      accessReason (tableFacts user request true [] false resident) := by
  unfold accessReason tableFacts baseFacts
  simp

theorem reason_of_disjoint
    (apart : intersects groups (parseSpecializations user.specialization) = false) :
    accessReason (tableFacts user request individual groups shift resident) =
      accessReason (tableFacts user request individual [] false resident) := by
  unfold accessReason tableFacts baseFacts
  simp [apart]

theorem reason_of_no_resident
    (unneeded : needsResidentLookup (baseFacts user request) = false) :
    accessReason (tableFacts user request individual groups shift resident) =
      accessReason (tableFacts user request individual groups shift false) := by
  have never : (request.apartmentId.isSome &&
      decide (request.status.text = residentAccessStatus)) = false := unneeded
  unfold accessReason tableFacts baseFacts
  simp only [never, Bool.false_and]

theorem reason_of_resident :
    accessReason (tableFacts user request individual groups shift
      (if needsResidentLookup (baseFacts user request) then resident else false)) =
    accessReason (tableFacts user request individual groups shift resident) := by
  cases needed : needsResidentLookup (baseFacts user request) with
  | true => rw [if_pos rfl]
  | false =>
    rw [if_neg Bool.false_ne_true]
    exact (reason_of_no_resident needed).symm

theorem reason_of_groups :
    let skills := parseSpecializations user.specialization
    let read := if !individual && !skills.isEmpty then groups else []
    accessReason (tableFacts user request individual read
      (if intersects read skills then shift else false) resident) =
    accessReason (tableFacts user request individual groups shift resident) := by
  intro skills read
  cases individual with
  | true => exact reason_of_individual.trans reason_of_individual.symm
  | false =>
    cases apart : intersects groups skills with
    | false =>
      have unread : intersects read skills = false := by
        change intersects (if !false && !skills.isEmpty then groups else []) skills = false
        split
        · exact apart
        · rfl
      rw [reason_of_disjoint unread, reason_of_disjoint apart]
    | true =>
      have skilled : skills.isEmpty = false := by
        obtain ⟨name, _, member⟩ := intersects_iff.mp apart
        exact List.isEmpty_eq_false_iff.mpr (List.ne_nil_of_mem member)
      have same : read = groups := by
        change (if !false && !skills.isEmpty then groups else []) = groups
        rw [skilled]
        rfl
      rw [same, if_pos apart]

theorem requestAccessReason_eq :
    requestAccessReason asked user request =
      accessReason (tableFacts user request asked.individual asked.groups asked.shift
        asked.resident) := by
  simp only [requestAccessReason]
  cases cheap : accessReason (baseFacts user request) with
  | some rule => exact (accessReason_of_cheap cheap).symm
  | none =>
    by_cases executor : roleExecutor ∈ parseRolesSafe user.roles
    · have needed : needsGroupLookup (baseFacts user request) = true := List.contains_iff_mem.mpr executor
      simp only [needed, if_true, Bool.true_and]
      rw [reason_of_resident]
      exact reason_of_groups
    · have unneeded : needsGroupLookup (baseFacts user request) = false := by
        simpa [needsGroupLookup, baseFacts] using executor
      simp only [unneeded, Bool.false_and, Bool.false_eq_true, if_false]
      rw [reason_of_resident, reason_of_not_executor executor]
      exact (reason_of_not_executor executor).symm

end

/-- On both sides the lazy collector names the rule the canon names over every
fact of the tables. -/
theorem lazy_eq_eager (db : Database) (directory : Directory) (user : User)
    (request : Request) :
    requestAccessReasonSync db directory user request = eagerReason db directory user request ∧
      requestAccessReasonAsync db directory user request =
        eagerReason db directory user request :=
  ⟨requestAccessReason_eq, requestAccessReason_eq⟩

end InfrasafeBot.RequestAccess
