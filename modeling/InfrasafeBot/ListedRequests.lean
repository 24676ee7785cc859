import InfrasafeBot.GroupReach

/-! The list of requests (`list_requests_rows` of `api/requests/service.py`) against the card: the
list has the rule of the executor in a query of its own, with a parser of its own. -/

set_option autoImplicit false

namespace InfrasafeBot.RequestAccess

open Library RequestWorkflow Specializations WorkflowRunner GroupReach

/-- `_parse_user_roles`: without stored roles the active one counts. -/
def parseUserRoles (user : User) : List String :=
  let roles := parseRolesSafe user.roles
  if roles.isEmpty then (user.activeRole.filter fun role => role ≠ "").toList else roles

/-- The `specs` of the list: the elements of a JSON list as they are, or the text as a whole. -/
def listSpecs (specialization : Option String) : List Json :=
  match specialization with
  | none => []
  | some raw =>
    if raw.toList.head? = some '[' then
      match Json.loads raw with
      | some (.array items) => items
      | _ => [.string raw]
    else if raw = "" then [] else [.string raw]

/-- What the driver takes for a value of a text column. -/
def bindable : Json → Bool
  | .string _ => true
  | .null => true
  | _ => false

variable (db : Database) (directory : Directory) (user : User)

/-- An active group assignment whose stored group is one of the `specs`. -/
def offeredToSpecs (row : Request) : Bool :=
  db.assignments.rows.any fun assignment =>
    assignment.requestNumber = row.requestNumber && assignment.assignmentType = .group &&
      assignment.status = .active && assignment.groupSpecialization.any fun group =>
        (listSpecs user.specialization).any fun
          | .string text => text = group
          | _ => false

def listedToExecutor (row : Request) : Bool :=
  queryIndividual db user row || (queryShift directory user && offeredToSpecs db user row) ||
    row.executorId = some user.id

/-- The rows of the query without filters and paging; `none` where the driver refuses a value. -/
def listRequestsRows : Option (List Request) :=
  let roles := parseUserRoles user
  if roles.contains roleManager then some db.requests.rows
  else if roles.contains roleExecutor then
    if queryShift directory user && !(listSpecs user.specialization).all bindable then none
    else some (db.requests.rows.filter (listedToExecutor db directory user))
  else some (db.requests.rows.filter fun row => row.userId = user.id)

def executorRules : List AccessRule :=
  [.executorDirect, .executorIndividualAssignment, .executorGroupAssignmentOnShift]

/-- The card is opened by an executor's rule, or would be if the request were somebody else's. -/
def OpensAsExecutor (row : Request) : Prop :=
  ∃ owner, ∃ rule ∈ executorRules,
    requestAccessReasonAsync db directory user { row with userId := owner } = some rule

/-- The list has the requests that the card opens to the executor, and the card opens them all. -/
def ListAgrees : Prop :=
  ∃ rows, listRequestsRows db directory user = some rows ∧ ∀ row ∈ db.requests.rows,
    (row ∈ rows ↔ OpensAsExecutor db directory user row) ∧
      (row ∈ rows → (requestAccessReasonAsync db directory user row).isSome = true)

/-- The elements of the stored list and the parsed specializations meet the groups of the request
alike, where that decides; a role that is only active opens no card. -/
def SpecsAgree (row : Request) : Prop :=
  if roleExecutor ∈ parseRolesSafe user.roles then
    queryIndividual db user row = true ∨ row.executorId = some user.id ∨
      queryShift directory user = false ∨
      (offeredToSpecs db user row = true ↔
        intersects (queryGroups db row) (parseSpecializations user.specialization) = true)
  else listedToExecutor db directory user row = false

instance (row : Request) : Decidable (SpecsAgree db directory user row) := by
  unfold SpecsAgree
  infer_instance

variable {db directory user} {row : Request}

theorem reason_eq_find? (row : Request) : requestAccessReasonAsync db directory user row =
    accessRules.find? (fires (tableFacts user row (queryIndividual db user row) (queryGroups db row)
      (queryShift directory user) (queryResident directory user row))) :=
  requestAccessReason_eq.trans (accessReason_eq_find? _)

theorem executor_opens (plain : roleManager ∉ parseRolesSafe user.roles)
    (executor : roleExecutor ∈ parseRolesSafe user.roles) (stranger : row.userId ≠ user.id)
    (way : queryIndividual db user row = true ∨ row.executorId = some user.id ∨
      queryShift directory user = true ∧
        intersects (queryGroups db row) (parseSpecializations user.specialization) = true) :
    ∃ rule ∈ executorRules, requestAccessReasonAsync db directory user row = some rule := by
  rw [reason_eq_find?]
  simp only [accessRules, List.find?_cons, fires, tableFacts, baseFacts]
  by_cases direct : row.executorId = some user.id
  · exact ⟨.executorDirect, by decide, by simp [plain, stranger, executor, direct]⟩
  by_cases held : queryIndividual db user row = true
  · exact ⟨.executorIndividualAssignment, by decide, by simp [plain, stranger, executor, direct, held]⟩
  have grouped := (way.resolve_left held).resolve_left direct
  exact ⟨.executorGroupAssignmentOnShift, by decide,
    by simp [plain, stranger, executor, direct, held, grouped]⟩

/-- What the rules of the executor come down to, the request being somebody else's. -/
theorem opensAsExecutor_iff (plain : roleManager ∉ parseRolesSafe user.roles) :
    OpensAsExecutor db directory user row ↔ roleExecutor ∈ parseRolesSafe user.roles ∧
      (queryIndividual db user row = true ∨ row.executorId = some user.id ∨
        queryShift directory user = true ∧
          intersects (queryGroups db row) (parseSpecializations user.specialization) = true) := by
  constructor
  · rintro ⟨owner, rule, listed, found⟩
    rw [reason_eq_find?] at found
    have fired := List.find?_some found
    simp only [executorRules, List.mem_cons, List.not_mem_nil, or_false] at listed
    rcases listed with rfl | rfl | rfl <;>
      simp only [fires, tableFacts, baseFacts, Bool.and_eq_true, List.contains_iff_mem]
        at fired
    · exact ⟨fired.1, .inr (.inl (of_decide_eq_true fired.2))⟩
    · exact ⟨fired.1, .inl fired.2⟩
    · exact ⟨fired.1.1, .inr (.inr ⟨fired.1.2, fired.2⟩)⟩
  · rintro ⟨executor, way⟩
    exact ⟨user.id + 1, @executor_opens db directory user { row with userId := user.id + 1 }
      plain executor (Int.lt_add_one_of_le le_rfl).ne' way⟩

theorem opens_of_executor (opens : OpensAsExecutor db directory user row) :
    (requestAccessReasonAsync db directory user row).isSome = true := by
  obtain ⟨owner, rule, listed, found⟩ := opens
  rw [reason_eq_find?] at found ⊢
  have fired := List.find?_some found
  rw [List.find?_isSome]
  refine ⟨rule, List.mem_of_find?_eq_some found, ?_⟩
  simp only [executorRules, List.mem_cons, List.not_mem_nil, or_false] at listed
  rcases listed with rfl | rfl | rfl <;> exact fired

end InfrasafeBot.RequestAccess
