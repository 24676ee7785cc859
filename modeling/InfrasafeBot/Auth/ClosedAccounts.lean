import InfrasafeBot.Auth.UserAccounts

/-! Blocked and deleted accounts: which calls take an account out of a closed status, and what a
whole history leaves of it. -/

set_option autoImplicit false

namespace InfrasafeBot.Auth.UserAccounts

open Library Library.Machine

def Accounts.statusOf (accounts : Accounts) (id : AccountId) : Option String :=
  (accounts.users.find? id).map fun user => user.status

/-- Whatever is called, a deleted account stays deleted, and a blocked one stays blocked until
`unblock_user` is called for it. -/
def StaysClosed (settings : Settings) (start : Accounts) (attempts : List Attempt) : Prop :=
  ∀ before during after, attempts = before ++ (during ++ after) → ∀ id,
    let earlier := run (Accounts.next settings) start before
    let later := run (Accounts.next settings) earlier during
    (earlier.statusOf id = some "deleted" → later.statusOf id = some "deleted") ∧
    (earlier.statusOf id = some "blocked" →
      (∀ attempt ∈ during, attempt.operation ≠ .unblockUser id) →
      later.statusOf id = some "blocked")

def Closed (status : String) : Prop := status = "blocked" ∨ status = "deleted"

instance (status : String) : Decidable (Closed status) := inferInstanceAs (Decidable (_ ∨ _))

/-- The statuses a call that goes through leaves closed where they were. -/
def Operation.Spares (settings : Settings) (operation : Operation) (status : String) : Prop :=
  match operation with
  | .processInviteJoin _ _
  | .approveUser _
  | .activateEmployee _ => ¬ Closed status
  | .autoApproveUser _ role => role ∈ userRoles → ¬ Closed status
  | .makeAdminByPassword _ password => password = settings.adminPassword → ¬ Closed status
  | .blockUser _
  | .declineEmployee _ => status ≠ "deleted"
  | .softDeleteEmployee _ => status ≠ "blocked"
  | _ => True

/-- The user a call addresses, if it commits, has a status the call spares. -/
def SparesAddressed (settings : Settings) (accounts : Accounts) (attempt : Attempt) : Prop :=
  ∀ user ∈ accounts.users.rows, attempt.commits = true →
    attempt.operation.addresses user = true →
    attempt.operation.Spares settings user.status

variable {id : AccountId}

section

variable (settings : Settings)

def Operation.statusAfter (operation : Operation) (status : String) : String :=
  match operation with
  | .processInviteJoin _ _ => "pending"
  | .autoApproveUser _ role => if role ∈ userRoles then "approved" else status
  | .approveUser _
  | .activateEmployee _ => "approved"
  | .blockUser _
  | .declineEmployee _ => "blocked"
  | .unblockUser _ => if status = "blocked" then "approved" else status
  | .makeAdminByPassword _ password =>
    if password = settings.adminPassword then "approved" else status
  | .softDeleteEmployee _ => "deleted"
  | _ => status

@[simp] theorem Account.enforce_status (account : Account) (roles : List String) :
    (account.enforceTrustedVerification roles).status = account.status := by
  unfold enforceTrustedVerification
  split <;> rfl

@[simp] theorem Account.enforce_roles (account : Account) (roles : List String) :
    (account.enforceTrustedVerification roles).roles = account.roles := by
  unfold enforceTrustedVerification
  split <;> rfl

theorem result_status (operation : Operation) (account : Account) :
    ((operation.result settings account).getD account).status =
      operation.statusAfter settings account.status := by
  cases operation with
  | getOrCreateUser | processInviteJoin | activateEmployee | declineEmployee | softDeleteEmployee => rfl
  | autoApproveUser telegramId role =>
    simp only [Operation.result, Account.autoApproveUser, Operation.statusAfter, List.contains_iff_mem]
    split <;> rfl
  | approveUser id =>
    simp only [Operation.result, Account.approveUser, Operation.statusAfter]
    split
    · assumption
    · rfl
  | blockUser id =>
    simp only [Operation.result, Account.blockUser, Operation.statusAfter]
    split
    · assumption
    · rfl
  | unblockUser id =>
    simp only [Operation.result, Account.unblockUser, Operation.statusAfter]
    split <;> rfl
  | assignRole id role =>
    simp only [Operation.result, Account.assignRole, Operation.statusAfter]
    split
    · rfl
    · exact Account.enforce_status _ _
  | removeRole id role =>
    simp only [Operation.result, Account.removeRole, Operation.statusAfter]
    split <;> rfl
  | setActiveRole telegramId role =>
    simp only [Operation.result, Account.setActiveRole, Operation.statusAfter]
    split <;> split <;> rfl
  | makeAdminByPassword telegramId password =>
    simp only [Operation.result, Operation.statusAfter]
    split
    · rw [Option.getD_some, Account.makeAdmin, Account.enforce_status]
    · rfl
  | setMeterEntryRole id enabled =>
    simp only [Operation.result, Account.setMeterEntryRole, Operation.statusAfter]
    split
    · rfl
    · split <;> rfl

theorem applied_of_addressed {attempt : Attempt} {user : User} (commits : attempt.commits = true)
    (addressed : attempt.operation.addresses user = true) :
    (attempt.applied settings user).toAccount =
      (attempt.operation.result settings user.toAccount).getD user.toAccount := by
  rw [Attempt.applied, if_pos (by rw [commits, addressed]; rfl)]
  split
  · next account result => rw [result, Option.getD_some]
  · next result => rw [result, Option.getD_none]

theorem applied_of_not {attempt : Attempt} {user : User}
    (idle : ¬ (attempt.commits = true ∧ attempt.operation.addresses user = true)) :
    attempt.applied settings user = user := by
  rw [Attempt.applied, if_neg (by rwa [Bool.and_eq_true])]

theorem keeps_closed_iff (attempt : Attempt) (user : User) :
    ((user.status = "deleted" → (attempt.applied settings user).status = "deleted") ∧
      (user.status = "blocked" → attempt.operation ≠ .unblockUser user.id →
        (attempt.applied settings user).status = "blocked")) ↔
      (attempt.commits = true → attempt.operation.addresses user = true →
        attempt.operation.Spares settings user.status) := by
  by_cases reached : attempt.commits = true ∧ attempt.operation.addresses user = true
  · obtain ⟨commits, addressed⟩ := reached
    rw [applied_of_addressed settings commits addressed, result_status]
    simp only [commits, addressed, true_imp_iff]
    cases called : attempt.operation with
    | unblockUser id =>
      have same : user.id = id := by simpa [called, Operation.addresses] using addressed
      simp +contextual [Operation.statusAfter, Operation.Spares, same]
    | autoApproveUser telegramId role =>
      by_cases known : role ∈ userRoles
      · simp [Operation.statusAfter, Operation.Spares, Closed, known, and_comm]
      · simp +contextual [Operation.statusAfter, Operation.Spares, known]
    | makeAdminByPassword telegramId password =>
      by_cases right : password = settings.adminPassword
      · simp [Operation.statusAfter, Operation.Spares, Closed, right, and_comm]
      · simp +contextual [Operation.statusAfter, Operation.Spares, right]
    | _ => simp +contextual [Operation.statusAfter, Operation.Spares, Closed, and_comm]
  · rw [applied_of_not settings reached]
    exact ⟨fun _ commits addressed => absurd ⟨commits, addressed⟩ reached,
      fun _ => ⟨id, fun blocked _ => blocked⟩⟩

theorem find?_opened {accounts : Accounts} {id : AccountId} {user : User} (attempt : Attempt)
    (found : accounts.users.find? id = some user) :
    (accounts.opened attempt).users.find? id = some user := by
  unfold Accounts.opened
  split
  · split
    · unfold Accounts.getOrCreateUser
      split
      · rw [Table.find?_insert, found, Option.some_or]
      · exact found
    · exact found
  · exact found

theorem find?_next {accounts : Accounts} {id : AccountId} {user : User} (attempt : Attempt)
    (found : accounts.users.find? id = some user) :
    (accounts.next settings attempt).users.find? id = some (attempt.applied settings user) := by
  rw [Accounts.next, Table.find?_update, find?_opened attempt found, Option.map_some, if_pos rfl]

theorem statusOf_eq_some {accounts : Accounts} {id : AccountId} {status : String} :
    accounts.statusOf id = some status ↔
      ∃ user, accounts.users.find? id = some user ∧ user.status = status :=
  Option.map_eq_some_iff

variable {settings} {accounts : Accounts} {attempt : Attempt}

theorem stays_deleted (spared : SparesAddressed settings accounts attempt)
    (deleted : accounts.statusOf id = some "deleted") :
    (accounts.next settings attempt).statusOf id = some "deleted" := by
  obtain ⟨user, found, closed⟩ := statusOf_eq_some.mp deleted
  have kept := (keeps_closed_iff settings attempt user).mpr (spared user (Table.mem_of_find? found))
  exact statusOf_eq_some.mpr ⟨_, find?_next settings attempt found, kept.1 closed⟩

theorem stays_blocked (spared : SparesAddressed settings accounts attempt)
    (explicit : attempt.operation ≠ .unblockUser id)
    (blocked : accounts.statusOf id = some "blocked") :
    (accounts.next settings attempt).statusOf id = some "blocked" := by
  obtain ⟨user, found, closed⟩ := statusOf_eq_some.mp blocked
  obtain rfl : user.id = id := Table.key_of_find? found
  have kept := (keeps_closed_iff settings attempt user).mpr (spared user (Table.mem_of_find? found))
  exact statusOf_eq_some.mpr ⟨_, find?_next settings attempt found, kept.2 closed explicit⟩

end

section

variable {settings : Settings} {start : Accounts} {attempts : List Attempt}

theorem deleted_run
    (spared : Obeys (Accounts.next settings) (SparesAddressed settings) start attempts)
    (deleted : start.statusOf id = some "deleted") :
    (run (Accounts.next settings) start attempts).statusOf id = some "deleted" :=
  run_invariant_of_obeys _ (fun accounts => accounts.statusOf id = some "deleted") deleted
    (fun _ _ allowed held => stays_deleted allowed held) spared

theorem blocked_run
    (spared : Obeys (Accounts.next settings) (SparesAddressed settings) start attempts)
    (explicit : ∀ attempt ∈ attempts, attempt.operation ≠ .unblockUser id)
    (blocked : start.statusOf id = some "blocked") :
    (run (Accounts.next settings) start attempts).statusOf id = some "blocked" := by
  have both : Obeys (Accounts.next settings) (fun accounts attempt =>
      SparesAddressed settings accounts attempt ∧ attempt.operation ≠ .unblockUser id)
      start attempts :=
    fun taken listed => ⟨spared taken listed, explicit _ (mem_of_mem_trace _ listed)⟩
  exact run_invariant_of_obeys _ (fun accounts => accounts.statusOf id = some "blocked") blocked
    (fun _ _ allowed held => stays_blocked allowed.1 allowed.2 held) both

/-- A history keeps every closed account closed exactly if each of its calls spares the account
it addresses. -/
theorem staysClosed_iff (settings : Settings) (start : Accounts) (attempts : List Attempt) :
    StaysClosed settings start attempts ↔
      Obeys (Accounts.next settings) (SparesAddressed settings) start attempts := by
  constructor
  · intro closed taken listed user member commits addressed
    obtain ⟨before, after, split, reached⟩ := split_of_mem_trace _ listed
    have found := Table.find?_of_mem member
    obtain ⟨deleted, blocked⟩ := closed before [taken.2] after split user.id
    rw [reached, run_cons, run_nil] at deleted blocked
    refine (keeps_closed_iff settings taken.2 user).mp ⟨?_, ?_⟩ commits addressed
    · intro status
      obtain ⟨later, foundLater, kept⟩ :=
        statusOf_eq_some.mp (deleted (statusOf_eq_some.mpr ⟨user, found, status⟩))
      rw [find?_next settings taken.2 found] at foundLater
      cases foundLater
      exact kept
    · intro status explicit
      obtain ⟨later, foundLater, kept⟩ :=
        statusOf_eq_some.mp (blocked (statusOf_eq_some.mpr ⟨user, found, status⟩) (by simpa using explicit))
      rw [find?_next settings taken.2 found] at foundLater
      cases foundLater
      exact kept
  · rintro obeyed before during after rfl id
    rw [obeys_append, obeys_append] at obeyed
    exact ⟨deleted_run obeyed.2.1, fun blocked explicit => blocked_run obeyed.2.1 explicit blocked⟩

/-- A blocked user opens a spare invite and is back in the queue. -/
theorem blocked_user_rejoins : ¬ StaysClosed ⟨"secret"⟩ .empty
    [⟨.getOrCreateUser 100, true, true⟩, ⟨.blockUser 1, true, true⟩,
      ⟨.processInviteJoin 100 ⟨"inspector", none, by decide⟩, true, true⟩] := by
  intro closed
  have blocked := (closed [⟨.getOrCreateUser 100, true, true⟩, ⟨.blockUser 1, true, true⟩]
    [⟨.processInviteJoin 100 ⟨"inspector", none, by decide⟩, true, true⟩] [] rfl 1).2 rfl
    (by simp)
  exact absurd blocked (by decide)

end

end InfrasafeBot.Auth.UserAccounts
