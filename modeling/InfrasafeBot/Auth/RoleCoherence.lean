import InfrasafeBot.Auth.ClosedAccounts

/-! The roles, the active role and the verification of a user who was created as a resident in
waiting: what every call keeps of them, and the one that leaves an active role behind. -/

set_option autoImplicit false

namespace InfrasafeBot.Auth.UserAccounts

open Library Library.Machine RequestWorkflow WorkflowRunner

/-- The user has roles, each once, is active in one of them, and nobody trusted is unverified. -/
structure Coherent (account : Account) : Prop where
  filled : account.roleList ≠ []
  distinct : account.roleList.Nodup
  active : ∃ role ∈ account.roleList, account.activeRole = some role
  trusted : ∀ role ∈ account.roleList, role ∈ trustedVerificationRoles →
    account.verificationStatus = "verified"

def CoherentUser (telegramId : TelegramId) (accounts : Accounts) : Prop :=
  ∀ user ∈ accounts.users.rows, user.telegramId = telegramId → Coherent user.toAccount

/-- The capability is taken from the user only while another role is active. -/
def TakesIdleCapability (telegramId : TelegramId) (accounts : Accounts) (attempt : Attempt) : Prop :=
  ∀ user ∈ accounts.users.rows, user.telegramId = telegramId → attempt.commits = true →
    attempt.operation = .setMeterEntryRole user.id false →
    user.activeRole ≠ some roleMeterEntry

variable {account : Account} {roles : List String}

theorem parseRolesSafe_dumpsTexts (roles : List String) :
    parseRolesSafe (some (Json.dumpsTexts roles)) = roles := by
  have written : Json.dumpsTexts roles ≠ "" := by
    intro empty
    have text := congrArg String.toList empty
    rw [Json.dumpsTexts, String.toList_ofList] at text
    cases text
  have read : (Json.loads (Json.dumpsTexts roles)).bind Json.stringItems? = some roles :=
    Json.stringItems?_dumpsTexts roles
  rw [Json.loads_dumpsTexts, Option.bind_some] at read
  simp only [parseRolesSafe]
  rw [if_neg written, Json.loads_dumpsTexts]
  dsimp only
  rw [read, Option.getD_some]

@[simp] theorem roleList_withRoles : (account.withRoles roles).roleList = roles :=
  parseRolesSafe_dumpsTexts roles

@[simp] theorem roleList_enforce (granted : List String) :
    (account.enforceTrustedVerification granted).roleList = account.roleList :=
  congrArg parseRolesSafe (account.enforce_roles granted)

theorem newcomer_roleList : Account.newcomer.roleList = ["applicant"] := by decide

theorem makeAdmin_roleList : account.makeAdmin.roleList = ["manager"] := by
  rw [Account.makeAdmin, roleList_enforce]
  exact (by decide : parseRolesSafe (some "[\"manager\"]") = ["manager"])

theorem Coherent.of_roles (listed : account.roleList = roles) (filled : roles ≠ [])
    (distinct : roles.Nodup) (active : ∃ role ∈ roles, account.activeRole = some role)
    (trusted : ∀ role ∈ roles, role ∈ trustedVerificationRoles →
      account.verificationStatus = "verified") : Coherent account := by
  subst listed
  exact ⟨filled, distinct, active, trusted⟩

theorem coherent_newcomer : Coherent .newcomer :=
  .of_roles newcomer_roleList (List.cons_ne_nil _ _) (List.nodup_singleton _)
    ⟨"applicant", List.mem_cons_self, rfl⟩ (by decide)

theorem coherent_makeAdmin : Coherent account.makeAdmin :=
  .of_roles makeAdmin_roleList (List.cons_ne_nil _ _) (List.nodup_singleton _)
    ⟨"manager", List.mem_cons_self, rfl⟩ fun _ _ _ => rfl

section

variable {changed : Account} {role : String}

theorem Coherent.congr (coherent : Coherent account) (roles : changed.roles = account.roles)
    (active : changed.activeRole = account.activeRole)
    (verification : changed.verificationStatus = account.verificationStatus) :
    Coherent changed := by
  refine .of_roles (congrArg parseRolesSafe roles) coherent.filled coherent.distinct ?_ ?_
  · rw [active]
    exact coherent.active
  · rw [verification]
    exact coherent.trusted

theorem Coherent.verified_of_granted (coherent : Coherent account)
    (granted : ∀ held ∈ roles, held ∈ account.roleList ∨ held = role) :
    ∀ held ∈ roles, held ∈ trustedVerificationRoles →
      ((account.withRoles roles).enforceTrustedVerification [role]).verificationStatus =
        "verified" := by
  intro held listed trusted
  unfold Account.enforceTrustedVerification
  split
  · rfl
  · next unenforced =>
      rcases granted held listed with before | rfl
      · exact coherent.trusted held before trusted
      · simp [trusted] at unenforced

theorem mem_of_not_missing (missing : account.activeRoleMissing roles = false) :
    ∃ active ∈ roles, account.activeRole = some active := by
  unfold Account.activeRoleMissing at missing
  split at missing
  · cases missing
  · next active stored =>
      simp only [Bool.or_eq_false_iff, Bool.not_eq_false'] at missing
      exact ⟨active, List.contains_iff_mem.mp missing.2, stored⟩

theorem active_of_repaired (granted : role ∈ roles) :
    ∃ active ∈ roles,
      (if account.activeRoleMissing roles then some role else account.activeRole) =
        some active := by
  split
  · exact ⟨role, granted, rfl⟩
  · next present => exact mem_of_not_missing (Bool.eq_false_of_not_eq_true present)

theorem nodup_concat (distinct : roles.Nodup) (fresh : role ∉ roles) : (roles ++ [role]).Nodup := by
  rw [List.nodup_append]
  refine ⟨distinct, List.nodup_singleton _, ?_⟩
  intro held listed added single same
  obtain rfl : added = role := List.mem_singleton.mp single
  exact fresh (same ▸ listed)

theorem mem_joinedRoles : role ∈ account.joinedRoles role := by
  have granted : role ∈ (if account.roleList.contains role then account.roleList
      else account.roleList ++ [role]) := by
    split
    · next held => exact List.contains_iff_mem.mp held
    · exact List.mem_append_right _ (List.mem_singleton_self _)
  unfold Account.joinedRoles
  dsimp only
  split
  · next staff =>
      have worker : role ∈ staffRoles := List.contains_iff_mem.mp (Bool.and_eq_true_iff.mp staff).1
      have unlike : role ≠ roleApplicant := by
        rintro rfl
        exact absurd worker (by decide)
      exact List.mem_filter.mpr ⟨granted, decide_eq_true unlike⟩
  · exact granted

theorem joinedRoles_from : ∀ held ∈ account.joinedRoles role, held ∈ account.roleList ∨ held = role := by
  have from_ : ∀ held ∈ (if account.roleList.contains role then account.roleList
      else account.roleList ++ [role]), held ∈ account.roleList ∨ held = role := by
    intro held listed
    split at listed
    · exact .inl listed
    · rw [List.mem_append, List.mem_singleton] at listed
      exact listed
  intro held listed
  unfold Account.joinedRoles at listed
  dsimp only at listed
  split at listed
  · exact from_ held (List.mem_of_mem_filter listed)
  · exact from_ held listed

theorem nodup_joinedRoles (distinct : account.roleList.Nodup) : (account.joinedRoles role).Nodup := by
  have grown : (if account.roleList.contains role then account.roleList
      else account.roleList ++ [role]).Nodup := by
    split
    · exact distinct
    · next fresh => exact nodup_concat distinct fun held => fresh (List.contains_iff_mem.mpr held)
  unfold Account.joinedRoles
  dsimp only
  split
  · exact grown.filter _
  · exact grown

theorem Coherent.processInviteJoin (coherent : Coherent account) (invite : InviteData) :
    Coherent (account.processInviteJoin invite) :=
  .of_roles ((roleList_enforce [invite.role]).trans roleList_withRoles)
    (List.ne_nil_of_mem mem_joinedRoles) (nodup_joinedRoles coherent.distinct)
    (active_of_repaired mem_joinedRoles) (coherent.verified_of_granted joinedRoles_from)

theorem mem_concat_or {held : String} (listed : held ∈ roles ++ [role]) : held ∈ roles ∨ held = role := by
  rwa [List.mem_append, List.mem_singleton] at listed

theorem mem_concat_self : role ∈ roles ++ [role] := List.mem_append_right _ (List.mem_singleton_self _)

section

variable (coherent : Coherent account)

include coherent

theorem Coherent.assignRole (assigned : account.assignRole role = some changed)
    : Coherent changed := by
  simp only [Account.assignRole] at assigned
  split at assigned
  · cases assigned
  · next fits =>
      simp only [Bool.or_eq_true, Bool.not_eq_true', List.contains_iff_mem, not_or] at fits
      cases assigned
      exact .of_roles ((roleList_enforce [role]).trans roleList_withRoles)
        (List.ne_nil_of_mem mem_concat_self) (nodup_concat coherent.distinct fits.2)
        (active_of_repaired mem_concat_self)
        (coherent.verified_of_granted fun _ => mem_concat_or)

theorem Coherent.verified_of_held :
    ∀ held ∈ account.roleList, held ∈ trustedVerificationRoles →
      (account.enforceTrustedVerification [role]).verificationStatus = "verified" := by
  intro held listed trusted
  unfold Account.enforceTrustedVerification
  split
  · rfl
  · exact coherent.trusted held listed trusted

theorem Coherent.autoApproveUser (approved : account.autoApproveUser role = some changed)
    : Coherent changed := by
  have activated {roles : List String} (kept : ∀ held ∈ account.roleList, held ∈ roles)
      (granted : role ∈ roles) : ∃ active ∈ roles,
        (if account.activeRole.all fun active => pyStrip active = "" then some role
          else account.activeRole) = some active := by
    split
    · exact ⟨role, granted, rfl⟩
    · obtain ⟨active, among, stored⟩ := coherent.active
      exact ⟨active, kept active among, stored⟩
  simp only [Account.autoApproveUser] at approved
  split at approved
  · cases approved
    by_cases held : role ∈ account.roleList
    · rw [if_pos (List.contains_iff_mem.mpr held)]
      exact .of_roles (roleList_enforce [role]) coherent.filled coherent.distinct
        (activated (fun _ => id) held) coherent.verified_of_held
    · rw [if_neg fun contained => held (List.contains_iff_mem.mp contained)]
      exact .of_roles ((roleList_enforce [role]).trans roleList_withRoles)
        (List.ne_nil_of_mem mem_concat_self) (nodup_concat coherent.distinct held)
        (activated (fun _ => List.mem_append_left _) mem_concat_self)
        (coherent.verified_of_granted fun _ => mem_concat_or)
  · cases approved

theorem Coherent.removeRole (removed : account.removeRole role = some changed)
    : Coherent changed := by
  simp only [Account.removeRole] at removed
  split at removed
  · cases removed
  · next several =>
      simp only [Bool.or_eq_true, Bool.not_eq_true', decide_eq_true_eq, not_or,
        Bool.not_eq_false, List.contains_iff_mem] at several
      obtain ⟨held, several⟩ := several
      cases removed
      have remaining : account.roleList.erase role ≠ [] := by
        intro empty
        have short := List.length_erase_of_mem held
        have long := List.length_pos_of_mem held
        rw [empty, List.length_nil] at short
        omega
      have listed : (account.withRoles (account.roleList.erase role)).roleList = _ := roleList_withRoles
      refine .of_roles listed remaining (coherent.distinct.erase role) ?_ ?_
      · dsimp only
        split
        · obtain ⟨first, rest, split⟩ := List.exists_cons_of_ne_nil remaining
          exact ⟨first, split ▸ List.mem_cons_self, by rw [split, List.headD_cons]⟩
        · next other =>
            obtain ⟨active, among, stored⟩ := coherent.active
            refine ⟨active, (List.mem_erase_of_ne ?_).mpr among, stored⟩
            rintro rfl
            exact other stored
      · intro other listed
        exact coherent.trusted other (List.mem_of_mem_erase listed)

theorem Coherent.setActiveRole (switched : account.setActiveRole role = some changed)
    : Coherent changed := by
  have filled : account.roleList.isEmpty = false := by
    rw [List.isEmpty_eq_false_iff]
    exact coherent.filled
  simp only [Account.setActiveRole, filled, Bool.false_eq_true, if_false] at switched
  split at switched
  · next held =>
      cases switched
      exact .of_roles rfl coherent.filled coherent.distinct
        ⟨role, List.contains_iff_mem.mp held, rfl⟩ coherent.trusted
  · cases switched

theorem Coherent.activateEmployee : Coherent account.activateEmployee := by
  refine .of_roles rfl coherent.filled coherent.distinct ?_ ?_
  · simp only [Account.activateEmployee]
    split
    · exact coherent.active
    · cases raised : staffRolePriority.find? account.roleList.contains with
      | none => exact coherent.active
      | some staff => exact ⟨staff, List.contains_iff_mem.mp (List.find?_some raised), rfl⟩
  · intro held listed trusted
    simp only [Account.activateEmployee]
    split
    · rfl
    · exact coherent.trusted held listed trusted

theorem Coherent.grantMeterEntry (granted : account.setMeterEntryRole true = some changed)
    : Coherent changed := by
  simp only [Account.setMeterEntryRole, Bool.true_and, Bool.not_true, Bool.false_and,
    Bool.false_eq_true, if_false, Bool.not_eq_true'] at granted
  split at granted
  · next fresh =>
      cases granted
      have unheld : roleMeterEntry ∉ account.roleList := by
        rwa [← List.contains_iff_mem, Bool.not_eq_true]
      obtain ⟨active, among, stored⟩ := coherent.active
      refine .of_roles roleList_withRoles (List.ne_nil_of_mem mem_concat_self)
        (nodup_concat coherent.distinct unheld)
        ⟨active, List.mem_append_left _ among, stored⟩ ?_
      intro held listed trusted
      rcases mem_concat_or listed with before | rfl
      · exact coherent.trusted held before trusted
      · exact absurd trusted (by decide)
  · cases granted

theorem Coherent.withdrawMeterEntry_iff :
    Coherent ((account.setMeterEntryRole false).getD account) ↔
      account.activeRole ≠ some roleMeterEntry := by
  obtain ⟨active, among, stored⟩ := coherent.active
  simp only [Account.setMeterEntryRole, Bool.false_and, Bool.false_eq_true, if_false,
    Bool.not_false, Bool.true_and, List.contains_iff_mem]
  rw [stored]
  split
  · next held =>
      rw [Option.getD_some]
      constructor
      · rintro ⟨_, _, ⟨other, listed, kept⟩, _⟩ meter
        rw [roleList_withRoles] at listed
        have same : other = roleMeterEntry := Option.some.inj (kept.symm.trans (stored.trans meter))
        exact coherent.distinct.not_mem_erase (same ▸ listed)
      · intro other
        have kept : active ∈ account.roleList.erase roleMeterEntry :=
          (List.mem_erase_of_ne fun same => other (congrArg some same)).mpr among
        exact .of_roles roleList_withRoles (List.ne_nil_of_mem kept)
          (coherent.distinct.erase _) ⟨active, kept, stored⟩
          fun _ listed => coherent.trusted _ (List.mem_of_mem_erase listed)
  · next unheld =>
      rw [Option.getD_none]
      refine iff_of_true coherent fun same => unheld ?_
      exact Option.some.inj same ▸ among

end

theorem result_coherent_iff (settings : Settings) (operation : Operation)
    (coherent : Coherent account) :
    Coherent ((operation.result settings account).getD account) ↔
      ∀ id, operation = .setMeterEntryRole id false → account.activeRole ≠ some roleMeterEntry := by
  have committed {result : Option Account}
      (keeps : ∀ changed, result = some changed → Coherent changed) :
      Coherent (result.getD account) := by
    cases result with
    | none => exact coherent
    | some changed => exact keeps changed rfl
  have moved (status : String) : Coherent { account with status } := coherent.congr rfl rfl rfl
  cases operation with
  | setMeterEntryRole id enabled =>
    cases enabled with
    | true =>
      exact iff_of_true (committed fun _ => coherent.grantMeterEntry) fun _ other => by
        cases other
    | false =>
      rw [Operation.result, coherent.withdrawMeterEntry_iff]
      exact ⟨fun other _ _ => other, fun other => other id rfl⟩
  | getOrCreateUser telegramId => exact iff_of_true coherent fun _ other => by cases other
  | processInviteJoin telegramId invite =>
    exact iff_of_true (coherent.processInviteJoin invite) fun _ other => by cases other
  | autoApproveUser telegramId role =>
    exact iff_of_true (committed fun _ => coherent.autoApproveUser) fun _ other => by cases other
  | approveUser id =>
    refine iff_of_true (committed fun changed approved => ?_) fun _ other => by cases other
    simp only [Operation.result, Account.approveUser] at approved
    split at approved
    · cases approved
    · cases approved
      exact moved "approved"
  | blockUser id =>
    refine iff_of_true (committed fun changed blocked => ?_) fun _ other => by cases other
    simp only [Operation.result, Account.blockUser] at blocked
    split at blocked
    · cases blocked
    · cases blocked
      exact moved "blocked"
  | unblockUser id =>
    refine iff_of_true (committed fun changed unblocked => ?_) fun _ other => by cases other
    simp only [Operation.result, Account.unblockUser] at unblocked
    split at unblocked
    · cases unblocked
      exact moved "approved"
    · cases unblocked
  | assignRole id role => exact iff_of_true (committed fun _ => coherent.assignRole) fun _ other => by cases other
  | removeRole id role => exact iff_of_true (committed fun _ => coherent.removeRole) fun _ other => by cases other
  | setActiveRole telegramId role =>
    exact iff_of_true (committed fun _ => coherent.setActiveRole) fun _ other => by cases other
  | makeAdminByPassword telegramId password =>
    refine iff_of_true (committed fun changed made => ?_) fun _ other => by cases other
    simp only [Operation.result] at made
    split at made
    · cases made
      exact coherent_makeAdmin
    · cases made
  | activateEmployee id => exact iff_of_true coherent.activateEmployee fun _ other => by cases other
  | declineEmployee id => exact iff_of_true (moved "blocked") fun _ other => by cases other
  | softDeleteEmployee id => exact iff_of_true (moved "deleted") fun _ other => by cases other

theorem applied_coherent_iff (settings : Settings) (attempt : Attempt) {user : User}
    (coherent : Coherent user.toAccount) :
    Coherent (attempt.applied settings user).toAccount ↔
      (attempt.commits = true → attempt.operation = .setMeterEntryRole user.id false →
        user.activeRole ≠ some roleMeterEntry) := by
  by_cases reached : attempt.commits = true ∧ attempt.operation.addresses user = true
  · obtain ⟨commits, addressed⟩ := reached
    rw [applied_of_addressed settings commits addressed, result_coherent_iff settings _ coherent]
    constructor
    · exact fun idle _ called => idle user.id called
    · intro idle id called
      have same : user.id = id := by simpa [called, Operation.addresses] using addressed
      exact idle commits (same ▸ called)
  · rw [applied_of_not settings reached]
    refine iff_of_true coherent fun commits called => absurd ⟨commits, ?_⟩ reached
    rw [called]
    exact decide_eq_true rfl

end

section

variable {settings : Settings} {accounts : Accounts} {attempt : Attempt} {telegramId : TelegramId}

theorem mem_opened {user : User} (listed : user ∈ (accounts.opened attempt).users.rows) :
    user ∈ accounts.users.rows ∨ user.toAccount = .newcomer := by
  unfold Accounts.opened at listed
  split at listed
  · split at listed
    · unfold Accounts.getOrCreateUser at listed
      split at listed
      · rcases (Table.mem_insert (newUser_id _)).mp listed with before | rfl
        · exact .inl before
        · exact .inr rfl
      · exact .inl listed
    · exact .inl listed
  · exact .inl listed

theorem opened_coherent (coherent : CoherentUser telegramId accounts) {user : User}
    (listed : user ∈ (accounts.opened attempt).users.rows)
    (same : user.telegramId = telegramId) : Coherent user.toAccount := by
  rcases mem_opened listed with before | new
  · exact coherent user before same
  · exact new ▸ coherent_newcomer

theorem next_coherent_iff (coherent : CoherentUser telegramId accounts) :
    CoherentUser telegramId (accounts.next settings attempt) ↔
      TakesIdleCapability telegramId accounts attempt := by
  constructor
  · intro kept user listed same commits called
    have found := find?_next settings attempt (Table.find?_of_mem listed)
    have after := kept _ (Table.mem_of_find? found)
      ((attempt.applied_telegramId settings user).trans same)
    exact (applied_coherent_iff settings attempt (coherent user listed same)).mp after commits
      called
  · intro idle later listed same
    obtain ⟨user, opened, rfl⟩ := (Table.mem_update (attempt.applied_id settings)).mp listed
    rw [if_pos rfl] at same ⊢
    rw [attempt.applied_telegramId] at same
    have before := opened_coherent coherent opened same
    refine (applied_coherent_iff settings attempt before).mpr fun commits called => ?_
    rcases mem_opened opened with known | new
    · exact idle user known same commits called
    · rw [new]
      exact (by decide : Account.newcomer.activeRole ≠ some roleMeterEntry)

/-- A user created in a history is coherent all along it exactly if the capability is never
taken from the user while it is the active role. -/
theorem coherent_along_iff (settings : Settings) (start : Accounts) (telegramId : TelegramId)
    (unknown : telegramId ∉ start.users.rows.map User.telegramId) (attempts : List Attempt) :
    (∀ past, past <+: attempts →
      CoherentUser telegramId (run (Accounts.next settings) start past)) ↔
      Obeys (Accounts.next settings) (TakesIdleCapability telegramId) start attempts := by
  refine holds_along_iff_obeys _ _ (fun _ => True) trivial (fun _ _ _ => trivial) ?_
    (fun _ _ _ coherent => next_coherent_iff coherent) attempts
  intro user listed same
  exact absurd (same ▸ List.mem_map_of_mem listed) unknown

/-- A resident who is given the capability and loses it again while being a resident. -/
def grantedAndWithdrawn : List Attempt :=
  [⟨.getOrCreateUser 100, true, true⟩, ⟨.setMeterEntryRole 1 true, false, true⟩,
    ⟨.setMeterEntryRole 1 false, false, true⟩]

theorem withdrawn_capability_coherent :
    CoherentUser 100 (run (Accounts.next ⟨"secret"⟩) .empty grantedAndWithdrawn) := by
  refine (coherent_along_iff ⟨"secret"⟩ .empty 100 (by decide) grantedAndWithdrawn).mpr ?_
    grantedAndWithdrawn List.prefix_rfl
  intro taken listed user member same commits called
  revert user
  simp only [grantedAndWithdrawn, trace_cons, trace_nil, List.mem_cons, List.not_mem_nil,
    or_false] at listed
  rcases listed with rfl | rfl | rfl
  · decide
  · decide
  · decide

/-- The capability is what is left of the roles, and is taken away. -/
theorem last_capability_withdrawn : ¬ CoherentUser 100
    (run (Accounts.next ⟨"secret"⟩) .empty
      [⟨.getOrCreateUser 100, true, true⟩, ⟨.setMeterEntryRole 1 true, false, true⟩,
        ⟨.removeRole 1 "applicant", false, true⟩, ⟨.setMeterEntryRole 1 false, false, true⟩]) := by
  intro coherent
  have left := coherent
    { id := 1, telegramId := 100, roles := some "[]", activeRole := some roleMeterEntry,
      status := "pending", verificationStatus := "pending", specialization := none }
    (by decide) rfl
  exact left.filled (by decide)

end

end InfrasafeBot.Auth.UserAccounts
