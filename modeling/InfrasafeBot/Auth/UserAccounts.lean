import InfrasafeBot.Library.Machine
import InfrasafeBot.Library.AsciiJson
import InfrasafeBot.WorkflowRunner

/-! Accounts of users (`services/auth_service.py`, `api/shifts/service/employees.py`): what each
method makes of the roles, the active role, the status and the verification of one user, and the
calls of a whole history, each of which commits or is rolled back. -/

set_option autoImplicit false

namespace InfrasafeBot.Auth.UserAccounts

open Library RequestWorkflow WorkflowRunner

abbrev TelegramId := Int

abbrev AccountId := Nat

def roleMeterEntry : String := "resource_meter_entry"

def userRoles : List String :=
  ["applicant", "executor", "manager", "inspector", "system_admin", "security_operator"]

def trustedVerificationRoles : List String := ["manager", "admin"]

def staffRoles : List String := ["executor", "manager", "inspector"]

def capabilityRoles : List String := ["resource_meter_entry"]

def validRoles : List String := ["applicant", "executor", "manager", "inspector", "resource_meter_entry"]

def inviteRoles : List String := ["applicant", "executor", "manager", "inspector"]

def staffRolePriority : List String := ["manager", "executor", "inspector"]

structure Account where
  roles : Option String
  activeRole : Option String
  status : String
  verificationStatus : String
  specialization : Option String
  deriving DecidableEq

structure User extends Account where
  id : AccountId
  telegramId : TelegramId
  deriving DecidableEq

structure InviteData where
  role : String
  specialization : Option String
  valid : role ∈ inviteRoles
  deriving DecidableEq

namespace Account

variable (account : Account)

def roleList : List String := parseRolesSafe account.roles

def withRoles (roles : List String) : Account := { account with roles := some (Json.dumpsTexts roles) }

def enforceTrustedVerification (grantedRoles : List String) : Account :=
  if grantedRoles.any trustedVerificationRoles.contains then
    { account with verificationStatus := "verified" }
  else account

def activeRoleMissing (currentRoles : List String) : Bool :=
  match account.activeRole with
  | none => true
  | some role => role = "" || !currentRoles.contains role

def newcomer : Account where
  roles := some "[\"applicant\"]"
  activeRole := some "applicant"
  status := "pending"
  verificationStatus := "pending"
  specialization := none

/-- Whether the user has been nothing but a resident in waiting. -/
def wasFreshCandidate : Bool :=
  let others := account.roleList.filter fun role => !capabilityRoles.contains role
  account.status = "pending" && others.contains roleApplicant && others.all fun role => role = roleApplicant

/-- The roles after an invite: a fresh candidate who comes to work is no resident. -/
def joinedRoles (role : String) : List String :=
  let currentRoles :=
    if account.roleList.contains role then account.roleList else account.roleList ++ [role]
  if staffRoles.contains role && account.wasFreshCandidate then
    currentRoles.filter fun held => held ≠ roleApplicant
  else currentRoles

def processInviteJoin (invite : InviteData) : Account :=
  let currentRoles := account.joinedRoles invite.role
  let trusted := (account.withRoles currentRoles).enforceTrustedVerification [invite.role]
  { trusted with
    specialization :=
      if invite.role = roleExecutor && invite.specialization.any fun text => text ≠ "" then
        invite.specialization
      else account.specialization
    activeRole :=
      if account.activeRoleMissing currentRoles then some invite.role else account.activeRole
    status := "pending" }

def autoApproveUser (role : String) : Option Account :=
  if userRoles.contains role then
    let granted :=
      if account.roleList.contains role then account
      else account.withRoles (account.roleList ++ [role])
    let active :=
      if account.activeRole.all fun active => pyStrip active = "" then some role
      else account.activeRole
    some { granted.enforceTrustedVerification [role] with
      status := "approved"
      activeRole := active }
  else none

/-! The methods below answer `None` where they commit nothing. -/

def approveUser : Option Account :=
  if account.status = "approved" then none else some { account with status := "approved" }

def blockUser : Option Account :=
  if account.status = "blocked" then none else some { account with status := "blocked" }

def unblockUser : Option Account :=
  if account.status = "blocked" then some { account with status := "approved" } else none

def assignRole (role : String) : Option Account :=
  let currentRoles := account.roleList
  if !validRoles.contains role || currentRoles.contains role then none
  else
    let grown := currentRoles ++ [role]
    let trusted := (account.withRoles grown).enforceTrustedVerification [role]
    some { trusted with
      activeRole := if account.activeRoleMissing grown then some role else account.activeRole }

def removeRole (role : String) : Option Account :=
  let currentRoles := account.roleList
  if !currentRoles.contains role || currentRoles.length = 1 then none
  else
    let rest := currentRoles.erase role
    some { account.withRoles rest with
      activeRole :=
        if account.activeRole = some role then some (rest.headD roleApplicant)
        else account.activeRole }

def legacyPrimaryRole : Option String :=
  match account.activeRole with
  | some role => if role = "" then account.roleList.head? else some role
  | none => account.roleList.head?

def setActiveRole (role : String) : Option Account :=
  let rolesList :=
    if account.roleList.isEmpty then (account.legacyPrimaryRole.filter fun legacy => legacy ≠ "").toList
    else account.roleList
  if rolesList.contains role then some { account with activeRole := some role } else none

def makeAdmin : Account :=
  { account with
    status := "approved"
    roles := some "[\"manager\"]"
    activeRole := some roleManager }.enforceTrustedVerification [roleManager]

def setMeterEntryRole (enabled : Bool) : Option Account :=
  let roles := account.roleList
  if enabled && !roles.contains roleMeterEntry then some (account.withRoles (roles ++ [roleMeterEntry]))
  else if !enabled && roles.contains roleMeterEntry then
    some (account.withRoles (roles.erase roleMeterEntry))
  else none

def activateEmployee : Account :=
  { account with
    status := "approved"
    verificationStatus :=
      if account.verificationStatus = "pending" then "verified" else account.verificationStatus
    activeRole :=
      if account.activeRole.any staffRoles.contains then account.activeRole
      else (staffRolePriority.find? account.roleList.contains).or account.activeRole }

def declineEmployee : Account := { account with status := "blocked" }

def softDeleteEmployee : Account := { account with status := "deleted" }

end Account

inductive Operation where
  | getOrCreateUser (telegramId : TelegramId)
  | processInviteJoin (telegramId : TelegramId) (invite : InviteData)
  | autoApproveUser (telegramId : TelegramId) (role : String)
  | approveUser (userId : AccountId)
  | blockUser (userId : AccountId)
  | unblockUser (userId : AccountId)
  | assignRole (userId : AccountId) (role : String)
  | removeRole (userId : AccountId) (role : String)
  | setActiveRole (telegramId : TelegramId) (role : String)
  | makeAdminByPassword (telegramId : TelegramId) (password : String)
  | setMeterEntryRole (userId : AccountId) (enabled : Bool)
  | activateEmployee (userId : AccountId)
  | declineEmployee (userId : AccountId)
  | softDeleteEmployee (userId : AccountId)
  deriving DecidableEq

structure Attempt where
  operation : Operation
  creates : Bool
  commits : Bool

structure Settings where
  adminPassword : String

def Operation.addresses (operation : Operation) (user : User) : Bool :=
  match operation with
  | .getOrCreateUser telegramId
  | .processInviteJoin telegramId _
  | .autoApproveUser telegramId _
  | .setActiveRole telegramId _
  | .makeAdminByPassword telegramId _ => user.telegramId = telegramId
  | .approveUser userId
  | .blockUser userId
  | .unblockUser userId
  | .assignRole userId _
  | .removeRole userId _
  | .setMeterEntryRole userId _
  | .activateEmployee userId
  | .declineEmployee userId
  | .softDeleteEmployee userId => user.id = userId

def Operation.result (settings : Settings) (operation : Operation) (account : Account) : Option Account :=
  match operation with
  | .getOrCreateUser _ => none
  | .processInviteJoin _ invite => some (account.processInviteJoin invite)
  | .autoApproveUser _ role => account.autoApproveUser role
  | .approveUser _ => account.approveUser
  | .blockUser _ => account.blockUser
  | .unblockUser _ => account.unblockUser
  | .assignRole _ role => account.assignRole role
  | .removeRole _ role => account.removeRole role
  | .setActiveRole _ role => account.setActiveRole role
  | .makeAdminByPassword _ password =>
    if password = settings.adminPassword then some account.makeAdmin else none
  | .setMeterEntryRole _ enabled => account.setMeterEntryRole enabled
  | .activateEmployee _ => some account.activateEmployee
  | .declineEmployee _ => some account.declineEmployee
  | .softDeleteEmployee _ => some account.softDeleteEmployee

def Operation.newcomer? : Operation → Option TelegramId
  | .getOrCreateUser telegramId
  | .processInviteJoin telegramId _ => some telegramId
  | _ => none

structure Accounts where
  users : Table User.id
  telegramUnique : (users.rows.map User.telegramId).Nodup

def newUser (telegramId : TelegramId) (id : AccountId) : User := { toAccount := .newcomer, id, telegramId }

theorem newUser_id (telegramId : TelegramId) (id : AccountId) : (newUser telegramId id).id = id := rfl

namespace Accounts

def empty : Accounts := ⟨.empty, List.nodup_nil⟩

def getOrCreateUser (accounts : Accounts) (telegramId : TelegramId) : Accounts :=
  if unknown : telegramId ∉ accounts.users.rows.map User.telegramId then
    { users := accounts.users.insert (newUser telegramId) (newUser_id telegramId)
      telegramUnique := by
        simp only [Table.insert, List.map_append, List.nodup_append]
        refine ⟨accounts.telegramUnique, List.nodup_singleton _, ?_⟩
        intro used listed added single same
        obtain rfl : added = telegramId := List.mem_singleton.mp single
        exact unknown (same ▸ listed) }
  else accounts

end Accounts

def Attempt.applied (settings : Settings) (attempt : Attempt) (user : User) : User :=
  if attempt.commits && attempt.operation.addresses user then
    match attempt.operation.result settings user.toAccount with
    | some account => { user with toAccount := account }
    | none => user
  else user

theorem Attempt.applied_id (settings : Settings) (attempt : Attempt) (user : User) :
    (attempt.applied settings user).id = user.id := by
  unfold applied
  split
  · split <;> rfl
  · rfl

theorem Attempt.applied_telegramId (settings : Settings) (attempt : Attempt) (user : User) :
    (attempt.applied settings user).telegramId = user.telegramId := by
  unfold applied
  split
  · split <;> rfl
  · rfl

namespace Accounts

/-- The row is committed before the rest of an invite, which may fail, is done. -/
def opened (accounts : Accounts) (attempt : Attempt) : Accounts :=
  match attempt.operation.newcomer? with
  | some telegramId => if attempt.creates then accounts.getOrCreateUser telegramId else accounts
  | none => accounts

def next (settings : Settings) (accounts : Accounts) (attempt : Attempt) : Accounts where
  users := (accounts.opened attempt).users.update (fun _ => true) (attempt.applied settings)
    (attempt.applied_id settings)
  telegramUnique := by
    have same : (User.telegramId ∘ attempt.applied settings) = User.telegramId :=
      funext (attempt.applied_telegramId settings)
    simp only [Table.update, if_true, List.map_map]
    rw [same]
    exact (accounts.opened attempt).telegramUnique

end Accounts

end InfrasafeBot.Auth.UserAccounts
