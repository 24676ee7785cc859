import InfrasafeBot.Auth.UserAccounts
import InfrasafeBot.Library.Interleaving

/-! Self-registration of a resident (`api/registration/service.py`) beside the managers' changes of
the same user, one statement after the other. Rows are read without a lock; a flush writes the
columns that have changed and locks the row to the end of the transaction. -/

set_option autoImplicit false

namespace InfrasafeBot.Auth.SelfRegistration

open Library RequestWorkflow

structure User extends UserAccounts.Account where
  firstName : Option String
  lastName : Option String
  phone : Option String
  deriving DecidableEq

structure Form where
  firstName : String
  lastName : String
  phone : String
  deriving DecidableEq

def applicantRoles (account : UserAccounts.Account) : String :=
  Json.dumpsTexts ((roleApplicant :: account.roleList).dedup.mergeSort (· ≤ ·))

def applyApplicantFields (user : User) (form : Form) : User :=
  { user with
    firstName := some form.firstName
    lastName := some form.lastName
    phone := some form.phone
    activeRole := some roleApplicant
    roles := some (applicantRoles user.toAccount) }

def blankUser : User where
  roles := none
  activeRole := none
  status := "pending"
  verificationStatus := "pending"
  specialization := none
  firstName := none
  lastName := none
  phone := none

def isPrivileged (user : User) : Bool := user.roleList.any fun role => role ≠ roleApplicant

def User.assign (loaded changed stored : User) : User where
  roles := assignedColumn changed.roles loaded.roles stored.roles
  activeRole := assignedColumn changed.activeRole loaded.activeRole stored.activeRole
  status := assignedColumn changed.status loaded.status stored.status
  verificationStatus := assignedColumn changed.verificationStatus loaded.verificationStatus
    stored.verificationStatus
  specialization := assignedColumn changed.specialization loaded.specialization
    stored.specialization
  firstName := assignedColumn changed.firstName loaded.firstName stored.firstName
  lastName := assignedColumn changed.lastName loaded.lastName stored.lastName
  phone := assignedColumn changed.phone loaded.phone stored.phone

inductive Act where
  | approve
  | activate
  | block
  | grant (role : String)
  deriving DecidableEq

def Act.result (act : Act) (account : UserAccounts.Account) : Option UserAccounts.Account :=
  match act with
  | .approve => account.approveUser
  | .activate => some account.activateEmployee
  | .block => account.blockUser
  | .grant role => account.assignRole role

inductive Answer where
  | ok
  | blocked
  | approved
  | privileged
  | noResultFound
  | done
  deriving DecidableEq

inductive Write where
  | nothing
  | insert (user : User)
  | update (loaded changed : User)
  deriving DecidableEq

inductive Stage where
  | idle
  | reading (form : Form) (retry : Bool)
  | flushing (loaded : Option User) (form : Form)
  | flushed (write : Write)
  /-- A manager's change. -/
  | loading (act : Act)
  | changing (loaded changed : User)
  | managed (loaded changed : User)
  | finished (answer : Answer)
  deriving DecidableEq

abbrev Store := Option User

def checked (user : User) (form : Form) : Stage :=
  if user.status = "blocked" then .finished .blocked
  else if user.status = "approved" then .finished .approved
  else if isPrivileged user then .finished .privileged
  else .flushing (some user) form

def written (store : Store) : Write → Store
  | .nothing => store
  | .insert user => some user
  | .update loaded changed => store.map (loaded.assign changed)

def perform (store : Store) : Stage → Store × Stage
  | .idle => (store, .idle)
  | .reading form retry =>
    match store with
    | some user => (store, checked user form)
    | none => (store, if retry then .finished .noResultFound else .flushing none form)
  | .flushing none form =>
    match store with
    | some _ => (store, .reading form true)
    | none => (store, .flushed (.insert (applyApplicantFields blankUser form)))
  | .flushing (some loaded) form =>
    let changed := applyApplicantFields loaded form
    (store, .flushed (if changed = loaded then .nothing else .update loaded changed))
  | .flushed write => (written store write, .finished .ok)
  | .loading act =>
    match store with
    | none => (store, .finished .done)
    | some user =>
      match act.result user.toAccount with
      | none => (store, .finished .done)
      | some account =>
        let changed : User := { user with toAccount := account }
        (store, if changed = user then .finished .done else .changing user changed)
  | .changing loaded changed => (store, .managed loaded changed)
  | .managed loaded changed => (store.map (loaded.assign changed), .finished .done)
  | .finished answer => (store, .finished answer)

/-- Who has flushed a change has locked the row, or the key of the new one. -/
def Stage.locks : Stage → List Unit
  | .flushed (.insert _) => [()]
  | .flushed (.update _ _) => [()]
  | .managed _ _ => [()]
  | _ => []

def Stage.free : Stage → Bool
  | .idle => true
  | .finished _ => true
  | _ => false

inductive Call where
  | register (form : Form)
  | manage (act : Act)

def Call.start : Call → Stage
  | .register form => .reading form false
  | .manage act => .loading act

theorem Call.start_unlocked (call : Call) : call.start.locks = [] := by
  cases call with
  | register | manage => rfl

def program : Program Store Stage Call Unit where
  idle := .idle
  start := Call.start
  free := Stage.free
  perform := perform
  locks := Stage.locks
  idle_unlocked := rfl
  start_unlocked := Call.start_unlocked

end InfrasafeBot.Auth.SelfRegistration
