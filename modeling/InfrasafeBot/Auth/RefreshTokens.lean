import InfrasafeBot.Library.Interleaving
import InfrasafeBot.Library.Table
import InfrasafeBot.RequestWorkflow.Types

/-! Refresh tokens (`api/auth/service.py`, `api/auth/router.py`), one statement of the database
after the other. A row that is read `FOR UPDATE`, or that an `UPDATE` has reached, is locked to
the end of the transaction. -/

set_option autoImplicit false

namespace InfrasafeBot.Auth

open Library RequestWorkflow

abbrev TokenId := Nat

/-- `uuid4().hex` -/
abbrev FamilyId := Nat

abbrev TokenHash := String

inductive RevocationReason where
  | rotated
  | logout
  | reuse
  | admin
  deriving DecidableEq

structure RefreshToken where
  id : TokenId
  userId : UserId
  tokenHash : TokenHash
  createdAt : Moment
  expiresAt : Moment
  revokedAt : Option Moment
  familyId : FamilyId
  parentTokenId : Option TokenId
  revocationReason : Option RevocationReason
  deriving DecidableEq

namespace RefreshToken

variable (token : RefreshToken)

def active : Bool := token.revokedAt.isNone

def unexpired (now : Moment) : Bool := now < token.expiresAt

def revoke (now : Moment) (reason : RevocationReason) : RefreshToken :=
  { token with revokedAt := some now, revocationReason := some reason }

end RefreshToken

structure Account where
  id : UserId
  status : String

/-- Seconds. -/
def refreshLifetime : Nat := 7 * 24 * 60 * 60

def twaRefreshLifetime : Nat := 24 * 60 * 60

/-- The committed rows, and the families that a login of the Telegram WebApp has opened; no
column says so. -/
structure TokenStore where
  accounts : Table Account.id
  tokens : Table RefreshToken.id
  twaFamilies : List FamilyId

namespace TokenStore

variable (store : TokenStore)

def byHash (hash : TokenHash) : Option RefreshToken :=
  store.tokens.rows.find? fun token => token.tokenHash = hash

def hashTaken (hash : TokenHash) : Bool := store.tokens.rows.any fun token => token.tokenHash = hash

def freshFamily : FamilyId := (store.tokens.rows.map (·.familyId)).foldr max 0 + 1

def revokeRows (selects : RefreshToken → Bool) (now : Moment) (reason : RevocationReason) : TokenStore :=
  { store with
    tokens := store.tokens.update selects (fun token => token.revoke now reason)
      fun _ => rfl }

def addToken (token : TokenId → RefreshToken) (numbered : ∀ id, (token id).id = id) : TokenStore :=
  { store with tokens := store.tokens.insert token numbered }

end TokenStore

inductive LoginFlow where
  | web
  | twa
  deriving DecidableEq

/-- Where a refresh has found its token. -/
inductive TokenSource where
  | cookie
  | body
  deriving DecidableEq

def LoginFlow.lifetime : LoginFlow → Nat
  | .web => refreshLifetime
  | .twa => twaRefreshLifetime

def TokenSource.lifetime : TokenSource → Nat
  | .cookie => refreshLifetime
  | .body => twaRefreshLifetime

inductive TokenAnswer where
  | ok
  | invalid
  | notApproved
  | noToken
  | integrityError
  deriving DecidableEq

structure Rotation where
  token : RefreshToken
  source : TokenSource
  hash : TokenHash
  now : Moment
  deriving DecidableEq

def Rotation.child (rotation : Rotation) (id : TokenId) : RefreshToken where
  id
  userId := rotation.token.userId
  tokenHash := rotation.hash
  createdAt := rotation.now
  expiresAt := rotation.now + rotation.source.lifetime
  revokedAt := none
  familyId := rotation.token.familyId
  parentTokenId := some rotation.token.id
  revocationReason := none

inductive TokenStage where
  | idle
  | issuing (flow : LoginFlow) (userId : UserId) (hash : TokenHash) (now : Moment)
  | presenting (presented : TokenHash) (source : TokenSource) (hash : TokenHash) (now : Moment)
  | identifying (rotation : Rotation)
  | rotating (rotation : Rotation)
  | scanning (token : RefreshToken) (now : Moment)
  | sweeping (token : RefreshToken) (now : Moment) (found swept : List TokenId)
  | reading (presented : TokenHash) (now : Moment)
  | revoking (token : RefreshToken) (now : Moment)
  | revoked (token : RefreshToken) (now : Moment)
  | finished (answer : TokenAnswer)
  deriving DecidableEq

def loginToken (flow : LoginFlow) (userId : UserId) (hash : TokenHash) (now : Moment)
    (family : FamilyId) (id : TokenId) : RefreshToken where
  id
  userId
  tokenHash := hash
  createdAt := now
  expiresAt := now + flow.lifetime
  revokedAt := none
  familyId := family
  parentTokenId := none
  revocationReason := none

def TokenStore.saveRefreshToken (store : TokenStore) (flow : LoginFlow) (userId : UserId)
    (hash : TokenHash) (now : Moment) : TokenStore :=
  let family := store.freshFamily
  { store.addToken (loginToken flow userId hash now family) fun _ => rfl with
    twaFamilies := if flow = .twa then family :: store.twaFamilies else store.twaFamilies }

def TokenStore.rotate (store : TokenStore) (rotation : Rotation) : TokenStore :=
  (store.revokeRows (·.id = rotation.token.id) rotation.now .rotated).addToken rotation.child
    fun _ => rfl

def performToken (store : TokenStore) : TokenStage → TokenStore × TokenStage
  | .idle => (store, .idle)
  | .issuing flow userId hash now =>
    if store.hashTaken hash then (store, .finished .integrityError)
    else (store.saveRefreshToken flow userId hash now, .finished .ok)
  | .presenting presented source hash now =>
    match store.byHash presented with
    | none => (store, .finished .invalid)
    | some token =>
      if token.active = false then
        if token.revocationReason = some .rotated then (store, .scanning token now)
        else (store, .finished .invalid)
      else if token.unexpired now = false then (store, .finished .invalid)
      else (store, .identifying ⟨token, source, hash, now⟩)
  | .identifying rotation =>
    match store.accounts.find? rotation.token.userId with
    | none => (store, .finished .invalid)
    | some account =>
      if account.status ≠ "approved" then (store, .finished .notApproved)
      else (store, .rotating rotation)
  | .rotating rotation =>
    if store.hashTaken rotation.hash then (store, .finished .integrityError)
    else (store.rotate rotation, .finished .ok)
  | .scanning token now =>
    let members := store.tokens.rows.filter fun row => row.familyId = token.familyId && row.active
    (store, .sweeping token now (members.map (·.id)) [])
  -- a row that another transaction has locked is waited for and looked at again
  | .sweeping token now (id :: found) swept =>
    if ((store.tokens.find? id).any (·.active)) then (store, .sweeping token now found (id :: swept))
    else (store, .sweeping token now found swept)
  | .sweeping _ now [] swept =>
    (store.revokeRows (fun row => swept.contains row.id) now .reuse, .finished .invalid)
  | .reading presented now =>
    match store.byHash presented with
    | none => (store, .finished .ok)
    | some token =>
      if token.active then (store, .revoking token now) else (store, .finished .ok)
  | .revoking token now => (store, .revoked token now)
  | .revoked token now => (store.revokeRows (·.id = token.id) now .logout, .finished .ok)
  | .finished answer => (store, .finished answer)

def TokenStage.locks : TokenStage → List TokenId
  | .identifying rotation => [rotation.token.id]
  | .rotating rotation => [rotation.token.id]
  | .scanning token _ => [token.id]
  | .sweeping token _ _ swept => token.id :: swept
  | .revoked token _ => [token.id]
  | _ => []

def TokenStage.free : TokenStage → Bool
  | .idle => true
  | .finished _ => true
  | _ => false

inductive TokenCall where
  | login (flow : LoginFlow) (userId : UserId) (value : String) (now : Moment)
  | refresh (cookie body : Option String) (value : String) (now : Moment)
  | logout (cookie body : Option String) (now : Moment)

def presentedValue (value : Option String) : Option String := value.filter (· ≠ "")

def tokenValue (cookie body : Option String) : Option (String × TokenSource) :=
  ((presentedValue cookie).map (·, .cookie)).or ((presentedValue body).map (·, .body))

section

variable (hashToken : String → TokenHash)

def TokenCall.start : TokenCall → TokenStage
  | .login flow userId value now => .issuing flow userId (hashToken value) now
  | .refresh cookie body value now =>
    match tokenValue cookie body with
    | none => .finished .noToken
    | some (presented, source) => .presenting (hashToken presented) source (hashToken value) now
  | .logout cookie body now =>
    match tokenValue cookie body with
    | none => .finished .ok
    | some (presented, _) => .reading (hashToken presented) now

theorem TokenCall.start_unlocked (call : TokenCall) : (call.start hashToken).locks = [] := by
  cases call with
  | login flow userId value now => rfl
  | refresh | logout =>
    simp only [TokenCall.start]
    split
    · rfl
    · rfl

def tokenProgram : Program TokenStore TokenStage TokenCall TokenId where
  idle := .idle
  start := TokenCall.start hashToken
  free := TokenStage.free
  perform := performToken
  locks := TokenStage.locks
  idle_unlocked := rfl
  start_unlocked := TokenCall.start_unlocked hashToken

end

def TokenStore.fresh (accounts : Table Account.id) : TokenStore := ⟨accounts, .empty, []⟩

end InfrasafeBot.Auth
