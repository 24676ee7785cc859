import InfrasafeBot.AccessControl.DeviceAuth
import InfrasafeBot.Auth.UserAccounts
import InfrasafeBot.Library.Base64
import InfrasafeBot.Library.Interleaving

/-! Invites (`services/invite_service.py`): the signed token, its validation, and the joins of
users with one token, one statement after the other. -/

set_option autoImplicit false

namespace InfrasafeBot.Auth.Invites

open Library RequestWorkflow UserAccounts AccessControl.DeviceAuth

structure InviteService where
  hmacSha256 : Bytes → Bytes → Bytes
  secret : String
  given : secret ≠ ""

inductive InviteError where
  | valueError (message : String)
  /-- A refusal in the words of `binascii`, of a codec or of an operator. -/
  | failed
  | tokenAlreadyUsed
  | overflow
  deriving DecidableEq

structure Invitation where
  role : String
  createdBy : TelegramId
  specialization : Option String
  hours : Int
  now : ℚ
  /-- `secrets.token_bytes(16)` -/
  random : Bytes
  sixteen : random.length = 16

def requiresSpecialization (role : String) : Bool := role = roleExecutor

def Invitation.nonce (invitation : Invitation) : String :=
  String.ofList (Base64.stripPadding (Base64.urlsafeEncode invitation.random))

def truncate (value : ℚ) : Int := if 0 ≤ value then ⌊value⌋ else ⌈value⌉

def Invitation.expiresAt (invitation : Invitation) : Int :=
  truncate (invitation.now + 3600 * invitation.hours)

/-- The moments that a `datetime` can hold, from the year 1 to 9999. -/
def IsDatetime (moment : ℚ) : Prop := -62135596800 ≤ moment ∧ moment < 253402300800

instance (moment : ℚ) : Decidable (IsDatetime moment) := inferInstanceAs (Decidable (_ ∧ _))

def Invitation.tokenSpecialization (invitation : Invitation) : Option String :=
  if invitation.role = roleExecutor then invitation.specialization.filter fun text => text ≠ ""
  else none

abbrev Payload := List (String × Json)

def Invitation.payload (invitation : Invitation) : Payload :=
  [("role", .string invitation.role), ("expires_at", Json.ofInt invitation.expiresAt),
    ("nonce", .string invitation.nonce), ("created_by", Json.ofInt invitation.createdBy)] ++
  invitation.tokenSpecialization.toList.map fun text => ("specialization", .string (pyStrip text))

namespace InviteService

variable (service : InviteService)

def signature (payloadB64 : List Char) : String :=
  hexdigest (service.hmacSha256 (encode service.secret) (encode (String.ofList payloadB64)))

def tokenStart : List Char := "invite_v1:".toList

def tokenOf (payloadB64 : List Char) : String :=
  String.ofList (tokenStart ++ (payloadB64 ++ '.' :: (service.signature payloadB64).toList))

def encodePayload (payload : Payload) : List Char :=
  Base64.stripPadding (Base64.urlsafeEncode (encode (Json.dumpsAscii (.object payload))))

def generateInvite (invitation : Invitation) : Except InviteError String :=
  if !inviteRoles.contains invitation.role then .error (.valueError ("Invalid role: " ++ invitation.role))
  else if requiresSpecialization invitation.role && invitation.specialization.all fun text => text = "" then
    .error (.valueError "Specialization is required for executor role")
  else if IsDatetime (invitation.now + 3600 * invitation.hours) then
    .ok (service.tokenOf (encodePayload invitation.payload))
  else .error .overflow

def before? (now : ℚ) : Json → Option Bool
  | .bool value => some ((if value then 1 else 0) < now)
  | .number text =>
    if text = "NaN" || text = "Infinity" then some false
    else if text = "-Infinity" then some true
    else some (Json.numberValue text.toList < now)
  | _ => none

def truthy : Json → Bool
  | .null => false
  | .bool value => value
  | .number text => ["NaN", "Infinity", "-Infinity"].contains text || Json.numberValue text.toList ≠ 0
  | .string text => text ≠ ""
  | .array items => !items.isEmpty
  | .object members => !members.isEmpty

def get (payload : Payload) (key : String) : Option Json := payload.reverse.lookup key

def requiredFields : List String := ["role", "expires_at", "nonce", "created_by"]

def checkPayload (now : ℚ) (payload : Payload) : Except InviteError (Payload × Json) :=
  match before? now ((get payload "expires_at").getD (.number "0")) with
  | none => .error .failed
  | some true => .error (.valueError "Token has expired")
  | some false =>
    match (get payload "nonce").filter truthy with
    | none => .error (.valueError "Token missing nonce")
    | some nonce =>
      match requiredFields.find? fun field => (get payload field).isNone with
      | some field => .error (.valueError ("Token missing required field: " ++ field))
      | none =>
        match get payload "role" with
        | some (.string role) =>
          if inviteRoles.contains role then .ok (payload, nonce)
          else .error (.valueError "Invalid role in token")
        | _ => .error (.valueError "Invalid role in token")

def decodePayload (payloadB64 : List Char) : Except InviteError Payload :=
  match Base64.urlsafeDecode (Base64.restorePadding payloadB64) with
  | .error _ => .error .failed
  | .ok bytes =>
    match String.fromUTF8? ⟨bytes.toArray⟩ with
    | none => .error .failed
    | some text =>
      match Json.loads text with
      | none => .error (.valueError "Invalid token payload")
      | some (.object payload) => .ok payload
      | some _ => .error .failed

/-- `validate_invite` up to the look-up of the nonce -/
def checkToken (now : ℚ) (token : String) : Except InviteError (Payload × Json) :=
  if !tokenStart.isPrefixOf token.toList then .error (.valueError "Invalid token format")
  else
    let tokenBody := token.toList.drop tokenStart.length
    if '.' ∉ tokenBody then .error (.valueError "Invalid token structure")
    else
      let (payloadB64, signature) := rsplitOnce '.' tokenBody
      match compareDigest (String.ofList signature) (service.signature payloadB64) with
      | .error _ => .error .failed
      | .ok false => .error (.valueError "Invalid token signature")
      | .ok true => (decodePayload payloadB64).bind (checkPayload now)

structure InviteNonce where
  nonce : String
  usedBy : TelegramId
  deriving DecidableEq

def isNonceUsed (nonces : List InviteNonce) : Json → Bool
  | .string nonce => nonces.any fun record => record.nonce = nonce
  | _ => true

def validateInvite (nonces : List InviteNonce) (now : ℚ) (token : String) : Except InviteError Payload :=
  match service.checkToken now token with
  | .error failure => .error failure
  | .ok (payload, nonce) =>
    if isNonceUsed nonces nonce then .error .tokenAlreadyUsed else .ok payload

end InviteService

structure JoinForm where
  telegramId : TelegramId
  firstName : String
  lastName : String
  specialization : Option String

structure Member extends UserAccounts.Account where
  telegramId : TelegramId
  firstName : String
  lastName : String
  deriving DecidableEq

structure Store where
  nonces : List InviteService.InviteNonce
  users : List Member
  deriving DecidableEq

def Store.knows (store : Store) (telegramId : TelegramId) : Bool :=
  store.users.any fun user => user.telegramId = telegramId

structure Invite where
  role : String
  nonce : String

def joinedMember (invite : Invite) (form : JoinForm) : Member where
  roles := some (Json.dumpsTexts [invite.role])
  activeRole := some invite.role
  status := "pending"
  verificationStatus := "pending"
  specialization := if invite.role = roleExecutor then form.specialization else none
  telegramId := form.telegramId
  firstName := form.firstName
  lastName := form.lastName

inductive JoinAnswer where
  | success
  | alreadyUsed
  | alreadyRegistered
  | invalid (failure : InviteError)
  | error

inductive Stage where
  | idle
  | consuming (invite : Invite) (form : JoinForm)
  | looking (invite : Invite) (form : JoinForm)
  | registering (invite : Invite) (form : JoinForm)
  | registered (invite : Invite) (form : JoinForm)
  | refused (invite : Invite) (form : JoinForm)
  | finished (answer : JoinAnswer)

def Store.use (store : Store) (invite : Invite) (form : JoinForm) : Store :=
  { store with nonces := store.nonces ++ [⟨invite.nonce, form.telegramId⟩] }

def perform (store : Store) : Stage → Store × Stage
  | .idle => (store, .idle)
  | .consuming invite form =>
    (store, if store.nonces.any fun record => record.nonce = invite.nonce then .finished .alreadyUsed
    else .looking invite form)
  | .looking invite form =>
    (store, if store.knows form.telegramId then .refused invite form
    else .registering invite form)
  | .registering invite form =>
    (store, if store.knows form.telegramId then .finished .error
    else .registered invite form)
  | .registered invite form =>
    let used := store.use invite form
    ({ used with users := used.users ++ [joinedMember invite form] }, .finished .success)
  | .refused invite form => (store.use invite form, .finished .alreadyRegistered)
  | .finished answer => (store, .finished answer)

inductive Key where
  | nonce (nonce : String)
  | user (telegramId : TelegramId)
  deriving DecidableEq

def Stage.locks : Stage → List Key
  | .looking invite _ => [.nonce invite.nonce]
  | .registering invite _ => [.nonce invite.nonce]
  | .registered invite form => [.nonce invite.nonce, .user form.telegramId]
  | .refused invite _ => [.nonce invite.nonce]
  | _ => []

def Stage.free : Stage → Bool
  | .idle => true
  | .finished _ => true
  | _ => false

structure Call where
  form : JoinForm
  now : ℚ

section

variable (service : InviteService) (token : String)

def Call.start (call : Call) : Stage :=
  match service.checkToken call.now token with
  | .error failure => .finished (.invalid failure)
  | .ok (payload, .string nonce) =>
    match InviteService.get payload "role" with
    | some (.string role) => .consuming ⟨role, nonce⟩ call.form
    | _ => .finished (.invalid .failed)
  -- No token is generated with a nonce that is no text.
  | .ok _ => .finished (.invalid .failed)

theorem Call.start_unlocked (call : Call) : (call.start service token).locks = [] := by
  unfold Call.start
  split
  · rfl
  · split <;> rfl
  · rfl

def joins : Program Store Stage Call Key where
  idle := .idle
  start := Call.start service token
  free := Stage.free
  perform := perform
  locks := Stage.locks
  idle_unlocked := rfl
  start_unlocked := Call.start_unlocked service token

end

end InfrasafeBot.Auth.Invites
