import Mathlib.Data.List.AList
import Mathlib.Data.NNRat.Floor
import InfrasafeBot.AccessControl.Equipment

/-! The authentication of the signed requests of the edge (`services/device_auth.py`) and the
nonces that keep a request from being replayed. -/

set_option autoImplicit false

namespace InfrasafeBot.AccessControl.DeviceAuth

open Library

abbrev Bytes := List UInt8

def encode (text : String) : Bytes := text.toUTF8.data.toList

def hexdigest (digest : Bytes) : String :=
  String.ofList (digest.flatMap fun byte =>
    [Nat.digitChar (byte.toNat / 16), Nat.digitChar (byte.toNat % 16)])

/-- What the module takes from `hashlib`, `hmac`, `ipaddress`, `os.environ` and from Redis:
`persists` tells for a key set at a time with a lifetime in seconds whether it is still there
at another. -/
structure Platform where
  upper : String → String
  sha256 : Bytes → Bytes
  hmacSha256 : Bytes → Bytes → Bytes
  inNetwork : String → String → Bool
  environ : String → Option String
  persists : ℚ≥0 → Int → ℚ≥0 → Bool

def keepEntries {Value : Type} (condition : Value → Bool) (dict : AList fun _ : String => Value) :
    AList fun _ : String => Value where
  entries := dict.entries.filter fun entry => condition entry.2
  nodupKeys := dict.nodupKeys.sublist List.filter_sublist

/-- In memory a nonce has its expiry, in Redis the time it was set and its lifetime. -/
inductive NonceStore where
  | inMemory (seen : AList fun _ : String => ℚ)
  | redis (keys : AList fun _ : String => ℚ≥0 × Int)

inductive Backend where
  | memory
  | redis

def NonceStore.backend : NonceStore → Backend
  | .inMemory _ => .memory
  | .redis _ => .redis

def NonceStore.empty : Backend → NonceStore
  | .memory => .inMemory ∅
  | .redis => .redis ∅

inductive AuthFailure where
  | deviceAuthError (statusCode : Nat) (detail : String)
  | runtimeError (message : String)
  | typeError
  /-- Redis refuses a lifetime that is not positive. -/
  | responseError

def cleaned (seen : AList fun _ : String => ℚ) (now : ℚ≥0) : AList fun _ : String => ℚ :=
  if seen.entries.length > 4096 then keepEntries (now < ·) seen else seen

section

variable (platform : Platform)

def NonceStore.live (key : String) (now : ℚ≥0) : NonceStore → Bool
  | .inMemory seen => (seen.lookup key).any ((now : ℚ) < ·)
  | .redis keys => (keys.lookup key).any fun entry => platform.persists entry.1 entry.2 now

/-- True if the nonce has been seen; else it is stored. -/
def NonceStore.seen (store : NonceStore) (key : String) (ttlSeconds : Int) (now : ℚ≥0) :
    Except AuthFailure Bool × NonceStore :=
  match store with
  | .inMemory dict =>
    let dict := cleaned dict now
    if (dict.lookup key).any ((now : ℚ) < ·) then (.ok true, .inMemory dict)
    else (.ok false, .inMemory (dict.insert key (now + ttlSeconds)))
  | .redis keys =>
    if ttlSeconds ≤ 0 then (.error .responseError, .redis keys)
    else if (keys.lookup key).any fun entry => platform.persists entry.1 entry.2 now then
      (.ok true, .redis keys)
    else (.ok false, .redis (keys.insert key (now, ttlSeconds)))

end

inductive EdgeControllerStatus where
  | active
  | inactive
  | decommissioned
  deriving DecidableEq

/-- The JSON of `ip_allowlist`: a list, with its items as texts, or another value as a text. -/
inductive IpAllowlist where
  | entries (items : List String)
  | text (value : String)

structure EdgeController extends AccessControl.EdgeController where
  isActive : Bool
  status : EdgeControllerStatus
  apiKeyHash : Option String
  ipAllowlist : Option IpAllowlist

structure EdgeRequest where
  method : String
  path : String
  body : Bytes
  headers : String → Option String
  clientIp : Option String

structure Credentials where
  controllerUid : String
  apiKey : String
  timestampRaw : String
  nonce : String
  signature : String

def headerController : String := "x-ac-controller"
def headerKey : String := "x-ac-key"
def headerTimestamp : String := "x-ac-timestamp"
def headerNonce : String := "x-ac-nonce"
def headerSignature : String := "x-ac-signature"

def given (headers : String → Option String) (name : String) : Option String :=
  (headers name).filter (· ≠ "")

def credentials (headers : String → Option String) : Option Credentials := do
  let controllerUid ← given headers headerController
  let apiKey ← given headers headerKey
  let timestampRaw ← given headers headerTimestamp
  let nonce ← given headers headerNonce
  let signature ← given headers headerSignature
  return ⟨controllerUid, apiKey, timestampRaw, nonce, signature⟩

def genericAuthDetail : String := "unauthorized"

def unauthorized : AuthFailure := .deviceAuthError 401 genericAuthDetail

/-- `hmac.compare_digest` of two texts, which have to be ASCII. -/
def compareDigest (left right : String) : Except AuthFailure Bool :=
  if left.toList.all (·.toNat < 128) && right.toList.all (·.toNat < 128) then .ok (left = right)
  else .error .typeError

def hmacSeedEnv : String := "ACCESS_DEVICE_HMAC_SEED"

section

variable (platform : Platform)

def hashApiKey (apiKey : String) : String := hexdigest (platform.sha256 (encode apiKey))

def hmacSeed : Except AuthFailure String :=
  match (platform.environ hmacSeedEnv).filter (· ≠ "") with
  | some seed => .ok seed
  | none => .error (.runtimeError (hmacSeedEnv ++
      " (или per-device ACCESS_DEVICE_SECRET__<ref>) не задан: " ++
      "общий дефолтный HMAC-сид в коде запрещён (§9.1, §11)."))

def resolveDeviceSecret (secretRef : String) : Except AuthFailure Bytes :=
  match (platform.environ ("ACCESS_DEVICE_SECRET__" ++ secretRef)).filter (· ≠ "") with
  | some override => .ok (encode override)
  | none => (hmacSeed platform).map fun seed => platform.sha256 (encode (seed ++ ":" ++ secretRef))

def bodyHash (body : Bytes) : String := hexdigest (platform.sha256 body)

def canonicalString (method path : String) (timestamp : Int) (nonce : String) (body : Bytes) : String :=
  "\n".intercalate
    [platform.upper method, path, toString timestamp, nonce, bodyHash platform body]

def computeSignature (secret : Bytes) (canonical : String) : String :=
  hexdigest (platform.hmacSha256 secret (encode canonical))

def signRequest (method path : String) (body : Bytes) (controllerUid apiKey : String)
    (secret : Bytes) (timestamp : Int) (nonce : String) (name : String) : Option String :=
  if name = headerController then some controllerUid
  else if name = headerKey then some apiKey
  else if name = headerTimestamp then some (toString timestamp)
  else if name = headerNonce then some nonce
  else if name = headerSignature then
    some (computeSignature platform secret (canonicalString platform method path timestamp nonce body))
  else none

def ipEntryMatches (clientIp : Option String) (entry : String) : Bool :=
  match clientIp with
  | none => false
  | some ip => ip = entry || platform.inNetwork ip entry

def clientIpAllowed (controller : EdgeController) (clientIp : Option String) : Bool :=
  match controller.ipAllowlist with
  | none => true
  | some (.entries []) => true
  | some (.text "") => true
  | some (.entries items) => ((items.map pyStrip).filter (· ≠ "")).any (ipEntryMatches platform clientIp)
  | some (.text value) => (splitStripped ',' value).any (ipEntryMatches platform clientIp)

def findController (controllers : List EdgeController) (controllerUid : String) : Option EdgeController :=
  controllers.find? fun controller =>
    controller.controllerUid = controllerUid && controller.isActive && controller.status = .active

def stale (now : ℚ≥0) (timestamp timestampWindowSeconds : Int) : Bool :=
  |(⌊now⌋₊ : Int) - timestamp| > timestampWindowSeconds

def verify (timestampWindowSeconds : Int) (controllers : List EdgeController) (now : ℚ≥0)
    (request : EdgeRequest) (presented : Credentials) : Except AuthFailure EdgeController := do
  let controller ← (findController controllers presented.controllerUid).elim
    (.error unauthorized) .ok
  if !clientIpAllowed platform controller request.clientIp then
    .error (.deviceAuthError 403 "client ip not allowed")
  else
    let known ← compareDigest (hashApiKey platform presented.apiKey)
      (controller.apiKeyHash.getD "")
    if !known then .error unauthorized
    else
      let timestamp ← (pyInt presented.timestampRaw).elim (.error unauthorized) .ok
      if stale now timestamp timestampWindowSeconds then .error unauthorized
      else
        -- The pilot has no column `hmac_secret_ref`; the controller's name is the reference.
        let secret ← resolveDeviceSecret platform controller.controllerUid
        let expected := computeSignature platform secret
          (canonicalString platform request.method request.path timestamp presented.nonce request.body)
        let signed ← compareDigest expected presented.signature
        if signed then .ok controller else .error unauthorized

def nonceKey (presented : Credentials) : String := presented.controllerUid ++ ":" ++ presented.nonce

/-- A request with the time of its call and the controllers of the database by then. -/
structure Call where
  time : ℚ≥0
  controllers : List EdgeController
  request : EdgeRequest

variable (timestampWindowSeconds nonceTtlSeconds : Int)

def authenticate (store : NonceStore) (call : Call) : Except AuthFailure EdgeController × NonceStore :=
  match credentials call.request.headers with
  | none => (.error (.deviceAuthError 401 "missing device credentials"), store)
  | some presented =>
    match verify platform timestampWindowSeconds call.controllers call.time call.request
        presented with
    | .error failure => (.error failure, store)
    | .ok controller =>
      match store.seen platform (nonceKey presented) nonceTtlSeconds call.time with
      | (.error failure, store) => (.error failure, store)
      | (.ok true, store) => (.error unauthorized, store)
      | (.ok false, store) => (.ok controller, store)

def acceptedCalls (store : NonceStore) : List Call → List Call
  | [] => []
  | call :: rest =>
    match authenticate platform timestampWindowSeconds nonceTtlSeconds store call with
    | (.ok _, store) => call :: acceptedCalls store rest
    | (.error _, store) => acceptedCalls store rest

end

end InfrasafeBot.AccessControl.DeviceAuth
