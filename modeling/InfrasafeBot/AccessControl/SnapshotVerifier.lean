import InfrasafeBot.Library.AsciiJson
import InfrasafeBot.Library.Machine

/-! The check of offline snapshots on the edge (`edge/snapshot_verifier.py`). A verifier keeps one
monotonic time, that of its last `accept` call; the clock of the wall may say anything. -/

set_option autoImplicit false

namespace InfrasafeBot.AccessControl.Snapshots

open Library Machine

/-- The dictionary of a snapshot, as it has been read from its JSON text. -/
abbrev Snapshot := List (String × Json)

/-- What the module takes from `cryptography` and `datetime`: whether the signature in hex
digits is that of the text under the key, and the microseconds of a date, which is one of UTC
where it names no zone. -/
structure Platform where
  ed25519 : String → String → String → Bool
  fromIsoFormat : String → Option Int

def Snapshot.get (snapshot : Snapshot) (name : String) : Json :=
  ((snapshot.find? fun member => member.1 = name).map (·.2)).getD .null

def isText (value : Json) (expected : String) : Bool :=
  match value with
  | .string text => text = expected
  | _ => false

def truthy : Json → Bool
  | .null => false
  | .bool value => value
  | .number text => Json.numberValue text.toList ≠ 0
  | .string text => text ≠ ""
  | .array items => !items.isEmpty
  | .object members => !members.isEmpty

def canonicalPayload (snapshot : Snapshot) : String :=
  Json.dumpsAscii (.object (snapshot.filter fun member => member.1 ≠ "signature"))

inductive RejectReason where
  | clockDriftExceeded
  | unknownKeyId
  | badSignature
  | controllerUidMismatch
  | offlineModeForbidden
  | grantFieldsForbidden
  | lifetimeTooLong
  | issuedInFuture
  | expired
  | monotonicExpired
  deriving DecidableEq

structure VerifyResult where
  accepted : Bool
  entryAllowed : Bool
  state : String
  reason : Option RejectReason
  deriving DecidableEq

inductive Raised where
  | typeError
  deriving DecidableEq

def failClosed : String := "fail_closed"

def rejectedFor (reason : RejectReason) : VerifyResult := ⟨false, false, failClosed, some reason⟩

def valid : VerifyResult := ⟨true, false, failClosed, none⟩

def maxLifetime : Int := 15 * 60 * 1000000

def maxFutureIssued : Int := 5 * 1000000

def forbiddenGrantFields : List String := ["vehicles", "plates", "passes", "grants"]

structure Verifier where
  keyId : String
  publicKey : String
  expectedControllerUid : Option String
  maxAgeSeconds : Int
  maxDriftSeconds : Int

section

variable (platform : Platform) (verifier : Verifier) (snapshot : Snapshot) (now : Int) (drift : ℚ)

def verifySignature (publicKey : String) : Bool :=
  match snapshot.get "signature" with
  | .string signature => signature ≠ "" && platform.ed25519 publicKey signature (canonicalPayload snapshot)
  -- what is no text raises, which is caught
  | _ => false

def parseDt (value : Json) : Except Raised (Option Int) :=
  match value with
  | .string text => .ok (if text = "" then none else platform.fromIsoFormat text)
  | other => if truthy other then .error .typeError else .ok none

def wallProblem : Except Raised (Option RejectReason) :=
  if (verifier.maxDriftSeconds : ℚ) < |drift| then .ok (some .clockDriftExceeded)
  else if !isText (snapshot.get "key_id") verifier.keyId then .ok (some .unknownKeyId)
  else if !verifySignature platform snapshot verifier.publicKey then .ok (some .badSignature)
  else if verifier.expectedControllerUid.any fun uid =>
      !isText (snapshot.get "controller_uid") uid then .ok (some .controllerUidMismatch)
  else if !isText (snapshot.get "offline_mode") failClosed then .ok (some .offlineModeForbidden)
  else if snapshot.any fun member => forbiddenGrantFields.contains member.1 then
    .ok (some .grantFieldsForbidden)
  else do
    let issuedAt ← parseDt platform (snapshot.get "issued_at")
    let expiresAt ← parseDt platform (snapshot.get "expires_at")
    if issuedAt.any fun issued => expiresAt.any fun expires => maxLifetime < expires - issued then
      return some .lifetimeTooLong
    if issuedAt.any fun issued => maxFutureIssued < issued - now then return some .issuedInFuture
    if expiresAt.all (· ≤ now) then return some .expired
    return none

def verifySnapshot (received : Option ℚ) (monotonic : ℚ) : Except Raised VerifyResult := do
  match ← wallProblem platform verifier snapshot now drift with
  | some reason => return rejectedFor reason
  | none =>
    if received.any fun received => (verifier.maxAgeSeconds : ℚ) < monotonic - received then
      return rejectedFor .monotonicExpired
    return valid

end

/-- A call with what the clocks say: `accept` reads the monotonic one when it is called and again
when it has verified the rest. -/
inductive Call where
  | accept (snapshot : Snapshot) (now : Int) (drift received verified : ℚ)
  | recheck (snapshot : Snapshot) (now : Int) (drift monotonic : ℚ)

def Call.readings : Call → List ℚ
  | .accept _ _ _ received verified => [received, verified]
  | .recheck _ _ _ monotonic => [monotonic]

/-- The monotonic clock does not go back. -/
def Clocked (calls : List Call) : Prop := (calls.flatMap Call.readings).Pairwise (· ≤ ·)

instance clockedDecidable (calls : List Call) : Decidable (Clocked calls) :=
  inferInstanceAs (Decidable ((calls.flatMap Call.readings).Pairwise (· ≤ ·)))

def next (received : Option ℚ) : Call → Option ℚ
  | .accept _ _ _ now _ => some now
  | .recheck _ _ _ _ => received

section

variable (platform : Platform) (verifier : Verifier)

def outcome (received : Option ℚ) : Call → Except Raised VerifyResult
  | .accept snapshot now drift called verified =>
    verifySnapshot platform verifier snapshot now drift (some called) verified
  | .recheck snapshot now drift monotonic =>
    verifySnapshot platform verifier snapshot now drift received monotonic

/-- The call is an `accept` of the snapshot at that time, which has returned accepted. -/
def Accepts (snapshot : Snapshot) (time : ℚ) (call : Call) : Prop :=
  ∃ now drift verified, call = .accept snapshot now drift time verified ∧
    verifySnapshot platform verifier snapshot now drift (some time) verified = .ok valid

/-- The first `accept` call that has accepted the snapshot was made at that time. -/
def FirstAccepted (calls : List Call) (snapshot : Snapshot) (time : ℚ) : Prop :=
  ∃ before call after, calls = before ++ call :: after ∧
    Accepts platform verifier snapshot time call ∧
      ∀ earlier ∈ before, ∀ other, ¬ Accepts platform verifier snapshot other earlier

/-- Some time ago, but not longer than a snapshot may be used. -/
def Recent (monotonic time : ℚ) : Prop := monotonic - time ≤ verifier.maxAgeSeconds

instance recentDecidable (monotonic time : ℚ) : Decidable (Recent verifier monotonic time) :=
  inferInstanceAs (Decidable (monotonic - time ≤ verifier.maxAgeSeconds))

/-- What a recheck accepts has been accepted before, for the first time not long ago. -/
def RollbackProof (calls : List Call) : Prop :=
  ∀ before snapshot now drift monotonic after,
    calls = before ++ .recheck snapshot now drift monotonic :: after →
    outcome platform verifier (run next none before) (.recheck snapshot now drift monotonic) = .ok valid →
      ∃ time, FirstAccepted platform verifier before snapshot time ∧ Recent verifier monotonic time

def lastReceived (calls : List Call) : Option ℚ := run next none calls

/-- Where the snapshot of a recheck passes the other checks, there has been an `accept` call, and
where the last one was not long ago, the first one that has accepted the snapshot was not
either. -/
def OwnTime (calls : List Call) : Prop :=
  ∀ before snapshot now drift monotonic after,
    calls = before ++ .recheck snapshot now drift monotonic :: after →
    wallProblem platform verifier snapshot now drift = .ok none →
      ∃ last, lastReceived before = some last ∧ (Recent verifier monotonic last →
        ∃ time, FirstAccepted platform verifier before snapshot time ∧ Recent verifier monotonic time)

end

section

variable {platform : Platform} {verifier : Verifier} {snapshot : Snapshot} {now : Int}
  {drift monotonic : ℚ} {received : Option ℚ} {calls : List Call}

theorem rejectedFor_ne_valid (reason : RejectReason) : rejectedFor reason ≠ valid := by
  intro same
  cases congrArg VerifyResult.accepted same

theorem verifySnapshot_valid :
    verifySnapshot platform verifier snapshot now drift received monotonic = .ok valid ↔
      wallProblem platform verifier snapshot now drift = .ok none ∧
        ∀ time, received = some time → Recent verifier monotonic time := by
  unfold verifySnapshot
  cases walled : wallProblem platform verifier snapshot now drift with
  | error raised => simp [bind, Except.bind]
  | ok problem =>
    cases problem with
    | some reason => simp [bind, Except.bind, pure, Except.pure, rejectedFor_ne_valid reason]
    | none =>
      cases received with
      | none => simp [bind, Except.bind, pure, Except.pure]
      | some time =>
        by_cases old : (verifier.maxAgeSeconds : ℚ) + time < monotonic
        · simp [bind, Except.bind, pure, Except.pure, Recent, rejectedFor_ne_valid]
        · simp [bind, Except.bind, pure, Except.pure, Recent, not_lt.mp old]

theorem recheck_valid (before : List Call) :
    outcome platform verifier (run next none before) (.recheck snapshot now drift monotonic) = .ok valid ↔
      wallProblem platform verifier snapshot now drift = .ok none ∧
        ∀ last, lastReceived before = some last → Recent verifier monotonic last :=
  verifySnapshot_valid

theorem received_of_some (calls : List Call) : ∀ {received : Option ℚ} {time : ℚ},
    received = some time → run next received calls ≠ none := by
  induction calls with
  | nil =>
    intro received time kept missing
    cases kept.symm.trans missing
  | cons call rest ih =>
    intro received time kept
    cases call with
    | accept snapshot now drift called verified => exact ih rfl
    | recheck snapshot now drift monotonic => exact ih kept

/-- A run is proof against a clock that is turned back exactly where the time that is kept
speaks for the snapshot of every recheck. -/
theorem rollbackProof_iff : RollbackProof platform verifier calls ↔ OwnTime platform verifier calls := by
  constructor
  · intro proof before snapshot now drift monotonic after split passes
    have bounded := proof before snapshot now drift monotonic after split
    rw [recheck_valid] at bounded
    cases kept : lastReceived before with
    | none =>
      -- without an `accept` call nothing has been accepted
      obtain ⟨time, ⟨earlier, call, later, whole, ⟨_, _, _, own, _⟩, _⟩, _⟩ :=
        bounded ⟨passes, fun last found => by cases kept.symm.trans found⟩
      have received : lastReceived before ≠ none := by
        rw [whole, own, lastReceived, run_append, run_cons]
        exact received_of_some later rfl
      exact absurd kept received
    | some last =>
      refine ⟨last, rfl, fun recent => bounded ⟨passes, fun other found => ?_⟩⟩
      cases kept.symm.trans found
      exact recent
  · intro own before snapshot now drift monotonic after split accepted
    obtain ⟨passes, recent⟩ := (recheck_valid before).mp accepted
    obtain ⟨last, kept, speaks⟩ := own before snapshot now drift monotonic after split passes
    exact speaks (recent last kept)

end

def oneKey : Platform where
  ed25519 _ signature _ := signature = "aa"
  fromIsoFormat text :=
    if text = "2026-01-01T10:00:00+00:00" then some 0
    else if text = "2026-01-01T10:15:00+00:00" then some maxLifetime
    else none

def pilot : Verifier := ⟨"pilot-1", "b0", none, 900, 30⟩

def issuedSnapshot : Snapshot :=
  [("key_id", .string "pilot-1"), ("offline_mode", .string failClosed),
    ("issued_at", .string "2026-01-01T10:00:00+00:00"),
    ("expires_at", .string "2026-01-01T10:15:00+00:00"), ("signature", .string "aa")]

/-- An empty snapshot is refused in between, and the clock of the wall stands still. -/
def renewedCalls : List Call :=
  [.accept issuedSnapshot 0 0 0 0, .accept [] 0 0 800 800, .recheck issuedSnapshot 0 0 1600]

theorem revived_by_other :
    ¬ ∀ (platform : Platform) (verifier : Verifier) (calls : List Call), Clocked calls →
      RollbackProof platform verifier calls := by
  intro proof
  obtain ⟨time, ⟨earlier, call, later, split, ⟨now, drift, verified, own, _⟩, _⟩, recent⟩ :=
    proof oneKey pilot renewedCalls (by decide +kernel)
      [.accept issuedSnapshot 0 0 0 0, .accept [] 0 0 800 800] issuedSnapshot 0 0 1600 [] rfl
      (by decide +kernel)
  have listed : call ∈ [Call.accept issuedSnapshot 0 0 0 0, .accept [] 0 0 800 800] :=
    split ▸ List.mem_append_right _ List.mem_cons_self
  rw [own] at listed
  rcases List.mem_cons.mp listed with same | other
  · cases same
    exact absurd recent (by decide +kernel)
  · cases List.mem_singleton.mp other

end InfrasafeBot.AccessControl.Snapshots
