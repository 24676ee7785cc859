import InfrasafeBot.AccessControl.DeviceAuth
import InfrasafeBot.Library.Computation

/-! How long a nonce is remembered against how long its request stays fresh: a request is
accepted once exactly where the nonce outlives twice the window. -/

set_option autoImplicit false

namespace InfrasafeBot.AccessControl.DeviceAuth

open Library

theorem lookup_keepEntries {Value : Type} (condition : Value → Bool)
    (dict : AList fun _ : String => Value) (key : String) :
    (keepEntries condition dict).lookup key = (dict.lookup key).filter condition := by
  apply Option.ext
  intro value
  rw [← Option.mem_def, AList.mem_lookup_iff, Option.filter_eq_some_iff, ← Option.mem_def,
    AList.mem_lookup_iff]
  simp [keepEntries]

theorem lookup_cleaned_any (seen : AList fun _ : String => ℚ) (key : String)
    {now later : ℚ≥0} (after : now ≤ later) :
    ((cleaned seen now).lookup key).any ((later : ℚ) < ·) =
      (seen.lookup key).any ((later : ℚ) < ·) := by
  unfold cleaned
  split
  · rw [lookup_keepEntries]
    cases seen.lookup key with
    | none => rfl
    | some expires =>
      by_cases alive : (now : ℚ) < expires
      · simp [Option.filter, alive]
      · have order : (now : ℚ) ≤ later := NNRat.coe_le_coe.mpr after
        have dead : ¬ (later : ℚ) < expires := fun still => alive (order.trans_lt still)
        simp [Option.filter, alive, dead]
  · rfl

def Platform.KeepsKeys (platform : Platform) : Prop :=
  ∀ (setAt now : ℚ≥0) (ttl : Int), 0 < ttl → setAt ≤ now → (now : ℚ) < setAt + ttl →
    platform.persists setAt ttl now = true

def Platform.DropsKeys (platform : Platform) : Prop :=
  ∀ (setAt now : ℚ≥0) (ttl : Int), 0 < ttl → (setAt : ℚ) + ttl + 1 / 1000 ≤ now →
    platform.persists setAt ttl now = false

section

variable {platform : Platform} {store after : NonceStore} {key : String} {ttl : Int} {now : ℚ≥0}

variable {answer : Except AuthFailure Bool} {later : ℚ≥0} {other : String}

theorem live_of_seen (asked : store.seen platform key ttl now = (answer, after))
    (refused : answer ≠ .ok false) (order : now ≤ later) :
    after.live platform other later = store.live platform other later := by
  cases store with
  | inMemory dict =>
    simp only [NonceStore.seen] at asked
    split at asked
    · cases asked
      exact lookup_cleaned_any dict other order
    · cases asked
      exact absurd rfl refused
  | redis keys =>
    simp only [NonceStore.seen] at asked
    split at asked
    · cases asked
      rfl
    · split at asked
      · cases asked
        rfl
      · cases asked
        exact absurd rfl refused

theorem not_live_of_new (asked : store.seen platform key ttl now = (.ok false, after)) :
    store.live platform key now = false := by
  cases store with
  | inMemory dict =>
    simp only [NonceStore.seen, lookup_cleaned_any dict key le_rfl] at asked
    split at asked
    · cases asked
    · next missing => exact Bool.not_eq_true _ ▸ missing
  | redis keys =>
    simp only [NonceStore.seen] at asked
    split at asked
    · cases asked
    · split at asked
      · cases asked
      · next missing => exact Bool.not_eq_true _ ▸ missing

theorem live_of_ne (different : other ≠ key)
    (asked : store.seen platform key ttl now = (.ok false, after)) (order : now ≤ later) :
    after.live platform other later = store.live platform other later := by
  cases store with
  | inMemory dict =>
    simp only [NonceStore.seen] at asked
    split at asked
    · cases asked
    · cases asked
      simp only [NonceStore.live, AList.lookup_insert_ne different]
      exact lookup_cleaned_any dict other order
  | redis keys =>
    simp only [NonceStore.seen] at asked
    split at asked
    · cases asked
    · split at asked
      · cases asked
      · cases asked
        simp only [NonceStore.live, AList.lookup_insert_ne different]

theorem live_of_new (kept : platform.KeepsKeys)
    (asked : store.seen platform key ttl now = (.ok false, after)) (order : now ≤ later)
    (early : (later : ℚ) < now + ttl) : after.live platform key later = true := by
  cases store with
  | inMemory dict =>
    simp only [NonceStore.seen] at asked
    split at asked
    · cases asked
    · cases asked
      simpa [NonceStore.live] using early
  | redis keys =>
    simp only [NonceStore.seen] at asked
    split at asked
    · cases asked
    · next positive =>
        split at asked
        · cases asked
        · cases asked
          simpa [NonceStore.live] using kept now later ttl (by omega) order early

theorem backend_of_seen (asked : store.seen platform key ttl now = (answer, after)) :
    after.backend = store.backend := by
  cases store with
  | inMemory dict =>
    simp only [NonceStore.seen] at asked
    split at asked <;> cases asked <;> rfl
  | redis keys =>
    simp only [NonceStore.seen] at asked
    split at asked
    · cases asked
      rfl
    · split at asked <;> cases asked <;> rfl

theorem pos_of_new (asked : store.seen platform key ttl now = (.ok false, after))
    (redis : store.backend = .redis) : 0 < ttl := by
  cases store with
  | inMemory dict => cases redis
  | redis keys =>
    simp only [NonceStore.seen] at asked
    split at asked
    · cases asked
    · next positive => omega

theorem new_of_not_live (missing : store.live platform key now = false)
    (taken : store.backend = .redis → 0 < ttl) :
    ∃ after, store.seen platform key ttl now = (.ok false, after) := by
  cases store with
  | inMemory dict =>
    refine ⟨.inMemory ((cleaned dict now).insert key (now + ttl)), ?_⟩
    rw [NonceStore.live, ← lookup_cleaned_any dict key le_rfl] at missing
    simp only [NonceStore.seen, missing, Bool.false_eq_true, if_false]
  | redis keys =>
    refine ⟨.redis (keys.insert key (now, ttl)), ?_⟩
    have positive : ¬ ttl ≤ 0 := not_le.mpr (taken rfl)
    rw [NonceStore.live] at missing
    simp only [NonceStore.seen, if_neg positive, missing, Bool.false_eq_true, if_false]

theorem not_live_of_expired (drops : platform.DropsKeys)
    (asked : store.seen platform key ttl now = (.ok false, after))
    (late : (now : ℚ) + ttl + 1 / 1000 ≤ later) : after.live platform key later = false := by
  cases store with
  | inMemory dict =>
    simp only [NonceStore.seen] at asked
    split at asked
    · cases asked
    · cases asked
      have gone : (now : ℚ) + ttl ≤ later := by linarith
      simpa [NonceStore.live] using gone
  | redis keys =>
    have positive := pos_of_new asked rfl
    simp only [NonceStore.seen] at asked
    split at asked
    · cases asked
    · split at asked
      · cases asked
      · cases asked
        simpa [NonceStore.live] using drops now later ttl positive late

end

section

variable {platform : Platform} {window ttl : Int} {store after : NonceStore} {call : Call}

variable {controller : EdgeController} {now : ℚ≥0} {presented : Credentials} {key : String}
  {first second : Call} {calls : List Call}

theorem verify_ok {controllers : List EdgeController} {request : EdgeRequest}
    (verified : verify platform window controllers now request presented = .ok controller) :
    ∃ timestamp, pyInt presented.timestampRaw = some timestamp ∧
      stale now timestamp window = false := by
  simp only [verify] at verified
  obtain ⟨_, _, verified⟩ := bind_eq_ok_iff.mp verified
  split at verified
  · cases verified
  · obtain ⟨_, _, verified⟩ := bind_eq_ok_iff.mp verified
    split at verified
    · cases verified
    · obtain ⟨timestamp, written, verified⟩ := bind_eq_ok_iff.mp verified
      split at verified
      · cases verified
      · next fresh =>
          refine ⟨timestamp, ?_, Bool.not_eq_true _ ▸ fresh⟩
          cases read : pyInt presented.timestampRaw with
          | none =>
            rw [read] at written
            cases written
          | some number =>
            rw [read] at written
            cases written
            rfl

def Call.nonceKey (call : Call) : Option String :=
  (credentials call.request.headers).map DeviceAuth.nonceKey

def Call.identity (call : Call) : Option (String × Option Int × String) :=
  (credentials call.request.headers).map fun presented =>
    (presented.controllerUid, pyInt presented.timestampRaw, presented.nonce)

def Call.Fresh (call : Call) (window : Int) : Prop :=
  ∃ controllerUid timestamp nonce, call.identity = some (controllerUid, some timestamp, nonce) ∧
    stale call.time timestamp window = false

theorem authenticate_ok
    (accepted : authenticate platform window ttl store call = (.ok controller, after)) :
    call.Fresh window ∧ ∃ key, call.nonceKey = some key ∧
      store.seen platform key ttl call.time = (.ok false, after) := by
  unfold authenticate at accepted
  split at accepted
  · cases accepted
  · next presented read =>
      split at accepted
      · cases accepted
      · next verified =>
          obtain ⟨timestamp, written, fresh⟩ := verify_ok verified
          split at accepted
          · cases accepted
          · cases accepted
          · next asked =>
              cases accepted
              refine ⟨⟨presented.controllerUid, timestamp, presented.nonce, ?_, fresh⟩,
                nonceKey presented, by rw [Call.nonceKey, read]; rfl, asked⟩
              rw [Call.identity, read, Option.map_some, written]

theorem authenticate_of_verified (read : credentials call.request.headers = some presented)
    (verified : verify platform window call.controllers call.time call.request presented = .ok controller)
    (asked : store.seen platform (nonceKey presented) ttl call.time = (.ok false, after)) :
    authenticate platform window ttl store call = (.ok controller, after) := by
  simp only [authenticate, read, verified, asked]

theorem live_of_rejected {failure : AuthFailure} {later : ℚ≥0}
    (rejected : authenticate platform window ttl store call = (.error failure, after))
    (order : call.time ≤ later) :
    after.live platform key later = store.live platform key later := by
  unfold authenticate at rejected
  split at rejected
  · cases rejected
    rfl
  · split at rejected
    · cases rejected
      rfl
    · split at rejected
      · next asked =>
          cases rejected
          exact live_of_seen asked (by simp) order
      · next asked =>
          cases rejected
          exact live_of_seen asked (by simp) order
      · cases rejected

theorem backend_of_authenticate :
    (authenticate platform window ttl store call).2.backend = store.backend := by
  unfold authenticate
  split
  · rfl
  · split
    · rfl
    · split
      · next asked => exact backend_of_seen asked
      · next asked => exact backend_of_seen asked
      · next asked => exact backend_of_seen asked

theorem nonceKey_of_identity (same : first.identity = second.identity) :
    first.nonceKey = second.nonceKey := by
  unfold Call.identity at same
  unfold Call.nonceKey
  cases left : credentials first.request.headers with
  | none =>
    cases right : credentials second.request.headers with
    | none => rfl
    | some other => simp [left, right] at same
  | some presented =>
    cases right : credentials second.request.headers with
    | none => simp [left, right] at same
    | some other =>
      simp only [left, right, Option.map_some, Option.some.injEq, Prod.mk.injEq] at same
      simp [DeviceAuth.nonceKey, same.1, same.2.2]

theorem stale_eq_false_iff {timestamp : Int} :
    stale now timestamp window = false ↔
      timestamp - window ≤ ⌊now⌋₊ ∧ (⌊now⌋₊ : Int) ≤ timestamp + window := by
  rw [stale, decide_eq_false_iff_not, not_lt, abs_le]
  constructor <;> rintro ⟨lower, upper⟩ <;> constructor <;> omega

theorem close_of_fresh (earlier : first.Fresh window) (later : second.Fresh window)
    (same : first.identity = second.identity) :
    0 ≤ window ∧ (second.time : ℚ) < first.time + (2 * window + 1 : Int) := by
  obtain ⟨_, timestamp, _, named, fresh⟩ := earlier
  obtain ⟨_, other, _, renamed, stillFresh⟩ := later
  have agree : timestamp = other := by
    rw [named, renamed] at same
    simp only [Option.some.injEq, Prod.mk.injEq] at same
    exact same.2.1
  subst agree
  rw [stale_eq_false_iff] at fresh stillFresh
  refine ⟨by omega, ?_⟩
  have whole : (⌊second.time⌋₊ : Int) + 1 ≤ ⌊first.time⌋₊ + (2 * window + 1) := by omega
  have below : (⌊first.time⌋₊ : ℚ) ≤ first.time := by
    exact_mod_cast Nat.floor_le zero_le
  have above : (second.time : ℚ) < ⌊second.time⌋₊ + 1 := by
    exact_mod_cast Nat.lt_floor_add_one second.time
  have cast :
      ((⌊second.time⌋₊ : Int) + 1 : ℚ) ≤ (⌊first.time⌋₊ : Int) + (2 * window + 1 : Int) := by
    exact_mod_cast whole
  simp only [Int.cast_natCast] at cast
  linarith

theorem fresh_of_accepted (listed : call ∈ acceptedCalls platform window ttl store calls) :
    call ∈ calls ∧ call.Fresh window := by
  induction calls generalizing store with
  | nil => cases listed
  | cons head rest ih =>
    rw [acceptedCalls] at listed
    split at listed
    · next outcome =>
        rcases List.mem_cons.mp listed with rfl | later
        · exact ⟨List.mem_cons_self, (authenticate_ok outcome).1⟩
        · exact ⟨List.mem_cons_of_mem _ (ih later).1, (ih later).2⟩
    · exact ⟨List.mem_cons_of_mem _ (ih listed).1, (ih listed).2⟩

theorem late_of_live {start : ℚ≥0} {bound : ℚ}
    (live : ∀ later : ℚ≥0, start ≤ later → (later : ℚ) < bound →
      store.live platform key later = true) (ordered : (calls.map (·.time)).Pairwise (· ≤ ·))
    (since : ∀ call ∈ calls, start ≤ call.time)
    (listed : call ∈ acceptedCalls platform window ttl store calls)
    (same : call.nonceKey = some key) : bound ≤ call.time := by
  induction calls generalizing store start with
  | nil => cases listed
  | cons head rest ih =>
    obtain ⟨first, restOrdered⟩ := List.pairwise_cons.mp ordered
    have begun : start ≤ head.time := since head List.mem_cons_self
    have restSince : ∀ call ∈ rest, head.time ≤ call.time := fun later member =>
      first later.time (List.mem_map_of_mem member)
    rw [acceptedCalls] at listed
    split at listed
    · next outcome =>
        obtain ⟨_, used, keyed, asked⟩ := authenticate_ok outcome
        by_cases again : used = key
        · have reached : bound ≤ head.time := by
            by_contra early
            have found := live head.time begun (not_le.mp early)
            rw [← again, not_live_of_new asked] at found
            cases found
          rcases List.mem_cons.mp listed with rfl | later
          · exact reached
          · exact reached.trans
              (NNRat.coe_le_coe.mpr (restSince call (fresh_of_accepted later).1))
        · rcases List.mem_cons.mp listed with rfl | later
          · rw [keyed] at same
            exact absurd (Option.some.inj same) again
          · refine ih (fun moment order early => ?_) restOrdered restSince later
            rw [live_of_ne (fun equal => again equal.symm) asked order]
            exact live moment (begun.trans order) early
    · next outcome =>
        refine ih (fun moment order early => ?_) restOrdered restSince listed
        rw [live_of_rejected outcome order]
        exact live moment (begun.trans order) early

/-- Whether nonces are remembered while their requests are fresh, by the window and the
lifetime: nothing is accepted where the window is negative or Redis refuses the lifetime. -/
def NonceOutlivesWindow (backend : Backend) (window ttl : Int) : Prop :=
  window < 0 ∨ 2 * window < ttl ∨ backend = .redis ∧ ttl ≤ 0

theorem accepted_nodup (kept : platform.KeepsKeys)
    (outlives : NonceOutlivesWindow store.backend window ttl)
    (ordered : (calls.map (·.time)).Pairwise (· ≤ ·)) :
    ((acceptedCalls platform window ttl store calls).map Call.identity).Nodup := by
  induction calls generalizing store with
  | nil => exact List.nodup_nil
  | cons head rest ih =>
    obtain ⟨first, restOrdered⟩ := List.pairwise_cons.mp ordered
    have restSince : ∀ call ∈ rest, head.time ≤ call.time := fun later member =>
      first later.time (List.mem_map_of_mem member)
    have backend := @backend_of_authenticate platform window ttl store head
    rw [acceptedCalls]
    split
    · next outcome =>
        rw [outcome] at backend
        rw [List.map_cons, List.nodup_cons]
        refine ⟨fun again => ?_, ih (backend ▸ outlives) restOrdered⟩
        obtain ⟨fresh, key, keyed, asked⟩ := authenticate_ok outcome
        obtain ⟨later, listed, same⟩ := List.mem_map.mp again
        obtain ⟨_, stillFresh⟩ := fresh_of_accepted listed
        obtain ⟨wide, close⟩ := close_of_fresh fresh stillFresh same.symm
        have late := late_of_live (fun moment order early => live_of_new kept asked order early)
          restOrdered restSince listed (nonceKey_of_identity same ▸ keyed)
        rcases outlives with none | longer | ⟨redis, never⟩
        · omega
        · have lasting : ((2 * window + 1 : Int) : ℚ) ≤ ttl := by exact_mod_cast longer
          linarith
        · have taken := pos_of_new asked redis
          omega
    · next outcome =>
        rw [outcome] at backend
        exact ih (backend ▸ outlives) restOrdered

/-- No calls before it but an accepted one with its nonce keep a device out that signs. -/
theorem verified_accepted (store : NonceStore) (read : credentials call.request.headers = some presented)
    (verified : verify platform window call.controllers call.time call.request presented = .ok controller)
    (taken : store.backend = .redis → 0 < ttl)
    (unused : store.live platform (nonceKey presented) call.time = false)
    (earlier : ∀ other ∈ calls, other.time ≤ call.time)
    (others : ∀ other ∈ acceptedCalls platform window ttl store calls,
      other.nonceKey ≠ some (nonceKey presented)) :
    acceptedCalls platform window ttl store (calls ++ [call]) =
      acceptedCalls platform window ttl store calls ++ [call] := by
  induction calls generalizing store with
  | nil =>
    obtain ⟨after, asked⟩ := new_of_not_live unused taken
    simp only [List.nil_append, acceptedCalls, authenticate_of_verified read verified asked]
  | cons head rest ih =>
    obtain ⟨order, before⟩ := List.forall_mem_cons.mp earlier
    have same := @backend_of_authenticate platform window ttl store head
    rw [List.cons_append]
    unfold acceptedCalls at others ⊢
    cases step : authenticate platform window ttl store head with
    | mk answer after =>
      rw [step] at same others
      cases answer with
      | error failure =>
        exact ih after (same ▸ taken) ((live_of_rejected step order).trans unused) before others
      | ok admitted =>
        obtain ⟨different, others⟩ := List.forall_mem_cons.mp others
        obtain ⟨_, key, named, asked⟩ := authenticate_ok step
        have apart : nonceKey presented ≠ key := fun hit => different (named.trans (congrArg some hit.symm))
        exact congrArg (head :: ·)
          (ih after (same ▸ taken) ((live_of_ne apart asked order).trans unused) before others)

end

section

variable {platform : Platform}

theorem hexdigest_ascii (digest : Bytes) : (hexdigest digest).toList.all (·.toNat < 128) = true := by
  have digit : ∀ value < 16, (Nat.digitChar value).toNat < 128 := by decide
  rw [hexdigest, String.toList_ofList, List.all_eq_true]
  intro c listed
  obtain ⟨byte, _, split⟩ := List.mem_flatMap.mp listed
  have small : byte.toNat < 256 := byte.toNat_lt
  simp only [List.mem_cons, List.not_mem_nil, or_false] at split
  rcases split with rfl | rfl
  · simpa using digit (byte.toNat / 16) (by omega)
  · simpa using digit (byte.toNat % 16) (by omega)

theorem compareDigest_hexdigest (digest : Bytes) :
    compareDigest (hexdigest digest) (hexdigest digest) = .ok true := by
  simp only [compareDigest, hexdigest_ascii, Bool.and_self, if_true, decide_true]

theorem hexdigest_ne {digest : Bytes} (full : digest ≠ []) : hexdigest digest ≠ "" := by
  obtain ⟨byte, rest, rfl⟩ := List.exists_cons_of_ne_nil full
  intro empty
  have none := congrArg String.toList empty
  simp [hexdigest] at none

variable {controllers : List EdgeController} {controller : EdgeController} {now : ℚ≥0}
  {method path apiKey nonce : String} {body secret : Bytes} {clientIp : Option String}
  {timestamp window : Int}

/-- What a device signs with its key and its secret passes while its timestamp is fresh. -/
theorem verify_signed
    (found : findController controllers controller.controllerUid = some controller)
    (near : clientIpAllowed platform controller clientIp = true)
    (keyed : controller.apiKeyHash = some (hashApiKey platform apiKey))
    (shared : resolveDeviceSecret platform controller.controllerUid = .ok secret)
    (readable : pyInt (toString timestamp) = some timestamp)
    (fresh : stale now timestamp window = false) (headers : String → Option String) :
    verify platform window controllers now ⟨method, path, body, headers, clientIp⟩
      ⟨controller.controllerUid, apiKey, toString timestamp, nonce,
        computeSignature platform secret
          (canonicalString platform method path timestamp nonce body)⟩ = .ok controller := by
  simp only [verify, found, near, keyed, Option.getD_some, hashApiKey, compareDigest_hexdigest,
    readable, fresh, shared, computeSignature, Option.elim_some, Bool.not_true, Bool.false_eq_true,
    if_false, bind, Except.bind, if_true]

theorem credentials_signed {controllerUid : String} (named : controllerUid ≠ "")
    (key : apiKey ≠ "") (fresh : nonce ≠ "") (written : toString timestamp ≠ "")
    (signs : ∀ secret text, platform.hmacSha256 secret text ≠ []) :
    credentials
        (signRequest platform method path body controllerUid apiKey secret timestamp nonce) =
      some ⟨controllerUid, apiKey, toString timestamp, nonce,
        computeSignature platform secret
          (canonicalString platform method path timestamp nonce body)⟩ := by
  have signature := hexdigest_ne (signs secret
    (encode (canonicalString platform method path timestamp nonce body)))
  have printed : timestamp.repr ≠ "" := written
  simp [credentials, given, signRequest, headerController, headerKey, headerTimestamp, headerNonce,
    headerSignature, named, key, fresh, printed, computeSignature, signature, Option.filter]

def gateController (platform : Platform) : EdgeController where
  id := 1
  controllerUid := "gate"
  zoneId := none
  gateId := none
  isActive := true
  status := .active
  apiKeyHash := some (hashApiKey platform "key")
  ipAllowlist := none

def gateCall (platform : Platform) (secret : Bytes) (window : Int) (time : ℚ≥0) : Call where
  time := time
  controllers := [gateController platform]
  request :=
    { method := "POST"
      path := "/"
      body := []
      headers := signRequest platform "POST" "/" [] "gate" "key" secret window "nonce"
      clientIp := none }

theorem exists_secret {seed : String} (seeded : platform.environ hmacSeedEnv = some seed)
    (set : seed ≠ "") (secretRef : String) :
    ∃ secret, resolveDeviceSecret platform secretRef = .ok secret := by
  unfold resolveDeviceSecret
  split
  · exact ⟨_, rfl⟩
  · refine ⟨platform.sha256 (encode (seed ++ ":" ++ secretRef)), ?_⟩
    simp [hmacSeed, seeded, Option.filter, set, Except.map]

/-- The call is accepted at any time of its window where its nonce is not in the store. -/
theorem authenticate_gateCall {secret : Bytes} {window ttl : Int} {store after : NonceStore}
    {time : ℚ≥0} (signs : ∀ secret text, platform.hmacSha256 secret text ≠ [])
    (shared : resolveDeviceSecret platform "gate" = .ok secret)
    (readable : pyInt (toString window) = some window)
    (fresh : stale time window window = false)
    (asked : store.seen platform "gate:nonce" ttl time = (.ok false, after)) :
    authenticate platform window ttl store (gateCall platform secret window time) =
      (.ok (gateController platform), after) := by
  have written : toString window ≠ "" := fun empty => by
    have nothing : pyInt "" = none := by decide
    rw [empty, nothing] at readable
    cases readable
  have found :
      findController [gateController platform] "gate" = some (gateController platform) := by
    simp [findController, gateController]
  have verified := @verify_signed platform [gateController platform] (gateController platform) time
    "POST" "/" "key" "nonce" [] secret none window window found rfl rfl shared readable fresh
  have read := @credentials_signed platform "POST" "/" "key" "nonce" [] secret window "gate"
    (by decide) (by decide) (by decide) written signs
  exact authenticate_of_verified read (verified _) asked

theorem accepted_again {backend : Backend} {window ttl : Int} {seed : String}
    (drops : platform.DropsKeys) (signs : ∀ secret text, platform.hmacSha256 secret text ≠ [])
    (seeded : platform.environ hmacSeedEnv = some seed) (set : seed ≠ "")
    (readable : pyInt (toString window) = some window)
    (forgets : ¬ NonceOutlivesWindow backend window ttl) :
    ∃ first second : Call, first.time ≤ second.time ∧ first.identity = second.identity ∧
      acceptedCalls platform window ttl (.empty backend) [first, second] = [first, second] := by
  obtain ⟨secret, shared⟩ := exists_secret seeded set "gate"
  obtain ⟨wide, forgets⟩ := not_or.mp forgets
  obtain ⟨short, refuses⟩ := not_or.mp forgets
  have taken : backend = .redis → 0 < ttl := fun redis => not_le.mp fun never => refuses ⟨redis, never⟩
  lift window to ℕ using not_lt.mp wide
  have start : stale 0 window window = false := by
    rw [stale_eq_false_iff]
    simp
  have finish : stale (((2 * window : ℕ) : ℚ≥0) + 1 / 2) window window = false := by
    have half : ⌊(1 / 2 : ℚ≥0)⌋₊ = 0 := by decide +kernel
    rw [stale_eq_false_iff, add_comm, Nat.floor_add_natCast zero_le, half]
    constructor <;> push_cast <;> omega
  have late : ((0 : ℚ≥0) : ℚ) + ttl + 1 / 1000 ≤ (((2 * window : ℕ) : ℚ≥0) + 1 / 2 : ℚ≥0) := by
    have lifetime : (ttl : ℚ) ≤ 2 * window := by exact_mod_cast not_lt.mp short
    push_cast
    linarith
  have fresh : (NonceStore.empty backend).live platform "gate:nonce" 0 = false := by
    cases backend <;> rfl
  have kind : (NonceStore.empty backend).backend = backend := by cases backend <;> rfl
  obtain ⟨after, asked⟩ := new_of_not_live fresh (kind ▸ taken)
  obtain ⟨last, askedAgain⟩ := new_of_not_live (not_live_of_expired drops asked late)
    (backend_of_seen asked ▸ kind ▸ taken)
  have once := authenticate_gateCall signs shared readable start asked
  have twice := authenticate_gateCall signs shared readable finish askedAgain
  refine ⟨gateCall platform secret window 0,
    gateCall platform secret window (((2 * window : ℕ) : ℚ≥0) + 1 / 2), zero_le, rfl, ?_⟩
  simp only [acceptedCalls, once, twice]

end

/-- Calls at non-decreasing times that are accepted have different controllers, timestamps or
nonces. -/
def AcceptsOnce (platform : Platform) (backend : Backend) (window ttl : Int) : Prop :=
  ∀ (store : NonceStore) (calls : List Call), store.backend = backend →
    (calls.map (·.time)).Pairwise (· ≤ ·) →
      ((acceptedCalls platform window ttl store calls).map Call.identity).Nodup

/-- After a call that is rejected every nonce is in the store exactly when it was before. -/
def RejectionsKeepNonces (platform : Platform) (window ttl : Int) : Prop :=
  ∀ (store after : NonceStore) (call : Call) (failure : AuthFailure),
    authenticate platform window ttl store call = (.error failure, after) →
      ∀ (key : String) (later : ℚ≥0), call.time ≤ later →
        after.live platform key later = store.live platform key later

def plainPlatform : Platform where
  upper := id
  sha256 := fun _ => [0]
  hmacSha256 := fun _ _ => [1]
  inNetwork := fun _ _ => false
  environ := fun name => if name = hmacSeedEnv then some "seed" else none
  persists := fun setAt ttl now => (now : ℚ) < setAt + ttl

theorem verified_accepted_signed :
    let stray : Call := ⟨0, [], ⟨"GET", "/", [], fun _ => none, none⟩⟩
    acceptedCalls plainPlatform 300 601 (.empty .redis) [stray, gateCall plainPlatform [0] 300 0] =
      [gateCall plainPlatform [0] 300 0] := by
  intro stray
  have refused : acceptedCalls plainPlatform 300 601 (.empty .redis) [stray] = [] := rfl
  have accepted := @verified_accepted plainPlatform 300 601 (gateCall plainPlatform [0] 300 0) _ _ [stray]
    (.empty .redis) rfl rfl (fun _ => by decide) rfl (by simp [stray]) (by simp [refused])
  rwa [refused] at accepted

end InfrasafeBot.AccessControl.DeviceAuth
