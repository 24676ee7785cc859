import InfrasafeBot.AccessControl.ReplayProtection
import InfrasafeBot.Auth.Invites

/-! What a generated token says when it is validated, and how often it is used. A join that finds
its user known returns with the nonce flushed, for the owner of the session to commit. -/

set_option autoImplicit false

namespace InfrasafeBot.Auth.Invites

open Library Library.Machine UserAccounts AccessControl.DeviceAuth

/-- Of the texts with a signature that a token may carry, only those the service has signed carry
the right one. -/
def InviteService.Unforged (service : InviteService) (signed : List (List Char)) (token : String) : Prop :=
  ∀ payloadB64 signature,
    token.toList = InviteService.tokenStart ++ (payloadB64 ++ '.' :: signature) →
    String.ofList signature = service.signature payloadB64 → payloadB64 ∈ signed

def Invitation.invite (invitation : Invitation) : Invite := ⟨invitation.role, invitation.nonce⟩

/-- At most one join with the invite is committed, with its user and the use of the nonce. -/
def UsedOnce (invite : Invite) (start after : Store) : Prop :=
  ∃ joined : List JoinForm, joined.length ≤ 1 ∧
    after.users = start.users ++ joined.map (joinedMember invite) ∧
    after.nonces = start.nonces ++ joined.map fun form => ⟨invite.nonce, form.telegramId⟩

def Unused (invite : Invite) (store : Store) : Prop := ∀ record ∈ store.nonces, record.nonce ≠ invite.nonce

structure Kept (service : InviteService) (invitation : Invitation) (token : String) {n : Nat}
    (start : Store) (events : List (Program.Event Call n)) : Prop where
  roundTrip : ∀ nonces (now : ℚ), (∀ record ∈ nonces, record.nonce ≠ invitation.nonce) →
    now ≤ invitation.expiresAt → ∃ payload,
      service.validateInvite nonces now token = .ok payload ∧ payload.Perm invitation.payload
  authentic : ∀ signed nonces now presented payload, service.Unforged signed presented →
    service.validateInvite nonces now presented = .ok payload →
    ∃ payloadB64 ∈ signed, presented = service.tokenOf payloadB64
  once : ∀ past, past <+: events →
    UsedOnce invitation.invite start
      (run (joins service token).next ((joins service token).initial start) past).store

/-- No session is committed with the nonce of a join that has found its user known. -/
def Settled (_ : Store) : Stage → Prop
  | .refused _ _ => False
  | _ => True

instance (store : Store) (stage : Stage) : Decidable (Settled store stage) := by
  unfold Settled
  split <;> infer_instance

variable {service : InviteService} {invitation : Invitation} {token : String}

section

variable {payloadB64 : List Char} {now : ℚ}

theorem fromUTF8?_encode (text : String) : String.fromUTF8? ⟨(encode text).toArray⟩ = some text := by
  have valid : ByteArray.IsValidUTF8 ⟨(encode text).toArray⟩ := by
    simpa [encode] using text.isValidUTF8
  rw [String.fromUTF8?, dif_pos valid]
  congr 1

theorem nonce_ne (invitation : Invitation) : invitation.nonce ≠ "" := by
  intro empty
  have none := congrArg String.toList empty
  rw [Invitation.nonce, String.toList_ofList, Base64.stripPadding_urlsafeEncode] at none
  have sixteen := invitation.sixteen
  rw [Base64.digits_eq_nil (List.map_eq_nil_iff.mp none)] at sixteen
  cases sixteen

def Invitation.readBack (invitation : Invitation) : Payload := Json.sortMembers invitation.payload

theorem payload_scalar : ∀ member ∈ invitation.payload, Json.Scalar member.2 := by
  intro member listed
  rcases List.mem_append.mp listed with fixed | special
  · simp only [List.mem_cons, List.not_mem_nil, or_false] at fixed
    rcases fixed with rfl | rfl | rfl | rfl
    · exact .string _
    · exact .int _
    · exact .string _
    · exact .int _
  · obtain ⟨text, _, rfl⟩ := List.mem_map.mp special
    exact .string _

theorem decodePayload_encodePayload :
    InviteService.decodePayload (InviteService.encodePayload invitation.payload) =
      .ok invitation.readBack := by
  unfold InviteService.decodePayload InviteService.encodePayload
  rw [Base64.urlsafeDecode_stripped]
  dsimp only
  rw [fromUTF8?_encode]
  dsimp only
  rw [Json.loads_dumpsAscii payload_scalar]
  rfl

theorem get_readBack (invitation : Invitation) :
    InviteService.get invitation.readBack "role" = some (.string invitation.role) ∧
      InviteService.get invitation.readBack "expires_at" = some (Json.ofInt invitation.expiresAt) ∧
      InviteService.get invitation.readBack "nonce" = some (.string invitation.nonce) ∧
      InviteService.get invitation.readBack "created_by" =
        some (Json.ofInt invitation.createdBy) := by
  unfold Invitation.readBack Invitation.payload
  cases invitation.tokenSpecialization with
  | none | some =>
    simp [Json.sortMembers, List.insertionSort, List.orderedInsert, InviteService.get, List.lookup_cons]

theorem before?_ofInt (moment : Int) :
    InviteService.before? now (Json.ofInt moment) = some (decide ((moment : ℚ) < now)) := by
  have written : ∀ c ∈ (toString moment).toList, Json.numberChar c = true := by
    cases (Json.canonical_ofInt moment).formed with
    | number full digits => exact digits
  have numeric : ∀ word : String, (∃ c ∈ word.toList, Json.numberChar c = false) →
      toString moment ≠ word := by
    rintro word ⟨c, listed, other⟩ rfl
    rw [written c listed] at other
    cases other
  unfold Json.ofInt InviteService.before?
  dsimp only
  rw [Json.numberValue_int]
  simp only [numeric "NaN" ⟨'N', by decide, by decide⟩,
    numeric "Infinity" ⟨'I', by decide, by decide⟩,
    numeric "-Infinity" ⟨'I', by decide, by decide⟩, decide_false, Bool.or_self, Bool.false_eq_true,
    if_false]

theorem checkPayload_readBack (known : invitation.role ∈ inviteRoles) :
    InviteService.checkPayload now invitation.readBack =
      if (invitation.expiresAt : ℚ) < now then .error (.valueError "Token has expired")
      else .ok (invitation.readBack, .string invitation.nonce) := by
  obtain ⟨role, expiresAt, nonce, createdBy⟩ := get_readBack invitation
  have given : (some (Json.string invitation.nonce)).filter InviteService.truthy =
      some (.string invitation.nonce) :=
    Option.filter_eq_some_iff.mpr ⟨rfl, decide_eq_true (nonce_ne invitation)⟩
  have complete : (InviteService.requiredFields.find? fun field =>
      (InviteService.get invitation.readBack field).isNone) = none := by
    simp [InviteService.requiredFields, role, expiresAt, nonce, createdBy]
  unfold InviteService.checkPayload
  rw [expiresAt, Option.getD_some, before?_ofInt, nonce, given, complete, role]
  by_cases expired : (invitation.expiresAt : ℚ) < now
  · rw [decide_eq_true expired, if_pos expired]
  · rw [decide_eq_false expired, if_neg expired]
    exact if_pos (List.contains_iff_mem.mpr known)

theorem hexdigest_dotless (digest : Bytes) : '.' ∉ (hexdigest digest).toList := by
  have digit : ∀ value < 16, Nat.digitChar value ≠ '.' := by decide
  rw [hexdigest, String.toList_ofList]
  intro listed
  obtain ⟨byte, _, split⟩ := List.mem_flatMap.mp listed
  have small : byte.toNat < 256 := byte.toNat_lt
  simp only [List.mem_cons, List.not_mem_nil, or_false] at split
  rcases split with same | same
  · exact digit (byte.toNat / 16) (by omega) same.symm
  · exact digit (byte.toNat % 16) (by omega) same.symm

theorem signature_dotless : '.' ∉ (service.signature payloadB64).toList := hexdigest_dotless _

theorem checkToken_tokenOf : service.checkToken now (service.tokenOf payloadB64) =
    (InviteService.decodePayload payloadB64).bind (InviteService.checkPayload now) := by
  have held : '.' ∈ payloadB64 ++ '.' :: (service.signature payloadB64).toList :=
    List.mem_append_right payloadB64 List.mem_cons_self
  have signed : compareDigest (service.signature payloadB64) (service.signature payloadB64) =
      .ok true := compareDigest_hexdigest _
  unfold InviteService.checkToken InviteService.tokenOf
  rw [String.toList_ofList, List.isPrefixOf_iff_prefix.mpr (List.prefix_append _ _), List.drop_left]
  dsimp only
  rw [if_neg (by decide), if_neg (not_not_intro held), rsplitOnce_append signature_dotless]
  dsimp only
  rw [String.ofList_toList, signed]

variable {nonces : List InviteService.InviteNonce} {payload : Payload}

theorem tokenOf_of_accepted {checked : Payload × Json}
    (accepted : service.checkToken now token = .ok checked) : ∃ payloadB64 signature,
    token.toList = InviteService.tokenStart ++ (payloadB64 ++ '.' :: signature) ∧
      String.ofList signature = service.signature payloadB64 := by
  unfold InviteService.checkToken at accepted
  split at accepted
  · cases accepted
  · next starts =>
      dsimp only at accepted
      split at accepted
      · cases accepted
      · next held =>
          have begun : InviteService.tokenStart <+: token.toList := by
            rw [← List.isPrefixOf_iff_prefix]
            simpa using starts
          obtain ⟨tokenBody, split⟩ := begun
          rw [← split, List.drop_left] at accepted held
          have joined := rsplitOnce_join (not_not.mp held)
          refine ⟨(rsplitOnce '.' tokenBody).1, (rsplitOnce '.' tokenBody).2, ?_, ?_⟩
          · rw [joined, split]
          · unfold compareDigest at accepted
            split at accepted
            · cases accepted
            · cases accepted
            · next same =>
                split at same
                · exact of_decide_eq_true (Except.ok.inj same)
                · cases same

theorem checkToken_generated (generated : service.generateInvite invitation = .ok token) :
    service.checkToken now token =
      if (invitation.expiresAt : ℚ) < now then .error (.valueError "Token has expired")
      else .ok (invitation.readBack, .string invitation.nonce) := by
  unfold InviteService.generateInvite at generated
  split at generated
  · cases generated
  · next known =>
      split at generated
      · cases generated
      · split at generated
        · rw [← Except.ok.inj generated, checkToken_tokenOf, decodePayload_encodePayload]
          refine checkPayload_readBack (List.contains_iff_mem.mp ?_)
          simpa using known
        · cases generated

theorem validateInvite_generated (generated : service.generateInvite invitation = .ok token)
    (unused : ∀ record ∈ nonces, record.nonce ≠ invitation.nonce)
    (fresh : now ≤ invitation.expiresAt) :
    service.validateInvite nonces now token = .ok invitation.readBack := by
  have free : InviteService.isNonceUsed nonces (.string invitation.nonce) = false := by
    simpa [InviteService.isNonceUsed] using unused
  unfold InviteService.validateInvite
  rw [checkToken_generated generated, if_neg (not_lt.mpr fresh)]
  dsimp only
  rw [free]
  rfl

theorem checked_of_validated (validated : service.validateInvite nonces now token = .ok payload) :
    ∃ checked, service.checkToken now token = .ok checked := by
  unfold InviteService.validateInvite at validated
  split at validated
  · cases validated
  · next payload nonce checked => exact ⟨_, checked⟩

theorem authentic_of_validated {signed : List (List Char)}
    (unforged : service.Unforged signed token)
    (validated : service.validateInvite nonces now token = .ok payload) :
    ∃ payloadB64 ∈ signed, token = service.tokenOf payloadB64 := by
  obtain ⟨checked, accepted⟩ := checked_of_validated validated
  obtain ⟨payloadB64, signature, split, right⟩ := tokenOf_of_accepted accepted
  refine ⟨payloadB64, unforged payloadB64 signature split right, ?_⟩
  rw [InviteService.tokenOf, ← right, String.toList_ofList, ← split, String.ofList_toList]

end

section

variable {invite : Invite} {start store : Store} {n : Nat}

def Relies (invite : Invite) (store : Store) : Stage → Prop
  | .consuming own _ => own = invite
  | .looking own _ | .registering own _ | .registered own _ | .refused own _ =>
    own = invite ∧ Unused invite store
  | _ => True

theorem start_generated (generated : service.generateInvite invitation = .ok token) (call : Call) :
    call.start service token =
      if (invitation.expiresAt : ℚ) < call.now then .finished (.invalid (.valueError "Token has expired"))
      else .consuming invitation.invite call.form := by
  unfold Call.start
  rw [checkToken_generated generated]
  split
  · next failure refused =>
      split at refused
      · next expired => rw [if_pos expired, ← Except.error.inj refused]
      · cases refused
  · next payload nonce checked =>
      split at checked
      · cases checked
      · next fresh =>
          obtain ⟨rfl, same⟩ := Prod.mk.inj (Except.ok.inj checked)
          rw [(get_readBack invitation).1, ← Json.string.inj same, if_neg fresh]
          rfl
  · next checked texts other =>
      split at other
      · cases other
      · exact absurd (Except.ok.inj other).symm (texts _ _)

theorem relies_start (generated : service.generateInvite invitation = .ok token) (call : Call) :
    Relies invitation.invite store (call.start service token) := by
  rw [start_generated generated]
  split
  · trivial
  · rfl

variable {stage : Stage} {state : Program.State Store Stage n}

theorem relies_perform (relied : Relies invite store stage) :
    Relies invite (perform store stage).1 (perform store stage).2 := by
  cases stage with
  | consuming own form =>
    simp only [perform]
    split
    · trivial
    · next fresh =>
        refine ⟨relied, fun record listed same => fresh ?_⟩
        refine List.any_eq_true.mpr ⟨record, listed, ?_⟩
        rw [show own = invite from relied]
        exact decide_eq_true same
  | looking own form =>
    simp only [perform]
    split <;> exact relied
  | registering own form =>
    simp only [perform]
    split
    · trivial
    · exact relied
  | _ => trivial

theorem locked_or_anytime (relied : Relies invite store stage) :
    .nonce invite.nonce ∈ stage.locks ∨ ∀ after, Relies invite after stage := by
  cases stage with
  | looking | registering | registered | refused =>
    rw [← relied.1]
    exact .inl List.mem_cons_self
  | consuming own form => exact .inr fun _ => relied
  | _ => exact .inr fun _ => trivial

theorem locked_or_unchanged (relied : Relies invite store stage) :
    .nonce invite.nonce ∈ stage.locks ∨ (perform store stage).1 = store := by
  cases stage with
  | registered | refused =>
    rw [← relied.1]
    exact .inl List.mem_cons_self
  | _ => exact .inr rfl

theorem relies_others {other : Stage} (relied : Relies invite store stage)
    (others : Relies invite store other) (apart : (joins service token).Apart stage other) :
    Relies invite (perform store stage).1 other := by
  rcases locked_or_unchanged relied with held | same
  · rcases locked_or_anytime others with also | anytime
    · exact absurd also (apart (.nonce invite.nonce) held)
    · exact anytime _
  · rw [same]
    exact others

theorem sound (generated : service.generateInvite invitation = .ok token) :
    (joins service token).Sound Program.Anytime Program.Regardless (fun _ => True)
      (Relies invitation.invite) where
  idle _ _ := trivial
  start _ call _ := relies_start generated call
  step _ _ _ _ relied := ⟨trivial, relies_perform relied⟩
  others _ _ _ _ _ relied others _ apart _ := relies_others relied others apart

theorem usedOnce_start : UsedOnce invite start start :=
  ⟨[], Nat.zero_le 1, (List.append_nil _).symm, (List.append_nil _).symm⟩

theorem UsedOnce.unjoined (once : UsedOnce invite start store) (unused : Unused invite store) :
    store.users = start.users ∧ store.nonces = start.nonces := by
  obtain ⟨joined, _, users, nonces⟩ := once
  cases joined with
  | nil => exact ⟨users.trans (List.append_nil _), nonces.trans (List.append_nil _)⟩
  | cons form rest =>
    refine absurd rfl (unused ⟨invite.nonce, form.telegramId⟩ ?_)
    rw [nonces]
    exact List.mem_append_right _ List.mem_cons_self

theorem perform_once_iff (relied : Relies invite store stage) (once : UsedOnce invite start store) :
    UsedOnce invite start (perform store stage).1 ↔ Settled store stage := by
  cases stage with
  | registered own form =>
    obtain ⟨rfl, unused⟩ := relied
    obtain ⟨users, nonces⟩ := once.unjoined unused
    refine iff_of_true ⟨[form], Nat.le_refl 1, ?_, ?_⟩ trivial
    · change store.users ++ _ = _
      rw [users]
      rfl
    · change store.nonces ++ _ = _
      rw [nonces]
      rfl
  | refused own form =>
    obtain ⟨rfl, unused⟩ := relied
    obtain ⟨users, nonces⟩ := once.unjoined unused
    refine iff_of_false ?_ id
    rintro ⟨joined, _, sameUsers, sameNonces⟩
    change store.users = _ at sameUsers
    rw [users, eq_comm, List.append_right_eq_self, List.map_eq_nil_iff] at sameUsers
    change store.nonces ++ _ = _ at sameNonces
    rw [nonces, sameUsers, List.append_cancel_left_eq] at sameNonces
    cases sameNonces
  | _ => exact iff_of_true once trivial

theorem next_once_iff (held : (joins service token).Holds (fun _ => True) (Relies invite) state)
    (once : UsedOnce invite start state.store) (event : Program.Event Call n) :
    UsedOnce invite start ((joins service token).next state event).store ↔
      Program.Allows Settled Program.Regardless state event := by
  cases event with
  | call worker call =>
    refine iff_of_true ?_ trivial
    simp only [Program.next]
    split
    · exact once
    · exact once
  | fail worker => exact iff_of_true once trivial
  | step worker =>
    have own := perform_once_iff (held.workers worker) once
    simp only [Program.next, Program.Allows, Program.Regardless, implies_true, and_true]
    split
    · exact own
    · next waits =>
        refine iff_of_true once ?_
        revert waits
        cases state.workers worker with
        | refused own form => exact fun waits => absurd (fun _ _ => Program.apart_of_unlocked rfl) waits
        | _ => exact fun _ => trivial

theorem once_along_iff (generated : service.generateInvite invitation = .ok token)
    (events : List (Program.Event Call n)) :
    (∀ past, past <+: events → UsedOnce invitation.invite start
      (run (joins service token).next ((joins service token).initial start) past).store) ↔
      (joins service token).Careful Settled Program.Regardless
        ((joins service token).initial start) events := by
  have sound := sound generated
  refine holds_along_iff_obeys (joins service token).next
    (fun state => UsedOnce invitation.invite start state.store)
    ((joins service token).Holds (fun _ => True) (Relies invitation.invite))
    (sound.holds_initial trivial) ?_ usedOnce_start ?_ events
  · exact fun state event held => sound.holds_next held
      (Program.careful_anytime (joins service token) state [event] (state, event) List.mem_cons_self)
  · exact fun state event held once => next_once_iff held once event

/-- A token says what has been encoded until it is used, no other one is accepted, and it is used
at most once for a user who is registered by it, exactly if no session is committed in which a
join has found its user known. -/
theorem kept_iff (generated : service.generateInvite invitation = .ok token) (start : Store)
    (events : List (Program.Event Call n)) :
    Kept service invitation token start events ↔
      (joins service token).Careful Settled Program.Regardless
        ((joins service token).initial start) events := by
  constructor
  · exact fun kept => (once_along_iff generated events).mp kept.once
  · intro careful
    refine ⟨fun nonces now unused fresh => ⟨invitation.readBack, ?_, ?_⟩, ?_, ?_⟩
    · exact validateInvite_generated generated unused fresh
    · exact Json.sortMembers_perm invitation.payload
    · exact fun _ _ _ _ _ unforged validated => authentic_of_validated unforged validated
    · exact (once_along_iff generated events).mpr careful

theorem next_call {worker : Fin n} {call : Call}
    (generated : service.generateInvite invitation = .ok token)
    (free : (state.workers worker).free = true) (fresh : call.now ≤ invitation.expiresAt) :
    (joins service token).next state (.call worker call) =
      state.put worker (.consuming invitation.invite call.form) := by
  have started : (joins service token).start call = .consuming invitation.invite call.form :=
    (start_generated generated call).trans (if_neg (not_lt.mpr fresh))
  rw [← started]
  exact if_pos free

end

/-- The digest is that of HMAC-SHA256 for the token below. -/
def sampleService : InviteService where
  hmacSha256 _ _ :=
    [77, 209, 28, 85, 76, 182, 135, 1, 73, 23, 52, 9, 165, 5, 61, 208, 34, 30, 142, 214, 7, 49,
      19, 46, 188, 236, 252, 28, 215, 3, 232, 206]
  secret := "secret"
  given := by decide

def inspectorInvitation : Invitation where
  role := "inspector"
  createdBy := 7
  specialization := none
  hours := 24
  now := 1767225600
  random := [0, 1, 2, 3, 4, 5, 6, 7, 8, 9, 10, 11, 12, 13, 14, 15]
  sixteen := rfl

def inspectorToken : String :=
  "invite_v1:eyJjcmVhdGVkX2J5Ijo3LCJleHBpcmVzX2F0IjoxNzY3MzEyMDAwLCJub25jZSI6IkFBRUNBd1FGQmdj" ++
    "SUNRb0xEQTBPRHciLCJyb2xlIjoiaW5zcGVjdG9yIn0" ++
    ".4dd11c554cb6870149173409a5053dd0221e8ed60731132ebcecfc1cd703e8ce"

theorem inspectorToken_generated :
    sampleService.generateInvite inspectorInvitation = .ok inspectorToken := by
  decide +kernel

def ivan : JoinForm := ⟨5, "Ivan", "Petrov", none⟩

def oleg : JoinForm := ⟨6, "Oleg", "Sidorov", none⟩

theorem inspectorToken_fresh :
    ((1767225700 : ℚ) ≤ inspectorInvitation.expiresAt) ∧
      (1767225800 : ℚ) ≤ inspectorInvitation.expiresAt := by
  decide +kernel

/-- One user joins, and the other comes too late. -/
def joinedOnce : List (Program.Event Call 2) :=
  [.call 0 ⟨ivan, 1767225700⟩, .call 1 ⟨oleg, 1767225800⟩,
    .step 0, .step 1, .step 0, .step 0, .step 0, .step 1]

theorem joinedOnce_kept : Kept sampleService inspectorInvitation inspectorToken ⟨[], []⟩ joinedOnce := by
  refine (kept_iff inspectorToken_generated ⟨[], []⟩ joinedOnce).mpr ?_
  rw [Program.Careful, joinedOnce, obeys_cons,
    next_call inspectorToken_generated rfl inspectorToken_fresh.1, obeys_cons,
    next_call inspectorToken_generated rfl inspectorToken_fresh.2]
  decide +kernel

def ivanRow : Member := joinedMember ⟨"applicant", "another"⟩ ivan

/-- A user who is known is refused, and the owner of the session commits. -/
def refusedAndCommitted : List (Program.Event Call 1) :=
  [.call 0 ⟨ivan, 1767225700⟩, .step 0, .step 0, .step 0]

theorem nonce_used_by_nobody :
    ¬ Kept sampleService inspectorInvitation inspectorToken ⟨[], [ivanRow]⟩
      refusedAndCommitted := by
  intro kept
  obtain ⟨joined, _, users, nonces⟩ := kept.once refusedAndCommitted List.prefix_rfl
  have left : (run (joins sampleService inspectorToken).next
      ((joins sampleService inspectorToken).initial ⟨[], [ivanRow]⟩) refusedAndCommitted).store =
        ⟨[⟨"AAECAwQFBgcICQoLDA0ODw", 5⟩], [ivanRow]⟩ := by
    rw [refusedAndCommitted, run_cons, next_call inspectorToken_generated rfl inspectorToken_fresh.1]
    decide +kernel
  rw [left] at users nonces
  have nobody : joined = [] := List.map_eq_nil_iff.mp (List.append_right_eq_self.mp users.symm)
  rw [nobody] at nonces
  cases nonces

end InfrasafeBot.Auth.Invites
