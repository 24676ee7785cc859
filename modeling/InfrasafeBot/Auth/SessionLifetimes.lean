import InfrasafeBot.Auth.TokenFamilies

/-! How long the tokens of a Telegram WebApp session live. A rotation takes the lifetime of the
next token from where its request has carried the last one. -/

set_option autoImplicit false

namespace InfrasafeBot.Auth

open Library Library.Machine

/-- The token of a login of the WebApp, or one that a rotation has made of such a token. -/
inductive TwaDescended (store : TokenStore) : RefreshToken → Prop where
  | login {token} : token ∈ store.tokens.rows → token.parentTokenId = none →
      token.familyId ∈ store.twaFamilies → TwaDescended store token
  | rotated {token parent} : token ∈ store.tokens.rows →
      token.parentTokenId = some parent.id → TwaDescended store parent →
      TwaDescended store token

structure TokenStore.Lineage (store : TokenStore) : Prop where
  parents : ∀ child ∈ store.tokens.rows, ∀ id, child.parentTokenId = some id →
    ∃ parent ∈ store.tokens.rows, parent.id = id ∧ parent.id < child.id ∧ parent.familyId = child.familyId
  opened : ∀ family ∈ store.twaFamilies, ∃ row ∈ store.tokens.rows, row.familyId = family

variable {store : TokenStore}

section

variable {token : RefreshToken}

theorem TwaDescended.listed (descended : TwaDescended store token) : token ∈ store.tokens.rows := by
  cases descended with
  | login listed | rotated listed => exact listed

theorem twaDescended_iff (lineage : store.Lineage) :
    TwaDescended store token ↔
      token ∈ store.tokens.rows ∧ token.familyId ∈ store.twaFamilies := by
  constructor
  · intro descended
    induction descended with
    | login listed _ opened => exact ⟨listed, opened⟩
    | @rotated token parent listed own descended ih =>
      obtain ⟨found, foundListed, same, _, family⟩ := lineage.parents token listed parent.id own
      obtain rfl := Table.eq_of_key foundListed ih.1 same
      exact ⟨listed, family ▸ ih.2⟩
  · intro ⟨listed, opened⟩
    -- along the parents, whose keys go down
    induction bound : token.id using Nat.strong_induction_on generalizing token with
    | _ key ih =>
      cases own : token.parentTokenId with
      | none => exact .login listed own opened
      | some id =>
        obtain ⟨parent, parentListed, same, before, family⟩ := lineage.parents token listed id own
        refine .rotated listed (own.trans (congrArg some same.symm)) ?_
        exact ih parent.id (bound ▸ before) parentListed (family ▸ opened) rfl

end

section

variable {stage : TokenStage}

theorem performToken_origin {row : RefreshToken}
    (listed : row ∈ (performToken store stage).1.tokens.rows) :
    (∃ before ∈ store.tokens.rows, before.Ages row) ∨
      (∃ flow userId hash now id, stage = .issuing flow userId hash now ∧
        (performToken store stage).1 = store.saveRefreshToken flow userId hash now ∧
        row = loginToken flow userId hash now store.freshFamily id) ∨
      ∃ rotation id, stage = .rotating rotation ∧ store.hashTaken rotation.hash = false ∧
        row = rotation.child id ∧ ∀ before ∈ store.tokens.rows, before.id < id := by
  rcases performToken_writes store stage with same | ⟨flow, userId, hash, now, stage, _, written⟩ |
    ⟨rotation, stage, free, written⟩ | ⟨token, now, swept, _, written⟩ | ⟨token, now, _, written⟩
  · rw [same] at listed
    exact .inl ⟨row, listed, .refl row⟩
  · rw [written] at listed
    rcases mem_saveRefreshToken.mp listed with before | new
    · exact .inl ⟨row, before, .refl row⟩
    · exact .inr (.inl ⟨flow, userId, hash, now, _, stage, written, new⟩)
  · rw [written] at listed
    rcases mem_rotate.mp listed with ⟨before, known, rfl⟩ | new
    · refine .inl ⟨before, known, ?_⟩
      simpa using before.ages_revoke (before.id = rotation.token.id) rotation.now .rotated
    · refine .inr (.inr ⟨rotation, _, stage, free, new, fun before known => ?_⟩)
      obtain ⟨after, remains, same⟩ : ∃ after ∈ (store.revokeRows (·.id = rotation.token.id)
          rotation.now .rotated).tokens.rows, after.id = before.id :=
        ⟨_, mem_revokeRows.mpr ⟨before, known, rfl⟩, (before.ages_revoke _ _ _).id⟩
      exact same ▸ Table.lt_nextKey remains
  · rw [written] at listed
    obtain ⟨before, known, rfl⟩ := mem_revokeRows.mp listed
    exact .inl ⟨before, known, before.ages_revoke _ _ _⟩
  · rw [written] at listed
    obtain ⟨before, known, rfl⟩ := mem_revokeRows.mp listed
    exact .inl ⟨before, known, before.ages_revoke _ _ _⟩

theorem twaFamilies_performToken (store : TokenStore) (stage : TokenStage) :
    (performToken store stage).1.twaFamilies = store.twaFamilies ∨
      ∃ userId hash now, stage = .issuing .twa userId hash now ∧
        (performToken store stage).1 = store.saveRefreshToken .twa userId hash now := by
  rcases performToken_writes store stage with same | ⟨flow, userId, hash, now, stage, _, written⟩ |
    ⟨rotation, _, _, written⟩ | ⟨token, now, swept, _, written⟩ | ⟨token, now, _, written⟩
  · exact .inl (by rw [same])
  · cases flow with
    | web => exact .inl (by rw [written]; rfl)
    | twa => exact .inr ⟨userId, hash, now, stage, written⟩
  · exact .inl (by rw [written]; rfl)
  · exact .inl (by rw [written]; rfl)
  · exact .inl (by rw [written]; rfl)

theorem mem_twaFamilies {family : FamilyId} (listed : family ∈ store.twaFamilies) :
    family ∈ (performToken store stage).1.twaFamilies := by
  rcases twaFamilies_performToken store stage with same | ⟨userId, hash, now, _, written⟩
  · rwa [same]
  · rw [written]
    exact List.mem_cons_of_mem _ listed

theorem family_before {row : RefreshToken} (known : row ∈ store.tokens.rows)
    (opened : row.familyId ∈ (performToken store stage).1.twaFamilies) :
    row.familyId ∈ store.twaFamilies := by
  rcases twaFamilies_performToken store stage with same | ⟨userId, hash, now, _, written⟩
  · rwa [same] at opened
  · rw [written] at opened
    exact (List.mem_cons.mp opened).resolve_left (freshFamily_fresh known)

theorem performToken_lineage (lineage : store.Lineage) (relies : stage.Relies store) :
    (performToken store stage).1.Lineage where
  parents := by
    intro child listed id own
    have kept {parent : RefreshToken} (parentListed : parent ∈ store.tokens.rows)
        (older : parent.id < child.id) (family : parent.familyId = child.familyId) :
        ∃ after ∈ (performToken store stage).1.tokens.rows,
          after.id = parent.id ∧ after.id < child.id ∧ after.familyId = child.familyId := by
      obtain ⟨after, remains, ages⟩ := performToken_ages stage parentListed
      exact ⟨after, remains, ages.id, ages.id ▸ older, ages.family.trans family⟩
    rcases performToken_origin listed with ⟨before, known, ages⟩ |
      ⟨flow, userId, hash, now, key, _, _, rfl⟩ | ⟨rotation, key, rfl, _, rfl, older⟩
    · obtain ⟨parent, parentListed, rfl, younger, family⟩ :=
        lineage.parents before known id (ages.parent ▸ own)
      exact kept parentListed (ages.id ▸ younger) (family.trans ages.family.symm)
    · cases own
    · cases own
      exact kept relies.1 (older _ relies.1) rfl
  opened := by
    intro family listed
    rcases twaFamilies_performToken store stage with same | ⟨userId, hash, now, rfl, written⟩
    · rw [same] at listed
      obtain ⟨row, known, own⟩ := lineage.opened family listed
      obtain ⟨after, remains, ages⟩ := performToken_ages stage known
      exact ⟨after, remains, ages.family.trans own⟩
    · rw [written] at listed ⊢
      rcases List.mem_cons.mp listed with rfl | before
      · exact ⟨_, mem_saveRefreshToken.mpr (.inr rfl), rfl⟩
      · obtain ⟨row, known, own⟩ := lineage.opened family before
        exact ⟨row, mem_saveRefreshToken.mpr (.inl known), own⟩

/-- The statement rotates a token of the WebApp that its request has carried as a cookie. -/
def Prolongs (store : TokenStore) (stage : TokenStage) : Prop :=
  ∃ rotation, stage = .rotating rotation ∧ rotation.source = .cookie ∧
    TwaDescended store rotation.token ∧ store.hashTaken rotation.hash = false

def TokenStore.ShortLived (store : TokenStore) : Prop :=
  ∀ token, TwaDescended store token → token.expiresAt ≤ token.createdAt + twaRefreshLifetime

theorem performToken_shortLived (lineage : store.Lineage) (relies : stage.Relies store)
    (short : store.ShortLived) (modest : ¬ Prolongs store stage) :
    (performToken store stage).1.ShortLived := by
  intro token descended
  obtain ⟨listed, opened⟩ := (twaDescended_iff (performToken_lineage lineage relies)).mp descended
  rcases performToken_origin listed with ⟨before, known, ages⟩ |
    ⟨flow, userId, hash, now, key, _, written, rfl⟩ | ⟨rotation, key, rfl, free, rfl, _⟩
  · rw [ages.family] at opened
    rw [ages.expiresAt, ages.createdAt]
    exact short before ((twaDescended_iff lineage).mpr ⟨known, family_before known opened⟩)
  · cases flow with
    | twa => exact le_rfl
    | web =>
      rw [written] at opened
      obtain ⟨row, known, own⟩ := lineage.opened _ opened
      exact absurd own (freshFamily_fresh known)
  · have before : TwaDescended store rotation.token :=
      (twaDescended_iff lineage).mpr ⟨relies.1, family_before relies.1 opened⟩
    cases source : rotation.source with
    | cookie => exact absurd ⟨rotation, rfl, source, before, free⟩ modest
    | body =>
      simp only [Rotation.child, source]
      exact le_rfl

theorem performToken_long {token : RefreshToken} (lineage : store.Lineage)
    (relies : stage.Relies store) (descended : TwaDescended store token)
    (long : token.createdAt + twaRefreshLifetime < token.expiresAt) :
    ¬ (performToken store stage).1.ShortLived := by
  intro short
  obtain ⟨listed, opened⟩ := (twaDescended_iff lineage).mp descended
  obtain ⟨after, remains, ages⟩ := performToken_ages stage listed
  have bounded := short after ((twaDescended_iff (performToken_lineage lineage relies)).mpr
    ⟨remains, ages.family ▸ mem_twaFamilies opened⟩)
  rw [ages.expiresAt, ages.createdAt] at bounded
  exact absurd long (not_lt.mpr bounded)

theorem not_shortLived_of_prolongs (lineage : store.Lineage) (relies : stage.Relies store)
    (prolongs : Prolongs store stage) : ¬ (performToken store stage).1.ShortLived := by
  obtain ⟨rotation, rfl, source, descended, free⟩ := prolongs
  intro short
  have written : (performToken store (.rotating rotation)).1 = store.rotate rotation := by
    simp only [performToken, free]
    rfl
  obtain ⟨key, listed⟩ : ∃ key, rotation.child key ∈
      (performToken store (.rotating rotation)).1.tokens.rows :=
    ⟨_, by rw [written]; exact mem_rotate.mpr (.inr rfl)⟩
  have family := ((twaDescended_iff lineage).mp descended).2
  have bounded := short (rotation.child key)
    ((twaDescended_iff (performToken_lineage lineage relies)).mpr ⟨listed, mem_twaFamilies family⟩)
  simp only [Rotation.child, source, TokenSource.lifetime] at bounded
  have longer :
      rotation.now + (twaRefreshLifetime : Int) < rotation.now + (refreshLifetime : Int) :=
    Int.add_lt_add_left (by decide) rotation.now
  exact absurd bounded (Int.not_le.mpr longer)

end

section

variable {n : Nat} {hashToken : String → TokenHash}

theorem lineage_sound (hashToken : String → TokenHash) :
    (tokenProgram hashToken).Sound Program.Anytime Program.Regardless TokenStore.Lineage
      (fun store stage => stage.Relies store) where
  idle := fun _ _ => trivial
  start := fun store call _ => start_relies hashToken store call
  step := fun _ _ _ lineage relies => ⟨performToken_lineage lineage relies, performToken_relies relies⟩
  others := fun _ _ _ _ _ _ relies _ apart _ => relies.others apart

abbrev LineageHolds (hashToken : String → TokenHash) (state : TokenState n) : Prop :=
  (tokenProgram hashToken).Holds TokenStore.Lineage (fun store stage => stage.Relies store) state

def ProlongingStep (state : TokenState n) (event : TokenEvent n) : Prop :=
  ∃ worker, event = .step worker ∧ Prolongs state.store (state.workers worker)

theorem shortLived_next {state : TokenState n} {event : TokenEvent n}
    (holds : LineageHolds hashToken state) (short : state.store.ShortLived) :
    ((tokenProgram hashToken).next state event).store.ShortLived ↔
      ¬ ProlongingStep state event := by
  constructor
  · intro kept prolonging
    obtain ⟨worker, rfl, prolongs⟩ := prolonging
    have failed := not_shortLived_of_prolongs holds.store (holds.workers worker) prolongs
    obtain ⟨rotation, stage, _, _, free⟩ := prolongs
    rw [store_of_unlocked (by simp only [stage, performToken, free]; rfl)] at kept
    exact failed kept
  · intro modest
    rcases (tokenProgram hashToken).store_next state event with same | ⟨worker, rfl, written⟩
    · rwa [same]
    · rw [written]
      exact performToken_shortLived holds.store (holds.workers worker) short
        fun prolongs => modest ⟨worker, rfl, prolongs⟩

theorem long_next {state : TokenState n} {event : TokenEvent n}
    (holds : LineageHolds hashToken state) (long : ¬ state.store.ShortLived) :
    ¬ ((tokenProgram hashToken).next state event).store.ShortLived := by
  rcases (tokenProgram hashToken).store_next state event with same | ⟨worker, rfl, written⟩
  · rwa [same]
  · rw [written]
    unfold TokenStore.ShortLived at long
    push Not at long
    obtain ⟨token, descended, exceeds⟩ := long
    exact performToken_long holds.store (holds.workers worker) descended exceeds

theorem shortLived_run (start : TokenState n) (holds : LineageHolds hashToken start)
    (events : List (TokenEvent n)) :
    (run (tokenProgram hashToken).next start events).store.ShortLived ↔
      start.store.ShortLived ∧
        ∀ taken ∈ trace (tokenProgram hashToken).next start events,
          ¬ ProlongingStep taken.1 taken.2 := by
  induction events generalizing start with
  | nil => simp
  | cons event events ih =>
    have reached : LineageHolds hashToken ((tokenProgram hashToken).next start event) := by
      refine (lineage_sound hashToken).holds_next holds ?_
      cases event with
      | step worker => exact ⟨trivial, fun _ _ => trivial⟩
      | call | fail => exact trivial
    rw [run_cons, ih _ reached, trace_cons, List.forall_mem_cons, ← and_assoc]
    refine and_congr_left fun _ => ?_
    by_cases short : start.store.ShortLived
    · rw [shortLived_next holds short]
      exact ⟨fun modest => ⟨short, modest⟩, fun both => both.2⟩
    · exact ⟨fun kept => absurd kept (long_next holds short), fun both => absurd both.1 short⟩

/-- Every token that comes of a login of the WebApp lives no longer than such a token may, exactly
when no request has rotated one that it carries as a cookie. -/
theorem twa_sessions_short_iff (hashToken : String → TokenHash) (accounts : Table Account.id)
    (events : List (TokenEvent n)) :
    let start : TokenState n := (tokenProgram hashToken).initial (.fresh accounts)
    let store := (run (tokenProgram hashToken).next start events).store
    (∀ token, TwaDescended store token → token.expiresAt ≤ token.createdAt + twaRefreshLifetime) ↔
      ∀ taken ∈ trace (tokenProgram hashToken).next start events,
        ¬ ProlongingStep taken.1 taken.2 := by
  intro start store
  have lineage : (TokenStore.fresh accounts).Lineage :=
    ⟨fun _ listed => (by cases listed), fun _ listed => (by cases listed)⟩
  have initially : LineageHolds hashToken start := (lineage_sound hashToken).holds_initial lineage
  have short : start.store.ShortLived := by
    intro token descended
    cases descended.listed
  refine (shortLived_run start initially events).trans ?_
  exact ⟨fun both => both.2, fun modest => ⟨short, modest⟩⟩

def cookieRefresh : List (TokenEvent 2) :=
  [.call 0 (.login .twa 1 "first" 10), .step 0] ++ refreshOf 0 "first" "second"

theorem cookie_prolongs_twa :
    ∃ token, TwaDescended (run (tokenProgram id).next startOfTokens cookieRefresh).store token ∧
      ¬ token.expiresAt ≤ token.createdAt + twaRefreshLifetime := by
  have stored : ∃ parent ∈ (run (tokenProgram id).next startOfTokens
      cookieRefresh).store.tokens.rows, parent.parentTokenId = none ∧
      parent.familyId ∈ (run (tokenProgram id).next startOfTokens cookieRefresh).store.twaFamilies ∧
      ∃ child ∈ (run (tokenProgram id).next startOfTokens cookieRefresh).store.tokens.rows,
        child.parentTokenId = some parent.id ∧
          ¬ child.expiresAt ≤ child.createdAt + twaRefreshLifetime := by
    decide +kernel
  obtain ⟨parent, parentListed, root, opened, child, listed, own, long⟩ := stored
  exact ⟨child, .rotated listed own (.login parentListed root opened), long⟩

end

end InfrasafeBot.Auth
