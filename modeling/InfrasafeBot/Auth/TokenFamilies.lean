import InfrasafeBot.Auth.RefreshTokens

/-! The families of refresh tokens under concurrent logins, refreshes and logouts. A rotation
holds the row of its token, so that a family has one head; a logout that has read its token
before a rotation, and a sweep that has looked for its rows before one, miss the new head. -/

set_option autoImplicit false

namespace InfrasafeBot.Auth

open Library Library.Machine

variable {store : TokenStore} {stage : TokenStage} {now : RequestWorkflow.Moment}

section

theorem performToken_writes (store : TokenStore) (stage : TokenStage) :
    (performToken store stage).1 = store ∨
      (∃ flow userId hash now, stage = .issuing flow userId hash now ∧
        store.hashTaken hash = false ∧
        (performToken store stage).1 = store.saveRefreshToken flow userId hash now) ∨
      (∃ rotation, stage = .rotating rotation ∧ store.hashTaken rotation.hash = false ∧
        (performToken store stage).1 = store.rotate rotation) ∨
      (∃ token now swept, stage = .sweeping token now [] swept ∧
        (performToken store stage).1 = store.revokeRows (fun row => swept.contains row.id) now .reuse) ∨
      ∃ token now, stage = .revoked token now ∧
        (performToken store stage).1 = store.revokeRows (·.id = token.id) now .logout := by
  cases stage with
  | idle | scanning | revoking | finished => exact .inl rfl
  | issuing flow userId hash now =>
    simp only [performToken]
    cases taken : store.hashTaken hash with
    | true => exact .inl rfl
    | false => exact .inr (.inl ⟨flow, userId, hash, now, rfl, taken, rfl⟩)
  | presenting | identifying | reading =>
    left
    simp only [performToken]
    repeat' split
    all_goals rfl
  | rotating rotation =>
    simp only [performToken]
    cases taken : store.hashTaken rotation.hash with
    | true => exact .inl rfl
    | false => exact .inr (.inr (.inl ⟨rotation, rfl, taken, rfl⟩))
  | sweeping token now found swept =>
    cases found with
    | nil => exact .inr (.inr (.inr (.inl ⟨token, now, swept, rfl, rfl⟩)))
    | cons id found =>
      left
      simp only [performToken]
      split
      · rfl
      · rfl
  | revoked token now => exact .inr (.inr (.inr (.inr ⟨token, now, rfl, rfl⟩)))

variable {row : RefreshToken}

theorem mem_revokeRows {selects : RefreshToken → Bool} {reason : RevocationReason} :
    row ∈ (store.revokeRows selects now reason).tokens.rows ↔
      ∃ before ∈ store.tokens.rows,
        (if selects before then before.revoke now reason else before) = row :=
  List.mem_map

theorem mem_addToken {token : TokenId → RefreshToken} (numbered : ∀ id, (token id).id = id) :
    row ∈ (store.addToken token numbered).tokens.rows ↔
      row ∈ store.tokens.rows ∨ row = token store.tokens.nextKey :=
  Table.mem_insert numbered

theorem mem_saveRefreshToken {flow : LoginFlow} {userId : RequestWorkflow.UserId}
    {hash : TokenHash} :
    row ∈ (store.saveRefreshToken flow userId hash now).tokens.rows ↔
      row ∈ store.tokens.rows ∨
        row = loginToken flow userId hash now store.freshFamily store.tokens.nextKey :=
  mem_addToken fun _ => rfl

theorem mem_rotate {rotation : Rotation} :
    row ∈ (store.rotate rotation).tokens.rows ↔
      (∃ before ∈ store.tokens.rows, (if before.id = rotation.token.id then
        before.revoke rotation.now .rotated else before) = row) ∨
      row = rotation.child
        (store.revokeRows (·.id = rotation.token.id) rotation.now .rotated).tokens.nextKey := by
  refine (mem_addToken fun _ => rfl).trans (or_congr_left ?_)
  rw [mem_revokeRows]
  simp only [decide_eq_true_eq]

theorem freshFamily_fresh (listed : row ∈ store.tokens.rows) : row.familyId ≠ store.freshFamily := by
  have bounded := le_foldr_max (store.tokens.rows.map (·.familyId)) row.familyId
    (List.mem_map_of_mem listed)
  exact Nat.ne_of_lt (Nat.lt_succ_of_le bounded)

structure RefreshToken.Ages (before after : RefreshToken) : Prop where
  id : after.id = before.id
  family : after.familyId = before.familyId
  parent : after.parentTokenId = before.parentTokenId
  createdAt : after.createdAt = before.createdAt
  expiresAt : after.expiresAt = before.expiresAt
  revoked : before.active = false → after.active = false

theorem RefreshToken.Ages.refl (row : RefreshToken) : row.Ages row :=
  ⟨rfl, rfl, rfl, rfl, rfl, fun revoked => revoked⟩

theorem RefreshToken.ages_revoke (row : RefreshToken) (selected : Bool)
    (now : RequestWorkflow.Moment) (reason : RevocationReason) :
    row.Ages (if selected then row.revoke now reason else row) := by
  cases selected with
  | true => exact ⟨rfl, rfl, rfl, rfl, rfl, fun _ => rfl⟩
  | false => exact .refl row

theorem performToken_ages (stage : TokenStage) (listed : row ∈ store.tokens.rows) :
    ∃ after ∈ (performToken store stage).1.tokens.rows, row.Ages after := by
  rcases performToken_writes store stage with same | ⟨flow, userId, hash, now, _, _, written⟩ |
    ⟨rotation, _, _, written⟩ | ⟨token, now, swept, _, written⟩ | ⟨token, now, _, written⟩
  · exact ⟨row, by rwa [same], .refl row⟩
  · exact ⟨row, by rw [written]; exact mem_saveRefreshToken.mpr (.inl listed), .refl row⟩
  · refine ⟨_, by rw [written]; exact mem_rotate.mpr (.inl ⟨row, listed, rfl⟩), ?_⟩
    simpa using row.ages_revoke (decide (row.id = rotation.token.id)) rotation.now .rotated
  · exact ⟨_, by rw [written]; exact mem_revokeRows.mpr ⟨row, listed, rfl⟩, row.ages_revoke _ _ _⟩
  · exact ⟨_, by rw [written]; exact mem_revokeRows.mpr ⟨row, listed, rfl⟩, row.ages_revoke _ _ _⟩

theorem performToken_keeps (listed : row ∈ store.tokens.rows) (unlocked : row.id ∉ stage.locks) :
    row ∈ (performToken store stage).1.tokens.rows := by
  rcases performToken_writes store stage with same | ⟨flow, userId, hash, now, _, _, written⟩ |
    ⟨rotation, rfl, _, written⟩ | ⟨token, now, swept, rfl, written⟩ | ⟨token, now, rfl, written⟩
  · rwa [same]
  · rw [written]
    exact mem_saveRefreshToken.mpr (.inl listed)
  · rw [written]
    have other : row.id ≠ rotation.token.id := fun same => unlocked (List.mem_singleton.mpr same)
    exact mem_rotate.mpr (.inl ⟨row, listed, if_neg other⟩)
  · rw [written]
    have other : swept.contains row.id = false := by
      rw [List.contains_eq_mem, decide_eq_false_iff_not]
      exact fun own => unlocked (List.mem_cons_of_mem _ own)
    exact mem_revokeRows.mpr ⟨row, listed, by rw [other]; rfl⟩
  · rw [written]
    have other : row.id ≠ token.id := fun same => unlocked (List.mem_singleton.mpr same)
    exact mem_revokeRows.mpr ⟨row, listed, if_neg (by simpa using other)⟩

end

/-- No token of the family is active, and none will be. -/
structure TokenStore.Closed (store : TokenStore) (family : FamilyId) : Prop where
  opened : ∃ row ∈ store.tokens.rows, row.familyId = family
  revoked : ∀ row ∈ store.tokens.rows, row.familyId = family → row.active = false

structure TokenStore.Orderly (store : TokenStore) : Prop where
  oneActive : ∀ left ∈ store.tokens.rows, ∀ right ∈ store.tokens.rows,
    left.familyId = right.familyId → left.active = true → right.active = true → left = right
  oneSuccessor : ∀ left ∈ store.tokens.rows, ∀ right ∈ store.tokens.rows, ∀ parent,
    left.parentTokenId = some parent → right.parentTokenId = some parent → left = right
  succeeded : ∀ child ∈ store.tokens.rows, ∀ id, child.parentTokenId = some id →
    ∃ parent ∈ store.tokens.rows, parent.id = id ∧ parent.active = false ∧
      (parent.revocationReason = some .rotated ∨ store.Closed parent.familyId)

variable {family : FamilyId}

theorem ne_of_active {left right : RefreshToken} (active : left.active = true)
    (revoked : right.active = false) : left ≠ right := by
  rintro rfl
  rw [active] at revoked
  cases revoked

theorem TokenStore.Closed.revokeRows (closed : store.Closed family)
    (selects : RefreshToken → Bool) (now : RequestWorkflow.Moment) (reason : RevocationReason) :
    (store.revokeRows selects now reason).Closed family where
  opened := by
    obtain ⟨row, listed, own⟩ := closed.opened
    exact ⟨_, mem_revokeRows.mpr ⟨row, listed, rfl⟩, (row.ages_revoke _ _ _).family.trans own⟩
  revoked := by
    intro row listed own
    obtain ⟨before, known, rfl⟩ := mem_revokeRows.mp listed
    have ages := before.ages_revoke (selects before) now reason
    exact ages.revoked (closed.revoked before known (ages.family ▸ own))

theorem TokenStore.Closed.saveRefreshToken (closed : store.Closed family) (flow : LoginFlow)
    (userId : RequestWorkflow.UserId) (hash : TokenHash) (now : RequestWorkflow.Moment) :
    (store.saveRefreshToken flow userId hash now).Closed family where
  opened := by
    obtain ⟨row, listed, own⟩ := closed.opened
    exact ⟨row, mem_saveRefreshToken.mpr (.inl listed), own⟩
  revoked := by
    intro row listed own
    rcases mem_saveRefreshToken.mp listed with before | rfl
    · exact closed.revoked row before own
    · obtain ⟨member, known, same⟩ := closed.opened
      exact absurd (same.trans own.symm) (freshFamily_fresh known)

theorem TokenStore.Closed.rotate (closed : store.Closed family) {rotation : Rotation}
    (listed : rotation.token ∈ store.tokens.rows) (active : rotation.token.active = true) :
    (store.rotate rotation).Closed family where
  opened := by
    obtain ⟨row, known, own⟩ := closed.opened
    refine ⟨_, mem_rotate.mpr (.inl ⟨row, known, rfl⟩), ?_⟩
    have ages := row.ages_revoke (row.id = rotation.token.id) rotation.now .rotated
    simp only [decide_eq_true_eq] at ages
    exact ages.family.trans own
  revoked := by
    intro row known own
    rcases mem_rotate.mp known with ⟨before, listedBefore, rfl⟩ | rfl
    · have ages := before.ages_revoke (before.id = rotation.token.id) rotation.now .rotated
      simp only [decide_eq_true_eq] at ages
      exact ages.revoked (closed.revoked before listedBefore (ages.family ▸ own))
    · rw [closed.revoked rotation.token listed own] at active
      cases active

theorem TokenStore.Orderly.revokeRows (orderly : store.Orderly) {selects : RefreshToken → Bool}
    {now : RequestWorkflow.Moment} {reason : RevocationReason}
    (respects : ∀ row ∈ store.tokens.rows, selects row = true → row.active = false →
      (store.revokeRows selects now reason).Closed row.familyId) :
    (store.revokeRows selects now reason).Orderly where
  oneActive := by
    intro left leftListed right rightListed same leftActive rightActive
    have unchanged {row : RefreshToken}
        (listed : row ∈ (store.revokeRows selects now reason).tokens.rows)
        (active : row.active = true) : row ∈ store.tokens.rows := by
      obtain ⟨before, known, rfl⟩ := mem_revokeRows.mp listed
      cases selected : selects before with
      | true =>
        rw [selected] at active
        cases active
      | false => exact known
    exact orderly.oneActive left (unchanged leftListed leftActive) right
      (unchanged rightListed rightActive) same leftActive rightActive
  oneSuccessor := by
    intro left leftListed right rightListed parent leftParent rightParent
    obtain ⟨leftBefore, leftKnown, rfl⟩ := mem_revokeRows.mp leftListed
    obtain ⟨rightBefore, rightKnown, rfl⟩ := mem_revokeRows.mp rightListed
    rw [(leftBefore.ages_revoke _ _ _).parent] at leftParent
    rw [(rightBefore.ages_revoke _ _ _).parent] at rightParent
    rw [orderly.oneSuccessor leftBefore leftKnown rightBefore rightKnown parent leftParent rightParent]
  succeeded := by
    intro child listed id own
    obtain ⟨before, known, rfl⟩ := mem_revokeRows.mp listed
    rw [(before.ages_revoke _ _ _).parent] at own
    obtain ⟨parent, parentListed, rfl, revoked, reasoned⟩ := orderly.succeeded before known id own
    cases selected : selects parent with
    | true =>
      exact ⟨_, mem_revokeRows.mpr ⟨parent, parentListed, if_pos selected⟩, rfl, rfl,
        .inr (respects parent parentListed selected revoked)⟩
    | false =>
      exact ⟨parent, mem_revokeRows.mpr ⟨parent, parentListed, by rw [selected]; rfl⟩, rfl,
        revoked, reasoned.imp_right fun closed => closed.revokeRows selects now reason⟩

theorem TokenStore.Orderly.saveRefreshToken (orderly : store.Orderly) (flow : LoginFlow)
    (userId : RequestWorkflow.UserId) (hash : TokenHash) (now : RequestWorkflow.Moment) :
    (store.saveRefreshToken flow userId hash now).Orderly where
  oneActive := by
    intro left leftListed right rightListed same leftActive rightActive
    rcases mem_saveRefreshToken.mp leftListed with leftBefore | rfl
    · rcases mem_saveRefreshToken.mp rightListed with rightBefore | rfl
      · exact orderly.oneActive left leftBefore right rightBefore same leftActive rightActive
      · exact absurd same (freshFamily_fresh leftBefore)
    · rcases mem_saveRefreshToken.mp rightListed with rightBefore | rfl
      · exact absurd same.symm (freshFamily_fresh rightBefore)
      · rfl
  oneSuccessor := by
    intro left leftListed right rightListed parent leftParent rightParent
    rcases mem_saveRefreshToken.mp leftListed with leftBefore | rfl
    · rcases mem_saveRefreshToken.mp rightListed with rightBefore | rfl
      · exact orderly.oneSuccessor left leftBefore right rightBefore parent leftParent rightParent
      · cases rightParent
    · cases leftParent
  succeeded := by
    intro child listed id own
    rcases mem_saveRefreshToken.mp listed with before | rfl
    · obtain ⟨parent, parentListed, same, revoked, reasoned⟩ := orderly.succeeded child before id own
      exact ⟨parent, mem_saveRefreshToken.mpr (.inl parentListed), same, revoked,
        reasoned.imp_right fun closed => closed.saveRefreshToken flow userId hash now⟩
    · cases own

theorem TokenStore.Orderly.rotate (orderly : store.Orderly) {rotation : Rotation}
    (listed : rotation.token ∈ store.tokens.rows) (active : rotation.token.active = true) :
    (store.rotate rotation).Orderly := by
  -- an active row that is left is of another family
  have other {before : RefreshToken} (known : before ∈ store.tokens.rows)
      (stays : (if before.id = rotation.token.id then before.revoke rotation.now .rotated
        else before).active = true) :
      (if before.id = rotation.token.id then before.revoke rotation.now .rotated
        else before) = before ∧ before.active = true ∧
        before.familyId ≠ rotation.token.familyId := by
    split at stays
    · cases stays
    · next different =>
        refine ⟨if_neg different, stays, fun same => different ?_⟩
        rw [orderly.oneActive before known rotation.token listed same stays active]
  have successor {before : RefreshToken} (known : before ∈ store.tokens.rows) :
      before.parentTokenId ≠ some rotation.token.id := by
    intro own
    obtain ⟨parent, parentListed, same, revoked, _⟩ := orderly.succeeded before known _ own
    exact ne_of_active active revoked (Table.eq_of_key listed parentListed same.symm)
  have parentOf (before : RefreshToken) :
      (if before.id = rotation.token.id then before.revoke rotation.now .rotated
        else before).parentTokenId = before.parentTokenId := by
    split
    · rfl
    · rfl
  refine ⟨?_, ?_, ?_⟩
  · intro left leftListed right rightListed same leftActive rightActive
    rcases mem_rotate.mp leftListed with ⟨leftBefore, leftKnown, rfl⟩ | rfl
    · obtain ⟨leftSame, leftWas, leftOther⟩ := other leftKnown leftActive
      rw [leftSame] at same ⊢
      rcases mem_rotate.mp rightListed with ⟨rightBefore, rightKnown, rfl⟩ | rfl
      · obtain ⟨rightSame, rightWas, _⟩ := other rightKnown rightActive
        rw [rightSame] at same ⊢
        exact orderly.oneActive leftBefore leftKnown rightBefore rightKnown same leftWas rightWas
      · exact absurd same leftOther
    · rcases mem_rotate.mp rightListed with ⟨rightBefore, rightKnown, rfl⟩ | rfl
      · obtain ⟨rightSame, _, rightOther⟩ := other rightKnown rightActive
        rw [rightSame] at same
        exact absurd same.symm rightOther
      · rfl
  · intro left leftListed right rightListed parent leftParent rightParent
    rcases mem_rotate.mp leftListed with ⟨leftBefore, leftKnown, rfl⟩ | rfl
    · rw [parentOf] at leftParent
      rcases mem_rotate.mp rightListed with ⟨rightBefore, rightKnown, rfl⟩ | rfl
      · rw [parentOf] at rightParent
        rw [orderly.oneSuccessor leftBefore leftKnown rightBefore rightKnown parent leftParent rightParent]
      · exact absurd (leftParent.trans rightParent.symm) (successor leftKnown)
    · rcases mem_rotate.mp rightListed with ⟨rightBefore, rightKnown, rfl⟩ | rfl
      · rw [parentOf] at rightParent
        exact absurd (rightParent.trans leftParent.symm) (successor rightKnown)
      · rfl
  · intro child childListed id own
    rcases mem_rotate.mp childListed with ⟨before, known, rfl⟩ | rfl
    · rw [parentOf] at own
      obtain ⟨parent, parentListed, rfl, revoked, reasoned⟩ := orderly.succeeded before known id own
      have different : parent.id ≠ rotation.token.id := fun same =>
        ne_of_active active revoked (Table.eq_of_key listed parentListed same.symm)
      exact ⟨parent, mem_rotate.mpr (.inl ⟨parent, parentListed, if_neg different⟩), rfl, revoked,
        reasoned.imp_right fun closed => closed.rotate listed active⟩
    · cases own
      exact ⟨_, mem_rotate.mpr (.inl ⟨rotation.token, listed, if_pos rfl⟩), rfl, rfl, .inl rfl⟩

def TokenStage.Relies (store : TokenStore) : TokenStage → Prop
  | .identifying rotation => rotation.token ∈ store.tokens.rows ∧ rotation.token.active = true
  | .rotating rotation => rotation.token ∈ store.tokens.rows ∧ rotation.token.active = true
  | .scanning token _ => token ∈ store.tokens.rows
  | .sweeping token _ _ swept => token ∈ store.tokens.rows ∧
      ∀ id ∈ swept, ∃ row ∈ store.tokens.rows, row.id = id ∧ row.active = true
  | .revoking token _ => ∃ row ∈ store.tokens.rows, row.id = token.id ∧ row.familyId = token.familyId
  | .revoked token _ => ∃ row ∈ store.tokens.rows, row.id = token.id ∧ row.familyId = token.familyId
  | _ => True

/-- A logout finds no other head of the family than the token it has read, and a sweep none
that it has not found when it began. -/
def HeadKnown (store : TokenStore) : TokenStage → Prop
  | .revoked token _ => ∀ row ∈ store.tokens.rows, row.familyId = token.familyId →
      row.active = true → row.id = token.id
  | .sweeping token _ [] swept => ∀ row ∈ store.tokens.rows, row.familyId = token.familyId →
      row.active = true → row.id ∈ swept
  | _ => True

instance headKnownDecidable (store : TokenStore) (stage : TokenStage) :
    Decidable (HeadKnown store stage) := by
  unfold HeadKnown
  split
  · exact inferInstanceAs (Decidable (∀ row ∈ store.tokens.rows, _ → _ → _))
  · exact inferInstanceAs (Decidable (∀ row ∈ store.tokens.rows, _ → _ → _))
  · exact .isTrue trivial

variable {token : RefreshToken}

section

variable {other : TokenStage}

theorem mem_of_byHash {hash : TokenHash} (found : store.byHash hash = some token) :
    token ∈ store.tokens.rows :=
  List.mem_of_find?_eq_some found

theorem closed_of_logout (relies : (TokenStage.revoked token now).Relies store)
    (known : HeadKnown store (.revoked token now)) :
    (store.revokeRows (·.id = token.id) now .logout).Closed token.familyId where
  opened := by
    obtain ⟨row, listed, _, own⟩ := relies
    exact ⟨_, mem_revokeRows.mpr ⟨row, listed, rfl⟩, (row.ages_revoke _ _ _).family.trans own⟩
  revoked := by
    intro row listed own
    obtain ⟨before, member, rfl⟩ := mem_revokeRows.mp listed
    have ages := before.ages_revoke (before.id = token.id) now .logout
    rw [ages.family] at own
    cases active : before.active with
    | false => exact ages.revoked active
    | true =>
      have same := known before member own active
      rw [if_pos (decide_eq_true same)]
      rfl

theorem closed_of_sweep {swept : List TokenId} (listed : token ∈ store.tokens.rows)
    (known : HeadKnown store (.sweeping token now [] swept)) :
    (store.revokeRows (fun row => swept.contains row.id) now .reuse).Closed token.familyId where
  opened := ⟨_, mem_revokeRows.mpr ⟨token, listed, rfl⟩, (token.ages_revoke _ _ _).family⟩
  revoked := by
    intro row member own
    obtain ⟨before, listedBefore, rfl⟩ := mem_revokeRows.mp member
    have ages := before.ages_revoke (swept.contains before.id) now .reuse
    rw [ages.family] at own
    cases active : before.active with
    | false => exact ages.revoked active
    | true =>
      have found := known before listedBefore own active
      rw [if_pos (by simpa using found)]
      rfl

theorem performToken_orderly (orderly : store.Orderly) (relies : stage.Relies store)
    (known : HeadKnown store stage) : (performToken store stage).1.Orderly := by
  rcases performToken_writes store stage with same | ⟨flow, userId, hash, now, rfl, _, written⟩ |
    ⟨rotation, rfl, _, written⟩ | ⟨token, now, swept, rfl, written⟩ | ⟨token, now, rfl, written⟩
  · rwa [same]
  · rw [written]
    exact orderly.saveRefreshToken flow userId hash now
  · rw [written]
    exact orderly.rotate relies.1 relies.2
  · rw [written]
    apply orderly.revokeRows
    intro row listed selected revoked
    obtain ⟨kept, keptListed, same, active⟩ := relies.2 row.id (by simpa using selected)
    exact absurd (Table.eq_of_key keptListed listed same) (ne_of_active active revoked)
  · rw [written]
    apply orderly.revokeRows
    intro row listed selected _
    obtain ⟨kept, keptListed, same, own⟩ := relies
    obtain rfl : row = kept :=
      Table.eq_of_key listed keptListed ((of_decide_eq_true selected).trans same.symm)
    rw [own]
    exact closed_of_logout ⟨row, keptListed, same, own⟩ known

theorem performToken_closed (closed : store.Closed family) (relies : stage.Relies store) :
    (performToken store stage).1.Closed family := by
  rcases performToken_writes store stage with same | ⟨flow, userId, hash, now, rfl, _, written⟩ |
    ⟨rotation, rfl, _, written⟩ | ⟨token, now, swept, rfl, written⟩ | ⟨token, now, rfl, written⟩
  · rwa [same]
  · rw [written]
    exact closed.saveRefreshToken flow userId hash now
  · rw [written]
    exact closed.rotate relies.1 relies.2
  · rw [written]
    exact closed.revokeRows _ _ _
  · rw [written]
    exact closed.revokeRows _ _ _

theorem performToken_relies (relies : stage.Relies store) :
    (performToken store stage).2.Relies (performToken store stage).1 := by
  cases stage with
  | idle | revoked | finished => trivial
  | issuing | rotating =>
    simp only [performToken]
    split
    · trivial
    · trivial
  | presenting presented source hash now =>
    simp only [performToken]
    cases found : store.byHash presented with
    | none => trivial
    | some token =>
      have listed := mem_of_byHash found
      dsimp only
      cases active : token.active with
      | false =>
        rw [if_pos rfl]
        split
        · exact listed
        · trivial
      | true =>
        rw [if_neg (by simp)]
        split
        · trivial
        · exact ⟨listed, active⟩
  | identifying rotation =>
    simp only [performToken]
    split
    · trivial
    · split
      · trivial
      · exact relies
  | scanning token now => exact ⟨relies, fun _ listed => by cases listed⟩
  | sweeping token now found swept =>
    cases found with
    | nil => trivial
    | cons id found =>
      obtain ⟨listed, locked⟩ := relies
      simp only [performToken]
      split
      · next active =>
          refine ⟨listed, fun other member => ?_⟩
          rcases List.mem_cons.mp member with rfl | before
          · cases located : store.tokens.find? other with
            | none =>
              rw [located] at active
              cases active
            | some row =>
              rw [located] at active
              exact ⟨row, Table.mem_of_find? located, Table.key_of_find? located, active⟩
          · exact locked other before
      · exact ⟨listed, locked⟩
  | reading presented now =>
    simp only [performToken]
    cases found : store.byHash presented with
    | none => trivial
    | some token =>
      dsimp only
      split
      · exact ⟨token, mem_of_byHash found, rfl, rfl⟩
      · trivial
  | revoking token now => exact relies

theorem TokenStage.Relies.others (relies : other.Relies store)
    (apart : ∀ key ∈ stage.locks, key ∉ other.locks) :
    other.Relies (performToken store stage).1 := by
  have kept {row : RefreshToken} (listed : row ∈ store.tokens.rows)
      (mine : row.id ∈ other.locks) : row ∈ (performToken store stage).1.tokens.rows :=
    performToken_keeps listed fun theirs => apart _ theirs mine
  have member {token : RefreshToken} (known : ∃ row ∈ store.tokens.rows, row.id = token.id ∧
      row.familyId = token.familyId) : ∃ row ∈ (performToken store stage).1.tokens.rows,
        row.id = token.id ∧ row.familyId = token.familyId := by
    obtain ⟨row, listed, same, own⟩ := known
    obtain ⟨after, remains, ages⟩ := performToken_ages stage listed
    exact ⟨after, remains, ages.id.trans same, ages.family.trans own⟩
  cases other with
  | identifying | rotating => exact ⟨kept relies.1 (List.mem_singleton.mpr rfl), relies.2⟩
  | scanning token now => exact kept relies (List.mem_singleton.mpr rfl)
  | sweeping token now found swept =>
    refine ⟨kept relies.1 List.mem_cons_self, fun id listed => ?_⟩
    obtain ⟨row, located, same, active⟩ := relies.2 id listed
    exact ⟨row, kept located (same ▸ List.mem_cons_of_mem _ listed), same, active⟩
  | revoking | revoked => exact member relies
  | idle | issuing | presenting | reading | finished => trivial

end

theorem start_relies (hashToken : String → TokenHash) (store : TokenStore) (call : TokenCall) :
    ((tokenProgram hashToken).start call).Relies store := by
  cases call with
  | login flow userId value now => trivial
  | refresh | logout =>
    simp only [tokenProgram, TokenCall.start]
    split
    · trivial
    · trivial

theorem token_sound (hashToken : String → TokenHash) :
    (tokenProgram hashToken).Sound HeadKnown Program.Regardless TokenStore.Orderly
      (fun store stage => stage.Relies store) where
  idle := fun _ _ => trivial
  start := fun store call _ => start_relies hashToken store call
  step := fun _ _ known orderly relies =>
    ⟨performToken_orderly orderly relies known, performToken_relies relies⟩
  others := fun _ _ _ _ _ _ relies _ apart _ => relies.others apart

section

variable {n : Nat} (hashToken : String → TokenHash)

abbrev TokenState (n : Nat) := Program.State TokenStore TokenStage n

abbrev TokenEvent (n : Nat) := Program.Event TokenCall n

def AnswersReplay (state : TokenState n) (event : TokenEvent n) (token : RefreshToken) : Prop :=
  ∃ worker, event = .step worker ∧
    ((∃ presented source hash now answer,
        state.workers worker = .presenting presented source hash now ∧
        state.store.byHash presented = some token ∧
        (∃ child ∈ state.store.tokens.rows, child.parentTokenId = some token.id) ∧
        (performToken state.store (state.workers worker)).2 = .finished answer) ∨
      ∃ now swept, state.workers worker = .sweeping token now [] swept)

def EndsLogout (state : TokenState n) (event : TokenEvent n) (token : RefreshToken) : Prop :=
  ∃ worker now, event = .step worker ∧ state.workers worker = .revoked token now

variable {hashToken}

abbrev TokensHold (hashToken : String → TokenHash) (state : TokenState n) : Prop :=
  (tokenProgram hashToken).Holds TokenStore.Orderly (fun store stage => stage.Relies store) state

variable {state : TokenState n} {event : TokenEvent n}

theorem store_of_unlocked {worker : Fin n}
    (unlocked : (performToken state.store (state.workers worker)).2.locks = []) :
    ((tokenProgram hashToken).next state (.step worker)).store =
      (performToken state.store (state.workers worker)).1 := by
  simp only [Program.next]
  rw [if_pos]
  · rfl
  · intro other different key held
    change key ∈ (performToken state.store (state.workers worker)).2.locks at held
    rw [unlocked] at held
    cases held

theorem closed_of_replay (holds : TokensHold hashToken state)
    (permitted : Program.Allows HeadKnown Program.Regardless state event)
    (answers : AnswersReplay state event token) :
    ((tokenProgram hashToken).next state event).store.Closed token.familyId := by
  obtain ⟨worker, rfl, asked⟩ := answers
  rcases asked with ⟨presented, source, hash, now, answer, stage, found, successor, ended⟩ |
    ⟨now, swept, stage⟩
  · rw [store_of_unlocked (by rw [ended]; rfl)]
    obtain ⟨child, childListed, own⟩ := successor
    obtain ⟨parent, listed, same, revoked, reasoned⟩ := holds.store.succeeded child childListed token.id own
    obtain rfl := Table.eq_of_key listed (mem_of_byHash found) same
    rw [stage] at ended ⊢
    simp only [performToken, found, revoked, if_true] at ended ⊢
    rcases reasoned with rotated | closed
    · rw [if_pos rotated] at ended
      cases ended
    · split
      · exact closed
      · exact closed
  · have relies := holds.workers worker
    have known := permitted.1
    change TokenStage.Relies state.store (state.workers worker) at relies
    rw [stage] at relies known
    rw [store_of_unlocked (by rw [stage]; rfl), stage]
    exact closed_of_sweep relies.1 known

theorem closed_of_endsLogout (holds : TokensHold hashToken state)
    (permitted : Program.Allows HeadKnown Program.Regardless state event)
    (ends : EndsLogout state event token) :
    ((tokenProgram hashToken).next state event).store.Closed token.familyId := by
  obtain ⟨worker, now, rfl, stage⟩ := ends
  have relies := holds.workers worker
  have known := permitted.1
  change TokenStage.Relies state.store (state.workers worker) at relies
  rw [stage] at relies known
  rw [store_of_unlocked (by rw [stage]; rfl), stage]
  exact closed_of_logout relies known

theorem closed_next {family : FamilyId} (holds : TokensHold hashToken state)
    (closed : state.store.Closed family) :
    ((tokenProgram hashToken).next state event).store.Closed family := by
  rcases (tokenProgram hashToken).store_next state event with same | ⟨worker, rfl, written⟩
  · rwa [same]
  · rw [written]
    exact performToken_closed closed (holds.workers worker)

theorem TokenStore.orderly_fresh (accounts : Table Account.id) : (TokenStore.fresh accounts).Orderly where
  oneActive := fun _ listed => by cases listed
  oneSuccessor := fun _ listed => by cases listed
  succeeded := fun _ listed => by cases listed

end

def approvedAccount : Table Account.id := ⟨[⟨1, "approved"⟩], by simp⟩

def startOfTokens : TokenState 2 := (tokenProgram id).initial (.fresh approvedAccount)

def webLogin : List (TokenEvent 2) := [.call 0 (.login .web 1 "first" 10), .step 0]

def refreshOf (worker : Fin 2) (presented value : String) : List (TokenEvent 2) :=
  .call worker (.refresh (some presented) none value 20) :: List.replicate 3 (.step worker)

def firstToken : RefreshToken := loginToken .web 1 "first" 10 1 1

def secondToken : RefreshToken := Rotation.child ⟨firstToken, .cookie, "second", 20⟩ 2

/-- A refresh, and a logout with the token that it has given. -/
def rotatedSession : List (TokenEvent 2) :=
  webLogin ++ refreshOf 0 "first" "second" ++ [.call 1 (.logout (some "second") none 40), .step 1, .step 1]

/-- The logout reads its token before the refresh commits, and writes after it. -/
def crossedLogout : List (TokenEvent 2) :=
  webLogin ++ [.call 1 (.logout (some "first") none 20), .step 1] ++
    refreshOf 0 "first" "second" ++ [.step 1]

/-- A replay looks for the head of the family before a refresh replaces it. -/
def crossedReplay : List (TokenEvent 2) :=
  webLogin ++ refreshOf 0 "first" "second" ++
    [.call 1 (.refresh (some "first") none "other" 30), .step 1, .step 1] ++
    refreshOf 0 "second" "third" ++ [.step 1]

end InfrasafeBot.Auth
