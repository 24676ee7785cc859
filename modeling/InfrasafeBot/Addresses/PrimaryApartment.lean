import InfrasafeBot.Addresses.ResidentBindings
import InfrasafeBot.Library.Computation

/-! The primary apartment of a resident. The residents' section settles it after each change; a
review and a removal by the address service leave the flags as they are, so that the invariant
depends on what they meet. -/

set_option autoImplicit false

namespace InfrasafeBot.Addresses

open Library Library.Machine RequestWorkflow

structure SinglePrimary (bindings : Table UserApartment.id) (user : UserId) : Prop where
  once : ∀ left ∈ bindings.rows, ∀ right ∈ bindings.rows, left.primaryFor user = true →
    right.primaryFor user = true → left = right
  given : ∀ row ∈ bindings.rows, row.approvedFor user = true →
    ∃ primary ∈ bindings.rows, primary.primaryFor user = true

variable {resident : UserId} {binding : UserApartment}

section

variable {bindings after : Table UserApartment.id} {user : UserId} {row : UserApartment}

theorem approvedFor_iff : row.approvedFor user = true ↔ row.userId = user ∧ row.status = .approved := by
  simp [UserApartment.approvedFor]

theorem primaryFor_iff :
    row.primaryFor user = true ↔ row.approvedFor user = true ∧ row.isPrimary = true := by
  simp [UserApartment.primaryFor]

theorem userId_of_primary (primary : row.primaryFor user = true) : row.userId = user :=
  (approvedFor_iff.mp (primaryFor_iff.mp primary).1).1

theorem SinglePrimary.of_rows (single : SinglePrimary bindings user)
    (same : ∀ row : UserApartment, row.userId = user →
      (row ∈ after.rows ↔ row ∈ bindings.rows)) : SinglePrimary after user where
  once := by
    intro left listed right listedToo first second
    exact single.once left ((same left (userId_of_primary first)).mp listed) right
      ((same right (userId_of_primary second)).mp listedToo) first second
  given := by
    intro row listed approved
    obtain ⟨primary, found, flagged⟩ :=
      single.given row ((same row (approvedFor_iff.mp approved).1).mp listed) approved
    exact ⟨primary, (same primary (userId_of_primary flagged)).mpr found, flagged⟩

theorem SinglePrimary.of_none (none : ∀ row ∈ bindings.rows, row.approvedFor user = false) :
    SinglePrimary bindings user where
  once := by
    intro left listed _ _ primary
    have approved := (primaryFor_iff.mp primary).1
    rw [none left listed] at approved
    cases approved
  given := by
    intro row listed approved
    rw [none row listed] at approved
    cases approved

theorem mem_put_iff {changed : UserApartment} (known : ∃ old ∈ bindings.rows, old.id = changed.id) :
    row ∈ (bindings.put changed).rows ↔
      row = changed ∨ row ∈ bindings.rows ∧ row.id ≠ changed.id := by
  constructor
  · exact Table.mem_put
  · obtain ⟨old, listed, same⟩ := known
    rintro (rfl | ⟨before, other⟩)
    · exact List.mem_map.mpr ⟨old, listed, if_pos same⟩
    · exact List.mem_map.mpr ⟨row, before, if_neg other⟩

theorem mem_primaryCandidates {exclude : Option UserApartmentId} :
    row ∈ primaryCandidates bindings user exclude ↔
      (row ∈ bindings.rows ∧ row.approvedFor user = true) ∧ some row.id ≠ exclude := by
  rw [primaryCandidates, List.mem_filter, approvedBindings, List.mem_insertionSort,
    List.mem_filter, decide_eq_true_eq]

variable {keep : Option UserApartmentId} {candidates : List UserApartment}

theorem chooseWinner_mem {winner : UserApartment}
    (chosen : chooseWinner keep candidates = some winner) :
    winner ∈ candidates := by
  cases candidates with
  | nil => cases chosen
  | cons first rest =>
    simp only [chooseWinner, Option.some.injEq] at chosen
    subst chosen
    cases kept : keep.bind fun id => (first :: rest).find? (·.id = id) with
    | some row =>
      obtain ⟨id, _, found⟩ := Option.bind_eq_some_iff.mp kept
      exact List.mem_of_find?_eq_some found
    | none =>
      rw [Option.getD_none]
      cases flagged : (first :: rest).find? (·.isPrimary) with
      | some row => exact List.mem_of_find?_eq_some flagged
      | none => exact List.mem_cons_self

theorem chooseWinner_some (listed : row ∈ candidates) :
    ∃ winner, chooseWinner keep candidates = some winner := by
  cases candidates with
  | nil => cases listed
  | cons first rest => exact ⟨_, rfl⟩

section

variable {exclude : Option UserApartmentId}

theorem mem_ensureSinglePrimary :
    row ∈ (ensureSinglePrimary bindings resident keep exclude).rows ↔
      (∃ old ∈ bindings.rows, old.userId = resident ∧ old.settle
        (chooseWinner keep (primaryCandidates bindings resident exclude)) = row) ∨
      row ∈ bindings.rows ∧ row.userId ≠ resident := by
  refine Iff.trans (Table.mem_update fun row => row.settle_id
    (chooseWinner keep (primaryCandidates bindings resident exclude))) ?_
  constructor
  · rintro ⟨old, listed, rfl⟩
    by_cases own : old.userId = resident
    · rw [if_pos (decide_eq_true own)]
      exact .inl ⟨old, listed, own, rfl⟩
    · rw [if_neg (by simpa using own)]
      exact .inr ⟨listed, own⟩
  · rintro (⟨old, listed, own, rfl⟩ | ⟨listed, foreign⟩)
    · exact ⟨old, listed, if_pos (decide_eq_true own)⟩
    · exact ⟨row, listed, if_neg (by simpa using foreign)⟩

theorem mem_ensureSinglePrimary_of_ne (foreign : row.userId ≠ resident) :
    row ∈ (ensureSinglePrimary bindings resident keep exclude).rows ↔ row ∈ bindings.rows := by
  rw [mem_ensureSinglePrimary]
  constructor
  · rintro (⟨old, _, own, rfl⟩ | ⟨listed, _⟩)
    · exact absurd own foreign
    · exact listed
  · exact fun listed => .inr ⟨listed, foreign⟩

theorem winner_of_primary (listed : row ∈ (ensureSinglePrimary bindings resident keep exclude).rows)
    (primary : row.primaryFor resident = true) :
    ∃ winner, chooseWinner keep (primaryCandidates bindings resident exclude) = some winner ∧
      winner.id = row.id := by
  rcases mem_ensureSinglePrimary.mp listed with ⟨old, _, _, rfl⟩ | ⟨_, foreign⟩
  · have won := (primaryFor_iff.mp primary).2
    cases chosen : chooseWinner keep (primaryCandidates bindings resident exclude) with
    | none =>
      rw [chosen] at won
      cases won
    | some winner =>
      rw [chosen] at won
      exact ⟨winner, rfl, of_decide_eq_true won⟩
  · exact absurd (userId_of_primary primary) foreign

theorem ensureSinglePrimary_single
    (candidate : ∀ row ∈ bindings.rows, row.approvedFor resident = true →
      ∃ candidate, candidate ∈ primaryCandidates bindings resident exclude) :
    SinglePrimary (ensureSinglePrimary bindings resident keep exclude) resident where
  once := by
    intro left listed right listedToo first second
    obtain ⟨winner, chosen, same⟩ := winner_of_primary listed first
    obtain ⟨winnerToo, chosenToo, sameToo⟩ := winner_of_primary listedToo second
    obtain rfl := Option.some.inj (chosen.symm.trans chosenToo)
    exact Table.eq_of_key listed listedToo (same.symm.trans sameToo)
  given := by
    intro row listed approved
    have before : ∃ old ∈ bindings.rows, old.approvedFor resident = true := by
      rcases mem_ensureSinglePrimary.mp listed with ⟨old, before, _, rfl⟩ | ⟨before, _⟩
      · exact ⟨old, before, approved⟩
      · exact ⟨row, before, approved⟩
    obtain ⟨old, before, approvedOld⟩ := before
    obtain ⟨someone, offered⟩ := candidate old before approvedOld
    obtain ⟨winner, chosen⟩ : ∃ winner, chooseWinner keep
      (primaryCandidates bindings resident exclude) = some winner := chooseWinner_some offered
    obtain ⟨⟨member, wins⟩, _⟩ := mem_primaryCandidates.mp (chooseWinner_mem chosen)
    refine ⟨winner.settle (some winner), mem_ensureSinglePrimary.mpr
      (.inl ⟨winner, member, (approvedFor_iff.mp wins).1, by rw [chosen]⟩), ?_⟩
    refine primaryFor_iff.mpr ⟨wins, ?_⟩
    exact decide_eq_true rfl

theorem ensureSinglePrimary_settles :
    SinglePrimary (ensureSinglePrimary bindings resident keep none) resident :=
  ensureSinglePrimary_single fun row listed approved =>
    ⟨row, mem_primaryCandidates.mpr ⟨⟨listed, approved⟩, by simp⟩⟩

end

section

variable {old changed : UserApartment}

def OthersKept (resident : UserId) (bindings after : Table UserApartment.id) : Prop :=
  ∀ row : UserApartment, row.userId ≠ resident → (row ∈ after.rows ↔ row ∈ bindings.rows)

theorem othersKept_put (listed : old ∈ bindings.rows) (same : changed.id = old.id)
    (own : old.userId = resident) (ownToo : changed.userId = resident) :
    OthersKept resident bindings (bindings.put changed) := by
  intro row foreign
  rw [mem_put_iff ⟨old, listed, same.symm⟩]
  constructor
  · rintro (rfl | ⟨before, _⟩)
    · exact absurd ownToo foreign
    · exact before
  · intro before
    refine .inr ⟨before, fun equal => foreign ?_⟩
    rw [bindings.eq_of_key before listed (equal.trans same)]
    exact own

theorem othersKept_delete (listed : old ∈ bindings.rows) (own : old.userId = resident) :
    OthersKept resident bindings (bindings.delete (·.id = old.id)) := by
  intro row foreign
  rw [Table.mem_delete, decide_eq_false_iff_not]
  constructor
  · exact fun kept => kept.1
  · intro before
    refine ⟨before, fun equal => foreign ?_⟩
    rw [bindings.eq_of_key before listed equal]
    exact own

theorem SinglePrimary.settled {keep exclude : Option UserApartmentId} {user : UserId}
    (single : ∀ user, SinglePrimary bindings user) (kept : OthersKept resident bindings after)
    (own : SinglePrimary (ensureSinglePrimary after resident keep exclude) resident) :
    SinglePrimary (ensureSinglePrimary after resident keep exclude) user := by
  by_cases mine : user = resident
  · exact mine ▸ own
  · refine (single user).of_rows fun row theirs => ?_
    have foreign : row.userId ≠ resident := fun same => mine (theirs.symm.trans same)
    exact (mem_ensureSinglePrimary_of_ne foreign).trans (kept row foreign)

section

variable (single : SinglePrimary bindings user)

include single

theorem SinglePrimary.put (listed : old ∈ bindings.rows) (same : changed.id = old.id)
    (approved : changed.approvedFor user = old.approvedFor user)
    (primary : changed.primaryFor user = old.primaryFor user) :
    SinglePrimary (bindings.put changed) user := by
  have known : ∃ row ∈ bindings.rows, row.id = changed.id := ⟨old, listed, same.symm⟩
  constructor
  · intro left leftListed right rightListed first second
    rcases (mem_put_iff known).mp leftListed with rfl | ⟨leftBefore, leftOther⟩
    · rcases (mem_put_iff known).mp rightListed with rfl | ⟨rightBefore, rightOther⟩
      · rfl
      · rw [primary] at first
        have equal := single.once old listed right rightBefore first second
        exact absurd (equal ▸ same.symm) rightOther
    · rcases (mem_put_iff known).mp rightListed with rfl | ⟨rightBefore, rightOther⟩
      · rw [primary] at second
        have equal := single.once left leftBefore old listed first second
        exact absurd (equal ▸ same.symm) leftOther
      · exact single.once left leftBefore right rightBefore first second
  · intro row rowListed given
    have before : ∃ row ∈ bindings.rows, row.approvedFor user = true := by
      rcases (mem_put_iff known).mp rowListed with rfl | ⟨before, _⟩
      · exact ⟨old, listed, approved ▸ given⟩
      · exact ⟨row, before, given⟩
    obtain ⟨row, before, given⟩ := before
    obtain ⟨holder, found, flagged⟩ := single.given row before given
    by_cases mine : holder.id = changed.id
    · refine ⟨changed, (mem_put_iff known).mpr (.inl rfl), ?_⟩
      rw [primary, ← bindings.eq_of_key found listed (mine.trans same)]
      exact flagged
    · exact ⟨holder, (mem_put_iff known).mpr (.inr ⟨found, mine⟩), flagged⟩

theorem SinglePrimary.insert {make : UserApartmentId → UserApartment}
    {numbered : ∀ id, (make id).id = id} (unapproved : ∀ id, (make id).status ≠ .approved) :
    SinglePrimary (bindings.insert make numbered) user := by
  have old : ∀ row ∈ (bindings.insert make numbered).rows, row.approvedFor user = true →
      row ∈ bindings.rows := by
    intro row listed approved
    rcases (Table.mem_insert numbered).mp listed with before | rfl
    · exact before
    · exact absurd (approvedFor_iff.mp approved).2 (unapproved _)
  constructor
  · intro left listed right listedToo first second
    exact single.once left (old left listed (primaryFor_iff.mp first).1) right
      (old right listedToo (primaryFor_iff.mp second).1) first second
  · intro row listed approved
    obtain ⟨holder, found, flagged⟩ := single.given row (old row listed approved) approved
    exact ⟨holder, (Table.mem_insert numbered).mpr (.inl found), flagged⟩

theorem single_approve_iff (listed : old ∈ bindings.rows) (same : changed.id = old.id)
    (unapproved : old.approvedFor user = false) (approved : changed.approvedFor user = true) :
    SinglePrimary (bindings.put changed) user ↔
      (changed.isPrimary = true ↔ ∀ row ∈ bindings.rows, row.approvedFor user = false) := by
  have known : ∃ row ∈ bindings.rows, row.id = changed.id := ⟨old, listed, same.symm⟩
  -- an approved binding is another one than `old`, and stays
  have stays : ∀ row ∈ bindings.rows, row.approvedFor user = true →
      row ∈ (bindings.put changed).rows ∧ row ≠ changed := by
    intro row before given
    have other : row.id ≠ changed.id := by
      intro equal
      rw [bindings.eq_of_key before listed (equal.trans same), unapproved] at given
      cases given
    exact ⟨(mem_put_iff known).mpr (.inr ⟨before, other⟩), fun equal => other (equal ▸ rfl)⟩
  have member : changed ∈ (bindings.put changed).rows := (mem_put_iff known).mpr (.inl rfl)
  constructor
  · intro after
    constructor
    · intro flagged row before
      cases given : row.approvedFor user with
      | false => rfl
      | true =>
        obtain ⟨holder, found, primary⟩ := single.given row before given
        have kept := stays holder found (primaryFor_iff.mp primary).1
        exact absurd (after.once holder kept.1 changed member primary
          (primaryFor_iff.mpr ⟨approved, flagged⟩)) kept.2
    · intro none
      obtain ⟨holder, found, primary⟩ := after.given changed member approved
      rcases (mem_put_iff known).mp found with rfl | ⟨before, _⟩
      · exact (primaryFor_iff.mp primary).2
      · have given := (primaryFor_iff.mp primary).1
        rw [none holder before] at given
        cases given
  · intro flags
    have first : ∀ row ∈ (bindings.put changed).rows, row.primaryFor user = true →
        changed.isPrimary = true → row = changed := by
      intro row found primary flagged
      rcases (mem_put_iff known).mp found with rfl | ⟨before, _⟩
      · rfl
      · have given := (primaryFor_iff.mp primary).1
        rw [flags.mp flagged row before] at given
        cases given
    cases flagged : changed.isPrimary with
    | true =>
      constructor
      · intro left leftListed right rightListed leftPrimary rightPrimary
        exact (first left leftListed leftPrimary flagged).trans
          (first right rightListed rightPrimary flagged).symm
      · exact fun _ _ _ => ⟨changed, member, primaryFor_iff.mpr ⟨approved, flagged⟩⟩
    | false =>
      have old : ∀ row ∈ (bindings.put changed).rows, row.primaryFor user = true →
          row ∈ bindings.rows := by
        intro row found primary
        rcases (mem_put_iff known).mp found with rfl | ⟨before, _⟩
        · have set := (primaryFor_iff.mp primary).2
          rw [flagged] at set
          cases set
        · exact before
      have someone : ∃ row ∈ bindings.rows, row.approvedFor user = true := by
        by_contra nobody
        have none : ∀ row ∈ bindings.rows, row.approvedFor user = false := by
          intro row before
          cases given : row.approvedFor user with
          | false => rfl
          | true => exact absurd ⟨row, before, given⟩ nobody
        have set := flags.mpr none
        rw [flagged] at set
        cases set
      constructor
      · intro left leftListed right rightListed leftPrimary rightPrimary
        exact single.once left (old left leftListed leftPrimary) right
          (old right rightListed rightPrimary) leftPrimary rightPrimary
      · intro _ _ _
        obtain ⟨row, before, given⟩ := someone
        obtain ⟨holder, found, primary⟩ := single.given row before given
        exact ⟨holder, (stays holder found (primaryFor_iff.mp primary).1).1, primary⟩

theorem single_delete_iff (listed : old ∈ bindings.rows) :
    SinglePrimary (bindings.delete (·.id = old.id)) user ↔
      (old.primaryFor user = true →
        ∀ row ∈ bindings.rows, row.id ≠ old.id → row.approvedFor user = false) := by
  have left_iff : ∀ row : UserApartment, row ∈ (bindings.delete (·.id = old.id)).rows ↔
      row ∈ bindings.rows ∧ row.id ≠ old.id := by
    intro row
    rw [Table.mem_delete, decide_eq_false_iff_not]
  constructor
  · intro after primary row before other
    cases given : row.approvedFor user with
    | false => rfl
    | true =>
      obtain ⟨holder, found, flagged⟩ := after.given row ((left_iff row).mpr ⟨before, other⟩) given
      obtain ⟨foundBefore, different⟩ := (left_iff holder).mp found
      exact absurd (single.once holder foundBefore old listed flagged primary ▸ rfl) different
  · intro alone
    constructor
    · intro left leftListed right rightListed
      exact single.once left ((left_iff left).mp leftListed).1 right
        ((left_iff right).mp rightListed).1
    · intro row found given
      obtain ⟨before, other⟩ := (left_iff row).mp found
      obtain ⟨holder, held, flagged⟩ := single.given row before given
      by_cases mine : holder.id = old.id
      · rw [bindings.eq_of_key held listed mine] at flagged
        rw [alone flagged row before other] at given
        cases given
      · exact ⟨holder, (left_iff holder).mpr ⟨held, mine⟩, flagged⟩

end

end

end

def ResidentBook.Settled (book : ResidentBook) : Prop := ∀ user, SinglePrimary book.bindings user

variable {book : ResidentBook} {id : UserApartmentId} {now : Moment} {comment : Option String}
  {reviewer : UserId}

section

variable {after : ResidentBook} {actor : UserId}

theorem requireBinding_ok (found : requireBinding book resident id = .ok binding) :
    binding ∈ book.bindings.rows ∧ binding.id = id ∧ binding.userId = resident := by
  unfold requireBinding at found
  split at found
  · cases found
  · next row located =>
      split at found
      · next own =>
          cases found
          exact ⟨Table.mem_of_find? located, Table.key_of_find? located, own⟩
      · cases found

variable {approve : Bool} {reviewed : Table UserApartment.id}

theorem reviewRequest_ok
    (returned : reviewRequest book id reviewer comment approve now = .ok reviewed) :
    ∃ binding, book.bindings.find? id = some binding ∧ binding.status = .pending ∧
      reviewed = book.bindings.put
        (binding.review (if approve then .approved else .rejected) reviewer comment now) := by
  unfold reviewRequest at returned
  split at returned
  · cases returned
  · next binding located =>
      split at returned
      · cases returned
      · next pending =>
          cases returned
          exact ⟨binding, located, not_not.mp pending, rfl⟩

theorem othersKept_review (found : requireBinding book resident id = .ok binding)
    (returned : reviewRequest book id reviewer comment approve now = .ok reviewed) :
    OthersKept resident book.bindings reviewed := by
  obtain ⟨listed, same, own⟩ := requireBinding_ok found
  obtain ⟨row, located, _, rfl⟩ := reviewRequest_ok returned
  obtain rfl := book.bindings.eq_of_key (Table.mem_of_find? located) listed
    ((Table.key_of_find? located).trans same.symm)
  exact othersKept_put listed rfl own own

theorem attachApartment_settled (settled : book.Settled) {apartment : ApartmentId}
    {isOwner isPrimary : Bool}
    (returned : attachApartment book resident apartment actor isOwner isPrimary now = .ok after) :
    after.Settled := by
  unfold attachApartment at returned
  obtain ⟨_, _, returned⟩ := bind_eq_ok_iff.mp returned
  split at returned
  · cases returned
  · split at returned
    · cases returned
    · split at returned
      · next existing located =>
          split at returned
          · cases returned
          · cases returned
            have own : existing.userId = resident := by
              have selected := List.find?_some located
              simp only [Bool.and_eq_true, decide_eq_true_eq] at selected
              exact selected.1
            intro user
            exact SinglePrimary.settled settled (othersKept_put
              (List.mem_of_find?_eq_some located) rfl own own) ensureSinglePrimary_settles
      · cases returned
        intro user
        refine SinglePrimary.settled settled (fun row foreign => ?_) ensureSinglePrimary_settles
        rw [Table.mem_insert]
        constructor
        · rintro (before | rfl)
          · exact before
          · exact absurd rfl foreign
        · exact Or.inl

theorem approveBinding_settled (settled : book.Settled)
    (returned : approveBinding book resident id actor comment now = .ok after) :
    after.Settled := by
  unfold approveBinding at returned
  obtain ⟨_, _, returned⟩ := bind_eq_ok_iff.mp returned
  obtain ⟨binding, found, returned⟩ := bind_eq_ok_iff.mp returned
  obtain ⟨reviewed, review, returned⟩ := bind_eq_ok_iff.mp returned
  cases returned
  exact fun user => SinglePrimary.settled settled (othersKept_review found review)
    ensureSinglePrimary_settles

theorem rejectBinding_settled (settled : book.Settled) {comment : String}
    (returned : rejectBinding book resident id actor comment now = .ok after) :
    after.Settled := by
  unfold rejectBinding at returned
  dsimp only at returned
  split at returned
  · cases returned
  · obtain ⟨_, _, returned⟩ := bind_eq_ok_iff.mp returned
    obtain ⟨binding, found, returned⟩ := bind_eq_ok_iff.mp returned
    obtain ⟨reviewed, review, returned⟩ := bind_eq_ok_iff.mp returned
    cases returned
    exact fun user => SinglePrimary.settled settled (othersKept_review found review)
      ensureSinglePrimary_settles

theorem withoutFlag_single (single : SinglePrimary book.bindings resident)
    (listed : binding ∈ book.bindings.rows)
    (allowed : ¬ (binding.isPrimary && (book.bindings.rows.filter fun row =>
      row.id ≠ binding.id && row.approvedFor resident).isEmpty) = true) :
    SinglePrimary (ensureSinglePrimary (book.bindings.put { binding with isPrimary := false })
      resident none (some binding.id)) resident := by
  have known : ∃ row ∈ book.bindings.rows, row.id = ({ binding with isPrimary := false } :
      UserApartment).id := ⟨binding, listed, rfl⟩
  refine ensureSinglePrimary_single fun row found given => ?_
  have others : ∃ other ∈ book.bindings.rows, other.id ≠ binding.id ∧
      other.approvedFor resident = true := by
    by_contra nobody
    have empty : (book.bindings.rows.filter fun row =>
        row.id ≠ binding.id && row.approvedFor resident) = [] := by
      refine List.filter_eq_nil_iff.mpr fun other member chosen => nobody ⟨other, member, ?_⟩
      simpa using chosen
    rw [empty, List.isEmpty_nil, Bool.and_true] at allowed
    -- then the binding is approved and alone, and so it is primary
    have approved : binding.approvedFor resident = true := by
      rcases (mem_put_iff known).mp found with rfl | ⟨before, other⟩
      · exact given
      · exact absurd ⟨row, before, other, given⟩ nobody
    obtain ⟨holder, held, flagged⟩ := single.given binding listed approved
    by_cases mine : holder.id = binding.id
    · rw [book.bindings.eq_of_key held listed mine] at flagged
      exact allowed (primaryFor_iff.mp flagged).2
    · exact nobody ⟨holder, held, mine, (primaryFor_iff.mp flagged).1⟩
  obtain ⟨other, member, different, approved⟩ := others
  refine ⟨other, mem_primaryCandidates.mpr ⟨⟨(mem_put_iff known).mpr
    (.inr ⟨member, different⟩), approved⟩, fun same => different (Option.some.inj same)⟩⟩

theorem updateBinding_settled (settled : book.Settled) {isOwner isPrimary : Option Bool}
    (returned : updateBinding book resident id isOwner isPrimary = .ok after) :
    after.Settled := by
  unfold updateBinding at returned
  obtain ⟨_, _, returned⟩ := bind_eq_ok_iff.mp returned
  obtain ⟨binding, found, returned⟩ := bind_eq_ok_iff.mp returned
  obtain ⟨listed, rfl, own⟩ := requireBinding_ok found
  dsimp only at returned
  split at returned
  · split at returned
    · cases returned
    · cases returned
      exact fun user => SinglePrimary.settled settled (othersKept_put listed rfl own own)
        ensureSinglePrimary_settles
  · split at returned
    · cases returned
    · next allowed =>
        cases returned
        exact fun user => SinglePrimary.settled settled (othersKept_put listed rfl own own)
          (withoutFlag_single (settled resident) listed allowed)
  · cases returned
    exact fun user => (settled user).put listed rfl rfl rfl

theorem removeBinding_settled (settled : book.Settled)
    (returned : removeBinding book resident id = .ok after) : after.Settled := by
  unfold removeBinding at returned
  obtain ⟨_, _, returned⟩ := bind_eq_ok_iff.mp returned
  obtain ⟨binding, found, returned⟩ := bind_eq_ok_iff.mp returned
  obtain ⟨listed, rfl, own⟩ := requireBinding_ok found
  cases returned
  exact fun user => SinglePrimary.settled settled (othersKept_delete listed own)
    ensureSinglePrimary_settles

theorem approveVerification_settled (settled : book.Settled)
    (returned : approveVerification book resident actor now = .ok after) : after.Settled := by
  unfold approveVerification at returned
  obtain ⟨person, _, returned⟩ := bind_eq_ok_iff.mp returned
  split at returned
  · cases returned
  · cases returned
    intro user
    refine SinglePrimary.settled settled (fun row foreign => ?_) ensureSinglePrimary_settles
    rw [Table.mem_update]
    constructor
    · rintro ⟨old, listed, rfl⟩
      split at foreign
      · next chosen =>
          rw [Bool.and_eq_true, decide_eq_true_eq] at chosen
          exact absurd chosen.1 foreign
      · next unchosen =>
          rw [if_neg unchosen]
          exact listed
    · intro listed
      refine ⟨row, listed, if_neg ?_⟩
      simp [foreign]

end

/-- A request is approved with its flag exactly where it is the first, and a removal does not
take the primary binding from under other approved ones. -/
def Minds (book : ResidentBook) : BindingAct → Prop
  | .reviewApartmentRequest id _ _ true _ =>
    ∀ binding ∈ book.bindings.find? id, binding.status = .pending →
      (binding.isPrimary = true ↔ ∀ row ∈ book.bindings.rows, row.approvedFor binding.userId = false)
  | .removeUserFromApartment id =>
    ∀ binding ∈ book.bindings.find? id, binding.primaryFor binding.userId = true →
      ∀ row ∈ book.bindings.rows, row.id ≠ id → row.approvedFor binding.userId = false
  | _ => True

section

variable (settled : book.Settled)

include settled

theorem settled_iff {bindings : Table UserApartment.id} {user : UserId}
    (kept : OthersKept user book.bindings bindings) :
    (withBindings book bindings).Settled ↔ SinglePrimary bindings user := by
  constructor
  · exact fun after => after user
  · intro single other
    by_cases mine : other = user
    · exact mine ▸ single
    · exact (settled other).of_rows fun row theirs => kept row fun same => mine (theirs.symm.trans same)

theorem approveRequest_settled_iff :
    (book.next (.reviewApartmentRequest id reviewer comment true now)).Settled ↔
      Minds book (.reviewApartmentRequest id reviewer comment true now) := by
  simp only [ResidentBook.next, ResidentBook.perform, reviewApartmentRequest, Minds]
  cases returned : reviewRequest book id reviewer comment true now with
  | error raised =>
    refine iff_of_true settled fun binding located pending => ?_
    simp [reviewRequest, Option.mem_def.mp located, pending] at returned
  | ok reviewed =>
    obtain ⟨binding, located, pending, rfl⟩ := reviewRequest_ok returned
    have listed := Table.mem_of_find? located
    have unapproved : binding.approvedFor binding.userId = false := by
      simp [UserApartment.approvedFor, pending]
    change (withBindings book (book.bindings.put
      (binding.review .approved reviewer comment now))).Settled ↔ _
    refine (settled_iff settled (othersKept_put listed (binding.review_id _ _ _ _) rfl rfl)).trans ?_
    refine (single_approve_iff (settled binding.userId) listed (binding.review_id _ _ _ _)
      unapproved ?_).trans ?_
    · exact approvedFor_iff.mpr ⟨rfl, rfl⟩
    · constructor
      · intro flags other found _
        obtain rfl := Option.some.inj (located.symm.trans (Option.mem_def.mp found))
        exact flags
      · exact fun minds => minds binding located pending

theorem rejectRequest_settled :
    (book.next (.reviewApartmentRequest id reviewer comment false now)).Settled := by
  simp only [ResidentBook.next, ResidentBook.perform, reviewApartmentRequest]
  cases returned : reviewRequest book id reviewer comment false now with
  | error raised => exact settled
  | ok reviewed =>
    obtain ⟨binding, located, pending, rfl⟩ := reviewRequest_ok returned
    have listed := Table.mem_of_find? located
    change (withBindings book (book.bindings.put (binding.review .rejected reviewer comment now))).Settled
    refine fun user => (settled user).put listed (binding.review_id _ _ _ _) ?_ ?_
    · simp [UserApartment.approvedFor, UserApartment.review, pending]
    · simp [UserApartment.primaryFor, UserApartment.approvedFor, UserApartment.review, pending]

theorem removeUser_settled_iff :
    (book.next (.removeUserFromApartment id)).Settled ↔
      Minds book (.removeUserFromApartment id) := by
  simp only [ResidentBook.next, ResidentBook.perform, removeUserFromApartment, Minds]
  cases located : book.bindings.find? id with
  | none => exact iff_of_true settled fun _ found => by cases found
  | some binding =>
    have listed := Table.mem_of_find? located
    obtain rfl := Table.key_of_find? located
    refine (settled_iff settled (othersKept_delete listed rfl)).trans ?_
    refine (single_delete_iff (settled binding.userId) listed).trans ?_
    constructor
    · intro alone other found
      obtain rfl := Option.some.inj (Option.mem_def.mp found)
      exact alone
    · exact fun minds => minds binding rfl

theorem requestApartment_settled {after : ResidentBook} {user : UserId} {apartment : ApartmentId}
    {isOwner isPrimary : Bool}
    (returned : requestApartment book user apartment isOwner isPrimary now = .ok after) :
    after.Settled := by
  unfold requestApartment at returned
  repeat' split at returned
  all_goals cases returned
  intro resident
  have numbered (id : UserApartmentId) :
      (newBinding user apartment .pending isOwner isPrimary none now id).id = id :=
    newBinding_id _ _ _ _ _ _ _ _
  have single : SinglePrimary (book.bindings.insert
      (newBinding user apartment .pending isOwner isPrimary none now) numbered) resident :=
    (settled resident).insert fun _ approved => by cases approved
  exact single

theorem next_settled {act : BindingAct}
    (settles : ∀ after, book.perform act = .ok after → after.Settled) :
    (book.next act).Settled := by
  unfold ResidentBook.next
  cases performed : book.perform act with
  | error raised => exact settled
  | ok after => exact settles after performed

theorem settled_next_iff (act : BindingAct) :
    (book.next act).Settled ↔ Minds book act := by
  cases act with
  | attachApartment resident apartment actor isOwner isPrimary now =>
    exact iff_of_true (next_settled settled fun _ => attachApartment_settled settled) trivial
  | approveBinding resident id actor comment now =>
    exact iff_of_true (next_settled settled fun _ => approveBinding_settled settled) trivial
  | rejectBinding resident id actor comment now =>
    refine iff_of_true (next_settled settled fun after performed => ?_) trivial
    have rejected : Addresses.rejectBinding book resident id actor comment now = .ok after := performed
    exact rejectBinding_settled settled rejected
  | updateBinding resident id isOwner isPrimary =>
    exact iff_of_true (next_settled settled fun _ => updateBinding_settled settled) trivial
  | removeBinding resident id =>
    exact iff_of_true (next_settled settled fun _ => removeBinding_settled settled) trivial
  | approveVerification resident actor now =>
    exact iff_of_true (next_settled settled fun _ => approveVerification_settled settled) trivial
  | requestApartment user apartment isOwner isPrimary now =>
    exact iff_of_true (next_settled settled fun _ => requestApartment_settled settled) trivial
  | reviewApartmentRequest id reviewer comment approve now =>
    cases approve with
    | true => exact approveRequest_settled_iff settled
    | false => exact iff_of_true (rejectRequest_settled settled) trivial
  | removeUserFromApartment id => exact removeUser_settled_iff settled
  | surround people homes => exact iff_of_true settled trivial

end

theorem settled_fresh (people : Table Person.id) (homes : Table Home.id) :
    (ResidentBook.fresh people homes).Settled :=
  fun _ => .of_none fun _ listed => by cases listed

/-- Every resident has one primary apartment all along a run exactly where the address service
minds the flags. -/
theorem primary_apartments_iff (people : Table Person.id) (homes : Table Home.id)
    (acts : List BindingAct) :
    (∀ past, past <+: acts → ∀ user,
      SinglePrimary (run ResidentBook.next (.fresh people homes) past).bindings user) ↔
      Obeys ResidentBook.next Minds (.fresh people homes) acts :=
  holds_along_iff_obeys ResidentBook.next ResidentBook.Settled (fun _ => True) trivial
    (fun _ _ _ => trivial) (settled_fresh people homes)
    (fun _ act _ settled => settled_next_iff settled act) acts

def oneResident : Table Person.id := ⟨[⟨1, true, false, .pending⟩], by simp⟩

def twoHomes : Table Home.id := ⟨[⟨10, true⟩, ⟨20, true⟩], by simp⟩

def approvedTwice : List BindingAct :=
  [.requestApartment 1 10 false true 100, .requestApartment 1 20 false true 200,
    .reviewApartmentRequest 1 9 none true 300, .reviewApartmentRequest 2 9 none true 400]

def removedFirst : List BindingAct :=
  [.attachApartment 1 10 9 true true 100, .attachApartment 1 20 9 false false 200,
    .removeUserFromApartment 1]

theorem two_or_no_primary :
    ¬ SinglePrimary (run ResidentBook.next (.fresh oneResident twoHomes) approvedTwice).bindings 1 ∧
      ¬ SinglePrimary (run ResidentBook.next (.fresh oneResident twoHomes) removedFirst).bindings
        1 := by
  constructor
  · intro single
    have both : ∃ left ∈ (run ResidentBook.next (.fresh oneResident twoHomes)
        approvedTwice).bindings.rows, ∃ right ∈ (run ResidentBook.next
          (.fresh oneResident twoHomes) approvedTwice).bindings.rows,
        left.primaryFor 1 = true ∧ right.primaryFor 1 = true ∧ left ≠ right := by
      decide +kernel
    obtain ⟨left, listed, right, listedToo, first, second, apart⟩ := both
    exact apart (single.once left listed right listedToo first second)
  · intro single
    have bare : ∃ row ∈ (run ResidentBook.next (.fresh oneResident twoHomes)
        removedFirst).bindings.rows, row.approvedFor 1 = true ∧
        ∀ other ∈ (run ResidentBook.next (.fresh oneResident twoHomes) removedFirst).bindings.rows,
          other.primaryFor 1 = false := by
      decide +kernel
    obtain ⟨row, listed, approved, none⟩ := bare
    obtain ⟨primary, found, flagged⟩ := single.given row listed approved
    rw [none primary found] at flagged
    cases flagged

end InfrasafeBot.Addresses
