import InfrasafeBot.Auth.RoleCoherence
import InfrasafeBot.Auth.SelfRegistration
import Mathlib.Data.List.Dedup

/-! What registrations leave of an account that a manager has provisioned. A registration writes
what it has read, so nothing may be committed between its read and its flush. -/

set_option autoImplicit false

namespace InfrasafeBot.Auth.SelfRegistration

open Library Library.Machine RequestWorkflow WorkflowRunner UserAccounts

def Provisioned (user : User) : Prop :=
  user.status = "approved" ∨ user.status = "blocked" ∨ ∃ role ∈ user.roleList, role ≠ roleApplicant

structure SameProfile (before after : User) : Prop where
  firstName : after.firstName = before.firstName
  lastName : after.lastName = before.lastName
  phone : after.phone = before.phone
  roles : after.roles = before.roles
  activeRole : after.activeRole = before.activeRole

/-- A registration that commits after the account has been provisioned leaves its profile alone,
and what roles managers have granted are not lost. -/
structure Respected {n : Nat} (start : Program.State Store Stage n)
    (events : List (Program.Event Call n)) : Prop where
  untouched : ∀ past worker write, past ++ [.step worker] <+: events →
    (run program.next start past).workers worker = .flushed write →
    ∀ earlier, earlier <+: past → ∀ user, (run program.next start earlier).store = some user →
    Provisioned user →
    ∃ before after, (run program.next start past).store = some before ∧
      (run program.next start (past ++ [.step worker])).store = some after ∧
      SameProfile before after
  kept : ∀ past earlier, past <+: events → earlier <+: past →
    ∀ user, (run program.next start earlier).store = some user →
    ∀ role ∈ user.roleList, role ≠ roleApplicant →
    ∃ later, (run program.next start past).store = some later ∧ role ∈ later.roleList

def Unprovisioned (store : Store) : Prop := ∀ user ∈ store, ¬ Provisioned user

/-- What a flush overwrites is still as its transaction has read it: a registration finds the
account unprovisioned, a change of the roles finds the same roles. -/
def Fresh (store : Store) : Stage → Prop
  | .flushing (some loaded) form => applyApplicantFields loaded form ≠ loaded → Unprovisioned store
  | .changing loaded changed => changed.roles ≠ loaded.roles → ∀ user ∈ store, user.roles = loaded.roles
  | _ => True

instance (user : User) : Decidable (Provisioned user) := inferInstanceAs (Decidable (_ ∨ _))

instance (store : Store) : Decidable (Unprovisioned store) :=
  inferInstanceAs (Decidable (∀ user ∈ store, ¬ Provisioned user))

instance freshDecidable (store : Store) (stage : Stage) : Decidable (Fresh store stage) := by
  unfold Fresh
  split <;> infer_instance

variable {loaded changed : User} {form : Form}

section

variable {user stored : User} {role : String}

theorem not_provisioned_iff : ¬ Provisioned user ↔
    user.status ≠ "approved" ∧ user.status ≠ "blocked" ∧
      ∀ role ∈ user.roleList, role = roleApplicant := by
  simp only [Provisioned, not_or, not_exists, not_and, not_not, ne_eq]

theorem mem_applicantRoles {account : UserAccounts.Account} :
    role ∈ parseRolesSafe (some (applicantRoles account)) ↔
      role = roleApplicant ∨ role ∈ account.roleList := by
  rw [applicantRoles, parseRolesSafe_dumpsTexts, List.mem_mergeSort, List.mem_dedup, List.mem_cons]

theorem roleList_applied (plain : ∀ role ∈ loaded.roleList, role = roleApplicant) :
    ∀ role ∈ (applyApplicantFields loaded form).roleList, role = roleApplicant := by
  intro role listed
  rcases mem_applicantRoles.mp listed with same | held
  · exact same
  · exact plain role held

theorem blankUser_roleList : blankUser.roleList = [] := by decide

theorem roleList_assign : (loaded.assign changed stored).roleList =
    if changed.roles = loaded.roles then stored.roleList else changed.roleList := by
  unfold UserAccounts.Account.roleList User.assign assignedColumn
  dsimp only
  split
  · rfl
  · rfl

theorem status_assign (same : changed.status = loaded.status) :
    (loaded.assign changed stored).status = stored.status :=
  if_pos same

end

/-- A manager's change takes no role away, and leaves no account waiting that has been decided
on. -/
structure Grows (store : Store) (loaded changed : User) : Prop where
  roles : changed.roles ≠ loaded.roles → ∀ user ∈ store,
    ∀ role ∈ user.roleList, role ≠ roleApplicant → role ∈ changed.roleList
  status : changed.status = loaded.status ∨ changed.status = "approved" ∨ changed.status = "blocked"

def Relies (store : Store) : Stage → Prop
  | .flushing (some loaded) _ => ¬ Provisioned loaded
  | .flushed (.insert user) => store = none ∧ ¬ Provisioned user
  | .flushed (.update loaded changed) =>
    Unprovisioned store ∧ changed.status = loaded.status ∧ ∀ role ∈ changed.roleList, role = roleApplicant
  | .changing loaded changed => Grows (some loaded) loaded changed
  | .managed loaded changed => Grows store loaded changed
  | _ => True

def Lasts (store after : Store) : Prop :=
  ∀ user, store = some user → ∃ later, after = some later ∧
    (Provisioned user → Provisioned later) ∧
    ∀ role ∈ user.roleList, role ≠ roleApplicant → role ∈ later.roleList

theorem Lasts.refl (store : Store) : Lasts store store :=
  fun user found => ⟨user, found, id, fun _ listed _ => listed⟩

theorem Lasts.trans {first second third : Store} (before : Lasts first second)
    (after : Lasts second third) : Lasts first third := by
  intro user found
  obtain ⟨later, kept, decided, roles⟩ := before user found
  obtain ⟨last, left, decidedLater, rolesLater⟩ := after later kept
  exact ⟨last, left, decidedLater ∘ decided,
    fun role listed other => rolesLater role (roles role listed other) other⟩

variable {store : Store}

section

variable {act : Act}

theorem result_grows {account result : UserAccounts.Account}
    (done : act.result account = some result) :
    (∀ role ∈ account.roleList, role ∈ result.roleList) ∧
      (result.status = account.status ∨ result.status = "approved" ∨
        result.status = "blocked") := by
  cases act with
  | approve =>
    simp only [Act.result, UserAccounts.Account.approveUser] at done
    split at done
    · cases done
    · cases done
      exact ⟨fun _ listed => listed, .inr (.inl rfl)⟩
  | activate =>
    cases done
    exact ⟨fun _ listed => listed, .inr (.inl rfl)⟩
  | block =>
    simp only [Act.result, UserAccounts.Account.blockUser] at done
    split at done
    · cases done
    · cases done
      exact ⟨fun _ listed => listed, .inr (.inr rfl)⟩
  | grant role =>
    simp only [Act.result, UserAccounts.Account.assignRole] at done
    split at done
    · cases done
    · cases done
      refine ⟨fun held listed => ?_, .inl (UserAccounts.Account.enforce_status _ _)⟩
      have grown : held ∈ ((account.withRoles
          (account.roleList ++ [role])).enforceTrustedVerification [role]).roleList := by
        rw [roleList_enforce, roleList_withRoles]
        exact List.mem_append_left _ listed
      exact grown

theorem relies_checked {user : User} : Relies store (checked user form) := by
  unfold checked
  split
  · trivial
  · next unblocked =>
      split
      · trivial
      · next unapproved =>
          split
          · trivial
          · next plain =>
              refine not_provisioned_iff.mpr ⟨unapproved, unblocked, fun role listed => ?_⟩
              by_contra other
              exact plain (List.any_eq_true.mpr ⟨role, listed, decide_eq_true other⟩)

theorem not_provisioned_newcomer : ¬ Provisioned (applyApplicantFields blankUser form) := by
  have waiting : (applyApplicantFields blankUser form).status = "pending" := rfl
  rw [not_provisioned_iff, waiting]
  refine ⟨by decide, by decide, roleList_applied ?_⟩
  rw [blankUser_roleList]
  exact fun role listed => absurd listed List.not_mem_nil

theorem relies_perform {stage : Stage} (fresh : Fresh store stage) (relied : Relies store stage) :
    Relies (perform store stage).1 (perform store stage).2 := by
  cases stage with
  | reading form retry =>
    cases store with
    | none =>
      simp only [perform]
      split <;> trivial
    | some user => exact relies_checked
  | flushing loaded form =>
    cases loaded with
    | none =>
      cases store with
      | some user => trivial
      | none => exact ⟨rfl, not_provisioned_newcomer⟩
    | some loaded =>
      simp only [perform]
      split
      · trivial
      · next differs => exact ⟨fresh differs, rfl, roleList_applied (not_provisioned_iff.mp relied).2.2⟩
  | loading act =>
    cases store with
    | none => trivial
    | some user =>
      simp only [perform]
      split
      · trivial
      · next account done =>
          split
          · trivial
          · obtain ⟨roles, status⟩ := result_grows done
            refine ⟨fun _ other same role listed _ => ?_, status⟩
            cases same
            exact roles role listed
  | changing loaded changed =>
    refine ⟨fun differs user found role listed other => ?_, relied.status⟩
    have read : role ∈ loaded.roleList := by
      rw [UserAccounts.Account.roleList, ← fresh differs user found]
      exact listed
    exact relied.roles differs loaded rfl role read other
  | _ => trivial

theorem perform_unlocked {stage : Stage} (unlocked : stage.locks = []) :
    (perform store stage).1 = store := by
  cases stage with
  | flushed write =>
    cases write with
    | nothing => rfl
    | insert | update => cases unlocked
  | managed loaded changed => cases unlocked
  | reading form retry =>
    cases store with
    | none | some => rfl
  | flushing loaded form =>
    cases loaded with
    | none =>
      cases store with
      | none | some => rfl
    | some loaded => rfl
  | loading act =>
    cases store with
    | none => rfl
    | some user =>
      simp only [perform]
      split <;> rfl
  | _ => rfl

theorem Grows.lasts (grows : Grows store loaded changed) :
    Lasts store (store.map (loaded.assign changed)) := by
  intro user found
  have roles : ∀ role ∈ user.roleList, role ≠ roleApplicant →
      role ∈ (loaded.assign changed user).roleList := by
    intro role listed other
    rw [roleList_assign]
    split
    · exact listed
    · next differs => exact grows.roles differs user found role listed other
  refine ⟨loaded.assign changed user, by rw [found]; rfl, ?_, roles⟩
  have status : (loaded.assign changed user).status = user.status ∨
      (loaded.assign changed user).status = "approved" ∨
      (loaded.assign changed user).status = "blocked" := by
    by_cases same : changed.status = loaded.status
    · exact .inl (status_assign same)
    · have set : (loaded.assign changed user).status = changed.status := if_neg same
      rw [set]
      exact .inr (grows.status.resolve_left same)
  rintro (approved | blocked | ⟨role, listed, other⟩)
  · rcases status with same | decided
    · exact .inl (same.trans approved)
    · exact decided.imp_right .inl
  · rcases status with same | decided
    · exact .inr (.inl (same.trans blocked))
    · exact decided.imp_right .inl
  · exact .inr (.inr ⟨role, roles role listed other, other⟩)

theorem perform_lasts {stage : Stage} (relied : Relies store stage) :
    Lasts store (perform store stage).1 := by
  cases stage with
  | flushed write =>
    cases write with
    | nothing => exact .refl store
    | insert user =>
      intro old found
      rw [relied.1] at found
      cases found
    | update loaded changed =>
      intro user found
      have waiting := relied.1 user found
      have plain := (not_provisioned_iff.mp waiting).2.2
      refine ⟨loaded.assign changed user, ?_, fun provisioned => absurd provisioned waiting,
        fun role listed other => absurd (plain role listed) other⟩
      change store.map (loaded.assign changed) = _
      rw [found]
      rfl
  | managed loaded changed => exact relied.lasts
  | _ =>
    rw [perform_unlocked rfl]
    exact .refl store

end

section

variable {n : Nat} {events : List (Program.Event Call n)}

theorem perform_apart {stage other : Stage} (apart : program.Apart stage other)
    (locked : other.locks = [()]) : (perform store stage).1 = store := by
  apply perform_unlocked
  rw [List.eq_nil_iff_forall_not_mem]
  intro key held
  refine apart key held ?_
  change key ∈ other.locks
  rw [locked]
  exact List.mem_cons_self

theorem relies_others {stage other : Stage} (relied : Relies store other)
    (apart : program.Apart stage other) : Relies (perform store stage).1 other := by
  cases other with
  | flushed write =>
    cases write with
    | nothing => trivial
    | insert | update =>
      rw [perform_apart apart rfl]
      exact relied
  | managed loaded changed =>
    rw [perform_apart apart rfl]
    exact relied
  | flushing loaded form =>
    cases loaded with
    | none => trivial
    | some loaded => exact relied
  | changing loaded changed => exact relied
  | _ => trivial

theorem sound : program.Sound Fresh Program.Regardless (fun _ => True) Relies where
  idle _ _ := trivial
  start _ call _ := by
    cases call with
    | register | manage => trivial
  step _ _ fresh _ relied := ⟨trivial, relies_perform fresh relied⟩
  others _ _ _ _ _ _ relied _ apart _ := relies_others relied apart

theorem holds_start :
    program.Holds (fun _ => True) Relies (program.initial store : Program.State Store Stage n) :=
  sound.holds_initial trivial

theorem lasts_between (careful : program.Careful Fresh Program.Regardless
      (program.initial store : Program.State Store Stage n) events)
    {earlier past : List (Program.Event Call n)} (began : earlier <+: past)
    (reached : past <+: events) :
    Lasts (run program.next (program.initial store) earlier).store
      (run program.next (program.initial store) past).store := by
  obtain ⟨between, rfl⟩ := began
  obtain ⟨before, later⟩ :=
    (obeys_append program.next _ _ _ _).mp (Obeys.of_prefix program.next careful reached)
  rw [run_append]
  exact sound.run_changes Lasts.refl Lasts.trans (fun _ _ _ _ relied => perform_lasts relied)
    (sound.holds_run holds_start before) later

theorem flushed_untouched {user : User} {write : Write} (found : store = some user)
    (provisioned : Provisioned user) (relied : Relies store (.flushed write)) :
    written store write = store := by
  cases write with
  | nothing => rfl
  | insert added => cases found.symm.trans relied.1
  | update loaded changed => exact absurd provisioned (relied.1 user found)

end

def anna : Form := ⟨"Anna", "Orlova", "+998900000001"⟩

def olga : Form := ⟨"Olga", "Orlova", "+998900000002"⟩

/-- A resident registers and is approved; the second registration is refused. -/
def approvedBetween : List (Program.Event Call 2) :=
  [.call 0 (.register anna), .step 0, .step 0, .step 0,
    .call 1 (.manage .approve), .step 1, .step 1, .step 1,
    .call 0 (.register olga), .step 0, .step 0]

def annaRow : User := applyApplicantFields blankUser anna

/-- The second registration has read the row before the approval is committed. -/
def approvedMeanwhile : List (Program.Event Call 2) :=
  [.call 0 (.register olga), .step 0, .call 1 (.manage .approve), .step 1, .step 1, .step 1, .step 0]

end InfrasafeBot.Auth.SelfRegistration
