import InfrasafeBot.RequestWorkflow.PlannerProperties
import InfrasafeBot.Library.Ranking

/-! The action that a wanted status is resolved to: whether it works whenever some
allowed action would, in whatever order the set of allowed actions is read. -/

set_option autoImplicit false

namespace InfrasafeBot.StatusResolution

open Library RequestWorkflow

section

variable {snap : WorkflowSnapshot} {actor : ActorContext} {intent : LegacyStatusIntent}
  {principal : PrincipalRef} {now : Moment} {action other : Action}

/-- The candidates, with the allowed actions in the order their set is read. -/
def candidatesAmong (allowed : List Action) (intent : LegacyStatusIntent) : List Action :=
  let candidates := allowed.filter fun action =>
    (actionTable action).toStatus = intent.targetStatus && !statusResolveExclude.contains action
  if (intent.payload.get "rating").truthy then candidates
  else candidates.filter fun action => action ≠ .applicantAccept

/-- `resolve_command`, with the allowed actions in the order their set is read. -/
def resolveAmong (allowed : List Action) (snap : WorkflowSnapshot)
    (intent : LegacyStatusIntent) : Except WorkflowError ActionCommand :=
  match sortByRank resolvePriority (candidatesAmong allowed intent) with
  | [] =>
    let canon := (normalizeStatus snap.request).text
    let target := intent.targetStatus.text
    .error (.invalidTransition s!"no action maps '{canon}' -> '{target}' for this actor")
  | action :: _ => .ok ⟨intent.commandId, action, intent.payload⟩

theorem resolveCommand_eq :
    resolveCommand snap actor intent = resolveAmong (allowedActions snap actor) snap intent := rfl

def Works (snap : WorkflowSnapshot) (actor : ActorContext) (principal : PrincipalRef)
    (now : Moment) (intent : LegacyStatusIntent) (action : Action) : Prop :=
  ∃ result, planTransition snap ⟨intent.commandId, action, intent.payload⟩ actor principal now = .ok result

/-- What the status-based entry promises of an intent. -/
structure ResolvesWell (snap : WorkflowSnapshot) (actor : ActorContext)
    (principal : PrincipalRef) (now : Moment) (intent : LegacyStatusIntent) : Prop where
  serves : ∀ action ∈ allowedActions snap actor, action ∉ statusResolveExclude →
    (actionTable action).toStatus = intent.targetStatus →
    Works snap actor principal now intent action →
    ∃ command result, resolveCommand snap actor intent = .ok command ∧
      planTransition snap command actor principal now = .ok result
  steady : ∀ order : List Action, order.Perm (allowedActions snap actor) →
    resolveAmong order snap intent = resolveCommand snap actor intent

def Accepted (intent : LegacyStatusIntent) (action : Action) : Prop :=
  (payloadSchemas action).validate action intent.payload = .ok ()

/-- The intents for which the preferred action refuses what another would take. -/
inductive Clash (snap : WorkflowSnapshot) (actor : ActorContext) (intent : LegacyStatusIntent) : Prop where
  | purchase (target : intent.targetStatus = .purchase)
      (preferred : .executorPurchase ∈ allowedActions snap actor)
      (alternative : .managerPurchase ∈ allowedActions snap actor)
      (accepted : Accepted intent .managerPurchase)
      (unlisted : (intent.payload.get "requested_materials").isInstance .str = false)
  | resume (target : intent.targetStatus = .inProgress)
      (preferred : .executorResume ∈ allowedActions snap actor)
      (alternative : .managerPurchaseDone ∈ allowedActions snap actor)
      (accepted : Accepted intent .managerPurchaseDone)
      (filled : intent.payload ≠ []) (held : snap.request.executorId.isSome = true)
  | accept (target : intent.targetStatus = .approved)
      (preferred : .applicantAccept ∈ allowedActions snap actor)
      (accepted : Accepted intent .applicantAccept)
      (unrated : (intent.payload.get "rating").truthy = false)

/-- The candidates of one status an actor can have at once, preferred ones first. -/
def rivals : List (Action × Action) :=
  [(.executorPurchase, .managerPurchase), (.executorResume, .managerPurchaseDone),
    (.executorResume, .clarifyResolved), (.executorComplete, .managerComplete),
    (.applicantAccept, .managerForceAccept)]

def shareStart (left right : Action) : Bool :=
  (actionTable left).fromStatuses.any (actionTable right).fromStatuses.contains

/-- The table has no other pair of candidates for one status, but for the actions of
a system actor, who is no manager. -/
theorem table_rivals : ∀ left ∈ Action.all, ∀ right ∈ Action.all,
    shareStart left right = true →
    (actionTable left).toStatus = (actionTable right).toStatus →
    left ∉ statusResolveExclude → right ∉ statusResolveExclude →
    resolvePriority left ≤ resolvePriority right →
    left = right ∨ (left, right) ∈ rivals ∨
      left = .managerAssign ∧ right = .systemDispatchAssign := by
  decide +kernel

theorem mem_candidatesAmong {allowed : List Action} :
    action ∈ candidatesAmong allowed intent ↔
      action ∈ allowed ∧ (actionTable action).toStatus = intent.targetStatus ∧
        action ∉ statusResolveExclude ∧
        ((intent.payload.get "rating").truthy = true ∨ action ≠ .applicantAccept) := by
  unfold candidatesAmong
  cases rated : (intent.payload.get "rating").truthy with
  | true => simp
  | false =>
    simp
    tauto

theorem rivals_rank : ∀ pair ∈ rivals, resolvePriority pair.1 < resolvePriority pair.2 := by
  decide

theorem rival_of_candidates
    (left : action ∈ candidatesAmong (allowedActions snap actor) intent)
    (right : other ∈ candidatesAmong (allowedActions snap actor) intent)
    (below : resolvePriority action ≤ resolvePriority other) :
    action = other ∨ (action, other) ∈ rivals := by
  obtain ⟨leftAllowed, leftTarget, leftListed, _⟩ := mem_candidatesAmong.mp left
  obtain ⟨rightAllowed, rightTarget, rightListed, _⟩ := mem_candidatesAmong.mp right
  rw [mem_allowedActions] at leftAllowed rightAllowed
  have shared : shareStart action other = true :=
    List.any_eq_true.mpr ⟨_, leftAllowed.1, List.contains_iff_mem.mpr rightAllowed.1⟩
  rcases table_rivals action (Action.mem_all action) other (Action.mem_all other) shared
    (leftTarget.trans rightTarget.symm) leftListed rightListed below with
    same | listed | ⟨rfl, rfl⟩
  · exact .inl same
  · exact .inr listed
  · have manager : isManager actor = true := authorize_of_authorizes leftAllowed.2
    have system : decide (actor.kind = .system) = true := authorize_of_authorizes rightAllowed.2
    simp only [isManager, of_decide_eq_true system] at manager
    cases manager

theorem untied
    (left : action ∈ candidatesAmong (allowedActions snap actor) intent)
    (right : other ∈ candidatesAmong (allowedActions snap actor) intent)
    (tied : resolvePriority action = resolvePriority other) : action = other := by
  rcases rival_of_candidates left right (Nat.le_of_eq tied) with same | listed
  · exact same
  · exact absurd tied (Nat.ne_of_lt (rivals_rank _ listed))

theorem resolveAmong_perm {order : List Action} (same : order.Perm (allowedActions snap actor)) :
    resolveAmong order snap intent = resolveCommand snap actor intent := by
  have candidates : (candidatesAmong (allowedActions snap actor) intent).Perm
      (candidatesAmong order intent) := by
    unfold candidatesAmong
    split
    · exact same.symm.filter _
    · exact (same.symm.filter _).filter _
  rw [resolveCommand_eq]
  unfold resolveAmong
  rw [sortByRank_eq_of_perm (fun _ left _ right => untied left right) candidates]

theorem resolved_of_candidate
    (listed : action ∈ candidatesAmong (allowedActions snap actor) intent) :
    ∃ chosen ∈ candidatesAmong (allowedActions snap actor) intent,
      resolveCommand snap actor intent = .ok ⟨intent.commandId, chosen, intent.payload⟩ ∧
        (chosen = action ∨ (chosen, action) ∈ rivals) := by
  rw [resolveCommand_eq]
  unfold resolveAmong
  cases sorted : sortByRank resolvePriority
      (candidatesAmong (allowedActions snap actor) intent) with
  | nil =>
    rw [sortByRank_eq_nil_iff.mp sorted] at listed
    cases listed
  | cons chosen rest =>
    obtain ⟨member, least⟩ := least_of_sortByRank sorted
    exact ⟨chosen, member, rfl, rival_of_candidates member listed (least action listed)⟩

theorem candidate_of_resolved {command : ActionCommand}
    (resolved : resolveCommand snap actor intent = .ok command) :
    ∃ chosen ∈ candidatesAmong (allowedActions snap actor) intent,
      command = ⟨intent.commandId, chosen, intent.payload⟩ := by
  rw [resolveCommand_eq] at resolved
  unfold resolveAmong at resolved
  cases sorted : sortByRank resolvePriority
      (candidatesAmong (allowedActions snap actor) intent) with
  | nil =>
    rw [sorted] at resolved
    cases resolved
  | cons chosen rest =>
    rw [sorted] at resolved
    cases resolved
    exact ⟨chosen, (least_of_sortByRank sorted).1, rfl⟩

def competing : List Action := rivals.flatMap fun pair => [pair.1, pair.2]

theorem back_to_work : ∀ action ∈ competing, (actionTable action).toStatus = .inProgress →
    action = .executorResume ∨ action = .managerPurchaseDone ∨ action = .clarifyResolved := by
  decide

variable {key : String} {payload : Payload}

theorem unset_givenEntry {column : Column} {op : Op} (different : column ≠ .executorId) :
    ∀ entry ∈ givenEntry payload key column op, entry.column ≠ .executorId := by
  intro entry member
  unfold givenEntry at member
  split at member
  · cases member
  · rw [List.mem_singleton.mp member]
    exact different

theorem executor_unset (competes : action ∈ competing)
    (resumes : (actionTable action).toStatus = .inProgress) :
    ∀ entry ∈ buildPatch action .inProgress actor payload, entry.column ≠ .executorId := by
  intro entry member
  rcases back_to_work action competes resumes with rfl | rfl | rfl
  · rw [List.mem_singleton.mp member]
    decide
  · rcases List.mem_cons.mp member with rfl | given
    · decide
    · rcases List.mem_append.mp given with comment | materials
      · exact unset_givenEntry (by decide) entry comment
      · exact unset_givenEntry (by decide) entry materials
  · rw [List.mem_singleton.mp member]
    decide

/-- An allowed action works when its payload is accepted and, where it leads back to
work, the request has an executor. -/
theorem works_iff (allowed : action ∈ allowedActions snap actor)
    (competes : action ∈ competing) :
    Works snap actor principal now intent action ↔
      Accepted intent action ∧
        ((actionTable action).toStatus = .inProgress →
          snap.request.executorId.isSome = true) := by
  have ungrouped : action ≠ .assignGroup := by
    rintro rfl
    exact absurd competes (by decide)
  have unconfirmed : action ≠ .managerConfirm := by
    rintro rfl
    exact absurd competes (by decide)
  have target : effectiveToStatus action (actionTable action).toStatus snap =
      (actionTable action).toStatus := by
    simp [effectiveToStatus, unconfirmed]
  obtain ⟨started, right⟩ := mem_allowedActions.mp allowed
  unfold Works Accepted
  simp only [planTransition_eq_ok_iff, exists_and_left, exists_eq, and_true]
  simp only [plannedTransition, target, requireCanonicalGroup, ungrouped, if_false, true_and,
    started, right, enforceInProgressHasExecutor_eq_ok_iff]
  refine and_congr_right fun _ => forall_congr' fun resumes => ?_
  constructor
  · rintro (⟨entry, member, sets, _⟩ | held)
    · rw [resumes] at member
      exact absurd sets (executor_unset competes resumes entry member)
    · exact held
  · exact .inr

theorem accepting (action : Action) (accepts : (actionTable action).toStatus = .approved) :
    action = .applicantAccept ∨ action = .managerForceAccept := by
  cases action with
  | applicantAccept => exact .inl rfl
  | managerForceAccept => exact .inr rfl
  | _ => cases accepts

theorem accepted_complete (accepted : Accepted intent .managerComplete) :
    Accepted intent .executorComplete := by
  unfold Accepted at accepted ⊢
  rw [PayloadSchema.validate_optional_iff rfl rfl] at accepted ⊢
  exact accepted

theorem accepted_empty_iff (fieldless : payloadSchemas action = ⟨[], [], []⟩) :
    Accepted intent action ↔ intent.payload = [] := by
  unfold Accepted
  rw [PayloadSchema.validate_optional_iff (by rw [fieldless]) (by rw [fieldless]), fieldless]
  constructor
  · intro known
    refine List.eq_nil_iff_forall_not_mem.mpr ?_
    intro entry member
    obtain ⟨type, listed, _⟩ := known entry member
    cases listed
  · intro empty entry member
    rw [empty] at member
    cases member

theorem has_of_instance {type : PyType} (typed : (payload.get key).isInstance type = true) :
    payload.has key = true := by
  unfold Payload.get at typed
  unfold Payload.has
  cases found : payload.lookup key with
  | some value => rfl
  | none =>
    rw [found] at typed
    cases type <;> cases typed

/-- The executor's purchase takes what the manager's takes, once the materials are listed. -/
theorem accepted_purchase_iff (accepted : Accepted intent .managerPurchase) :
    Accepted intent .executorPurchase ↔
      (intent.payload.get "requested_materials").isInstance .str = true := by
  unfold Accepted at accepted ⊢
  rw [PayloadSchema.validate_optional_iff rfl rfl] at accepted
  rw [PayloadSchema.validate_eq_ok_iff]
  constructor
  · rintro ⟨required, _⟩
    exact (required ("requested_materials", .str) (List.mem_singleton_self _)).2
  · intro listed
    refine ⟨?_, nofun, ?_⟩
    · intro field member
      rw [List.mem_singleton.mp member]
      exact ⟨has_of_instance listed, listed⟩
    · intro entry member
      obtain ⟨type, known, _⟩ := accepted entry member
      refine ⟨?_, nofun⟩
      have named : entry.1 = "requested_materials" := by
        by_contra other
        simp [payloadSchemas, List.lookup_cons, beq_eq_false_iff_ne.mpr other] at known
      simp [payloadSchemas, named]

theorem unrated_of_force (accepted : Accepted intent .managerForceAccept) :
    intent.payload.get "rating" = .none :=
  PayloadSchema.known_of_validate accepted (by simp [payloadSchemas])

/-- Where an action works, so does the rival that is preferred to it, but for the
clashes. -/
theorem works_of_rival (free : ¬ Clash snap actor intent)
    (preferred : action ∈ candidatesAmong (allowedActions snap actor) intent)
    (allowed : other ∈ allowedActions snap actor) (listed : (action, other) ∈ rivals)
    (works : Works snap actor principal now intent other) :
    Works snap actor principal now intent action := by
  obtain ⟨open_, target, _, rated⟩ := mem_candidatesAmong.mp preferred
  have competes : action ∈ competing ∧ other ∈ competing :=
    ⟨List.mem_flatMap.mpr ⟨_, listed, List.mem_cons_self⟩,
      List.mem_flatMap.mpr ⟨_, listed, List.mem_cons_of_mem _ List.mem_cons_self⟩⟩
  rw [works_iff open_ competes.1]
  obtain ⟨accepted, held⟩ := (works_iff allowed competes.2).mp works
  simp only [rivals, List.mem_cons, Prod.mk.injEq, List.not_mem_nil, or_false] at listed
  rcases listed with ⟨rfl, rfl⟩ | ⟨rfl, rfl⟩ | ⟨rfl, rfl⟩ | ⟨rfl, rfl⟩ | ⟨rfl, rfl⟩
  · refine ⟨(accepted_purchase_iff accepted).mpr ?_, nofun⟩
    by_contra unlisted
    exact free (.purchase target.symm open_ allowed accepted (Bool.not_eq_true _ ▸ unlisted))
  · have executor := held rfl
    refine ⟨(accepted_empty_iff rfl).mpr ?_, fun _ => executor⟩
    by_contra filled
    exact free (.resume target.symm open_ allowed accepted filled executor)
  · exact ⟨(accepted_empty_iff rfl).mpr ((accepted_empty_iff rfl).mp accepted), fun _ => held rfl⟩
  · exact ⟨accepted_complete accepted, nofun⟩
  · rw [unrated_of_force accepted] at rated
    rcases rated with rated | different
    · cases rated
    · exact absurd rfl different

theorem serves_of_free (free : ¬ Clash snap actor intent)
    (allowed : action ∈ allowedActions snap actor) (listed : action ∉ statusResolveExclude)
    (target : (actionTable action).toStatus = intent.targetStatus)
    (works : Works snap actor principal now intent action) :
    ∃ command result, resolveCommand snap actor intent = .ok command ∧
      planTransition snap command actor principal now = .ok result := by
  have candidate : action ∈ candidatesAmong (allowedActions snap actor) intent := by
    refine mem_candidatesAmong.mpr ⟨allowed, target, listed, ?_⟩
    by_contra unrated
    rw [not_or, not_not, Bool.not_eq_true] at unrated
    obtain ⟨unrated, rfl⟩ := unrated
    have accepted := ((works_iff allowed (by decide)).mp works).1
    exact free (.accept target.symm allowed accepted unrated)
  obtain ⟨chosen, member, resolved, rfl | rival⟩ := resolved_of_candidate candidate
  · obtain ⟨result, planned⟩ := works
    exact ⟨_, result, resolved, planned⟩
  · obtain ⟨result, planned⟩ := works_of_rival free member allowed rival works
    exact ⟨_, result, resolved, planned⟩

theorem planned_of_preferred
    (well : ResolvesWell snap actor principal now intent)
    (preferred : action ∈ candidatesAmong (allowedActions snap actor) intent)
    (unrivalled : ∀ pair ∈ rivals, pair.2 ≠ action)
    (allowed : other ∈ allowedActions snap actor) (listed : other ∉ statusResolveExclude)
    (target : (actionTable other).toStatus = intent.targetStatus)
    (works : Works snap actor principal now intent other) :
    Works snap actor principal now intent action := by
  obtain ⟨command, result, resolved, planned⟩ := well.serves other allowed listed target works
  obtain ⟨chosen, _, answer, rfl | rival⟩ := resolved_of_candidate preferred
  · rw [resolved] at answer
    cases answer
    exact ⟨result, planned⟩
  · exact absurd rfl (unrivalled _ rival)

theorem free_of_well (well : ResolvesWell snap actor principal now intent) : ¬ Clash snap actor intent := by
  rintro (⟨target, preferred, alternative, accepted, unlisted⟩ |
    ⟨target, preferred, alternative, accepted, filled, held⟩ |
    ⟨target, preferred, accepted, unrated⟩)
  · have candidate : .executorPurchase ∈ candidatesAmong (allowedActions snap actor) intent :=
      mem_candidatesAmong.mpr ⟨preferred, target.symm, by decide, .inr (by decide)⟩
    have works := planned_of_preferred well candidate (by decide) alternative (by decide)
      target.symm ((works_iff alternative (by decide)).mpr ⟨accepted, nofun⟩)
    have listed := (accepted_purchase_iff accepted).mp
      ((works_iff preferred (by decide)).mp works).1
    rw [unlisted] at listed
    cases listed
  · have candidate : .executorResume ∈ candidatesAmong (allowedActions snap actor) intent :=
      mem_candidatesAmong.mpr ⟨preferred, target.symm, by decide, .inr (by decide)⟩
    have works := planned_of_preferred well candidate (by decide) alternative (by decide)
      target.symm ((works_iff alternative (by decide)).mpr ⟨accepted, fun _ => held⟩)
    exact filled ((accepted_empty_iff rfl).mp ((works_iff preferred (by decide)).mp works).1)
  · obtain ⟨command, result, resolved, planned⟩ := well.serves _ preferred (by decide)
      target.symm ((works_iff preferred (by decide)).mpr ⟨accepted, nofun⟩)
    obtain ⟨chosen, member, rfl⟩ := candidate_of_resolved resolved
    obtain ⟨open_, reaches, _, rated⟩ := mem_candidatesAmong.mp member
    have forced : chosen = .managerForceAccept := by
      rcases accepting chosen (reaches.trans target) with rfl | forced
      · rcases rated with rated | different
        · rw [unrated] at rated
          cases rated
        · exact absurd rfl different
      · exact forced
    subst forced
    have unnamed := unrated_of_force ((works_iff open_ (by decide)).mp ⟨result, planned⟩).1
    have typed := (PayloadSchema.required_of_validate accepted ("rating", .int)
      (List.mem_singleton_self _)).2
    rw [unnamed] at typed
    cases typed

/-- The status-based entry finds an action that works whenever an allowed one does, in
any order of the set, exactly when the intent is none of the clashes. -/
theorem resolvesWell_iff (snap : WorkflowSnapshot) (actor : ActorContext)
    (principal : PrincipalRef) (now : Moment) (intent : LegacyStatusIntent) :
    ResolvesWell snap actor principal now intent ↔ ¬ Clash snap actor intent := by
  constructor
  · exact free_of_well
  · intro free
    exact ⟨fun action => serves_of_free free, fun order => resolveAmong_perm⟩

end

def twoHats : ActorContext :=
  ⟨.user, some 2, none, [roleManager, roleExecutor], some roleManager, [], ["plumber"]⟩

def workingSnapshot : WorkflowSnapshot where
  request := ⟨"250101-001", 7, .inProgress, false, false, none, some 2, .resident⟩
  hasRating := false
  activeAssignmentExecutorId := some 2
  actorHasActiveShift := true
  activeAssignmentType := some .individual
  activeAssignmentGroup := none
  activeAssignmentUnclaimed := false

def twoHatsRef : PrincipalRef := ⟨.user, some 2, "api", none, user_systemNamed, user_userKnown 2⟩

/-- Moved to «Закуп» without a list of materials, the request is refused in the name of
the executor, although the manager may do it. -/
theorem manager_purchase_refused :
    let intent : LegacyStatusIntent := ⟨"command", .purchase, []⟩
    .managerPurchase ∈ allowedActions workingSnapshot twoHats ∧
      Works workingSnapshot twoHats twoHatsRef 0 intent .managerPurchase ∧
      resolveCommand workingSnapshot twoHats intent = .ok ⟨"command", .executorPurchase, []⟩ ∧
      planTransition workingSnapshot ⟨"command", .executorPurchase, []⟩ twoHats twoHatsRef 0 =
        .error (.payloadInvalid "executor_purchase: missing required 'requested_materials'") ∧
      ¬ ResolvesWell workingSnapshot twoHats twoHatsRef 0 intent := by
  refine ⟨by decide, ⟨_, rfl⟩, rfl, rfl, ?_⟩
  intro well
  obtain ⟨command, result, resolved, planned⟩ :=
    well.serves .managerPurchase (by decide) (by decide) rfl ⟨_, rfl⟩
  cases resolved
  cases planned

end InfrasafeBot.StatusResolution
