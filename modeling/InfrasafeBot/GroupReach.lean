import InfrasafeBot.RequestAccess
import InfrasafeBot.WorkflowRuns

/-! Whom a group assignment reaches: the executors on duty with its skill may take
the request and see it, where both predicates read the stored group alike. -/

set_option autoImplicit false

namespace InfrasafeBot.GroupReach

open Library RequestWorkflow Specializations WebhookSender WorkflowRunner RequestLifecycle
  WorkflowPatches WorkflowOperations WorkflowRefinement WorkflowRuns RequestAccess

/-- An executor on an active shift that covers now, with the skill of the group. -/
structure OnDuty (directory : Directory) (user : User) (skill : String) : Prop where
  listed : directory.users.find? user.id = some user
  executor : roleExecutor ∈ parseRolesSafe user.roles
  working : isOnShiftNow directory (some user.id) = true
  skilled : skill ∈ parseSpecializations user.specialization

/-- The rules of the canon up to the group's. -/
def rulesToGroup : List AccessRule := accessRules.takeWhile fun rule => rule ≠ .apartmentResidentOnAccepted

structure ReachesDuty (db : Database) (number : RequestNumber) (skill : String) : Prop where
  claimable : ∀ directory user principal row, OnDuty directory user skill →
    principal.kind = .user → principal.userId = some user.id →
    db.requests.find? number = some row →
    ∃ actor, loadActorContext directory principal = .ok actor ∧
      .executorClaim ∈ allowedActions (buildSnapshot db directory row actor) actor
  visible : ∀ directory user row, OnDuty directory user skill →
    db.requests.find? number = some row →
    ∃ rule ∈ rulesToGroup, requestAccessReasonSync db directory user row = some rule ∧
      requestAccessReasonAsync db directory user row = some rule
  stored : ∀ row, db.requests.find? number = some row →
    ∃ group ∈ canonicalSpecializations, row.assignedGroup = some group
  assigned : ∀ assignment ∈ db.assignments.rows, assignment.isActiveOf number = true →
    ∃ group ∈ canonicalSpecializations, assignment.groupSpecialization = some group

variable {group : String}

theorem parse_of_canonical (canonical : isCanonical (pyStrip group) = true) :
    parseSpecializationValues (some group) .need false = [pyStrip group] := by
  unfold parseSpecializationValues
  simp only [rawSpecializationTokens]
  have listed := List.contains_iff_mem.mp canonical
  generalize pyStrip group = skill at listed ⊢
  simp only [canonicalSpecializations, List.mem_cons, List.not_mem_nil, or_false] at listed
  rcases listed with rfl | rfl | rfl | rfl | rfl | rfl | rfl | rfl | rfl <;> decide

theorem strip_of_canonical (listed : group ∈ canonicalSpecializations) : pyStrip group = group := by
  simp only [canonicalSpecializations, List.mem_cons, List.not_mem_nil, or_false] at listed
  rcases listed with rfl | rfl | rfl | rfl | rfl | rfl | rfl | rfl | rfl <;> decide

/-- A request as its offer to a group leaves it. -/
structure Offered (db : Database) (row : Request) (group : String) : Prop where
  found : db.requests.find? row.requestNumber = some row
  status : row.status = .new
  executor : row.executorId = none
  grouped : row.assignedGroup = some group
  active : activeOf db.assignments row.requestNumber = [⟨.group, none, some group⟩]

section

variable {deployment : Deployment} {db after : Database} {call : Call} {outcome : CommandOutcome}
  {directory : Directory} {row : Request} {user : User} {commandId : String} {payload : Payload}

theorem canonical_of_required (given : payload.get "group" = .str group)
    (passed : requireCanonicalGroup .assignGroup payload = .ok ()) :
    isCanonical (pyStrip group) = true := by
  unfold requireCanonicalGroup at passed
  rw [if_pos rfl, given] at passed
  cases canonical : isCanonical (pyStrip group) with
  | true => rfl
  | false => simp [PyValue.asText, canonical] at passed

theorem offer_inv {card next : Card} (step : Step .assignGroup card next) :
    ∃ name, next = (card.moveTo .new).offeredTo name := by
  cases step with
  | offer name _ => exact ⟨name, rfl⟩
  | assign _ starts | park starts | resume starts _ | complete starts => simp at starts
  | take _ takes _ _ => simp at takes

theorem Offered.of_run (offers : call.command = .action ⟨commandId, .assignGroup, payload⟩)
    (given : payload.get "group" = .str group)
    (ran : runCommand deployment db call = .ok (outcome, after)) :
    ∃ changed, after.requests.find? call.requestNumber = some changed ∧
      isCanonical (pyStrip group) = true ∧ Offered after changed group := by
  obtain ⟨reading, read, settled⟩ := runCommand_cases ran
  obtain ⟨row, actor, snap, command⟩ := reading
  have named := read.resolved
  rw [offers] at named
  cases named
  obtain ⟨_, silent, _⟩ | ⟨changed, move, _⟩ := settled
  · rcases silent.1 with ⟨confirms, _⟩ | ⟨dispatches, _⟩
    · cases confirms
    · cases dispatches
  · obtain ⟨valid, canonical, _⟩ := planTransition_eq_ok_iff.mp move.planned
    have key : changed.requestNumber = call.requestNumber := Table.key_of_find? move.stored
    have unassigned : payload.get "executor_id" = .none :=
      PayloadSchema.known_of_validate valid (by simp [payloadSchemas])
    have stored : changed.assignedGroup = some group := by
      have columns : rowCard (changedRow actor call.now row
          (buildPatch .assignGroup .new actor payload)) [] 0 = _ :=
        changed_assignGroup given unassigned
      rw [move.row]
      exact congrArg Card.group columns
    refine ⟨changed, move.stored, ?_, ?_⟩
    · exact canonical_of_required given canonical
    · obtain ⟨name, offered⟩ := offer_inv move.step
      have same : name = group := by
        have grouped := congrArg Card.group offered
        change changed.assignedGroup = some name at grouped
        rw [stored] at grouped
        exact (Option.some.inj grouped).symm
      subst same
      exact ⟨key ▸ move.stored, congrArg Card.status offered, congrArg Card.executor offered,
        stored, congrArg Card.active offered⟩

def actorOf (directory : Directory) (user : User) : ActorContext where
  kind := .user
  userId := some user.id
  systemActor := none
  roles := getUserRoles user
  activeRole := some (getActiveRole user)
  approvedApartmentIds := approvedApartmentIds directory user.id
  specializations := parseSpecializations user.specialization

variable {principal : PrincipalRef} {actor : ActorContext}

theorem loadActorContext_listed (listed : directory.users.find? user.id = some user)
    (human : principal.kind = .user) (named : principal.userId = some user.id) :
    loadActorContext directory principal = .ok (actorOf directory user) := by
  unfold loadActorContext
  simp only [human, named, Option.bind_some, listed]
  rfl

theorem mem_getUserRoles {role : String} (member : role ∈ parseRolesSafe user.roles) :
    role ∈ getUserRoles user := by
  have filled : (parseRolesSafe user.roles).isEmpty = false :=
    List.isEmpty_eq_false_iff.mpr (List.ne_nil_of_mem member)
  simpa [getUserRoles, filled] using member

theorem canClaim_of_skilled {snap : WorkflowSnapshot} {skill : String}
    (human : actor.kind = .user) (executor : roleExecutor ∈ actor.roles)
    (working : snap.actorHasActiveShift = true)
    (unclaimed : snap.activeAssignmentUnclaimed = true)
    (parsed : parseSpecializationValues snap.activeAssignmentGroup .need false = [skill])
    (skilled : skill ∈ actor.specializations) : executorCanClaim snap actor = true := by
  simp [executorCanClaim, matchesRequiredSpecs, human, executor, working, unclaimed, parsed, skilled]

theorem accessReason_to_group {facts : RequestAccessFacts}
    (fired : fires facts .executorGroupAssignmentOnShift = true) :
    ∃ rule ∈ rulesToGroup, accessReason facts = some rule := by
  have reached : (rulesToGroup.find? (fires facts)).isSome = true :=
    List.find?_isSome.mpr ⟨_, by decide, fired⟩
  obtain ⟨rule, found⟩ := Option.isSome_iff_exists.mp reached
  have order : accessRules = rulesToGroup ++ [.apartmentResidentOnAccepted] := by decide
  refine ⟨rule, List.mem_of_find?_eq_some found, ?_⟩
  rw [accessReason_eq_find?, order, List.find?_append, found]
  rfl

theorem queryShift_of_working (working : isOnShiftNow directory (some user.id) = true) :
    queryShift directory user = true := by
  obtain ⟨shift, listed, covers⟩ := List.any_eq_true.mp working
  simp only [Bool.and_eq_true, decide_eq_true_eq, Option.some.injEq] at covers
  exact List.any_eq_true.mpr ⟨shift, listed, by simp [covers.1.1]⟩

variable (offered : Offered db row group)
include offered

theorem Offered.find_active :
    ∃ assignment, db.assignments.rows.find? (RequestAssignment.isActiveOf row.requestNumber) =
      some assignment ∧ holding assignment = ⟨.group, none, some group⟩ := by
  obtain ⟨assignment, listed, held⟩ := List.map_eq_singleton_iff.mp offered.active
  refine ⟨assignment, ?_, held⟩
  rw [← List.head?_filter, listed]
  rfl

theorem Offered.held {assignment : RequestAssignment}
    (member : assignment ∈ db.assignments.rows)
    (active : assignment.isActiveOf row.requestNumber = true) :
    holding assignment = ⟨.group, none, some group⟩ := by
  have listed : holding assignment ∈ activeOf db.assignments row.requestNumber :=
    List.mem_map_of_mem (List.mem_filter.mpr ⟨member, active⟩)
  rw [offered.active] at listed
  exact List.mem_singleton.mp listed

theorem Offered.snapshot (human : actor.kind = .user) (executor : roleExecutor ∈ actor.roles)
    (working : isOnShiftNow directory actor.userId = true) :
    let snap := buildSnapshot db directory row actor
    normalizeStatus snap.request = .new ∧ snap.actorHasActiveShift = true ∧
      snap.activeAssignmentUnclaimed = true ∧ snap.activeAssignmentGroup = some group := by
  obtain ⟨assignment, found, held⟩ := offered.find_active
  have type := congrArg Holding.type held
  have free := congrArg Holding.executor held
  have named := congrArg Holding.group held
  refine ⟨?_, ?_, ?_, ?_⟩
  · simp [buildSnapshot, normalizeStatus, newStateFrom, offered.status]
  · simp [buildSnapshot, human, executor, working]
  · simp only [holding] at type free
    simp [buildSnapshot, found, type, free]
  · simp only [holding] at named
    simp [buildSnapshot, found, named]

theorem Offered.claimable (canonical : isCanonical (pyStrip group) = true)
    (duty : OnDuty directory user (pyStrip group)) (human : principal.kind = .user)
    (named : principal.userId = some user.id) :
    ∃ actor, loadActorContext directory principal = .ok actor ∧
      .executorClaim ∈ allowedActions (buildSnapshot db directory row actor) actor := by
  refine ⟨actorOf directory user, loadActorContext_listed duty.listed human named, ?_⟩
  rw [mem_allowedActions]
  have executor : roleExecutor ∈ (actorOf directory user).roles := mem_getUserRoles duty.executor
  obtain ⟨new, working, unclaimed, stored⟩ := offered.snapshot rfl executor duty.working
  have right : executorCanClaim (buildSnapshot db directory row (actorOf directory user))
      (actorOf directory user) = true :=
    canClaim_of_skilled rfl executor working unclaimed
      (stored ▸ parse_of_canonical canonical) duty.skilled
  refine ⟨by simp [new, actionTable], ?_⟩
  change (!false && executorCanClaim (buildSnapshot db directory row (actorOf directory user))
    (actorOf directory user)) = true
  rw [right]
  rfl

theorem Offered.visible (verbatim : pyStrip group = group)
    (canonical : isCanonical (pyStrip group) = true)
    (duty : OnDuty directory user (pyStrip group)) :
    ∃ rule ∈ rulesToGroup, eagerReason db directory user row = some rule := by
  obtain ⟨assignment, found, held⟩ := offered.find_active
  have active := List.find?_some found
  simp only [RequestAssignment.isActiveOf, Bool.and_eq_true, decide_eq_true_eq] at active
  have type := congrArg Holding.type held
  have named := congrArg Holding.group held
  simp only [holding] at type named
  have filled : group ≠ "" := by
    rintro rfl
    exact absurd canonical (by decide)
  have queried : group ∈ queryGroups db row := by
    refine List.mem_filterMap.mpr ⟨assignment, List.mem_filter.mpr
      ⟨List.mem_of_find?_eq_some found, ?_⟩, ?_⟩
    · simp [active, type]
    · simp [named, filled]
  have skilled : group ∈ parseSpecializations user.specialization := verbatim ▸ duty.skilled
  have shared : intersects (queryGroups db row) (parseSpecializations user.specialization) =
      true := intersects_iff.mpr ⟨group, queried, skilled⟩
  refine accessReason_to_group ?_
  simp [fires, tableFacts, baseFacts, answers, duty.executor, queryShift_of_working duty.working, shared]

/-- An offered request reaches the duty executors of its group exactly when the group
was given without surrounding blanks. -/
theorem reachesDuty_of_offered (canonical : isCanonical (pyStrip group) = true) :
    ReachesDuty db row.requestNumber (pyStrip group) ↔ pyStrip group = group := by
  constructor
  · intro reaches
    obtain ⟨name, listed, stored⟩ := reaches.stored row offered.found
    rw [offered.grouped] at stored
    cases stored
    exact strip_of_canonical listed
  · intro verbatim
    have listed : group ∈ canonicalSpecializations := verbatim ▸ List.contains_iff_mem.mp canonical
    constructor
    · intro directory user principal reread duty human named found
      rw [offered.found] at found
      cases found
      exact offered.claimable canonical duty human named
    · intro directory user reread duty found
      rw [offered.found] at found
      cases found
      obtain ⟨rule, early, reason⟩ := offered.visible verbatim canonical duty
      exact ⟨rule, early, requestAccessReason_eq.trans reason, requestAccessReason_eq.trans reason⟩
    · intro reread found
      rw [offered.found] at found
      cases found
      exact ⟨group, listed, offered.grouped⟩
    · intro assignment member active
      exact ⟨group, listed, congrArg Holding.group (offered.held member active)⟩

end

/-- A successful ASSIGN_GROUP reaches the duty executors of the specialization it was
accepted for exactly when the text of the group has no blanks around it. -/
theorem reachesDuty_iff {deployment : Deployment} {db after : Database} {call : Call}
    {outcome : CommandOutcome} {commandId group : String} {payload : Payload}
    (offers : call.command = .action ⟨commandId, .assignGroup, payload⟩)
    (given : payload.get "group" = .str group)
    (ran : runCommand deployment db call = .ok (outcome, after)) :
    ReachesDuty after call.requestNumber (pyStrip group) ↔ pyStrip group = group := by
  obtain ⟨changed, stored, canonical, offered⟩ := Offered.of_run offers given ran
  have key : changed.requestNumber = call.requestNumber := Table.key_of_find? stored
  rw [← key]
  exact reachesDuty_of_offered offered canonical

def dutyDirectory : Directory :=
  { sampleDirectory with
    users := ⟨[⟨1, 10, some "manager", none, none, none, none⟩,
      ⟨2, 20, some "executor", none, some "plumber", none, none⟩], by decide⟩
    shifts := [⟨2, "active", 0, none⟩] }

def offerCall (group : String) : Call :=
  userCall dutyDirectory 5 "250101-001" 1 .assignGroup [("group", .str group)]

def offeredDatabase (group : String) : Database :=
  commit sampleDeployment (.ofRequest (sampleRequest .resident)) (offerCall group)

theorem plumbers_reached : ReachesDuty (offeredDatabase "plumber") "250101-001" "plumber" := by
  have ran : runCommand sampleDeployment (.ofRequest (sampleRequest .resident))
      (offerCall "plumber") = .ok (_, offeredDatabase "plumber") := rfl
  have stripped : pyStrip "plumber" = "plumber" := by decide
  have reached : ReachesDuty _ _ (pyStrip "plumber") := (reachesDuty_iff rfl rfl ran).mpr stripped
  rw [stripped] at reached
  exact reached

def dutyPlumber : User := ⟨2, 20, some "executor", none, some "plumber", none, none⟩

theorem dutyPlumber_onDuty : OnDuty dutyDirectory dutyPlumber "plumber" :=
  ⟨rfl, by decide, by decide, by decide⟩

/-- A group with a blank before it is accepted for the plumbers, who may take the
request but do not see it. -/
theorem padded_group_unseen :
    pyStrip " plumber" = "plumber" ∧
      (∃ outcome, runCommand sampleDeployment (.ofRequest (sampleRequest .resident))
        (offerCall " plumber") = .ok (outcome, offeredDatabase " plumber")) ∧
      OnDuty dutyDirectory dutyPlumber "plumber" ∧
      (∃ row, (offeredDatabase " plumber").requests.find? "250101-001" = some row ∧
        requestAccessReasonSync (offeredDatabase " plumber") dutyDirectory dutyPlumber row = none) ∧
      ¬ ReachesDuty (offeredDatabase " plumber") "250101-001" "plumber" := by
  refine ⟨by decide, ⟨_, rfl⟩, dutyPlumber_onDuty, ⟨_, rfl, by decide⟩, ?_⟩
  intro reaches
  obtain ⟨rule, _, seen, _⟩ := reaches.visible dutyDirectory dutyPlumber _ dutyPlumber_onDuty rfl
  revert seen
  cases rule <;> decide

end InfrasafeBot.GroupReach
