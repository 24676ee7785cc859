import Mathlib.Data.Prod.Lex
import InfrasafeBot.Library.Ranking
import InfrasafeBot.Shifts.Store

/-! The rule that picks the executor on duty with the least work
(`services/auto_manager/rule_engine.py`). -/

set_option autoImplicit false

namespace InfrasafeBot.AutoManager

open Library RequestWorkflow Specializations

structure User extends WorkflowRunner.User where
  status : Shifts.AccountStatus
  language : Option String

structure Shift extends WorkflowRunner.Shift where
  specializationFocus : Json

structure Roster where
  users : Table fun user : User => user.id
  shifts : List Shift

def User.hasRole (user : User) (role : String) : Bool :=
  (WorkflowRunner.getUserRoles user.toUser).contains role

def listApprovedUsers (roster : Roster) : List User :=
  roster.users.rows.filter fun user => user.status = .approved

def openLoadStatuses : List RequestStatus := [.inProgress, .purchase, .clarification]

structure DutySnapshot where
  approvedUsers : List User
  shiftsByUser : UserId → List Shift
  loadByUser : UserId → Nat

def Shift.isActiveAt (shift : Shift) (now : Moment) : Bool :=
  shift.status = "active" && shift.startTime ≤ now &&
    match shift.endTime with
    | none => true
    | some ending => now ≤ ending

def loads (executor : UserId) (row : Request) : Bool :=
  row.executorId = some executor && openLoadStatuses.contains row.status

def executorIds (roster : Roster) : List UserId :=
  ((listApprovedUsers roster).filter (·.hasRole roleExecutor)).map (·.id)

def buildDutySnapshot (roster : Roster) (db : Database) (now : Moment) : DutySnapshot where
  approvedUsers := listApprovedUsers roster
  shiftsByUser := fun user =>
    if (executorIds roster).contains user then
      roster.shifts.filter fun shift => shift.userId = user && shift.isActiveAt now
    else []
  loadByUser := fun user =>
    if (executorIds roster).contains user then db.requests.rowcount (loads user) else 0

/-- `matches_raw_requirement`: a requirement that names nothing known fits nobody. -/
def matchesRawRequirement (userSpecs : List String) (requirement : Json) : Bool :=
  let required := Shifts.parseShiftSpecs requirement
  if required.isEmpty then (Shifts.focusTokens requirement).isEmpty
  else matchesRequiredSpecs userSpecs required

def Shift.canHandleSpecialization (shift : Shift) (specialization : Option String) : Bool :=
  matchesRawRequirement (specialization.elim [] (normalizeSpecialization · .have))
    shift.specializationFocus

def hasMatchingActiveShift (snapshot : DutySnapshot) (executor : UserId)
    (specialization : Option String) : Bool :=
  (snapshot.shiftsByUser executor).any (·.canHandleSpecialization specialization)

def requiredSpecs (specialization : Option String) : List String :=
  parseSpecializationValues specialization .need true

def isCandidate (specialization : Option String) (excludeUserIds : List UserId) (user : User) : Bool :=
  !excludeUserIds.contains user.id && user.hasRole roleExecutor &&
    matchesRequiredSpecs (parseSpecializations user.specialization) (requiredSpecs specialization)

def dutyRank (snapshot : DutySnapshot) (user : User) : Nat ×ₗ UserId :=
  toLex (snapshot.loadByUser user.id, user.id)

def selectExecutor (snapshot : DutySnapshot) (specialization : Option String)
    (excludeUserIds : List UserId) : Option User :=
  if (requiredSpecs specialization).isEmpty then none
  else
    let candidates := snapshot.approvedUsers.filter (isCandidate specialization excludeUserIds)
    let onDuty := candidates.filter fun candidate =>
      hasMatchingActiveShift snapshot candidate.id specialization
    (onDuty.insertionSort fun left right => dutyRank snapshot left ≤ dutyRank snapshot right).head?

section

variable {roster : Roster} {db : Database} {now : Moment} {specialization : Option String}
  {excludeUserIds : List UserId} {user : User}

structure OnDuty (roster : Roster) (now : Moment) (specialization : Option String)
    (excludeUserIds : List UserId) (user : User) : Prop where
  listed : user ∈ roster.users.rows
  approved : user.status = .approved
  executor : user.hasRole roleExecutor = true
  allowed : user.id ∉ excludeUserIds
  required : requiredSpecs specialization ≠ []
  skilled : matchesRequiredSpecs (parseSpecializations user.specialization)
    (requiredSpecs specialization) = true
  shift : ∃ shift ∈ roster.shifts, shift.userId = user.id ∧ shift.isActiveAt now = true ∧
    shift.canHandleSpecialization specialization = true

def openLoad (db : Database) (user : UserId) : Nat := db.requests.rowcount (loads user)

structure BestOnDuty (roster : Roster) (db : Database) (now : Moment)
    (specialization : Option String) (excludeUserIds : List UserId) (pick : Option User) :
    Prop where
  least : ∀ user, pick = some user → OnDuty roster now specialization excludeUserIds user ∧
    ∀ other, OnDuty roster now specialization excludeUserIds other →
      toLex (openLoad db user.id, user.id) ≤ toLex (openLoad db other.id, other.id)
  nobody : pick = none ↔ ∀ user, ¬ OnDuty roster now specialization excludeUserIds user

theorem mem_executorIds (listed : user ∈ roster.users.rows) (approved : user.status = .approved)
    (executor : user.hasRole roleExecutor = true) : user.id ∈ executorIds roster := by
  refine List.mem_map_of_mem (List.mem_filter.mpr ⟨?_, executor⟩)
  exact List.mem_filter.mpr ⟨listed, decide_eq_true approved⟩

theorem OnDuty.counted (onDuty : OnDuty roster now specialization excludeUserIds user) :
    user.id ∈ executorIds roster :=
  mem_executorIds onDuty.listed onDuty.approved onDuty.executor

theorem loadByUser_of_mem {id : UserId} (counted : id ∈ executorIds roster) :
    (buildDutySnapshot roster db now).loadByUser id = openLoad db id :=
  if_pos (List.contains_iff_mem.mpr counted)

theorem loadByUser_of_not_mem {id : UserId} (uncounted : id ∉ executorIds roster) :
    (buildDutySnapshot roster db now).loadByUser id = 0 :=
  if_neg fun listed => uncounted (List.contains_iff_mem.mp listed)

theorem shiftsByUser_of_mem {id : UserId} (counted : id ∈ executorIds roster) :
    (buildDutySnapshot roster db now).shiftsByUser id =
      roster.shifts.filter fun shift => shift.userId = id && shift.isActiveAt now :=
  if_pos (List.contains_iff_mem.mpr counted)

theorem mem_onDuty (required : requiredSpecs specialization ≠ []) :
    user ∈ (((buildDutySnapshot roster db now).approvedUsers.filter
        (isCandidate specialization excludeUserIds)).filter fun candidate =>
          hasMatchingActiveShift (buildDutySnapshot roster db now) candidate.id specialization) ↔
      OnDuty roster now specialization excludeUserIds user := by
  rw [List.mem_filter, List.mem_filter]
  change ((user ∈ listApprovedUsers roster ∧ _) ∧ _) ↔ _
  rw [listApprovedUsers, List.mem_filter, decide_eq_true_eq, isCandidate, Bool.and_eq_true,
    Bool.and_eq_true, Bool.not_eq_true', List.contains_eq_mem, decide_eq_false_iff_not,
    hasMatchingActiveShift, List.any_eq_true]
  constructor
  · intro chosen
    obtain ⟨⟨⟨listed, approved⟩, ⟨allowed, executor⟩, skilled⟩, shift, active, covers⟩ := chosen
    rw [shiftsByUser_of_mem (mem_executorIds listed approved executor), List.mem_filter,
      Bool.and_eq_true, decide_eq_true_eq] at active
    exact ⟨listed, approved, executor, allowed, required, skilled, shift, active.1, active.2.1,
      active.2.2, covers⟩
  · intro onDuty
    obtain ⟨shift, listed, own, active, covers⟩ := onDuty.shift
    refine ⟨⟨⟨onDuty.listed, onDuty.approved⟩, ⟨onDuty.allowed, onDuty.executor⟩,
      onDuty.skilled⟩, shift, ?_, covers⟩
    rw [shiftsByUser_of_mem onDuty.counted, List.mem_filter, Bool.and_eq_true, decide_eq_true_eq]
    exact ⟨listed, own, active⟩

theorem selectExecutor_best : BestOnDuty roster db now specialization excludeUserIds
    (selectExecutor (buildDutySnapshot roster db now) specialization excludeUserIds) := by
  by_cases required : requiredSpecs specialization = []
  · have nothing : selectExecutor (buildDutySnapshot roster db now) specialization
        excludeUserIds = none := if_pos (List.isEmpty_iff.mpr required)
    rw [nothing]
    exact ⟨fun _ found => (nomatch found), iff_of_true rfl fun user onDuty => onDuty.required required⟩
  · have chosen : selectExecutor (buildDutySnapshot roster db now) specialization
        excludeUserIds = _ := if_neg fun empty => required (List.isEmpty_iff.mp empty)
    have members := fun user => @mem_onDuty roster db now specialization excludeUserIds user
      required
    rw [chosen]
    dsimp only
    generalize ((buildDutySnapshot roster db now).approvedUsers.filter
      (isCandidate specialization excludeUserIds)).filter _ = onDuty at members ⊢
    constructor
    · intro user found
      obtain ⟨listed, least⟩ := least_of_head? found
      have present := (members user).mp listed
      refine ⟨present, fun other otherPresent => ?_⟩
      have ranked := least other ((members other).mpr otherPresent)
      unfold dutyRank at ranked
      rwa [loadByUser_of_mem present.counted, loadByUser_of_mem otherPresent.counted] at ranked
    · rw [head?_insertionSort_eq_none_iff, List.eq_nil_iff_forall_not_mem]
      exact forall_congr' fun user => not_congr (members user)

end

end InfrasafeBot.AutoManager
