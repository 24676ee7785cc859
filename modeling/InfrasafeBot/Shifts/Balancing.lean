import InfrasafeBot.Library.Binary64
import InfrasafeBot.Shifts.TemplatePlanning

/-! The balancing of a day's workload (`services/shift_assignment_service/balancer.py`):
shifts of executors who have too many go to those who have too few. The session's shifts are
a table with the pending owners; only a commit makes it the database. What the scoring
answers is a parameter. -/

set_option autoImplicit false

namespace InfrasafeBot.Shifts

open Library RequestWorkflow

def Shift.assignee (shift : Shift) : Option UserId := shift.userId.filter (· ≠ 0)

def load (shifts : List Shift) (executor : UserId) : Nat :=
  shifts.countP fun shift => shift.userId = some executor

def executorLoads (shifts : List Shift) : List (UserId × Nat) :=
  (shifts.filterMap Shift.assignee).eraseDups.map fun executor => (executor, load shifts executor)

structure Distribution where
  totalShifts : Nat
  assignedShifts : Nat
  unassignedShifts : Nat
  uniqueExecutors : Nat
  executorLoads : List (UserId × Nat)
  avgLoad : ℚ
  maxLoad : Nat
  minLoad : Nat
  loadVariance : ℚ
  isBalanced : Bool

inductive Workload where
  | unassigned (totalShifts unassignedShifts : Nat)
  | spread (distribution : Distribution)

/-- `_analyze_workload_distribution`. Of the variance only the average is rounded: where the
loads differ by one it is far below one. -/
def analyzeWorkloadDistribution (shifts : List Shift) : Workload :=
  let executorLoads := executorLoads shifts
  let unassigned := shifts.countP fun shift => shift.assignee.isNone
  if executorLoads.isEmpty then .unassigned shifts.length unassigned
  else
    let loads : List Nat := executorLoads.map (·.2)
    let avgLoad := Binary64.round ((loads.sum : ℚ) / loads.length)
    let maxLoad := loads.max?.getD 0
    let minLoad := loads.min?.getD 0
    let loadVariance := (loads.map fun load => ((load : ℚ) - avgLoad) ^ 2).sum / loads.length
    .spread
      { totalShifts := shifts.length
        assignedShifts := shifts.length - unassigned
        unassignedShifts := unassigned
        uniqueExecutors := executorLoads.length
        executorLoads
        avgLoad
        maxLoad
        minLoad
        loadVariance
        isBalanced := maxLoad - minLoad ≤ 1 && loadVariance < 1 }

structure Redistribution where
  shiftId : ShiftId
  fromExecutor : Option UserId
  toExecutor : UserId

inductive BalanceError where
  | missingKey (key : String)
  | scoring

def getUserRoles (user : User) : List String :=
  let roles := WorkflowRunner.parseRolesSafe user.roles
  if roles.isEmpty then ["applicant"] else roles

/-- The session of a run, and the receivers that still want shifts, with their loads. -/
structure Balance where
  shifts : Table Shift.id
  underloaded : List (UserId × Nat)
  redistributions : List Redistribution

section

variable (availability : Table Shift.id → Shift → User → Option ℚ) (users : Table User.id)
  (selects : Shift → Bool) (avgLoad : ℚ)

def canAssignShift (shifts : Table Shift.id) (shift : Shift) (executor : User) : Except BalanceError Bool :=
  if (getUserRoles executor).contains "executor" && executor.status = .approved then
    match availability shifts shift executor with
    | some score => .ok (1 / 2 < score)
    | none => .error .scoring
  else .ok false

def accepts (shifts : Table Shift.id) (shift : Shift) (receiver : UserId) : Except BalanceError Bool :=
  match users.find? receiver with
  | some executor => canAssignShift availability shifts shift executor
  | none => .ok false

/-- The first receiver who can take the shift, and the receivers after that: one who has come
to the average is among them no longer. -/
def findReceiver (shifts : Table Shift.id) (shift : Shift) :
    List (UserId × Nat) → Except BalanceError (Option (UserId × List (UserId × Nat)))
  | [] => .ok none
  | (receiver, underload) :: rest => do
      if ← accepts availability users shifts shift receiver then
        let newLoad := underload + 1
        .ok (some (receiver, if avgLoad ≤ newLoad then rest else (receiver, newLoad) :: rest))
      else
        let found ← findReceiver shifts shift rest
        .ok (found.map fun (taker, others) => (taker, (receiver, underload) :: others))

def Balance.place (state : Balance) (shift : Shift) : Except BalanceError Balance := do
  match ← findReceiver availability users avgLoad state.shifts shift state.underloaded with
  | none => .ok state
  | some (receiver, underloaded) =>
    .ok
      { shifts := state.shifts.put { shift with userId := some receiver }
        underloaded
        redistributions := state.redistributions ++ [⟨shift.id, shift.userId, receiver⟩] }

/-- The shifts of a donor, until he is near the average or nobody wants more. -/
def unload (donor : UserId) : List Shift → Balance → Except BalanceError Balance
  | [], state => .ok state
  | shift :: rest, state =>
    if state.underloaded.isEmpty then .ok state
    else do
      let placed ← state.place availability users avgLoad shift
      if (load (placed.shifts.rows.filter selects) donor : ℚ) ≤ Binary64.round (avgLoad + 1) then .ok placed
      else unload donor rest placed

def unloadAll : List (UserId × Nat) → Balance → Except BalanceError Balance
  | [], state => .ok state
  | (donor, _) :: rest, state => do
      let executorShifts := (state.shifts.rows.filter selects).filter fun shift => shift.userId = some donor
      let unloaded ← unload availability users selects avgLoad donor executorShifts state
      unloadAll rest unloaded

end

inductive BalanceReport where
  | noShifts
  | balanced (distribution : Distribution)
  | impossible (distribution : Distribution)
  | rebalanced (distribution : Distribution) (redistributions : List Redistribution)
  | failed (error : BalanceError)

def plannedOn (zone : BusinessZone) (day : CalendarDay) (shift : Shift) : Bool :=
  shift.plannedStartTime.any (zone.onDay day) && shift.status = .planned

section

variable (availability : Table Shift.id → Shift → User → Option ℚ) (zone : BusinessZone)
  (users : Table User.id) (shifts : Table Shift.id) (day : CalendarDay)

def overloaded (distribution : Distribution) : List (UserId × Nat) :=
  distribution.executorLoads.filter fun entry => Binary64.round (distribution.avgLoad + 1) < entry.2

def underloaded (distribution : Distribution) : List (UserId × Nat) :=
  distribution.executorLoads.filter fun entry =>
    !decide (Binary64.round (distribution.avgLoad + 1) < entry.2) &&
      entry.2 < Binary64.round (distribution.avgLoad - 1)

def rebalanceShifts (distribution : Distribution) : BalanceReport × Table Shift.id :=
  let donors := overloaded distribution
  let receivers := underloaded distribution
  if donors.isEmpty || receivers.isEmpty then (.impossible distribution, shifts)
  else
    match unloadAll availability users (plannedOn zone day) distribution.avgLoad donors
        ⟨shifts, receivers, []⟩ with
    | .error error => (.failed error, shifts)
    | .ok state =>
      (.rebalanced distribution state.redistributions,
        if state.redistributions.isEmpty then shifts else state.shifts)

/-- `balance_executor_workload`: the report, and the shifts that are committed after it. -/
def balanceExecutorWorkload : BalanceReport × Table Shift.id :=
  let dayShifts := shifts.rows.filter (plannedOn zone day)
  if dayShifts.isEmpty then (.noShifts, shifts)
  else
    match analyzeWorkloadDistribution dayShifts with
    | .unassigned _ _ => (.failed (.missingKey "executor_loads"), shifts)
    | .spread distribution =>
      if distribution.isBalanced then (.balanced distribution, shifts)
      else rebalanceShifts availability zone users shifts day distribution

end

end InfrasafeBot.Shifts
