import Mathlib.Data.List.Infix
import InfrasafeBot.Shifts.Handover

/-! Shifts from templates, for one day, for a week or for some days ahead
(`services/shift_planning_service/planning.py`), one statement after the other. The session
has no autoflush, so a new shift has no id until a commit: the automatic assignment, which
looks for its row, finds none and rolls the session back with everything that is new in it. -/

set_option autoImplicit false

namespace InfrasafeBot.Shifts

open Library RequestWorkflow

abbrev TemplateId := Nat
abbrev TelegramId := Int

/-- The number of a date, as in `toordinal`. -/
abbrev CalendarDay := Int

/-- The business zone: the instant of a minute of a day, which lies in its day. -/
structure BusinessZone where
  instant : CalendarDay → Nat → Moment
  within : ∀ day minute, minute < 1440 →
    instant day 0 ≤ instant day minute ∧ instant day minute < instant (day + 1) 0

theorem BusinessZone.fixed_within (offset day : Int) (minute : Nat) (inDay : minute < 1440) :
    day * 86400 + ((0 : Nat) : Int) * 60 - offset ≤ day * 86400 + (minute : Int) * 60 - offset ∧
      day * 86400 + (minute : Int) * 60 - offset <
        (day + 1) * 86400 + ((0 : Nat) : Int) * 60 - offset := by
  constructor
  · omega
  · omega

/-- A zone that is always as many seconds before UTC. -/
def BusinessZone.fixed (offset : Int) : BusinessZone where
  instant := fun day minute => day * 86400 + (minute : Int) * 60 - offset
  within := BusinessZone.fixed_within offset

def BusinessZone.onDay (zone : BusinessZone) (day : CalendarDay) (moment : Moment) : Bool :=
  zone.instant day 0 ≤ moment && moment < zone.instant (day + 1) 0

/-- `business_wall_clock`; `none` where it raises a `ValueError`. -/
def BusinessZone.wallClock (zone : BusinessZone) (day : CalendarDay) (hour minute : Int) : Option Moment :=
  if 0 ≤ hour ∧ hour < 24 ∧ 0 ≤ minute ∧ minute < 60 then
    some (zone.instant day (hour.toNat * 60 + minute.toNat))
  else none

def weekday (day : CalendarDay) : Int := (day + 6) % 7

structure ShiftTemplate where
  id : TemplateId
  isActive : Bool
  autoCreate : Bool
  startHour : Int
  startMinute : Int
  durationHours : Int
  requiredSpecializations : Json
  minExecutors : Int
  advanceDays : Int
  recurrenceMode : String
  daysOfWeek : List Int
  cycleDaysOn : Option Int
  cycleDaysOff : Option Int
  cycleAnchorDate : Option CalendarDay

namespace ShiftTemplate

variable (template : ShiftTemplate)

def isDayIncluded (weekday : Int) : Bool := template.daysOfWeek.contains weekday

def isDateIncluded (day : CalendarDay) : Bool :=
  if template.recurrenceMode = "cycle" then
    match template.cycleAnchorDate, template.cycleDaysOn with
    | some anchor, some daysOn =>
      let length := daysOn + template.cycleDaysOff.getD 0
      daysOn ≠ 0 && 0 < length && (day - anchor) % length < daysOn
    | _, _ => false
  else template.isDayIncluded (weekday day + 1)

end ShiftTemplate

structure Member where
  telegramId : TelegramId
  user : User

structure PlannedShift where
  shift : Shift
  templateId : Option TemplateId

def PlannedShift.id (row : PlannedShift) : ShiftId := row.shift.id

/-- A batch that has been committed, with the number of shifts that its call had to create. -/
structure Batch where
  templateId : TemplateId
  day : CalendarDay
  wanted : Nat
  size : Nat

structure PlanStore where
  templates : Table ShiftTemplate.id
  staff : List Member
  shifts : Table PlannedShift.id
  batches : List Batch

def mentions (roles : Option String) (word : String) : Bool :=
  roles.any fun text => decide (word.toList <:+: text.toList)

def legacyRoleFilter (user : User) (roles : List String) : Bool :=
  roles.any fun role => mentions user.roles ("\"" ++ role ++ "\"")

def hasRequiredTemplateSpecs (user : User) (template : ShiftTemplate) : Bool :=
  let required := parseShiftSpecs template.requiredSpecializations
  if required.isEmpty then (focusTokens template.requiredSpecializations).isEmpty
  else
    Specializations.matchesRequiredSpecs
      (Specializations.parseSpecializations user.specialization) required

def canExecutorWorkTemplate (user : User) (template : ShiftTemplate) : Bool :=
  hasRequiredTemplateSpecs user template && user.status = .approved && mentions user.roles "executor"

def hourSeconds : Moment := 3600

section

variable (zone : BusinessZone) (store : PlanStore) (template : ShiftTemplate)
  (day : CalendarDay)

def createSingleShift (userId : Option UserId) : Option PlannedShift :=
  (zone.wallClock day template.startHour template.startMinute).map fun start =>
    let ending := start + template.durationHours * hourSeconds
    { shift :=
        { id := 0
          userId
          startTime := start
          endTime := some ending
          status := .planned
          plannedStartTime := some start
          plannedEndTime := some ending
          specializationFocus := template.requiredSpecializations }
      templateId := some template.id }

def eligible (telegramId : TelegramId) : Option User :=
  ((store.staff.find? (·.telegramId = telegramId)).map (·.user)).filter fun user =>
    canExecutorWorkTemplate user template

def existingShifts (templateId : TemplateId) : Nat :=
  store.shifts.rows.countP fun row =>
    row.templateId = some templateId && row.shift.plannedStartTime.any (zone.onDay day)

def isExecutorBusy (userId : UserId) (start ending : Moment) : Bool :=
  store.shifts.rows.any fun row =>
    row.shift.userId = some userId && row.shift.transferable &&
      row.shift.plannedStartTime.any fun first =>
        row.shift.plannedEndTime.any fun last =>
          (first ≤ start && start < last) || (first < ending && ending ≤ last) ||
            (start ≤ first && last ≤ ending)

def approvedExecutors : List UserId :=
  (store.staff.filter fun member =>
    member.user.status = .approved && legacyRoleFilter member.user ["executor"]).map (·.user.id)

def availableExecutorsForTemplate : List UserId :=
  match zone.wallClock day template.startHour template.startMinute with
  | none => []
  | some start =>
    let ending := start + template.durationHours * hourSeconds
    (store.staff.filter fun member =>
      member.user.status = .approved &&
        legacyRoleFilter member.user ["executor", "admin", "manager"] &&
        canExecutorWorkTemplate member.user template &&
        !isExecutorBusy store member.user.id start ending).map (·.user.id)

end

def PlannedShift.numbered (draft : PlannedShift) (id : ShiftId) : PlannedShift :=
  { draft with shift := { draft.shift with id } }

theorem numbered_id (draft : PlannedShift) (id : ShiftId) : (draft.numbered id).id = id := rfl

def PlannedShift.ownedBy (row : PlannedShift) (owner : UserId) : PlannedShift :=
  { row with shift := { row.shift with userId := row.shift.userId.or (some owner) } }

theorem ownedBy_id (owner : UserId) (row : PlannedShift) : (row.ownedBy owner).id = row.id := rfl

def insertDrafts (shifts : Table PlannedShift.id) : List PlannedShift → Table PlannedShift.id × List ShiftId
  | [] => (shifts, [])
  | draft :: rest =>
    let inserted := insertDrafts (shifts.insert draft.numbered (numbered_id draft)) rest
    (inserted.1, shifts.nextKey :: inserted.2)

def ownDrafts : List PlannedShift → List UserId → List PlannedShift
  | draft :: drafts, owner :: owners => draft.ownedBy owner :: ownDrafts drafts owners
  | drafts, _ => drafts

def ownShifts (shifts : Table PlannedShift.id) : List ShiftId → List UserId → Table PlannedShift.id
  | id :: ids, owner :: owners =>
    ownShifts (shifts.update (fun row => row.id = id) (·.ownedBy owner) (ownedBy_id owner)) ids
      owners
  | _, _ => shifts

structure Job where
  templateId : TemplateId
  day : CalendarDay
  executorIds : List TelegramId

/-- What comes after the call: other calls, and the schedule of the week. -/
structure PlanRun where
  jobs : List Job
  schedules : Bool

structure Creation where
  run : PlanRun
  job : Job
  template : ShiftTemplate

/-- The shifts that a call has created: in the session, in the database, or expunged by a
rollback and still in the list. -/
inductive Created where
  | pending (drafts : List PlannedShift)
  | stored (ids : List ShiftId)
  | lost

inductive PlanStage where
  | idle
  | planningWeek (startDate : CalendarDay) (templateIds : List TemplateId)
  | planningAhead (today : CalendarDay) (daysAhead : Int)
  | finding (run : PlanRun) (job : Job)
  | counting (creation : Creation)
  | listing (creation : Creation) (rest : List TelegramId) (drafts : List PlannedShift)
  | gathering (creation : Creation) (drafts : List PlannedShift)
  | assessing (creation : Creation) (rest : List PlannedShift) (created : Created)
  | auditing (creation : Creation) (created : Created)
  | fallingBack (creation : Creation) (created : Created)
  | committing (creation : Creation) (created : Created) (owners : List UserId)
  | scheduling
  | finished

def PlanRun.endJob (run : PlanRun) : PlanStage :=
  match run.jobs with
  | job :: rest => .finding { run with jobs := rest } job
  | [] => if run.schedules then .scheduling else .finished

/-- A statement raises: the session is rolled back; a plan reports it and goes on. -/
def PlanStage.raised : PlanStage → PlanStage
  | .finding run _ => run.endJob
  | .counting creation => creation.run.endJob
  | .listing creation _ _ => creation.run.endJob
  | .gathering creation _ => creation.run.endJob
  | .assessing creation _ _ => creation.run.endJob
  | .auditing creation _ => creation.run.endJob
  | .fallingBack creation _ => creation.run.endJob
  | .committing creation _ _ => creation.run.endJob
  | .idle => .idle
  | _ => .finished

section

variable (zone : BusinessZone) (suits : List PlannedShift → PlannedShift → Bool)
  (store : PlanStore)

def PlanStore.wanted (creation : Creation) : Nat :=
  if creation.job.executorIds.isEmpty then creation.template.minExecutors.toNat
  else (creation.job.executorIds.filterMap (eligible store creation.template)).length

def PlanStore.commitDrafts (creation : Creation) (drafts : List PlannedShift) : PlanStore :=
  { store with
    shifts := (insertDrafts store.shifts drafts).1
    batches := ⟨creation.job.templateId, creation.job.day, store.wanted creation,
      drafts.length⟩ :: store.batches }

def jobsOf (days : List CalendarDay) (fits : ShiftTemplate → CalendarDay → Bool) : List Job :=
  days.flatMap fun day =>
    (store.templates.rows.filter fun template =>
      template.isActive && template.autoCreate && fits template day).map fun template =>
        ⟨template.id, day, []⟩

def afterCount (creation : Creation) : PlanStage :=
  if creation.job.executorIds.isEmpty then
    match createSingleShift zone creation.template creation.job.day none with
    | none => creation.run.endJob
    | some draft =>
      let drafts := List.replicate creation.template.minExecutors.toNat draft
      if drafts.isEmpty then creation.run.endJob else .gathering creation drafts
  else .listing creation creation.job.executorIds []

/-- `suits` says whether the automatic assignment finds a candidate for a new shift, with a
score and without a conflict that blocks. -/
def performPlan : PlanStage → PlanStore × PlanStage
  | .planningWeek startDate templateIds =>
    let monday := startDate - weekday startDate
    let days := (List.range 7).map fun offset => monday + (offset : Int)
    let run : PlanRun := ⟨jobsOf store days fun template day =>
      (templateIds.isEmpty || templateIds.contains template.id) && template.isDateIncluded day,
      true⟩
    (store, run.endJob)
  | .planningAhead today daysAhead =>
    let days := (List.range daysAhead.toNat).map fun offset => today + (offset : Int)
    let run : PlanRun := ⟨jobsOf store days fun template day =>
      template.isDateIncluded day && day - today ≤ template.advanceDays, false⟩
    (store, run.endJob)
  | .finding run job =>
    match (store.templates.find? job.templateId).filter (·.isActive) with
    | none => (store, run.endJob)
    | some template =>
      if template.isDateIncluded job.day then (store, .counting ⟨run, job, template⟩)
      else (store, run.endJob)
  | .counting creation =>
    if existingShifts zone store creation.job.day creation.job.templateId > 0 then
      (store, creation.run.endJob)
    else (store, afterCount zone creation)
  | .listing creation (telegramId :: rest) drafts =>
    match eligible store creation.template telegramId with
    | none => (store, .listing creation rest drafts)
    | some user =>
      let made := createSingleShift zone creation.template creation.job.day (some user.id)
      (store, .listing creation rest (drafts ++ made.toList))
  | .listing creation [] drafts =>
    if drafts.isEmpty then (store, creation.run.endJob)
    else (store, .committing creation (.pending drafts) [])
  | .gathering creation drafts =>
    if (approvedExecutors store).isEmpty then (store, .fallingBack creation (.pending drafts))
    else (store, .assessing creation drafts (.pending drafts))
  | .assessing creation (draft :: rest) created =>
    if suits store.shifts.rows draft then (store, .assessing creation rest .lost)
    else (store, .assessing creation rest created)
  | .assessing creation [] created => (store, .auditing creation created)
  | .auditing creation (.pending drafts) =>
    (store.commitDrafts creation drafts,
      .fallingBack creation (.stored (insertDrafts store.shifts drafts).2))
  | .auditing creation created => (store, .fallingBack creation created)
  | .fallingBack creation created =>
    (store, .committing creation created
      (availableExecutorsForTemplate zone store creation.template creation.job.day))
  | .committing creation (.pending drafts) owners =>
    (store.commitDrafts creation (ownDrafts drafts owners), creation.run.endJob)
  | .committing creation (.stored ids) owners =>
    ({ store with shifts := ownShifts store.shifts ids owners }, creation.run.endJob)
  | .committing creation .lost _ => (store, creation.run.endJob)
  | .scheduling => (store, .finished)
  | .idle => (store, .idle)
  | .finished => (store, .finished)

end

/-- A planner, and which of its next statements the database refuses. -/
structure Planner where
  stage : PlanStage
  faults : List Bool

inductive PlanCall where
  | createShiftFromTemplate (job : Job) (faults : List Bool)
  | planWeeklySchedule (startDate : CalendarDay) (templateIds : List TemplateId)
      (faults : List Bool)
  | autoCreateShifts (today : CalendarDay) (daysAhead : Int) (faults : List Bool)

def PlanCall.start : PlanCall → Planner
  | .createShiftFromTemplate job faults => ⟨.finding ⟨[], false⟩ job, faults⟩
  | .planWeeklySchedule startDate templateIds faults => ⟨.planningWeek startDate templateIds, faults⟩
  | .autoCreateShifts today daysAhead faults => ⟨.planningAhead today daysAhead, faults⟩

def Planner.free (planner : Planner) : Bool :=
  match planner.stage with
  | .idle => true
  | .finished => true
  | _ => false

def performPlanner (zone : BusinessZone) (suits : List PlannedShift → PlannedShift → Bool)
    (store : PlanStore) (planner : Planner) : PlanStore × Planner :=
  if planner.faults.head? = some true then (store, ⟨planner.stage.raised, planner.faults.tail⟩)
  else
    let performed := performPlan zone suits store planner.stage
    (performed.1, ⟨performed.2, planner.faults.tail⟩)

/-- No statement waits for another planner: nothing is locked. -/
def planProgram (zone : BusinessZone) (suits : List PlannedShift → PlannedShift → Bool) :
    Program PlanStore Planner PlanCall LockKey where
  idle := ⟨.idle, []⟩
  start := PlanCall.start
  free := Planner.free
  perform := performPlanner zone suits
  locks := fun _ => []
  idle_unlocked := rfl
  start_unlocked := fun _ => rfl

end InfrasafeBot.Shifts
