import Mathlib.Data.String.Basic
import InfrasafeBot.AutoManager.RuleEngine
import InfrasafeBot.AutoManagerQueue

/-! One tick of the auto-manager: the two queues, an executor on duty for each request
taken, the commands that assign them, and what is to be sent afterwards
(`services/auto_manager/orchestrator.py`). Moments and times of day are in microseconds. -/

set_option autoImplicit false

namespace InfrasafeBot.AutoManager

open Library RequestWorkflow AutoManagerQueue

def minutes (count : Nat) : Moment := count * 60000000

def retryCooldown : Moment := minutes 15

def notifyTtl : Moment := minutes (12 * 60)

theorem auto_manager_named : ActorKind.system = .system → (some "auto_manager").getD "" ≠ "" := by
  decide

theorem auto_manager_user : ActorKind.system = .user → (none : Option UserId).isSome = true := nofun

def autoManagerPrincipal : PrincipalRef :=
  ⟨.system, none, "auto_manager", some "auto_manager", auto_manager_named, auto_manager_user⟩

structure ExecutorNotifyJob where
  telegramId : Int
  language : String
  requestNumber : RequestNumber
  category : String
  address : String

structure ManagerNotifyJob where
  recipients : List (Int × String)
  requestNumber : RequestNumber
  specialization : Option String

structure TickPlan where
  kanbanRefreshes : List RequestNumber
  executorNotifies : List ExecutorNotifyJob
  managerNotifies : List ManagerNotifyJob

structure Intake where
  createdAt : Moment
  category : String
  address : Option String

/-- What a tick finds in the tables it only reads, and the clock of the server when the
command for a request runs. -/
structure Surroundings where
  deployment : WebhookSender.Deployment
  roster : Roster
  userApartments : List WorkflowRunner.UserApartment
  intake : RequestNumber → Intake
  clock : RequestNumber → Moment

structure Config where
  enabled : Bool
  windowStart : Int
  windowEnd : Int
  /-- The time of day in the zone of the config. -/
  localTime : Moment → Int
  maxRequestsPerRun : Nat

def Config.isWindowActive (config : Config) (now : Moment) : Bool :=
  let time := config.localTime now
  if config.windowStart = config.windowEnd then true
  else if config.windowStart < config.windowEnd then config.windowStart ≤ time && time < config.windowEnd
  else config.windowStart ≤ time || time < config.windowEnd

structure Orchestrator where
  queues : AutoManager RequestNumber
  notified : RequestNumber → Option Moment

/-- The state of a tick. `processed` lists the requests that `_process_item` has been called
for; the code does not keep it. -/
structure Tick where
  database : Database
  queues : AutoManager RequestNumber
  notified : RequestNumber → Option Moment
  managersCache : Option (List (Int × String))
  snapshot : DutySnapshot
  plan : TickPlan
  processed : List RequestNumber

structure QueueItem where
  queue : Queue
  requestNumber : RequestNumber
  category : String
  address : Option String
  assignedGroup : Option String

theorem accounts_unique (roster : Roster) :
    ((roster.users.rows.map (·.toUser)).map WorkflowRunner.User.id).Nodup := by
  rw [List.map_map]
  exact roster.users.unique

def Roster.accounts (roster : Roster) : Table WorkflowRunner.User.id :=
  ⟨roster.users.rows.map (·.toUser), accounts_unique roster⟩

def Surroundings.directory (surroundings : Surroundings) (number : RequestNumber) :
    WorkflowRunner.Directory where
  users := surroundings.roster.accounts
  userApartments := surroundings.userApartments
  shifts := surroundings.roster.shifts.map (·.toShift)
  clock := surroundings.clock number

def queuedRow (surroundings : Surroundings) (row : Request) : QueuedRequest RequestNumber where
  requestNumber := row.requestNumber
  createdAt := (surroundings.intake row.requestNumber).createdAt
  status := row.status
  executorId := row.executorId
  assignmentType := row.assignmentType

theorem queuedRow_unique (surroundings : Surroundings) (db : Database) :
    ((db.requests.rows.map (queuedRow surroundings)).map (·.requestNumber)).Nodup := by
  rw [List.map_map]
  exact db.requests.unique

def queuedRequests (surroundings : Surroundings) (db : Database) : Requests RequestNumber :=
  ⟨db.requests.rows.map (queuedRow surroundings), queuedRow_unique surroundings db⟩

def itemOf (surroundings : Surroundings) (db : Database) (queue : Queue)
    (row : QueuedRequest RequestNumber) : QueueItem where
  queue
  requestNumber := row.requestNumber
  category := (surroundings.intake row.requestNumber).category
  address := (surroundings.intake row.requestNumber).address
  assignedGroup := (db.requests.find? row.requestNumber).bind (·.assignedGroup)

def categoryToSpecialization : List (String × String) :=
  [("electricity", "electrician"), ("plumbing", "plumber"), ("heating", "heating"),
    ("ventilation", "ventilation"), ("elevator", "elevator"), ("cleaning", "cleaning"),
    ("landscaping", "landscaping"), ("security", "security"), ("internet", "electrician"),
    ("repair", "repair"), ("other", "repair"), ("Сантехника", "plumber"),
    ("Электрика", "electrician"), ("Благоустройство", "landscaping"), ("Уборка", "cleaning"),
    ("Безопасность", "security"), ("Охрана", "security"), ("Ремонт", "repair"),
    ("Установка", "repair"), ("Обслуживание", "elevator"), ("HVAC", "heating"),
    ("Отопление", "heating"), ("Вентиляция", "ventilation"), ("Лифт", "elevator"),
    ("Интернет/ТВ", "electrician"), ("Другое", "repair")]

def getSpecializationForCategory (category : String) : String :=
  (categoryToSpecialization.lookup category).getD "repair"

def QueueItem.specialization (item : QueueItem) : Option String :=
  match item.queue with
  | .main => item.assignedGroup
  | .residual => some (getSpecializationForCategory item.category)

def User.languageOrDefault (user : User) : String :=
  match user.language with
  | some language => if language = "" then "ru" else language
  | none => "ru"

def managerRecipients (roster : Roster) : List (Int × String) :=
  ((listApprovedUsers roster).filter fun user =>
    user.hasRole roleManager && user.telegramId ≠ 0).map fun user =>
      (user.telegramId, user.languageOrDefault)

def Tick.queueExecutorNotify (tick : Tick) (candidate : User) (item : QueueItem) : Tick :=
  let job : ExecutorNotifyJob :=
    { telegramId := candidate.telegramId
      language := candidate.languageOrDefault
      requestNumber := item.requestNumber
      category := item.category
      address := item.address.getD "" }
  { tick with plan := { tick.plan with executorNotifies := tick.plan.executorNotifies ++ [job] } }

def Tick.refreshKanban (tick : Tick) (item : QueueItem) : Tick :=
  { tick with
    plan := { tick.plan with kanbanRefreshes := tick.plan.kanbanRefreshes ++ [item.requestNumber] } }

def recentlyNotified (notified : Option Moment) (now : Moment) : Bool :=
  notified.any fun last => now - last < notifyTtl

def Tick.queueManagerNotify (surroundings : Surroundings) (now : Moment) (tick : Tick)
    (item : QueueItem) : Tick :=
  if recentlyNotified (tick.notified item.requestNumber) now then tick
  else
    let recipients := tick.managersCache.getD (managerRecipients surroundings.roster)
    let job : ManagerNotifyJob := ⟨recipients, item.requestNumber, item.specialization⟩
    { tick with
      managersCache := some recipients
      plan := { tick.plan with managerNotifies := tick.plan.managerNotifies ++ [job] }
      notified := Function.update tick.notified item.requestNumber (some now) }

def DutySnapshot.bumpLoad (snapshot : DutySnapshot) (executor : UserId) : DutySnapshot :=
  { snapshot with
    loadByUser := Function.update snapshot.loadByUser executor (snapshot.loadByUser executor + 1) }

def Tick.coolDown (now : Moment) (tick : Tick) (item : QueueItem) : Tick :=
  { tick with
    queues := { tick.queues with
      retryAfter := Function.update tick.queues.retryAfter item.requestNumber
        (some (now + retryCooldown)) } }

def Tick.withoutDuty (surroundings : Surroundings) (now : Moment) (tick : Tick) (item : QueueItem) : Tick :=
  (tick.coolDown now item).queueManagerNotify surroundings now item

def Tick.assigned (tick : Tick) (item : QueueItem) (candidate : User) (committed : Database) : Tick :=
  ({ tick with database := committed, snapshot := tick.snapshot.bumpLoad candidate.id
      }.refreshKanban item).queueExecutorNotify candidate item

def commandCall (surroundings : Surroundings) (now : Moment) (item : QueueItem) (action : Action)
    (payload : Payload) : WorkflowRunner.Call where
  requestNumber := item.requestNumber
  principal := autoManagerPrincipal
  command := .action ⟨s!"auto_manager:{item.requestNumber}", action, payload⟩
  now
  directory := surroundings.directory item.requestNumber

/-- `except (WorkflowError, RequestNotFound)`: a missing system user and a foreign key that the
database refuses are raised further. -/
def isWorkflowError : WorkflowError → Bool
  | .other message => message.startsWith "promote_group_assignment: "
  | _ => true

def assignCandidate (surroundings : Surroundings) (now : Moment) (tick : Tick) (item : QueueItem)
    (action : Action) (candidate : User) : Except WorkflowError Unit × Tick :=
  match WorkflowRunner.runCommand surroundings.deployment tick.database
      (commandCall surroundings now item action [("executor_id", .int candidate.id)]) with
  | .ok (_, committed) => (.ok (), tick.assigned item candidate committed)
  | .error error => (if isWorkflowError error then .ok () else .error error, tick)

def processMainItem (surroundings : Surroundings) (now : Moment) (tick : Tick)
    (item : QueueItem) : Except WorkflowError Unit × Tick :=
  match selectExecutor tick.snapshot item.specialization [] with
  | none => (.ok (), tick.withoutDuty surroundings now item)
  | some candidate => assignCandidate surroundings now tick item .systemAutoPromote candidate

def offerToGroup (surroundings : Surroundings) (now : Moment) (tick : Tick) (item : QueueItem) :
    Except WorkflowError Unit × Tick :=
  match WorkflowRunner.runCommand surroundings.deployment tick.database
      (commandCall surroundings now item .assignGroup
        [("group", .ofOption .str item.specialization)]) with
  | .ok (_, committed) =>
    (.ok (), ({ tick with database := committed }.refreshKanban item).withoutDuty surroundings now item)
  | .error error =>
    if isWorkflowError error then (.ok (), tick.withoutDuty surroundings now item)
    else (.error error, tick)

def processResidualItem (surroundings : Surroundings) (now : Moment) (tick : Tick)
    (item : QueueItem) : Except WorkflowError Unit × Tick :=
  match selectExecutor tick.snapshot item.specialization [] with
  | none => offerToGroup surroundings now tick item
  | some candidate => assignCandidate surroundings now tick item .systemDispatchAssign candidate

def processItem (surroundings : Surroundings) (now : Moment) (tick : Tick) (item : QueueItem) :
    Except WorkflowError Unit × Tick :=
  let tick := { tick with processed := tick.processed ++ [item.requestNumber] }
  match item.queue with
  | .main => processMainItem surroundings now tick item
  | .residual => processResidualItem surroundings now tick item

def processItems (surroundings : Surroundings) (now : Moment) :
    List QueueItem → Tick → Except WorkflowError Unit × Tick
  | [], tick => (.ok (), tick)
  | item :: rest, tick =>
    match processItem surroundings now tick item with
    | (.ok (), next) => processItems surroundings now rest next
    | (.error error, next) => (.error error, next)

def processQueue (surroundings : Surroundings) (now : Moment) (queue : Queue) (slots : Nat)
    (tick : Tick) : Except WorkflowError Unit × Tick :=
  let taken := takenOf (queuedRequests surroundings tick.database) tick.queues now queue slots
  let items := taken.map (itemOf surroundings tick.database queue)
  match processItems surroundings now items tick, taken.getLast? with
  | (.ok (), next), some last => (.ok (), { next with queues := next.queues.setCursor queue (rowKey last) })
  | (outcome, next), _ => (outcome, next)

def Orchestrator.pruneExpired (orchestrator : Orchestrator) (now : Moment) : Orchestrator where
  queues := { orchestrator.queues with
    retryAfter := fun number => (orchestrator.queues.retryAfter number).filter (now < ·) }
  notified := fun number => (orchestrator.notified number).filter fun last => now - last < notifyTtl

/-- The residual queue has at most what the main queue leaves, and at least one slot of two. -/
def residualSlots (limit : Nat) (hasResidual : Bool) : Nat :=
  if hasResidual then min (max 1 (limit / 4)) (limit - 1) else 0

def hasResidual (db : Database) (surroundings : Surroundings) : Bool :=
  (queuedRequests surroundings db).rows.any residualQueueFilter

def startTick (surroundings : Surroundings) (now : Moment) (db : Database)
    (orchestrator : Orchestrator) : Tick where
  database := db
  queues := (orchestrator.pruneExpired now).queues
  notified := (orchestrator.pruneExpired now).notified
  managersCache := none
  snapshot := buildDutySnapshot surroundings.roster db now
  plan := ⟨[], [], []⟩
  processed := []

def processQueues (surroundings : Surroundings) (now : Moment) (mainSlots residualSlots : Nat)
    (tick : Tick) : Except WorkflowError Unit × Tick :=
  let afterMain :=
    if 0 < mainSlots then processQueue surroundings now .main mainSlots tick else (.ok (), tick)
  match afterMain with
  | (.ok (), next) =>
    if 0 < residualSlots then processQueue surroundings now .residual residualSlots next
    else (.ok (), next)
  | (.error error, next) => (.error error, next)

def dbPhase (surroundings : Surroundings) (config : Config) (now : Moment) (db : Database)
    (orchestrator : Orchestrator) : Option (Except WorkflowError Unit × Tick) :=
  if !config.enabled || !config.isWindowActive now then none
  else
    let limit := config.maxRequestsPerRun
    let reserved := residualSlots limit (hasResidual db surroundings)
    some (processQueues surroundings now (limit - reserved) reserved
      (startTick surroundings now db orchestrator))

section

variable {surroundings : Surroundings} {now : Moment} {holds : Tick → Prop} {tick : Tick}

theorem processItems_keeps {items : List QueueItem} (held : holds tick)
    (each : ∀ tick, ∀ item ∈ items, holds tick → holds (processItem surroundings now tick item).2) :
    holds (processItems surroundings now items tick).2 := by
  induction items generalizing tick with
  | nil => exact held
  | cons item rest ih =>
    have stepped := each tick item List.mem_cons_self held
    unfold processItems
    cases reached : processItem surroundings now tick item with
    | mk outcome next =>
      rw [reached] at stepped
      cases outcome with
      | ok value =>
        refine ih stepped ?_
        intro tick later listed
        exact each tick later (List.mem_cons_of_mem _ listed)
      | error error => exact stepped

variable (moves : ∀ tick queue cursor, holds tick →
    holds { tick with queues := tick.queues.setCursor queue cursor })
  (each : ∀ tick item, holds tick → holds (processItem surroundings now tick item).2)

include moves each

theorem processQueue_keeps {queue : Queue} {slots : Nat} (held : holds tick) :
    holds (processQueue surroundings now queue slots tick).2 := by
  unfold processQueue
  dsimp only
  generalize takenOf (queuedRequests surroundings tick.database) tick.queues now queue slots = taken
  have looped := @processItems_keeps surroundings now holds tick
    (taken.map (itemOf surroundings tick.database queue)) held fun tick item _ => each tick item
  cases reached : processItems surroundings now
      (taken.map (itemOf surroundings tick.database queue)) tick with
  | mk outcome next =>
    rw [reached] at looped
    cases taken.getLast? with
    | none => cases outcome <;> exact looped
    | some last =>
      cases outcome with
      | ok value => exact moves next queue _ looped
      | error error => exact looped

end

end InfrasafeBot.AutoManager
