import InfrasafeBot.Library.Machine
import InfrasafeBot.WorkflowRefinement

/-! Runs of commands: any calls, by any principals and for any requests, each
committed or rolled back. A law that every move keeps holds along every run. -/

set_option autoImplicit false

namespace InfrasafeBot.WorkflowRuns

open Library Machine RequestWorkflow WebhookSender WorkflowRunner RequestLifecycle
  WorkflowOperations WorkflowRefinement

variable (deployment : Deployment) {db : Database} {number : RequestNumber}

def runCalls (deployment : Deployment) (db : Database) (calls : List Call) : Database :=
  run (commit deployment) db calls

theorem runCalls_append (first second : List Call) :
    runCalls deployment db (first ++ second) =
      runCalls deployment (runCalls deployment db first) second :=
  run_append (commit deployment) db first second

theorem runCalls_concat (calls : List Call) (last : Call) :
    runCalls deployment db (calls ++ [last]) =
      commit deployment (runCalls deployment db calls) last :=
  run_concat (commit deployment) db calls last

def succeededAction (deployment : Deployment) (db : Database) (call : Call) : Option Action :=
  match readUnderLock db call, runCommand deployment db call with
  | .ok reading, .ok _ => some reading.command.action
  | _, _ => none

theorem move_of_succeeded {call : Call} {action : Action}
    (succeeded : succeededAction deployment db call = some action)
    (effective : action ≠ .managerConfirm ∧ action ≠ .systemDispatchAssign) :
    ∃ reading changed, reading.command.action = action ∧
      Move deployment db call reading changed (commit deployment db call) := by
  unfold succeededAction at succeeded
  cases read : readUnderLock db call with
  | error error => simp [read] at succeeded
  | ok reading =>
    cases ran : runCommand deployment db call with
    | error error => simp [read, ran] at succeeded
    | ok result =>
      obtain ⟨outcome, committed⟩ := result
      simp only [read, ran, Option.some.injEq] at succeeded
      have committed_eq : commit deployment db call = committed := by
        unfold commit
        rw [ran]
      rw [committed_eq]
      obtain ⟨found, located, ⟨_, silent, _⟩ | ⟨changed, move, _⟩⟩ := runCommand_cases ran
      · have same := readUnderLock_eq_ok_iff.mpr located
        rw [read] at same
        cases same
        rcases silent.1 with ⟨confirms, _⟩ | ⟨dispatches, _⟩
        · exact absurd (succeeded.symm.trans confirms) effective.1
        · exact absurd (succeeded.symm.trans dispatches) effective.2
      · have same := readUnderLock_eq_ok_iff.mpr located
        rw [read] at same
        cases same
        exact ⟨reading, changed, succeeded, move⟩

theorem commit_cases (db : Database) (call : Call) (number : RequestNumber) :
    about (commit deployment db call) number = about db number ∨
      call.requestNumber = number ∧
        ∃ reading changed, Move deployment db call reading changed (commit deployment db call) ∧
          succeededAction deployment db call = some reading.command.action := by
  unfold commit succeededAction
  cases ran : runCommand deployment db call with
  | error error => exact .inl rfl
  | ok result =>
    obtain ⟨outcome, committed⟩ := result
    obtain ⟨reading, read, ⟨_, _, same⟩ | ⟨changed, move, _⟩⟩ := runCommand_cases ran
    · exact .inl (congrArg (about · number) same)
    · by_cases concerned : call.requestNumber = number
      · rw [readUnderLock_eq_ok_iff.mpr read]
        exact .inr ⟨concerned, reading, changed, move, rfl⟩
      · exact .inl (move.others number fun same => concerned same.symm)

theorem card_preserved (law : Card → Prop)
    (preserved : ∀ {action card next}, Step action card next → law card → law next)
    {card : Card} (placed : cardAt db number = some card) (held : law card) (call : Call) :
    ∃ next, cardAt (commit deployment db call) number = some next ∧ law next := by
  rcases commit_cases deployment db call number with
    same | ⟨rfl, reading, changed, move, _⟩
  · exact ⟨card, (cardAt_eq_of_about same).trans placed, held⟩
  · have before := move.card_before.symm.trans placed
    cases before
    exact ⟨_, move.card_after, preserved move.step held⟩

theorem card_invariant (law : Card → Prop)
    (preserved : ∀ {action card next}, Step action card next → law card → law next)
    {card : Card} (placed : cardAt db number = some card) (held : law card)
    (calls : List Call) :
    ∃ next, cardAt (runCalls deployment db calls) number = some next ∧ law next := by
  refine run_invariant (commit deployment)
    (fun state => ∃ next, cardAt state number = some next ∧ law next) ⟨card, placed, held⟩ ?_ calls
  intro state call ⟨current, at_, kept⟩
  exact card_preserved deployment law preserved at_ kept call

/-- A walk of the lifecycle by some actions. -/
def Walk : List Action → Card → Card → Prop
  | [], card, last => card = last
  | action :: rest, card, last => ∃ next, Step action card next ∧ Walk rest next last

section

variable (number : RequestNumber) (db : Database)

/-- The action of a call that changes the request. -/
def appliedAction (call : Call) : Option Action :=
  match readUnderLock db call, runCommand deployment db call with
  | .ok reading, .ok (outcome, _) =>
    if call.requestNumber = number && !outcome.noOp then some reading.command.action else none
  | _, _ => none

def appliedActions (db : Database) : List Call → List Action
  | [] => []
  | call :: rest => (appliedAction deployment number db call).toList ++
    appliedActions (commit deployment db call) rest

theorem call_walks (call : Call) :
    cardAt (commit deployment db call) number = cardAt db number ∧
        appliedAction deployment number db call = none ∨
      ∃ action card next, appliedAction deployment number db call = some action ∧
        cardAt db number = some card ∧ Step action card next ∧
          cardAt (commit deployment db call) number = some next := by
  unfold commit appliedAction
  cases ran : runCommand deployment db call with
  | error error => exact .inl ⟨rfl, by cases readUnderLock db call <;> rfl⟩
  | ok result =>
    obtain ⟨outcome, committed⟩ := result
    obtain ⟨reading, read, ⟨silent, _, rfl⟩ | ⟨changed, move, answered⟩⟩ := runCommand_cases ran
    all_goals rw [readUnderLock_eq_ok_iff.mpr read]
    · exact .inl ⟨rfl, by simp [silent]⟩
    · have applied : outcome.noOp = false := congrArg (·.noOp) answered
      by_cases concerned : call.requestNumber = number
      · subst concerned
        exact .inr ⟨_, _, _, by simp [applied], move.card_before, move.step, move.card_after⟩
      · refine .inl ⟨cardAt_eq_of_about (move.others number fun same => concerned same.symm), ?_⟩
        simp [concerned]

/-- Whatever calls are made, a request walks its lifecycle by the actions that are applied to it;
refused calls, silent repeats and the calls of other requests are no steps. -/
theorem runs_walk_lifecycle (calls : List Call) :
    Option.Rel (Walk (appliedActions deployment number db calls))
      (cardAt db number) (cardAt (runCalls deployment db calls) number) := by
  induction calls generalizing db with
  | nil =>
    change Option.Rel _ (cardAt db number) (cardAt db number)
    cases cardAt db number with
    | none => exact .none
    | some card => exact .some rfl
  | cons call rest ih =>
    have later := ih (commit deployment db call)
    change Option.Rel _ _ (cardAt (runCalls deployment (commit deployment db call) rest) number)
    generalize cardAt (runCalls deployment (commit deployment db call) rest) number = last at later ⊢
    rw [appliedActions]
    rcases call_walks deployment number db call with
      ⟨same, silent⟩ | ⟨action, card, next, applied, placed, step, moved⟩
    · rw [silent, ← same]
      exact later
    · rw [moved] at later
      rw [applied, placed]
      cases later with
      | some walk => exact .some ⟨next, step, walk⟩

end

/-- A request as its creation leaves it. -/
structure FreshRequest (db : Database) (number : RequestNumber) (row : Request) : Prop where
  stored : db.requests.find? number = some row
  status : row.status = .new
  unconfirmed : row.managerConfirmed = false
  unreturned : row.isReturned = false
  executor : row.executorId = none
  group : row.assignedGroup = none
  type : row.assignmentType = none
  unassigned : ∀ assignment ∈ db.assignments.rows, assignment.requestNumber ≠ number

theorem FreshRequest.created (number : RequestNumber) (owner : UserId)
    (apartment : Option ApartmentId) (acceptance : AcceptanceMode) :
    FreshRequest (.ofRequest (.created number owner apartment acceptance)) number
      (.created number owner apartment acceptance) where
  stored := by simp [Database.ofRequest, Table.find?, Request.created]
  status := rfl
  unconfirmed := rfl
  unreturned := rfl
  executor := rfl
  group := rfl
  type := rfl
  unassigned := by simp [Database.ofRequest, Table.empty]

theorem FreshRequest.active {row : Request} (fresh : FreshRequest db number row) :
    (cardOf db row).active = [] := by
  have key : row.requestNumber = number := Table.key_of_find? fresh.stored
  simp only [cardOf, WorkflowPatches.rowCard, activeOf, key, List.map_eq_nil_iff, List.filter_eq_nil_iff]
  intro assignment member active
  exact fresh.unassigned assignment member (requestNumber_of_isActiveOf active)

theorem FreshRequest.canonical {row : Request} (fresh : FreshRequest db number row) :
    Canonical (cardOf db row) := by
  refine .of_unmarked ?_ ⟨fresh.unconfirmed, fresh.unreturned⟩
  have new : (cardOf db row).status = .new := fresh.status
  rw [new]
  decide

theorem FreshRequest.coherent {row : Request} (fresh : FreshRequest db number row) :
    Coherent (cardOf db row) where
  single := by simp [fresh.active]
  working := by
    have new : (cardOf db row).status = .new := fresh.status
    simp [new]
  individual := by simp [fresh.active]
  group := by simp [fresh.active]
  vacant := fun _ _ => fresh.executor

def userCall (directory : Directory) (now : Moment) (number : RequestNumber) (user : UserId)
    (action : Action) (payload : Payload) : Call where
  requestNumber := number
  principal := ⟨.user, some user, "api", none, user_systemNamed, user_userKnown user⟩
  command := .action ⟨"command", action, payload⟩
  now
  directory

def sampleDirectory : Directory where
  users := ⟨[⟨7, 70, none, none, none, none, none⟩,
    ⟨1, 10, some "manager", none, none, none, none⟩,
    ⟨2, 20, some "executor", none, none, none, none⟩], by decide⟩
  userApartments := []
  shifts := []
  clock := 0

def sampleRequest (acceptance : AcceptanceMode) : Request := .created "250101-001" 7 none acceptance

/-- The name-based UUID of the first status change of the sample request; the other
names, whose UUIDs no sample run needs, stand for themselves. -/
def sampleUuid5 (name : String) : String :=
  if name = "dev:request.status_changed:250101-001:1" then "6c403697-2ab3-56a2-8be5-9f40c5a81ca5"
  else "uuid5:" ++ name

theorem sampleUuid5_injective : Function.Injective sampleUuid5 := by
  have apart : ∀ name : String, "6c403697-2ab3-56a2-8be5-9f40c5a81ca5" ≠ "uuid5:" ++ name := by
    intro name same
    have chars := congrArg String.toList same
    simp at chars
  intro first second same
  unfold sampleUuid5 at same
  split at same <;> split at same
  · next left right => exact left.trans right.symm
  · exact absurd same (apart second)
  · exact absurd same.symm (apart first)
  · have chars := congrArg String.toList same
    exact String.toList_inj.mp (by simpa using chars)

def sampleDeployment : Deployment := ⟨true, "dev", 0, sampleUuid5⟩

end InfrasafeBot.WorkflowRuns
