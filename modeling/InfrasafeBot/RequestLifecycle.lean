import InfrasafeBot.RequestWorkflow.Specs

/-! The life of one request, apart from how it is stored: who holds it, which
steps move it, and the laws every step keeps. -/

set_option autoImplicit false

namespace InfrasafeBot.RequestLifecycle

open RequestWorkflow

structure Holding where
  type : AssignmentType
  executor : Option UserId
  group : Option String
  deriving DecidableEq

def Holding.unclaimed (holding : Holding) : Bool := holding.type = .group && holding.executor.isNone

structure Card where
  status : RequestStatus
  confirmed : Bool
  returned : Bool
  acceptance : AcceptanceMode
  executor : Option UserId
  assignmentType : Option AssignmentType
  group : Option String
  active : List Holding
  completedAt : Option Moment
  ratings : Nat
  version : Nat

namespace Card

def canon (card : Card) : RequestStatus :=
  if card.status = .completed ∧ card.returned = true then .returned
  else if card.status = .executed ∧ card.confirmed = true ∧ card.returned = false then .completed
  else card.status

def moveTo (card : Card) (status : RequestStatus) : Card :=
  { card with
    status
    version := if status = card.status then card.version else card.version + 1 }

def heldBy (card : Card) (executor : UserId) : Card :=
  { card with
    executor := some executor
    assignmentType := some .individual
    group := none
    active := [⟨.individual, some executor, none⟩] }

def offeredTo (card : Card) (group : String) : Card :=
  { card with
    executor := none
    assignmentType := some .group
    group := some group
    active := [⟨.group, none, some group⟩] }

def takenBy (card : Card) (executor : UserId) : Card :=
  { card with
    executor := some executor
    assignmentType := some .individual
    group := none
    active := card.active.map fun holding =>
      if holding.unclaimed then { holding with type := .individual, executor := some executor }
      else holding }

end Card

/-- The moves of a request, by the action that makes them. -/
inductive Step : Action → Card → Card → Prop where
  | assign {action : Action} {card : Card} (executor : UserId)
      (starts : action = .systemDispatchAssign ∧ card.canon ∈ [RequestStatus.new] ∨
        action = .managerAssign ∧ card.canon ∈ [RequestStatus.new, .inProgress]) :
      Step action card ((card.moveTo .inProgress).heldBy executor)
  | offer {card : Card} (group : String) (starts : card.canon ∈ [RequestStatus.new]) :
      Step .assignGroup card ((card.moveTo .new).offeredTo group)
  | take {action : Action} {card : Card} (executor : UserId)
      (takes : action = .executorClaim ∨ action = .systemAutoPromote)
      (starts : card.canon ∈ [RequestStatus.new, .inProgress])
      (only : card.active.countP Holding.unclaimed = 1) :
      Step action card ((card.moveTo .inProgress).takenBy executor)
  | park {action : Action} {card : Card} {target : RequestStatus}
      (starts : action = .executorPurchase ∧ card.canon ∈ [RequestStatus.inProgress] ∧ target = .purchase ∨
        action = .managerPurchase ∧ card.canon ∈ [RequestStatus.new, .inProgress] ∧ target = .purchase ∨
        action = .clarifyRequest ∧
          card.canon ∈ [RequestStatus.new, .inProgress, .purchase] ∧
          target = .clarification) :
      Step action card (card.moveTo target)
  | resume {action : Action} {card : Card}
      (starts : action = .managerPurchaseDone ∧ card.canon ∈ [RequestStatus.purchase] ∨
        action = .clarifyResolved ∧ card.canon ∈ [RequestStatus.clarification] ∨
        action = .executorResume ∧ card.canon ∈ [RequestStatus.purchase, .clarification])
      (held : card.executor.isSome = true) :
      Step action card (card.moveTo .inProgress)
  | complete {action : Action} {card : Card}
      (starts : action = .executorComplete ∧ card.canon ∈ [RequestStatus.inProgress] ∨
        action = .managerComplete ∧ card.canon ∈ [RequestStatus.inProgress, .purchase, .clarification]) :
      Step action card { card.moveTo .executed with returned := false }
  | confirm {card : Card} (starts : card.canon ∈ [RequestStatus.executed])
      (mode : card.acceptance = .resident) :
      Step .managerConfirm card
        { card.moveTo .completed with confirmed := true, returned := false }
  | confirmFinally {card : Card} (moment : Moment)
      (starts : card.canon ∈ [RequestStatus.executed]) (mode : card.acceptance = .manager) :
      Step .managerConfirm card
        { card.moveTo .approved with confirmed := true, returned := false, completedAt := some moment }
  | sendBack {card : Card}
      (starts : card.canon ∈ [RequestStatus.executed, .returned, .completed])
      (held : card.executor.isSome = true) :
      Step .managerReturnToWork card
        { card.moveTo .inProgress with confirmed := false, returned := false }
  | accept {card : Card} (moment : Moment) (starts : card.canon ∈ [RequestStatus.completed])
      (mode : card.acceptance = .resident) :
      Step .applicantAccept card
        { card.moveTo .approved with completedAt := some moment, ratings := card.ratings + 1 }
  | dispute {card : Card} (starts : card.canon ∈ [RequestStatus.completed])
      (mode : card.acceptance = .resident) :
      Step .applicantReturn card
        { card.moveTo .returned with confirmed := false, returned := true }
  | forceAccept {card : Card} (moment : Moment)
      (starts : card.canon ∈ [RequestStatus.completed, .returned]) :
      Step .managerForceAccept card
        { card.moveTo .approved with completedAt := some moment, returned := false }
  | cancel {card : Card}
      (starts : card.canon ∈ canonStatuses.filter fun status => !terminalStatuses.contains status) :
      Step .cancel card { card.moveTo .cancelled with active := [] }

structure Canonical (card : Card) : Prop where
  known : card.status ∈ canonStatuses
  confirmed : card.confirmed = true → card.status ∈ [RequestStatus.completed, .approved, .cancelled]
  returned : card.returned = true → card.status ∈ [RequestStatus.returned, .cancelled]

variable {card next : Card} {action : Action}

theorem Canonical.canon_eq (canonical : Canonical card) : card.canon = card.status := by
  unfold Card.canon
  split
  · next both =>
      have misplaced := canonical.returned both.2
      simp [both.1] at misplaced
  · split
    · next both =>
        have misplaced := canonical.confirmed both.2.1
        simp [both.1] at misplaced
    · rfl

/-- The flags agree with the decoded status, as in both older encodings. -/
structure Decodable (card : Card) : Prop where
  confirmed : card.confirmed = true →
    card.canon ∈ [RequestStatus.completed, .returned, .approved, .cancelled]
  returned : card.returned = true → card.canon ∈ [RequestStatus.returned, .cancelled]

theorem Canonical.decodable (canonical : Canonical card) : Decodable card := by
  constructor
  · intro confirmed
    have placed := canonical.confirmed confirmed
    rw [canonical.canon_eq]
    simp only [List.mem_cons, List.not_mem_nil, or_false] at placed ⊢
    tauto
  · intro returned
    rw [canonical.canon_eq]
    exact canonical.returned returned

def underWork : List RequestStatus := [.new, .inProgress, .purchase, .clarification, .executed]

theorem Decodable.unmarked (decodable : Decodable card) (early : card.canon ∈ underWork) :
    card.confirmed = false ∧ card.returned = false := by
  simp only [underWork, List.mem_cons, List.not_mem_nil, or_false] at early
  constructor
  · by_contra confirmed
    have placed := decodable.confirmed (by simpa using confirmed)
    rcases early with at_ | at_ | at_ | at_ | at_ <;> simp [at_] at placed
  · by_contra returned
    have placed := decodable.returned (by simpa using returned)
    rcases early with at_ | at_ | at_ | at_ | at_ <;> simp [at_] at placed

theorem Decodable.unreturned (decodable : Decodable card) (reviewed : card.canon = .completed) :
    card.returned = false := by
  by_contra returned
  have placed := decodable.returned (by simpa using returned)
  simp [reviewed] at placed

theorem Canonical.of_unmarked (known : card.status ∈ canonStatuses)
    (unmarked : card.confirmed = false ∧ card.returned = false) : Canonical card :=
  ⟨known, by simp [unmarked.1], by simp [unmarked.2]⟩

theorem Step.canonical (step : Step action card next) (decodable : Decodable card) : Canonical next := by
  have unmarked := decodable.unmarked
  cases step with
  | assign executor starts =>
    exact .of_unmarked (by simp [canonStatuses, Card.moveTo, Card.heldBy])
      (unmarked (by simp_all [underWork]; tauto))
  | offer group starts =>
    exact .of_unmarked (by simp [canonStatuses, Card.moveTo, Card.offeredTo])
      (unmarked (by simp_all [underWork]))
  | take executor takes starts only =>
    exact .of_unmarked (by simp [canonStatuses, Card.moveTo, Card.takenBy])
      (unmarked (by simp_all [underWork]; tauto))
  | park starts =>
    refine .of_unmarked ?_ (unmarked (by simp_all [underWork]; tauto))
    rcases starts with ⟨_, _, rfl⟩ | ⟨_, _, rfl⟩ | ⟨_, _, rfl⟩ <;>
      simp [canonStatuses, Card.moveTo]
  | resume starts held =>
    exact .of_unmarked (by simp [canonStatuses, Card.moveTo])
      (unmarked (by simp_all [underWork]; tauto))
  | complete starts =>
    have early := unmarked (by simp_all [underWork]; tauto)
    exact .of_unmarked (by simp [canonStatuses, Card.moveTo]) ⟨early.1, rfl⟩
  | confirm starts mode => exact ⟨by simp [canonStatuses, Card.moveTo], by simp [Card.moveTo], by simp⟩
  | confirmFinally | forceAccept =>
    exact ⟨by simp [canonStatuses, Card.moveTo], by simp [Card.moveTo], by simp⟩
  | sendBack starts held => exact .of_unmarked (by simp [canonStatuses, Card.moveTo]) ⟨rfl, rfl⟩
  | accept moment starts mode =>
    have unreturned := decodable.unreturned (by simpa using starts)
    exact ⟨by simp [canonStatuses, Card.moveTo], by simp [Card.moveTo], by simp [Card.moveTo, unreturned]⟩
  | dispute starts mode => exact ⟨by simp [canonStatuses, Card.moveTo], by simp, by simp [Card.moveTo]⟩
  | cancel starts =>
    exact ⟨by simp [canonStatuses, Card.moveTo], by simp [Card.moveTo], by simp [Card.moveTo]⟩

/-- Request row and active assignment tell the same story. -/
structure Coherent (card : Card) : Prop where
  single : card.active.length ≤ 1
  working : card.status = .inProgress → card.executor ≠ none
  individual : ∀ holding ∈ card.active, holding.type = .individual →
    card.executor = holding.executor ∧ card.assignmentType = some .individual ∧ card.group = none
  group : ∀ holding ∈ card.active, holding.type = .group →
    holding.executor = none ∧ card.executor = none ∧
      card.assignmentType = some .group ∧ card.group = holding.group
  vacant : card.status ∉ terminalStatuses → card.active = [] → card.executor = none

theorem Coherent.moved (coherent : Coherent card) (executor : next.executor = card.executor)
    (type : next.assignmentType = card.assignmentType) (group : next.group = card.group)
    (active : next.active = card.active) (held : next.status = .inProgress → card.executor ≠ none)
    (open_ : card.status ∉ terminalStatuses) : Coherent next where
  single := by rw [active]; exact coherent.single
  working := by rw [executor]; exact held
  individual := by
    rw [executor, type, group, active]
    exact coherent.individual
  group := by
    rw [executor, type, group, active]
    exact coherent.group
  vacant := by
    intro _
    rw [executor, active]
    exact coherent.vacant open_

theorem Coherent.heldBy (card : Card) (executor : UserId) :
    Coherent ((card.moveTo .inProgress).heldBy executor) where
  single := by simp [Card.heldBy]
  working := by simp [Card.heldBy]
  individual := by simp [Card.heldBy]
  group := by simp [Card.heldBy]
  vacant := by simp [Card.heldBy]

theorem Coherent.offeredTo (card : Card) (group : String) :
    Coherent ((card.moveTo .new).offeredTo group) where
  single := by simp [Card.offeredTo]
  working := by simp [Card.offeredTo, Card.moveTo]
  individual := by simp [Card.offeredTo]
  group := by simp [Card.offeredTo]
  vacant := by simp [Card.offeredTo]

theorem active_of_unclaimed (coherent : Coherent card)
    (only : card.active.countP Holding.unclaimed = 1) :
    ∃ group, card.active = [⟨.group, none, group⟩] := by
  have single := coherent.single
  match listed : card.active with
  | [] => simp [listed] at only
  | [⟨type, executor, group⟩] =>
    simp only [listed, List.countP_singleton, Holding.unclaimed] at only
    cases type with
    | individual => simp at only
    | group =>
      cases executor with
      | some executor => simp at only
      | none => exact ⟨group, rfl⟩
  | first :: second :: rest => simp [listed] at single

theorem Coherent.takenBy (coherent : Coherent card) (executor : UserId)
    (only : card.active.countP Holding.unclaimed = 1) :
    Coherent ((card.moveTo .inProgress).takenBy executor) := by
  obtain ⟨group, listed⟩ := active_of_unclaimed coherent only
  have taken : ((card.moveTo .inProgress).takenBy executor).active =
      [⟨.individual, some executor, group⟩] := by
    simp [Card.takenBy, Card.moveTo, listed, Holding.unclaimed]
  constructor
  · simp [taken]
  · simp [Card.takenBy]
  · rw [taken]
    simp [Card.takenBy]
  · rw [taken]
    simp
  · rw [taken]
    simp

theorem Step.open (step : Step action card next) : card.canon ∉ terminalStatuses := by
  cases step <;> simp_all [terminalStatuses, canonStatuses]
  all_goals grind

theorem Step.coherent (step : Step action card next) (canonical : Canonical card)
    (coherent : Coherent card) : Coherent next := by
  have open_ := step.open
  rw [canonical.canon_eq] at open_
  cases step with
  | assign executor starts => exact .heldBy card executor
  | offer group starts => exact .offeredTo card group
  | take executor takes starts only => exact coherent.takenBy executor only
  | park starts =>
    refine coherent.moved rfl rfl rfl rfl ?_ open_
    rcases starts with ⟨_, _, rfl⟩ | ⟨_, _, rfl⟩ | ⟨_, _, rfl⟩ <;> simp [Card.moveTo]
  | resume starts held | sendBack starts held =>
    exact coherent.moved rfl rfl rfl rfl (fun _ => Option.isSome_iff_ne_none.mp held) open_
  | complete | confirm | confirmFinally => exact coherent.moved rfl rfl rfl rfl (by simp [Card.moveTo]) open_
  | accept | dispute | forceAccept => exact coherent.moved rfl rfl rfl rfl (by simp [Card.moveTo]) open_
  | cancel starts =>
    exact ⟨by simp, by simp [Card.moveTo], by simp, by simp, by simp [Card.moveTo, terminalStatuses]⟩

end InfrasafeBot.RequestLifecycle
