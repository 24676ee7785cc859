import InfrasafeBot.RequestWorkflow.PlannerProperties
import InfrasafeBot.RequestLifecycle
import InfrasafeBot.WorkflowRunner

/-! What the patch of each action does to the columns that decide the life of a
request. -/

set_option autoImplicit false

namespace InfrasafeBot.WorkflowPatches

open Library RequestWorkflow WorkflowRunner RequestLifecycle

def rowCard (row : Request) (active : List Holding) (ratings : Nat) : Card :=
  { status := row.status
    confirmed := row.managerConfirmed
    returned := row.isReturned
    acceptance := row.acceptanceMode
    executor := row.executorId
    assignmentType := row.assignmentType
    group := row.assignedGroup
    active
    completedAt := row.completedAt
    ratings
    version := row.statusVersion }

section

variable {actor : ActorContext} {now : Moment}

theorem applyPatch_cons (row : Request) (entry : PatchEntry) (patch : List PatchEntry) :
    applyPatch actor now row (entry :: patch) =
      applyPatch actor now (row.setattr entry.column
        (opValue entry.op entry.value actor now (row.getattr entry.column))) patch := rfl

theorem applyPatch_append (row : Request) (first second : List PatchEntry) :
    applyPatch actor now row (first ++ second) =
      applyPatch actor now (applyPatch actor now row first) second := by
  simp [applyPatch]

/-- The columns the life of a request does not depend on. -/
def incidental : List Column :=
  [.assignedAt, .assignedBy, .requestedMaterials, .managerMaterialsComment,
    .completionReport, .completionMedia, .notes, .managerConfirmedBy, .managerConfirmedAt,
    .managerConfirmationNotes, .managerReturnReason, .returnReason, .returnMedia,
    .returnedAt, .returnedBy]

variable {column : Column} {patch rest : List PatchEntry} {key : String} {op : Op}
  {target : RequestStatus} {action : Action} {executor : UserId}

theorem rowCard_setattr_incidental {row : Request} {value : PyValue} {active : List Holding}
    {ratings : Nat} (listed : column ∈ incidental) :
    rowCard (row.setattr column value) active ratings = rowCard row active ratings := by
  cases column <;> first | rfl | simp [incidental] at listed

theorem rowCard_applyPatch_incidental {row : Request} {active : List Holding} {ratings : Nat}
    (listed : ∀ entry ∈ patch, entry.column ∈ incidental) :
    rowCard (applyPatch actor now row patch) active ratings =
      rowCard row active ratings := by
  induction patch generalizing row with
  | nil => rfl
  | cons entry rest ih =>
    rw [applyPatch_cons, ih fun entry member => listed entry (List.mem_cons_of_mem _ member)]
    exact rowCard_setattr_incidental (listed entry List.mem_cons_self)

theorem incidental_of_givenEntry {payload : Payload} (listed : column ∈ incidental) :
    ∀ entry ∈ givenEntry payload key column op, entry.column ∈ incidental := by
  intro entry member
  unfold givenEntry at member
  split at member
  · cases member
  · rw [List.mem_singleton.mp member]
    exact listed

variable {row : Request} {payload : Payload} {active : List Holding} {ratings : Nat}

@[simp] theorem applyPatch_nil : applyPatch actor now row [] = row := rfl

theorem rowCard_givenEntry (listed : column ∈ incidental) :
    rowCard (applyPatch actor now row (givenEntry payload key column op)) active ratings =
      rowCard row active ratings :=
  rowCard_applyPatch_incidental (incidental_of_givenEntry listed)

theorem rowCard_executorId (value : PyValue) :
    rowCard (row.setattr .executorId value) active ratings =
      { rowCard row active ratings with executor := value.asInteger } := rfl

theorem rowCard_assignmentType (value : PyValue) :
    rowCard (row.setattr .assignmentType value) active ratings =
      { rowCard row active ratings with assignmentType := value.asText.bind AssignmentType.ofText } := rfl

theorem rowCard_assignedGroup (value : PyValue) :
    rowCard (row.setattr .assignedGroup value) active ratings =
      { rowCard row active ratings with group := value.asText } := rfl

theorem rowCard_isReturned (value : PyValue) :
    rowCard (row.setattr .isReturned value) active ratings =
      { rowCard row active ratings with returned := value.truthy } := rfl

theorem rowCard_managerConfirmed (value : PyValue) :
    rowCard (row.setattr .managerConfirmed value) active ratings =
      { rowCard row active ratings with confirmed := value.truthy } := rfl

theorem rowCard_completedAt (value : PyValue) :
    rowCard (row.setattr .completedAt value) active ratings =
      { rowCard row active ratings with completedAt := value.asMoment } := rfl

def changedRow (actor : ActorContext) (now : Moment) (row : Request) (patch : List PatchEntry) : Request :=
  bumpVersion row.status (applyPatch actor now row patch)

/-- A patch that sets the status first and then leaves status and version alone
moves the card there, and does to it what its other entries do. -/
theorem rowCard_changedRow (known : target ∈ canonStatuses) (change : Card → Card)
    (effect : ∀ start : Request,
      rowCard (applyPatch actor now start rest) active ratings = change (rowCard start active ratings))
    (steady : ∀ card, (change card).status = card.status ∧ (change card).version = card.version) :
    rowCard (changedRow actor now row
        (⟨.status, .set, .str (storageStatus target).text⟩ :: rest)) active ratings =
      { change { rowCard row active ratings with status := target } with
        version := ((rowCard row active ratings).moveTo target).version } := by
  let start := row.setattr .status (.str target.text)
  have placed : rowCard start active ratings =
      { rowCard row active ratings with status := target } := by
    have decoded := RequestStatus.ofText_text known
    simp [start, rowCard, Request.setattr, PyValue.asText, decoded]
  have patched := effect start
  rw [placed] at patched
  have status : (applyPatch actor now start rest).status = target :=
    (congrArg Card.status patched).trans (steady _).1
  have version : (applyPatch actor now start rest).statusVersion = row.statusVersion :=
    (congrArg Card.version patched).trans (steady _).2
  have bumped : rowCard (changedRow actor now row
      (⟨.status, .set, .str (storageStatus target).text⟩ :: rest)) active ratings =
      { rowCard (applyPatch actor now start rest) active ratings with
        version := ((rowCard row active ratings).moveTo target).version } := by
    unfold changedRow bumpVersion
    rw [applyPatch_cons]
    change rowCard (if (applyPatch actor now start rest).status ≠ row.status then
      { applyPatch actor now start rest with
        statusVersion := (applyPatch actor now start rest).statusVersion + 1 }
      else applyPatch actor now start rest) active ratings = _
    rw [status, version]
    by_cases same : target = row.status
    · simp [same, rowCard, Card.moveTo, version]
    · simp [same, rowCard, Card.moveTo]
  rw [bumped, patched]

theorem rowCard_changedRow_of_incidental (known : target ∈ canonStatuses)
    (listed : ∀ entry ∈ rest, entry.column ∈ incidental) :
    rowCard (changedRow actor now row
        (⟨.status, .set, .str (storageStatus target).text⟩ :: rest)) active ratings =
      (rowCard row active ratings).moveTo target :=
  rowCard_changedRow known (fun card => card)
    (fun _ => rowCard_applyPatch_incidental listed) fun _ => ⟨rfl, rfl⟩

theorem changed_assign (assigns : action = .systemDispatchAssign ∨ action = .managerAssign)
    (known : (payload.get "executor_id").asInteger = some executor)
    (given : (payload.get "executor_id").isNone = false) (ungrouped : payload.get "group" = .none) :
    rowCard (changedRow actor now row (buildPatch action .inProgress actor payload))
        active ratings =
      { (rowCard row active ratings).moveTo .inProgress with
        executor := some executor, assignmentType := some .individual, group := none } := by
  have patch : buildPatch action .inProgress actor payload =
      ⟨.status, .set, .str (storageStatus .inProgress).text⟩ ::
        ([⟨.executorId, .set, payload.get "executor_id"⟩,
          ⟨.assignmentType, .set, .str "individual"⟩, ⟨.assignedGroup, .clear, .none⟩] ++
        (⟨.assignedAt, .setNow, .none⟩ ::
          if actor.kind = .user then [⟨.assignedBy, .setActor, .none⟩] else [])) := by
    rcases assigns with rfl | rfl <;> simp [buildPatch, given, ungrouped]
  have tail : ∀ entry ∈ (⟨.assignedAt, .setNow, .none⟩ ::
      if actor.kind = .user then [⟨.assignedBy, .setActor, .none⟩] else [] : List PatchEntry),
      entry.column ∈ incidental := by
    split <;> simp [incidental]
  rw [patch]
  refine rowCard_changedRow (by decide) (fun card => { card with
    executor := some executor, assignmentType := some .individual, group := none }) ?_
    fun _ => ⟨rfl, rfl⟩
  intro start
  rw [applyPatch_append, rowCard_applyPatch_incidental tail]
  simp only [applyPatch_cons, applyPatch_nil, opValue, rowCard_assignedGroup,
    rowCard_assignmentType, rowCard_executorId, known]
  rfl

theorem changed_assignGroup {group : String} (given : payload.get "group" = .str group)
    (unassigned : payload.get "executor_id" = .none) :
    rowCard (changedRow actor now row (buildPatch .assignGroup .new actor payload))
        active ratings =
      { (rowCard row active ratings).moveTo .new with
        executor := none, assignmentType := some .group, group := some group } := by
  have patch : buildPatch .assignGroup .new actor payload =
      ⟨.status, .set, .str (storageStatus .new).text⟩ ::
        ([⟨.assignedGroup, .set, .str group⟩,
          ⟨.assignmentType, .set, .str "group"⟩, ⟨.executorId, .clear, .none⟩] ++
        (⟨.assignedAt, .setNow, .none⟩ ::
          if actor.kind = .user then [⟨.assignedBy, .setActor, .none⟩] else [])) := by
    simp [buildPatch, given, unassigned]
  have tail : ∀ entry ∈ (⟨.assignedAt, .setNow, .none⟩ ::
      if actor.kind = .user then [⟨.assignedBy, .setActor, .none⟩] else [] : List PatchEntry),
      entry.column ∈ incidental := by
    split <;> simp [incidental]
  rw [patch]
  refine rowCard_changedRow (by decide) (fun card => { card with
    executor := none, assignmentType := some .group, group := some group }) ?_
    fun _ => ⟨rfl, rfl⟩
  intro start
  rw [applyPatch_append, rowCard_applyPatch_incidental tail]
  simp only [applyPatch_cons, applyPatch_nil, opValue, rowCard_assignedGroup,
    rowCard_assignmentType, rowCard_executorId]
  rfl

theorem changed_claim (known : actor.userId = some executor) :
    rowCard (changedRow actor now row (buildPatch .executorClaim .inProgress actor payload))
        active ratings =
      { (rowCard row active ratings).moveTo .inProgress with
        executor := some executor, assignmentType := some .individual, group := none } := by
  refine rowCard_changedRow (by decide) (fun card => { card with
    executor := some executor, assignmentType := some .individual, group := none }) ?_
    fun _ => ⟨rfl, rfl⟩
  intro start
  simp only [applyPatch_cons, applyPatch_nil, opValue, known]
  simp (disch := decide) only [rowCard_setattr_incidental, rowCard_assignedGroup,
    rowCard_assignmentType, rowCard_executorId]
  rfl

theorem changed_promote (known : (payload.get "executor_id").asInteger = some executor) :
    rowCard (changedRow actor now row (buildPatch .systemAutoPromote .inProgress actor payload))
        active ratings =
      { (rowCard row active ratings).moveTo .inProgress with
        executor := some executor, assignmentType := some .individual, group := none } := by
  refine rowCard_changedRow (by decide) (fun card => { card with
    executor := some executor, assignmentType := some .individual, group := none }) ?_
    fun _ => ⟨rfl, rfl⟩
  intro start
  simp (disch := decide) only [applyPatch_cons, applyPatch_nil, opValue,
    rowCard_setattr_incidental, rowCard_assignedGroup, rowCard_assignmentType,
    rowCard_executorId, known]
  rfl

/-- The actions whose patch only moves the request and notes something down. -/
def plainActions : List Action :=
  [.executorPurchase, .managerPurchase, .managerPurchaseDone, .clarifyRequest,
    .clarifyResolved, .executorResume, .cancel]

theorem incidental_of_plain (plain : action ∈ plainActions) :
    ∀ entry ∈ (buildPatch action target actor payload).tail, entry.column ∈ incidental := by
  have notes : ∀ entry ∈ givenEntry payload "notes" .notes .append,
      entry.column ∈ incidental := incidental_of_givenEntry (by decide)
  have materials : ∀ entry ∈ givenEntry payload "requested_materials" .requestedMaterials .set,
      entry.column ∈ incidental := incidental_of_givenEntry (by decide)
  have comment : ∀ entry ∈
      givenEntry payload "manager_materials_comment" .managerMaterialsComment .set,
      entry.column ∈ incidental := incidental_of_givenEntry (by decide)
  simp only [plainActions, List.mem_cons, List.not_mem_nil, or_false] at plain
  rcases plain with rfl | rfl | rfl | rfl | rfl | rfl | rfl
  · simp [buildPatch, incidental]
  · exact materials
  · intro entry member
    rcases List.mem_append.mp member with first | second
    · exact comment entry first
    · exact materials entry second
  · exact notes
  · simp [buildPatch]
  · simp [buildPatch]
  · exact notes

theorem changed_plain (plain : action ∈ plainActions) (known : target ∈ canonStatuses) :
    rowCard (changedRow actor now row (buildPatch action target actor payload))
        active ratings =
      (rowCard row active ratings).moveTo target :=
  rowCard_changedRow_of_incidental known (incidental_of_plain plain)

theorem changed_complete (completes : action = .executorComplete ∨ action = .managerComplete) :
    rowCard (changedRow actor now row (buildPatch action .executed actor payload))
        active ratings =
      { (rowCard row active ratings).moveTo .executed with returned := false } := by
  have patch : buildPatch action .executed actor payload =
      ⟨.status, .set, .str (storageStatus .executed).text⟩ ::
        (givenEntry payload "completion_report" .completionReport .set ++
          givenEntry payload "completion_media" .completionMedia .set ++
          [⟨.isReturned, .set, .bool false⟩]) := by
    rcases completes with rfl | rfl <;> rfl
  rw [patch]
  refine rowCard_changedRow (by decide) (fun card => { card with returned := false }) ?_
    fun _ => ⟨rfl, rfl⟩
  intro start
  simp only [applyPatch_append, applyPatch_cons, applyPatch_nil, opValue]
  simp (disch := decide) only [rowCard_isReturned, rowCard_givenEntry]
  rfl

theorem changed_confirm :
    rowCard (changedRow actor now row (buildPatch .managerConfirm .completed actor payload))
        active ratings =
      { (rowCard row active ratings).moveTo .completed with
        confirmed := true, returned := false } := by
  refine rowCard_changedRow (by decide) (fun card => { card with
    confirmed := true, returned := false }) ?_ fun _ => ⟨rfl, rfl⟩
  intro start
  simp only [applyPatch_append, reduceCtorEq, if_false]
  rw [rowCard_givenEntry (by decide)]
  simp only [applyPatch_cons, applyPatch_nil, opValue]
  simp (disch := decide) only [rowCard_setattr_incidental, rowCard_isReturned, rowCard_managerConfirmed]
  rfl

theorem changed_confirmFinally :
    rowCard (changedRow actor now row (buildPatch .managerConfirm .approved actor payload))
        active ratings =
      { (rowCard row active ratings).moveTo .approved with
        confirmed := true, returned := false, completedAt := some now } := by
  refine rowCard_changedRow (by decide) (fun card => { card with
    confirmed := true, returned := false, completedAt := some now }) ?_ fun _ => ⟨rfl, rfl⟩
  intro start
  simp only [applyPatch_append, if_true]
  rw [rowCard_givenEntry (by decide)]
  simp only [applyPatch_cons, applyPatch_nil, opValue]
  simp (disch := decide) only [rowCard_setattr_incidental, rowCard_isReturned,
    rowCard_managerConfirmed, rowCard_completedAt]
  rfl

theorem changed_returnToWork :
    rowCard (changedRow actor now row
        (buildPatch .managerReturnToWork .inProgress actor payload)) active ratings =
      { (rowCard row active ratings).moveTo .inProgress with
        confirmed := false, returned := false } := by
  refine rowCard_changedRow (by decide) (fun card => { card with
    confirmed := false, returned := false }) ?_ fun _ => ⟨rfl, rfl⟩
  intro start
  simp only [applyPatch_cons, applyPatch_nil, opValue]
  simp (disch := decide) only [rowCard_setattr_incidental, rowCard_isReturned, rowCard_managerConfirmed]
  rfl

theorem changed_accept :
    rowCard (changedRow actor now row (buildPatch .applicantAccept .approved actor payload))
        active ratings =
      { (rowCard row active ratings).moveTo .approved with completedAt := some now } :=
  rowCard_changedRow (by decide) (fun card => { card with completedAt := some now })
    (fun _ => rfl) fun _ => ⟨rfl, rfl⟩

theorem changed_return :
    rowCard (changedRow actor now row (buildPatch .applicantReturn .returned actor payload))
        active ratings =
      { (rowCard row active ratings).moveTo .returned with
        confirmed := false, returned := true } := by
  refine rowCard_changedRow (by decide) (fun card => { card with
    confirmed := false, returned := true }) ?_ fun _ => ⟨rfl, rfl⟩
  intro start
  simp only [applyPatch_cons, applyPatch_nil, opValue]
  simp (disch := decide) only [rowCard_setattr_incidental, rowCard_isReturned, rowCard_managerConfirmed]
  rfl

theorem changed_forceAccept :
    rowCard (changedRow actor now row
        (buildPatch .managerForceAccept .approved actor payload)) active ratings =
      { (rowCard row active ratings).moveTo .approved with
        completedAt := some now, returned := false } := by
  refine rowCard_changedRow (by decide) (fun card => { card with
    completedAt := some now, returned := false }) ?_ fun _ => ⟨rfl, rfl⟩
  intro start
  simp only [applyPatch_append]
  rw [rowCard_givenEntry (by decide)]
  rfl

theorem changedRow_fixed (patch : List PatchEntry) :
    (changedRow actor now row patch).requestNumber = row.requestNumber ∧
      (changedRow actor now row patch).userId = row.userId ∧
      (changedRow actor now row patch).apartmentId = row.apartmentId := by
  have patched : (applyPatch actor now row patch).requestNumber = row.requestNumber ∧
      (applyPatch actor now row patch).userId = row.userId ∧
      (applyPatch actor now row patch).apartmentId = row.apartmentId := by
    induction patch generalizing row with
    | nil => exact ⟨rfl, rfl, rfl⟩
    | cons entry rest ih =>
      rw [applyPatch_cons]
      rw [ih.1, ih.2.1, ih.2.2]
      cases entry.column <;> exact ⟨rfl, rfl, rfl⟩
  unfold changedRow bumpVersion
  split <;> exact patched

theorem status_applyPatch_of_ne (others : ∀ entry ∈ patch, entry.column ≠ .status) :
    (applyPatch actor now row patch).status = row.status := by
  induction patch generalizing row with
  | nil => rfl
  | cons entry rest ih =>
    rw [applyPatch_cons, ih fun entry member => others entry (List.mem_cons_of_mem _ member)]
    have first := others entry List.mem_cons_self
    cases named : entry.column <;> first | rfl | exact absurd named first

theorem status_tail_buildPatch :
    ∀ entry ∈ (buildPatch action target actor payload).tail, entry.column ≠ .status := by
  intro entry member
  cases action <;>
    simp only [buildPatch, List.tail_cons, List.mem_append, List.mem_cons, List.not_mem_nil,
      or_false] at member <;>
    grind [givenEntry]

theorem status_changedRow (known : target ∈ canonStatuses) :
    (changedRow actor now row (buildPatch action target actor payload)).status = target := by
  have patched : (applyPatch actor now row (buildPatch action target actor payload)).status =
      target := by
    change (applyPatch actor now (row.setattr .status (.str target.text))
      (buildPatch action target actor payload).tail).status = target
    rw [status_applyPatch_of_ne status_tail_buildPatch]
    exact RequestStatus.ofText_text known
  unfold changedRow bumpVersion
  split <;> exact patched

end

end InfrasafeBot.WorkflowPatches
