import InfrasafeBot.WorkflowRuns

/-! The status changes sent to the outbox form a chain: each starts where the one
before it ended, under a version of its own, and none is lost to a conflict. -/

set_option autoImplicit false

namespace InfrasafeBot.WebhookChain

open Library Machine RequestWorkflow WebhookSender WorkflowRunner RequestLifecycle
  WorkflowOperations WorkflowRefinement WorkflowRuns

/-- A status change handed to the outbox, with the version of the committed row. -/
structure Emission where
  requestNumber : RequestNumber
  oldStatus : RequestStatus
  newStatus : RequestStatus
  version : Nat

def emissionOf (version : Nat) : EventIntent → Option Emission
  | .webhook number oldStatus newStatus => some ⟨number, oldStatus, newStatus, version⟩
  | _ => none

def emitted (deployment : Deployment) (db : Database) (call : Call) : List Emission :=
  match readUnderLock db call with
  | .error _ => []
  | .ok reading =>
    match decideTransition reading.snap reading.command reading.actor call.principal
        call.now with
    | .error _ => []
    | .ok result =>
      match applyTransition deployment call.directory db reading.row result reading.actor
          call.now with
      | .error _ => []
      | .ok (changed, _) => result.events.filterMap (emissionOf changed.statusVersion)

def emissionsIn (deployment : Deployment) (number : RequestNumber)
    (history : List (Database × Call)) : List Emission :=
  history.flatMap fun taken =>
    (emitted deployment taken.1 taken.2).filter fun emission => emission.requestNumber = number

def emissions (deployment : Deployment) (db : Database) (number : RequestNumber)
    (calls : List Call) : List Emission :=
  emissionsIn deployment number (trace (commit deployment) db calls)

/-- Each change starts from where the one before it ended. -/
def Chained : RequestStatus → List Emission → RequestStatus → Prop
  | start, [], final => start = final
  | start, emission :: rest, final =>
    emission.oldStatus = start ∧ emission.oldStatus ≠ emission.newStatus ∧
      Chained emission.newStatus rest final

theorem Chained.concat {start : RequestStatus} {sent : List Emission} {emission : Emission}
    (chained : Chained start sent emission.oldStatus)
    (moves : emission.oldStatus ≠ emission.newStatus) :
    Chained start (sent ++ [emission]) emission.newStatus := by
  induction sent generalizing start with
  | nil => exact ⟨chained.symm, moves, rfl⟩
  | cons first rest ih => exact ⟨chained.1, chained.2.1, ih chained.2.2⟩

/-- What a transition of `old` to `newCanon` emits. -/
def announced (old : RequestState) (newCanon : RequestStatus) (version : Nat) : List Emission :=
  if publicOf newCanon ≠ projectPublicStatus old then
    [⟨old.requestNumber, projectPublicStatus old, publicOf newCanon, version⟩]
  else []

theorem filterMap_buildEvents {action : Action} {principal : PrincipalRef}
    {old : RequestState} {newCanon : RequestStatus} {payload : Payload} {version : Nat} :
    (buildEvents action principal old newCanon payload).filterMap (emissionOf version) =
      announced old newCanon version := by
  unfold buildEvents announced
  change List.filterMap _ ([_] ++ (if publicOf newCanon ≠ projectPublicStatus old then _ else _) ++ [_]) = _
  split
  · rfl
  · rfl

variable {number : RequestNumber} {newCanon : RequestStatus} {old : RequestState} {version : Nat}

section

variable {deployment : Deployment} {db : Database}

theorem emitted_of_error {call : Call} {error : WorkflowError}
    (failed : runCommand deployment db call = .error error) :
    emitted deployment db call = [] := by
  unfold emitted
  split
  · rfl
  · next reading read =>
      split
      · rfl
      · next result decided =>
          split
          · rfl
          · next changed committed applied =>
              have succeeds := runCommand_eq_ok_iff.mpr
                ⟨reading, result, changed, readUnderLock_eq_ok_iff.mp read, decided, applied, rfl⟩
              rw [failed] at succeeds
              cases succeeds

theorem emitted_cases (deployment : Deployment) (db : Database) (call : Call) :
    (emitted deployment db call = [] ∧ commit deployment db call = db) ∨
      ∃ reading changed,
        Move deployment db call reading changed (commit deployment db call) ∧
        emitted deployment db call =
          announced (newStateFrom reading.row) changed.status changed.statusVersion := by
  unfold commit
  cases ran : runCommand deployment db call with
  | error error => exact .inl ⟨emitted_of_error ran, rfl⟩
  | ok written =>
    obtain ⟨outcome, committed⟩ := written
    obtain ⟨reading, result, changed, read, decided, applied, _⟩ := runCommand_eq_ok_iff.mp ran
    unfold emitted
    simp only [readUnderLock_eq_ok_iff.mpr read, decided, applied]
    rcases decideTransition_eq_ok_iff.mp decided with ⟨_, rfl⟩ | planned
    · cases applied
      exact .inl ⟨rfl, rfl⟩
    · obtain ⟨_, _, _, _, _, rfl⟩ := planTransition_eq_ok_iff.mp planned
      have move := Move.of_applied read planned applied
      refine .inr ⟨reading, changed, move, ?_⟩
      have old : reading.snap.request = newStateFrom reading.row := by
        rw [read.snapshot]
        rfl
      rw [move.status, ← old]
      exact filterMap_buildEvents

theorem announced_of_ne (different : old.requestNumber ≠ number) :
    (announced old newCanon version).filter (fun emission => emission.requestNumber = number) =
      [] := by
  unfold announced
  split <;> simp [different]

theorem announced_of_eq (concerned : old.requestNumber = number) :
    (announced old newCanon version).filter (fun emission => emission.requestNumber = number) =
      announced old newCanon version := by
  unfold announced
  split <;> simp [concerned]

end

theorem Step.version_eq {action : Action} {card next : Card} (step : Step action card next) :
    next.version = if next.status = card.status then card.version else card.version + 1 := by
  cases step <;> rfl

def Emission.payload (deployment : Deployment) (emission : Emission) : WebhookPayload :=
  ⟨statusChangedId deployment emission.requestNumber emission.version, statusChangedEvent,
    emission.requestNumber, emission.oldStatus, emission.newStatus⟩

/-- No later status change of the request is queued yet. -/
def Unannounced (deployment : Deployment) (outbox : Table WebhookOutbox.id)
    (number : RequestNumber) (version : Nat) : Prop :=
  ∀ queued ∈ outbox.rows, ∀ later, version < later →
    queued.eventId ≠ statusChangedId deployment number later

section

variable {deployment : Deployment} {outbox : Table WebhookOutbox.id}

theorem statusChangedId_injective (collisionFree : Function.Injective deployment.uuid5)
    {first second : RequestNumber} {before after : Nat}
    (same : statusChangedId deployment first before = statusChangedId deployment second after) :
    first = second ∧ before = after :=
  statusChanged_name_injective (collisionFree same)

variable {clock : Moment} {next : Nat}

theorem mem_insertOutbox {event endpoint : String} {payload : WebhookPayload}
    {queued : WebhookOutbox}
    (member : queued ∈ (insertOutbox outbox clock event endpoint payload).rows) :
    queued ∈ outbox.rows ∨ queued.eventId = payload.eventId := by
  unfold insertOutbox at member
  split at member
  · exact .inl member
  · rcases List.mem_append.mp member with old | new
    · exact .inl old
    · rw [List.mem_singleton.mp new]
      exact .inr rfl

theorem Unannounced.announce (collisionFree : Function.Injective deployment.uuid5)
    (unannounced : Unannounced deployment outbox number version) {reached : Nat}
    (grows : version ≤ reached) (covered : old.requestNumber = number → next ≤ reached) :
    Unannounced deployment (announce deployment clock outbox old newCanon next) number
      reached := by
  intro queued member later above
  unfold WorkflowOperations.announce at member
  split at member
  · rcases mem_insertOutbox member with before | same
    · exact unannounced queued before later (by omega)
    · rw [same]
      intro collides
      obtain ⟨concerned, equal⟩ := statusChangedId_injective collisionFree collides
      have bounded := covered concerned
      omega
  · exact unannounced queued member later (by omega)

theorem webhooksOf_announce (enabled : deployment.webhookEnabled = true)
    (concerned : old.requestNumber = number)
    (fresh : publicOf newCanon ≠ projectPublicStatus old → version < next)
    (unannounced : Unannounced deployment outbox number version) :
    (webhooksOf (announce deployment clock outbox old newCanon next) number).map (·.payload) =
      (webhooksOf outbox number).map (·.payload) ++
        (announced old newCanon next).map (Emission.payload deployment) := by
  unfold WorkflowOperations.announce announced
  by_cases shown : publicOf newCanon ≠ projectPublicStatus old
  · have free : ¬ (outbox.rows.any fun queued =>
        queued.eventId = statusChangedId deployment old.requestNumber next) = true := by
      intro taken
      obtain ⟨queued, member, same⟩ := List.any_eq_true.mp taken
      rw [concerned] at same
      exact unannounced queued member next (fresh shown) (of_decide_eq_true same)
    rw [if_pos ⟨shown, enabled⟩, if_pos shown]
    unfold insertOutbox
    rw [if_neg free]
    simp [webhooksOf, Table.filter_insert, concerned, Emission.payload]
  · simp [shown]

end

variable {first : RequestStatus} {sent : List Emission}

section

variable {known : Nat}

theorem chained_announced (chained : Chained first sent (projectPublicStatus old)) :
    Chained first (sent ++ announced old newCanon version) (publicOf newCanon) := by
  unfold announced
  split
  · next moves => exact Chained.concat chained (Ne.symm moves)
  · next stays =>
      rw [List.append_nil, not_not.mp stays]
      exact chained

theorem versions_announced (versions : (sent.map (·.version)).Pairwise (· < ·))
    (bounded : ∀ emission ∈ sent, emission.version ≤ known)
    (fresh : publicOf newCanon ≠ projectPublicStatus old → known < version) :
    ((sent ++ announced old newCanon version).map (·.version)).Pairwise (· < ·) := by
  unfold announced
  split
  · next moves =>
      simp only [List.map_append, List.map_cons, List.map_nil]
      refine List.pairwise_append.mpr ⟨versions, List.pairwise_singleton _ _, ?_⟩
      intro earlier member latest last
      obtain ⟨emission, listed, rfl⟩ := List.mem_map.mp member
      rw [List.mem_singleton.mp last]
      exact Nat.lt_of_le_of_lt (bounded emission listed) (fresh moves)
  · rw [List.append_nil]
    exact versions

theorem bounded_announced (bounded : ∀ emission ∈ sent, emission.version ≤ known)
    (grows : known ≤ version) :
    ∀ emission ∈ sent ++ announced old newCanon version, emission.version ≤ version := by
  intro emission member
  rcases List.mem_append.mp member with earlier | new
  · exact (bounded emission earlier).trans grows
  · unfold announced at new
    split at new
    · rw [List.mem_singleton.mp new]
    · cases new

end

/-- How far the outbox has followed the request. -/
structure Followed (deployment : Deployment) (number : RequestNumber)
    (queued : List WebhookPayload) (first : RequestStatus) (sent : List Emission)
    (state : Database) (card : Card) : Prop where
  placed : cardAt state number = some card
  canonical : Canonical card
  chained : Chained first sent (publicOf card.status)
  versions : (sent.map (·.version)).Pairwise (· < ·)
  bounded : ∀ emission ∈ sent, emission.version ≤ card.version
  delivered : (webhooksOf state.outbox number).map (·.payload) =
    queued ++ sent.map (Emission.payload deployment)
  unannounced : Unannounced deployment state.outbox number card.version

theorem projectPublicStatus_of_canonical {db : Database} {row : Request}
    (canonical : Canonical (cardOf db row)) :
    projectPublicStatus (newStateFrom row) = publicOf row.status := by
  have decoded : normalizeStatus (newStateFrom row) = row.status := by
    rw [canon_cardOf, canonical.canon_eq]
    rfl
  simp only [projectPublicStatus, decoded]
  rfl

section

variable {deployment : Deployment} {queued : List WebhookPayload} {state : Database} {card : Card}

variable {call : Call} {changed : Request} {committed : Database} {reading : Reading}

section

variable (collisionFree : Function.Injective deployment.uuid5)

include collisionFree

theorem Followed.of_other (followed : Followed deployment number queued first sent state card)
    (move : Move deployment state call reading changed committed)
    (different : call.requestNumber ≠ number) :
    Followed deployment number queued first sent committed card := by
  have same := move.others number different.symm
  refine ⟨(cardAt_eq_of_about same).trans followed.placed, followed.canonical,
    followed.chained, followed.versions, followed.bounded, ?_, ?_⟩
  · have kept : webhooksOf committed.outbox number = webhooksOf state.outbox number :=
      congrArg About.webhooks same
    rw [kept]
    exact followed.delivered
  · rw [move.outbox]
    refine followed.unannounced.announce collisionFree le_rfl ?_
    intro concerned
    exact absurd (move.read.numbered.symm.trans concerned) different

theorem Followed.of_move (enabled : deployment.webhookEnabled = true)
    (followed : Followed deployment number queued first sent state card)
    (move : Move deployment state call reading changed committed)
    (concerned : call.requestNumber = number) :
    Followed deployment number queued first
      (sent ++ announced (newStateFrom reading.row) changed.status changed.statusVersion)
      committed (cardOf committed changed) := by
  have placed := followed.placed
  rw [← concerned] at placed
  cases move.card_before.symm.trans placed
  have numbered : (newStateFrom reading.row).requestNumber = number := move.read.numbered.trans concerned
  have shown := projectPublicStatus_of_canonical followed.canonical
  have versioned : changed.statusVersion =
      if changed.status = reading.row.status then reading.row.statusVersion
      else reading.row.statusVersion + 1 := Step.version_eq move.step
  have grows : reading.row.statusVersion ≤ changed.statusVersion := by
    rw [versioned]
    split <;> omega
  have fresh : publicOf changed.status ≠ projectPublicStatus (newStateFrom reading.row) →
      reading.row.statusVersion < changed.statusVersion := by
    intro moves
    have left : changed.status ≠ reading.row.status := by
      intro stays
      rw [shown, stays] at moves
      exact moves rfl
    rw [versioned, if_neg left]
    omega
  constructor
  · rw [← concerned]
    exact move.card_after
  · exact move.step.canonical followed.canonical.decodable
  · refine chained_announced ?_
    rw [shown]
    exact followed.chained
  · exact versions_announced followed.versions followed.bounded fresh
  · exact bounded_announced followed.bounded grows
  · rw [move.outbox, webhooksOf_announce enabled numbered fresh followed.unannounced,
      List.map_append, ← List.append_assoc]
    exact congrArg (· ++ _) followed.delivered
  · rw [move.outbox]
    exact followed.unannounced.announce collisionFree grows fun _ => le_rfl

theorem Followed.commit (enabled : deployment.webhookEnabled = true)
    (followed : Followed deployment number queued first sent state card) (call : Call) :
    ∃ next, Followed deployment number queued first
      (sent ++ (emitted deployment state call).filter fun emission => emission.requestNumber = number)
      (WorkflowRunner.commit deployment state call) next := by
  rcases emitted_cases deployment state call with
    ⟨silent, same⟩ | ⟨reading, changed, move, shown⟩
  · refine ⟨card, ?_⟩
    rw [silent, same, List.filter_nil, List.append_nil]
    exact followed
  · by_cases concerned : call.requestNumber = number
    · refine ⟨cardOf (WorkflowRunner.commit deployment state call) changed, ?_⟩
      rw [shown, announced_of_eq (move.read.numbered.trans concerned)]
      exact followed.of_move collisionFree enabled move concerned
    · refine ⟨card, ?_⟩
      have different : (newStateFrom reading.row).requestNumber ≠ number := fun same =>
        concerned (move.read.numbered.symm.trans same)
      rw [shown, announced_of_ne different, List.append_nil]
      exact followed.of_other collisionFree move concerned

theorem followed_run (enabled : deployment.webhookEnabled = true) {db : Database} {row : Request}
    (stored : db.requests.find? number = some row) (canonical : Canonical (cardOf db row))
    (unannounced : Unannounced deployment db.outbox number row.statusVersion) (calls : List Call) :
    ∃ card, Followed deployment number ((webhooksOf db.outbox number).map (·.payload))
      (publicOf row.status) (emissions deployment db number calls)
      (runCalls deployment db calls) card := by
  refine history_induction (WorkflowRunner.commit deployment)
    (fun past state => ∃ card, Followed deployment number
      ((webhooksOf db.outbox number).map (·.payload)) (publicOf row.status)
      (emissionsIn deployment number past) state card) ?_ ?_ calls
  · refine ⟨cardOf db row, cardAt_of_found stored, canonical, rfl, .nil, by simp [emissionsIn],
      by simp [emissionsIn], unannounced⟩
  · intro past state call ⟨card, followed⟩
    obtain ⟨next, goesOn⟩ := followed.commit collisionFree enabled call
    refine ⟨next, ?_⟩
    simpa [emissionsIn] using goesOn

end

end

variable (deployment : Deployment)

/-- The status changes of a request form a chain from «Новая» to the status shown
now, their versions grow, and behind what was queued for the request the outbox
holds every one of them. -/
theorem status_webhooks_chained {db : Database} {number : RequestNumber} {row : Request}
    (stored : db.requests.find? number = some row) (new : row.status = .new)
    (unmarked : row.managerConfirmed = false ∧ row.isReturned = false)
    (enabled : deployment.webhookEnabled = true)
    (collisionFree : Function.Injective deployment.uuid5)
    (unannounced : Unannounced deployment db.outbox number row.statusVersion)
    (calls : List Call) :
    ∃ reached, (runCalls deployment db calls).requests.find? number = some reached ∧
      Chained .new (emissions deployment db number calls)
        (projectPublicStatus (newStateFrom reached)) ∧
      ((emissions deployment db number calls).map (·.version)).Pairwise (· < ·) ∧
      (webhooksOf (runCalls deployment db calls).outbox number).map (·.payload) =
        (webhooksOf db.outbox number).map (·.payload) ++
          (emissions deployment db number calls).map (Emission.payload deployment) := by
  have canonical : Canonical (cardOf db row) := by
    refine .of_unmarked ?_ unmarked
    have status : (cardOf db row).status = .new := new
    rw [status]
    decide
  obtain ⟨card, followed⟩ := followed_run collisionFree enabled stored canonical unannounced calls
  obtain ⟨reached, found, rfl⟩ := Option.map_eq_some_iff.mp followed.placed
  refine ⟨reached, found, ?_, followed.versions, followed.delivered⟩
  rw [projectPublicStatus_of_canonical followed.canonical]
  have chained := followed.chained
  rw [new] at chained
  exact chained

theorem status_webhooks_chained_after_assign :
    let db := Database.ofRequest (sampleRequest .resident)
    let calls := [userCall sampleDirectory 5 "250101-001" 1 .managerAssign [("executor_id", .int 2)]]
    ∃ reached, (runCalls sampleDeployment db calls).requests.find? "250101-001" = some reached ∧
      Chained .new (emissions sampleDeployment db "250101-001" calls)
        (projectPublicStatus (newStateFrom reached)) ∧
      (webhooksOf (runCalls sampleDeployment db calls).outbox "250101-001").map (·.payload) =
        (emissions sampleDeployment db "250101-001" calls).map
          (Emission.payload sampleDeployment) := by
  intro db calls
  obtain ⟨reached, found, chained, _, queued⟩ :=
    status_webhooks_chained sampleDeployment (FreshRequest.created _ _ _ _).stored rfl
      ⟨rfl, rfl⟩ rfl sampleUuid5_injective (by intro queued member; cases member) calls
  exact ⟨reached, found, chained, queued⟩

end InfrasafeBot.WebhookChain
