import InfrasafeBot.AccessControl.ReviewSettlement
import InfrasafeBot.AccessControl.SystemRuns

/-! What the calls beside the ingestion leave of the events that have arrived: the events, their
first decisions and the commands of these. -/

set_option autoImplicit false

namespace InfrasafeBot.AccessControl

open Library Machine RequestWorkflow

structure SameArrivals (before after : Journal) : Prop where
  events : after.cameraEvents = before.cameraEvents
  decisions : ∃ added, after.decisions.rows = before.decisions.rows ++ added ∧
    ∀ row ∈ added, row.supersedesDecisionId ≠ none
  commands : ∀ row ∈ before.decisions.rows,
    commandForDecision after row.id = commandForDecision before row.id

variable {journal : Journal} {time : Moment} {equipment : Equipment}

section

variable {changed : Journal}

theorem SameArrivals.refl : SameArrivals journal journal := ⟨rfl, ⟨[], by simp⟩, fun _ _ => rfl⟩

variable {row current : AccessDecision} {now : Moment} {barrierId controllerId : Nat}
  {decisionId : Option Nat} {request : ResolveRequest}

theorem SameArrivals.listed (same : SameArrivals journal changed)
    (listed : row ∈ journal.decisions.rows) : row ∈ changed.decisions.rows := by
  obtain ⟨added, rows, _⟩ := same.decisions
  rw [rows]
  exact List.mem_append_left _ listed

theorem SameArrivals.initial (same : SameArrivals journal changed)
    (listed : row ∈ changed.decisions.rows) (start : row.supersedesDecisionId = none) :
    row ∈ journal.decisions.rows := by
  obtain ⟨added, rows, later⟩ := same.decisions
  rw [rows] at listed
  rcases List.mem_append.mp listed with old | new
  · exact old
  · exact absurd start (later row new)

theorem SameArrivals.trans {last : Journal} (first : SameArrivals journal changed)
    (second : SameArrivals changed last) : SameArrivals journal last where
  events := second.events.trans first.events
  decisions := by
    obtain ⟨added, rows, later⟩ := first.decisions
    obtain ⟨addedToo, rowsToo, laterToo⟩ := second.decisions
    refine ⟨added ++ addedToo, by rw [rowsToo, rows, List.append_assoc], fun row listed => ?_⟩
    rcases List.mem_append.mp listed with new | newer
    · exact later row new
    · exact laterToo row newer
  commands := fun row listed =>
    (second.commands row (first.listed listed)).trans (first.commands row listed)

theorem SameArrivals.initialForEvent (same : SameArrivals journal changed) (eventId : Nat) :
    initialForEvent changed eventId = AccessControl.initialForEvent journal eventId := by
  obtain ⟨added, rows, later⟩ := same.decisions
  have none : added.find? (fun row =>
      row.cameraEventId = eventId && row.supersedesDecisionId = none) = none := by
    refine List.find?_eq_none.mpr fun row listed kept => ?_
    rw [Bool.and_eq_true] at kept
    exact later row listed (of_decide_eq_true kept.2)
  rw [AccessControl.initialForEvent, rows, List.find?_append, none, Option.or_none]
  rfl

theorem SameArrivals.loadExistingResult (same : SameArrivals journal changed) (eventId : Nat) :
    loadExistingResult changed eventId = AccessControl.loadExistingResult journal eventId := by
  unfold AccessControl.loadExistingResult
  rw [same.initialForEvent]
  split
  · next row found => rw [same.commands row (List.mem_of_find?_eq_some found)]
  · rfl

theorem SameArrivals.repeatedEvent (same : SameArrivals journal changed) (data : AnprIngestInput)
    (normalized : Option String) :
    repeatedEvent changed data normalized =
      AccessControl.repeatedEvent journal data normalized := by
  simp only [AccessControl.repeatedEvent, findEventId, findWindowDuplicate, same.events,
    same.initialForEvent]

theorem insertTransition_arrivals {newStatus : DecisionStatus} {newDecision : DecisionType}
    {operator : Option UserId} :
    SameArrivals journal (insertTransition journal current newStatus newDecision operator now) := by
  refine ⟨rfl, ⟨_, rfl, fun row listed => ?_⟩, fun _ _ => rfl⟩
  obtain rfl := List.mem_singleton.mp listed
  rintro ⟨⟩

theorem SameArrivals.command (same : SameArrivals journal changed) {expiresAt : Moment}
    (apart : ∀ row ∈ journal.decisions.rows, decisionId ≠ some row.id) :
    SameArrivals journal
      (createOpenCommand changed decisionId controllerId barrierId expiresAt).1 where
  events := createOpenCommand_cameraEvents.trans same.events
  decisions := by
    rw [createOpenCommand_decisions]
    exact same.decisions
  commands := by
    intro row listed
    rw [← same.commands row listed]
    unfold createOpenCommand
    split
    · rfl
    · simp [commandForDecision, Table.insert, List.find?_append, openCommand, apart row listed]

theorem SameArrivals.opening (same : SameArrivals journal changed) {commandId : Nat}
    {operatorUserId : UserId} {reason : String} {capturedEventId : Option Nat}
    {createdAt : Moment} :
    SameArrivals journal (insertManualOpening changed barrierId commandId decisionId
      operatorUserId reason capturedEventId createdAt) :=
  ⟨same.events, same.decisions, same.commands⟩

theorem foldl_arrivals {α : Type} {write : Journal → α → Journal}
    (once : ∀ journal value, SameArrivals journal (write journal value)) (values : List α)
    (journal : Journal) : SameArrivals journal (values.foldl write journal) := by
  induction values generalizing journal with
  | nil => exact .refl
  | cons value rest ih => exact (once journal value).trans (ih _)

theorem expireRows_arrivals {rows : List AccessDecision} :
    SameArrivals journal (expireRows journal now rows) :=
  foldl_arrivals (fun _ _ => insertTransition_arrivals) rows journal

theorem commitResolution_arrivals {resolution : Resolution} :
    SameArrivals journal
      (commitResolution journal time request now current resolution).1 := by
  cases resolution with
  | expire | deny => exact insertTransition_arrivals
  | manualOpen barrierId controllerId reason =>
    refine (insertTransition_arrivals.command fun row listed same => ?_).opening
    have older := Table.lt_nextKey listed
    have own := Option.some.inj same
    omega

theorem resolveEvent_arrivals : SameArrivals journal (resolveEvent equipment journal time request).1 := by
  unfold resolveEvent
  dsimp only
  split
  · exact .refl
  · split
    · exact .refl
    · exact commitResolution_arrivals

theorem manualOpenBarrier_arrivals {request : ManualOpenRequest} :
    SameArrivals journal (manualOpenBarrier equipment journal time request).1 := by
  unfold manualOpenBarrier
  split
  · split
    · exact .refl
    · dsimp only
      split
      · exact expireRows_arrivals
      · exact (expireRows_arrivals.command fun _ _ => by rintro ⟨⟩).opening
  · exact .refl

theorem expireDueReviews_arrivals : SameArrivals journal (expireDueReviews equipment journal time) := by
  refine foldl_arrivals (fun journal decisionId => ?_) _ _
  unfold expireDue
  split
  · exact insertTransition_arrivals
  · exact .refl

theorem commitRedeem_arrivals {system : System} {request : RedeemRequest} {pass : AccessPass} :
    SameArrivals system.journal
      (commitRedeem system request pass barrierId controllerId).1.journal :=
  (SameArrivals.refl.command fun _ _ => by rintro ⟨⟩).opening

end

section

theorem chained_resolveEvent (chained : Chained journal) {request : ResolveRequest} :
    Chained (resolveEvent equipment journal time request).1 := by
  unfold resolveEvent
  dsimp only
  split
  · exact chained
  · split
    · exact chained
    · next resolution current moving =>
        obtain ⟨latest, pending⟩ := settle_moving moving
        have awaits := awaits_of_latest chained latest pending
        exact (keeps_commitResolution chained awaits resolution).chained

theorem inHand_expiredPending (chained : Chained journal) (barrierId : Nat) :
    InHand journal (expiredPendingForBarrier journal equipment barrierId time) := by
  refine inHand_filter fun row _ kept => ?_
  simp only [Bool.and_eq_true] at kept
  exact awaits_of_currentPending chained kept.1.2

theorem chained_manualOpenBarrier (chained : Chained journal) {request : ManualOpenRequest} :
    Chained (manualOpenBarrier equipment journal time request).1 := by
  have inHand : InHand journal
      (expiredPendingForBarrier journal equipment request.barrierId time) :=
    inHand_expiredPending chained request.barrierId
  unfold manualOpenBarrier
  split
  · split
    · exact chained
    · dsimp only
      split
      · exact (keeps_expireRows chained inHand).chained
      · exact (keeps_commitOpening chained inHand).chained
  · exact chained

theorem chained_expireDue (chained : Chained journal) (decisionId : Nat) :
    Chained (expireDue time journal decisionId) := by
  unfold expireDue
  split
  · next current found =>
      have awaits := (awaits_of_recheck found).2
      exact (keeps_insertTransition chained awaits (by decide)).chained
  · exact chained

theorem chained_expireDueReviews (chained : Chained journal) :
    Chained (expireDueReviews equipment journal time) := by
  unfold expireDueReviews
  generalize (dueReviews equipment journal time).map (·.1) = due
  induction due generalizing journal with
  | nil => exact chained
  | cons decisionId rest ih => exact ih (chained_expireDue chained decisionId)

variable {forms : TextForms} {hashCode : String → String} {system : System}

theorem redeem_arrivals (request : RedeemRequest) :
    SameArrivals system.journal (redeem hashCode system request).journal := by
  unfold redeem
  split
  · next redeemed result redeems =>
      unfold redeemCode at redeems
      split at redeems
      · cases redeems
      · split at redeems
        · cases redeems
        · split at redeems
          · cases redeems
            exact commitRedeem_arrivals
          · cases redeems
  · exact .refl

theorem chained_redeem (chained : Chained system.journal) (request : RedeemRequest) :
    Chained (redeem hashCode system request).journal := by
  unfold redeem
  split
  · next redeemed result redeems =>
      unfold redeemCode at redeems
      split at redeems
      · cases redeems
      · split at redeems
        · cases redeems
        · split at redeems
          · cases redeems
            exact chained_insertManualOpening
              (chained_createOpenCommand chained fun _ => by rintro ⟨⟩)
          · cases redeems
  · exact chained

theorem chained_runIngest (chained : Chained system.journal) (data : AnprIngestInput) :
    Chained (runIngest forms system data).1.journal := by
  unfold runIngest
  dsimp only
  split
  · exact chained
  · exact (keeps_recordEvent chained).chained

theorem chained_step (chained : Chained system.journal) (call : SystemCall) :
    Chained (step forms hashCode system call).journal := by
  cases call with
  | register call =>
    simp only [step, register]
    split
    · split <;> exact chained
    · exact chained
  | equip call =>
    simp only [step, equip]
    split <;> exact chained
  | furnish | tick => exact chained
  | ingestAnpr data => exact chained_runIngest chained data
  | redeemCode request => exact chained_redeem chained request
  | resolveEvent request => exact chained_resolveEvent chained
  | manualOpenBarrier request => exact chained_manualOpenBarrier chained
  | expireDueReviews => exact chained_expireDueReviews chained

theorem chained_run (territory : Territory) (start : Moment) (calls : List SystemCall) :
    Chained (run (step forms hashCode) (System.initial territory start) calls).journal :=
  run_invariant (step forms hashCode) (fun system => Chained system.journal) chained_empty
    (fun _ call chained => chained_step chained call) calls

theorem step_arrivals {call : SystemCall} (operated : ∀ data, call ≠ .ingestAnpr data) :
    SameArrivals system.journal (step forms hashCode system call).journal := by
  cases call with
  | register call =>
    simp only [step, register]
    split
    · split <;> exact .refl
    · exact .refl
  | equip call =>
    simp only [step, equip]
    split <;> exact .refl
  | furnish | tick => exact .refl
  | ingestAnpr data => exact absurd rfl (operated data)
  | redeemCode request => exact redeem_arrivals request
  | resolveEvent request => exact resolveEvent_arrivals
  | manualOpenBarrier request => exact manualOpenBarrier_arrivals
  | expireDueReviews => exact expireDueReviews_arrivals

theorem step_equipment {call : SystemCall} (fixed : ∀ change, call ≠ .equip change) :
    (step forms hashCode system call).equipment = system.equipment := by
  cases call with
  | register call =>
    simp only [step, register]
    split
    · split <;> rfl
    · rfl
  | equip change => exact absurd rfl (fixed change)
  | ingestAnpr data =>
    simp only [step, runIngest]
    split <;> rfl
  | redeemCode request =>
    simp only [step, redeem]
    split
    · next redeemed result redeems =>
        unfold redeemCode at redeems
        split at redeems
        · cases redeems
        · split at redeems
          · cases redeems
          · split at redeems
            · cases redeems
              rfl
            · cases redeems
    · rfl
  | _ => rfl

end

end InfrasafeBot.AccessControl
