import InfrasafeBot.Authorization

/-! The repeat of a command that succeeded: when the policy `no_op_if_same` answers
it quietly, and refuses only what the request does not hold yet. -/

set_option autoImplicit false

namespace InfrasafeBot.RepeatLaw

open Library RequestWorkflow WebhookSender WorkflowRunner RequestLifecycle WorkflowPatches
  WorkflowRefinement WorkflowRuns Authorization

def isHeld (row : Request) (action : Action) (entry : String × PyValue) : Bool :=
  match action with
  | .systemDispatchAssign | .managerAssign =>
    entry.1 = "executor_id" && entry.2.asInteger.isSome && entry.2.asInteger = row.executorId
  | .managerConfirm =>
    entry.1 = "confirmation_notes" && entry.2.asText.isSome && entry.2.asText = row.managerConfirmationNotes
  | _ => false

/-- The effective part of the payload is held by the request already. -/
def AlreadyHeld (row : Request) (command : ActionCommand) : Prop :=
  ∀ entry ∈ command.payload, isBlank entry.2 = false → isHeld row command.action entry = true

def later (call : Call) (now : Moment) : Call := { call with now }

/-- What the policy promises of the state that a command has left. -/
structure Idempotent (after : Database) (call : Call) (command : ActionCommand) : Prop where
  silent : ∀ now, ∃ reading result, ReadUnderLock after (later call now) reading ∧
    decideTransition reading.snap reading.command reading.actor call.principal now = .ok result ∧
    result.noOp = true ∧ result.patch = [] ∧ result.domainOps = [] ∧ result.events = []
  conflict : ∀ row actor (other : ActionCommand) message,
    after.requests.find? call.requestNumber = some row → other.action = command.action →
    checkRepeat (buildSnapshot after call.directory row actor) other actor =
      .error (.repeatConflict message) →
    ¬ AlreadyHeld row other

def Unannotated (row : Request) : Prop := row.managerConfirmationNotes.getD "" = ""

/-- A command without effective payload: a resident's request is confirmed, and no older
notes stay; or the command repeats one already, and there is nothing it could name. -/
def StaysQuiet (row : Request) (command : ActionCommand) : Prop :=
  (∀ entry ∈ command.payload, isBlank entry.2 = true) ∧
  (command.action = .managerConfirm ∧
      normalizeStatus (newStateFrom row) = .executed ∧ row.acceptanceMode = .resident ∧
      ((command.payload.get "confirmation_notes").isNone = true → Unannotated row) ∨
    command.action = .managerConfirm ∧ normalizeStatus (newStateFrom row) = .completed ∧ Unannotated row ∨
    command.action = .systemDispatchAssign ∧
      normalizeStatus (newStateFrom row) = .inProgress ∧ row.executorId = none)

variable {command : ActionCommand} {actor : ActorContext}

section

variable {snap : WorkflowSnapshot}

theorem conflict_iff :
    (∃ message, checkRepeat snap command actor = .error (.repeatConflict message)) ↔
      (command.action = .managerConfirm ∧ normalizeStatus snap.request = .completed ∨
        command.action = .systemDispatchAssign ∧ normalizeStatus snap.request = .inProgress) ∧
      ∃ entry ∈ command.payload, isBlank entry.2 = false := by
  obtain ⟨commandId, action, payload⟩ := command
  have differs : (payload.any fun entry => !isBlank entry.2) = true ↔
      ∃ entry ∈ payload, isBlank entry.2 = false := by
    simp
  rw [← differs]
  rw [← noOpRepeat_iff]
  unfold checkRepeat
  by_cases reached : normalizeStatus snap.request = (actionTable action).toStatus
  · by_cases started : normalizeStatus snap.request ∈ (actionTable action).fromStatuses
    · simp [started]
    · rw [reached] at started ⊢
      cases policy : (actionTable action).repeatPolicy with
      | repeatable | reject => simp [started, policy]
      | noOpIfSame =>
        cases effective : payload.any fun entry => !isBlank entry.2 with
        | true | false => simp [started, policy]
  · simp [reached]

theorem quiet_iff {principal : PrincipalRef} {now : Moment} :
    (∃ result, decideTransition snap command actor principal now = .ok result ∧
      result.noOp = true ∧ result.patch = [] ∧ result.domainOps = [] ∧ result.events = []) ↔
      SilentRepeat snap command := by
  constructor
  · rintro ⟨result, decided, noOp, _⟩
    rcases decideTransition_eq_ok_iff.mp decided with ⟨silent, _⟩ | planned
    · exact silent
    · have result_eq := (planTransition_eq_ok_iff.mp planned).2.2.2.2.2
      rw [result_eq] at noOp
      cases noOp
  · intro silent
    exact ⟨_, decideTransition_eq_ok_iff.mpr (.inl ⟨silent, rfl⟩), rfl, rfl, rfl, rfl⟩

end

section

variable {deployment : Deployment} {db after : Database} {call : Call} {row : Request}
  {reading : Reading}

/-- What the request is when no repeat of the action can conflict with it. -/
structure Settled (row : Request) (action : Action) : Prop where
  notes : action = .managerConfirm → normalizeStatus (newStateFrom row) = .completed → Unannotated row
  executor : action = .systemDispatchAssign →
    normalizeStatus (newStateFrom row) = .inProgress → row.executorId = none

variable {directory : Directory} {now : Moment} {payload : Payload} {target : RequestStatus}

theorem silentRepeat_buildSnapshot :
    SilentRepeat (buildSnapshot db directory row actor) command ↔
      (command.action = .managerConfirm ∧ normalizeStatus (newStateFrom row) = .completed ∨
        command.action = .systemDispatchAssign ∧ normalizeStatus (newStateFrom row) = .inProgress) ∧
      ∀ entry ∈ command.payload, isBlank entry.2 = true := Iff.rfl

section

variable (free : ∀ (other : ActionCommand) message, other.action = command.action → checkRepeat (buildSnapshot after directory row actor) other actor = .error (.repeatConflict message) → ¬ AlreadyHeld row other)

include free

theorem isHeld_eq_false
    (repeated : command.action = .managerConfirm ∧ normalizeStatus (newStateFrom row) = .completed ∨ command.action = .systemDispatchAssign ∧ normalizeStatus (newStateFrom row) = .inProgress)
    (entry : String × PyValue) (effective : isBlank entry.2 = false) :
    isHeld row command.action entry = false := by
  let other : ActionCommand := ⟨command.commandId, command.action, [entry]⟩
  obtain ⟨message, conflict⟩ : ∃ message,
      checkRepeat (buildSnapshot after directory row actor) other actor =
        .error (.repeatConflict message) :=
    conflict_iff.mpr ⟨repeated, entry, List.mem_singleton_self _, effective⟩
  by_contra held
  refine free other message rfl conflict ?_
  intro named member _
  rw [List.mem_singleton.mp member]
  simpa using held

theorem Settled.of_conflicts :
    Settled row command.action := by
  constructor
  · intro confirms completed
    cases notes : row.managerConfirmationNotes with
    | none => simp [Unannotated, notes]
    | some text =>
      by_contra annotated
      have filled : text ≠ "" := by simpa [Unannotated, notes] using annotated
      have unheld := isHeld_eq_false free (.inl ⟨confirms, completed⟩)
        ("confirmation_notes", .str text) (by simp [isBlank, filled])
      simp [isHeld, confirms, notes, PyValue.asText] at unheld
  · intro dispatches working
    cases executor : row.executorId with
    | none => rfl
    | some id =>
      have unheld := isHeld_eq_false free (.inr ⟨dispatches, working⟩)
        ("executor_id", .int id) rfl
      simp [isHeld, dispatches, executor, PyValue.asInteger] at unheld

end

theorem eq_str_of_asText {value : PyValue} {text : String}
    (named : value.asText = some text) : value = .str text := by
  cases value with
  | str stored => exact congrArg PyValue.str (Option.some.inj named)
  | _ => cases named

theorem Settled.not_held {other : ActionCommand} (settled : Settled row other.action)
    (repeated : other.action = .managerConfirm ∧ normalizeStatus (newStateFrom row) = .completed ∨
      other.action = .systemDispatchAssign ∧ normalizeStatus (newStateFrom row) = .inProgress)
    (effective : ∃ entry ∈ other.payload, isBlank entry.2 = false) :
    ¬ AlreadyHeld row other := by
  intro held
  obtain ⟨entry, member, filled⟩ := effective
  have stored := held entry member filled
  rcases repeated with ⟨confirms, completed⟩ | ⟨dispatches, working⟩
  · have empty := settled.notes confirms completed
    simp only [isHeld, confirms, Bool.and_eq_true, decide_eq_true_eq] at stored
    obtain ⟨⟨_, given⟩, same⟩ := stored
    obtain ⟨text, named⟩ := Option.isSome_iff_exists.mp given
    rw [Unannotated, ← same, named] at empty
    rw [eq_str_of_asText named, show text = "" from empty] at filled
    cases filled
  · have unassigned := settled.executor dispatches working
    simp only [isHeld, dispatches, Bool.and_eq_true, decide_eq_true_eq] at stored
    obtain ⟨⟨_, given⟩, same⟩ := stored
    rw [same, unassigned] at given
    cases given

theorem idempotent_iff_settled (issued : call.command = .action command)
    (loaded : loadActorContext call.directory call.principal = .ok reading.actor)
    (found : after.requests.find? call.requestNumber = some row) :
    Idempotent after call command ↔
      SilentRepeat (buildSnapshot after call.directory row reading.actor) command ∧
        Settled row command.action := by
  constructor
  · rintro ⟨silent, conflict⟩
    obtain ⟨again, result, read, quiet⟩ := silent call.now
    have resolved := read.resolved
    rw [show (later call call.now).command = .action command from issued] at resolved
    have stored := read.found
    rw [show (later call call.now).requestNumber = call.requestNumber from rfl, found] at stored
    have repeated := quiet_iff.mp ⟨result, quiet⟩
    rw [read.snapshot, ← Option.some.inj stored, ← Except.ok.inj resolved] at repeated
    exact ⟨repeated, .of_conflicts fun other message => conflict row reading.actor other message found⟩
  · rintro ⟨silent, settled⟩
    constructor
    · intro now
      obtain ⟨result, quiet⟩ := quiet_iff.mpr silent
      exact ⟨⟨row, reading.actor, _, command⟩, result,
        ⟨found, Table.key_of_find? found, loaded, rfl, by rw [later, issued]; rfl⟩, quiet⟩
    · intro stored actor other message located same conflict
      rw [found] at located
      cases located
      obtain ⟨repeated, effective⟩ := conflict_iff.mp ⟨message, conflict⟩
      exact Settled.not_held (same ▸ settled) repeated effective

theorem notes_bumpVersion {oldStatus : RequestStatus} :
    (bumpVersion oldStatus row).managerConfirmationNotes = row.managerConfirmationNotes := by
  unfold bumpVersion
  split <;> rfl

theorem notes_confirmed :
    (changedRow actor now row (buildPatch .managerConfirm target actor payload)).managerConfirmationNotes =
      if (payload.get "confirmation_notes").isNone then row.managerConfirmationNotes
      else (payload.get "confirmation_notes").asText := by
  unfold changedRow
  rw [notes_bumpVersion]
  simp only [buildPatch, givenEntry]
  by_cases final : target = .approved
  · by_cases absent : (payload.get "confirmation_notes").isNone = true
    · rw [if_pos final, if_pos absent, if_pos absent]
      rfl
    · rw [if_pos final, if_neg absent, if_neg absent]
      rfl
  · by_cases absent : (payload.get "confirmation_notes").isNone = true
    · rw [if_neg final, if_pos absent, if_pos absent]
      rfl
    · rw [if_neg final, if_neg absent, if_neg absent]
      rfl

theorem unannotated_confirmed (blank : ∀ entry ∈ payload, isBlank entry.2 = true) :
    Unannotated (changedRow actor now row (buildPatch .managerConfirm target actor payload)) ↔
      ((payload.get "confirmation_notes").isNone = true → Unannotated row) := by
  unfold Unannotated
  rw [notes_confirmed]
  have empty := get_blank blank "confirmation_notes"
  cases value : payload.get "confirmation_notes" <;>
    simp_all [isBlank, PyValue.isNone, PyValue.asText]

theorem confirm_inv {card next : Card} (step : Step .managerConfirm card next) :
    card.canon = .executed ∧
      (card.acceptance = .resident ∧ next.canon = .completed ∨
        card.acceptance = .manager ∧ next.canon = .approved) := by
  cases step with
  | confirm starts mode => exact ⟨by simpa using starts, .inl ⟨mode, rfl⟩⟩
  | confirmFinally moment starts mode => exact ⟨by simpa using starts, .inr ⟨mode, rfl⟩⟩
  | assign _ starts | park starts | resume starts _ | complete starts => simp at starts
  | take _ takes _ _ => simp at takes

theorem quiet_of_repeat
    (silent : SilentRepeat (buildSnapshot db call.directory row reading.actor) command) :
    SilentRepeat (buildSnapshot db call.directory row reading.actor) command ∧
        Settled row command.action ↔ StaysQuiet row command := by
  obtain ⟨repeated, blank⟩ := silentRepeat_buildSnapshot.mp silent
  constructor
  · rintro ⟨_, settled⟩
    refine ⟨blank, ?_⟩
    rcases repeated with ⟨confirms, completed⟩ | ⟨dispatches, working⟩
    · exact .inr (.inl ⟨confirms, completed, settled.notes confirms completed⟩)
    · exact .inr (.inr ⟨dispatches, working, settled.executor dispatches working⟩)
  · rintro ⟨_, ⟨confirms, executed, _⟩ | ⟨confirms, completed, unannotated⟩ |
      ⟨dispatches, working, unassigned⟩⟩
    · rcases repeated with ⟨_, completed⟩ | ⟨dispatches, _⟩
      · rw [executed] at completed
        cases completed
      · rw [confirms] at dispatches
        cases dispatches
    · exact ⟨silent, fun _ _ => unannotated, fun dispatches =>
        absurd (confirms.symm.trans dispatches) (by decide)⟩
    · exact ⟨silent, fun confirms => absurd (dispatches.symm.trans confirms) (by decide),
        fun _ _ => unassigned⟩

theorem quiet_of_move {changed : Request}
    (move : Move deployment db call reading changed after)
    (policy : (actionTable reading.command.action).repeatPolicy = .noOpIfSame) :
    SilentRepeat (buildSnapshot after call.directory changed reading.actor) reading.command ∧
        Settled changed reading.command.action ↔
      StaysQuiet reading.row reading.command := by
  obtain ⟨valid, _, started, _⟩ := planTransition_eq_ok_iff.mp move.planned
  have canon : normalizeStatus reading.snap.request =
      normalizeStatus (newStateFrom reading.row) := by
    rw [move.read.snapshot]
    rfl
  rw [canon] at started
  rw [silentRepeat_buildSnapshot]
  unfold StaysQuiet
  obtain ⟨row, actor, snap, commandId, action, payload⟩ := reading
  have step := move.step
  have placed := move.row
  simp only [plannedTransition] at placed valid started step ⊢
  cases action with
  | systemDispatchAssign =>
    have effective : ¬ ∀ entry ∈ payload, isBlank entry.2 = true :=
      fun blank => validate_dispatch_blank blank valid
    exact iff_of_false (fun repeated => effective repeated.1.2) fun quiet => effective quiet.1
  | managerAssign => simp
  | managerConfirm =>
    obtain ⟨executed, modes⟩ := confirm_inv step
    rw [← canon_cardOf] at executed
    rcases modes with ⟨resident, completed⟩ | ⟨managed, approved⟩
    · rw [← canon_cardOf] at completed
      constructor
      · rintro ⟨⟨_, blank⟩, settled⟩
        have unannotated := settled.notes rfl completed
        rw [placed, unannotated_confirmed blank] at unannotated
        exact ⟨blank, .inl ⟨rfl, executed, resident, unannotated⟩⟩
      · rintro ⟨blank, ⟨_, _, _, unannotated⟩ | ⟨_, already, _⟩ | ⟨dispatches, _⟩⟩
        · refine ⟨⟨.inl ⟨rfl, completed⟩, blank⟩, fun _ _ => ?_, nofun⟩
          rw [placed]
          exact (unannotated_confirmed blank).mpr unannotated
        · rw [executed] at already
          cases already
        · cases dispatches
    · rw [← canon_cardOf] at approved
      constructor
      · rintro ⟨⟨⟨_, completed⟩ | ⟨dispatches, _⟩, _⟩, _⟩
        · rw [approved] at completed
          cases completed
        · cases dispatches
      · rintro ⟨_, ⟨_, _, resident, _⟩ | ⟨_, already, _⟩ | ⟨dispatches, _⟩⟩
        · have mode : row.acceptanceMode = .manager := managed
          rw [mode] at resident
          cases resident
        · rw [executed] at already
          cases already
        · cases dispatches
  | _ => cases policy

end

/-- A command under the policy that succeeded is repeated as the policy promises
exactly when it had no effective payload and left nothing a repeat could name. -/
theorem idempotent_iff {deployment : Deployment} {db after : Database} {call : Call}
    {row : Request} {outcome : CommandOutcome} {command : ActionCommand}
    (issued : call.command = .action command)
    (policy : (actionTable command.action).repeatPolicy = .noOpIfSame)
    (found : db.requests.find? call.requestNumber = some row)
    (ran : runCommand deployment db call = .ok (outcome, after)) :
    Idempotent after call command ↔ StaysQuiet row command := by
  obtain ⟨reading, read, settled⟩ := runCommand_cases ran
  have stored := read.found
  rw [found] at stored
  cases stored
  have resolved := read.resolved
  rw [issued] at resolved
  cases resolved
  rcases settled with ⟨_, silent, rfl⟩ | ⟨changed, move, _⟩
  · rw [idempotent_iff_settled issued read.loaded found]
    rw [read.snapshot] at silent
    exact quiet_of_repeat silent
  · rw [idempotent_iff_settled issued read.loaded move.stored]
    exact quiet_of_move move policy

def executedRequest : Request := { sampleRequest .resident with status := .executed, executorId := some 2 }

def confirmCall (payload : Payload) : Call :=
  userCall sampleDirectory 5 "250101-001" 1 .managerConfirm payload

def confirmedDatabase (payload : Payload) : Database :=
  commit sampleDeployment (.ofRequest executedRequest) (confirmCall payload)

theorem plain_confirmation_idempotent :
    Idempotent (confirmedDatabase []) (confirmCall []) ⟨"command", .managerConfirm, []⟩ := by
  have ran : runCommand sampleDeployment (.ofRequest executedRequest) (confirmCall []) =
      .ok (_, confirmedDatabase []) := rfl
  have found : (Database.ofRequest executedRequest).requests.find? (confirmCall []).requestNumber =
      some executedRequest := rfl
  exact (idempotent_iff rfl rfl found ran).mpr
    ⟨nofun, .inl ⟨rfl, by decide, rfl, fun _ => rfl⟩⟩

/-- Confirmed with notes, the request refuses the same confirmation as a different one. -/
theorem annotated_confirmation_conflicts :
    let payload : Payload := [("confirmation_notes", .str "ok")]
    let after := confirmedDatabase payload
    (∃ outcome, runCommand sampleDeployment (.ofRequest executedRequest) (confirmCall payload) =
      .ok (outcome, after)) ∧
    (∃ message, runCommand sampleDeployment after (confirmCall payload) =
      .error (.repeatConflict message)) ∧
    (∃ row, after.requests.find? "250101-001" = some row ∧
      AlreadyHeld row ⟨"command", .managerConfirm, payload⟩) ∧
    ¬ Idempotent after (confirmCall payload) ⟨"command", .managerConfirm, payload⟩ := by
  have held : ∀ row, (confirmedDatabase [("confirmation_notes", .str "ok")]).requests.find?
      "250101-001" = some row →
      AlreadyHeld row ⟨"command", .managerConfirm, [("confirmation_notes", .str "ok")]⟩ := by
    intro row found entry member _
    cases found
    rw [List.mem_singleton.mp member]
    decide
  refine ⟨⟨_, rfl⟩, ⟨_, rfl⟩, ⟨_, rfl, held _ rfl⟩, ?_⟩
  intro idempotent
  exact idempotent.conflict _ ⟨.system, none, none, [], none, [], []⟩
    ⟨"command", .managerConfirm, [("confirmation_notes", .str "ok")]⟩ _ rfl rfl rfl (held _ rfl)

end InfrasafeBot.RepeatLaw
