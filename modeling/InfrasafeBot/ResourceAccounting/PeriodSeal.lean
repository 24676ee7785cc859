import InfrasafeBot.ResourceAccounting.PeriodDesk

/-! Whether a submit seals its period. A request checks the status that it has loaded and, for
a submit, the readings that it has scanned; nothing keeps either as it is until the commit. -/

set_option autoImplicit false

namespace InfrasafeBot.ResourceAccounting

open Library Machine

def DeskStage.Checked : DeskStage → Prop
  | .entering loaded writes _ => writes ≠ [] → loaded.editable = true
  | .flushing loaded _ _ _ _ => loaded.editable = true
  | .setting loaded target => target ∈ loaded.flow
  | .scanning loaded => loaded = .review
  | .selecting loaded scanned => loaded = .review ∧ ∀ reading ∈ scanned, reading.blocks = false
  | .sealing loaded scanned => loaded = .review ∧ ∀ reading ∈ scanned, reading.blocks = false
  | _ => True

/-- At its commit a request finds the status that it has checked, and a submit the readings. -/
def StillChecked (desk : PeriodDesk) : DeskStage → Prop
  | .entering loaded _ [] => desk.period.status = loaded
  | .setting loaded _ => desk.period.status = loaded
  | .sealing loaded scanned => desk.period.status = loaded ∧ desk.readings.rows = scanned
  | _ => True

instance stillCheckedDecidable (desk : PeriodDesk) (stage : DeskStage) :
    Decidable (StillChecked desk stage) := by
  cases stage with
  | entering loaded writes entries =>
    cases entries with
    | nil => exact inferInstanceAs (Decidable (desk.period.status = loaded))
    | cons entry entries => exact .isTrue trivial
  | setting loaded target => exact inferInstanceAs (Decidable (desk.period.status = loaded))
  | sealing loaded scanned =>
    exact inferInstanceAs (Decidable (desk.period.status = loaded ∧ desk.readings.rows = scanned))
  | _ => exact .isTrue trivial

variable {desk : PeriodDesk} {stage : DeskStage}

section

variable {call : DeskCall}

theorem checked_start : call.start.Checked := by
  cases call with
  | enter | moveToReview | reopen | submit | close | correct => exact trivial

theorem checked_proceeding {Value : Type} {result : Except Refusal Value}
    {proceed : Value → DeskStage} (each : ∀ value, result = .ok value → (proceed value).Checked) :
    (proceeding result proceed).Checked := by
  cases result with
  | error refusal => exact trivial
  | ok value => exact each value rfl

theorem performDesk_checked (checked : stage.Checked) : (performDesk desk stage).2.Checked := by
  cases stage with
  | idle | setting | sealing | amending | amended | returning => exact trivial
  | opening imported entries =>
    simp only [performDesk]
    split
    · exact trivial
    · exact fun written => absurd rfl written
  | entering loaded writes entries =>
    cases entries with
    | nil => exact trivial
    | cons entry entries =>
      exact checked_proceeding fun outside _ => checked_proceeding fun write drafted =>
        (draftEntry_made drafted).1
  | flushing loaded writes number write entries =>
    simp only [performDesk]
    split
    · exact trivial
    · exact fun _ => checked
  | moving target =>
    simp only [performDesk]
    split
    · next follows => exact follows
    · exact trivial
  | submitting =>
    simp only [performDesk]
    split
    · next inReview => exact inReview
    · exact trivial
  | scanning loaded =>
    simp only [performDesk]
    split
    · exact trivial
    · next unblocked =>
        refine ⟨checked, fun reading listed => ?_⟩
        have none := List.any_eq_false.mp (Bool.eq_false_of_not_eq_true unblocked)
        exact Bool.eq_false_of_not_eq_true (none reading listed)
  | selecting loaded scanned =>
    simp only [performDesk]
    split
    · exact checked
    · exact trivial
  | locating meter outside newValue reason kind =>
    simp only [performDesk]
    split
    · exact trivial
    · split
      · exact trivial
      · exact checked_proceeding fun write _ => trivial

end

section

variable {meter : MeterId}

theorem performDesk_flows (still : StillChecked desk stage) (checked : stage.Checked) :
    (performDesk desk stage).1.period.status = desk.period.status ∨
      (performDesk desk stage).1.period.status ∈ desk.period.status.flow := by
  have commits := performDesk_commits desk stage
  generalize (performDesk desk stage).1 = after at commits ⊢
  cases commits with
  | nothing => exact .inl rfl
  | entries loaded writes => exact .inl (congrArg ReportingPeriod.status PeriodDesk.applyWrites_period)
  | status loaded target =>
    have follows : target ∈ loaded.flow := checked
    have same : desk.period.status = loaded := still
    exact .inr (same ▸ follows)
  | submission loaded scanned =>
    have inReview : desk.period.status = .review := still.1.trans checked.1
    refine .inr ?_
    rw [inReview]
    exact List.mem_cons_of_mem _ List.mem_cons_self
  | correction write => exact .inl (congrArg ReportingPeriod.status PeriodDesk.applyWrite_period)

/-- In a sealed period only the commit of a correction changes the value of its reading. -/
theorem performDesk_values (still : StillChecked desk stage) (checked : stage.Checked)
    (made : ∀ write ∈ stage.writes, write.Made) (settled : desk.period.status.editable = false) :
    (performDesk desk stage).1.valueOf meter = desk.valueOf meter ∨
      ∃ write, stage = .amended write ∧ write.meterId = meter := by
  have commits := performDesk_commits desk stage
  generalize (performDesk desk stage).1 = after at commits ⊢
  cases commits with
  | nothing | status | submission => exact .inl rfl
  | entries loaded writes =>
    refine .inl ?_
    cases writes with
    | nil => rfl
    | cons write rest =>
      have editable : loaded.editable = true := checked (by simp)
      have same : desk.period.status = loaded := still
      rw [same, editable] at settled
      cases settled
  | correction write =>
    by_cases own : meter = write.meterId
    · exact .inr ⟨write, rfl, own.symm⟩
    · exact .inl (PeriodDesk.valueOf_applyWrite_of_ne (made write List.mem_cons_self) own)

end

section

open Program

variable {n : Nat}

abbrev DeskState (n : Nat) := State PeriodDesk DeskStage n

abbrev DeskEvent (n : Nat) := Event DeskCall n

/-- What a request relies on is in its own stage, so that the others cannot take it away. -/
def DeskRelies (_ : PeriodDesk) (stage : DeskStage) : Prop :=
  stage.Checked ∧ ∀ write ∈ stage.writes, write.Made

theorem deskRelies_start (desk : PeriodDesk) (call : DeskCall) : DeskRelies desk call.start := by
  refine ⟨checked_start, made_of_no_writes ?_⟩
  cases call with
  | enter | moveToReview | reopen | submit | close | correct => rfl

theorem deskRelies_perform {desk after : PeriodDesk} {stage : DeskStage}
    (own : DeskRelies desk stage) :
    DeskRelies after (performDesk desk stage).2 :=
  ⟨performDesk_checked own.1, performDesk_made own.2⟩

theorem desk_sound : deskProgram.Sound StillChecked Regardless (fun _ => True) DeskRelies where
  idle := fun _ _ => ⟨trivial, made_of_no_writes rfl⟩
  start := fun desk call _ => deskRelies_start desk call
  step := fun _ _ _ _ own => ⟨trivial, deskRelies_perform own⟩
  others := fun _ _ _ _ _ _ other _ _ _ => other

def Seals (state : DeskState n) : DeskEvent n → Prop
  | .step worker => ∃ loaded scanned, state.workers worker = .sealing loaded scanned
  | _ => False

def DeskStage.isSealing : DeskStage → Bool
  | .sealing _ _ => true
  | _ => false

theorem seals_of_isSealing {state : DeskState n} {worker : Fin n}
    (sealing : (state.workers worker).isSealing = true) : Seals state (.step worker) := by
  unfold Seals
  cases stage : state.workers worker with
  | sealing loaded scanned => exact ⟨loaded, scanned, stage⟩
  | _ =>
    rw [stage] at sealing
    cases sealing

def DeskStage.correctedMeter : DeskStage → Option MeterId
  | .amended write => some write.meterId
  | _ => none

def Corrects (state : DeskState n) (event : DeskEvent n) (meter : MeterId) : Prop :=
  match event with
  | .step worker => (state.workers worker).correctedMeter = some meter
  | _ => False

instance correctsDecidable (state : DeskState n) (event : DeskEvent n) (meter : MeterId) :
    Decidable (Corrects state event meter) := by
  cases event with
  | step worker => exact inferInstanceAs (Decidable ((state.workers worker).correctedMeter = some meter))
  | call | fail => exact .isFalse id

abbrev DeskHolds (state : DeskState n) : Prop := deskProgram.Holds (fun _ => True) DeskRelies state

variable {state : DeskState n} {event : DeskEvent n}

theorem next_flows (held : DeskHolds state)
    (allowed : Allows StillChecked Regardless state event) :
    (deskProgram.next state event).store.period.status = state.store.period.status ∨
      (deskProgram.next state event).store.period.status ∈ state.store.period.status.flow := by
  rcases store_next deskProgram state event with same | ⟨worker, rfl, performed⟩
  · exact .inl (by rw [same])
  · rw [performed]
    exact performDesk_flows allowed.1 (held.workers worker).1

theorem editable_of_flow {before after : PeriodStatus} (settled : before.editable = false)
    (moved : after = before ∨ after ∈ before.flow) : after.editable = false := by
  rcases moved with rfl | follows
  · exact settled
  · cases before with
    | opened | review => cases settled
    | submitted =>
      obtain rfl := List.mem_singleton.mp follows
      rfl
    | closed => cases follows

theorem settled_of_seals (seals : Seals state event) :
    (deskProgram.next state event).store.period.status.editable = false := by
  cases event with
  | call | fail => exact seals.elim
  | step worker =>
    obtain ⟨loaded, scanned, sealing⟩ := seals
    have free :
        deskProgram.Enters state worker (performDesk state.store (state.workers worker)).2 := by
      intro other _
      rw [sealing]
      exact apart_of_unlocked rfl
    have performed : (deskProgram.next state (.step worker)).store =
        (performDesk state.store (state.workers worker)).1 :=
      congrArg State.store (if_pos free)
    rw [performed, sealing]
    rfl

theorem blocks_of_seals (held : DeskHolds state)
    (allowed : Allows StillChecked Regardless state event) (seals : Seals state event) :
    ∀ reading ∈ state.store.readings.rows, reading.blocks = false := by
  cases event with
  | call | fail => exact seals.elim
  | step worker =>
    obtain ⟨loaded, scanned, sealing⟩ := seals
    have own := (held.workers worker).1
    have still := allowed.1
    rw [sealing] at own still
    intro reading listed
    exact own.2 reading (still.2 ▸ listed)

theorem values_of_settled (held : DeskHolds state)
    (allowed : Allows StillChecked Regardless state event)
    (settled : state.store.period.status.editable = false) (meter : MeterId) :
    (deskProgram.next state event).store.valueOf meter = state.store.valueOf meter ∨
      Corrects state event meter := by
  rcases store_next deskProgram state event with same | ⟨worker, rfl, performed⟩
  · exact .inl (by rw [same])
  · rw [performed]
    rcases performDesk_values allowed.1 (held.workers worker).1 (held.workers worker).2 settled
      with same | ⟨write, amended, own⟩
    · exact .inl same
    · refine .inr ?_
      change (state.workers worker).correctedMeter = some meter
      rw [amended, ← own]
      rfl

/-- Where every commit finds the status and the readings as its request has checked them, the
statuses follow the flow, a submit leaves no blocking reading behind, and the values of a
submitted period change in corrections only. -/
theorem submitted_period_sealed (desk : PeriodDesk) (events : List (DeskEvent n))
    (careful : deskProgram.Careful StillChecked Regardless (deskProgram.initial desk) events) :
    (∀ taken ∈ trace deskProgram.next (deskProgram.initial desk) events,
      (deskProgram.next taken.1 taken.2).store.period.status = taken.1.store.period.status ∨
        (deskProgram.next taken.1 taken.2).store.period.status ∈ taken.1.store.period.status.flow) ∧
    (∀ taken ∈ trace deskProgram.next (deskProgram.initial desk) events,
      Seals taken.1 taken.2 → ∀ reading ∈ taken.1.store.readings.rows, reading.blocks = false) ∧
    ∀ before submission after, events = before ++ submission :: after →
      Seals (run deskProgram.next (deskProgram.initial desk) before) submission →
        ∀ taken ∈ trace deskProgram.next
            (run deskProgram.next (deskProgram.initial desk) (before ++ [submission])) after,
          ∀ meter, (deskProgram.next taken.1 taken.2).store.valueOf meter =
              taken.1.store.valueOf meter ∨ Corrects taken.1 taken.2 meter := by
  have initially : DeskHolds (deskProgram.initial desk : DeskState n) := desk_sound.holds_initial trivial
  have holds := desk_sound.holds_trace initially careful
  refine ⟨fun taken listed => next_flows (holds taken listed) (careful taken listed),
    fun taken listed => blocks_of_seals (holds taken listed) (careful taken listed), ?_⟩
  intro before submission after split seals taken listed meter
  subst split
  obtain ⟨first, rest⟩ :=
    (obeys_append deskProgram.next (Allows StillChecked Regardless) _ before
      (submission :: after)).mp careful
  obtain ⟨allowed, later⟩ := (obeys_cons deskProgram.next (Allows StillChecked Regardless) _
    submission after).mp rest
  have reached := desk_sound.holds_run initially first
  have settled := settled_of_seals seals
  rw [run_concat] at listed
  have along := trace_invariant_of_obeys deskProgram.next
    (fun state => DeskHolds state ∧ state.store.period.status.editable = false)
    ⟨desk_sound.holds_next reached allowed, settled⟩
    (fun state event permitted held => ⟨desk_sound.holds_next held.1 permitted,
      editable_of_flow held.2 (next_flows held.1 permitted)⟩) later taken listed
  exact values_of_settled along.1 (later taken listed) along.2 meter

end

section

open Program

def yardMeter : Meter := ⟨1, "RD-0008", "RD-0008", .electricity, .active, 1, none, 1, none⟩

def yardOutside : Outside := ⟨yardMeter, none, ⟨739675, none, []⟩⟩

def yardEntry (value : ℚ) : DeskCall :=
  .enter false [⟨.ok yardOutside, ⟨some value, none, .normal, none, none⟩⟩]

def yardDesk : PeriodDesk := .fresh (12 * 2026 + 1)

/-- The request of the worker from its call to its commit, in so many statements. -/
def whole (worker : Fin 2) (call : DeskCall) (statements : Nat) : List (DeskEvent 2) :=
  .call worker call :: List.replicate statements (.step worker)

/-- A reading is entered and the period moved to review. -/
def inReview : List (DeskEvent 2) := whole 0 (yardEntry 100) 4 ++ whole 0 .moveToReview 2

def submission : List (DeskEvent 2) := whole 1 .submit 4

def correction : List (DeskEvent 2) := whole 0 (.correct 1 yardOutside 90 "misread" .correction) 3

def correctedRun : List (DeskEvent 2) := inReview ++ submission ++ correction

/-- The second entry selects and flushes its reading, and has not committed yet. -/
def pendingEntry : List (DeskEvent 2) := inReview ++ whole 0 (yardEntry 120) 3

theorem corrected_period_sealed :
    (run deskProgram.next (deskProgram.initial yardDesk) correctedRun).store.valueOf 1 = some 90 ∧
      ∃ taken ∈ trace deskProgram.next
          (run deskProgram.next (deskProgram.initial yardDesk) (inReview ++ submission)) correction,
        (deskProgram.next taken.1 taken.2).store.valueOf 1 ≠ taken.1.store.valueOf 1 ∧
          Corrects taken.1 taken.2 1 := by
  have changed : ∃ taken ∈ trace deskProgram.next
      (run deskProgram.next (deskProgram.initial yardDesk) (inReview ++ submission)) correction,
      (deskProgram.next taken.1 taken.2).store.valueOf 1 ≠ taken.1.store.valueOf 1 := by
    decide +kernel
  obtain ⟨taken, listed, differs⟩ := changed
  refine ⟨by decide +kernel, taken, listed, differs, ?_⟩
  have sealed := (submitted_period_sealed yardDesk correctedRun (by decide +kernel)).2.2
    (inReview ++ whole 1 .submit 3) (.step 1) correction rfl
    (seals_of_isSealing (by decide +kernel)) taken listed 1
  exact sealed.resolve_left differs

def beforeSubmission : List (DeskEvent 2) := pendingEntry ++ whole 1 .submit 3

/-- The submit commits between the flush of an entry and its commit, which then changes the
value of a reading of the submitted period. -/
theorem pending_entry_breaks_seal :
    Seals (run deskProgram.next (deskProgram.initial yardDesk) beforeSubmission) (.step 1) ∧
      ∃ taken ∈ trace deskProgram.next
          (run deskProgram.next (deskProgram.initial yardDesk) (beforeSubmission ++ [.step 1]))
          [.step 0],
        (deskProgram.next taken.1 taken.2).store.valueOf 1 ≠ taken.1.store.valueOf 1 ∧
          ¬ Corrects taken.1 taken.2 1 := by
  constructor
  · exact seals_of_isSealing (by decide +kernel)
  · refine ⟨_, List.mem_cons_self, ?_⟩
    decide +kernel

end

end InfrasafeBot.ResourceAccounting
