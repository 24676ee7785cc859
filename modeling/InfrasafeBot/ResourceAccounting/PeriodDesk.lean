import InfrasafeBot.ResourceAccounting.Accounts

/-! One period and its readings under concurrent requests (`api/periods.py`, `api/imports.py`,
`services/readings.py`), one statement after the other. No statement locks what it selects; a
row is locked from the flush that writes it to the end of the transaction. What a request reads
of the other periods, of the meters and of the rules comes with the request. -/

set_option autoImplicit false

namespace InfrasafeBot.ResourceAccounting

open Library

structure ReadingRevision where
  meterId : MeterId
  oldValue : Option ℚ
  newValue : Option ℚ
  kind : ReadingKind
  reason : Option String

structure PeriodDesk where
  period : ReportingPeriod
  readings : Table Reading.meterId
  revisions : List ReadingRevision

/-- What a request reads outside the period for one meter. -/
structure Outside where
  meter : Meter
  previous : Option ℚ
  around : Surroundings

structure DeskEntry where
  found : Except Refusal Outside
  data : ReadingIn

/-- The change of one reading: the row as the session has loaded it, if there is one, as it has
changed it, and as the columns store it, with the revision that goes with it. -/
structure ReadingWrite where
  loaded : Option Reading
  changed : Reading
  stored : Reading
  revision : Option ReadingRevision

namespace ReadingWrite

variable (write : ReadingWrite)

def meterId : MeterId := write.changed.meterId

def oldValue : Option ℚ := write.loaded.bind (·.value)

def touches : Bool := write.loaded ≠ some write.changed

end ReadingWrite

/-- What an `UPDATE` leaves in a column that the request has changed, or has left alone. -/
def writtenColumn {Value : Type} [DecidableEq Value] (changed loaded stored current : Value) : Value :=
  if changed = loaded then current else stored

def mergedRow (loaded changed stored current : Reading) : Reading :=
  { current with
    value := writtenColumn changed.value loaded.value stored.value current.value
    readAt := writtenColumn changed.readAt loaded.readAt stored.readAt current.readAt
    kind := writtenColumn changed.kind loaded.kind stored.kind current.kind
    previousValue := writtenColumn changed.previousValue loaded.previousValue
      stored.previousValue current.previousValue
    consumption := writtenColumn changed.consumption loaded.consumption stored.consumption
      current.consumption
    status := writtenColumn changed.status loaded.status stored.status current.status
    validationMessage := writtenColumn changed.validationMessage loaded.validationMessage
      stored.validationMessage current.validationMessage
    missingReason := writtenColumn changed.missingReason loaded.missingReason
      stored.missingReason current.missingReason
    comment := writtenColumn changed.comment loaded.comment stored.comment current.comment }

namespace PeriodDesk

variable (desk : PeriodDesk)

/-- A write as its commit shows it; no row that has been loaded is ever deleted. -/
def applyWrite (write : ReadingWrite) : PeriodDesk :=
  match write.loaded with
  | none =>
    { desk with
      readings := desk.readings.save write.stored
      revisions := desk.revisions ++ write.revision.toList }
  | some loaded =>
    match desk.readings.find? write.meterId with
    | none => desk
    | some current =>
      { desk with
        readings := desk.readings.put (mergedRow loaded write.changed write.stored current)
        revisions := desk.revisions ++ write.revision.toList }

def applyWrites (desk : PeriodDesk) (writes : List ReadingWrite) : PeriodDesk :=
  writes.foldl applyWrite desk

def setStatus (status : PeriodStatus) : PeriodDesk :=
  { desk with period := { desk.period with status := status } }

end PeriodDesk

inductive DeskAnswer where
  | done
  | refused (refusal : Refusal)

/-- The next statement of a request, with the status of the period that it has loaded and what
it has flushed so far. -/
inductive DeskStage where
  | idle
  | opening (imported : Bool) (entries : List DeskEntry)
  | entering (loaded : PeriodStatus) (writes : List ReadingWrite) (entries : List DeskEntry)
  | flushing (loaded : PeriodStatus) (writes : List ReadingWrite) (number : String)
      (write : ReadingWrite) (entries : List DeskEntry)
  | moving (target : PeriodStatus)
  | setting (loaded target : PeriodStatus)
  | submitting
  | scanning (loaded : PeriodStatus)
  | selecting (loaded : PeriodStatus) (scanned : List Reading)
  | sealing (loaded : PeriodStatus) (scanned : List Reading)
  | locating (meter : MeterId) (outside : Outside) (newValue : ℚ) (reason : String)
      (kind : ReadingKind)
  | amending (write : ReadingWrite)
  | amended (write : ReadingWrite)
  | returning (answer : DeskAnswer)

def refusedWith (refusal : Refusal) : DeskStage := .returning (.refused refusal)

/-- The row of the meter as the session has it: what the request has changed itself is not
loaded again. -/
def heldRow (desk : PeriodDesk) (writes : List ReadingWrite) (meter : MeterId) : Option Reading :=
  ((writes.filter fun write => write.meterId = meter).getLast?.map (·.changed)).or
    (desk.readings.find? meter)

def makeWrite (loaded : Option Reading) (changed : Reading) (revises : Bool) (kind : ReadingKind)
    (reason : Option String) : Except Refusal ReadingWrite := do
  let stored ← changed.stored
  let oldValue ← amountColumn (loaded.bind (·.value))
  return ⟨loaded, changed, stored,
    if revises then some ⟨changed.meterId, oldValue, stored.value, kind, reason⟩ else none⟩

def draftEntry (desk : PeriodDesk) (loaded : PeriodStatus) (writes : List ReadingWrite)
    (outside : Outside) (data : ReadingIn) : Except Refusal ReadingWrite :=
  if loaded.editable = false then .error (.api (periodLocked { desk.period with status := loaded }))
  else if outside.meter.status ≠ .active then .error (.api (meterInactive outside.meter))
  else do
    let held := heldRow desk writes outside.meter.id
    let filled ← validateAndFill outside.around outside.meter data outside.previous
      (held.getD (.fresh outside.meter.id desk.period.month))
    makeWrite held filled (held.bind (·.value) ≠ filled.value) data.kind data.comment

/-- `apply_correction`; the rows that it recomputes are those of later periods. -/
def draftCorrection (month : Month) (row : Reading) (outside : Outside) (newValue : ℚ)
    (reason : String) (kind : ReadingKind) : Except Refusal ReadingWrite := do
  let evaluated ← evaluateValue outside.around outside.meter month outside.previous newValue
    row.readAt kind
  makeWrite (some row)
    { row with
      value := some newValue, kind := kind, previousValue := outside.previous
      consumption := evaluated.consumption, status := evaluated.status
      validationMessage := some (.corrected reason evaluated.finding) }
    true kind (some reason)

def proceeding {Value : Type} (result : Except Refusal Value) (proceed : Value → DeskStage) : DeskStage :=
  match result with
  | .error refusal => refusedWith refusal
  | .ok value => proceed value

def insertsTwice (desk : PeriodDesk) (write : ReadingWrite) : Bool :=
  write.loaded = none && (desk.readings.find? write.meterId).isSome

def enteredAlready (number : String) (month : Month) : ApiError :=
  .conflict s!"Показание для {number} за {monthText month} уже вводится другим запросом"

def performDesk (desk : PeriodDesk) : DeskStage → PeriodDesk × DeskStage
  | .idle => (desk, .idle)
  | .opening imported entries =>
    let status := desk.period.status
    if imported && !status.editable then (desk, refusedWith (.api (importLocked desk.period)))
    else (desk, .entering status [] entries)
  | .entering _ writes [] => (desk.applyWrites writes, .returning .done)
  | .entering loaded writes (entry :: entries) =>
    (desk, proceeding entry.found fun outside =>
      proceeding (draftEntry desk loaded writes outside entry.data) fun write =>
        .flushing loaded writes outside.meter.meterNumber write entries)
  | .flushing loaded writes number write entries =>
    if insertsTwice desk write then (desk, refusedWith (.api (enteredAlready number desk.period.month)))
    else (desk, .entering loaded (writes ++ [write]) entries)
  | .moving target =>
    let status := desk.period.status
    if target ∈ status.flow then (desk, .setting status target)
    else (desk, refusedWith (.api (transitionRefused status target)))
  | .setting _ target => (desk.setStatus target, .returning .done)
  | .submitting =>
    let status := desk.period.status
    if status = .review then (desk, .scanning status)
    else (desk, refusedWith (.api (notInReview status)))
  | .scanning loaded =>
    if desk.readings.rows.any Reading.blocks then (desk, refusedWith (.api problemsLeft))
    else (desk, .selecting loaded desk.readings.rows)
  -- the period is selected again, but the session keeps the status that it has
  | .selecting loaded scanned =>
    if .submitted ∈ loaded.flow then (desk, .sealing loaded scanned)
    else (desk, refusedWith (.api (transitionRefused loaded .submitted)))
  | .sealing _ _ => (desk.setStatus .submitted, .returning .done)
  | .locating meter outside newValue reason kind =>
    match desk.readings.find? meter with
    | none => (desk, refusedWith (.api (.notFound "Показание")))
    | some row =>
      if desk.period.status.editable then (desk, refusedWith (.api stillEdited))
      else
        (desk, proceeding (draftCorrection desk.period.month row outside newValue reason kind) .amending)
  | .amending write => (desk, .amended write)
  | .amended write => (desk.applyWrite write, .returning .done)
  | .returning answer => (desk, .returning answer)

inductive DeskCall where
  | enter (imported : Bool) (entries : List DeskEntry)
  | moveToReview
  | reopen
  | submit
  | close
  | correct (meter : MeterId) (outside : Outside) (newValue : ℚ) (reason : String)
      (kind : ReadingKind)

def DeskCall.start : DeskCall → DeskStage
  | .enter imported entries => .opening imported entries
  | .moveToReview => .moving .review
  | .reopen => .moving .opened
  | .submit => .submitting
  | .close => .moving .closed
  | .correct meter outside newValue reason kind => .locating meter outside newValue reason kind

def DeskStage.free : DeskStage → Bool
  | .idle => true
  | .returning _ => true
  | _ => false

def DeskStage.locks : DeskStage → List MeterId
  | .entering _ writes _ => (writes.filter (·.touches)).map (·.meterId)
  | .flushing _ writes _ _ _ => (writes.filter (·.touches)).map (·.meterId)
  | .amended write => if write.touches then [write.meterId] else []
  | _ => []

theorem DeskCall.start_unlocked (call : DeskCall) : call.start.locks = [] := by
  cases call with
  | enter | moveToReview | reopen | submit | close | correct => rfl

def deskProgram : Program PeriodDesk DeskStage DeskCall MeterId where
  idle := .idle
  start := DeskCall.start
  free := DeskStage.free
  perform := performDesk
  locks := DeskStage.locks
  idle_unlocked := rfl
  start_unlocked := DeskCall.start_unlocked

def PeriodDesk.fresh (month : Month) : PeriodDesk := ⟨⟨month, .opened⟩, .empty, []⟩

/-- The write stores what it has changed, and its revision says so; one without a revision
leaves the value as it has been loaded. -/
structure ReadingWrite.Made (write : ReadingWrite) : Prop where
  meter : write.stored.meterId = write.meterId
  value : amountColumn write.changed.value = .ok write.stored.value
  unrevised : write.revision = none → write.changed.value = write.oldValue
  revised : ∀ revision, write.revision = some revision → revision.meterId = write.meterId ∧
    amountColumn write.oldValue = .ok revision.oldValue ∧ revision.newValue = write.stored.value

def DeskStage.writes : DeskStage → List ReadingWrite
  | .entering _ writes _ => writes
  | .flushing _ writes _ write _ => writes ++ [write]
  | .amending write => [write]
  | .amended write => [write]
  | _ => []

variable {writes : List ReadingWrite}

section

variable {desk : PeriodDesk} {loaded : Option Reading} {changed row : Reading} {revises : Bool}
  {kind : ReadingKind} {text : Option String} {write : ReadingWrite} {status : PeriodStatus}
  {outside : Outside} {data : ReadingIn} {month : Month} {newValue : ℚ} {reason : String}
  {stage : DeskStage}

theorem makeWrite_made (made : makeWrite loaded changed revises kind text = .ok write)
    (kept : revises = false → changed.value = loaded.bind (·.value)) : write.Made := by
  obtain ⟨stored, flushed, rest⟩ := bind_eq_ok_iff.mp made
  obtain ⟨oldValue, old, returned⟩ := bind_eq_ok_iff.mp rest
  cases returned
  obtain ⟨value, previousValue, consumption, first, _, _, rfl⟩ := stored_ok flushed
  refine ⟨rfl, first, fun unrevised => ?_, fun revision revised => ?_⟩
  · cases revises with
    | false => exact kept rfl
    | true => cases unrevised
  · cases revises with
    | false => cases revised
    | true =>
      cases revised
      exact ⟨rfl, old, rfl⟩

theorem draftEntry_made (drafted : draftEntry desk status writes outside data = .ok write) :
    status.editable = true ∧ write.Made := by
  unfold draftEntry at drafted
  split at drafted
  · cases drafted
  · next editable =>
      split at drafted
      · cases drafted
      · obtain ⟨filled, _, made⟩ := bind_eq_ok_iff.mp drafted
        refine ⟨Bool.eq_true_of_not_eq_false editable, makeWrite_made made fun same => ?_⟩
        exact (not_not.mp (of_decide_eq_false same)).symm

theorem draftCorrection_made
    (drafted : draftCorrection month row outside newValue reason kind = .ok write) :
    write.Made := by
  obtain ⟨evaluated, _, made⟩ := bind_eq_ok_iff.mp drafted
  exact makeWrite_made made fun revised => (by cases revised)

theorem writes_proceeding {Value : Type} {result : Except Refusal Value}
    {proceed : Value → DeskStage} {property : ReadingWrite → Prop}
    (each : ∀ value, result = .ok value → ∀ write ∈ (proceed value).writes, property write) :
    ∀ write ∈ (proceeding result proceed).writes, property write := by
  cases result with
  | error refusal =>
    intro write listed
    cases listed
  | ok value => exact each value rfl

theorem made_of_no_writes (none : stage.writes = []) : ∀ write ∈ stage.writes, write.Made := by
  intro write listed
  rw [none] at listed
  cases listed

theorem performDesk_made (made : ∀ write ∈ stage.writes, write.Made) :
    ∀ write ∈ (performDesk desk stage).2.writes, write.Made := by
  cases stage with
  | opening | moving | submitting | scanning | selecting =>
    simp only [performDesk]
    split
    · exact made_of_no_writes rfl
    · exact made_of_no_writes rfl
  | entering loaded writes entries =>
    cases entries with
    | nil => exact made_of_no_writes rfl
    | cons entry entries =>
      refine writes_proceeding fun outside _ => writes_proceeding fun drafted first => ?_
      intro write listed
      rcases List.mem_append.mp listed with before | added
      · exact made write before
      · cases List.mem_singleton.mp added
        exact (draftEntry_made first).2
  | flushing loaded writes number drafted entries =>
    simp only [performDesk]
    split
    · exact made_of_no_writes rfl
    · exact made
  | locating meter outside newValue reason kind =>
    simp only [performDesk]
    split
    · exact made_of_no_writes rfl
    · split
      · exact made_of_no_writes rfl
      · refine writes_proceeding fun drafted first => ?_
        intro write listed
        cases List.mem_singleton.mp listed
        exact draftCorrection_made first
  | amending write => exact made
  | idle | setting | sealing | amended | returning => exact made_of_no_writes rfl

end

/-- What the statements do to the committed rows: only four of them commit anything. -/
inductive Commits (desk : PeriodDesk) : DeskStage → PeriodDesk → Prop where
  | nothing (stage : DeskStage) : Commits desk stage desk
  | entries (loaded : PeriodStatus) (writes : List ReadingWrite) :
      Commits desk (.entering loaded writes []) (desk.applyWrites writes)
  | status (loaded target : PeriodStatus) :
      Commits desk (.setting loaded target) (desk.setStatus target)
  | submission (loaded : PeriodStatus) (scanned : List Reading) :
      Commits desk (.sealing loaded scanned) (desk.setStatus .submitted)
  | correction (write : ReadingWrite) : Commits desk (.amended write) (desk.applyWrite write)

theorem performDesk_commits (desk : PeriodDesk) (stage : DeskStage) :
    Commits desk stage (performDesk desk stage).1 := by
  cases stage with
  | idle | amending | returning => exact .nothing _
  | opening | flushing | moving | submitting | scanning | selecting =>
    simp only [performDesk]
    split
    · exact .nothing _
    · exact .nothing _
  | entering loaded writes entries =>
    cases entries with
    | nil => exact .entries loaded writes
    | cons entry entries => exact .nothing _
  | setting loaded target => exact .status loaded target
  | sealing loaded scanned => exact .submission loaded scanned
  | locating meter outside newValue reason kind =>
    simp only [performDesk]
    split
    · exact .nothing _
    · split
      · exact .nothing _
      · exact .nothing _
  | amended write => exact .correction write

namespace PeriodDesk

variable {desk : PeriodDesk} {write : ReadingWrite} {meter : MeterId}

def valueOf (desk : PeriodDesk) (meter : MeterId) : Option ℚ := (desk.readings.find? meter).bind (·.value)

theorem applyWrite_period : (desk.applyWrite write).period = desk.period := by
  unfold applyWrite
  split
  · rfl
  · split
    · rfl
    · rfl

theorem applyWrites_period : (desk.applyWrites writes).period = desk.period := by
  induction writes generalizing desk with
  | nil => rfl
  | cons write rest ih => exact (ih).trans applyWrite_period

theorem valueOf_applyWrite_of_ne (made : write.Made) (different : meter ≠ write.meterId) :
    (desk.applyWrite write).valueOf meter = desk.valueOf meter := by
  unfold valueOf applyWrite
  split
  · have other : meter ≠ write.stored.meterId := made.meter.symm ▸ different
    exact congrArg (·.bind (·.value)) (Table.find?_save_of_ne other)
  · next loaded _ =>
      split
      · rfl
      · next current found =>
          have same : current.meterId = write.meterId := Table.key_of_find? found
          have other : meter ≠
              (mergedRow loaded write.changed write.stored current).meterId :=
            fun equal => different (equal.trans same)
          exact congrArg (·.bind (·.value)) (Table.find?_put_of_ne other)

theorem valueOf_inserted (made : write.Made) (inserts : write.loaded = none) :
    (desk.applyWrite write).valueOf write.meterId = write.stored.value := by
  unfold valueOf applyWrite
  simp only [inserts]
  rw [← made.meter, Table.find?_save_self]
  rfl

theorem valueOf_updated {loaded current : Reading} (updates : write.loaded = some loaded)
    (found : desk.readings.find? write.meterId = some current) :
    (desk.applyWrite write).valueOf write.meterId =
      writtenColumn write.changed.value loaded.value write.stored.value current.value := by
  have same : current.meterId = write.meterId := Table.key_of_find? found
  have itself : (desk.readings.put
      (mergedRow loaded write.changed write.stored current)).find? write.meterId =
      some (mergedRow loaded write.changed write.stored current) := by
    rw [← same] at found ⊢
    exact Table.find?_put_self found
  unfold valueOf applyWrite
  simp only [updates, found]
  rw [itself]
  rfl

end PeriodDesk

end InfrasafeBot.ResourceAccounting
