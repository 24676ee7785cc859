import InfrasafeBot.ResourceAccounting.Acts

/-! What the preview of an import promises of its commit. The preview has its own checks of a
row; the commit saves it through the checks of an entry (`services/imports.py`,
`services/readings.py`, `api/imports.py`). -/

set_option autoImplicit false

namespace InfrasafeBot.ResourceAccounting

open Library Machine

/-- The stored reading is the one that the row shows, and not in error. -/
structure Shown (row : ImportRow) (stored : Reading) : Prop where
  value : stored.value = row.parsedValue
  previousValue : stored.previousValue = row.previousValue
  consumption : stored.consumption = row.consumption
  accepted : stored.status ≠ .error

def ImportRow.chosen (row : ImportRow) (skipLines : List Nat) : Prop :=
  row.line ∉ skipLines ∧ row.errors = []

instance chosenDecidable (row : ImportRow) (skipLines : List Nat) : Decidable (row.chosen skipLines) :=
  inferInstanceAs (Decidable (row.line ∉ skipLines ∧ row.errors = []))

/-- `build_preview` returns a row for each raw one, and whatever lines are skipped, `commit_rows`
on the same state saves each valid row as it is shown. -/
def PreviewPredicts (accounts : Accounts) (today : Day) (period : ReportingPeriod)
    (rows : List RawRow) : Prop :=
  ∃ previewed, accounts.buildPreview period.month rows = .ok previewed ∧
    previewed.length = rows.length ∧
    ∀ skipLines, ∃ written,
      accounts.enter today period (accounts.importEntries previewed skipLines) = .ok written ∧
        ∀ row ∈ previewed, row.chosen skipLines →
          ∃ meter stored, row.meterId = some meter ∧
            written.readings.find? (meter, period.month) = some stored ∧ Shown row stored

def Computable (meter : Meter) (previous : Option ℚ) : AmountCell → Prop
  | .blank => True
  | .unreadable => True
  | .nan signaling => previous = none ∧ signaling = false
  | .infinite negative => previous.isSome = true ∧ negative = true
  | .amount value =>
    previous.any (value < ·) = true ∨ ∃ consumption,
      computeConsumption previous value meter.coefficient .normal meter.maxDigits = .ok consumption

def AmountCell.Sound (missingReason : Option MissingReason) (previous : Option ℚ) : AmountCell → Prop
  | .blank => missingReason ≠ none
  | .unreadable => False
  | .nan _ => False
  | .infinite _ => False
  | .amount value => 0 ≤ value ∧ previous.any (value < ·) = false

/-- A row with the imported month or none, a sound value and a readable date or none. -/
structure RawRow.Sound (raw : RawRow) (month : Month) (previous : Option ℚ) : Prop where
  period : raw.period = none ∨ raw.period = some (some month)
  value : raw.readingValue.Sound raw.missingReason previous
  readAt : raw.readAt ≠ some none

/-- What is saved of the value passes the checks of an entry that a preview does not make, and
fits its columns. -/
structure Fits (today : Day) (month : Month) (meter : Meter) (previous : Option ℚ) (value : ℚ)
    (readAt : Option Day) : Prop where
  dated : ∃ bounds, periodMonthBounds month = .ok bounds ∧
    dateProblems today month (some (readAt.getD (defaultDay today bounds.1 bounds.2))) = .ok []
  capacity : capacityProblems meter.maxDigits value = []
  stored : Exact (some value)
  consumed : ∀ consumption,
    computeConsumption previous value meter.coefficient .normal meter.maxDigits =
      .ok consumption → Exact (some consumption)

/-- A value fits, and a row without one has no baseline that the preview leaves out. -/
def Keeps (today : Day) (month : Month) (meter : Meter) (previous : Option ℚ)
    (readAt : Option Day) : Option ℚ → Prop
  | none => previous = none
  | some value => Fits today month meter previous value readAt

/-- No row of a registered meter makes the preview raise, and the first one with its number is
kept where it is sound. -/
def Foreseen (accounts : Accounts) (today : Day) (month : Month) : List String → List RawRow → Prop
  | _, [] => True
  | seen, raw :: rest =>
    match raw.meterNumber with
    | none => Foreseen accounts today month seen rest
    | some number =>
      (∀ meter ∈ accounts.activeMeter number,
        Computable meter (accounts.previousValue meter.id month) raw.readingValue ∧
          (number ∉ seen → raw.Sound month (accounts.previousValue meter.id month) →
            Keeps today month meter (accounts.previousValue meter.id month) raw.readAt.join
              raw.readingValue.parsed)) ∧
        Foreseen accounts today month (number :: seen) rest

/-- A valid row of a preview: its meter, and what it shows. -/
structure Offered (accounts : Accounts) (month : Month) (row : ImportRow) (meter : Meter) : Prop where
  meterId : row.meterId = some meter.id
  found : accounts.meters.find? meter.id = some meter
  active : meter.status = .active
  reason : row.parsedValue = none → row.missingReason ≠ none
  blank : row.parsedValue = none → row.previousValue = none ∧ row.consumption = none
  shown : ∀ value, row.parsedValue = some value → 0 ≤ value ∧
    row.previousValue = accounts.previousValue meter.id month ∧
      (accounts.previousValue meter.id month).any (value < ·) = false ∧
        ∃ consumption, computeConsumption (accounts.previousValue meter.id month) value
          meter.coefficient .normal meter.maxDigits = .ok consumption ∧ row.consumption = some consumption

variable {accounts : Accounts} {month : Month} {line : Nat} {raw : RawRow} {row : ImportRow}
  {meter : Meter} {previous : Option ℚ}

section

variable {number : String} {repeated : Bool} {cell : AmountCell}
  {missingReason : Option MissingReason}

theorem previewConsumption_returns :
    (∃ result, previewConsumption meter previous cell = .ok result) ↔
      Computable meter previous cell := by
  cases cell with
  | blank | unreadable => simp [previewConsumption, Computable]
  | nan signaling => cases previous <;> cases signaling <;> simp [previewConsumption, Computable]
  | infinite negative => cases previous <;> cases negative <;> simp [previewConsumption, Computable]
  | amount value =>
    cases decreased : previous.any (value < ·) with
    | true => simp [previewConsumption, Computable, decreased]
    | false =>
      simp only [previewConsumption, Computable, decreased, Bool.false_eq_true, if_false, false_or]
      constructor
      · rintro ⟨result, returned⟩
        obtain ⟨consumption, computed, _⟩ := bind_eq_ok_iff.mp returned
        exact ⟨consumption, computed⟩
      · rintro ⟨consumption, computed⟩
        exact ⟨_, bind_eq_ok_iff.mpr ⟨consumption, computed, rfl⟩⟩

theorem sound_cases (sound : cell.Sound missingReason previous) :
    cell = .blank ∧ missingReason ≠ none ∨
      ∃ value, cell = .amount value ∧ 0 ≤ value ∧ previous.any (value < ·) = false := by
  cases cell with
  | blank => exact .inl ⟨rfl, sound⟩
  | unreadable | nan | infinite => exact sound.elim
  | amount value => exact .inr ⟨value, rfl, sound⟩

variable {compared : List RowProblem} {consumption : Option ℚ}

theorem previewConsumption_sound
    (returned : previewConsumption meter previous cell = .ok (compared, consumption))
    (sound : cell.Sound missingReason previous) :
    compared = [] ∧ (cell.parsed = none → consumption = none) ∧
      ∀ value, cell.parsed = some value → ∃ amount, consumption = some amount ∧
        computeConsumption previous value meter.coefficient .normal meter.maxDigits =
          .ok amount := by
  rcases sound_cases sound with ⟨rfl, _⟩ | ⟨value, rfl, _, level⟩
  · cases returned
    exact ⟨rfl, fun _ => rfl, fun value parsed => by cases parsed⟩
  · simp only [previewConsumption, level, Bool.false_eq_true, if_false] at returned
    obtain ⟨amount, computed, shown⟩ := bind_eq_ok_iff.mp returned
    cases shown
    refine ⟨rfl, fun unparsed => (by cases unparsed), fun other parsed => ?_⟩
    cases parsed
    exact ⟨amount, rfl, computed⟩

theorem sound_of_no_errors
    (returned : previewConsumption meter previous cell = .ok (compared, consumption))
    (clean : cellErrors missingReason cell = []) (level : compared = []) :
    cell.Sound missingReason previous := by
  cases cell with
  | blank =>
    intro missing
    simp [cellErrors, missing] at clean
  | unreadable | nan => simp [cellErrors] at clean
  | infinite negative =>
    cases negative with
    | true => simp [cellErrors] at clean
    | false => simp [previewConsumption] at returned
  | amount value =>
    have positive : 0 ≤ value := by
      by_contra below
      simp [cellErrors, not_le.mp below] at clean
    refine ⟨positive, Bool.eq_false_iff.mpr fun decreased => ?_⟩
    simp only [previewConsumption, decreased, if_true] at returned
    cases returned
    cases level

theorem cellErrors_sound (sound : cell.Sound missingReason previous) :
    cellErrors missingReason cell = [] := by
  rcases sound_cases sound with ⟨rfl, reason⟩ | ⟨value, rfl, positive, _⟩
  · simp [cellErrors, reason]
  · simp [cellErrors, not_lt.mpr positive]

theorem activeMeter_found (found : accounts.activeMeter number = some meter) :
    accounts.meters.find? meter.id = some meter ∧ meter.status = .active ∧
      meter.meterNumberNormalized = number := by
  have selected := List.find?_some found
  obtain ⟨same, active⟩ := Bool.and_eq_true_iff.mp selected
  exact ⟨Table.find?_of_mem (List.mem_of_find?_eq_some found), of_decide_eq_true active,
    of_decide_eq_true same⟩

theorem periodErrors_eq_nil {period : Option (Option Month)} :
    periodErrors month period = [] ↔ period = none ∨ period = some (some month) := by
  match period with
  | none => simp [periodErrors]
  | some none => simp [periodErrors]
  | some (some other) =>
    simp only [periodErrors]
    split
    · next same => simp [same]
    · next different => simp [different]

theorem dateErrors_eq_nil {readAt : Option (Option Day)} : dateErrors readAt = [] ↔ readAt ≠ some none := by
  match readAt with
  | none => simp [dateErrors]
  | some none => simp [dateErrors]
  | some (some day) => simp [dateErrors]

theorem previewRow_returns :
    (∃ row, accounts.previewRow month line number repeated raw = .ok row) ↔
      ∀ meter, accounts.activeMeter number = some meter →
        Computable meter (accounts.previousValue meter.id month) raw.readingValue := by
  unfold Accounts.previewRow
  cases found : accounts.activeMeter number with
  | none =>
    constructor
    · intro _ meter impossible
      cases impossible
    · intro _
      exact ⟨_, rfl⟩
  | some meter =>
    constructor
    · rintro ⟨row, returned⟩ other same
      cases same
      obtain ⟨result, computed, _⟩ := bind_eq_ok_iff.mp returned
      exact previewConsumption_returns.mp ⟨result, computed⟩
    · intro computable
      obtain ⟨result, computed⟩ := previewConsumption_returns.mpr (computable meter rfl)
      exact ⟨_, bind_eq_ok_iff.mpr ⟨result, computed, rfl⟩⟩

theorem previewRow_valid
    (returned : accounts.previewRow month line number repeated raw = .ok row)
    (valid : row.errors = []) :
    repeated = false ∧ ∃ meter, accounts.activeMeter number = some meter ∧
      raw.Sound month (accounts.previousValue meter.id month) ∧
        Offered accounts month row meter ∧ row.parsedValue = raw.readingValue.parsed ∧
          row.parsedReadAt = raw.readAt.join := by
  unfold Accounts.previewRow at returned
  cases found : accounts.activeMeter number with
  | none =>
    rw [found] at returned
    cases returned
    simp at valid
  | some meter =>
    rw [found] at returned
    obtain ⟨⟨compared, consumption⟩, computed, shown⟩ := bind_eq_ok_iff.mp returned
    cases shown
    simp only [List.append_eq_nil_iff] at valid
    obtain ⟨⟨⟨⟨⟨period, fresh⟩, _⟩, cell⟩, dated⟩, level⟩ := valid
    have sound : raw.Sound month (accounts.previousValue meter.id month) :=
      ⟨periodErrors_eq_nil.mp period, sound_of_no_errors computed cell level, dateErrors_eq_nil.mp dated⟩
    obtain ⟨listed, active, _⟩ := activeMeter_found found
    obtain ⟨_, blank, consumed⟩ := previewConsumption_sound computed sound.value
    refine ⟨?_, meter, rfl, sound, ⟨rfl, listed, active, ?_, ?_, ?_⟩, rfl, rfl⟩
    · cases repeated with
      | false => rfl
      | true => cases fresh
    all_goals
      rcases sound_cases sound.value with ⟨held, reason⟩ | ⟨value, held, positive, level⟩
    · exact fun _ => reason
    · intro unparsed
      cases (congrArg AmountCell.parsed held).symm.trans unparsed
    · exact fun unparsed => ⟨by simp [held, AmountCell.isDecimal], blank unparsed⟩
    · intro unparsed
      cases (congrArg AmountCell.parsed held).symm.trans unparsed
    · intro value parsed
      cases (congrArg AmountCell.parsed held).symm.trans parsed
    · intro other parsed
      cases (congrArg AmountCell.parsed held).symm.trans parsed
      obtain ⟨amount, shownAmount, same⟩ := consumed value parsed
      exact ⟨positive, by simp [held, AmountCell.isDecimal], level, amount, same, shownAmount⟩

theorem previewRow_sound
    (returned : accounts.previewRow month line number false raw = .ok row)
    (found : accounts.activeMeter number = some meter)
    (sound : raw.Sound month (accounts.previousValue meter.id month)) : row.errors = [] := by
  unfold Accounts.previewRow at returned
  rw [found] at returned
  obtain ⟨⟨compared, consumption⟩, computed, shown⟩ := bind_eq_ok_iff.mp returned
  cases shown
  simp [periodErrors_eq_nil.mpr sound.period, cellErrors_sound sound.value,
    dateErrors_eq_nil.mpr sound.readAt, (previewConsumption_sound computed sound.value).1]

end

variable {state written : Accounts} {today : Day} {period : ReportingPeriod} {stored : Reading}

section

variable {reading : Reading} {value consumption : ℚ} {readAt : Option Day} {around : Surroundings}

theorem valueProblems_eq_nil :
    valueProblems today meter month previous value readAt .normal = .ok [] ↔
      0 ≤ value ∧ capacityProblems meter.maxDigits value = [] ∧
        dateProblems today month readAt = .ok [] ∧ previous.any (value < ·) = false := by
  have decrease : decreaseProblems previous value .normal = [] ↔
      previous.any (value < ·) = false := by
    cases previous with
    | none | some => simp [decreaseProblems]
  unfold valueProblems
  constructor
  · intro collected
    obtain ⟨dated, made, clean⟩ := bind_eq_ok_iff.mp collected
    have empty := Except.ok.inj clean
    simp only [List.append_eq_nil_iff, decrease] at empty
    obtain ⟨⟨⟨positive, capacity⟩, rfl⟩, level⟩ := empty
    refine ⟨?_, capacity, made, level⟩
    by_contra below
    simp [not_le.mp below] at positive
  · rintro ⟨positive, capacity, made, level⟩
    refine bind_eq_ok_iff.mpr ⟨[], made, congrArg Except.ok ?_⟩
    simp [not_lt.mpr positive, capacity, decrease.mpr level]

theorem validateAndFill_value {kind : ReadingKind} {first last : Day} {result : Evaluation}
    (bounds : periodMonthBounds reading.month = .ok (first, last))
    (evaluated : evaluateValue around meter reading.month previous value
      (some (readAt.getD (defaultDay around.today first last))) kind = .ok result)
    (missingReason : Option MissingReason) (comment : Option String) :
    ∃ filled, validateAndFill around meter ⟨some value, readAt, kind, missingReason, comment⟩
        previous reading = .ok filled ∧
      filled.value = some value ∧ filled.previousValue = previous ∧
        filled.consumption = result.consumption ∧ filled.status = result.status :=
  ⟨_, bind_eq_ok_iff.mpr ⟨(first, last), bounds, bind_eq_ok_iff.mpr ⟨result, evaluated, rfl⟩⟩,
    rfl, rfl, rfl, rfl⟩

theorem stored_of_exact (value : Exact reading.value) (previousValue : Exact reading.previousValue)
    (consumption : Exact reading.consumption) : reading.stored = .ok reading := by
  unfold Reading.stored
  exact bind_eq_ok_iff.mpr ⟨_, value, bind_eq_ok_iff.mpr ⟨_, previousValue,
    bind_eq_ok_iff.mpr ⟨_, consumption, rfl⟩⟩⟩

theorem upsertReading_returns {data : ReadingIn} (editable : period.status.editable = true)
    (active : meter.status = .active)
    (fills : ∀ reading : Reading, reading.key = (meter.id, period.month) → ∃ filled,
      validateAndFill (state.surroundings today meter period.month) meter data
          (state.previousValue meter.id period.month) reading = .ok filled ∧
        filled.stored = .ok filled ∧ Shown row filled) :
    ∃ stored, state.upsertReading today period meter data = .ok (state.saveRow stored) ∧
      stored.key = (meter.id, period.month) ∧ Shown row stored := by
  have key : ((state.readings.find? (meter.id, period.month)).getD
      (.fresh meter.id period.month)).key = (meter.id, period.month) := by
    cases found : state.readings.find? (meter.id, period.month) with
    | none => rfl
    | some known => exact Table.key_of_find? found
  obtain ⟨filled, filledIn, kept, shown⟩ := fills _ key
  refine ⟨filled, ?_, (validateAndFill_ok filledIn).1.trans key, shown⟩
  unfold Accounts.upsertReading
  rw [if_neg (by simp [editable]), if_neg (not_not.mpr active)]
  exact bind_eq_ok_iff.mpr ⟨filled, filledIn, bind_eq_ok_iff.mpr ⟨filled, kept, rfl⟩⟩

theorem offered_saved (exact : Exact (accounts.previousValue meter.id period.month))
    (editable : period.status.editable = true)
    (same : state.previousValue meter.id period.month = accounts.previousValue meter.id period.month)
    (offered : Offered accounts period.month row meter)
    (keeps : Keeps today period.month meter (accounts.previousValue meter.id period.month)
      row.parsedReadAt row.parsedValue) :
    ∃ stored, state.upsertReading today period meter row.data = .ok (state.saveRow stored) ∧
      stored.key = (meter.id, period.month) ∧ Shown row stored := by
  refine upsertReading_returns editable offered.active fun reading key => ?_
  have month : reading.month = period.month := congrArg Prod.snd key
  rw [same]
  cases parsed : row.parsedValue with
  | none =>
    rw [parsed] at keeps
    obtain ⟨noBaseline, noConsumption⟩ := offered.blank parsed
    have previous : accounts.previousValue meter.id period.month = none := keeps
    have filledIn : validateAndFill (state.surroundings today meter period.month) meter row.data
        (accounts.previousValue meter.id period.month) reading =
          .ok { reading with
            kind := .normal, missingReason := row.data.missingReason, comment := row.data.comment
            previousValue := accounts.previousValue meter.id period.month, value := none
            readAt := none, consumption := none, status := .missing
            validationMessage := none } := by
      simp [validateAndFill, ImportRow.data, parsed]
    refine ⟨_, filledIn, stored_of_exact exact_none exact exact_none, parsed.symm,
      previous.trans noBaseline.symm, noConsumption.symm, fun failed => ?_⟩
    cases failed
  | some value =>
    rw [parsed] at keeps
    obtain ⟨positive, shownPrevious, level, consumption, computed, shownConsumption⟩ :=
      offered.shown value parsed
    obtain ⟨⟨first, last⟩, bounds, dated⟩ := keeps.dated
    have clean := valueProblems_eq_nil.mpr ⟨positive, keeps.capacity, dated, level⟩
    have evaluated : evaluateValue (state.surroundings today meter period.month) meter
        reading.month (accounts.previousValue meter.id period.month) value
        (some (row.parsedReadAt.getD (defaultDay today first last))) .normal =
          .ok (judged (state.surroundings today meter period.month) consumption) := by
      rw [month]
      exact bind_eq_ok_iff.mpr ⟨[], clean, bind_eq_ok_iff.mpr ⟨consumption, computed, rfl⟩⟩
    obtain ⟨accepted, consumed⟩ :
        (judged (state.surroundings today meter period.month) consumption).status.accepted = true ∧
          (judged (state.surroundings today meter period.month) consumption).consumption =
            some consumption := judged_accepted
    have entered : row.data =
        ⟨some value, row.parsedReadAt, .normal, none, row.data.comment⟩ := by
      simp [ImportRow.data, parsed]
    obtain ⟨filled, filledIn, held, previous, amount, status⟩ :=
      validateAndFill_value (month ▸ bounds) evaluated none row.data.comment
    refine ⟨filled, entered ▸ filledIn, stored_of_exact ?_ ?_ ?_, held.trans parsed.symm,
      previous.trans shownPrevious.symm, ?_, fun failed => ?_⟩
    · rw [held]
      exact keeps.stored
    · rw [previous]
      exact exact
    · rw [amount, consumed]
      exact keeps.consumed consumption computed
    · exact amount.trans (consumed.trans shownConsumption.symm)
    · rw [← status, failed] at accepted
      cases accepted

theorem offered_kept (exact : Exact (accounts.previousValue meter.id period.month))
    (same : state.previousValue meter.id period.month = accounts.previousValue meter.id period.month)
    (offered : Offered accounts period.month row meter)
    (returned : state.upsertReading today period meter row.data = .ok written) :
    ∃ stored, written = state.saveRow stored ∧ stored.key = (meter.id, period.month) ∧
      (Shown row stored → Keeps today period.month meter
        (accounts.previousValue meter.id period.month) row.parsedReadAt row.parsedValue) := by
  obtain ⟨_, _, reading, filled, stored, key, filledIn, kept, rfl⟩ := upsertReading_ok returned
  have month : reading.month = period.month := congrArg Prod.snd key
  obtain ⟨sameKey, _⟩ := validateAndFill_ok filledIn
  obtain ⟨storedValue, storedPrevious, storedConsumption, first, second, third, rfl⟩ := stored_ok kept
  refine ⟨_, rfl, sameKey.trans key, fun shown => ?_⟩
  rw [same] at filledIn
  unfold validateAndFill ImportRow.data at filledIn
  cases parsed : row.parsedValue with
  | none =>
    simp only [parsed] at filledIn
    split at filledIn
    · cases filledIn
    · cases filledIn
      have previous : storedPrevious = accounts.previousValue meter.id period.month :=
        Except.ok.inj (second.symm.trans exact)
      exact previous.symm.trans (shown.previousValue.trans (offered.blank parsed).1)
  | some value =>
    simp only [parsed] at filledIn
    obtain ⟨_, shownPrevious, level, consumption, computed, shownConsumption⟩ := offered.shown value parsed
    obtain ⟨⟨start, finish⟩, bounds, dated⟩ := bind_eq_ok_iff.mp filledIn
    obtain ⟨result, evaluated, returned⟩ := bind_eq_ok_iff.mp dated
    cases returned
    obtain ⟨problems, collected, outcome⟩ := evaluateValue_ok evaluated
    rw [month] at bounds collected
    rcases outcome with ⟨_, failed, _⟩ | ⟨rfl, _, amount, consumed, held⟩
    · exact absurd failed shown.accepted
    · obtain ⟨_, capacity, clean, _⟩ := valueProblems_eq_nil.mp collected
      refine ⟨⟨(start, finish), bounds, clean⟩, capacity, ?_, fun other again => ?_⟩
      · have value' : storedValue = some value := shown.value.trans parsed
        exact value' ▸ first
      · cases again.symm.trans consumed
        have column : storedConsumption = some amount := by
          rw [show storedConsumption = row.consumption from shown.consumption, shownConsumption,
            Except.ok.inj (computed.symm.trans consumed)]
        exact (held ▸ third : amountColumn (some amount) = .ok storedConsumption).trans
          (congrArg Except.ok column)

end

/-- Every row that the import saves is a valid one of a preview of these accounts. -/
def AllOffered (accounts : Accounts) (month : Month) (skipLines : List Nat)
    (rows : List ImportRow) : Prop :=
  ∀ row ∈ rows, row.chosen skipLines → ∃ meter, Offered accounts month row meter

/-- No two of them are of one meter. -/
def Distinct (skipLines : List Nat) (rows : List ImportRow) : Prop :=
  rows.Pairwise fun first second =>
    first.chosen skipLines → second.chosen skipLines → first.meterId ≠ second.meterId

def SavedAs (written : Accounts) (month : Month) (row : ImportRow) : Prop :=
  ∃ meter stored, row.meterId = some meter ∧
    written.readings.find? (meter, month) = some stored ∧ Shown row stored

def KeptRow (accounts : Accounts) (today : Day) (month : Month) (row : ImportRow) : Prop :=
  ∀ meter, Offered accounts month row meter →
    Keeps today month meter (accounts.previousValue meter.id month) row.parsedReadAt row.parsedValue

section

variable {skipLines : List Nat} {rows rest : List ImportRow} {id : MeterId}

theorem previousValue_saveRow_of_month (level : stored.month = month) :
    (state.saveRow stored).previousValue id month = state.previousValue id month := by
  unfold Accounts.previousValue
  rw [getPreviousAccepted_saveRow_of_apart (.inr (Nat.le_of_eq level.symm))]

theorem importEntries_chosen (offered : Offered accounts month row meter)
    (chosen : row.chosen skipLines) :
    accounts.importEntries (row :: rest) skipLines =
      (.ok meter, row.data) :: accounts.importEntries rest skipLines := by
  unfold Accounts.importEntries
  rw [List.filterMap_cons_some]
  refine (if_pos chosen).trans ?_
  simp [offered.meterId, offered.found]

theorem importEntries_passed (passed : ¬ row.chosen skipLines) :
    accounts.importEntries (row :: rest) skipLines = accounts.importEntries rest skipLines := by
  unfold Accounts.importEntries
  rw [List.filterMap_cons_none]
  exact if_neg passed

theorem enter_found {data : ReadingIn} {entries : List Entry} :
    state.enter today period ((.ok meter, data) :: entries) =
      state.upsertReading today period meter data >>= fun between =>
        between.enter today period entries := rfl

theorem upsertReading_saves {data : ReadingIn}
    (returned : state.upsertReading today period meter data = .ok written) :
    ∃ stored, written = state.saveRow stored ∧ stored.key = (meter.id, period.month) := by
  obtain ⟨_, _, reading, filled, stored, known, filledIn, kept, rfl⟩ := upsertReading_ok returned
  obtain ⟨_, _, _, _, _, _, rfl⟩ := stored_ok kept
  exact ⟨_, rfl, (validateAndFill_ok filledIn).1.trans known⟩

theorem enter_frame (rows : List ImportRow) : ∀ {state : Accounts},
    AllOffered accounts period.month skipLines rows →
    state.enter today period (accounts.importEntries rows skipLines) = .ok written →
    ∀ {key : ReadingKey}, (∀ row ∈ rows, row.chosen skipLines → row.meterId ≠ some key.1) →
      written.readings.find? key = state.readings.find? key := by
  induction rows with
  | nil =>
    intro state _ returned key _
    cases returned
    rfl
  | cons row rest ih =>
    intro state offered returned key apart
    obtain ⟨here, later⟩ := List.forall_mem_cons.mp offered
    obtain ⟨hereApart, laterApart⟩ := List.forall_mem_cons.mp apart
    by_cases chosen : row.chosen skipLines
    · obtain ⟨meter, shown⟩ := here chosen
      rw [importEntries_chosen shown chosen, enter_found] at returned
      obtain ⟨between, saved, entered⟩ := bind_eq_ok_iff.mp returned
      obtain ⟨stored, rfl, known⟩ := upsertReading_saves saved
      rw [ih later entered laterApart]
      refine Table.find?_save_of_ne fun same => hereApart chosen (shown.meterId.trans ?_)
      rw [same, known]
    · rw [importEntries_passed chosen] at returned
      exact ih later returned laterApart

theorem enter_kept (exact : ∀ id, Exact (accounts.previousValue id period.month))
    (editable : period.status.editable = true) (rows : List ImportRow) : ∀ {state : Accounts},
    (∀ id, state.previousValue id period.month = accounts.previousValue id period.month) →
    AllOffered accounts period.month skipLines rows → Distinct skipLines rows →
    (∀ row ∈ rows, row.chosen skipLines → KeptRow accounts today period.month row) →
    ∃ written, state.enter today period (accounts.importEntries rows skipLines) = .ok written ∧
      ∀ row ∈ rows, row.chosen skipLines → SavedAs written period.month row := by
  induction rows with
  | nil => exact fun _ _ _ _ => ⟨_, rfl, List.forall_mem_nil _⟩
  | cons row rest ih =>
    intro state same offered distinct kept
    obtain ⟨here, later⟩ := List.forall_mem_cons.mp offered
    obtain ⟨hereKept, laterKept⟩ := List.forall_mem_cons.mp kept
    obtain ⟨apart, restDistinct⟩ := List.pairwise_cons.mp distinct
    by_cases chosen : row.chosen skipLines
    · obtain ⟨meter, shown⟩ := here chosen
      obtain ⟨stored, saved, key, asShown⟩ := offered_saved (exact meter.id) editable
        (same meter.id) shown (hereKept chosen meter shown)
      have level : stored.month = period.month := congrArg Prod.snd key
      obtain ⟨written, entered, all⟩ := ih
        (fun id => (previousValue_saveRow_of_month level).trans (same id)) later restDistinct
        laterKept
      have whole : state.enter today period (accounts.importEntries (row :: rest) skipLines) =
          .ok written := by
        rw [importEntries_chosen shown chosen, enter_found]
        exact bind_eq_ok_iff.mpr ⟨_, saved, entered⟩
      refine ⟨written, whole, List.forall_mem_cons.mpr ⟨fun _ => ?_, all⟩⟩
      refine ⟨meter.id, stored, shown.meterId, ?_, asShown⟩
      rw [enter_frame rest later entered fun other member otherChosen =>
        shown.meterId ▸ (apart other member chosen otherChosen).symm, ← key]
      exact Table.find?_save_self
    · obtain ⟨written, entered, all⟩ := ih same later restDistinct laterKept
      refine ⟨written, (importEntries_passed chosen).symm ▸ entered,
        List.forall_mem_cons.mpr ⟨fun taken => absurd taken chosen, all⟩⟩

theorem kept_of_entered (exact : ∀ id, Exact (accounts.previousValue id period.month))
    (rows : List ImportRow) : ∀ {state : Accounts},
    (∀ id, state.previousValue id period.month = accounts.previousValue id period.month) →
    AllOffered accounts period.month skipLines rows → Distinct skipLines rows →
    state.enter today period (accounts.importEntries rows skipLines) = .ok written →
    (∀ row ∈ rows, row.chosen skipLines → SavedAs written period.month row) →
    ∀ row ∈ rows, row.chosen skipLines → KeptRow accounts today period.month row := by
  induction rows with
  | nil => exact fun _ _ _ _ _ => List.forall_mem_nil _
  | cons row rest ih =>
    intro state same offered distinct returned saved
    obtain ⟨here, later⟩ := List.forall_mem_cons.mp offered
    obtain ⟨hereSaved, laterSaved⟩ := List.forall_mem_cons.mp saved
    obtain ⟨apart, restDistinct⟩ := List.pairwise_cons.mp distinct
    by_cases chosen : row.chosen skipLines
    · obtain ⟨meter, shown⟩ := here chosen
      rw [importEntries_chosen shown chosen, enter_found] at returned
      obtain ⟨between, upserted, entered⟩ := bind_eq_ok_iff.mp returned
      obtain ⟨stored, rfl, key, keeps⟩ := offered_kept (exact meter.id) (same meter.id) shown upserted
      have level : stored.month = period.month := congrArg Prod.snd key
      refine List.forall_mem_cons.mpr ⟨fun _ other otherShown => ?_, ih
        (fun id => (previousValue_saveRow_of_month level).trans (same id)) later restDistinct
        entered laterSaved⟩
      have sameId : other.id = meter.id := Option.some.inj (otherShown.meterId.symm.trans shown.meterId)
      obtain rfl : other = meter := Option.some.inj (otherShown.found.symm.trans (sameId ▸ shown.found))
      obtain ⟨id, found, ownId, looked, asShown⟩ := hereSaved chosen
      cases shown.meterId.symm.trans ownId
      rw [enter_frame rest later entered fun other member otherChosen =>
        shown.meterId ▸ (apart other member chosen otherChosen).symm, ← key] at looked
      cases Table.find?_save_self.symm.trans looked
      exact keeps asShown
    · rw [importEntries_passed chosen] at returned
      exact List.forall_mem_cons.mpr ⟨fun taken => absurd taken chosen,
        ih same later restDistinct returned laterSaved⟩

end

section

variable {rows : List RawRow} {previewed : List ImportRow} {other : Meter}

theorem offered_unique (offered : Offered accounts month row meter)
    (again : Offered accounts month row other) : other = meter := by
  have same : other.id = meter.id := Option.some.inj (again.meterId.symm.trans offered.meterId)
  exact Option.some.inj (again.found.symm.trans (same ▸ offered.found))

variable {seen : List String}

theorem previewFrom_cons {number : String} (numbered : raw.meterNumber = some number)
    (returned : accounts.previewFrom month line seen (raw :: rows) = .ok previewed) :
    ∃ row rest, accounts.previewRow month line number (decide (number ∈ seen)) raw = .ok row ∧
      accounts.previewFrom month (line + 1) (number :: seen) rows = .ok rest ∧
        previewed = row :: rest := by
  unfold Accounts.previewFrom at returned
  simp only [numbered] at returned
  obtain ⟨row, first, rest⟩ := bind_eq_ok_iff.mp returned
  obtain ⟨others, second, whole⟩ := bind_eq_ok_iff.mp rest
  exact ⟨row, others, first, second, (Except.ok.inj whole).symm⟩

theorem previewFrom_unnumbered (unnumbered : raw.meterNumber = none)
    (returned : accounts.previewFrom month line seen (raw :: rows) = .ok previewed) :
    ∃ row rest, accounts.previewFrom month (line + 1) seen rows = .ok rest ∧
      previewed = row :: rest ∧ row.errors ≠ [] := by
  unfold Accounts.previewFrom at returned
  simp only [unnumbered] at returned
  obtain ⟨others, second, whole⟩ := bind_eq_ok_iff.mp returned
  exact ⟨_, others, second, (Except.ok.inj whole).symm, List.cons_ne_nil _ _⟩

theorem previewFrom_length (rows : List RawRow) : ∀ {line : Nat} {seen : List String}
    {previewed : List ImportRow},
    accounts.previewFrom month line seen rows = .ok previewed → previewed.length = rows.length := by
  induction rows with
  | nil =>
    intro line seen previewed returned
    cases returned
    rfl
  | cons raw rest ih =>
    intro line seen previewed returned
    cases numbered : raw.meterNumber with
    | none =>
      obtain ⟨_, _, second, rfl, _⟩ := previewFrom_unnumbered numbered returned
      exact congrArg (· + 1) (ih second)
    | some number =>
      obtain ⟨_, _, _, second, rfl⟩ := previewFrom_cons numbered returned
      exact congrArg (· + 1) (ih second)

theorem previewFrom_offered (rows : List RawRow) : ∀ {line : Nat} {seen : List String}
    {previewed : List ImportRow},
    accounts.previewFrom month line seen rows = .ok previewed →
    ∀ row ∈ previewed, row.errors = [] → ∃ meter, Offered accounts month row meter ∧
      meter.meterNumberNormalized ∉ seen := by
  induction rows with
  | nil =>
    intro line seen previewed returned
    cases returned
    exact List.forall_mem_nil _
  | cons raw rest ih =>
    intro line seen previewed returned
    cases numbered : raw.meterNumber with
    | none =>
      obtain ⟨row, others, second, rfl, failed⟩ := previewFrom_unnumbered numbered returned
      exact List.forall_mem_cons.mpr ⟨fun valid => absurd valid failed, ih second⟩
    | some number =>
      obtain ⟨row, others, first, second, rfl⟩ := previewFrom_cons numbered returned
      refine List.forall_mem_cons.mpr ⟨fun valid => ?_, fun later member valid => ?_⟩
      · obtain ⟨fresh, meter, found, _, offered, _⟩ := previewRow_valid first valid
        exact ⟨meter, offered, (activeMeter_found found).2.2.symm ▸ of_decide_eq_false fresh⟩
      · obtain ⟨meter, offered, unseen⟩ := ih second later member valid
        exact ⟨meter, offered, fun before => unseen (List.mem_cons_of_mem _ before)⟩

theorem previewFrom_distinct (rows : List RawRow) : ∀ {line : Nat} {seen : List String}
    {previewed : List ImportRow},
    accounts.previewFrom month line seen rows = .ok previewed →
    previewed.Pairwise fun first second =>
      first.errors = [] → second.errors = [] → first.meterId ≠ second.meterId := by
  induction rows with
  | nil =>
    intro line seen previewed returned
    cases returned
    exact .nil
  | cons raw rest ih =>
    intro line seen previewed returned
    cases numbered : raw.meterNumber with
    | none =>
      obtain ⟨row, others, second, rfl, failed⟩ := previewFrom_unnumbered numbered returned
      exact .cons (fun _ _ valid => absurd valid failed) (ih second)
    | some number =>
      obtain ⟨row, others, first, second, rfl⟩ := previewFrom_cons numbered returned
      refine .cons (fun later member valid laterValid same => ?_) (ih second)
      obtain ⟨_, meter, found, _, offered, _⟩ := previewRow_valid first valid
      obtain ⟨other, again, unseen⟩ := previewFrom_offered rest second later member laterValid
      have level : other.id = meter.id :=
        Option.some.inj (again.meterId.symm.trans (same.symm.trans offered.meterId))
      obtain rfl : other = meter := Option.some.inj (again.found.symm.trans (level ▸ offered.found))
      exact unseen ((activeMeter_found found).2.2 ▸ List.mem_cons_self)

theorem previewFrom_returns (rows : List RawRow) : ∀ (line : Nat) {seen : List String},
    Foreseen accounts today month seen rows →
    ∃ previewed, accounts.previewFrom month line seen rows = .ok previewed := by
  induction rows with
  | nil => exact fun _ _ => fun _ => ⟨_, rfl⟩
  | cons raw rest ih =>
    intro line seen foreseen
    unfold Foreseen at foreseen
    unfold Accounts.previewFrom
    cases numbered : raw.meterNumber with
    | none =>
      simp only [numbered] at foreseen ⊢
      obtain ⟨others, second⟩ := ih (line + 1) foreseen
      exact ⟨_, bind_eq_ok_iff.mpr ⟨others, second, rfl⟩⟩
    | some number =>
      simp only [numbered] at foreseen ⊢
      obtain ⟨row, first⟩ := previewRow_returns.mpr fun meter found => (foreseen.1 meter found).1
      obtain ⟨others, second⟩ := ih (line + 1) foreseen.2
      exact ⟨_, bind_eq_ok_iff.mpr ⟨row, first, bind_eq_ok_iff.mpr ⟨others, second, rfl⟩⟩⟩

theorem foreseen_iff (rows : List RawRow) : ∀ {line : Nat} {seen : List String}
    {previewed : List ImportRow},
    accounts.previewFrom month line seen rows = .ok previewed →
    (Foreseen accounts today month seen rows ↔
      ∀ row ∈ previewed, row.errors = [] → KeptRow accounts today month row) := by
  induction rows with
  | nil =>
    intro line seen previewed returned
    cases returned
    exact ⟨fun _ => List.forall_mem_nil _, fun _ => trivial⟩
  | cons raw rest ih =>
    intro line seen previewed returned
    unfold Foreseen
    cases numbered : raw.meterNumber with
    | none =>
      obtain ⟨row, others, second, rfl, failed⟩ := previewFrom_unnumbered numbered returned
      simp only
      rw [ih second, List.forall_mem_cons]
      exact ⟨fun kept => ⟨fun valid => absurd valid failed, kept⟩, fun kept => kept.2⟩
    | some number =>
      obtain ⟨row, others, first, second, rfl⟩ := previewFrom_cons numbered returned
      simp only
      rw [ih second, List.forall_mem_cons]
      refine and_congr_left fun _ => ⟨fun kept valid meter offered => ?_, fun kept meter found => ?_⟩
      · obtain ⟨fresh, other, found, sound, again, value, readAt⟩ := previewRow_valid first valid
        obtain rfl := offered_unique again offered
        rw [value, readAt]
        exact (kept meter found).2 (of_decide_eq_false fresh) sound
      · refine ⟨previewRow_returns.mp ⟨row, first⟩ meter found, fun unseen sound => ?_⟩
        rw [decide_eq_false unseen] at first
        have valid := previewRow_sound first found sound
        obtain ⟨_, other, again, _, offered, value, readAt⟩ := previewRow_valid first valid
        cases found.symm.trans again
        rw [← value, ← readAt]
        exact kept valid meter offered

end

theorem foreseen_of_predicts {accounts : Accounts} {today : Day} {period : ReportingPeriod}
    {rows : List RawRow} (exact : ∀ reading ∈ accounts.readings.rows, Exact reading.value)
    (predicts : PreviewPredicts accounts today period rows) :
    Foreseen accounts today period.month [] rows := by
  obtain ⟨previewed, returned, _, commits⟩ := predicts
  obtain ⟨written, entered, saved⟩ := commits []
  refine (foreseen_iff rows returned).mpr fun row member valid => ?_
  have offered : AllOffered accounts period.month [] previewed := fun other listed chosen =>
    (previewFrom_offered rows returned other listed chosen.2).imp fun _ found => found.1
  have distinct : Distinct [] previewed :=
    (previewFrom_distinct rows returned).imp fun apart chosen second => apart chosen.2 second.2
  exact kept_of_entered (fun _ => exact_previousValue exact) previewed (fun _ => rfl) offered
    distinct entered saved row member ⟨List.not_mem_nil, valid⟩

instance computableDecidable (meter : Meter) (previous : Option ℚ) :
    (cell : AmountCell) → Decidable (Computable meter previous cell)
  | .blank => .isTrue trivial
  | .unreadable => .isTrue trivial
  | .nan signaling => inferInstanceAs (Decidable (previous = none ∧ signaling = false))
  | .infinite negative => inferInstanceAs (Decidable (previous.isSome = true ∧ negative = true))
  | .amount value => decidable_of_iff
      (previous.any (value < ·) = true ∨
        (computeConsumption previous value meter.coefficient .normal meter.maxDigits).isOk = true)
      (or_congr_right isOk_iff)

instance cellSoundDecidable (missingReason : Option MissingReason) (previous : Option ℚ) :
    (cell : AmountCell) → Decidable (cell.Sound missingReason previous)
  | .blank => inferInstanceAs (Decidable (missingReason ≠ none))
  | .unreadable => .isFalse id
  | .nan _ => .isFalse id
  | .infinite _ => .isFalse id
  | .amount value => inferInstanceAs (Decidable (0 ≤ value ∧ previous.any (value < ·) = false))

instance rowSoundDecidable (raw : RawRow) (month : Month) (previous : Option ℚ) :
    Decidable (raw.Sound month previous) :=
  decidable_of_iff ((raw.period = none ∨ raw.period = some (some month)) ∧
      raw.readingValue.Sound raw.missingReason previous ∧ raw.readAt ≠ some none)
    ⟨fun parts => ⟨parts.1, parts.2.1, parts.2.2⟩, fun sound => ⟨sound.1, sound.2, sound.3⟩⟩

instance fitsDecidable (today : Day) (month : Month) (meter : Meter) (previous : Option ℚ)
    (value : ℚ) (readAt : Option Day) : Decidable (Fits today month meter previous value readAt) :=
  decidable_of_iff
    ((∃ bounds, periodMonthBounds month = .ok bounds ∧ dateProblems today month
        (some (readAt.getD (defaultDay today bounds.1 bounds.2))) = .ok []) ∧
      capacityProblems meter.maxDigits value = [] ∧ Exact (some value) ∧
        ∀ consumption, computeConsumption previous value meter.coefficient .normal
          meter.maxDigits = .ok consumption → Exact (some consumption))
    ⟨fun parts => ⟨parts.1, parts.2.1, parts.2.2.1, parts.2.2.2⟩,
      fun fits => ⟨fits.1, fits.2, fits.3, fits.4⟩⟩

instance keepsDecidable (today : Day) (month : Month) (meter : Meter) (previous : Option ℚ)
    (readAt : Option Day) :
    (value : Option ℚ) → Decidable (Keeps today month meter previous readAt value)
  | none => inferInstanceAs (Decidable (previous = none))
  | some value => inferInstanceAs (Decidable (Fits today month meter previous value readAt))

instance foreseenDecidable (accounts : Accounts) (today : Day) (month : Month) :
    (seen : List String) → (rows : List RawRow) → Decidable (Foreseen accounts today month seen rows)
  | _, [] => .isTrue trivial
  | seen, raw :: rest =>
    match numbered : raw.meterNumber with
    | none =>
      have later := foreseenDecidable accounts today month seen rest
      decidable_of_iff (Foreseen accounts today month seen rest) (by simp [Foreseen, numbered])
    | some number =>
      have later := foreseenDecidable accounts today month (number :: seen) rest
      decidable_of_iff
        ((∀ meter ∈ accounts.activeMeter number,
          Computable meter (accounts.previousValue meter.id month) raw.readingValue ∧
            (number ∉ seen → raw.Sound month (accounts.previousValue meter.id month) →
              Keeps today month meter (accounts.previousValue meter.id month) raw.readAt.join
                raw.readingValue.parsed)) ∧
          Foreseen accounts today month (number :: seen) rest)
        (by simp only [Foreseen, numbered])

def threeDigits : Accounts :=
  run Accounts.next
    (.opening ((Table.empty : Table Meter.id).save { hallMeter with maxDigits := some 3 }) fun _ => none)
    (orderedEntries.map fun event => (event.1, AccountsCall.worksheet event.2))

def openFebruary : ReportingPeriod := ⟨february, .opened⟩

def fileRow (value : AmountCell) : RawRow := ⟨some "RD-0001", none, value, none, "", none⟩

end InfrasafeBot.ResourceAccounting
