import InfrasafeBot.ResourceAccounting.WorksheetRuns

/-! Reconciliation acts. A row prints the consumption that is stored with its reading next to
the baseline, the value and the coefficient as they are when the act is built; what keeps the
two in agreement over entries, corrections and meter edits. -/

set_option autoImplicit false

namespace InfrasafeBot.ResourceAccounting

open Library Machine

def ActRow.Agrees (row : ActRow) (kind : ReadingKind) (maxDigits : Option Nat) : Prop :=
  match row.consumption with
  | none => True
  | some consumption =>
    match row.currentValue with
    | none => False
    | some value =>
      computeConsumption row.previousValue value row.coefficient kind maxDigits = .ok consumption

instance agreesDecidable (row : ActRow) (kind : ReadingKind) (maxDigits : Option Nat) :
    Decidable (row.Agrees kind maxDigits) := by
  unfold ActRow.Agrees
  cases row.consumption with
  | none => exact .isTrue trivial
  | some consumption =>
    cases row.currentValue with
    | none => exact .isFalse id
    | some value => exact inferInstanceAs (Decidable (_ = _))

def passes (today : Day) (meter : Meter) (month : Month) (previous : Option ℚ) (value : ℚ)
    (readAt : Option Day) (kind : ReadingKind) : Bool :=
  valueProblems today meter month previous value readAt kind = .ok []

section

variable (accounts : Accounts)

/-- The reading is the meter's last one with a value. -/
def LastValued (reading : Reading) : Prop :=
  ∀ later ∈ accounts.readings.rows, later.meterId = reading.meterId →
    reading.month < later.month → later.value = none

instance lastValuedDecidable (reading : Reading) : Decidable (LastValued accounts reading) :=
  inferInstanceAs (Decidable (∀ later ∈ accounts.readings.rows,
    later.meterId = reading.meterId → reading.month < later.month → later.value = none))

/-- A recomputed reading is accepted as before, or has no later one behind it. -/
def Steady (today : Day) (meter : Meter) (corrected : ReadingKey) (newValue : ℚ)
    (reading : Reading) : Prop :=
  match reading.value with
  | none => True
  | some value =>
    reading.usable = passes today meter reading.month
        (accounts.heldPrevious corrected newValue meter.id reading.month) value reading.readAt
        reading.kind ∨
      LastValued accounts reading

instance steadyDecidable (today : Day) (meter : Meter) (corrected : ReadingKey) (newValue : ℚ)
    (reading : Reading) : Decidable (Steady accounts today meter corrected newValue reading) := by
  unfold Steady
  cases reading.value with
  | none => exact .isTrue trivial
  | some value => exact inferInstanceAs (Decidable (_ ∨ LastValued accounts reading))

/-- The corrected value fits its column, the correction changes no acceptance that a later
reading stands on, and no consumption of a closed period stands on the corrected value. -/
structure Followed (today : Day) (row : Reading) (meter : Meter) (newValue : ℚ)
    (kind : ReadingKind) : Prop where
  fits : Exact (some newValue)
  corrected : row.usable = passes today meter row.month
      (accounts.previousValue meter.id row.month) newValue row.readAt kind ∨
    LastValued accounts row
  recomputed : ∀ later ∈ accounts.readings.rows,
    accounts.recomputable meter.id row.month later = true →
      Steady accounts today meter row.key newValue later
  closed : ∀ later ∈ accounts.readings.rows, later.consumption.isSome = true →
    later.meterId = meter.id → row.month < later.month → accounts.unclosed later.month = false →
      accounts.heldPrevious row.key newValue meter.id later.month =
        accounts.previousValue meter.id later.month

instance followedDecidable (today : Day) (row : Reading) (meter : Meter) (newValue : ℚ)
    (kind : ReadingKind) : Decidable (Followed accounts today row meter newValue kind) :=
  decidable_of_iff
    (Exact (some newValue) ∧
      (row.usable = passes today meter row.month (accounts.previousValue meter.id row.month)
          newValue row.readAt kind ∨ LastValued accounts row) ∧
      (∀ later ∈ accounts.readings.rows,
        accounts.recomputable meter.id row.month later = true →
          Steady accounts today meter row.key newValue later) ∧
      ∀ later ∈ accounts.readings.rows, later.consumption.isSome = true →
        later.meterId = meter.id → row.month < later.month →
          accounts.unclosed later.month = false →
            accounts.heldPrevious row.key newValue meter.id later.month =
              accounts.previousValue meter.id later.month)
    ⟨fun ⟨fits, corrected, recomputed, closed⟩ => ⟨fits, corrected, recomputed, closed⟩,
      fun ⟨fits, corrected, recomputed, closed⟩ => ⟨fits, corrected, recomputed, closed⟩⟩

/-- A correction that succeeds is one the later rows follow. -/
def SafeCorrection (today : Day) (key : ReadingKey) (newValue : ℚ) (reason : String)
    (kind : ReadingKind) : Prop :=
  match accounts.createCorrection today key newValue reason kind, accounts.readings.find? key with
  | .ok _, some row =>
    match accounts.meters.find? row.meterId with
    | some meter => Followed accounts today row meter newValue kind
    | none => True
  | _, _ => True

/-- A reading with a consumption keeps the coefficient and, after a rollover, the digits that
it has been computed with. -/
def SafePatch (meter : MeterId) (patch : MeterPatch) : Prop :=
  match accounts.meters.find? meter with
  | none => True
  | some row =>
    ∀ reading ∈ accounts.readings.rows, reading.meterId = meter →
      reading.consumption.isSome = true →
        coefficientColumn row.coefficient patch.coefficient = .ok row.coefficient ∧
          (reading.kind = .rollover → patch.maxDigits.getD row.maxDigits = row.maxDigits)

def countedReading (_ : Accounts) (reading : Reading) : Bool := reading.consumption.isSome

/-- What keeps the acts in agreement, on the accounts before the call. -/
def ActsSafe (accounts : Accounts) (event : Day × AccountsCall) : Prop :=
  match event.2 with
  | .worksheet (.period _) => True
  | .worksheet (.entry call) => SafeEntry countedReading accounts event.1 call
  | .correct key newValue reason kind => SafeCorrection accounts event.1 key newValue reason kind
  | .updateMeter meter patch => SafePatch accounts meter patch

instance actsSafeDecidable (event : Day × AccountsCall) : Decidable (ActsSafe accounts event) := by
  unfold ActsSafe
  cases event.2 with
  | worksheet call =>
    cases call with
    | period call => exact .isTrue trivial
    | entry call => exact safeEntryDecidable countedReading accounts event.1 call
  | correct key newValue reason kind =>
    dsimp only
    unfold SafeCorrection
    cases accounts.createCorrection event.1 key newValue reason kind with
    | error refusal => exact .isTrue trivial
    | ok written =>
      cases accounts.readings.find? key with
      | none => exact .isTrue trivial
      | some row =>
        dsimp only
        cases accounts.meters.find? row.meterId with
        | none => exact .isTrue trivial
        | some meter => exact followedDecidable accounts event.1 row meter newValue kind
  | updateMeter meter patch =>
    dsimp only
    unfold SafePatch
    cases accounts.meters.find? meter with
    | none => exact .isTrue trivial
    | some row =>
      exact inferInstanceAs (Decidable (∀ reading ∈ accounts.readings.rows,
        reading.meterId = meter → reading.consumption.isSome = true → _ ∧ _))

end

variable {written : Accounts} {today : Day} {meter : Meter} {key : ReadingKey} {newValue value : ℚ}
  {reason : String} {kind : ReadingKind} {row reading : Reading} {rows : List Reading}
  {id : MeterId}

section

variable {accounts : Accounts} {new old : Reading} {recomputed : List Reading} {month : Month}

theorem Evaluated.usable (held : reading.value = some value)
    (evaluated : Evaluated today meter reading value) :
    reading.usable = passes today meter reading.month reading.previousValue value reading.readAt
      reading.kind := by
  obtain ⟨problems, collected, ⟨found, failed, _⟩ | ⟨rfl, accepted, _⟩⟩ := evaluated
  · have other : ¬ (Except.ok problems : Except Refusal (List Problem)) = .ok [] :=
      fun same => found (Except.ok.inj same)
    simp [Reading.usable, passes, collected, failed, ReadingStatus.accepted, other]
  · simp [Reading.usable, passes, collected, accepted, held]

theorem correctedRow_ok
    (returned : accounts.correctedRow today meter newValue reason kind row = .ok new) :
    new.key = row.key ∧ new.value = some newValue ∧
      new.previousValue = accounts.previousValue meter.id row.month ∧ new.readAt = row.readAt ∧
        new.kind = kind ∧ Evaluated today meter new newValue := by
  obtain ⟨result, evaluated, made⟩ := bind_eq_ok_iff.mp returned
  have judged := evaluateValue_ok evaluated
  cases made
  exact ⟨rfl, rfl, rfl, rfl, rfl, judged⟩

theorem recomputedRow_ok (held : old.value = some value)
    (returned : accounts.recomputedRow today meter key newValue old = .ok new) :
    new.key = old.key ∧ new.value = some value ∧
      new.previousValue = accounts.heldPrevious key newValue meter.id old.month ∧
        new.readAt = old.readAt ∧ new.kind = old.kind ∧ Evaluated today meter new value := by
  unfold Accounts.recomputedRow at returned
  simp only [held] at returned
  obtain ⟨result, evaluated, made⟩ := bind_eq_ok_iff.mp returned
  have judged := evaluateValue_ok evaluated
  cases made
  exact ⟨rfl, rfl, rfl, rfl, rfl, judged⟩

theorem recomputable_iff : accounts.recomputable id month reading = true ↔
    reading.meterId = id ∧ month < reading.month ∧ reading.value.isSome = true ∧
      accounts.unclosed reading.month = true := by
  simp only [Accounts.recomputable, Bool.and_eq_true, decide_eq_true_eq]
  constructor
  · rintro ⟨⟨⟨own, later⟩, valued⟩, unclosed⟩
    exact ⟨own, later, valued, unclosed⟩
  · rintro ⟨own, later, valued, unclosed⟩
    exact ⟨⟨⟨own, later⟩, valued⟩, unclosed⟩

/-- The rows that a correction writes: each is a stored one with the value that the session
holds for it. -/
structure Rewrites (accounts : Accounts) (key : ReadingKey) (newValue : ℚ)
    (rows : List Reading) : Prop where
  distinct : (rows.map Reading.key).Nodup
  corrected : key ∈ rows.map Reading.key
  stored : ∀ new ∈ rows, ∃ old ∈ accounts.readings.rows, old.key = new.key ∧
    new.value = Accounts.heldValue key newValue old

/-- No row before the month becomes a baseline or ceases to be one. -/
def SteadyBefore (accounts : Accounts) (id : MeterId) (month : Month) (rows : List Reading) : Prop :=
  ∀ new ∈ rows, new.meterId = id → new.month < month →
    ∀ old ∈ accounts.readings.rows, old.key = new.key → old.usable = new.usable

theorem heldValue_of_ne (different : old.key ≠ key) : Accounts.heldValue key newValue old = old.value :=
  if_neg different

theorem previousValue_saveRows (rewrites : Rewrites accounts key newValue rows)
    (steady : SteadyBefore accounts id month rows) :
    (accounts.saveRows rows).previousValue id month =
      accounts.heldPrevious key newValue id month := by
  have member : ∀ {reading}, reading ∈ (accounts.saveRows rows).readings.rows ↔
      reading ∈ rows ∨ reading ∈ accounts.readings.rows ∧ reading.key ∉ rows.map Reading.key :=
    Table.mem_foldl_save rewrites.distinct
  -- a baseline after the correction stands where one has stood before
  have before : ∀ reading ∈ (accounts.saveRows rows).readings.rows,
      mayPrecede id month reading = true →
        ∃ old ∈ accounts.readings.rows, mayPrecede id month old = true ∧
          old.month = reading.month := by
    intro reading listed precedes
    obtain ⟨own, usable, earlier⟩ := mayPrecede_iff.mp precedes
    rcases member.mp listed with new | ⟨untouched, _⟩
    · obtain ⟨old, oldListed, same, _⟩ := rewrites.stored reading new
      have sameMeter : old.meterId = reading.meterId := congrArg Prod.fst same
      have sameMonth : old.month = reading.month := congrArg Prod.snd same
      refine ⟨old, oldListed, mayPrecede_iff.mpr ⟨sameMeter.trans own, ?_, sameMonth ▸ earlier⟩, sameMonth⟩
      rw [steady reading new own earlier old oldListed same]
      exact usable
    · exact ⟨reading, untouched, precedes, rfl⟩
  unfold Accounts.previousValue Accounts.heldPrevious
  cases found : accounts.getPreviousAccepted id month with
  | none =>
    have gone : (accounts.saveRows rows).getPreviousAccepted id month = none := by
      refine latest_eq_none_iff.mpr fun reading listed => ?_
      by_contra precedes
      obtain ⟨old, oldListed, oldPrecedes, _⟩ :=
        before reading listed (Bool.eq_true_of_not_eq_false precedes)
      rw [latest_eq_none_iff.mp found old oldListed] at oldPrecedes
      cases oldPrecedes
    rw [gone]
    rfl
  | some best =>
    obtain ⟨bestListed, bestPrecedes⟩ := latest_selected found
    obtain ⟨own, usable, earlier⟩ := mayPrecede_iff.mp bestPrecedes
    have above : ∀ reading ∈ (accounts.saveRows rows).readings.rows,
        mayPrecede id month reading = true → reading.month ≤ best.month := by
      intro reading listed precedes
      obtain ⟨old, oldListed, oldPrecedes, sameMonth⟩ := before reading listed precedes
      exact sameMonth ▸ le_latest found oldListed oldPrecedes
    by_cases rewritten : best.key ∈ rows.map Reading.key
    · obtain ⟨new, newListed, same⟩ := List.mem_map.mp rewritten
      have sameMeter : new.meterId = best.meterId := congrArg Prod.fst same
      have sameMonth : new.month = best.month := congrArg Prod.snd same
      obtain ⟨old, oldListed, oldSame, held⟩ := rewrites.stored new newListed
      obtain rfl : old = best := Table.eq_of_key oldListed bestListed (oldSame.trans same)
      have newUsable : new.usable = true := by
        rw [← steady new newListed (sameMeter.trans own) (sameMonth ▸ earlier) old oldListed oldSame]
        exact usable
      have newest : (accounts.saveRows rows).getPreviousAccepted id month = some new := by
        refine latest_eq_some (mayPrecede_ordered _) (member.mpr (.inl newListed))
          (mayPrecede_iff.mpr ⟨sameMeter.trans own, newUsable, sameMonth ▸ earlier⟩)
          fun other listed precedes => ?_
        exact sameMonth ▸ above other listed precedes
      rw [newest]
      exact held
    · have unchanged : (accounts.saveRows rows).getPreviousAccepted id month = some best :=
        latest_eq_some (mayPrecede_ordered _) (member.mpr (.inr ⟨bestListed, rewritten⟩))
          bestPrecedes above
      have different : best.key ≠ key := fun same => rewritten (same ▸ rewrites.corrected)
      rw [unchanged]
      exact (heldValue_of_ne different).symm

structure Corrected (accounts written : Accounts) (today : Day) (row : Reading) (meter : Meter)
    (newValue : ℚ) (kind : ReadingKind) (rows : List Reading) : Prop where
  rewrites : Rewrites accounts row.key newValue rows
  saved : written = accounts.saveRows rows
  own : ∀ new ∈ rows, new.meterId = meter.id ∧ row.month ≤ new.month
  exact : ∀ new ∈ rows, Exact new.value
  corrected : ∃ new ∈ rows, new.key = row.key
  covers : ∀ later ∈ accounts.readings.rows,
    accounts.recomputable meter.id row.month later = true → later.key ∈ rows.map Reading.key
  evaluated : ∀ new ∈ rows, ∃ value, new.value = some value ∧ Evaluated today meter new value ∧
    new.previousValue = accounts.heldPrevious row.key newValue meter.id new.month
  steady : ∀ new ∈ rows, ∀ old ∈ accounts.readings.rows, old.key = new.key →
    old.usable = new.usable ∨ LastValued accounts old

theorem createCorrection_ok
    (returned : accounts.createCorrection today key newValue reason kind = .ok written) :
    ∃ row meter corrected recomputed, accounts.readings.find? key = some row ∧
      accounts.meters.find? row.meterId = some meter ∧
      accounts.correctedRow today meter newValue reason kind row = .ok corrected ∧
      accounts.recomputeForward today meter row.key newValue = .ok recomputed ∧
      ∃ rows, (corrected :: recomputed).mapM Reading.stored = .ok rows ∧
        written = accounts.saveRows rows := by
  unfold Accounts.createCorrection at returned
  split at returned
  · cases returned
  · next row found =>
      obtain ⟨period, _, rest⟩ := bind_eq_ok_iff.mp returned
      dsimp only at rest
      split at rest
      · cases rest
      · unfold Accounts.applyCorrection at rest
        split at rest
        · cases rest
        · next meter known =>
            obtain ⟨corrected, first, more⟩ := bind_eq_ok_iff.mp rest
            obtain ⟨recomputed, second, last⟩ := bind_eq_ok_iff.mp more
            obtain ⟨rows, kept, saved⟩ := bind_eq_ok_iff.mp last
            exact ⟨row, meter, corrected, recomputed, found, known, first, second, rows, kept,
              (Except.ok.inj saved).symm⟩

theorem heldPrevious_of_le (early : month ≤ key.2) :
    accounts.heldPrevious key newValue id month = accounts.previousValue id month := by
  unfold Accounts.heldPrevious Accounts.previousValue
  cases found : accounts.getPreviousAccepted id month with
  | none => rfl
  | some best =>
    obtain ⟨_, _, earlier⟩ := mayPrecede_iff.mp (latest_selected found).2
    have different : best.key ≠ key := by
      rintro rfl
      exact Nat.not_lt.mpr early earlier
    exact heldValue_of_ne different

theorem heldPrevious_of_foreign (foreign : id ≠ key.1) :
    accounts.heldPrevious key newValue id month = accounts.previousValue id month := by
  unfold Accounts.heldPrevious Accounts.previousValue
  cases found : accounts.getPreviousAccepted id month with
  | none => rfl
  | some best =>
    have own := (mayPrecede_iff.mp (latest_selected found).2).1
    have different : best.key ≠ key := by
      rintro rfl
      exact foreign own.symm
    exact heldValue_of_ne different

theorem exact_heldPrevious
    (exact : ∀ reading ∈ accounts.readings.rows, Exact reading.value)
    (fits : Exact (some newValue)) : Exact (accounts.heldPrevious key newValue id month) := by
  unfold Accounts.heldPrevious
  cases found : accounts.getPreviousAccepted id month with
  | none => exact exact_none
  | some best =>
    change Exact (Accounts.heldValue key newValue best)
    unfold Accounts.heldValue
    split
    · exact fits
    · exact exact best (latest_selected found).1

section

variable (returned : accounts.recomputeForward today meter key newValue = .ok recomputed)

include returned

theorem mem_recomputed (listed : new ∈ recomputed) :
    ∃ old ∈ accounts.readings.rows, accounts.recomputable meter.id key.2 old = true ∧
      ∃ value, old.value = some value ∧
        accounts.recomputedRow today meter key newValue old = .ok new := by
  obtain ⟨old, sorted, made⟩ := mem_result_of_mapM returned listed
  obtain ⟨oldListed, wanted⟩ := List.mem_filter.mp ((List.mem_insertionSort _).mp sorted)
  obtain ⟨value, held⟩ := Option.isSome_iff_exists.mp (recomputable_iff.mp wanted).2.2.1
  exact ⟨old, oldListed, wanted, value, held, made⟩

theorem recomputed_of_mem (listed : old ∈ accounts.readings.rows)
    (wanted : accounts.recomputable meter.id key.2 old = true) :
    ∃ new ∈ recomputed, new.key = old.key := by
  obtain ⟨new, newListed, made⟩ := mem_value_of_mapM returned
    ((List.mem_insertionSort _).mpr (List.mem_filter.mpr ⟨listed, wanted⟩))
  obtain ⟨value, held⟩ := Option.isSome_iff_exists.mp (recomputable_iff.mp wanted).2.2.1
  exact ⟨new, newListed, (recomputedRow_ok held made).1⟩

theorem recomputed_distinct :
    (recomputed.map Reading.key).Nodup := by
  have keeps : ∀ old ∈ (accounts.readings.rows.filter
      (accounts.recomputable meter.id key.2)).insertionSort (fun left right =>
        left.month ≤ right.month), ∀ new,
      accounts.recomputedRow today meter key newValue old = .ok new → new.key = old.key := by
    intro old sorted new made
    have wanted := (List.mem_filter.mp ((List.mem_insertionSort _).mp sorted)).2
    obtain ⟨value, held⟩ := Option.isSome_iff_exists.mp (recomputable_iff.mp wanted).2.2.1
    exact (recomputedRow_ok held made).1
  rw [map_of_mapM keeps returned]
  refine ((List.perm_insertionSort _ _).map Reading.key).nodup_iff.mpr ?_
  exact accounts.readings.unique.sublist (List.filter_sublist.map Reading.key)

end

theorem steady_corrected (followed : Followed accounts today row meter newValue kind)
    (first : accounts.correctedRow today meter newValue reason kind row = .ok new) :
    row.usable = new.usable ∨ LastValued accounts row := by
  obtain ⟨sameKey, value, previous, readAt, sameKind, evaluated⟩ := correctedRow_ok first
  have month : new.month = row.month := congrArg Prod.snd sameKey
  rw [evaluated.usable value, month, previous, readAt, sameKind]
  exact followed.corrected

theorem steady_recomputed (held : old.value = some value)
    (steady : Steady accounts today meter key newValue old)
    (made : accounts.recomputedRow today meter key newValue old = .ok new) :
    old.usable = new.usable ∨ LastValued accounts old := by
  obtain ⟨sameKey, sameValue, previous, readAt, sameKind, evaluated⟩ := recomputedRow_ok held made
  have month : new.month = old.month := congrArg Prod.snd sameKey
  rw [evaluated.usable sameValue, month, previous, readAt, sameKind]
  unfold Steady at steady
  simpa only [held] using steady

theorem rows_stored (exact : ∀ reading ∈ accounts.readings.rows, Exact reading.value)
    (fits : Exact (some newValue))
    (first : accounts.correctedRow today meter newValue reason kind row = .ok new)
    (second : accounts.recomputeForward today meter row.key newValue = .ok recomputed)
    (kept : (new :: recomputed).mapM Reading.stored = .ok rows) : rows = new :: recomputed := by
  obtain ⟨_, value, previous, _, _, evaluated⟩ := correctedRow_ok first
  have same : rows.map id = (new :: recomputed).map id := by
    refine map_of_mapM (fun reading member stored made => ?_) kept
    rcases List.mem_cons.mp member with rfl | member
    · exact stored_eq_self (value ▸ fits) (previous ▸ exact_previousValue exact)
        evaluated.consumption_places made
    · obtain ⟨old, listed, _, amount, held, madeFrom⟩ := mem_recomputed second member
      obtain ⟨_, sameValue, heldPrevious, _, _, judged⟩ := recomputedRow_ok held madeFrom
      exact stored_eq_self (sameValue ▸ held ▸ exact old listed)
        (heldPrevious ▸ exact_heldPrevious exact fits) judged.consumption_places made
  simpa using same

theorem corrected_ok (exact : ∀ reading ∈ accounts.readings.rows, Exact reading.value)
    (listed : row ∈ accounts.readings.rows) (ownMeter : row.meterId = meter.id)
    (followed : Followed accounts today row meter newValue kind)
    (first : accounts.correctedRow today meter newValue reason kind row = .ok new)
    (second : accounts.recomputeForward today meter row.key newValue = .ok recomputed)
    (kept : (new :: recomputed).mapM Reading.stored = .ok rows) :
    Corrected accounts (accounts.saveRows rows) today row meter newValue kind rows := by
  obtain rfl := rows_stored exact followed.fits first second kept
  obtain ⟨sameKey, value, previous, _, _, evaluated⟩ := correctedRow_ok first
  have sameMeter : new.meterId = row.meterId := congrArg Prod.fst sameKey
  have sameMonth : new.month = row.month := congrArg Prod.snd sameKey
  -- every other row is recomputed from a later one
  have later : ∀ other ∈ recomputed, ∃ old ∈ accounts.readings.rows,
      old.key = other.key ∧ old.meterId = meter.id ∧ row.month < old.month ∧
        accounts.recomputable meter.id row.month old = true ∧
        ∃ value, old.value = some value ∧
          accounts.recomputedRow today meter row.key newValue old = .ok other := by
    intro other member
    obtain ⟨old, oldListed, wanted, amount, held, made⟩ := mem_recomputed second member
    have span := recomputable_iff.mp wanted
    exact ⟨old, oldListed, (recomputedRow_ok held made).1.symm, span.1, span.2.1, wanted, amount,
      held, made⟩
  have apart : ∀ old : Reading, row.month < old.month → old.key ≠ row.key := by
    intro old after same
    have level : old.month = row.month := congrArg Prod.snd same
    exact Nat.ne_of_gt after level
  refine ⟨⟨?_, ?_, ?_⟩, rfl, ?_, ?_, ?_, ?_, ?_, ?_⟩
  · refine List.nodup_cons.mpr ⟨fun repeated => ?_, recomputed_distinct second⟩
    obtain ⟨other, member, same⟩ := List.mem_map.mp repeated
    obtain ⟨old, _, oldKey, _, after, _⟩ := later other member
    exact apart old after (oldKey.trans (same.trans sameKey))
  · exact List.mem_map.mpr ⟨new, List.mem_cons_self, sameKey⟩
  · intro other member
    rcases List.mem_cons.mp member with rfl | member
    · exact ⟨row, listed, sameKey.symm, value.trans (if_pos rfl).symm⟩
    · obtain ⟨old, oldListed, oldKey, _, after, _, amount, held, made⟩ := later other member
      refine ⟨old, oldListed, oldKey, ?_⟩
      rw [heldValue_of_ne (apart old after), held]
      exact (recomputedRow_ok held made).2.1
  · intro other member
    rcases List.mem_cons.mp member with rfl | member
    · exact ⟨sameMeter.trans ownMeter, Nat.le_of_eq sameMonth.symm⟩
    · obtain ⟨old, _, oldKey, own, after, _⟩ := later other member
      have otherMeter : old.meterId = other.meterId := congrArg Prod.fst oldKey
      have otherMonth : old.month = other.month := congrArg Prod.snd oldKey
      exact ⟨otherMeter ▸ own, otherMonth ▸ Nat.le_of_lt after⟩
  · intro other member
    rcases List.mem_cons.mp member with rfl | member
    · exact value ▸ followed.fits
    · obtain ⟨old, oldListed, _, _, _, _, amount, held, made⟩ := later other member
      rw [(recomputedRow_ok held made).2.1, ← held]
      exact exact old oldListed
  · exact ⟨new, List.mem_cons_self, sameKey⟩
  · intro old oldListed wanted
    obtain ⟨other, member, same⟩ := recomputed_of_mem second oldListed wanted
    exact List.mem_map.mpr ⟨other, List.mem_cons_of_mem _ member, same⟩
  · intro other member
    rcases List.mem_cons.mp member with rfl | member
    · refine ⟨newValue, value, evaluated, ?_⟩
      have early : row.month ≤ row.key.2 := Nat.le_refl _
      rw [previous, sameMonth, heldPrevious_of_le early]
    · obtain ⟨old, _, oldKey, _, _, _, amount, held, made⟩ := later other member
      obtain ⟨_, sameValue, heldPrevious, _, _, judged⟩ := recomputedRow_ok held made
      have otherMonth : old.month = other.month := congrArg Prod.snd oldKey
      exact ⟨amount, sameValue, judged, otherMonth ▸ heldPrevious⟩
  · intro other member known knownListed same
    rcases List.mem_cons.mp member with rfl | member
    · obtain rfl : known = row := Table.eq_of_key knownListed listed (same.trans sameKey)
      exact steady_corrected followed first
    · obtain ⟨old, oldListed, oldKey, _, _, wanted, amount, held, made⟩ := later other member
      obtain rfl : known = old := Table.eq_of_key knownListed oldListed (same.trans oldKey.symm)
      exact steady_recomputed held (followed.recomputed known knownListed wanted) made

end

/-- A consumption that is stored is the one of the baseline, the value and the meter there are. -/
def Balanced (accounts : Accounts) (reading : Reading) : Prop :=
  ∀ consumption, reading.consumption = some consumption →
    ∃ meter value, accounts.meters.find? reading.meterId = some meter ∧
      reading.value = some value ∧
      computeConsumption (accounts.previousValue reading.meterId reading.month) value
        meter.coefficient reading.kind meter.maxDigits = .ok consumption

structure Accounts.Balance (accounts : Accounts) : Prop where
  exact : ∀ reading ∈ accounts.readings.rows, Exact reading.value
  balanced : ∀ reading ∈ accounts.readings.rows, Balanced accounts reading

section

variable {accounts : Accounts} {period : ReportingPeriod} {data : ReadingIn} {entered : List Entry}
  {patch : MeterPatch}

theorem Evaluated.balanced (evaluated : Evaluated today meter reading value)
    (held : reading.value = some value)
    (stored : accounts.meters.find? reading.meterId = some meter)
    (previous : reading.previousValue =
      accounts.previousValue reading.meterId reading.month) : Balanced accounts reading := by
  intro consumption computed
  obtain ⟨problems, _, ⟨_, _, none⟩ | ⟨_, _, other, returned, same⟩⟩ := evaluated
  · rw [none] at computed
    cases computed
  · obtain rfl : other = consumption := Option.some.inj (same.symm.trans computed)
    exact ⟨meter, value, stored, held, previous ▸ returned⟩

namespace Accounts.Balance

section

variable (balance : accounts.Balance)

include balance

theorem upsert (stored : accounts.meters.find? meter.id = some meter)
    (spares : SparesLater countedReading today period accounts meter data)
    (returned : accounts.upsertReading today period meter data = .ok written) :
    written.Balance ∧ written.meters = accounts.meters := by
  obtain ⟨row, result⟩ := upserted balance.exact spares.1 returned
  obtain rfl := result.saved
  have ownMeter : row.meterId = meter.id := congrArg Prod.fst result.key
  have ownMonth : row.month = period.month := congrArg Prod.snd result.key
  have unmoved : Unmoved accounts (countedReading accounts) row.meterId row.month
      row.usableValue := by
    rw [ownMeter, ownMonth, result.usable]
    exact spares.2
  refine ⟨⟨?_, ?_⟩, rfl⟩
  · intro reading listed
    rcases mem_saveRow.mp listed with rfl | ⟨before, _⟩
    · exact result.value ▸ spares.1
    · exact balance.exact reading before
  · intro reading listed
    rcases mem_saveRow.mp listed with rfl | ⟨before, _⟩
    · cases held : reading.value with
      | none =>
        intro consumption computed
        rw [result.missing held] at computed
        cases computed
      | some value =>
        refine (result.evaluated value held).balanced held (ownMeter ▸ stored) ?_
        rw [previousValue_saveRow_self, ownMeter, ownMonth]
        exact result.previous
    · intro consumption computed
      obtain ⟨known, value, found, held, agrees⟩ := balance.balanced reading before consumption computed
      have counted : countedReading accounts reading = true := by
        simp only [countedReading, computed, Option.isSome_some]
      exact ⟨known, value, found, held, (previousValue_saveRow unmoved before counted).symm ▸ agrees⟩

theorem enter (known : Known accounts entered)
    (spares : SparesAll countedReading today period accounts entered)
    (returned : accounts.enter today period entered = .ok written) : written.Balance := by
  induction entered generalizing accounts with
  | nil =>
    cases returned
    exact balance
  | cons entry rest ih =>
    obtain ⟨found, data⟩ := entry
    obtain ⟨meter, rfl, saved⟩ := bind_eq_ok_iff.mp returned
    obtain ⟨middle, first, later⟩ := bind_eq_ok_iff.mp saved
    unfold SparesAll at spares
    simp only [first] at spares
    obtain ⟨next, sameMeters⟩ := balance.upsert (known _ List.mem_cons_self meter rfl) spares.1 first
    refine ih next ?_ spares.2 later
    intro other listed row named
    rw [sameMeters]
    exact known other (List.mem_cons_of_mem _ listed) row named

theorem reopens (moved : Reopens accounts written) : written.Balance where
  exact := fun reading listed => balance.exact reading (moved.readings ▸ listed)
  balanced := by
    intro reading listed consumption computed
    obtain ⟨meter, value, found, held, agrees⟩ :=
      balance.balanced reading (moved.readings ▸ listed) consumption computed
    refine ⟨meter, value, moved.meters ▸ found, held, ?_⟩
    unfold Accounts.previousValue Accounts.getPreviousAccepted at agrees ⊢
    rwa [moved.readings]

theorem corrected (known : accounts.meters.find? row.meterId = some meter)
    (followed : Followed accounts today row meter newValue kind)
    (result : Corrected accounts written today row meter newValue kind rows) :
    written.Balance := by
  have ownMeter : meter.id = row.meterId := Table.key_of_find? known
  obtain rfl := result.saved
  have member : ∀ {reading}, reading ∈ (accounts.saveRows rows).readings.rows ↔
      reading ∈ rows ∨ reading ∈ accounts.readings.rows ∧ reading.key ∉ rows.map Reading.key :=
    Table.mem_foldl_save result.rewrites.distinct
  -- no rewritten row stands before the corrected one
  have early : ∀ month, month ≤ row.month → ∀ id, SteadyBefore accounts id month rows := by
    intro month below id new newListed _ before
    exact absurd (Nat.lt_of_lt_of_le before below) (Nat.not_lt.mpr (result.own new newListed).2)
  -- one that stands before a later value keeps its acceptance
  have behind : ∀ later ∈ accounts.readings.rows, later.value.isSome = true →
      SteadyBefore accounts later.meterId later.month rows := by
    intro later laterListed valued new newListed own before old oldListed same
    rcases result.steady new newListed old oldListed same with steady | last
    · exact steady
    · have sameMeter : old.meterId = new.meterId := congrArg Prod.fst same
      have sameMonth : old.month = new.month := congrArg Prod.snd same
      have gone := last later laterListed (own.symm.trans sameMeter.symm) (sameMonth ▸ before)
      rw [gone] at valued
      cases valued
  refine ⟨fun reading saved => ?_, fun reading saved => ?_⟩
  · rcases member.mp saved with new | ⟨before, _⟩
    · exact result.exact reading new
    · exact balance.exact reading before
  · rcases member.mp saved with new | ⟨before, untouched⟩
    · obtain ⟨value, held, evaluated, previous⟩ := result.evaluated reading new
      obtain ⟨own, notEarlier⟩ := result.own reading new
      refine evaluated.balanced held (own.symm ▸ ownMeter ▸ known) ?_
      have steady : SteadyBefore accounts reading.meterId reading.month rows := by
        rcases Nat.lt_or_eq_of_le notEarlier with after | level
        · obtain ⟨old, oldListed, same, sameValue⟩ := result.rewrites.stored reading new
          have sameMeter : old.meterId = reading.meterId := congrArg Prod.fst same
          have sameMonth : old.month = reading.month := congrArg Prod.snd same
          have different : old.key ≠ row.key := by
            intro again
            have level : old.month = row.month := congrArg Prod.snd again
            exact Nat.ne_of_gt after (sameMonth.symm.trans level)
          rw [heldValue_of_ne different, held] at sameValue
          have valued : old.value.isSome = true := Option.isSome_of_mem sameValue.symm
          have steady := behind old oldListed valued
          rwa [sameMeter, sameMonth] at steady
        · exact early reading.month (Nat.le_of_eq level.symm) reading.meterId
      rw [previousValue_saveRows result.rewrites steady, previous, own]
    · intro consumption computed
      obtain ⟨other, value, found, held, agrees⟩ := balance.balanced reading before consumption computed
      refine ⟨other, value, found, held, ?_⟩
      have valued : reading.value.isSome = true := Option.isSome_of_mem held
      have steady := behind reading before valued
      rw [previousValue_saveRows result.rewrites steady]
      have unmoved : accounts.heldPrevious row.key newValue reading.meterId reading.month =
          accounts.previousValue reading.meterId reading.month := by
        by_cases foreign : reading.meterId ≠ row.meterId
        · exact heldPrevious_of_foreign foreign
        · have own : reading.meterId = meter.id := (not_not.mp foreign).trans ownMeter.symm
          by_cases after : row.month < reading.month
          · have closed : accounts.unclosed reading.month = false := by
              by_contra unclosed
              exact untouched (result.covers reading before (recomputable_iff.mpr
                ⟨own, after, valued, Bool.eq_true_of_not_eq_false unclosed⟩))
            rw [own]
            exact followed.closed reading before (Option.isSome_of_mem computed) own after closed
          · exact heldPrevious_of_le (Nat.le_of_not_lt after)
      rw [unmoved]
      exact agrees

theorem correct (safe : SafeCorrection accounts today key newValue reason kind)
    (returned : accounts.createCorrection today key newValue reason kind = .ok written) :
    written.Balance := by
  obtain ⟨row, meter, new, recomputed, found, known, first, second, rows, kept, rfl⟩ :=
    createCorrection_ok returned
  have followed : Followed accounts today row meter newValue kind := by
    unfold SafeCorrection at safe
    simpa only [returned, found, known] using safe
  have listed := Table.mem_of_find? found
  have ownMeter : row.meterId = meter.id := (Table.key_of_find? known).symm
  exact balance.corrected known followed
    (corrected_ok balance.exact listed ownMeter followed first second kept)

end

end Accounts.Balance

theorem computeConsumption_digits {previous : Option ℚ} {current coefficient : ℚ}
    {maxDigits others : Option Nat} (same : kind = .rollover → others = maxDigits) :
    computeConsumption previous current coefficient kind others =
      computeConsumption previous current coefficient kind maxDigits := by
  by_cases turned : kind = .rollover
  · rw [same turned]
  · unfold computeConsumption
    cases previous with
    | none => rfl
    | some previous => simp only [turned, if_false]

theorem updateMeter_ok (returned : accounts.updateMeter id patch = .ok written) :
    ∃ row coefficient, accounts.meters.find? id = some row ∧
      coefficientColumn row.coefficient patch.coefficient = .ok coefficient ∧
      written =
        { accounts with meters := accounts.meters.put (row.patched patch coefficient) } := by
  obtain ⟨row, named, rest⟩ := bind_eq_ok_iff.mp returned
  obtain ⟨coefficient, kept, saved⟩ := bind_eq_ok_iff.mp rest
  have found : accounts.meters.find? id = some row := by
    unfold Accounts.meterNamed at named
    split at named
    · cases named
    · next stored =>
        cases named
        exact stored
  exact ⟨row, coefficient, found, kept, (Except.ok.inj saved).symm⟩

theorem Accounts.Balance.update (balance : accounts.Balance) (safe : SafePatch accounts id patch)
    (returned : accounts.updateMeter id patch = .ok written) : written.Balance := by
  obtain ⟨row, coefficient, found, kept, rfl⟩ := updateMeter_ok returned
  unfold SafePatch at safe
  simp only [found] at safe
  have ownId : row.id = id := Table.key_of_find? found
  refine ⟨balance.exact, fun reading listed consumption computed => ?_⟩
  obtain ⟨meter, value, known, held, agrees⟩ := balance.balanced reading listed consumption computed
  by_cases own : reading.meterId = id
  · obtain rfl : row = meter := Option.some.inj (found.symm.trans (own ▸ known))
    obtain ⟨same, digits⟩ := safe reading listed own (Option.isSome_of_mem computed)
    obtain rfl : row.coefficient = coefficient := Except.ok.inj (same.symm.trans kept)
    refine ⟨row.patched patch row.coefficient, value, ?_, held, ?_⟩
    · rw [own, ← ownId]
      exact Table.find?_put_self (ownId.symm ▸ found)
    · exact (computeConsumption_digits digits).trans agrees
  · refine ⟨meter, value, ?_, held, agrees⟩
    have different : reading.meterId ≠ (row.patched patch coefficient).id :=
      fun same => own (same.trans ownId)
    exact (Table.find?_put_of_ne different).trans known

end

theorem Accounts.Balance.next {accounts : Accounts} (balance : accounts.Balance)
    {event : Day × AccountsCall} (safe : ActsSafe accounts event) :
    (accounts.next event).Balance := by
  obtain ⟨today, call⟩ := event
  unfold Accounts.next
  dsimp only
  split
  · exact balance
  · next written performed =>
      cases call with
      | worksheet call =>
        cases call with
        | period call => exact balance.reopens (performPeriod_reopens performed)
        | entry call =>
          have allowed : SafeEntry countedReading accounts today call := safe
          obtain ⟨⟨period, entered⟩, loaded, saved⟩ := bind_eq_ok_iff.mp performed
          have succeeded : accounts.performEntry today call = .ok written := performed
          simp only [SafeEntry, succeeded, loaded] at allowed
          exact balance.enter (entries_ok loaded).2 allowed saved
      | correct key newValue reason kind => exact balance.correct safe performed
      | updateMeter meter patch => exact balance.update safe performed

theorem Accounts.balance_opening (meters : Table Meter.id)
    (rules : ResourceType → Option AnomalyRule) : (Accounts.opening meters rules).Balance where
  exact := fun _ listed => (by cases listed)
  balanced := fun _ listed => (by cases listed)

theorem actPairs_mem {accounts : Accounts} {month : Month} {filters : ActFilters}
    {reading : Reading} {meter : Meter}
    (listed : (reading, meter) ∈ accounts.actPairs month filters) :
    reading ∈ accounts.readings.rows ∧ reading.month = month ∧
      accounts.meters.find? reading.meterId = some meter := by
  obtain ⟨found, known, made⟩ := List.mem_filterMap.mp ((List.mem_insertionSort _).mp listed)
  split at made
  · next own =>
      obtain ⟨stored, admitted, same⟩ := Option.map_eq_some_iff.mp made
      obtain ⟨rfl, rfl⟩ := Prod.mk.inj same
      exact ⟨known, own, (Option.filter_eq_some_iff.mp admitted).1⟩
  · cases made

/-- As long as every call leaves the numbers behind a stored consumption alone, or recomputes
it, every act of every period balances. -/
theorem acts_balance (meters : Table Meter.id) (rules : ResourceType → Option AnomalyRule)
    (events : List (Day × AccountsCall))
    (careful : Obeys Accounts.next ActsSafe (.opening meters rules) events) (month : Month)
    (filters : ActFilters) :
    let accounts := run Accounts.next (.opening meters rules) events
    ∀ row ∈ accounts.buildRows month filters,
      ∃ reading meter, (reading, meter) ∈ accounts.actPairs month filters ∧
        row = accounts.actRow month reading meter ∧ row.Agrees reading.kind meter.maxDigits := by
  intro accounts row printed
  have balance : accounts.Balance :=
    run_invariant_of_obeys Accounts.next Accounts.Balance (Accounts.balance_opening meters rules)
      (fun _ _ safe balance => balance.next safe) careful
  obtain ⟨⟨reading, meter⟩, listed, rfl⟩ := List.mem_map.mp printed
  obtain ⟨known, rfl, stored⟩ := actPairs_mem listed
  refine ⟨reading, meter, listed, rfl, ?_⟩
  change ActRow.Agrees (accounts.actRow reading.month reading meter) reading.kind meter.maxDigits
  unfold ActRow.Agrees Accounts.actRow
  cases computed : reading.consumption with
  | none => exact trivial
  | some consumption =>
    obtain ⟨other, value, found, held, agrees⟩ := balance.balanced reading known consumption computed
    obtain rfl : other = meter := Option.some.inj (found.symm.trans stored)
    have own : other.id = reading.meterId := Table.key_of_find? found
    simp only [held]
    rw [own]
    exact agrees

def reviewed (month : Month) : List (Day × AccountsCall) :=
  [(readingDay, .worksheet (.period (.moveToReview month))),
    (readingDay, .worksheet (.period (.submit month)))]

def submittedMonths : List (Day × AccountsCall) :=
  orderedEntries.map (fun event => (event.1, AccountsCall.worksheet event.2)) ++
    reviewed january ++ reviewed february

def hallAccounts : Accounts := .opening ((Table.empty : Table Meter.id).save hallMeter) fun _ => none

def januaryCorrection : Day × AccountsCall := (readingDay, .correct (1, january) 120 "misread" .correction)

def allRows : ActFilters := ⟨none, none, none⟩

theorem corrected_acts_balance :
    ∃ row ∈ (run Accounts.next hallAccounts (submittedMonths ++ [januaryCorrection])).buildRows
        february allRows,
      row.consumption = some 30 ∧
      ∃ reading meter, (reading, meter) ∈ (run Accounts.next hallAccounts
          (submittedMonths ++ [januaryCorrection])).actPairs february allRows ∧
        row = (run Accounts.next hallAccounts (submittedMonths ++ [januaryCorrection])).actRow
          february reading meter ∧ row.Agrees reading.kind meter.maxDigits := by
  have printed : ∃ row ∈ (run Accounts.next hallAccounts
      (submittedMonths ++ [januaryCorrection])).buildRows february allRows,
      row.consumption = some 30 := by
    decide +kernel
  obtain ⟨row, listed, used⟩ := printed
  exact ⟨row, listed, used, acts_balance _ _ (submittedMonths ++ [januaryCorrection])
    (by decide +kernel) february allRows row listed⟩

def februaryAgrees (events : List (Day × AccountsCall)) : Prop :=
  ∀ pair ∈ (run Accounts.next hallAccounts events).actPairs february allRows,
    ((run Accounts.next hallAccounts events).actRow february pair.1 pair.2).Agrees
      pair.1.kind pair.2.maxDigits

instance februaryAgreesDecidable (events : List (Day × AccountsCall)) : Decidable (februaryAgrees events) :=
  inferInstanceAs (Decidable (∀ pair ∈ (run Accounts.next hallAccounts events).actPairs february
    allRows, ((run Accounts.next hallAccounts events).actRow february pair.1 pair.2).Agrees
      pair.1.kind pair.2.maxDigits))

def februaryClose : Day × AccountsCall := (readingDay, .worksheet (.period (.close february)))

def doubledCoefficient : Day × AccountsCall := (readingDay, .updateMeter 1 ⟨none, some (some 2), none⟩)

/-- February keeps its consumption when January is corrected behind its close, and when the
coefficient of the meter is edited. -/
theorem later_act_disagrees :
    februaryAgrees submittedMonths ∧
      ¬ februaryAgrees (submittedMonths ++ [februaryClose, januaryCorrection]) ∧
      ¬ februaryAgrees (submittedMonths ++ [doubledCoefficient]) := by
  decide +kernel

end InfrasafeBot.ResourceAccounting
