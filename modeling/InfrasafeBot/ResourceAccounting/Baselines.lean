import InfrasafeBot.ResourceAccounting.Accounts

/-! The baseline of a month is the meter's latest accepted reading before it. What one saved row
does to the baselines of the other months, and what an entry saves. -/

set_option autoImplicit false

namespace InfrasafeBot.ResourceAccounting

open Library Decimals

namespace Accounts

def saveRow (accounts : Accounts) (row : Reading) : Accounts :=
  { accounts with readings := accounts.readings.save row }

end Accounts

def Reading.usable (reading : Reading) : Bool := reading.value.isSome && reading.status.accepted

def Reading.usableValue (reading : Reading) : Option ℚ :=
  if reading.usable then reading.value else none

variable {accounts : Accounts} {row reading : Reading}

section

variable {meter : MeterId} {month following : Month}

theorem mayPrecede_iff : mayPrecede meter month reading = true ↔
    reading.meterId = meter ∧ reading.usable = true ∧ reading.month < month := by
  simp only [mayPrecede, Reading.usable, Bool.and_eq_true, decide_eq_true_eq]
  constructor
  · rintro ⟨⟨⟨own, valued⟩, accepted⟩, earlier⟩
    exact ⟨own, ⟨valued, accepted⟩, earlier⟩
  · rintro ⟨own, ⟨valued, accepted⟩, earlier⟩
    exact ⟨⟨⟨own, valued⟩, accepted⟩, earlier⟩

theorem mayPrecede_ordered (table : Table Reading.key) :
    Ordered Reading.month (mayPrecede meter month) table.rows := by
  intro left leftListed right rightListed leftBefore rightBefore sameMonth
  have leftOwn := (mayPrecede_iff.mp leftBefore).1
  have rightOwn := (mayPrecede_iff.mp rightBefore).1
  exact Table.eq_of_key leftListed rightListed
    (Prod.ext (leftOwn.trans rightOwn.symm) sameMonth)

theorem mem_saveRow : reading ∈ (accounts.saveRow row).readings.rows ↔
    reading = row ∨ reading ∈ accounts.readings.rows ∧ reading.key ≠ row.key :=
  Table.mem_save

theorem getPreviousAccepted_saveRow_of_apart (apart : row.meterId ≠ meter ∨ month ≤ row.month) :
    (accounts.saveRow row).getPreviousAccepted meter month =
      accounts.getPreviousAccepted meter month := by
  have outside : ∀ other : Reading, other.key = row.key →
      mayPrecede meter month other ≠ true := by
    intro other same precedes
    obtain ⟨own, _, earlier⟩ := mayPrecede_iff.mp precedes
    have sameMeter : other.meterId = row.meterId := congrArg Prod.fst same
    have sameMonth : other.month = row.month := congrArg Prod.snd same
    rcases apart with foreign | later
    · exact foreign (sameMeter.symm.trans own)
    · exact Nat.not_lt.mpr later (sameMonth ▸ earlier)
  refine latest_congr (mayPrecede_ordered _) fun reading => ?_
  constructor
  · rintro ⟨listed, precedes⟩
    rcases mem_saveRow.mp listed with rfl | ⟨before, _⟩
    · exact absurd precedes (outside reading rfl)
    · exact ⟨before, precedes⟩
  · rintro ⟨listed, precedes⟩
    exact ⟨mem_saveRow.mpr (.inr ⟨listed, fun same => outside reading same precedes⟩), precedes⟩

/-- An accepted reading of the meter stands between the two months. -/
def Separated (accounts : Accounts) (meter : MeterId) (month following : Month) : Prop :=
  ∃ reading ∈ accounts.readings.rows, mayPrecede meter following reading = true ∧ month < reading.month

instance separatedDecidable (accounts : Accounts) (meter : MeterId) (month following : Month) :
    Decidable (Separated accounts meter month following) :=
  inferInstanceAs (Decidable (∃ reading ∈ accounts.readings.rows,
    mayPrecede meter following reading = true ∧ month < reading.month))

theorem getPreviousAccepted_saveRow_of_separated
    (separated : Separated accounts row.meterId row.month following) :
    (accounts.saveRow row).getPreviousAccepted row.meterId following =
      accounts.getPreviousAccepted row.meterId following := by
  obtain ⟨between, listed, precedes, after⟩ := separated
  cases found : accounts.getPreviousAccepted row.meterId following with
  | none =>
    rw [latest_eq_none_iff.mp found between listed] at precedes
    cases precedes
  | some best =>
    obtain ⟨bestListed, bestPrecedes⟩ := latest_selected found
    have above : between.month ≤ best.month := le_latest found listed precedes
    have different : best.key ≠ row.key := by
      intro same
      have sameMonth : best.month = row.month := congrArg Prod.snd same
      exact Nat.not_lt.mpr above (sameMonth ▸ after)
    refine latest_eq_some (mayPrecede_ordered _)
      (mem_saveRow.mpr (.inr ⟨bestListed, different⟩)) bestPrecedes fun other saved selected => ?_
    rcases mem_saveRow.mp saved with rfl | ⟨before, _⟩
    · exact Nat.le_of_lt (Nat.lt_of_lt_of_le after above)
    · exact le_latest found before selected

/-- A saved row that is usable is the baseline of the months up to the next accepted one. -/
theorem getPreviousAccepted_saveRow_of_usable
    (adjacent : ¬ Separated accounts row.meterId row.month following)
    (earlier : row.month < following)
    (usable : row.usable = true) :
    (accounts.saveRow row).getPreviousAccepted row.meterId following = some row := by
  refine latest_eq_some (mayPrecede_ordered _) (mem_saveRow.mpr (.inl rfl))
    (mayPrecede_iff.mpr ⟨rfl, usable, earlier⟩) fun other saved selected => ?_
  rcases mem_saveRow.mp saved with rfl | ⟨before, _⟩
  · exact le_refl _
  · by_contra above
    exact adjacent ⟨other, before, selected, Nat.lt_of_not_le above⟩

theorem getPreviousAccepted_saveRow_of_unusable
    (adjacent : ¬ Separated accounts row.meterId row.month following)
    (earlier : row.month < following)
    (unusable : row.usable = false) :
    (accounts.saveRow row).getPreviousAccepted row.meterId following =
      accounts.getPreviousAccepted row.meterId row.month := by
  refine latest_congr (mayPrecede_ordered _) fun reading => ?_
  constructor
  · rintro ⟨saved, precedes⟩
    obtain ⟨own, usable, before⟩ := mayPrecede_iff.mp precedes
    rcases mem_saveRow.mp saved with rfl | ⟨listed, different⟩
    · rw [unusable] at usable
      cases usable
    · refine ⟨listed, mayPrecede_iff.mpr ⟨own, usable, ?_⟩⟩
      have notAfter : ¬ row.month < reading.month := fun after =>
        adjacent ⟨reading, listed, precedes, after⟩
      have notSame : reading.month ≠ row.month := fun same => different (Prod.ext own same)
      exact Nat.lt_of_le_of_ne (Nat.le_of_not_lt notAfter) notSame
  · rintro ⟨listed, precedes⟩
    obtain ⟨own, usable, before⟩ := mayPrecede_iff.mp precedes
    have different : reading.key ≠ row.key := by
      intro same
      have sameMonth : reading.month = row.month := congrArg Prod.snd same
      exact Nat.ne_of_lt before sameMonth
    exact ⟨mem_saveRow.mpr (.inr ⟨listed, different⟩),
      mayPrecede_iff.mpr ⟨own, usable, Nat.lt_trans before earlier⟩⟩

end

/-- No later reading that counts gets another baseline value where the month gets one with the
entered value, or none. -/
def Unmoved (accounts : Accounts) (counts : Reading → Bool) (meter : MeterId) (month : Month)
    (entered : Option ℚ) : Prop :=
  ∀ later ∈ accounts.readings.rows, counts later = true → later.meterId = meter →
    month < later.month → ¬ Separated accounts meter month later.month →
      entered.or (accounts.previousValue meter month) = accounts.previousValue meter later.month

instance unmovedDecidable (accounts : Accounts) (counts : Reading → Bool) (meter : MeterId)
    (month : Month) (entered : Option ℚ) :
    Decidable (Unmoved accounts counts meter month entered) :=
  inferInstanceAs (Decidable (∀ later ∈ accounts.readings.rows, counts later = true →
    later.meterId = meter → month < later.month → ¬ Separated accounts meter month later.month →
      entered.or (accounts.previousValue meter month) = accounts.previousValue meter later.month))

section

variable {counts : Reading → Bool} {later : Reading}

theorem previousValue_saveRow
    (unmoved : Unmoved accounts counts row.meterId row.month row.usableValue)
    (listed : later ∈ accounts.readings.rows) (counted : counts later = true) :
    (accounts.saveRow row).previousValue later.meterId later.month =
      accounts.previousValue later.meterId later.month := by
  unfold Accounts.previousValue
  by_cases apart : row.meterId ≠ later.meterId ∨ later.month ≤ row.month
  · rw [getPreviousAccepted_saveRow_of_apart apart]
  · have own : later.meterId = row.meterId := by
      by_contra foreign
      exact apart (.inl (Ne.symm foreign))
    have after : row.month < later.month := Nat.lt_of_not_le fun below => apart (.inr below)
    rw [own]
    by_cases separated : Separated accounts row.meterId row.month later.month
    · rw [getPreviousAccepted_saveRow_of_separated separated]
    · have same := unmoved later listed counted own after separated
      unfold Accounts.previousValue at same
      cases usable : row.usable with
      | true =>
        rw [getPreviousAccepted_saveRow_of_usable separated after usable, ← same]
        have valued : row.value.isSome = true := (Bool.and_eq_true_iff.mp usable).1
        obtain ⟨value, held⟩ := Option.isSome_iff_exists.mp valued
        simp [Reading.usableValue, usable, held]
      | false =>
        rw [getPreviousAccepted_saveRow_of_unusable separated after usable, ← same]
        simp [Reading.usableValue, usable]

theorem previousValue_saveRow_self :
    (accounts.saveRow row).previousValue row.meterId row.month =
      accounts.previousValue row.meterId row.month := by
  unfold Accounts.previousValue
  rw [getPreviousAccepted_saveRow_of_apart (.inr (Nat.le_refl _))]

end

def ReadingIn.usableValue (today : Day) (meter : Meter) (month : Month) (previous : Option ℚ)
    (data : ReadingIn) : Option ℚ :=
  match data.value, periodMonthBounds month with
  | some value, .ok (first, last) =>
    if valueProblems today meter month previous value
      (some (data.readAt.getD (defaultDay today first last))) data.kind = .ok [] then some value
    else none
  | _, _ => none

section

variable {written : Accounts} {today : Day} {period : ReportingPeriod} {meter : Meter}
  {data : ReadingIn} {previous : Option ℚ} {filled : Reading} {around : Surroundings}
  {entered : List Entry}

theorem validateAndFill_usable
    (filledIn : validateAndFill around meter data previous reading = .ok filled) :
    filled.usableValue = data.usableValue around.today meter reading.month previous := by
  unfold validateAndFill at filledIn
  unfold ReadingIn.usableValue
  cases value : data.value with
  | none =>
    simp only [value] at filledIn
    split at filledIn
    · cases filledIn
    · cases filledIn
      rfl
  | some value =>
    simp only [value] at filledIn
    obtain ⟨⟨first, last⟩, bounds, dated⟩ := bind_eq_ok_iff.mp filledIn
    obtain ⟨result, evaluated, returned⟩ := bind_eq_ok_iff.mp dated
    cases returned
    obtain ⟨problems, collected, outcome⟩ := evaluateValue_ok evaluated
    simp only [bounds, collected]
    rcases outcome with ⟨found, failed, _⟩ | ⟨clean, accepted, _⟩
    · have other : ¬ (Except.ok problems : Except Refusal (List Problem)) = .ok [] :=
        fun same => found (Except.ok.inj same)
      rw [if_neg other]
      simp [Reading.usableValue, Reading.usable, failed, ReadingStatus.accepted]
    · rw [clean, if_pos rfl]
      simp [Reading.usableValue, Reading.usable, accepted]

theorem upsertReading_ok
    (returned : accounts.upsertReading today period meter data = .ok written) :
    period.status.editable = true ∧ meter.status = .active ∧
      ∃ reading filled row, reading.key = (meter.id, period.month) ∧
        validateAndFill (accounts.surroundings today meter period.month) meter data
          (accounts.previousValue meter.id period.month) reading = .ok filled ∧
        filled.stored = .ok row ∧ written = accounts.saveRow row := by
  unfold Accounts.upsertReading at returned
  split at returned
  · cases returned
  · next editable =>
      split at returned
      · cases returned
      · next active =>
          obtain ⟨filled, filledIn, rest⟩ := bind_eq_ok_iff.mp returned
          obtain ⟨row, kept, saved⟩ := bind_eq_ok_iff.mp rest
          refine ⟨Bool.eq_true_of_not_eq_false editable, not_not.mp active, _, filled, row, ?_,
            filledIn, kept, (Except.ok.inj saved).symm⟩
          cases found : accounts.readings.find? (meter.id, period.month) with
          | none => rfl
          | some known => exact Table.key_of_find? found

/-- An upsert of an exact value over exact values. -/
structure Upserted (accounts written : Accounts) (today : Day) (period : ReportingPeriod)
    (meter : Meter) (data : ReadingIn) (row : Reading) : Prop where
  editable : period.status.editable = true
  key : row.key = (meter.id, period.month)
  saved : written = accounts.saveRow row
  previous : row.previousValue = accounts.previousValue meter.id period.month
  value : row.value = data.value
  usable : row.usableValue =
    data.usableValue today meter period.month (accounts.previousValue meter.id period.month)
  missing : row.value = none → row.consumption = none
  evaluated : ∀ value, row.value = some value → Evaluated today meter row value

theorem exact_previousValue {month : Month} {id : MeterId}
    (exact : ∀ reading ∈ accounts.readings.rows, Exact reading.value) :
    Exact (accounts.previousValue id month) := by
  unfold Accounts.previousValue
  cases found : accounts.getPreviousAccepted id month with
  | none => exact exact_none
  | some best => exact exact best (latest_selected found).1

theorem upserted (exact : ∀ reading ∈ accounts.readings.rows, Exact reading.value)
    (fits : Exact data.value)
    (returned : accounts.upsertReading today period meter data = .ok written) :
    ∃ row, Upserted accounts written today period meter data row := by
  obtain ⟨editable, _, reading, filled, row, key, filledIn, kept, rfl⟩ := upsertReading_ok returned
  obtain ⟨sameKey, previous, value, missing, evaluated⟩ := validateAndFill_ok filledIn
  have month : reading.month = period.month := congrArg Prod.snd key
  have places : filled.consumption = none ∨
      ∃ computed, filled.consumption = some computed ∧ HasPlaces 4 computed := by
    cases entered : data.value with
    | none => exact .inl (missing entered).1
    | some amount => exact (evaluated amount entered).consumption_places
  have whole : row = filled :=
    stored_eq_self (value ▸ fits) (previous ▸ exact_previousValue exact) places kept
  subst whole
  have usable := validateAndFill_usable filledIn
  rw [month] at usable
  exact ⟨row, editable, sameKey.trans key, rfl, previous, value, usable,
    fun none => (missing (value.symm.trans none)).1,
    fun amount held => evaluated amount (value.symm.trans held)⟩

end

end InfrasafeBot.ResourceAccounting
