import InfrasafeBot.Library.Ranking
import InfrasafeBot.Library.Sums
import InfrasafeBot.ResourceAccounting.Baselines
import InfrasafeBot.ResourceAccounting.Consumption

/-! The consumptions of a meter read month after month, with gaps: each accepted reading is
charged from the accepted one before it, so that the sum is what the register has moved. -/

set_option autoImplicit false

namespace InfrasafeBot.ResourceAccounting

open Library Decimals Machine

structure MonthEntry where
  today : Day
  month : Month
  data : ReadingIn

def enterMonth (meter : MeterId) (accounts : Accounts) (entry : MonthEntry) : Accounts :=
  accounts.next (entry.today, .worksheet (.entry (.put entry.month meter entry.data)))

/-- An entry without a value, with one of four decimals and an ordinary kind, or with one that
fails the checks. -/
def PlainEntry (meter : Meter) (accounts : Accounts) (entry : MonthEntry) : Prop :=
  ∀ value, entry.data.value = some value →
    (entry.data.kind = .normal ∨ entry.data.kind = .rollover) ∧ HasPlaces 4 value ∨
      entry.data.usableValue entry.today meter entry.month
        (accounts.previousValue meter.id entry.month) = none

def Accounts.acceptedReadings (accounts : Accounts) (meter : MeterId) : List Reading :=
  (accounts.readings.rows.filter fun reading =>
    reading.meterId = meter && reading.usable).insertionSort
      fun left right => left.month ≤ right.month

def amountOf (amount : Option ℚ) : ℚ := amount.getD 0

variable {coefficient : Int} {digits : Nat}

section

variable {value before amount consumption : ℚ} {kind : ReadingKind}

theorem coefficient_eq_zero (large : 10 ^ 24 ≤ |amount|)
    (returned : quantized (rounded (amount * coefficient)) = .ok consumption) :
    coefficient = 0 := by
  by_contra charged
  have unit : (1 : ℚ) ≤ |(coefficient : ℚ)| := by
    rw [← Int.cast_abs]
    exact_mod_cast Int.one_le_abs charged
  have product : (10 : ℚ) ^ 24 ≤ |amount * coefficient| := by
    rw [abs_mul]
    calc (10 : ℚ) ^ 24 = 10 ^ 24 * 1 := by ring
      _ ≤ |amount| * |(coefficient : ℚ)| := mul_le_mul large unit (by norm_num) (abs_nonneg _)
  exact absurd (quantized_lt returned) (not_lt.mpr (le_abs_rounded product))

theorem charged_eq (whole : HasPlaces 4 amount)
    (returned : quantized (rounded (rounded amount * coefficient)) = .ok consumption) :
    consumption = amount * coefficient := by
  have settle : ∀ {exact : ℚ}, HasPlaces 4 exact →
      quantized (rounded exact) = .ok consumption → consumption = exact := by
    intro exact places kept
    have both := quantized_ok kept
    rw [rounded, decimalPrecision_split] at both
    exact quantize_contextRound places both (by decide)
  by_cases fits : |amount| < 10 ^ 24
  · rw [rounded_eq_self whole fits] at returned
    exact settle (whole.mul_int coefficient) returned
  · have free := coefficient_eq_zero (le_abs_rounded (not_lt.mp fits)) returned
    rw [free, Int.cast_zero, mul_zero] at returned ⊢
    exact settle HasPlaces.zero returned

def turnOf (digits : Nat) (kind : ReadingKind) : ℚ := if kind = .rollover then 10 ^ digits else 0

def charge (coefficient : Int) (digits : Nat) (kind : ReadingKind) (before value : ℚ) : ℚ :=
  (value - before + turnOf digits kind) * coefficient

theorem consumption_eq_charge (plain : kind = .normal ∨ kind = .rollover)
    (places : HasPlaces 4 value) (nonneg : 0 ≤ value) (exact : Exact (some before))
    (computed : computeConsumption (some before) value coefficient kind (some digits) =
      .ok consumption) : consumption = charge coefficient digits kind before value := by
  obtain ⟨beforePlaces, small⟩ := exact_spec exact
  rcases plain with rfl | rfl
  · rw [charged_eq (places.sub beforePlaces) (computeConsumption_difference (.inl rfl) computed),
      charge, turnOf, if_neg (by decide), add_zero]
  · obtain ⟨others, room, returned⟩ := computeConsumption_rollover computed
    have same : others = digits := by
      unfold digitsOf at room
      exact (Option.some.inj (Option.filter_eq_some_iff.mp room).1).symm
    subst same
    have wholeRest : HasPlaces 4 ((10 : ℚ) ^ others - before) := hasPlaces_pow.sub beforePlaces
    rw [charge, turnOf, if_pos rfl]
    by_cases fits : |(10 : ℚ) ^ others - before| < 10 ^ 24
    · rw [rounded_eq_self wholeRest fits] at returned
      rw [charged_eq (wholeRest.add places) returned]
      ring
    -- a dial of so many digits leaves no consumption that could be stored
    · have large := le_abs_rounded (not_lt.mp fits)
      have power : (0 : ℚ) < 10 ^ others := by positivity
      have positive : 0 ≤ (10 : ℚ) ^ others - before := by
        by_contra negative
        rw [not_le] at negative
        rw [abs_of_neg negative] at fits
        have below := (abs_lt.mp small).2
        exact fits (by linarith)
      rw [abs_of_nonneg (rounded_nonneg positive)] at large
      have sum : (10 : ℚ) ^ 24 ≤ |rounded (rounded (10 ^ others - before) + value)| := by
        exact le_abs_rounded (le_abs.mpr (.inl (by linarith)))
      have free := coefficient_eq_zero sum returned
      have zero : consumption = 0 * (coefficient : ℚ) := by
        refine charged_eq HasPlaces.zero ?_
        rw [free, Int.cast_zero, mul_zero] at returned ⊢
        exact returned
      rw [zero, free]
      simp

end

/-- An accepted reading is charged from its baseline. -/
structure Charged (coefficient : Int) (digits : Nat) (accounts : Accounts) (reading : Reading)
    (value : ℚ) : Prop where
  held : reading.value = some value
  nonneg : 0 ≤ value
  exact : Exact (some value)
  consumption : ∀ before, accounts.previousValue reading.meterId reading.month = some before →
    reading.consumption = some (charge coefficient digits reading.kind before value)

/-- The meter as the run finds it, and its accepted readings charged. -/
structure Tallied (meter : Meter) (coefficient : Int) (digits : Nat) (accounts : Accounts) : Prop where
  known : accounts.meters.find? meter.id = some meter
  charged : ∀ reading ∈ accounts.readings.rows, reading.meterId = meter.id →
    reading.usable = true → ∃ value, Charged coefficient digits accounts reading value

variable {accounts : Accounts} {meter : Meter} {reading : Reading}

section

variable {written : Accounts} {entry : MonthEntry} {entries : List MonthEntry}
  {filled row : Reading} {around : Surroundings} {data : ReadingIn} {previous : Option ℚ}
  {period : ReportingPeriod}

theorem validateAndFill_kind
    (filledIn : validateAndFill around meter data previous reading = .ok filled) :
    filled.kind = data.kind := by
  unfold validateAndFill at filledIn
  split at filledIn
  · split at filledIn
    · cases filledIn
    · cases filledIn
      rfl
  · obtain ⟨⟨first, last⟩, _, dated⟩ := bind_eq_ok_iff.mp filledIn
    obtain ⟨result, _, returned⟩ := bind_eq_ok_iff.mp dated
    cases returned
    rfl

theorem enterMonth_cases (known : accounts.meters.find? meter.id = some meter) :
    enterMonth meter.id accounts entry = accounts ∨
      ∃ period, period.month = entry.month ∧
        accounts.upsertReading entry.today period meter entry.data =
          .ok (enterMonth meter.id accounts entry) := by
  unfold enterMonth Accounts.next
  split
  · exact .inl rfl
  · next written performed =>
      refine .inr ?_
      obtain ⟨⟨period, entered⟩, loaded, saved⟩ := bind_eq_ok_iff.mp performed
      obtain ⟨found, looked, returned⟩ := bind_eq_ok_iff.mp loaded
      cases returned
      obtain ⟨row, named, rest⟩ := bind_eq_ok_iff.mp saved
      obtain ⟨after, upserted, last⟩ := bind_eq_ok_iff.mp rest
      cases last
      have same : row = meter := by
        unfold Accounts.meterNamed at named
        rw [known] at named
        exact (Except.ok.inj named).symm
      have month : period.month = entry.month := by
        unfold Accounts.getPeriod at looked
        split at looked
        · cases looked
        · next stored =>
            cases looked
            exact Table.key_of_find? stored
      exact ⟨period, month, same ▸ upserted⟩

theorem upserted_charged (tallied : Tallied meter coefficient digits accounts)
    (integer : meter.coefficient = coefficient) (dial : meter.maxDigits = some digits)
    (month : period.month = entry.month) (plain : PlainEntry meter accounts entry)
    (key : reading.key = (meter.id, period.month))
    (filledIn : validateAndFill (accounts.surroundings entry.today meter period.month) meter
      entry.data (accounts.previousValue meter.id period.month) reading = .ok filled)
    (kept : filled.stored = .ok row) (usable : row.usable = true) :
    ∃ value, Charged coefficient digits (accounts.saveRow row) row value := by
  obtain ⟨sameKey, previous, value, _, evaluated⟩ := validateAndFill_ok filledIn
  have kind := validateAndFill_kind filledIn
  have baseline := validateAndFill_usable filledIn
  obtain ⟨storedValue, storedPrevious, storedConsumption, first, second, third, rfl⟩ := stored_ok kept
  have ownMeter : filled.meterId = meter.id := congrArg Prod.fst (sameKey.trans key)
  have ownMonth : reading.month = period.month := congrArg Prod.snd key
  have filledMonth : filled.month = period.month := congrArg Prod.snd (sameKey.trans key)
  obtain ⟨valued, accepted⟩ := Bool.and_eq_true_iff.mp usable
  cases entered : filled.value with
  | none =>
    rw [entered] at first
    cases first
    cases valued
  | some amount =>
    have usableFilled : filled.usableValue = some amount := by
      have both : filled.usable = true := Bool.and_eq_true_iff.mpr ⟨by rw [entered]; rfl, accepted⟩
      rw [Reading.usableValue, if_pos both, entered]
    have ordinary : (entry.data.kind = .normal ∨ entry.data.kind = .rollover) ∧
        HasPlaces 4 amount := by
      rcases plain amount (value.symm.trans entered) with ordinary | failing
      · exact ordinary
      · have refused : filled.usableValue = none := by
          rw [baseline, ownMonth, month]
          exact failing
        rw [usableFilled] at refused
        cases refused
    rw [entered] at first
    have sameValue : storedValue = some amount := amountColumn_eq_self ordinary.2 first
    obtain ⟨problems, collected, outcome⟩ := evaluated amount (value.symm.trans entered)
    rcases outcome with ⟨_, failed, _⟩ | ⟨rfl, _, consumption, computed, held⟩
    · have refused : filled.status.accepted = true := accepted
      rw [failed] at refused
      cases refused
    · have nonneg := (clean_value collected).1
      have sameConsumption : storedConsumption = some consumption := by
        rw [held] at third
        exact amountColumn_eq_self (computeConsumption_places computed) third
      refine ⟨amount, sameValue, nonneg, sameValue ▸ first, fun before known => ?_⟩
      have stands : filled.previousValue = some before := by
        have self := @previousValue_saveRow_self accounts { filled with
          value := storedValue, previousValue := storedPrevious
          consumption := storedConsumption }
        have found := self.symm.trans known
        dsimp only at found
        rw [ownMeter, filledMonth] at found
        exact previous.trans found
      have exactBefore : Exact (some before) := by
        have found := previous.symm.trans stands
        unfold Accounts.previousValue at found
        obtain ⟨best, selected, value⟩ := Option.bind_eq_some_iff.mp found
        obtain ⟨listed, precedes⟩ := latest_selected selected
        obtain ⟨own, bestUsable, _⟩ := mayPrecede_iff.mp precedes
        obtain ⟨other, charged⟩ := tallied.charged best listed own bestUsable
        cases charged.held.symm.trans value
        exact charged.exact
      rw [stands, integer, dial, kind] at computed
      have amountEq := consumption_eq_charge ordinary.1 ordinary.2 nonneg exactBefore computed
      rw [sameConsumption, amountEq, kind]

def UpTo (accounts : Accounts) (meter : MeterId) (month : Month) : Prop :=
  ∀ reading ∈ accounts.readings.rows, reading.meterId = meter → reading.month ≤ month

theorem Tallied.enter (tallied : Tallied meter coefficient digits accounts)
    (integer : meter.coefficient = coefficient) (dial : meter.maxDigits = some digits)
    (upTo : UpTo accounts meter.id entry.month) (plain : PlainEntry meter accounts entry) :
    Tallied meter coefficient digits (enterMonth meter.id accounts entry) ∧
      UpTo (enterMonth meter.id accounts entry) meter.id entry.month := by
  have outcome : enterMonth meter.id accounts entry = accounts ∨ _ := enterMonth_cases tallied.known
  rcases outcome with refused | ⟨period, month, upserted⟩
  · rw [refused]
    exact ⟨tallied, upTo⟩
  · obtain ⟨_, _, reading, filled, row, key, filledIn, kept, saved⟩ := upsertReading_ok upserted
    rw [saved]
    have rowKey : row.key = (meter.id, entry.month) := by
      obtain ⟨sameKey, _⟩ := validateAndFill_ok filledIn
      obtain ⟨_, _, _, _, _, _, rfl⟩ := stored_ok kept
      rw [← month]
      exact sameKey.trans key
    have rowMonth : row.month = entry.month := congrArg Prod.snd rowKey
    have below : UpTo (accounts.saveRow row) meter.id entry.month := by
      intro other listed own
      rcases mem_saveRow.mp listed with rfl | ⟨before, _⟩
      · exact Nat.le_of_eq rowMonth
      · exact upTo other before own
    refine ⟨⟨tallied.known, fun other listed own usable => ?_⟩, below⟩
    rcases mem_saveRow.mp listed with rfl | ⟨before, _⟩
    · exact upserted_charged tallied integer dial month plain key filledIn kept usable
    · obtain ⟨value, charged⟩ := tallied.charged other before own usable
      refine ⟨value, charged.held, charged.nonneg, charged.exact, fun previous known => ?_⟩
      refine charged.consumption previous ?_
      have apart : other.month ≤ row.month := rowMonth ▸ upTo other before own
      unfold Accounts.previousValue at known ⊢
      rw [getPreviousAccepted_saveRow_of_apart (.inr apart)] at known
      exact known

theorem Tallied.run (tallied : Tallied meter coefficient digits accounts)
    (integer : meter.coefficient = coefficient) (dial : meter.maxDigits = some digits)
    (upTo : ∀ entry ∈ entries, UpTo accounts meter.id entry.month)
    (chronological : entries.Pairwise fun earlier later => earlier.month ≤ later.month)
    (plain : Obeys (enterMonth meter.id) (PlainEntry meter) accounts entries) :
    Tallied meter coefficient digits (run (enterMonth meter.id) accounts entries) := by
  induction entries generalizing accounts with
  | nil => exact tallied
  | cons entry rest ih =>
    obtain ⟨later, sorted⟩ := List.pairwise_cons.mp chronological
    obtain ⟨after, below⟩ := tallied.enter integer dial (upTo entry List.mem_cons_self)
      (plain (accounts, entry) List.mem_cons_self)
    refine ih after (fun following listed reading entered own => ?_) sorted
      fun taken listed => plain taken (List.mem_cons_of_mem _ listed)
    exact (below reading entered own).trans (later following listed)

end

section

variable {id : MeterId} {first : Reading} {rest : List Reading}

theorem mem_acceptedReadings : reading ∈ accounts.acceptedReadings id ↔
    reading ∈ accounts.readings.rows ∧ reading.meterId = id ∧ reading.usable = true := by
  unfold Accounts.acceptedReadings
  rw [List.mem_insertionSort, List.mem_filter, Bool.and_eq_true, decide_eq_true_eq]

theorem acceptedReadings_sorted : (accounts.acceptedReadings id).Pairwise
    fun left right => left.month < right.month := by
  have total := @key_total Reading Nat _ Reading.month
  have trans := @key_trans Reading Nat _ Reading.month
  have sorted : (accounts.acceptedReadings id).Pairwise
      fun left right => left.month ≤ right.month :=
    List.pairwise_insertionSort _ _
  have distinct : (accounts.acceptedReadings id).Nodup :=
    (List.perm_insertionSort _ _).nodup_iff.mpr ((accounts.readings.unique.of_map _).filter _)
  refine (sorted.and distinct).imp_of_mem fun leftListed rightListed both => ?_
  obtain ⟨below, different⟩ := both
  refine Nat.lt_of_le_of_ne below fun same => different ?_
  obtain ⟨leftRow, leftOwn, _⟩ := mem_acceptedReadings.mp leftListed
  obtain ⟨rightRow, rightOwn, _⟩ := mem_acceptedReadings.mp rightListed
  exact Table.eq_of_key leftRow rightRow (Prod.ext (leftOwn.trans rightOwn.symm) same)

theorem neighbours_chained
    (listed : ∀ reading ∈ first :: rest, reading ∈ accounts.acceptedReadings id)
    (covered : ∀ reading ∈ accounts.acceptedReadings id, reading.month ≤ first.month ∨ reading ∈ rest)
    (sorted : (first :: rest).Pairwise fun left right => left.month < right.month) :
    List.IsChain (fun earlier later =>
      later ∈ accounts.acceptedReadings id ∧
        accounts.getPreviousAccepted id later.month = some earlier) (first :: rest) := by
  induction rest generalizing first with
  | nil => exact List.isChain_singleton _
  | cons second rest ih =>
    obtain ⟨ahead, later⟩ := List.pairwise_cons.mp sorted
    obtain ⟨beyond, _⟩ := List.pairwise_cons.mp later
    have firstListed := mem_acceptedReadings.mp (listed first List.mem_cons_self)
    have secondListed := listed second (List.mem_cons_of_mem _ List.mem_cons_self)
    refine List.isChain_cons_cons.mpr ⟨⟨secondListed, ?_⟩, ih ?_ ?_ later⟩
    · refine latest_eq_some (mayPrecede_ordered _) firstListed.1
        (mayPrecede_iff.mpr ⟨firstListed.2.1, firstListed.2.2, ahead second List.mem_cons_self⟩)
        fun other otherRow precedes => ?_
      obtain ⟨own, usable, earlier⟩ := mayPrecede_iff.mp precedes
      rcases covered other (mem_acceptedReadings.mpr ⟨otherRow, own, usable⟩) with below | inRest
      · exact below
      · rcases List.mem_cons.mp inRest with rfl | after
        · exact absurd earlier (Nat.lt_irrefl _)
        · exact absurd earlier (Nat.lt_asymm (beyond other after))
    · exact fun reading member => listed reading (List.mem_cons_of_mem _ member)
    · intro reading member
      rcases covered reading member with below | inRest
      · exact .inl (below.trans (ahead second List.mem_cons_self).le)
      · rcases List.mem_cons.mp inRest with rfl | after
        · exact .inl le_rfl
        · exact .inr after

theorem sum_turns : (rest.map fun reading => turnOf digits reading.kind * (coefficient : ℚ)).sum =
    coefficient * (10 ^ digits * rest.countP fun reading => reading.kind = .rollover) := by
  induction rest with
  | nil => simp
  | cons reading rest ih =>
    rw [List.map_cons, List.sum_cons, ih, List.countP_cons]
    by_cases turned : reading.kind = .rollover
    · simp only [turnOf, turned, if_true, decide_true]
      push_cast
      ring
    · simp only [turnOf, turned, if_false, decide_false]
      push_cast
      ring

theorem sum_of_tallied (tallied : Tallied meter coefficient digits accounts)
    (accepted : accounts.acceptedReadings meter.id = first :: rest) :
    (rest.map fun reading => amountOf reading.consumption).sum =
      coefficient * (amountOf ((first :: rest).getLast (List.cons_ne_nil _ _)).value -
        amountOf first.value + 10 ^ digits * rest.countP fun reading => reading.kind = .rollover) := by
  have chained : List.IsChain (fun earlier later =>
      later ∈ accounts.acceptedReadings meter.id ∧
        accounts.getPreviousAccepted meter.id later.month = some earlier) (first :: rest) := by
    refine neighbours_chained (fun reading member => accepted ▸ member) (fun reading member => ?_)
      (accepted ▸ acceptedReadings_sorted)
    rw [accepted] at member
    rcases List.mem_cons.mp member with rfl | after
    · exact .inl le_rfl
    · exact .inr after
  have steps : List.IsChain (fun earlier later : Reading =>
      amountOf later.consumption =
        amountOf later.value * coefficient - amountOf earlier.value * coefficient +
          turnOf digits later.kind * coefficient) (first :: rest) := by
    refine chained.imp fun earlier later both => ?_
    obtain ⟨listed, baseline⟩ := both
    obtain ⟨laterRow, own, usable⟩ := mem_acceptedReadings.mp listed
    obtain ⟨value, charged⟩ := tallied.charged later laterRow own usable
    obtain ⟨earlierRow, precedes⟩ := latest_selected baseline
    obtain ⟨earlierOwn, earlierUsable, _⟩ := mayPrecede_iff.mp precedes
    obtain ⟨before, earlierCharged⟩ := tallied.charged earlier earlierRow earlierOwn earlierUsable
    have known : accounts.previousValue later.meterId later.month = some before := by
      rw [own, Accounts.previousValue, baseline]
      exact earlierCharged.held
    rw [charged.consumption before known, charged.held, earlierCharged.held]
    simp only [amountOf, Option.getD_some, charge]
    ring
  rw [sum_of_chain steps, sum_turns]
  ring

end

/-- Months entered in their order for a meter without readings: its accepted readings after the
first one are charged for what the register has moved, and a turn for each rollover of theirs. -/
theorem consumption_telescopes (accounts : Accounts) (meter : Meter) (coefficient : Int)
    (digits : Nat) (entries : List MonthEntry) (known : accounts.meters.find? meter.id = some meter)
    (integer : meter.coefficient = coefficient) (dial : meter.maxDigits = some digits)
    (unread : ∀ reading ∈ accounts.readings.rows, reading.meterId ≠ meter.id)
    (chronological : entries.Pairwise fun earlier later => earlier.month ≤ later.month)
    (plain : Obeys (enterMonth meter.id) (PlainEntry meter) accounts entries)
    (first : Reading) (rest : List Reading)
    (accepted : (run (enterMonth meter.id) accounts entries).acceptedReadings meter.id = first :: rest) :
    (rest.map fun reading => amountOf reading.consumption).sum =
      coefficient * (amountOf ((first :: rest).getLast (List.cons_ne_nil _ _)).value -
        amountOf first.value + 10 ^ digits * rest.countP fun reading => reading.kind = .rollover) := by
  have opening : Tallied meter coefficient digits accounts :=
    ⟨known, fun reading listed own => absurd own (unread reading listed)⟩
  have upTo : ∀ entry ∈ entries, UpTo accounts meter.id entry.month :=
    fun _ _ reading listed own => absurd own (unread reading listed)
  exact sum_of_tallied (opening.run integer dial upTo chronological plain) accepted

/-! Three months of 2026 and a meter of five digits. -/

theorem dialPeriods : [24312, 24313, 24314].Nodup := by decide

theorem dialMeters : [1].Nodup := List.nodup_singleton 1

def dialAccounts : Accounts where
  meters := ⟨[dialMeter], dialMeters⟩
  periods := ⟨[⟨24312, .opened⟩, ⟨24313, .opened⟩, ⟨24314, .opened⟩], dialPeriods⟩
  readings := .empty
  rules := fun _ => none

def rolledEntry (month : Month) (value : ℚ) : MonthEntry :=
  ⟨739675, month, ⟨some value, none, .rollover, none, none⟩⟩

/-- The register turns in March, after a month without a reading. -/
def turnedEntries : List MonthEntry :=
  [⟨739675, 24312, ⟨some 99900, none, .normal, none, none⟩⟩,
    ⟨739675, 24313, ⟨none, none, .normal, some .noAccess, none⟩⟩, rolledEntry 24314 50]

theorem obeys_of_ordinary {entries : List MonthEntry}
    (ordinary : ∀ entry ∈ entries, ∀ value, entry.data.value = some value →
      (entry.data.kind = .normal ∨ entry.data.kind = .rollover) ∧ HasPlaces 4 value) :
    Obeys (enterMonth 1) (PlainEntry dialMeter) dialAccounts entries := by
  intro taken listed value held
  exact .inl (ordinary taken.2 (mem_of_mem_trace _ listed) value held)

theorem turned_charged :
    ∃ first second, (run (enterMonth 1) dialAccounts turnedEntries).acceptedReadings 1 = [first, second] ∧
      ([second].map fun reading => amountOf reading.consumption).sum =
        (1 : Int) * (amountOf ([first, second].getLast (List.cons_ne_nil _ _)).value -
          amountOf first.value +
            10 ^ 5 * [second].countP fun reading => reading.kind = .rollover) := by
  have two : ((run (enterMonth 1) dialAccounts turnedEntries).acceptedReadings 1).length = 2 := by
    decide +kernel
  obtain ⟨first, second, accepted⟩ := List.length_eq_two.mp two
  refine ⟨first, second, accepted, consumption_telescopes dialAccounts dialMeter 1 5 turnedEntries
    rfl rfl rfl (fun reading listed => by cases listed) (by decide) ?_ first [second] accepted⟩
  refine obeys_of_ordinary fun entry listed value held => ?_
  simp only [turnedEntries, rolledEntry, List.mem_cons, List.not_mem_nil, or_false] at listed
  rcases listed with rfl | rfl | rfl
  · cases held
    exact ⟨.inl rfl, hasPlaces_intCast 99900⟩
  · cases held
  · cases held
    exact ⟨.inr rfl, hasPlaces_intCast 50⟩

/-- The first accepted reading is a rollover, which has no baseline to turn from. -/
theorem first_rollover_uncharged :
    ¬ ∀ (accounts : Accounts) (meter : Meter) (coefficient : Int) (digits : Nat)
      (entries : List MonthEntry), accounts.meters.find? meter.id = some meter →
        meter.coefficient = coefficient → meter.maxDigits = some digits →
        (∀ reading ∈ accounts.readings.rows, reading.meterId ≠ meter.id) →
        (entries.Pairwise fun earlier later => earlier.month ≤ later.month) →
        Obeys (enterMonth meter.id) (PlainEntry meter) accounts entries →
        ∀ first rest, (run (enterMonth meter.id) accounts entries).acceptedReadings meter.id =
            first :: rest →
          (rest.map fun reading => amountOf reading.consumption).sum =
            coefficient * (amountOf ((first :: rest).getLast (List.cons_ne_nil _ _)).value -
              amountOf first.value +
                10 ^ digits * (first :: rest).countP fun reading => reading.kind = .rollover) := by
  intro telescopes
  have one : ((run (enterMonth 1) dialAccounts [rolledEntry 24312 50]).acceptedReadings 1).map
      (·.kind) = [.rollover] := by
    decide +kernel
  obtain ⟨first, rest, accepted, kind, none⟩ := List.map_eq_cons_iff.mp one
  rw [List.map_eq_nil_iff] at none
  subst none
  have charged := telescopes dialAccounts dialMeter 1 5 [rolledEntry 24312 50] rfl rfl rfl
    (fun reading listed => by cases listed) (List.pairwise_singleton _ _)
    (obeys_of_ordinary fun entry listed value held => by
      cases List.mem_singleton.mp listed
      cases held
      exact ⟨.inr rfl, hasPlaces_intCast 50⟩) first [] accepted
  norm_num [kind] at charged

end InfrasafeBot.ResourceAccounting
