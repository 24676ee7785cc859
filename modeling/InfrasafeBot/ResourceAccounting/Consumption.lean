import InfrasafeBot.Library.DecimalRounding
import InfrasafeBot.ResourceAccounting.Readings

/-! What an accepted consumption amounts to: for a register that moves forward it is the
difference of the two values on the dial, times the coefficient (`services/readings.py`). -/

set_option autoImplicit false

namespace InfrasafeBot.ResourceAccounting

open Library Decimals

/-- The meter as its schema and its columns admit it. -/
structure Meter.Admitted (meter : Meter) : Prop where
  positive : 0 < meter.coefficient
  places : HasPlaces 4 meter.coefficient
  digits : ∀ digits, meter.maxDigits = some digits → 1 ≤ digits ∧ digits ≤ 18

/-- A number modulo the capacity of a dial. -/
def wrapped (capacity value : ℚ) : ℚ := capacity * Int.fract (value / capacity)

def fourPlaces (value : ℚ) : ℚ := roundHalfEven (value * 10 ^ 4) / 10 ^ 4

section

variable {capacity value : ℚ}

theorem wrapped_eq_self (positive : 0 < capacity) (nonneg : 0 ≤ value) (below : value < capacity) :
    wrapped capacity value = value := by
  have small : Int.fract (value / capacity) = value / capacity :=
    Int.fract_eq_self.mpr ⟨div_nonneg nonneg positive.le, (div_lt_one positive).mpr below⟩
  rw [wrapped, small, mul_div_cancel₀ _ positive.ne']

theorem wrapped_eq_add (positive : 0 < capacity) (above : -capacity ≤ value) (negative : value < 0) :
    wrapped capacity value = value + capacity := by
  have turned : Int.fract (value / capacity) = Int.fract ((value + capacity) / capacity) := by
    rw [add_div, div_self positive.ne', Int.fract_add_one]
  have kept := @wrapped_eq_self capacity (value + capacity) positive (by linarith)
    (by linarith)
  rw [wrapped, turned]
  exact kept

theorem wrapped_nonneg (positive : 0 < capacity) : 0 ≤ wrapped capacity value :=
  mul_nonneg positive.le (Int.fract_nonneg _)

theorem wrapped_lt (positive : 0 < capacity) : wrapped capacity value < capacity := by
  have part := mul_lt_mul_of_pos_left (Int.fract_lt_one (value / capacity)) positive
  rw [mul_one] at part
  exact part

end

section

variable {value bound amount : ℚ}

theorem decimalPrecision_split : decimalPrecision = 24 + 4 := rfl

theorem rounded_eq_self (whole : HasPlaces 4 value) (fits : |value| < 10 ^ 24) : rounded value = value := by
  rw [rounded, decimalPrecision_split]
  exact contextRound_eq_self whole fits

theorem rounded_le (whole : HasPlaces 4 bound) (fits : |value| < 10 ^ 24) (below : value ≤ bound) :
    rounded value ≤ bound := by
  rw [rounded, decimalPrecision_split]
  exact contextRound_le whole fits below

theorem le_abs_rounded (large : 10 ^ 24 ≤ |value|) : 10 ^ 24 ≤ |rounded value| :=
  @pow_le_abs_contextRound 27 24 value large

theorem rounded_nonneg (nonneg : 0 ≤ value) : 0 ≤ rounded value := contextRound_nonneg nonneg

theorem quantized_ok (returned : quantized value = .ok amount) :
    quantize decimalPrecision 4 value = some amount := by
  unfold quantized at returned
  split at returned
  · cases returned
  · next kept =>
      cases returned
      exact kept

theorem quantized_eq (returned : quantized value = .ok amount) : amount = fourPlaces value :=
  quantize_eq_some (quantized_ok returned)

theorem quantized_nonneg (nonneg : 0 ≤ value) (returned : quantized value = .ok amount) : 0 ≤ amount :=
  le_quantize HasPlaces.zero nonneg (quantized_ok returned)

theorem quantized_lt (returned : quantized value = .ok amount) : |value| < 10 ^ 24 := by
  have kept := quantized_ok returned
  rw [decimalPrecision_split] at kept
  exact abs_lt_of_quantize kept

theorem product_le {factor : ℚ} (nonneg : 0 ≤ value) (factorNonneg : 0 ≤ factor)
    (whole : HasPlaces 4 bound) (below : value * factor ≤ bound)
    (returned : quantized (rounded (value * factor)) = .ok amount) : amount ≤ bound := by
  by_cases fits : bound < 10 ^ 24
  · have positive : 0 ≤ value * factor := mul_nonneg nonneg factorNonneg
    have short : |value * factor| < 10 ^ 24 := by
      rw [abs_of_nonneg positive]
      exact lt_of_le_of_lt below fits
    exact quantize_le whole (rounded_le whole short below) (quantized_ok returned)
  · have small : rounded (value * factor) ≤ 10 ^ 24 := (le_abs_self _).trans (quantized_lt returned).le
    exact (quantize_le hasPlaces_pow small (quantized_ok returned)).trans (not_lt.mp fits)

theorem exact_spec (exact : Exact (some value)) : HasPlaces 4 value ∧ |value| < 10 ^ 14 := by
  unfold Exact amountColumn at exact
  dsimp only at exact
  split at exact
  · cases exact
  · next stored kept =>
      cases exact
      refine ⟨hasPlaces_numeric kept, ?_⟩
      unfold numeric at kept
      dsimp only at kept
      split at kept
      · cases kept
      · next short =>
          have coefficient : value = roundHalfAway (value * 10 ^ 4) / 10 ^ 4 := (Option.some.inj kept).symm
          have bounded : |(roundHalfAway (value * 10 ^ 4) : ℚ)| < 10 ^ 18 := by
            rw [← Int.cast_abs, Int.abs_eq_natAbs]
            exact_mod_cast not_le.mp short
          rw [coefficient, abs_div, abs_of_pos (by norm_num : (0 : ℚ) < 10 ^ 4)]
          rw [div_lt_iff₀ (by norm_num)]
          calc |(roundHalfAway (value * 10 ^ 4) : ℚ)| < 10 ^ 18 := bounded
            _ = 10 ^ 14 * 10 ^ 4 := by norm_num

end

/-- The register has not gone back: a correction is not below the previous value, and a
rollover is less than one turn below it. -/
def Forward (meter : Meter) (previous : Option ℚ) (value : ℚ) (kind : ReadingKind) : Prop :=
  ∀ before, previous = some before →
    (kind = .correction → before ≤ value) ∧
      (kind = .rollover → ∀ digits, digitsOf meter.maxDigits = some digits → before ≤ value + 10 ^ digits)

/-- The kind says of the two values what has happened on the dial since. -/
def TurnedAs (kind : ReadingKind) (before value capacity : ℚ) : Prop :=
  match kind with
  | .normal => True
  | .rollover => value < before ∧ before ≤ value + capacity
  | .correction => before ≤ value
  | .replacement => False

section

variable {around : Surroundings} {meter : Meter} {month : Month} {previous : Option ℚ}
  {before value coefficient consumption : ℚ} {readAt : Option Day} {kind : ReadingKind}
  {maxDigits : Option Nat} {digits : Nat} {today : Day} {result : Evaluation}

theorem clean_value
    (collected : valueProblems today meter month previous value readAt kind = .ok []) :
    0 ≤ value ∧ (∀ digits, digitsOf meter.maxDigits = some digits → value < 10 ^ digits) ∧
      ∀ before, previous = some before → kind = .normal → before ≤ value := by
  unfold valueProblems at collected
  obtain ⟨dated, _, returned⟩ := bind_eq_ok_iff.mp collected
  have none := Except.ok.inj returned
  simp only [List.append_eq_nil_iff] at none
  obtain ⟨⟨⟨negative, capacity⟩, _⟩, decreased⟩ := none
  refine ⟨?_, fun digits room => ?_, fun before known normal => ?_⟩
  · by_contra below
    rw [if_pos (not_le.mp below)] at negative
    cases negative
  · by_contra above
    simp only [capacityProblems, room, if_pos (not_lt.mp above)] at capacity
    cases capacity
  · by_contra below
    simp only [decreaseProblems, known, if_pos (And.intro (not_le.mp below) normal)] at decreased
    cases decreased

theorem computeConsumption_difference (plain : kind = .normal ∨ kind = .correction)
    (computed : computeConsumption (some before) value coefficient kind maxDigits = .ok consumption) :
    quantized (rounded (rounded (value - before) * coefficient)) = .ok consumption := by
  unfold computeConsumption at computed
  rcases plain with rfl | rfl
  · exact computed
  · exact computed

theorem computeConsumption_rollover
    (computed : computeConsumption (some before) value coefficient .rollover maxDigits = .ok consumption) :
    ∃ digits, digitsOf maxDigits = some digits ∧
      quantized (rounded (rounded (rounded (10 ^ digits - before) + value) * coefficient)) =
        .ok consumption := by
  unfold computeConsumption at computed
  dsimp only at computed
  rw [if_neg (by decide), if_pos rfl] at computed
  split at computed
  · cases computed
  · next digits room => exact ⟨digits, room, computed⟩

theorem computeConsumption_whole (whole : previous = none ∨ kind = .replacement)
    (computed : computeConsumption previous value coefficient kind maxDigits =
      .ok consumption) : quantized (rounded (value * coefficient)) = .ok consumption := by
  unfold computeConsumption at computed
  split at computed
  · exact computed
  · rcases whole with absent | rfl
    · cases absent
    · exact computed

theorem Meter.Admitted.digits_le (admitted : meter.Admitted)
    (room : digitsOf meter.maxDigits = some digits) : digits ≤ 18 := by
  unfold digitsOf at room
  obtain ⟨known, _⟩ := Option.filter_eq_some_iff.mp room
  exact (admitted.digits digits known).2

theorem rounded_rest (short : digits ≤ 18) (exact : Exact (some before)) :
    rounded (10 ^ digits - before) = 10 ^ digits - before := by
  obtain ⟨places, small⟩ := exact_spec exact
  refine rounded_eq_self (hasPlaces_pow.sub places) ?_
  have power : (10 : ℚ) ^ digits ≤ 10 ^ 18 := pow_le_pow_right₀ (by norm_num) short
  have positive : (0 : ℚ) < 10 ^ digits := by positivity
  obtain ⟨above, below⟩ := abs_lt.mp small
  rw [abs_lt]
  constructor
  · linarith
  · linarith

theorem consumption_nonneg (admitted : meter.Admitted)
    (exact : ∀ before, previous = some before → Exact (some before)) (nonneg : 0 ≤ value)
    (undecreased : ∀ before, previous = some before → kind = .normal → before ≤ value)
    (forward : Forward meter previous value kind)
    (computed : computeConsumption previous value meter.coefficient kind meter.maxDigits =
      .ok consumption) : 0 ≤ consumption := by
  have charged : ∀ amount, 0 ≤ amount →
      quantized (rounded (rounded amount * meter.coefficient)) = .ok consumption →
        0 ≤ consumption := by
    intro amount above returned
    exact quantized_nonneg
      (rounded_nonneg (mul_nonneg (rounded_nonneg above) admitted.positive.le)) returned
  cases previous with
  | none =>
    exact quantized_nonneg (rounded_nonneg (mul_nonneg nonneg admitted.positive.le))
      (computeConsumption_whole (.inl rfl) computed)
  | some before =>
    obtain ⟨corrected, rolled⟩ := forward before rfl
    cases kind with
    | normal =>
      exact charged _ (sub_nonneg.mpr (undecreased before rfl rfl))
        (computeConsumption_difference (.inl rfl) computed)
    | correction =>
      exact charged _ (sub_nonneg.mpr (corrected rfl))
        (computeConsumption_difference (.inr rfl) computed)
    | replacement =>
      exact quantized_nonneg (rounded_nonneg (mul_nonneg nonneg admitted.positive.le))
        (computeConsumption_whole (.inr rfl) computed)
    | rollover =>
      obtain ⟨digits, room, returned⟩ := computeConsumption_rollover computed
      rw [rounded_rest (admitted.digits_le room) (exact before rfl)] at returned
      refine charged _ ?_ returned
      linarith [rolled rfl digits room]

theorem consumption_eq (admitted : meter.Admitted) (beforeNonneg : 0 ≤ before)
    (exact : Exact (some before)) (room : digitsOf meter.maxDigits = some digits)
    (below : value < 10 ^ digits)
    (undecreased : kind = .normal → before ≤ value)
    (turned : TurnedAs kind before value (10 ^ digits))
    (computed : computeConsumption (some before) value meter.coefficient kind meter.maxDigits =
      .ok consumption) :
    quantized (rounded (rounded (wrapped (10 ^ digits) (value - before)) *
      meter.coefficient)) = .ok consumption := by
  have positive : (0 : ℚ) < 10 ^ digits := by positivity
  have ahead : before ≤ value → wrapped (10 ^ digits) (value - before) = value - before := by
    intro grown
    exact wrapped_eq_self positive (sub_nonneg.mpr grown) (by linarith)
  cases kind with
  | normal =>
    rw [ahead (undecreased rfl)]
    exact computeConsumption_difference (.inl rfl) computed
  | correction =>
    rw [ahead turned]
    exact computeConsumption_difference (.inr rfl) computed
  | replacement => exact turned.elim
  | rollover =>
    obtain ⟨lower, near⟩ := turned
    obtain ⟨others, known, returned⟩ := computeConsumption_rollover computed
    cases room.symm.trans known
    rw [rounded_rest (admitted.digits_le room) exact] at returned
    rw [wrapped_eq_add positive (by linarith) (by linarith)]
    have same : value - before + 10 ^ digits = 10 ^ digits - before + value := by ring
    rw [same]
    exact returned

theorem consumption_le (admitted : meter.Admitted)
    (room : digitsOf meter.maxDigits = some digits) {amount : ℚ} (nonneg : 0 ≤ amount)
    (below : amount < 10 ^ digits)
    (returned : quantized (rounded (rounded amount * meter.coefficient)) = .ok consumption) :
    consumption ≤ 10 ^ digits * meter.coefficient := by
  have power : (10 : ℚ) ^ digits ≤ 10 ^ 18 := pow_le_pow_right₀ (by norm_num) (admitted.digits_le room)
  have short : |amount| < 10 ^ 24 := by
    rw [abs_of_nonneg nonneg]
    linarith
  have less : rounded amount ≤ 10 ^ digits := rounded_le hasPlaces_pow short below.le
  refine product_le (rounded_nonneg nonneg) admitted.positive.le ?_
    (mul_le_mul_of_nonneg_right less admitted.positive.le) returned
  have whole := admitted.places.mul_int (10 ^ digits)
  push_cast at whole
  rw [mul_comm]
  exact whole

end

/-! A meter of five digits, read with 100 before. -/

def dialMeter : Meter := ⟨1, "D-5", "D-5", .electricity, .active, 1, none, 1, some 5⟩

theorem dialMeter_admitted : dialMeter.Admitted where
  positive := by decide +kernel
  places := hasPlaces_intCast 1
  digits := by
    intro digits set
    cases set
    decide

end InfrasafeBot.ResourceAccounting
