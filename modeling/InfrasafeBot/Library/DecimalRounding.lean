import Mathlib.Tactic.Linarith
import Mathlib.Tactic.Ring
import Mathlib.Algebra.Order.Field.Power
import InfrasafeBot.Library.Decimals

/-! Bounds of rounded decimals. A number that has the places to which a context rounds is a
bound of what is rounded where it is a bound of the exact number; a power of ten always is. -/

set_option autoImplicit false

namespace InfrasafeBot.Library.Decimals

variable {precision places digits exponent : Nat} {value bound stored : ℚ} {units : Int}

theorem roundHalfEven_le (below : value ≤ units) : roundHalfEven value ≤ units := by
  have floor : ⌊value⌋ ≤ units := Int.floor_le_iff.mpr (by linarith)
  have step : (⌊value⌋ : ℚ) < value → ⌊value⌋ + 1 ≤ units := by
    intro above
    have less : (⌊value⌋ : ℚ) < units := lt_of_lt_of_le above below
    exact_mod_cast less
  unfold roundHalfEven
  dsimp only
  split
  · exact floor
  · split
    · exact step (by linarith)
    · split
      · exact floor
      · exact step (by linarith)

theorem le_roundHalfEven (above : (units : ℚ) ≤ value) : units ≤ roundHalfEven value := by
  have floor : units ≤ ⌊value⌋ := Int.le_floor.mpr above
  unfold roundHalfEven
  dsimp only
  split
  · exact floor
  · split
    · omega
    · split
      · exact floor
      · omega

/-- The weight of the last digit that a context keeps. -/
def lastUnit (precision : Nat) (value : ℚ) : ℚ := 10 ^ (Int.log 10 |value| + 1 - precision)

theorem lastUnit_pos : 0 < lastUnit precision value := by
  unfold lastUnit
  positivity

theorem contextRound_zero : contextRound precision 0 = 0 := if_pos rfl

theorem contextRound_of_ne_zero (filled : value ≠ 0) :
    contextRound precision value =
      roundHalfEven (value / lastUnit precision value) * lastUnit precision value :=
  if_neg filled

theorem contextRound_le_units (filled : value ≠ 0)
    (below : value ≤ units * lastUnit precision value) :
    contextRound precision value ≤ units * lastUnit precision value := by
  rw [contextRound_of_ne_zero filled]
  refine mul_le_mul_of_nonneg_right ?_ lastUnit_pos.le
  exact_mod_cast roundHalfEven_le ((div_le_iff₀ lastUnit_pos).mpr below)

theorem units_le_contextRound (filled : value ≠ 0)
    (above : units * lastUnit precision value ≤ value) :
    units * lastUnit precision value ≤ contextRound precision value := by
  rw [contextRound_of_ne_zero filled]
  refine mul_le_mul_of_nonneg_right ?_ lastUnit_pos.le
  exact_mod_cast le_roundHalfEven ((le_div_iff₀ lastUnit_pos).mpr above)

theorem contextRound_nonneg (above : 0 ≤ value) : 0 ≤ contextRound precision value := by
  rcases above.eq_or_lt with rfl | positive
  · rw [contextRound_zero]
  · have bounded := @units_le_contextRound precision value 0 positive.ne'
    simp only [Int.cast_zero, zero_mul] at bounded
    exact bounded above

theorem log_lt_of_abs_lt (filled : value ≠ 0) (fits : |value| < 10 ^ digits) :
    Int.log 10 |value| < digits := by
  refine (Int.lt_zpow_iff_log_lt (by decide) (abs_pos.mpr filled)).mp ?_
  rw [zpow_natCast]
  exact_mod_cast fits

theorem units_of_hasPlaces (whole : HasPlaces places bound) (filled : value ≠ 0)
    (fits : |value| < 10 ^ digits) :
    ∃ units : Int, bound = units * lastUnit (digits + places) value := by
  obtain ⟨units, rfl⟩ := whole
  have short := log_lt_of_abs_lt filled fits
  obtain ⟨spare, spared⟩ := Int.eq_ofNat_of_zero_le (show 0 ≤ digits - 1 - Int.log 10 |value| by omega)
  have exponent : Int.log 10 |value| + 1 - ((digits + places : Nat) : Int) =
      -((spare : Int) + (places : Int)) := by
    push_cast
    omega
  refine ⟨units * 10 ^ spare, ?_⟩
  rw [lastUnit, exponent, zpow_neg, zpow_add₀ (by norm_num), zpow_natCast, zpow_natCast]
  push_cast
  field_simp

theorem contextRound_le (whole : HasPlaces places bound) (fits : |value| < 10 ^ digits)
    (below : value ≤ bound) : contextRound (digits + places) value ≤ bound := by
  by_cases filled : value = 0
  · rw [filled, contextRound_zero, ← filled]
    exact below
  · obtain ⟨units, rfl⟩ := units_of_hasPlaces whole filled fits
    exact contextRound_le_units filled below

theorem le_contextRound (whole : HasPlaces places bound) (fits : |value| < 10 ^ digits)
    (above : bound ≤ value) : bound ≤ contextRound (digits + places) value := by
  by_cases filled : value = 0
  · rw [filled, contextRound_zero, ← filled]
    exact above
  · obtain ⟨units, rfl⟩ := units_of_hasPlaces whole filled fits
    exact units_le_contextRound filled above

theorem contextRound_eq_self (whole : HasPlaces places value) (fits : |value| < 10 ^ digits) :
    contextRound (digits + places) value = value :=
  le_antisymm (contextRound_le whole fits le_rfl) (le_contextRound whole fits le_rfl)

theorem pow_le_abs_contextRound (large : (10 : ℚ) ^ exponent ≤ |value|) :
    (10 : ℚ) ^ exponent ≤ |contextRound (precision + 1) value| := by
  have filled : value ≠ 0 := by
    rintro rfl
    rw [abs_zero] at large
    exact absurd large (not_le.mpr (by positivity))
  have positive : 0 < |value| := abs_pos.mpr filled
  have least : (10 : ℚ) ^ Int.log 10 |value| ≤ |value| := by
    exact_mod_cast Int.zpow_log_le_self (R := ℚ) (b := 10) (by decide) positive
  have enough : (10 : ℚ) ^ exponent ≤ 10 ^ Int.log 10 |value| := by
    rw [← zpow_natCast]
    refine zpow_le_zpow_right₀ (by norm_num) ?_
    refine (Int.zpow_le_iff_le_log (R := ℚ) (b := 10) (by decide) positive).mp ?_
    rw [zpow_natCast]
    exact_mod_cast large
  have power : (10 : ℚ) ^ Int.log 10 |value| =
      ((10 ^ precision : Int) : ℚ) * lastUnit (precision + 1) value := by
    have exponent : Int.log 10 |value| + 1 - ((precision + 1 : Nat) : Int) =
        Int.log 10 |value| - precision := by
      push_cast
      omega
    rw [lastUnit, exponent, zpow_sub₀ (by norm_num), zpow_natCast]
    push_cast
    field_simp
  refine enough.trans ?_
  rcases lt_or_gt_of_ne filled with negative | above
  · have below : value ≤ -((10 : ℚ) ^ Int.log 10 |value|) := by
      linarith [abs_of_neg negative]
    have bounded := @contextRound_le_units (precision + 1) value (-(10 ^ precision)) filled
    rw [Int.cast_neg, neg_mul, ← power] at bounded
    exact le_abs.mpr (.inr (by linarith [bounded below]))
  · have least' : (10 : ℚ) ^ Int.log 10 |value| ≤ value := by
      linarith [abs_of_pos above]
    have bounded := @units_le_contextRound (precision + 1) value (10 ^ precision) filled
    rw [← power] at bounded
    exact le_abs.mpr (.inl (bounded least'))

theorem abs_lt_of_quantize (kept : quantize (digits + places) places value = some stored) :
    |value| < 10 ^ digits := by
  by_contra large
  rw [not_lt] at large
  have scale : (0 : ℚ) < 10 ^ places := by positivity
  have overflow : (10 : Int) ^ (digits + places) ≤ |roundHalfEven (value * 10 ^ places)| := by
    rcases le_total 0 value with above | below
    · rw [abs_of_nonneg above] at large
      have scaled : ((10 ^ (digits + places) : Int) : ℚ) ≤ value * 10 ^ places := by
        push_cast
        rw [pow_add]
        exact mul_le_mul_of_nonneg_right large scale.le
      exact (le_roundHalfEven scaled).trans (le_abs_self _)
    · rw [abs_of_nonpos below] at large
      have scaled : value * 10 ^ places ≤ ((-(10 ^ (digits + places)) : Int) : ℚ) := by
        push_cast
        rw [pow_add]
        linarith [mul_le_mul_of_nonneg_right large scale.le]
      exact le_abs.mpr (.inr (by linarith [roundHalfEven_le scaled]))
  have natural : 10 ^ (digits + places) ≤ (roundHalfEven (value * 10 ^ places)).natAbs := by
    rw [Int.abs_eq_natAbs] at overflow
    exact_mod_cast overflow
  rw [quantize, if_pos natural] at kept
  cases kept

theorem quantize_eq_some (kept : quantize precision places value = some stored) :
    stored = roundHalfEven (value * 10 ^ places) / 10 ^ places := by
  rw [quantize] at kept
  split at kept
  · cases kept
  · exact (Option.some.inj kept).symm

theorem quantize_le (whole : HasPlaces places bound) (below : value ≤ bound)
    (kept : quantize precision places value = some stored) : stored ≤ bound := by
  obtain ⟨units, rfl⟩ := whole
  have scale : (0 : ℚ) < 10 ^ places := by positivity
  rw [quantize_eq_some kept]
  refine div_le_div_of_nonneg_right ?_ scale.le
  exact_mod_cast roundHalfEven_le ((le_div_iff₀ scale).mp below)

theorem le_quantize (whole : HasPlaces places bound) (above : bound ≤ value)
    (kept : quantize precision places value = some stored) : bound ≤ stored := by
  obtain ⟨units, rfl⟩ := whole
  have scale : (0 : ℚ) < 10 ^ places := by positivity
  rw [quantize_eq_some kept]
  refine div_le_div_of_nonneg_right ?_ scale.le
  exact_mod_cast le_roundHalfEven ((div_le_iff₀ scale).mp above)

theorem quantize_eq_self (whole : HasPlaces places value)
    (kept : quantize precision places value = some stored) : stored = value :=
  le_antisymm (quantize_le whole le_rfl kept) (le_quantize whole le_rfl kept)

theorem quantize_contextRound (whole : HasPlaces places value)
    (kept : quantize (digits + places) places (contextRound (digits + places) value) =
      some stored) (places_pos : 0 < digits + places) : stored = value := by
  have fits : |value| < 10 ^ digits := by
    by_contra large
    rw [not_lt] at large
    obtain ⟨precision, same⟩ := Nat.exists_eq_add_of_lt places_pos
    rw [Nat.zero_add] at same
    have rounded := @pow_le_abs_contextRound precision digits value large
    rw [← same] at rounded
    exact absurd (abs_lt_of_quantize kept) (not_lt.mpr rounded)
  rw [contextRound_eq_self whole fits] at kept
  exact quantize_eq_self whole kept

theorem HasPlaces.zero : HasPlaces places 0 := ⟨0, by simp⟩

theorem HasPlaces.add {other : ℚ} (left : HasPlaces places value) (right : HasPlaces places other) :
    HasPlaces places (value + other) := by
  obtain ⟨units, rfl⟩ := left
  obtain ⟨others, rfl⟩ := right
  exact ⟨units + others, by push_cast; ring⟩

theorem HasPlaces.sub {other : ℚ} (left : HasPlaces places value) (right : HasPlaces places other) :
    HasPlaces places (value - other) := by
  obtain ⟨units, rfl⟩ := left
  obtain ⟨others, rfl⟩ := right
  exact ⟨units - others, by push_cast; ring⟩

theorem HasPlaces.mul_int (whole : HasPlaces places value) (factor : Int) :
    HasPlaces places (value * factor) := by
  obtain ⟨units, rfl⟩ := whole
  exact ⟨units * factor, by push_cast; ring⟩

theorem hasPlaces_intCast (units : Int) : HasPlaces places (units : ℚ) := by
  refine ⟨units * 10 ^ places, ?_⟩
  push_cast
  field_simp

theorem hasPlaces_pow : HasPlaces places ((10 : ℚ) ^ exponent) := by
  have whole := @hasPlaces_intCast places (10 ^ exponent)
  push_cast at whole
  exact whole

end InfrasafeBot.Library.Decimals
