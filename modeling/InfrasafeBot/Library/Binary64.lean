import InfrasafeBot.Library.DecimalRounding

/-! Double precision as exact rationals: what a quotient, a sum or a difference that is not
negative is rounded to, ties to even. The exponent has no bounds here. A double is a bound of
what is rounded where it is a bound of the exact number. -/

set_option autoImplicit false

namespace InfrasafeBot.Library.Binary64

open Decimals

def lastPlace (value : ℚ) : ℚ := 2 ^ (Int.log 2 |value| - 52)

def round (value : ℚ) : ℚ :=
  if value = 0 then 0 else roundHalfEven (value / lastPlace value) * lastPlace value

def IsDouble (value : ℚ) : Prop :=
  ∃ significand exponent : Int, |significand| ≤ 2 ^ 53 ∧ value = significand * 2 ^ exponent

variable {value bound : ℚ} {units : Int}

theorem lastPlace_pos : 0 < lastPlace value := by
  unfold lastPlace
  positivity

section

variable (positive : 0 < value)

include positive

theorem round_of_pos :
    round value = roundHalfEven (value / lastPlace value) * lastPlace value :=
  if_neg positive.ne'

theorem leading_eq :
    (2 : ℚ) ^ Int.log 2 value = ((2 ^ 52 : Int) : ℚ) * lastPlace value := by
  rw [lastPlace, abs_of_pos positive, zpow_sub₀ (by norm_num)]
  norm_num
  ring

theorem leading_le : ((2 ^ 52 : Int) : ℚ) * lastPlace value ≤ value := by
  rw [← leading_eq positive]
  exact_mod_cast Int.zpow_log_le_self (R := ℚ) (b := 2) (by decide) positive

theorem lt_carry : value < ((2 ^ 53 : Int) : ℚ) * lastPlace value := by
  have above := Int.lt_zpow_succ_log_self (R := ℚ) (b := 2) (by decide) value
  rw [zpow_add₀ (by norm_num)] at above
  push_cast at above
  rw [leading_eq positive] at above
  push_cast at above ⊢
  linarith

theorem units_le_round (above : (units : ℚ) * lastPlace value ≤ value) :
    units * lastPlace value ≤ round value := by
  rw [round_of_pos positive]
  refine mul_le_mul_of_nonneg_right ?_ lastPlace_pos.le
  exact_mod_cast le_roundHalfEven ((le_div_iff₀ lastPlace_pos).mpr above)

theorem round_le_units (below : value ≤ (units : ℚ) * lastPlace value) :
    round value ≤ units * lastPlace value := by
  rw [round_of_pos positive]
  refine mul_le_mul_of_nonneg_right ?_ lastPlace_pos.le
  exact_mod_cast roundHalfEven_le ((div_le_iff₀ lastPlace_pos).mpr below)

end

theorem round_zero : round 0 = 0 := if_pos rfl

theorem isDouble_round (nonneg : 0 ≤ value) : IsDouble (round value) := by
  rcases nonneg.eq_or_lt with rfl | positive
  · exact ⟨0, 0, by norm_num, by rw [round_zero]; norm_num⟩
  · refine ⟨roundHalfEven (value / lastPlace value), Int.log 2 |value| - 52, ?_, round_of_pos positive⟩
    have scaled : 0 ≤ value / lastPlace value := div_nonneg nonneg lastPlace_pos.le
    have low : 0 ≤ roundHalfEven (value / lastPlace value) := le_roundHalfEven (by exact_mod_cast scaled)
    have high : roundHalfEven (value / lastPlace value) ≤ 2 ^ 53 :=
      roundHalfEven_le ((div_le_iff₀ lastPlace_pos).mpr (lt_carry positive).le)
    rw [abs_of_nonneg low]
    exact high

theorem IsDouble.units_or_le (double : IsDouble bound) :
    (∃ units : Int, bound = units * lastPlace value) ∨
      bound ≤ ((2 ^ 52 : Int) : ℚ) * lastPlace value := by
  obtain ⟨significand, exponent, short, rfl⟩ := double
  rcases le_or_gt (Int.log 2 |value| - 52) exponent with coarse | fine
  · obtain ⟨spare, spared⟩ := Int.eq_ofNat_of_zero_le (sub_nonneg.mpr coarse)
    refine .inl ⟨significand * 2 ^ spare, ?_⟩
    rw [lastPlace, show exponent = spare + (Int.log 2 |value| - 52) by omega,
      zpow_add₀ (by norm_num), zpow_natCast]
    push_cast
    ring
  · refine .inr ?_
    have bits : (significand : ℚ) ≤ 2 ^ 53 := by
      exact_mod_cast (le_abs_self significand).trans short
    have power : (2 : ℚ) ^ (exponent + 1) ≤ lastPlace value := zpow_le_zpow_right₀ (by norm_num) (by omega)
    rw [zpow_add₀ (by norm_num), zpow_one] at power
    have weight : (0 : ℚ) < 2 ^ exponent := by positivity
    push_cast
    calc (significand : ℚ) * 2 ^ exponent ≤ 2 ^ 53 * 2 ^ exponent :=
          mul_le_mul_of_nonneg_right bits weight.le
      _ = 2 ^ 52 * (2 ^ exponent * 2) := by ring
      _ ≤ 2 ^ 52 * lastPlace value := mul_le_mul_of_nonneg_left power (by positivity)

theorem le_round (double : IsDouble bound) (nonneg : 0 ≤ value) (above : bound ≤ value) :
    bound ≤ round value := by
  rcases nonneg.eq_or_lt with rfl | positive
  · rw [round_zero]
    exact above
  · rcases @IsDouble.units_or_le value bound double with ⟨units, rfl⟩ | small
    · exact units_le_round positive above
    · exact small.trans (units_le_round positive (leading_le positive))

theorem round_le (double : IsDouble bound) (nonneg : 0 ≤ value) (below : value ≤ bound) :
    round value ≤ bound := by
  rcases nonneg.eq_or_lt with rfl | positive
  · rw [round_zero]
    exact below
  · rcases @IsDouble.units_or_le value bound double with ⟨units, rfl⟩ | small
    · exact round_le_units positive below
    · refine (round_le_units positive (below.trans small)).trans ?_
      exact (leading_le positive).trans below

theorem isDouble_natCast {number : Nat} (short : number ≤ 2 ^ 53) : IsDouble number := by
  refine ⟨number, 0, ?_, by norm_num⟩
  rw [abs_of_nonneg (Int.natCast_nonneg number)]
  exact_mod_cast short

theorem IsDouble.exists_int (double : IsDouble value) (large : 2 ^ 53 ≤ value) :
    ∃ number : Int, value = number := by
  obtain ⟨significand, exponent, short, rfl⟩ := double
  have bits : (significand : ℚ) ≤ 2 ^ 53 := by
    exact_mod_cast (le_abs_self significand).trans short
  have whole : 0 ≤ exponent := by
    by_contra negative
    have fraction : (2 : ℚ) ^ exponent < 1 := zpow_lt_one_of_neg₀ (by norm_num) (by omega)
    have weight : (0 : ℚ) < 2 ^ exponent := by positivity
    nlinarith
  obtain ⟨power, rfl⟩ := Int.eq_ofNat_of_zero_le whole
  exact ⟨significand * 2 ^ power, by push_cast; rw [zpow_natCast]⟩

theorem IsDouble.add_two_le (double : IsDouble value) {low high : Nat}
    (below : (low : ℚ) < value) (above : round (value + 1) < high) : low + 2 ≤ high := by
  have nonneg : 0 ≤ value + 1 := by
    have positive : (0 : ℚ) ≤ low := Nat.cast_nonneg low
    linarith
  by_contra near
  have close : (high : ℚ) ≤ low + 1 := by exact_mod_cast (show high ≤ low + 1 by omega)
  rcases le_or_gt high (2 ^ 53) with short | long
  · have bounded := le_round (isDouble_natCast short) nonneg (by linarith)
    linarith
  · have large : ((2 ^ 53 : Nat) : ℚ) ≤ low := by
      exact_mod_cast (show 2 ^ 53 ≤ low by omega)
    push_cast at large
    obtain ⟨number, rfl⟩ := double.exists_int (by linarith)
    have next : (low : Int) + 1 ≤ number := by
      have less : (low : Int) < number := by exact_mod_cast below
      omega
    have bounded := le_round double nonneg (by linarith)
    have reached : (low : ℚ) + 1 ≤ number := by exact_mod_cast next
    linarith

end InfrasafeBot.Library.Binary64
