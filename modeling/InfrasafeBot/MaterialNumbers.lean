import InfrasafeBot.Library.Decimals
import InfrasafeBot.RequestNumbers.NumberGrammar
import InfrasafeBot.StockPrices

/-! Quantities and prices from texts (`services/material_service/_core.py`): the constructor of
`Decimal`, and the errors that leave the two parsers. -/

set_option autoImplicit false

namespace InfrasafeBot.MaterialService

open Library RequestNumbers

/-- Blanks at the ends and underscores are dropped, and the decimal digits are those of ASCII. -/
def numericAsAscii (decimals : UnicodeDecimals) (text : String) : Option (List Char) :=
  ((stripChars text.toList).filter (· ≠ '_')).mapM fun letter =>
    if letter.toNat < 128 then some letter else (decimals.value letter).map Nat.digitChar

def takeSign : List Char → Bool × List Char
  | '-' :: rest => (true, rest)
  | '+' :: rest => (false, rest)
  | letters => (false, letters)

def readExponent : List Char → Option Int
  | [] => some 0
  | mark :: rest =>
    let (negative, digits) := takeSign rest
    let exponent : Int := Nat.ofDigitChars 10 digits 0
    if mark.toLower = 'e' ∧ digits ≠ [] ∧ digits.all Char.isDigit then
      some (if negative then -exponent else exponent)
    else none

/-- `MPD_MAX_EMAX` -/
def maxExponent : Int := 999999999999999999

/-- A number that even the widest context had to round or to clamp is refused. -/
def exactNumber (negative : Bool) (coefficient : Nat) (exponent : Int) : Number :=
  if exponent + (Nat.toDigits 10 coefficient).length - 1 ≤ maxExponent ∧
      1 ≤ exponent + 2 * maxExponent then
    let value : Decimal := coefficient * 10 ^ exponent
    .finite (if negative then -value else value)
  else .notANumber

def readFinite (negative : Bool) (letters : List Char) : Number :=
  let (whole, rest) := letters.span Char.isDigit
  let (fraction, rest) := match rest with
    | '.' :: rest => rest.span Char.isDigit
    | rest => ([], rest)
  match readExponent rest with
  | none => .notANumber
  | some exponent =>
    if whole ++ fraction = [] then .notANumber
    else
      exactNumber negative (Nat.ofDigitChars 10 (whole ++ fraction) 0) (exponent - fraction.length)

def readNumber (letters : List Char) : Number :=
  let (negative, letters) := takeSign letters
  match letters.map Char.toLower with
  | ['i', 'n', 'f'] => .infinity negative
  | ['i', 'n', 'f', 'i', 'n', 'i', 't', 'y'] => .infinity negative
  | 'n' :: 'a' :: 'n' :: payload => if payload.all Char.isDigit then .nan else .notANumber
  | 's' :: 'n' :: 'a' :: 'n' :: payload => if payload.all Char.isDigit then .nan else .notANumber
  | _ => readFinite negative letters

/-- `Decimal(text)` -/
def Number.ofText (decimals : UnicodeDecimals) (text : String) : Number :=
  ((numericAsAscii decimals text).map readNumber).getD .notANumber

/-- The result is sound, or the error is the one of the service. -/
def ReturnsOrRefuses (sound : Decimal → Prop) : Except MaterialError Decimal → Prop
  | .ok value => sound value
  | .error error => ∃ message, error = .validation message

/-- A number that is compared and quantized to so many places without another error. -/
def Number.Tractable (places : Nat) : Number → Prop
  | .notANumber => True
  | .nan => False
  | .infinity negative => negative = true
  | .finite value => value * 10 ^ places + 1 / 2 < 10 ^ contextPrecision

variable {value : Decimal} {limit coefficient : Int} {number : Number}

theorem le_roundHalfEven_iff (even : limit % 2 = 0) :
    limit ≤ roundHalfEven value ↔ (limit : ℚ) ≤ value + 1 / 2 := by
  have low := Int.floor_le value
  have high := Int.lt_floor_add_one value
  unfold roundHalfEven
  generalize ⌊value⌋ = below at low high ⊢
  dsimp only
  rcases lt_trichotomy limit (below + 1) with less | same | more
  · have near : (limit : ℚ) ≤ below := by exact_mod_cast Int.lt_add_one_iff.mp less
    have right : (limit : ℚ) ≤ value + 1 / 2 := by linarith
    refine iff_of_true ?_ right
    split_ifs <;> omega
  · have next : (limit : ℚ) = below + 1 := by exact_mod_cast same
    rw [next]
    split_ifs
    · exact iff_of_false (by omega) (by linarith)
    · exact iff_of_true (by omega) (by linarith)
    · exact absurd even (by omega)
    · exact iff_of_true (by omega) (by linarith)
  · have far : (below : ℚ) + 1 + 1 ≤ limit := by exact_mod_cast Int.add_one_le_iff.mpr more
    refine iff_of_false ?_ (by linarith)
    split_ifs <;> omega

theorem le_roundHalfUp_iff (nonneg : 0 ≤ value) :
    limit ≤ roundHalfUp value ↔ (limit : ℚ) ≤ value + 1 / 2 := by
  rw [roundHalfUp, if_pos nonneg, Int.le_floor]

theorem quantized_error {scale : Nat} {error : MaterialError} (failed : quantized coefficient scale = .error error) :
    error = .invalidOperation := by
  unfold quantized at failed
  split at failed <;> cases failed
  rfl

/-- A coefficient that is not negative is within the precision where what it was rounded from is
below its half unit. -/
theorem quantized_isOk_iff {places : Nat} (scale : Nat) (nonneg : 0 ≤ coefficient)
    (rounds : (10 ^ 28 : Int) ≤ coefficient ↔ ((10 ^ 28 : Int) : ℚ) ≤ value * 10 ^ places + 1 / 2) :
    (quantized coefficient scale).isOk = true ↔ (Number.finite value).Tractable places := by
  have exceeds : 10 ^ contextPrecision ≤ coefficient.natAbs ↔ (10 ^ 28 : Int) ≤ coefficient := by
    unfold contextPrecision
    omega
  have fits : (Number.finite value).Tractable places ↔ ¬ (10 ^ 28 : Int) ≤ coefficient := by
    rw [rounds, not_le]
    push_cast
    rfl
  rw [fits, ← exceeds]
  unfold quantized
  split
  · next beyond => exact iff_of_false (by simp [Except.isOk, Except.toBool]) (not_not_intro beyond)
  · next within => exact iff_of_true rfl within

theorem not_returnsOrRefuses {sound : Decimal → Prop} :
    ¬ ReturnsOrRefuses sound (.error .invalidOperation) := by
  intro ⟨_, same⟩
  cases same

theorem parseQty_returnsOrRefuses_iff :
    ReturnsOrRefuses (fun qty => 0 < qty ∧ Decimals.HasPlaces 3 qty) (parseQty number) ↔
      number.Tractable 3 := by
  cases number with
  | notANumber => exact iff_of_true ⟨_, rfl⟩ trivial
  | nan => exact iff_of_false not_returnsOrRefuses id
  | infinity negative =>
    cases negative with
    | false => exact iff_of_false not_returnsOrRefuses Bool.false_ne_true
    | true => exact iff_of_true ⟨_, rfl⟩ rfl
  | finite value =>
    by_cases small : value ≤ 0
    · have tractable : (Number.finite value).Tractable 3 := by
        change value * 10 ^ 3 + 1 / 2 < 10 ^ 28
        linarith
      refine iff_of_true ?_ tractable
      rw [parseQty, if_pos small]
      exact ⟨_, rfl⟩
    · have positive := not_le.mp small
      have scaled : (1000 : ℚ) = 10 ^ 3 := by norm_num
      have nonneg : 0 ≤ roundHalfEven (value * 1000) :=
        (le_roundHalfEven_iff rfl).mpr (by push_cast; linarith)
      rw [← quantized_isOk_iff 1000 nonneg (by rw [← scaled]; exact le_roundHalfEven_iff rfl)]
      rw [parseQty, if_neg small]
      cases stepped : quantized (roundHalfEven (value * 1000)) 1000 with
      | error error =>
        obtain rfl := quantized_error stepped
        exact iff_of_false not_returnsOrRefuses (by simp [Except.isOk, Except.toBool])
      | ok rounded =>
        refine iff_of_true ?_ rfl
        have whole : rounded = _ := quantized_ok stepped
        simp only [bind, Except.bind]
        split
        · exact ⟨_, rfl⟩
        · next same => exact ⟨positive, _, (not_not.mp same).trans whole⟩

theorem parsePrice_returnsOrRefuses_iff :
    ReturnsOrRefuses (fun price => 0 ≤ price ∧ Decimals.HasPlaces 2 price) (parsePrice number) ↔
      number.Tractable 2 := by
  cases number with
  | notANumber => exact iff_of_true ⟨_, rfl⟩ trivial
  | nan => exact iff_of_false not_returnsOrRefuses id
  | infinity negative =>
    cases negative with
    | false => exact iff_of_false not_returnsOrRefuses Bool.false_ne_true
    | true => exact iff_of_true ⟨_, rfl⟩ rfl
  | finite value =>
    rw [parsePrice]
    split
    · next negative =>
        have tractable : (Number.finite value).Tractable 2 := by
          change value * 10 ^ 2 + 1 / 2 < 10 ^ 28
          linarith
        exact iff_of_true ⟨_, rfl⟩ tractable
    · next positive =>
        have nonneg : 0 ≤ value * 100 := by linarith
        have scaled : (100 : ℚ) = 10 ^ 2 := by norm_num
        have rounded : 0 ≤ roundHalfUp (value * 100) :=
          (le_roundHalfUp_iff nonneg).mpr (by push_cast; linarith)
        rw [← quantized_isOk_iff 100 rounded (by rw [← scaled]; exact le_roundHalfUp_iff nonneg)]
        unfold money
        cases kept : quantized (roundHalfUp (value * 100)) 100 with
        | error error =>
          obtain rfl := quantized_error kept
          exact iff_of_false not_returnsOrRefuses (by simp [Except.isOk, Except.toBool])
        | ok price =>
          have whole : price = _ := quantized_ok kept
          refine iff_of_true ⟨?_, _, whole⟩ rfl
          rw [whole]
          positivity

/-- Both parsers have their one error on every text that is no number, a negative infinity, or a
number whose digits fit the precision once it is quantized. -/
theorem parsers_exact_iff (decimals : UnicodeDecimals) (text : String) :
    (ReturnsOrRefuses (fun qty => 0 < qty ∧ Decimals.HasPlaces 3 qty)
        (parseQty (.ofText decimals text)) ↔ (Number.ofText decimals text).Tractable 3) ∧
      (ReturnsOrRefuses (fun price => 0 ≤ price ∧ Decimals.HasPlaces 2 price)
        (parsePrice (.ofText decimals text)) ↔ (Number.ofText decimals text).Tractable 2) :=
  ⟨parseQty_returnsOrRefuses_iff, parsePrice_returnsOrRefuses_iff⟩

/-- A NaN is a `Decimal`, and the comparison with it raises. -/
theorem nan_escapes :
    ¬ ∀ (decimals : UnicodeDecimals) (text : String),
      ReturnsOrRefuses (fun qty => 0 < qty ∧ Decimals.HasPlaces 3 qty)
          (parseQty (.ofText decimals text)) ∧
        ReturnsOrRefuses (fun price => 0 ≤ price ∧ Decimals.HasPlaces 2 price)
          (parsePrice (.ofText decimals text)) := by
  intro parses
  have read : Number.ofText asciiDecimals "NaN" = .nan := by rfl
  have escaped := (parses asciiDecimals "NaN").1
  rw [read] at escaped
  exact not_returnsOrRefuses escaped

end InfrasafeBot.MaterialService
