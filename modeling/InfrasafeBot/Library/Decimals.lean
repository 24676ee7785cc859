import Mathlib.Tactic.FieldSimp
import Mathlib.Tactic.Positivity
import Mathlib.Data.Int.Log
import Mathlib.Data.Rat.Floor

/-! Decimal numbers as exact rationals: the context that rounds what arithmetic returns, the
`quantize` of a number to fixed places, and the column of a fixed precision and scale that
rounds what it stores. -/

set_option autoImplicit false

namespace InfrasafeBot.Library.Decimals

def roundHalfEven (value : ℚ) : Int :=
  let below := ⌊value⌋
  if value - below < 1 / 2 then below
  else if 1 / 2 < value - below then below + 1
  else if below % 2 = 0 then below else below + 1

def roundHalfAway (value : ℚ) : Int :=
  if 0 ≤ value then ⌊value + 1 / 2⌋ else -⌊-value + 1 / 2⌋

/-- What a context of that precision makes of an exact result. -/
def contextRound (precision : Nat) (value : ℚ) : ℚ :=
  if value = 0 then 0
  else
    let unit : ℚ := (10 : ℚ) ^ (Int.log 10 |value| + 1 - precision)
    roundHalfEven (value / unit) * unit

/-- The number to so many places, unless its digits exceed the precision. -/
def quantize (precision places : Nat) (value : ℚ) : Option ℚ :=
  let coefficient := roundHalfEven (value * 10 ^ places)
  if 10 ^ precision ≤ coefficient.natAbs then none else some (coefficient / 10 ^ places)

/-- What `NUMERIC(precision, scale)` stores of a number, unless it overflows. -/
def numeric (precision scale : Nat) (value : ℚ) : Option ℚ :=
  let coefficient := roundHalfAway (value * 10 ^ scale)
  if 10 ^ precision ≤ coefficient.natAbs then none else some (coefficient / 10 ^ scale)

def HasPlaces (places : Nat) (value : ℚ) : Prop := ∃ units : Int, value = units / 10 ^ places

variable {precision places : Nat} {value stored : ℚ}

theorem roundHalfAway_intCast (units : Int) : roundHalfAway (units : ℚ) = units := by
  have rounds : ∀ whole : Int, ⌊(whole : ℚ) + 1 / 2⌋ = whole := by
    intro whole
    rw [Int.floor_intCast_add]
    norm_num
  unfold roundHalfAway
  split
  · exact rounds units
  · have negated := rounds (-units)
    push_cast at negated
    rw [negated, neg_neg]

theorem hasPlaces_quantize (kept : quantize precision places value = some stored) :
    HasPlaces places stored := by
  simp only [quantize] at kept
  split at kept
  · cases kept
  · cases kept
    exact ⟨_, rfl⟩

theorem hasPlaces_numeric (kept : numeric precision places value = some stored) :
    HasPlaces places stored := by
  simp only [numeric] at kept
  split at kept
  · cases kept
  · cases kept
    exact ⟨_, rfl⟩

theorem numeric_eq_self (whole : HasPlaces places value)
    (kept : numeric precision places value = some stored) : stored = value := by
  obtain ⟨units, rfl⟩ := whole
  have scaled : (units : ℚ) / 10 ^ places * 10 ^ places = units := by
    field_simp
  simp only [numeric, scaled, roundHalfAway_intCast] at kept
  split at kept
  · cases kept
  · cases kept
    rfl

end InfrasafeBot.Library.Decimals
