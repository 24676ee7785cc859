import InfrasafeBot.Library.Computation
import InfrasafeBot.Library.Decimals
import InfrasafeBot.ResourceAccounting.ObjectRegistry

/-! The readings of meters: what is computed from a value and its baseline, and the checks
that every value passes (`services/readings.py`). Amounts are exact in a request; the columns
round what they store. -/

set_option autoImplicit false

namespace InfrasafeBot.ResourceAccounting

open Library Decimals

/-- `YYYY-MM` as twelve times the year and the months before it; the texts sort as the numbers. -/
abbrev Month := Nat

/-- The ordinal of a date; the first of January of the year one is 1. -/
abbrev Day := Nat

abbrev ProviderId := Nat

/-- Why a request writes nothing: an answer to the caller, or an exception that nobody catches. -/
inductive Refusal where
  | api (error : ApiError)
  | crashed
  deriving DecidableEq

inductive PeriodStatus where
  | opened
  | review
  | submitted
  | closed
  deriving DecidableEq

def PeriodStatus.text : PeriodStatus → String
  | .opened => "open"
  | .review => "review"
  | .submitted => "submitted"
  | .closed => "closed"

def PeriodStatus.editable : PeriodStatus → Bool
  | .opened => true
  | .review => true
  | .submitted => false
  | .closed => false

def PeriodStatus.flow : PeriodStatus → List PeriodStatus
  | .opened => [.review]
  | .review => [.opened, .submitted]
  | .submitted => [.closed]
  | .closed => []

inductive ReadingStatus where
  | ok
  | warning
  | error
  | missing
  deriving DecidableEq

def ReadingStatus.accepted : ReadingStatus → Bool
  | .ok => true
  | .warning => true
  | .error => false
  | .missing => false

inductive ReadingKind where
  | normal
  | rollover
  | replacement
  | correction
  deriving DecidableEq

inductive MissingReason where
  | noAccess
  | broken
  | replaced
  | other
  deriving DecidableEq

inductive ResourceType where
  | electricity
  | coldWater
  deriving DecidableEq

structure Meter where
  id : MeterId
  meterNumber : String
  meterNumberNormalized : String
  resourceType : ResourceType
  status : MeterStatus
  primaryObjectId : ObjectId
  providerId : Option ProviderId
  coefficient : ℚ
  maxDigits : Option Nat
  deriving DecidableEq

structure AnomalyRule where
  absThreshold : Option ℚ
  pctChangeThreshold : Option ℚ
  avgWindowMonths : Nat
  avgDeviationPct : Option ℚ

inductive Problem where
  | negative
  | overCapacity (maxDigits : Nat)
  | afterToday
  | outsideWindow
  | decreased (value previous : ℚ)
  deriving DecidableEq

inductive Anomaly where
  | overThreshold (consumption threshold : ℚ)
  | jumped (percent threshold : ℚ)
  | deviates (months : Nat) (percent threshold : ℚ)
  deriving DecidableEq

inductive Finding where
  | problems (found : List Problem)
  | anomaly (found : Anomaly)
  deriving DecidableEq

inductive ValidationMessage where
  | found (finding : Finding)
  | corrected (reason : String) (finding : Option Finding)
  deriving DecidableEq

structure Reading where
  meterId : MeterId
  month : Month
  value : Option ℚ
  readAt : Option Day
  kind : ReadingKind
  previousValue : Option ℚ
  consumption : Option ℚ
  status : ReadingStatus
  validationMessage : Option ValidationMessage
  missingReason : Option MissingReason
  comment : Option String
  deriving DecidableEq

abbrev ReadingKey := MeterId × Month

def Reading.key (reading : Reading) : ReadingKey := (reading.meterId, reading.month)

def Reading.fresh (meter : MeterId) (month : Month) : Reading :=
  ⟨meter, month, none, none, .normal, none, none, .missing, none, none, none⟩

structure ReadingIn where
  value : Option ℚ
  readAt : Option Day
  kind : ReadingKind
  missingReason : Option MissingReason
  comment : Option String

def daysBeforeYear (year : Nat) : Nat :=
  let past := year - 1
  past * 365 + past / 4 - past / 100 + past / 400

def isLeap (year : Nat) : Bool := year % 4 = 0 && (year % 100 ≠ 0 || year % 400 = 0)

def daysBeforeMonth (year month : Nat) : Nat :=
  ([31, if isLeap year then 29 else 28, 31, 30, 31, 30, 31, 31, 30, 31, 30, 31].take month).sum

def firstDay (month : Month) : Option Day :=
  let year := month / 12
  if 1 ≤ year ∧ year ≤ 9999 then some (daysBeforeYear year + daysBeforeMonth year (month % 12) + 1)
  else none

def periodMonthBounds (month : Month) : Except Refusal (Day × Day) :=
  match firstDay month, firstDay (month + 1) with
  | some first, some following => .ok (first, following - 1)
  | _, _ => .error .crashed

def decimalPrecision : Nat := 28

def rounded (value : ℚ) : ℚ := contextRound decimalPrecision value

def quantized (value : ℚ) : Except Refusal ℚ :=
  match quantize decimalPrecision 4 value with
  | none => .error .crashed
  | some result => .ok result

/-- The number of digits, where the meter has one that is not zero. -/
def digitsOf (maxDigits : Option Nat) : Option Nat := maxDigits.filter (· ≠ 0)

def rolloverWithoutDigits : ApiError := .badRequest "Для rollover требуется заданная разрядность счётчика"

def computeConsumption (previous : Option ℚ) (current coefficient : ℚ) (kind : ReadingKind)
    (maxDigits : Option Nat) : Except Refusal ℚ :=
  match previous with
  | none => quantized (rounded (current * coefficient))
  | some previous =>
    if kind = .replacement then quantized (rounded (current * coefficient))
    else if kind = .rollover then
      match digitsOf maxDigits with
      | none => .error (.api rolloverWithoutDigits)
      | some digits =>
        quantized (rounded (rounded (rounded (10 ^ digits - previous) + current) * coefficient))
    else quantized (rounded (rounded (current - previous) * coefficient))

/-- What an evaluation reads besides the meter: the day, the rule of the meter's resource and
the consumptions of the earlier months, the latest first. -/
structure Surroundings where
  today : Day
  rule : Option AnomalyRule
  recent : List ℚ

def deviation (consumption base : ℚ) : ℚ := rounded (rounded (|rounded (consumption - base)| / base) * 100)

def averageOf (history : List ℚ) : ℚ :=
  rounded ((history.foldl (fun sum amount => rounded (sum + amount)) 0) / history.length)

def exceeds (percent : ℚ) (threshold : Option ℚ) : Option ℚ := threshold.filter (· < percent)

def historyAnomaly (rule : AnomalyRule) (consumption last : ℚ) (history : List ℚ) : Option Anomaly :=
  let change := deviation consumption last
  let average := averageOf history
  let spread := deviation consumption average
  match (if 0 < last then exceeds change rule.pctChangeThreshold else none) with
  | some threshold => some (.jumped change threshold)
  | none =>
    match (if 0 < average then exceeds spread rule.avgDeviationPct else none) with
    | some threshold => some (.deviates history.length spread threshold)
    | none => none

def checkAnomaly (rule : Option AnomalyRule) (recent : List ℚ) (consumption : ℚ) : Option Anomaly :=
  match rule with
  | none => none
  | some rule =>
    match exceeds consumption rule.absThreshold with
    | some threshold => some (.overThreshold consumption threshold)
    | none =>
      match recent.take rule.avgWindowMonths with
      | [] => none
      | last :: rest => historyAnomaly rule consumption last (last :: rest)

def dateProblems (today : Day) (month : Month) : Option Day → Except Refusal (List Problem)
  | none => .ok []
  | some readAt => do
      let (first, last) ← periodMonthBounds month
      -- a window that begins before the first date there is
      if first ≤ 15 then throw .crashed
      return (if max today last + 1 < readAt then [.afterToday] else []) ++
        if first - 15 ≤ readAt ∧ readAt ≤ last + 15 then [] else [.outsideWindow]

def capacityProblems (maxDigits : Option Nat) (value : ℚ) : List Problem :=
  match digitsOf maxDigits with
  | none => []
  | some digits => if 10 ^ digits ≤ value then [.overCapacity digits] else []

def decreaseProblems (previous : Option ℚ) (value : ℚ) (kind : ReadingKind) : List Problem :=
  match previous with
  | none => []
  | some previous =>
    if value < previous ∧ kind = .normal then [.decreased value previous] else []

def valueProblems (today : Day) (meter : Meter) (month : Month) (previous : Option ℚ) (value : ℚ)
    (readAt : Option Day) (kind : ReadingKind) : Except Refusal (List Problem) := do
  let dated ← dateProblems today month readAt
  return (if value < 0 then [.negative] else []) ++ capacityProblems meter.maxDigits value ++
    dated ++ decreaseProblems previous value kind

structure Evaluation where
  consumption : Option ℚ
  status : ReadingStatus
  finding : Option Finding
  deriving DecidableEq

def judged (around : Surroundings) (consumption : ℚ) : Evaluation :=
  match checkAnomaly around.rule around.recent consumption with
  | some anomaly => ⟨some consumption, .warning, some (.anomaly anomaly)⟩
  | none => ⟨some consumption, .ok, none⟩

def evaluateValue (around : Surroundings) (meter : Meter) (month : Month) (previous : Option ℚ)
    (value : ℚ) (readAt : Option Day) (kind : ReadingKind) : Except Refusal Evaluation := do
  let problems ← valueProblems around.today meter month previous value readAt kind
  if problems ≠ [] then return ⟨none, .error, some (.problems problems)⟩
  let consumption ← computeConsumption previous value meter.coefficient kind meter.maxDigits
  return judged around consumption

def missingWithoutReason : ApiError :=
  .badRequest "Отсутствие показания требует причины (нет доступа, неисправность, замена, другое)"

def defaultDay (today first last : Day) : Day := min (max today first) last

def validateAndFill (around : Surroundings) (meter : Meter) (data : ReadingIn)
    (previous : Option ℚ) (reading : Reading) : Except Refusal Reading :=
  match data.value with
  | none =>
    if data.missingReason = none then .error (.api missingWithoutReason)
    else
      .ok { reading with
        kind := data.kind, missingReason := data.missingReason, comment := data.comment,
        previousValue := previous, value := none, readAt := none, consumption := none,
        status := .missing, validationMessage := none }
  | some value => do
      let (first, last) ← periodMonthBounds reading.month
      let readAt := data.readAt.getD (defaultDay around.today first last)
      let evaluated ←
        evaluateValue around meter reading.month previous value (some readAt) data.kind
      return { reading with
        kind := data.kind, missingReason := data.missingReason, comment := data.comment,
        previousValue := previous, value := some value, readAt := some readAt,
        consumption := evaluated.consumption, status := evaluated.status,
        validationMessage := evaluated.finding.map .found }

def amountColumn : Option ℚ → Except Refusal (Option ℚ)
  | none => .ok none
  | some amount =>
    match numeric 18 4 amount with
    | none => .error .crashed
    | some stored => .ok (some stored)

def Reading.stored (reading : Reading) : Except Refusal Reading := do
  let value ← amountColumn reading.value
  let previousValue ← amountColumn reading.previousValue
  let consumption ← amountColumn reading.consumption
  return { reading with value := value, previousValue := previousValue, consumption := consumption }

/-- The column keeps the amount as it is. -/
def Exact (amount : Option ℚ) : Prop := amountColumn amount = .ok amount

instance exactDecidable (amount : Option ℚ) : Decidable (Exact amount) :=
  inferInstanceAs (Decidable (amountColumn amount = .ok amount))

section

variable {around : Surroundings} {meter : Meter} {month : Month} {previous : Option ℚ}
  {value coefficient consumption : ℚ} {readAt : Option Day} {kind : ReadingKind}
  {maxDigits : Option Nat} {reading filled row : Reading} {data : ReadingIn}
  {amount stored : Option ℚ}

/-- The status and the consumption of a row are those of an evaluation of its value, on that
day and against its previous value. -/
def Evaluated (today : Day) (meter : Meter) (reading : Reading) (value : ℚ) : Prop :=
  ∃ problems, valueProblems today meter reading.month reading.previousValue value reading.readAt
      reading.kind = .ok problems ∧
    (problems ≠ [] ∧ reading.status = .error ∧ reading.consumption = none ∨
      problems = [] ∧ reading.status.accepted = true ∧
        ∃ consumption, computeConsumption reading.previousValue value meter.coefficient
            reading.kind meter.maxDigits = .ok consumption ∧
          reading.consumption = some consumption)

theorem judged_accepted : (judged around consumption).status.accepted = true ∧
    (judged around consumption).consumption = some consumption := by
  unfold judged
  split
  · exact ⟨rfl, rfl⟩
  · exact ⟨rfl, rfl⟩

theorem evaluateValue_ok {result : Evaluation}
    (evaluated : evaluateValue around meter month previous value readAt kind = .ok result) :
    ∃ problems, valueProblems around.today meter month previous value readAt kind = .ok problems ∧
      (problems ≠ [] ∧ result.status = .error ∧ result.consumption = none ∨
        problems = [] ∧ result.status.accepted = true ∧
          ∃ consumption, computeConsumption previous value meter.coefficient kind
              meter.maxDigits = .ok consumption ∧
            result.consumption = some consumption) := by
  unfold evaluateValue at evaluated
  obtain ⟨problems, collected, rest⟩ := bind_eq_ok_iff.mp evaluated
  refine ⟨problems, collected, ?_⟩
  by_cases clean : problems = []
  · simp only [clean, ne_eq, not_true_eq_false, if_false] at rest
    obtain ⟨consumption, computed, returned⟩ := bind_eq_ok_iff.mp rest
    cases returned
    exact .inr ⟨clean, judged_accepted.1, consumption, computed, judged_accepted.2⟩
  · simp only [ne_eq, clean, not_false_eq_true, if_true] at rest
    cases rest
    exact .inl ⟨clean, rfl, rfl⟩

theorem validateAndFill_ok
    (filledIn : validateAndFill around meter data previous reading = .ok filled) :
    filled.key = reading.key ∧ filled.previousValue = previous ∧ filled.value = data.value ∧
      (data.value = none → filled.consumption = none ∧ filled.status = .missing) ∧
      ∀ value, data.value = some value → Evaluated around.today meter filled value := by
  unfold validateAndFill at filledIn
  cases entered : data.value with
  | none =>
    simp only [entered] at filledIn
    split at filledIn
    · cases filledIn
    · cases filledIn
      exact ⟨rfl, rfl, rfl, fun _ => ⟨rfl, rfl⟩, fun _ impossible => (by cases impossible)⟩
  | some value =>
    simp only [entered] at filledIn
    obtain ⟨⟨first, last⟩, _, dated⟩ := bind_eq_ok_iff.mp filledIn
    obtain ⟨result, evaluated, returned⟩ := bind_eq_ok_iff.mp dated
    cases returned
    refine ⟨rfl, rfl, rfl, fun impossible => (by cases impossible), fun same held => ?_⟩
    cases held
    exact evaluateValue_ok evaluated

theorem quantized_places {amount result : ℚ} (returned : quantized amount = .ok result) :
    HasPlaces 4 result := by
  unfold quantized at returned
  split at returned
  · cases returned
  · next kept =>
      cases returned
      exact hasPlaces_quantize kept

theorem computeConsumption_places
    (computed : computeConsumption previous value coefficient kind maxDigits =
      .ok consumption) : HasPlaces 4 consumption := by
  unfold computeConsumption at computed
  split at computed
  · exact quantized_places computed
  · split at computed
    · exact quantized_places computed
    · split at computed
      · split at computed
        · cases computed
        · exact quantized_places computed
      · exact quantized_places computed

theorem amountColumn_eq_self {amount : ℚ} (whole : HasPlaces 4 amount)
    (kept : amountColumn (some amount) = .ok stored) : stored = some amount := by
  unfold amountColumn at kept
  dsimp only at kept
  split at kept
  · cases kept
  · next held =>
      cases kept
      rw [numeric_eq_self whole held]

theorem exact_none : Exact none := rfl

theorem stored_ok (kept : reading.stored = .ok row) :
    ∃ value previousValue consumption, amountColumn reading.value = .ok value ∧
      amountColumn reading.previousValue = .ok previousValue ∧
      amountColumn reading.consumption = .ok consumption ∧
      row = { reading with
        value := value, previousValue := previousValue, consumption := consumption } := by
  unfold Reading.stored at kept
  obtain ⟨value, first, rest⟩ := bind_eq_ok_iff.mp kept
  obtain ⟨previousValue, second, last⟩ := bind_eq_ok_iff.mp rest
  obtain ⟨consumption, third, returned⟩ := bind_eq_ok_iff.mp last
  cases returned
  exact ⟨value, previousValue, consumption, first, second, third, rfl⟩

theorem consumption_stored
    (evaluated : reading.consumption = none ∨
      ∃ computed, reading.consumption = some computed ∧ HasPlaces 4 computed)
    (kept : amountColumn reading.consumption = .ok stored) : stored = reading.consumption := by
  rcases evaluated with none | ⟨computed, held, whole⟩
  · rw [none] at kept ⊢
    cases kept
    rfl
  · rw [held] at kept ⊢
    exact amountColumn_eq_self whole kept

theorem stored_eq_self (value : Exact reading.value) (previousValue : Exact reading.previousValue)
    (evaluated : reading.consumption = none ∨
      ∃ computed, reading.consumption = some computed ∧ HasPlaces 4 computed)
    (kept : reading.stored = .ok row) : row = reading := by
  obtain ⟨storedValue, storedPrevious, storedConsumption, first, second, third, rfl⟩ := stored_ok kept
  have sameValue : storedValue = reading.value := Except.ok.inj (first.symm.trans value)
  have samePrevious : storedPrevious = reading.previousValue :=
    Except.ok.inj (second.symm.trans previousValue)
  rw [sameValue, samePrevious, consumption_stored evaluated third]

theorem Evaluated.consumption_places {today : Day}
    (evaluated : Evaluated today meter reading value) :
    reading.consumption = none ∨
      ∃ computed, reading.consumption = some computed ∧ HasPlaces 4 computed := by
  obtain ⟨problems, _, ⟨_, _, none⟩ | ⟨_, _, consumption, computed, held⟩⟩ := evaluated
  · exact .inl none
  · exact .inr ⟨consumption, held, computeConsumption_places computed⟩

end

end InfrasafeBot.ResourceAccounting
