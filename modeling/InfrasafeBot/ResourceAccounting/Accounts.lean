import Mathlib.Data.List.Sort
import InfrasafeBot.ResourceAccounting.Readings

/-! The accounts of one tenant and the requests on them, one after the other: the worksheet of
a period, imports, corrections, meter edits and acts (`api/periods.py`, `api/imports.py`,
`api/meters.py`, `services/readings.py`, `services/imports.py`, `services/exports.py`). What
belongs to another tenant is not found. -/

set_option autoImplicit false

namespace InfrasafeBot.ResourceAccounting

open Library

structure ReportingPeriod where
  month : Month
  status : PeriodStatus
  deriving DecidableEq

structure Accounts where
  meters : Table Meter.id
  periods : Table ReportingPeriod.month
  readings : Table Reading.key
  rules : ResourceType → Option AnomalyRule

def padded (width number : Nat) : String :=
  "".pushn '0' (width - (toString number).length) ++ toString number

def monthText (month : Month) : String := padded 4 (month / 12) ++ "-" ++ padded 2 (month % 12 + 1)

/-- A reading of the meter that may be a baseline of the month. -/
def mayPrecede (meter : MeterId) (month : Month) (reading : Reading) : Bool :=
  reading.meterId = meter && reading.value.isSome && reading.status.accepted && reading.month < month

namespace Accounts

variable (accounts : Accounts)

def getPreviousAccepted (meter : MeterId) (month : Month) : Option Reading :=
  latest Reading.month (mayPrecede meter month) accounts.readings.rows

def previousValue (meter : MeterId) (month : Month) : Option ℚ :=
  (accounts.getPreviousAccepted meter month).bind (·.value)

/-- The consumptions of the earlier months, the latest first; a rule takes as many as its
window has. -/
def getRecentConsumptions (meter : MeterId) (month : Month) : List ℚ :=
  ((accounts.readings.rows.filter fun reading =>
    reading.meterId = meter && reading.month < month).insertionSort
      fun left right => right.month ≤ left.month).filterMap (·.consumption)

def surroundings (today : Day) (meter : Meter) (month : Month) : Surroundings :=
  ⟨today, accounts.rules meter.resourceType, accounts.getRecentConsumptions meter.id month⟩

def getPeriod (month : Month) : Except Refusal ReportingPeriod :=
  match accounts.periods.find? month with
  | none => .error (.api (.notFound s!"Период {monthText month}"))
  | some period => .ok period

def meterNamed (name : String) (meter : MeterId) : Except Refusal Meter :=
  match accounts.meters.find? meter with
  | none => .error (.api (.notFound name))
  | some row => .ok row

/-- The period of the month is there and not closed. -/
def unclosed (month : Month) : Bool := (accounts.periods.find? month).any (·.status ≠ .closed)

end Accounts

def periodLocked (period : ReportingPeriod) : ApiError :=
  .conflict (s!"Период {monthText period.month} в статусе {period.status.text}: " ++
    "прямое редактирование запрещено, создайте корректировку")

def meterInactive (meter : Meter) : ApiError := .badRequest s!"Счётчик {meter.meterNumber} не активен"

abbrev Entry := Except Refusal Meter × ReadingIn

namespace Accounts

def upsertReading (accounts : Accounts) (today : Day) (period : ReportingPeriod) (meter : Meter)
    (data : ReadingIn) : Except Refusal Accounts :=
  if period.status.editable = false then .error (.api (periodLocked period))
  else if meter.status ≠ .active then .error (.api (meterInactive meter))
  else do
    let reading := (accounts.readings.find? (meter.id, period.month)).getD
      (.fresh meter.id period.month)
    let filled ← validateAndFill (accounts.surroundings today meter period.month) meter data
      (accounts.previousValue meter.id period.month) reading
    let row ← filled.stored
    return { accounts with readings := accounts.readings.save row }

def enter (today : Day) (period : ReportingPeriod) : Accounts → List Entry → Except Refusal Accounts
  | accounts, [] => .ok accounts
  | accounts, (found, data) :: rest => do
      let meter ← found
      let written ← accounts.upsertReading today period meter data
      enter today period written rest

end Accounts

/-- What `Decimal(text)` makes of a cell. -/
inductive AmountCell where
  | blank
  | unreadable
  | nan (signaling : Bool)
  | infinite (negative : Bool)
  | amount (value : ℚ)

/-- A row of a file with its texts read: a month or a date that cannot be read is `some none`. -/
structure RawRow where
  /-- The normalized number; `none` is an empty cell. -/
  meterNumber : Option String
  period : Option (Option Month)
  readingValue : AmountCell
  readAt : Option (Option Day)
  note : String
  missingReason : Option MissingReason

inductive RowProblem where
  | emptyNumber
  | otherPeriod
  | malformedPeriod
  | duplicate
  | unregistered
  | withoutReason
  | negative
  | unreadableValue
  | unreadableDate
  | decreased (value previous : Option ℚ)

structure ImportRow where
  line : Nat
  meterId : Option MeterId
  parsedValue : Option ℚ
  parsedReadAt : Option Day
  previousValue : Option ℚ
  consumption : Option ℚ
  missingReason : Option MissingReason
  note : String
  errors : List RowProblem

def periodErrors (month : Month) : Option (Option Month) → List RowProblem
  | none => []
  | some none => [.otherPeriod, .malformedPeriod]
  | some (some other) => if other = month then [] else [.otherPeriod]

def cellErrors (missingReason : Option MissingReason) : AmountCell → List RowProblem
  | .blank => if missingReason = none then [.withoutReason] else []
  | .unreadable => [.unreadableValue]
  -- a comparison with NaN raises what the code takes for an unreadable text
  | .nan _ => [.unreadableValue]
  | .infinite negative => if negative then [.negative] else []
  | .amount value => if value < 0 then [.negative] else []

def dateErrors : Option (Option Day) → List RowProblem
  | none => []
  | some none => [.unreadableDate]
  | some (some _) => []

/-- The comparison with the previous reading and the consumption that a preview shows. -/
def previewConsumption (meter : Meter) (previous : Option ℚ) :
    AmountCell → Except Refusal (List RowProblem × Option ℚ)
  | .blank => .ok ([], none)
  | .unreadable => .ok ([], none)
  | .nan signaling =>
    if previous.isSome || signaling then .error .crashed else .ok ([], none)
  | .infinite negative =>
    if previous.isSome && negative then .ok ([.decreased none previous], none)
    else .error .crashed
  | .amount value =>
    if previous.any (value < ·) then .ok ([.decreased (some value) previous], none)
    else do
      let consumption ←
        computeConsumption previous value meter.coefficient .normal meter.maxDigits
      return ([], some consumption)

def AmountCell.parsed : AmountCell → Option ℚ
  | .amount value => some value
  | _ => none

/-- `row.parsed_value is not None`: a NaN and an infinity are decimals too. -/
def AmountCell.isDecimal : AmountCell → Bool
  | .blank => false
  | .unreadable => false
  | .nan _ => true
  | .infinite _ => true
  | .amount _ => true

namespace Accounts

variable (accounts : Accounts)

def activeMeter (number : String) : Option Meter :=
  accounts.meters.rows.find? fun meter => meter.meterNumberNormalized = number && meter.status = .active

def previewRow (month : Month) (line : Nat) (number : String) (repeated : Bool) (raw : RawRow) :
    Except Refusal ImportRow := do
  let meter := accounts.activeMeter number
  let previous := meter.bind fun meter => accounts.previousValue meter.id month
  let (compared, consumption) ← match meter with
    | none => .ok ([], none)
    | some meter => previewConsumption meter previous raw.readingValue
  return {
    line := line, meterId := meter.map (·.id), parsedValue := raw.readingValue.parsed
    parsedReadAt := raw.readAt.join
    previousValue := if raw.readingValue.isDecimal then previous else none
    consumption := consumption
    missingReason := raw.missingReason, note := raw.note
    errors := periodErrors month raw.period ++ (if repeated then [.duplicate] else []) ++
      (if meter = none then [.unregistered] else []) ++
      cellErrors raw.missingReason raw.readingValue ++ dateErrors raw.readAt ++ compared }

def previewFrom (month : Month) : Nat → List String → List RawRow → Except Refusal (List ImportRow)
  | _, _, [] => .ok []
  | line, seen, raw :: rest =>
    match raw.meterNumber with
    | none => do
        let rows ← previewFrom month (line + 1) seen rest
        return ⟨line, none, none, none, none, none, raw.missingReason, raw.note, [.emptyNumber]⟩ :: rows
    | some number => do
        let row ← accounts.previewRow month line number (decide (number ∈ seen)) raw
        let rows ← previewFrom month (line + 1) (number :: seen) rest
        return row :: rows

/-- The first line of a file is its header. -/
def buildPreview (month : Month) (rows : List RawRow) : Except Refusal (List ImportRow) :=
  accounts.previewFrom month 2 [] rows

end Accounts

def ImportRow.data (row : ImportRow) : ReadingIn :=
  let comment := if row.note = "" then none else some row.note
  match row.parsedValue with
  | none => ⟨none, none, .normal, some (row.missingReason.getD .other), comment⟩
  | some value => ⟨some value, row.parsedReadAt, .normal, none, comment⟩

namespace Accounts

variable (accounts : Accounts)

def importEntries (rows : List ImportRow) (skipLines : List Nat) : List Entry :=
  rows.filterMap fun row =>
    if row.line ∉ skipLines ∧ row.errors = [] then
      (row.meterId.bind accounts.meters.find?).map fun meter => (.ok meter, row.data)
    else none

end Accounts

inductive EntryCall where
  | put (month : Month) (meter : MeterId) (data : ReadingIn)
  | bulk (month : Month) (items : List (MeterId × ReadingIn))
  | importCommit (month : Month) (rows : List RawRow) (skipLines : List Nat)

inductive PeriodCall where
  | create (month : Month)
  | moveToReview (month : Month)
  | reopen (month : Month)
  | submit (month : Month)
  | close (month : Month)

inductive WorksheetCall where
  | entry (call : EntryCall)
  | period (call : PeriodCall)

def importLocked (period : ReportingPeriod) : ApiError :=
  .badRequest
    s!"Период {monthText period.month} в статусе {period.status.text}: импорт невозможен"

def transitionRefused (status target : PeriodStatus) : ApiError :=
  .conflict s!"Переход {status.text} → {target.text} недопустим"

def notInReview (status : PeriodStatus) : ApiError :=
  .conflict s!"Подтвердить можно только период в статусе review (сейчас {status.text})"

def problemsLeft : ApiError := .conflict "Есть ошибки или предупреждения без комментария"

def Reading.blocks (reading : Reading) : Bool :=
  reading.status = .error ||
    reading.status = .warning && (reading.comment = none || reading.comment = some "")

namespace Accounts

variable (accounts : Accounts)

/-- What an entering request is about to save: `put_reading`, `bulk_readings`, `commit_import`. -/
def entries : EntryCall → Except Refusal (ReportingPeriod × List Entry)
  | .put month meter data => do
      let period ← accounts.getPeriod month
      return (period, [(accounts.meterNamed "Счётчик" meter, data)])
  | .bulk month items => do
      let period ← accounts.getPeriod month
      return (period, items.map fun item => (accounts.meterNamed s!"Счётчик {item.1}" item.1, item.2))
  | .importCommit month rows skipLines => do
      let period ← accounts.getPeriod month
      if period.status.editable = false then throw (.api (importLocked period))
      let previewed ← accounts.buildPreview month rows
      return (period, accounts.importEntries previewed skipLines)

def performEntry (today : Day) (call : EntryCall) : Except Refusal Accounts := do
  let (period, entered) ← accounts.entries call
  accounts.enter today period entered

def transition (month : Month) (target : PeriodStatus) : Except Refusal Accounts := do
  let period ← accounts.getPeriod month
  if target ∉ period.status.flow then throw (.api (transitionRefused period.status target))
  return { accounts with periods := accounts.periods.put { period with status := target } }

def createPeriod (month : Month) : Except Refusal Accounts :=
  match accounts.periods.find? month with
  | some _ => .error (.api (.conflict s!"Период {monthText month} уже существует"))
  | none => .ok { accounts with periods := accounts.periods.save ⟨month, .opened⟩ }

def submit (month : Month) : Except Refusal Accounts := do
  let period ← accounts.getPeriod month
  if period.status ≠ .review then throw (.api (notInReview period.status))
  if accounts.readings.rows.any (fun reading => reading.month = month && reading.blocks) then
    throw (.api problemsLeft)
  accounts.transition month .submitted

def performPeriod : PeriodCall → Except Refusal Accounts
  | .create month => accounts.createPeriod month
  | .moveToReview month => accounts.transition month .review
  | .reopen month => accounts.transition month .opened
  | .submit month => accounts.submit month
  | .close month => accounts.transition month .closed

def performWorksheet (today : Day) : WorksheetCall → Except Refusal Accounts
  | .entry call => accounts.performEntry today call
  | .period call => accounts.performPeriod call

end Accounts

def stillEdited : ApiError := .badRequest "Период ещё редактируется: измените показание напрямую"

namespace Accounts

variable (accounts : Accounts)

/-- The value of a row in the session of a correction, which has changed the corrected row
without writing it. -/
def heldValue (corrected : ReadingKey) (newValue : ℚ) (row : Reading) : Option ℚ :=
  if row.key = corrected then some newValue else row.value

/-- The previous value that a correction gives a later row: the query for the baseline meets
the stored statuses, for nothing is flushed before the commit. -/
def heldPrevious (corrected : ReadingKey) (newValue : ℚ) (meter : MeterId) (month : Month) : Option ℚ :=
  (accounts.getPreviousAccepted meter month).bind (heldValue corrected newValue)

/-- The rows that `recompute_forward` recomputes. -/
def recomputable (meter : MeterId) (month : Month) (reading : Reading) : Bool :=
  reading.meterId = meter && month < reading.month && reading.value.isSome &&
    accounts.unclosed reading.month

def recomputedRow (today : Day) (meter : Meter) (corrected : ReadingKey) (newValue : ℚ)
    (reading : Reading) : Except Refusal Reading :=
  match reading.value with
  | none => .ok reading
  | some value => do
      let previous := accounts.heldPrevious corrected newValue meter.id reading.month
      let evaluated ← evaluateValue (accounts.surroundings today meter reading.month) meter
        reading.month previous value reading.readAt reading.kind
      return { reading with
        previousValue := previous, consumption := evaluated.consumption
        status := evaluated.status, validationMessage := evaluated.finding.map .found }

def recomputeForward (today : Day) (meter : Meter) (corrected : ReadingKey) (newValue : ℚ) :
    Except Refusal (List Reading) :=
  ((accounts.readings.rows.filter (accounts.recomputable meter.id corrected.2)).insertionSort
    fun left right => left.month ≤ right.month).mapM
      (accounts.recomputedRow today meter corrected newValue)

def correctedRow (today : Day) (meter : Meter) (newValue : ℚ) (reason : String)
    (kind : ReadingKind) (reading : Reading) : Except Refusal Reading := do
  let previous := accounts.previousValue meter.id reading.month
  let evaluated ← evaluateValue (accounts.surroundings today meter reading.month) meter
    reading.month previous newValue reading.readAt kind
  return { reading with
    value := some newValue, kind := kind, previousValue := previous
    consumption := evaluated.consumption, status := evaluated.status
    validationMessage := some (.corrected reason evaluated.finding) }

def saveRows (accounts : Accounts) (rows : List Reading) : Accounts :=
  { accounts with readings := rows.foldl Table.save accounts.readings }

def applyCorrection (today : Day) (reading : Reading) (newValue : ℚ) (reason : String)
    (kind : ReadingKind) : Except Refusal Accounts :=
  match accounts.meters.find? reading.meterId with
  | none => .error .crashed
  | some meter => do
      let corrected ← accounts.correctedRow today meter newValue reason kind reading
      let recomputed ← accounts.recomputeForward today meter reading.key newValue
      let rows ← (corrected :: recomputed).mapM Reading.stored
      return accounts.saveRows rows

def createCorrection (today : Day) (reading : ReadingKey) (newValue : ℚ) (reason : String)
    (kind : ReadingKind) : Except Refusal Accounts :=
  match accounts.readings.find? reading with
  | none => .error (.api (.notFound "Показание"))
  | some row => do
      let period ← accounts.getPeriod row.month
      if period.status.editable then throw (.api stillEdited)
      accounts.applyCorrection today row newValue reason kind

end Accounts

structure MeterPatch where
  providerId : Option (Option ProviderId)
  coefficient : Option (Option ℚ)
  maxDigits : Option (Option Nat)

def coefficientColumn (stored : ℚ) : Option (Option ℚ) → Except Refusal ℚ
  | none => .ok stored
  | some none => .error .crashed
  | some (some coefficient) =>
    match Decimals.numeric 12 4 coefficient with
    | none => .error .crashed
    | some kept => .ok kept

def Meter.patched (meter : Meter) (patch : MeterPatch) (coefficient : ℚ) : Meter :=
  { meter with
    providerId := patch.providerId.getD meter.providerId, coefficient := coefficient
    maxDigits := patch.maxDigits.getD meter.maxDigits }

namespace Accounts

variable (accounts : Accounts)

def updateMeter (meter : MeterId) (patch : MeterPatch) : Except Refusal Accounts := do
  let row ← accounts.meterNamed "Счётчик" meter
  let coefficient ← coefficientColumn row.coefficient patch.coefficient
  return { accounts with meters := accounts.meters.put (row.patched patch coefficient) }

end Accounts

structure ActFilters where
  providerId : Option ProviderId
  resourceType : Option ResourceType
  objectId : Option ObjectId

def ActFilters.admits (filters : ActFilters) (meter : Meter) : Bool :=
  filters.providerId.all (fun provider => meter.providerId = some provider) &&
    filters.resourceType.all (fun resource => meter.resourceType = resource) &&
      filters.objectId.all fun object => meter.primaryObjectId = object

structure ActRow where
  period : Month
  meterNumber : String
  previousValue : Option ℚ
  previousReadAt : Option Day
  currentValue : Option ℚ
  currentReadAt : Option Day
  coefficient : ℚ
  consumption : Option ℚ
  note : String

namespace Accounts

variable (accounts : Accounts)

def actPairs (month : Month) (filters : ActFilters) : List (Reading × Meter) :=
  (accounts.readings.rows.filterMap fun reading =>
    if reading.month = month then
      ((accounts.meters.find? reading.meterId).filter filters.admits).map fun meter => (reading, meter)
    else none).insertionSort
      fun left right => left.2.meterNumberNormalized ≤ right.2.meterNumberNormalized

def actRow (month : Month) (reading : Reading) (meter : Meter) : ActRow :=
  let previous := accounts.getPreviousAccepted meter.id month
  { period := month, meterNumber := meter.meterNumber
    previousValue := previous.bind (·.value), previousReadAt := previous.bind (·.readAt)
    currentValue := reading.value, currentReadAt := reading.readAt
    coefficient := meter.coefficient, consumption := reading.consumption
    note := reading.comment.getD "" }

def buildRows (month : Month) (filters : ActFilters) : List ActRow :=
  (accounts.actPairs month filters).map fun pair => accounts.actRow month pair.1 pair.2

end Accounts

inductive AccountsCall where
  | worksheet (call : WorksheetCall)
  | correct (reading : ReadingKey) (newValue : ℚ) (reason : String) (kind : ReadingKind)
  | updateMeter (meter : MeterId) (patch : MeterPatch)

namespace Accounts

variable (accounts : Accounts)

def perform (today : Day) : AccountsCall → Except Refusal Accounts
  | .worksheet call => accounts.performWorksheet today call
  | .correct reading newValue reason kind => accounts.createCorrection today reading newValue reason kind
  | .updateMeter meter patch => accounts.updateMeter meter patch

def next (accounts : Accounts) (event : Day × AccountsCall) : Accounts :=
  match accounts.perform event.1 event.2 with
  | .error _ => accounts
  | .ok written => written

def opening (meters : Table Meter.id) (rules : ResourceType → Option AnomalyRule) : Accounts :=
  ⟨meters, .empty, .empty, rules⟩

end Accounts

end InfrasafeBot.ResourceAccounting
