import InfrasafeBot.Library.WindowQueries
import InfrasafeBot.ResourceAccounting.Baselines

/-! The two queries for baselines on the tables of all tenants (`services/readings.py`): one
meter with an order and a limit, many meters with a window function whose ranks are joined
back by their ids. What they find for the meters of one tenant is the baseline of its accounts. -/

set_option autoImplicit false

namespace InfrasafeBot.ResourceAccounting

open Library

structure MeterRow where
  id : MeterId
  tenantId : TenantId

structure PeriodRow where
  id : Nat
  tenantId : TenantId
  month : Month

structure ReadingColumns where
  value : Option ℚ
  readAt : Option Day
  kind : ReadingKind
  previousValue : Option ℚ
  consumption : Option ℚ
  status : ReadingStatus
  validationMessage : Option ValidationMessage
  missingReason : Option MissingReason
  comment : Option String

structure ReadingRow where
  id : Nat
  meterId : MeterId
  reportingPeriodId : Nat
  columns : ReadingColumns

/-- The tables with their constraints. A reading refers to a meter and to a period, and to one
of the meter's own tenant: whatever saves a reading looks both up for the tenant of its user. -/
structure ReadingStore where
  meters : Table MeterRow.id
  periods : Table PeriodRow.id
  readings : Table ReadingRow.id
  /-- `uq_periods_tenant_month` -/
  uniqueMonths : (periods.rows.map fun period => (period.tenantId, period.month)).Nodup
  /-- `uq_readings_meter_period` -/
  uniqueReadings : (readings.rows.map fun row => (row.meterId, row.reportingPeriodId)).Nodup
  owned : ∀ row ∈ readings.rows, ∃ meter ∈ meters.rows, ∃ period ∈ periods.rows,
    meter.id = row.meterId ∧ period.id = row.reportingPeriodId ∧ period.tenantId = meter.tenantId

abbrev JoinedRow := ReadingRow × PeriodRow

def JoinedRow.month (joined : JoinedRow) : Month := joined.2.month

def JoinedRow.meterId (joined : JoinedRow) : MeterId := joined.1.meterId

/-- The conditions that both queries put on a reading, besides the one on its meter. -/
def JoinedRow.acceptedBefore (joined : JoinedRow) (month : Month) : Bool :=
  joined.1.columns.value.isSome && joined.1.columns.status.accepted && joined.2.month < month

namespace ReadingStore

variable {store : ReadingStore} {tenant : TenantId} {month : Month} {row : ReadingRow}
  {period : PeriodRow}

section

variable {meter : MeterRow}

def liveReading (store : ReadingStore) (meter : MeterRow) (period : PeriodRow) : Option ReadingRow :=
  store.readings.rows.find? fun row => row.meterId = meter.id && row.reportingPeriodId = period.id

variable {columns : ReadingColumns}

theorem uniqueReadings_put (listed : row ∈ store.readings.rows) :
    ((store.readings.put { row with columns := columns }).rows.map
      fun row => (row.meterId, row.reportingPeriodId)).Nodup := by
  have same : (store.readings.put { row with columns := columns }).rows.map
      (fun row => (row.meterId, row.reportingPeriodId)) =
        store.readings.rows.map fun row => (row.meterId, row.reportingPeriodId) := by
    rw [Table.put, List.map_map]
    refine List.map_congr_left fun other otherListed => ?_
    by_cases hit : other.id = row.id
    · have itself : other = row := Table.eq_of_key otherListed listed hit
      simp [itself]
    · simp [hit]
  rw [same]
  exact store.uniqueReadings

theorem owned_put (listed : row ∈ store.readings.rows) :
    ∀ other ∈ (store.readings.put { row with columns := columns }).rows,
      ∃ meter ∈ store.meters.rows, ∃ period ∈ store.periods.rows,
        meter.id = other.meterId ∧ period.id = other.reportingPeriodId ∧
          period.tenantId = meter.tenantId := by
  intro other otherListed
  rcases Table.mem_put otherListed with changed | ⟨before, _⟩
  · rw [changed]
    exact store.owned row listed
  · exact store.owned other before

theorem uniqueReadings_insert (absent : store.liveReading meter period = none) :
    ((store.readings.insert (fun id => ⟨id, meter.id, period.id, columns⟩) fun _ => rfl).rows.map
      fun row => (row.meterId, row.reportingPeriodId)).Nodup := by
  rw [Table.insert, List.map_append, List.map_singleton]
  refine List.Nodup.append store.uniqueReadings (List.nodup_singleton _) ?_
  intro pair used added
  rw [List.mem_singleton.mp added] at used
  obtain ⟨row, listed, same⟩ := List.mem_map.mp used
  obtain ⟨sameMeter, samePeriod⟩ := Prod.mk.inj same
  have missed := List.find?_eq_none.mp absent row listed
  simp [sameMeter, samePeriod] at missed

theorem owned_insertReading (meterListed : meter ∈ store.meters.rows)
    (periodListed : period ∈ store.periods.rows) (own : period.tenantId = meter.tenantId) :
    ∀ row ∈ (store.readings.insert
        (fun id => ReadingRow.mk id meter.id period.id columns) fun _ => rfl).rows,
      ∃ meter ∈ store.meters.rows, ∃ period ∈ store.periods.rows,
        meter.id = row.meterId ∧ period.id = row.reportingPeriodId ∧
          period.tenantId = meter.tenantId := by
  intro row listed
  rcases (Table.mem_insert _).mp listed with before | added
  · exact store.owned row before
  · rw [added]
    exact ⟨meter, meterListed, period, periodListed, rfl, rfl, own⟩

def saveReading (store : ReadingStore) (meter : MeterRow) (period : PeriodRow)
    (meterListed : meter ∈ store.meters.rows) (periodListed : period ∈ store.periods.rows)
    (own : period.tenantId = meter.tenantId) (columns : ReadingColumns) : ReadingStore :=
  match live : store.liveReading meter period with
  | some row =>
    { store with
      readings := store.readings.put { row with columns := columns }
      uniqueReadings := uniqueReadings_put (List.mem_of_find?_eq_some live)
      owned := owned_put (List.mem_of_find?_eq_some live) }
  | none =>
    { store with
      readings := store.readings.insert (fun id => ⟨id, meter.id, period.id, columns⟩)
        fun _ => rfl
      uniqueReadings := uniqueReadings_insert live
      owned := owned_insertReading meterListed periodListed own }

theorem found_own
    (found : store.periods.rows.find? (fun period =>
      period.tenantId = tenant && period.month = month) = some period)
    (own : meter.tenantId = tenant) : period.tenantId = meter.tenantId := by
  have selected := List.find?_some found
  exact (of_decide_eq_true (Bool.and_eq_true_iff.mp selected).1).trans own.symm

def putReading (store : ReadingStore) (tenant : TenantId) (meterId : MeterId) (month : Month)
    (columns : ReadingColumns) : Option ReadingStore :=
  match period : store.periods.rows.find? fun period =>
      period.tenantId = tenant && period.month = month with
  | none => none
  | some row =>
    match meter : store.meters.find? meterId with
    | none => none
    | some found =>
      if own : found.tenantId = tenant then
        some (store.saveReading found row (Table.mem_of_find? meter)
          (List.mem_of_find?_eq_some period) (found_own period own) columns)
      else none

end

def joined (store : ReadingStore) : List JoinedRow :=
  store.readings.rows.filterMap fun row =>
    (store.periods.find? row.reportingPeriodId).map fun period => (row, period)

def getPreviousAccepted (store : ReadingStore) (engine : Descending JoinedRow.month)
    (meter : MeterId) (month : Month) : Option ReadingRow :=
  (engine.first (store.joined.filter fun joined =>
    joined.meterId = meter && joined.acceptedBefore month)).map (·.1)

def latestIds (store : ReadingStore) (engine : Descending JoinedRow.month)
    (meterIds : List MeterId) (month : Month) : List Nat :=
  let ranked := engine.rowNumbers JoinedRow.meterId (store.joined.filter fun joined =>
    decide (joined.meterId ∈ meterIds) && joined.acceptedBefore month)
  (ranked.filter fun numbered => numbered.2 = 1).map fun numbered => numbered.1.1.id

def getPreviousAcceptedBulk (store : ReadingStore) (engine : Descending JoinedRow.month)
    (meterIds : List MeterId) (month : Month) : MeterId → Option ReadingRow :=
  if meterIds = [] then fun _ => none
  else
    dictOf ReadingRow.meterId
      (store.readings.rows.filter fun row => row.id ∈ store.latestIds engine meterIds month)

variable {pair : JoinedRow}

section

variable {other : JoinedRow} {meter : MeterId}

theorem mem_joined : (row, period) ∈ store.joined ↔
    row ∈ store.readings.rows ∧ period ∈ store.periods.rows ∧
      period.id = row.reportingPeriodId := by
  unfold joined
  rw [List.mem_filterMap]
  constructor
  · rintro ⟨listed, inReadings, made⟩
    obtain ⟨found, looked, same⟩ := Option.map_eq_some_iff.mp made
    obtain ⟨rfl, rfl⟩ := Prod.mk.inj same
    exact ⟨inReadings, Table.mem_of_find? looked, Table.key_of_find? looked⟩
  · rintro ⟨inReadings, inPeriods, same⟩
    refine ⟨row, inReadings, Option.map_eq_some_iff.mpr ⟨period, ?_, rfl⟩⟩
    rw [← same]
    exact Table.find?_of_mem inPeriods

theorem eq_of_month (listed : pair ∈ store.joined) (otherListed : other ∈ store.joined)
    (sameMeter : pair.meterId = other.meterId) (sameMonth : pair.month = other.month) :
    pair = other := by
  obtain ⟨inReadings, inPeriods, joins⟩ := mem_joined.mp listed
  obtain ⟨otherReading, otherPeriod, otherJoins⟩ := mem_joined.mp otherListed
  have tenant : ∀ joined : JoinedRow, joined.1 ∈ store.readings.rows →
      joined.2 ∈ store.periods.rows → joined.2.id = joined.1.reportingPeriodId →
        ∃ meter ∈ store.meters.rows, meter.id = joined.meterId ∧
          joined.2.tenantId = meter.tenantId := by
    intro joined readingListed periodListed refers
    obtain ⟨meter, meterListed, period, kept, own, same, tenant⟩ := store.owned joined.1 readingListed
    have samePeriod : joined.2 = period := Table.eq_of_key periodListed kept (refers.trans same.symm)
    exact ⟨meter, meterListed, own, samePeriod ▸ tenant⟩
  obtain ⟨meter, meterListed, own, tenantOf⟩ := tenant pair inReadings inPeriods joins
  obtain ⟨otherMeter, otherMeterListed, otherOwn, otherTenant⟩ :=
    tenant other otherReading otherPeriod otherJoins
  have oneMeter : meter = otherMeter :=
    Table.eq_of_key meterListed otherMeterListed (own.trans (sameMeter.trans otherOwn.symm))
  have onePeriod : pair.2 = other.2 := by
    refine List.inj_on_of_nodup_map store.uniqueMonths inPeriods otherPeriod (Prod.ext ?_ sameMonth)
    exact tenantOf.trans (oneMeter ▸ otherTenant.symm)
  have oneReading : pair.1 = other.1 := by
    refine List.inj_on_of_nodup_map store.uniqueReadings inReadings otherReading
      (Prod.ext sameMeter ?_)
    exact joins.symm.trans (onePeriod ▸ otherJoins)
  exact Prod.ext oneReading onePeriod

theorem joined_ordered : Ordered JoinedRow.month
    (fun joined => joined.meterId = meter && joined.acceptedBefore month) store.joined := by
  intro left leftListed right rightListed leftSelected rightSelected same
  have leftOwn := of_decide_eq_true (Bool.and_eq_true_iff.mp leftSelected).1
  have rightOwn := of_decide_eq_true (Bool.and_eq_true_iff.mp rightSelected).1
  exact eq_of_month leftListed rightListed (leftOwn.trans rightOwn.symm) same

/-- Whatever order an engine gives the rows of one month, the single query finds the latest. -/
theorem getPreviousAccepted_eq_latest (engine : Descending JoinedRow.month) :
    store.getPreviousAccepted engine meter month =
      (latest JoinedRow.month
        (fun joined => joined.meterId = meter && joined.acceptedBefore month)
        store.joined).map (·.1) := by
  unfold getPreviousAccepted
  rw [Descending.first_eq_latest joined_ordered]

end

section

variable {engine : Descending JoinedRow.month} {meterIds : List MeterId} {meter : MeterId}

theorem partition_eq (listed : meter ∈ meterIds) :
    (store.joined.filter fun joined =>
        decide (joined.meterId ∈ meterIds) && joined.acceptedBefore month).filter
      (fun joined => joined.meterId = meter) =
    store.joined.filter fun joined => joined.meterId = meter && joined.acceptedBefore month := by
  rw [List.filter_filter]
  refine List.filter_congr fun joined _ => ?_
  by_cases own : joined.meterId = meter
  · simp [own, listed]
  · simp [own]

theorem mem_latestIds (listed : row ∈ store.readings.rows) :
    row.id ∈ store.latestIds engine meterIds month ↔
      row.meterId ∈ meterIds ∧
        store.getPreviousAccepted engine row.meterId month = some row := by
  unfold latestIds
  simp only [List.mem_map, List.mem_filter, decide_eq_true_eq]
  constructor
  · rintro ⟨⟨pair, number⟩, ⟨numbered, rfl⟩, same⟩
    have found := Descending.rowNumbers_one_iff.mp numbered
    obtain ⟨kept, _⟩ := Descending.first_spec found
    obtain ⟨selected, _⟩ := List.mem_filter.mp kept
    obtain ⟨inJoin, conditions⟩ := List.mem_filter.mp selected
    have sameRow : pair.1 = row := Table.eq_of_key (mem_joined.mp inJoin).1 listed same
    have inIds : pair.meterId ∈ meterIds := of_decide_eq_true (Bool.and_eq_true_iff.mp conditions).1
    rw [partition_eq inIds] at found
    rw [← sameRow]
    exact ⟨inIds, congrArg (Option.map Prod.fst) found⟩
  · rintro ⟨inIds, found⟩
    obtain ⟨pair, first, rfl⟩ := Option.map_eq_some_iff.mp found
    refine ⟨(pair, 1), ⟨Descending.rowNumbers_one_iff.mpr ?_, rfl⟩, rfl⟩
    exact (congrArg engine.first (partition_eq inIds)).trans first

theorem getPreviousAccepted_meter
    (found : store.getPreviousAccepted engine meter month = some row) :
    row ∈ store.readings.rows ∧ row.meterId = meter := by
  obtain ⟨pair, first, rfl⟩ := Option.map_eq_some_iff.mp found
  obtain ⟨inJoin, conditions⟩ := List.mem_filter.mp (Descending.first_spec first).1
  exact ⟨(mem_joined.mp inJoin).1, of_decide_eq_true (Bool.and_eq_true_iff.mp conditions).1⟩

theorem getPreviousAcceptedBulk_eq_some_iff :
    store.getPreviousAcceptedBulk engine meterIds month meter = some row ↔
      meter ∈ meterIds ∧ store.getPreviousAccepted engine meter month = some row := by
  unfold getPreviousAcceptedBulk
  split
  · next none => simp [none]
  · rw [dictOf_eq_some_iff]
    · constructor
      · rintro ⟨kept, rfl⟩
        obtain ⟨listed, ranked⟩ := List.mem_filter.mp kept
        exact (mem_latestIds listed).mp (of_decide_eq_true ranked)
      · rintro ⟨inIds, found⟩
        obtain ⟨listed, rfl⟩ := getPreviousAccepted_meter found
        refine ⟨List.mem_filter.mpr ⟨listed, decide_eq_true ?_⟩, rfl⟩
        exact (mem_latestIds listed).mpr ⟨inIds, found⟩
    · intro left leftKept right rightKept same
      obtain ⟨leftListed, leftRanked⟩ := List.mem_filter.mp leftKept
      obtain ⟨rightListed, rightRanked⟩ := List.mem_filter.mp rightKept
      have leftFound := ((mem_latestIds leftListed).mp (of_decide_eq_true leftRanked)).2
      have rightFound := ((mem_latestIds rightListed).mp (of_decide_eq_true rightRanked)).2
      rw [same] at leftFound
      exact Option.some.inj (leftFound.symm.trans rightFound)

end

def shown (pair : JoinedRow) : Reading :=
  { meterId := pair.1.meterId, month := pair.2.month, value := pair.1.columns.value
    readAt := pair.1.columns.readAt, kind := pair.1.columns.kind
    previousValue := pair.1.columns.previousValue, consumption := pair.1.columns.consumption
    status := pair.1.columns.status, validationMessage := pair.1.columns.validationMessage
    missingReason := pair.1.columns.missingReason, comment := pair.1.columns.comment }

def ofTenant (store : ReadingStore) (tenant : TenantId) : List JoinedRow :=
  store.joined.filter fun pair => pair.2.tenantId = tenant

theorem nodup_joined : (store.joined.map fun pair => (pair.meterId, pair.month)).Nodup := by
  refine List.Nodup.map_on (fun left leftListed right rightListed same => ?_) ?_
  · obtain ⟨sameMeter, sameMonth⟩ := Prod.mk.inj same
    exact eq_of_month leftListed rightListed sameMeter sameMonth
  · refine List.Nodup.filterMap ?_ (store.readings.unique.of_map _)
    intro left right pair fromLeft fromRight
    obtain ⟨_, _, rfl⟩ := Option.map_eq_some_iff.mp fromLeft
    obtain ⟨_, _, same⟩ := Option.map_eq_some_iff.mp fromRight
    exact (Prod.mk.inj same).1.symm

theorem nodup_ofTenant : (((store.ofTenant tenant).map shown).map Reading.key).Nodup := by
  rw [List.map_map]
  exact nodup_joined.sublist (List.filter_sublist.map _)

def tenantReadings (store : ReadingStore) (tenant : TenantId) : Table Reading.key :=
  ⟨(store.ofTenant tenant).map shown, nodup_ofTenant⟩

theorem tenant_of_joined {meter : MeterRow} (listed : pair ∈ store.joined)
    (meterListed : meter ∈ store.meters.rows) (own : pair.meterId = meter.id) :
    pair.2.tenantId = meter.tenantId := by
  obtain ⟨inReadings, inPeriods, joins⟩ := mem_joined.mp listed
  obtain ⟨other, otherListed, period, periodListed, sameMeter, samePeriod, tenant⟩ :=
    store.owned pair.1 inReadings
  have oneMeter : other = meter := Table.eq_of_key otherListed meterListed (sameMeter.trans own)
  have onePeriod : pair.2 = period := Table.eq_of_key inPeriods periodListed (joins.trans samePeriod.symm)
  rw [onePeriod, tenant, oneMeter]

/-- The query on the tables of all tenants finds the baseline of the accounts of the meter's own. -/
theorem getPreviousAccepted_shown (store : ReadingStore) (accounts : Accounts)
    (engine : Descending JoinedRow.month) (meter : { meter // meter ∈ store.meters.rows }) (month : Month) :
    let own := { accounts with readings := store.tenantReadings meter.1.tenantId }
    (own.getPreviousAccepted meter.1.id month).map (fun reading => (reading.value, reading.readAt)) =
      (store.getPreviousAccepted engine meter.1.id month).map
        fun row => (row.columns.value, row.columns.readAt) := by
  intro own
  obtain ⟨meter, meterListed⟩ := meter
  have selects : ∀ pair, mayPrecede meter.id month (shown pair) =
      (decide (pair.meterId = meter.id) && pair.acceptedBefore month) := by
    intro pair
    simp only [mayPrecede, shown, JoinedRow.acceptedBefore, JoinedRow.meterId, Bool.and_assoc]
    rfl
  rw [getPreviousAccepted_eq_latest, Accounts.getPreviousAccepted]
  cases found : latest JoinedRow.month
      (fun joined => joined.meterId = meter.id && joined.acceptedBefore month) store.joined with
  | none =>
    rw [latest_eq_none_iff.mpr]
    · rfl
    · intro reading listed
      obtain ⟨pair, inTenant, rfl⟩ := List.mem_map.mp listed
      rw [selects]
      exact latest_eq_none_iff.mp found pair (List.mem_filter.mp inTenant).1
  | some best =>
    obtain ⟨bestListed, bestSelected⟩ := latest_selected found
    have own := of_decide_eq_true (Bool.and_eq_true_iff.mp bestSelected).1
    have inTenant : best ∈ store.ofTenant meter.tenantId :=
      List.mem_filter.mpr ⟨bestListed, decide_eq_true (tenant_of_joined bestListed meterListed own)⟩
    have same : latest Reading.month (mayPrecede meter.id month)
        (store.tenantReadings meter.tenantId).rows = some (shown best) := by
      refine latest_eq_some (mayPrecede_ordered _) (List.mem_map_of_mem inTenant)
        ((selects best).trans bestSelected) fun other otherListed otherSelected => ?_
      obtain ⟨pair, pairInTenant, rfl⟩ := List.mem_map.mp otherListed
      rw [selects] at otherSelected
      exact le_latest found (List.mem_filter.mp pairInTenant).1 otherSelected
    rw [same]
    rfl

end ReadingStore

end InfrasafeBot.ResourceAccounting
