import FinopsAnalytics.AwsBilling
import FinopsAnalytics.CalendarMonths
import FinopsAnalytics.DecimalArithmetic
import FinopsAnalytics.KeyedAccumulations
import Mathlib.Data.Finset.Insert
import Mathlib.Data.Prod.Lex
import Mathlib.Data.String.Basic

/-!
# Responses of AWS billing

The three operations add the amounts of the rows that they have read: the summary by
currency, the time series by bucket and currency and, where the request groups, by key as
well, and the breakdown by key and currency. The time series then fills the buckets of
the period that have no row of a currency met elsewhere. Amounts are added as decimals
of limited precision. The calendar goes on after the year 9999.
-/

namespace FinopsAnalytics.AwsBillingResponses

open CivilCalendar CostExplorer BillingProfiles Dictionaries KeyedAccumulations DistinctKeys

inductive BillingDataStatus where
  | actual
  | estimated
  | partiallyEstimated
  | forecast
  | includesForecast
deriving DecidableEq, Repr

/-- `_status_from_estimation_flags` -/
def statusFromEstimationFlags (flags : Finset Bool) : BillingDataStatus :=
  if flags = {true} then .estimated
  else if true ∈ flags ∧ false ∈ flags then .partiallyEstimated
  else .actual

/-- `_next_bucket_start` -/
def nextBucketStart (value : Date) : BillingGranularity → Date
  | .daily => value + 1
  | .monthly =>
    let (year, month, _) := civil value
    if month = 12 then dayNumber (year + 1) 1 1 else dayNumber year (month + 1) 1

/-- An amount that is added up and the estimation flags met with it. -/
structure Aggregate where
  amount : ℚ
  flags : Finset Bool
deriving DecidableEq

/-- Nothing added up yet. -/
def Aggregate.empty : Aggregate := ⟨0, ∅⟩

def Aggregate.addRow (aggregate : Aggregate) (row : BillingRow) : Aggregate :=
  ⟨DecimalArithmetic.add aggregate.amount row.amount, insert row.estimated aggregate.flags⟩

/-- An aggregate with the first of its rows. -/
structure SampledAggregate where
  aggregate : Aggregate
  sample : BillingRow
deriving DecidableEq

def SampledAggregate.addRow (sampled : SampledAggregate) (row : BillingRow) : SampledAggregate :=
  ⟨sampled.aggregate.addRow row, sampled.sample⟩

def SampledAggregate.first (row : BillingRow) : SampledAggregate := ⟨.empty, row⟩

structure BillingSummaryTotal where
  amount : ℚ
  currency : String
  status : BillingDataStatus
deriving DecidableEq, Repr

structure BillingSummaryResponse where
  metric : BillingMetric
  startDate : Date
  endDate : Date
  totals : List BillingSummaryTotal
deriving DecidableEq, Repr

/-- `AwsBillingService.summary` from its rows -/
def summary (request : AwsBillingRequest) (rows : List BillingRow) : BillingSummaryResponse where
  metric := request.metric
  startDate := request.startDate
  endDate := request.endDate
  totals :=
    let totals := accumulate BillingRow.currency (fun _ => .empty) Aggregate.addRow rows
    (sortByKey Prod.fst totals).map fun (currency, total) =>
      ⟨total.amount, currency, statusFromEstimationFlags total.flags⟩

/-- The first day, the day after the last one, and the currency. -/
abbrev BucketKey := Date × Date × String

/-- The order of tuples. -/
def bucketRank (key : BucketKey) : Date ×ₗ Date ×ₗ String := toLex (key.1, toLex key.2)

def groupRank (key : BucketKey × String) : (Date ×ₗ Date ×ₗ String) ×ₗ String :=
  toLex (bucketRank key.1, key.2)

def bucketKey (row : BillingRow) : BucketKey := (row.startDate, row.endDate, row.currency)

/-- `row.key or ""` -/
def seriesKey (row : BillingRow) : String := row.key.getD ""

structure BillingSeriesGroup where
  key : String
  label : String
  amount : ℚ
  currency : String
  status : BillingDataStatus
  deepopsAccountId : Option ℤ := none
  awsAccountId : Option String := none
  displayName : Option String := none
deriving DecidableEq, Repr

/-- The fields are those of a group. -/
abbrev BillingBreakdownItem := BillingSeriesGroup

/-- The group or the item of a key. Rows of an account other than the one that was
queried are shown without the names of the latter. -/
def seriesGroup (groupBy : BillingGroupBy) (key currency : String) (sampled : SampledAggregate) :
    BillingSeriesGroup :=
  let amount := sampled.aggregate.amount
  let status := statusFromEstimationFlags sampled.aggregate.flags
  let account := sampled.sample.account
  if groupBy = .account then
    if key = account.awsAccountId then
      ⟨key, account.displayName, amount, currency, status, some account.deepopsAccountId, some key,
        some account.displayName⟩
    else { key, label := key, amount, currency, status, awsAccountId := some key }
  else { key, label := key, amount, currency, status }

structure BillingSeriesPoint where
  startDate : Date
  endDate : Date
  amount : ℚ
  currency : String
  status : BillingDataStatus
  groups : List BillingSeriesGroup
deriving DecidableEq, Repr

structure BillingTimeSeriesResponse where
  metric : BillingMetric
  granularity : BillingGranularity
  groupBy : BillingGroupBy
  startDate : Date
  endDate : Date
  points : List BillingSeriesPoint
deriving DecidableEq, Repr

/-- The next bucket starts later. -/
theorem lt_nextBucketStart (value : Date) (granularity : BillingGranularity) :
    value < nextBucketStart value granularity := by
  cases granularity with
  | daily => exact Int.lt_succ value
  | monthly => exact (monthBounds_contain value).2

/-- The default of a bucket without rows. -/
def zeroAggregate : Aggregate := ⟨0, {false}⟩

/-- The loop of `timeseries` that fills the buckets from one on. -/
def fillGaps (granularity : BillingGranularity) (endDate : Date) (currencies : List String)
    (bucketStart : Date) (values : List (BucketKey × Aggregate)) : List (BucketKey × Aggregate) :=
  if _ : bucketStart < endDate then
    let bucketEnd := min (nextBucketStart bucketStart granularity) endDate
    fillGaps granularity endDate currencies bucketEnd
      (currencies.foldl (fun values currency =>
        setDefault (bucketStart, bucketEnd, currency) zeroAggregate values) values)
  else values
termination_by (endDate - bucketStart).toNat
decreasing_by
  rename_i inside
  have later : bucketStart < min (nextBucketStart bucketStart granularity) endDate :=
    lt_min (lt_nextBucketStart bucketStart granularity) inside
  exact (Int.toNat_lt_toNat (sub_pos.mpr inside)).mpr (sub_lt_sub_left later _)

/-- `values` after the loop over the rows. -/
def bucketValues (rows : List BillingRow) : List (BucketKey × Aggregate) :=
  accumulate bucketKey (fun _ => .empty) Aggregate.addRow rows

/-- `grouped_values` where the request groups. -/
def groupedValues (rows : List BillingRow) : List ((BucketKey × String) × SampledAggregate) :=
  accumulate (fun row => (bucketKey row, seriesKey row)) .first SampledAggregate.addRow rows

/-- `values` after the gaps are filled. -/
def filledValues (request : AwsBillingRequest) (rows : List BillingRow) :
    List (BucketKey × Aggregate) :=
  fillGaps request.granularity request.endDate (rows.map BillingRow.currency).eraseDups
    request.startDate (bucketValues rows)

/-- The groups of a point. -/
def pointGroups (groupBy : BillingGroupBy) (rows : List BillingRow) (bucket : BucketKey) :
    List BillingSeriesGroup :=
  if groupBy = .none then []
  else
    let ordered := sortByKey (fun entry => groupRank entry.1) (groupedValues rows)
    (ordered.filter fun entry => entry.1.1 = bucket).map fun entry =>
      seriesGroup groupBy entry.1.2 bucket.2.2 entry.2

/-- `AwsBillingService.timeseries` from its rows -/
def timeseries (request : AwsBillingRequest) (rows : List BillingRow) :
    BillingTimeSeriesResponse where
  metric := request.metric
  granularity := request.granularity
  groupBy := request.groupBy
  startDate := request.startDate
  endDate := request.endDate
  points :=
    (sortByKey (fun entry => bucketRank entry.1) (filledValues request rows)).map
      fun (bucket, total) =>
        { startDate := bucket.1
          endDate := bucket.2.1
          amount := total.amount
          currency := bucket.2.2
          status := statusFromEstimationFlags total.flags
          groups := pointGroups request.groupBy rows bucket }

structure BillingBreakdownResponse where
  metric : BillingMetric
  groupBy : BillingGroupBy
  startDate : Date
  endDate : Date
  items : List BillingBreakdownItem
deriving DecidableEq, Repr

/-- `values` of the breakdown. -/
def keyedValues (rows : List BillingRow) : List ((String × String) × SampledAggregate) :=
  accumulate (fun row => (seriesKey row, row.currency)) .first SampledAggregate.addRow rows

/-- `AwsBillingService.breakdown` from its rows -/
def breakdown (request : AwsBillingRequest) (rows : List BillingRow) :
    Except BillingFailure BillingBreakdownResponse :=
  if request.groupBy = .none then
    .error (.service "INVALID_GROUPING" "breakdown requer group_by SERVICE ou ACCOUNT.")
  else
    .ok
      { metric := request.metric
        groupBy := request.groupBy
        startDate := request.startDate
        endDate := request.endDate
        items := (sortByKey (fun entry => toLex entry.1) (keyedValues rows)).map
          fun ((key, currency), sampled) => seriesGroup request.groupBy key currency sampled }

end FinopsAnalytics.AwsBillingResponses
