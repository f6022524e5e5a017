import FinopsAnalytics.CivilCalendar
import FinopsAnalytics.CloudWatchPricing
import FinopsAnalytics.Dictionaries
import FinopsAnalytics.UniqueTables

/-!
# The cost of the recorded CloudWatch usage

Rules of one operation, region scope, validity, tier scope and currency make one
version. For every version the recorded events in its scope are selected, grouped
and priced; what no version selects is reported as unpriced.
-/

namespace FinopsAnalytics.CloudWatchCostEngine

open CivilCalendar Dictionaries DistinctKeys UniqueTables CloudWatchPricing

/-- A row of `cloudwatch_usage_events`, as far as costs read it. The recorder stores
a number of attempts as the request count. -/
structure CloudWatchUsageEvent where
  id : String
  occurredAt : Instant
  cloudAccountId : Option ℤ
  awsAccountId : String
  region : String
  operation : String
  collector : Option String
  analyzer : Option String
  collectionRunId : Option String
  requestCount : ℕ
  requestCountIsExact : Bool
  success : Bool
deriving DecidableEq, Repr

abbrev UsageTable := Table CloudWatchUsageEvent.id CloudWatchUsageEvent.id

/-- `getattr(CloudWatchUsageEvent, dimension.usage_field)` -/
def UsageField.column : UsageField → CloudWatchUsageEvent → ℕ
  | .requestCount, event => event.requestCount

section Filters

def sharedAnalyzerFilter : String := "__shared__"

structure CloudWatchUsageFilters where
  dateFrom : Option Instant
  dateTo : Option Instant
  cloudAccountId : Option ℤ
  awsAccountId : Option String
  region : Option String
  operation : Option String
  collector : Option String
  analyzer : Option String
  collectionRunId : Option String
  success : Option Bool
deriving DecidableEq, Repr

def noFilters : CloudWatchUsageFilters :=
  ⟨none, none, none, none, none, none, none, none, none, none⟩

/-- `_filtered` -/
def filtered (filters : CloudWatchUsageFilters) (event : CloudWatchUsageEvent) : Bool :=
  (∀ start ∈ filters.dateFrom, start ≤ event.occurredAt) ∧
    (∀ stop ∈ filters.dateTo, event.occurredAt < stop) ∧
    (∀ id ∈ filters.cloudAccountId, event.cloudAccountId = some id) ∧
    (∀ account ∈ filters.awsAccountId, event.awsAccountId = account) ∧
    (∀ region ∈ filters.region, event.region = region) ∧
    (∀ operation ∈ filters.operation, event.operation = operation) ∧
    (∀ collector ∈ filters.collector, event.collector = some collector) ∧
    (∀ analyzer ∈ filters.analyzer,
      event.analyzer = if analyzer = sharedAnalyzerFilter then none else some analyzer) ∧
    (∀ run ∈ filters.collectionRunId, event.collectionRunId = some run) ∧
    ∀ success ∈ filters.success, event.success = success

end Filters

section Rules

/-- `_region_clause` -/
def regionClause (regionScope region : String) : Bool :=
  if regionScope = "GLOBAL" then true
  else if regionScope = "AWS_COMMERCIAL" then
    region ≠ "unknown" ∧ ¬ startsWith region "cn-" ∧ ¬ startsWith region "us-gov-" ∧
      ¬ startsWith region "us-iso-" ∧ ¬ startsWith region "us-isob-"
  else if startsWith regionScope "REGION:" then region = removePrefix regionScope "REGION:"
  else false

/-- `_regions_overlap` -/
def regionsOverlap (left right : String) : Bool :=
  if left = "GLOBAL" ∨ right = "GLOBAL" then true
  else if left = right then true
  else if left = "AWS_COMMERCIAL" ∧ startsWith right "REGION:" then
    isAwsCommercialRegion (removePrefix right "REGION:")
  else if right = "AWS_COMMERCIAL" ∧ startsWith left "REGION:" then
    isAwsCommercialRegion (removePrefix left "REGION:")
  else false

/-- `datetime.max` in UTC: 9999-12-31T23:59:59.999999. -/
def datetimeMax : Instant := 253402300799999999

/-- `_time_overlap` -/
def timeOverlap (left right : CloudWatchPricingRule) : Bool :=
  left.effectiveFrom < right.effectiveUntil.getD datetimeMax ∧
    right.effectiveFrom < left.effectiveUntil.getD datetimeMax

/-- `_tier_overlap` -/
def tierOverlap (left right : CloudWatchPricingRule) : Bool :=
  (∀ stop ∈ right.tierTo, left.tierFrom < stop) ∧ ∀ stop ∈ left.tierTo, right.tierFrom < stop

/-- Two rules that would price one event twice. -/
def ambiguous (left right : CloudWatchPricingRule) : Bool :=
  left.operation = right.operation ∧ left.pricingDimension = right.pricingDimension ∧
    regionsOverlap left.regionScope right.regionScope ∧ timeOverlap left right ∧
    tierOverlap left right

/-- `_validate_no_ambiguous_rules` -/
def validateNoAmbiguousRules : List CloudWatchPricingRule → Except PricingError Unit
  | [] => .ok ()
  | left :: rest =>
    match rest.find? (ambiguous left) with
    | some right => .error (.ambiguous
        ("overlapping CloudWatch pricing rules: " ++ left.id ++ "," ++ right.id))
    | none => validateNoAmbiguousRules rest

/-- What the rules of one version share. -/
structure VersionKey where
  operation : String
  pricingDimension : String
  regionScope : String
  effectiveFrom : Instant
  effectiveUntil : Option Instant
  tierScope : String
  currency : String
deriving DecidableEq, Repr

/-- `_version_key` -/
def versionKey (rule : CloudWatchPricingRule) : VersionKey where
  operation := rule.operation
  pricingDimension := rule.pricingDimension
  regionScope := rule.regionScope
  effectiveFrom := rule.effectiveFrom
  effectiveUntil := rule.effectiveUntil
  tierScope := rule.tierScope
  currency := rule.currency

/-- One more rule under its version. -/
def addToVersion (versions : List (VersionKey × List CloudWatchPricingRule))
    (rule : CloudWatchPricingRule) : List (VersionKey × List CloudWatchPricingRule) :=
  if (cloudwatchPricingDimensions.lookup rule.operation).isSome then
    setKey (versionKey rule) ((versions.lookup (versionKey rule)).getD [] ++ [rule]) versions
  else versions

/-- `rules_by_version` -/
def rulesByVersion (rules : List CloudWatchPricingRule) :
    List (VersionKey × List CloudWatchPricingRule) :=
  rules.foldl addToVersion []

/-- The `WHERE` clause of a version. -/
def selects (version : VersionKey) (event : CloudWatchUsageEvent) : Bool :=
  event.operation = version.operation ∧ version.effectiveFrom ≤ event.occurredAt ∧
    regionClause version.regionScope event.region ∧
    ∀ stop ∈ version.effectiveUntil, event.occurredAt < stop

/-- `_coverage_clause` -/
def coverageClause (rules : List CloudWatchPricingRule) (event : CloudWatchUsageEvent) : Bool :=
  rules.any fun rule =>
    (cloudwatchPricingDimensions.lookup rule.operation).any
      (fun dimension => dimension.name = rule.pricingDimension) && selects (versionKey rule) event

end Rules

section Groups

inductive CloudWatchCostGroup where
  | account | region | operation | collector | analyzer | collectionRun
deriving DecidableEq, Repr

inductive CloudWatchCostGranularity where
  | daily | monthly
deriving DecidableEq, Repr

/-- `_GROUP_COLUMNS` -/
def groupColumn : CloudWatchCostGroup → CloudWatchUsageEvent → Option String
  | .account, event => some event.awsAccountId
  | .region, event => some event.region
  | .operation, event => some event.operation
  | .collector, event => event.collector
  | .analyzer, event => event.analyzer
  | .collectionRun, event => event.collectionRunId

/-- The values of the grouping columns. -/
structure GroupKey where
  costGroup : Option String
  period : List ℤ
deriving DecidableEq, Repr

variable [SessionCalendar]

/-- `_period_columns` -/
def periodColumns (granularity : Option CloudWatchCostGranularity)
    (event : CloudWatchUsageEvent) : List ℤ :=
  let (year, month, day) := civil (SessionCalendar.dateOf event.occurredAt)
  match granularity with
  | none => []
  | some .monthly => [year, month]
  | some .daily => [year, month, day]

def groupKey (groupBy : Option CloudWatchCostGroup)
    (granularity : Option CloudWatchCostGranularity) (event : CloudWatchUsageEvent) : GroupKey where
  costGroup := groupBy.bind (groupColumn · event)
  period := periodColumns granularity event

/-- A row of the aggregation, as the events that it aggregates. -/
structure UsageGroup where
  key : GroupKey
  members : List CloudWatchUsageEvent

namespace UsageGroup

def events (group : UsageGroup) : ℕ := group.members.length

def usageQuantity (field : UsageField) (group : UsageGroup) : ℕ :=
  (group.members.map (UsageField.column field)).sum

def inexactRequestEvents (group : UsageGroup) : ℕ :=
  group.members.countP fun event => !event.requestCountIsExact

def failedEvents (group : UsageGroup) : ℕ := group.members.countP fun event => !event.success

end UsageGroup

/-- `GROUP BY`, in the order of the first events. An aggregation without grouping
columns has one row. -/
def usageGroups (groupBy : Option CloudWatchCostGroup)
    (granularity : Option CloudWatchCostGranularity) (events : List CloudWatchUsageEvent) :
    List UsageGroup :=
  if groupBy.isNone ∧ granularity.isNone then [⟨⟨none, []⟩, events⟩]
  else (events.map (groupKey groupBy granularity)).eraseDups.map fun key =>
    ⟨key, events.filter fun event => groupKey groupBy granularity event = key⟩

omit [SessionCalendar] in
/-- `_period_value` -/
def periodValue (granularity : Option CloudWatchCostGranularity) (key : GroupKey) :
    Option String :=
  match granularity, key.period with
  | some .monthly, year :: month :: _ =>
    some (padded 4 year ++ "-" ++ padded 2 month)
  | some .daily, year :: month :: day :: _ =>
    some (padded 4 year ++ "-" ++ padded 2 month ++ "-" ++
      padded 2 day)
  | _, _ => none

omit [SessionCalendar] in
/-- The name of a group in the result. -/
def groupValue (groupBy : Option CloudWatchCostGroup) (key : GroupKey) : Option String :=
  match groupBy, key.costGroup with
  | some .analyzer, none => some "Shared / Unattributed"
  | _, value => value

end Groups

section Calculation

/-- An item of the result. -/
structure CostItem where
  group : Option String
  period : Option String
  currency : String
  grossEstimatedCost : ℚ
  usageQuantity : ℚ
  pricedEvents : ℕ
  inexactRequestEvents : ℕ
  failedEvents : ℕ
  components : List CostComponent
deriving DecidableEq, Repr

/-- Group, period and currency of an item. -/
abbrev ItemKey := Option String × Option String × String

def emptyItem (key : ItemKey) : CostItem :=
  ⟨key.1, key.2.1, key.2.2, 0, 0, 0, 0, 0, []⟩

/-- What the loop over the versions carries. -/
structure CostState where
  merged : List (ItemKey × CostItem)
  pricedEvents : ℕ
  inexactRequestEvents : ℕ
  failedEvents : ℕ

/-- The cost of a group added to its item. -/
def addToItem (item : CostItem) (field : UsageField) (group : UsageGroup) (cost : ℚ)
    (components : List CostComponent) : CostItem :=
  { item with
    grossEstimatedCost := DecimalArithmetic.add item.grossEstimatedCost cost
    usageQuantity := DecimalArithmetic.add item.usageQuantity (group.usageQuantity field)
    pricedEvents := item.pricedEvents + group.events
    inexactRequestEvents := item.inexactRequestEvents + group.inexactRequestEvents
    failedEvents := item.failedEvents + group.failedEvents
    components := item.components ++ components }

variable [ValueText]

/-- One row of a version; a row without usage is passed over. -/
def takeGroup (groupBy : Option CloudWatchCostGroup)
    (granularity : Option CloudWatchCostGranularity) (field : UsageField) (currency : String)
    (versionRules : List CloudWatchPricingRule) (state : CostState) (group : UsageGroup) :
    Except PricingError CostState := do
  if group.usageQuantity field = 0 then return state
  let (cost, components) ← calculateTieredCost DecimalArithmetic.rounded
    (group.usageQuantity field) (versionRules.map CloudWatchPricingRule.supplied)
  let key : ItemKey := (groupValue groupBy group.key, periodValue granularity group.key, currency)
  let item := (state.merged.lookup key).getD (emptyItem key)
  return {
    merged := setKey key (addToItem item field group cost components) state.merged
    pricedEvents := state.pricedEvents + group.events
    inexactRequestEvents := state.inexactRequestEvents + group.inexactRequestEvents
    failedEvents := state.failedEvents + group.failedEvents }

variable [SessionCalendar]

/-- One version over the filtered events. -/
def takeVersion (groupBy : Option CloudWatchCostGroup)
    (granularity : Option CloudWatchCostGranularity) (events : List CloudWatchUsageEvent)
    (state : CostState) (version : VersionKey × List CloudWatchPricingRule) :
    Except PricingError CostState := do
  let (key, rules) := version
  if key.tierScope ≠ "NONE" ∧ 1 < rules.length then
    throw (.ambiguous ("tiered analytical attribution requires a supported AWS tier scope; " ++
      "operation=" ++ key.operation ++ " tier_scope=" ++ key.tierScope))
  match cloudwatchPricingDimensions.lookup key.operation with
  | none => return state
  | some dimension =>
    if dimension.name ≠ key.pricingDimension then return state
    (usageGroups groupBy granularity (events.filter (selects key))).foldlM
      (takeGroup groupBy granularity dimension.usageField key.currency
        (sortByKey CloudWatchPricingRule.tierFrom rules)) state

structure UnpricedUsage where
  operation : String
  region : String
  events : ℕ
  requests : ℕ
  reason : String
deriving DecidableEq, Repr

omit [ValueText] [SessionCalendar] in
/-- The events that no version selects, by operation and region. -/
def unpricedGroups (rules : List CloudWatchPricingRule) (events : List CloudWatchUsageEvent) :
    List ((String × String) × List CloudWatchUsageEvent) :=
  let unpriced := events.filter fun event => !coverageClause rules event
  (unpriced.map fun event => (event.operation, event.region)).eraseDups.map fun key =>
    (key, unpriced.filter fun event => (event.operation, event.region) = key)

structure CurrencyTotal where
  currency : String
  grossEstimatedCost : ℚ
  usageQuantity : ℚ
deriving DecidableEq, Repr

omit [ValueText] [SessionCalendar] in
/-- An item added to the total of its currency. -/
def addToTotal (totals : List (String × CurrencyTotal)) (item : CostItem) :
    List (String × CurrencyTotal) :=
  let total := (totals.lookup item.currency).getD ⟨item.currency, 0, 0⟩
  setKey item.currency
    { total with
      grossEstimatedCost :=
        DecimalArithmetic.add total.grossEstimatedCost item.grossEstimatedCost
      usageQuantity := DecimalArithmetic.add total.usageQuantity item.usageQuantity } totals

omit [ValueText] [SessionCalendar] in
/-- The totals by currency, in the order of the currencies. -/
def totalsOf (items : List CostItem) : List CurrencyTotal :=
  (sortByKey Prod.fst (items.foldl addToTotal [])).map Prod.snd

structure CloudWatchCost where
  groupBy : Option CloudWatchCostGroup
  granularity : Option CloudWatchCostGranularity
  items : List CostItem
  totals : List CurrencyTotal
  pricedEvents : ℕ
  unpricedEvents : ℕ
  unpricedUsage : List UnpricedUsage
  isComplete : Bool
  requestCountIsExact : Bool
  inexactRequestEvents : ℕ
  failedEvents : ℕ
  freeTierApplied : Bool
  pricingSources : List String
  pricingVerifiedAt : Option Instant
  estimationBasis : String
deriving DecidableEq, Repr

omit [ValueText] [SessionCalendar] in
/-- The order of the items. -/
def itemRank (item : CostItem) : String ×ₗ String ×ₗ String :=
  toLex (item.period.getD "", toLex (item.group.getD "", item.currency))

def estimationBasis : String :=
  "Gross operational estimate from Aven-observed CloudWatch usage and " ++
    "effective-dated public AWS pricing. Shared AWS Free Tier, private pricing, " ++
    "taxes, credits, discounts, and FX are not applied. Failed requests are " ++
    "included because current AWS pricing documentation does not state an " ++
    "exclusion for failed API attempts; inexact retry observations are flagged."

/-- `CloudWatchCostEngine.calculate` over the enabled rules and the recorded events. -/
def calculate (rules : List CloudWatchPricingRule) (table : UsageTable)
    (filters : CloudWatchUsageFilters) (groupBy : Option CloudWatchCostGroup)
    (granularity : Option CloudWatchCostGranularity) : Except PricingError CloudWatchCost := do
  validateNoAmbiguousRules rules
  let events := table.rows.filter (filtered filters)
  let state ← (rulesByVersion rules).foldlM (takeVersion groupBy granularity events) ⟨[], 0, 0, 0⟩
  let unpricedUsage := (unpricedGroups rules events).map fun group =>
    (⟨group.1.1, group.1.2, group.2.length,
      (group.2.map CloudWatchUsageEvent.requestCount).sum, "UNPRICED_USAGE"⟩ : UnpricedUsage)
  let unpricedEvents := (unpricedUsage.map UnpricedUsage.events).sum
  let items := state.merged.map Prod.snd
  let components := items.flatMap CostItem.components
  return {
    groupBy
    granularity
    items := sortByKey itemRank items
    totals := totalsOf items
    pricedEvents := state.pricedEvents
    unpricedEvents
    unpricedUsage
    isComplete := unpricedEvents = 0
    requestCountIsExact := state.inexactRequestEvents = 0
    inexactRequestEvents := state.inexactRequestEvents
    failedEvents := state.failedEvents
    freeTierApplied := false
    pricingSources := sortByKey id (components.map CostComponent.source).eraseDups
    pricingVerifiedAt := (components.map CostComponent.pricingVerifiedAt).max?
    estimationBasis }

end Calculation

end FinopsAnalytics.CloudWatchCostEngine
