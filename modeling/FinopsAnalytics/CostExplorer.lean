import FinopsAnalytics.CivilCalendar
import FinopsAnalytics.OciPricing

/-!
# Queries to the AWS Cost Explorer

A query is built from the values of a billing request, its pages are read until one
has no token, and the buckets of the pages become rows. The service itself is a
parameter: it answers a session, a query and a token, always in the same way.
-/

namespace FinopsAnalytics.CostExplorer

open PythonText CivilCalendar OciPricing

inductive BillingGranularity where
  | daily
  | monthly
deriving DecidableEq, Repr

def BillingGranularity.value : BillingGranularity → String
  | .daily => "DAILY"
  | .monthly => "MONTHLY"

inductive BillingMetric where
  | amortizedCost
  | netAmortizedCost
  | unblendedCost
deriving DecidableEq, Repr

def BillingMetric.value : BillingMetric → String
  | .amortizedCost => "AMORTIZED_COST"
  | .netAmortizedCost => "NET_AMORTIZED_COST"
  | .unblendedCost => "UNBLENDED_COST"

inductive BillingGroupBy where
  | none
  | service
  | account
deriving DecidableEq, Repr

def BillingGroupBy.value : BillingGroupBy → String
  | .none => "NONE"
  | .service => "SERVICE"
  | .account => "ACCOUNT"

theorem BillingMetric.value_injective : Function.Injective BillingMetric.value := by
  intro first second same
  cases first <;> cases second <;> first | rfl | exact absurd same (by decide)

theorem BillingGroupBy.value_injective : Function.Injective BillingGroupBy.value := by
  intro first second same
  cases first <;> cases second <;> first | rfl | exact absurd same (by decide)

/-- `AWS_METRICS` -/
def awsMetric : BillingMetric → String
  | .amortizedCost => "AmortizedCost"
  | .netAmortizedCost => "NetAmortizedCost"
  | .unblendedCost => "UnblendedCost"

/-- `AWS_GROUPS.get` -/
def awsGroup : BillingGroupBy → Option String
  | .none => none
  | .service => some "SERVICE"
  | .account => some "LINKED_ACCOUNT"

inductive DimensionFilter where
  | dimensions (key : String) (values : List String)
  | not (key : String) (values : List String)
deriving DecidableEq, Repr

inductive QueryFilter where
  | one (filter : DimensionFilter)
  | and (filters : List DimensionFilter)
deriving DecidableEq, Repr

def QueryFilter.filters : QueryFilter → List DimensionFilter
  | .one filter => [filter]
  | .and filters => filters

structure CostQuery where
  timePeriod : String × String
  granularity : String
  metrics : List String
  filter : Option QueryFilter
  groupBy : Option String
deriving DecidableEq, Repr

/-- The filters of a query, the linked account first. -/
def queryFilters (excludeRecordTypes : List String) (linkedAccountId : Option String) :
    List DimensionFilter :=
  (match linkedAccountId with
    | none => []
    | some accountId =>
      if accountId = "" then [] else [.dimensions "LINKED_ACCOUNT" [accountId]]) ++
    if excludeRecordTypes = [] then [] else [.not "RECORD_TYPE" excludeRecordTypes]

/-- `build_cost_and_usage_query` -/
def buildCostAndUsageQuery (startDate endDate : String) (granularity : BillingGranularity)
    (metric : BillingMetric) (groupBy : BillingGroupBy) (excludeRecordTypes : List String)
    (linkedAccountId : Option String) : CostQuery where
  timePeriod := (startDate, endDate)
  granularity := granularity.value
  metrics := [awsMetric metric]
  filter :=
    match queryFilters excludeRecordTypes linkedAccountId with
    | [] => none
    | [filter] => some (.one filter)
    | filters => some (.and filters)
  groupBy := awsGroup groupBy

/-- Whether a query asks for the costs of one linked account only. -/
def CostQuery.restrictedTo (query : CostQuery) (accountId : String) : Prop :=
  ∃ filter, query.filter = some filter ∧
    DimensionFilter.dimensions "LINKED_ACCOUNT" [accountId] ∈ filter.filters

theorem restricted_of_linked (startDate endDate : String) (granularity : BillingGranularity)
    (metric : BillingMetric) (groupBy : BillingGroupBy) (excludeRecordTypes : List String)
    {accountId : String} (named : accountId ≠ "") :
    (buildCostAndUsageQuery startDate endDate granularity metric groupBy excludeRecordTypes
      (some accountId)).restrictedTo accountId := by
  unfold CostQuery.restrictedTo buildCostAndUsageQuery queryFilters
  dsimp only
  rw [if_neg named]
  by_cases included : excludeRecordTypes = []
  · rw [if_pos included]
    exact ⟨_, rfl, List.mem_singleton.mpr rfl⟩
  · rw [if_neg included]
    exact ⟨_, rfl, List.mem_cons_self ..⟩

/-- A value of a metric, empty where neither field is present. -/
structure MetricValue where
  amount : Option String
  unit : Option String
deriving DecidableEq, Repr

structure CostGroup where
  keys : List String
  metrics : List (String × MetricValue)
deriving DecidableEq, Repr

structure CostBucket where
  start : Option String
  stop : Option String
  estimated : Bool
  total : List (String × MetricValue)
  groups : List CostGroup
deriving DecidableEq, Repr

structure CostPage where
  resultsByTime : List CostBucket
  nextPageToken : Option String
deriving DecidableEq, Repr

/-- The values of an account's configuration with which its role is assumed. -/
structure SessionRequest where
  roleArn : String
  externalId : Option String
  region : String
  cloudAccountId : ℤ
  awsAccountId : String
deriving DecidableEq, Repr

/-- What a call of the Cost Explorer client can raise. -/
inductive ClientFailure where
  | clientError (code : String)
  | botoCore
  | other
deriving DecidableEq, Repr

/-- The Cost Explorer: whether a session and its client are built, and what the client
answers to a query with the token of a page. -/
structure Upstream where
  opens : SessionRequest → Bool
  respond : SessionRequest → CostQuery → Option String → Except ClientFailure CostPage

/-- How a billing query can fail. Pages without an end are never answered. -/
inductive BillingFailure where
  | service (code message : String)
  | upstream (code message : String)
  | unending
deriving DecidableEq, Repr

/-- `_map_client_error` -/
def mapClientError (code : String) : BillingFailure :=
  if code ∈ ["AccessDenied", "AccessDeniedException", "UnauthorizedException",
      "UnauthorizedOperation"] then
    .upstream "ACCESS_DENIED"
      "Não foi possível consultar Billing para esta conta com as credenciais configuradas."
  else if code ∈ ["DataUnavailableException"] then
    .upstream "COST_EXPLORER_UNAVAILABLE"
      "Os dados do AWS Cost Explorer estão indisponíveis para esta conta no momento."
  else if code ∈ ["LimitExceededException", "Throttling", "ThrottlingException",
      "TooManyRequestsException"] then
    .upstream "THROTTLED"
      "O AWS Cost Explorer limitou temporariamente as consultas. Tente novamente."
  else if code ∈ ["InvalidNextTokenException", "RequestChangedException"] then
    .upstream "PAGINATION_ERROR"
      "O AWS Cost Explorer não conseguiu concluir a paginação da consulta."
  else if code ∈ ["BillingViewHealthStatusException", "ResourceNotFoundException"] then
    .upstream "INVALID_BILLING_SCOPE"
      "O escopo de Billing solicitado não está disponível para esta credencial."
  else if code ∈ ["BillExpirationException", "ValidationException"] then
    .upstream "INVALID_REQUEST"
      "O AWS Cost Explorer rejeitou o período ou os filtros da consulta."
  else
    .upstream "UPSTREAM_ERROR" "Não foi possível concluir a consulta no AWS Cost Explorer."

def uninitializedQuery : BillingFailure :=
  .service "UPSTREAM_ERROR" "Não foi possível inicializar a consulta ao AWS Cost Explorer."

/-- The failure that the service makes of a call's. -/
def mapFailure : ClientFailure → BillingFailure
  | .clientError code => mapClientError code
  | .botoCore =>
    .upstream "UPSTREAM_ERROR" "Não foi possível conectar ao AWS Cost Explorer."
  | .other => uninitializedQuery

/-- `AwsCostExplorerClient.get_cost_and_usage` after some pages, for at most `limit`
further ones. -/
def getCostAndUsage (respond : Option String → Except ClientFailure CostPage) :
    ℕ → Option String → List String → List CostPage → Except BillingFailure (List CostPage)
  | 0, _, _, _ => .error .unending
  | limit + 1, nextToken, seenTokens, pages =>
    match respond nextToken with
    | .error failure => .error (mapFailure failure)
    | .ok page =>
      match page.nextPageToken with
      | none => .ok (pages ++ [page])
      | some token =>
        if token = "" then .ok (pages ++ [page])
        else if token ∈ seenTokens then
          .error (.upstream "PAGINATION_ERROR"
            "O AWS Cost Explorer repetiu um token de paginação.")
        else getCostAndUsage respond limit (some token) (token :: seenTokens) (pages ++ [page])

/-- The dates that a text denotes. -/
class DateText where
  fromisoformat : String → Option Date

/-- The account of a row. -/
structure RowAccount where
  deepopsAccountId : ℤ
  awsAccountId : String
  displayName : String
deriving DecidableEq, Repr

/-- `_BillingRow` -/
structure BillingRow where
  startDate : Date
  endDate : Date
  key : Option String
  amount : ℚ
  currency : String
  estimated : Bool
  account : RowAccount
deriving DecidableEq, Repr

section Normalization

variable [DateText] [DecimalText]

/-- `_parse_cost` -/
def parseCost (amount : Option String) : Except BillingFailure ℚ :=
  match amount.bind DecimalText.decimal with
  | none => .error (.service "UPSTREAM_DATA_INVALID"
      "O AWS Cost Explorer retornou um valor monetário inválido.")
  | some cost => .ok cost

/-- The dates of a bucket. -/
def bucketPeriod (bucket : CostBucket) : Except BillingFailure (Date × Date) :=
  match bucket.start.bind DateText.fromisoformat, bucket.stop.bind DateText.fromisoformat with
  | some start, some stop => .ok (start, stop)
  | _, _ => .error (.service "UPSTREAM_DATA_INVALID"
      "O AWS Cost Explorer retornou um período inválido.")

/-- The row of a value of a metric, none where the value is missing or empty. -/
def metricRow (account : RowAccount) (period : Date × Date) (estimated : Bool)
    (key : Option String) (value : Option MetricValue) :
    Except BillingFailure (List BillingRow) :=
  match value with
  | none => .ok []
  | some value =>
    if value = ⟨none, none⟩ then .ok []
    else if strip (value.unit.getD "") = "" then
      .error (.service "UPSTREAM_DATA_INVALID"
        "O AWS Cost Explorer retornou custo sem unidade/moeda.")
    else do
      let amount ← parseCost value.amount
      return [⟨period.1, period.2, key, amount, strip (value.unit.getD ""), estimated, account⟩]

/-- The rows of a bucket. -/
def bucketRows (metric : BillingMetric) (groupBy : BillingGroupBy) (account : RowAccount)
    (bucket : CostBucket) : Except BillingFailure (List BillingRow) := do
  let period ← bucketPeriod bucket
  if groupBy = .none then
    metricRow account period bucket.estimated none (bucket.total.lookup (awsMetric metric))
  else
    let rows ← bucket.groups.mapM fun group =>
      match group.keys with
      | [] => .ok []
      | key :: _ => metricRow account period bucket.estimated (some key)
          (group.metrics.lookup (awsMetric metric))
    return rows.flatten

/-- `_normalize_pages` -/
def normalizePages (metric : BillingMetric) (groupBy : BillingGroupBy) (account : RowAccount)
    (pages : List CostPage) : Except BillingFailure (List BillingRow) := do
  let rows ← (pages.flatMap CostPage.resultsByTime).mapM (bucketRows metric groupBy account)
  return rows.flatten

end Normalization

end FinopsAnalytics.CostExplorer
