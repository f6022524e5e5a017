import FinopsAnalytics.Dictionaries
import FinopsAnalytics.Fallible
import FinopsAnalytics.PythonJson
import FinopsAnalytics.PythonText

/-!
# Structured evidence of an opportunity

The persisted evidence of an observation is normalised rule by rule into metrics, criteria,
details, parameters and contributors. Evidence that was already structured is returned as
it is. The costs of the observation enter as metrics and as observed values of criteria.
-/

namespace FinopsAnalytics.OpportunityEvidence

open PythonText ComparisonContexts PythonJson Dictionaries Fallible

abbrev Entries := List (String × Json)

/-- A float; none stands for what is not finite. -/
abbrev Double := Option ℚ

/-- The runtime's floats and texts. An integer beyond the floats has no float, and a text
may denote no number. -/
class PythonRuntime where
  floatOfInt : ℤ → Option Double
  floatOfDecimal : ℚ → Double
  floatOfText : String → Option Double
  round : Double → ℕ → Double
  subtract : Double → Double → Double
  sum : List Double → Double
  /-- `str` of a value other than a text. -/
  str : Json → String
  /-- `json.dumps` with sorted keys. -/
  dumps : Json → String
  /-- `f"{start}–{end} ({timezone})"` -/
  window : Json → Json → Json → String

variable [PythonRuntime]

section Values

/-- `float(value)` of an integer. -/
def floatOfInt (value : ℤ) : Except PythonError Double :=
  match PythonRuntime.floatOfInt value with
  | some float => .ok float
  | none => .error .overflowError

/-- `_number`: an integer, a float, or null. -/
def number : Json → Except PythonError Json
  | .int value => do
    let _ ← floatOfInt value
    return .int value
  | .float (some value) =>
    if value.den = 1 then return .int value.num
    else return .float (PythonRuntime.round (some value) 4)
  | .float none => return .float (PythonRuntime.round none 4)
  | _ => return .null

/-- `round(float(number), 2)` of a float that `_number` has rounded; the float of an
integral float is that float again. -/
def moneyOfFloat (value : Double) : Double :=
  match value with
  | some finite =>
    if finite.den = 1 then PythonRuntime.round value 2
    else PythonRuntime.round (PythonRuntime.round value 4) 2
  | none => PythonRuntime.round (PythonRuntime.round none 4) 2

/-- `_money` -/
def money : Json → Except PythonError Json
  | .int value => do
    let float ← floatOfInt value
    return .float (PythonRuntime.round float 2)
  | .float value => return .float (moneyOfFloat value)
  | _ => return .null

/-- `_money` of a decimal, which is never null. -/
def moneyOfDecimal (value : ℚ) : Json :=
  .float (moneyOfFloat (PythonRuntime.floatOfDecimal value))

/-- `str(value)` -/
def str : Json → String
  | .string text => text
  | value => PythonRuntime.str value

/-- `float(value)` -/
def float : Json → Except PythonError Double
  | .bool value => return some (if value then 1 else 0)
  | .int value => floatOfInt value
  | .float value => return value
  | .string text =>
    match PythonRuntime.floatOfText text with
    | some value => return value
    | none => throw .valueError
  | _ => throw .typeError

/-- `first - second` of two numbers. -/
def subtract : Json → Json → Except PythonError Json
  | .int first, .int second => return .int (first - second)
  | .int first, .float second => do
    let float ← floatOfInt first
    return .float (PythonRuntime.subtract float second)
  | .float first, .int second => do
    let float ← floatOfInt second
    return .float (PythonRuntime.subtract first float)
  | .float first, .float second => return .float (PythonRuntime.subtract first second)
  | _, _ => return .null

end Values

section Records

structure Metric where
  key : String
  label : String
  value : Json
  unit : Option String
  kind : String
deriving DecidableEq

structure Criterion where
  key : String
  label : String
  observedValue : Json
  operator : String
  thresholdValue : Json
  unit : Option String
deriving DecidableEq

structure Contributor where
  key : String
  label : String
  previousValue : Json
  currentValue : Json
  delta : Json
  unit : String
deriving DecidableEq

def metric (key label : String) (value : Json) (unit : Option String) (kind : String) :
    Option Metric :=
  if value = .null then none else some ⟨key, label, value, unit, kind⟩

def criterion (key label : String) (observedValue : Json) (operator : String)
    (thresholdValue : Json) (unit : Option String) : Option Criterion :=
  if thresholdValue = .null then none
  else some ⟨key, label, observedValue, operator, thresholdValue, unit⟩

def optionalText : Option String → Json
  | some text => .string text
  | none => .null

def Metric.json (metric : Metric) : Json :=
  .object [("key", .string metric.key), ("label", .string metric.label), ("value", metric.value),
    ("unit", optionalText metric.unit), ("kind", .string metric.kind)]

def Criterion.json (criterion : Criterion) : Json :=
  .object [("key", .string criterion.key), ("label", .string criterion.label),
    ("observed_value", criterion.observedValue), ("operator", .string criterion.operator),
    ("threshold_value", criterion.thresholdValue), ("unit", optionalText criterion.unit)]

def Contributor.json (contributor : Contributor) : Json :=
  .object [("key", .string contributor.key), ("label", .string contributor.label),
    ("previous_value", contributor.previousValue), ("current_value", contributor.currentValue),
    ("delta", contributor.delta), ("unit", .string contributor.unit)]

/-- What a rule makes of the evidence. -/
structure Draft where
  metrics : List (Option Metric)
  criteria : List (Option Criterion)
  details : Entries
  contributors : List Contributor

end Records

/-- What the normalisation reads of a finding. -/
structure EvidenceSubject where
  ruleKey : String
  service : String
  region : Option String
  resourceId : String
  resourceName : Option String
deriving DecidableEq, Repr

def ruleParameterKeys : List (String × List String) :=
  [("ebs_unattached", ["minimum_age_days", "minimum_monthly_savings_usd"]),
    ("eip_unassociated", ["monthly_cost_usd", "minimum_monthly_savings_usd"]),
    ("snapshot_retention", ["retention_days", "preserve_last_per_volume",
      "preserve_ami_snapshots", "minimum_monthly_savings_usd"]),
    ("ec2_stopped_with_ebs", ["minimum_stopped_days", "include_unknown_stop_time",
      "minimum_monthly_savings_usd"]),
    ("ec2_nonprod_outside_hours", ["timezone", "business_days", "business_hours_start",
      "business_hours_end", "environment_tag_keys", "nonproduction_values"]),
    ("load_balancer_no_traffic", ["lookback_days", "minimum_age_days", "maximum_requests",
      "maximum_processed_bytes", "estimated_base_monthly_cost_usd"]),
    ("rds_nonprod_idle", ["lookback_days", "maximum_average_cpu_percent",
      "maximum_connections", "environment_tag_keys", "nonproduction_values"]),
    ("missing_required_tags", ["required_tags", "resource_types"]),
    ("cost_growth_anomaly", ["baseline_days", "comparison_days", "minimum_growth_percent",
      "minimum_delta_usd", "minimum_current_spend_usd"])]

/-- `_policy_config` without a policy. -/
def policyConfig (raw : Entries) : Entries := entriesOf (get "policy_config" raw)

/-- `_parameters` -/
def parameters (ruleKey : String) (config : Entries) : Entries :=
  ((ruleParameterKeys.lookup ruleKey).getD []).filterMap fun key =>
    (config.lookup key).map fun value => (key, value)

section Tags

variable [CaseMapping]

/-- `_environment_tags` -/
def environmentTags (tags : Json) (config : Entries) : Except PythonError Json := do
  if isObject tags = false then return .object []
  let wantedKeys ← iterate (getOr "environment_tag_keys" (.array []) config)
  let wanted := wantedKeys.map fun key => CaseMapping.lower (str key)
  return .object (((entriesOf tags).filter fun entry =>
    CaseMapping.lower entry.1 ∈ wanted).map fun entry => (entry.1, .string (str entry.2)))

/-- `_required_tag_evidence`; of keys that differ in case only the last one counts. -/
def requiredTagEvidence (currentTags : Json) (required : List Json) : Json :=
  if isObject currentTags = false then .object []
  else
    let byLower := (entriesOf currentTags).foldl (fun known entry =>
      setKey (CaseMapping.lower entry.1) (entry.1, str entry.2) known)
        ([] : List (String × (String × String)))
    .object (required.foldl (fun found wanted =>
      match byLower.lookup (CaseMapping.lower (str wanted)) with
      | some item => setKey item.1 (.string item.2) found
      | none => found) [])

end Tags

section Rules

def ebsUnattached (raw config : Entries) (currentCost savings : Json) :
    Except PythonError Draft := do
  let size ← number (get "size_gib" raw)
  let age ← number (get "age_days" raw)
  return {
    metrics := [metric "age_days" "Idade desde a criação" age (some "days") "observed",
      metric "storage_gib" "Armazenamento" size (some "GiB") "observed",
      metric "estimated_monthly_cost" "Custo mensal estimado" currentCost (some "USD_MONTH")
        "estimate"]
    criteria := [criterion "minimum_age_days" "Idade mínima" age ">="
        (get "minimum_age_days" config) (some "days"),
      criterion "minimum_monthly_savings_usd" "Economia mensal mínima" savings ">="
        (get "minimum_monthly_savings_usd" config) (some "USD_MONTH")]
    details := [("state", get "state" raw), ("volume_type", get "volume_type" raw),
      ("size_gib", size), ("created_at", get "created_at" raw)]
    contributors := [] }

def eipUnassociated (raw config : Entries) (currentCost savings : Json) :
    Except PythonError Draft :=
  return {
    metrics := [metric "estimated_monthly_cost" "Custo mensal estimado" currentCost
      (some "USD_MONTH") "estimate"]
    criteria := [criterion "association" "Associação" (.int 0) "=" (.int 0)
        (some "associations"),
      criterion "minimum_monthly_savings_usd" "Economia mensal mínima" savings ">="
        (get "minimum_monthly_savings_usd" config) (some "USD_MONTH")]
    details := [("public_ip", get "public_ip" raw), ("allocation_id", get "allocation_id" raw),
      ("domain", get "domain" raw)]
    contributors := [] }

def snapshotRetention (raw config : Entries) (currentCost : Json) : Except PythonError Draft := do
  let age ← number (get "age_days" raw)
  let retention ← number (orElse (get "retention_days" raw) (get "retention_days" config))
  let excess ← if age ≠ .null ∧ retention ≠ .null then subtract age retention else pure .null
  let size ← number (get "volume_size_gib" raw)
  return {
    metrics := [metric "age_days" "Idade do snapshot" age (some "days") "observed",
      metric "retention_excess_days" "Excesso de retenção" excess (some "days") "observed",
      metric "source_volume_gib" "Tamanho do volume de origem" size (some "GiB") "observed",
      metric "estimated_monthly_cost_upper_bound" "Custo mensal estimado (limite superior)"
        currentCost (some "USD_MONTH") "estimate"]
    criteria := [criterion "retention_days" "Retenção configurada" age ">" retention
      (some "days")]
    details := [("source_volume_id", get "volume_id" raw), ("started_at", get "started_at" raw),
      ("age_days", age), ("retention_days", retention)]
    contributors := [] }

/-- The total size of the volumes, an integer where it is integral. -/
def totalGib (sizes : List Double) : Json :=
  if sizes = [] then .int 0
  else
    match PythonRuntime.sum sizes with
    | some total =>
      if total.den = 1 then .int total.num else .float (PythonRuntime.round (some total) 2)
    | none => .float (PythonRuntime.round none 2)

def ec2StoppedWithEbs (raw config : Entries) (currentCost savings : Json) :
    Except PythonError Draft := do
  let stoppedDays ← number (get "stopped_days" raw)
  let volumes := itemsOf (get "volumes" raw)
  let described := volumes.filter isObject
  let sizes ← described.mapM fun item =>
    float (orElse (get "size_gib" (entriesOf item)) (.int 0))
  return {
    metrics := [metric "stopped_days" "Tempo parada" stoppedDays (some "days") "observed",
      metric "volume_count" "Volumes associados" (.int volumes.length) (some "volumes") "observed",
      metric "storage_gib" "Armazenamento associado" (totalGib sizes) (some "GiB") "observed",
      metric "estimated_monthly_storage_cost" "Custo mensal estimado dos volumes" currentCost
        (some "USD_MONTH") "estimate"]
    criteria := [criterion "minimum_stopped_days" "Tempo mínimo parada" stoppedDays ">="
        (get "minimum_stopped_days" config) (some "days"),
      criterion "minimum_monthly_savings_usd" "Economia mensal mínima" savings ">="
        (get "minimum_monthly_savings_usd" config) (some "USD_MONTH")]
    details := [("state", orElse (get "state" raw) (.string "stopped")),
      ("instance_type", get "instance_type" raw), ("stopped_at", get "stopped_at" raw),
      ("volumes", .array (described.map fun item =>
        .object [("volume_id", get "volume_id" (entriesOf item)),
          ("size_gib", get "size_gib" (entriesOf item)), ("type", get "type" (entriesOf item))]))]
    contributors := [] }

variable [CaseMapping]

def ec2NonprodOutsideHours (raw config : Entries) (currentCost savings : Json) :
    Except PythonError Draft := do
  let tags ← environmentTags (get "tags" raw) config
  let observedLocalTime := get "observed_local_time" raw
  let configuredWindow := PythonRuntime.window
    (getOr "business_hours_start" (.string "unknown") config)
    (getOr "business_hours_end" (.string "unknown") config)
    (getOr "timezone" (.string "UTC") config)
  return {
    metrics := [metric "estimated_monthly_running_cost"
        "Custo mensal estimado se permanecer ligada" currentCost (some "USD_MONTH") "projection",
      metric "estimated_monthly_offhours_savings" "Economia potencial estimada" savings
        (some "USD_MONTH") "estimate"]
    criteria := [criterion "business_hours" "Janela de expediente" observedLocalTime "outside"
      (.string configuredWindow) none]
    details := [("state", orElse (get "state" raw) (.string "running")),
      ("instance_type", get "instance_type" raw),
      ("observed_at", orElse (get "observed_at" raw) (orElse (get "evaluated_at" raw) .null)),
      ("observed_local_time", observedLocalTime), ("environment_tags", tags)]
    contributors := [] }

def loadBalancerNoTraffic (raw config : Entries) (currentCost : Json) :
    Except PythonError Draft := do
  let metricName := str (orElse (get "metric" raw) (.string "traffic"))
  let total ← number (get "metric_total" raw)
  let datapoints ← number (get "datapoint_count" raw)
  let lookback ← number (orElse (get "lookback_days" raw) (get "lookback_days" config))
  let processed := metricName = "ProcessedBytes"
  let threshold :=
    if processed then get "maximum_processed_bytes" config else get "maximum_requests" config
  let unit := if processed then "bytes" else "requests"
  let confirmedTotal := if equal datapoints (.int 0) then .null else total
  return {
    metrics := [metric "traffic_total" "Tráfego observado" confirmedTotal (some unit) "observed",
      metric "datapoint_count" "Amostras retornadas" datapoints (some "datapoints") "observed",
      metric "lookback_days" "Período analisado" lookback (some "days") "observed",
      metric "estimated_monthly_cost" "Custo mensal estimado" currentCost (some "USD_MONTH")
        "estimate"]
    criteria := [criterion "traffic_threshold" "Limite de tráfego" confirmedTotal "<=" threshold
      (some unit)]
    details := [("load_balancer_type", get "type" raw), ("metric", .string metricName),
      ("created_at", get "created_at" raw), ("datapoint_count", datapoints)]
    contributors := [] }

def rdsNonprodIdle (raw config : Entries) (currentCost : Json) : Except PythonError Draft := do
  let cpu ← number (get "average_cpu_percent" raw)
  let connections ← number (get "maximum_connections" raw)
  let lookback ← number (orElse (get "lookback_days" raw) (get "lookback_days" config))
  let tags ← environmentTags (get "tags" raw) config
  return {
    metrics := [metric "average_cpu_percent" "CPU média" cpu (some "%") "observed",
      metric "maximum_connections" "Máximo de conexões" connections (some "connections")
        "observed",
      metric "lookback_days" "Período analisado" lookback (some "days") "observed",
      metric "estimated_monthly_cost" "Custo mensal estimado" currentCost (some "USD_MONTH")
        "estimate"]
    criteria := [criterion "maximum_average_cpu_percent" "Limite de CPU média" cpu "<="
        (get "maximum_average_cpu_percent" config) (some "%"),
      criterion "maximum_connections" "Limite de conexões" connections "<="
        (get "maximum_connections" config) (some "connections")]
    details := [("engine", get "engine" raw), ("instance_class", get "instance_class" raw),
      ("environment_tags", tags), ("cpu_datapoint_count", get "cpu_datapoint_count" raw),
      ("connection_datapoint_count", get "connection_datapoint_count" raw)]
    contributors := [] }

def missingRequiredTags (raw config : Entries) : Except PythonError Draft :=
  let missing := itemsOf (get "missing_tags" raw)
  let required := itemsOf (get "required_tags" config)
  let found := requiredTagEvidence (orElse (get "current_tags" raw) (get "tags" raw)) required
  return {
    metrics := [metric "missing_tag_count" "Tags obrigatórias ausentes" (.int missing.length)
      (some "tags") "observed"]
    criteria := [criterion "required_tags" "Tags obrigatórias presentes"
      (.int (required.length - missing.length)) "=" (.int required.length) (some "tags")]
    details := [("required_tags", .array required), ("required_tags_found", found),
      ("missing_tags", .array missing)]
    contributors := [] }

omit [CaseMapping]

/-- A contributor of a growing cost; one without a type or a contribution is left out. -/
def costContributor (item : Json) : Except PythonError (Option Contributor) := do
  if isObject item = false then return none
  let entries := entriesOf item
  let usageType := get "usage_type" entries
  let contribution ← money (get "delta_usd" entries)
  if usageType = .null ∨ contribution = .null then return none
  let previousValue ← money (get "baseline_equivalent_usd" entries)
  let currentValue ← money (get "current_spend_usd" entries)
  return some ⟨str usageType, str usageType, previousValue, currentValue, contribution, "USD"⟩

def costGrowthAnomaly (raw config : Entries) : Except PythonError Draft := do
  let baseline ← money (get "baseline_equivalent_usd" raw)
  let current ← money (get "current_spend_usd" raw)
  let delta ← money (get "delta_usd" raw)
  let growth ← number (get "growth_percent" raw)
  let baselineDays ← number (orElse (get "baseline_period_days" raw) (get "baseline_days" config))
  let comparisonDays ← number
    (orElse (get "comparison_period_days" raw) (get "comparison_days" config))
  let baselineTotal ← money (get "baseline_total_usd" raw)
  let contributors ← ((itemsOf (get "cost_contributors" raw)).take 5).mapM costContributor
  return {
    metrics := [metric "previous_period_cost" "Custo esperado no período" baseline (some "USD")
        "observed",
      metric "current_period_cost" "Custo no período atual" current (some "USD") "observed",
      metric "absolute_cost_change" "Variação absoluta" delta (some "USD") "observed",
      metric "cost_growth_percent" "Variação percentual" growth (some "%") "observed",
      metric "baseline_period_days" "Período de referência" baselineDays (some "days") "observed",
      metric "comparison_period_days" "Período atual" comparisonDays (some "days") "observed"]
    criteria := [criterion "minimum_growth_percent" "Crescimento mínimo" growth ">="
        (if growth ≠ .null then
          getOr "minimum_growth_percent" (get "minimum_growth_percent" config) raw else .null)
        (some "%"),
      criterion "minimum_delta_usd" "Variação mínima" delta ">="
        (getOr "minimum_delta_usd" (get "minimum_delta_usd" config) raw) (some "USD"),
      criterion "minimum_current_spend_usd" "Custo atual mínimo" current ">="
        (getOr "minimum_current_spend_usd" (get "minimum_current_spend_usd" config) raw)
        (some "USD")]
    details := [("baseline_start", get "baseline_start" raw),
      ("baseline_end_exclusive", get "baseline_end_exclusive" raw),
      ("comparison_start", get "comparison_start" raw),
      ("comparison_end_exclusive", get "comparison_end_exclusive" raw),
      ("baseline_total_usd", baselineTotal),
      ("metric", orElse (get "metric" raw) (.string "UnblendedCost")),
      ("estimated", .bool (truthy (get "estimated" raw))),
      ("breakdown_status", get "breakdown_status" raw)]
    contributors := contributors.filterMap id }

def hiddenKeys : List String :=
  ["policy_config", "tags", "user_data", "credentials", "token", "secret"]

/-- The path of a rule without a mapping of its own. -/
def unmappedRule (raw : Entries) : Draft where
  metrics := []
  criteria := []
  details := raw.filter (·.1 ∉ hiddenKeys)
  contributors := []

end Rules

section Normalization

variable [CaseMapping]

/-- The branch of `build_evidence` for a rule. -/
def draftOf (ruleKey : String) (raw config : Entries) (currentCost savings : Json) :
    Except PythonError Draft :=
  if ruleKey = "ebs_unattached" then ebsUnattached raw config currentCost savings
  else if ruleKey = "eip_unassociated" then eipUnassociated raw config currentCost savings
  else if ruleKey = "snapshot_retention" then snapshotRetention raw config currentCost
  else if ruleKey = "ec2_stopped_with_ebs" then ec2StoppedWithEbs raw config currentCost savings
  else if ruleKey = "ec2_nonprod_outside_hours" then
    ec2NonprodOutsideHours raw config currentCost savings
  else if ruleKey = "load_balancer_no_traffic" then loadBalancerNoTraffic raw config currentCost
  else if ruleKey = "rds_nonprod_idle" then rdsNonprodIdle raw config currentCost
  else if ruleKey = "missing_required_tags" then missingRequiredTags raw config
  else if ruleKey = "cost_growth_anomaly" then costGrowthAnomaly raw config
  else .ok (unmappedRule raw)

/-- Whether evidence has the structured form already. -/
def structured (raw : Entries) : Bool :=
  equal (get "schema_version" raw) (.int 1) &&
    ["summary", "metrics", "details", "rule"].all fun key => key ∈ raw.map Prod.fst

/-- `_base`, without the texts of summary, rule, source and notes. -/
def base (subject : EvidenceSubject) (draft : Draft) (parameters : Entries) : Entries :=
  [("schema_version", .int 1),
    ("metrics", .array ((draft.metrics.filterMap id).map Metric.json)),
    ("criteria", .array ((draft.criteria.filterMap id).map Criterion.json)),
    ("details", .object (update [("resource_id", .string subject.resourceId),
      ("resource_name", optionalText subject.resourceName), ("service", .string subject.service),
      ("region", optionalText subject.region)] draft.details)),
    ("parameters", .object parameters),
    ("contributors", .array (draft.contributors.map Contributor.json))]

/-- `normalize_persisted_evidence` -/
def normalizePersistedEvidence (subject : EvidenceSubject) (evidence : Entries)
    (currentMonthlyCost estimatedMonthlySavings : ℚ) : Except PythonError Entries :=
  if structured evidence then .ok evidence
  else do
    let config := policyConfig evidence
    let draft ← draftOf subject.ruleKey evidence config (moneyOfDecimal currentMonthlyCost)
      (moneyOfDecimal estimatedMonthlySavings)
    return base subject draft (parameters subject.ruleKey config)

end Normalization

end FinopsAnalytics.OpportunityEvidence
