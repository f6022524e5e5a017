import FinopsAnalytics.DecimalArithmetic
import FinopsAnalytics.OciCreditedVolumes
import FinopsAnalytics.StableSelections

/-!
# Correlation of the data sets of an OCI account

A discovery, the recommendations of Cloud Advisor, the usage report and the metrics are
joined by resource id. What names a resource goes to the context of the resource, whether
or not the inventory knows it; what names none goes to the context of the account.
-/

namespace FinopsAnalytics.OciCorrelation

open PythonText OpportunityRecords DistinctKeys Dictionaries OciDiscovery StableSelections

section DataSets

/-- The status of a source. -/
inductive OciSourceStatus where
  | success | partial_ | failed
deriving DecidableEq, Repr

/-- A discovery that returns is complete or partial. -/
def discoveryStatus : OciDiscoveryStatus → OciSourceStatus
  | .success => .success
  | .partial_ => .partial_

/-- A discovery with the time of its completion. -/
structure CompletedDiscovery extends OciDiscoveryResult where
  completedAt : Instant

structure OciCloudAdvisorIssue where
  category : String
  source : String
  operation : String
  message : String
  compartmentId : Option String
  region : Option String
  fatal : Bool
deriving DecidableEq, Repr

/-- A recommendation of the service: its identifier, and the fields that no correlation
reads. -/
structure OciNativeRecommendation where
  recommendationId : String
  details : Metadata
deriving DecidableEq, Repr

structure OciNativeResourceAction where
  resourceActionId : String
  recommendationId : Option String
  resourceId : Option String
  resourceType : Option String
  details : Metadata
deriving DecidableEq, Repr

structure OciCloudAdvisorResult where
  status : OciSourceStatus
  recommendations : List OciNativeRecommendation
  resourceActions : List OciNativeResourceAction
  warnings : List OciCloudAdvisorIssue
  errors : List OciCloudAdvisorIssue
  coverage : List (String × Bool)
  completedAt : Instant

structure OciUsageIssue where
  category : String
  source : String
  operation : String
  message : String
  fatal : Bool
deriving DecidableEq, Repr

/-- A line of the usage report. Its details hold the other fields, and the amounts as
they are written. -/
structure OciUsageRecord where
  resourceId : Option String
  actualCost : Option ℚ
  currency : Option String
  source : String
  details : Metadata
deriving DecidableEq, Repr

structure OciUsageResult where
  status : OciSourceStatus
  periodStart : Instant
  periodEnd : Instant
  records : List OciUsageRecord
  skuUsageRecords : List OciUsageRecord
  warnings : List OciUsageIssue
  errors : List OciUsageIssue
  coverage : List (String × Bool)
  completedAt : Instant

structure OciMonitoringIssue where
  category : String
  source : String
  operation : String
  message : String
  region : Option String
  compartmentId : Option String
  metricName : Option String
  fatal : Bool
deriving DecidableEq, Repr

structure OciMetricSeries where
  metricNamespace : String
  metricName : String
  resourceId : Option String
  region : String
  compartmentId : String
  statistic : String
  details : Metadata
deriving DecidableEq, Repr

structure OciResourceMetrics where
  resourceId : String
  details : Metadata
deriving DecidableEq, Repr

structure OciMonitoringResult where
  status : OciSourceStatus
  periodStart : Instant
  periodEnd : Instant
  interval : String
  series : List OciMetricSeries
  resources : List OciResourceMetrics
  orphanSeries : List OciMetricSeries
  warnings : List OciMonitoringIssue
  errors : List OciMonitoringIssue
  coverage : List (String × Bool)
  completedAt : Instant

/-- The four data sets of a collection. -/
structure OciDatasets where
  discovery : CompletedDiscovery
  advisor : OciCloudAdvisorResult
  usage : OciUsageResult
  monitoring : OciMonitoringResult

end DataSets

section Results

structure OciCorrelationWarning where
  category : String
  message : String
  resourceId : Option String
  source : Option String
deriving DecidableEq, Repr

structure OciResourceRecommendationLink where
  action : OciNativeResourceAction
  recommendation : Option OciNativeRecommendation
deriving DecidableEq, Repr

structure OciResourceUsageContext where
  records : List OciUsageRecord
  skuUsageRecords : List OciUsageRecord
  totalsByCurrency : List (String × ℚ)
  periodStart : Instant
  periodEnd : Instant

structure OciResourceMonitoringContext where
  summary : Option OciResourceMetrics
  series : List OciMetricSeries
  periodStart : Instant
  periodEnd : Instant
  interval : String

structure OciResourceAnalysisContext where
  resourceId : String
  inventory : Option OciDiscoveredResource
  relationships : List OciResourceRelationship
  nativeRecommendations : List OciResourceRecommendationLink
  usage : OciResourceUsageContext
  monitoring : OciResourceMonitoringContext
  coverage : List (String × String)
  inventoryCoverage : List (String × String)
  relationshipCoverage : List (String × String)
  provenance : List (String × List String)
  warnings : List OciCorrelationWarning

structure OciAccountAnalysisContext where
  recommendations : List OciNativeRecommendation
  resourceActionsWithoutResourceId : List OciNativeResourceAction
  usageRecordsWithoutResourceId : List OciUsageRecord
  skuUsageRecordsWithoutResourceId : List OciUsageRecord
  metricSeriesWithoutResourceId : List OciMetricSeries

structure OciCorrelationSourceCoverage where
  status : OciSourceStatus
  coverage : List (String × Bool)
  warningCount : ℕ
  errorCount : ℕ

/-- An issue of one of the four sources. -/
inductive OciSourceIssue where
  | discovery (issue : OciDiscoveryIssue)
  | advisor (issue : OciCloudAdvisorIssue)
  | usage (issue : OciUsageIssue)
  | monitoring (issue : OciMonitoringIssue)
deriving DecidableEq, Repr

@[ext]
structure OciCorrelationResult where
  status : OciSourceStatus
  resourceContexts : List OciResourceAnalysisContext
  accountContext : OciAccountAnalysisContext
  unmatchedResourceIdsBySource : List (String × List String)
  coverage : List (String × OciCorrelationSourceCoverage)
  sourceWarnings : List (String × List OciSourceIssue)
  sourceErrors : List (String × List OciSourceIssue)
  warnings : List OciCorrelationWarning
  timeAlignment : String
  sourceFreshness : List (String × Instant)

end Results

/-- `_stable_token`: the JSON text of a value, of which nothing is assumed here. -/
class StableTokens where
  recommendation : OciNativeRecommendation → String
  action : OciNativeResourceAction → String
  usageRecord : OciUsageRecord → String
  series : OciMetricSeries → String
  metrics : OciResourceMetrics → String
  relationship : OciResourceRelationship → String
  warning : OciCorrelationWarning → String
  issue : OciSourceIssue → String

/-- Tokens that show the identifier of a row, for evaluation at concrete inputs. -/
abbrev plainTokens : StableTokens where
  recommendation item := item.recommendationId
  action action := action.resourceActionId
  usageRecord record := orEmpty record.resourceId
  series series := orEmpty series.resourceId
  metrics item := item.resourceId
  relationship relationship := relationship.sourceId
  warning warning := orEmpty warning.resourceId
  issue _ := ""

/-- An identifier that tests true. -/
def given (text : String) : Option String := if text = "" then none else some text

/-- `_totals_by_currency`: the entries of the loop. -/
def addCost (totals : List (String × ℚ)) (record : OciUsageRecord) : List (String × ℚ) :=
  match record.actualCost, record.currency with
  | some cost, some currency =>
    setKey currency (DecimalArithmetic.add ((totals.lookup currency).getD 0) cost) totals
  | _, _ => totals

def totalsByCurrency (records : List OciUsageRecord) : List (String × ℚ) :=
  sortByKey Prod.fst (records.foldl addCost [])

/-- `_time_alignment` -/
def timeAlignment (usage : OciUsageResult) (monitoring : OciMonitoringResult) : String :=
  if usage.periodStart = monitoring.periodStart ∧ usage.periodEnd = monitoring.periodEnd then
    "exact"
  else if usage.periodStart < monitoring.periodEnd ∧
      monitoring.periodStart < usage.periodEnd then "overlapping"
  else "disjoint"

/-- `_context_source_status` -/
def contextSourceStatus : OciSourceStatus → String
  | .success => "complete"
  | .partial_ => "partial"
  | .failed => "unavailable"

/-- `_relationship_coverage` -/
def relationshipCoverage (discovery : OciDiscoveryResult) : List (String × String) :=
  [("volume_attachment", OciAnalyzers.attachmentStatus discovery "block_volume"),
    ("boot_volume_attachment", OciAnalyzers.attachmentStatus discovery "boot_volume"),
    ("public_ip_assignment", if (discovery.countsByType.lookup "public_ip").join.isSome then
      "complete" else "incomplete")]

/-- A type as its context reports it: `count is not None`. -/
def typeCoverage (discovery : OciDiscoveryResult) : List (String × String) :=
  (sortByKey Prod.fst discovery.countsByType).map fun entry =>
    (entry.1, if entry.2.isSome then "complete" else "incomplete")

section Joins

variable [StableTokens] (data : OciDatasets)

def recommendations : List OciNativeRecommendation :=
  stableUniqueById (fun item => given item.recommendationId) StableTokens.recommendation
    data.advisor.recommendations

def recommendationsById : List (String × OciNativeRecommendation) :=
  update [] ((recommendations data).filterMap fun item =>
    (given item.recommendationId).map (·, item))

def actions : List OciNativeResourceAction :=
  stableUniqueById (fun item => given item.resourceActionId) StableTokens.action
    data.advisor.resourceActions

/-- The resource that a row names. -/
def OciNativeResourceAction.resource (action : OciNativeResourceAction) : Option String :=
  action.resourceId.bind given

def OciUsageRecord.resource (record : OciUsageRecord) : Option String :=
  record.resourceId.bind given

def OciMetricSeries.resource (series : OciMetricSeries) : Option String :=
  series.resourceId.bind given

def actionsByResource : List (String × List OciNativeResourceAction) :=
  filedBy OciNativeResourceAction.resource (actions data)

def recommendationIdsWithResourceAction : List String :=
  ((actions data).filter fun action => action.resource.isSome).filterMap
    fun action => action.recommendationId.bind given

def usageRecords : List OciUsageRecord :=
  stableUnique StableTokens.usageRecord data.usage.records

def skuUsageRecords : List OciUsageRecord :=
  stableUnique StableTokens.usageRecord data.usage.skuUsageRecords

def usageByResource : List (String × List OciUsageRecord) :=
  filedBy OciUsageRecord.resource (usageRecords data)

def skuUsageByResource : List (String × List OciUsageRecord) :=
  filedBy OciUsageRecord.resource (skuUsageRecords data)

def metricSummaries : List OciResourceMetrics :=
  stableUniqueById (fun item => given item.resourceId) StableTokens.metrics
    data.monitoring.resources

def metricsByResource : List (String × OciResourceMetrics) :=
  update [] ((metricSummaries data).filterMap fun item => (given item.resourceId).map (·, item))

def allSeries : List OciMetricSeries :=
  stableUnique StableTokens.series (data.monitoring.series ++ data.monitoring.orphanSeries)

def seriesByResource : List (String × List OciMetricSeries) :=
  filedBy OciMetricSeries.resource (allSeries data)

/-- The relationships filed under both of their ends. -/
def relationshipsOf (resourceId : String) : List OciResourceRelationship :=
  (stableUnique StableTokens.relationship data.discovery.relationships).filter fun relationship =>
    relationship.sourceId = resourceId ∨ relationship.targetId = resourceId

def inventoryById : List (String × OciDiscoveredResource) :=
  OciCreditedVolumes.inventoryById data.discovery.toOciDiscoveryResult

def inventoryIds : List String := (inventoryById data).map Prod.fst

/-- The resources that some source names. -/
def allResourceIds : List String :=
  sortByKey id (inventoryIds data ++ (actionsByResource data).map Prod.fst ++
    (usageByResource data).map Prod.fst ++ (skuUsageByResource data).map Prod.fst ++
    (metricsByResource data).map Prod.fst ++ (seriesByResource data).map Prod.fst).eraseDups

end Joins

section Contexts

variable [StableTokens] (data : OciDatasets)

/-- The actions on a resource with their recommendations. -/
def linksOf (resourceId : String) : List OciResourceRecommendationLink :=
  (sortByKey (fun action : OciNativeResourceAction =>
      toLex (action.resourceActionId, StableTokens.action action))
    (((actionsByResource data).lookup resourceId).getD [])).map fun action =>
      ⟨action, (recommendationsById data).lookup (action.recommendationId.getD "")⟩

def usageOf (resourceId : String) : List OciUsageRecord :=
  ((usageByResource data).lookup resourceId).getD []

def skuUsageOf (resourceId : String) : List OciUsageRecord :=
  ((skuUsageByResource data).lookup resourceId).getD []

/-- The order of the series of a resource. -/
def seriesRank (series : OciMetricSeries) :
    String ×ₗ String ×ₗ String ×ₗ String ×ₗ String :=
  toLex (series.metricName, toLex (series.statistic, toLex (series.region,
    toLex (series.compartmentId, StableTokens.series series))))

def seriesOf (resourceId : String) : List OciMetricSeries :=
  sortByKey seriesRank (((seriesByResource data).lookup resourceId).getD [])

/-- Advisor and inventory that report different types. -/
def warningsOf (resourceId : String) : List OciCorrelationWarning :=
  stableUnique StableTokens.warning
    (match (inventoryById data).lookup resourceId with
    | none => []
    | some inventory =>
      ((linksOf data resourceId).filter fun link =>
        truthy link.action.resourceType &&
          link.action.resourceType != some inventory.resourceType).map fun _ =>
        { category := "resource_type_conflict"
          message := "Inventory and Cloud Advisor report different resource types; " ++
            "both values were preserved"
          resourceId := some resourceId
          source := some "cloud_advisor" })

/-- Distinct texts in ascending order. -/
def sortedSet (texts : List String) : List String := sortByKey id texts.eraseDups

def provenanceOf (resourceId : String) : List (String × List String) :=
  let records := usageOf data resourceId ++ skuUsageOf data resourceId
  let namespaces := (seriesOf data resourceId).map (·.metricNamespace) |>.filter (· ≠ "")
  (match (inventoryById data).lookup resourceId with
    | some inventory => [("inventory", sortedSet inventory.sources)]
    | none => []) ++
  (if (linksOf data resourceId).isEmpty then [] else [("advisor", ["oci_cloud_advisor"])]) ++
  (if records.isEmpty then []
    else [("usage", sortedSet ((records.map (·.source)).filter (· ≠ "")))]) ++
  (if (seriesOf data resourceId).isEmpty ∧ resourceId ∉ (metricsByResource data).map Prod.fst then
      []
    else [("monitoring",
      sortedSet (if namespaces.isEmpty then ["oci_monitoring"] else namespaces))])

/-- The context of a resource. -/
def resourceContext (resourceId : String) : OciResourceAnalysisContext where
  resourceId := resourceId
  inventory := (inventoryById data).lookup resourceId
  relationships := sortByKey relationshipRank (relationshipsOf data resourceId)
  nativeRecommendations := linksOf data resourceId
  usage :=
    { records := usageOf data resourceId
      skuUsageRecords := skuUsageOf data resourceId
      totalsByCurrency := totalsByCurrency (usageOf data resourceId)
      periodStart := data.usage.periodStart
      periodEnd := data.usage.periodEnd }
  monitoring :=
    { summary := (metricsByResource data).lookup resourceId
      series := seriesOf data resourceId
      periodStart := data.monitoring.periodStart
      periodEnd := data.monitoring.periodEnd
      interval := data.monitoring.interval }
  coverage :=
    [("inventory", contextSourceStatus (discoveryStatus data.discovery.status)),
      ("advisor", contextSourceStatus data.advisor.status),
      ("usage", contextSourceStatus data.usage.status),
      ("monitoring", contextSourceStatus data.monitoring.status)]
  inventoryCoverage := typeCoverage data.discovery.toOciDiscoveryResult
  relationshipCoverage := relationshipCoverage data.discovery.toOciDiscoveryResult
  provenance := provenanceOf data resourceId
  warnings := warningsOf data resourceId

/-- What names no resource, and the recommendations without an action on one. -/
def accountContext : OciAccountAnalysisContext where
  recommendations := (recommendations data).filter fun item =>
    item.recommendationId ∉ recommendationIdsWithResourceAction data
  resourceActionsWithoutResourceId :=
    (actions data).filter fun action => action.resource.isNone
  usageRecordsWithoutResourceId :=
    (usageRecords data).filter fun record => record.resource.isNone
  skuUsageRecordsWithoutResourceId :=
    (skuUsageRecords data).filter fun record => record.resource.isNone
  metricSeriesWithoutResourceId :=
    (allSeries data).filter fun series => series.resource.isNone

/-- The named resources that the inventory does not know. -/
def unmatched (ids : List String) : List String :=
  sortedSet (ids.filter fun id => id ∉ inventoryIds data)

/-- `status` of the four sources together. -/
def combinedStatus (statuses : List OciSourceStatus) : OciSourceStatus :=
  if statuses.all (· = .success) then .success
  else if statuses.all (· = .failed) then .failed
  else .partial_

/-- `correlate_oci_datasets` -/
def correlateOciDatasets : OciCorrelationResult where
  status := combinedStatus [discoveryStatus data.discovery.status, data.advisor.status,
    data.usage.status, data.monitoring.status]
  resourceContexts := (allResourceIds data).map (resourceContext data)
  accountContext := accountContext data
  unmatchedResourceIdsBySource :=
    [("advisor", unmatched data ((actionsByResource data).map Prod.fst)),
      ("usage", unmatched data
        ((usageByResource data).map Prod.fst ++ (skuUsageByResource data).map Prod.fst)),
      ("monitoring", unmatched data
        ((metricsByResource data).map Prod.fst ++ (seriesByResource data).map Prod.fst))]
  coverage :=
    [("inventory", ⟨discoveryStatus data.discovery.status,
        (sortByKey Prod.fst data.discovery.countsByType).map fun entry =>
          (entry.1, entry.2.isSome),
        data.discovery.warnings.length, data.discovery.errors.length⟩),
      ("advisor", ⟨data.advisor.status, sortByKey Prod.fst data.advisor.coverage,
        data.advisor.warnings.length, data.advisor.errors.length⟩),
      ("usage", ⟨data.usage.status, sortByKey Prod.fst data.usage.coverage,
        data.usage.warnings.length, data.usage.errors.length⟩),
      ("monitoring", ⟨data.monitoring.status, sortByKey Prod.fst data.monitoring.coverage,
        data.monitoring.warnings.length, data.monitoring.errors.length⟩)]
  sourceWarnings :=
    [("inventory", sortByKey StableTokens.issue (data.discovery.warnings.map .discovery)),
      ("advisor", sortByKey StableTokens.issue (data.advisor.warnings.map .advisor)),
      ("usage", sortByKey StableTokens.issue (data.usage.warnings.map .usage)),
      ("monitoring", sortByKey StableTokens.issue (data.monitoring.warnings.map .monitoring))]
  sourceErrors :=
    [("inventory", sortByKey StableTokens.issue (data.discovery.errors.map .discovery)),
      ("advisor", sortByKey StableTokens.issue (data.advisor.errors.map .advisor)),
      ("usage", sortByKey StableTokens.issue (data.usage.errors.map .usage)),
      ("monitoring", sortByKey StableTokens.issue (data.monitoring.errors.map .monitoring))]
  warnings := stableUnique StableTokens.warning
    ((allResourceIds data).flatMap (warningsOf data))
  timeAlignment := timeAlignment data.usage data.monitoring
  sourceFreshness :=
    [("inventory", data.discovery.completedAt), ("advisor", data.advisor.completedAt),
      ("usage", data.usage.completedAt), ("monitoring", data.monitoring.completedAt)]

end Contexts

end FinopsAnalytics.OciCorrelation
