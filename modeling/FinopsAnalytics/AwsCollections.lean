import FinopsAnalytics.CollectionErrors
import FinopsAnalytics.OciCollections

/-!
# Collections of an AWS account

A claimed scan records the regions of its run. The execution reads the regions and
the policies of the account, calls the collector of every enabled rule in every
region and keeps the errors that the provider answers as text. The persistence
transaction reads the policies once more and builds the scope rows from the regions
of the run, the rules and the texts of the errors. Regions and policies may be
edited between any two of these transactions.
-/

namespace FinopsAnalytics.AwsCollections

open PythonText OpportunityRecords OpportunityCollection OpportunityReconciliation Dictionaries
  OpportunityFingerprint DistinctKeys Fallible UniqueTables TransactionHistories
open CollectionErrors InventoryPersistence
open OciCollections (Persistence observedService runningRun)

/-- The keys of `RULES`. Every rule is implemented, enabled by default and has a
collector. -/
def rules : List String :=
  ["ebs_unattached", "eip_unassociated", "snapshot_retention", "ec2_stopped_with_ebs",
    "ec2_nonprod_outside_hours", "load_balancer_no_traffic", "rds_nonprod_idle",
    "missing_required_tags", "cost_growth_anomaly"]

/-- The set `GLOBAL_COLLECTORS`. -/
def globalCollectors : List String := ["cost_growth_anomaly"]

/-- A row of `policies`: of the global scope, or of an account. -/
structure PolicyRow where
  ruleKey : String
  accountId : Option ℤ
  enabled : Option Bool
deriving DecidableEq, Repr

/-- The switch of a policy row, where there is one that sets it. -/
def policySwitch (policies : List PolicyRow) (ruleKey : String) (accountId : Option ℤ) :
    Option Bool :=
  (policies.find? fun row => row.ruleKey = ruleKey && row.accountId = accountId).bind
    PolicyRow.enabled

/-- The rules of `list_effective_policies` that are enabled. -/
def enabledRules (policies : List PolicyRow) (accountId : ℤ) : List String :=
  rules.filter fun ruleKey =>
    (policySwitch policies ruleKey (some accountId)).getD
      ((policySwitch policies ruleKey none).getD true)

theorem enabledRules_known (policies : List PolicyRow) (accountId : ℤ) :
    enabledRules policies accountId ⊆ rules :=
  fun _ member => List.mem_of_mem_filter member

/-- `unique_regions`: the regions as they are stored. -/
def uniqueRegions (regions : List String) : List String :=
  ((regions.map strip).filter (· ≠ "")).eraseDups

section Collectors

/-- What the provider answers to a collector: findings, one of its own errors, or
something that raises another exception. -/
inductive CollectorAnswer where
  | collected (findings : List CollectedFinding)
  | providerError (message : String)
  | raised (message : String)

/-- What `run_collectors` has gathered. -/
structure Gathered where
  findings : List CollectedFinding
  errors : List String
  failedRuleKeys : List String

/-- The calls of `run_collectors`, in their order. -/
def collectorCalls (regions ruleKeys : List String) : List (String × String) :=
  ruleKeys.flatMap fun ruleKey =>
    (if ruleKey ∈ globalCollectors then ["global"] else regions).map fun region =>
      (ruleKey, region)

/-- The text of a collector's error. -/
def errorText (ruleKey region message : String) : String :=
  ruleKey ++ "@" ++ region ++ ": " ++ message

/-- One call. -/
def collect (answers : String → String → CollectorAnswer) (gathered : Gathered)
    (call : String × String) : Except ServiceError Gathered :=
  match answers call.1 call.2 with
  | .collected findings => .ok { gathered with findings := gathered.findings ++ findings }
  | .providerError message => .ok { gathered with
      errors := gathered.errors ++ [errorText call.1 call.2 message]
      failedRuleKeys := gathered.failedRuleKeys ++ [call.1] }
  | .raised message => .error (.runtime message)

/-- `run_collectors` -/
def runCollectors (answers : String → String → CollectorAnswer) (regions ruleKeys : List String) :
    Except ServiceError Gathered :=
  (collectorCalls regions ruleKeys).foldlM (collect answers) ⟨[], [], []⟩

end Collectors

section ScopeRows

/-- An error of a collection: the text of a collector, or an issue of the inventory,
of which the fields are printed. -/
inductive CollectorError where
  | collector (text : String)
  | inventory (fields : String)

def CollectorError.value : CollectorError → ErrorValue
  | .collector text => .text text
  | .inventory fields =>
    .raised "InventoryDiscoveryIssue" ("InventoryDiscoveryIssue(" ++ fields ++ ")")

/-- What an execution returns. -/
structure CollectionExecutionResult where
  findings : List CollectedFinding
  activeRuleKeys : List String
  collectorErrors : List CollectorError
  resourcesAnalyzed : ℕ

/-- `_regions` of the regions that a run has recorded. -/
def runRegions (regions : List String) : List String :=
  let rendered := sortByKey id ((regions.filter (· ≠ "")).map
    fun region => scopeRegion (some region)).eraseDups
  if rendered.isEmpty then ["global"] else rendered

/-- The rule and the region that `_aws_error_scopes` reads off an error: what stands
before the first colon, split at its last at sign. -/
def errorScope (text : String) : Option (String × String) :=
  let chars := text.toList
  let head := String.ofList (chars.takeWhile (· ≠ ':'))
  let (ruleKey, region) := rsplitLast '@' head
  if ':' ∈ chars ∧ '@' ∈ head.toList ∧ ruleKey ≠ "" ∧ region ≠ "" then
    some (ruleKey, scopeRegion (some region))
  else none

/-- The failed scopes of `_aws_error_scopes`. -/
def failedScopes (errors : List CollectorError) : List (String × String) :=
  errors.filterMap fun error => errorScope error.value.message

/-- The details of `_aws_error_scopes`: the last error of a scope counts. The fixed
messages are shorter than the cut at 4000 characters. -/
def errorDetail (errors : List CollectorError) (scope : String × String) : Option String :=
  (errors.reverse.find? fun error => errorScope error.value.message = some scope).map fun error =>
    (sanitizeCollectionError error.value).getD "Collector scope failed"

/-- The scope under which the errors of a collector are looked up. -/
def collectorScope (ruleKey region : String) : String × String :=
  (ruleKey, if ruleKey ∈ globalCollectors then "global" else region)

/-- The status of a rule in a region. -/
def scopeStatus (result : CollectionExecutionResult) (ruleKey region : String) :
    CollectionScopeExecutionStatus :=
  let failed := failedScopes result.collectorErrors
  if collectorScope ruleKey region ∈ failed then .failed
  else if ruleKey ∈ result.activeRuleKeys ∨ ruleKey ∈ failed.map Prod.fst then .success
  else .skipped

/-- The regions of a rule's scope rows. -/
def ruleRegions (regions : List String) (ruleKey : String) : List String :=
  if ruleKey ∈ globalCollectors then [allRegionsScope] else runRegions regions

/-- `_aws_scope_rows` -/
def awsScopeRows (run : CollectionRun) (regions configuredRuleKeys : List String)
    (result : CollectionExecutionResult) (finishedAt : Instant) : List ScopeCandidate :=
  (sortByKey id configuredRuleKeys.eraseDups).flatMap fun ruleKey =>
    (ruleRegions regions ruleKey).map fun region =>
      { provider := run.provider
        accountId := run.accountId
        region
        service := observedService result.findings ruleKey region
        ruleKey
        status := scopeStatus result ruleKey region
        startedAt := run.startedAt
        finishedAt
        resourcesExamined := none
        errorDetail := errorDetail result.collectorErrors (collectorScope ruleKey region) }

end ScopeRows

/-- What the provider answers to one execution. -/
structure AwsAnswers where
  collector : String → String → CollectorAnswer
  resources : List DiscoveredInventoryResource
  coverage : List InventoryCoverage
  inventoryIssues : List String

/-- What an execution has read of the configuration: the regions, and the rules that
are enabled. -/
structure Reading where
  regions : List String
  ruleKeys : List String
  known : ruleKeys ⊆ rules
deriving DecidableEq

/-- The stored regions and policies, the regions that each run has recorded, what
each execution has read, the inventory and the opportunities. -/
structure AwsSystem where
  regions : List String
  policies : List PolicyRow
  scopes : List (String × List String)
  readings : List (String × Reading)
  inventory : InventoryStore
  opportunities : Store

inductive AwsOperation where
  | updateRegions (regions : List String)
  | editPolicies (policies : List PolicyRow)
  | claimScan (startedAt : Instant)
  | readConfiguration (runId : String)
  | persistCollection (runId : String) (answers : AwsAnswers) (persistence : Persistence)
  | failScan (runId : String) (finishedAt : Instant)

/-- `AwsCollectionExecutor.execute` after the cloud calls. -/
def executionResult (reading : Reading) (answers : AwsAnswers) (gathered : Gathered) :
    CollectionExecutionResult where
  findings := gathered.findings
  activeRuleKeys := reading.ruleKeys.filter (· ∉ gathered.failedRuleKeys)
  collectorErrors := gathered.errors.map .collector ++ answers.inventoryIssues.map .inventory
  resourcesAnalyzed := (answers.resources.map fun resource =>
    (resource.provider, resource.resourceType, resource.resourceId)).eraseDups.length

section Step

variable [CaseMapping] [TextLiteral] [Digest] [UuidSource] [SystemClock]

/-- One transaction. A collection that has not read the configuration, or of which a
collector raised, persists nothing. -/
def step (account : CloudAccount) (awsAccountId : ℤ) :
    AwsOperation → AwsSystem → Except ServiceError AwsSystem
  | .updateRegions regions, system => .ok { system with regions := uniqueRegions regions }
  | .editPolicies policies, system => .ok { system with policies }
  | .claimScan startedAt, system => do
    let runId := system.opportunities.draw.1
    let opportunities ← OpportunityPresence.step
      (.beginRun account.provider account.nativeAccountId startedAt) system.opportunities
    return { system with
      opportunities, scopes := setKey runId (sortByKey id system.regions) system.scopes }
  | .readConfiguration runId, system => do
    let run ← runningRun account system.opportunities runId
    return { system with
      readings := setKey run.id ⟨system.regions, enabledRules system.policies awsAccountId,
        enabledRules_known ..⟩ system.readings }
  | .persistCollection runId answers persistence, system => do
    let run ← runningRun account system.opportunities runId
    match system.readings.lookup runId, system.scopes.lookup runId with
    | some reading, some regions =>
      let gathered ← runCollectors answers.collector reading.regions reading.ruleKeys
      let inventory ← persistInventoryDiscovery system.inventory account
        ⟨run, answers.resources, answers.coverage⟩
      let result := executionResult reading answers gathered
      let opportunities ← OpportunityPresence.persistScan system.opportunities
        persistence.scanId runId result.findings persistence.observedAt
        (awsScopeRows run regions (enabledRules system.policies awsAccountId) result
          persistence.completedAt) persistence.missingThreshold persistence.completedAt
      return { system with inventory, opportunities }
    | _, _ => throw (.runtime "AWS collection was not executed")
  | .failScan runId finishedAt, system => do
    let opportunities ← OpportunityPresence.step (.finishRun runId .failed finishedAt)
      system.opportunities
    return { system with opportunities }

end Step

end FinopsAnalytics.AwsCollections
