import FinopsAnalytics.OciInventoryAdapter
import FinopsAnalytics.OpportunityPresence

/-!
# Collections of an OCI account

A claimed scan fixes the regions of its run, the execution reads the
configuration of the account once more, and after the cloud calls one
transaction stores the inventory and the opportunities. The configuration may be
edited between any two of these transactions.
-/

namespace FinopsAnalytics.OciCollections

open PythonText OpportunityRecords OpportunityCollection OpportunityReconciliation Dictionaries
  OpportunityFingerprint
  DistinctKeys Fallible UniqueTables TransactionHistories
open OciDiscovery OciAnalyzers OciInventoryAdapter InventoryPersistence

/-- The scope columns of `oci_account_configurations`. -/
structure OciAccountConfiguration where
  region : String
  scopeRegions : List String
  compartmentOcids : List String
  includeRootCompartment : Bool
  includeSubcompartments : Bool
deriving DecidableEq, Repr

/-- The scope column of a run. -/
structure CollectionScope where
  regions : List String
  compartments : List String
  includeRootCompartment : Bool
  includeSubcompartments : Bool
deriving DecidableEq, Repr

/-- `OciCollectionExecutor.prepare` -/
def prepare (configuration : OciAccountConfiguration) : CollectionScope where
  regions := sortByKey id (if configuration.scopeRegions.isEmpty then [configuration.region]
    else configuration.scopeRegions).eraseDups
  compartments := sortByKey id configuration.compartmentOcids.eraseDups
  includeRootCompartment := configuration.includeRootCompartment
  includeSubcompartments := configuration.includeSubcompartments

/-- `snapshot_from_configuration`, without the credentials. -/
def snapshotFromConfiguration (account : CloudAccount) (configuration : OciAccountConfiguration) :
    OciConnectionSnapshot where
  tenancyOcid := account.nativeAccountId
  scopeRegions := configuration.scopeRegions
  compartmentOcids := configuration.compartmentOcids
  includeRootCompartment := configuration.includeRootCompartment
  includeSubcompartments := configuration.includeSubcompartments

section ScopeRows

/-- `_regions` -/
def runRegions (scope : CollectionScope) : List String :=
  let rendered := sortByKey id ((scope.regions.filter (· ≠ "")).map
    fun region => scopeRegion (some region)).eraseDups
  if rendered.isEmpty then ["global"] else rendered

/-- `_observed_services`: the service of the findings of a rule in a region, where
it is only one. -/
def observedService (findings : List CollectedFinding) (ruleKey region : String) : Option String :=
  match ((findings.filter fun found => found.ruleKey = ruleKey ∧
      scopeRegion found.region = region).map CollectedFinding.service).eraseDups with
  | [service] => some service
  | _ => none

/-- What an execution returns. -/
structure CollectionExecutionResult where
  findings : List CollectedFinding
  activeRuleKeys : List String
  collectorErrors : List OciDiscoveryIssue
  resourcesAnalyzed : ℕ

/-- `_oci_scope_rows` -/
def ociScopeRows (run : CollectionRun) (scope : CollectionScope)
    (result : CollectionExecutionResult) (finishedAt : Instant) : List ScopeCandidate :=
  (sortByKey id result.activeRuleKeys.eraseDups).flatMap fun ruleKey =>
    (runRegions scope).map fun region =>
      { provider := run.provider
        accountId := run.accountId
        region
        service := observedService result.findings ruleKey region
        ruleKey
        status := if result.collectorErrors.isEmpty then .success else .skipped
        startedAt := run.startedAt
        finishedAt
        resourcesExamined :=
          if result.collectorErrors.isEmpty then some result.resourcesAnalyzed else none
        errorDetail := if result.collectorErrors.isEmpty then none
          else some "OCI partial coverage; absence reconciliation skipped" }

end ScopeRows

/-- The answers to the cloud calls of one execution: those of the discovery, and
the issues of the advisor, the usage and the monitoring services. -/
structure OciAnswers where
  services : OciServices
  fuel : ℕ
  otherIssues : List OciDiscoveryIssue

/-- The stored configuration, the scope of each run, the configuration that each
execution read, the inventory and the opportunities. -/
structure OciSystem where
  configuration : OciAccountConfiguration
  scopes : List (String × CollectionScope)
  snapshots : List (String × OciConnectionSnapshot)
  inventory : InventoryStore
  opportunities : Store

/-- The values of the persistence transaction that no call of the cloud gives. -/
structure Persistence where
  scanId : String
  observedAt : Instant
  completedAt : Instant
  missingThreshold : ℕ

inductive OciOperation where
  | updateScope (configuration : OciAccountConfiguration)
  | claimScan (startedAt : Instant)
  | readConfiguration (runId : String)
  | persistCollection (runId : String) (answers : OciAnswers) (persistence : Persistence)
  | failScan (runId : String) (finishedAt : Instant)

section Step

variable [CaseMapping] [TextLiteral] [OciReporting] [MetadataGuard] [Digest] [UuidSource]
  [SystemClock]

/-- `OciCollectionExecutor.execute` after the discovery, with the resources and
the coverage for the inventory. -/
def executionResult (discovery : OciDiscoveryResult) (otherIssues : List OciDiscoveryIssue)
    (resources : List DiscoveredInventoryResource) : CollectionExecutionResult where
  findings := analyze discovery
  activeRuleKeys := ruleKeys
  collectorErrors := discovery.warnings ++ discovery.errors ++ otherIssues
  resourcesAnalyzed := (resources.map fun resource =>
    (resource.provider, resource.resourceType, resource.resourceId)).eraseDups.length

/-- The run of an execution that is under way. -/
def runningRun (account : CloudAccount) (store : Store) (runId : String) :
    Except ServiceError CollectionRun := do
  let run ← OpportunityPresence.findRun store runId
  if run.status ≠ .running then throw (.runtime "Scan is not running")
  if run.provider ≠ account.provider ∨ run.accountId ≠ account.nativeAccountId then
    throw (.runtime "CollectionRun identity does not match the scan CloudAccount")
  return run

omit [CaseMapping] [TextLiteral] [OciReporting] [MetadataGuard] [Digest] [UuidSource]
  [SystemClock] in
theorem runningRun_eq_ok {account : CloudAccount} {store : Store} {runId : String}
    {run : CollectionRun}
    (found : runningRun account store runId = .ok run) :
    store.collectionRuns.find? runId = some run ∧ run.status = .running ∧
      run.provider = account.provider ∧ run.accountId = account.nativeAccountId := by
  obtain ⟨known, knownOk, rest⟩ := bind_eq_ok.mp found
  by_cases running : known.status = .running
  · by_cases same : known.provider = account.provider ∧ known.accountId = account.nativeAccountId
    · simp [running, same, pure, Except.pure] at rest
      subst rest
      exact ⟨OpportunityPresence.findRun_eq_ok.mp knownOk, running, same⟩
    · have other : known.provider ≠ account.provider ∨ known.accountId ≠ account.nativeAccountId :=
        Classical.or_iff_not_imp_left.mpr fun provider owner =>
          same ⟨not_not.mp provider, owner⟩
      simp [running, other, throw, throwThe, MonadExceptOf.throw, bind, Except.bind] at rest
  · simp [running, throw, throwThe, MonadExceptOf.throw, bind, Except.bind] at rest

/-- The discovery of an execution, with the configuration that it read. -/
def discoveryOf (system : OciSystem) (runId : String) (answers : OciAnswers) :
    Option OciDiscoveryResult :=
  (system.snapshots.lookup runId).bind fun snapshot =>
    (discover answers.services snapshot answers.fuel).toOption.join

/-- One transaction. A collection whose discovery failed or has not returned
persists nothing. -/
def step (account : CloudAccount) : OciOperation → OciSystem → Except ServiceError OciSystem
  | .updateScope configuration, system => .ok { system with configuration }
  | .claimScan startedAt, system => do
    let runId := system.opportunities.draw.1
    let opportunities ← OpportunityPresence.step
      (.beginRun account.provider account.nativeAccountId startedAt) system.opportunities
    return { system with
      opportunities, scopes := setKey runId (prepare system.configuration) system.scopes }
  | .readConfiguration runId, system => do
    let run ← runningRun account system.opportunities runId
    return { system with
      snapshots := setKey run.id (snapshotFromConfiguration account system.configuration)
        system.snapshots }
  | .persistCollection runId answers persistence, system => do
    let run ← runningRun account system.opportunities runId
    match discoveryOf system runId answers, system.scopes.lookup runId with
    | some discovery, some scope =>
      let (resources, coverage) ← adaptOciInventory account.id discovery
      let inventory ← persistInventoryDiscovery system.inventory account
        ⟨run, resources, coverage.map AdaptedCoverage.toInventoryCoverage⟩
      let result := executionResult discovery answers.otherIssues resources
      let opportunities ← OpportunityPresence.persistScan system.opportunities
        persistence.scanId runId result.findings persistence.observedAt
        (ociScopeRows run scope result persistence.completedAt) persistence.missingThreshold
        persistence.completedAt
      return { system with inventory, opportunities }
    | _, _ => throw (.runtime "OCI Discovery failed")
  | .failScan runId finishedAt, system => do
    let opportunities ← OpportunityPresence.step (.finishRun runId .failed finishedAt)
      system.opportunities
    return { system with opportunities }

end Step

end FinopsAnalytics.OciCollections
