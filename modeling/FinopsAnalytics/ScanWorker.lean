import FinopsAnalytics.ScanExecution

/-!
# The worker's statements

`process_once` after its claim, statement by statement. A group of statements that
only reads or writes in the open transaction is one statement here: interrupted, it may
leave any part of its work behind. A commit whose answer is lost is interrupted at the
statement after it, and a call of the provider that fails is interrupted there.
-/

namespace FinopsAnalytics.ScanWorker

open PythonText UniqueTables OpportunityRecords OpportunityCollection OpportunityReconciliation
  OpportunityFingerprint DistinctKeys Dictionaries Fallible FaultySessions
open CollectionErrors InventoryPersistence ScanQueue ScanExecution
open AwsCollections (AwsAnswers PolicyRow)
open OciDiscovery (OciDiscoveryIssue)
open OciCollections (OciAnswers)
open OciInventoryAdapter (MetadataGuard AdaptedCoverage)
open OciAnalyzers (OciReporting)

/-- The statements of `process_once` after the claim, those of `execute_scan` and of
`fail_scan` among them. -/
inductive Statement where
  | readClaimed | logSkipped
  | logStarted | readScan | readConfiguration | commitConfiguration | callProvider
  | persistInventory | reload | persistFindings | persistScopes | reconcile | writeCompletion
  | commitCollection
  | logCollection | rebuildSummary | commitSummary | rollbackSummary | logSummaryFailure
  | readCompleted | logCompleted
  | logFailed | rollbackFailed | writeFailed | commitFailed
deriving DecidableEq, Repr

/-- What a collection is given: the answers of the provider, what other sessions commit
while it answers, the instants that are read off the clock and the threshold of the
settings. -/
structure Circumstances where
  aws : AwsAnswers
  oci : OciAnswers
  editedAccounts : List CollectionAccount → List CollectionAccount
  editedPolicies : List PolicyRow → List PolicyRow
  observedAt : Instant
  completedAt : Instant
  failedAt : Instant
  missingThreshold : ℕ

abbrev Worker (α : Type) := Code WorkerSystem Statement Exception α

abbrev Faults := Statement → Option (Fault WorkerSystem Exception)

/-- A statement that reads only. -/
def reading {α : Type} (body : WorkerSystem → Except Exception α) (system : WorkerSystem) :
    Except Exception (α × WorkerSystem) := do
  return (← body system, system)

/-- A statement that writes no table, such as one of the log. -/
def quiet (system : WorkerSystem) : Except Exception (PUnit × WorkerSystem) :=
  .ok (⟨⟩, system)

def refused {α : Type} (checked : Except Refusal α) : Except Exception α :=
  checked.mapError Exception.ofRefusal

/-- An exception of the preconditions. -/
def precondition (message : String) : Exception := .ofRefusal (.precondition message)

section Reading

variable [CaseMapping]

/-- The provider that `process_once` logs. -/
def claimedProvider (scan : Scan) (system : WorkerSystem) : String :=
  match system.account scan.cloudAccountId, system.runForScan scan.id with
  | some account, _ => account.provider
  | none, some (run, _) => run.provider
  | none, none => "unknown"

/-- `execute_scan` up to the call of the executor. -/
def readScan (scan : Scan) (system : WorkerSystem) :
    Except Exception (CollectionAccount × Executor × CollectionRun) := do
  if scan.status ≠ .running then throw (precondition "Scan is not running")
  match system.account scan.cloudAccountId with
  | none => throw (precondition "CloudAccount for scan does not exist")
  | some account =>
    if !account.enabled then throw (precondition "Cloud account is disabled")
    refused (requireProviderOperation account.provider (scanOperation scan))
    let executor ← refused (getCollectionExecutor account.provider)
    let _ ← refused (executor.prepare account (some scan))
    match system.runForScan scan.id with
    | none => throw (precondition "CollectionRun missing for claimed scan")
    | some (run, _) =>
      if run.provider ≠ account.provider ∨ run.accountId ≠ account.nativeAccountId then
        throw (precondition "CollectionRun identity does not match the scan CloudAccount")
      return (account, executor, run)

/-- `execute` of the executors up to the release of the transaction. -/
def readConfiguration (executor : Executor) (account : CollectionAccount) (scan : Scan)
    (system : WorkerSystem) : Except Exception ExecutionConfiguration :=
  match executor with
  | .aws => do
    let configuration ← refused (awsConfiguration account (some scan))
    refused (requireProviderOperation account.provider .finopsPolicies)
    return .aws ⟨configuration.regions,
      AwsCollections.enabledRules system.policies configuration.id,
      AwsCollections.enabledRules_known ..⟩
  | .oci => do
    let configuration ← refused (ociConfiguration account (some scan))
    let snapshot := OciCollections.snapshotFromConfiguration (cloudAccount account) configuration
    if snapshot.tenancyOcid ≠ account.nativeAccountId then
      throw (providerExecutionError "oci" (.raised "RuntimeError"
        "OCI credential tenancy does not match the CloudAccount identity") true)
    return .oci snapshot

end Reading

section Provider

variable [CaseMapping] [TextLiteral] [OciReporting] [MetadataGuard]

/-- `_fatal_connection_issue` -/
def fatalConnectionIssue (errors : List OciDiscoveryIssue) : Bool :=
  errors.any fun issue => issue.fatal &&
    ["credential", "authentication", "local_configuration", "sign"].any fun token =>
      contains (CaseMapping.lower issue.category) token ||
        contains (CaseMapping.lower issue.source) token

/-- The exception of a failed discovery. -/
def discoveryFailure (errors : List OciDiscoveryIssue) : Exception :=
  let message := (errors.head?.map OciDiscoveryIssue.message).getD "OCI Discovery failed"
  let fatal := fatalConnectionIssue errors
  providerExecutionError "oci"
    (.raised "RuntimeError" (if fatal then "OCI authentication failure: " ++ message else message))
    fatal

/-- The calls of the provider and what the executor makes of their answers. A discovery
that does not return is given up. -/
def callProvider (given : Circumstances) (account : CollectionAccount) (run : CollectionRun) :
    ExecutionConfiguration → Except Exception (ExecutionResult × Discovery)
  | .aws configuration => do
    let gathered ← (AwsCollections.runCollectors given.aws.collector configuration.regions
      configuration.ruleKeys).mapError fun raised =>
        providerExecutionError "aws" (Exception.ofService raised).value false
    return (.aws (AwsCollections.executionResult configuration given.aws gathered),
      ⟨run, given.aws.resources, given.aws.coverage⟩)
  | .oci snapshot =>
    match OciDiscovery.discover given.oci.services snapshot given.oci.fuel with
    | .error errors => .error (discoveryFailure errors)
    | .ok none => .error (discoveryFailure [])
    | .ok (some discovery) => do
      let (resources, coverage) ← (OciInventoryAdapter.adaptOciInventory account.id
        discovery).mapError fun _ => providerExecutionError "oci"
          (.raised "RuntimeError" "OCI collection pipeline failed") false
      return (.oci (OciCollections.executionResult discovery given.oci.otherIssues resources),
        ⟨run, resources, coverage.map AdaptedCoverage.toInventoryCoverage⟩)

/-- The name of the provider in the messages of its executor. -/
def Executor.label : Executor → String
  | .aws => "AWS"
  | .oci => "OCI"

def Executor.provider : Executor → String
  | .aws => "aws"
  | .oci => "oci"

/-- `_persist_inventory_discovery` of a run that exists -/
def persistInventory (executor : Executor) (account : CollectionAccount) (discovery : Discovery)
    (system : WorkerSystem) : Except Exception (PUnit × WorkerSystem) := do
  let inventory ← (persistInventoryDiscovery system.inventory (cloudAccount account)
    discovery).mapError fun _ => providerExecutionError (Executor.provider executor)
      (.raised "RuntimeError" (Executor.label executor ++ " Inventory persistence failed")) false
  return (⟨⟩, { system with inventory })

end Provider

section Persisting

/-- The rows that are read again after the calls of the provider. -/
structure Reloaded where
  scan : Scan
  run : CollectionRun
  columns : RunColumns
  account : CollectionAccount

/-- The reload of `execute_scan` after the calls of the provider. -/
def reload (scan : Scan) (run : CollectionRun) (account : CollectionAccount)
    (system : WorkerSystem) : Except Exception Reloaded := do
  match system.scans.find? scan.id, system.records.collectionRuns.find? run.id,
    system.runs.find? run.id, system.account account.id with
  | some scan, some run, some columns, some account =>
    if run.provider ≠ account.provider ∨ run.accountId ≠ account.nativeAccountId then
      throw (precondition "CloudAccount identity changed during provider execution")
    return { scan, run, columns, account }
  | _, _, _, _ => throw (precondition "Collection state was removed during provider execution")

variable [CaseMapping] [TextLiteral] [Digest] [UuidSource] [SystemClock]

/-- `persist_findings` of the run: the number of opportunities -/
def persistRunFindings (given : Circumstances) (rows : Reloaded) (result : ExecutionResult)
    (system : WorkerSystem) : Except Exception (ℕ × WorkerSystem) := do
  let (count, records) ← (persistFindings system.records rows.scan.id rows.run result.findings
    given.observedAt).mapError Exception.ofService
  return (count, { system with records })

/-- The scope rows of the run. -/
def persistRunScopes (given : Circumstances) (rows : Reloaded) (result : ExecutionResult)
    (system : WorkerSystem) :
    Except Exception (List CollectionScopeExecution × WorkerSystem) := do
  let (scopes, records) ← (persistCollectionScopeExecutions system.records rows.run
    (buildCollectionScopeExecutions system.policies rows.account rows.run rows.columns.scope result
      given.completedAt)).mapError Exception.ofService
  return (scopes, { system with records })

/-- The reconciliation of the run. -/
def reconcileRun (given : Circumstances) (rows : Reloaded)
    (scopes : List CollectionScopeExecution) (system : WorkerSystem) :
    Except Exception (PUnit × WorkerSystem) := do
  let (_, records) ← (reconcileOpportunityPresence system.records rows.run scopes
    given.missingThreshold).mapError Exception.ofService
  return (⟨⟩, { system with records })

/-- The scan of a committed collection. -/
def completedScan (given : Circumstances) (result : ExecutionResult) (count : ℕ) (scan : Scan) :
    Scan :=
  { scan with
    findingsCount := count
    status := completionStatus result
    completedAt := some given.completedAt
    error := completionError result }

def completedRun (given : Circumstances) (run : CollectionRun) : CollectionRun :=
  { run with status := .success, finishedAt := some given.completedAt }

def completedColumns (result : ExecutionResult) (count : ℕ) (columns : RunColumns) : RunColumns :=
  { columns with
    opportunitiesFound := count
    resourcesAnalyzed := result.resourcesAnalyzed
    errorDetail := none }

/-- The columns that complete the scan and its run. -/
def writeCompletion (given : Circumstances) (rows : Reloaded) (result : ExecutionResult)
    (count : ℕ) (system : WorkerSystem) : Except Exception (PUnit × WorkerSystem) :=
  .ok (⟨⟩, ((system.putScan (completedScan given result count rows.scan)).putRun
    (completedRun given rows.run) (completedColumns result count rows.columns)).putAccount
      (markConnectionSuccess rows.account))

end Persisting

section Summaries

variable [CaseMapping] [SummaryMetrics]

/-- `_latest_successful_run` -/
def latestSuccessfulRun (records : Store) (provider accountId : String) :
    Option CollectionRun :=
  lastByKey (fun run => toLex (run.startedAt, run.id))
    (records.collectionRuns.rows.filter fun run =>
      run.status = .success && run.provider = CaseMapping.lower provider &&
        run.accountId = accountId)

/-- What `rebuild_account_summary` raises where the requested run is not the latest. -/
def requestRefused (records : Store) (provider accountId runId : String) : Exception :=
  .internal "ValueError" (match records.collectionRuns.find? runId with
    | none => "CollectionRun " ++ runId ++ " does not exist"
    | some requested =>
      if requested.provider ≠ provider ∨ requested.accountId ≠ accountId then
        "CollectionRun does not belong to the requested provider/account"
      else if requested.status ≠ .success then "CollectionRun is not successful"
      else "CollectionRun is not the latest successful collection for this provider/account")

/-- `rebuild_account_summary` for a run -/
def rebuildAccountSummary (provider accountId runId : String) (system : WorkerSystem) :
    Except Exception (PUnit × WorkerSystem) :=
  let provider := CaseMapping.lower provider
  match latestSuccessfulRun system.records provider accountId with
  | none => .error (requestRefused system.records provider accountId runId)
  | some target =>
    if target.id ≠ runId then .error (requestRefused system.records provider accountId runId)
    else do
      let values ← (SummaryMetrics.calculateAccountSummary system.records target).mapError
        Exception.ofService
      return (⟨⟩, { system with
        summaries := ⟨target.provider, target.accountId, target.id, values⟩ ::
          system.summaries.filter fun summary =>
            summary.provider ≠ provider ∨ summary.accountId ≠ accountId })

end Summaries

section Failing

variable [CaseMapping]

/-- `mark_connection_failure` -/
def markConnectionFailure (executor : Executor) (account : CollectionAccount) (error : String) :
    CollectionAccount :=
  if (connectionErrorTokens executor).any fun token => contains (CaseMapping.lower error) token then
    { account with connectionStatus := "error", lastError := some (cut 2000 error) }
  else account

/-- The account of a failed scan after a failure of its connection. -/
def connectionFailed (scan : Scan) (raised : Exception) (error : String) (system : WorkerSystem) :
    WorkerSystem :=
  match system.account scan.cloudAccountId with
  | none => system
  | some account =>
    if raised.connectionFailure ∧ raised.provider = some account.provider then
      match getCollectionExecutor account.provider with
      | .ok executor => system.putAccount (markConnectionFailure executor account error)
      | .error _ => system
    else system

def failedScan (given : Circumstances) (error : String) (scan : Scan) : Scan :=
  { scan with
    status := .failed
    completedAt := some given.failedAt
    error := some (cut 4000 error) }

def failedRun (given : Circumstances) (run : CollectionRun) : CollectionRun :=
  { run with status := .failed, finishedAt := some given.failedAt }

/-- What `fail_scan` writes; the scan may be gone. -/
def writeFailure (given : Circumstances) (scanId : String) (raised : Exception)
    (system : WorkerSystem) : Except Exception (Bool × WorkerSystem) :=
  match system.scans.find? scanId with
  | none => .ok (false, system)
  | some scan =>
    let error := (sanitizeCollectionError raised.value).getD "Collection failed"
    let failed := system.putScan (failedScan given error scan)
    let written := match failed.runForScan scanId with
      | none => failed
      | some (run, columns) =>
        failed.putRun (failedRun given run) { columns with errorDetail := some (cut 4000 error) }
    .ok (true, connectionFailed scan raised error written)

end Failing

section Code

variable [CaseMapping] [TextLiteral] [OciReporting] [MetadataGuard] [Digest] [UuidSource]
  [SystemClock] [SummaryMetrics]

/-- `execute_scan` up to the commit of the collection -/
def collect (faults : Faults) (given : Circumstances) (scan : Scan) : Worker CollectionRun := do
  let (account, executor, run) ← Code.statement faults .readScan (reading (readScan scan))
  let configuration ← Code.statement faults .readConfiguration
    (reading (readConfiguration executor account scan))
  Code.commit faults .commitConfiguration
  Code.elsewhere fun system => { system with
    accounts := given.editedAccounts system.accounts
    policies := given.editedPolicies system.policies }
  let (result, discovery) ← Code.statement faults .callProvider
    (reading fun _ => callProvider given account run configuration)
  Code.statement faults .persistInventory (persistInventory executor account discovery)
  let rows ← Code.statement faults .reload (reading (reload scan run account))
  let count ← Code.statement faults .persistFindings (persistRunFindings given rows result)
  let scopes ← Code.statement faults .persistScopes (persistRunScopes given rows result)
  Code.statement faults .reconcile (reconcileRun given rows scopes)
  Code.statement faults .writeCompletion (writeCompletion given rows result count)
  Code.commit faults .commitCollection
  return rows.run

/-- The rebuild of the summary, which may fail by itself. -/
def summarize (faults : Faults) (run : CollectionRun) : Worker PUnit :=
  Code.attempt
    (do Code.statement faults .rebuildSummary
          (rebuildAccountSummary run.provider run.accountId run.id)
        Code.commit faults .commitSummary)
    fun _ => do
      Code.rollback faults .rollbackSummary
      Code.statement faults .logSummaryFailure quiet

/-- `execute_scan` -/
def executeScan (faults : Faults) (given : Circumstances) (scan : Scan) : Worker PUnit := do
  let run ← collect faults given scan
  Code.statement faults .logCollection quiet
  summarize faults run

/-- The handler of `process_once` with `fail_scan` -/
def failScan (faults : Faults) (given : Circumstances) (scanId : String) (raised : Exception) :
    Worker PUnit := do
  Code.statement faults .logFailed quiet
  Code.rollback faults .rollbackFailed
  let found ← Code.statement faults .writeFailed (writeFailure given scanId raised)
  if found then Code.commit faults .commitFailed

/-- `process_once` after the claim of a scan -/
def processClaimed (faults : Faults) (given : Circumstances) (scan : Scan) : Worker PUnit := do
  let provider ← Code.statement faults .readClaimed
    (reading fun system => .ok (claimedProvider scan system))
  if scan.status ≠ .running then
    Code.statement faults .logSkipped quiet
  else
    Code.attempt
      (do let _ ← Code.statement faults .logStarted
            (reading fun _ => refused (getCollectionExecutor provider))
          executeScan faults given scan
          Code.statement faults .readCompleted quiet
          Code.statement faults .logCompleted quiet)
      (failScan faults given scan.id)

end Code

end FinopsAnalytics.ScanWorker
