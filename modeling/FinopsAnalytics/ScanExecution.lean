import FinopsAnalytics.AwsCollections
import FinopsAnalytics.FaultySessions
import FinopsAnalytics.ScanQueue

/-!
# The execution of a claimed scan

A worker reads the configuration of the account, releases the transaction for the
calls of the provider, and persists what they return in one transaction. The summary
of the account is rebuilt in another. An exception is handled where the worker begins:
the transaction is rolled back, and the scan and its run are marked as failed.
-/

namespace FinopsAnalytics.ScanExecution

open PythonText UniqueTables OpportunityRecords OpportunityCollection OpportunityReconciliation
  OpportunityFingerprint DistinctKeys Dictionaries Fallible FaultySessions
open CollectionErrors InventoryPersistence ScanQueue
open AwsCollections (AwsAnswers PolicyRow CollectorError)
open OciDiscovery (OciDiscoveryIssue OciConnectionSnapshot)
open OciCollections (OciAnswers)
open OciInventoryAdapter (MetadataGuard AdaptedCoverage)
open OciAnalyzers (OciReporting)

section Exceptions

/-- An exception, with what `fail_scan` asks of one that the provider caused. -/
structure Exception where
  value : ErrorValue
  provider : Option String
  connectionFailure : Bool
deriving DecidableEq, Repr

/-- An exception of the worker or of the services that it calls. -/
def Exception.internal (typeName message : String) : Exception where
  value := .raised typeName message
  provider := none
  connectionFailure := false

def Exception.ofRefusal (refusal : Refusal) : Exception := ⟨refusal.value, none, false⟩

def Exception.ofService : ServiceError → Exception
  | .http status detail => .internal "HTTPException" (toString status ++ ": " ++ detail)
  | .integrity => .internal "IntegrityError" ""
  | .value message => .internal "ValueError" message
  | .overflow => .internal "OverflowError" "date value out of range"
  | .runtime message => .internal "RuntimeError" message
  | .ledger message => .internal "FinOpsLedgerError" message

/-- `ProviderExecutionError`: its text is that of the sanitized cause. -/
def providerExecutionError (provider : String) (cause : ErrorValue) (connectionFailure : Bool) :
    Exception where
  value := .raised "ProviderExecutionError" ((sanitizeCollectionError cause).getD genericError)
  provider := some provider
  connectionFailure := connectionFailure

end Exceptions

/-- A row of `dashboard_account_summaries`. -/
structure DashboardAccountSummary where
  provider : String
  accountId : String
  collectionRunId : String
  values : Metadata
deriving DecidableEq, Repr

/-- `calculate_account_summary` of a successful run. -/
class SummaryMetrics where
  calculateAccountSummary : Store → CollectionRun → Except ServiceError Metadata

/-- The columns of a run that its scan writes besides those of the store. -/
structure RunColumns where
  runId : String
  scanId : String
  scope : PreparedScope
  resourcesAnalyzed : ℕ
  opportunitiesFound : ℕ
  errorDetail : Option String
deriving DecidableEq, Repr

/-- What the worker works on. -/
structure WorkerSystem where
  accounts : List CollectionAccount
  policies : List PolicyRow
  scans : Table Scan.id Scan.id
  runs : Table RunColumns.runId RunColumns.scanId
  inventory : InventoryStore
  records : Store
  summaries : List DashboardAccountSummary

namespace WorkerSystem

/-- `db.get(CloudAccount, …)` -/
def account (system : WorkerSystem) (cloudAccountId : ℤ) : Option CollectionAccount :=
  system.accounts.find? fun account => account.id = cloudAccountId

/-- `collection_run_for_scan`, with the other columns of the run. -/
def runForScan (system : WorkerSystem) (scanId : String) : Option (CollectionRun × RunColumns) :=
  (system.runs.findUnique? scanId).bind fun columns =>
    (system.records.collectionRuns.find? columns.runId).map fun run => (run, columns)

/-- The changed columns of an account are written back. -/
def putAccount (system : WorkerSystem) (next : CollectionAccount) : WorkerSystem :=
  { system with
    accounts := system.accounts.map fun account => if account.id = next.id then next else account }

/-- The changed columns of a run are written back. -/
def putRun (system : WorkerSystem) (run : CollectionRun) (columns : RunColumns) : WorkerSystem :=
  { system with
    runs := system.runs.put columns
    records := { system.records with collectionRuns := system.records.collectionRuns.put run } }

def putScan (system : WorkerSystem) (scan : Scan) : WorkerSystem :=
  { system with scans := system.scans.put scan }

end WorkerSystem

/-- The account as the inventory and the scope rows see it. -/
def cloudAccount (account : CollectionAccount) : CloudAccount where
  id := account.id
  provider := account.provider
  nativeAccountId := account.nativeAccountId
  name := account.name

/-- The `mark_connection_success` of both executors. -/
def markConnectionSuccess (account : CollectionAccount) : CollectionAccount :=
  { account with connectionStatus := "connected", lastError := none }

/-- The `_CONNECTION_ERROR_TOKENS` of the executors. -/
def connectionErrorTokens : Executor → List String
  | .aws => ["credencial", "expiredtoken", "invalidclienttokenid", "signaturedoesnotmatch",
      "authentication", "identidade aws", "accessdenied", "acesso negado"]
  | .oci => ["credential", "credencial", "authentication", "autenticação", "signing",
      "private key", "passphrase", "fingerprint", "tenancy", "local configuration"]

/-- The first characters of a text that a column takes. -/
def cut (length : ℕ) (text : String) : String := String.ofList (text.toList.take length)

section Results

/-- What an execution has read of the configuration. -/
inductive ExecutionConfiguration where
  | aws (reading : AwsCollections.Reading)
  | oci (snapshot : OciConnectionSnapshot)

/-- `CollectionExecutionResult`, with the errors as their provider has them. -/
inductive ExecutionResult where
  | aws (result : AwsCollections.CollectionExecutionResult)
  | oci (result : OciCollections.CollectionExecutionResult)

def ExecutionResult.findings : ExecutionResult → List CollectedFinding
  | .aws result => result.findings
  | .oci result => result.findings

def ExecutionResult.resourcesAnalyzed : ExecutionResult → ℕ
  | .aws result => result.resourcesAnalyzed
  | .oci result => result.resourcesAnalyzed

variable [TextLiteral]

/-- The literal of an optional text. -/
def literal : Option String → String
  | none => "None"
  | some text => TextLiteral.repr text

/-- An issue of the discovery, of which the fields are printed. -/
def issueValue (issue : OciDiscoveryIssue) : ErrorValue :=
  .raised "OciDiscoveryIssue" ("OciDiscoveryIssue(category=" ++ TextLiteral.repr issue.category ++
    ", source=" ++ TextLiteral.repr issue.source ++
    ", operation=" ++ TextLiteral.repr issue.operation ++
    ", message=" ++ TextLiteral.repr issue.message ++
    ", region=" ++ literal issue.region ++
    ", compartment_id=" ++ literal issue.compartmentId ++
    ", resource_type=" ++ literal issue.resourceType ++
    ", fatal=" ++ (if issue.fatal then "True" else "False") ++ ")")

def ExecutionResult.collectorErrors : ExecutionResult → List ErrorValue
  | .aws result => result.collectorErrors.map CollectorError.value
  | .oci result => result.collectorErrors.map issueValue

/-- The error column of a completed scan. -/
def completionError (result : ExecutionResult) : Option String :=
  if result.collectorErrors.isEmpty then none
  else some (cut 4000 ("\n".intercalate (result.collectorErrors.map fun error =>
    orEmpty (sanitizeCollectionError error))))

def completionStatus (result : ExecutionResult) : ScanStatus :=
  if result.collectorErrors.isEmpty then .completed else .completedWithWarnings

/-- The regions that a run has recorded, of either provider. -/
def recordedRegions : PreparedScope → List String
  | .aws regions => regions
  | .oci scope => scope.regions

/-- `build_collection_scope_executions` -/
def buildCollectionScopeExecutions (policies : List PolicyRow) (account : CollectionAccount)
    (run : CollectionRun) (scope : PreparedScope) (result : ExecutionResult)
    (finishedAt : Instant) : List ScopeCandidate :=
  match result with
  | .aws result =>
    match account.awsConfiguration with
    | none => []
    | some configuration =>
      if run.provider = "aws" then
        AwsCollections.awsScopeRows run (recordedRegions scope)
          (AwsCollections.enabledRules policies configuration.id) result finishedAt
      else []
  | .oci result =>
    if run.provider = "oci" then
      OciCollections.ociScopeRows run ⟨recordedRegions scope, [], false, false⟩ result finishedAt
    else []

end Results

end FinopsAnalytics.ScanExecution
