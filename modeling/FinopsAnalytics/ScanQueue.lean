import FinopsAnalytics.CollectionErrors
import FinopsAnalytics.FinopsLedger
import FinopsAnalytics.OciCollections

/-!
# The queue of scans

A manual request and the schedule queue a scan of an account after they have found
that none is pending or running. A worker claims the oldest pending scan and begins
its run, or fails it where the collection may not start.
-/

namespace FinopsAnalytics.ScanQueue

open PythonText OpportunityRecords DistinctKeys CollectionErrors
open FinopsLedger (normalizeProvider)
open OciCollections (OciAccountConfiguration CollectionScope)

/-- The values of `Scan.status`. -/
inductive ScanStatus where
  | pending | running | completed | completedWithWarnings | failed
deriving DecidableEq, Repr

/-- A row of `scans`. -/
structure Scan where
  id : String
  accountId : Option ℤ
  cloudAccountId : ℤ
  status : ScanStatus
  trigger : String
  createdAt : Instant
  startedAt : Option Instant
  completedAt : Option Instant
  findingsCount : ℕ
  error : Option String
deriving DecidableEq, Repr

/-- A row of `aws_accounts`. -/
structure AwsAccount where
  id : ℤ
  awsAccountId : String
  regions : List String
deriving DecidableEq, Repr

/-- A row of `cloud_accounts` with the configuration of its provider. -/
structure CollectionAccount where
  id : ℤ
  provider : String
  nativeAccountId : String
  name : String
  enabled : Bool
  connectionStatus : String
  lastError : Option String
  scheduleEnabled : Bool
  scanIntervalHours : ℤ
  nextScanAt : Option Instant
  awsConfiguration : Option AwsAccount
  ociConfiguration : Option OciAccountConfiguration
deriving DecidableEq, Repr

/-- What refuses a collection before it starts. -/
inductive Refusal where
  | unsupportedOperation (message : String)
  | precondition (message : String)
deriving DecidableEq, Repr

/-- The refusal as an exception. -/
def Refusal.value : Refusal → ErrorValue
  | .unsupportedOperation message => .raised "UnsupportedProviderOperation" message
  | .precondition message => .raised "CollectionPreconditionError" message

/-- The operations of `ProviderOperation`. -/
inductive ProviderOperation where
  | registration | editing | connectionTest | manualCollection | scheduling | finopsPolicies
deriving DecidableEq, Repr

/-- The operation as it is named in errors. -/
def ProviderOperation.text : ProviderOperation → String
  | .registration => "registration"
  | .editing => "editing"
  | .connectionTest => "connection_test"
  | .manualCollection => "manual_collection"
  | .scheduling => "scheduling"
  | .finopsPolicies => "finops_policies"

/-- `provider_label` of a canonical provider key. -/
def providerLabel (provider : String) : String :=
  if provider = "aws" then "AWS"
  else if provider = "oci" then "OCI"
  else if provider = "azure" then "Azure"
  else "GCP"

/-- The table `_CAPABILITIES`. -/
def supports (provider : String) (operation : ProviderOperation) : Bool :=
  if provider = "aws" then true
  else if provider = "oci" then operation ≠ .finopsPolicies
  else false

section Preconditions

variable [CaseMapping]

/-- `require_provider_operation` -/
def requireProviderOperation (provider : String) (operation : ProviderOperation) :
    Except Refusal Unit :=
  match normalizeProvider provider with
  | .error _ => .error (.unsupportedOperation ("Unknown cloud provider: " ++ provider))
  | .ok key =>
    if supports key operation then .ok ()
    else .error (.unsupportedOperation
      ("Provider " ++ providerLabel key ++ " does not support " ++ operation.text))

/-- The registered collection executors. -/
inductive Executor where
  | aws | oci
deriving DecidableEq, Repr

/-- `get_collection_executor` -/
def getCollectionExecutor (provider : String) : Except Refusal Executor :=
  match normalizeProvider provider with
  | .error _ => .error (.precondition ("Unknown cloud provider: " ++ provider))
  | .ok key =>
    if key = "aws" then .ok .aws
    else if key = "oci" then .ok .oci
    else .error (.precondition ("Provider " ++ key ++ " has no operational collection executor"))

end Preconditions

/-- The scope that a run records. -/
inductive PreparedScope where
  | aws (regions : List String)
  | oci (scope : CollectionScope)
deriving DecidableEq, Repr

/-- `CollectionPreparation` -/
structure CollectionPreparation where
  legacyScanAccountId : Option ℤ
  scope : PreparedScope
deriving DecidableEq, Repr

/-- `AwsCollectionExecutor._configuration` -/
def awsConfiguration (account : CollectionAccount) (scan : Option Scan) :
    Except Refusal AwsAccount := do
  if account.provider ≠ "aws" then
    throw (.precondition "AWS executor received a non-AWS CloudAccount")
  match account.awsConfiguration with
  | none => throw (.precondition "AWS operational configuration is missing")
  | some configuration =>
    if configuration.awsAccountId ≠ account.nativeAccountId then
      throw (.precondition
        "AWS operational configuration does not match the CloudAccount identity")
    if scan.any fun scan => scan.accountId ≠ some configuration.id then
      throw (.precondition "Scan legacy AWS account link does not match its CloudAccount")
    return configuration

/-- `OciCollectionExecutor._configuration` -/
def ociConfiguration (account : CollectionAccount) (scan : Option Scan) :
    Except Refusal OciAccountConfiguration := do
  if account.provider ≠ "oci" then
    throw (.precondition "OCI executor received a non-OCI CloudAccount")
  match account.ociConfiguration with
  | none => throw (.precondition "OCI operational configuration is missing")
  | some configuration =>
    if scan.any fun scan => scan.accountId.isSome then
      throw (.precondition "OCI scan must not reference a legacy AWS account")
    return configuration

/-- `prepare` of the executors -/
def Executor.prepare (executor : Executor) (account : CollectionAccount) (scan : Option Scan) :
    Except Refusal CollectionPreparation :=
  match executor with
  | .aws => do
    let configuration ← awsConfiguration account scan
    return { legacyScanAccountId := some configuration.id
             scope := .aws (sortByKey id configuration.regions) }
  | .oci => do
    let configuration ← ociConfiguration account scan
    return { legacyScanAccountId := none
             scope := .oci (OciCollections.prepare configuration) }

/-- `status.in_(["pending", "running"])` -/
def ScanStatus.isActive : ScanStatus → Bool
  | .pending | .running => true
  | _ => false

/-- The scan belongs to the account and is pending or running. -/
def Scan.activeFor (scan : Scan) (cloudAccountId : ℤ) : Bool :=
  scan.cloudAccountId = cloudAccountId && scan.status.isActive

/-- The query of an active scan of an account. -/
def activeScan (scans : List Scan) (cloudAccountId : ℤ) : Option Scan :=
  scans.find? (·.activeFor cloudAccountId)

/-- A scan as it is inserted. -/
def newScan (id : String) (accountId : Option ℤ) (cloudAccountId : ℤ) (trigger : String)
    (createdAt : Instant) : Scan where
  id := id
  accountId := accountId
  cloudAccountId := cloudAccountId
  status := .pending
  trigger := trigger
  createdAt := createdAt
  startedAt := none
  completedAt := none
  findingsCount := 0
  error := none

section Writers

variable [CaseMapping]

/-- `queue_manual_collection`: the scan that it inserts, where the scans that the
request sees allow it. -/
def queueManualCollection (scans : List Scan) (account : CollectionAccount)
    (trigger id : String) (createdAt : Instant) : Except Refusal Scan := do
  requireProviderOperation account.provider .manualCollection
  if !account.enabled then throw (.precondition "Cloud account is disabled")
  let executor ← getCollectionExecutor account.provider
  let preparation ← executor.prepare account none
  if (activeScan scans account.id).isSome then
    throw (.precondition "A scan is already pending or running")
  return newScan id preparation.legacyScanAccountId account.id trigger createdAt

/-- The accounts that `enqueue_due_scans` selects. -/
def dueAccounts (accounts : List CollectionAccount) (now : Instant) : List CollectionAccount :=
  accounts.filter fun account =>
    supports account.provider .scheduling && account.enabled && account.scheduleEnabled &&
      account.nextScanAt.any fun next => next ≤ now

/-- `enqueue_due_scans` on one account: the scan that it inserts where it finds none
that is active. -/
def scheduledScan (scans : List Scan) (account : CollectionAccount) (id : String)
    (createdAt : Instant) : Option Scan :=
  match activeScan scans account.id with
  | some _ => none
  | none =>
    some (newScan id (account.awsConfiguration.map AwsAccount.id) account.id "scheduled" createdAt)

/-- The next time of an account that the schedule has looked at. -/
def advancedSchedule (account : CollectionAccount) (now : Instant) : CollectionAccount :=
  { account with nextScanAt := some (now + hours account.scanIntervalHours) }

/-- `_scan_operation` -/
def scanOperation (scan : Scan) : ProviderOperation :=
  if scan.trigger = "scheduled" then .scheduling else .manualCollection

/-- What `claim_scan` asks before it begins the run. -/
def claimPreparation (account : Option CollectionAccount) (scan : Scan) :
    Except Refusal CollectionPreparation := do
  match account with
  | none => throw (.precondition "CloudAccount for scan does not exist")
  | some account =>
    if !account.enabled then throw (.precondition "Cloud account is disabled")
    requireProviderOperation account.provider (scanOperation scan)
    let executor ← getCollectionExecutor account.provider
    executor.prepare account (some scan)

/-- The scan that `claim_scan` selects: the oldest pending one that is not locked. -/
def nextPending (scans : List Scan) (locked : List String) : Option Scan :=
  (sortByKey Scan.createdAt (scans.filter fun scan => scan.status = .pending)).find?
    fun scan => scan.id ∉ locked

/-- The claimed scan: running, or failed where the collection may not start. -/
def claimed (account : Option CollectionAccount) (scan : Scan) (startedAt failedAt : Instant) :
    Scan :=
  match claimPreparation account { scan with status := .running, startedAt := some startedAt } with
  | .ok _ => { scan with status := .running, startedAt := some startedAt }
  | .error refusal =>
    { scan with
      status := .failed
      startedAt := some startedAt
      completedAt := some failedAt
      error := some ((sanitizeCollectionError refusal.value).getD
        "Collection precondition failed") }

end Writers

end FinopsAnalytics.ScanQueue
