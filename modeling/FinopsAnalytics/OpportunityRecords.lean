import FinopsAnalytics.Clock
import FinopsAnalytics.PythonText
import FinopsAnalytics.UniqueTables
import Mathlib.Data.Rat.Defs

/-!
# Opportunities and the tables around them

The rows are those of the persistent tables, with the columns that the modelled
services read or write. Tables enforce their primary keys and their unique
constraints; an insert that violates one raises. Identifiers and clock
readings are drawn in order from their sources.
-/

namespace FinopsAnalytics.OpportunityRecords

open UniqueTables

/-- The random identifiers, in the order in which they are drawn. -/
class UuidSource where
  uuid4 : ℕ → String

/-- Identifiers of growing length, for evaluation at concrete inputs. -/
abbrev countingUuids : UuidSource where
  uuid4 position := "id-" ++ String.ofList (List.replicate position 'i')

theorem countingUuids_injective : Function.Injective countingUuids.uuid4 := by
  intro first second same
  have lengths := congrArg String.length same
  simpa [UuidSource.uuid4] using lengths

/-- The readings of the clock, in the order in which they are taken. -/
class SystemClock where
  utcnow : ℕ → Instant

/-- A clock that advances by one, for evaluation at concrete inputs. -/
abbrev countingClock : SystemClock where
  utcnow reading := 100 + reading

/-- What a service can raise. -/
inductive ServiceError where
  | http (status : ℕ) (detail : String)
  | integrity
  | value (message : String)
  | overflow
  | runtime (message : String)
  | ledger (message : String)
deriving DecidableEq, Repr

inductive OpportunityStatus where
  | open_ | treated | rejected
deriving DecidableEq, Repr

inductive OpportunityPresenceStatus where
  | active | missing | resolvedExternally
deriving DecidableEq, Repr

inductive OpportunityArchiveAction where
  | archive | unarchive
deriving DecidableEq, Repr

inductive OpportunityArchiveReason where
  | manual | retentionPolicy | reappeared
deriving DecidableEq, Repr

/-- The status as it is stored. -/
def OpportunityStatus.text : OpportunityStatus → String
  | .open_ => "open"
  | .treated => "treated"
  | .rejected => "rejected"

/-- The presence as it is stored. -/
def OpportunityPresenceStatus.text : OpportunityPresenceStatus → String
  | .active => "active"
  | .missing => "missing"
  | .resolvedExternally => "resolved_externally"

/-- The reason as it is stored. -/
def OpportunityArchiveReason.text : OpportunityArchiveReason → String
  | .manual => "MANUAL"
  | .retentionPolicy => "RETENTION_POLICY"
  | .reappeared => "REAPPEARED"

inductive OpportunityPresenceReason where
  | notObservedInSuccessfulScope | missingThresholdReached | observedAgain
deriving DecidableEq, Repr

inductive LifecycleAction where
  | treat | reject | reopen
deriving DecidableEq, Repr

inductive CollectionRunStatus where
  | running | success | failed
deriving DecidableEq, Repr

inductive CollectionScopeExecutionStatus where
  | success | failed | skipped
deriving DecidableEq, Repr

/-- An allocation listed in the metadata of a coverage opportunity. -/
structure AllocationItem where
  allocationId : ℤ
  reservationId : String
  reservationDbId : ℤ
  allocatedUnits : ℚ
  matchType : String
  allocationScope : String
  reason : String
deriving DecidableEq, Repr

/-- A workload listed in the metadata of a reservation opportunity. -/
structure WorkloadItem where
  allocationId : ℤ
  dbInstanceIdentifier : String
  dbInstanceArn : String
  allocatedUnits : ℚ
  matchType : String
  allocationScope : String
deriving DecidableEq, Repr

/-- The values of a metadata or evidence dictionary. Nested documents that no
service inspects are kept as their text. -/
inductive MetaValue where
  | null
  | boolean (value : Bool)
  | integer (value : ℤ)
  | number (value : ℚ)
  | text (value : String)
  | instant (value : Instant)
  | integers (values : List ℤ)
  | texts (values : List String)
  | allocations (items : List AllocationItem)
  | workloads (items : List WorkloadItem)
  | document (serialized : String)
deriving DecidableEq, Repr

abbrev Metadata := List (String × MetaValue)

/-- A row of `findings`: one logical opportunity. -/
structure Finding where
  id : String
  fingerprint : String
  scanId : Option String
  firstSeenCollectionRunId : Option String
  lastSeenCollectionRunId : Option String
  provider : String
  accountId : String
  ruleKey : String
  service : String
  region : Option String
  resourceId : String
  resourceName : Option String
  resourceType : Option String
  providerMetadata : Metadata
  title : String
  description : String
  evidence : Metadata
  currentMonthlyCost : ℚ
  estimatedMonthlySavings : ℚ
  currency : String
  confidence : String
  severity : String
  status : OpportunityStatus
  presenceStatus : OpportunityPresenceStatus
  missingCount : ℕ
  missingSinceAt : Option Instant
  resolvedExternallyAt : Option Instant
  presenceReconciledRunId : Option String
  presenceReconciledAt : Option Instant
  totalOccurrenceCount : ℕ
  firstSeenAt : Instant
  lastSeenAt : Instant
  treatedAt : Option Instant
  treatedBy : Option String
  treatmentNote : Option String
  rejectedAt : Option Instant
  rejectedBy : Option String
  rejectionReason : Option String
  rejectionNote : Option String
  needsReview : Bool
  archivedAt : Option Instant
  archivedBy : Option String
  archiveReason : Option OpportunityArchiveReason
deriving DecidableEq, Repr

/-- The columns that say what an opportunity is about. No service changes them. -/
structure Subject where
  id : String
  fingerprint : String
  provider : String
  accountId : String
  ruleKey : String
  service : String
  region : Option String
  resourceId : String
deriving DecidableEq, Repr

/-- The columns of the human decision. -/
structure HumanDecision where
  status : OpportunityStatus
  treatedAt : Option Instant
  treatedBy : Option String
  treatmentNote : Option String
  rejectedAt : Option Instant
  rejectedBy : Option String
  rejectionReason : Option String
  rejectionNote : Option String
deriving DecidableEq, Repr

/-- The columns of the technical presence. -/
structure TechnicalPresence where
  status : OpportunityPresenceStatus
  missingCount : ℕ
  missingSinceAt : Option Instant
  resolvedExternallyAt : Option Instant
  reconciledRunId : Option String
  reconciledAt : Option Instant
deriving DecidableEq, Repr

/-- The columns of the archive. -/
structure ArchiveState where
  archivedAt : Option Instant
  archivedBy : Option String
  reason : Option OpportunityArchiveReason
deriving DecidableEq, Repr

def Finding.subject (finding : Finding) : Subject where
  id := finding.id
  fingerprint := finding.fingerprint
  provider := finding.provider
  accountId := finding.accountId
  ruleKey := finding.ruleKey
  service := finding.service
  region := finding.region
  resourceId := finding.resourceId

def Finding.decision (finding : Finding) : HumanDecision where
  status := finding.status
  treatedAt := finding.treatedAt
  treatedBy := finding.treatedBy
  treatmentNote := finding.treatmentNote
  rejectedAt := finding.rejectedAt
  rejectedBy := finding.rejectedBy
  rejectionReason := finding.rejectionReason
  rejectionNote := finding.rejectionNote

def Finding.presence (finding : Finding) : TechnicalPresence where
  status := finding.presenceStatus
  missingCount := finding.missingCount
  missingSinceAt := finding.missingSinceAt
  resolvedExternallyAt := finding.resolvedExternallyAt
  reconciledRunId := finding.presenceReconciledRunId
  reconciledAt := finding.presenceReconciledAt

def Finding.archiveState (finding : Finding) : ArchiveState where
  archivedAt := finding.archivedAt
  archivedBy := finding.archivedBy
  reason := finding.archiveReason

variable {first second : Finding}

theorem Finding.id_of_subject (same : first.subject = second.subject) :
    first.id = second.id :=
  congrArg Subject.id same

theorem Finding.fingerprint_of_subject (same : first.subject = second.subject) :
    first.fingerprint = second.fingerprint :=
  congrArg Subject.fingerprint same

theorem Finding.status_of_decision (same : first.decision = second.decision) :
    first.status = second.status :=
  congrArg HumanDecision.status same

/-- A row of `collection_runs`. -/
structure CollectionRun where
  id : String
  provider : String
  accountId : String
  startedAt : Instant
  finishedAt : Option Instant
  status : CollectionRunStatus
  detailedObservationsAvailable : Bool
deriving DecidableEq, Repr

/-- A row of `collection_scope_executions`. -/
structure CollectionScopeExecution where
  id : String
  collectionRunId : String
  provider : String
  accountId : String
  region : String
  service : Option String
  ruleKey : String
  status : CollectionScopeExecutionStatus
  startedAt : Instant
  finishedAt : Instant
  resourcesExamined : Option ℤ
  errorDetail : Option String
deriving DecidableEq, Repr

/-- A row of `opportunity_observations`. -/
structure OpportunityObservation where
  id : String
  opportunityId : String
  collectionRunId : String
  observedAt : Instant
  severity : String
  currentMonthlyCost : ℚ
  estimatedMonthlySavings : ℚ
  currency : String
  confidence : String
  providerMetadata : Metadata
  evidence : Metadata
deriving DecidableEq, Repr

/-- A row of `opportunity_presence_history`. -/
structure OpportunityPresenceHistory where
  opportunityId : String
  collectionRunId : String
  collectionScopeExecutionId : Option String
  fromStatus : OpportunityPresenceStatus
  toStatus : OpportunityPresenceStatus
  reason : OpportunityPresenceReason
  missingCount : ℕ
  missingThreshold : Option ℕ
  occurredAt : Instant
deriving DecidableEq, Repr

/-- A row of `opportunity_archive_history`. -/
structure OpportunityArchiveHistory where
  opportunityId : String
  action : OpportunityArchiveAction
  reason : OpportunityArchiveReason
  changedBy : Option String
  collectionRunId : Option String
  occurredAt : Instant
  context : Metadata
deriving DecidableEq, Repr

/-- A row of `opportunity_status_history`. -/
structure OpportunityStatusHistory where
  id : String
  opportunityId : String
  fromStatus : OpportunityStatus
  toStatus : OpportunityStatus
  action : LifecycleAction
  reason : Option String
  note : Option String
  changedBy : Option String
  changedAt : Instant
deriving DecidableEq, Repr

inductive FinOpsLedgerEntryType where
  | saving | reallocation | adjustment
deriving DecidableEq, Repr

inductive FinOpsLedgerDirection where
  | credit | debit
deriving DecidableEq, Repr

inductive FinOpsLedgerSource where
  | opportunity | manual | system
deriving DecidableEq, Repr

inductive FinOpsLedgerPeriodicity where
  | oneTime | monthly
deriving DecidableEq, Repr

/-- A row of `finops_ledger_entries`. -/
structure FinOpsLedgerEntry where
  id : String
  entryType : FinOpsLedgerEntryType
  direction : FinOpsLedgerDirection
  provider : String
  cloudAccountId : ℤ
  accountId : String
  amount : ℚ
  currency : String
  effectiveAt : Instant
  source : FinOpsLedgerSource
  sourceReference : Option String
  opportunityId : Option String
  sourceEventId : Option String
  idempotencyKey : Option String
  description : Option String
  context : Metadata
  periodicity : FinOpsLedgerPeriodicity
  referencePeriodStart : Option ℤ
  referencePeriodEnd : Option ℤ
  createdBy : Option String
  reversalOfId : Option String
deriving DecidableEq, Repr

/-- A row of `cloud_accounts`. -/
structure CloudAccount where
  id : ℤ
  provider : String
  nativeAccountId : String
  name : String
deriving DecidableEq, Repr

/-- The unique columns of a scope row. -/
def CollectionScopeExecution.scopeKey (row : CollectionScopeExecution) :
    String × String × String :=
  (row.collectionRunId, row.region, row.ruleKey)

/-- The unique columns of an observation. -/
def OpportunityObservation.pair (row : OpportunityObservation) : String × String :=
  (row.opportunityId, row.collectionRunId)

/-- The unique columns of a presence event. -/
def OpportunityPresenceHistory.transition (row : OpportunityPresenceHistory) :
    String × String × OpportunityPresenceReason :=
  (row.opportunityId, row.collectionRunId, row.reason)

/-- The unique column of a ledger entry. Rows without a key never collide. -/
def FinOpsLedgerEntry.uniqueKey (row : FinOpsLedgerEntry) : String ⊕ String :=
  match row.idempotencyKey with
  | some key => .inl key
  | none => .inr row.id

/-- The committed tables. -/
structure Store where
  findings : Table Finding.id Finding.fingerprint
  collectionRuns : Table CollectionRun.id CollectionRun.id
  scopeExecutions : Table CollectionScopeExecution.id CollectionScopeExecution.scopeKey
  observations : Table OpportunityObservation.id OpportunityObservation.pair
  presenceHistory :
    Table OpportunityPresenceHistory.transition OpportunityPresenceHistory.transition
  archiveHistory : List OpportunityArchiveHistory
  statusHistory : Table OpportunityStatusHistory.id OpportunityStatusHistory.id
  ledgerEntries : Table FinOpsLedgerEntry.id FinOpsLedgerEntry.uniqueKey
  cloudAccounts : List CloudAccount
  drawn : ℕ
  clockReads : ℕ

/-- A store without rows. -/
def Store.empty : Store where
  findings := .empty _ _
  collectionRuns := .empty _ _
  scopeExecutions := .empty _ _
  observations := .empty _ _
  presenceHistory := .empty _ _
  archiveHistory := []
  statusHistory := .empty _ _
  ledgerEntries := .empty _ _
  cloudAccounts := []
  drawn := 0
  clockReads := 0

/-- `db.add` followed by `db.flush`: an insert or the error of a violated
constraint. -/
def flushed {α κ υ : Type} {key : α → κ} {unique : α → υ} [DecidableEq κ] [DecidableEq υ]
    (table : Table key unique) (row : α) : Except ServiceError (Table key unique) :=
  match table.insert row with
  | some inserted => .ok inserted
  | none => .error .integrity

theorem flushed_eq_ok {α κ υ : Type} {key : α → κ} {unique : α → υ} [DecidableEq κ]
    [DecidableEq υ] {table inserted : Table key unique} {row : α} :
    flushed table row = .ok inserted ↔ table.insert row = some inserted := by
  unfold flushed
  split
  · rename_i found
    simp [found]
  · rename_i none
    simp [none]

/-- Draw the next identifier. -/
def Store.draw [UuidSource] (store : Store) : String × Store :=
  (UuidSource.uuid4 store.drawn, { store with drawn := store.drawn + 1 })

/-- Read the clock. -/
def Store.utcnow [SystemClock] (store : Store) : Instant × Store :=
  (SystemClock.utcnow store.clockReads, { store with clockReads := store.clockReads + 1 })

/-- Write the changed columns of a finding back. -/
def Store.putFinding (store : Store) (finding : Finding) : Store :=
  { store with findings := store.findings.put finding }

/-- The later of two writes of one finding stands. -/
theorem Store.putFinding_putFinding (store : Store) (sameId : first.id = second.id)
    (sameFingerprint : first.fingerprint = second.fingerprint) :
    (store.putFinding first).putFinding second = store.putFinding second := by
  simp only [Store.putFinding]
  rw [Table.put_put _ sameId sameFingerprint]

/-- `_locked`: the finding with the id, or 404. -/
def Store.locked (store : Store) (opportunityId : String) : Except ServiceError Finding :=
  match store.findings.find? opportunityId with
  | some finding => .ok finding
  | none => .error (.http 404 "Opportunity not found")

theorem Store.locked_eq_ok {store : Store} {opportunityId : String} {finding : Finding} :
    store.locked opportunityId = .ok finding ↔
      store.findings.find? opportunityId = some finding := by
  unfold Store.locked
  split
  · rename_i found
    simp [found]
  · rename_i none
    simp [none]

end FinopsAnalytics.OpportunityRecords
