import FinopsAnalytics.AuditEvents
import FinopsAnalytics.CivilCalendar
import FinopsAnalytics.DistinctKeys
import FinopsAnalytics.Fallible
import FinopsAnalytics.OpportunityRecords
import Mathlib.Data.Prod.Lex

/-!
# History cycles of the opportunities

A cycle is a half-open period. Closing it writes a snapshot of every opportunity
observed in the period; its successor takes the calendar of the policy in force.
A new cycle may not overlap any other.
-/

namespace FinopsAnalytics.OpportunityHistoryCycles

open UniqueTables OpportunityRecords DistinctKeys CivilCalendar
open PythonText (CaseMapping)
open ComparisonContexts (Json)
open AuditEvents (AuditRuntime payloadOfJson sanitizeAuditPayload dictionary? plainRuntime)

inductive OpportunityHistoryCycleStatus where
  | open_ | closed
deriving DecidableEq, Repr

inductive OpportunityCycleMode where
  | calendarMonth | fixedDays
deriving DecidableEq, Repr

/-- The reasons with which the callers close a cycle. -/
inductive CloseReason where
  | manual | scheduled | system
deriving DecidableEq, Repr

/-- The columns of `opportunity_management_policies` that cycles depend on. -/
structure OpportunityManagementPolicy where
  cycleMode : OpportunityCycleMode
  cycleLengthDays : ℕ
  cycleTimezone : String
  cycleAnchorDate : Option Date
  automaticCycleCloseEnabled : Bool
  enabled : Bool
  version : ℕ
deriving DecidableEq, Repr

/-- `policy_snapshot` -/
structure PolicySnapshot where
  policyVersion : ℕ
  cycleMode : OpportunityCycleMode
  cycleLengthDays : ℕ
  timezone : String
  anchorDate : Option Date
deriving DecidableEq, Repr

def policySnapshot (policy : OpportunityManagementPolicy) : PolicySnapshot where
  policyVersion := policy.version
  cycleMode := policy.cycleMode
  cycleLengthDays := policy.cycleLengthDays
  timezone := policy.cycleTimezone
  anchorDate := policy.cycleAnchorDate

/-- `collection_coverage`: the runs of a period by status. -/
structure CollectionCoverage where
  total : ℕ
  success : ℕ
  failed : ℕ
  running : ℕ
deriving DecidableEq, Repr

/-- The entries of `metadata_json`. -/
structure CycleMetadata where
  policy : Option PolicySnapshot
  snapshotCount : Option ℕ
  collectionCoverage : Option CollectionCoverage
deriving DecidableEq, Repr

/-- A row of `opportunity_history_cycles`. -/
structure OpportunityHistoryCycle where
  id : String
  label : String
  periodStart : Instant
  periodEnd : Instant
  status : OpportunityHistoryCycleStatus
  timezone : String
  policyVersion : Option ℕ
  closedAt : Option Instant
  closedBy : Option String
  closeReason : Option CloseReason
  metadata : CycleMetadata
deriving DecidableEq, Repr

/-- The unique columns of a cycle. -/
def OpportunityHistoryCycle.period (cycle : OpportunityHistoryCycle) : Instant × Instant :=
  (cycle.periodStart, cycle.periodEnd)

/-- A row of `opportunity_history_snapshots`. -/
structure OpportunityHistorySnapshot where
  id : String
  cycleId : String
  opportunityId : Option String
  fingerprint : String
  provider : String
  accountId : String
  accountName : Option String
  region : Option String
  service : String
  resourceType : Option String
  resourceId : String
  resourceName : Option String
  ruleKey : String
  title : String
  description : String
  status : OpportunityStatus
  presenceStatus : OpportunityPresenceStatus
  needsReview : Bool
  archived : Bool
  archiveReason : Option OpportunityArchiveReason
  treatedAt : Option Instant
  rejectedAt : Option Instant
  resolvedExternallyAt : Option Instant
  treatmentNote : Option String
  rejectionReason : Option String
  rejectionNote : Option String
  currentMonthlyCost : ℚ
  estimatedMonthlySavings : ℚ
  currency : String
  severity : String
  confidence : String
  firstSeenAt : Instant
  lastSeenAt : Instant
  firstObservedInCycleAt : Instant
  lastObservedInCycleAt : Instant
  occurrenceCountInCycle : ℕ
  totalOccurrenceCount : ℕ
  firstCollectionRunIdInCycle : Option String
  lastCollectionRunIdInCycle : Option String
  providerMetadata : List (String × Json)
  evidence : List (String × Json)
  capturedAt : Instant
  captureReason : CloseReason
deriving DecidableEq

/-- The unique columns of a snapshot. Rows without an opportunity never collide. -/
def OpportunityHistorySnapshot.uniqueKey (row : OpportunityHistorySnapshot) :
    (String × String) ⊕ String :=
  match row.opportunityId with
  | some opportunity => .inl (row.cycleId, opportunity)
  | none => .inr row.id

/-- The tables of the operational records with those of the history. -/
structure HistoryStore where
  records : Store
  cycles : Table OpportunityHistoryCycle.id OpportunityHistoryCycle.period
  snapshots : Table OpportunityHistorySnapshot.id OpportunityHistorySnapshot.uniqueKey

/-- The zones of the runtime's time zone database: the wall clock of an instant,
and the instant of a wall clock, the earlier one where it is ambiguous. -/
class TimeZones where
  local_ : String → Instant → WallClock
  utc : String → WallClock → Instant

/-- A database that knows UTC only. -/
abbrev utcOnly : TimeZones where
  local_ _ instant := instant
  utc _ clock := clock

/-- `json.loads` of a nested document, beside what the audit uses of the runtime. -/
class DocumentRuntime extends AuditRuntime where
  loads : String → Json

/-- `datetime.isoformat()` of an instant in UTC. -/
def isoformatUtc (instant : Instant) : String :=
  let microseconds := instant - midnight (dateOf instant)
  let seconds := microseconds / 1000000
  let fraction := microseconds % 1000000
  isoformat (dateOf instant) ++ "T" ++ padded 2 (seconds / 3600) ++ ":" ++
    padded 2 (seconds / 60 % 60) ++ ":" ++ padded 2 (seconds % 60) ++
    (if fraction = 0 then "" else "." ++ padded 6 fraction) ++ "+00:00"

section Documents

variable [DocumentRuntime]

/-- An allocation of a coverage opportunity, as the column holds it. -/
def storedAllocation (item : AllocationItem) : Json :=
  .object [("allocation_id", .int item.allocationId),
    ("reservation_id", .string item.reservationId),
    ("reservation_db_id", .int item.reservationDbId),
    ("allocated_units", .float (some item.allocatedUnits)),
    ("match_type", .string item.matchType), ("allocation_scope", .string item.allocationScope),
    ("reason", DocumentRuntime.loads item.reason)]

omit [DocumentRuntime] in
/-- A workload of a reservation opportunity, as the column holds it. -/
def storedWorkload (item : WorkloadItem) : Json :=
  .object [("allocation_id", .int item.allocationId),
    ("db_instance_identifier", .string item.dbInstanceIdentifier),
    ("db_instance_arn", .string item.dbInstanceArn),
    ("allocated_units", .float (some item.allocatedUnits)),
    ("match_type", .string item.matchType), ("allocation_scope", .string item.allocationScope)]

/-- A value of a document, as the column holds it. -/
def storedValue : MetaValue → Json
  | .null => .null
  | .boolean value => .bool value
  | .integer value => .int value
  | .number value => .float (some value)
  | .text value => .string value
  | .instant value => .string (isoformatUtc value)
  | .integers values => .array (values.map Json.int)
  | .texts values => .array (values.map Json.string)
  | .allocations items => .array (items.map storedAllocation)
  | .workloads items => .array (items.map storedWorkload)
  | .document serialized => DocumentRuntime.loads serialized

def storedDocument (document : Metadata) : List (String × Json) :=
  document.map fun entry => (entry.1, storedValue entry.2)

/-- `_safe_json` -/
def safeJson [CaseMapping] (document : Metadata) : List (String × Json) :=
  (dictionary? (sanitizeAuditPayload (payloadOfJson (.object (storedDocument document)))
    16384)).getD []

end Documents

/-- The tags of a resource, whose owner has called one a token. -/
def sampleTags : String := "\x7b\"token\": \"blue\"\x7d"

/-- The runtime on the samples, for evaluation at concrete inputs. -/
abbrev plainDocuments : DocumentRuntime where
  toAuditRuntime := plainRuntime
  loads text := if text = sampleTags then .object [("token", .string "blue")] else .object []

/-- Each period starts before the other ends. -/
def Overlaps (start stop : Instant) (cycle : OpportunityHistoryCycle) : Prop :=
  cycle.periodStart < stop ∧ start < cycle.periodEnd

instance (start stop : Instant) (cycle : OpportunityHistoryCycle) :
    Decidable (Overlaps start stop cycle) :=
  inferInstanceAs (Decidable (_ ∧ _))

/-- `create_cycle`, with the columns of the policy that its callers add. Their
labels and time zones are trimmed and not empty. -/
def createCycle [UuidSource] (store : HistoryStore) (periodStart periodEnd : Instant)
    (label timezone : String) (policy : Option OpportunityManagementPolicy) :
    Except ServiceError (HistoryStore × OpportunityHistoryCycle) := do
  if periodEnd ≤ periodStart then
    throw (.http 422 "period_start must be before period_end")
  if store.cycles.rows.any fun cycle => Overlaps periodStart periodEnd cycle then
    throw (.http 409 "Opportunity history cycle overlaps an existing cycle")
  let (id, records) := store.records.draw
  let cycle : OpportunityHistoryCycle :=
    { id
      label
      periodStart
      periodEnd
      status := .open_
      timezone
      policyVersion := policy.map OpportunityManagementPolicy.version
      closedAt := none
      closedBy := none
      closeReason := none
      metadata := ⟨policy.map policySnapshot, none, none⟩ }
  let cycles ← flushed store.cycles cycle
  return ({ store with records, cycles }, cycle)

/-- The instant lies in the period of the cycle. -/
def OpportunityHistoryCycle.contains (cycle : OpportunityHistoryCycle) (instant : Instant) : Bool :=
  cycle.periodStart ≤ instant ∧ instant < cycle.periodEnd

/-- `collection_coverage` -/
def collectionCoverage (records : Store) (cycle : OpportunityHistoryCycle) : CollectionCoverage :=
  let started := records.collectionRuns.rows.filter fun run => cycle.contains run.startedAt
  { total := started.length
    success := started.countP fun run => run.status = .success
    failed := started.countP fun run => run.status = .failed
    running := started.countP fun run => run.status = .running }

/-- The observations of an opportunity in a period. -/
def observationsIn (records : Store) (cycle : OpportunityHistoryCycle) (finding : Finding) :
    List OpportunityObservation :=
  records.observations.rows.filter fun row =>
    row.opportunityId = finding.id ∧ cycle.contains row.observedAt

/-- Observations are ranked by their time, then by their identifier. -/
def observationRank (row : OpportunityObservation) : Instant ×ₗ String :=
  toLex (row.observedAt, row.id)

/-- The snapshot of an opportunity observed in the period, without its identifier. -/
def snapshotOf [CaseMapping] [DocumentRuntime] (records : Store) (cycle : OpportunityHistoryCycle)
    (reason : CloseReason) (capturedAt : Instant) (finding : Finding) :
    Option OpportunityHistorySnapshot :=
  let observed := observationsIn records cycle finding
  match (sortByKey observationRank observed).head?, lastByKey observationRank observed with
  | some first, some latest =>
    some
      { id := ""
        cycleId := cycle.id
        opportunityId := some finding.id
        fingerprint := finding.fingerprint
        provider := finding.provider
        accountId := finding.accountId
        accountName := (records.cloudAccounts.find? fun account =>
          account.provider = finding.provider ∧ account.nativeAccountId = finding.accountId).map
            CloudAccount.name
        region := finding.region
        service := finding.service
        resourceType := finding.resourceType
        resourceId := finding.resourceId
        resourceName := finding.resourceName
        ruleKey := finding.ruleKey
        title := finding.title
        description := finding.description
        status := finding.status
        presenceStatus := finding.presenceStatus
        needsReview := finding.needsReview
        archived := finding.archivedAt.isSome
        archiveReason := finding.archiveReason
        treatedAt := finding.treatedAt
        rejectedAt := finding.rejectedAt
        resolvedExternallyAt := finding.resolvedExternallyAt
        treatmentNote := finding.treatmentNote
        rejectionReason := finding.rejectionReason
        rejectionNote := finding.rejectionNote
        currentMonthlyCost := latest.currentMonthlyCost
        estimatedMonthlySavings := latest.estimatedMonthlySavings
        currency := latest.currency
        severity := latest.severity
        confidence := latest.confidence
        firstSeenAt := finding.firstSeenAt
        lastSeenAt := finding.lastSeenAt
        firstObservedInCycleAt := first.observedAt
        lastObservedInCycleAt := latest.observedAt
        occurrenceCountInCycle := (observed.map
          OpportunityObservation.collectionRunId).eraseDups.length
        totalOccurrenceCount := finding.totalOccurrenceCount
        firstCollectionRunIdInCycle := some first.collectionRunId
        lastCollectionRunIdInCycle := some latest.collectionRunId
        providerMetadata := safeJson latest.providerMetadata
        evidence := safeJson latest.evidence
        capturedAt
        captureReason := reason }
  | _, _ => none

/-- Add a snapshot under the next identifier. -/
def addSnapshot [UuidSource] (store : HistoryStore) (snapshot : OpportunityHistorySnapshot) :
    Except ServiceError HistoryStore := do
  let (id, records) := store.records.draw
  let snapshots ← flushed store.snapshots { snapshot with id }
  return { store with records, snapshots }

/-- The text of a refused close. -/
def stillCollecting : ServiceError :=
  .http 409 ("Este período ainda possui coletas em andamento. " ++
    "Aguarde a conclusão antes de fechar o ciclo.")

/-- The row of a cycle that is closed. The policy captured at its creation stays. -/
def closedCycle (cycle : OpportunityHistoryCycle) (actor : Option String) (reason : CloseReason)
    (capturedAt : Instant) (snapshotCount : ℕ) (coverage : CollectionCoverage) :
    OpportunityHistoryCycle :=
  { cycle with
    status := .closed
    closedAt := some capturedAt
    closedBy := actor
    closeReason := some reason
    metadata := ⟨cycle.metadata.policy, some snapshotCount, some coverage⟩ }

section Closing

variable [UuidSource] [SystemClock] [CaseMapping] [DocumentRuntime]

/-- `close_cycle`; the reasons that its callers pass are supported ones. -/
def closeCycle (store : HistoryStore) (cycleId : String) (actor : Option String)
    (reason : CloseReason) : Except ServiceError (HistoryStore × OpportunityHistoryCycle) := do
  match store.cycles.find? cycleId with
  | none => throw (.http 404 "Opportunity history cycle not found")
  | some cycle =>
    if cycle.status = .closed then
      return (store, cycle)
    if (collectionCoverage store.records cycle).running ≠ 0 then
      throw stillCollecting
    if store.snapshots.rows.any fun row => row.cycleId = cycle.id then
      throw (.http 409 "Open cycle contains snapshots and cannot be safely closed")
    let (capturedAt, records) := store.records.utcnow
    let findings := sortByKey Finding.id records.findings.rows
    let snapshots := findings.filterMap (snapshotOf records cycle reason capturedAt)
    let written ← snapshots.foldlM addSnapshot { store with records }
    let closed := closedCycle cycle actor reason capturedAt snapshots.length
      (collectionCoverage records cycle)
    return ({ written with cycles := written.cycles.put closed }, closed)

end Closing

section Calendar

/-- A clock within the years 1 to 9999, which a datetime can hold. -/
def InYears (clock : WallClock) : Prop :=
  midnight (dayNumber 1 1 1) ≤ clock ∧ clock < midnight (dayNumber 10000 1 1)

instance (clock : WallClock) : Decidable (InYears clock) :=
  inferInstanceAs (Decidable (_ ∧ _))

/-- A datetime, if it can be held. -/
def held (raised : ServiceError) (clock : WallClock) : Except ServiceError WallClock :=
  if InYears clock then .ok clock else .error raised

/-- What the first of the month after the year raises, if it cannot be held. -/
def yearAfter (year : ℤ) : ServiceError :=
  .value ("year " ++ toString (year + 1) ++ " is out of range")

variable [TimeZones]

/-- `_calendar_bounds`: the local reading, the two midnights, and their instants. -/
def calendarBounds (timestamp : Instant) (timezone : String) :
    Except ServiceError (Instant × Instant × String) := do
  let clock ← held .overflow (TimeZones.local_ timezone timestamp)
  let (year, month, _) := civil (dateOf clock)
  let (start, stop) := monthBounds year month
  let startLocal ← held .overflow (midnight start)
  let endLocal ← held (yearAfter year) (midnight stop)
  let startUtc ← held .overflow (TimeZones.utc timezone startLocal)
  let endUtc ← held .overflow (TimeZones.utc timezone endLocal)
  return (startUtc, endUtc, monthLabel year month)

/-- `_fixed_bounds` -/
def fixedBounds (timestamp : Instant) (timezone : String) (anchor : Date) (lengthDays : ℕ) :
    Except ServiceError (Instant × Instant × String) := do
  let clock ← held .overflow (TimeZones.local_ timezone timestamp)
  let index := (dateOf clock - anchor) / lengthDays
  let startDate := anchor + index * lengthDays
  let endDate := startDate + lengthDays
  let startLocal ← held .overflow (midnight startDate)
  let endLocal ← held .overflow (midnight endDate)
  let startUtc ← held .overflow (TimeZones.utc timezone startLocal)
  let endUtc ← held .overflow (TimeZones.utc timezone endLocal)
  return (startUtc, endUtc, isoformat startDate ++ " · " ++ toString lengthDays ++ " dias")

/-- `cycle_bounds` -/
def cycleBounds (policy : OpportunityManagementPolicy) (timestamp : Instant) :
    Except ServiceError (Instant × Instant × String) :=
  match policy.cycleMode, policy.cycleAnchorDate with
  | .calendarMonth, _ => calendarBounds timestamp policy.cycleTimezone
  | .fixedDays, none => .error (.value "FIXED_DAYS requires cycle_anchor_date")
  | .fixedDays, some anchor =>
    fixedBounds timestamp policy.cycleTimezone anchor policy.cycleLengthDays

/-- The end and the label of a successor that starts at the instant. -/
def successorBounds (policy : OpportunityManagementPolicy) (start : Instant) :
    Except ServiceError (Instant × String) := do
  let clock ← held .overflow (TimeZones.local_ policy.cycleTimezone start)
  match policy.cycleMode with
  | .calendarMonth =>
    -- the first of the next month is later than any clock of this month
    let (year, month, _) := civil (dateOf clock)
    let boundary ← held (yearAfter year) (midnight (monthBounds year month).2)
    let stop ← held .overflow (TimeZones.utc policy.cycleTimezone boundary)
    return (stop, monthLabel year month)
  | .fixedDays =>
    let boundary ← held .overflow (clock + policy.cycleLengthDays * microsecondsPerDay)
    let stop ← held .overflow (TimeZones.utc policy.cycleTimezone boundary)
    return (stop, isoformat (dateOf clock) ++ " · " ++ toString policy.cycleLengthDays ++ " dias")

variable [UuidSource]

/-- `get_or_create_cycle_for` -/
def getOrCreateCycleFor (store : HistoryStore) (policy : OpportunityManagementPolicy)
    (timestamp : Instant) : Except ServiceError (HistoryStore × OpportunityHistoryCycle) :=
  let containing := store.cycles.rows.filter fun cycle => cycle.contains timestamp
  match lastByKey OpportunityHistoryCycle.periodStart containing with
  | some existing => .ok (store, existing)
  | none => do
    let (start, stop, label) ← cycleBounds policy timestamp
    match store.cycles.findUnique? (start, stop) with
    | some exact_ => return (store, exact_)
    | none => createCycle store start stop label policy.cycleTimezone (some policy)

/-- `ensure_next_cycle` -/
def ensureNextCycle (store : HistoryStore) (previous : OpportunityHistoryCycle)
    (policy : OpportunityManagementPolicy) :
    Except ServiceError (HistoryStore × OpportunityHistoryCycle) :=
  match store.cycles.rows.find? fun cycle => cycle.periodStart = previous.periodEnd with
  | some existing => .ok (store, existing)
  | none => do
    let (stop, label) ← successorBounds policy previous.periodEnd
    createCycle store previous.periodEnd stop label policy.cycleTimezone (some policy)

end Calendar

/-- `_adopt_legacy_open_cycles` for one cycle. -/
def adopted (policy : OpportunityManagementPolicy) (cycle : OpportunityHistoryCycle) :
    OpportunityHistoryCycle :=
  if cycle.status = .open_ ∧ cycle.policyVersion = none then
    { cycle with
      policyVersion := some policy.version
      metadata :=
        { cycle.metadata with policy := cycle.metadata.policy.or (some (policySnapshot policy)) } }
  else cycle

theorem id_adopted (policy : OpportunityManagementPolicy) (cycle : OpportunityHistoryCycle) :
    (adopted policy cycle).id = cycle.id := by
  unfold adopted
  split <;> rfl

theorem period_adopted (policy : OpportunityManagementPolicy) (cycle : OpportunityHistoryCycle) :
    (adopted policy cycle).period = cycle.period := by
  unfold adopted
  split <;> rfl

/-- `_adopt_legacy_open_cycles` -/
def adoptLegacyOpenCycles (store : HistoryStore) (policy : OpportunityManagementPolicy) :
    HistoryStore :=
  { store with
    cycles := store.cycles.modify (adopted policy) (id_adopted policy) (period_adopted policy) }

/-- What a call of the automatic close counts. -/
structure AutoCloseResult where
  evaluated : ℕ
  closed : ℕ
  deferredRunning : ℕ
deriving DecidableEq, Repr

/-- The cycles that are due, in the order in which their periods end. -/
def dueCycles (store : HistoryStore) (now : Instant) : List OpportunityHistoryCycle :=
  sortByKey OpportunityHistoryCycle.periodEnd
    (store.cycles.rows.filter fun cycle => cycle.status = .open_ ∧ cycle.periodEnd ≤ now)

section AutoClose

variable [UuidSource] [SystemClock] [CaseMapping] [DocumentRuntime] [TimeZones]

/-- One due cycle. -/
def closeDueCycle (policy : OpportunityManagementPolicy)
    (state : HistoryStore × AutoCloseResult) (cycle : OpportunityHistoryCycle) :
    Except ServiceError (HistoryStore × AutoCloseResult) :=
  let (store, result) := state
  let evaluated := { result with evaluated := result.evaluated + 1 }
  if (collectionCoverage store.records cycle).running ≠ 0 then
    .ok (store, { evaluated with deferredRunning := evaluated.deferredRunning + 1 })
  else do
    let (written, closed) ← closeCycle store cycle.id none .scheduled
    let (ensured, _) ← ensureNextCycle written closed policy
    return (ensured, { evaluated with closed := evaluated.closed + 1 })

/-- `auto_close_due_cycles` -/
def autoCloseDueCycles (store : HistoryStore) (policy : OpportunityManagementPolicy)
    (now : Instant) : Except ServiceError (HistoryStore × AutoCloseResult) :=
  if !policy.enabled || !policy.automaticCycleCloseEnabled then .ok (store, ⟨0, 0, 0⟩)
  else (dueCycles store now).foldlM (closeDueCycle policy) (store, ⟨0, 0, 0⟩)

end AutoClose

end FinopsAnalytics.OpportunityHistoryCycles
