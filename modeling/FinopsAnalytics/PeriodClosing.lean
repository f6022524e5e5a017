import FinopsAnalytics.Dictionaries
import FinopsAnalytics.GroupedSums
import FinopsAnalytics.OpportunityBulkArchiving
import FinopsAnalytics.OpportunityHistoryCycles

/-!
# Closing a period

An operator sees beforehand how many snapshots a close would write and what the
archive that goes with it would take. The close and the archive are then one
transaction, and the snapshots are written first.
-/

namespace FinopsAnalytics.PeriodClosing

open PythonText (CaseMapping)
open UniqueTables Dictionaries DistinctKeys GroupedSums OpportunityRecords Fallible
  OpportunityBulkArchiving OpportunityHistoryCycles

/-- What an archive by filter would take. -/
structure ArchivePreview where
  matched : ℕ
  toArchive : ℕ
  alreadyArchived : ℕ
  byStatus : List (String × ℕ)
  byProvider : List (String × ℕ)
  byAccount : List (String × ℕ)
  savings : List (String × ℚ)
deriving DecidableEq, Repr

/-- The rows outside the archive that the filters select. -/
def activeRows (store : Store) (filters : OpportunityFilters) : List Finding :=
  store.findings.rows.filter fun finding => filters.selects finding && finding.archivedAt.isNone

/-- `_group_counts` -/
def groupCounts (column : Finding → String) (rows : List Finding) : List (String × ℕ) :=
  (groups column rows).foldl
    (fun counts group =>
      setKey (if group.1 = "" then "unknown" else group.1) group.2.length counts) []

/-- `_savings` -/
def savings (rows : List Finding) : List (String × ℚ) :=
  (groups Finding.currency rows).map fun group =>
    (if group.1 = "" then "USD" else group.1, (group.2.map Finding.estimatedMonthlySavings).sum)

/-- `archive_preview` -/
def archivePreview (store : Store) (filters : OpportunityFilters) (archiveAll : Bool) :
    Except ServiceError ArchivePreview := do
  validateScope filters archiveAll
  let active := activeRows store filters
  let alreadyArchived := countArchived store filters
  return {
    matched := active.length + alreadyArchived
    toArchive := active.length
    alreadyArchived
    byStatus := groupCounts (fun finding => finding.status.text) active
    byProvider := groupCounts Finding.provider active
    byAccount := groupCounts Finding.accountId active
    savings := savings active }

/-- The distinct opportunities observed in the period of a cycle. -/
def snapshotsToCreate (records : Store) (cycle : OpportunityHistoryCycle) : ℕ :=
  ((records.observations.rows.filter fun row => cycle.contains row.observedAt).map
    OpportunityObservation.opportunityId).eraseDups.length

/-- The response of the route `close-preview`. -/
structure CloseCyclePreview where
  cycleId : String
  label : String
  snapshotsToCreate : ℕ
  coverage : CollectionCoverage
deriving DecidableEq, Repr

/-- `close_cycle_preview` -/
def closeCyclePreview (store : HistoryStore) (cycleId : String) :
    Except ServiceError CloseCyclePreview :=
  match store.cycles.find? cycleId with
  | none => .error (.http 404 "Opportunity history cycle not found")
  | some cycle => .ok
    { cycleId := cycle.id
      label := cycle.label
      snapshotsToCreate := snapshotsToCreate store.records cycle
      coverage := collectionCoverage store.records cycle }

structure PeriodClosePreview where
  cycleId : String
  cycleLabel : String
  snapshotsToCreate : ℕ
  collectionRuns : ℕ
  failedCollectionRuns : ℕ
  runningCollectionRuns : ℕ
  archive : ArchivePreview
deriving DecidableEq, Repr

/-- The refusal of a second close. -/
def alreadyClosed : ServiceError := .http 409 "Este período já está fechado."

/-- `period_close_preview` -/
def periodClosePreview (store : HistoryStore) (cycleId : String) (filters : OpportunityFilters)
    (archiveAll : Bool) : Except ServiceError PeriodClosePreview := do
  validateScope filters archiveAll
  match store.cycles.find? cycleId with
  | none => throw (.http 404 "Opportunity history cycle not found")
  | some cycle =>
    if cycle.status = .closed then
      throw alreadyClosed
    let coverage := collectionCoverage store.records cycle
    let archive ← archivePreview store.records filters archiveAll
    return {
      cycleId := cycle.id
      cycleLabel := cycle.label
      snapshotsToCreate := snapshotsToCreate store.records cycle
      collectionRuns := coverage.total
      failedCollectionRuns := coverage.failed
      runningCollectionRuns := coverage.running
      archive }

/-- The result of a close with its archive. -/
structure PeriodCloseResult where
  archive : BulkArchiveResult
  cycleClosed : Bool
  snapshotsCreated : ℕ
  collectionRuns : ℕ
  failedCollectionRuns : ℕ
deriving DecidableEq, Repr

/-- The refusal while collections of the period run. -/
def collectionsRunning (running : ℕ) : ServiceError :=
  .http 409 ("Não é possível fechar este período enquanto existem " ++ toString running ++
    " coletas em andamento.")

/-- `close_period_and_archive` -/
def closePeriodAndArchive [UuidSource] [SystemClock] [CaseMapping] [DocumentRuntime]
    (store : HistoryStore) (cycleId : String) (filters : OpportunityFilters) (archiveAll : Bool)
    (actor : String) : Except ServiceError (PeriodCloseResult × HistoryStore) := do
  validateScope filters archiveAll
  match store.cycles.find? cycleId with
  | none => throw (.http 404 "Opportunity history cycle not found")
  | some cycle =>
    if cycle.status = .closed then
      throw alreadyClosed
    let coverage := collectionCoverage store.records cycle
    if coverage.running ≠ 0 then
      throw (collectionsRunning coverage.running)
    let (written, closed) ← closeCycle store cycleId (some actor) .manual
    let (archive, records) ← archiveByFilterAs "period_close" (some cycleId) written.records
      filters actor archiveAll
    return (
      { archive
        cycleClosed := true
        snapshotsCreated := closed.metadata.snapshotCount.getD 0
        collectionRuns := coverage.total
        failedCollectionRuns := coverage.failed },
      { written with records })

end FinopsAnalytics.PeriodClosing
