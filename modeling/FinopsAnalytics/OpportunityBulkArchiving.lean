import FinopsAnalytics.DistinctKeys
import FinopsAnalytics.OpportunityArchiving
import Mathlib.Data.String.Basic

/-!
# Archiving many opportunities

A bulk archive names its opportunities; an archive by filter takes those that a
filter of the backlog selects, in batches. Opportunities in the archive are
counted and left alone.
-/

namespace FinopsAnalytics.OpportunityBulkArchiving

open PythonText UniqueTables DistinctKeys OpportunityRecords OpportunityArchiving Fallible

/-- `BULK_BATCH_SIZE`. -/
def bulkBatchSize : ℕ := 500

/-- `AUDIT_SAMPLE_SIZE`. -/
def auditSampleSize : ℕ := 20

structure BulkArchiveResult where
  requested : ℕ
  matched : ℕ
  archived : ℕ
  alreadyArchived : ℕ
  failed : ℕ
  sampleIds : List String
  idsTruncated : Bool
deriving DecidableEq, Repr

/-- The filters of a request: whether they restrict the backlog, and the rows
that their query selects. -/
structure OpportunityFilters where
  restricting : Bool
  selects : Finding → Bool

/-- The identifiers archived so far, and the number of those that were archived
already. -/
structure BulkArchiveState where
  updated : List String
  alreadyArchived : ℕ
  store : Store

/-- The result of an operation on some identifiers. -/
def BulkArchiveState.result (state : BulkArchiveState) (requested matched alreadyArchived : ℕ) :
    BulkArchiveResult where
  requested := requested
  matched := matched
  archived := state.updated.length
  alreadyArchived := alreadyArchived
  failed := 0
  sampleIds := state.updated.take auditSampleSize
  idsTruncated := auditSampleSize < state.updated.length

/-- `_validate_scope`. -/
def validateScope (filters : OpportunityFilters) (archiveAll : Bool) : Except ServiceError Unit :=
  if filters.restricting || archiveAll then .ok ()
  else .error (.http 422
    "Esta operação exige confirmação explícita para arquivar todo o backlog.")

/-- `_matching_active_ids`. -/
def matchingActiveIds (store : Store) (filters : OpportunityFilters) : List String :=
  sortByKey id ((store.findings.rows.filter fun finding =>
    filters.selects finding && finding.archivedAt.isNone).map (·.id))

/-- The number of archived rows that the filters select. -/
def countArchived (store : Store) (filters : OpportunityFilters) : ℕ :=
  store.findings.rows.countP fun finding => filters.selects finding && finding.archivedAt.isSome

section BulkArchiving

variable [SystemClock]

/-- The entry of a cycle in the context of an event, where the operation closes one. -/
def cycleContext (cycleId : Option String) : Metadata :=
  if truthy cycleId then [("cycle_id", .text (orEmpty cycleId))] else []

/-- The pass of the loop over the row with an identifier. -/
def archiveRow (actor operation : String) (cycleId : Option String) (operationAt : Instant)
    (state : BulkArchiveState) (opportunityId : String) : BulkArchiveState :=
  match state.store.findings.find? opportunityId with
  | none => state
  | some finding =>
    if finding.archivedAt.isSome then
      { state with alreadyArchived := state.alreadyArchived + 1 }
    else
      let finding := archivedManually finding operationAt actor
      { state with
        updated := state.updated ++ [finding.id]
        store := history (state.store.putFinding finding) finding .archive .manual (some actor)
          none (("operation", .text operation) :: (statusContext finding ++ cycleContext cycleId))
          (some operationAt) }

/-- `_archive_locked`, for the locked rows with some identifiers. -/
def archiveLocked (actor operation : String) (cycleId : Option String) (operationAt : Instant)
    (state : BulkArchiveState) (ids : List String) : BulkArchiveState :=
  ids.foldl (archiveRow actor operation cycleId operationAt) state

def bulkArchive (store : Store) (opportunityIds : List String) (actor : String) :
    Except ServiceError (BulkArchiveResult × Store) := do
  let ids := sortByKey id opportunityIds.eraseDups
  if 500 < ids.length then
    throw (.http 422 "Bulk archive supports at most 500 IDs")
  if ids.any fun opportunityId => (store.findings.find? opportunityId).isNone then
    throw (.http 404 "One or more opportunities were not found")
  let (operationAt, store) := store.utcnow
  let state := archiveLocked actor "bulk" none operationAt ⟨[], 0, store⟩ ids
  return (state.result ids.length ids.length state.alreadyArchived, state.store)

/-- `archive_by_filter`, for an operation and the cycle that it closes. -/
def archiveByFilterAs (operation : String) (cycleId : Option String) (store : Store)
    (filters : OpportunityFilters) (actor : String) (archiveAll : Bool) :
    Except ServiceError (BulkArchiveResult × Store) := do
  validateScope filters archiveAll
  let activeIds := matchingActiveIds store filters
  let alreadyArchived := countArchived store filters
  let (operationAt, store) := store.utcnow
  let state := (activeIds.toChunks bulkBatchSize).foldl
    (archiveLocked actor operation cycleId operationAt) ⟨[], 0, store⟩
  return (state.result activeIds.length (activeIds.length + alreadyArchived) alreadyArchived,
    state.store)

def archiveByFilter (store : Store) (filters : OpportunityFilters) (actor : String)
    (archiveAll : Bool) : Except ServiceError (BulkArchiveResult × Store) :=
  archiveByFilterAs "filter" none store filters actor archiveAll

/-- One row is shelved, or the row is in the archive or missing. -/
theorem archiveStep_archiveRow (actor operation : String) (cycleId : Option String)
    (operationAt : Instant) (state : BulkArchiveState) (opportunityId : String) :
    ArchiveStep Shelved state.store
      (archiveRow actor operation cycleId operationAt state opportunityId).store := by
  unfold archiveRow
  split
  · exact ArchiveStep.refl Shelved.refl state.store
  · rename_i finding found
    split
    · exact ArchiveStep.refl Shelved.refl state.store
    · rename_i active
      have shelved : Shelved finding (archivedManually finding operationAt actor) :=
        Or.inr ⟨by simpa using active, _, _, _, rfl⟩
      exact archiveStep_history Shelved.refl (Table.find?_eq_some.mp found).1 shelved rfl .archive
        .manual (some actor) none _ (some operationAt)

theorem archiveStep_archiveLocked (actor operation : String) (cycleId : Option String)
    (operationAt : Instant) (state : BulkArchiveState) (ids : List String) :
    ArchiveStep Shelved state.store
      (archiveLocked actor operation cycleId operationAt state ids).store :=
  List.foldlRecOn (motive := fun current => ArchiveStep Shelved state.store current.store) ids _
    (ArchiveStep.refl Shelved.refl state.store) fun current step opportunityId _ =>
      step.trans (archiveStep_archiveRow actor operation cycleId operationAt current opportunityId)

/-- A bulk archive shelves findings. -/
theorem bulkArchive_eq_ok {store after : Store} {opportunityIds : List String} {actor : String}
    {result : BulkArchiveResult}
    (accepted : bulkArchive store opportunityIds actor = .ok (result, after)) :
    ArchiveStep Shelved store after := by
  unfold bulkArchive at accepted
  dsimp only at accepted
  split at accepted
  · cases accepted
  · split at accepted
    · cases accepted
    · cases accepted
      exact (archiveStep_utcnow store).trans
        (archiveStep_archiveLocked actor _ _ _ ⟨[], 0, store.utcnow.2⟩ _)

/-- So does an archive by filter, on its own or with the close of a cycle. -/
theorem archiveByFilterAs_eq_ok {store after : Store} {operation : String}
    {cycleId : Option String} {filters : OpportunityFilters} {actor : String} {archiveAll : Bool}
    {result : BulkArchiveResult}
    (accepted : archiveByFilterAs operation cycleId store filters actor archiveAll =
      .ok (result, after)) : ArchiveStep Shelved store after := by
  simp only [archiveByFilterAs, bind_eq_ok] at accepted
  obtain ⟨-, -, result⟩ := accepted
  cases result
  refine (archiveStep_utcnow store).trans ?_
  exact List.foldlRecOn
    (motive := fun current => ArchiveStep Shelved store.utcnow.2 current.store) _ _
    (b := ⟨[], 0, store.utcnow.2⟩) (ArchiveStep.refl Shelved.refl _) fun current step ids _ =>
      step.trans (archiveStep_archiveLocked actor _ _ _ current ids)

end BulkArchiving

end FinopsAnalytics.OpportunityBulkArchiving
