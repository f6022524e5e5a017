import FinopsAnalytics.DistinctKeys
import FinopsAnalytics.Fallible
import FinopsAnalytics.OpportunityRecords
import Mathlib.Data.Prod.Lex
import Mathlib.Data.String.Basic

/-!
# Cleaning up old observations

Observations before a cutoff are deleted in batches, oldest first. The latest two
successful runs of an account and the runs that a dashboard summary refers to
keep theirs.
-/

namespace FinopsAnalytics.ObservationCleanup

open PythonText UniqueTables DistinctKeys OpportunityRecords Fallible

/-- The runs that a dashboard summary of an account refers to. -/
structure DashboardAccountSummary where
  collectionRunId : Option String
  baselineCollectionRunId : Option String
deriving DecidableEq, Repr

structure RetentionResult where
  eligibleAtStart : ℕ
  deletedObservations : ℕ
  batches : ℕ
  collectionRunsMarkedPartial : ℕ
  maxRowsReached : Bool
deriving DecidableEq, Repr

/-- The arguments of a cleanup. A bound of zero rows is no bound. -/
structure CleanupRequest where
  cutoff : Instant
  batchSize : ℤ
  maxRows : ℤ
  provider : Option String
  accountId : Option String
deriving DecidableEq, Repr

/-- Successful runs of the same account that are newer, by start and identifier. -/
def newerSuccesses (store : Store) (run : CollectionRun) : ℕ :=
  store.collectionRuns.rows.countP fun newer =>
    newer.status = .success && newer.provider = run.provider &&
      newer.accountId = run.accountId &&
      decide (toLex (run.startedAt, run.id) < toLex (newer.startedAt, newer.id))

/-- `_protected_run_predicate`. -/
def protectedRun (summaries : List DashboardAccountSummary) (store : Store)
    (run : CollectionRun) : Bool :=
  (run.status = .success && newerSuccesses store run < 2) ||
    summaries.any fun summary =>
      summary.collectionRunId = some run.id || summary.baselineCollectionRunId = some run.id

section Cleanup

variable [CaseMapping]

/-- `_scope`. -/
def inScope (request : CleanupRequest) (run : CollectionRun) : Bool :=
  (!truthy request.provider || run.provider = CaseMapping.lower (orEmpty request.provider)) &&
    (!truthy request.accountId || some run.accountId = request.accountId)

/-- `_old_rows_statement` with `eligible_only`. -/
def eligibleObservation (summaries : List DashboardAccountSummary) (request : CleanupRequest)
    (store : Store) (observation : OpportunityObservation) : Bool :=
  match store.collectionRuns.find? observation.collectionRunId with
  | none => false
  | some run =>
    observation.observedAt < request.cutoff && inScope request run &&
      !protectedRun summaries store run

/-- The rows that the next batch deletes. -/
def nextBatch (summaries : List DashboardAccountSummary) (request : CleanupRequest)
    (store : Store) (limit : ℕ) : List OpportunityObservation :=
  (sortByKey (fun row => toLex (row.observedAt, row.id))
    (store.observations.rows.filter (eligibleObservation summaries request store))).take limit

/-- The run without its detailed observations. -/
def markedPartial (run : CollectionRun) : CollectionRun :=
  { run with detailedObservationsAvailable := false }

/-- The runs of a batch marked and its rows deleted. -/
def deleteBatch (store : Store) (batch : List OpportunityObservation) : Store :=
  { store with
    collectionRuns := (store.collectionRuns.rows.filter fun run =>
      run.id ∈ batch.map (·.collectionRunId)).foldl
        (fun runs run => runs.put (markedPartial run)) store.collectionRuns
    observations := store.observations.eraseWhere fun row => row.id ∈ batch.map (·.id) }

structure CleanupState where
  deleted : ℕ
  batches : ℕ
  affectedRuns : List String
  store : Store

/-- The batches until none is left or the bound is reached. Every batch deletes a
row, so there are at most as many batches as rows. -/
def deleteBatches (summaries : List DashboardAccountSummary) (request : CleanupRequest) :
    ℕ → CleanupState → CleanupState
  | 0, state => state
  | remaining + 1, state =>
    if request.maxRows ≠ 0 ∧ request.maxRows ≤ state.deleted then state
    else
      let limit := if request.maxRows ≠ 0 then
        min request.batchSize (request.maxRows - state.deleted) else request.batchSize
      match nextBatch summaries request state.store limit.toNat with
      | [] => state
      | first :: rest =>
        deleteBatches summaries request remaining
          { deleted := state.deleted + (first :: rest).length
            batches := state.batches + 1
            affectedRuns := state.affectedRuns ++ (first :: rest).map (·.collectionRunId)
            store := deleteBatch state.store (first :: rest) }

/-- `cleanup_observations`. -/
def cleanupObservations (summaries : List DashboardAccountSummary) (request : CleanupRequest)
    (store : Store) : Except ServiceError (RetentionResult × Store) := do
  if request.batchSize ≤ 0 then
    throw (.value "Batch size must be greater than zero")
  if request.maxRows < 0 then
    throw (.value "Max rows must be zero or greater")
  let eligible := store.observations.rows.countP (eligibleObservation summaries request store)
  let state := deleteBatches summaries request (store.observations.rows.length + 1)
    ⟨0, 0, [], store⟩
  return (
    { eligibleAtStart := eligible
      deletedObservations := state.deleted
      batches := state.batches
      collectionRunsMarkedPartial := state.affectedRuns.eraseDups.length
      maxRowsReached := request.maxRows ≠ 0 && decide (request.maxRows ≤ state.deleted) &&
        decide (state.deleted < eligible) },
    state.store)

/-- Rows of observations are only deleted; otherwise only the runs change. -/
def ObservationsShrink (before after : Store) : Prop :=
  ∃ collectionRuns observations,
    (∀ row ∈ observations.rows, row ∈ before.observations.rows) ∧
    after = { before with collectionRuns, observations }

omit [CaseMapping] in
theorem observationsShrink_deleteBatch (store : Store) (batch : List OpportunityObservation) :
    ObservationsShrink store (deleteBatch store batch) :=
  ⟨_, _, fun _ member => (Table.mem_eraseWhere.mp member).1, rfl⟩

omit [CaseMapping] in
theorem ObservationsShrink.trans {first second third : Store}
    (before : ObservationsShrink first second) (after : ObservationsShrink second third) :
    ObservationsShrink first third := by
  obtain ⟨runs, observations, kept, rfl⟩ := before
  obtain ⟨laterRuns, laterObservations, laterKept, rfl⟩ := after
  exact ⟨_, _, fun row member => kept row (laterKept row member), rfl⟩

theorem observationsShrink_deleteBatches (summaries : List DashboardAccountSummary)
    (request : CleanupRequest) (remaining : ℕ) (state : CleanupState) :
    ObservationsShrink state.store (deleteBatches summaries request remaining state).store := by
  have same (store : Store) : ObservationsShrink store store := ⟨_, _, fun _ => id, rfl⟩
  induction remaining generalizing state with
  | zero => exact same state.store
  | succ remaining inductionHypothesis =>
    unfold deleteBatches
    split
    · exact same state.store
    · dsimp only
      split
      · exact same state.store
      · rename_i first rest batch
        exact (observationsShrink_deleteBatch state.store (first :: rest)).trans
          (inductionHypothesis { store := deleteBatch state.store (first :: rest), .. })

/-- A cleanup only deletes observations. -/
theorem cleanupObservations_eq_ok {summaries : List DashboardAccountSummary}
    {request : CleanupRequest} {store after : Store} {result : RetentionResult}
    (accepted : cleanupObservations summaries request store = .ok (result, after)) :
    ObservationsShrink store after := by
  unfold cleanupObservations at accepted
  dsimp only at accepted
  split at accepted
  · cases accepted
  · split at accepted
    · cases accepted
    · cases accepted
      exact observationsShrink_deleteBatches summaries request _ ⟨0, 0, [], store⟩

end Cleanup

end FinopsAnalytics.ObservationCleanup
