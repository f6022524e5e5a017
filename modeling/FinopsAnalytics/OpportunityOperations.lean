import FinopsAnalytics.ObservationCleanup
import FinopsAnalytics.OpportunityBulkArchiving
import FinopsAnalytics.OpportunityLifecycle
import FinopsAnalytics.OpportunityPresence
import FinopsAnalytics.OpportunityRetention
import FinopsAnalytics.RdsReservationPasses

/-!
# Everything that writes opportunities

Collections, coverage passes, archive operations, human decisions and cleanups
all write the same rows. Each is a transaction here. What an operation did is
said once, and the laws over runs are read off it.
-/

namespace FinopsAnalytics.OpportunityOperations

open PythonText UniqueTables OpportunityRecords OpportunityFingerprint OpportunityReconciliation
  OpportunityCollection OpportunityPresence OpportunityArchiving OpportunityBulkArchiving
  OpportunitySavingRecognition OpportunityLifecycle OpportunityRetention ObservationCleanup
  RdsReservationVerdicts RdsReservationOpportunities RdsReservationPasses TransactionHistories
  Fallible

inductive Operation where
  | collection (operation : CollectionOperation)
  | observe (scanId runId : String) (collected : List CollectedFinding)
  | coverageRun (settings : RdsReservationSettings) (tables : RdsTables)
      (coverageRunId : Option ℤ) (now : Option Instant)
  | retention (settings : RetentionSettings) (now : Option Instant)
  | archive (opportunityId actor : String)
  | unarchive (opportunityId actor : String)
  | bulkArchive (opportunityIds : List String) (actor : String)
  | archiveByFilter (filters : OpportunityFilters) (actor : String) (archiveAll : Bool)
  | treat (opportunityId actor : String) (note : Option String)
  | reject (opportunityId actor reason : String) (note : Option String)
  | reopen (opportunityId actor : String) (note : Option String)
  | bulkTransition (opportunityIds : List String) (actor action : String)
      (reason note : Option String)
  | setLegacyStatus (opportunityId actor : String) (status : LegacyStatus)
      (reason note : Option String)
  | bulkSetLegacyStatus (opportunityIds : List String) (actor : String) (status : LegacyStatus)
      (reason note : Option String)
  | cleanup (summaries : List DashboardAccountSummary) (request : CleanupRequest)

/-- The opportunities that an operation reopens explicitly. -/
def Operation.reopens : Operation → List String
  | .reopen opportunityId _ _ => [opportunityId]
  | .bulkTransition opportunityIds _ action _ _ =>
    match lifecycleAction action with
    | some action => reopenedBy action opportunityIds
    | none => []
  | .setLegacyStatus opportunityId _ status _ _ => reopenedByLegacy status [opportunityId]
  | .bulkSetLegacyStatus opportunityIds _ status _ _ => reopenedByLegacy status opportunityIds
  | _ => []

/-- The items that an operation collects. -/
def Operation.collected : Operation → List CollectedFinding
  | .collection (.persistFindings _ _ collected _) => collected
  | .observe _ _ collected => collected
  | _ => []

/-- Whether an operation persists what a collection found at an instant that it is
given, and not at the reading of the clock. -/
def Operation.dated : Operation → Bool
  | .collection (.persistFindings _ _ _ _) => true
  | _ => false

/-- Whether an operation is one of a collection. -/
def Operation.collects : Operation → Bool
  | .collection _ => true
  | .observe _ _ _ => true
  | _ => false

section Perform

variable [CaseMapping] [AlphabetTable] [Digest] [GeneralFormat] [UuidSource] [SystemClock]

/-- `persist_findings` at the reading of the clock. -/
def observeNow (store : Store) (scanId runId : String) (collected : List CollectedFinding) :
    Except ServiceError Store := do
  let run ← findRun store runId
  let (observedAt, store) := store.utcnow
  let (_, store) ← persistFindings store scanId run collected observedAt
  return store

/-- One operation as a transaction. -/
def perform : Operation → Store → Except ServiceError Store
  | .collection operation, store => OpportunityPresence.step operation store
  | .observe scanId runId collected, store => observeNow store scanId runId collected
  | .coverageRun settings tables coverageRunId now, store =>
    (generateRdsReservationOpportunities settings tables store coverageRunId now).map Prod.snd
  | .retention settings now, store => (OpportunityRetention.run settings store now).map Prod.snd
  | .archive opportunityId actor, store =>
    (OpportunityArchiving.archive store opportunityId actor).map Prod.snd
  | .unarchive opportunityId actor, store =>
    (OpportunityArchiving.unarchive store opportunityId actor).map Prod.snd
  | .bulkArchive opportunityIds actor, store =>
    (OpportunityBulkArchiving.bulkArchive store opportunityIds actor).map Prod.snd
  | .archiveByFilter filters actor archiveAll, store =>
    (OpportunityBulkArchiving.archiveByFilter store filters actor archiveAll).map Prod.snd
  | .treat opportunityId actor note, store =>
    (OpportunityLifecycle.treat store opportunityId actor note).map Prod.snd
  | .reject opportunityId actor reason note, store =>
    (OpportunityLifecycle.reject store opportunityId actor reason note).map Prod.snd
  | .reopen opportunityId actor note, store =>
    (OpportunityLifecycle.reopen store opportunityId actor note).map Prod.snd
  | .bulkTransition opportunityIds actor action reason note, store =>
    OpportunityLifecycle.bulkTransition store opportunityIds actor action reason note
  | .setLegacyStatus opportunityId actor status reason note, store =>
    OpportunityLifecycle.setLegacyStatus store opportunityId actor status reason note
  | .bulkSetLegacyStatus opportunityIds actor status reason note, store =>
    OpportunityLifecycle.bulkSetLegacyStatus store opportunityIds actor status reason note
  | .cleanup summaries request, store =>
    (cleanupObservations summaries request store).map Prod.snd

/-- Observations, decisions and the ledger stay. -/
structure TablesKept (before after : Store) : Prop where
  observations : after.observations = before.observations
  statusHistory : after.statusHistory = before.statusHistory
  ledgerEntries : after.ledgerEntries = before.ledgerEntries
  drawn : before.drawn ≤ after.drawn
  clockReads : before.clockReads ≤ after.clockReads

/-- What an operation that commits did to the store. -/
inductive Effect (operation : Operation) (before after : Store) : Prop where
  | observed (run : CollectionRun) (observedAt : Instant) (clockReads : ℕ)
      (later : before.clockReads ≤ clockReads)
      (persisted : Persisted run operation.collected observedAt { before with clockReads } after)
      (collects : operation.collects = true)
      (timed : operation.dated = false → observedAt = SystemClock.utcnow before.clockReads ∧
        before.clockReads < clockReads)
  | reconciled (findings : Table.Evolves Rewritten (fun _ => False) before.findings after.findings)
      (kept : TablesKept before after) (collects : operation.collects = true)
  | covered (settings : RdsReservationSettings) (tables : RdsTables) (coverageRunId : Option ℤ)
      (now : Option Instant) (isCoverage : operation = .coverageRun settings tables coverageRunId now)
      (pass : CoveragePass) (result : RdsReservationOpportunityResult)
      (accepted : generateRdsReservationOpportunities settings tables before coverageRunId now =
        .ok (result, after))
      (isPass : passOf settings tables before coverageRunId now = .ok pass)
      (observed uncertain : List String) (clockReads : ℕ) (later : before.clockReads ≤ clockReads)
      (outcome : PassOutcome pass { before with clockReads } after result observed uncertain)
  | shelved (step : ArchiveStep Shelved before after)
  | unshelved (step : ArchiveStep Unshelved before after)
  | decided (human : HumanOperation operation.reopens before after)
  | cleaned (shrunk : ObservationsShrink before after)

omit [CaseMapping] [AlphabetTable] [Digest] [GeneralFormat] [UuidSource] [SystemClock] in
theorem map_snd_eq_ok {α : Type} {computation : Except ServiceError (α × Store)} {after : Store} :
    computation.map Prod.snd = .ok after ↔ ∃ value, computation = .ok (value, after) := by
  cases computation with
  | error raised => simp [Except.map]
  | ok pair =>
    obtain ⟨value, store⟩ := pair
    simp [Except.map]

omit [CaseMapping] [AlphabetTable] [Digest] [GeneralFormat] [UuidSource] [SystemClock] in
/-- A reconciliation leaves the decision and the archive of a finding. -/
theorem rewritten_reconciled (store : Store) (run : CollectionRun)
    (rows : List CollectionScopeExecution) (missingThreshold : ℕ) (finding : Finding) :
    Rewritten finding (reconciled store run rows missingThreshold finding) := by
  unfold reconciled
  split_ifs
  · unfold missed
    dsimp only
    split_ifs <;> exact ⟨rfl, rfl, rfl, rfl⟩
  · exact Rewritten.refl finding

omit [AlphabetTable] [GeneralFormat] in
/-- A collection operation other than the persisting of findings leaves the
observations. -/
theorem collection_keeps {operation : CollectionOperation} {store after : Store}
    (observesNothing : ∀ scanId runId collected observedAt,
      operation ≠ .persistFindings scanId runId collected observedAt)
    (committed : OpportunityPresence.step operation store = .ok after) :
    Table.Evolves Rewritten (fun _ => False) store.findings after.findings ∧
      TablesKept store after := by
  have rewritten (findings : after.findings = store.findings) :
      Table.Evolves Rewritten (fun _ => False) store.findings after.findings := by
    rw [findings]
    exact Table.Evolves.refl Rewritten.refl _
  cases operation with
  | beginRun provider accountId startedAt =>
    simp only [OpportunityPresence.step, Store.draw, bind_eq_ok] at committed
    obtain ⟨collectionRuns, -, result⟩ := committed
    cases result
    exact ⟨rewritten rfl, rfl, rfl, rfl, Nat.le_succ _, le_rfl⟩
  | persistFindings scanId runId collected observedAt => exact absurd rfl (observesNothing _ _ _ _)
  | persistScopes runId rows =>
    simp only [OpportunityPresence.step, bind_eq_ok, findRun_eq_ok] at committed
    obtain ⟨run, -, ⟨persisted, last⟩, accepted, result⟩ := committed
    cases result
    obtain ⟨-, scopeExecutions, drawn, later, rfl⟩ :=
      persistCollectionScopeExecutions_eq_ok accepted
    exact ⟨rewritten rfl, rfl, rfl, rfl, later, le_rfl⟩
  | reconcile runId rows missingThreshold =>
    simp only [OpportunityPresence.step, bind_eq_ok, findRun_eq_ok] at committed
    obtain ⟨run, -, guarded⟩ := committed
    split at guarded
    · simp only [bind_eq_ok] at guarded
      obtain ⟨⟨stats, last⟩, accepted, result⟩ := guarded
      cases result
      obtain ⟨-, mapped, findings, presenceHistory, rfl⟩ :=
        reconcileOpportunityPresence_eq_ok accepted
      refine ⟨⟨fun finding member => ?_, fun next member => ?_⟩, rfl, rfl, rfl, le_rfl, le_rfl⟩
      · exact ⟨_, mapped ▸ List.mem_map_of_mem member,
          Finding.id_of_subject (reconciled_subject ..), rewritten_reconciled ..⟩
      · rw [mapped] at member
        obtain ⟨finding, findingMember, rfl⟩ := List.mem_map.mp member
        exact Or.inl ⟨finding, findingMember, (Finding.id_of_subject (reconciled_subject ..)).symm⟩
    · cases guarded
  | finishRun runId status finishedAt =>
    simp only [OpportunityPresence.step, bind_eq_ok, findRun_eq_ok] at committed
    obtain ⟨run, -, result⟩ := committed
    cases result
    exact ⟨rewritten rfl, rfl, rfl, rfl, le_rfl, le_rfl⟩

omit [AlphabetTable] in
theorem effect_collection {operation : CollectionOperation} {store after : Store}
    (committed : OpportunityPresence.step operation store = .ok after) :
    Effect (.collection operation) store after := by
  by_cases observes : ∃ scanId runId collected observedAt,
      operation = .persistFindings scanId runId collected observedAt
  · obtain ⟨scanId, runId, collected, observedAt, rfl⟩ := observes
    simp only [OpportunityPresence.step, bind_eq_ok, findRun_eq_ok] at committed
    obtain ⟨run, -, ⟨count, last⟩, accepted, result⟩ := committed
    cases result
    exact .observed run observedAt store.clockReads le_rfl (persistFindings_eq_ok accepted) rfl
      fun undated => by cases undated
  · obtain ⟨findings, kept⟩ := collection_keeps (fun _ _ _ _ same => observes ⟨_, _, _, _, same⟩)
      committed
    exact .reconciled findings kept rfl

/-- Every operation that commits has its effect. -/
theorem effect_of_perform {operation : Operation} {store after : Store}
    (committed : perform operation store = .ok after) : Effect operation store after := by
  cases operation with
  | collection operation => exact effect_collection committed
  | observe scanId runId collected =>
    simp only [perform, observeNow, bind_eq_ok, findRun_eq_ok] at committed
    obtain ⟨run, -, ⟨count, last⟩, accepted, result⟩ := committed
    cases result
    exact .observed run store.utcnow.1 (store.clockReads + 1) (Nat.le_succ _)
      (persistFindings_eq_ok accepted) rfl fun _ => ⟨rfl, Nat.lt_succ_self _⟩
  | coverageRun settings tables coverageRunId now =>
    obtain ⟨result, accepted⟩ := map_snd_eq_ok.mp committed
    obtain ⟨pass, observed, uncertain, clockReads, isPass, later, outcome⟩ :=
      generate_eq_ok accepted
    exact .covered settings tables coverageRunId now rfl pass result accepted isPass observed
      uncertain clockReads later outcome
  | retention settings now =>
    obtain ⟨result, accepted⟩ := map_snd_eq_ok.mp committed
    exact .shelved (OpportunityRetention.run_eq_ok accepted)
  | archive opportunityId actor =>
    obtain ⟨result, accepted⟩ := map_snd_eq_ok.mp committed
    exact .shelved (archive_eq_ok accepted)
  | unarchive opportunityId actor =>
    obtain ⟨result, accepted⟩ := map_snd_eq_ok.mp committed
    exact .unshelved (unarchive_eq_ok accepted)
  | bulkArchive opportunityIds actor =>
    obtain ⟨result, accepted⟩ := map_snd_eq_ok.mp committed
    exact .shelved (bulkArchive_eq_ok accepted)
  | archiveByFilter filters actor archiveAll =>
    obtain ⟨result, accepted⟩ := map_snd_eq_ok.mp committed
    exact .shelved (archiveByFilterAs_eq_ok accepted)
  | treat opportunityId actor note =>
    obtain ⟨result, accepted⟩ := map_snd_eq_ok.mp committed
    exact .decided (treat_eq_ok accepted)
  | reject opportunityId actor reason note =>
    obtain ⟨result, accepted⟩ := map_snd_eq_ok.mp committed
    exact .decided (reject_eq_ok accepted)
  | reopen opportunityId actor note =>
    obtain ⟨result, accepted⟩ := map_snd_eq_ok.mp committed
    exact .decided (reopen_eq_ok accepted)
  | bulkTransition opportunityIds actor action reason note =>
    obtain ⟨named, isNamed, human⟩ := bulkTransition_eq_ok committed
    refine .decided ?_
    rw [Operation.reopens, isNamed]
    exact human
  | setLegacyStatus opportunityId actor status reason note =>
    exact .decided (setLegacyStatus_eq_ok committed)
  | bulkSetLegacyStatus opportunityIds actor status reason note =>
    exact .decided (bulkSetLegacyStatus_eq_ok committed)
  | cleanup summaries request =>
    obtain ⟨result, accepted⟩ := map_snd_eq_ok.mp committed
    exact .cleaned (cleanupObservations_eq_ok accepted)

end Perform

end FinopsAnalytics.OpportunityOperations
