import FinopsAnalytics.CleanupSessions
import FinopsAnalytics.OpportunityOperations

/-!
# Runs with all their observations

A run says whether its observations are all there. Whatever writes opportunities
leaves the runs and adds observations, except a cleanup, which marks the runs of a
batch with the deletion of its rows. So a run that is not marked has lost none of
its observations, in every state that is committed.
-/

namespace FinopsAnalytics.DetailedRuns

open PythonText UniqueTables OpportunityRecords OpportunityFingerprint OpportunityReconciliation
  OpportunityCollection OpportunityPresence OpportunityArchiving OpportunitySavingRecognition
  OpportunityLifecycle ObservationCleanup CleanupBatches FaultySessions CleanupSessions
  OpportunityOperations RdsReservationPasses RdsReservationVerdicts Fallible

/-- The mark of a run is never taken back. -/
def StaysMarked (before after : CollectionRun) : Prop :=
  after.detailedObservationsAvailable = true → before.detailedObservationsAvailable = true

theorem StaysMarked.refl (run : CollectionRun) : StaysMarked run run := id

/-- Runs stay with their marks, and a run that has lost an observation is marked. -/
structure RunsHonest (before after : Store) : Prop where
  runs : Table.Carries StaysMarked before.collectionRuns after.collectionRuns
  observations : ∀ row ∈ before.observations.rows,
    (∃ kept ∈ after.observations.rows, SameObservation row kept) ∨
      ∃ run ∈ after.collectionRuns.rows, run.id = row.collectionRunId ∧
        run.detailedObservationsAvailable = false

theorem RunsHonest.trans {first second third : Store} (before : RunsHonest first second)
    (after : RunsHonest second third) : RunsHonest first third := by
  have marked {runId : String} (inSecond : ∃ run ∈ second.collectionRuns.rows, run.id = runId ∧
      run.detailedObservationsAvailable = false) : ∃ run ∈ third.collectionRuns.rows,
        run.id = runId ∧ run.detailedObservationsAvailable = false := by
    obtain ⟨run, member, sameId, isMarked⟩ := inSecond
    obtain ⟨next, nextMember, nextId, stays⟩ := after.runs run member
    refine ⟨next, nextMember, nextId.trans sameId, ?_⟩
    cases available : next.detailedObservationsAvailable with
    | false => rfl
    | true => exact absurd (stays available) (by simp [isMarked])
  refine ⟨before.runs.trans (fun old next kept => old (next kept)) after.runs,
    fun row member => ?_⟩
  rcases before.observations row member with ⟨kept, keptMember, same⟩ | lost
  · rcases after.observations kept keptMember with ⟨last, lastMember, sameLast⟩ | lost
    · exact Or.inl ⟨last, lastMember, same.trans sameLast⟩
    · have sameRun : kept.collectionRunId = row.collectionRunId := congrArg Prod.snd same.2.1
      exact Or.inr (sameRun ▸ lost)
  · exact Or.inr (marked lost)

/-- What leaves the runs and deletes no observation. -/
theorem RunsHonest.of_kept {before after : Store}
    (runs : Table.Carries StaysMarked before.collectionRuns after.collectionRuns)
    (observations : Table.Carries SameObservation before.observations after.observations) :
    RunsHonest before after := by
  refine ⟨runs, fun row member => ?_⟩
  obtain ⟨kept, keptMember, -, same⟩ := observations row member
  exact Or.inl ⟨kept, keptMember, same⟩

theorem RunsHonest.of_same {before after : Store}
    (runs : after.collectionRuns = before.collectionRuns)
    (observations : after.observations = before.observations) : RunsHonest before after :=
  .of_kept (runs ▸ Table.Carries.refl StaysMarked.refl _)
    (observations ▸ Table.Carries.refl SameObservation.refl _)

theorem RunsHonest.refl (store : Store) : RunsHonest store store := .of_same rfl rfl

/-- A batch marks the runs of the rows that it deletes. -/
theorem runsHonest_deleteBatch {store : Store} {batch : List OpportunityObservation}
    (stored : ∀ row ∈ batch, row ∈ store.observations.rows)
    (known : ∀ row ∈ batch, ∃ run ∈ store.collectionRuns.rows, run.id = row.collectionRunId) :
    RunsHonest store (deleteBatch store batch) := by
  have rows := rows_deleteBatch store batch
  refine ⟨fun run member => ?_, fun row member => ?_⟩
  · refine ⟨mark (batch.map (·.collectionRunId)) run, rows ▸ List.mem_map_of_mem member,
      id_mark _ _, ?_⟩
    unfold mark
    split
    · exact fun available => by cases available
    · exact id
  · by_cases deleted : row.id ∈ batch.map (·.id)
    · obtain ⟨listed, inBatch, sameId⟩ := List.mem_map.mp deleted
      obtain rfl := store.observations.eq_of_key (stored listed inBatch) member sameId
      obtain ⟨run, runMember, ofRow⟩ := known listed inBatch
      refine Or.inr ⟨mark (batch.map (·.collectionRunId)) run,
        rows ▸ List.mem_map_of_mem runMember, (id_mark _ _).trans ofRow, ?_⟩
      have named : run.id ∈ batch.map (·.collectionRunId) :=
        ofRow ▸ List.mem_map_of_mem inBatch
      rw [mark, if_pos named]
      rfl
    · exact Or.inl ⟨row, Table.mem_eraseWhere.mpr ⟨member, by simpa using deleted⟩,
        SameObservation.refl row⟩

section Cleanups

variable [CaseMapping]

variable {summaries : List DashboardAccountSummary} {request : CleanupRequest}

theorem known_of_eligible {store : Store} {row : OpportunityObservation}
    (eligible : eligibleObservation summaries request store row = true) :
    ∃ run ∈ store.collectionRuns.rows, run.id = row.collectionRunId := by
  unfold eligibleObservation at eligible
  split at eligible
  · cases eligible
  · rename_i run found
    exact ⟨run, Table.find?_eq_some.mp found⟩

/-- The deletion of eligible rows. -/
theorem runsHonest_expired {store : Store} {batch : List OpportunityObservation}
    (expired : ∀ row ∈ batch, row ∈ expiredRows summaries request store) :
    RunsHonest store (deleteBatch store batch) :=
  runsHonest_deleteBatch (fun row member => (mem_expiredRows.mp (expired row member)).1)
    fun row member => known_of_eligible (mem_expiredRows.mp (expired row member)).2

theorem runsHonest_partly {store state : Store} (partly : Partly summaries request store state) :
    RunsHonest store state := by
  obtain ⟨count, -, rfl⟩ := partly
  exact runsHonest_expired fun row member => List.mem_of_mem_take member

/-- By induction on the rounds. -/
theorem runsHonest_deleteBatches (summaries : List DashboardAccountSummary)
    (request : CleanupRequest) (rounds : ℕ) (state : CleanupState) :
    RunsHonest state.store (deleteBatches summaries request rounds state).store := by
  induction rounds generalizing state with
  | zero => exact RunsHonest.refl state.store
  | succ rounds inductionHypothesis =>
    unfold deleteBatches
    split
    · exact RunsHonest.refl state.store
    · dsimp only
      split
      · exact RunsHonest.refl state.store
      · rename_i first rest batch
        have expired : ∀ row ∈ first :: rest, row ∈ expiredRows summaries request state.store := by
          rw [← batch, nextBatch_eq]
          exact fun row member => List.mem_of_mem_take member
        exact (runsHonest_expired expired).trans
          (inductionHypothesis { store := deleteBatch state.store (first :: rest), .. })

theorem runsHonest_cleanupObservations {store after : Store} {result : RetentionResult}
    (accepted : ObservationCleanup.cleanupObservations summaries request store =
      .ok (result, after)) : RunsHonest store after := by
  unfold ObservationCleanup.cleanupObservations at accepted
  dsimp only at accepted
  split at accepted
  · cases accepted
  · split at accepted
    · cases accepted
    · cases accepted
      exact runsHonest_deleteBatches summaries request _ ⟨0, 0, [], store⟩

end Cleanups

section Decisions

variable [UuidSource] [SystemClock]

variable {store after : Store} {finding : Finding} {actor : String} {reason note : Option String}

theorem statusEvent_runs {toStatus : OpportunityStatus} {action : LifecycleAction}
    {event : OpportunityStatusHistory}
    (accepted : statusEvent store finding actor toStatus action reason note =
      .ok (event, after)) : after.collectionRuns = store.collectionRuns := by
  simp only [statusEvent, Store.utcnow, Store.draw, bind_eq_ok] at accepted
  obtain ⟨statusHistory, -, result⟩ := accepted
  cases result
  rfl

variable {finding next : Finding} {note : Option String}

theorem applyTreat_runs {event : OpportunityStatusHistory}
    (accepted : applyTreat store finding actor note = .ok (event, next, after)) :
    after.collectionRuns = store.collectionRuns := by
  unfold applyTreat at accepted
  split at accepted
  · cases accepted
  · simp only [bind_eq_ok] at accepted
    obtain ⟨⟨recorded, middle⟩, history, result⟩ := accepted
    cases result
    have runs := statusEvent_runs history
    exact runs

theorem applyReject_runs {actor reason : String}
    (accepted : applyReject store finding actor reason note = .ok (next, after)) :
    after.collectionRuns = store.collectionRuns := by
  unfold applyReject at accepted
  split at accepted
  · cases accepted
  · simp only [bind_eq_ok, Store.utcnow] at accepted
    obtain ⟨⟨recorded, middle⟩, history, result⟩ := accepted
    cases result
    have runs := statusEvent_runs history
    exact runs

omit [UuidSource] in
theorem unarchiveForReopen_runs
    (accepted : unarchiveForReopen store finding actor = .ok (next, after)) :
    after.collectionRuns = store.collectionRuns := by
  unfold unarchiveForReopen at accepted
  split at accepted
  · cases accepted
    rfl
  · split at accepted
    · cases accepted
    · cases accepted
      obtain ⟨archiveHistory, clockReads, -, frame⟩ := history_frame
        (store.putFinding (unarchived finding)) (unarchived finding) .unarchive .manual
        (some actor) none (previousContext finding ++ [("trigger", .text "reopen")]) none
      rw [frame]
      rfl

theorem applyReopen_runs {reopenedArchived : Bool}
    (accepted : applyReopen store finding actor note = .ok (reopenedArchived, next, after)) :
    after.collectionRuns = store.collectionRuns := by
  unfold applyReopen at accepted
  split at accepted
  · cases accepted
  · dsimp only at accepted
    split at accepted
    · simp only [bind_eq_ok] at accepted
      obtain ⟨⟨current, middle⟩, left, ⟨event, last⟩, history, result⟩ := accepted
      cases result
      have runs := (statusEvent_runs history).trans (unarchiveForReopen_runs left)
      exact runs
    · simp only [bind_eq_ok] at accepted
      obtain ⟨⟨current, middle⟩, same, ⟨event, last⟩, history, result⟩ := accepted
      cases same
      cases result
      have runs := statusEvent_runs history
      exact runs

theorem applyAction_runs {action : LifecycleAction} {candidate : Option Candidate}
    (accepted : applyAction actor action reason note store finding = .ok (candidate, after)) :
    after.collectionRuns = store.collectionRuns := by
  cases action with
  | treat =>
    simp only [applyAction, bind_eq_ok] at accepted
    obtain ⟨⟨event, next, last⟩, treated, result⟩ := accepted
    cases result
    exact applyTreat_runs treated
  | reject =>
    simp only [applyAction, bind_eq_ok] at accepted
    obtain ⟨⟨next, last⟩, rejected, result⟩ := accepted
    cases result
    exact applyReject_runs rejected
  | reopen =>
    simp only [applyAction, bind_eq_ok] at accepted
    obtain ⟨⟨archived, next, last⟩, reopened, result⟩ := accepted
    cases result
    exact applyReopen_runs reopened

theorem applyLegacyStatus_runs {status : LegacyStatus} {candidate : Option Candidate}
    (accepted : applyLegacyStatus actor status reason note store finding =
      .ok (candidate, after)) : after.collectionRuns = store.collectionRuns := by
  unfold applyLegacyStatus at accepted
  split at accepted
  · cases accepted
    rfl
  · split at accepted
    · exact applyAction_runs accepted
    · exact applyAction_runs accepted
    · simp only [bind_eq_ok] at accepted
      obtain ⟨-, -, ⟨next, last⟩, rejected, result⟩ := accepted
      cases result
      exact applyReject_runs rejected

variable [CaseMapping] [AlphabetTable]

omit [SystemClock] in
theorem recognizeTreatments_runs {store after : Store} {candidates : List Candidate}
    {actor : String} (accepted : recognizeTreatments store candidates actor = .ok after) :
    after.collectionRuns = store.collectionRuns := by
  obtain ⟨ledgerEntries, drawn, -, rfl⟩ := (recognizeTreatments_eq_ok accepted).frame
  rfl

omit [SystemClock] in
theorem transitionAll_runs {store after : Store} {findings : List Finding} {actor : String}
    {transition : Store → Finding → Except ServiceError (Option Candidate × Store)}
    (transitions : ∀ {before finding candidate last},
      transition before finding = .ok (candidate, last) →
        last.collectionRuns = before.collectionRuns)
    (accepted : transitionAll transition store findings actor = .ok after) :
    after.collectionRuns = store.collectionRuns := by
  simp only [transitionAll, bind_eq_ok] at accepted
  obtain ⟨⟨candidates, middle⟩, loop, recognised⟩ := accepted
  refine (recognizeTreatments_runs recognised).trans ?_
  refine foldlM_invariant (fun state => state.2.collectionRuns = store.collectionRuns) ?_ rfl loop
  intro finding listed state next kept step
  simp only [applyAll, bind_eq_ok] at step
  obtain ⟨⟨candidate, last⟩, transitioned, result⟩ := step
  cases result
  exact (transitions transitioned).trans kept

end Decisions

section Operations

variable [CaseMapping] [AlphabetTable] [Digest] [GeneralFormat] [UuidSource] [SystemClock]

omit [AlphabetTable] [GeneralFormat] in
/-- A collection operation adds a run or finishes one. -/
theorem runsHonest_collection {operation : CollectionOperation} {store after : Store}
    (committed : OpportunityPresence.step operation store = .ok after) :
    RunsHonest store after := by
  by_cases observes : ∃ scanId runId collected observedAt,
      operation = .persistFindings scanId runId collected observedAt
  · obtain ⟨scanId, runId, collected, observedAt, rfl⟩ := observes
    simp only [OpportunityPresence.step, bind_eq_ok] at committed
    obtain ⟨run, -, ⟨count, last⟩, accepted, result⟩ := committed
    cases result
    have persisted := persistFindings_eq_ok accepted
    exact .of_kept (persisted.frame.collectionRuns ▸ Table.Carries.refl StaysMarked.refl _)
      persisted.observations.carries
  · have kept := (collection_keeps (fun _ _ _ _ same => observes ⟨_, _, _, _, same⟩) committed).2
    refine .of_kept ?_ (kept.observations ▸ Table.Carries.refl SameObservation.refl _)
    cases operation with
    | beginRun provider accountId startedAt =>
      simp only [OpportunityPresence.step, Store.draw, bind_eq_ok, flushed_eq_ok] at committed
      obtain ⟨collectionRuns, inserted, result⟩ := committed
      cases result
      exact Table.Carries.insert StaysMarked.refl inserted
    | persistFindings scanId runId collected observedAt =>
      exact absurd ⟨_, _, _, _, rfl⟩ observes
    | persistScopes runId rows =>
      simp only [OpportunityPresence.step, bind_eq_ok] at committed
      obtain ⟨run, -, ⟨persisted, last⟩, accepted, result⟩ := committed
      cases result
      obtain ⟨-, scopeExecutions, drawn, -, rfl⟩ :=
        persistCollectionScopeExecutions_eq_ok accepted
      exact Table.Carries.refl StaysMarked.refl _
    | reconcile runId rows missingThreshold =>
      simp only [OpportunityPresence.step, bind_eq_ok] at committed
      obtain ⟨run, -, guarded⟩ := committed
      split at guarded
      · simp only [bind_eq_ok] at guarded
        obtain ⟨⟨stats, last⟩, accepted, result⟩ := guarded
        cases result
        obtain ⟨-, -, findings, presenceHistory, rfl⟩ :=
          reconcileOpportunityPresence_eq_ok accepted
        exact Table.Carries.refl StaysMarked.refl _
      · cases guarded
    | finishRun runId status finishedAt =>
      simp only [OpportunityPresence.step, bind_eq_ok, findRun_eq_ok] at committed
      obtain ⟨run, found, result⟩ := committed
      cases result
      obtain ⟨stored, -⟩ := Table.find?_eq_some.mp found
      refine Table.Carries.put StaysMarked.refl _ fun old member sameId _ => ?_
      obtain rfl := store.collectionRuns.eq_of_key member stored sameId
      exact StaysMarked.refl old

variable {before after : Store}

omit [CaseMapping] [AlphabetTable] [Digest] [GeneralFormat] [UuidSource] [SystemClock] in
theorem runsHonest_archiveStep {related : Finding → Finding → Prop}
    (step : ArchiveStep related before after) : RunsHonest before after := by
  obtain ⟨findings, archiveHistory, clockReads, -, rfl⟩ := step.frame
  exact .of_same rfl rfl

omit [CaseMapping] [AlphabetTable] [Digest] [GeneralFormat] [UuidSource] in
/-- A human decision that leaves the runs. -/
theorem runsHonest_decision {reopened : List String} (human : HumanOperation reopened before after)
    (runs : after.collectionRuns = before.collectionRuns) : RunsHonest before after := by
  obtain ⟨middle, candidates, -, frame, -, grown⟩ := human
  obtain ⟨ledgerEntries, drawn, -, rfl⟩ := grown.frame
  exact .of_same runs frame.observations

/-- Whatever writes opportunities is honest about the runs. -/
theorem runsHonest_of_perform {operation : Operation}
    (committed : perform operation before = .ok after) : RunsHonest before after := by
  cases operation with
  | collection operation => exact runsHonest_collection committed
  | observe scanId runId collected =>
    simp only [perform, observeNow, bind_eq_ok] at committed
    obtain ⟨run, -, ⟨count, last⟩, accepted, result⟩ := committed
    cases result
    have persisted := persistFindings_eq_ok accepted
    exact .of_kept (persisted.frame.collectionRuns ▸ Table.Carries.refl StaysMarked.refl _)
      persisted.observations.carries
  | coverageRun settings tables coverageRunId now =>
    obtain ⟨result, accepted⟩ := map_snd_eq_ok.mp committed
    obtain ⟨pass, observed, uncertain, clockReads, -, -, outcome⟩ := generate_eq_ok accepted
    obtain ⟨findings, drawn, -, rfl⟩ := outcome.frame
    exact .of_same rfl rfl
  | retention settings now =>
    obtain ⟨result, accepted⟩ := map_snd_eq_ok.mp committed
    exact runsHonest_archiveStep (OpportunityRetention.run_eq_ok accepted)
  | archive opportunityId actor =>
    obtain ⟨result, accepted⟩ := map_snd_eq_ok.mp committed
    exact runsHonest_archiveStep (archive_eq_ok accepted)
  | unarchive opportunityId actor =>
    obtain ⟨result, accepted⟩ := map_snd_eq_ok.mp committed
    exact runsHonest_archiveStep (unarchive_eq_ok accepted)
  | bulkArchive opportunityIds actor =>
    obtain ⟨result, accepted⟩ := map_snd_eq_ok.mp committed
    exact runsHonest_archiveStep (OpportunityBulkArchiving.bulkArchive_eq_ok accepted)
  | archiveByFilter filters actor archiveAll =>
    obtain ⟨result, accepted⟩ := map_snd_eq_ok.mp committed
    exact runsHonest_archiveStep (OpportunityBulkArchiving.archiveByFilterAs_eq_ok accepted)
  | treat opportunityId actor note =>
    obtain ⟨result, accepted⟩ := map_snd_eq_ok.mp committed
    refine runsHonest_decision (treat_eq_ok accepted) ?_
    simp only [treat, bind_eq_ok] at accepted
    obtain ⟨finding, -, ⟨event, next, middle⟩, treated, last, recognised, result⟩ := accepted
    cases result
    exact (recognizeTreatments_runs recognised).trans (applyTreat_runs treated)
  | reject opportunityId actor reason note =>
    obtain ⟨result, accepted⟩ := map_snd_eq_ok.mp committed
    refine runsHonest_decision (reject_eq_ok accepted) ?_
    simp only [reject, bind_eq_ok] at accepted
    obtain ⟨-, -, finding, -, rejected⟩ := accepted
    exact applyReject_runs rejected
  | reopen opportunityId actor note =>
    obtain ⟨result, accepted⟩ := map_snd_eq_ok.mp committed
    refine runsHonest_decision (reopen_eq_ok accepted) ?_
    simp only [reopen, bind_eq_ok] at accepted
    obtain ⟨finding, -, ⟨archived, next, last⟩, reopened, result⟩ := accepted
    cases result
    exact applyReopen_runs reopened
  | bulkTransition opportunityIds actor action reason note =>
    obtain ⟨named, -, human⟩ := bulkTransition_eq_ok committed
    refine runsHonest_decision human ?_
    obtain ⟨chosen, ordered, -, -, transitioned⟩ := bulkTransition_ordered committed
    exact transitionAll_runs applyAction_runs transitioned
  | setLegacyStatus opportunityId actor status reason note =>
    refine runsHonest_decision (setLegacyStatus_eq_ok committed) ?_
    simp only [perform, setLegacyStatus, bind_eq_ok] at committed
    obtain ⟨finding, -, transitioned⟩ := committed
    exact transitionAll_runs applyLegacyStatus_runs transitioned
  | bulkSetLegacyStatus opportunityIds actor status reason note =>
    refine runsHonest_decision (bulkSetLegacyStatus_eq_ok committed) ?_
    simp only [perform, bulkSetLegacyStatus, bind_eq_ok] at committed
    obtain ⟨ordered, -, transitioned⟩ := committed
    exact transitionAll_runs applyLegacyStatus_runs transitioned
  | cleanup summaries request =>
    obtain ⟨result, accepted⟩ := map_snd_eq_ok.mp committed
    exact runsHonest_cleanupObservations accepted

end Operations

end FinopsAnalytics.DetailedRuns
