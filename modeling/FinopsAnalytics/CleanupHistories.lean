import FinopsAnalytics.DetailedRuns

/-!
# What cleanups do over a run

A cleanup ends and has deleted old observations of unprotected runs only, all of
them where it has no limit, and in batches of any size the same ones. Whatever else
commits before, between and after its batches, a run that is not marked has all the
observations that it ever had.
-/

namespace FinopsAnalytics.CleanupHistories

open PythonText UniqueTables DistinctKeys OpportunityRecords OpportunityFingerprint
  OpportunityCollection ObservationCleanup CleanupBatches FaultySessions CleanupSessions
  DetailedRuns OpportunityOperations RdsReservationVerdicts Fallible

section Counting

/-- A batch of stored rows is deleted whole. -/
theorem length_deleteBatch {store : Store} {batch : List OpportunityObservation}
    (stored : ∀ row ∈ batch, row ∈ store.observations.rows)
    (distinct : (batch.map (·.id)).Nodup) :
    (deleteBatch store batch).observations.rows.length + batch.length =
      store.observations.rows.length := by
  have sameIds : ((store.observations.rows.filter fun row =>
      decide (row.id ∈ batch.map (·.id))).map (·.id)).Perm (batch.map (·.id)) := by
    refine (List.perm_ext_iff_of_nodup
      (store.observations.distinctKeys.sublist (List.filter_sublist.map _)) distinct).mpr fun id => ?_
    constructor
    · intro listed
      obtain ⟨row, member, rfl⟩ := List.mem_map.mp listed
      simpa using (List.mem_filter.mp member).2
    · intro listed
      obtain ⟨row, member, rfl⟩ := List.mem_map.mp listed
      exact List.mem_map_of_mem (List.mem_filter.mpr ⟨stored row member, by simpa using listed⟩)
  have deleted := sameIds.length_eq
  rw [List.length_map, List.length_map] at deleted
  have split := List.length_eq_length_filter_add (l := store.observations.rows)
    fun row => decide (row.id ∈ batch.map (·.id))
  simp only [deleteBatch, Table.eraseWhere]
  omega

end Counting

section Cleanups

variable [CaseMapping]

/-- The observations after a cleanup are earlier ones, and those that are gone are old
ones of unprotected runs, no more than it was allowed to delete. -/
structure DeletesExpired (summaries : List DashboardAccountSummary) (request : CleanupRequest)
    (before after : Store) : Prop where
  kept : ∀ row ∈ after.observations.rows, row ∈ before.observations.rows
  expired : ∀ row ∈ before.observations.rows, row ∉ after.observations.rows →
    row.observedAt < request.cutoff ∧ ∃ run ∈ before.collectionRuns.rows,
      run.id = row.collectionRunId ∧ protectedRun summaries before run = false
  bounded : request.maxRows ≠ 0 →
    before.observations.rows.length ≤ after.observations.rows.length + request.maxRows.toNat

variable {summaries : List DashboardAccountSummary} {request : CleanupRequest}

theorem expired_of_eligible {store : Store} {row : OpportunityObservation}
    (eligible : eligibleObservation summaries request store row = true) :
    row.observedAt < request.cutoff ∧ ∃ run ∈ store.collectionRuns.rows,
      run.id = row.collectionRunId ∧ protectedRun summaries store run = false := by
  unfold eligibleObservation at eligible
  split at eligible
  · cases eligible
  · rename_i run found
    obtain ⟨member, sameId⟩ := Table.find?_eq_some.mp found
    simp only [Bool.and_eq_true, decide_eq_true_eq, Bool.not_eq_true'] at eligible
    exact ⟨eligible.1.1, run, member, sameId, eligible.2⟩

theorem length_withoutOldest {store : Store} {count : ℕ}
    (within : count ≤ (expiredRows summaries request store).length) :
    (withoutOldest summaries request store count).observations.rows.length + count =
      store.observations.rows.length := by
  have stored : ∀ row ∈ (expiredRows summaries request store).take count,
      row ∈ store.observations.rows :=
    fun row member => (mem_expiredRows.mp (List.mem_of_mem_take member)).1
  have deleted := length_deleteBatch stored
    ((nodup_expiredRows summaries request store).sublist ((List.take_sublist _ _).map _))
  rwa [List.length_take, Nat.min_eq_left within] at deleted

/-- Part of the batches deletes the oldest of the expired rows. -/
theorem deletesExpired_partly {store state : Store} (partly : Partly summaries request store state) :
    DeletesExpired summaries request store state := by
  obtain ⟨count, allowed, rfl⟩ := partly
  refine ⟨fun row member => (Table.mem_eraseWhere.mp member).1, fun row member gone => ?_,
    fun limited => ?_⟩
  · have listed : row.id ∈ ((expiredRows summaries request store).take count).map (·.id) := by
      by_contra unlisted
      exact gone (Table.mem_eraseWhere.mpr ⟨member, by simpa using unlisted⟩)
    obtain ⟨expired, inBatch, sameId⟩ := List.mem_map.mp listed
    obtain ⟨stored, eligible⟩ := mem_expiredRows.mp (List.mem_of_mem_take inBatch)
    obtain rfl := store.observations.eq_of_key stored member sameId
    exact expired_of_eligible eligible
  · have total := length_withoutOldest (allowed.trans (deletable_le summaries request store))
    have limit : deletable summaries request store ≤ request.maxRows.toNat := by
      rw [deletable, if_neg limited]
      exact Nat.min_le_left _ _
    omega

/-- Without all eligible rows the others are left. -/
theorem rows_withoutOldest (summaries : List DashboardAccountSummary) (request : CleanupRequest)
    (store : Store) :
    (withoutOldest summaries request store
        (expiredRows summaries request store).length).observations.rows =
      store.observations.rows.filter fun row =>
        !eligibleObservation summaries request store row := by
  rw [withoutOldest, List.take_length]
  simp only [deleteBatch, Table.eraseWhere]
  refine List.filter_congr fun row member => ?_
  rw [Bool.eq_iff_iff]
  simp only [Bool.not_eq_true', decide_eq_false_iff_not]
  constructor
  · intro unlisted
    rw [Bool.eq_false_iff]
    exact fun eligible => unlisted (List.mem_map_of_mem (mem_expiredRows.mpr ⟨member, eligible⟩))
  · intro kept listed
    obtain ⟨expired, inBatch, sameId⟩ := List.mem_map.mp listed
    obtain ⟨stored, eligible⟩ := mem_expiredRows.mp inBatch
    obtain rfl := store.observations.eq_of_key stored member sameId
    rw [kept] at eligible
    cases eligible

/-- The run of a cleanup on a store. -/
def cleanupOn (store : Store) (faults : CleanupFaults) (rounds : ℕ)
    (summaries : List DashboardAccountSummary) (request : CleanupRequest) :
    Except ServiceError RetentionResult × CleanupSession :=
  cleanupObservations faults rounds summaries request (Session.start store)

/-- What is asked of the cleanups of a store. With more rounds than rows are eligible a
cleanup has ended. -/
structure CleanupSound (summaries : List DashboardAccountSummary) (request : CleanupRequest)
    (store : Store) : Prop where
  terminates : ∀ faults rounds further, (expiredRows summaries request store).length < rounds →
    (expiredRows summaries request store).length < further →
    cleanupOn store faults rounds summaries request =
      cleanupOn store faults further summaries request
  returns : ∀ rounds, (∃ result, (cleanupOn store (fun _ => none) rounds summaries request).1 =
    .ok result) ↔ 0 < request.batchSize ∧ 0 ≤ request.maxRows
  deletes : ∀ faults rounds,
    ∀ state ∈ (cleanupOn store faults rounds summaries request).2.committed ::
      (cleanupOn store faults rounds summaries request).2.commits,
    DeletesExpired summaries request store state
  counted : ∀ faults rounds result session,
    (expiredRows summaries request store).length < rounds →
    cleanupOn store faults rounds summaries request = (.ok result, session) →
    session.committed.observations.rows.length + result.deletedObservations =
      store.observations.rows.length
  all : ∀ faults rounds result session, request.maxRows = 0 →
    (expiredRows summaries request store).length < rounds →
    cleanupOn store faults rounds summaries request = (.ok result, session) →
    session.committed.observations.rows = store.observations.rows.filter fun row =>
      !eligibleObservation summaries request store row
  independent : ∀ faults rounds result session, ∀ otherFaults otherRounds batchSize otherResult
      otherSession, (expiredRows summaries request store).length < rounds →
    (expiredRows summaries request store).length < otherRounds →
    cleanupOn store faults rounds summaries request = (.ok result, session) →
    cleanupOn store otherFaults otherRounds summaries { request with batchSize } =
      (.ok otherResult, otherSession) →
    otherSession.committed = session.committed

/-- A cleanup returns wherever it is asked for batches of some size, and nothing
interrupts it. -/
theorem cleanup_returns (summaries : List DashboardAccountSummary) (request : CleanupRequest)
    (store : Store) (rounds : ℕ) :
    (∃ result, (cleanupOn store (fun _ => none) rounds summaries request).1 = .ok result) ↔
      0 < request.batchSize ∧ 0 ≤ request.maxRows := by
  unfold cleanupOn
  by_cases positive : request.batchSize ≤ 0
  · unfold CleanupSessions.cleanupObservations
    rw [if_pos positive]
    constructor
    · rintro ⟨result, refused⟩
      cases refused
    · exact fun accepted => absurd positive (not_le.mpr accepted.1)
  · by_cases negative : request.maxRows < 0
    · unfold CleanupSessions.cleanupObservations
      rw [if_neg positive, if_pos negative]
      constructor
      · rintro ⟨result, refused⟩
        cases refused
      · exact fun accepted => absurd negative (not_lt.mpr accepted.2)
    · refine ⟨fun _ => by omega, fun _ => ?_⟩
      obtain ⟨after, ended, -⟩ := cleanupRounds_uninterrupted summaries request store rounds
        positive negative
      rw [ended]
      exact ⟨_, rfl⟩

/-- By the faults of the run. -/
theorem cleanupOn_interrupted (store : Store) (faults : CleanupFaults) (rounds : ℕ)
    (summaries : List DashboardAccountSummary) (request : CleanupRequest) :
    Interrupted summaries request store (cleanupOn store faults rounds summaries request).2 := by
  have ends : Code.Meets (fun session => session = Session.start store)
      (CleanupSessions.cleanupObservations faults rounds summaries request)
      (fun _ => Interrupted summaries request store) (Interrupted summaries request store) :=
    (cleanupObservations_meets faults rounds summaries request store).strengthen
      (fun _ _ ended => ended.1) fun _ => id
  exact ends.settles rfl

theorem mem_commits_partly {store state : Store} {faults : CleanupFaults} {rounds : ℕ}
    (member : state ∈ (cleanupOn store faults rounds summaries request).2.committed ::
      (cleanupOn store faults rounds summaries request).2.commits) :
    Partly summaries request store state := by
  have interrupted := cleanupOn_interrupted store faults rounds summaries request
  rcases List.mem_cons.mp member with rfl | commits
  · exact interrupted.committed
  · exact interrupted.commits state commits

/-- The cleanups of a store are sound. -/
theorem cleanup_sound (summaries : List DashboardAccountSummary) (request : CleanupRequest)
    (store : Store) : CleanupSound summaries request store := by
  have ended (asked : CleanupRequest) {faults : CleanupFaults} {rounds : ℕ}
      {result : RetentionResult} {session : CleanupSession}
      (enough : (expiredRows summaries asked store).length < rounds)
      (returned : cleanupOn store faults rounds summaries asked = (.ok result, session)) :
      session.committed = withoutOldest summaries asked store (deletable summaries asked store) ∧
        result.deletedObservations = deletable summaries asked store := by
    have met := cleanupObservations_meets faults rounds summaries asked store
      (Session.start store) rfl
    rw [cleanupOn] at returned
    rw [returned] at met
    exact met.2 enough
  refine ⟨fun faults rounds further enough more => cleanupObservations_stable faults enough more,
    cleanup_returns summaries request store,
    fun faults rounds state member => deletesExpired_partly (mem_commits_partly member),
    fun faults rounds result session enough returned => ?_,
    fun faults rounds result session unlimited enough returned => ?_,
    fun faults rounds result session otherFaults otherRounds batchSize otherResult otherSession
      enough otherEnough returned otherReturned => ?_⟩
  · obtain ⟨committed, deleted⟩ := ended request enough returned
    rw [committed, deleted]
    exact length_withoutOldest (deletable_le summaries request store)
  · rw [(ended request enough returned).1, deletable, if_pos unlimited]
    exact rows_withoutOldest summaries request store
  · have same : otherSession.committed =
        withoutOldest summaries request store (deletable summaries request store) :=
      (ended { request with batchSize } otherEnough otherReturned).1
    exact same.trans (ended request enough returned).1.symm

end Cleanups

section Histories

variable [CaseMapping] [AlphabetTable] [Digest] [GeneralFormat] [UuidSource] [SystemClock]

/-- A state that can follow a state: an operation commits, a batch of a cleanup is
committed, or a cleanup has committed some of its batches and is interrupted. -/
inductive Reaches (start : Store) : Store → Prop where
  | start : Reaches start start
  | operation {store after : Store} (operation : Operation) (reached : Reaches start store)
      (committed : perform operation store = .ok after) : Reaches start after
  | batch {store : Store} (summaries : List DashboardAccountSummary) (request : CleanupRequest)
      (limit : ℕ) (reached : Reaches start store) :
      Reaches start (deleteBatch store (nextBatch summaries request store limit))
  | cleanup {store state : Store} (faults : CleanupFaults) (rounds : ℕ)
      (summaries : List DashboardAccountSummary) (request : CleanupRequest)
      (reached : Reaches start store)
      (committed : state ∈ (cleanupOn store faults rounds summaries request).2.committed ::
        (cleanupOn store faults rounds summaries request).2.commits) : Reaches start state

theorem runsHonest_of_reaches {before after : Store} (reaches : Reaches before after) :
    RunsHonest before after := by
  induction reaches with
  | start => exact RunsHonest.refl before
  | operation operation reached committed inductionHypothesis =>
    exact inductionHypothesis.trans (runsHonest_of_perform committed)
  | @batch store summaries request limit reached inductionHypothesis =>
    have expired : ∀ row ∈ nextBatch summaries request store limit,
        row ∈ expiredRows summaries request store := by
      rw [nextBatch_eq]
      exact fun row member => List.mem_of_mem_take member
    exact inductionHypothesis.trans (runsHonest_expired expired)
  | cleanup faults rounds summaries request reached committed inductionHypothesis =>
    exact inductionHypothesis.trans (runsHonest_partly (mem_commits_partly committed))

/-- A run that is not marked has every observation that it ever had. -/
def RunsComplete (before after : Store) : Prop :=
  ∀ run ∈ after.collectionRuns.rows, run.detailedObservationsAvailable = true →
    ∀ row ∈ before.observations.rows, row.collectionRunId = run.id →
      ∃ kept ∈ after.observations.rows, SameObservation row kept

theorem cleanups_conserve_observations (summaries : List DashboardAccountSummary)
    (request : CleanupRequest) (store : Store) :
    CleanupSound summaries request store ∧
      ∀ before after, Reaches before after → RunsComplete before after := by
  refine ⟨cleanup_sound summaries request store, fun before after reaches run member available
    row rowMember ofRun => ?_⟩
  rcases (runsHonest_of_reaches reaches).observations row rowMember with
    kept | ⟨marked, markedMember, sameId, isMarked⟩
  · exact kept
  · obtain rfl := after.collectionRuns.eq_of_key markedMember member (sameId.trans ofRun)
    rw [available] at isMarked
    cases isMarked

end Histories

end FinopsAnalytics.CleanupHistories
