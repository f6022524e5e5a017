import FinopsAnalytics.CleanupBatches
import FinopsAnalytics.FaultySessions

/-!
# Sessions of a cleanup

A cleanup commits each of its batches. Whatever interrupts it, what is committed is
the deletion of the oldest eligible rows, as many as the batches before had: a
batch that fails midway is rolled back with its marks. A cleanup that returns has
deleted all of them, or as many as it was allowed to.
-/

namespace FinopsAnalytics.CleanupSessions

open PythonText UniqueTables DistinctKeys OpportunityRecords ObservationCleanup CleanupBatches
  FaultySessions

/-- The statements of a cleanup, those of a batch with its number. -/
inductive CleanupPoint where
  | preview
  | opened
  | select (batch : ℕ)
  | mark (batch : ℕ)
  | delete (batch : ℕ)
  | commit (batch : ℕ)
  | rollback (batch : ℕ)
deriving DecidableEq, Repr

abbrev CleanupCode := Code Store CleanupPoint ServiceError

abbrev CleanupFaults := CleanupPoint → Option (Fault Store ServiceError)

abbrev CleanupSession := Session Store CleanupPoint

/-- `raise` -/
def raise {α : Type} (exception : ServiceError) : CleanupCode α :=
  fun session => (.error exception, session)

theorem raise_meets {α : Type} {exception : ServiceError} {before : CleanupSession → Prop}
    {returns : α → CleanupSession → Prop} {raises : CleanupSession → Prop}
    (implies : ∀ session, before session → raises session) :
    Code.Meets before (raise exception : CleanupCode α) returns raises :=
  implies

/-- The update of a batch. -/
def markRuns (store : Store) (batch : List OpportunityObservation) : Store :=
  { store with collectionRuns := (deleteBatch store batch).collectionRuns }

/-- The deletion of a batch. -/
def deleteRows (store : Store) (batch : List OpportunityObservation) : Store :=
  { store with observations := (deleteBatch store batch).observations }

/-- The transaction of a batch. An exception rolls it back and is raised again. -/
def commitBatch (faults : CleanupFaults) (number : ℕ) (batch : List OpportunityObservation) :
    CleanupCode PUnit :=
  Code.attempt
    (do
      Code.statement faults (.mark number) fun store => .ok (⟨⟩, markRuns store batch)
      Code.statement faults (.delete number) fun store => .ok (⟨⟩, deleteRows store batch)
      Code.commit faults (.commit number))
    fun raised => do
      Code.rollback faults (.rollback number)
      raise raised

/-- The counters of the loop. -/
structure CleanupCounts where
  deleted : ℕ
  batches : ℕ
  affectedRuns : List String
deriving DecidableEq, Repr

def CleanupCounts.start : CleanupCounts := ⟨0, 0, []⟩

/-- The counters after a batch. -/
def CleanupCounts.add (counts : CleanupCounts) (batch : List OpportunityObservation) :
    CleanupCounts where
  deleted := counts.deleted + batch.length
  batches := counts.batches + 1
  affectedRuns := counts.affectedRuns ++ batch.map (·.collectionRunId)

/-- The size of the next batch. -/
def batchLimit (request : CleanupRequest) (deleted : ℕ) : ℕ :=
  (if request.maxRows ≠ 0 then min request.batchSize (request.maxRows - deleted)
    else request.batchSize).toNat

variable [CaseMapping]

/-- The loop over the batches. -/
def cleanupLoop (faults : CleanupFaults) (summaries : List DashboardAccountSummary)
    (request : CleanupRequest) : ℕ → CleanupCounts → CleanupCode CleanupCounts
  | 0, counts => pure counts
  | remaining + 1, counts =>
    if request.maxRows ≠ 0 ∧ request.maxRows ≤ counts.deleted then pure counts
    else do
      let batch ← Code.statement faults (.select counts.batches) fun store =>
        .ok (ObservationCleanup.nextBatch summaries request store
          (batchLimit request counts.deleted), store)
      if batch = [] then pure counts
      else do
        commitBatch faults counts.batches batch
        cleanupLoop faults summaries request remaining (counts.add batch)

/-- The result of a cleanup that found some rows eligible. -/
def cleanupResult (request : CleanupRequest) (eligible : ℕ) (counts : CleanupCounts) :
    RetentionResult where
  eligibleAtStart := eligible
  deletedObservations := counts.deleted
  batches := counts.batches
  collectionRunsMarkedPartial := counts.affectedRuns.eraseDups.length
  maxRowsReached := request.maxRows ≠ 0 && decide (request.maxRows ≤ counts.deleted) &&
    decide (counts.deleted < eligible)

/-- `cleanup_observations`, with at most some rounds of its loop. -/
def cleanupObservations (faults : CleanupFaults) (rounds : ℕ)
    (summaries : List DashboardAccountSummary) (request : CleanupRequest) :
    CleanupCode RetentionResult :=
  if request.batchSize ≤ 0 then raise (.value "Batch size must be greater than zero")
  else if request.maxRows < 0 then raise (.value "Max rows must be zero or greater")
  else do
    let eligible ← Code.statement faults .preview fun store =>
      .ok (store.observations.rows.countP (eligibleObservation summaries request store), store)
    Code.commit faults .opened
    let counts ← cleanupLoop faults summaries request rounds .start
    return cleanupResult request eligible counts

/-- The rows that a cleanup may delete: all eligible ones, or as many as it is allowed
to. -/
def deletable (summaries : List DashboardAccountSummary) (request : CleanupRequest)
    (store : Store) : ℕ :=
  if request.maxRows = 0 then (expiredRows summaries request store).length
  else min request.maxRows.toNat (expiredRows summaries request store).length

/-- The store without its oldest eligible rows. -/
def withoutOldest (summaries : List DashboardAccountSummary) (request : CleanupRequest)
    (store : Store) (count : ℕ) : Store :=
  deleteBatch store ((expiredRows summaries request store).take count)

theorem withoutOldest_zero (summaries : List DashboardAccountSummary) (request : CleanupRequest)
    (store : Store) : withoutOldest summaries request store 0 = store := by
  rw [withoutOldest, List.take_zero, deleteBatch_nil]

/-- The next batch after some rows are deleted. -/
theorem nextBatch_withoutOldest (summaries : List DashboardAccountSummary)
    (request : CleanupRequest) (store : Store) (count limit : ℕ) :
    ObservationCleanup.nextBatch summaries request (withoutOldest summaries request store count)
      limit = ((expiredRows summaries request store).drop count).take limit := by
  rw [nextBatch_eq, withoutOldest, expiredRows_deleteBatch]

/-- The deletion of a batch after some rows is that of all of them. -/
theorem deleteBatch_withoutOldest (summaries : List DashboardAccountSummary)
    (request : CleanupRequest) (store : Store) (count limit : ℕ) :
    deleteBatch (withoutOldest summaries request store count)
        (((expiredRows summaries request store).drop count).take limit) =
      withoutOldest summaries request store
        (count + (((expiredRows summaries request store).drop count).take limit).length) := by
  generalize isExpired : expiredRows summaries request store = expired
  have joined : expired.take count ++ (expired.drop count).take limit =
      expired.take (count + ((expired.drop count).take limit).length) := by
    rw [List.take_add]
    congr 1
    exact List.prefix_iff_eq_take.mp (List.take_prefix limit _)
  rw [withoutOldest, withoutOldest, deleteBatch_append, isExpired, joined]

/-- The store is the first one without some of its oldest eligible rows, no more than
may be deleted. -/
def Partly (summaries : List DashboardAccountSummary) (request : CleanupRequest)
    (store state : Store) : Prop :=
  ∃ count ≤ deletable summaries request store, state = withoutOldest summaries request store count

/-- Whatever is committed is such a store. -/
structure Interrupted (summaries : List DashboardAccountSummary) (request : CleanupRequest)
    (store : Store) (session : CleanupSession) : Prop where
  committed : Partly summaries request store session.committed
  commits : ∀ state ∈ session.commits, Partly summaries request store state

/-- What is committed after some batches: the counter tells how many rows they have
deleted. -/
structure Counted (summaries : List DashboardAccountSummary) (request : CleanupRequest)
    (store : Store) (counts : CleanupCounts) (session : CleanupSession) : Prop where
  allowed : counts.deleted ≤ deletable summaries request store
  committed : session.committed = withoutOldest summaries request store counts.deleted
  commits : ∀ state ∈ session.commits, Partly summaries request store state

/-- Between two batches no statement is pending. -/
structure Between (summaries : List DashboardAccountSummary) (request : CleanupRequest)
    (store : Store) (counts : CleanupCounts) (session : CleanupSession) : Prop where
  counted : Counted summaries request store counts session
  current : session.current = session.committed

section Contracts

variable {summaries : List DashboardAccountSummary} {request : CleanupRequest} {store : Store}
  {counts : CleanupCounts}

theorem Counted.interrupted {session : CleanupSession}
    (counted : Counted summaries request store counts session) :
    Interrupted summaries request store session :=
  ⟨⟨_, counted.allowed, counted.committed⟩, counted.commits⟩

/-- What is committed does not depend on the open transaction. -/
theorem Counted.congr {session other : CleanupSession}
    (counted : Counted summaries request store counts session)
    (committed : other.committed = session.committed) (commits : other.commits = session.commits) :
    Counted summaries request store counts other :=
  ⟨counted.allowed, committed.trans counted.committed, commits ▸ counted.commits⟩

theorem Counted.interrupt {session : CleanupSession}
    (counted : Counted summaries request store counts session) (point : CleanupPoint)
    (left : Store) :
    Counted summaries request store counts (session.interrupt point left) :=
  counted.congr rfl rfl

theorem deletable_le (summaries : List DashboardAccountSummary) (request : CleanupRequest)
    (store : Store) : deletable summaries request store ≤
      (expiredRows summaries request store).length := by
  unfold deletable
  split
  · exact le_rfl
  · exact Nat.min_le_right _ _

/-- The rows that a batch deletes are allowed. -/
theorem allowed_add {deleted : ℕ} (allowed : deleted ≤ deletable summaries request store) :
    deleted + (((expiredRows summaries request store).drop deleted).take
      (batchLimit request deleted)).length ≤ deletable summaries request store := by
  rw [List.length_take, List.length_drop]
  unfold deletable at allowed ⊢
  unfold batchLimit
  by_cases unlimited : request.maxRows = 0
  · rw [if_pos unlimited] at allowed ⊢
    omega
  · rw [if_neg unlimited] at allowed ⊢
    rw [if_pos unlimited]
    omega

/-- Where nothing is left to a cleanup that may go on, it has deleted what it may. -/
theorem deleted_of_nil {deleted : ℕ} (positive : 0 < request.batchSize)
    (allowed : deleted ≤ deletable summaries request store)
    (goesOn : ¬(request.maxRows ≠ 0 ∧ request.maxRows ≤ deleted))
    (none : ((expiredRows summaries request store).drop deleted).take
      (batchLimit request deleted) = []) : deleted = deletable summaries request store := by
  have within := deletable_le summaries request store
  have length := congrArg List.length none
  rw [List.length_take, List.length_drop, List.length_nil] at length
  unfold deletable at allowed within ⊢
  unfold batchLimit at length
  by_cases unlimited : request.maxRows = 0
  · rw [if_neg (not_not.mpr unlimited)] at length
    rw [if_pos unlimited] at allowed within ⊢
    omega
  · rw [if_pos unlimited] at length
    rw [if_neg unlimited] at allowed within ⊢
    omega

/-- So it has where it has reached its limit. -/
theorem deleted_of_limit {deleted : ℕ} (allowed : deleted ≤ deletable summaries request store)
    (reached : request.maxRows ≠ 0 ∧ request.maxRows ≤ deleted) :
    deleted = deletable summaries request store := by
  unfold deletable at allowed ⊢
  rw [if_neg reached.1] at allowed ⊢
  omega

/-- A batch is committed whole or not at all. -/
theorem commitBatch_meets (faults : CleanupFaults) (number : ℕ) {batch : List OpportunityObservation}
    (isBatch : batch = ((expiredRows summaries request store).drop counts.deleted).take
      (batchLimit request counts.deleted)) :
    Code.Meets (Between summaries request store counts) (commitBatch faults number batch)
      (fun _ => Between summaries request store (counts.add batch))
      (Interrupted summaries request store) := by
  have marks : Code.Meets (Between summaries request store counts)
      (Code.statement faults (.mark number) fun store => .ok (PUnit.unit, markRuns store batch))
      (fun _ session => Counted summaries request store counts session ∧
        session.current = markRuns session.committed batch)
      (Counted summaries request store counts) := by
    refine Code.Meets.statement (fun session value current between marked => ?_)
      fun session left between => between.counted.interrupt _ left
    cases marked
    exact ⟨between.counted.congr rfl rfl, congrArg (markRuns · batch) between.current⟩
  have deletes : Code.Meets (fun session => Counted summaries request store counts session ∧
        session.current = markRuns session.committed batch)
      (Code.statement faults (.delete number) fun store => .ok (PUnit.unit, deleteRows store batch))
      (fun _ session => Counted summaries request store counts session ∧
        session.current = deleteBatch session.committed batch)
      (Counted summaries request store counts) := by
    refine Code.Meets.statement (fun session value current marked deleted => ?_)
      fun session left marked => marked.1.interrupt _ left
    cases deleted
    exact ⟨marked.1.congr rfl rfl, congrArg (deleteRows · batch) marked.2⟩
  have commits : Code.Meets (fun session => Counted summaries request store counts session ∧
        session.current = deleteBatch session.committed batch)
      (Code.commit faults (.commit number))
      (fun _ => Between summaries request store (counts.add batch))
      (Counted summaries request store counts) := by
    refine Code.Meets.commit (fun session deleted => ?_)
      fun session left deleted => deleted.1.interrupt _ left
    obtain ⟨counted, current⟩ := deleted
    have allowed := allowed_add counted.allowed
    rw [← isBatch] at allowed
    have further : session.current =
        withoutOldest summaries request store (counts.add batch).deleted := by
      rw [current, counted.committed, isBatch, deleteBatch_withoutOldest]
      rfl
    refine ⟨⟨allowed, further, fun state member => ?_⟩, rfl⟩
    rcases List.mem_append.mp member with old | new
    · exact counted.commits state old
    · rw [List.mem_singleton.mp new]
      exact ⟨_, allowed, further⟩
  refine Code.Meets.attempt (Code.Meets.andThen marks fun _ => Code.Meets.andThen deletes
    fun _ => commits) fun raised => ?_
  have rollsBack : Code.Meets (Counted summaries request store counts)
      (Code.rollback faults (.rollback number))
      (fun _ => Counted summaries request store counts) (Interrupted summaries request store) :=
    Code.Meets.rollback (fun session counted => counted.congr rfl rfl)
      fun session left counted => (counted.interrupt _ left).interrupted
  exact Code.Meets.andThen rollsBack fun _ => raise_meets fun session counted => counted.interrupted

/-- The read of the next batch. -/
theorem select_meets (faults : CleanupFaults) (number : ℕ) :
    Code.Meets (Between summaries request store counts)
      (Code.statement faults (.select number) fun store =>
        .ok (ObservationCleanup.nextBatch summaries request store
          (batchLimit request counts.deleted), store))
      (fun batch session => Between summaries request store counts session ∧
        batch = ((expiredRows summaries request store).drop counts.deleted).take
          (batchLimit request counts.deleted))
      (Interrupted summaries request store) := by
  refine Code.Meets.statement (fun session batch current between selected => ?_)
    fun session left between => (between.counted.interrupt _ left).interrupted
  cases selected
  refine ⟨between, ?_⟩
  rw [between.current, between.counted.committed, nextBatch_withoutOldest]

/-- The loop ends between two batches. With more rounds than rows are left it ends
when it has deleted what it may. -/
theorem cleanupLoop_meets (faults : CleanupFaults) (positive : 0 < request.batchSize)
    (rounds : ℕ) (counts : CleanupCounts) :
    Code.Meets (Between summaries request store counts)
      (cleanupLoop faults summaries request rounds counts)
      (fun result session => Between summaries request store result session ∧
        ((expiredRows summaries request store).length - counts.deleted < rounds →
          result.deleted = deletable summaries request store))
      (Interrupted summaries request store) := by
  induction rounds generalizing counts with
  | zero =>
    exact Code.Meets.pure.weaken fun session between => ⟨between, fun few => absurd few (by omega)⟩
  | succ rounds inductionHypothesis =>
    unfold cleanupLoop
    split
    · rename_i reached
      exact Code.Meets.pure.weaken fun session between =>
        ⟨between, fun _ => deleted_of_limit between.counted.allowed reached⟩
    · rename_i goesOn
      refine Code.Meets.andThen (select_meets faults counts.batches) fun batch => ?_
      refine Code.Meets.assuming (fun session selected => selected.2) fun isBatch => ?_
      refine Code.Meets.weaken ?_ fun session selected => selected.1
      split
      · rename_i none
        exact Code.Meets.pure.weaken fun session between => ⟨between, fun _ =>
          deleted_of_nil positive between.counted.allowed goesOn (isBatch ▸ none)⟩
      · rename_i some
        refine Code.Meets.andThen (commitBatch_meets faults counts.batches isBatch) fun _ => ?_
        refine (inductionHypothesis (counts.add batch)).strengthen ?_ fun session raised => raised
        intro result session ended
        refine ⟨ended.1, fun enough => ended.2 ?_⟩
        -- the batch has a row, so fewer are left
        have nonempty := List.length_pos_iff.mpr some
        have left := congrArg List.length isBatch
        rw [List.length_take, List.length_drop] at left
        simp only [CleanupCounts.add]
        omega

/-- More rounds than rows are left change nothing. -/
theorem cleanupLoop_stable (faults : CleanupFaults) {rounds further : ℕ} {counts : CleanupCounts}
    {session : CleanupSession} (between : Between summaries request store counts session)
    (enough : (expiredRows summaries request store).length - counts.deleted < rounds)
    (more : (expiredRows summaries request store).length - counts.deleted < further) :
    cleanupLoop faults summaries request rounds counts session =
      cleanupLoop faults summaries request further counts session := by
  induction rounds generalizing further counts session with
  | zero => exact absurd enough (by omega)
  | succ rounds inductionHypothesis =>
    obtain ⟨further, rfl⟩ : ∃ fewer, further = fewer + 1 := ⟨further - 1, by omega⟩
    unfold cleanupLoop
    split
    · rfl
    · refine Code.andThen_congr fun batch selected read => ?_
      have met := select_meets faults counts.batches session between
      rw [read] at met
      obtain ⟨reading, isBatch⟩ := met
      by_cases none : batch = []
      · rw [if_pos none, if_pos none]
      · rw [if_neg none, if_neg none]
        refine Code.andThen_congr fun _ after committed => ?_
        have met := commitBatch_meets faults counts.batches isBatch selected reading
        rw [committed] at met
        -- the batch has a row, so fewer are left
        have nonempty := List.length_pos_iff.mpr none
        have left := congrArg List.length isBatch
        rw [List.length_take, List.length_drop] at left
        refine inductionHypothesis met ?_ ?_ <;>
        · simp only [CleanupCounts.add]
          omega

theorem between_start (summaries : List DashboardAccountSummary) (request : CleanupRequest)
    (store : Store) : Between summaries request store .start (Session.start store) :=
  ⟨⟨Nat.zero_le _, (withoutOldest_zero summaries request store).symm,
    fun _ member => absurd member List.not_mem_nil⟩, rfl⟩

/-- The preview and the first commit delete nothing. -/
theorem preview_meets (faults : CleanupFaults) (summaries : List DashboardAccountSummary)
    (request : CleanupRequest) (store : Store) :
    Code.Meets (fun session => session = Session.start store)
      (Code.statement faults .preview fun store =>
        .ok (store.observations.rows.countP (eligibleObservation summaries request store), store))
      (fun eligible session => Between summaries request store .start session ∧
        eligible = (expiredRows summaries request store).length)
      (Interrupted summaries request store) := by
  have start := between_start summaries request store
  refine Code.Meets.statement (fun session eligible current isStart counted => ?_)
    fun session left isStart => isStart ▸ (start.counted.interrupt _ left).interrupted
  subst isStart
  cases counted
  refine ⟨start, ?_⟩
  rw [expiredRows, (sortByKey_perm _ _).length_eq, List.countP_eq_length_filter]
  rfl

theorem opened_meets (faults : CleanupFaults) :
    Code.Meets (Between summaries request store .start) (Code.commit faults .opened)
      (fun _ => Between summaries request store .start) (Interrupted summaries request store) := by
  refine Code.Meets.commit (fun session between => ?_)
    fun session left between => (between.counted.interrupt _ left).interrupted
  have committed : session.current = withoutOldest summaries request store 0 :=
    between.current.trans between.counted.committed
  refine ⟨⟨between.counted.allowed, committed, fun state member => ?_⟩, rfl⟩
  rcases List.mem_append.mp member with old | new
  · exact between.counted.commits state old
  · rw [List.mem_singleton.mp new]
    exact ⟨0, Nat.zero_le _, committed⟩

/-- However a cleanup ends, it has committed batches of the oldest eligible rows; where
it returns, all that it may delete. -/
theorem cleanupObservations_meets (faults : CleanupFaults) (rounds : ℕ)
    (summaries : List DashboardAccountSummary) (request : CleanupRequest) (store : Store) :
    Code.Meets (fun session => session = Session.start store)
      (cleanupObservations faults rounds summaries request)
      (fun result session => Interrupted summaries request store session ∧
        ((expiredRows summaries request store).length < rounds →
          session.committed =
            withoutOldest summaries request store (deletable summaries request store) ∧
          result.deletedObservations = deletable summaries request store))
      (Interrupted summaries request store) := by
  have refused (session : CleanupSession) (isStart : session = Session.start store) :
      Interrupted summaries request store session :=
    isStart ▸ (between_start summaries request store).counted.interrupted
  unfold cleanupObservations
  split
  · exact raise_meets refused
  · rename_i positive
    split
    · exact raise_meets refused
    · refine Code.Meets.andThen (preview_meets faults summaries request store) fun eligible => ?_
      refine Code.Meets.weaken ?_ fun session previewed => previewed.1
      refine Code.Meets.andThen (opened_meets faults) fun _ => ?_
      refine Code.Meets.andThen (cleanupLoop_meets faults (by omega) rounds .start) fun counts => ?_
      refine Code.Meets.pure.weaken fun session ended => ?_
      refine ⟨ended.1.counted.interrupted, fun enough => ?_⟩
      have all := ended.2 (Nat.lt_of_le_of_lt (Nat.sub_le _ _) enough)
      exact ⟨all ▸ ended.1.counted.committed, all⟩

/-- A cleanup ends: more rounds than there are eligible rows change nothing. -/
theorem cleanupObservations_stable (faults : CleanupFaults) {rounds further : ℕ}
    (enough : (expiredRows summaries request store).length < rounds)
    (more : (expiredRows summaries request store).length < further) :
    cleanupObservations faults rounds summaries request (Session.start store) =
      cleanupObservations faults further summaries request (Session.start store) := by
  unfold cleanupObservations
  split
  · rfl
  · rename_i positive
    split
    · rfl
    · refine Code.andThen_congr fun eligible previewed read => ?_
      have met := preview_meets faults summaries request store (Session.start store) rfl
      rw [read] at met
      refine Code.andThen_congr fun _ opened committed => ?_
      have between := opened_meets faults previewed met.1
      rw [committed] at between
      have same := cleanupLoop_stable faults between
        (Nat.lt_of_le_of_lt (Nat.sub_le _ _) enough) (Nat.lt_of_le_of_lt (Nat.sub_le _ _) more)
      change Code.andThen _ _ opened = Code.andThen _ _ opened
      unfold Code.andThen
      rw [same]

end Contracts

section Uninterrupted

omit [CaseMapping] in
/-- The counters of a state. -/
def countsOf (state : CleanupState) : CleanupCounts :=
  ⟨state.deleted, state.batches, state.affectedRuns⟩

omit [CaseMapping] in
/-- Without an interruption a batch is committed. -/
theorem commitBatch_uninterrupted (number : ℕ) (batch : List OpportunityObservation)
    (session : CleanupSession) :
    commitBatch (fun _ => none) number batch session =
      (.ok ⟨⟩, { session with
        committed := deleteBatch session.current batch
        current := deleteBatch session.current batch
        commits := session.commits ++ [deleteBatch session.current batch] }) :=
  rfl

/-- Without an interruption the loop deletes the batches one after the other. -/
theorem cleanupLoop_uninterrupted (summaries : List DashboardAccountSummary)
    (request : CleanupRequest) (rounds : ℕ) (state : CleanupState) (session : CleanupSession)
    (committed : session.committed = state.store) (current : session.current = state.store) :
    ∃ after, cleanupLoop (fun _ => none) summaries request rounds (countsOf state) session =
        (.ok (countsOf (deleteBatches summaries request rounds state)), after) ∧
      after.committed = (deleteBatches summaries request rounds state).store := by
  induction rounds generalizing state session with
  | zero => exact ⟨session, rfl, committed⟩
  | succ rounds inductionHypothesis =>
    unfold cleanupLoop
    by_cases reached : request.maxRows ≠ 0 ∧ request.maxRows ≤ state.deleted
    · have counted : request.maxRows ≠ 0 ∧ request.maxRows ≤ (countsOf state).deleted := reached
      rw [if_pos counted, deleteBatches, if_pos reached]
      exact ⟨session, rfl, committed⟩
    · have counted : ¬(request.maxRows ≠ 0 ∧ request.maxRows ≤ (countsOf state).deleted) := reached
      have read (next : List OpportunityObservation → CleanupCode CleanupCounts) :
          (Code.statement (fun _ => none) (.select (countsOf state).batches) (fun store =>
            .ok (ObservationCleanup.nextBatch summaries request store
              (batchLimit request (countsOf state).deleted), store)) >>= next) session =
            next (ObservationCleanup.nextBatch summaries request state.store
              (batchLimit request state.deleted)) session := by
        rw [← current]
        rfl
      rw [if_neg counted, read]
      rcases batch : ObservationCleanup.nextBatch summaries request state.store
        (batchLimit request state.deleted) with _ | ⟨first, rest⟩
      · have last : deleteBatches summaries request (rounds + 1) state = state := by
          unfold batchLimit at batch
          rw [deleteBatches, if_neg reached]
          dsimp only
          rw [batch]
        rw [if_pos rfl, last]
        exact ⟨session, rfl, committed⟩
      · have further : deleteBatches summaries request (rounds + 1) state =
            deleteBatches summaries request rounds
              ⟨state.deleted + (first :: rest).length, state.batches + 1,
                state.affectedRuns ++ (first :: rest).map (·.collectionRunId),
                deleteBatch state.store (first :: rest)⟩ := by
          unfold batchLimit at batch
          rw [deleteBatches, if_neg reached]
          dsimp only
          rw [batch]
        have delete (next : CleanupCode CleanupCounts) :
            (commitBatch (fun _ => none) (countsOf state).batches (first :: rest) >>=
              fun _ => next) session = next { session with
                committed := deleteBatch state.store (first :: rest)
                current := deleteBatch state.store (first :: rest)
                commits := session.commits ++ [deleteBatch state.store (first :: rest)] } := by
          rw [← current]
          rfl
        rw [if_neg (List.cons_ne_nil first rest), delete, further]
        exact inductionHypothesis
          ⟨_, _, _, deleteBatch state.store (first :: rest)⟩ _ rfl rfl

/-- Without an interruption a cleanup returns what its batches add up to. -/
theorem cleanupRounds_uninterrupted (summaries : List DashboardAccountSummary)
    (request : CleanupRequest) (store : Store) (rounds : ℕ) (positive : ¬request.batchSize ≤ 0)
    (limit : ¬request.maxRows < 0) :
    ∃ after, cleanupObservations (fun _ => none) rounds summaries request (Session.start store) =
        (.ok (cleanupResult request
          (store.observations.rows.countP (eligibleObservation summaries request store))
          (countsOf (deleteBatches summaries request rounds ⟨0, 0, [], store⟩))), after) ∧
      after.committed = (deleteBatches summaries request rounds ⟨0, 0, [], store⟩).store := by
  obtain ⟨after, ended, committed⟩ := cleanupLoop_uninterrupted summaries request rounds
    ⟨0, 0, [], store⟩ ⟨store, store, [store], []⟩ rfl rfl
  have returned (eligible : ℕ) :
      (cleanupLoop (fun _ => none) summaries request rounds .start
        >>= fun counts => pure (cleanupResult request eligible counts))
        ⟨store, store, [store], []⟩ =
      (.ok (cleanupResult request eligible
        (countsOf (deleteBatches summaries request rounds ⟨0, 0, [], store⟩))), after) := by
    change Code.andThen (cleanupLoop (fun _ => none) summaries request rounds
      (countsOf ⟨0, 0, [], store⟩)) _ _ = _
    unfold Code.andThen
    rw [ended]
    rfl
  unfold cleanupObservations
  rw [if_neg positive, if_neg limit]
  exact ⟨after, returned _, committed⟩

/-- An uninterrupted cleanup is the one of a single transaction. -/
theorem cleanupObservations_uninterrupted (summaries : List DashboardAccountSummary)
    (request : CleanupRequest) (store : Store) :
    ∃ after, cleanupObservations (fun _ => none) (store.observations.rows.length + 1) summaries
        request (Session.start store) =
          ((ObservationCleanup.cleanupObservations summaries request store).map Prod.fst, after) ∧
      ∀ result last,
        ObservationCleanup.cleanupObservations summaries request store = .ok (result, last) →
          after.committed = last := by
  by_cases positive : request.batchSize ≤ 0
  · unfold cleanupObservations ObservationCleanup.cleanupObservations
    simp only [if_pos positive]
    exact ⟨_, rfl, fun _ _ refused => by cases refused⟩
  · by_cases negative : request.maxRows < 0
    · unfold cleanupObservations ObservationCleanup.cleanupObservations
      simp only [if_neg positive, if_pos negative]
      exact ⟨_, rfl, fun _ _ refused => by cases refused⟩
    · obtain ⟨after, ended, committed⟩ := cleanupRounds_uninterrupted summaries request store
        (store.observations.rows.length + 1) positive negative
      rw [ended]
      unfold ObservationCleanup.cleanupObservations
      simp only [if_neg positive, if_neg negative]
      refine ⟨after, rfl, fun result last accepted => ?_⟩
      cases accepted
      exact committed

end Uninterrupted

end FinopsAnalytics.CleanupSessions
