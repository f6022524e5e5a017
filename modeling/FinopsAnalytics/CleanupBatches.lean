import FinopsAnalytics.ObservationCleanup

/-!
# Batches of a cleanup

A batch marks the runs of its rows and deletes the rows. Two batches one after
the other are one batch of both, and a batch makes no other row eligible: the
protection of a run does not look at its mark. The batches of a cleanup therefore
delete the eligible rows from the oldest on, whatever their size.
-/

namespace FinopsAnalytics.CleanupBatches

open PythonText UniqueTables DistinctKeys OpportunityRecords ObservationCleanup

/-- The mark on the runs with some identifiers. -/
def mark (runIds : List String) (run : CollectionRun) : CollectionRun :=
  if run.id ∈ runIds then markedPartial run else run

@[simp] theorem id_mark (runIds : List String) (run : CollectionRun) :
    (mark runIds run).id = run.id := by
  unfold mark
  split <;> rfl

@[simp] theorem mark_nil : mark [] = id := by
  funext run
  simp [mark]

theorem mark_mark (first second : List String) (run : CollectionRun) :
    mark second (mark first run) = mark (first ++ second) run := by
  by_cases inFirst : run.id ∈ first <;> by_cases inSecond : run.id ∈ second <;>
    simp [mark, markedPartial, inFirst, inSecond]

/-- Putting the marked runs one after the other marks them. -/
theorem rows_foldl_put {table current : Table CollectionRun.id CollectionRun.id}
    {runs : List CollectionRun} (stored : ∀ run ∈ runs, run ∈ table.rows)
    (marked : List String) (rows : current.rows = table.rows.map (mark marked)) :
    (runs.foldl (fun runs run => runs.put (markedPartial run)) current).rows =
      table.rows.map (mark (marked ++ runs.map (·.id))) := by
  induction runs generalizing current marked with
  | nil => simpa using rows
  | cons run rest inductionHypothesis =>
    have member := stored run (List.mem_cons_self ..)
    rw [List.foldl_cons, List.map_cons, List.append_cons]
    refine inductionHypothesis (fun other later => stored other (List.mem_cons_of_mem _ later)) _ ?_
    have runId : (markedPartial run).id = run.id := rfl
    simp only [Table.put, rows, List.map_map]
    apply List.map_congr_left
    intro other otherMember
    simp only [Function.comp_apply, id_mark, runId, and_self]
    by_cases same : other.id = run.id
    · obtain rfl := table.eq_of_key otherMember member same
      simp [mark]
    · simp [mark, same]

/-- A batch marks the runs of its rows. -/
theorem rows_deleteBatch (store : Store) (batch : List OpportunityObservation) :
    (deleteBatch store batch).collectionRuns.rows =
      store.collectionRuns.rows.map (mark (batch.map (·.collectionRunId))) := by
  have start : store.collectionRuns.rows = store.collectionRuns.rows.map (mark []) := by
    simp
  rw [deleteBatch, rows_foldl_put (fun run member => (List.mem_filter.mp member).1) [] start]
  apply List.map_congr_left
  intro run member
  by_cases named : run.id ∈ batch.map (·.collectionRunId)
  · have listed : run.id ∈ (store.collectionRuns.rows.filter fun other =>
        other.id ∈ batch.map (·.collectionRunId)).map (·.id) :=
      List.mem_map_of_mem (List.mem_filter.mpr ⟨member, by simpa using named⟩)
    simp only [List.nil_append, mark, named, listed, if_true]
  · have unlisted : run.id ∉ (store.collectionRuns.rows.filter fun other =>
        other.id ∈ batch.map (·.collectionRunId)).map (·.id) := by
      intro listed
      obtain ⟨other, otherMember, sameId⟩ := List.mem_map.mp listed
      have otherNamed := (List.mem_filter.mp otherMember).2
      rw [decide_eq_true_eq, sameId] at otherNamed
      exact named otherNamed
    simp only [List.nil_append, mark, named, unlisted, if_false]

/-- Two batches are one batch of both. -/
theorem deleteBatch_append (store : Store) (first second : List OpportunityObservation) :
    deleteBatch (deleteBatch store first) second = deleteBatch store (first ++ second) := by
  have runs : (deleteBatch (deleteBatch store first) second).collectionRuns =
      (deleteBatch store (first ++ second)).collectionRuns := by
    ext1
    rw [rows_deleteBatch, rows_deleteBatch, rows_deleteBatch, List.map_map]
    apply List.map_congr_left
    intro run _
    rw [Function.comp_apply, mark_mark, List.map_append]
  have observations : (deleteBatch (deleteBatch store first) second).observations =
      (deleteBatch store (first ++ second)).observations := by
    ext1
    simp only [deleteBatch, Table.eraseWhere, List.filter_filter, List.map_append]
    apply List.filter_congr
    intro row _
    rw [Bool.eq_iff_iff]
    simp only [Bool.and_eq_true, Bool.not_eq_true', decide_eq_false_iff_not, List.mem_append, not_or]
    exact and_comm
  calc deleteBatch (deleteBatch store first) second
      = { store with
          collectionRuns := (deleteBatch (deleteBatch store first) second).collectionRuns
          observations := (deleteBatch (deleteBatch store first) second).observations } := rfl
    _ = deleteBatch store (first ++ second) := by
        rw [runs, observations]
        rfl

theorem deleteBatch_nil (store : Store) : deleteBatch store [] = store := by
  have runs : (deleteBatch store []).collectionRuns = store.collectionRuns := by
    ext1
    rw [rows_deleteBatch]
    simp
  have observations : (deleteBatch store []).observations = store.observations := by
    ext1
    simp [deleteBatch, Table.eraseWhere]
  calc deleteBatch store []
      = { store with
          collectionRuns := (deleteBatch store []).collectionRuns
          observations := (deleteBatch store []).observations } := rfl
    _ = store := by rw [runs, observations]

theorem find?_deleteBatch (store : Store) (batch : List OpportunityObservation) (runId : String) :
    (deleteBatch store batch).collectionRuns.find? runId =
      (store.collectionRuns.find? runId).map (mark (batch.map (·.collectionRunId))) := by
  rw [Table.find?, rows_deleteBatch, List.find?_map, Table.find?]
  congr 2
  funext run
  simp

/-- The mark hides nothing that the protection looks at. -/
theorem protectedRun_mark (summaries : List DashboardAccountSummary) (store : Store)
    (batch : List OpportunityObservation) (run : CollectionRun) :
    protectedRun summaries (deleteBatch store batch) (mark (batch.map (·.collectionRunId)) run) =
      protectedRun summaries store run := by
  have columns (runIds : List String) (other : CollectionRun) :
      (mark runIds other).status = other.status ∧ (mark runIds other).provider = other.provider ∧
        (mark runIds other).accountId = other.accountId ∧
        (mark runIds other).startedAt = other.startedAt := by
    unfold mark
    split <;> exact ⟨rfl, rfl, rfl, rfl⟩
  have newer : newerSuccesses (deleteBatch store batch)
      (mark (batch.map (·.collectionRunId)) run) = newerSuccesses store run := by
    obtain ⟨-, provider, account, started⟩ := columns (batch.map (·.collectionRunId)) run
    rw [newerSuccesses, rows_deleteBatch, List.countP_map, newerSuccesses, provider, account,
      started, id_mark]
    congr 1
    funext other
    obtain ⟨status, otherProvider, otherAccount, otherStarted⟩ :=
      columns (batch.map (·.collectionRunId)) other
    rw [Function.comp_apply, status, otherProvider, otherAccount, otherStarted, id_mark]
  rw [protectedRun, protectedRun, newer, (columns _ run).1, id_mark]

variable [CaseMapping]

/-- A batch makes no other row eligible, and none ineligible. -/
theorem eligible_deleteBatch (summaries : List DashboardAccountSummary) (request : CleanupRequest)
    (store : Store) (batch : List OpportunityObservation) :
    eligibleObservation summaries request (deleteBatch store batch) =
      eligibleObservation summaries request store := by
  funext row
  unfold eligibleObservation
  rw [find?_deleteBatch]
  cases store.collectionRuns.find? row.collectionRunId with
  | none => rfl
  | some run =>
    have scope : inScope request (mark (batch.map (·.collectionRunId)) run) =
        inScope request run := by
      unfold mark
      split <;> rfl
    simp only [Option.map_some, protectedRun_mark, scope]

/-- The eligible rows, the oldest first. -/
def expiredRows (summaries : List DashboardAccountSummary) (request : CleanupRequest)
    (store : Store) : List OpportunityObservation :=
  sortByKey (fun row => toLex (row.observedAt, row.id))
    (store.observations.rows.filter (eligibleObservation summaries request store))

theorem nextBatch_eq (summaries : List DashboardAccountSummary) (request : CleanupRequest)
    (store : Store) (limit : ℕ) :
    nextBatch summaries request store limit = (expiredRows summaries request store).take limit :=
  rfl

theorem mem_expiredRows {summaries : List DashboardAccountSummary} {request : CleanupRequest}
    {store : Store} {row : OpportunityObservation} :
    row ∈ expiredRows summaries request store ↔ row ∈ store.observations.rows ∧
      eligibleObservation summaries request store row = true := by
  rw [expiredRows, mem_sortByKey, List.mem_filter]

theorem nodup_expiredRows (summaries : List DashboardAccountSummary) (request : CleanupRequest)
    (store : Store) : ((expiredRows summaries request store).map (·.id)).Nodup := by
  have listed := (sortByKey_perm (fun row => toLex (row.observedAt, row.id))
    (store.observations.rows.filter (eligibleObservation summaries request store))).map
      (fun row : OpportunityObservation => row.id)
  exact listed.nodup_iff.mpr
    (store.observations.distinctKeys.sublist (List.filter_sublist.map _))

omit [CaseMapping] in
/-- The rows outside a beginning of a list are those after it. -/
theorem filter_notMem_take {rows : List OpportunityObservation}
    (distinct : (rows.map (·.id)).Nodup) (count : ℕ) :
    (rows.filter fun row => !decide (row.id ∈ (rows.take count).map (·.id))) = rows.drop count := by
  have split : rows.take count ++ rows.drop count = rows := List.take_append_drop count rows
  rw [← split, List.map_append, List.nodup_append] at distinct
  obtain ⟨-, -, apart⟩ := distinct
  have first : ((rows.take count).filter fun row =>
      !decide (row.id ∈ (rows.take count).map (·.id))) = [] := by
    rw [List.filter_eq_nil_iff]
    intro row member
    simp only [Bool.not_eq_true', decide_eq_false_iff_not, not_not]
    exact List.mem_map_of_mem member
  have later : ((rows.drop count).filter fun row =>
      !decide (row.id ∈ (rows.take count).map (·.id))) = rows.drop count := by
    rw [List.filter_eq_self]
    intro row member
    simp only [Bool.not_eq_true', decide_eq_false_iff_not]
    exact fun inFirst => apart _ inFirst _ (List.mem_map_of_mem member) rfl
  calc (rows.filter fun row => !decide (row.id ∈ (rows.take count).map (·.id)))
      = ((rows.take count ++ rows.drop count).filter fun row =>
          !decide (row.id ∈ (rows.take count).map (·.id))) := by rw [split]
    _ = rows.drop count := by rw [List.filter_append, first, later, List.nil_append]

/-- After the oldest eligible rows are deleted, the later ones are eligible. -/
theorem expiredRows_deleteBatch (summaries : List DashboardAccountSummary)
    (request : CleanupRequest) (store : Store) (count : ℕ) :
    expiredRows summaries request
        (deleteBatch store ((expiredRows summaries request store).take count)) =
      (expiredRows summaries request store).drop count := by
  have distinct : ((store.observations.rows.filter
      (eligibleObservation summaries request store)).map
        fun row => toLex (row.observedAt, row.id)).Nodup := by
    refine List.Nodup.of_map (fun instantAndId => (ofLex instantAndId).2) ?_
    rw [List.map_map]
    exact store.observations.distinctKeys.sublist (List.filter_sublist.map _)
  rw [expiredRows, eligible_deleteBatch]
  simp only [deleteBatch, Table.eraseWhere]
  rw [List.filter_filter]
  simp only [Bool.and_comm (eligibleObservation summaries request store _)]
  rw [← List.filter_filter, sortByKey_filter _ _ distinct]
  exact filter_notMem_take (nodup_expiredRows summaries request store) count

end FinopsAnalytics.CleanupBatches
