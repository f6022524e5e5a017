import FinopsAnalytics.ScanWorker

/-!
# How claimed scans end

An exception at a statement before the collection is committed leaves the failed scan
and nothing of its run, and one of the summary leaves the completed scan, as long as
the handler itself is not interrupted. An exception at one of the reads and logs after
the commit reaches the same handler, which then marks the completed run as failed.
-/

namespace FinopsAnalytics.ScanCompletions

open UniqueTables OpportunityRecords OpportunityCollection OpportunityReconciliation
  OpportunityFingerprint PythonText Fallible FaultySessions InventoryPersistence
open ScanQueue ScanExecution ScanWorker CollectionErrors DistinctKeys
open OciInventoryAdapter (MetadataGuard)
open OciAnalyzers (OciReporting)
open AwsCollections (PolicyRow)

/-- Where a statement stands: before the `try`, in it before the commit of the
collection, after it, in the rebuild of the summary, or in the handler. -/
inductive Phase where
  | begin | collecting | collected | summarizing | failing
deriving DecidableEq, Repr

def phase : Statement → Phase
  | .readClaimed | .logSkipped => .begin
  | .logStarted | .readScan | .readConfiguration | .commitConfiguration | .callProvider
  | .persistInventory | .reload | .persistFindings | .persistScopes | .reconcile
  | .writeCompletion | .commitCollection => .collecting
  | .rebuildSummary | .commitSummary => .summarizing
  | .logCollection | .rollbackSummary | .logSummaryFailure | .readCompleted | .logCompleted =>
    .collected
  | .logFailed | .rollbackFailed | .writeFailed | .commitFailed => .failing

/-- An exception at the statement is handled as it should be. -/
def Protected (point : Statement) : Prop := phase point = .collecting ∨ phase point = .summarizing

instance (point : Statement) : Decidable (Protected point) := inferInstanceAs (Decidable (_ ∨ _))

/-- The exceptions of a scan are all raised where they are handled; or one is raised
after the commit, and then another interrupts the handler. -/
def RaisedWhereHandled (raised : List Statement) : Prop :=
  (∀ point ∈ raised, Protected point) ∨
    (∃ point ∈ raised, phase point = .collected) ∧ ∃ point ∈ raised, phase point = .failing

instance (raised : List Statement) : Decidable (RaisedWhereHandled raised) :=
  inferInstanceAs (Decidable (_ ∨ _))

/-- The status of a run. -/
def runStatus (system : WorkerSystem) (runId : String) : Option CollectionRunStatus :=
  (system.records.collectionRuns.find? runId).map CollectionRun.status

/-- Nothing is recorded of a run. -/
structure Unrecorded (records : Store) (runId : String) : Prop where
  findings : ∀ finding ∈ records.findings.rows, finding.firstSeenCollectionRunId ≠ some runId ∧
    finding.lastSeenCollectionRunId ≠ some runId ∧ finding.presenceReconciledRunId ≠ some runId
  observations : ∀ row ∈ records.observations.rows, row.collectionRunId ≠ runId
  scopes : ∀ row ∈ records.scopeExecutions.rows, row.collectionRunId ≠ runId
  presence : ∀ row ∈ records.presenceHistory.rows, row.collectionRunId ≠ runId

/-- A claimed scan: it is running, and so is its run, of which nothing is recorded. -/
structure Claimed (system : WorkerSystem) (scan : Scan) (run : CollectionRun)
    (columns : RunColumns) : Prop where
  scanStored : system.scans.find? scan.id = some scan
  scanRunning : scan.status = .running
  columnsStored : system.runs.findUnique? scan.id = some columns
  runStored : system.records.collectionRuns.find? columns.runId = some run
  runRunning : run.status = .running
  unrecorded : Unrecorded system.records run.id

section Outcomes

variable [CaseMapping] [TextLiteral] [OciReporting] [MetadataGuard] [Digest] [UuidSource]
  [SystemClock]

/-- The collection is complete: the scan and its run are completed, and the records are
those of persisting all that the execution returned, with every finding observed and
every scope covered. -/
structure Complete (given : Circumstances) (before : WorkerSystem) (scan : Scan)
    (run : CollectionRun) (columns : RunColumns) (after : WorkerSystem) : Prop where
  scanCompleted : ∃ completed, after.scans.find? scan.id = some completed ∧
    (completed.status = .completed ∨ completed.status = .completedWithWarnings)
  runSucceeded : runStatus after run.id = some .success
  recorded : ∃ account executor configuration result discovery policies reloaded candidates,
    readScan scan before = .ok (account, executor, run) ∧
    readConfiguration executor account scan before = .ok configuration ∧
    callProvider given account run configuration = .ok (result, discovery) ∧
    candidates = buildCollectionScopeExecutions policies reloaded run columns.scope result
      given.completedAt ∧
    persistInventoryDiscovery before.inventory (cloudAccount account) discovery =
      .ok after.inventory ∧
    OpportunityPresence.persistScan before.records scan.id run.id result.findings
      given.observedAt candidates given.missingThreshold given.completedAt = .ok after.records ∧
    (∀ item ∈ result.findings, ∃ fingerprint,
      buildOpportunityFingerprint (item.identity run) = .ok fingerprint ∧
        ObservedAs run fingerprint after.records) ∧
    ∀ candidate ∈ candidates, ∃ row ∈ after.records.scopeExecutions.rows,
      row.scopeKey = (run.id, candidate.region, candidate.ruleKey)

/-- The scan and its run have failed, and nothing else is recorded. -/
structure Failed (given : Circumstances) (before : WorkerSystem) (scan : Scan)
    (run : CollectionRun) (after : WorkerSystem) : Prop where
  scanFailed : ∃ failed, after.scans.find? scan.id = some failed ∧ failed.status = .failed
  runFailed : runStatus after run.id = some .failed
  inventory : after.inventory = before.inventory
  records : after.records = { before.records with
    collectionRuns := before.records.collectionRuns.put
      (failedRun given run) }
  unrecorded : Unrecorded after.records run.id

/-- A run that was committed as a success is not committed as failed later. -/
def NeverTurned (runId : String) (commits : List WorkerSystem) : Prop :=
  commits.Pairwise fun earlier later =>
    runStatus earlier runId = some .success → runStatus later runId ≠ some .failed

/-- The collection ends complete or failed, and a success is final. -/
def AllOrNothing (given : Circumstances) (before : WorkerSystem) (scan : Scan)
    (run : CollectionRun) (columns : RunColumns) (session : Session WorkerSystem Statement) :
    Prop :=
  (Complete given before scan run columns session.committed ∨
      Failed given before scan run session.committed) ∧
    NeverTurned run.id session.commits

end Outcomes

section Statements

/-- Nothing of the collection is in a state: at most the accounts and the policies
have been edited. -/
def Untouched (before state : WorkerSystem) : Prop :=
  ∃ accounts policies, state = { before with accounts, policies }

theorem Untouched.refl (before : WorkerSystem) : Untouched before before :=
  ⟨before.accounts, before.policies, rfl⟩

theorem Untouched.runStatus {before state : WorkerSystem} (untouched : Untouched before state)
    (runId : String) : runStatus state runId = ScanCompletions.runStatus before runId := by
  obtain ⟨accounts, policies, rfl⟩ := untouched
  rfl

/-- Nothing of the collection is committed. -/
structure Uncommitted (before : WorkerSystem) (session : Session WorkerSystem Statement) :
    Prop where
  committed : Untouched before session.committed
  commits : ∀ state ∈ session.commits, Untouched before state

theorem Uncommitted.interrupt {before : WorkerSystem} {session : Session WorkerSystem Statement}
    (uncommitted : Uncommitted before session) (point : Statement) (left : WorkerSystem) :
    Uncommitted before (session.interrupt point left) :=
  ⟨uncommitted.committed, uncommitted.commits⟩

/-- The execution goes on without an exception, and its transaction sees a state. -/
structure Collecting (before current : WorkerSystem)
    (session : Session WorkerSystem Statement) : Prop where
  uncommitted : Uncommitted before session
  unraised : session.raised = []
  current : session.current = current

/-- An exception has interrupted the execution. -/
structure Interrupted (before : WorkerSystem) (session : Session WorkerSystem Statement) :
    Prop where
  uncommitted : Uncommitted before session
  handled : ∀ point ∈ session.raised, Protected point

theorem Collecting.interrupt {before current : WorkerSystem}
    {session : Session WorkerSystem Statement} (collecting : Collecting before current session)
    {point : Statement} (stands : phase point = .collecting) (left : WorkerSystem) :
    Interrupted before (session.interrupt point left) := by
  refine ⟨collecting.uncommitted.interrupt point left, fun other member => ?_⟩
  rw [Session.interrupt, collecting.unraised] at member
  rw [List.mem_singleton.mp member]
  exact Or.inl stands

/-- The rule of a statement of the execution: the rest goes on from what its body
makes of the state. -/
theorem collecting_statement {α β : Type} {faults : Faults} {point : Statement}
    {body : WorkerSystem → Except Exception (α × WorkerSystem)} {next : α → Worker β}
    {before current : WorkerSystem} {returns : β → Session WorkerSystem Statement → Prop}
    (stands : phase point = .collecting)
    (rest : ∀ value after, body current = .ok (value, after) →
      Code.Meets (Collecting before after) (next value) returns (Interrupted before)) :
    Code.Meets (Collecting before current) (Code.statement faults point body >>= next) returns
      (Interrupted before) := by
  have first : Code.Meets (Collecting before current) (Code.statement faults point body)
      (fun value session => ∃ after, body current = .ok (value, after) ∧
        Collecting before after session) (Interrupted before) := by
    refine Code.Meets.statement (fun session value after collecting ran => ?_)
      fun session left collecting => collecting.interrupt stands left
    rw [collecting.current] at ran
    exact ⟨after, ran, ⟨collecting.uncommitted.committed, collecting.uncommitted.commits⟩,
      collecting.unraised, rfl⟩
  refine Code.Meets.andThen first fun value session ⟨after, ran, collecting⟩ => ?_
  exact rest value after ran session collecting

/-- The rule of a commit before the collection is persisted. -/
theorem collecting_commit {β : Type} {faults : Faults} {point : Statement}
    {next : PUnit → Worker β} {before current : WorkerSystem}
    {returns : β → Session WorkerSystem Statement → Prop} (stands : phase point = .collecting)
    (untouched : Untouched before current)
    (rest : Code.Meets (Collecting before current) (next ⟨⟩) returns (Interrupted before)) :
    Code.Meets (Collecting before current) (Code.commit faults point >>= next) returns
      (Interrupted before) := by
  have first : Code.Meets (Collecting before current) (Code.commit faults point)
      (fun _ session => Collecting before current session) (Interrupted before) := by
    refine Code.Meets.commit (fun session collecting => ?_)
      fun session left collecting => collecting.interrupt stands left
    refine ⟨⟨collecting.current ▸ untouched, fun state member => ?_⟩, collecting.unraised,
      collecting.current⟩
    rcases List.mem_append.mp member with earlier | last
    · exact collecting.uncommitted.commits state earlier
    · rw [List.mem_singleton.mp last, collecting.current]
      exact untouched
  exact Code.Meets.andThen first fun _ => rest

/-- The rule of what other sessions commit before the collection is persisted. -/
theorem collecting_elsewhere {β : Type} {change : WorkerSystem → WorkerSystem}
    {next : PUnit → Worker β} {before current : WorkerSystem}
    {returns : β → Session WorkerSystem Statement → Prop}
    (edits : ∀ state, Untouched before state → Untouched before (change state))
    (rest : Code.Meets (Collecting before (change current)) (next ⟨⟩) returns
      (Interrupted before)) :
    Code.Meets (Collecting before current) (Code.elsewhere change >>= next) returns
      (Interrupted before) := by
  have first : Code.Meets (Collecting before current)
      (Code.elsewhere change : Code WorkerSystem Statement Exception PUnit)
      (fun _ session => Collecting before (change current) session) (Interrupted before) :=
    Code.Meets.elsewhere fun session collecting =>
      ⟨⟨edits _ collecting.uncommitted.committed, collecting.uncommitted.commits⟩,
        collecting.unraised, congrArg change collecting.current⟩
  exact Code.Meets.andThen first fun _ => rest

theorem reading_eq_ok {α : Type} {body : WorkerSystem → Except Exception α}
    {system after : WorkerSystem} {value : α} :
    reading body system = .ok (value, after) ↔ body system = .ok value ∧ after = system := by
  unfold reading
  cases body system with
  | error raised => simp [bind, Except.bind]
  | ok found => simp [bind, Except.bind, pure, Except.pure, eq_comm]

theorem mapError_eq_ok {ε ε' α : Type} {convert : ε → ε'} {computed : Except ε α} {value : α} :
    computed.mapError convert = .ok value ↔ computed = .ok value := by
  cases computed <;> simp [Except.mapError]

/-- The rule of a statement of the execution that only reads. -/
theorem collecting_reading {α β : Type} {faults : Faults} {point : Statement}
    {body : WorkerSystem → Except Exception α} {next : α → Worker β}
    {before current : WorkerSystem} {returns : β → Session WorkerSystem Statement → Prop}
    (stands : phase point = .collecting)
    (rest : ∀ value, body current = .ok value →
      Code.Meets (Collecting before current) (next value) returns (Interrupted before)) :
    Code.Meets (Collecting before current)
      (Code.statement faults point (reading body) >>= next) returns (Interrupted before) := by
  refine collecting_statement stands fun value after ran => ?_
  obtain ⟨read, rfl⟩ := reading_eq_ok.mp ran
  exact rest value read

theorem runForScan_eq_some {system : WorkerSystem} {scanId : String} {run : CollectionRun}
    {columns : RunColumns} :
    system.runForScan scanId = some (run, columns) ↔
      system.runs.findUnique? scanId = some columns ∧
        system.records.collectionRuns.find? columns.runId = some run := by
  simp only [WorkerSystem.runForScan, Option.bind_eq_some_iff, Option.map_eq_some_iff,
    Prod.mk.injEq]
  constructor
  · rintro ⟨_, stored, _, known, rfl, rfl⟩
    exact ⟨stored, known⟩
  · rintro ⟨stored, known⟩
    exact ⟨columns, stored, run, known, rfl, rfl⟩

/-- The run of a claimed scan. -/
theorem Claimed.runForScan {before : WorkerSystem} {scan : Scan} {run : CollectionRun}
    {columns : RunColumns} (claimed : Claimed before scan run columns) :
    before.runForScan scan.id = some (run, columns) :=
  runForScan_eq_some.mpr ⟨claimed.columnsStored, claimed.runStored⟩

theorem Claimed.runStatus {before : WorkerSystem} {scan : Scan} {run : CollectionRun}
    {columns : RunColumns} (claimed : Claimed before scan run columns) :
    ScanCompletions.runStatus before run.id = some .running := by
  have found : before.records.collectionRuns.find? run.id = some run :=
    Table.find?_eq_some.mpr ⟨(Table.find?_eq_some.mp claimed.runStored).1, rfl⟩
  rw [ScanCompletions.runStatus, found, Option.map_some, claimed.runRunning]

/-- All exceptions are raised where they are handled. -/
def Handled (session : Session WorkerSystem Statement) : Prop :=
  ∀ point ∈ session.raised, Protected point

/-- An exception is raised after the commit of the collection, and none in the handler. -/
structure Late (session : Session WorkerSystem Statement) : Prop where
  collected : ∃ point ∈ session.raised, phase point = .collected
  handlerReached : ∀ point ∈ session.raised, phase point ≠ .failing

theorem Handled.interrupt {session : Session WorkerSystem Statement} (handled : Handled session)
    {point : Statement} (stands : Protected point) (left : WorkerSystem) :
    Handled (session.interrupt point left) := by
  intro other member
  rcases List.mem_append.mp member with earlier | last
  · exact handled other earlier
  · rwa [List.mem_singleton.mp last]

theorem Handled.late {session : Session WorkerSystem Statement} (handled : Handled session)
    {point : Statement} (stands : phase point = .collected) (left : WorkerSystem) :
    Late (session.interrupt point left) := by
  refine ⟨⟨point, List.mem_append_right _ (List.mem_singleton.mpr rfl), stands⟩,
    fun other member failing => ?_⟩
  rcases List.mem_append.mp member with earlier | last
  · rcases handled other earlier with collecting | summarizing
    · cases collecting.symm.trans failing
    · cases summarizing.symm.trans failing
  · rw [List.mem_singleton.mp last, stands] at failing
    cases failing

/-- A failed run after commits of which none succeeded. -/
theorem neverTurned_failed {commits : List WorkerSystem} {state : WorkerSystem} {runId : String}
    (unsuccessful : ∀ earlier ∈ commits, runStatus earlier runId ≠ some .success) :
    NeverTurned runId (commits ++ [state]) := by
  refine List.pairwise_append.mpr ⟨?_, List.pairwise_singleton _ _, ?_⟩
  · exact List.pairwise_of_forall_mem_list fun earlier member _ _ succeeded =>
      absurd succeeded (unsuccessful earlier member)
  · exact fun earlier member _ _ succeeded => absurd succeeded (unsuccessful earlier member)

end Statements

section Collection

variable [CaseMapping] [TextLiteral] [OciReporting] [MetadataGuard] [Digest] [UuidSource]
  [SystemClock] {given : Circumstances} {before : WorkerSystem} {scan : Scan}
  {run : CollectionRun} {columns : RunColumns}

/-- The collection is committed, and nothing has interrupted it. -/
structure Committed (given : Circumstances) (before : WorkerSystem) (scan : Scan)
    (run : CollectionRun) (columns : RunColumns) (session : Session WorkerSystem Statement) :
    Prop where
  complete : Complete given before scan run columns session.committed
  runOfScan : ∃ found columns, session.committed.runForScan scan.id = some (found, columns) ∧
    found.id = run.id
  committedRun : ∃ state ∈ session.commits, runStatus state run.id = some .success
  neverFailed : ∀ state ∈ session.commits, runStatus state run.id ≠ some .failed

omit [TextLiteral] [OciReporting] [MetadataGuard] [Digest] [UuidSource] [SystemClock] in
/-- The run that the execution reads is the one of its scan. -/
theorem readScan_run {account : CollectionAccount} {executor : Executor} {found : CollectionRun}
    (claimed : Claimed before scan run columns)
    (read : readScan scan before = .ok (account, executor, found)) : found = run := by
  unfold readScan at read
  rw [if_neg (not_not.mpr claimed.scanRunning), claimed.runForScan] at read
  cases stored : before.account scan.cloudAccountId with
  | none => simp [stored] at read
  | some account =>
    simp only [stored] at read
    by_cases enabled : account.enabled = true
    · rw [if_neg (by simp [enabled])] at read
      simp only [bind_eq_ok] at read
      obtain ⟨-, -, _, -, _, -, read⟩ := read
      split at read
      · cases read
      · cases read
        rfl
    · rw [if_pos (by simpa using enabled)] at read
      cases read

omit [CaseMapping] [TextLiteral] [OciReporting] [MetadataGuard] [Digest] [UuidSource]
  [SystemClock] in
/-- The reload finds the rows of the claim. -/
theorem reload_eq_ok {account : CollectionAccount} {system : WorkerSystem} {rows : Reloaded}
    (claimed : Claimed before scan run columns)
    (read : reload scan run account system = .ok rows) (scans : system.scans = before.scans)
    (runs : system.runs = before.runs) (records : system.records = before.records) :
    rows.scan = scan ∧ rows.run = run ∧ rows.columns = columns := by
  have runFound : system.records.collectionRuns.find? run.id = some run := by
    rw [records, Table.find?_eq_some]
    exact ⟨(Table.find?_eq_some.mp claimed.runStored).1, rfl⟩
  have columnsFound : system.runs.find? run.id = some columns := by
    rw [runs, Table.find?_eq_some]
    exact ⟨(Table.findUnique?_eq_some.mp claimed.columnsStored).1,
      (Table.find?_eq_some.mp claimed.runStored).2.symm⟩
  unfold reload at read
  rw [scans, claimed.scanStored, runFound, columnsFound] at read
  cases found : system.account account.id with
  | none => simp [found, throw, throwThe, MonadExceptOf.throw] at read
  | some reloaded =>
    simp only [found] at read
    split at read
    · cases read
    · cases read
      exact ⟨rfl, rfl, rfl⟩

/-- What the persistence transaction has written is complete. -/
theorem complete_of_persisted (claimed : Claimed before scan run columns)
    {account reloaded : CollectionAccount} {executor : Executor}
    {configuration : ExecutionConfiguration} {result : ExecutionResult} {discovery : Discovery}
    {policies : List PolicyRow} {current : WorkerSystem} {observed covered : Store}
    {scopes : List CollectionScopeExecution} {count : ℕ} {stats : ReconciliationStats}
    {after : WorkerSystem}
    (written : writeCompletion given ⟨scan, run, columns, reloaded⟩ result count current =
      .ok (⟨⟩, after))
    (scanRead : readScan scan before = .ok (account, executor, run))
    (configurationRead : readConfiguration executor account scan before = .ok configuration)
    (answered : callProvider given account run configuration = .ok (result, discovery))
    (discovered : persistInventoryDiscovery before.inventory (cloudAccount account) discovery =
      .ok current.inventory)
    (findings : persistFindings before.records scan.id run result.findings given.observedAt =
      .ok (count, observed))
    (scopesPersisted : persistCollectionScopeExecutions observed run
      (buildCollectionScopeExecutions policies reloaded run columns.scope result
        given.completedAt) = .ok (scopes, covered))
    (presence : reconcileOpportunityPresence covered run scopes given.missingThreshold =
      .ok (stats, current.records)) (scans : current.scans = before.scans)
    (runs : current.runs = before.runs) :
    Complete given before scan run columns after ∧
      ∃ found columns, after.runForScan scan.id = some (found, columns) ∧ found.id = run.id := by
  cases written
  have known : before.records.collectionRuns.find? run.id = some run :=
    Table.find?_eq_some.mpr ⟨(Table.find?_eq_some.mp claimed.runStored).1, rfl⟩
  have persisted : OpportunityPresence.persistScan before.records scan.id run.id result.findings
      given.observedAt (buildCollectionScopeExecutions policies reloaded run columns.scope result
        given.completedAt) given.missingThreshold given.completedAt =
      .ok { current.records with
        collectionRuns := current.records.collectionRuns.put (completedRun given run) } := by
    simp only [OpportunityPresence.persistScan, OpportunityPresence.findRun_eq_ok.mpr known,
      findings, scopesPersisted, presence, ok_bind, pure, Except.pure, completedRun]
  obtain ⟨observes, covers⟩ := OpportunityPresence.persistScan_recorded known persisted
  have statuses := (OpportunityPresence.persistScan_counts known persisted).1
  dsimp only at statuses
  have found : (current.records.collectionRuns.put (completedRun given run)).find? run.id =
      some (completedRun given run) := by
    rw [statuses]
    exact Table.find?_put (Table.find?_eq_some.mp known).1 rfl rfl
  refine ⟨⟨?_, ?_, account, executor, configuration, result, discovery, policies, reloaded, _,
    scanRead, configurationRead, answered, rfl, discovered, persisted, observes, covers⟩, ?_⟩
  · refine ⟨completedScan given result count scan, ?_, ?_⟩
    · dsimp only [WorkerSystem.putAccount, WorkerSystem.putRun, WorkerSystem.putScan]
      rw [scans]
      exact Table.find?_put (Table.find?_eq_some.mp claimed.scanStored).1 rfl rfl
    · dsimp only [completedScan, completionStatus]
      split <;> simp
  · exact congrArg (Option.map CollectionRun.status) found
  · obtain ⟨member, ofScan⟩ := Table.findUnique?_eq_some.mp claimed.columnsStored
    have stored : (before.runs.put (completedColumns result count columns)).findUnique? scan.id =
        some (completedColumns result count columns) := by
      have sameId : columns.runId = (completedColumns result count columns).runId := rfl
      rw [Table.findUnique?_put member sameId rfl]
      exact if_pos ofScan.symm
    refine ⟨completedRun given run, completedColumns result count columns, ?_, rfl⟩
    dsimp only [WorkerSystem.runForScan, WorkerSystem.putAccount, WorkerSystem.putRun,
      WorkerSystem.putScan]
    have named : (completedColumns result count columns).runId = run.id :=
      (Table.find?_eq_some.mp claimed.runStored).2.symm
    rw [runs, stored, Option.bind_some, named, found, Option.map_some]

/-- The execution commits the whole collection, or an exception leaves nothing of it. -/
theorem collect_meets (claimed : Claimed before scan run columns) (faults : Faults) :
    Code.Meets (Collecting before before) (collect faults given scan)
      (fun returned session => returned = run ∧ session.raised = [] ∧
        session.current = session.committed ∧ Committed given before scan run columns session)
      (Interrupted before) := by
  unfold collect
  refine collecting_reading rfl fun ⟨account, executor, found⟩ scanRead => ?_
  obtain rfl := readScan_run claimed scanRead
  refine collecting_reading rfl fun configuration configurationRead => ?_
  refine collecting_commit rfl (Untouched.refl before) ?_
  refine collecting_elsewhere (fun state untouched => ?_) ?_
  · obtain ⟨accounts, policies, rfl⟩ := untouched
    exact ⟨_, _, rfl⟩
  refine collecting_reading rfl fun ⟨result, discovery⟩ answered => ?_
  refine collecting_statement rfl fun _ _ ran => ?_
  simp only [persistInventory, bind_eq_ok, mapError_eq_ok] at ran
  obtain ⟨inventory, discovered, done⟩ := ran
  cases done
  refine collecting_reading rfl fun rows reloaded => ?_
  obtain ⟨sameScan, sameRun, sameColumns⟩ := reload_eq_ok claimed reloaded rfl rfl rfl
  refine collecting_statement rfl fun count _ ran => ?_
  simp only [persistRunFindings, bind_eq_ok, mapError_eq_ok] at ran
  obtain ⟨⟨_, observed⟩, findings, done⟩ := ran
  cases done
  refine collecting_statement rfl fun scopes _ ran => ?_
  simp only [persistRunScopes, bind_eq_ok, mapError_eq_ok] at ran
  obtain ⟨⟨_, covered⟩, scopesPersisted, done⟩ := ran
  cases done
  refine collecting_statement rfl fun _ _ ran => ?_
  simp only [reconcileRun, bind_eq_ok, mapError_eq_ok] at ran
  obtain ⟨⟨_, reconciled⟩, presence, done⟩ := ran
  cases done
  obtain ⟨rowScan, rowRun, rowColumns, rowAccount⟩ := rows
  dsimp only at sameScan sameRun sameColumns
  subst sameScan sameRun sameColumns
  refine collecting_statement rfl fun _ after ran => ?_
  obtain ⟨complete, runOfScan⟩ := complete_of_persisted claimed ran scanRead configurationRead
    answered discovered findings scopesPersisted presence rfl rfl
  have committed : Code.Meets (Collecting before after) (Code.commit faults .commitCollection)
      (fun _ session => session.raised = [] ∧ session.current = session.committed ∧
        Committed given before rowScan rowRun rowColumns session) (Interrupted before) := by
    refine Code.Meets.commit (fun session collecting => ?_)
      fun session left collecting => collecting.interrupt rfl left
    refine ⟨collecting.unraised, rfl, collecting.current ▸ complete,
      collecting.current ▸ runOfScan,
      ⟨session.current, List.mem_append_right _ (List.mem_singleton.mpr rfl), ?_⟩,
      fun state member => ?_⟩
    · rw [collecting.current]
      exact complete.runSucceeded
    · rcases List.mem_append.mp member with earlier | last
      · rw [(collecting.uncommitted.commits state earlier).runStatus, claimed.runStatus]
        decide
      · rw [List.mem_singleton.mp last, collecting.current, complete.runSucceeded]
        decide
  exact Code.Meets.andThen committed fun _ session holds => ⟨rfl, holds⟩

/-- The summary is no part of the collection. -/
theorem Complete.withSummaries {state : WorkerSystem}
    (complete : Complete given before scan run columns state)
    (summaries : List DashboardAccountSummary) :
    Complete given before scan run columns { state with summaries } :=
  ⟨complete.scanCompleted, complete.runSucceeded, complete.recorded⟩

/-- Only the handling of the exceptions tells the sessions apart. -/
theorem Committed.interrupt {session : Session WorkerSystem Statement}
    (committed : Committed given before scan run columns session) (point : Statement)
    (left : WorkerSystem) :
    Committed given before scan run columns (session.interrupt point left) :=
  ⟨committed.complete, committed.runOfScan, committed.committedRun, committed.neverFailed⟩

variable [SummaryMetrics]

omit [TextLiteral] [OciReporting] [MetadataGuard] [Digest] [UuidSource] [SystemClock] in
/-- The rebuild of a summary writes nothing else. -/
theorem rebuildAccountSummary_eq_ok {provider accountId runId : String}
    {system after : WorkerSystem} {done : PUnit}
    (rebuilt : rebuildAccountSummary provider accountId runId system = .ok (done, after)) :
    ∃ summaries, after = { system with summaries } := by
  unfold rebuildAccountSummary at rebuilt
  dsimp only at rebuilt
  split at rebuilt
  · cases rebuilt
  · split at rebuilt
    · cases rebuilt
    · obtain ⟨values, -, result⟩ := bind_eq_ok.mp rebuilt
      cases result
      exact ⟨_, rfl⟩

/-- A summary that fails by itself is given up. -/
theorem summarize_meets (faults : Faults) :
    Code.Meets (fun session => Handled session ∧ session.current = session.committed ∧
        Committed given before scan run columns session) (summarize faults run)
      (fun _ session => Handled session ∧ Committed given before scan run columns session)
      (fun session => Late session ∧ Committed given before scan run columns session) := by
  unfold summarize
  have rebuilt : Code.Meets (fun session => Handled session ∧
      session.current = session.committed ∧ Committed given before scan run columns session)
      (Code.statement faults .rebuildSummary
        (rebuildAccountSummary run.provider run.accountId run.id))
      (fun _ session => Handled session ∧
        (∃ summaries, session.current = { session.committed with summaries }) ∧
        Committed given before scan run columns session)
      (fun session => Handled session ∧ Committed given before scan run columns session) := by
    refine Code.Meets.statement (fun session _ after ⟨handled, same, committed⟩ ran => ?_)
      fun session left ⟨handled, _, committed⟩ =>
        ⟨handled.interrupt (Or.inr rfl) left, committed.interrupt _ left⟩
    obtain ⟨summaries, rfl⟩ := rebuildAccountSummary_eq_ok ran
    exact ⟨handled, ⟨summaries, by rw [same]⟩, committed.complete, committed.runOfScan,
      committed.committedRun, committed.neverFailed⟩
  have stored : Code.Meets (fun session => Handled session ∧
      (∃ summaries, session.current = { session.committed with summaries }) ∧
        Committed given before scan run columns session)
      (Code.commit faults .commitSummary)
      (fun _ session => Handled session ∧ Committed given before scan run columns session)
      (fun session => Handled session ∧ Committed given before scan run columns session) := by
    refine Code.Meets.commit (fun session ⟨handled, ⟨summaries, same⟩, committed⟩ => ?_)
      fun session left ⟨handled, _, committed⟩ =>
        ⟨handled.interrupt (Or.inr rfl) left, committed.interrupt _ left⟩
    have complete := committed.complete.withSummaries summaries
    obtain ⟨state, member, succeeded⟩ := committed.committedRun
    refine ⟨handled, same ▸ complete, same ▸ committed.runOfScan, ⟨state, List.mem_append_left _ member, succeeded⟩,
      fun other otherMember => ?_⟩
    rcases List.mem_append.mp otherMember with earlier | last
    · exact committed.neverFailed other earlier
    · rw [List.mem_singleton.mp last, same, complete.runSucceeded]
      decide
  refine Code.Meets.attempt (Code.Meets.andThen rebuilt fun _ => stored) fun _ => ?_
  have late {point : Statement} (stands : phase point = .collected) (session) (left)
      (holds : Handled session ∧ Committed given before scan run columns session) :
      Late (session.interrupt point left) ∧
        Committed given before scan run columns (session.interrupt point left) :=
    ⟨holds.1.late stands left, holds.2.interrupt point left⟩
  have rolledBack : Code.Meets
      (fun session => Handled session ∧ Committed given before scan run columns session)
      (Code.rollback faults .rollbackSummary)
      (fun _ session => Handled session ∧ Committed given before scan run columns session)
      (fun session => Late session ∧ Committed given before scan run columns session) :=
    Code.Meets.rollback (fun session ⟨handled, committed⟩ => ⟨handled, committed.complete,
      committed.runOfScan, committed.committedRun, committed.neverFailed⟩) (late rfl)
  refine Code.Meets.andThen rolledBack fun _ => Code.Meets.statement ?_ (late rfl)
  exact fun session _ _ ⟨handled, committed⟩ _ =>
    ⟨handled, committed.complete, committed.runOfScan, committed.committedRun,
      committed.neverFailed⟩

end Collection

section Handler

variable [CaseMapping] {given : Circumstances} {before : WorkerSystem} {scan : Scan}
  {run : CollectionRun} {columns : RunColumns}

/-- A failure of the connection changes accounts only. -/
theorem connectionFailed_accounts (scan : Scan) (raised : Exception) (error : String)
    (system : WorkerSystem) :
    ∃ accounts, connectionFailed scan raised error system = { system with accounts } := by
  unfold connectionFailed
  cases system.account scan.cloudAccountId with
  | none => exact ⟨_, rfl⟩
  | some account =>
    dsimp only
    split
    · cases getCollectionExecutor account.provider with
      | ok executor => exact ⟨_, rfl⟩
      | error refusal => exact ⟨_, rfl⟩
    · exact ⟨_, rfl⟩

/-- What the handler writes where it finds the scan and its run. -/
theorem writeFailure_eq_ok {raised : Exception} {system after : WorkerSystem} {stored : Scan}
    {scanId : String} {found : Bool}
    (written : writeFailure given scanId raised system = .ok (found, after))
    (scanStored : system.scans.find? scanId = some stored)
    (runKnown : system.runForScan scanId = some (run, columns)) :
    found = true ∧ after.inventory = system.inventory ∧
      (∃ error, after.scans = system.scans.put (failedScan given error stored)) ∧
      after.records = { system.records with
        collectionRuns := system.records.collectionRuns.put (failedRun given run) } := by
  unfold writeFailure at written
  rw [scanStored] at written
  dsimp only at written
  set error := (sanitizeCollectionError raised.value).getD "Collection failed"
  have sameRun : (system.putScan (failedScan given error stored)).runForScan scanId =
      some (run, columns) := runKnown
  rw [sameRun] at written
  obtain ⟨accounts, changed⟩ := connectionFailed_accounts stored raised error
    ((system.putScan (failedScan given error stored)).putRun (failedRun given run)
      { columns with errorDetail := some (cut 4000 error) })
  dsimp only at written
  rw [changed] at written
  cases written
  exact ⟨rfl, rfl, ⟨error, rfl⟩, rfl⟩

end Handler

section Failing

variable [CaseMapping] [TextLiteral] [OciReporting] [MetadataGuard] [Digest] [UuidSource]
  [SystemClock] {given : Circumstances} {before : WorkerSystem} {scan : Scan}
  {run : CollectionRun} {columns : RunColumns}

/-- The handler itself was interrupted, before anything of the collection was
committed. -/
structure Broken (before : WorkerSystem) (session : Session WorkerSystem Statement) : Prop where
  uncommitted : Uncommitted before session
  failing : ∃ point ∈ session.raised, phase point = .failing
  notCollected : ∀ point ∈ session.raised, phase point ≠ .collected

omit [CaseMapping] [TextLiteral] [OciReporting] [MetadataGuard] [Digest] [UuidSource]
  [SystemClock] in
theorem Interrupted.broken {session : Session WorkerSystem Statement}
    (interrupted : Interrupted before session) {point : Statement}
    (stands : phase point = .failing) (left : WorkerSystem) :
    Broken before (session.interrupt point left) := by
  refine ⟨interrupted.uncommitted.interrupt point left,
    ⟨point, List.mem_append_right _ (List.mem_singleton.mpr rfl), stands⟩,
    fun other member collected => ?_⟩
  rcases List.mem_append.mp member with earlier | last
  · rcases interrupted.handled other earlier with collecting | summarizing
    · cases collecting.symm.trans collected
    · cases summarizing.symm.trans collected
  · rw [List.mem_singleton.mp last, stands] at collected
    cases collected

omit [TextLiteral] [OciReporting] [MetadataGuard] [Digest] [UuidSource] [SystemClock] in
/-- What the handler writes over an untouched state is the failed scan. -/
theorem failed_of_written (claimed : Claimed before scan run columns) {raised : Exception}
    {system after : WorkerSystem} {found : Bool} (untouched : Untouched before system)
    (written : writeFailure given scan.id raised system = .ok (found, after)) :
    found = true ∧ Failed given before scan run after := by
  obtain ⟨accounts, policies, rfl⟩ := untouched
  obtain ⟨foundIt, inventory, ⟨error, scans⟩, records⟩ :=
    writeFailure_eq_ok written claimed.scanStored claimed.runForScan
  have failedFound : (before.records.collectionRuns.put (failedRun given run)).find? run.id =
      some (failedRun given run) :=
    Table.find?_put (Table.find?_eq_some.mp claimed.runStored).1 rfl rfl
  have scanFound : (before.scans.put (failedScan given error scan)).find? scan.id =
      some (failedScan given error scan) :=
    Table.find?_put (Table.find?_eq_some.mp claimed.scanStored).1 rfl rfl
  refine ⟨foundIt, ⟨_, scans ▸ scanFound, rfl⟩, ?_, inventory, records, ?_⟩
  · rw [runStatus, records]
    exact congrArg (Option.map CollectionRun.status) failedFound
  · rw [records]
    exact ⟨claimed.unrecorded.findings, claimed.unrecorded.observations,
      claimed.unrecorded.scopes, claimed.unrecorded.presence⟩

omit [TextLiteral] [OciReporting] [MetadataGuard] [Digest] [UuidSource] [SystemClock] in
/-- Before the commit of the collection the handler leaves the failed scan. -/
theorem failScan_interrupted (claimed : Claimed before scan run columns) (faults : Faults)
    (raised : Exception) :
    Code.Meets (Interrupted before) (failScan faults given scan.id raised)
      (fun _ session => Handled session ∧ Failed given before scan run session.committed ∧
        NeverTurned run.id session.commits) (Broken before) := by
  have broken {point : Statement} (stands : phase point = .failing)
      (session : Session WorkerSystem Statement) (left : WorkerSystem)
      (interrupted : Interrupted before session) : Broken before (session.interrupt point left) :=
    interrupted.broken stands left
  unfold failScan
  have logged : Code.Meets (Interrupted before) (Code.statement faults .logFailed quiet)
      (fun _ session => Interrupted before session) (Broken before) :=
    Code.Meets.statement (fun session _ _ interrupted _ =>
      ⟨⟨interrupted.uncommitted.committed, interrupted.uncommitted.commits⟩, interrupted.handled⟩)
      (broken rfl)
  have rolledBack : Code.Meets (Interrupted before) (Code.rollback faults .rollbackFailed)
      (fun _ session => Interrupted before session ∧ session.current = session.committed)
      (Broken before) :=
    Code.Meets.rollback (fun session interrupted =>
      ⟨⟨⟨interrupted.uncommitted.committed, interrupted.uncommitted.commits⟩,
        interrupted.handled⟩, rfl⟩) (broken rfl)
  have wrote : Code.Meets
      (fun session => Interrupted before session ∧ session.current = session.committed)
      (Code.statement faults .writeFailed (writeFailure given scan.id raised))
      (fun found session => found = true ∧ Interrupted before session ∧
        Failed given before scan run session.current) (Broken before) := by
    refine Code.Meets.statement (fun session found after ⟨interrupted, same⟩ written => ?_)
      fun session left ⟨interrupted, _⟩ => broken rfl session left interrupted
    rw [same] at written
    obtain ⟨foundIt, failed⟩ := failed_of_written claimed interrupted.uncommitted.committed written
    exact ⟨foundIt, ⟨⟨interrupted.uncommitted.committed, interrupted.uncommitted.commits⟩,
      interrupted.handled⟩, failed⟩
  refine Code.Meets.andThen logged fun _ => Code.Meets.andThen rolledBack fun _ =>
    Code.Meets.andThen wrote fun found => Code.Meets.assuming (fun _ holds => holds.1) ?_
  rintro rfl
  refine Code.Meets.commit (fun session ⟨_, interrupted, failed⟩ => ?_)
    fun session left ⟨_, interrupted, _⟩ => broken rfl session left interrupted
  refine ⟨interrupted.handled, failed, neverTurned_failed fun earlier member => ?_⟩
  rw [(interrupted.uncommitted.commits earlier member).runStatus, claimed.runStatus]
  decide

/-- An exception after the commit, and another in the handler. -/
structure LateAndFailing (session : Session WorkerSystem Statement) : Prop where
  collected : ∃ point ∈ session.raised, phase point = .collected
  failing : ∃ point ∈ session.raised, phase point = .failing

/-- After the commit of the collection the handler turns the run. -/
theorem failScan_late (faults : Faults) (raised : Exception) :
    Code.Meets (fun session => Late session ∧ Committed given before scan run columns session)
      (failScan faults given scan.id raised)
      (fun _ session => Late session ∧ ¬NeverTurned run.id session.commits)
      (fun session => LateAndFailing session ∧
        Committed given before scan run columns session) := by
  have interrupted {point : Statement} (stands : phase point = .failing)
      (session : Session WorkerSystem Statement) (left : WorkerSystem)
      (holds : Late session ∧ Committed given before scan run columns session) :
      LateAndFailing (session.interrupt point left) ∧
        Committed given before scan run columns (session.interrupt point left) := by
    obtain ⟨collected, member, stood⟩ := holds.1.collected
    exact ⟨⟨⟨collected, List.mem_append_left _ member, stood⟩,
      ⟨point, List.mem_append_right _ (List.mem_singleton.mpr rfl), stands⟩⟩,
      holds.2.interrupt point left⟩
  have unmoved {session : Session WorkerSystem Statement} (current : WorkerSystem)
      (holds : Late session ∧ Committed given before scan run columns session) :
      Late { session with current } ∧
        Committed given before scan run columns { session with current } :=
    ⟨⟨holds.1.collected, holds.1.handlerReached⟩, holds.2.complete, holds.2.runOfScan,
      holds.2.committedRun, holds.2.neverFailed⟩
  unfold failScan
  have logged : Code.Meets
      (fun session => Late session ∧ Committed given before scan run columns session)
      (Code.statement faults .logFailed quiet)
      (fun _ session => Late session ∧ Committed given before scan run columns session)
      (fun session => LateAndFailing session ∧
        Committed given before scan run columns session) :=
    Code.Meets.statement (fun session _ after holds _ => unmoved after holds) (interrupted rfl)
  have rolledBack : Code.Meets
      (fun session => Late session ∧ Committed given before scan run columns session)
      (Code.rollback faults .rollbackFailed)
      (fun _ session => (Late session ∧ Committed given before scan run columns session) ∧
        session.current = session.committed)
      (fun session => LateAndFailing session ∧
        Committed given before scan run columns session) :=
    Code.Meets.rollback (fun session holds => ⟨unmoved _ holds, rfl⟩) (interrupted rfl)
  have wrote : Code.Meets
      (fun session => (Late session ∧ Committed given before scan run columns session) ∧
        session.current = session.committed)
      (Code.statement faults .writeFailed (writeFailure given scan.id raised))
      (fun found session => found = true ∧
        (Late session ∧ Committed given before scan run columns session) ∧
        runStatus session.current run.id = some .failed)
      (fun session => LateAndFailing session ∧
        Committed given before scan run columns session) := by
    refine Code.Meets.statement (fun session found after ⟨holds, same⟩ written => ?_)
      fun session left ⟨holds, _⟩ => interrupted rfl session left holds
    rw [same] at written
    obtain ⟨completed, scanStored, -⟩ := holds.2.complete.scanCompleted
    obtain ⟨known, _, runKnown, sameId⟩ := holds.2.runOfScan
    obtain ⟨foundIt, -, -, records⟩ := writeFailure_eq_ok written scanStored runKnown
    have failedFound : (session.committed.records.collectionRuns.put
        (failedRun given known)).find? known.id = some (failedRun given known) :=
      Table.find?_put (Table.find?_eq_some.mp (runForScan_eq_some.mp runKnown).2).1 rfl rfl
    refine ⟨foundIt, unmoved after holds, ?_⟩
    rw [runStatus, records, ← sameId]
    exact congrArg (Option.map CollectionRun.status) failedFound
  refine Code.Meets.andThen logged fun _ => Code.Meets.andThen rolledBack fun _ =>
    Code.Meets.andThen wrote fun found => Code.Meets.assuming (fun _ holds => holds.1) ?_
  rintro rfl
  refine Code.Meets.commit (fun session ⟨_, holds, failed⟩ => ?_)
    fun session left ⟨_, holds, _⟩ => interrupted rfl session left holds
  obtain ⟨state, member, succeeded⟩ := holds.2.committedRun
  refine ⟨⟨holds.1.collected, holds.1.handlerReached⟩, fun never => ?_⟩
  exact (List.pairwise_append.mp never).2.2 state member _ (List.mem_singleton.mpr rfl)
    succeeded failed

end Failing

section Settling

variable [CaseMapping] [TextLiteral] [OciReporting] [MetadataGuard] [Digest] [UuidSource]
  [SystemClock] {given : Circumstances} {before : WorkerSystem} {scan : Scan}
  {run : CollectionRun} {columns : RunColumns} {session : Session WorkerSystem Statement}

/-- A session in which the collection is complete or failed for good exactly where its
exceptions were handled. -/
def Settled (given : Circumstances) (before : WorkerSystem) (scan : Scan) (run : CollectionRun)
    (columns : RunColumns) (session : Session WorkerSystem Statement) : Prop :=
  AllOrNothing given before scan run columns session ↔ RaisedWhereHandled session.raised

/-- A committed collection that no handler has touched. -/
theorem Committed.allOrNothing (committed : Committed given before scan run columns session) :
    AllOrNothing given before scan run columns session :=
  ⟨Or.inl committed.complete, List.pairwise_of_forall_mem_list fun _ _ later member _ =>
    committed.neverFailed later member⟩

/-- A running scan is neither complete nor failed. -/
theorem Uncommitted.not_allOrNothing (claimed : Claimed before scan run columns)
    (uncommitted : Uncommitted before session) :
    ¬AllOrNothing given before scan run columns session := by
  obtain ⟨accounts, policies, same⟩ := uncommitted.committed
  have stored : session.committed.scans.find? scan.id = some scan := by
    rw [same]
    exact claimed.scanStored
  rintro ⟨complete | failed, -⟩
  · obtain ⟨completed, found, ended⟩ := complete.scanCompleted
    obtain rfl := Option.some.inj (stored.symm.trans found)
    rw [claimed.scanRunning] at ended
    rcases ended with ended | ended <;> cases ended
  · obtain ⟨ended, found, failed⟩ := failed.scanFailed
    obtain rfl := Option.some.inj (stored.symm.trans found)
    cases claimed.scanRunning.symm.trans failed

omit [CaseMapping] [TextLiteral] [OciReporting] [MetadataGuard] [Digest] [UuidSource]
  [SystemClock] in
theorem not_protected {point : Statement}
    (stands : phase point = .begin ∨ phase point = .collected ∨ phase point = .failing) :
    ¬Protected point := by
  unfold Protected
  rcases stands with stands | stands | stands <;> rw [stands] <;> decide

/-- An exception before the `try` leaves the scan running. -/
theorem settled_begin (claimed : Claimed before scan run columns)
    (uncommitted : Uncommitted before session) {point : Statement}
    (raised : session.raised = [point]) (stands : phase point = .begin) :
    Settled given before scan run columns session := by
  refine iff_of_false (uncommitted.not_allOrNothing claimed) ?_
  rw [raised]
  rintro (handled | ⟨⟨late, member, collected⟩, -⟩)
  · exact not_protected (Or.inl stands) (handled point (List.mem_singleton.mpr rfl))
  · rw [List.mem_singleton.mp member, stands] at collected
    cases collected

theorem settled_broken (claimed : Claimed before scan run columns)
    (broken : Broken before session) : Settled given before scan run columns session := by
  refine iff_of_false (broken.uncommitted.not_allOrNothing claimed) ?_
  obtain ⟨point, member, failing⟩ := broken.failing
  rintro (handled | ⟨⟨late, lateMember, collected⟩, -⟩)
  · exact not_protected (Or.inr (Or.inr failing)) (handled point member)
  · exact broken.notCollected late lateMember collected

theorem settled_turned (late : Late session) (turned : ¬NeverTurned run.id session.commits) :
    Settled given before scan run columns session := by
  refine iff_of_false (fun settled => turned settled.2) ?_
  obtain ⟨point, member, collected⟩ := late.collected
  rintro (handled | ⟨-, failed, failedMember, failing⟩)
  · exact not_protected (Or.inr (Or.inl collected)) (handled point member)
  · exact late.handlerReached failed failedMember failing

end Settling

section Runs

variable [CaseMapping] [TextLiteral] [OciReporting] [MetadataGuard] [Digest] [UuidSource]
  [SystemClock] [SummaryMetrics] {given : Circumstances} {before : WorkerSystem} {scan : Scan}
  {run : CollectionRun} {columns : RunColumns}

/-- What the `try` raises: an exception before the commit of the collection or after
it. -/
def Escaped (given : Circumstances) (before : WorkerSystem) (scan : Scan) (run : CollectionRun)
    (columns : RunColumns) (session : Session WorkerSystem Statement) : Prop :=
  Interrupted before session ∨ Late session ∧ Committed given before scan run columns session

omit [SummaryMetrics] in
/-- A statement after the commit of the collection that writes nothing. -/
theorem quiet_meets (faults : Faults) {point : Statement} (stands : phase point = .collected)
    {kept : Session WorkerSystem Statement → Prop} :
    Code.Meets (fun session => Handled session ∧ kept session ∧
        Committed given before scan run columns session)
      (Code.statement faults point quiet)
      (fun _ session => Handled session ∧ kept session ∧
        Committed given before scan run columns session)
      (Escaped given before scan run columns) := by
  refine Code.Meets.statement (fun session _ after holds ran => ?_)
    fun session left ⟨handled, _, committed⟩ =>
      Or.inr ⟨handled.late stands left, committed.interrupt point left⟩
  cases ran
  exact holds

/-- The whole execution. -/
theorem executeScan_meets (claimed : Claimed before scan run columns) (faults : Faults) :
    Code.Meets (Collecting before before) (executeScan faults given scan)
      (fun _ session => Handled session ∧ Committed given before scan run columns session)
      (Escaped given before scan run columns) := by
  have collected : Code.Meets (Collecting before before) (collect faults given scan)
      (fun returned session => returned = run ∧ Handled session ∧
        session.current = session.committed ∧ Committed given before scan run columns session)
      (Escaped given before scan run columns) := by
    refine (collect_meets claimed faults).strengthen (fun returned session holds => ?_)
      fun _ => Or.inl
    obtain ⟨same, unraised, current, committed⟩ := holds
    refine ⟨same, fun point member => ?_, current, committed⟩
    rw [unraised] at member
    cases member
  unfold executeScan
  refine Code.Meets.andThen collected fun returned =>
    Code.Meets.assuming (fun _ holds => holds.1) ?_
  rintro rfl
  refine Code.Meets.andThen ((quiet_meets faults rfl).weaken fun _ holds => holds.2) fun _ => ?_
  exact (summarize_meets faults).strengthen (fun _ _ => id) fun _ => Or.inr

/-- The body of the `try`. -/
theorem body_meets (claimed : Claimed before scan run columns) (faults : Faults)
    (provider : String) :
    Code.Meets (Collecting before before)
      (do let _ ← Code.statement faults .logStarted
            (reading fun _ => refused (getCollectionExecutor provider))
          executeScan faults given scan
          Code.statement faults .readCompleted quiet
          Code.statement faults .logCompleted quiet)
      (fun _ session => Handled session ∧ Committed given before scan run columns session)
      (Escaped given before scan run columns) := by
  have started : Code.Meets (Collecting before before)
      (Code.statement faults .logStarted
        (reading fun _ => refused (getCollectionExecutor provider)))
      (fun _ session => Collecting before before session)
      (Escaped given before scan run columns) := by
    refine Code.Meets.statement (fun session _ after collecting ran => ?_)
      fun session left collecting => Or.inl (collecting.interrupt rfl left)
    obtain ⟨-, rfl⟩ := reading_eq_ok.mp ran
    exact collecting
  have executed : Code.Meets (Collecting before before) (executeScan faults given scan)
      (fun _ session => Handled session ∧ True ∧
        Committed given before scan run columns session)
      (Escaped given before scan run columns) :=
    (executeScan_meets claimed faults).strengthen
      (fun _ _ ⟨handled, committed⟩ => ⟨handled, trivial, committed⟩) fun _ => id
  refine Code.Meets.andThen started fun _ => Code.Meets.andThen executed fun _ => ?_
  refine Code.Meets.andThen (quiet_meets faults rfl) fun _ => ?_
  exact (quiet_meets faults rfl).strengthen (fun _ _ ⟨handled, _, committed⟩ =>
    ⟨handled, committed⟩) fun _ => id

omit [SummaryMetrics] in
/-- However the handler ends, the session is settled. -/
theorem failScan_settles (claimed : Claimed before scan run columns) (faults : Faults)
    (raised : Exception) :
    Code.Meets (Escaped given before scan run columns) (failScan faults given scan.id raised)
      (fun _ => Settled given before scan run columns)
      (Settled given before scan run columns) := by
  rintro session (interrupted | late)
  · refine (failScan_interrupted claimed faults raised).strengthen
      (fun _ after ⟨handled, failed, never⟩ => ?_) (fun _ => settled_broken claimed)
      session interrupted
    exact iff_of_true ⟨Or.inr failed, never⟩ (Or.inl handled)
  · refine (failScan_late faults raised).strengthen
      (fun _ _ ⟨late, turned⟩ => settled_turned late turned) (fun after ⟨both, committed⟩ => ?_)
      session late
    exact iff_of_true committed.allOrNothing (Or.inr ⟨both.collected, both.failing⟩)

/-- The body, and the handler of what escapes from it. -/
theorem processClaimed_settles (claimed : Claimed before scan run columns) (faults : Faults) :
    Code.Meets (Collecting before before) (processClaimed faults given scan)
      (fun _ => Settled given before scan run columns)
      (Settled given before scan run columns) := by
  unfold processClaimed
  have read : Code.Meets (Collecting before before)
      (Code.statement faults .readClaimed
        (reading fun system => .ok (claimedProvider scan system)))
      (fun _ session => Collecting before before session)
      (Settled given before scan run columns) := by
    refine Code.Meets.statement (fun session _ after collecting ran => ?_)
      fun session left collecting => ?_
    · obtain ⟨-, rfl⟩ := reading_eq_ok.mp ran
      exact collecting
    · have raised : (session.interrupt .readClaimed left).raised = [.readClaimed] := by
        rw [Session.interrupt, collecting.unraised]
        rfl
      exact settled_begin claimed (collecting.uncommitted.interrupt _ left) raised rfl
  refine Code.Meets.andThen read fun provider => ?_
  rw [if_neg (not_not.mpr claimed.scanRunning)]
  refine Code.Meets.attempt ((body_meets claimed faults provider).strengthen
    (fun _ session ⟨handled, committed⟩ => ?_) fun _ => id) (failScan_settles claimed faults)
  exact iff_of_true committed.allOrNothing (Or.inl handled)

/-- Any set of statements may be interrupted: the collection ends complete or failed,
and stays so, exactly where the exceptions are raised where they are handled. -/
theorem allOrNothing_iff (claimed : Claimed before scan run columns) (faults : Faults)
    (given : Circumstances) :
    AllOrNothing given before scan run columns
        (processClaimed faults given scan (Session.start before)).2 ↔
      RaisedWhereHandled (processClaimed faults given scan (Session.start before)).2.raised := by
  have begun : Collecting before before (Session.start before) :=
    ⟨⟨Untouched.refl before, fun _ member => absurd member List.not_mem_nil⟩, rfl, rfl⟩
  exact (processClaimed_settles claimed faults).settles begun

end Runs

section Sample

/-- Summaries without values. -/
private abbrev plainMetrics : SummaryMetrics where
  calculateAccountSummary _ _ := .ok []

attribute [local instance] asciiCase plainLiteral OciAnalyzers.plainReporting
  OciInventoryAdapter.openGuard plainDigest countingUuids countingClock plainMetrics

private def claimedScan : Scan where
  id := "scan-1"
  accountId := some 1
  cloudAccountId := 1
  status := .running
  trigger := "manual"
  createdAt := 0
  startedAt := some 1
  completedAt := none
  findingsCount := 0
  error := none

private def claimedRun : CollectionRun where
  id := "run-1"
  provider := "aws"
  accountId := "111122223333"
  startedAt := 1
  finishedAt := none
  status := .running
  detailedObservationsAvailable := true

private def claimedColumns : RunColumns :=
  ⟨"run-1", "scan-1", .aws ["us-east-1"], 0, 0, none⟩

private def claimedSystem : WorkerSystem where
  accounts := [{
    id := 1
    provider := "aws"
    nativeAccountId := "111122223333"
    name := "Production"
    enabled := true
    connectionStatus := "untested"
    lastError := none
    scheduleEnabled := false
    scanIntervalHours := 24
    nextScanAt := none
    awsConfiguration := some ⟨1, "111122223333", ["us-east-1"]⟩
    ociConfiguration := none }]
  policies := []
  scans := ⟨[claimedScan], List.nodup_singleton _, List.nodup_singleton _⟩
  runs := ⟨[claimedColumns], List.nodup_singleton _, List.nodup_singleton _⟩
  inventory := ⟨Table.empty _ _, Table.empty _ _⟩
  records := { Store.empty with
    collectionRuns := ⟨[claimedRun], List.nodup_singleton _, List.nodup_singleton _⟩ }
  summaries := []

private theorem claimed_claimedSystem :
    Claimed claimedSystem claimedScan claimedRun claimedColumns where
  scanStored := rfl
  scanRunning := rfl
  columnsStored := rfl
  runStored := rfl
  runRunning := rfl
  unrecorded := ⟨fun _ member => absurd member List.not_mem_nil,
    fun _ member => absurd member List.not_mem_nil,
    fun _ member => absurd member List.not_mem_nil,
    fun _ member => absurd member List.not_mem_nil⟩

/-- A provider that reports one unattached volume. -/
private def volumeGiven : Circumstances where
  aws := {
    collector ruleKey _ := .collected (if ruleKey = "ebs_unattached" then
      [sampleItem "ebs_unattached" (some "us-east-1")] else [])
    resources := []
    coverage := []
    inventoryIssues := [] }
  oci := {
    services := ⟨fun _ _ _ => ⟨[], none⟩, fun _ => ⟨[], none⟩, fun _ => ⟨[], none⟩,
      fun _ _ => ⟨[], none⟩, fun _ _ => ⟨[], none⟩, fun _ _ => ⟨[], none⟩, fun _ _ => ⟨[], none⟩,
      fun _ _ _ => ⟨[], none⟩, fun _ _ => ⟨[], none⟩, fun _ _ _ => ⟨[], none⟩⟩
    fuel := 0
    otherIssues := [] }
  editedAccounts := id
  editedPolicies := id
  observedAt := 2
  completedAt := 3
  failedAt := 4
  missingThreshold := 2

/-- Interruptions that leave no work behind. -/
private def interruptedAt (points : List Statement) : Faults := fun point =>
  if point ∈ points then some ⟨.internal "OperationalError" "connection lost", id⟩ else none

/-- The session of the sample with interruptions at the points. -/
private def sampleSession (points : List Statement) : Session WorkerSystem Statement :=
  (processClaimed (interruptedAt points) volumeGiven claimedScan (Session.start claimedSystem)).2

private theorem sampleSession_eq (points : List Statement) :
    (processClaimed (interruptedAt points) volumeGiven claimedScan
      (Session.start claimedSystem)).2 = sampleSession points := rfl

/-- The rebuild of the summary is interrupted: the collection stays complete. -/
theorem allOrNothing_summaryInterrupted :
    (sampleSession [.rebuildSummary]).raised = [.rebuildSummary] ∧
      runStatus (sampleSession [.rebuildSummary]).committed "run-1" = some .success ∧
      AllOrNothing volumeGiven claimedSystem claimedScan claimedRun claimedColumns
        (sampleSession [.rebuildSummary]) := by
  have settles := allOrNothing_iff claimed_claimedSystem (interruptedAt [.rebuildSummary])
    volumeGiven
  rw [sampleSession_eq] at settles
  refine ⟨by decide +kernel, by decide +kernel, settles.mpr ?_⟩
  decide +kernel

/-- The read after the commit is interrupted: the run that was committed as a success
is committed as failed, and its finding stays. -/
theorem succeeded_run_turned_failed :
    ¬∀ (faults : Faults) (given : Circumstances) (before : WorkerSystem) (scan : Scan)
      (run : CollectionRun) (columns : RunColumns), Claimed before scan run columns →
        AllOrNothing given before scan run columns
          (processClaimed faults given scan (Session.start before)).2 := by
  intro claimed
  have settled := claimed (interruptedAt [.readCompleted]) volumeGiven _ _ _ _
    claimed_claimedSystem
  rw [sampleSession_eq] at settled
  have statuses : (sampleSession [.readCompleted]).commits.map (fun state =>
      (runStatus state "run-1", state.records.observations.rows.length)) =
        [(some .running, 0), (some .success, 1), (some .success, 1), (some .failed, 1)] := by
    decide +kernel
  have never : ((sampleSession [.readCompleted]).commits.map (fun state =>
      (runStatus state "run-1", state.records.observations.rows.length))).Pairwise
        fun earlier later => earlier.1 = some .success → later.1 ≠ some .failed :=
    List.pairwise_map.mpr settled.2
  rw [statuses] at never
  exact absurd never (by decide)

end Sample

end FinopsAnalytics.ScanCompletions
