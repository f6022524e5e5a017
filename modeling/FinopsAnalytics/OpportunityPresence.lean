import FinopsAnalytics.OpportunityCollection
import FinopsAnalytics.TransactionHistories

/-!
# The presence machine

A collection begins a run, persists what it found and what it covered,
reconciles absences and finishes the run. These steps are operations of their
own here, so that runs may overlap, repeat a step or take it late. Every
operation is a transaction.
-/

namespace FinopsAnalytics.OpportunityPresence

open UniqueTables OpportunityRecords OpportunityReconciliation OpportunityCollection
  OpportunityFingerprint PythonText TransactionHistories Fallible

inductive CollectionOperation where
  | beginRun (provider accountId : String) (startedAt : Instant)
  | persistFindings (scanId runId : String) (collected : List CollectedFinding)
      (observedAt : Instant)
  | persistScopes (runId : String) (rows : List ScopeCandidate)
  | reconcile (runId : String) (rows : List CollectionScopeExecution) (missingThreshold : ℕ)
  | finishRun (runId : String) (status : CollectionRunStatus) (finishedAt : Instant)

/-- The run with an identifier. -/
def findRun (store : Store) (runId : String) : Except ServiceError CollectionRun :=
  match store.collectionRuns.find? runId with
  | some run => .ok run
  | none => .error (.runtime "CollectionRun missing for claimed scan")

theorem findRun_eq_ok {store : Store} {runId : String} {run : CollectionRun} :
    findRun store runId = .ok run ↔ store.collectionRuns.find? runId = some run := by
  unfold findRun
  split
  · rename_i found
    simp [found]
  · rename_i missing
    simp [missing]

section Step

variable [CaseMapping] [Digest] [UuidSource] [SystemClock]

/-- One operation. A reconciliation is given rows that are stored for its run. -/
def step : CollectionOperation → Store → Except ServiceError Store
  | .beginRun provider accountId startedAt, store => do
    let (id, store) := store.draw
    let collectionRuns ← flushed store.collectionRuns
      { id, provider, accountId, startedAt, finishedAt := none, status := .running
        detailedObservationsAvailable := true }
    return { store with collectionRuns }
  | .persistFindings scanId runId collected observedAt, store => do
    let run ← findRun store runId
    let (_, store) ← persistFindings store scanId run collected observedAt
    return store
  | .persistScopes runId rows, store => do
    let run ← findRun store runId
    let (_, store) ← persistCollectionScopeExecutions store run rows
    return store
  | .reconcile runId rows missingThreshold, store => do
    let run ← findRun store runId
    if rows.all fun row => row ∈ store.scopeExecutions.rows && row.collectionRunId = runId then
      let (_, store) ← reconcileOpportunityPresence store run rows missingThreshold
      return store
    else throw (.runtime "The scope rows are not those of the run")
  | .finishRun runId status finishedAt, store => do
    let run ← findRun store runId
    return { store with
      collectionRuns :=
        store.collectionRuns.put { run with status, finishedAt := some finishedAt } }

/-- The persistence transaction of `execute_scan`. -/
def persistScan (store : Store) (scanId runId : String) (collected : List CollectedFinding)
    (observedAt : Instant) (candidates : List ScopeCandidate) (missingThreshold : ℕ)
    (completedAt : Instant) : Except ServiceError Store := do
  let run ← findRun store runId
  let (_, store) ← persistFindings store scanId run collected observedAt
  let (scopeExecutions, store) ← persistCollectionScopeExecutions store run candidates
  let (_, store) ← reconcileOpportunityPresence store run scopeExecutions missingThreshold
  return { store with
    collectionRuns :=
      store.collectionRuns.put { run with status := .success, finishedAt := some completedAt } }

end Step

abbrev CollectionTransition := Transition Store CollectionOperation

/-- A reconciliation counted an absence of a finding: a success row of the run
covers it, the run observed nothing of it, is not the last run reconciled with it
and started after that one. -/
structure CountedAbsence (id : String) (transition : CollectionTransition) (run : CollectionRun)
    (missingThreshold : ℕ) (finding : Finding) : Prop where
  reconciles : ∃ rows, transition.operation = .reconcile run.id rows missingThreshold
  known : transition.before.collectionRuns.find? run.id = some run
  notFailed : run.status ≠ .failed
  member : finding ∈ transition.before.findings.rows
  id_eq : finding.id = id
  covered : ∃ scope ∈ transition.before.scopeExecutions.rows, scope.collectionRunId = run.id ∧
    scope.status = .success ∧ scope.ruleKey = finding.ruleKey ∧
    (scopeRegion (some scope.region) = scopeRegion finding.region ∨
      scopeRegion (some scope.region) = allRegionsScope)
  unobserved : ∀ row ∈ transition.before.observations.rows,
    ¬(row.opportunityId = id ∧ row.collectionRunId = run.id)
  anotherRun : finding.presenceReconciledRunId ≠ some run.id
  afterReconciliation : ∀ reconciledAt, finding.presenceReconciledAt = some reconciledAt →
    reconciledAt < run.startedAt
  afterLastSeen : finding.lastSeenAt ≤ run.startedAt
  result : missed run missingThreshold finding ∈ transition.after.findings.rows

/-- Persisting the findings of a run made a finding present. -/
structure MadePresent (id : String) (transition : CollectionTransition) (run : CollectionRun) :
    Prop where
  persists : ∃ scanId collected observedAt,
    transition.operation = .persistFindings scanId run.id collected observedAt
  known : transition.before.collectionRuns.find? run.id = some run
  result : ∃ next ∈ transition.after.findings.rows, next.id = id ∧
    next.presence = observedPresence run ∧
    ∀ finding ∈ transition.before.findings.rows, finding.id = id →
      finding.presence ≠ next.presence

/-- What an operation can do to the presence of a finding. -/
inductive PresenceChange (transition : CollectionTransition) (next : Finding) : Prop where
  | kept (finding : Finding) (member : finding ∈ transition.before.findings.rows)
      (sameId : finding.id = next.id) (presence : next.presence = finding.presence)
  | madePresent (finding : Finding) (run : CollectionRun)
      (member : finding ∈ transition.before.findings.rows) (sameId : finding.id = next.id)
      (recent : startedBeforeReconciliation run finding = false)
      (presence : next.presence = observedPresence run)
      (made : MadePresent next.id transition run)
  | created (fresh : ∀ finding ∈ transition.before.findings.rows, finding.id ≠ next.id)
      (active : next.presence.status = .active) (uncounted : next.presence.missingCount = 0)
      (persists : ∃ scanId runId collected observedAt,
        transition.operation = .persistFindings scanId runId collected observedAt)
  | counted (finding : Finding) (run : CollectionRun) (missingThreshold : ℕ)
      (absence : CountedAbsence next.id transition run missingThreshold finding)
      (missed_eq : next = missed run missingThreshold finding)

/-- A row that covers a finding, read off the lookup of the reconciliation. -/
theorem findingScopeRow_spec {rows : List CollectionScopeExecution} {finding : Finding}
    {scope : CollectionScopeExecution} (found : findingScopeRow rows finding = some scope) :
    scope ∈ rows ∧ scope.status = .success ∧ scope.ruleKey = finding.ruleKey ∧
      (scopeRegion (some scope.region) = scopeRegion finding.region ∨
        scopeRegion (some scope.region) = allRegionsScope) := by
  have lookup {wanted : String}
      (found : successfulScopeRow rows finding.ruleKey wanted = some scope) :
      scope ∈ rows ∧ scope.status = .success ∧ scope.ruleKey = finding.ruleKey ∧
        scopeRegion (some scope.region) = wanted := by
    have member := List.mem_of_find?_eq_some found
    have holds := List.find?_some found
    simp only [Bool.and_eq_true, decide_eq_true_eq] at holds
    exact ⟨List.mem_reverse.mp member, holds.1.1, holds.1.2, holds.2⟩
  unfold findingScopeRow at found
  split at found
  · rename_i own
    rw [found] at own
    obtain ⟨member, success, rule, region⟩ := lookup own
    exact ⟨member, success, rule, Or.inl region⟩
  · obtain ⟨member, success, rule, region⟩ := lookup found
    exact ⟨member, success, rule, Or.inr region⟩

section StepSpec

variable [CaseMapping] [Digest] [UuidSource] [SystemClock]

variable {store after : Store}

theorem presenceChange_persistFindings {scanId runId : String} {collected : List CollectedFinding}
    {observedAt : Instant} {run : CollectionRun} {count : ℕ}
    (found : store.collectionRuns.find? runId = some run)
    (accepted : persistFindings store scanId run collected observedAt = .ok (count, after))
    {next : Finding} (member : next ∈ after.findings.rows) :
    PresenceChange ⟨.persistFindings scanId runId collected observedAt, store, after⟩ next := by
  obtain ⟨-, rfl⟩ := Table.find?_eq_some.mp found
  rcases (persistFindings_eq_ok accepted).findings.origin member with
    ⟨finding, findingMember, sameId, observed⟩ | ⟨fresh, discovered⟩
  · rcases observed.presence with kept | ⟨recent, present⟩
    · exact .kept finding findingMember sameId kept
    · by_cases same : next.presence = finding.presence
      · exact .kept finding findingMember sameId same
      · refine .madePresent finding run findingMember sameId recent present
          ⟨⟨_, _, _, rfl⟩, found, next, member, rfl, present, fun other otherMember otherId => ?_⟩
        obtain rfl := store.findings.eq_of_key otherMember findingMember
          (otherId.trans sameId.symm)
        exact fun equal => same equal.symm
  · exact .created fresh discovered.active discovered.uncounted ⟨_, _, _, _, rfl⟩

omit [CaseMapping] [Digest] [UuidSource] [SystemClock] in
theorem presenceChange_reconcile {runId : String} {rows : List CollectionScopeExecution}
    {missingThreshold : ℕ} {run : CollectionRun} {stats : ReconciliationStats}
    (found : store.collectionRuns.find? runId = some run)
    (stored : ∀ row ∈ rows, row ∈ store.scopeExecutions.rows ∧ row.collectionRunId = runId)
    (accepted : reconcileOpportunityPresence store run rows missingThreshold =
      .ok (stats, after)) {next : Finding} (member : next ∈ after.findings.rows) :
    PresenceChange ⟨.reconcile runId rows missingThreshold, store, after⟩ next := by
  obtain ⟨-, rfl⟩ := Table.find?_eq_some.mp found
  obtain ⟨-, mapped, -⟩ := reconcileOpportunityPresence_eq_ok accepted
  have origin := member
  rw [mapped] at origin
  obtain ⟨finding, findingMember, rfl⟩ := List.mem_map.mp origin
  have sameId : (reconciled store run rows missingThreshold finding).id = finding.id :=
    Finding.id_of_subject (reconciled_subject ..)
  by_cases counts : countsAbsence store run rows finding = true
  · have isMissed : reconciled store run rows missingThreshold finding =
        missed run missingThreshold finding := if_pos counts
    simp only [countsAbsence, absent, outOfOrder, Bool.and_eq_true, decide_eq_true_eq,
      Bool.not_eq_true', Bool.or_eq_false_iff, decide_eq_false_iff_not, Option.isSome_iff_exists]
      at counts
    obtain ⟨⟨notFailed, -⟩, ⟨⟨⟨scope, covers⟩, unobserved⟩, another⟩, recent, seen⟩ := counts
    obtain ⟨scopeMember, success, rule, region⟩ := findingScopeRow_spec covers
    obtain ⟨scopeStored, ofRun⟩ := stored scope scopeMember
    refine .counted finding run missingThreshold
      ⟨⟨rows, rfl⟩, found, notFailed, findingMember, sameId.symm,
        ⟨scope, scopeStored, ofRun, success, rule, region⟩, ?_, another, ?_, not_lt.mp seen,
        isMissed ▸ member⟩ isMissed
    · rintro row rowMember ⟨owner, ofRun⟩
      refine unobserved (List.mem_map.mpr ⟨row, List.mem_filter.mpr
        ⟨rowMember, by simpa using ofRun⟩, owner.trans sameId⟩)
    · intro reconciledAt marked
      simpa [startedByReconciliation, marked] using recent
  · have isKept : reconciled store run rows missingThreshold finding = finding := if_neg counts
    exact .kept finding findingMember sameId.symm (by rw [isKept])

/-- The step lemma: every operation changes the presence of a finding in one of
four ways. -/
theorem step_presenceChange {operation : CollectionOperation}
    (committed : step operation store = .ok after) {next : Finding}
    (member : next ∈ after.findings.rows) :
    PresenceChange ⟨operation, store, after⟩ next := by
  have unchanged (same : after.findings = store.findings) :
      PresenceChange ⟨operation, store, after⟩ next :=
    .kept next (same ▸ member) rfl rfl
  cases operation with
  | beginRun provider accountId startedAt =>
    simp only [step, Store.draw, bind_eq_ok] at committed
    obtain ⟨collectionRuns, -, result⟩ := committed
    cases result
    exact unchanged rfl
  | persistFindings scanId runId collected observedAt =>
    simp only [step, bind_eq_ok, findRun_eq_ok] at committed
    obtain ⟨run, found, ⟨count, last⟩, accepted, result⟩ := committed
    cases result
    exact presenceChange_persistFindings found accepted member
  | persistScopes runId rows =>
    simp only [step, bind_eq_ok, findRun_eq_ok] at committed
    obtain ⟨run, -, ⟨persisted, last⟩, accepted, result⟩ := committed
    cases result
    obtain ⟨-, scopeExecutions, drawn, -, rfl⟩ :=
      persistCollectionScopeExecutions_eq_ok accepted
    exact unchanged rfl
  | reconcile runId rows missingThreshold =>
    simp only [step, bind_eq_ok, findRun_eq_ok] at committed
    obtain ⟨run, found, guarded⟩ := committed
    split at guarded
    · rename_i stored
      simp only [bind_eq_ok] at guarded
      obtain ⟨⟨stats, last⟩, accepted, result⟩ := guarded
      cases result
      exact presenceChange_reconcile found (by simpa using stored) accepted member
    · cases guarded
  | finishRun runId status finishedAt =>
    simp only [step, bind_eq_ok, findRun_eq_ok] at committed
    obtain ⟨run, -, result⟩ := committed
    cases result
    exact unchanged rfl

/-- What every operation keeps: findings and runs stay, a run keeps its start, and
an observation is added only by persisting the findings of its run. -/
structure StepFrame (operation : CollectionOperation) (before after : Store) : Prop where
  findings : ∀ finding ∈ before.findings.rows, ∃ next ∈ after.findings.rows,
    next.id = finding.id
  runs : ∀ run ∈ before.collectionRuns.rows, ∃ next ∈ after.collectionRuns.rows,
    next.id = run.id ∧ next.startedAt = run.startedAt
  observations : ∀ row ∈ after.observations.rows,
    (∃ old ∈ before.observations.rows, old.pair = row.pair) ∨
      ∃ scanId collected observedAt,
        operation = .persistFindings scanId row.collectionRunId collected observedAt

theorem step_frame {operation : CollectionOperation} (committed : step operation store = .ok after) :
    StepFrame operation store after := by
  have keepFindings : ∀ finding ∈ store.findings.rows, ∃ next ∈ store.findings.rows,
      next.id = finding.id := fun finding member => ⟨finding, member, rfl⟩
  have keepRuns : ∀ run ∈ store.collectionRuns.rows, ∃ next ∈ store.collectionRuns.rows,
      next.id = run.id ∧ next.startedAt = run.startedAt := fun run member => ⟨run, member, rfl, rfl⟩
  cases operation with
  | beginRun provider accountId startedAt =>
    simp only [step, Store.draw, bind_eq_ok, flushed_eq_ok] at committed
    obtain ⟨collectionRuns, inserted, result⟩ := committed
    cases result
    refine ⟨keepFindings, fun run member => ⟨run, ?_, rfl, rfl⟩,
      fun row member => Or.inl ⟨row, member, rfl⟩⟩
    change run ∈ collectionRuns.rows
    rw [(Table.rows_of_insert inserted).1]
    exact List.mem_append_left _ member
  | persistFindings scanId runId collected observedAt =>
    simp only [step, bind_eq_ok, findRun_eq_ok] at committed
    obtain ⟨run, found, ⟨count, last⟩, accepted, result⟩ := committed
    cases result
    obtain ⟨-, rfl⟩ := Table.find?_eq_some.mp found
    obtain ⟨findings, observations, frame⟩ := persistFindings_eq_ok accepted
    refine ⟨fun finding member => ?_, frame.collectionRuns.symm ▸ keepRuns, fun row member => ?_⟩
    · obtain ⟨next, nextMember, sameId, -⟩ := findings.carries finding member
      exact ⟨next, nextMember, sameId⟩
    · rcases observations.origin member with ⟨old, oldMember, -, same⟩ | ⟨-, drawn⟩
      · exact Or.inl ⟨old, oldMember, same.2.1.symm⟩
      · exact Or.inr ⟨scanId, collected, observedAt, by rw [drawn.1]⟩
  | persistScopes runId rows =>
    simp only [step, bind_eq_ok, findRun_eq_ok] at committed
    obtain ⟨run, -, ⟨persisted, last⟩, accepted, result⟩ := committed
    cases result
    obtain ⟨-, scopeExecutions, drawn, -, rfl⟩ :=
      persistCollectionScopeExecutions_eq_ok accepted
    exact ⟨keepFindings, keepRuns, fun row member => Or.inl ⟨row, member, rfl⟩⟩
  | reconcile runId rows missingThreshold =>
    simp only [step, bind_eq_ok, findRun_eq_ok] at committed
    obtain ⟨run, found, guarded⟩ := committed
    split at guarded
    · simp only [bind_eq_ok] at guarded
      obtain ⟨⟨stats, last⟩, accepted, result⟩ := guarded
      cases result
      obtain ⟨-, mapped, findings, presenceHistory, rfl⟩ :=
        reconcileOpportunityPresence_eq_ok accepted
      refine ⟨fun finding member => ⟨_, mapped ▸ List.mem_map_of_mem member,
        Finding.id_of_subject (reconciled_subject ..)⟩, keepRuns,
        fun row member => Or.inl ⟨row, member, rfl⟩⟩
    · cases guarded
  | finishRun runId status finishedAt =>
    simp only [step, bind_eq_ok, findRun_eq_ok] at committed
    obtain ⟨run, found, result⟩ := committed
    cases result
    obtain ⟨stored, -⟩ := Table.find?_eq_some.mp found
    refine ⟨keepFindings, ?_, fun row member => Or.inl ⟨row, member, rfl⟩⟩
    have carried : Table.Carries (fun old next => next.startedAt = old.startedAt)
        store.collectionRuns
        (store.collectionRuns.put { run with status, finishedAt := some finishedAt }) := by
      refine Table.Carries.put ?_ _ ?_
      · exact fun _ => rfl
      · intro old member sameId _
        obtain rfl := store.collectionRuns.eq_of_key member stored sameId
        rfl
    exact carried

end StepSpec

section Counting

variable [CaseMapping] [Digest] [UuidSource] [SystemClock]

variable {store after : Store} {scanId runId : String} {collected : List CollectedFinding}
  {observedAt : Instant} {candidates : List ScopeCandidate} {missingThreshold : ℕ}
  {completedAt : Instant}

/-- What a scan does to the runs, and where it counts a finding missing: the
finding was unresolved, seen no later than the start of the run, and the row of a
candidate that succeeded covers it. -/
theorem persistScan_counts {run : CollectionRun}
    (known : store.collectionRuns.find? runId = some run)
    (accepted : persistScan store scanId runId collected observedAt candidates missingThreshold
      completedAt = .ok after) :
    after.collectionRuns =
        store.collectionRuns.put { run with status := .success, finishedAt := some completedAt } ∧
      ∀ finding ∈ store.findings.rows, ∀ next ∈ after.findings.rows, next.id = finding.id →
        finding.missingCount < next.missingCount →
        next = missed run missingThreshold finding ∧
          finding.provider = run.provider ∧ finding.accountId = run.accountId ∧
          (finding.presenceStatus = .active ∨ finding.presenceStatus = .missing) ∧
          finding.lastSeenAt ≤ run.startedAt ∧
          ∃ candidate ∈ candidates, candidate.status = .success ∧
            candidate.ruleKey = finding.ruleKey ∧
            (scopeRegion (some candidate.region) = scopeRegion finding.region ∨
              scopeRegion (some candidate.region) = allRegionsScope) := by
  simp only [persistScan, bind_eq_ok, findRun_eq_ok] at accepted
  obtain ⟨_, found, ⟨count, observed⟩, findings, ⟨scopeExecutions, covered⟩, scopes,
    ⟨stats, reconciledStore⟩, presence, result⟩ := accepted
  obtain rfl := Option.some.inj (known.symm.trans found)
  cases result
  have persisted := persistFindings_eq_ok findings
  obtain ⟨-, executions, drawn, -, coveredEq⟩ := persistCollectionScopeExecutions_eq_ok scopes
  obtain ⟨-, mapped, rows, events, reconciledEq⟩ := reconcileOpportunityPresence_eq_ok presence
  have sameFindings : covered.findings = observed.findings := by rw [coveredEq]
  have sameObservations : covered.observations = observed.observations := by rw [coveredEq]
  refine ⟨by rw [reconciledEq, coveredEq, persisted.frame.collectionRuns], ?_⟩
  intro finding member next nextMember sameId raised
  dsimp only at nextMember
  rw [mapped] at nextMember
  obtain ⟨middle, middleMember, rfl⟩ := List.mem_map.mp nextMember
  rw [sameFindings] at middleMember
  have middleId : middle.id = finding.id :=
    (Finding.id_of_subject (reconciled_subject ..)).symm.trans sameId
  by_cases counts : countsAbsence covered run scopeExecutions middle = true
  · have isMissed : reconciled covered run scopeExecutions missingThreshold middle =
        missed run missingThreshold middle := if_pos counts
    simp only [countsAbsence, reconcilable, absent, outOfOrder, Bool.and_eq_true, Bool.or_eq_true,
      decide_eq_true_eq, Bool.not_eq_true', Bool.or_eq_false_iff, decide_eq_false_iff_not,
      Option.isSome_iff_exists] at counts
    obtain ⟨⟨-, ⟨⟨provider, owner⟩, -⟩, unresolved⟩, ⟨⟨⟨scope, covers⟩, unobserved⟩, -⟩, -, seen⟩ :=
      counts
    -- the run observed nothing of it, so it is the finding from before
    have untouched : finding ∈ observed.findings.rows := by
      refine persistFindings_untouched findings member fun row rowMember pair => unobserved ?_
      have ofRun : row.collectionRunId = run.id := congrArg Prod.snd pair
      have owner : row.opportunityId = middle.id := (congrArg Prod.fst pair).trans middleId.symm
      exact List.mem_map.mpr
        ⟨row, List.mem_filter.mpr ⟨sameObservations ▸ rowMember, by simpa using ofRun⟩, owner⟩
    obtain rfl := observed.findings.eq_of_key middleMember untouched middleId
    obtain ⟨scopeMember, success, rule, region⟩ := findingScopeRow_spec covers
    obtain ⟨candidate, candidateMember, id, rfl⟩ := row_of_persisted scopes scopeMember
    exact ⟨isMissed, provider, owner, unresolved, not_lt.mp seen, candidate, candidateMember,
      success, rule, region⟩
  · have isKept : reconciled covered run scopeExecutions missingThreshold middle = middle :=
      if_neg counts
    rw [isKept] at raised
    rcases persisted.findings.origin middleMember with ⟨old, oldMember, oldId, change⟩ | ⟨fresh, -⟩
    · obtain rfl := store.findings.eq_of_key oldMember member (oldId.trans middleId)
      rcases change.presence with kept | ⟨-, present⟩
      · have same : middle.missingCount = old.missingCount :=
          congrArg TechnicalPresence.missingCount kept
        omega
      · have none : middle.missingCount = 0 := congrArg TechnicalPresence.missingCount present
        omega
    · exact absurd middleId.symm (fresh finding member)

/-- A scan writes scope rows of its candidates. -/
theorem persistScan_scopes
    (accepted : persistScan store scanId runId collected observedAt candidates missingThreshold
      completedAt = .ok after) {row : CollectionScopeExecution}
    (member : row ∈ after.scopeExecutions.rows) :
    row ∈ store.scopeExecutions.rows ∨ ∃ candidate ∈ candidates, ∃ id,
      row = candidate.row id runId := by
  simp only [persistScan, bind_eq_ok, findRun_eq_ok] at accepted
  obtain ⟨run, found, ⟨count, observed⟩, findings, ⟨scopeExecutions, covered⟩, scopes,
    ⟨stats, reconciledStore⟩, presence, result⟩ := accepted
  cases result
  obtain ⟨-, -, rows, events, reconciledEq⟩ := reconcileOpportunityPresence_eq_ok presence
  obtain ⟨-, rfl⟩ := Table.find?_eq_some.mp found
  have covers : row ∈ covered.scopeExecutions.rows := by simpa only [reconciledEq] using member
  have written := written_of_persisted scopes covers
  rwa [(persistFindings_eq_ok findings).frame.scopeExecutions] at written

/-- After a scan every collected item has a finding that the run observed, and every
candidate has a row of the run. -/
theorem persistScan_recorded {run : CollectionRun}
    (known : store.collectionRuns.find? runId = some run)
    (accepted : persistScan store scanId runId collected observedAt candidates missingThreshold
      completedAt = .ok after) :
    (∀ item ∈ collected, ∃ fingerprint,
        buildOpportunityFingerprint (item.identity run) = .ok fingerprint ∧
          ObservedAs run fingerprint after) ∧
      ∀ candidate ∈ candidates, ∃ row ∈ after.scopeExecutions.rows,
        row.scopeKey = (run.id, candidate.region, candidate.ruleKey) := by
  simp only [persistScan, bind_eq_ok, findRun_eq_ok] at accepted
  obtain ⟨_, found, ⟨count, observed⟩, findings, ⟨scopeExecutions, covered⟩, scopes,
    ⟨stats, reconciledStore⟩, presence, result⟩ := accepted
  obtain rfl := Option.some.inj (known.symm.trans found)
  cases result
  have coversAll := covered_of_persisted scopes
  obtain ⟨-, executions, drawn, -, coveredEq⟩ := persistCollectionScopeExecutions_eq_ok scopes
  obtain ⟨-, mapped, rows, events, reconciledEq⟩ := reconcileOpportunityPresence_eq_ok presence
  have sameFindings : covered.findings = observed.findings := by rw [coveredEq]
  have sameObservations : reconciledStore.observations = observed.observations := by
    rw [reconciledEq, coveredEq]
  have sameScopes : reconciledStore.scopeExecutions = covered.scopeExecutions := by
    rw [reconciledEq]
  refine ⟨fun item member => ?_, sameScopes ▸ coversAll⟩
  obtain ⟨fingerprint, built, finding, findingMember, named, row, rowMember, pair⟩ :=
    persistFindings_observes findings item member
  have subject := reconciled_subject covered run scopeExecutions missingThreshold finding
  refine ⟨fingerprint, built, _, ?_, (Finding.fingerprint_of_subject subject).trans named, row,
    sameObservations ▸ rowMember, pair.trans (by rw [Finding.id_of_subject subject])⟩
  dsimp only
  rw [mapped]
  exact List.mem_map_of_mem (sameFindings ▸ findingMember)

end Counting

end FinopsAnalytics.OpportunityPresence
