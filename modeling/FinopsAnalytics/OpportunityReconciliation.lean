import FinopsAnalytics.OpportunityArchiving

/-!
# Presence from coverage and observation

A run is authoritative for an opportunity only inside a scope that it completed
successfully. An absence in such a scope counts the opportunity missing, and
enough absences resolve it. An observation makes it present again, without
touching a rejection.
-/

namespace FinopsAnalytics.OpportunityReconciliation

open PythonText UniqueTables OpportunityRecords OpportunityArchiving Fallible

/-- The region of a scope that covers every region. -/
def allRegionsScope : String := "*"

/-- `_scope_region`. -/
def scopeRegion (region : Option String) : String :=
  if truthy region then orEmpty region else "global"

structure ReconciliationStats where
  opportunitiesReconciled : ℕ
  markedMissing : ℕ
  resolvedExternally : ℕ
  skippedOutOfOrder : ℕ
deriving DecidableEq, Repr

def ReconciliationStats.zero : ReconciliationStats := ⟨0, 0, 0, 0⟩

/-- A scope row as a collection builds it, without an identifier. -/
structure ScopeCandidate where
  provider : String
  accountId : String
  region : String
  service : Option String
  ruleKey : String
  status : CollectionScopeExecutionStatus
  startedAt : Instant
  finishedAt : Instant
  resourcesExamined : Option ℤ
  errorDetail : Option String
deriving DecidableEq, Repr

section Scopes

variable [UuidSource]

/-- The row of a candidate of a run. -/
def ScopeCandidate.row (candidate : ScopeCandidate) (id runId : String) :
    CollectionScopeExecution where
  id := id
  collectionRunId := runId
  provider := candidate.provider
  accountId := candidate.accountId
  region := candidate.region
  service := candidate.service
  ruleKey := candidate.ruleKey
  status := candidate.status
  startedAt := candidate.startedAt
  finishedAt := candidate.finishedAt
  resourcesExamined := candidate.resourcesExamined
  errorDetail := candidate.errorDetail

/-- Add a candidate, or refresh the row of its region and rule. -/
def persistScope (run : CollectionRun) (store : Store) (candidate : ScopeCandidate) :
    Except ServiceError Store :=
  match store.scopeExecutions.findUnique? (run.id, candidate.region, candidate.ruleKey) with
  | some row =>
    .ok { store with scopeExecutions := store.scopeExecutions.put (candidate.row row.id run.id) }
  | none => do
    let (id, store) := store.draw
    let scopeExecutions ← flushed store.scopeExecutions (candidate.row id run.id)
    return { store with scopeExecutions }

/-- `persist_collection_scope_executions`: the candidates' rows as they end. -/
def persistCollectionScopeExecutions (store : Store) (run : CollectionRun)
    (rows : List ScopeCandidate) :
    Except ServiceError (List CollectionScopeExecution × Store) := do
  let store ← rows.foldlM (persistScope run) store
  return (rows.filterMap fun candidate =>
    store.scopeExecutions.findUnique? (run.id, candidate.region, candidate.ruleKey), store)

variable {run : CollectionRun} {store after : Store} {candidate : ScopeCandidate}
  {rows : List ScopeCandidate} {persisted : List CollectionScopeExecution}
  {row : CollectionScopeExecution}

theorem persistScope_eq_ok (accepted : persistScope run store candidate = .ok after) :
    ∃ scopeExecutions drawn, store.drawn ≤ drawn ∧
      after = { store with scopeExecutions, drawn } := by
  unfold persistScope at accepted
  split at accepted
  · cases accepted
    exact ⟨_, _, le_rfl, rfl⟩
  · simp only [Store.draw, bind_eq_ok] at accepted
    obtain ⟨scopeExecutions, -, result⟩ := accepted
    cases result
    exact ⟨_, _, Nat.le_succ _, rfl⟩

/-- Persisting scopes changes the scope rows only, and returns rows of the run. -/
theorem persistCollectionScopeExecutions_eq_ok
    (accepted : persistCollectionScopeExecutions store run rows = .ok (persisted, after)) :
    (∀ row ∈ persisted, row ∈ after.scopeExecutions.rows ∧ row.collectionRunId = run.id) ∧
      ∃ scopeExecutions drawn, store.drawn ≤ drawn ∧
        after = { store with scopeExecutions, drawn } := by
  simp only [persistCollectionScopeExecutions, bind_eq_ok] at accepted
  obtain ⟨last, loop, result⟩ := accepted
  cases result
  refine ⟨fun row member => ?_, ?_⟩
  · obtain ⟨candidate, -, found⟩ := List.mem_filterMap.mp member
    obtain ⟨stored, unique⟩ := Table.findUnique?_eq_some.mp found
    exact ⟨stored, congrArg Prod.fst unique⟩
  · refine foldlM_invariant (fun state => ∃ scopeExecutions drawn, store.drawn ≤ drawn ∧
      state = { store with scopeExecutions, drawn }) ?_ ⟨_, _, le_rfl, rfl⟩ loop
    rintro candidate - state next ⟨scopeExecutions, drawn, later, rfl⟩ step
    obtain ⟨scopeExecutions', drawn', later', rfl⟩ := persistScope_eq_ok step
    exact ⟨_, _, later.trans later', rfl⟩

/-- A returned row has the region and the rule of a candidate. -/
theorem candidate_of_persisted
    (accepted : persistCollectionScopeExecutions store run rows = .ok (persisted, after))
    (member : row ∈ persisted) :
    ∃ candidate ∈ rows, row.region = candidate.region ∧ row.ruleKey = candidate.ruleKey := by
  simp only [persistCollectionScopeExecutions, bind_eq_ok] at accepted
  obtain ⟨last, -, result⟩ := accepted
  cases result
  obtain ⟨candidate, candidateMember, found⟩ := List.mem_filterMap.mp member
  obtain ⟨-, unique⟩ := Table.findUnique?_eq_some.mp found
  exact ⟨candidate, candidateMember, congrArg (Prod.fst ∘ Prod.snd) unique,
    congrArg (Prod.snd ∘ Prod.snd) unique⟩

/-- A row with the region and the rule of a candidate is the row of a candidate. -/
def FromCandidates (run : CollectionRun) (candidates : List ScopeCandidate) (store : Store) :
    Prop :=
  ∀ row ∈ store.scopeExecutions.rows, row.collectionRunId = run.id →
    (∃ candidate ∈ candidates, row.region = candidate.region ∧ row.ruleKey = candidate.ruleKey) →
      ∃ candidate ∈ candidates, ∃ id, row = candidate.row id run.id

theorem fromCandidates_persistScope {earlier : List ScopeCandidate}
    (before : FromCandidates run earlier store)
    (accepted : persistScope run store candidate = .ok after) :
    FromCandidates run (earlier ++ [candidate]) after := by
  have own (id : String) : ∃ other ∈ earlier ++ [candidate], ∃ own,
      candidate.row id run.id = other.row own run.id :=
    ⟨candidate, List.mem_append_right _ (List.mem_singleton.mpr rfl), id, rfl⟩
  -- a row that stays and has the key of the candidate would collide with its row
  have kept (stored : CollectionScopeExecution) {row : CollectionScopeExecution}
      (member : row ∈ store.scopeExecutions.rows) (ofRun : row.collectionRunId = run.id)
      (covers : ∃ other ∈ earlier ++ [candidate],
        row.region = other.region ∧ row.ruleKey = other.ruleKey)
      (different : row.scopeKey ≠ stored.scopeKey)
      (key : stored.scopeKey = (run.id, candidate.region, candidate.ruleKey)) :
      ∃ other ∈ earlier ++ [candidate], ∃ id, row = other.row id run.id := by
    obtain ⟨other, otherMember, region, rule⟩ := covers
    rcases List.mem_append.mp otherMember with early | last
    · obtain ⟨source, sourceMember, shape⟩ := before row member ofRun ⟨other, early, region, rule⟩
      exact ⟨source, List.mem_append_left _ sourceMember, shape⟩
    · rw [List.mem_singleton.mp last] at region rule
      refine absurd ?_ different
      rw [key, CollectionScopeExecution.scopeKey, ofRun, region, rule]
  unfold persistScope at accepted
  split at accepted
  · rename_i stored found
    obtain ⟨storedMember, key⟩ := Table.findUnique?_eq_some.mp found
    cases accepted
    intro row member ofRun covers
    have sameId : stored.id = (candidate.row stored.id run.id).id := rfl
    rcases (Table.mem_put storedMember sameId key).mp member with rfl | ⟨old, different⟩
    · exact own stored.id
    · refine kept stored old ofRun covers (fun same => different ?_) key
      have row_eq : row = stored := store.scopeExecutions.eq_of_unique old storedMember same
      exact row_eq ▸ sameId
  · simp only [Store.draw, bind_eq_ok] at accepted
    obtain ⟨scopeExecutions, inserted, result⟩ := accepted
    cases result
    obtain ⟨rows, -, fresh⟩ := Table.rows_of_insert (flushed_eq_ok.mp inserted)
    intro row member ofRun covers
    dsimp only at member
    rw [rows] at member
    rcases List.mem_append.mp member with old | new
    · refine kept (candidate.row (UuidSource.uuid4 store.drawn) run.id) old ofRun covers
        (fun same => fresh ?_) rfl
      exact same ▸ List.mem_map_of_mem old
    · rw [List.mem_singleton.mp new]
      exact own _

/-- A returned row is the row of a candidate. -/
theorem row_of_persisted
    (accepted : persistCollectionScopeExecutions store run rows = .ok (persisted, after))
    (member : row ∈ persisted) :
    ∃ candidate ∈ rows, ∃ id, row = candidate.row id run.id := by
  obtain ⟨stored, ofRun⟩ := (persistCollectionScopeExecutions_eq_ok accepted).1 row member
  have covers := candidate_of_persisted accepted member
  simp only [persistCollectionScopeExecutions, bind_eq_ok] at accepted
  obtain ⟨last, loop, result⟩ := accepted
  cases result
  have shaped : FromCandidates run ([] ++ rows) after :=
    foldlM_done [] (FromCandidates run) (fun candidate _ earlier state next before step =>
      fromCandidates_persistScope before step)
      (by
        rintro _ _ _ ⟨_, absent, _⟩
        exact absurd absent List.not_mem_nil) loop
  exact shaped row stored ofRun covers

/-- Persisting a scope adds its key to those of the rows. -/
theorem keys_of_persistScope (accepted : persistScope run store candidate = .ok after) :
    (run.id, candidate.region, candidate.ruleKey) ∈
        after.scopeExecutions.rows.map CollectionScopeExecution.scopeKey ∧
      store.scopeExecutions.rows.map CollectionScopeExecution.scopeKey ⊆
        after.scopeExecutions.rows.map CollectionScopeExecution.scopeKey := by
  unfold persistScope at accepted
  split at accepted
  · rename_i stored found
    obtain ⟨member, key⟩ := Table.findUnique?_eq_some.mp found
    cases accepted
    dsimp only
    rw [Table.map_put CollectionScopeExecution.scopeKey store.scopeExecutions
      fun _ _ same => same]
    exact ⟨List.mem_map.mpr ⟨stored, member, key⟩, List.Subset.refl _⟩
  · simp only [Store.draw, bind_eq_ok] at accepted
    obtain ⟨scopeExecutions, inserted, result⟩ := accepted
    cases result
    dsimp only
    rw [(Table.rows_of_insert (flushed_eq_ok.mp inserted)).1, List.map_append]
    exact ⟨List.mem_append_right _ (List.mem_singleton.mpr rfl), List.subset_append_left _ _⟩

/-- Every candidate has a row of the run. -/
theorem covered_of_persisted
    (accepted : persistCollectionScopeExecutions store run rows = .ok (persisted, after)) :
    ∀ candidate ∈ rows, ∃ row ∈ after.scopeExecutions.rows,
      row.scopeKey = (run.id, candidate.region, candidate.ruleKey) := by
  simp only [persistCollectionScopeExecutions, bind_eq_ok] at accepted
  obtain ⟨last, loop, result⟩ := accepted
  cases result
  have all : ∀ candidate ∈ [] ++ rows, (run.id, candidate.region, candidate.ruleKey) ∈
      after.scopeExecutions.rows.map CollectionScopeExecution.scopeKey := by
    refine foldlM_done [] (fun earlier (state : Store) => ∀ candidate ∈ earlier,
      (run.id, candidate.region, candidate.ruleKey) ∈
        state.scopeExecutions.rows.map CollectionScopeExecution.scopeKey) ?_
      (fun _ absent => absurd absent List.not_mem_nil) loop
    intro candidate _ earlier state next holds step other member
    obtain ⟨own, kept⟩ := keys_of_persistScope step
    rcases List.mem_append.mp member with early | last
    · exact kept (holds other early)
    · obtain rfl := List.mem_singleton.mp last
      exact own
  exact fun candidate member => List.mem_map.mp (all candidate member)

/-- Persisting scopes writes rows of the candidates. -/
theorem written_of_persisted
    (accepted : persistCollectionScopeExecutions store run rows = .ok (persisted, after))
    (member : row ∈ after.scopeExecutions.rows) :
    row ∈ store.scopeExecutions.rows ∨ ∃ candidate ∈ rows, ∃ id, row = candidate.row id run.id := by
  simp only [persistCollectionScopeExecutions, bind_eq_ok] at accepted
  obtain ⟨last, loop, result⟩ := accepted
  cases result
  refine foldlM_invariant (fun state => ∀ row ∈ state.scopeExecutions.rows,
    row ∈ store.scopeExecutions.rows ∨ ∃ candidate ∈ rows, ∃ id, row = candidate.row id run.id)
    ?_ (fun _ => Or.inl) loop row member
  intro candidate candidateMember state next written step
  unfold persistScope at step
  split at step
  · rename_i stored found
    obtain ⟨storedMember, key⟩ := Table.findUnique?_eq_some.mp found
    cases step
    intro row member
    have sameId : stored.id = (candidate.row stored.id run.id).id := rfl
    rcases (Table.mem_put storedMember sameId key).mp member with rfl | ⟨old, -⟩
    · exact Or.inr ⟨candidate, candidateMember, stored.id, rfl⟩
    · exact written row old
  · simp only [Store.draw, bind_eq_ok] at step
    obtain ⟨scopeExecutions, inserted, result⟩ := step
    cases result
    intro row member
    dsimp only at member
    rw [(Table.rows_of_insert (flushed_eq_ok.mp inserted)).1] at member
    rcases List.mem_append.mp member with old | new
    · exact written row old
    · rw [List.mem_singleton.mp new]
      exact Or.inr ⟨candidate, candidateMember, _, rfl⟩

end Scopes

/-- `_record_presence_history`. -/
def recordPresenceHistory (store : Store) (finding : Finding) (run : CollectionRun)
    (fromStatus toStatus : OpportunityPresenceStatus) (reason : OpportunityPresenceReason)
    (missingCount : ℕ) (missingThreshold : Option ℕ)
    (scopeExecution : Option CollectionScopeExecution) : Except ServiceError Store := do
  let presenceHistory ← flushed store.presenceHistory
    { opportunityId := finding.id
      collectionRunId := run.id
      collectionScopeExecutionId := scopeExecution.map (·.id)
      fromStatus
      toStatus
      reason
      missingCount
      missingThreshold
      occurredAt := run.startedAt }
  return { store with presenceHistory }

variable {finding : Finding} {run : CollectionRun}

/-- An event changes the presence history only. -/
theorem recordPresenceHistory_eq_ok {store after : Store}
    {fromStatus toStatus : OpportunityPresenceStatus} {reason : OpportunityPresenceReason}
    {missingCount : ℕ} {missingThreshold : Option ℕ}
    {scopeExecution : Option CollectionScopeExecution}
    (recorded : recordPresenceHistory store finding run fromStatus toStatus reason missingCount
      missingThreshold scopeExecution = .ok after) :
    ∃ presenceHistory, after = { store with presenceHistory } := by
  simp only [recordPresenceHistory, bind_eq_ok] at recorded
  obtain ⟨presenceHistory, -, result⟩ := recorded
  exact ⟨presenceHistory, (Except.ok.inj result).symm⟩

/-- The presence columns after an observation by a run. -/
def reactivated (run : CollectionRun) (finding : Finding) : Finding :=
  { finding with
    presenceStatus := .active
    missingCount := 0
    missingSinceAt := none
    resolvedExternallyAt := none
    presenceReconciledRunId := some run.id
    presenceReconciledAt := some run.startedAt }

/-- Whether a run started before the last reconciliation of a finding. -/
def startedBeforeReconciliation (run : CollectionRun) (finding : Finding) : Bool :=
  match finding.presenceReconciledAt with
  | some reconciledAt => run.startedAt < reconciledAt
  | none => false

/-- The event of a finding that was absent. -/
def recordObservedAgain (store : Store) (finding : Finding) (run : CollectionRun) :
    Except ServiceError Store :=
  if finding.presenceStatus ≠ .active then
    recordPresenceHistory store finding run finding.presenceStatus .active .observedAgain 0
      none none
  else .ok store

theorem recordObservedAgain_eq_ok {store after : Store}
    (recorded : recordObservedAgain store finding run = .ok after) :
    ∃ presenceHistory, after = { store with presenceHistory } := by
  unfold recordObservedAgain at recorded
  split at recorded
  · exact recordPresenceHistory_eq_ok recorded
  · exact ⟨store.presenceHistory, (Except.ok.inj recorded).symm⟩

/-- The review mark cleared. -/
def reviewCleared (finding : Finding) : Finding := { finding with needsReview := false }

/-- The finding that a reactivation leaves. -/
def reobserved (run : CollectionRun) (finding : Finding) : Finding :=
  if finding.status = .rejected then reviewCleared (reactivated run finding)
  else if finding.archivedAt.isNone then reactivated run finding
  else unarchived (reactivated run finding)

theorem reobserved_subject (run : CollectionRun) (finding : Finding) :
    (reobserved run finding).subject = finding.subject := by
  unfold reobserved
  split_ifs <;> rfl

theorem reobserved_decision (run : CollectionRun) (finding : Finding) :
    (reobserved run finding).decision = finding.decision := by
  unfold reobserved
  split_ifs <;> rfl

theorem reobserved_presence (run : CollectionRun) (finding : Finding) :
    (reobserved run finding).presence = (reactivated run finding).presence := by
  unfold reobserved
  split_ifs <;> rfl

/-- A rejected finding keeps its archive state. -/
theorem reobserved_rejected (rejected : finding.status = .rejected) :
    reobserved run finding = reviewCleared (reactivated run finding) :=
  if_pos rejected

section Reactivation

variable [SystemClock]

/-- A rejection is not surfaced again; any other finding leaves the archive. -/
def surface (store : Store) (finding : Finding) (run : CollectionRun) : Finding × Store :=
  if finding.status = .rejected then
    (reviewCleared finding, store.putFinding (reviewCleared finding))
  else unarchiveReappeared (store.putFinding finding) finding run

/-- Presence is reactivated without overriding a rejection. -/
def reactivatePresenceFromObservation (store : Store) (finding : Finding)
    (run : CollectionRun) : Except ServiceError (Bool × Finding × Store) :=
  if startedBeforeReconciliation run finding then .ok (false, finding, store)
  else do
    let store ← recordObservedAgain store finding run
    return (true, surface store (reactivated run finding) run)

theorem surface_reactivated (store : Store) (finding : Finding) (run : CollectionRun) :
    (surface store (reactivated run finding) run).1 = reobserved run finding ∧
      SameButArchive (store.putFinding (reobserved run finding))
        (surface store (reactivated run finding) run).2 := by
  have kept : (reactivated run finding).status = finding.status := rfl
  have archive_kept : (reactivated run finding).archivedAt = finding.archivedAt := rfl
  by_cases rejected : finding.status = .rejected
  · rw [reobserved_rejected rejected, surface, kept, if_pos rejected]
    exact ⟨rfl, SameButArchive.refl _⟩
  · rw [reobserved, surface, kept, if_neg rejected, if_neg rejected, unarchiveReappeared, kept,
      archive_kept, if_neg rejected]
    by_cases active : finding.archivedAt.isNone = true
    · rw [if_pos active, if_pos active]
      exact ⟨rfl, SameButArchive.refl _⟩
    · rw [if_neg active, if_neg active]
      refine ⟨rfl, ?_⟩
      dsimp only
      have merged : (store.putFinding (reactivated run finding)).putFinding
          (unarchived (reactivated run finding)) =
          store.putFinding (unarchived (reactivated run finding)) :=
        store.putFinding_putFinding rfl rfl
      rw [merged]
      exact history_frame _ _ _ _ _ _ _ _

/-- A run that is older than the last reconciliation changes nothing; any other
writes the reactivated finding and its events. -/
theorem reactivatePresenceFromObservation_eq_ok {store after : Store} {finding next : Finding}
    {run : CollectionRun} {changed : Bool}
    (accepted : reactivatePresenceFromObservation store finding run = .ok (changed, next, after)) :
    (startedBeforeReconciliation run finding = true ∧ next = finding ∧ after = store) ∨
      (startedBeforeReconciliation run finding = false ∧ next = reobserved run finding ∧
        ∃ presenceHistory archiveHistory clockReads, store.clockReads ≤ clockReads ∧
          after = { store.putFinding next with
            presenceHistory, archiveHistory, clockReads }) := by
  unfold reactivatePresenceFromObservation at accepted
  split at accepted
  · rename_i older
    cases accepted
    exact Or.inl ⟨older, rfl, rfl⟩
  · rename_i recent
    simp only [bind_eq_ok] at accepted
    obtain ⟨middle, recorded, result⟩ := accepted
    obtain ⟨presenceHistory, rfl⟩ := recordObservedAgain_eq_ok recorded
    simp only [pure, Except.pure, Except.ok.injEq, Prod.mk.injEq] at result
    have spec := surface_reactivated { store with presenceHistory } finding run
    rw [result.2] at spec
    obtain ⟨rfl, archiveHistory, clockReads, later, frame⟩ := spec
    exact Or.inr ⟨by simpa using recent, rfl, presenceHistory, archiveHistory, clockReads, later,
      frame⟩

end Reactivation

/-- The success row that the last mention of a scope leaves in the mapping. -/
def successfulScopeRow (rows : List CollectionScopeExecution) (ruleKey region : String) :
    Option CollectionScopeExecution :=
  rows.reverse.find? fun row =>
    row.status = .success && row.ruleKey = ruleKey && scopeRegion (some row.region) = region

/-- The row that covers a finding: its own region first, then all regions. -/
def findingScopeRow (rows : List CollectionScopeExecution) (finding : Finding) :
    Option CollectionScopeExecution :=
  match successfulScopeRow rows finding.ruleKey (scopeRegion finding.region) with
  | some row => some row
  | none => successfulScopeRow rows finding.ruleKey allRegionsScope

/-- The finding after one more counted absence. -/
def missed (run : CollectionRun) (missingThreshold : ℕ) (finding : Finding) : Finding :=
  let finding := { finding with
    missingCount := finding.missingCount + 1
    missingSinceAt := some (finding.missingSinceAt.getD run.startedAt)
    presenceReconciledRunId := some run.id
    presenceReconciledAt := some run.startedAt }
  if missingThreshold ≤ finding.missingCount then
    { finding with
      presenceStatus := .resolvedExternally, resolvedExternallyAt := some run.startedAt }
  else { finding with presenceStatus := .missing }

/-- Whether a run started no later than the last reconciliation of a finding. -/
def startedByReconciliation (run : CollectionRun) (finding : Finding) : Bool :=
  match finding.presenceReconciledAt with
  | some reconciledAt => run.startedAt ≤ reconciledAt
  | none => false

/-- A run older than what is known of a finding. -/
def outOfOrder (run : CollectionRun) (finding : Finding) : Bool :=
  startedByReconciliation run finding || run.startedAt < finding.lastSeenAt

/-- The pass of the loop over one finding. -/
def reconcileFinding (run : CollectionRun) (rows : List CollectionScopeExecution)
    (missingThreshold : ℕ) (observedIds : List String) (state : ReconciliationStats × Store)
    (finding : Finding) : Except ServiceError (ReconciliationStats × Store) :=
  let (stats, store) := state
  match findingScopeRow rows finding with
  | none => .ok (stats, store)
  | some scopeExecution =>
    if finding.id ∈ observedIds then .ok (stats, store)
    else if finding.presenceReconciledRunId = some run.id then .ok (stats, store)
    else if outOfOrder run finding then
      .ok ({ stats with skippedOutOfOrder := stats.skippedOutOfOrder + 1 }, store)
    else do
      let next := missed run missingThreshold finding
      let resolved := next.presenceStatus = .resolvedExternally
      let stats := { stats with
        opportunitiesReconciled := stats.opportunitiesReconciled + 1
        markedMissing := stats.markedMissing +
          if ¬resolved ∧ finding.presenceStatus = .active then 1 else 0
        resolvedExternally := stats.resolvedExternally + if resolved then 1 else 0 }
      let store ← recordPresenceHistory (store.putFinding next) next run finding.presenceStatus
        next.presenceStatus
        (if resolved then .missingThresholdReached else .notObservedInSuccessfulScope)
        next.missingCount (some missingThreshold) (some scopeExecution)
      return (stats, store)

/-- The identifiers of the findings that a run observed. -/
def observedIds (store : Store) (run : CollectionRun) : List String :=
  (store.observations.rows.filter (·.collectionRunId = run.id)).map (·.opportunityId)

/-- The findings of the run's account under a rule of a successful scope that are
not resolved. -/
def reconcilable (run : CollectionRun) (rows : List CollectionScopeExecution)
    (finding : Finding) : Bool :=
  finding.provider = run.provider && finding.accountId = run.accountId &&
    rows.any (fun row => row.status = .success && row.ruleKey = finding.ruleKey) &&
    (finding.presenceStatus = .active || finding.presenceStatus = .missing)

/-- Apply absence only inside scopes proven successful for this run. -/
def reconcileOpportunityPresence (store : Store) (run : CollectionRun)
    (scopeExecutions : List CollectionScopeExecution) (missingThreshold : ℕ) :
    Except ServiceError (ReconciliationStats × Store) :=
  if missingThreshold < 1 then
    .error (.value "missing_threshold must be greater than or equal to 1")
  else if run.status = .failed then .ok (.zero, store)
  else if scopeExecutions.all (·.status ≠ .success) then .ok (.zero, store)
  else
    (store.findings.rows.filter (reconcilable run scopeExecutions)).foldlM
      (reconcileFinding run scopeExecutions missingThreshold (observedIds store run))
      (.zero, store)

/-- What the loop asks of a finding before it counts an absence. -/
def absent (run : CollectionRun) (rows : List CollectionScopeExecution)
    (observedIds : List String) (finding : Finding) : Bool :=
  (findingScopeRow rows finding).isSome && finding.id ∉ observedIds &&
    finding.presenceReconciledRunId ≠ some run.id && !outOfOrder run finding

/-- One pass replaces the finding by its missed version exactly when it is absent. -/
theorem reconcileFinding_eq_ok {run : CollectionRun} {rows : List CollectionScopeExecution}
    {missingThreshold : ℕ} {ids : List String} {state next : ReconciliationStats × Store}
    {finding : Finding}
    (accepted : reconcileFinding run rows missingThreshold ids state finding = .ok next) :
    (absent run rows ids finding = false ∧ next.2 = state.2) ∨
      (absent run rows ids finding = true ∧ ∃ presenceHistory,
        next.2 = { state.2.putFinding (missed run missingThreshold finding) with
          presenceHistory }) := by
  obtain ⟨stats, store⟩ := state
  unfold reconcileFinding at accepted
  dsimp only at accepted
  split at accepted
  · rename_i uncovered
    cases accepted
    exact Or.inl ⟨by simp [absent, uncovered], rfl⟩
  · rename_i scope covered
    split at accepted
    · rename_i observed
      cases accepted
      exact Or.inl ⟨by simp [absent, observed], rfl⟩
    · rename_i unobserved
      split at accepted
      · rename_i repeated
        cases accepted
        exact Or.inl ⟨by simp [absent, repeated], rfl⟩
      · rename_i first
        split at accepted
        · rename_i older
          cases accepted
          exact Or.inl ⟨by simp [absent, older], rfl⟩
        · rename_i recent
          simp only [bind_eq_ok] at accepted
          obtain ⟨recorded, history, result⟩ := accepted
          obtain ⟨presenceHistory, rfl⟩ := recordPresenceHistory_eq_ok history
          cases result
          exact Or.inr ⟨by simp [absent, covered, unobserved, first, recent], presenceHistory, rfl⟩

/-- Whether a reconciliation counts an absence of a finding. -/
def countsAbsence (store : Store) (run : CollectionRun) (rows : List CollectionScopeExecution)
    (finding : Finding) : Bool :=
  run.status ≠ .failed && reconcilable run rows finding &&
    absent run rows (observedIds store run) finding

/-- The finding after a reconciliation. -/
def reconciled (store : Store) (run : CollectionRun) (rows : List CollectionScopeExecution)
    (missingThreshold : ℕ) (finding : Finding) : Finding :=
  if countsAbsence store run rows finding then missed run missingThreshold finding else finding

theorem missed_subject (run : CollectionRun) (missingThreshold : ℕ) (finding : Finding) :
    (missed run missingThreshold finding).subject = finding.subject := by
  simp only [missed]
  split_ifs <;> rfl

theorem reconciled_subject (store : Store) (run : CollectionRun)
    (rows : List CollectionScopeExecution) (missingThreshold : ℕ) (finding : Finding) :
    (reconciled store run rows missingThreshold finding).subject = finding.subject := by
  unfold reconciled
  split_ifs
  · exact missed_subject run missingThreshold finding
  · rfl

/-- A reconciliation maps every finding to its reconciled version and records
presence events; no other table changes. -/
theorem reconcileOpportunityPresence_eq_ok {store after : Store} {run : CollectionRun}
    {rows : List CollectionScopeExecution} {missingThreshold : ℕ} {stats : ReconciliationStats}
    (accepted : reconcileOpportunityPresence store run rows missingThreshold =
      .ok (stats, after)) :
    1 ≤ missingThreshold ∧
      after.findings.rows =
        store.findings.rows.map (reconciled store run rows missingThreshold) ∧
      ∃ findings presenceHistory, after = { store with findings, presenceHistory } := by
  have unchanged (none : ∀ finding ∈ store.findings.rows,
      countsAbsence store run rows finding = false) :
      store.findings.rows =
        store.findings.rows.map (reconciled store run rows missingThreshold) := by
    refine (List.map_id' _).symm.trans (List.map_congr_left fun finding member => ?_)
    simp [reconciled, none finding member]
  unfold reconcileOpportunityPresence at accepted
  split at accepted
  · cases accepted
  · rename_i positive
    refine ⟨by omega, ?_⟩
    split at accepted
    · rename_i failed
      cases accepted
      exact ⟨unchanged fun finding _ => by simp [countsAbsence, failed], _, _, rfl⟩
    · rename_i notFailed
      split at accepted
      · rename_i noSuccess
        cases accepted
        refine ⟨unchanged fun finding _ => ?_, _, _, rfl⟩
        have uncovered : rows.any (fun row => row.status = .success &&
            row.ruleKey = finding.ruleKey) = false := by
          rw [List.any_eq_false]
          intro row member
          have := (List.all_eq_true.mp noSuccess) row member
          simp_all
        simp [countsAbsence, reconcilable, uncovered]
      · -- the findings still to come are as they were, the others reconciled
        have loop := foldlM_rest (fun rest state =>
            (rest.map Finding.id).Nodup ∧ (∀ finding ∈ rest, finding ∈ store.findings.rows ∧
              reconcilable run rows finding = true) ∧
            state.2.findings.rows = store.findings.rows.map (fun finding =>
              if finding.id ∈ rest.map Finding.id then finding
              else reconciled store run rows missingThreshold finding) ∧
            ∃ findings presenceHistory, state.2 = { store with findings, presenceHistory })
          ?_ ⟨?_, ?_, ?_, _, _, rfl⟩ accepted
        · obtain ⟨-, -, mapped, frame⟩ := loop
          exact ⟨by simpa using mapped, frame⟩
        · intro finding rest state next holds step
          obtain ⟨distinct, members, mapped, findings, presenceHistory, frame⟩ := holds
          rw [List.map_cons, List.nodup_cons] at distinct
          obtain ⟨member, inScope⟩ := members finding (List.mem_cons_self ..)
          refine ⟨distinct.2, fun other later => members other (List.mem_cons_of_mem _ later),
            ?_⟩
          rcases reconcileFinding_eq_ok step with ⟨skipped, same⟩ | ⟨counted, history, put⟩
          · have kept : reconciled store run rows missingThreshold finding = finding := by
              simp [reconciled, countsAbsence, skipped]
            rw [same]
            refine ⟨?_, _, _, frame⟩
            rw [mapped]
            exact Table.rows_skip_pending kept member
          · have replaced : reconciled store run rows missingThreshold finding =
                missed run missingThreshold finding := by
              simp [reconciled, countsAbsence, counted, inScope, notFailed]
            rw [put, frame, ← replaced]
            refine ⟨?_, _, _, rfl⟩
            exact Table.rows_put_pending
              (fun row => Finding.id_of_subject (reconciled_subject ..))
              (fun row => Finding.fingerprint_of_subject (reconciled_subject ..))
              (by rw [frame] at mapped; exact mapped) member distinct.1
        · exact store.findings.distinctKeys.sublist (List.filter_sublist.map _)
        · intro finding member
          exact List.mem_filter.mp member
        · refine (List.map_id' _).symm.trans (List.map_congr_left fun finding member => ?_)
          by_cases listed : finding.id ∈ (store.findings.rows.filter
              (reconcilable run rows)).map Finding.id
          · rw [if_pos listed]
          · have outside : reconcilable run rows finding = false := by
              by_contra inside
              exact listed (List.mem_map_of_mem (List.mem_filter.mpr
                ⟨member, by simpa using inside⟩))
            rw [if_neg listed]
            simp [reconciled, countsAbsence, outside]

end FinopsAnalytics.OpportunityReconciliation
