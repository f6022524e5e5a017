import Mathlib.Data.Finset.Card
import Mathlib.Data.Prod.Lex
import Mathlib.Data.String.Basic
import FinopsAnalytics.OpportunityCollection

/-!
# The latest observation of a finding

Runs are processed in any order and any number of times. Each processing looks at the
fingerprints of its items. A finding shows what the run of its greatest observation saw
of it last: observations are ordered by their instant, then by the start of their run,
then by identifier.
-/

namespace FinopsAnalytics.LatestObservations

open UniqueTables Dictionaries OpportunityRecords OpportunityArchiving OpportunityReconciliation
  OpportunityFingerprint OpportunityCollection PythonText Fallible

/-- The columns that a finding takes from an item. -/
structure Snapshot where
  resourceName : Option String
  resourceType : Option String
  providerMetadata : Metadata
  title : String
  description : String
  evidence : Metadata
  currentMonthlyCost : ℚ
  estimatedMonthlySavings : ℚ
  currency : String
  confidence : String
  severity : String
deriving DecidableEq, Repr

/-- The columns that an observation takes from an item. -/
structure Measured where
  severity : String
  currentMonthlyCost : ℚ
  estimatedMonthlySavings : ℚ
  currency : String
  confidence : String
  providerMetadata : Metadata
  evidence : Metadata
deriving DecidableEq, Repr

def itemSnapshot (item : CollectedFinding) : Snapshot where
  resourceName := item.resourceName
  resourceType := item.resourceType
  providerMetadata := item.providerMetadata
  title := item.title
  description := item.description
  evidence := item.evidence
  currentMonthlyCost := item.currentMonthlyCost
  estimatedMonthlySavings := item.estimatedMonthlySavings
  currency := item.currency
  confidence := item.confidence
  severity := item.severity

def findingSnapshot (finding : Finding) : Snapshot where
  resourceName := finding.resourceName
  resourceType := finding.resourceType
  providerMetadata := finding.providerMetadata
  title := finding.title
  description := finding.description
  evidence := finding.evidence
  currentMonthlyCost := finding.currentMonthlyCost
  estimatedMonthlySavings := finding.estimatedMonthlySavings
  currency := finding.currency
  confidence := finding.confidence
  severity := finding.severity

/-- What a snapshot shares with an observation. -/
def Snapshot.measured (snapshot : Snapshot) : Measured where
  severity := snapshot.severity
  currentMonthlyCost := snapshot.currentMonthlyCost
  estimatedMonthlySavings := snapshot.estimatedMonthlySavings
  currency := snapshot.currency
  confidence := snapshot.confidence
  providerMetadata := snapshot.providerMetadata
  evidence := snapshot.evidence

def observationMeasured (observation : OpportunityObservation) : Measured where
  severity := observation.severity
  currentMonthlyCost := observation.currentMonthlyCost
  estimatedMonthlySavings := observation.estimatedMonthlySavings
  currency := observation.currency
  confidence := observation.confidence
  providerMetadata := observation.providerMetadata
  evidence := observation.evidence

/-- The columns of a finding that tell what was seen of it. -/
structure Sighting where
  id : String
  fingerprint : String
  scanId : Option String
  snapshot : Snapshot
  lastSeenAt : Instant
  lastSeenCollectionRunId : Option String
  totalOccurrenceCount : ℕ
deriving DecidableEq, Repr

def sighting (finding : Finding) : Sighting where
  id := finding.id
  fingerprint := finding.fingerprint
  scanId := finding.scanId
  snapshot := findingSnapshot finding
  lastSeenAt := finding.lastSeenAt
  lastSeenCollectionRunId := finding.lastSeenCollectionRunId
  totalOccurrenceCount := finding.totalOccurrenceCount

/-- One look of a run at a fingerprint. -/
structure Sight where
  scanId : String
  run : CollectionRun
  fingerprint : String
  item : CollectedFinding
  observedAt : Instant
deriving DecidableEq, Repr

/-- One call of `persist_findings`. -/
structure Processing where
  scanId : String
  run : CollectionRun
  collected : List CollectedFinding
  observedAt : Instant
deriving DecidableEq, Repr

/-- The looks of a run at one fingerprint. -/
def sightsBy (fingerprint runId : String) (sights : List Sight) : List Sight :=
  sights.filter fun sight => decide (sight.fingerprint = fingerprint ∧ sight.run.id = runId)

/-- The runs that looked at a fingerprint. -/
def observers (fingerprint : String) (sights : List Sight) : List String :=
  ((sights.filter fun sight => decide (sight.fingerprint = fingerprint)).map
    fun sight => sight.run.id).dedup

/-- When a run started. -/
def startOf (store : Store) (runId : String) : Instant :=
  match store.collectionRuns.find? runId with
  | some run => run.startedAt
  | none => 0

/-- The place of an observation among those of its finding. -/
def rank (store : Store) (observation : OpportunityObservation) : Instant ×ₗ Instant ×ₗ String :=
  toLex (observation.observedAt, toLex (startOf store observation.collectionRunId, observation.id))

section Processing

variable [CaseMapping] [Digest]

/-- The looks of one call, one for each fingerprint. -/
def Processing.sights (processing : Processing) : List Sight :=
  match byFingerprint processing.run processing.collected with
  | .ok entries => entries.map fun entry =>
    ⟨processing.scanId, processing.run, entry.1, entry.2, processing.observedAt⟩
  | .error _ => []

/-- The looks of a history, in its order. -/
def sights (history : List Processing) : List Sight := history.flatMap Processing.sights

end Processing

/-- What else happens keeps what was seen, the observations and the starts of the runs. -/
structure KeepsSightings (before after : Store) : Prop where
  kept : ∀ finding ∈ before.findings.rows, ∃ next ∈ after.findings.rows,
    sighting next = sighting finding
  origin : ∀ next ∈ after.findings.rows, ∃ finding ∈ before.findings.rows,
    sighting next = sighting finding
  observations : ∀ row, row ∈ after.observations.rows ↔ row ∈ before.observations.rows
  started : ∀ {runId run}, before.collectionRuns.find? runId = some run →
    ∃ later, after.collectionRuns.find? runId = some later ∧ later.startedAt = run.startedAt

/-- The stores that a history of processed runs can leave. A scan has one run and a run
one scan; a processing that fails is rolled back. -/
inductive Reached [CaseMapping] [Digest] [UuidSource] [SystemClock] :
    List Processing → Store → Prop
  | start {store : Store} (noFindings : store.findings.rows = [])
      (noObservations : store.observations.rows = []) : Reached [] store
  | processed {history : List Processing} {store after : Store} {processing : Processing}
      {count : ℕ} (reached : Reached history store)
      (stored : store.collectionRuns.find? processing.run.id = some processing.run)
      (paired : ∀ earlier ∈ history,
        earlier.scanId = processing.scanId ↔ earlier.run.id = processing.run.id)
      (accepted : persistFindings store processing.scanId processing.run processing.collected
        processing.observedAt = .ok (count, after)) : Reached (history ++ [processing]) after
  | elsewhere {history : List Processing} {store after : Store} (reached : Reached history store)
      (keeps : KeepsSightings store after) : Reached history after

section Columns

theorem sighting_reviewAfterTreatment (observedAt : Instant) (finding : Finding) :
    sighting (reviewAfterTreatment observedAt finding) = sighting finding := by
  unfold reviewAfterTreatment
  split
  · split_ifs <;> rfl
  · rfl

theorem sighting_reobserved (run : CollectionRun) (finding : Finding) :
    sighting (reobserved run finding) = sighting finding := by
  unfold reobserved
  split_ifs <;> rfl

theorem id_of_sighting {first second : Finding} (same : sighting first = sighting second) :
    first.id = second.id :=
  congrArg Sighting.id same

theorem fingerprint_of_sighting {first second : Finding} (same : sighting first = sighting second) :
    first.fingerprint = second.fingerprint :=
  congrArg Sighting.fingerprint same

theorem sighting_counted (run : CollectionRun) (created : Bool) (finding : Finding) :
    sighting (if created then countOccurrence run finding else finding) =
      { sighting finding with
        totalOccurrenceCount := finding.totalOccurrenceCount + created.toNat } := by
  cases created <;> rfl

/-- The look of the scan that a finding shows, or the latest one, refreshes it. -/
theorem sighting_refreshed {scanId : String} {run : CollectionRun} {item : CollectedFinding}
    {created latest : Bool} {finding : Finding}
    (own : finding.scanId = some scanId ∨ latest = true) :
    sighting (snapshotted scanId run item created latest finding) =
      { sighting finding with
        scanId := some scanId
        snapshot := itemSnapshot item
        totalOccurrenceCount := finding.totalOccurrenceCount + created.toNat } := by
  have counted := sighting_counted run created finding
  have sameScan : (if created then countOccurrence run finding else finding).scanId =
      finding.scanId := congrArg Sighting.scanId counted
  unfold snapshotted
  dsimp only
  rw [if_pos (by rw [sameScan]; exact own)]
  generalize (if created then countOccurrence run finding else finding) = current at counted
  have refreshed : sighting (refreshFindingSnapshot scanId item current) =
      { sighting current with scanId := some scanId, snapshot := itemSnapshot item } := rfl
  rw [refreshed, counted]

/-- Any other look only counts. -/
theorem sighting_kept {scanId : String} {run : CollectionRun} {item : CollectedFinding}
    {created : Bool} {finding : Finding} (other : finding.scanId ≠ some scanId) :
    sighting (snapshotted scanId run item created false finding) =
      { sighting finding with
        totalOccurrenceCount := finding.totalOccurrenceCount + created.toNat } := by
  have counted := sighting_counted run created finding
  have sameScan : (if created then countOccurrence run finding else finding).scanId =
      finding.scanId := congrArg Sighting.scanId counted
  unfold snapshotted
  dsimp only
  rw [if_neg (by rw [sameScan]; exact not_or.mpr ⟨other, Bool.false_ne_true⟩)]
  exact counted

theorem sighting_markSeen (run : CollectionRun) (observedAt : Instant) (finding : Finding) :
    sighting (markSeen run observedAt finding) =
      { sighting finding with
        lastSeenAt := observedAt, lastSeenCollectionRunId := some run.id } := rfl

/-- A look leaves the identity of its finding. -/
theorem identity_snapshotted (scanId : String) (run : CollectionRun) (item : CollectedFinding)
    (created latest : Bool) (finding : Finding) :
    (sighting (snapshotted scanId run item created latest finding)).id = finding.id ∧
      (sighting (snapshotted scanId run item created latest finding)).fingerprint =
        finding.fingerprint ∧
      (sighting (snapshotted scanId run item created latest finding)).totalOccurrenceCount =
        finding.totalOccurrenceCount + created.toNat := by
  by_cases own : finding.scanId = some scanId ∨ latest = true
  · rw [sighting_refreshed own]
    exact ⟨rfl, rfl, rfl⟩
  · obtain ⟨other, notLatest⟩ := not_or.mp own
    rw [Bool.not_eq_true] at notLatest
    rw [notLatest, sighting_kept other]
    exact ⟨rfl, rfl, rfl⟩

/-- Whether an observation is the latest is read off the runs and the observations. -/
theorem isLatestObservation_congr {first second : Store}
    (runs : first.collectionRuns = second.collectionRuns)
    (observations : first.observations = second.observations) (finding : Finding)
    (observation : OpportunityObservation) (run : CollectionRun) :
    isLatestObservation first finding observation run =
      isLatestObservation second finding observation run := by
  unfold isLatestObservation
  rw [runs, observations]

end Columns

section Observing

variable [UuidSource]

/-- What recording an observation leaves: the one of the run refreshed, or a new one. -/
theorem recordObservation_cases {store after : Store} {finding : Finding} {run : CollectionRun}
    {item : CollectedFinding} {observedAt : Instant} {observation : OpportunityObservation}
    {created : Bool}
    (recorded : recordObservation store finding run item observedAt =
      .ok (observation, created, after)) :
    after.findings = store.findings ∧ after.collectionRuns = store.collectionRuns ∧
      ((created = false ∧ ∃ known ∈ store.observations.rows, known.pair = (finding.id, run.id) ∧
          observation = refreshObservation item known ∧
            after.observations = store.observations.put observation) ∨
        (created = true ∧ (∀ row ∈ store.observations.rows, row.pair ≠ (finding.id, run.id)) ∧
          ∃ id, observation = newObservation id finding.id run item observedAt ∧
            store.observations.insert observation = some after.observations)) := by
  simp only [recordObservation] at recorded
  cases found : store.observations.findUnique? (finding.id, run.id) with
  | some existing =>
    rw [found] at recorded
    cases recorded
    obtain ⟨member, pair⟩ := Table.findUnique?_eq_some.mp found
    exact ⟨rfl, rfl, Or.inl ⟨rfl, existing, member, pair, rfl, rfl⟩⟩
  | none =>
    rw [found] at recorded
    simp only [createObservationRaceSafe, Store.draw, bind_eq_ok] at recorded
    obtain ⟨⟨candidate, flag, middle⟩, given, result⟩ := recorded
    cases inserted : store.observations.insert (newObservation (UuidSource.uuid4 store.drawn)
        finding.id run item observedAt) with
    | none =>
      rw [inserted, found] at given
      cases given
    | some observations =>
      rw [inserted] at given
      cases given
      cases result
      refine ⟨rfl, rfl, Or.inr ⟨rfl, Table.findUnique?_eq_none.mp found, _, rfl, ?_⟩⟩
      -- the refreshed candidate is the candidate
      have same : refreshObservation item (newObservation (UuidSource.uuid4 store.drawn) finding.id
          run item observedAt) =
            newObservation (UuidSource.uuid4 store.drawn) finding.id run item observedAt := rfl
      have member : newObservation (UuidSource.uuid4 store.drawn) finding.id run item observedAt ∈
          observations.rows := by
        rw [(Table.rows_of_insert inserted).1]
        exact List.mem_append_right _ (List.mem_singleton.mpr rfl)
      rw [same, inserted]
      exact congrArg some (Table.put_self member).symm

variable [SystemClock]

omit [UuidSource] in
/-- The rest of a turn that saw its finding last. -/
theorem seen_continued {store after : Store} {finding : Finding} {run : CollectionRun}
    {observedAt : Instant}
    (continued : (do
      let (_, finding, store) ←
        reactivatePresenceFromObservation (store.putFinding (markSeen run observedAt finding))
          (markSeen run observedAt finding) run
      return store.putFinding (reviewAfterTreatment observedAt finding)) =
        (Except.ok after : Except ServiceError Store)) :
    ∃ next, sighting next = sighting (markSeen run observedAt finding) ∧
      after.findings = store.findings.put next ∧ after.collectionRuns = store.collectionRuns ∧
        after.observations = store.observations := by
  simp only [bind_eq_ok] at continued
  obtain ⟨⟨changed, next, last⟩, reactivation, result⟩ := continued
  cases result
  set marked := markSeen run observedAt finding
  have sameNext : sighting (reviewAfterTreatment observedAt next) = sighting next :=
    sighting_reviewAfterTreatment observedAt next
  rcases reactivatePresenceFromObservation_eq_ok reactivation with
    ⟨-, rfl, rfl⟩ | ⟨-, rfl, presenceHistory, archiveHistory, clockReads, -, rfl⟩
  · refine ⟨_, sameNext, ?_, rfl, rfl⟩
    exact Table.put_put _ (id_of_sighting sameNext).symm (fingerprint_of_sighting sameNext).symm
  · have sameAgain := sighting_reobserved run marked
    refine ⟨_, sameNext.trans sameAgain, ?_, rfl, rfl⟩
    have first := Table.put_put store.findings (id_of_sighting sameAgain).symm
      (fingerprint_of_sighting sameAgain).symm
    have second := Table.put_put store.findings (id_of_sighting sameNext).symm
      (fingerprint_of_sighting sameNext).symm
    exact (congrArg (Table.put · _) first).trans second

/-- What is seen of the finding of an entry after its turn, and its observation. -/
theorem observeEntry_sighting {store after : Store} {scanId : String} {run : CollectionRun}
    {observedAt : Instant} {entry : String × CollectedFinding}
    (accepted : observeEntry scanId run observedAt store entry = .ok after) :
    ∃ finding next, store.findings.findUnique? entry.1 = some finding ∧
      after.findings = store.findings.put next ∧ after.collectionRuns = store.collectionRuns ∧
        ((∃ known ∈ store.observations.rows, known.pair = (finding.id, run.id) ∧
            after.observations = store.observations.put (refreshObservation entry.2 known) ∧
              sighting next =
                sighting (snapshotted scanId run entry.2 false false finding)) ∨
          ((∀ row ∈ store.observations.rows, row.pair ≠ (finding.id, run.id)) ∧ ∃ created,
            (∃ id, created = newObservation id finding.id run entry.2 observedAt) ∧
              store.observations.insert created = some after.observations ∧
                sighting next = if isLatestObservation after finding created run then
                  sighting (markSeen run observedAt
                    (snapshotted scanId run entry.2 true true finding))
                else sighting (snapshotted scanId run entry.2 true false finding))) := by
  unfold observeEntry at accepted
  cases found : store.findings.findUnique? entry.1 with
  | none =>
    rw [found] at accepted
    cases accepted
  | some finding =>
    rw [found] at accepted
    simp only [bind_eq_ok] at accepted
    obtain ⟨⟨observation, created, middle⟩, recorded, continued⟩ := accepted
    obtain ⟨findings, runs, outcome⟩ := recordObservation_cases recorded
    dsimp only at continued
    have latest : created && isLatestObservation middle finding observation run →
        created = true ∧ isLatestObservation middle finding observation run = true := by
      intro both
      exact Bool.and_eq_true_iff.mp both
    split at continued
    · rename_i isLatest
      obtain ⟨isNew, isLast⟩ := latest isLatest
      rw [isNew, isLast] at continued
      rcases outcome with ⟨isOld, -⟩ | ⟨-, unobserved, id, isCreated, inserted⟩
      · cases isOld.symm.trans isNew
      · obtain ⟨next, sameSighting, sameFindings, sameRuns, sameObservations⟩ :=
          seen_continued continued
        have instant : observation.observedAt = observedAt := by rw [isCreated]; rfl
        refine ⟨finding, next, rfl, findings ▸ sameFindings, sameRuns.trans runs,
          Or.inr ⟨unobserved, observation, ⟨id, isCreated⟩, ?_, ?_⟩⟩
        · rw [sameObservations]
          exact inserted
        · rw [isLatestObservation_congr sameRuns sameObservations, isLast, if_pos rfl, ← instant]
          exact sameSighting
    · rename_i notLatest
      cases continued
      refine ⟨finding, _, rfl, congrArg (Table.put · _) findings, runs, ?_⟩
      rcases outcome with ⟨rfl, known, member, pair, rfl, observations⟩ |
        ⟨rfl, unobserved, id, isCreated, inserted⟩
      · exact Or.inl ⟨known, member, pair, observations, rfl⟩
      · rw [Bool.true_and, Bool.not_eq_true] at notLatest
        have later (finding next : Finding) :
            isLatestObservation (middle.putFinding next) finding observation run =
              isLatestObservation middle finding observation run :=
          isLatestObservation_congr rfl rfl finding observation run
        refine Or.inr ⟨unobserved, observation, ⟨id, isCreated⟩, inserted, ?_⟩
        rw [later, notLatest]
        rfl

end Observing

section Sights

variable {fingerprint runId : String} {earlier : List Sight} {sight : Sight}

theorem mem_observers :
    runId ∈ observers fingerprint earlier ↔
      ∃ look ∈ earlier, look.fingerprint = fingerprint ∧ look.run.id = runId := by
  simp only [observers, List.mem_dedup, List.mem_map, List.mem_filter, decide_eq_true_eq, and_assoc]

/-- A look at another fingerprint, or by another run. -/
theorem sightsBy_other (other : ¬(sight.fingerprint = fingerprint ∧ sight.run.id = runId)) :
    sightsBy fingerprint runId (earlier ++ [sight]) = sightsBy fingerprint runId earlier := by
  rw [sightsBy, List.filter_append, List.filter_cons_of_neg (by simpa using other), List.filter_nil,
    List.append_nil]
  rfl

theorem sightsBy_own :
    sightsBy sight.fingerprint sight.run.id (earlier ++ [sight]) =
      sightsBy sight.fingerprint sight.run.id earlier ++ [sight] := by
  rw [sightsBy, List.filter_append, List.filter_cons_of_pos (by simp), List.filter_nil]
  rfl

theorem observers_other (other : sight.fingerprint ≠ fingerprint) :
    observers fingerprint (earlier ++ [sight]) = observers fingerprint earlier := by
  rw [observers, List.filter_append, List.filter_cons_of_neg (by simpa using other),
    List.filter_nil, List.append_nil]
  rfl

/-- A look counts unless its run has looked before. -/
theorem length_observers_own :
    (observers sight.fingerprint (earlier ++ [sight])).length =
      if sight.run.id ∈ observers sight.fingerprint earlier then
        (observers sight.fingerprint earlier).length
      else (observers sight.fingerprint earlier).length + 1 := by
  have appended : (earlier ++ [sight]).filter
      (fun look => decide (look.fingerprint = sight.fingerprint)) =
        earlier.filter (fun look => decide (look.fingerprint = sight.fingerprint)) ++ [sight] := by
    rw [List.filter_append, List.filter_cons_of_pos (by simp), List.filter_nil]
  unfold observers
  rw [appended, List.map_append, List.map_singleton]
  generalize ((earlier.filter fun look => decide (look.fingerprint = sight.fingerprint)).map
    fun look => look.run.id) = runs
  have inserted : (runs ++ [sight.run.id]).toFinset = insert sight.run.id runs.toFinset := by
    ext runId
    simp
  rw [← List.card_toFinset, ← List.card_toFinset, inserted]
  by_cases seen : sight.run.id ∈ runs
  · rw [if_pos (List.mem_dedup.mpr seen), Finset.insert_eq_of_mem (List.mem_toFinset.mpr seen)]
  · rw [if_neg fun inside => seen (List.mem_dedup.mp inside),
      Finset.card_insert_of_notMem fun inside => seen (List.mem_toFinset.mp inside)]

end Sights

/-- What the turn of an entry does: the observation of the run is there with the measures
of the item, and its finding shows what is seen of it. -/
structure Turn (scanId : String) (run : CollectionRun) (observedAt : Instant)
    (entry : String × CollectedFinding) (store after : Store) (finding next : Finding)
    (mine : OpportunityObservation) : Prop where
  stored : finding ∈ store.findings.rows
  named : finding.fingerprint = entry.1
  sameId : next.id = finding.id
  sameFingerprint : next.fingerprint = finding.fingerprint
  findings : ∀ row, row ∈ after.findings.rows ↔
    row = next ∨ row ∈ store.findings.rows ∧ row.id ≠ finding.id
  observations : ∀ row, row ∈ after.observations.rows ↔
    row = mine ∨ row ∈ store.observations.rows ∧ row.pair ≠ (finding.id, run.id)
  runs : after.collectionRuns = store.collectionRuns
  pair : mine.pair = (finding.id, run.id)
  measured : observationMeasured mine = (itemSnapshot entry.2).measured
  outcome :
    (∃ known ∈ store.observations.rows, known.pair = (finding.id, run.id) ∧ mine.id = known.id ∧
      mine.observedAt = known.observedAt ∧
        sighting next = sighting (snapshotted scanId run entry.2 false false finding)) ∨
    ((∀ row ∈ store.observations.rows, row.pair ≠ (finding.id, run.id)) ∧
      mine.observedAt = observedAt ∧
        sighting next = if isLatestObservation after finding mine run then
          sighting (markSeen run observedAt (snapshotted scanId run entry.2 true true finding))
        else sighting (snapshotted scanId run entry.2 true false finding))

section Turns

variable [UuidSource] [SystemClock]

/-- An entry is one turn of its finding. -/
theorem turn_of_observeEntry {store after : Store} {scanId : String} {run : CollectionRun}
    {observedAt : Instant} {entry : String × CollectedFinding}
    (accepted : observeEntry scanId run observedAt store entry = .ok after) :
    ∃ finding next mine, Turn scanId run observedAt entry store after finding next mine := by
  obtain ⟨finding, next, found, put, runs, outcome⟩ := observeEntry_sighting accepted
  obtain ⟨stored, named⟩ := Table.findUnique?_eq_some.mp found
  have kept {created latest : Bool} (same : sighting next =
      sighting (snapshotted scanId run entry.2 created latest finding)) :
      next.id = finding.id ∧ next.fingerprint = finding.fingerprint := by
    obtain ⟨id, fingerprint, -⟩ := identity_snapshotted scanId run entry.2 created latest finding
    exact ⟨(congrArg Sighting.id same).trans id,
      (congrArg Sighting.fingerprint same).trans fingerprint⟩
  have identity : next.id = finding.id ∧ next.fingerprint = finding.fingerprint := by
    rcases outcome with ⟨known, -, -, -, same⟩ | ⟨-, created, -, -, same⟩
    · exact kept same
    · by_cases latest : isLatestObservation after finding created run = true
      · rw [if_pos latest, sighting_markSeen] at same
        obtain ⟨id, fingerprint, -⟩ := identity_snapshotted scanId run entry.2 true true finding
        exact ⟨(congrArg Sighting.id same).trans id,
          (congrArg Sighting.fingerprint same).trans fingerprint⟩
      · rw [if_neg latest] at same
        exact kept same
  have findings (row : Finding) : row ∈ after.findings.rows ↔
      row = next ∨ row ∈ store.findings.rows ∧ row.id ≠ finding.id := by
    rw [put, Table.mem_put stored identity.1.symm identity.2.symm, identity.1]
  rcases outcome with ⟨known, member, pair, observations, same⟩ |
    ⟨unobserved, created, ⟨id, isCreated⟩, inserted, same⟩
  · refine ⟨finding, next, refreshObservation entry.2 known, stored, named, identity.1, identity.2,
      findings, fun row => ?_, runs, pair, rfl, Or.inl ⟨known, member, pair, rfl, rfl, same⟩⟩
    have sameId : known.id = (refreshObservation entry.2 known).id := rfl
    have samePair : known.pair = (refreshObservation entry.2 known).pair := rfl
    rw [observations, Table.mem_put member sameId samePair]
    refine or_congr Iff.rfl (and_congr_right fun rowMember => not_congr ⟨fun same => ?_, fun same => ?_⟩)
    · rw [store.observations.eq_of_key rowMember member same, pair]
    · rw [store.observations.eq_of_unique rowMember member (same.trans pair.symm)]
      rfl
  · have createdPair : created.pair = (finding.id, run.id) := by rw [isCreated]; rfl
    refine ⟨finding, next, created, stored, named, identity.1, identity.2, findings,
      fun row => ?_, runs, createdPair, by rw [isCreated]; rfl,
      Or.inr ⟨unobserved, by rw [isCreated]; rfl, same⟩⟩
    rw [(Table.rows_of_insert inserted).1, List.mem_append, List.mem_singleton, or_comm]
    exact or_congr Iff.rfl ⟨fun rowMember => ⟨rowMember, unobserved row rowMember⟩, And.left⟩

end Turns

/-- An observation measures what the last look of its run saw, at the instant of the
first. -/
structure Recorded (earlier : List Sight) (fingerprint : String)
    (row : OpportunityObservation) : Prop where
  instant : (sightsBy fingerprint row.collectionRunId earlier).head?.map Sight.observedAt =
    some row.observedAt
  measured : (sightsBy fingerprint row.collectionRunId earlier).getLast?.map
    (fun sight => (itemSnapshot sight.item).measured) = some (observationMeasured row)

/-- A finding shows its greatest observation: its instant, its run, and what the run saw
last. -/
structure Shows (store : Store) (earlier : List Sight) (finding : Finding)
    (latest : OpportunityObservation) : Prop where
  stored : latest ∈ store.observations.rows
  own : latest.opportunityId = finding.id
  greatest : ∀ other ∈ store.observations.rows, other.opportunityId = finding.id →
    rank store other ≤ rank store latest
  lastSeenAt : finding.lastSeenAt = latest.observedAt
  lastSeenRun : finding.lastSeenCollectionRunId = some latest.collectionRunId
  snapshot : (sightsBy finding.fingerprint latest.collectionRunId earlier).getLast?.map
    (fun sight => (some sight.scanId, itemSnapshot sight.item)) =
      some (finding.scanId, findingSnapshot finding)

/-- What holds of a store after some looks, some of its findings still waiting for their
first. -/
structure Tracked (store : Store) (earlier : List Sight) (waiting : Finding → Prop) : Prop where
  runs : ∀ row ∈ store.observations.rows, ∃ run,
    store.collectionRuns.find? row.collectionRunId = some run
  recorded : ∀ row ∈ store.observations.rows, ∃ finding ∈ store.findings.rows,
    finding.id = row.opportunityId ∧ Recorded earlier finding.fingerprint row
  observed : ∀ sight ∈ earlier, ∃ finding ∈ store.findings.rows,
    finding.fingerprint = sight.fingerprint ∧
      ∃ row ∈ store.observations.rows, row.pair = (finding.id, sight.run.id)
  counted : ∀ finding ∈ store.findings.rows,
    finding.totalOccurrenceCount = (observers finding.fingerprint earlier).length
  shown : ∀ finding ∈ store.findings.rows,
    waiting finding ∨ ∃ latest, Shows store earlier finding latest

/-- A finding that a call has created and not yet looked at. -/
structure Waiting (scanId : String) (run : CollectionRun) (observedAt : Instant)
    (rest : List String) (earlier : List Sight) (finding : Finding) : Prop where
  listed : finding.fingerprint ∈ rest
  unseen : ∀ sight ∈ earlier, sight.fingerprint ≠ finding.fingerprint
  scanId : finding.scanId = some scanId
  lastSeenAt : finding.lastSeenAt = observedAt
  lastSeenRun : finding.lastSeenCollectionRunId = some run.id

/-- The look of an entry's turn. -/
def lookAt (scanId : String) (run : CollectionRun) (observedAt : Instant)
    (entry : String × CollectedFinding) : Sight :=
  ⟨scanId, run, entry.1, entry.2, observedAt⟩

section Tracking

variable {store after : Store} {earlier : List Sight} {waiting : Finding → Prop}

/-- The observations of a finding are those of the runs that looked at it. -/
theorem Tracked.mem_observers_iff (tracked : Tracked store earlier waiting) {finding : Finding}
    (stored : finding ∈ store.findings.rows) (runId : String) :
    runId ∈ observers finding.fingerprint earlier ↔
      ∃ row ∈ store.observations.rows, row.pair = (finding.id, runId) := by
  constructor
  · intro seen
    obtain ⟨sight, member, named, rfl⟩ := mem_observers.mp seen
    obtain ⟨owner, ownerStored, sameName, row, rowStored, pair⟩ := tracked.observed sight member
    obtain rfl := store.findings.eq_of_unique ownerStored stored (sameName.trans named)
    exact ⟨row, rowStored, pair⟩
  · rintro ⟨row, rowStored, pair⟩
    obtain ⟨owner, ownerStored, sameId, recorded⟩ := tracked.recorded row rowStored
    have isFinding : owner.id = finding.id := sameId.trans (congrArg Prod.fst pair)
    obtain rfl := store.findings.eq_of_key ownerStored stored isFinding
    have ofRun : row.collectionRunId = runId := congrArg Prod.snd pair
    obtain ⟨sight, first, -⟩ := Option.map_eq_some_iff.mp recorded.instant
    have member := List.mem_of_head? first
    simp only [sightsBy, List.mem_filter, decide_eq_true_eq, ofRun] at member
    exact mem_observers.mpr ⟨sight, member.1, member.2⟩

theorem startOf_congr (runs : after.collectionRuns = store.collectionRuns) (runId : String) :
    startOf after runId = startOf store runId := by
  unfold startOf
  rw [runs]

theorem rank_congr (runs : after.collectionRuns = store.collectionRuns)
    (row : OpportunityObservation) : rank after row = rank store row := by
  unfold rank
  rw [startOf_congr runs]

theorem startOf_stored {runId : String} {run : CollectionRun}
    (found : store.collectionRuns.find? runId = some run) : startOf store runId = run.startedAt := by
  unfold startOf
  rw [found]

variable {scanId : String} {run : CollectionRun} {observedAt : Instant}
  {entry : String × CollectedFinding} {finding next : Finding} {mine : OpportunityObservation}

variable {latest : OpportunityObservation} {rest : List String}

/-- A first observation by a run is the latest when no observation ranks above it. -/
theorem isLatestObservation_iff
    (turn : Turn scanId run observedAt entry store after finding next mine)
    (storedRun : store.collectionRuns.find? run.id = some run)
    (runs : ∀ row ∈ store.observations.rows, ∃ run,
      store.collectionRuns.find? row.collectionRunId = some run)
    (unobserved : ∀ row ∈ store.observations.rows, row.pair ≠ (finding.id, run.id))
    (shows_ : Shows store earlier finding latest) :
    isLatestObservation after finding mine run = true ↔ rank store latest ≤ rank store mine := by
  have ofRun : mine.collectionRunId = run.id := congrArg Prod.snd turn.pair
  obtain ⟨previousRun, found⟩ := runs latest shows_.stored
  have samePrevious : previousRun.id = latest.collectionRunId :=
    (Table.find?_eq_some.mp found).2
  have latestPair : latest.pair = (finding.id, previousRun.id) :=
    Prod.ext shows_.own samePrevious.symm
  have otherRun : latest.collectionRunId ≠ run.id := fun same =>
    unobserved latest shows_.stored (Prod.ext shows_.own same)
  have previous : after.observations.findUnique? (finding.id, previousRun.id) = some latest := by
    refine Table.findUnique?_eq_some.mpr ⟨?_, latestPair⟩
    exact (turn.observations latest).mpr
      (Or.inr ⟨shows_.stored, unobserved latest shows_.stored⟩)
  have order : rank store latest ≤ rank store mine ↔
      latest.observedAt < mine.observedAt ∨ latest.observedAt = mine.observedAt ∧
        (previousRun.startedAt < run.startedAt ∨
          previousRun.startedAt = run.startedAt ∧ latest.id ≤ mine.id) := by
    unfold rank
    rw [Prod.Lex.toLex_le_toLex, Prod.Lex.toLex_le_toLex, ofRun, startOf_stored found,
      startOf_stored storedRun]
  rw [order]
  unfold isLatestObservation
  rw [shows_.lastSeenAt, shows_.lastSeenRun, turn.runs]
  dsimp only
  rw [if_neg otherRun, found]
  dsimp only
  rw [previous]
  by_cases later : latest.observedAt < mine.observedAt
  · rw [if_pos later]
    exact iff_of_true rfl (Or.inl later)
  · rw [if_neg later]
    by_cases sooner : mine.observedAt < latest.observedAt
    · rw [if_pos sooner]
      refine iff_of_false Bool.false_ne_true ?_
      rintro (impossible | ⟨same, -⟩)
      · exact later impossible
      · exact sooner.ne same.symm
    · rw [if_neg sooner]
      have same : latest.observedAt = mine.observedAt :=
        le_antisymm (not_lt.mp sooner) (not_lt.mp later)
      simp [same]

/-- The look of a turn comes last among those of its run at its fingerprint. -/
theorem Turn.sightsBy_mine
    (turn : Turn scanId run observedAt entry store after finding next mine) :
    sightsBy finding.fingerprint mine.collectionRunId
        (earlier ++ [lookAt scanId run observedAt entry]) =
      sightsBy finding.fingerprint run.id earlier ++ [lookAt scanId run observedAt entry] := by
  have ofRun : mine.collectionRunId = run.id := congrArg Prod.snd turn.pair
  rw [ofRun, turn.named]
  exact @sightsBy_own earlier (lookAt scanId run observedAt entry)

/-- The looks at another fingerprint, or by another run, stay. -/
theorem Turn.sightsBy_other
    (turn : Turn scanId run observedAt entry store after finding next mine)
    {fingerprint runId : String} (other : ¬(fingerprint = finding.fingerprint ∧ runId = run.id)) :
    sightsBy fingerprint runId (earlier ++ [lookAt scanId run observedAt entry]) =
      sightsBy fingerprint runId earlier :=
  LatestObservations.sightsBy_other fun same =>
    other ⟨same.1.symm.trans turn.named.symm, same.2.symm⟩

/-- The turn's own observation becomes what the finding shows. -/
theorem shows_mine (turn : Turn scanId run observedAt entry store after finding next mine)
    (greatest : ∀ other ∈ store.observations.rows, other.opportunityId = finding.id →
      other.pair ≠ (finding.id, run.id) → rank store other ≤ rank store mine)
    (lastSeenAt : next.lastSeenAt = mine.observedAt)
    (lastSeenRun : next.lastSeenCollectionRunId = some run.id)
    (scan : next.scanId = some scanId) (snapshot : findingSnapshot next = itemSnapshot entry.2) :
    Shows after (earlier ++ [lookAt scanId run observedAt entry]) next mine := by
  have own : mine.opportunityId = finding.id := congrArg Prod.fst turn.pair
  have ofRun : mine.collectionRunId = run.id := congrArg Prod.snd turn.pair
  refine ⟨(turn.observations mine).mpr (Or.inl rfl), own.trans turn.sameId.symm,
    fun other member sameOwner => ?_, lastSeenAt, ofRun ▸ lastSeenRun, ?_⟩
  · rw [rank_congr turn.runs, rank_congr turn.runs]
    rcases (turn.observations other).mp member with rfl | ⟨stored, otherPair⟩
    · exact le_rfl
    · exact greatest other stored (sameOwner.trans turn.sameId) otherPair
  · rw [turn.sameFingerprint, turn.sightsBy_mine, List.getLast?_concat, Option.map_some, scan,
      snapshot]
    rfl

/-- The finding keeps showing what it showed. -/
theorem shows_kept (turn : Turn scanId run observedAt entry store after finding next mine)
    (shows_ : Shows store earlier finding latest) (otherRun : latest.collectionRunId ≠ run.id)
    (below : rank store mine ≤ rank store latest) (same : sighting next = { sighting finding with
      totalOccurrenceCount := next.totalOccurrenceCount }) :
    Shows after (earlier ++ [lookAt scanId run observedAt entry]) next latest := by
  have otherPair : latest.pair ≠ (finding.id, run.id) := fun pair =>
    otherRun (congrArg Prod.snd pair)
  refine ⟨(turn.observations latest).mpr (Or.inr ⟨shows_.stored, otherPair⟩),
    shows_.own.trans turn.sameId.symm, fun other member sameOwner => ?_,
    (congrArg Sighting.lastSeenAt same).trans shows_.lastSeenAt,
    (congrArg Sighting.lastSeenCollectionRunId same).trans shows_.lastSeenRun, ?_⟩
  · rw [rank_congr turn.runs, rank_congr turn.runs]
    rcases (turn.observations other).mp member with rfl | ⟨stored, -⟩
    · exact below
    · exact shows_.greatest other stored (sameOwner.trans turn.sameId)
  · have sameScan : next.scanId = finding.scanId := congrArg Sighting.scanId same
    have sameSnapshot : findingSnapshot next = findingSnapshot finding :=
      congrArg Sighting.snapshot same
    rw [turn.sameFingerprint, turn.sightsBy_other fun both => otherRun both.2, shows_.snapshot,
      sameScan, sameSnapshot]

/-- Other findings keep showing what they showed. -/
theorem shows_other (turn : Turn scanId run observedAt entry store after finding next mine)
    {other : Finding} (stored : other ∈ store.findings.rows) (different : other.id ≠ finding.id)
    (shows_ : Shows store earlier other latest) :
    Shows after (earlier ++ [lookAt scanId run observedAt entry]) other latest := by
  have otherName : other.fingerprint ≠ finding.fingerprint := fun same =>
    different (congrArg Finding.id (store.findings.eq_of_unique stored turn.stored same))
  refine ⟨(turn.observations latest).mpr (Or.inr ⟨shows_.stored, fun pair => ?_⟩), shows_.own,
    fun row member sameOwner => ?_, shows_.lastSeenAt, shows_.lastSeenRun, ?_⟩
  · exact different (shows_.own.symm.trans (congrArg Prod.fst pair))
  · rw [rank_congr turn.runs, rank_congr turn.runs]
    rcases (turn.observations row).mp member with rfl | ⟨rowStored, -⟩
    · exact absurd (sameOwner.symm.trans (congrArg Prod.fst turn.pair)) different
    · exact shows_.greatest row rowStored sameOwner
  · rw [turn.sightsBy_other fun both => otherName both.1]
    exact shows_.snapshot

/-- A finding shows the scan of the run that it shows. -/
theorem Shows.scan_iff (shows_ : Shows store earlier finding latest)
    (paired : ∀ sight ∈ earlier, sight.scanId = scanId ↔ sight.run.id = run.id) :
    finding.scanId = some scanId ↔ latest.collectionRunId = run.id := by
  obtain ⟨sight, last, same⟩ := Option.map_eq_some_iff.mp shows_.snapshot
  have member := List.mem_of_getLast? last
  simp only [sightsBy, List.mem_filter, decide_eq_true_eq] at member
  obtain ⟨inside, -, ofRun⟩ := member
  have shown : some sight.scanId = finding.scanId := congrArg Prod.fst same
  rw [← shown, Option.some.injEq, paired sight inside, ofRun]

/-- A run that looked before refreshes what the finding shows only if that is its own. -/
theorem shows_again (turn : Turn scanId run observedAt entry store after finding next mine)
    (paired : ∀ sight ∈ earlier, sight.scanId = scanId ↔ sight.run.id = run.id)
    {known : OpportunityObservation} (stored : known ∈ store.observations.rows)
    (pair : known.pair = (finding.id, run.id)) (sameId : mine.id = known.id)
    (sameInstant : mine.observedAt = known.observedAt)
    (same : sighting next = sighting (snapshotted scanId run entry.2 false false finding))
    (shows_ : Shows store earlier finding latest) :
    ∃ latest, Shows after (earlier ++ [lookAt scanId run observedAt entry]) next latest := by
  have knownOwner : known.opportunityId = finding.id := congrArg Prod.fst pair
  have sameRun : mine.collectionRunId = known.collectionRunId :=
    (congrArg Prod.snd turn.pair).trans (congrArg Prod.snd pair).symm
  have sameRank : rank store mine = rank store known := by
    unfold rank
    rw [sameInstant, sameRun, sameId]
  have scan := shows_.scan_iff paired
  by_cases own : latest.collectionRunId = run.id
  · have isKnown : latest = known := store.observations.eq_of_unique shows_.stored stored
      ((Prod.ext shows_.own own : latest.pair = (finding.id, run.id)).trans pair.symm)
    rw [sighting_refreshed (Or.inl (scan.mpr own))] at same
    refine ⟨mine, shows_mine turn (fun other member sameOwner _ => ?_) ?_ ?_
      (congrArg Sighting.scanId same) (congrArg Sighting.snapshot same)⟩
    · rw [sameRank, ← isKnown]
      exact shows_.greatest other member sameOwner
    · have instant : next.lastSeenAt = finding.lastSeenAt := congrArg Sighting.lastSeenAt same
      rw [instant, shows_.lastSeenAt, isKnown, sameInstant]
    · have ofRun : next.lastSeenCollectionRunId = finding.lastSeenCollectionRunId :=
        congrArg Sighting.lastSeenCollectionRunId same
      rw [ofRun, shows_.lastSeenRun, own]
  · rw [sighting_kept fun shown => own (scan.mp shown)] at same
    refine ⟨latest, shows_kept turn shows_ own ?_ ?_⟩
    · rw [sameRank]
      exact shows_.greatest known stored knownOwner
    · have count : next.totalOccurrenceCount = finding.totalOccurrenceCount + Bool.toNat false :=
        congrArg Sighting.totalOccurrenceCount same
      rw [same, count]

/-- A first look of a run becomes what the finding shows if nothing ranks above it. -/
theorem shows_first (turn : Turn scanId run observedAt entry store after finding next mine)
    (storedRun : store.collectionRuns.find? run.id = some run)
    (runs : ∀ row ∈ store.observations.rows, ∃ run,
      store.collectionRuns.find? row.collectionRunId = some run)
    (paired : ∀ sight ∈ earlier, sight.scanId = scanId ↔ sight.run.id = run.id)
    (unobserved : ∀ row ∈ store.observations.rows, row.pair ≠ (finding.id, run.id))
    (instant : mine.observedAt = observedAt)
    (same : sighting next = if isLatestObservation after finding mine run then
        sighting (markSeen run observedAt (snapshotted scanId run entry.2 true true finding))
      else sighting (snapshotted scanId run entry.2 true false finding))
    (shows_ : Shows store earlier finding latest) :
    ∃ latest, Shows after (earlier ++ [lookAt scanId run observedAt entry]) next latest := by
  have order := isLatestObservation_iff turn storedRun runs unobserved shows_
  by_cases above : rank store latest ≤ rank store mine
  · rw [if_pos (order.mpr above), sighting_markSeen, sighting_refreshed (Or.inr rfl)] at same
    refine ⟨mine, shows_mine turn (fun other member sameOwner _ => ?_)
      ((congrArg Sighting.lastSeenAt same).trans instant.symm)
      (congrArg Sighting.lastSeenCollectionRunId same) (congrArg Sighting.scanId same)
      (congrArg Sighting.snapshot same)⟩
    exact (shows_.greatest other member sameOwner).trans above
  · have otherRun : latest.collectionRunId ≠ run.id := fun ofRun =>
      unobserved latest shows_.stored (Prod.ext shows_.own ofRun)
    have otherScan : finding.scanId ≠ some scanId := fun shown =>
      otherRun ((shows_.scan_iff paired).mp shown)
    rw [if_neg fun isLatest => above (order.mp isLatest), sighting_kept otherScan] at same
    refine ⟨latest, shows_kept turn shows_ otherRun (le_of_lt (not_le.mp above)) ?_⟩
    have count : next.totalOccurrenceCount = finding.totalOccurrenceCount + Bool.toNat true :=
      congrArg Sighting.totalOccurrenceCount same
    rw [same, count]

/-- The first look at a created finding is what it shows. -/
theorem shows_created (turn : Turn scanId run observedAt entry store after finding next mine)
    (tracked : Tracked store earlier waiting)
    (fresh : Waiting scanId run observedAt rest earlier finding)
    (instant : mine.observedAt = observedAt)
    (same : sighting next = if isLatestObservation after finding mine run then
        sighting (markSeen run observedAt (snapshotted scanId run entry.2 true true finding))
      else sighting (snapshotted scanId run entry.2 true false finding)) :
    Shows after (earlier ++ [lookAt scanId run observedAt entry]) next mine := by
  have isLatest : isLatestObservation after finding mine run = true := by
    unfold isLatestObservation
    rw [fresh.lastSeenAt, fresh.lastSeenRun, instant, if_neg (lt_irrefl _), if_neg (lt_irrefl _)]
    exact if_pos rfl
  rw [if_pos isLatest, sighting_markSeen, sighting_refreshed (Or.inr rfl)] at same
  refine shows_mine turn (fun other member sameOwner _ => ?_)
    ((congrArg Sighting.lastSeenAt same).trans instant.symm)
    (congrArg Sighting.lastSeenCollectionRunId same) (congrArg Sighting.scanId same)
    (congrArg Sighting.snapshot same)
  -- nothing has looked at the fingerprint, so there is no other observation
  have seen := (tracked.mem_observers_iff turn.stored other.collectionRunId).mpr
    ⟨other, member, Prod.ext sameOwner rfl⟩
  obtain ⟨sight, inside, named, -⟩ := mem_observers.mp seen
  exact absurd named (fresh.unseen sight inside)

/-- The observation of a turn is recorded as the look. -/
theorem recorded_mine (turn : Turn scanId run observedAt entry store after finding next mine)
    (tracked : Tracked store earlier waiting) :
    Recorded (earlier ++ [lookAt scanId run observedAt entry]) finding.fingerprint mine := by
  constructor
  · rw [turn.sightsBy_mine, List.head?_append]
    rcases turn.outcome with ⟨known, stored, pair, -, instant, -⟩ | ⟨unobserved, instant, -⟩
    · obtain ⟨owner, ownerStored, sameId, recorded⟩ := tracked.recorded known stored
      have isFinding : owner.id = finding.id := sameId.trans (congrArg Prod.fst pair)
      obtain rfl := store.findings.eq_of_key ownerStored turn.stored isFinding
      have ofRun : known.collectionRunId = run.id := congrArg Prod.snd pair
      have first := recorded.instant
      rw [ofRun] at first
      obtain ⟨sight, head, same⟩ := Option.map_eq_some_iff.mp first
      rw [head, Option.some_or, Option.map_some, same, instant]
    · have noLook : sightsBy finding.fingerprint run.id earlier = [] := by
        refine List.filter_eq_nil_iff.mpr fun sight member matching => ?_
        have seen := mem_observers.mpr ⟨sight, member, of_decide_eq_true matching⟩
        obtain ⟨row, stored, pair⟩ := (tracked.mem_observers_iff turn.stored run.id).mp seen
        exact unobserved row stored pair
      rw [noLook, List.head?_nil, Option.none_or, instant]
      rfl
  · rw [turn.sightsBy_mine, List.getLast?_concat, Option.map_some, turn.measured]
    rfl

/-- The row of a finding after a turn. -/
theorem Turn.carried (turn : Turn scanId run observedAt entry store after finding next mine)
    {row : Finding} (stored : row ∈ store.findings.rows) :
    ∃ later ∈ after.findings.rows, later.id = row.id ∧ later.fingerprint = row.fingerprint := by
  by_cases own : row.id = finding.id
  · obtain rfl := store.findings.eq_of_key stored turn.stored own
    exact ⟨next, (turn.findings next).mpr (Or.inl rfl), turn.sameId, turn.sameFingerprint⟩
  · exact ⟨row, (turn.findings row).mpr (Or.inr ⟨stored, own⟩), rfl, rfl⟩

/-- A turn counts its run once. -/
theorem Turn.counted (turn : Turn scanId run observedAt entry store after finding next mine)
    (tracked : Tracked store earlier waiting) :
    next.totalOccurrenceCount =
      (observers finding.fingerprint (earlier ++ [lookAt scanId run observedAt entry])).length := by
  have own : (observers entry.1 (earlier ++ [lookAt scanId run observedAt entry])).length =
      if run.id ∈ observers entry.1 earlier then (observers entry.1 earlier).length
      else (observers entry.1 earlier).length + 1 :=
    @length_observers_own earlier (lookAt scanId run observedAt entry)
  have before := tracked.counted finding turn.stored
  have seen := tracked.mem_observers_iff turn.stored run.id
  rw [turn.named] at before seen ⊢
  rw [own]
  have count (created latest : Bool) :=
    (identity_snapshotted scanId run entry.2 created latest finding).2.2
  rcases turn.outcome with ⟨known, stored, pair, -, -, same⟩ | ⟨unobserved, -, same⟩
  · have total := (congrArg Sighting.totalOccurrenceCount same).trans (count false false)
    rw [if_pos (seen.mpr ⟨known, stored, pair⟩)]
    exact total.trans before
  · have unseen : run.id ∉ observers entry.1 earlier := by
      intro inside
      obtain ⟨row, stored, pair⟩ := seen.mp inside
      exact unobserved row stored pair
    rw [if_neg unseen]
    by_cases latest : isLatestObservation after finding mine run = true
    · rw [if_pos latest, sighting_markSeen] at same
      have total := (congrArg Sighting.totalOccurrenceCount same).trans (count true true)
      exact total.trans (congrArg (· + 1) before)
    · rw [if_neg latest] at same
      have total := (congrArg Sighting.totalOccurrenceCount same).trans (count true false)
      exact total.trans (congrArg (· + 1) before)

/-- What the finding of a turn shows afterwards. -/
theorem Turn.shows_next (turn : Turn scanId run observedAt entry store after finding next mine)
    (tracked : Tracked store earlier (Waiting scanId run observedAt rest earlier))
    (storedRun : store.collectionRuns.find? run.id = some run)
    (paired : ∀ sight ∈ earlier, sight.scanId = scanId ↔ sight.run.id = run.id) :
    ∃ latest, Shows after (earlier ++ [lookAt scanId run observedAt entry]) next latest := by
  rcases tracked.shown finding turn.stored with fresh | ⟨latest, shows_⟩
  · rcases turn.outcome with ⟨known, stored, pair, -, -, -⟩ | ⟨-, instant, same⟩
    · have seen := (tracked.mem_observers_iff turn.stored run.id).mpr ⟨known, stored, pair⟩
      obtain ⟨sight, inside, named, -⟩ := mem_observers.mp seen
      exact absurd named (fresh.unseen sight inside)
    · exact ⟨mine, shows_created turn tracked fresh instant same⟩
  · rcases turn.outcome with ⟨known, stored, pair, sameId, instant, same⟩ |
      ⟨unobserved, instant, same⟩
    · exact shows_again turn paired stored pair sameId instant same shows_
    · exact shows_first turn storedRun tracked.runs paired unobserved instant same shows_

/-- A turn keeps everything tracked. -/
theorem tracked_turn (turn : Turn scanId run observedAt entry store after finding next mine)
    (tracked : Tracked store earlier (Waiting scanId run observedAt (entry.1 :: rest) earlier))
    (storedRun : store.collectionRuns.find? run.id = some run)
    (paired : ∀ sight ∈ earlier, sight.scanId = scanId ↔ sight.run.id = run.id) :
    Tracked after (earlier ++ [lookAt scanId run observedAt entry])
      (Waiting scanId run observedAt rest (earlier ++ [lookAt scanId run observedAt entry])) := by
  have ofRun : mine.collectionRunId = run.id := congrArg Prod.snd turn.pair
  have nextStored : next ∈ after.findings.rows := (turn.findings next).mpr (Or.inl rfl)
  have mineStored : mine ∈ after.observations.rows := (turn.observations mine).mpr (Or.inl rfl)
  refine ⟨fun row member => ?_, fun row member => ?_, fun sight member => ?_,
    fun row member => ?_, fun row member => ?_⟩
  · rw [turn.runs]
    rcases (turn.observations row).mp member with rfl | ⟨stored, -⟩
    · exact ⟨run, ofRun ▸ storedRun⟩
    · exact tracked.runs row stored
  · rcases (turn.observations row).mp member with rfl | ⟨stored, otherPair⟩
    · exact ⟨next, nextStored, turn.sameId.trans (congrArg Prod.fst turn.pair).symm,
        turn.sameFingerprint ▸ recorded_mine turn tracked⟩
    · obtain ⟨owner, ownerStored, sameId, recorded⟩ := tracked.recorded row stored
      obtain ⟨later, laterStored, laterId, laterName⟩ := turn.carried ownerStored
      have other : ¬(owner.fingerprint = finding.fingerprint ∧ row.collectionRunId = run.id) := by
        rintro ⟨sameName, sameRun⟩
        obtain rfl := store.findings.eq_of_unique ownerStored turn.stored sameName
        exact otherPair (Prod.ext sameId.symm sameRun)
      refine ⟨later, laterStored, laterId.trans sameId, ?_, ?_⟩
      · rw [laterName, turn.sightsBy_other other]
        exact recorded.instant
      · rw [laterName, turn.sightsBy_other other]
        exact recorded.measured
  · rcases List.mem_append.mp member with before | look
    · obtain ⟨owner, ownerStored, named, row, rowStored, pair⟩ := tracked.observed sight before
      obtain ⟨later, laterStored, laterId, laterName⟩ := turn.carried ownerStored
      refine ⟨later, laterStored, laterName.trans named, ?_⟩
      by_cases own : row.pair = (finding.id, run.id)
      · exact ⟨mine, mineStored, by rw [turn.pair, laterId, ← pair, own]⟩
      · exact ⟨row, (turn.observations row).mpr (Or.inr ⟨rowStored, own⟩), laterId ▸ pair⟩
    · obtain rfl := List.mem_singleton.mp look
      exact ⟨next, nextStored, turn.sameFingerprint.trans turn.named, mine, mineStored,
        by rw [turn.pair, turn.sameId]; rfl⟩
  · rcases (turn.findings row).mp member with rfl | ⟨stored, different⟩
    · rw [turn.sameFingerprint]
      exact turn.counted tracked
    · have otherName : (lookAt scanId run observedAt entry).fingerprint ≠ row.fingerprint :=
        fun same => different (congrArg Finding.id
          (store.findings.eq_of_unique stored turn.stored (same.symm.trans turn.named.symm)))
      rw [observers_other otherName]
      exact tracked.counted row stored
  · rcases (turn.findings row).mp member with rfl | ⟨stored, different⟩
    · exact Or.inr (turn.shows_next tracked storedRun paired)
    · rcases tracked.shown row stored with fresh | ⟨latest, shows_⟩
      · have otherName : entry.1 ≠ row.fingerprint := fun same => different (congrArg Finding.id
          (store.findings.eq_of_unique stored turn.stored (same.symm.trans turn.named.symm)))
        refine Or.inl ⟨(List.mem_cons.mp fresh.listed).resolve_left otherName.symm,
          fun sight inside => ?_, fresh.scanId, fresh.lastSeenAt, fresh.lastSeenRun⟩
        rcases List.mem_append.mp inside with before | look
        · exact fresh.unseen sight before
        · obtain rfl := List.mem_singleton.mp look
          exact otherName
      · exact Or.inr ⟨latest, shows_other turn stored different shows_⟩

theorem Tracked.mono {wider : Finding → Prop} (tracked : Tracked store earlier waiting)
    (implied : ∀ finding, waiting finding → wider finding) : Tracked store earlier wider :=
  ⟨tracked.runs, tracked.recorded, tracked.observed, tracked.counted,
    fun finding member => (tracked.shown finding member).imp (implied finding) id⟩

end Tracking

section Calls

variable [UuidSource] {store after : Store} {earlier : List Sight} {scanId : String}
  {run : CollectionRun} {observedAt : Instant}

/-- A created finding waits for its look. -/
theorem tracked_ensureFinding {entry : String × CollectedFinding} {rest : List String}
    (listed : entry.1 ∈ rest)
    (tracked : Tracked store earlier (Waiting scanId run observedAt rest earlier))
    (accepted : ensureFinding scanId run observedAt store entry = .ok after) :
    Tracked after earlier (Waiting scanId run observedAt rest earlier) := by
  obtain ⟨change, observations, frame⟩ := ensureFinding_eq_ok accepted
  rcases change with rfl | ⟨findingId, inserted⟩
  · exact tracked
  obtain ⟨rows, -, freshName⟩ := Table.rows_of_insert inserted
  set created := newFinding findingId entry.1 scanId run entry.2 observedAt with created_def
  have unseen : ∀ sight ∈ earlier, sight.fingerprint ≠ entry.1 := by
    intro sight member named
    obtain ⟨owner, ownerStored, sameName, -⟩ := tracked.observed sight member
    exact freshName (List.mem_map.mpr ⟨owner, ownerStored, sameName.trans named⟩)
  have keeps {row : Finding} (stored : row ∈ store.findings.rows) : row ∈ after.findings.rows := by
    rw [rows]
    exact List.mem_append_left _ stored
  have waits : Waiting scanId run observedAt rest earlier created :=
    ⟨listed, unseen, rfl, rfl, rfl⟩
  refine ⟨?_, ?_, ?_, fun row member => ?_, fun row member => ?_⟩
  · rw [observations, frame.collectionRuns]
    exact tracked.runs
  · rw [observations]
    intro row member
    obtain ⟨owner, ownerStored, recorded⟩ := tracked.recorded row member
    exact ⟨owner, keeps ownerStored, recorded⟩
  · rw [observations]
    intro sight member
    obtain ⟨owner, ownerStored, observed⟩ := tracked.observed sight member
    exact ⟨owner, keeps ownerStored, observed⟩
  · rw [rows] at member
    rcases List.mem_append.mp member with stored | new
    · exact tracked.counted row stored
    · obtain rfl := List.mem_singleton.mp new
      have nobody : observers entry.1 earlier = [] := by
        refine List.eq_nil_iff_forall_not_mem.mpr fun runId inside => ?_
        obtain ⟨sight, looked, named, -⟩ := mem_observers.mp inside
        exact unseen sight looked named
      exact (congrArg List.length nobody).symm
  · rw [rows] at member
    rcases List.mem_append.mp member with stored | new
    · refine (tracked.shown row stored).imp id ?_
      rintro ⟨latest, shows_⟩
      refine ⟨latest, observations ▸ shows_.stored, shows_.own, ?_, shows_.lastSeenAt,
        shows_.lastSeenRun, shows_.snapshot⟩
      rw [observations]
      intro other inside sameOwner
      rw [rank_congr frame.collectionRuns, rank_congr frame.collectionRuns]
      exact shows_.greatest other inside sameOwner
    · obtain rfl := List.mem_singleton.mp new
      exact Or.inl waits

variable [SystemClock]

/-- The turns of all entries, one after the other. -/
theorem tracked_observeEntries {entries : List (String × CollectedFinding)} :
    ∀ {store : Store} {earlier : List Sight},
      Tracked store earlier (Waiting scanId run observedAt (entries.map Prod.fst) earlier) →
      store.collectionRuns.find? run.id = some run →
      (∀ sight ∈ earlier, sight.scanId = scanId ↔ sight.run.id = run.id) →
      entries.foldlM (observeEntry scanId run observedAt) store = .ok after →
      Tracked after (earlier ++ entries.map (lookAt scanId run observedAt)) fun _ => False := by
  induction entries with
  | nil =>
    intro store earlier tracked storedRun paired done
    cases done
    rw [List.map_nil, List.append_nil]
    exact tracked.mono fun finding waits => List.not_mem_nil waits.listed
  | cons entry rest inductionHypothesis =>
    intro store earlier tracked storedRun paired done
    rw [List.foldlM_cons, bind_eq_ok] at done
    obtain ⟨middle, step, later⟩ := done
    obtain ⟨finding, next, mine, turn⟩ := turn_of_observeEntry step
    rw [List.map_cons, List.append_cons]
    refine inductionHypothesis (tracked_turn turn tracked storedRun paired)
      (turn.runs ▸ storedRun) (fun sight member => ?_) later
    rcases List.mem_append.mp member with before | look
    · exact paired sight before
    · obtain rfl := List.mem_singleton.mp look
      exact iff_of_true rfl rfl

variable [CaseMapping] [Digest]

/-- A call keeps everything tracked and leaves nothing waiting. -/
theorem tracked_persistFindings {collected : List CollectedFinding} {count : ℕ}
    (tracked : Tracked store earlier fun _ => False)
    (storedRun : store.collectionRuns.find? run.id = some run)
    (paired : ∀ sight ∈ earlier, sight.scanId = scanId ↔ sight.run.id = run.id)
    (accepted : persistFindings store scanId run collected observedAt = .ok (count, after)) :
    Tracked after (earlier ++ Processing.sights ⟨scanId, run, collected, observedAt⟩)
      fun _ => False := by
  simp only [persistFindings, bind_eq_ok] at accepted
  obtain ⟨entries, byName, middle, ensured, last, observed, result⟩ := accepted
  cases result
  have looks : Processing.sights ⟨scanId, run, collected, observedAt⟩ =
      entries.map (lookAt scanId run observedAt) := by
    simp only [Processing.sights, byName]
    rfl
  have created : Tracked middle earlier
      (Waiting scanId run observedAt (entries.map Prod.fst) earlier) ∧
        middle.collectionRuns = store.collectionRuns := by
    refine foldlM_invariant (fun state : Store => Tracked state earlier
      (Waiting scanId run observedAt (entries.map Prod.fst) earlier) ∧
        state.collectionRuns = store.collectionRuns) ?_ ⟨tracked.mono fun _ => False.elim, rfl⟩ ensured
    intro entry member state next holds step
    exact ⟨tracked_ensureFinding (List.mem_map_of_mem member) holds.1 step,
      (ensureFinding_eq_ok step).2.2.collectionRuns.trans holds.2⟩
  rw [looks]
  exact tracked_observeEntries created.1 (created.2 ▸ storedRun) paired observed

end Calls

section Histories

variable [CaseMapping] [Digest]

/-- Every look of a history is of one of its calls. -/
theorem mem_sights {history : List Processing} {sight : Sight} (member : sight ∈ sights history) :
    ∃ call ∈ history, sight.scanId = call.scanId ∧ sight.run = call.run := by
  obtain ⟨call, inside, look⟩ := List.mem_flatMap.mp member
  refine ⟨call, inside, ?_⟩
  unfold Processing.sights at look
  cases byName : byFingerprint call.run call.collected with
  | error failure =>
    rw [byName] at look
    exact absurd look List.not_mem_nil
  | ok entries =>
    rw [byName] at look
    obtain ⟨entry, -, rfl⟩ := List.mem_map.mp look
    exact ⟨rfl, rfl⟩

omit [CaseMapping] [Digest] in
/-- Whatever keeps what was seen keeps everything tracked. -/
theorem Tracked.elsewhere {store after : Store} {earlier : List Sight}
    (tracked : Tracked store earlier fun _ => False) (keeps : KeepsSightings store after) :
    Tracked after earlier fun _ => False := by
  have started {row : OpportunityObservation} (member : row ∈ store.observations.rows) :
      startOf after row.collectionRunId = startOf store row.collectionRunId := by
    obtain ⟨run, found⟩ := tracked.runs row member
    obtain ⟨later, foundLater, same⟩ := keeps.started found
    rw [startOf_stored found, startOf_stored foundLater, same]
  have ranked {row : OpportunityObservation} (member : row ∈ store.observations.rows) :
      rank after row = rank store row := by
    unfold rank
    rw [started member]
  refine ⟨fun row member => ?_, fun row member => ?_, fun sight member => ?_,
    fun row member => ?_, fun row member => ?_⟩
  · obtain ⟨run, found⟩ := tracked.runs row ((keeps.observations row).mp member)
    obtain ⟨later, foundLater, -⟩ := keeps.started found
    exact ⟨later, foundLater⟩
  · obtain ⟨owner, stored, sameId, recorded⟩ :=
      tracked.recorded row ((keeps.observations row).mp member)
    obtain ⟨next, nextStored, same⟩ := keeps.kept owner stored
    exact ⟨next, nextStored, (id_of_sighting same).trans sameId,
      fingerprint_of_sighting same ▸ recorded⟩
  · obtain ⟨owner, stored, named, row, rowStored, pair⟩ := tracked.observed sight member
    obtain ⟨next, nextStored, same⟩ := keeps.kept owner stored
    exact ⟨next, nextStored, (fingerprint_of_sighting same).trans named, row,
      (keeps.observations row).mpr rowStored, id_of_sighting same ▸ pair⟩
  · obtain ⟨old, stored, same⟩ := keeps.origin row member
    rw [fingerprint_of_sighting same]
    exact (congrArg Sighting.totalOccurrenceCount same).trans (tracked.counted old stored)
  · obtain ⟨old, stored, same⟩ := keeps.origin row member
    rcases tracked.shown old stored with impossible | ⟨latest, shows_⟩
    · exact impossible.elim
    · refine Or.inr ⟨latest, (keeps.observations latest).mpr shows_.stored,
        shows_.own.trans (id_of_sighting same).symm, fun other member sameOwner => ?_,
        (congrArg Sighting.lastSeenAt same).trans shows_.lastSeenAt,
        (congrArg Sighting.lastSeenCollectionRunId same).trans shows_.lastSeenRun, ?_⟩
      · have otherStored := (keeps.observations other).mp member
        rw [ranked otherStored, ranked shows_.stored]
        exact shows_.greatest other otherStored (sameOwner.trans (id_of_sighting same))
      · have sameScan : row.scanId = old.scanId := congrArg Sighting.scanId same
        have sameSnapshot : findingSnapshot row = findingSnapshot old :=
          congrArg Sighting.snapshot same
        rw [fingerprint_of_sighting same, sameScan, sameSnapshot]
        exact shows_.snapshot

variable [UuidSource] [SystemClock] {history : List Processing} {store : Store}

/-- By induction on the calls. -/
theorem Reached.tracked (reached : Reached history store) :
    Tracked store (sights history) fun _ => False := by
  induction reached with
  | start noFindings noObservations =>
    refine ⟨?_, ?_, fun sight member => absurd member List.not_mem_nil, ?_, ?_⟩
    · rw [noObservations]
      exact fun row member => absurd member List.not_mem_nil
    · rw [noObservations]
      exact fun row member => absurd member List.not_mem_nil
    · rw [noFindings]
      exact fun row member => absurd member List.not_mem_nil
    · rw [noFindings]
      exact fun row member => absurd member List.not_mem_nil
  | processed reached stored paired accepted tracked =>
    have looks (earlier : List Processing) (call : Processing) :
        sights (earlier ++ [call]) = sights earlier ++ call.sights := by
      rw [sights, List.flatMap_append, List.flatMap_singleton]
      rfl
    rw [looks]
    refine tracked_persistFindings tracked stored (fun sight member => ?_) accepted
    obtain ⟨call, inside, sameScan, sameRun⟩ := mem_sights member
    rw [sameScan, sameRun]
    exact paired call inside
  | elsewhere reached keeps tracked => exact tracked.elsewhere keeps

/-- What a store tells of the runs that were processed: one finding for each fingerprint,
one observation for each run that looked at it, and the latest of them shown. -/
structure FollowsLatest (history : List Processing) (store : Store) : Prop where
  oneFinding : (store.findings.rows.map Finding.fingerprint).Nodup
  oneObservation : (store.observations.rows.map OpportunityObservation.pair).Nodup
  found : ∀ fingerprint, (∃ finding ∈ store.findings.rows, finding.fingerprint = fingerprint) ↔
    ∃ sight ∈ sights history, sight.fingerprint = fingerprint
  observed : ∀ finding ∈ store.findings.rows, ∀ runId,
    (∃ row ∈ store.observations.rows, row.pair = (finding.id, runId)) ↔
      runId ∈ observers finding.fingerprint (sights history)
  recorded : ∀ finding ∈ store.findings.rows, ∀ row ∈ store.observations.rows,
    row.opportunityId = finding.id → Recorded (sights history) finding.fingerprint row
  counted : ∀ finding ∈ store.findings.rows, finding.totalOccurrenceCount =
    (observers finding.fingerprint (sights history)).length
  shown : ∀ finding ∈ store.findings.rows, ∃ latest,
    Shows store (sights history) finding latest ∧
      (findingSnapshot finding).measured = observationMeasured latest

/-- However the runs were ordered and repeated, every finding follows its latest
observation. -/
theorem Reached.followsLatest (reached : Reached history store) : FollowsLatest history store := by
  have tracked := reached.tracked
  have recorded : ∀ finding ∈ store.findings.rows, ∀ row ∈ store.observations.rows,
      row.opportunityId = finding.id → Recorded (sights history) finding.fingerprint row := by
    intro finding stored row rowStored own
    obtain ⟨owner, ownerStored, sameId, recorded⟩ := tracked.recorded row rowStored
    obtain rfl := store.findings.eq_of_key ownerStored stored (sameId.trans own)
    exact recorded
  have shown : ∀ finding ∈ store.findings.rows, ∃ latest,
      Shows store (sights history) finding latest := fun finding stored =>
    (tracked.shown finding stored).resolve_left id
  refine ⟨store.findings.distinctUnique, store.observations.distinctUnique, fun fingerprint => ?_,
    fun finding stored runId => (tracked.mem_observers_iff stored runId).symm, recorded,
    tracked.counted, fun finding stored => ?_⟩
  · constructor
    · rintro ⟨finding, stored, rfl⟩
      obtain ⟨latest, shows_⟩ := shown finding stored
      have seen := (tracked.mem_observers_iff stored latest.collectionRunId).mpr
        ⟨latest, shows_.stored, Prod.ext shows_.own rfl⟩
      obtain ⟨sight, member, named, -⟩ := mem_observers.mp seen
      exact ⟨sight, member, named⟩
    · rintro ⟨sight, member, rfl⟩
      obtain ⟨finding, stored, named, -⟩ := tracked.observed sight member
      exact ⟨finding, stored, named⟩
  · obtain ⟨latest, shows_⟩ := shown finding stored
    refine ⟨latest, shows_, ?_⟩
    -- both are what the run saw last
    have measured := (recorded finding stored latest shows_.stored shows_.own).measured
    obtain ⟨sight, last, same⟩ := Option.map_eq_some_iff.mp shows_.snapshot
    rw [last, Option.map_some, Option.some.injEq] at measured
    have sameSnapshot : itemSnapshot sight.item = findingSnapshot finding :=
      congrArg Prod.snd same
    rw [← sameSnapshot, measured]

end Histories

section Sample

attribute [local instance] asciiCase plainDigest countingUuids countingClock

/-- A call that sees the idle instance under a title. -/
def sampleProcessing (scanId runId : String) (startedAt observedAt : Instant) (title : String) :
    Processing where
  scanId := scanId
  run := sampleRun runId startedAt
  collected := [{ sampleItem "EC2_IDLE" (some "us-east-1") with title := title }]
  observedAt := observedAt

/-- A newer look, an older one, and the newer one again under another title. -/
def sampleHistory : List Processing :=
  [sampleProcessing "scan-2" "run-2" 20 100 "Idle",
    sampleProcessing "scan-1" "run-1" 10 50 "Busy",
    sampleProcessing "scan-2" "run-2" 20 300 "Idle again"]

/-- The store that knows the two runs. -/
def twoRuns : Store :=
  { Store.empty with
    collectionRuns := ⟨[sampleRun "run-1" 10, sampleRun "run-2" 20], by decide, by decide⟩ }

/-- What a call leaves, or the store as it was. -/
def afterCall (store : Store) (call : Processing) : Store :=
  match persistFindings store call.scanId call.run call.collected call.observedAt with
  | .ok (_, after) => after
  | .error _ => store

theorem reached_afterCall {history : List Processing} {store : Store} (call : Processing)
    (reached : Reached history store)
    (stored : store.collectionRuns.find? call.run.id = some call.run)
    (paired : ∀ earlier ∈ history, earlier.scanId = call.scanId ↔ earlier.run.id = call.run.id)
    (accepted : (persistFindings store call.scanId call.run call.collected
      call.observedAt).isOk = true) : Reached (history ++ [call]) (afterCall store call) := by
  unfold afterCall
  cases result : persistFindings store call.scanId call.run call.collected call.observedAt with
  | error failure =>
    rw [result] at accepted
    cases accepted
  | ok outcome => exact Reached.processed reached stored paired result

/-- A call leaves the runs that are stored. -/
theorem collectionRuns_afterCall (store : Store) (call : Processing) :
    (afterCall store call).collectionRuns = store.collectionRuns := by
  unfold afterCall
  cases result : persistFindings store call.scanId call.run call.collected call.observedAt with
  | error failure => rfl
  | ok outcome => exact (persistFindings_eq_ok result).frame.collectionRuns

theorem sample_reached : Reached sampleHistory (sampleHistory.foldl afterCall twoRuns) := by
  have start : Reached [] twoRuns := Reached.start rfl rfl
  have first := reached_afterCall (sampleProcessing "scan-2" "run-2" 20 100 "Idle") start
    (by decide) (by decide) (by decide +kernel)
  have second := reached_afterCall (sampleProcessing "scan-1" "run-1" 10 50 "Busy") first
    (by rw [collectionRuns_afterCall]; decide) (by decide) (by decide +kernel)
  have third := reached_afterCall (sampleProcessing "scan-2" "run-2" 20 300 "Idle again") second
    (by rw [collectionRuns_afterCall, collectionRuns_afterCall]; decide) (by decide)
    (by decide +kernel)
  unfold sampleHistory
  rw [List.foldl_cons, List.foldl_cons, List.foldl_cons, List.foldl_nil]
  exact third

/-- The repeated run counts once and keeps its instant, and its title stands. -/
theorem sample_follows_latest :
    FollowsLatest sampleHistory (sampleHistory.foldl afterCall twoRuns) ∧
      (sampleHistory.foldl afterCall twoRuns).findings.rows.map (fun finding =>
        (finding.title, finding.lastSeenCollectionRunId, finding.lastSeenAt,
          finding.totalOccurrenceCount)) = [("Idle again", some "run-2", 100, 2)] :=
  ⟨sample_reached.followsLatest, by decide +kernel⟩

end Sample

end FinopsAnalytics.LatestObservations
