import FinopsAnalytics.Dictionaries
import FinopsAnalytics.OpportunityFingerprint
import FinopsAnalytics.OpportunityReconciliation

/-!
# Persisting the findings of a collection

Each collected item is identified by its fingerprint; the last item of a
fingerprint stands. Its finding is created on first sight and observed at most
once for each run. Only the latest observation moves the finding forward.
-/

namespace FinopsAnalytics.OpportunityCollection

open PythonText UniqueTables Dictionaries OpportunityRecords OpportunityArchiving
  OpportunityReconciliation OpportunityFingerprint Fallible

/-- An item that a collector found. -/
structure CollectedFinding where
  ruleKey : String
  service : String
  region : Option String
  resourceId : String
  resourceName : Option String
  resourceType : Option String
  providerMetadata : Metadata
  title : String
  description : String
  evidence : Metadata
  currentMonthlyCost : ℚ
  estimatedMonthlySavings : ℚ
  currency : String
  confidence : String
  severity : String
deriving DecidableEq, Repr

/-- The identity of an item for a run. -/
def CollectedFinding.identity (item : CollectedFinding) (run : CollectionRun) : Identity where
  provider := run.provider
  accountId := run.accountId
  region := item.region
  resourceId := item.resourceId
  ruleId := item.ruleKey
  scope := some item.service

/-- The finding of an item that is seen for the first time. -/
def newFinding (id fingerprint scanId : String) (run : CollectionRun) (item : CollectedFinding)
    (observedAt : Instant) : Finding where
  id := id
  fingerprint := fingerprint
  scanId := some scanId
  firstSeenCollectionRunId := some run.id
  lastSeenCollectionRunId := some run.id
  provider := run.provider
  accountId := run.accountId
  ruleKey := item.ruleKey
  service := item.service
  region := item.region
  resourceId := item.resourceId
  resourceName := item.resourceName
  resourceType := item.resourceType
  providerMetadata := item.providerMetadata
  title := item.title
  description := item.description
  evidence := item.evidence
  currentMonthlyCost := item.currentMonthlyCost
  estimatedMonthlySavings := item.estimatedMonthlySavings
  currency := item.currency
  confidence := item.confidence
  severity := item.severity
  status := .open_
  presenceStatus := .active
  missingCount := 0
  missingSinceAt := none
  resolvedExternallyAt := none
  presenceReconciledRunId := none
  presenceReconciledAt := none
  totalOccurrenceCount := 0
  firstSeenAt := observedAt
  lastSeenAt := observedAt
  treatedAt := none
  treatedBy := none
  treatmentNote := none
  rejectedAt := none
  rejectedBy := none
  rejectionReason := none
  rejectionNote := none
  needsReview := false
  archivedAt := none
  archivedBy := none
  archiveReason := none

/-- A run of one account, for evaluation at concrete inputs. -/
def sampleRun (id : String) (startedAt : Instant) : CollectionRun where
  id := id
  provider := "aws"
  accountId := "111122223333"
  startedAt := startedAt
  finishedAt := none
  status := .running
  detailedObservationsAvailable := true

/-- An item of a rule in a region, for evaluation at concrete inputs. -/
def sampleItem (ruleKey : String) (region : Option String) : CollectedFinding where
  ruleKey := ruleKey
  service := "ec2"
  region := region
  resourceId := "i-1"
  resourceName := none
  resourceType := none
  providerMetadata := []
  title := "Idle instance"
  description := "The instance is idle."
  evidence := []
  currentMonthlyCost := 20
  estimatedMonthlySavings := 10
  currency := "USD"
  confidence := "high"
  severity := "medium"

/-- The finding of that item in one region. -/
def sampleFinding : Finding :=
  newFinding "finding-1" "fingerprint-1" "scan-1" (sampleRun "run-1" 10)
    (sampleItem "EC2_IDLE" (some "us-east-1")) 10

/-- A success row of a run for the rule in a region. -/
def sampleScope (runId region : String) : CollectionScopeExecution where
  id := "scope-1"
  collectionRunId := runId
  provider := "aws"
  accountId := "111122223333"
  region := region
  service := none
  ruleKey := "EC2_IDLE"
  status := .success
  startedAt := 20
  finishedAt := 21
  resourcesExamined := none
  errorDetail := none

/-- `_refresh_finding_snapshot`. -/
def refreshFindingSnapshot (scanId : String) (item : CollectedFinding) (finding : Finding) :
    Finding :=
  { finding with
    scanId := some scanId
    resourceName := item.resourceName
    resourceType := item.resourceType
    providerMetadata := item.providerMetadata
    title := item.title
    description := item.description
    evidence := item.evidence
    currentMonthlyCost := item.currentMonthlyCost
    estimatedMonthlySavings := item.estimatedMonthlySavings
    currency := item.currency
    confidence := item.confidence
    severity := item.severity }

/-- The observation of an item. -/
def newObservation (id opportunityId : String) (run : CollectionRun) (item : CollectedFinding)
    (observedAt : Instant) : OpportunityObservation where
  id := id
  opportunityId := opportunityId
  collectionRunId := run.id
  observedAt := observedAt
  severity := item.severity
  currentMonthlyCost := item.currentMonthlyCost
  estimatedMonthlySavings := item.estimatedMonthlySavings
  currency := item.currency
  confidence := item.confidence
  providerMetadata := item.providerMetadata
  evidence := item.evidence

/-- `_refresh_observation`. The instant of the observation stays. -/
def refreshObservation (item : CollectedFinding) (observation : OpportunityObservation) :
    OpportunityObservation :=
  { observation with
    severity := item.severity
    currentMonthlyCost := item.currentMonthlyCost
    estimatedMonthlySavings := item.estimatedMonthlySavings
    currency := item.currency
    confidence := item.confidence
    providerMetadata := item.providerMetadata
    evidence := item.evidence }

/-- One more occurrence; the first one names its run. -/
def countOccurrence (run : CollectionRun) (finding : Finding) : Finding :=
  { finding with
    totalOccurrenceCount := finding.totalOccurrenceCount + 1
    firstSeenCollectionRunId :=
      if finding.firstSeenCollectionRunId = none ∧ finding.totalOccurrenceCount = 0 then
        some run.id
      else finding.firstSeenCollectionRunId }

/-- The observation is the last thing seen of a finding. -/
def markSeen (run : CollectionRun) (observedAt : Instant) (finding : Finding) : Finding :=
  { finding with lastSeenAt := observedAt, lastSeenCollectionRunId := some run.id }

/-- A treated finding that is seen after its treatment needs a review. -/
def reviewAfterTreatment (observedAt : Instant) (finding : Finding) : Finding :=
  match finding.treatedAt with
  | some treatedAt =>
    if finding.status = .treated ∧ treatedAt < observedAt then
      { finding with needsReview := true }
    else finding
  | none => finding

/-- `_is_latest_observation`. Observations of one instant are ordered by the start
of their runs, then by identifier. -/
def isLatestObservation (store : Store) (finding : Finding) (observation : OpportunityObservation)
    (run : CollectionRun) : Bool :=
  if finding.lastSeenAt < observation.observedAt then true
  else if observation.observedAt < finding.lastSeenAt then false
  else
    match finding.lastSeenCollectionRunId with
    | none => true
    | some previousRunId =>
      if previousRunId = run.id then true
      else
        match store.collectionRuns.find? previousRunId with
        | none => true
        | some previousRun =>
          let previousId :=
            match store.observations.findUnique? (finding.id, previousRun.id) with
            | some previous => previous.id
            | none => ""
          previousRun.startedAt < run.startedAt ||
            (previousRun.startedAt = run.startedAt && previousId ≤ observation.id)

section Persisting

variable [CaseMapping] [Digest] [UuidSource] [SystemClock]

/-- The items by fingerprint, the last one standing. -/
def byFingerprint (run : CollectionRun) (collected : List CollectedFinding) :
    Except ServiceError (List (String × CollectedFinding)) :=
  collected.foldlM (fun entries item => do
    let fingerprint ← buildOpportunityFingerprint (item.identity run)
    return setKey fingerprint item entries) []

/-- `_create_finding_race_safe`. -/
def createFindingRaceSafe (store : Store) (fingerprint scanId : String) (run : CollectionRun)
    (item : CollectedFinding) (observedAt : Instant) : Except ServiceError Store :=
  let (id, store) := store.draw
  match store.findings.insert (newFinding id fingerprint scanId run item observedAt) with
  | some findings => .ok { store with findings }
  | none =>
    match store.findings.findUnique? fingerprint with
    | some _ => .ok store
    | none => .error .integrity

/-- Create the finding of an entry unless it exists. -/
def ensureFinding (scanId : String) (run : CollectionRun) (observedAt : Instant) (store : Store)
    (entry : String × CollectedFinding) : Except ServiceError Store :=
  match store.findings.findUnique? entry.1 with
  | some _ => .ok store
  | none => createFindingRaceSafe store entry.1 scanId run entry.2 observedAt

/-- `_create_observation_race_safe`. -/
def createObservationRaceSafe (store : Store) (finding : Finding) (run : CollectionRun)
    (item : CollectedFinding) (observedAt : Instant) :
    Except ServiceError (OpportunityObservation × Bool × Store) :=
  let (id, store) := store.draw
  let candidate := newObservation id finding.id run item observedAt
  match store.observations.insert candidate with
  | some observations => .ok (candidate, true, { store with observations })
  | none =>
    match store.observations.findUnique? (finding.id, run.id) with
    | some existing => .ok (existing, false, store)
    | none => .error .integrity

/-- The observation of the run, created if it is missing, refreshed from the item. -/
def recordObservation (store : Store) (finding : Finding) (run : CollectionRun)
    (item : CollectedFinding) (observedAt : Instant) :
    Except ServiceError (OpportunityObservation × Bool × Store) := do
  let (observation, created, store) ←
    match store.observations.findUnique? (finding.id, run.id) with
    | some existing => pure (existing, false, store)
    | none => createObservationRaceSafe store finding run item observedAt
  let observation := refreshObservation item observation
  return (observation, created,
    { store with observations := store.observations.put observation })

/-- The snapshot columns of a finding after an observation. -/
def snapshotted (scanId : String) (run : CollectionRun) (item : CollectedFinding)
    (created latest : Bool) (finding : Finding) : Finding :=
  let finding := if created then countOccurrence run finding else finding
  if finding.scanId = some scanId ∨ latest = true then refreshFindingSnapshot scanId item finding
  else finding

/-- The pass of the loop over one entry. -/
def observeEntry (scanId : String) (run : CollectionRun) (observedAt : Instant) (store : Store)
    (entry : String × CollectedFinding) : Except ServiceError Store :=
  match store.findings.findUnique? entry.1 with
  | none => .error (.runtime entry.1)
  | some finding => do
    let (observation, created, store) ← recordObservation store finding run entry.2 observedAt
    let latest := created && isLatestObservation store finding observation run
    let finding := snapshotted scanId run entry.2 created latest finding
    if latest then
      let finding := markSeen run observation.observedAt finding
      let (_, finding, store) ←
        reactivatePresenceFromObservation (store.putFinding finding) finding run
      return store.putFinding (reviewAfterTreatment observation.observedAt finding)
    else return store.putFinding finding

/-- `persist_findings`: the number of distinct fingerprints. -/
def persistFindings (store : Store) (scanId : String) (run : CollectionRun)
    (collected : List CollectedFinding) (observedAt : Instant) :
    Except ServiceError (ℕ × Store) := do
  let entries ← byFingerprint run collected
  let store ← entries.foldlM (ensureFinding scanId run observedAt) store
  let store ← entries.foldlM (observeEntry scanId run observedAt) store
  return (entries.length, store)

end Persisting

/-- The presence columns after an observation by a run. -/
def observedPresence (run : CollectionRun) : TechnicalPresence where
  status := .active
  missingCount := 0
  missingSinceAt := none
  resolvedExternallyAt := none
  reconciledRunId := some run.id
  reconciledAt := some run.startedAt

/-- What observations by a run can do to a finding. -/
structure Observed (run : CollectionRun) (before after : Finding) : Prop where
  subject : after.subject = before.subject
  decision : after.decision = before.decision
  presence : after.presence = before.presence ∨
    startedBeforeReconciliation run before = false ∧ after.presence = observedPresence run
  review : before.status = .rejected → before.needsReview = false → after.needsReview = false
  archiveState : before.status = .rejected → after.archiveState = before.archiveState

theorem startedBeforeReconciliation_congr {run : CollectionRun} {first second : Finding}
    (same : first.presence = second.presence) :
    startedBeforeReconciliation run first = startedBeforeReconciliation run second := by
  have instant : first.presenceReconciledAt = second.presenceReconciledAt :=
    congrArg TechnicalPresence.reconciledAt same
  simp only [startedBeforeReconciliation, instant]

namespace Observed

variable {run : CollectionRun} {first second third : Finding}

theorem refl (finding : Finding) : Observed run finding finding :=
  ⟨rfl, rfl, Or.inl rfl, fun _ => id, fun _ => rfl⟩

theorem trans (before : Observed run first second) (after : Observed run second third) :
    Observed run first third := by
  have status : first.status = second.status :=
    (Finding.status_of_decision before.decision).symm
  refine ⟨after.subject.trans before.subject, after.decision.trans before.decision, ?_,
    fun rejected clear => after.review (status ▸ rejected) (before.review rejected clear),
    fun rejected => (after.archiveState (status ▸ rejected)).trans (before.archiveState rejected)⟩
  rcases before.presence with kept | ⟨recent, observed⟩
  · rcases after.presence with kept' | ⟨recent, observed⟩
    · exact Or.inl (kept'.trans kept)
    · exact Or.inr ⟨by rwa [startedBeforeReconciliation_congr kept] at recent, observed⟩
  · refine Or.inr ⟨recent, ?_⟩
    rcases after.presence with kept | ⟨-, observed'⟩
    · exact kept.trans observed
    · exact observed'

/-- Changes outside these columns. -/
theorem of_columns (subject : second.subject = first.subject)
    (decision : second.decision = first.decision) (presence : second.presence = first.presence)
    (review : second.needsReview = first.needsReview)
    (archiveState : second.archiveState = first.archiveState) : Observed run first second :=
  ⟨subject, decision, Or.inl presence, fun _ clear => review.trans clear, fun _ => archiveState⟩

end Observed

theorem observed_snapshotted (run : CollectionRun) (scanId : String) (item : CollectedFinding)
    (created latest : Bool) (finding : Finding) :
    Observed run finding (snapshotted scanId run item created latest finding) := by
  have counted : Observed run finding
      (if created = true then countOccurrence run finding else finding) := by
    split_ifs
    · exact Observed.of_columns rfl rfl rfl rfl rfl
    · exact Observed.refl finding
  refine counted.trans ?_
  unfold snapshotted
  dsimp only
  generalize (if created = true then countOccurrence run finding else finding) = current
  split_ifs
  · exact Observed.of_columns rfl rfl rfl rfl rfl
  · exact Observed.refl current

theorem snapshotted_presence (run : CollectionRun) (scanId : String) (item : CollectedFinding)
    (created latest : Bool) (finding : Finding) :
    (snapshotted scanId run item created latest finding).presence = finding.presence := by
  cases created <;> simp only [snapshotted] <;> split_ifs <;> rfl

theorem reviewAfterTreatment_presence (observedAt : Instant) (finding : Finding) :
    (reviewAfterTreatment observedAt finding).presence = finding.presence := by
  unfold reviewAfterTreatment
  split
  · split_ifs <;> rfl
  · rfl

theorem observed_markSeen (run : CollectionRun) (observedAt : Instant) (finding : Finding) :
    Observed run finding (markSeen run observedAt finding) :=
  Observed.of_columns rfl rfl rfl rfl rfl

theorem observed_reobserved {run : CollectionRun} {finding : Finding}
    (recent : startedBeforeReconciliation run finding = false) :
    Observed run finding (reobserved run finding) := by
  refine ⟨reobserved_subject run finding, reobserved_decision run finding,
    Or.inr ⟨recent, reobserved_presence run finding⟩, fun rejected _ => ?_, fun rejected => ?_⟩
  · rw [reobserved_rejected rejected]
    rfl
  · rw [reobserved_rejected rejected]
    rfl

/-- Only a treated finding is marked for review. -/
theorem observed_reviewAfterTreatment (run : CollectionRun) (observedAt : Instant)
    (finding : Finding) : Observed run finding (reviewAfterTreatment observedAt finding) := by
  unfold reviewAfterTreatment
  split
  · split_ifs with treated
    · exact ⟨rfl, rfl, Or.inl rfl, fun rejected => by simp [rejected] at treated, fun _ => rfl⟩
    · exact Observed.refl finding
  · exact Observed.refl finding

/-- The rows that a collection leaves alone, and counters that only grow. -/
structure CollectionFrame (before after : Store) : Prop where
  collectionRuns : after.collectionRuns = before.collectionRuns
  scopeExecutions : after.scopeExecutions = before.scopeExecutions
  statusHistory : after.statusHistory = before.statusHistory
  ledgerEntries : after.ledgerEntries = before.ledgerEntries
  cloudAccounts : after.cloudAccounts = before.cloudAccounts
  drawn : before.drawn ≤ after.drawn
  clockReads : before.clockReads ≤ after.clockReads

theorem CollectionFrame.refl (store : Store) : CollectionFrame store store :=
  ⟨rfl, rfl, rfl, rfl, rfl, le_rfl, le_rfl⟩

theorem CollectionFrame.trans {first second third : Store} (before : CollectionFrame first second)
    (after : CollectionFrame second third) : CollectionFrame first third :=
  ⟨after.collectionRuns.trans before.collectionRuns,
    after.scopeExecutions.trans before.scopeExecutions,
    after.statusHistory.trans before.statusHistory,
    after.ledgerEntries.trans before.ledgerEntries,
    after.cloudAccounts.trans before.cloudAccounts, before.drawn.trans after.drawn,
    before.clockReads.trans after.clockReads⟩

/-- The columns of an observation that a refresh keeps. -/
def SameObservation (before after : OpportunityObservation) : Prop :=
  after.id = before.id ∧ after.pair = before.pair ∧ after.observedAt = before.observedAt

theorem SameObservation.refl (row : OpportunityObservation) : SameObservation row row :=
  ⟨rfl, rfl, rfl⟩

theorem SameObservation.trans {first second third : OpportunityObservation}
    (before : SameObservation first second) (after : SameObservation second third) :
    SameObservation first third :=
  ⟨after.1.trans before.1, after.2.1.trans before.2.1, after.2.2.trans before.2.2⟩

section Spec

variable [UuidSource]

/-- An observation by a run at an instant, with an identifier drawn in a range. -/
def DrawnObservation (run : CollectionRun) (observedAt : Instant) (low high : ℕ)
    (row : OpportunityObservation) : Prop :=
  row.collectionRunId = run.id ∧ row.observedAt = observedAt ∧
    ∃ position, low ≤ position ∧ position < high ∧ row.id = UuidSource.uuid4 position

variable {run : CollectionRun} {observedAt : Instant}

theorem DrawnObservation.same {low high : ℕ} {first second : OpportunityObservation}
    (same : SameObservation first second) (drawn : DrawnObservation run observedAt low high first) :
    DrawnObservation run observedAt low high second := by
  obtain ⟨sameId, samePair, sameInstant⟩ := same
  obtain ⟨ofRun, atInstant, position, above, below, id⟩ := drawn
  exact ⟨(congrArg Prod.snd samePair).trans ofRun, sameInstant.trans atInstant, position, above,
    below, sameId.trans id⟩

theorem DrawnObservation.wider {low high lower higher : ℕ} (below : lower ≤ low)
    (above : high ≤ higher) {row : OpportunityObservation}
    (drawn : DrawnObservation run observedAt low high row) :
    DrawnObservation run observedAt lower higher row := by
  obtain ⟨ofRun, atInstant, position, first, last, id⟩ := drawn
  exact ⟨ofRun, atInstant, position, by omega, by omega, id⟩

/-- Observations are refreshed, and added by one run at one instant. -/
abbrev ObservationsGrow (run : CollectionRun) (observedAt : Instant) (before after : Store) :
    Prop :=
  Table.Evolves SameObservation
    (DrawnObservation run observedAt before.drawn after.drawn) before.observations
    after.observations

/-- What recording an observation does: the finding has an observation of the run
afterwards, and it is new exactly when there was none. -/
theorem recordObservation_eq_ok {store after : Store} {finding : Finding} {item : CollectedFinding}
    {observation : OpportunityObservation} {created : Bool}
    (recorded : recordObservation store finding run item observedAt =
      .ok (observation, created, after)) :
    observation.pair = (finding.id, run.id) ∧
      (created = true → observation.observedAt = observedAt) ∧
      (created = false → store.observations.findUnique? (finding.id, run.id) ≠ none) ∧
      (∀ row ∈ after.observations.rows, row ∈ store.observations.rows ∨
        row.pair = (finding.id, run.id)) ∧
      ObservationsGrow run observedAt store after ∧ store.drawn ≤ after.drawn ∧
      ∃ observations drawn, after = { store with observations, drawn } := by
  simp only [recordObservation] at recorded
  cases found : store.observations.findUnique? (finding.id, run.id) with
  | some existing =>
    rw [found] at recorded
    cases recorded
    obtain ⟨member, pair⟩ := Table.findUnique?_eq_some.mp found
    exact ⟨pair, fun impossible => by simp at impossible, fun _ => by simp,
      Table.forall_put (fun _ => Or.inl) (Or.inr pair),
      Table.Evolves.put SameObservation.refl _ member rfl ⟨rfl, rfl, rfl⟩, le_rfl, _, _, rfl⟩
  | none =>
    rw [found] at recorded
    simp only [createObservationRaceSafe, Store.draw, bind_eq_ok] at recorded
    obtain ⟨⟨candidate, flag, middle⟩, createdCandidate, result⟩ := recorded
    cases inserted : store.observations.insert (newObservation (UuidSource.uuid4 store.drawn)
        finding.id run item observedAt) with
    | none =>
      rw [inserted, found] at createdCandidate
      cases createdCandidate
    | some observations =>
      rw [inserted] at createdCandidate
      cases createdCandidate
      cases result
      refine ⟨rfl, fun _ => rfl, fun impossible => by simp at impossible,
        Table.forall_put (Table.forall_insert inserted (fun _ => Or.inl) (Or.inr rfl))
          (Or.inr rfl), ?_, Nat.le_succ _, _, _, rfl⟩
      have added : Table.Evolves SameObservation
          (DrawnObservation run observedAt store.drawn (store.drawn + 1)) store.observations
          observations :=
        Table.Evolves.insert SameObservation.refl inserted
          ⟨rfl, rfl, store.drawn, le_rfl, Nat.lt_succ_self _, rfl⟩
      refine added.trans SameObservation.trans DrawnObservation.same ?_
      refine Table.Evolves.put SameObservation.refl _ ?_ rfl ⟨rfl, rfl, rfl⟩
      rw [(Table.rows_of_insert inserted).1]
      exact List.mem_append_right _ (List.mem_singleton.mpr rfl)

variable [SystemClock]

/-- The pass over one entry replaces its finding by an observed version. A new
observation that is the latest, by a run that is not too old, makes it present. -/
theorem observeEntry_eq_ok {store after : Store} {scanId : String} {run : CollectionRun}
    {observedAt : Instant} {entry : String × CollectedFinding}
    (accepted : observeEntry scanId run observedAt store entry = .ok after) :
    ∃ finding next, store.findings.findUnique? entry.1 = some finding ∧
      Observed run finding next ∧
      (store.observations.findUnique? (finding.id, run.id) = none →
        finding.lastSeenAt < observedAt → startedBeforeReconciliation run finding = false →
        next.presence = observedPresence run) ∧
      (∀ row ∈ after.observations.rows, row ∈ store.observations.rows ∨
        row.pair = (finding.id, run.id)) ∧
      after.findings = store.findings.put next ∧ ObservationsGrow run observedAt store after ∧
      CollectionFrame store after := by
  unfold observeEntry at accepted
  cases found : store.findings.findUnique? entry.1 with
  | none =>
    rw [found] at accepted
    cases accepted
  | some finding =>
    rw [found] at accepted
    simp only [bind_eq_ok] at accepted
    obtain ⟨⟨observation, created, recordedStore⟩, recorded, continued⟩ := accepted
    obtain ⟨pair, instant, existing, others, grown, drawn, observations, drawnAfter, rfl⟩ :=
      recordObservation_eq_ok recorded
    dsimp only at continued
    set latest := created && isLatestObservation { store with observations, drawn := drawnAfter }
      finding observation run with latest_def
    have taken := observed_snapshotted run scanId entry.2 created latest finding
    set snapshot := snapshotted scanId run entry.2 created latest finding
    split at continued
    · rename_i isLatest
      simp only [bind_eq_ok] at continued
      obtain ⟨⟨changed, next, last⟩, reactivation, result⟩ := continued
      cases result
      have seen := taken.trans (observed_markSeen run observation.observedAt snapshot)
      set marked := markSeen run observation.observedAt snapshot
      have marked_presence : marked.presence = finding.presence :=
        snapshotted_presence run scanId entry.2 created latest finding
      rcases reactivatePresenceFromObservation_eq_ok reactivation with
        ⟨older, rfl, rfl⟩ | ⟨recent, rfl, presenceHistory, archiveHistory, clockReads, later, rfl⟩
      · have reviewed := seen.trans (observed_reviewAfterTreatment run observation.observedAt marked)
        refine ⟨finding, _, rfl, reviewed, fun _ _ recent => ?_, others, ?_, grown, ?_⟩
        · rw [startedBeforeReconciliation_congr marked_presence, recent] at older
          cases older
        · exact Table.put_put _ (Finding.id_of_subject (seen.subject.trans reviewed.subject.symm))
            (Finding.fingerprint_of_subject (seen.subject.trans reviewed.subject.symm))
        · exact ⟨rfl, rfl, rfl, rfl, rfl, drawn, le_rfl⟩
      · have again := seen.trans (observed_reobserved recent)
        have reviewed := again.trans
          (observed_reviewAfterTreatment run observation.observedAt (reobserved run marked))
        refine ⟨finding, _, rfl, reviewed, fun _ _ _ => ?_, others, ?_, grown, ?_⟩
        · rw [reviewAfterTreatment_presence, reobserved_presence]
          rfl
        · have first := Table.put_put store.findings
            (Finding.id_of_subject (seen.subject.trans again.subject.symm))
            (Finding.fingerprint_of_subject (seen.subject.trans again.subject.symm))
          have second := Table.put_put store.findings
            (Finding.id_of_subject (again.subject.trans reviewed.subject.symm))
            (Finding.fingerprint_of_subject (again.subject.trans reviewed.subject.symm))
          exact (congrArg (Table.put · _) first).trans second
        · exact ⟨rfl, rfl, rfl, rfl, rfl, drawn, later⟩
    · rename_i notLatest
      cases continued
      refine ⟨finding, snapshot, rfl, taken, fun fresh later recent => ?_, others, rfl,
        grown, ?_⟩
      · -- a new observation later than the last one is the latest
        have isNew : created = true := by
          cases created with
          | true => rfl
          | false => exact absurd fresh (existing rfl)
        have laterSeen : finding.lastSeenAt < observation.observedAt := instant isNew ▸ later
        exact absurd (by simp [latest_def, isNew, isLatestObservation, laterSeen]) notLatest
      · exact ⟨rfl, rfl, rfl, rfl, rfl, drawn, le_rfl⟩

/-- What a generic finding is identified by. -/
def identityOf (finding : Finding) : Identity where
  provider := finding.provider
  accountId := finding.accountId
  region := finding.region
  resourceId := finding.resourceId
  ruleId := finding.ruleKey
  scope := some finding.service

variable [CaseMapping] [Digest]

/-- A finding that a collection created: present, without counted absences, and
identified by its fingerprint. -/
structure Discovered (collected : List CollectedFinding) (finding : Finding) : Prop where
  collectedAs : ∃ item ∈ collected, item.ruleKey = finding.ruleKey
  active : finding.presence.status = .active
  uncounted : finding.presence.missingCount = 0
  notMissing : finding.presence.missingSinceAt = none
  notResolved : finding.presence.resolvedExternallyAt = none
  identified : buildOpportunityFingerprint (identityOf finding) = .ok finding.fingerprint

omit [UuidSource] [SystemClock] [CaseMapping] [Digest] in
theorem identityOf_congr {first second : Finding} (same : first.subject = second.subject) :
    identityOf first = identityOf second := by
  simp only [Finding.subject, Subject.mk.injEq] at same
  obtain ⟨-, -, provider, account, rule, service, region, resource⟩ := same
  simp only [identityOf, provider, account, rule, service, region, resource]

variable {run : CollectionRun} {collected : List CollectedFinding}
  {entries : List (String × CollectedFinding)} {store after : Store} {scanId : String}
  {observedAt : Instant} {entry : String × CollectedFinding} {first second third : Store}
  {count : ℕ} {item : CollectedFinding} {finding : Finding}

omit [UuidSource] [SystemClock] in
theorem Discovered.observed {first second : Finding} (observed : Observed run first second)
    (discovered : Discovered collected first) : Discovered collected second := by
  have sameRule : second.ruleKey = first.ruleKey := congrArg Subject.ruleKey observed.subject
  have rule : ∃ item ∈ collected, item.ruleKey = second.ruleKey :=
    sameRule ▸ discovered.collectedAs
  have identified : buildOpportunityFingerprint (identityOf second) = .ok second.fingerprint := by
    rw [identityOf_congr observed.subject, Finding.fingerprint_of_subject observed.subject]
    exact discovered.identified
  rcases observed.presence with kept | ⟨-, again⟩
  · exact ⟨rule, kept ▸ discovered.active, kept ▸ discovered.uncounted, kept ▸ discovered.notMissing,
      kept ▸ discovered.notResolved, identified⟩
  · exact ⟨rule, again ▸ rfl, again ▸ rfl, again ▸ rfl, again ▸ rfl, identified⟩

omit [UuidSource] [SystemClock] in
/-- The entries have distinct fingerprints, each that of its item. -/
theorem byFingerprint_eq_ok (accepted : byFingerprint run collected = .ok entries) :
    (entries.map Prod.fst).Nodup ∧ ∀ entry ∈ entries, entry.2 ∈ collected ∧
      buildOpportunityFingerprint (entry.2.identity run) = .ok entry.1 := by
  refine foldlM_invariant (fun entries => (entries.map Prod.fst).Nodup ∧
    ∀ entry ∈ entries, entry.2 ∈ collected ∧
      buildOpportunityFingerprint (entry.2.identity run) = .ok entry.1) ?_
    ⟨List.nodup_nil, fun _ member => absurd member List.not_mem_nil⟩ accepted
  intro item listed entries next holds step
  simp only [bind_eq_ok] at step
  obtain ⟨fingerprint, built, result⟩ := step
  cases result
  refine ⟨setKey_nodup holds.1, fun entry member => ?_⟩
  rcases mem_setKey member with rfl | old
  · exact ⟨listed, built⟩
  · exact holds.2 entry old

omit [SystemClock] [CaseMapping] [Digest] in
/-- An entry's finding is created when it is missing; nothing else changes. -/
theorem ensureFinding_eq_ok (accepted : ensureFinding scanId run observedAt store entry = .ok after) :
    (after = store ∨ ∃ id, store.findings.insert
      (newFinding id entry.1 scanId run entry.2 observedAt) = some after.findings) ∧
      after.observations = store.observations ∧ CollectionFrame store after := by
  unfold ensureFinding at accepted
  split at accepted
  · cases accepted
    exact ⟨Or.inl rfl, rfl, CollectionFrame.refl store⟩
  · rename_i missing
    simp only [createFindingRaceSafe, Store.draw] at accepted
    split at accepted
    · rename_i findings inserted
      cases accepted
      exact ⟨Or.inr ⟨_, inserted⟩, rfl, rfl, rfl, rfl, rfl, rfl, Nat.le_succ _, le_rfl⟩
    · rw [missing] at accepted
      cases accepted

/-- Findings are carried by observation, and discovered when they are new. -/
abbrev FindingsObserved (run : CollectionRun) (collected : List CollectedFinding)
    (before after : Store) : Prop :=
  Table.Evolves (Observed run) (Discovered collected) before.findings after.findings

omit [UuidSource] [SystemClock] in
theorem FindingsObserved.trans (before : FindingsObserved run collected first second)
    (after : FindingsObserved run collected second third) :
    FindingsObserved run collected first third :=
  Table.Evolves.trans Observed.trans Discovered.observed before after

omit [CaseMapping] [Digest] [SystemClock] in
theorem ObservationsGrow.trans (drawnFirst : first.drawn ≤ second.drawn)
    (drawnSecond : second.drawn ≤ third.drawn)
    (before : ObservationsGrow run observedAt first second)
    (after : ObservationsGrow run observedAt second third) :
    ObservationsGrow run observedAt first third :=
  Table.Evolves.trans SameObservation.trans DrawnObservation.same
    (Table.Evolves.mono before fun _ => DrawnObservation.wider le_rfl drawnSecond)
    (Table.Evolves.mono after fun _ => DrawnObservation.wider drawnFirst le_rfl)

/-- What persisting the findings of a run can do. -/
structure Persisted (run : CollectionRun) (collected : List CollectedFinding)
    (observedAt : Instant) (before after : Store) : Prop where
  findings : FindingsObserved run collected before after
  observations : ObservationsGrow run observedAt before after
  frame : CollectionFrame before after

omit [SystemClock] in
theorem Persisted.refl (run : CollectionRun) (collected : List CollectedFinding)
    (observedAt : Instant) (store : Store) : Persisted run collected observedAt store store :=
  ⟨Table.Evolves.refl Observed.refl _, Table.Evolves.refl SameObservation.refl _,
    CollectionFrame.refl store⟩

omit [SystemClock] in
theorem Persisted.trans (before : Persisted run collected observedAt first second)
    (after : Persisted run collected observedAt second third) :
    Persisted run collected observedAt first third :=
  ⟨FindingsObserved.trans before.findings after.findings,
    ObservationsGrow.trans before.frame.drawn after.frame.drawn before.observations
      after.observations, before.frame.trans after.frame⟩

omit [SystemClock] in
theorem persisted_ensureFinding (listed : entry.2 ∈ collected)
    (built : buildOpportunityFingerprint (entry.2.identity run) = .ok entry.1)
    (accepted : ensureFinding scanId run observedAt store entry = .ok after) :
    Persisted run collected observedAt store after := by
  obtain ⟨change, observations, frame⟩ := ensureFinding_eq_ok accepted
  refine ⟨?_, ?_, frame⟩
  · rcases change with rfl | ⟨id, inserted⟩
    · exact Table.Evolves.refl Observed.refl _
    · exact Table.Evolves.insert Observed.refl inserted
        ⟨⟨entry.2, listed, rfl⟩, rfl, rfl, rfl, rfl, built⟩
  · unfold ObservationsGrow
    rw [observations]
    exact Table.Evolves.refl SameObservation.refl _

theorem persisted_observeEntry (collected : List CollectedFinding)
    (accepted : observeEntry scanId run observedAt store entry = .ok after) :
    Persisted run collected observedAt store after := by
  obtain ⟨finding, next, found, observed, -, -, put, observations, frame⟩ :=
    observeEntry_eq_ok accepted
  refine ⟨?_, observations, frame⟩
  unfold FindingsObserved
  rw [put]
  exact Table.Evolves.put Observed.refl _ (Table.findUnique?_eq_some.mp found).1
    (Finding.id_of_subject observed.subject).symm observed

/-- The step facts carried over both loops. -/
theorem persistFindings_eq_ok
    (accepted : persistFindings store scanId run collected observedAt = .ok (count, after)) :
    Persisted run collected observedAt store after := by
  simp only [persistFindings, bind_eq_ok] at accepted
  obtain ⟨entries, collectedOk, middle, ensured, last, observed, result⟩ := accepted
  cases result
  have first : Persisted run collected observedAt store middle := by
    refine foldlM_invariant _ (fun entry member state next holds step => holds.trans ?_)
      (Persisted.refl run collected observedAt store) ensured
    obtain ⟨listed, built⟩ := (byFingerprint_eq_ok collectedOk).2 entry member
    exact persisted_ensureFinding listed built step
  exact foldlM_invariant _ (fun entry _ state next holds step => holds.trans
    (persisted_observeEntry collected step)) first observed

omit [UuidSource] [SystemClock] in
/-- Every collected item has an entry under its fingerprint. -/
theorem mem_byFingerprint (accepted : byFingerprint run collected = .ok entries)
    (member : item ∈ collected) {fingerprint : String}
    (built : buildOpportunityFingerprint (item.identity run) = .ok fingerprint) :
    fingerprint ∈ entries.map Prod.fst := by
  have loop := foldlM_rest (fun rest entries => item ∈ rest ∨
    fingerprint ∈ entries.map Prod.fst) ?_ (Or.inl member) accepted
  · exact loop.resolve_left List.not_mem_nil
  · intro first rest entries next holds step
    simp only [bind_eq_ok] at step
    obtain ⟨key, keyBuilt, result⟩ := step
    cases result
    rcases holds with waiting | done
    · rcases List.mem_cons.mp waiting with rfl | later
      · obtain rfl := Except.ok.inj (keyBuilt.symm.trans built)
        exact Or.inr (mem_keys_setKey.mpr (Or.inl rfl))
      · exact Or.inl later
    · exact Or.inr (mem_keys_setKey.mpr (Or.inr done))

/-- A finding waits for its entry without an observation of the run, or has been
made present. -/
def AwaitsObservation (run : CollectionRun) (finding : Finding)
    (rest : List (String × CollectedFinding)) (state : Store) : Prop :=
  (finding.fingerprint ∈ rest.map Prod.fst ∧ finding ∈ state.findings.rows ∧
      state.observations.findUnique? (finding.id, run.id) = none) ∨
    (finding.fingerprint ∉ rest.map Prod.fst ∧ ∃ next ∈ state.findings.rows,
      next.subject = finding.subject ∧ next.presence = observedPresence run)

omit [CaseMapping] [Digest] in
theorem awaitsObservation_step {rest : List (String × CollectedFinding)} {state next : Store}
    (later : finding.lastSeenAt < observedAt)
    (recent : startedBeforeReconciliation run finding = false)
    (distinct : entry.1 ∉ rest.map Prod.fst)
    (holds : AwaitsObservation run finding (entry :: rest) state)
    (step : observeEntry scanId run observedAt state entry = .ok next) :
    AwaitsObservation run finding rest next := by
  obtain ⟨stored, observed, found, change, present, others, put, -, -⟩ :=
    observeEntry_eq_ok step
  obtain ⟨storedMember, storedFingerprint⟩ := Table.findUnique?_eq_some.mp found
  have sameId : stored.id = observed.id := (Finding.id_of_subject change.subject).symm
  have sameFingerprint : stored.fingerprint = observed.fingerprint :=
    (Finding.fingerprint_of_subject change.subject).symm
  have keeps {row : Finding} (member : row ∈ state.findings.rows)
      (other : row.fingerprint ≠ entry.1) : row ∈ next.findings.rows := by
    rw [put, Table.mem_put storedMember sameId sameFingerprint]
    refine Or.inr ⟨member, fun same => other ?_⟩
    rw [state.findings.eq_of_key member storedMember (same.trans sameId.symm), storedFingerprint]
  rcases holds with ⟨waiting, member, unobserved⟩ | ⟨finished, done, doneMember, subject, presence⟩
  · by_cases turn : finding.fingerprint = entry.1
    · -- its own entry makes it present
      obtain rfl := state.findings.eq_of_unique member storedMember
        (turn.trans storedFingerprint.symm)
      refine Or.inr ⟨turn ▸ distinct, observed, ?_, change.subject,
        present unobserved later recent⟩
      rw [put, Table.mem_put storedMember sameId sameFingerprint]
      exact Or.inl rfl
    · refine Or.inl ⟨?_, keeps member turn, ?_⟩
      · rw [List.map_cons, List.mem_cons] at waiting
        exact waiting.resolve_left turn
      · rw [Table.findUnique?_eq_none] at unobserved ⊢
        intro row rowMember pair
        rcases others row rowMember with old | ofStored
        · exact unobserved row old pair
        · have owner : stored.id = finding.id := congrArg Prod.fst (ofStored.symm.trans pair)
          exact turn (by rw [← state.findings.eq_of_key storedMember member owner,
            storedFingerprint])
  · rw [List.map_cons, List.mem_cons, not_or] at finished
    refine Or.inr ⟨finished.2, done, keeps doneMember ?_, subject, presence⟩
    rw [Finding.fingerprint_of_subject subject]
    exact finished.1

/-- A first observation of a finding by a run, later than everything seen of it
and by a run that is not too old, makes the finding present. -/
theorem persistFindings_reactivates
    (accepted : persistFindings store scanId run collected observedAt = .ok (count, after))
    (member : finding ∈ store.findings.rows) (collectedItem : item ∈ collected)
    (built : buildOpportunityFingerprint (item.identity run) = .ok finding.fingerprint)
    (unobserved : store.observations.findUnique? (finding.id, run.id) = none)
    (later : finding.lastSeenAt < observedAt)
    (recent : startedBeforeReconciliation run finding = false) :
    ∃ next ∈ after.findings.rows, next.subject = finding.subject ∧
      next.presence = observedPresence run := by
  simp only [persistFindings, bind_eq_ok] at accepted
  obtain ⟨entries, collectedOk, middle, ensured, last, observed, result⟩ := accepted
  cases result
  have started : finding ∈ middle.findings.rows ∧ middle.observations = store.observations := by
    refine foldlM_invariant (fun state : Store => finding ∈ state.findings.rows ∧
      state.observations = store.observations) ?_ ⟨member, rfl⟩ ensured
    intro entry _ state next holds step
    obtain ⟨change, observations, -⟩ := ensureFinding_eq_ok step
    refine ⟨?_, observations.trans holds.2⟩
    rcases change with rfl | ⟨id, inserted⟩
    · exact holds.1
    · rw [(Table.rows_of_insert inserted).1]
      exact List.mem_append_left _ holds.1
  have loop := foldlM_rest (fun rest state => (rest.map Prod.fst).Nodup ∧
    AwaitsObservation run finding rest state) ?_
    ⟨(byFingerprint_eq_ok collectedOk).1, Or.inl ⟨mem_byFingerprint collectedOk collectedItem built,
      started.1, started.2.symm ▸ unobserved⟩⟩ observed
  · rcases loop.2 with ⟨waiting, -⟩ | ⟨-, done⟩
    · exact absurd waiting List.not_mem_nil
    · exact done
  · intro entry rest state next holds step
    rw [List.map_cons, List.nodup_cons] at holds
    exact ⟨holds.1.2, awaitsObservation_step later recent holds.1.1 holds.2 step⟩

omit [CaseMapping] [Digest] [SystemClock] in
/-- After the pass over its observation a finding has one of the run. -/
theorem recordObservation_stored {observation : OpportunityObservation} {created : Bool}
    (recorded : recordObservation store finding run item observedAt =
      .ok (observation, created, after)) :
    ∃ row ∈ after.observations.rows, row.pair = (finding.id, run.id) := by
  have refreshed {middle : Store} {known : OpportunityObservation}
      (member : known ∈ middle.observations.rows) (pair : known.pair = (finding.id, run.id)) :
      ∃ row ∈ (middle.observations.put (refreshObservation item known)).rows,
        row.pair = (finding.id, run.id) := by
    have sameKey : known.id = (refreshObservation item known).id := rfl
    have samePair : known.pair = (refreshObservation item known).pair := rfl
    exact ⟨refreshObservation item known,
      (Table.mem_put member sameKey samePair).mpr (Or.inl rfl), pair⟩
  simp only [recordObservation] at recorded
  cases found : store.observations.findUnique? (finding.id, run.id) with
  | some existing =>
    rw [found] at recorded
    cases recorded
    obtain ⟨member, pair⟩ := Table.findUnique?_eq_some.mp found
    exact refreshed member pair
  | none =>
    rw [found] at recorded
    simp only [createObservationRaceSafe, Store.draw, bind_eq_ok] at recorded
    obtain ⟨⟨candidate, flag, middle⟩, given, result⟩ := recorded
    split at given
    · rename_i observations inserted
      cases given
      cases result
      refine refreshed ?_ rfl
      rw [(Table.rows_of_insert inserted).1]
      exact List.mem_append_right _ (List.mem_singleton.mpr rfl)
    · rw [found] at given
      cases given

omit [CaseMapping] [Digest] in
/-- The finding of an entry has an observation of the run afterwards. -/
theorem observeEntry_observes (found : store.findings.findUnique? entry.1 = some finding)
    (accepted : observeEntry scanId run observedAt store entry = .ok after) :
    ∃ row ∈ after.observations.rows, row.pair = (finding.id, run.id) := by
  simp only [observeEntry, found, bind_eq_ok] at accepted
  obtain ⟨⟨observation, created, middle⟩, recorded, rest⟩ := accepted
  obtain ⟨row, member, pair⟩ := recordObservation_stored recorded
  refine ⟨row, ?_, pair⟩
  dsimp only at rest
  split at rest
  · simp only [bind_eq_ok] at rest
    obtain ⟨⟨changed, next, surfaced⟩, reactivated, result⟩ := rest
    cases result
    rcases reactivatePresenceFromObservation_eq_ok reactivated with
      ⟨-, -, rfl⟩ | ⟨-, -, _, _, _, -, rfl⟩ <;> exact member
  · cases rest
    exact member

omit [UuidSource] [SystemClock] in
/-- Every collected item has a fingerprint. -/
theorem byFingerprint_builds (accepted : byFingerprint run collected = .ok entries)
    (member : item ∈ collected) :
    ∃ fingerprint, buildOpportunityFingerprint (item.identity run) = .ok fingerprint := by
  have loop := foldlM_rest (fun rest (_ : List (String × CollectedFinding)) => item ∈ rest ∨
    ∃ fingerprint, buildOpportunityFingerprint (item.identity run) = .ok fingerprint) ?_
    (Or.inl member) accepted
  · exact loop.resolve_left List.not_mem_nil
  · intro first rest entries next holds step
    obtain ⟨key, built, -⟩ := bind_eq_ok.mp step
    rcases holds with waiting | done
    · rcases List.mem_cons.mp waiting with rfl | later
      · exact Or.inr ⟨key, built⟩
      · exact Or.inl later
    · exact Or.inr done

/-- A fingerprint has a finding that the run observed. -/
def ObservedAs (run : CollectionRun) (fingerprint : String) (store : Store) : Prop :=
  ∃ finding ∈ store.findings.rows, finding.fingerprint = fingerprint ∧
    ∃ row ∈ store.observations.rows, row.pair = (finding.id, run.id)

omit [SystemClock] in
theorem ObservedAs.persisted {fingerprint : String} {before after : Store}
    (persisted : Persisted run collected observedAt before after)
    (observed : ObservedAs run fingerprint before) : ObservedAs run fingerprint after := by
  obtain ⟨finding, member, named, row, rowMember, pair⟩ := observed
  obtain ⟨next, nextMember, sameId, change⟩ := persisted.findings.carries finding member
  obtain ⟨carried, carriedMember, -, same⟩ := persisted.observations.carries row rowMember
  refine ⟨next, nextMember, ?_, carried, carriedMember, ?_⟩
  · rw [Finding.fingerprint_of_subject change.subject, named]
  · rw [same.2.1, pair, sameId]

/-- Every collected item has a finding that the run observed. -/
theorem persistFindings_observes
    (accepted : persistFindings store scanId run collected observedAt = .ok (count, after)) :
    ∀ item ∈ collected, ∃ fingerprint,
      buildOpportunityFingerprint (item.identity run) = .ok fingerprint ∧
        ObservedAs run fingerprint after := by
  simp only [persistFindings, bind_eq_ok] at accepted
  obtain ⟨entries, collectedOk, middle, ensured, last, observed, result⟩ := accepted
  cases result
  have all : ∀ entry ∈ [] ++ entries, ObservedAs run entry.1 after := by
    refine foldlM_done [] (fun earlier state => ∀ entry ∈ earlier, ObservedAs run entry.1 state) ?_
      (fun _ absent => absurd absent List.not_mem_nil) observed
    intro entry _ earlier state next holds step other otherMember
    have persisted := persisted_observeEntry collected step
    rcases List.mem_append.mp otherMember with early | new
    · exact (holds other early).persisted persisted
    · obtain rfl := List.mem_singleton.mp new
      obtain ⟨finding, -, found, -⟩ := observeEntry_eq_ok step
      obtain ⟨row, rowMember, pair⟩ := observeEntry_observes found step
      obtain ⟨member, named⟩ := Table.findUnique?_eq_some.mp found
      obtain ⟨carried, carriedMember, sameId, change⟩ := persisted.findings.carries finding member
      exact ⟨carried, carriedMember, (Finding.fingerprint_of_subject change.subject).trans named,
        row, rowMember, by rw [pair, sameId]⟩
  intro item member
  obtain ⟨fingerprint, built⟩ := byFingerprint_builds collectedOk member
  obtain ⟨entry, entryMember, rfl⟩ :=
    List.mem_map.mp (mem_byFingerprint collectedOk member built)
  exact ⟨entry.1, built, all entry entryMember⟩

/-- A finding that a run did not observe is as it was before. -/
theorem persistFindings_untouched
    (accepted : persistFindings store scanId run collected observedAt = .ok (count, after))
    (member : finding ∈ store.findings.rows)
    (unobserved : ∀ row ∈ after.observations.rows, row.pair ≠ (finding.id, run.id)) :
    finding ∈ after.findings.rows := by
  simp only [persistFindings, bind_eq_ok] at accepted
  obtain ⟨entries, collectedOk, middle, ensured, last, observed, result⟩ := accepted
  cases result
  have started : finding ∈ middle.findings.rows := by
    refine foldlM_invariant (fun state : Store => finding ∈ state.findings.rows) ?_ member ensured
    intro entry _ state next holds step
    rcases (ensureFinding_eq_ok step).1 with rfl | ⟨id, inserted⟩
    · exact holds
    · rw [(Table.rows_of_insert inserted).1]
      exact List.mem_append_left _ holds
  have loop := foldlM_invariant (fun state : Store => finding ∈ state.findings.rows ∨
    ∃ row ∈ state.observations.rows, row.pair = (finding.id, run.id)) ?_ (Or.inl started) observed
  · refine loop.resolve_right ?_
    rintro ⟨row, rowMember, pair⟩
    exact unobserved row rowMember pair
  · intro entry _ state next holds step
    obtain ⟨stored, replaced, found, change, -, -, put, observations, -⟩ := observeEntry_eq_ok step
    obtain ⟨storedMember, storedFingerprint⟩ := Table.findUnique?_eq_some.mp found
    rcases holds with kept | ⟨row, rowMember, pair⟩
    · by_cases own : finding.id = stored.id
      · obtain rfl := state.findings.eq_of_key kept storedMember own
        exact Or.inr (observeEntry_observes found step)
      · have sameId : stored.id = replaced.id := (Finding.id_of_subject change.subject).symm
        have sameFingerprint : stored.fingerprint = replaced.fingerprint :=
          (Finding.fingerprint_of_subject change.subject).symm
        rw [put, Table.mem_put storedMember sameId sameFingerprint]
        exact Or.inl (Or.inr ⟨kept, sameId ▸ own⟩)
    · obtain ⟨carried, carriedMember, -, same⟩ := observations.carries row rowMember
      exact Or.inr ⟨carried, carriedMember, same.2.1.trans pair⟩

end Spec

end FinopsAnalytics.OpportunityCollection
