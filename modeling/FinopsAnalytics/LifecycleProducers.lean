import FinopsAnalytics.OpportunityCollection
import FinopsAnalytics.RdsReservationPasses

/-!
# Two producers of findings

A collection and a coverage run both observe findings again. The documented rule of
a reappearance holds for all opportunities: one outside a rejection leaves the
archive with an event, one that was treated before needs a review, a rejected one
stays where it is, and a return from absence is recorded. A collection follows the
rule; a coverage run only makes the finding present.
-/

namespace FinopsAnalytics.LifecycleProducers

open PythonText UniqueTables OpportunityRecords OpportunityArchiving OpportunityReconciliation
  OpportunityCollection OpportunityFingerprint RdsReservationVerdicts RdsReservationOpportunities
  Fallible

section Lifecycles

/-- The state of a finding that its lifecycle is about, with the numbers of its
events. -/
structure Lifecycle where
  status : OpportunityStatus
  presence : OpportunityPresenceStatus
  archivedAt : Option Instant
  needsReview : Bool
  unarchivals : ℕ
  presenceEvents : ℕ
deriving DecidableEq, Repr

/-- The number of UNARCHIVE events of a finding. -/
def unarchivals (store : Store) (opportunityId : String) : ℕ :=
  store.archiveHistory.countP fun event =>
    event.opportunityId = opportunityId && event.action = .unarchive

/-- The number of presence events of a finding. -/
def presenceEvents (store : Store) (opportunityId : String) : ℕ :=
  store.presenceHistory.rows.countP fun event => event.opportunityId = opportunityId

/-- The lifecycle of a finding as it stands, with the events of a store. -/
def lifecycle (store : Store) (finding : Finding) : Lifecycle where
  status := finding.status
  presence := finding.presenceStatus
  archivedAt := finding.archivedAt
  needsReview := finding.needsReview
  unarchivals := unarchivals store finding.id
  presenceEvents := presenceEvents store finding.id

/-- The lifecycle of the finding with an identifier. -/
def lifecycleOf (store : Store) (opportunityId : String) : Option Lifecycle :=
  (store.findings.find? opportunityId).map (lifecycle store)

/-- The documented lifecycle of a finding that is observed again at an instant. -/
def reappearance (store : Store) (finding : Finding) (observedAt : Instant) : Lifecycle where
  status := finding.status
  presence := .active
  archivedAt := if finding.status = .rejected then finding.archivedAt else none
  needsReview :=
    if finding.status = .rejected then false
    else if finding.status = .treated ∧ ∃ treatedAt ∈ finding.treatedAt, treatedAt < observedAt then
      true
    else finding.needsReview
  unarchivals := unarchivals store finding.id +
    if finding.status ≠ .rejected ∧ finding.archivedAt.isSome then 1 else 0
  presenceEvents := presenceEvents store finding.id +
    if finding.presenceStatus ≠ .active then 1 else 0

/-- The finding is where a reappearance leaves it: present, outside the archive or
rejected, reviewed as the rule says. -/
structure Undisturbed (finding : Finding) (observedAt : Instant) : Prop where
  present : finding.presenceStatus = .active
  placed : finding.archivedAt = none ∨ finding.status = .rejected
  unreviewed : finding.status = .rejected → finding.needsReview = false
  reviewed : finding.status = .treated →
    (∃ treatedAt ∈ finding.treatedAt, treatedAt < observedAt) → finding.needsReview = true

end Lifecycles

section Events

/-- An event of a presence change is one event more of its finding. -/
theorem presenceEvents_recordObservedAgain {store after : Store} {finding : Finding}
    {run : CollectionRun} (recorded : recordObservedAgain store finding run = .ok after) :
    presenceEvents after finding.id = presenceEvents store finding.id +
        (if finding.presenceStatus ≠ .active then 1 else 0) ∧
      ∃ presenceHistory, after = { store with presenceHistory } := by
  refine ⟨?_, recordObservedAgain_eq_ok recorded⟩
  unfold recordObservedAgain at recorded
  split at recorded
  · rename_i absent
    simp only [recordPresenceHistory, bind_eq_ok] at recorded
    obtain ⟨presenceHistory, inserted, result⟩ := recorded
    cases result
    rw [flushed_eq_ok] at inserted
    simp [presenceEvents, (Table.rows_of_insert inserted).1, absent]
  · rename_i present
    cases recorded
    simp [present]

variable [SystemClock]

/-- A finding that is surfaced leaves the archive with one event. -/
theorem unarchivals_surface (store : Store) (finding : Finding) (run : CollectionRun) :
    unarchivals (surface store finding run).2 finding.id = unarchivals store finding.id +
        (if finding.status ≠ .rejected ∧ finding.archivedAt.isSome then 1 else 0) ∧
      (surface store finding run).2.presenceHistory = store.presenceHistory := by
  by_cases rejected : finding.status = .rejected
  · simp [surface, rejected, unarchivals, Store.putFinding]
  · cases archived : finding.archivedAt with
    | none => simp [surface, rejected, unarchiveReappeared, archived, unarchivals, Store.putFinding]
    | some archivedAt =>
      simp [surface, rejected, unarchiveReappeared, archived, unarchivals, Store.putFinding,
        OpportunityArchiving.history, unarchived, Store.utcnow, List.countP_append]

/-- What a run that is not too old does to an observed finding and its events. -/
theorem reactivation_events {store after : Store} {finding next : Finding} {run : CollectionRun}
    {changed : Bool} (recent : startedBeforeReconciliation run finding = false)
    (accepted : reactivatePresenceFromObservation store finding run = .ok (changed, next, after)) :
    next = reobserved run finding ∧ after.findings = store.findings.put next ∧
      unarchivals after finding.id = unarchivals store finding.id +
        (if finding.status ≠ .rejected ∧ finding.archivedAt.isSome then 1 else 0) ∧
      presenceEvents after finding.id = presenceEvents store finding.id +
        (if finding.presenceStatus ≠ .active then 1 else 0) := by
  rw [reactivatePresenceFromObservation, if_neg (by simp [recent])] at accepted
  obtain ⟨noted, event, surfacing⟩ := bind_eq_ok.mp accepted
  have surfaces : surface noted (reactivated run finding) run = (next, after) :=
    congrArg Prod.snd (Except.ok.inj surfacing)
  obtain ⟨isNext, archiveHistory, clockReads, -, frame⟩ := surface_reactivated noted finding run
  obtain ⟨unarchived, presenceKept⟩ := unarchivals_surface noted (reactivated run finding) run
  obtain ⟨events, presenceHistory, rfl⟩ := presenceEvents_recordObservedAgain event
  rw [surfaces] at isNext frame unarchived presenceKept
  have isNext : next = reobserved run finding := isNext
  refine ⟨isNext, ?_, unarchived, ?_⟩
  · have findings : after.findings = store.findings.put (reobserved run finding) :=
      congrArg Store.findings frame
    rw [findings, isNext]
  · rw [← events, presenceEvents, presenceKept]
    rfl

end Events

section Collections

variable [UuidSource] [SystemClock]

/-- What the snapshot of an observation leaves of a finding. -/
structure Retained (before after : Finding) : Prop where
  id : after.id = before.id
  fingerprint : after.fingerprint = before.fingerprint
  status : after.status = before.status
  presenceStatus : after.presenceStatus = before.presenceStatus
  reconciledAt : after.presenceReconciledAt = before.presenceReconciledAt
  archivedAt : after.archivedAt = before.archivedAt
  needsReview : after.needsReview = before.needsReview
  treatedAt : after.treatedAt = before.treatedAt

omit [UuidSource] [SystemClock] in
theorem retained_marked (scanId : String) (run : CollectionRun) (item : CollectedFinding)
    (created latest : Bool) (observedAt : Instant) (finding : Finding) :
    Retained finding (markSeen run observedAt (snapshotted scanId run item created latest finding)) := by
  cases created with
  | false =>
    simp only [snapshotted, Bool.false_eq_true, if_false]
    split <;> exact ⟨rfl, rfl, rfl, rfl, rfl, rfl, rfl, rfl⟩
  | true =>
    simp only [snapshotted, if_true]
    split <;> exact ⟨rfl, rfl, rfl, rfl, rfl, rfl, rfl, rfl⟩

/-- The finding that a latest observation leaves. -/
def reviewedAgain (run : CollectionRun) (observedAt : Instant) (finding : Finding) : Finding :=
  reviewAfterTreatment observedAt (reobserved run finding)

omit [UuidSource] [SystemClock] in
/-- A review mark is all that an observation after the treatment sets. -/
theorem reviewAfterTreatment_eq (observedAt : Instant) (finding : Finding) :
    reviewAfterTreatment observedAt finding =
      { finding with
        needsReview :=
          if finding.status = .treated ∧ ∃ treatedAt ∈ finding.treatedAt, treatedAt < observedAt then
            true
          else finding.needsReview } := by
  by_cases reviewed : finding.status = .treated ∧
      ∃ treatedAt ∈ finding.treatedAt, treatedAt < observedAt
  · obtain ⟨status, treatedAt, treated, earlier⟩ := reviewed
    rw [if_pos ⟨status, treatedAt, treated, earlier⟩]
    simp only [reviewAfterTreatment, Option.mem_def.mp treated, status, earlier, and_self, if_true]
  · rw [if_neg reviewed]
    change reviewAfterTreatment observedAt finding = finding
    unfold reviewAfterTreatment
    split
    · rename_i treatedAt treated
      exact if_neg fun both => reviewed ⟨both.1, treatedAt, treated, both.2⟩
    · rfl

omit [UuidSource] [SystemClock] in
/-- It is the same finding, in the documented state. -/
theorem reviewedAgain_lifecycle (run : CollectionRun) (observedAt : Instant) (store : Store)
    (finding : Finding) :
    (reviewedAgain run observedAt finding).id = finding.id ∧
      (reviewedAgain run observedAt finding).fingerprint = finding.fingerprint ∧
      (reviewedAgain run observedAt finding).status = finding.status ∧
      (reviewedAgain run observedAt finding).presenceStatus = .active ∧
      (reviewedAgain run observedAt finding).archivedAt =
        (reappearance store finding observedAt).archivedAt ∧
      (reviewedAgain run observedAt finding).needsReview =
        (reappearance store finding observedAt).needsReview := by
  rw [reviewedAgain, reviewAfterTreatment_eq]
  by_cases rejected : finding.status = .rejected
  · simp [reobserved_rejected rejected, reviewCleared, reactivated, reappearance, rejected]
  · by_cases active : finding.archivedAt = none
    · simp [reobserved, rejected, active, reactivated, reappearance]
    · simp [reobserved, rejected, active, reactivated, unarchived, reappearance]

omit [UuidSource] [SystemClock] in
/-- A finding that is written over a stored one is found under its identifier. -/
theorem find?_put {findings : Table Finding.id Finding.fingerprint} {stored next : Finding}
    (member : stored ∈ findings.rows) (sameId : next.id = stored.id)
    (sameFingerprint : next.fingerprint = stored.fingerprint) :
    (findings.put next).find? stored.id = some next :=
  Table.find?_eq_some.mpr
    ⟨(Table.mem_put member sameId.symm sameFingerprint.symm).mpr (Or.inl rfl), sameId⟩

/-- A new, later observation by a run that is not too old leads to the documented
lifecycle. -/
theorem lifecycleOf_observeEntry {store after : Store} {scanId : String} {run : CollectionRun}
    {observedAt : Instant} {item : CollectedFinding} {finding : Finding}
    (stored : finding ∈ store.findings.rows)
    (unobserved : store.observations.findUnique? (finding.id, run.id) = none)
    (later : finding.lastSeenAt < observedAt)
    (recent : startedBeforeReconciliation run finding = false)
    (accepted : observeEntry scanId run observedAt store (finding.fingerprint, item) = .ok after) :
    lifecycleOf after finding.id = some (reappearance store finding observedAt) := by
  have found : store.findings.findUnique? finding.fingerprint = some finding :=
    Table.findUnique?_eq_some.mpr ⟨stored, rfl⟩
  simp only [observeEntry, found, bind_eq_ok] at accepted
  obtain ⟨⟨observation, created, middle⟩, recorded, rest⟩ := accepted
  obtain ⟨-, instant, existing, -, -, -, observations, drawn, rfl⟩ := recordObservation_eq_ok recorded
  have isNew : created = true := by
    cases created with
    | true => rfl
    | false => exact absurd unobserved (existing rfl)
  have observed := instant isNew
  have isLatest : (created && isLatestObservation { store with observations, drawn } finding
      observation run) = true := by
    simp [isNew, isLatestObservation, observed, later]
  simp only [isLatest, if_true, bind_eq_ok] at rest
  obtain ⟨⟨changed, next, surfaced⟩, reactivation, result⟩ := rest
  cases result
  have retained := retained_marked scanId run item created true observation.observedAt finding
  have notOlder : startedBeforeReconciliation run (markSeen run observation.observedAt
      (snapshotted scanId run item created true finding)) = false := by
    rw [startedBeforeReconciliation, retained.reconciledAt]
    exact recent
  obtain ⟨rfl, findings, unarchived, events⟩ := reactivation_events notOlder reactivation
  generalize markSeen run observation.observedAt
    (snapshotted scanId run item created true finding) = marked at *
  obtain ⟨sameId, sameFingerprint, status, presence, archivedAt, review⟩ :=
    reviewedAgain_lifecycle run observation.observedAt store marked
  have written : lifecycleOf (surfaced.putFinding (reviewAfterTreatment observation.observedAt
      (reobserved run marked))) finding.id = some (lifecycle surfaced
        (reviewedAgain run observation.observedAt marked)) := by
    have again := reobserved_subject run marked
    have first := Table.put_put store.findings (Finding.id_of_subject again).symm
      (Finding.fingerprint_of_subject again).symm
    have second := Table.put_put store.findings
      ((Finding.id_of_subject again).trans sameId.symm)
      ((Finding.fingerprint_of_subject again).trans sameFingerprint.symm)
    have chained : (surfaced.putFinding (reviewAfterTreatment observation.observedAt
        (reobserved run marked))).findings =
        store.findings.put (reviewedAgain run observation.observedAt marked) := by
      change surfaced.findings.put _ = _
      rw [findings]
      exact (congrArg (Table.put · _) first).trans second
    rw [lifecycleOf, chained, find?_put stored (sameId.trans retained.id)
      (sameFingerprint.trans retained.fingerprint)]
    rfl
  rw [written, lifecycle, status, presence, archivedAt, review, sameId, unarchived, events,
    retained.id, ← observed]
  simp only [reappearance, retained.id, retained.status, retained.archivedAt,
    retained.needsReview, retained.treatedAt, retained.presenceStatus]
  rfl

end Collections

section CoverageRuns

variable [CaseMapping] [Digest] [UuidSource]

/-- A coverage run makes a finding present and leaves the rest of its lifecycle. -/
theorem lifecycleOf_upsert {store after : Store} {pass : CoveragePass} {draft : OpportunityDraft}
    {next finding : Finding} {action : UpsertAction} (stored : finding ∈ store.findings.rows)
    (built : draft.fingerprint = .ok finding.fingerprint)
    (accepted : upsert pass store draft = .ok (next, action, after)) :
    lifecycleOf after finding.id = some { lifecycle store finding with presence := .active } := by
  have found : store.findings.findUnique? finding.fingerprint = some finding :=
    Table.findUnique?_eq_some.mpr ⟨stored, rfl⟩
  simp only [upsert, built, ok_bind, found] at accepted
  cases accepted
  have row : (store.findings.put (redescribed pass.run.id pass.generatedAt draft finding)).find?
      finding.id = some (redescribed pass.run.id pass.generatedAt draft finding) :=
    find?_put stored rfl rfl
  rw [lifecycleOf, Store.putFinding, row]
  rfl

variable [SystemClock]

/-- The two producers lead a finding to one lifecycle exactly when it is where a
reappearance leaves it already; a collection always leads it there. -/
theorem producers_agree_iff {store collected covered : Store} {scanId : String}
    {run : CollectionRun} {item : CollectedFinding} {pass : CoveragePass}
    {draft : OpportunityDraft} {next finding : Finding} {action : UpsertAction}
    (stored : finding ∈ store.findings.rows)
    (unobserved : store.observations.findUnique? (finding.id, run.id) = none)
    (later : finding.lastSeenAt < pass.generatedAt)
    (recent : startedBeforeReconciliation run finding = false)
    (collection : observeEntry scanId run pass.generatedAt store (finding.fingerprint, item) =
      .ok collected)
    (built : draft.fingerprint = .ok finding.fingerprint)
    (coverage : upsert pass store draft = .ok (next, action, covered)) :
    lifecycleOf collected finding.id = some (reappearance store finding pass.generatedAt) ∧
      (lifecycleOf covered finding.id = lifecycleOf collected finding.id ↔
        Undisturbed finding pass.generatedAt) := by
  have generic := lifecycleOf_observeEntry stored unobserved later recent collection
  refine ⟨generic, ?_⟩
  rw [generic, lifecycleOf_upsert stored built coverage, Option.some.injEq]
  simp only [lifecycle, reappearance, Lifecycle.mk.injEq, true_and]
  constructor
  · rintro ⟨archive, review, shelf, events⟩
    refine ⟨?_, ?_, fun rejected => ?_, fun treated earlier => ?_⟩
    · by_contra absent
      rw [if_pos absent] at events
      omega
    · by_cases rejected : finding.status = .rejected
      · exact Or.inr rejected
      · rw [if_neg rejected] at archive
        exact Or.inl archive
    · rwa [if_pos rejected] at review
    · have unrejected : finding.status ≠ .rejected := by simp [treated]
      rwa [if_neg unrejected, if_pos ⟨treated, earlier⟩] at review
  · rintro ⟨present, placed, unreviewed, reviewed⟩
    have noEvent : ¬ finding.presenceStatus ≠ .active := by simp [present]
    by_cases rejected : finding.status = .rejected
    · have noUnarchival : ¬ (finding.status ≠ .rejected ∧ finding.archivedAt.isSome = true) :=
        fun both => both.1 rejected
      rw [if_pos rejected, if_pos rejected, if_neg noUnarchival, if_neg noEvent]
      exact ⟨rfl, unreviewed rejected, rfl, rfl⟩
    · have active : finding.archivedAt = none := placed.resolve_right rejected
      have noUnarchival : ¬ (finding.status ≠ .rejected ∧ finding.archivedAt.isSome = true) := by
        simp [active]
      rw [if_neg rejected, if_neg rejected, if_neg noUnarchival, if_neg noEvent]
      refine ⟨active, ?_, rfl, rfl⟩
      split
      · rename_i observedLater
        exact reviewed observedLater.1 observedLater.2
      · rfl

end CoverageRuns

section Sample

attribute [local instance] asciiCase plainDigest countingUuids countingClock

/-- An instance without coverage. -/
def uncoveredDraft : OpportunityDraft where
  accountId := "111"
  region := "eu-west-1"
  resourceId := "db-1"
  resourceType := "aws_rds_db_instance"
  ruleKey := rdsReservationUncovered
  title := "RDS sem cobertura de Reserved Instance"
  description := ""
  severity := "high"
  providerMetadata := []
  evidence := []

def uncoveredFingerprint : String :=
  match uncoveredDraft.fingerprint with
  | .ok fingerprint => fingerprint
  | .error _ => ""

/-- Its finding after a first pass at 10, archived by hand since or not. -/
def coveredFinding (archivedAt : Option Instant) : Finding :=
  { newRdsFinding "finding-1" uncoveredFingerprint 1 10 uncoveredDraft with
    archivedAt
    archivedBy := archivedAt.map fun _ => "admin"
    archiveReason := archivedAt.map fun _ => .manual }

def coveredStore (archivedAt : Option Instant) : Store :=
  { Store.empty with
    findings := ⟨[coveredFinding archivedAt], List.nodup_singleton _, List.nodup_singleton _⟩ }

/-- A second pass at 31. -/
def laterPass : CoveragePass where
  settings := defaultSettings
  tables := ⟨[], [], [], [], [], []⟩
  run := ⟨3, 30, some 30, .completed⟩
  generatedAt := 31
  accountNames := []

/-- A finding that was archived is observed again: a collection takes it out of the
archive with an event, a coverage run leaves it there. -/
theorem archived_reappearance : ∃ collected covered next action,
    observeEntry "scan-1" (sampleRun "run-1" 30) laterPass.generatedAt (coveredStore (some 15))
        (uncoveredFingerprint, sampleItem rdsReservationUncovered (some "eu-west-1")) =
          .ok collected ∧
      upsert laterPass (coveredStore (some 15)) uncoveredDraft = .ok (next, action, covered) ∧
      lifecycleOf collected "finding-1" = some ⟨.open_, .active, none, false, 1, 0⟩ ∧
      lifecycleOf covered "finding-1" = some ⟨.open_, .active, some 15, false, 0, 0⟩ :=
  ⟨_, _, _, _, rfl, rfl, by decide +kernel, by decide +kernel⟩

/-- A finding outside the archive stays alike. -/
theorem producers_agree_uncovered : ∃ collected covered next action,
    observeEntry "scan-1" (sampleRun "run-1" 30) laterPass.generatedAt (coveredStore none)
        (uncoveredFingerprint, sampleItem rdsReservationUncovered (some "eu-west-1")) =
          .ok collected ∧
      upsert laterPass (coveredStore none) uncoveredDraft = .ok (next, action, covered) ∧
      lifecycleOf covered "finding-1" = lifecycleOf collected "finding-1" := by
  have agreed := (producers_agree_iff (List.mem_singleton.mpr rfl : coveredFinding none ∈
    (coveredStore none).findings.rows) rfl (by decide : (10 : ℤ) < laterPass.generatedAt)
    (rfl : startedBeforeReconciliation (sampleRun "run-1" 30) (coveredFinding none) = false)
    (rfl : observeEntry "scan-1" (sampleRun "run-1" 30) laterPass.generatedAt (coveredStore none)
      (uncoveredFingerprint, sampleItem rdsReservationUncovered (some "eu-west-1")) = .ok _)
    (rfl : uncoveredDraft.fingerprint = .ok uncoveredFingerprint)
    (rfl : upsert laterPass (coveredStore none) uncoveredDraft = .ok _)).2
  refine ⟨_, _, _, _, rfl, rfl,
    agreed.mpr ⟨rfl, Or.inl rfl, fun rejected => ?_, fun treated => ?_⟩⟩
  · cases rejected
  · cases treated

end Sample

end FinopsAnalytics.LifecycleProducers
