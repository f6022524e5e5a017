import FinopsAnalytics.DistinctKeys
import FinopsAnalytics.OpportunityArchiving
import Mathlib.Data.String.Basic

/-!
# Retention of opportunities

Old opportunities are archived by policy, in batches, without touching their
human status or their technical presence. What needs a review, what is active
after its treatment and what was unarchived lately is spared.
-/

namespace FinopsAnalytics.OpportunityRetention

open UniqueTables DistinctKeys OpportunityRecords OpportunityArchiving Fallible

inductive PolicyKey where
  | rejectedRetention | treatedRetention | resolvedExternalRetention | openRetention
deriving DecidableEq, Repr

/-- The key as it is stored. -/
def PolicyKey.text : PolicyKey → String
  | .rejectedRetention => "rejected_retention"
  | .treatedRetention => "treated_retention"
  | .resolvedExternalRetention => "resolved_external_retention"
  | .openRetention => "open_retention"

structure RetentionPolicy where
  key : PolicyKey
  thresholdDays : ℤ
  enabled : Bool
deriving DecidableEq, Repr

structure OpportunityRetentionResult where
  evaluated : ℕ
  archivedTotal : ℕ
  archivedTreated : ℕ
  archivedRejected : ℕ
  archivedResolvedExternally : ℕ
  archivedOpen : ℕ
  skippedNeedsReview : ℕ
  skippedActiveAfterTreatment : ℕ
  batches : ℕ
deriving DecidableEq, Repr

/-- The arguments of the retention service. -/
structure RetentionSettings where
  treatedDays : ℤ
  rejectedDays : ℤ
  resolvedExternallyDays : ℤ
  openDays : ℤ
  treatedEnabled : Bool
  rejectedEnabled : Bool
  resolvedExternallyEnabled : Bool
  openEnabled : Bool
  batchSize : ℕ
  policyVersion : Option ℤ
deriving DecidableEq, Repr

/-- A retention service with its policies in their order. -/
structure OpportunityRetentionService where
  policies : List RetentionPolicy
  batchSize : ℕ
  policyVersion : Option ℤ
deriving DecidableEq, Repr

/-- The constructor checks its arguments in order. -/
def RetentionSettings.service (settings : RetentionSettings) :
    Except ServiceError OpportunityRetentionService := do
  [("treated_days", settings.treatedDays), ("rejected_days", settings.rejectedDays),
    ("resolved_externally_days", settings.resolvedExternallyDays),
    ("open_days", settings.openDays), ("batch_size", (settings.batchSize : ℤ))].forM
      fun (name, value) =>
        if value < 1 then
          .error (ServiceError.value (name ++ " must be greater than or equal to 1"))
        else .ok PUnit.unit
  return {
    policies :=
      [⟨.rejectedRetention, settings.rejectedDays, settings.rejectedEnabled⟩,
        ⟨.treatedRetention, settings.treatedDays, settings.treatedEnabled⟩,
        ⟨.resolvedExternalRetention, settings.resolvedExternallyDays,
          settings.resolvedExternallyEnabled⟩,
        ⟨.openRetention, settings.openDays, settings.openEnabled⟩]
    batchSize := settings.batchSize
    policyVersion := settings.policyVersion }

/-- `_cutoff`. -/
def cutoff (policy : RetentionPolicy) (now : Instant) : Instant := now - days policy.thresholdDays

/-- Whether a nullable instant is at or before another. -/
def notAfter (instant : Option Instant) (limit : Instant) : Bool :=
  instant.any (· ≤ limit)

/-- `_expired`. -/
def expired (policy : RetentionPolicy) (limit : Instant) (finding : Finding) : Bool :=
  match policy.key with
  | .treatedRetention => finding.status = .treated && notAfter finding.treatedAt limit
  | .rejectedRetention => finding.status = .rejected && notAfter finding.rejectedAt limit
  | .openRetention => finding.status = .open_ && notAfter (some finding.lastSeenAt) limit
  | .resolvedExternalRetention =>
    finding.presenceStatus = .resolvedExternally && notAfter finding.resolvedExternallyAt limit

/-- `_reference_timestamp`. The columns that the source asserts are those that
`_expired` asks for. -/
def referenceTimestamp (policy : RetentionPolicy) (finding : Finding) : Option Instant :=
  match policy.key with
  | .treatedRetention => finding.treatedAt
  | .rejectedRetention => finding.rejectedAt
  | .openRetention => some finding.lastSeenAt
  | .resolvedExternalRetention => finding.resolvedExternallyAt

/-- What the context of an archive event says about the policy. -/
def policyContext (service : OpportunityRetentionService) (policy : RetentionPolicy)
    (finding : Finding) : Metadata :=
  [("actor", .text "SYSTEM"), ("policy", .text policy.key.text),
    ("policy_key", .text policy.key.text),
    ("policy_version", (service.policyVersion.map .integer).getD .null),
    ("threshold_days", .integer policy.thresholdDays),
    ("reference_timestamp", ((referenceTimestamp policy finding).map .instant).getD .null)]

/-- Whether a finding was seen after its treatment. -/
def seenAfterTreatment (finding : Finding) : Bool :=
  finding.treatedAt.any (· < finding.lastSeenAt)

/-- `_treated_activity_guard`. -/
def treatedActivityGuard (policy : RetentionPolicy) (finding : Finding) : Bool :=
  policy.key ≠ .treatedRetention || finding.presenceStatus ≠ .active ||
    !seenAfterTreatment finding

/-- `_recent_unarchive`. -/
def recentUnarchive (store : Store) (limit : Instant) (finding : Finding) : Bool :=
  store.archiveHistory.any fun event =>
    event.opportunityId = finding.id && event.action = .unarchive && limit < event.occurredAt

/-- `_eligible`. -/
def eligible (store : Store) (policy : RetentionPolicy) (limit : Instant) (finding : Finding) :
    Bool :=
  finding.archivedAt.isNone && !finding.needsReview && expired policy limit finding &&
    treatedActivityGuard policy finding && !recentUnarchive store limit finding

/-- `_collect_preflight_counters`. -/
def preflight (service : OpportunityRetentionService) (store : Store) (now : Instant) :
    OpportunityRetentionResult :=
  let enabled := service.policies.filter (·.enabled)
  let base (finding : Finding) := finding.archivedAt.isNone &&
    enabled.any fun policy => expired policy (cutoff policy now) finding
  let treated := enabled.find? (·.key = .treatedRetention)
  { evaluated := store.findings.rows.countP base
    archivedTotal := 0
    archivedTreated := 0
    archivedRejected := 0
    archivedResolvedExternally := 0
    archivedOpen := 0
    skippedNeedsReview := store.findings.rows.countP fun finding =>
      base finding && finding.needsReview
    skippedActiveAfterTreatment := store.findings.rows.countP fun finding =>
      treated.any fun policy => finding.archivedAt.isNone && !finding.needsReview &&
        expired policy (cutoff policy now) finding && finding.presenceStatus = .active &&
        seenAfterTreatment finding
    batches := 0 }

/-- One more archived finding of a policy. -/
def OpportunityRetentionResult.count (result : OpportunityRetentionResult) (key : PolicyKey) :
    OpportunityRetentionResult :=
  let result := { result with archivedTotal := result.archivedTotal + 1 }
  match key with
  | .treatedRetention => { result with archivedTreated := result.archivedTreated + 1 }
  | .rejectedRetention => { result with archivedRejected := result.archivedRejected + 1 }
  | .resolvedExternalRetention =>
    { result with archivedResolvedExternally := result.archivedResolvedExternally + 1 }
  | .openRetention => { result with archivedOpen := result.archivedOpen + 1 }

/-- One more batch. -/
def OpportunityRetentionResult.countBatch (result : OpportunityRetentionResult) :
    OpportunityRetentionResult :=
  { result with batches := result.batches + 1 }

section Retention

variable [SystemClock]

/-- The pass of the loop over the row with an identifier. -/
def archiveExpired (service : OpportunityRetentionService) (policy : RetentionPolicy)
    (now : Instant) (state : OpportunityRetentionResult × Store) (opportunityId : String) :
    OpportunityRetentionResult × Store :=
  match state.2.findings.find? opportunityId with
  | none => state
  | some finding =>
    match archiveRetentionLocked state.2 finding now (policyContext service policy finding) with
    | (false, store) => (state.1, store)
    | (true, store) => (state.1.count policy.key, store)

/-- The identifiers of a batch. -/
def nextBatch (service : OpportunityRetentionService) (policy : RetentionPolicy) (now : Instant)
    (store : Store) : List String :=
  (sortByKey id ((store.findings.rows.filter
    (eligible store policy (cutoff policy now))).map (·.id))).take service.batchSize

/-- `_archive_policy`: batch after batch until none is left. Every batch archives
a finding, so there are at most as many batches as findings. -/
def archivePolicy (service : OpportunityRetentionService) (policy : RetentionPolicy)
    (now : Instant) : ℕ → OpportunityRetentionResult × Store → OpportunityRetentionResult × Store
  | 0, state => state
  | remaining + 1, state =>
    match nextBatch service policy now state.2 with
    | [] => state
    | first :: rest =>
      let state := (first :: rest).foldl (archiveExpired service policy now) state
      archivePolicy service policy now remaining (state.1.countBatch, state.2)

/-- The pass of the loop over one policy. -/
def runPolicy (service : OpportunityRetentionService) (now : Instant)
    (state : OpportunityRetentionResult × Store) (policy : RetentionPolicy) :
    OpportunityRetentionResult × Store :=
  if policy.enabled then
    archivePolicy service policy now (state.2.findings.rows.length + 1) state
  else state

/-- `run`, at the given instant or now. -/
def run (settings : RetentionSettings) (store : Store) (now : Option Instant) :
    Except ServiceError (OpportunityRetentionResult × Store) := do
  let service ← settings.service
  let (runAt, store) :=
    match now with
    | some runAt => (runAt, store)
    | none => store.utcnow
  return service.policies.foldl (runPolicy service runAt) (preflight service store runAt, store)

theorem archiveStep_archiveExpired (service : OpportunityRetentionService)
    (policy : RetentionPolicy) (now : Instant) (state : OpportunityRetentionResult × Store) (opportunityId : String) :
    ArchiveStep Shelved state.2 (archiveExpired service policy now state opportunityId).2 := by
  unfold archiveExpired
  split
  · exact ArchiveStep.refl Shelved.refl state.2
  · rename_i finding found
    have step := archiveStep_archiveRetentionLocked (Table.find?_eq_some.mp found).1 now
      (policyContext service policy finding)
    split <;> rename_i archived <;> rw [archived] at step <;> exact step

theorem archiveStep_batch (service : OpportunityRetentionService) (policy : RetentionPolicy)
    (now : Instant) (state : OpportunityRetentionResult × Store) (ids : List String) :
    ArchiveStep Shelved state.2 (ids.foldl (archiveExpired service policy now) state).2 :=
  List.foldlRecOn (motive := fun current => ArchiveStep Shelved state.2 current.2) ids _
    (ArchiveStep.refl Shelved.refl state.2) fun current step opportunityId _ =>
      step.trans (archiveStep_archiveExpired service policy now current opportunityId)

theorem archiveStep_archivePolicy (service : OpportunityRetentionService)
    (policy : RetentionPolicy) (now : Instant) (remaining : ℕ)
    (state : OpportunityRetentionResult × Store) :
    ArchiveStep Shelved state.2 (archivePolicy service policy now remaining state).2 := by
  induction remaining generalizing state with
  | zero => exact ArchiveStep.refl Shelved.refl state.2
  | succ remaining inductionHypothesis =>
    unfold archivePolicy
    split
    · exact ArchiveStep.refl Shelved.refl state.2
    · rename_i first rest batch
      have archived := archiveStep_batch service policy now state (first :: rest)
      have later := inductionHypothesis
        (((first :: rest).foldl (archiveExpired service policy now) state).1.countBatch,
          ((first :: rest).foldl (archiveExpired service policy now) state).2)
      exact archived.trans later

/-- A retention run shelves findings. -/
theorem run_eq_ok {settings : RetentionSettings} {store after : Store} {now : Option Instant}
    {result : OpportunityRetentionResult}
    (accepted : run settings store now = .ok (result, after)) :
    ArchiveStep Shelved store after := by
  simp only [run, bind_eq_ok] at accepted
  obtain ⟨service, -, result⟩ := accepted
  have policies (runAt : Instant) (state : OpportunityRetentionResult × Store) :
      ArchiveStep Shelved state.2
        (service.policies.foldl (runPolicy service runAt) state).2 := by
    refine List.foldlRecOn (motive := fun (current : OpportunityRetentionResult × Store) =>
      ArchiveStep Shelved state.2 current.2) _ _ (ArchiveStep.refl Shelved.refl state.2)
      fun current step policy _ => step.trans ?_
    unfold runPolicy
    split
    · exact archiveStep_archivePolicy service policy runAt _ current
    · exact ArchiveStep.refl Shelved.refl current.2
  cases now with
  | some runAt =>
    have step := policies runAt (preflight service store runAt, store)
    rw [Except.ok.inj result] at step
    exact step
  | none =>
    have step := policies store.utcnow.1
      (preflight service store.utcnow.2 store.utcnow.1, store.utcnow.2)
    rw [Except.ok.inj result] at step
    exact (archiveStep_utcnow store).trans step

end Retention

end FinopsAnalytics.OpportunityRetention
