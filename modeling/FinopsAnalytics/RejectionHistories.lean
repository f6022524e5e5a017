import FinopsAnalytics.OpportunityOperations

/-!
# Rejections over runs

Whatever writes the opportunities, a rejected one keeps its decision, stays out
of the review queue and stays in the archive. Only an explicit reopen ends that.
-/

namespace FinopsAnalytics.RejectionHistories

open PythonText UniqueTables OpportunityRecords OpportunityFingerprint OpportunityCollection
  OpportunityArchiving OpportunityLifecycle OpportunityOperations RdsReservationVerdicts
  RdsReservationPasses ObservationCleanup TransactionHistories

/-- The rejection stands: the same decision, no review, and no way out of the
archive. -/
structure Undisturbed (before after : Finding) : Prop where
  decision : after.decision = before.decision
  review : before.needsReview = false → after.needsReview = false
  archived : before.archivedAt ≠ none → after.archiveState = before.archiveState

theorem Undisturbed.refl (finding : Finding) : Undisturbed finding finding :=
  ⟨rfl, id, fun _ => rfl⟩

theorem archivedAt_of_archiveState {first second : Finding}
    (same : first.archiveState = second.archiveState) : first.archivedAt = second.archivedAt :=
  congrArg ArchiveState.archivedAt same

theorem Undisturbed.trans {first second third : Finding} (before : Undisturbed first second)
    (after : Undisturbed second third) : Undisturbed first third := by
  refine ⟨after.decision.trans before.decision, fun clear => after.review (before.review clear),
    fun archived => ?_⟩
  have kept := before.archived archived
  have stillArchived : second.archivedAt ≠ none := by
    rw [archivedAt_of_archiveState kept]
    exact archived
  exact (after.archived stillArchived).trans kept

/-- An operation leaves the rejections that it does not reopen. -/
structure KeepsRejections (reopened : List String) (before after : Finding) : Prop where
  subject : after.subject = before.subject
  undisturbed : before.status = .rejected → before.id ∉ reopened → Undisturbed before after

theorem KeepsRejections.refl (reopened : List String) (finding : Finding) :
    KeepsRejections reopened finding finding :=
  ⟨rfl, fun _ _ => Undisturbed.refl finding⟩

variable {before after : Finding}

theorem KeepsRejections.of_observed {run : CollectionRun} (reopened : List String)
    (observed : Observed run before after) :
    KeepsRejections reopened before after :=
  ⟨observed.subject, fun rejected _ => ⟨observed.decision, observed.review rejected,
    fun _ => observed.archiveState rejected⟩⟩

theorem KeepsRejections.of_rewritten (reopened : List String) (rewritten : Rewritten before after) :
    KeepsRejections reopened before after :=
  ⟨rewritten.subject, fun _ _ => ⟨rewritten.decision, fun clear => rewritten.review.trans clear,
    fun _ => rewritten.archiveState⟩⟩

theorem KeepsRejections.of_shelved (reopened : List String) (shelved : Shelved before after) :
    KeepsRejections reopened before after := by
  rcases shelved with rfl | ⟨active, archivedAt, archivedBy, archiveReason, rfl⟩
  · exact KeepsRejections.refl reopened after
  · exact ⟨rfl, fun _ _ => ⟨rfl, id, fun archived => absurd active archived⟩⟩

theorem KeepsRejections.of_unshelved (reopened : List String) (unshelved : Unshelved before after) :
    KeepsRejections reopened before after := by
  rcases unshelved with rfl | ⟨notRejected, rfl⟩
  · exact KeepsRejections.refl reopened after
  · exact ⟨rfl, fun rejected => absurd rejected notRejected⟩

theorem KeepsRejections.of_keepsRejected {reopened : List String}
    (kept : KeepsRejected reopened before after) : KeepsRejections reopened before after := by
  refine ⟨kept.subject, fun rejected outside => ?_⟩
  rw [kept.rejected rejected outside]
  exact Undisturbed.refl before

section Runs

variable [CaseMapping] [AlphabetTable] [Digest] [GeneralFormat] [UuidSource] [SystemClock]

variable {finding : Finding}

omit [AlphabetTable] [UuidSource] [SystemClock] in
/-- A pass keeps rejections, whether or not it observes them. -/
theorem keepsRejections_of_pass {pass : CoveragePass} {before after : Store}
    {result : RdsReservationOpportunities.RdsReservationOpportunityResult}
    {observed uncertain : List String}
    (outcome : PassOutcome pass before after result observed uncertain) (reopened : List String)
    (member : finding ∈ before.findings.rows) :
    ∃ next ∈ after.findings.rows, KeepsRejections reopened finding next := by
  by_cases seen : finding.fingerprint ∈ observed
  · obtain ⟨next, nextMember, rewritten, -⟩ := outcome.seen finding member seen
    exact ⟨next, nextMember, .of_rewritten reopened rewritten⟩
  · exact ⟨_, outcome.settled finding member seen,
      .of_rewritten reopened (settlementOf_conservative pass uncertain finding)⟩

omit [AlphabetTable] in
/-- Every operation keeps the rejections that it does not reopen. -/
theorem keepsRejections_of_effect {operation : Operation} {before after : Store}
    (effect : Effect operation before after) (member : finding ∈ before.findings.rows) :
    ∃ next ∈ after.findings.rows, KeepsRejections operation.reopens finding next := by
  cases effect with
  | observed run observedAt clockReads later persisted collects timed =>
    obtain ⟨next, nextMember, -, observed⟩ := persisted.findings.carries finding member
    exact ⟨next, nextMember, .of_observed _ observed⟩
  | reconciled findings kept collects =>
    obtain ⟨next, nextMember, -, rewritten⟩ := findings.carries finding member
    exact ⟨next, nextMember, .of_rewritten _ rewritten⟩
  | covered settings tables coverageRunId now isCoverage pass result accepted isPass
      observed uncertain clockReads later outcome =>
    exact keepsRejections_of_pass outcome _ member
  | shelved step =>
    obtain ⟨next, nextMember, -, shelved⟩ := step.findings.carries finding member
    exact ⟨next, nextMember, .of_shelved _ shelved⟩
  | unshelved step =>
    obtain ⟨next, nextMember, -, unshelved⟩ := step.findings.carries finding member
    exact ⟨next, nextMember, .of_unshelved _ unshelved⟩
  | decided human =>
    obtain ⟨middle, candidates, decided, -, -, grown⟩ := human
    obtain ⟨next, nextMember, -, kept⟩ := decided.carries finding member
    obtain ⟨ledgerEntries, drawn, -, rfl⟩ := grown.frame
    exact ⟨next, nextMember, .of_keepsRejected kept⟩
  | cleaned shrunk =>
    obtain ⟨collectionRuns, observations, -, rfl⟩ := shrunk
    exact ⟨finding, member, .refl _ finding⟩

/-- The same for an operation that may have been rolled back. -/
theorem keepsRejections_of_commit (operation : Operation) (store : Store)
    (member : finding ∈ store.findings.rows) :
    ∃ next ∈ (commit perform store operation).findings.rows,
      KeepsRejections operation.reopens finding next := by
  rcases commit_cases perform store operation with same | committed
  · rw [same]
    exact ⟨finding, member, .refl _ finding⟩
  · exact keepsRejections_of_effect (effect_of_perform committed) member

/-- A rejection stands over any run that does not reopen it. -/
theorem undisturbed_of_run {store : Store} (member : finding ∈ store.findings.rows)
    (rejected : finding.status = .rejected) {operations : List Operation}
    (outside : ∀ operation ∈ operations, finding.id ∉ operation.reopens) :
    ∃ next ∈ (stateAfter perform store operations).findings.rows, next.id = finding.id ∧
      Undisturbed finding next := by
  refine stateAfter_invariant (fun (state : Store) => ∃ next ∈ state.findings.rows,
    next.id = finding.id ∧ Undisturbed finding next) ⟨finding, member, rfl, .refl finding⟩ ?_
  intro operation operationMember state after holds committed
  obtain ⟨next, nextMember, sameId, undisturbed⟩ := holds
  have nextRejected : next.status = .rejected :=
    (Finding.status_of_decision undisturbed.decision).trans rejected
  obtain ⟨last, lastMember, kept⟩ :=
    keepsRejections_of_effect (effect_of_perform committed) nextMember
  have nextOutside : next.id ∉ operation.reopens := by
    rw [sameId]
    exact outside operation operationMember
  exact ⟨last, lastMember, (Finding.id_of_subject kept.subject).trans sameId,
    undisturbed.trans (kept.undisturbed nextRejected nextOutside)⟩

/-- A manual unarchive of a rejected opportunity leaves the store. -/
theorem commit_unarchive_rejected {store : Store} (member : finding ∈ store.findings.rows)
    (rejected : finding.status = .rejected) (actor : String) :
    commit perform store (.unarchive finding.id actor) = store := by
  have found : store.findings.find? finding.id = some finding :=
    Table.find?_eq_some.mpr ⟨member, rfl⟩
  by_cases archived : finding.archivedAt = none
  · have unchanged : unarchive store finding.id actor = .ok (finding, store) := by
      unfold unarchive
      rw [Store.locked_eq_ok.mpr found]
      simp [bind, Except.bind, archived, pure, Except.pure]
    simp [commit, perform, unchanged, Except.map]
  · simp [commit, perform, unarchive_rejected found rejected archived, Except.map]

/-- Rejection is sticky. Over every run a rejected opportunity keeps its decision,
stays out of review and stays in the archive as it is, unless an operation of the
run reopens it. An operation that changes the decision or takes the opportunity out
of the archive is an explicit reopen of it. A manual unarchive is refused and leaves
the store. -/
theorem rejection_sticky (store : Store) :
    ∀ finding ∈ store.findings.rows, finding.status = .rejected →
      (∀ operations : List Operation,
        (∀ operation ∈ operations, finding.id ∉ operation.reopens) →
        ∃ next ∈ (stateAfter perform store operations).findings.rows, next.id = finding.id ∧
          next.decision = finding.decision ∧
          (finding.needsReview = false → next.needsReview = false) ∧
          (finding.archivedAt ≠ none → next.archiveState = finding.archiveState)) ∧
      (∀ operation, ∀ next ∈ (commit perform store operation).findings.rows,
        next.id = finding.id → (next.decision ≠ finding.decision ∨
          (finding.archivedAt ≠ none ∧ next.archivedAt = none)) →
        finding.id ∈ operation.reopens) ∧
      ∀ actor, commit perform store (.unarchive finding.id actor) = store ∧
        (finding.archivedAt ≠ none →
          perform (.unarchive finding.id actor) store = .error rejectedRefusal) := by
  intro finding member rejected
  refine ⟨fun operations outside => ?_, fun operation next nextMember sameId changed => ?_,
    fun actor => ⟨commit_unarchive_rejected member rejected actor, fun archived => ?_⟩⟩
  · obtain ⟨next, nextMember, sameId, undisturbed⟩ := undisturbed_of_run member rejected outside
    exact ⟨next, nextMember, sameId, undisturbed.decision, undisturbed.review,
      undisturbed.archived⟩
  · by_contra outside
    obtain ⟨kept, keptMember, keeps⟩ := keepsRejections_of_commit operation store member
    obtain rfl := (commit perform store operation).findings.eq_of_key keptMember nextMember
      ((Finding.id_of_subject keeps.subject).trans sameId.symm)
    have undisturbed := keeps.undisturbed rejected outside
    rcases changed with redecided | ⟨archived, unarchived⟩
    · exact redecided undisturbed.decision
    · have stillArchived := archivedAt_of_archiveState (undisturbed.archived archived)
      exact archived (stillArchived.symm.trans unarchived)
  · have found : store.findings.find? finding.id = some finding :=
      Table.find?_eq_some.mpr ⟨member, rfl⟩
    simp [perform, unarchive_rejected found rejected archived, Except.map]

end Runs

section Sample

attribute [local instance] asciiCase asciiAlphabet plainDigest integralFormat countingUuids
  countingClock

/-- A rejected opportunity in the archive. -/
def rejectedFinding : Finding :=
  archivedManually (rejectedColumns sampleFinding 50 "ana" "OTHER" none) 60 "ana"

/-- A store with the rejected opportunity and a run that may observe it. -/
def rejectedStore : Store :=
  { Store.empty with
    findings := .single rejectedFinding
    collectionRuns := .single (sampleRun "run-2" 20) }

/-- A run that observes the rejected opportunity again leaves the rejection. -/
theorem rejection_sticky_observed :
    ∃ next ∈ (stateAfter perform rejectedStore
        [.observe "scan-2" "run-2" [sampleItem "EC2_IDLE" (some "us-east-1")],
          .unarchive "finding-1" "ana"]).findings.rows,
      next.id = rejectedFinding.id ∧ next.decision = rejectedFinding.decision ∧
        (rejectedFinding.needsReview = false → next.needsReview = false) ∧
        (rejectedFinding.archivedAt ≠ none →
          next.archiveState = rejectedFinding.archiveState) :=
  (rejection_sticky rejectedStore rejectedFinding (List.mem_singleton.mpr rfl) rfl).1 _
    (by decide)

end Sample

end FinopsAnalytics.RejectionHistories
