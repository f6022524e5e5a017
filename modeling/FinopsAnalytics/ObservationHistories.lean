import FinopsAnalytics.OpportunityOperations
import FinopsAnalytics.PeriodSnapshots

/-!
# Observations over a run

Only collections observe, each at one instant, and every observation is of a
stored finding: findings are never deleted. Whatever else writes opportunities
leaves the observations or deletes some of them.
-/

namespace FinopsAnalytics.ObservationHistories

open UniqueTables OpportunityRecords OpportunityFingerprint OpportunityCollection
  OpportunityPresence OpportunityOperations OpportunityLifecycle ObservationCleanup
  RdsReservationPasses RdsReservationVerdicts PeriodSnapshots PythonText Fallible

/-- The instant at which an operation observes. -/
def observingAt [SystemClock] (store : Store) : Operation → Option Instant
  | .collection (.persistFindings _ _ _ observedAt) => some observedAt
  | .observe _ _ _ => some (SystemClock.utcnow store.clockReads)
  | _ => none

/-- Where each observation stays of its opportunity or names a finding, and findings
stay, the observations stay linked. -/
theorem linked_carry {before after : Store} (linked : Linked before)
    (rows : ∀ row ∈ after.observations.rows,
      (∃ old ∈ before.observations.rows, old.opportunityId = row.opportunityId) ∨
        ∃ finding ∈ after.findings.rows, finding.id = row.opportunityId)
    (findings : ∀ finding ∈ before.findings.rows, ∃ next ∈ after.findings.rows,
      next.id = finding.id) : Linked after := by
  intro row member
  rcases rows row member with ⟨old, oldMember, sameId⟩ | named
  · obtain ⟨finding, findingMember, ofOld⟩ := linked old oldMember
    obtain ⟨next, nextMember, sameFinding⟩ := findings finding findingMember
    exact ⟨next, nextMember, sameFinding.trans (ofOld.trans sameId)⟩
  · exact named

/-- So do they where no observation is added. -/
theorem linked_keep {before after : Store} {related : Finding → Finding → Prop}
    (linked : Linked before)
    (observations : ∀ row ∈ after.observations.rows, row ∈ before.observations.rows)
    (findings : Table.Carries related before.findings after.findings) : Linked after := by
  refine linked_carry linked (fun row member => Or.inl ⟨row, observations row member, rfl⟩) ?_
  intro finding member
  obtain ⟨next, nextMember, sameId, -⟩ := findings finding member
  exact ⟨next, nextMember, sameId⟩

section Persisting

variable [UuidSource] [SystemClock] [CaseMapping] [Digest]

variable {store after : Store} {run : CollectionRun} {observedAt : Instant}

omit [CaseMapping] [Digest] [SystemClock] in
theorem linked_ensureFinding {scanId : String} {entry : String × CollectedFinding}
    (linked : Linked store) (accepted : ensureFinding scanId run observedAt store entry = .ok after) :
    Linked after := by
  obtain ⟨change, observations, -⟩ := ensureFinding_eq_ok accepted
  refine linked_carry linked (fun row member => Or.inl ⟨row, observations ▸ member, rfl⟩) ?_
  intro finding member
  rcases change with rfl | ⟨id, inserted⟩
  · exact ⟨finding, member, rfl⟩
  · refine ⟨finding, ?_, rfl⟩
    rw [(Table.rows_of_insert inserted).1]
    exact List.mem_append_left _ member

omit [CaseMapping] [Digest] in
/-- The new observation is of a stored finding. -/
theorem linked_observeEntry {scanId : String} {entry : String × CollectedFinding}
    (linked : Linked store) (accepted : observeEntry scanId run observedAt store entry = .ok after) :
    Linked after := by
  obtain ⟨finding, next, found, observed, -, rows, put, -, -⟩ := observeEntry_eq_ok accepted
  have sameId := Finding.id_of_subject observed.subject
  have stored (row : Finding) : row ∈ (store.findings.put next).rows ↔
      row = next ∨ row ∈ store.findings.rows ∧ row.id ≠ next.id :=
    Table.mem_put (Table.findUnique?_eq_some.mp found).1 sameId.symm
      (Finding.fingerprint_of_subject observed.subject).symm
  have replaced : next ∈ after.findings.rows := put ▸ (stored next).mpr (Or.inl rfl)
  refine linked_carry linked (fun row member => ?_) fun other member => ?_
  · rcases rows row member with old | pair
    · exact Or.inl ⟨row, old, rfl⟩
    · exact Or.inr ⟨next, replaced, sameId.trans (congrArg Prod.fst pair).symm⟩
  · by_cases same : other.id = next.id
    · exact ⟨next, replaced, same.symm⟩
    · exact ⟨other, put ▸ (stored other).mpr (Or.inr ⟨member, same⟩), rfl⟩

/-- Persisting what a run collected observes stored findings only. -/
theorem persistFindings_linked {scanId : String} {collected : List CollectedFinding} {count : ℕ}
    (linked : Linked store)
    (accepted : persistFindings store scanId run collected observedAt = .ok (count, after)) :
    Linked after := by
  simp only [persistFindings, bind_eq_ok] at accepted
  obtain ⟨entries, -, middle, ensured, last, observed, result⟩ := accepted
  cases result
  have ensuredLinked : Linked middle := foldlM_invariant Linked
    (fun _ _ _ _ holds step => linked_ensureFinding holds step) linked ensured
  exact foldlM_invariant Linked (fun _ _ _ _ holds step => linked_observeEntry holds step)
    ensuredLinked observed

end Persisting

section Recording

variable [CaseMapping] [AlphabetTable] [Digest] [GeneralFormat] [UuidSource] [SystemClock]

/-- What an operation does to the observations. -/
structure Recorded (operation : Operation) (before after : Store) : Prop where
  linked : Linked before → Linked after
  observations : ∀ row ∈ after.observations.rows,
    (∃ old ∈ before.observations.rows, SameObservation old row) ∨
      observingAt before operation = some row.observedAt
  drawn : before.drawn ≤ after.drawn

variable {operation : Operation}

omit [CaseMapping] [AlphabetTable] [Digest] [GeneralFormat] [UuidSource] in
/-- An operation that adds no observation. -/
theorem Recorded.of_kept {before after : Store} {related : Finding → Finding → Prop}
    (observations : ∀ row ∈ after.observations.rows, row ∈ before.observations.rows)
    (findings : Table.Carries related before.findings after.findings)
    (drawn : before.drawn ≤ after.drawn) : Recorded operation before after :=
  ⟨fun linked => linked_keep linked observations findings,
    fun row member => Or.inl ⟨row, observations row member, SameObservation.refl row⟩, drawn⟩

omit [AlphabetTable] [GeneralFormat] in
/-- An operation that persists what a run collected. -/
theorem Recorded.of_persisted {before start after : Store} {scanId : String} {run : CollectionRun}
    {collected : List CollectedFinding} {observedAt : Instant} {count : ℕ}
    (accepted : persistFindings start scanId run collected observedAt = .ok (count, after))
    (sameFindings : start.findings = before.findings)
    (sameObservations : start.observations = before.observations)
    (sameDrawn : start.drawn = before.drawn)
    (instant : observingAt before operation = some observedAt) :
    Recorded operation before after := by
  have persisted := persistFindings_eq_ok accepted
  refine ⟨fun linked => persistFindings_linked (fun row member => ?_) accepted, fun row member => ?_,
    sameDrawn ▸ persisted.frame.drawn⟩
  · rw [sameFindings]
    exact linked row (sameObservations ▸ member)
  · rcases persisted.observations.origin member with ⟨old, oldMember, -, same⟩ | ⟨-, drawn⟩
    · exact Or.inl ⟨old, sameObservations ▸ oldMember, same⟩
    · exact Or.inr (instant.trans (congrArg some drawn.2.1.symm))

/-- Every operation that commits observes as it should. -/
theorem recorded_of_perform {before after : Store}
    (committed : OpportunityOperations.perform operation before = .ok after) :
    Recorded operation before after := by
  cases collects : operation.collects with
  | true =>
    cases operation with
    | observe scanId runId collected =>
      simp only [OpportunityOperations.perform, observeNow, bind_eq_ok] at committed
      obtain ⟨run, -, ⟨count, last⟩, accepted, result⟩ := committed
      cases result
      exact Recorded.of_persisted accepted rfl rfl rfl rfl
    | collection operation =>
      by_cases observes : ∃ scanId runId collected observedAt,
          operation = .persistFindings scanId runId collected observedAt
      · obtain ⟨scanId, runId, collected, observedAt, rfl⟩ := observes
        simp only [OpportunityOperations.perform, OpportunityPresence.step, bind_eq_ok] at committed
        obtain ⟨run, -, ⟨count, last⟩, accepted, result⟩ := committed
        cases result
        exact Recorded.of_persisted accepted rfl rfl rfl rfl
      · obtain ⟨findings, kept⟩ := collection_keeps
          (fun _ _ _ _ same => observes ⟨_, _, _, _, same⟩) committed
        exact Recorded.of_kept (fun row member => kept.observations ▸ member) findings.carries
          kept.drawn
    | _ => cases collects
  | false =>
    rcases effect_of_perform committed with
      ⟨_, _, _, _, _, observes, _⟩ | ⟨_, _, reconciles⟩ |
      ⟨settings, tables, coverageRunId, now, _, pass, result, _, _, observed, uncertain, clockReads, _,
        outcome⟩ | step | step | human | shrunk
    · simp [collects] at observes
    · simp [collects] at reconciles
    · obtain ⟨findings, drawn, later, rfl⟩ := outcome.frame
      have carried : Table.Carries Rewritten before.findings findings := by
        intro finding member
        by_cases seen : finding.fingerprint ∈ observed
        · obtain ⟨next, nextMember, rewritten, -⟩ := outcome.seen finding member seen
          exact ⟨next, nextMember, Finding.id_of_subject rewritten.subject, rewritten⟩
        · have rewritten := settlementOf_conservative pass uncertain finding
          exact ⟨_, outcome.settled finding member seen, Finding.id_of_subject rewritten.subject,
            rewritten⟩
      exact Recorded.of_kept (fun _ => id) carried later
    · obtain ⟨findings, archiveHistory, clockReads, -, rfl⟩ := step.frame
      exact Recorded.of_kept (fun _ => id) step.findings.carries le_rfl
    · obtain ⟨findings, archiveHistory, clockReads, -, rfl⟩ := step.frame
      exact Recorded.of_kept (fun _ => id) step.findings.carries le_rfl
    · obtain ⟨middle, candidates, decided, frame, -, grown⟩ := human
      obtain ⟨ledgerEntries, drawn, later, rfl⟩ := grown.frame
      exact Recorded.of_kept (fun row member => frame.observations ▸ member) decided.carries
        (frame.drawn.trans later)
    · obtain ⟨collectionRuns, observations, kept, rfl⟩ := shrunk
      exact Recorded.of_kept kept (Table.Carries.refl Rewritten.refl before.findings) le_rfl

end Recording

end FinopsAnalytics.ObservationHistories
