import FinopsAnalytics.Overwrites
import FinopsAnalytics.RdsResolutionHistories

/-!
# A pass that is made again

The rows of a completed run say the same each time they are read at one instant. The
first pass leaves every finding as the last draft for its fingerprint describes it, and
every other finding settled. A second one writes those findings again, and finds nothing
left to settle.
-/

namespace FinopsAnalytics.RdsReservationRepeats

open UniqueTables Overwrites OpportunityRecords OpportunityFingerprint RdsReservationVerdicts
  RdsReservationOpportunities RdsReservationPasses RdsResolutionHistories PythonText Fallible

section Drafts

variable {pass : CoveragePass}

/-- A draft that names the run of the pass. -/
def Marked (pass : CoveragePass) (draft : OpportunityDraft) : Prop :=
  draft.providerMetadata.lookup "coverage_run_id" = some (.integer pass.run.id)

/-- The drafts of a verdict. -/
def drafts : RowVerdict → List OpportunityDraft
  | .conclusive drafts => drafts
  | .stale _ => []
  | .unknown _ => []

/-- A description leaves no trace of an earlier one of the same run, its occurrence
apart, which both count once. -/
theorem redescribed_redescribed {first : OpportunityDraft} (marked : Marked pass first)
    (second : OpportunityDraft) (finding : Finding) :
    redescribed pass.run.id pass.generatedAt second
        (redescribed pass.run.id pass.generatedAt first finding) =
      redescribed pass.run.id pass.generatedAt second finding := by
  have counted : previousRun (redescribed pass.run.id pass.generatedAt first finding) =
      some (.integer pass.run.id) := marked
  unfold redescribed markActive
  congr 1
  exact if_neg (not_not.mpr counted)

/-- A new finding is described by its own draft. -/
theorem redescribed_newRdsFinding {draft : OpportunityDraft} (marked : Marked pass draft)
    (id fingerprint : String) :
    redescribed pass.run.id pass.generatedAt draft
        (newRdsFinding id fingerprint pass.run.id pass.generatedAt draft) =
      newRdsFinding id fingerprint pass.run.id pass.generatedAt draft := by
  have counted : previousRun (newRdsFinding id fingerprint pass.run.id pass.generatedAt draft) =
      some (.integer pass.run.id) := marked
  unfold redescribed
  rw [if_neg (not_not.mpr counted)]
  rfl

variable [CaseMapping] [Digest] [GeneralFormat]

omit [CaseMapping] [Digest] [GeneralFormat] in
theorem coverageDraft_marked (pass : CoveragePass) (coverage : RdsInstanceReservationCoverage)
    (row : RdsInventory.AwsRdsInstance) (conclusion : CoverageConclusion) :
    Marked pass (coverageDraft pass coverage row conclusion) := rfl

omit [CaseMapping] [Digest] in
theorem unusedDraft_marked (pass : CoveragePass) (utilization : RdsReservationUtilization)
    (reservation : RdsInventory.AwsRdsReservedInstance) :
    Marked pass (unusedDraft pass utilization reservation) := rfl

omit [CaseMapping] [Digest] in
theorem expiringDraft_marked (pass : CoveragePass) (utilization : RdsReservationUtilization)
    (reservation : RdsInventory.AwsRdsReservedInstance) :
    Marked pass (expiringDraft pass utilization reservation) := rfl

/-- The coverage loop drafts opportunities of its run only. -/
theorem coverageVerdict_marked {row : RdsInstanceReservationCoverage × RdsInventory.AwsRdsInstance}
    {said : RowVerdict} (decided : coverageVerdict pass row = .ok said) :
    ∀ draft ∈ drafts said, Marked pass draft := by
  simp only [coverageVerdict, bind_eq_ok] at decided
  obtain ⟨fingerprints, -, decided⟩ := decided
  split_ifs at decided <;> cases decided
  · exact fun draft member => absurd member List.not_mem_nil
  · exact fun draft member => absurd member List.not_mem_nil
  · exact fun draft member => absurd member List.not_mem_nil
  · intro draft member
    obtain ⟨conclusion, -, rfl⟩ := Option.mem_map.mp (Option.mem_toList.mp member)
    exact coverageDraft_marked pass row.1 row.2 conclusion

/-- So does the reservation loop. -/
theorem reservationVerdict_marked
    {row : RdsReservationUtilization × RdsInventory.AwsRdsReservedInstance}
    {said : RowVerdict} (decided : reservationVerdict pass row = .ok said) :
    ∀ draft ∈ drafts said, Marked pass draft := by
  simp only [reservationVerdict, bind_eq_ok] at decided
  obtain ⟨fingerprints, -, decided⟩ := decided
  split_ifs at decided with stale unused expiring expiring <;> cases decided
  all_goals
    intro draft member
    simp only [drafts, List.append_nil, List.nil_append, List.mem_append, List.mem_singleton,
      List.not_mem_nil] at member
  · rcases member with rfl | rfl
    · exact unusedDraft_marked pass row.1 row.2
    · exact expiringDraft_marked pass row.1 row.2
  · subst member
    exact unusedDraft_marked pass row.1 row.2
  · subst member
    exact expiringDraft_marked pass row.1 row.2

end Drafts

section Loops

variable [CaseMapping] [Digest]

/-- The findings that drafts leave, each as the last draft for its fingerprint says. -/
def described (pass : CoveragePass) (earlier : List OpportunityDraft) (finding : Finding) :
    Finding :=
  overwritten Finding.fingerprint (fun draft => draft.fingerprint.toOption)
    (redescribed pass.run.id pass.generatedAt) earlier finding

/-- The findings of a table after the drafts. -/
def describedTable (pass : CoveragePass) (earlier : List OpportunityDraft)
    (findings : Table Finding.id Finding.fingerprint) : Table Finding.id Finding.fingerprint :=
  overwrite (fun draft => draft.fingerprint.toOption) (redescribed pass.run.id pass.generatedAt)
    (fun _ _ => rfl) (fun _ _ => rfl) findings earlier

omit [CaseMapping] [Digest] in
theorem toOption_eq_some {raised : Except ServiceError String} {fingerprint : String} :
    raised.toOption = some fingerprint ↔ raised = .ok fingerprint := by
  cases raised with
  | error raised => simp [Except.toOption]
  | ok value => simp [Except.toOption]

theorem described_fingerprint (pass : CoveragePass) (earlier : List OpportunityDraft)
    (finding : Finding) : (described pass earlier finding).fingerprint = finding.fingerprint := by
  have kept : ∀ draft row, (redescribed pass.run.id pass.generatedAt draft row).fingerprint =
      row.fingerprint := fun _ _ => rfl
  exact overwritten_keeps Finding.fingerprint kept earlier finding

theorem described_concat_of_aimed (pass : CoveragePass) (earlier : List OpportunityDraft)
    {draft : OpportunityDraft} {finding : Finding}
    (aimed : draft.fingerprint = .ok finding.fingerprint) :
    described pass (earlier ++ [draft]) finding =
      redescribed pass.run.id pass.generatedAt draft (described pass earlier finding) := by
  have same := described_fingerprint pass earlier finding
  unfold described at same ⊢
  rw [overwritten_append, same, if_pos (toOption_eq_some.mpr aimed)]

theorem described_concat_of_missed (pass : CoveragePass) (earlier : List OpportunityDraft)
    {draft : OpportunityDraft} {finding : Finding}
    (missed : draft.fingerprint ≠ .ok finding.fingerprint) :
    described pass (earlier ++ [draft]) finding = described pass earlier finding := by
  have same := described_fingerprint pass earlier finding
  unfold described at same ⊢
  rw [overwritten_append, same, if_neg fun aimed => missed (toOption_eq_some.mp aimed)]

/-- A description leaves no trace of all the earlier ones of the run. -/
theorem redescribed_described {pass : CoveragePass} {earlier : List OpportunityDraft}
    (marked : ∀ draft ∈ earlier, Marked pass draft) (draft : OpportunityDraft)
    (finding : Finding) :
    redescribed pass.run.id pass.generatedAt draft (described pass earlier finding) =
      redescribed pass.run.id pass.generatedAt draft finding :=
  write_overwritten (fun first member => redescribed_redescribed (marked first member)) draft
    finding

/-- The state of the observing loops of a pass: every finding is as the drafts so far
describe it, and every draft has its finding. -/
structure Described (pass : CoveragePass) (earlier : List OpportunityDraft) (state : PassState) :
    Prop where
  bears : ∀ finding ∈ state.store.findings.rows, described pass earlier finding = finding
  drafted : ∀ draft ∈ earlier, ∃ finding ∈ state.store.findings.rows,
    draft.fingerprint = .ok finding.fingerprint ∧ finding.fingerprint ∈ state.observed
  marked : ∀ draft ∈ earlier, Marked pass draft

theorem Described.start (pass : CoveragePass) (store : Store) :
    Described pass [] ⟨.start pass.run.id, store, [], []⟩ :=
  ⟨fun _ _ => rfl, fun _ member => absurd member List.not_mem_nil,
    fun _ member => absurd member List.not_mem_nil⟩

variable [UuidSource] {pass : CoveragePass} {earlier : List OpportunityDraft}

/-- The finding that an upsert writes is the draft's description of it. -/
theorem upsert_describes {store after : Store} {draft : OpportunityDraft} {next : Finding}
    {action : UpsertAction} (marked : Marked pass draft)
    (accepted : upsert pass store draft = .ok (next, action, after)) :
    redescribed pass.run.id pass.generatedAt draft next = next := by
  simp only [upsert, bind_eq_ok] at accepted
  obtain ⟨fingerprint, -, rest⟩ := accepted
  split at rest
  · cases rest
    exact redescribed_redescribed marked draft _
  · rename_i missing
    simp only [Store.draw] at rest
    split at rest
    · cases rest
      exact redescribed_newRdsFinding marked _ _
    · rw [missing] at rest
      cases rest

omit [UuidSource] in
/-- The rows after an upsert are the written one and rows from before with other
fingerprints. -/
theorem mem_upserted {before after : Store} {draft : OpportunityDraft} {next : Finding}
    (upserted : Upserted pass draft before after next) {finding : Finding} :
    finding ∈ after.findings.rows ↔ finding = next ∨
      finding ∈ before.findings.rows ∧ finding.fingerprint ≠ next.fingerprint := by
  rcases upserted.findings with ⟨stored, member, rewritten, put⟩ | ⟨-, inserted⟩
  · have sameId := (Finding.id_of_subject rewritten.subject).symm
    have sameFingerprint := (Finding.fingerprint_of_subject rewritten.subject).symm
    rw [put, Table.mem_put member sameId sameFingerprint]
    refine or_congr_right (and_congr_right fun old => not_congr ⟨fun same => ?_, fun same => ?_⟩)
    · rw [before.findings.eq_of_key old member (same.trans sameId.symm), sameFingerprint]
    · rw [before.findings.eq_of_unique old member (same.trans sameFingerprint.symm), sameId]
  · obtain ⟨rows, -, fresh⟩ := Table.rows_of_insert inserted
    rw [rows, List.mem_append, List.mem_singleton, or_comm]
    refine or_congr_right ⟨fun old => ⟨old, fun same => ?_⟩, And.left⟩
    exact fresh (List.mem_map.mpr ⟨finding, old, same⟩)

/-- One more draft of the first pass. -/
theorem Described.step {state next : PassState} {draft : OpportunityDraft}
    (before : Described pass earlier state) (marked : Marked pass draft)
    (accepted : observeDraft pass state draft = .ok next) :
    Described pass (earlier ++ [draft]) next := by
  simp only [observeDraft, bind_eq_ok] at accepted
  obtain ⟨⟨written, action, after⟩, upserted, result⟩ := accepted
  cases result
  have spec := upsert_eq_ok upserted
  have written_bears := upsert_describes marked upserted
  refine ⟨fun finding member => ?_, fun other member => ?_, fun other member => ?_⟩
  · rcases (mem_upserted spec).mp member with rfl | ⟨old, other⟩
    · rw [described_concat_of_aimed pass earlier spec.fingerprint,
        redescribed_described before.marked, written_bears]
    · have missed : draft.fingerprint ≠ .ok finding.fingerprint := by
        rw [spec.fingerprint]
        exact fun same => other (Except.ok.inj same).symm
      rw [described_concat_of_missed pass earlier missed]
      exact before.bears finding old
  · rcases List.mem_append.mp member with old | last
    · obtain ⟨finding, stored, same, observed⟩ := before.drafted other old
      by_cases turn : finding.fingerprint = written.fingerprint
      · exact ⟨written, (mem_upserted spec).mpr (Or.inl rfl), by rw [same, turn],
          List.mem_append_right _ (List.mem_singleton.mpr rfl)⟩
      · exact ⟨finding, (mem_upserted spec).mpr (Or.inr ⟨stored, turn⟩), same,
          List.mem_append_left _ observed⟩
    · obtain rfl := List.mem_singleton.mp last
      exact ⟨written, (mem_upserted spec).mpr (Or.inl rfl), spec.fingerprint,
        List.mem_append_right _ (List.mem_singleton.mpr rfl)⟩
  · rcases List.mem_append.mp member with old | last
    · exact before.marked other old
    · rwa [List.mem_singleton.mp last]

/-- One more verdict of the first pass. -/
theorem Described.verdict {state next : PassState} {said : RowVerdict}
    (before : Described pass earlier state) (marked : ∀ draft ∈ drafts said, Marked pass draft)
    (accepted : applyVerdict pass state said = .ok next) :
    Described pass (earlier ++ drafts said) next := by
  cases said with
  | stale fingerprints =>
    cases accepted
    rw [drafts, List.append_nil]
    exact ⟨before.bears, before.drafted, before.marked⟩
  | unknown fingerprints =>
    cases accepted
    rw [drafts, List.append_nil]
    exact ⟨before.bears, before.drafted, before.marked⟩
  | conclusive rows =>
    exact foldlM_done earlier (Described pass)
      (fun draft member _ _ _ holds stepped => holds.step (marked draft member) stepped) before
      accepted

omit [UuidSource] in
/-- A finding that is not observed is aimed at by no draft. -/
theorem described_of_unobserved {state : PassState} (loops : Described pass earlier state)
    {before after : Finding} (same : after.subject = before.subject)
    (outside : before.fingerprint ∉ state.observed) : described pass earlier after = after := by
  refine overwritten_of_missed fun draft member aimed => ?_
  obtain ⟨finding, -, drafted, observed⟩ := loops.drafted draft member
  rw [toOption_eq_some, drafted, Finding.fingerprint_of_subject same] at aimed
  exact outside (Except.ok.inj aimed ▸ observed)

/-- What the rows of a completed run say, in the order in which they are read. -/
def verdicts [GeneralFormat] (pass : CoveragePass) : Except ServiceError (List RowVerdict) := do
  let coverage ← pass.coverageRows.mapM (coverageVerdict pass)
  let utilization ← pass.utilizationRows.mapM (reservationVerdict pass)
  return coverage ++ utilization

omit [UuidSource] in
theorem verdicts_marked [GeneralFormat] {said : List RowVerdict}
    (decided : verdicts pass = .ok said) :
    ∀ verdict ∈ said, ∀ draft ∈ drafts verdict, Marked pass draft := by
  simp only [verdicts, bind_eq_ok] at decided
  obtain ⟨coverage, coverageOk, utilization, utilizationOk, same⟩ := decided
  cases same
  intro verdict member
  rcases List.mem_append.mp member with first | second
  · obtain ⟨row, -, rowOk⟩ := mem_of_mapM_eq_ok coverageOk first
    exact coverageVerdict_marked rowOk
  · obtain ⟨row, -, rowOk⟩ := mem_of_mapM_eq_ok utilizationOk second
    exact reservationVerdict_marked rowOk

/-- The loops over the rows are a loop over what the rows say. -/
theorem observeRows_eq_ok [GeneralFormat] {state next : PassState} :
    observeRows pass state = .ok next ↔
      ∃ said, verdicts pass = .ok said ∧ said.foldlM (applyVerdict pass) state = .ok next := by
  simp only [observeRows, applyRows, verdicts, bind_eq_ok, foldlM_bind_eq_ok]
  constructor
  · rintro ⟨middle, ⟨coverage, coverageOk, first⟩, utilization, utilizationOk, second⟩
    refine ⟨_, ⟨coverage, coverageOk, utilization, utilizationOk, rfl⟩, ?_⟩
    rw [List.foldlM_append, bind_eq_ok]
    exact ⟨middle, first, second⟩
  · rintro ⟨said, ⟨coverage, coverageOk, utilization, utilizationOk, same⟩, applied⟩
    cases same
    rw [List.foldlM_append, bind_eq_ok] at applied
    obtain ⟨middle, first, second⟩ := applied
    exact ⟨middle, ⟨coverage, coverageOk, first⟩, utilization, utilizationOk, second⟩

/-- The first pass, over all the verdicts. -/
theorem Described.verdicts {state next : PassState} {said : List RowVerdict}
    (before : Described pass earlier state)
    (marked : ∀ verdict ∈ said, ∀ draft ∈ drafts verdict, Marked pass draft)
    (accepted : said.foldlM (applyVerdict pass) state = .ok next) :
    Described pass (earlier ++ said.flatMap drafts) next := by
  have loop := foldlM_done []
    (fun done current => Described pass (earlier ++ done.flatMap drafts) current)
    (fun verdict member done _ _ holds stepped => by
      rw [List.flatMap_append, List.flatMap_singleton, ← List.append_assoc]
      exact holds.verdict (marked verdict member) stepped)
    (by simpa using before) accepted
  simpa using loop

/-- The state of the observing loops when the pass is made again: the findings are those
from the start, described once more. -/
structure Repeating (pass : CoveragePass) (start : Store) (earlier : List OpportunityDraft)
    (state : PassState) : Prop where
  store : state.store = { start with findings := describedTable pass earlier start.findings }
  created : state.result.created = 0
  uncertain : state.result.uncertain = 0

/-- A draft with a finding is an update of that finding. -/
theorem upsert_again {start : Store} {draft : OpportunityDraft} {finding : Finding}
    (member : finding ∈ start.findings.rows) (aimed : draft.fingerprint = .ok finding.fingerprint) :
    ∃ action, action ≠ .created ∧
      upsert pass { start with findings := describedTable pass earlier start.findings } draft =
        .ok (redescribed pass.run.id pass.generatedAt draft (described pass earlier finding), action,
          { start with findings := describedTable pass (earlier ++ [draft]) start.findings }) := by
  have found : (describedTable pass earlier start.findings).findUnique? finding.fingerprint =
      some (described pass earlier finding) := findUnique?_overwrite member
  have put : (describedTable pass earlier start.findings).put
      (redescribed pass.run.id pass.generatedAt draft (described pass earlier finding)) =
        describedTable pass (earlier ++ [draft]) start.findings :=
    put_overwrite member (toOption_eq_some.mpr aimed)
  refine ⟨if wasSame pass.run.id draft (described pass earlier finding) then .unchanged
    else .updated, ?_, ?_⟩
  · split_ifs <;> exact UpsertAction.noConfusion
  · rw [upsert, aimed, ok_bind]
    dsimp only
    rw [found]
    dsimp only [Store.putFinding]
    rw [put]
    rfl

/-- One more draft of the pass that is made again. -/
theorem Repeating.step {start : Store} {state : PassState} {draft : OpportunityDraft}
    {finding : Finding} (before : Repeating pass start earlier state)
    (member : finding ∈ start.findings.rows)
    (aimed : draft.fingerprint = .ok finding.fingerprint) :
    ∃ next, observeDraft pass state draft = .ok next ∧
      Repeating pass start (earlier ++ [draft]) next := by
  obtain ⟨action, old, updated⟩ := @upsert_again _ _ _ pass earlier start draft finding member aimed
  refine ⟨_, bind_eq_ok.mpr ⟨_, by rw [before.store]; exact updated, rfl⟩, rfl, ?_, ?_⟩
  · rw [← before.created]
    unfold RdsReservationOpportunityResult.found
    cases action with
    | created => exact absurd rfl old
    | updated => split_ifs <;> rfl
    | unchanged => split_ifs <;> rfl
  · rw [← before.uncertain]
    unfold RdsReservationOpportunityResult.found
    split_ifs <;> cases action <;> rfl

/-- One more verdict of the pass that is made again. -/
theorem Repeating.verdict {start : Store} {state : PassState} {said : RowVerdict}
    (before : Repeating pass start earlier state)
    (drafted : ∀ draft ∈ drafts said, ∃ finding ∈ start.findings.rows,
      draft.fingerprint = .ok finding.fingerprint) :
    ∃ next, applyVerdict pass state said = .ok next ∧
      Repeating pass start (earlier ++ drafts said) next := by
  cases said with
  | stale fingerprints =>
    refine ⟨_, rfl, ?_⟩
    rw [drafts, List.append_nil]
    exact ⟨before.store, before.created, before.uncertain⟩
  | unknown fingerprints =>
    refine ⟨_, rfl, ?_⟩
    rw [drafts, List.append_nil]
    exact ⟨before.store, before.created, before.uncertain⟩
  | conclusive rows =>
    refine foldlM_succeeds earlier (Repeating pass start) (fun draft member _ _ holds => ?_) before
    obtain ⟨finding, stored, aimed⟩ := drafted draft member
    exact holds.step stored aimed

/-- The pass that is made again, over all the verdicts. -/
theorem Repeating.verdicts {start : Store} {state : PassState} {said : List RowVerdict}
    (before : Repeating pass start earlier state)
    (drafted : ∀ draft ∈ said.flatMap drafts, ∃ finding ∈ start.findings.rows,
      draft.fingerprint = .ok finding.fingerprint) :
    ∃ next, said.foldlM (applyVerdict pass) state = .ok next ∧
      Repeating pass start (earlier ++ said.flatMap drafts) next := by
  have progress : ∀ verdict ∈ said, ∀ done current,
      Repeating pass start (earlier ++ done.flatMap drafts) current →
        ∃ next, applyVerdict pass current verdict = .ok next ∧
          Repeating pass start (earlier ++ (done ++ [verdict]).flatMap drafts) next := by
    intro verdict member done current holds
    rw [List.flatMap_append, List.flatMap_singleton, ← List.append_assoc]
    exact holds.verdict fun draft inside =>
      drafted draft (List.mem_flatMap.mpr ⟨verdict, member, inside⟩)
  have initially : Repeating pass start (earlier ++ [].flatMap drafts) state := by
    simpa using before
  exact foldlM_succeeds []
    (fun done current => Repeating pass start (earlier ++ done.flatMap drafts) current) progress
    initially

end Loops

section Settling

variable [CaseMapping]

omit [CaseMapping] in
/-- A pass does not change whether a finding is one of its own. -/
theorem isExisting_of_rewritten {before after : Finding} (rewritten : Rewritten before after) :
    isExisting after = isExisting before := by
  have subject := rewritten.subject
  simp only [Finding.subject, Subject.mk.injEq] at subject
  obtain ⟨-, -, provider, -, rule, service, -, -⟩ := subject
  have archived := congrArg ArchiveState.archivedAt rewritten.archiveState
  simp only [Finding.archiveState] at archived
  unfold isExisting
  rw [provider, rule, service, archived]

theorem authority_of_subject (pass : CoveragePass) {before after : Finding}
    (same : after.subject = before.subject) : authority pass after = authority pass before := by
  simp only [Finding.subject, Subject.mk.injEq] at same
  obtain ⟨-, -, -, account, rule, -, region, resource⟩ := same
  unfold authority coverageAuthority reservationAuthority resourceKey
  rw [account, rule, region, resource]

omit [CaseMapping] in
/-- A finding that a run resolved, or held uncertain, is left alone by the same run. -/
theorem resolve_next (runId : ℤ) (now : Instant) (reason : String) (finding : Finding) :
    resolve runId now reason ((resolve runId now reason finding).next finding) = .kept := by
  by_cases already : finding.presenceStatus = .resolvedExternally ∧
      finding.presenceReconciledRunId = some (runMarker runId)
  · have kept : resolve runId now reason finding = .kept := if_pos already
    rw [kept, Settlement.next, kept]
  · have written : resolve runId now reason finding =
        .resolved (resolvedFinding runId now reason finding) := if_neg already
    rw [written]
    exact if_pos ⟨rfl, rfl⟩

omit [CaseMapping] in
theorem markUncertain_next (runId : ℤ) (now : Instant) (reason : String) (finding : Finding) :
    markUncertain runId now reason ((markUncertain runId now reason finding).next finding) =
      .kept := by
  by_cases already : finding.presenceStatus = .missing ∧
      finding.presenceReconciledRunId = some (runMarker runId)
  · have kept : markUncertain runId now reason finding = .kept := if_pos already
    rw [kept, Settlement.next, kept]
  · have written : markUncertain runId now reason finding =
        .uncertain (uncertainFinding runId now reason finding) := if_neg already
    rw [written]
    exact if_pos ⟨rfl, rfl⟩

theorem settle_next (pass : CoveragePass) (finding : Finding) :
    settle pass ((settle pass finding).next finding) = .kept := by
  have same := authority_of_subject pass (settle_conservative pass finding).subject
  revert same
  unfold settle
  dsimp only
  cases decided : (authority pass finding).1 with
  | true =>
    rw [if_pos rfl]
    intro same
    rw [same, decided, if_pos rfl]
    exact resolve_next _ _ _ finding
  | false =>
    rw [if_neg Bool.false_ne_true]
    intro same
    rw [same, decided, if_neg Bool.false_ne_true]
    exact markUncertain_next _ _ _ finding

/-- A settlement is final for its run. -/
theorem settlementOf_next {pass : CoveragePass} {uncertain again : List String}
    (same : ∀ fingerprint, fingerprint ∈ again ↔ fingerprint ∈ uncertain) (finding : Finding) :
    settlementOf pass again ((settlementOf pass uncertain finding).next finding) = .kept := by
  have rewritten := settlementOf_conservative pass uncertain finding
  have existing := isExisting_of_rewritten rewritten
  have fingerprint := Finding.fingerprint_of_subject rewritten.subject
  revert existing fingerprint
  unfold settlementOf
  by_cases old : isExisting finding = true
  · by_cases doubtful : finding.fingerprint ∈ uncertain
    · rw [if_pos old, if_pos doubtful]
      intro existing fingerprint
      rw [if_pos (existing.trans old), fingerprint, if_pos ((same _).mpr doubtful)]
      exact markUncertain_next _ _ _ finding
    · rw [if_pos old, if_neg doubtful]
      intro existing fingerprint
      rw [if_pos (existing.trans old), fingerprint,
        if_neg fun again => doubtful ((same _).mp again)]
      exact settle_next pass finding
  · rw [if_neg old]
    intro existing _
    exact if_neg old

omit [CaseMapping] in
theorem foldl_settleFingerprint_of_kept {settlement : Finding → Settlement} {state : PassState}
    {fingerprints : List String} (kept : ∀ finding ∈ state.store.findings.rows,
      finding.fingerprint ∈ fingerprints → settlement finding = .kept) :
    fingerprints.foldl (settleFingerprint settlement) state = state := by
  induction fingerprints with
  | nil => rfl
  | cons fingerprint rest inductionHypothesis =>
    have first : settleFingerprint settlement state fingerprint = state := by
      unfold settleFingerprint
      split
      · rfl
      · rename_i finding found
        obtain ⟨member, rfl⟩ := Table.findUnique?_eq_some.mp found
        rw [kept finding member (List.mem_cons_self ..)]
        rfl
    rw [List.foldl_cons, first]
    exact inductionHypothesis fun finding member later =>
      kept finding member (List.mem_cons_of_mem _ later)

/-- Where every settlement is made already, the settling loops change nothing. -/
theorem settleRows_of_kept {pass : CoveragePass} {store : Store} {state : PassState}
    (same : state.store = store)
    (kept : ∀ finding ∈ store.findings.rows, finding.fingerprint ∉ state.observed →
      settlementOf pass state.uncertain finding = .kept) :
    settleRows pass (existingByFingerprint store) state = state := by
  subst same
  have first : (state.uncertain.eraseDups.filter fun fingerprint =>
      fingerprint ∈ existingByFingerprint state.store && fingerprint ∉ state.observed).foldl
        (settleFingerprint (settleUncertain pass)) state = state := by
    apply foldl_settleFingerprint_of_kept
    intro finding member listed
    simp only [List.mem_filter, List.mem_eraseDups, Bool.and_eq_true, decide_eq_true_eq] at listed
    obtain ⟨doubtful, old, outside⟩ := listed
    rw [← kept finding member outside, settlementOf,
      if_pos ((mem_existingByFingerprint member).mp old), if_pos doubtful]
  unfold settleRows
  rw [first]
  apply foldl_settleFingerprint_of_kept
  intro finding member listed
  simp only [List.mem_filter, Bool.and_eq_true, decide_eq_true_eq] at listed
  obtain ⟨old, outside, certain⟩ := listed
  rw [← kept finding member outside, settlementOf,
    if_pos ((mem_existingByFingerprint member).mp old), if_neg certain]

end Settling

section Passes

variable [CaseMapping] [Digest] [GeneralFormat] [UuidSource] {pass : CoveragePass}

omit [GeneralFormat] [UuidSource] in
/-- After a pass every finding is as the drafts describe it, or out of their reach. -/
theorem described_after_pass {store : Store} {state : PassState}
    {drafted : List OpportunityDraft} (loops : Described pass drafted state) :
    ∀ finding ∈ (settleRows pass (existingByFingerprint store) state).store.findings.rows,
      described pass drafted finding = finding := by
  obtain ⟨rows, -, -⟩ := settleRows_spec pass (existingByFingerprint_nodup store) state
  intro finding member
  rw [rows] at member
  obtain ⟨row, rowMember, rfl⟩ := List.mem_map.mp member
  split_ifs with reached doubtful
  · exact described_of_unobserved loops
      (settleUncertain_conservative pass row).subject reached.2
  · exact described_of_unobserved loops (settle_conservative pass row).subject reached.2
  · exact loops.bears row rowMember

omit [GeneralFormat] [UuidSource] in
/-- The finding of a draft is among those after the pass. -/
theorem drafted_after_pass {store : Store} {state : PassState}
    {drafted : List OpportunityDraft} (loops : Described pass drafted state) :
    ∀ draft ∈ drafted, ∃ finding ∈
        (settleRows pass (existingByFingerprint store) state).store.findings.rows,
      draft.fingerprint = .ok finding.fingerprint := by
  obtain ⟨rows, -, -⟩ := settleRows_spec pass (existingByFingerprint_nodup store) state
  intro draft member
  obtain ⟨finding, stored, aimed, observed⟩ := loops.drafted draft member
  refine ⟨finding, ?_, aimed⟩
  rw [rows]
  exact List.mem_map.mpr ⟨finding, stored, if_neg fun reached => reached.2 observed⟩

omit [UuidSource] in
/-- A finding after a pass that the run does not observe is one that the pass settled. -/
theorem settled_after_pass {store after : Store} {result : RdsReservationOpportunityResult}
    {observed uncertain : List String}
    (outcome : PassOutcome pass store after result observed uncertain) {finding : Finding}
    (member : finding ∈ after.findings.rows) (outside : finding.fingerprint ∉ observed) :
    ∃ old ∈ store.findings.rows, (settlementOf pass uncertain old).next old = finding := by
  rcases outcome.fresh finding member with ⟨old, oldMember, sameId⟩ | ⟨-, seen⟩
  · by_cases seen : old.fingerprint ∈ observed
    · obtain ⟨next, nextMember, rewritten, -⟩ := outcome.seen old oldMember seen
      obtain rfl := after.findings.eq_of_key nextMember member
        ((Finding.id_of_subject rewritten.subject).trans sameId)
      rw [Finding.fingerprint_of_subject rewritten.subject] at outside
      exact absurd seen outside
    · refine ⟨old, oldMember, ?_⟩
      have rewritten := settlementOf_conservative pass uncertain old
      exact after.findings.eq_of_key (outcome.settled old oldMember seen) member
        ((Finding.id_of_subject rewritten.subject).trans sameId)
  · exact absurd seen outside

/-- A pass that is made again leaves the store, and counts nothing as created, resolved or
uncertain. -/
theorem generatePass_again {store after : Store} {result : RdsReservationOpportunityResult}
    (accepted : generatePass pass store = .ok (result, after)) :
    ∃ again, generatePass pass after = .ok (again, after) ∧
      again.created = 0 ∧ again.resolved = 0 ∧ again.uncertain = 0 := by
  obtain ⟨observed, uncertain, outcome⟩ := generatePass_eq_ok accepted
  simp only [generatePass, bind_eq_ok] at accepted
  obtain ⟨state, looped, finished⟩ := accepted
  obtain ⟨said, decided, applied⟩ := observeRows_eq_ok.mp looped
  have loops := (Described.start pass store).verdicts (verdicts_marked decided) applied
  have bears := @described_after_pass _ _ pass store state _ loops
  have drafted := @drafted_after_pass _ _ pass store state _ loops
  have sameStore : (settleRows pass (existingByFingerprint store) state).store = after :=
    congrArg Prod.snd (Except.ok.inj finished)
  rw [sameStore] at bears drafted
  -- the loops, once more
  have start : Repeating pass after [] ⟨.start pass.run.id, after, [], []⟩ := by
    refine ⟨?_, rfl, rfl⟩
    have same : describedTable pass [] after.findings = after.findings :=
      overwrite_eq_self fun _ _ => rfl
    rw [same]
  obtain ⟨last, appliedAgain, repeated⟩ := start.verdicts drafted
  have loopedAgain := observeRows_eq_ok.mpr ⟨said, decided, appliedAgain⟩
  obtain ⟨observing, observed_iff, uncertain_iff⟩ := observing_observeRows loopedAgain
  have lastStore : last.store = after := by
    have same : describedTable pass ([] ++ said.flatMap drafts) after.findings = after.findings :=
      overwrite_eq_self bears
    rw [repeated.store, same]
  -- nothing is left to settle
  have settled : settleRows pass (existingByFingerprint after) last = last := by
    refine settleRows_of_kept lastStore fun finding member outside => ?_
    rw [observed_iff, ← outcome.observed_iff] at outside
    obtain ⟨old, -, rfl⟩ := settled_after_pass outcome member outside
    exact settlementOf_next (fun fingerprint => by rw [uncertain_iff, outcome.uncertain_iff]) old
  refine ⟨last.result, bind_eq_ok.mpr ⟨last, loopedAgain, ?_⟩, repeated.created,
    observing.resolved, repeated.uncertain⟩
  rw [settled]
  dsimp only
  rw [lastStore]
  rfl

variable [SystemClock]

/-- A call for a completed run at an instant, made a second time, leaves the store as the
first call left it: it creates nothing, and resolves or misses nothing more. Neither
call changes the decision, the review mark or the archive of a finding that existed. -/
theorem generate_again {settings : RdsReservationSettings} {tables : RdsTables}
    {store after : Store} {coverageRunId : Option ℤ} {now : Instant}
    {result : RdsReservationOpportunityResult}
    (accepted : generateRdsReservationOpportunities settings tables store coverageRunId
      (some now) = .ok (result, after)) :
    (∃ again, generateRdsReservationOpportunities settings tables after coverageRunId (some now) =
        .ok (again, after) ∧ again.created = 0 ∧ again.resolved = 0 ∧ again.uncertain = 0) ∧
      ∀ finding ∈ store.findings.rows, ∃ next ∈ after.findings.rows, Rewritten finding next := by
  simp only [generateRdsReservationOpportunities, bind_eq_ok] at accepted ⊢
  obtain ⟨run, found, passed⟩ := accepted
  obtain ⟨observed, uncertain, outcome⟩ := generatePass_eq_ok passed
  refine ⟨?_, fun finding member => ?_⟩
  · obtain ⟨again, repeated, counts⟩ := generatePass_again passed
    obtain ⟨findings, drawn, -, rfl⟩ := outcome.frame
    exact ⟨again, ⟨run, found, repeated⟩, counts⟩
  · by_cases seen : finding.fingerprint ∈ observed
    · obtain ⟨next, nextMember, rewritten, -⟩ := outcome.seen finding member seen
      exact ⟨next, nextMember, rewritten⟩
    · exact ⟨_, outcome.settled finding member seen,
        settlementOf_conservative _ uncertain finding⟩

end Passes

section Sample

attribute [local instance] asciiCase asciiAlphabet plainDigest integralFormat countingUuids
  countingClock

/-- A run in which one instance has no coverage and another one was deleted. -/
def staffedTables : RdsTables :=
  { retiredTables with
    instances := { RdsInventory.sampleInstance 2 "db-2" with collectedAt := 21 } ::
      retiredTables.instances
    coverage := [
      { coverageRunId := 2
        rdsInstanceId := 2
        accountId := "111"
        region := "eu-west-1"
        requiredUnits := 4
        coveredUnits := 0
        uncoveredUnits := 4
        coveragePercentage := 0
        coverageStatus := .uncovered
        coverageScope := "SAME_ACCOUNT"
        calculationMethod := "NORMALIZED_UNITS"
        explanation := "" }] }

/-- The first call creates a finding and resolves another one. The second one does
neither. -/
theorem staffed_again :
    ∃ result after, generateRdsReservationOpportunities defaultSettings staffedTables uncoveredStore
        (some 2) (some 21) = .ok (result, after) ∧ result.created = 1 ∧ result.resolved = 1 ∧
      ∃ again, generateRdsReservationOpportunities defaultSettings staffedTables after (some 2)
        (some 21) = .ok (again, after) ∧ again.created = 0 ∧ again.resolved = 0 := by
  have counts : (generateRdsReservationOpportunities defaultSettings staffedTables uncoveredStore
      (some 2) (some 21)).map (fun done => (done.1.created, done.1.resolved)) = .ok (1, 1) := by
    decide +kernel
  cases done : generateRdsReservationOpportunities defaultSettings staffedTables uncoveredStore
      (some 2) (some 21) with
  | error raised =>
    rw [done] at counts
    cases counts
  | ok outcome =>
    rw [done] at counts
    obtain ⟨⟨again, repeated, created, resolved, -⟩, -⟩ := generate_again done
    obtain ⟨createdOnce, resolvedOnce⟩ := Prod.mk.inj (Except.ok.inj counts)
    exact ⟨outcome.1, outcome.2, rfl, createdOnce, resolvedOnce, again, repeated, created, resolved⟩

end Sample

end FinopsAnalytics.RdsReservationRepeats
