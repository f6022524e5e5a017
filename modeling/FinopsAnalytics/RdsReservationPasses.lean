import FinopsAnalytics.RdsReservationOpportunities

/-!
# What a pass does to the findings

The observing loops replace the findings whose fingerprints they observe and
create missing ones. The settling loops map the rest. Together they say, for
each finding, what the pass leaves of it.
-/

namespace FinopsAnalytics.RdsReservationPasses

open UniqueTables OpportunityRecords OpportunityFingerprint RdsReservationVerdicts
  RdsReservationOpportunities PythonText Fallible

/-- A pass leaves the subject, the decision, the review mark and the archive. -/
structure Rewritten (before after : Finding) : Prop where
  subject : after.subject = before.subject
  decision : after.decision = before.decision
  review : after.needsReview = before.needsReview
  archiveState : after.archiveState = before.archiveState

theorem Rewritten.refl (finding : Finding) : Rewritten finding finding := ⟨rfl, rfl, rfl, rfl⟩

theorem Rewritten.trans {first second third : Finding} (before : Rewritten first second)
    (after : Rewritten second third) : Rewritten first third :=
  ⟨after.subject.trans before.subject, after.decision.trans before.decision,
    after.review.trans before.review, after.archiveState.trans before.archiveState⟩

/-- The presence of a finding that the pass observes. -/
def observedPresence (pass : CoveragePass) : TechnicalPresence where
  status := .active
  missingCount := 0
  missingSinceAt := none
  resolvedExternallyAt := none
  reconciledRunId := some (runMarker pass.run.id)
  reconciledAt := some pass.generatedAt

section Settling

/-- The settlements of findings keep what a pass keeps. -/
def Conservative (settlement : Finding → Settlement) : Prop :=
  ∀ finding, Rewritten finding ((settlement finding).next finding)

/-- Resolving keeps subject, decision, review mark and archive. -/
theorem resolve_conservative (runId : ℤ) (now : Instant) (reason : String) (finding : Finding) :
    Rewritten finding ((resolve runId now reason finding).next finding) := by
  unfold resolve
  split <;> exact ⟨rfl, rfl, rfl, rfl⟩

/-- So does marking a finding uncertain. -/
theorem markUncertain_conservative (runId : ℤ) (now : Instant) (reason : String)
    (finding : Finding) :
    Rewritten finding ((markUncertain runId now reason finding).next finding) := by
  unfold markUncertain
  split <;> exact ⟨rfl, rfl, rfl, rfl⟩

theorem settle_conservative [CaseMapping] (pass : CoveragePass) : Conservative (settle pass) := by
  intro finding
  unfold settle
  dsimp only
  split
  · exact resolve_conservative _ _ _ finding
  · exact markUncertain_conservative _ _ _ finding

theorem settleUncertain_conservative (pass : CoveragePass) :
    Conservative (settleUncertain pass) :=
  markUncertain_conservative _ _ _

/-- A settled finding is not active. -/
theorem resolve_inactive (runId : ℤ) (now : Instant) (reason : String) (finding : Finding) :
    ((resolve runId now reason finding).next finding).presenceStatus = .resolvedExternally := by
  unfold resolve
  split
  · rename_i already
    exact already.1
  · rfl

/-- An uncertain finding is missing. -/
theorem markUncertain_missing (runId : ℤ) (now : Instant) (reason : String) (finding : Finding) :
    ((markUncertain runId now reason finding).next finding).presenceStatus = .missing := by
  unfold markUncertain
  split
  · rename_i already
    exact already.1
  · rfl

/-- A settled finding is active no longer. -/
theorem settle_inactive [CaseMapping] (pass : CoveragePass) (finding : Finding) :
    ((settle pass finding).next finding).presenceStatus ≠ .active := by
  unfold settle
  dsimp only
  split
  · rw [resolve_inactive]
    decide
  · rw [markUncertain_missing]
    decide

/-- One settlement maps the finding with the fingerprint and counts it if it is
resolved. -/
theorem settleFingerprint_spec {settlement : Finding → Settlement}
    (conservative : Conservative settlement) (state : PassState) (fingerprint : String) :
    (settleFingerprint settlement state fingerprint).store.findings.rows =
        (state.store.findings.rows.map fun row =>
          if row.fingerprint = fingerprint then (settlement row).next row else row) ∧
      (settleFingerprint settlement state fingerprint).result.resolved =
        state.result.resolved + state.store.findings.rows.countP fun row =>
          row.fingerprint = fingerprint && (settlement row).isResolved := by
  unfold settleFingerprint
  split
  · rename_i missing
    rw [Table.findUnique?_eq_none] at missing
    refine ⟨?_, ?_⟩
    · conv_lhs => rw [← List.map_id state.store.findings.rows]
      apply List.map_congr_left
      intro row member
      rw [if_neg (missing row member)]
      rfl
    · rw [List.countP_eq_zero.mpr fun row member => by simp [missing row member]]
      rfl
  · rename_i finding found
    obtain ⟨member, rfl⟩ := Table.findUnique?_eq_some.mp found
    have keeps := (conservative finding).subject
    have put : (state.store.findings.put ((settlement finding).next finding)).rows =
        state.store.findings.rows.map fun row =>
          if row.fingerprint = finding.fingerprint then (settlement row).next row else row := by
      rw [Table.rows_put_unique member (Finding.id_of_subject keeps).symm
        (Finding.fingerprint_of_subject keeps).symm]
      apply List.map_congr_left
      intro row rowMember
      rw [Finding.fingerprint_of_subject keeps]
      split_ifs with same
      · rw [state.store.findings.eq_of_unique rowMember member same]
      · rfl
    have count := Table.countP_unique member fun row => (settlement row).isResolved
    rw [count]
    rw [← put]
    cases settlement finding with
    | kept => exact ⟨by rw [Settlement.next, Table.put_self member]; rfl, rfl⟩
    | resolved next => exact ⟨rfl, rfl⟩
    | uncertain next => exact ⟨rfl, rfl⟩

/-- A settlement changes the findings and the counts only. -/
theorem settleFingerprint_frame (settlement : Finding → Settlement) (state : PassState)
    (fingerprint : String) :
    (settleFingerprint settlement state fingerprint).observed = state.observed ∧
      (settleFingerprint settlement state fingerprint).uncertain = state.uncertain ∧
      ∃ findings, (settleFingerprint settlement state fingerprint).store =
        { state.store with findings } := by
  unfold settleFingerprint
  split
  · exact ⟨rfl, rfl, _, rfl⟩
  · rename_i finding found
    cases settlement finding <;> exact ⟨rfl, rfl, _, rfl⟩

/-- A settling loop from one state to another over some fingerprints. -/
structure SettledAll (settlement : Finding → Settlement) (fingerprints : List String)
    (before after : PassState) : Prop where
  rows : after.store.findings.rows = before.store.findings.rows.map fun row =>
    if row.fingerprint ∈ fingerprints then (settlement row).next row else row
  resolved : after.result.resolved = before.result.resolved +
    before.store.findings.rows.countP fun row =>
      row.fingerprint ∈ fingerprints && (settlement row).isResolved
  observed : after.observed = before.observed
  uncertain : after.uncertain = before.uncertain
  frame : ∃ findings, after.store = { before.store with findings }

/-- One settlement for each fingerprint, by the loop. -/
theorem settledAll_foldl {settlement : Finding → Settlement}
    (conservative : Conservative settlement) {fingerprints : List String}
    (distinct : fingerprints.Nodup) (state : PassState) :
    SettledAll settlement fingerprints state
      (fingerprints.foldl (settleFingerprint settlement) state) := by
  induction fingerprints generalizing state with
  | nil =>
    refine ⟨?_, ?_, rfl, rfl, _, rfl⟩
    · simp
    · simp
  | cons fingerprint rest inductionHypothesis =>
    rw [List.nodup_cons] at distinct
    obtain ⟨fresh, distinctRest⟩ := distinct
    obtain ⟨rows, resolved⟩ := settleFingerprint_spec conservative state fingerprint
    obtain ⟨observed, uncertain, findings, frame⟩ :=
      settleFingerprint_frame settlement state fingerprint
    obtain ⟨laterRows, laterResolved, laterObserved, laterUncertain, laterFindings, laterFrame⟩ :=
      inductionHypothesis distinctRest (settleFingerprint settlement state fingerprint)
    have kept (row : Finding) : ((settlement row).next row).fingerprint = row.fingerprint :=
      Finding.fingerprint_of_subject (conservative row).subject
    rw [List.foldl_cons]
    refine ⟨?_, ?_, laterObserved.trans observed, laterUncertain.trans uncertain, laterFindings,
      ?_⟩
    · rw [laterRows, rows, List.map_map]
      apply List.map_congr_left
      intro row _
      by_cases first : row.fingerprint = fingerprint
      · simp [first, kept, fresh]
      · simp [first]
    · -- a row is counted at its own fingerprint, the first or a later one
      rw [laterResolved, resolved, rows, List.countP_map, Nat.add_assoc]
      congr 1
      have exclusive (row : Finding) :
          (row.fingerprint = fingerprint && (settlement row).isResolved) = true →
            (row.fingerprint ∈ rest && (settlement row).isResolved) = false := by
        intro counted
        simp only [Bool.and_eq_true, decide_eq_true_eq] at counted
        simp [counted.1, fresh]
      have later : state.store.findings.rows.countP ((fun row => row.fingerprint ∈ rest &&
          (settlement row).isResolved) ∘ fun row => if row.fingerprint = fingerprint then
            (settlement row).next row else row) = state.store.findings.rows.countP fun row =>
              row.fingerprint ∈ rest && (settlement row).isResolved := by
        apply List.countP_congr
        intro row _
        by_cases first : row.fingerprint = fingerprint
        · simp [first, kept, fresh]
        · simp [first]
      rw [later, ← countP_exclusive exclusive]
      apply List.countP_congr
      intro row _
      simp only [List.mem_cons]
      by_cases first : row.fingerprint = fingerprint <;> simp [first, fresh]
    · rw [laterFrame, frame]

end Settling

/-- A finding that a pass created: open, outside the archive, present, and identified
by its account, region, resource and rule. -/
structure NewlyObserved [CaseMapping] [Digest] (pass : CoveragePass) (finding : Finding) :
    Prop where
  provider : finding.provider = "aws"
  service : finding.service = "rds"
  identified : ∃ region, finding.region = some region ∧
    rdsFingerprint finding.accountId region finding.resourceId finding.ruleKey =
      .ok finding.fingerprint
  status : finding.status = .open_
  unarchived : finding.archivedAt = none
  presence : finding.presence = observedPresence pass

theorem NewlyObserved.rewritten [CaseMapping] [Digest] {pass : CoveragePass}
    {before after : Finding} (new : NewlyObserved pass before) (rewritten : Rewritten before after)
    (presence : after.presence = observedPresence pass) : NewlyObserved pass after := by
  have subject := rewritten.subject
  simp only [Finding.subject, Subject.mk.injEq] at subject
  obtain ⟨-, fingerprint, provider, account, rule, service, region, resource⟩ := subject
  obtain ⟨known, isRegion, built⟩ := new.identified
  refine ⟨provider.trans new.provider, service.trans new.service,
    ⟨known, region.trans isRegion, ?_⟩, ?_, ?_, presence⟩
  · rw [account, resource, rule, fingerprint]
    exact built
  · exact (Finding.status_of_decision rewritten.decision).trans new.status
  · exact (congrArg ArchiveState.archivedAt rewritten.archiveState).trans new.unarchived

/-- A pass changes the findings and draws identifiers. -/
def PassFrame (before after : Store) : Prop :=
  ∃ findings drawn, before.drawn ≤ drawn ∧ after = { before with findings, drawn }

theorem PassFrame.refl (store : Store) : PassFrame store store := ⟨_, _, le_rfl, rfl⟩

theorem PassFrame.trans {first second third : Store} (before : PassFrame first second)
    (after : PassFrame second third) : PassFrame first third := by
  obtain ⟨findings, drawn, later, rfl⟩ := before
  obtain ⟨laterFindings, laterDrawn, further, rfl⟩ := after
  exact ⟨_, _, later.trans further, rfl⟩

/-- What an upsert does: it replaces the finding with the fingerprint of the draft, or
inserts it. -/
structure Upserted [CaseMapping] [Digest] (pass : CoveragePass) (draft : OpportunityDraft)
    (before after : Store) (next : Finding) : Prop where
  fingerprint : draft.fingerprint = .ok next.fingerprint
  presence : next.presence = observedPresence pass
  findings : (∃ stored ∈ before.findings.rows, Rewritten stored next ∧
      after.findings = before.findings.put next) ∨
    (NewlyObserved pass next ∧ before.findings.insert next = some after.findings)
  frame : PassFrame before after

section Observing

variable [CaseMapping] [Digest] [UuidSource]

variable {pass : CoveragePass} {draft : OpportunityDraft} {state next : PassState}

/-- What an accepted upsert has stored. -/
theorem upsert_eq_ok {store after : Store} {next : Finding} {action : UpsertAction}
    (accepted : upsert pass store draft = .ok (next, action, after)) :
    Upserted pass draft store after next := by
  simp only [upsert, bind_eq_ok] at accepted
  obtain ⟨fingerprint, built, rest⟩ := accepted
  split at rest
  · rename_i finding found
    obtain ⟨member, rfl⟩ := Table.findUnique?_eq_some.mp found
    cases rest
    exact ⟨built, rfl, Or.inl ⟨finding, member, ⟨rfl, rfl, rfl, rfl⟩, rfl⟩, _, _, le_rfl, rfl⟩
  · rename_i missing
    simp only [Store.draw] at rest
    split at rest
    · rename_i findings inserted
      cases rest
      exact ⟨built, rfl, Or.inr ⟨⟨rfl, rfl, ⟨_, rfl, built⟩, rfl, rfl, rfl⟩, inserted⟩, _, _,
        Nat.le_succ _, rfl⟩
    · rw [missing] at rest
      cases rest

/-- The state of the observing loops since the start of a pass. A finding stays as it
was until its fingerprint is observed. -/
structure Observing (pass : CoveragePass) (start : Store) (state : PassState) : Prop where
  kept : ∀ finding ∈ start.findings.rows, finding.fingerprint ∉ state.observed →
    finding ∈ state.store.findings.rows
  seen : ∀ finding ∈ start.findings.rows, finding.fingerprint ∈ state.observed →
    ∃ next ∈ state.store.findings.rows, Rewritten finding next ∧
      next.presence = observedPresence pass
  present : ∀ fingerprint ∈ state.observed, ∃ next ∈ state.store.findings.rows,
    next.fingerprint = fingerprint ∧ next.presence = observedPresence pass
  fresh : ∀ next ∈ state.store.findings.rows, (∃ finding ∈ start.findings.rows,
    finding.id = next.id) ∨ (NewlyObserved pass next ∧ next.fingerprint ∈ state.observed)
  frame : PassFrame start state.store
  resolved : state.result.resolved = 0

omit [UuidSource] in
theorem Observing.start (pass : CoveragePass) (store : Store) :
    Observing pass store ⟨.start pass.run.id, store, [], []⟩ :=
  ⟨fun _ member _ => member, fun _ _ observed => absurd observed List.not_mem_nil,
    fun _ observed => absurd observed List.not_mem_nil, fun next member => Or.inl ⟨next, member, rfl⟩, PassFrame.refl store, rfl⟩

omit [UuidSource] in
/-- Replacing or inserting an observed finding keeps the state of the loops. -/
theorem Observing.step {start after : Store} {state : PassState} {next : Finding}
    (observing : Observing pass start state) (upserted : Upserted pass draft state.store after next)
    {result : RdsReservationOpportunityResult}
    (sameResolved : result.resolved = state.result.resolved) :
    Observing pass start
      { state with result, store := after, observed := state.observed ++ [next.fingerprint] } := by
  have listed {fingerprint : String} (outside : fingerprint ∉ state.observed ++ [next.fingerprint]) :
      fingerprint ∉ state.observed ∧ fingerprint ≠ next.fingerprint := by
    simpa using outside
  have member_next : next ∈ after.findings.rows := by
    rcases upserted.findings with ⟨stored, member, rewritten, put⟩ | ⟨-, inserted⟩
    · rw [put, Table.mem_put member (Finding.id_of_subject rewritten.subject).symm
        (Finding.fingerprint_of_subject rewritten.subject).symm]
      exact Or.inl rfl
    · rw [(Table.rows_of_insert inserted).1]
      exact List.mem_append_right _ (List.mem_singleton.mpr rfl)
  -- every other row stays
  have stays {row : Finding} (member : row ∈ state.store.findings.rows)
      (other : row.fingerprint ≠ next.fingerprint) : row ∈ after.findings.rows := by
    rcases upserted.findings with ⟨stored, storedMember, rewritten, put⟩ | ⟨-, inserted⟩
    · have sameId := (Finding.id_of_subject rewritten.subject).symm
      have sameFingerprint := (Finding.fingerprint_of_subject rewritten.subject).symm
      rw [put, Table.mem_put storedMember sameId sameFingerprint]
      refine Or.inr ⟨member, fun same => other ?_⟩
      rw [state.store.findings.eq_of_key member storedMember (same.trans sameId.symm),
        sameFingerprint]
    · rw [(Table.rows_of_insert inserted).1]
      exact List.mem_append_left _ member
  have replaced {row : Finding} (member : row ∈ state.store.findings.rows)
      (same : row.fingerprint = next.fingerprint) : Rewritten row next := by
    rcases upserted.findings with ⟨stored, storedMember, rewritten, -⟩ | ⟨-, inserted⟩
    · have sameFingerprint := Finding.fingerprint_of_subject rewritten.subject
      rwa [state.store.findings.eq_of_unique member storedMember (same.trans sameFingerprint)]
    · exact absurd (List.mem_map.mpr ⟨row, member, same⟩) (Table.rows_of_insert inserted).2.2
  refine ⟨fun finding member outside => ?_, fun finding member observed => ?_,
    fun fingerprint observed => ?_, fun row member => ?_, observing.frame.trans upserted.frame,
    sameResolved.trans observing.resolved⟩
  · obtain ⟨before, other⟩ := listed outside
    exact stays (observing.kept finding member before) other
  · by_cases turn : finding.fingerprint = next.fingerprint
    · refine ⟨next, member_next, ?_, upserted.presence⟩
      by_cases before : finding.fingerprint ∈ state.observed
      · obtain ⟨row, rowMember, rewritten, -⟩ := observing.seen finding member before
        refine rewritten.trans (replaced rowMember ?_)
        exact (Finding.fingerprint_of_subject rewritten.subject).trans turn
      · exact replaced (observing.kept finding member before) turn
    · have before : finding.fingerprint ∈ state.observed := by simpa [turn] using observed
      obtain ⟨row, rowMember, rewritten, presence⟩ := observing.seen finding member before
      refine ⟨row, stays rowMember ?_, rewritten, presence⟩
      rwa [Finding.fingerprint_of_subject rewritten.subject]
  · by_cases turn : fingerprint = next.fingerprint
    · exact ⟨next, member_next, turn.symm, upserted.presence⟩
    · have before : fingerprint ∈ state.observed := by simpa [turn] using observed
      obtain ⟨row, rowMember, rfl, presence⟩ := observing.present fingerprint before
      exact ⟨row, stays rowMember turn, rfl, presence⟩
  · have earlier {row : Finding} (rowMember : row ∈ state.store.findings.rows) :
        (∃ finding ∈ start.findings.rows, finding.id = row.id) ∨ (NewlyObserved pass row ∧
          row.fingerprint ∈ state.observed ++ [next.fingerprint]) :=
      (observing.fresh row rowMember).imp id fun new => ⟨new.1, List.mem_append_left _ new.2⟩
    rcases upserted.findings with ⟨stored, storedMember, rewritten, put⟩ | ⟨new, inserted⟩
    · have sameId := (Finding.id_of_subject rewritten.subject).symm
      have sameFingerprint := (Finding.fingerprint_of_subject rewritten.subject).symm
      rw [put, Table.mem_put storedMember sameId sameFingerprint] at member
      rcases member with rfl | ⟨old, -⟩
      · rcases observing.fresh stored storedMember with ⟨finding, findingMember, same⟩ | ⟨new, -⟩
        · exact Or.inl ⟨finding, findingMember, same.trans sameId⟩
        · refine Or.inr ⟨new.rewritten rewritten upserted.presence, ?_⟩
          exact List.mem_append_right _ (List.mem_singleton.mpr rfl)
      · exact earlier old
    · rw [(Table.rows_of_insert inserted).1] at member
      rcases List.mem_append.mp member with old | last
      · exact earlier old
      · rw [List.mem_singleton.mp last]
        exact Or.inr ⟨new, by simp⟩

/-- One observed draft keeps the invariant of the pass. -/
theorem observing_observeDraft {start : Store} (observing : Observing pass start state)
    (accepted : observeDraft pass state draft = .ok next) :
    Observing pass start next ∧ next.uncertain = state.uncertain ∧
      ∀ fingerprint, fingerprint ∈ next.observed ↔
        fingerprint ∈ state.observed ∨ draft.fingerprint = .ok fingerprint := by
  simp only [observeDraft, bind_eq_ok] at accepted
  obtain ⟨⟨finding, action, after⟩, upserted, result⟩ := accepted
  cases result
  have spec := upsert_eq_ok upserted
  refine ⟨observing.step spec ?_, rfl, fun fingerprint => ?_⟩
  · unfold RdsReservationOpportunityResult.found
    split_ifs <;> cases action <;> rfl
  · rw [spec.fingerprint, List.mem_append, List.mem_singleton, Except.ok.injEq, eq_comm
      (a := fingerprint)]

/-- The fingerprints that a verdict observes. -/
def VerdictObserves (verdict : RowVerdict) (fingerprint : String) : Prop :=
  ∃ drafts, verdict = .conclusive drafts ∧ ∃ draft ∈ drafts, draft.fingerprint = .ok fingerprint

/-- The fingerprints that a verdict holds uncertain. -/
def VerdictHolds (verdict : RowVerdict) (fingerprint : String) : Prop :=
  ∃ fingerprints, (verdict = .stale fingerprints ∨ verdict = .unknown fingerprints) ∧
    fingerprint ∈ fingerprints

/-- So does the verdict on one row. -/
theorem observing_applyVerdict {start : Store} {verdict : RowVerdict}
    (observing : Observing pass start state) (accepted : applyVerdict pass state verdict = .ok next) :
    Observing pass start next ∧
      (∀ fingerprint, fingerprint ∈ next.observed ↔
        fingerprint ∈ state.observed ∨ VerdictObserves verdict fingerprint) ∧
      ∀ fingerprint, fingerprint ∈ next.uncertain ↔
        fingerprint ∈ state.uncertain ∨ VerdictHolds verdict fingerprint := by
  have doubtful {fingerprints : List String} {result : RdsReservationOpportunityResult}
      (sameResolved : result.resolved = state.result.resolved) :
      Observing pass start
        { state with result, uncertain := state.uncertain ++ fingerprints } :=
    ⟨observing.kept, observing.seen, observing.present, observing.fresh, observing.frame,
      sameResolved.trans observing.resolved⟩
  cases verdict with
  | stale fingerprints =>
    cases accepted
    refine ⟨doubtful rfl, fun fingerprint => ?_, fun fingerprint => ?_⟩
    · simp [VerdictObserves]
    · simp [VerdictHolds]
  | unknown fingerprints =>
    cases accepted
    refine ⟨doubtful rfl, fun fingerprint => ?_, fun fingerprint => ?_⟩
    · simp [VerdictObserves]
    · simp [VerdictHolds]
  | conclusive drafts =>
    -- what is observed or still to come does not change over the loop
    have loop := foldlM_rest (fun rest current => Observing pass start current ∧
      current.uncertain = state.uncertain ∧ ∀ fingerprint,
        (fingerprint ∈ current.observed ∨ ∃ draft ∈ rest, draft.fingerprint = .ok fingerprint) ↔
          fingerprint ∈ state.observed ∨ ∃ draft ∈ drafts, draft.fingerprint = .ok fingerprint)
      ?_ ⟨observing, rfl, fun _ => Iff.rfl⟩ accepted
    · obtain ⟨last, uncertain, observed⟩ := loop
      refine ⟨last, fun fingerprint => ?_, fun fingerprint => ?_⟩
      · have same := observed fingerprint
        simpa [VerdictObserves] using same
      · simp [VerdictHolds, uncertain]
    · intro draft rest current after holds step
      obtain ⟨later, uncertain, observed⟩ := observing_observeDraft holds.1 step
      refine ⟨later, uncertain.trans holds.2.1, fun fingerprint => ?_⟩
      rw [← holds.2.2 fingerprint, observed fingerprint]
      simp only [List.mem_cons, exists_eq_or_imp]
      exact or_assoc

/-- So do the verdicts on all rows, by induction. -/
theorem observing_applyRows {ρ : Type} {start : Store}
    {verdict : ρ → Except ServiceError RowVerdict} {rows : List ρ}
    (observing : Observing pass start state)
    (accepted : applyRows pass verdict rows state = .ok next) :
    Observing pass start next ∧
      (∀ fingerprint, fingerprint ∈ next.observed ↔ fingerprint ∈ state.observed ∨
        ∃ row ∈ rows, ∃ said, verdict row = .ok said ∧ VerdictObserves said fingerprint) ∧
      ∀ fingerprint, fingerprint ∈ next.uncertain ↔ fingerprint ∈ state.uncertain ∨
        ∃ row ∈ rows, ∃ said, verdict row = .ok said ∧ VerdictHolds said fingerprint := by
  have loop := foldlM_rest (fun rest current => Observing pass start current ∧
    (∀ fingerprint, (fingerprint ∈ current.observed ∨ ∃ row ∈ rest, ∃ said,
        verdict row = .ok said ∧ VerdictObserves said fingerprint) ↔
      fingerprint ∈ state.observed ∨ ∃ row ∈ rows, ∃ said, verdict row = .ok said ∧
        VerdictObserves said fingerprint) ∧
    ∀ fingerprint, (fingerprint ∈ current.uncertain ∨ ∃ row ∈ rest, ∃ said,
        verdict row = .ok said ∧ VerdictHolds said fingerprint) ↔
      fingerprint ∈ state.uncertain ∨ ∃ row ∈ rows, ∃ said, verdict row = .ok said ∧
        VerdictHolds said fingerprint) ?_
    ⟨observing, fun _ => Iff.rfl, fun _ => Iff.rfl⟩ accepted
  · obtain ⟨last, observed, uncertain⟩ := loop
    refine ⟨last, fun fingerprint => ?_, fun fingerprint => ?_⟩
    · rw [← observed fingerprint]
      simp
    · rw [← uncertain fingerprint]
      simp
  · intro row rest current after holds step
    rw [bind_eq_ok] at step
    obtain ⟨said, verdictOk, applied⟩ := step
    obtain ⟨later, observed, uncertain⟩ := observing_applyVerdict holds.1 applied
    refine ⟨later, fun fingerprint => ?_, fun fingerprint => ?_⟩
    · rw [← holds.2.1 fingerprint, observed fingerprint]
      simp only [List.mem_cons, exists_eq_or_imp, verdictOk, Except.ok.injEq, exists_eq_left']
      exact or_assoc
    · rw [← holds.2.2 fingerprint, uncertain fingerprint]
      simp only [List.mem_cons, exists_eq_or_imp, verdictOk, Except.ok.injEq, exists_eq_left']
      exact or_assoc

/-- A completed run observes a fingerprint. -/
def Observes [GeneralFormat] (pass : CoveragePass) (fingerprint : String) : Prop :=
  (∃ row ∈ pass.coverageRows, ∃ said, coverageVerdict pass row = .ok said ∧
      VerdictObserves said fingerprint) ∨
    ∃ row ∈ pass.utilizationRows, ∃ said, reservationVerdict pass row = .ok said ∧
      VerdictObserves said fingerprint

/-- A completed run holds a fingerprint uncertain. -/
def HoldsUncertain [GeneralFormat] (pass : CoveragePass) (fingerprint : String) : Prop :=
  (∃ row ∈ pass.coverageRows, ∃ said, coverageVerdict pass row = .ok said ∧
      VerdictHolds said fingerprint) ∨
    ∃ row ∈ pass.utilizationRows, ∃ said, reservationVerdict pass row = .ok said ∧
      VerdictHolds said fingerprint

/-- The settlement of a finding that the run does not observe. -/
def settlementOf (pass : CoveragePass) (uncertain : List String) (finding : Finding) :
    Settlement :=
  if isExisting finding then
    if finding.fingerprint ∈ uncertain then settleUncertain pass finding else settle pass finding
  else .kept

omit [Digest] [UuidSource] in
theorem settlementOf_conservative (pass : CoveragePass) (uncertain : List String) :
    Conservative (settlementOf pass uncertain) := by
  intro finding
  unfold settlementOf
  split_ifs
  · exact settleUncertain_conservative pass finding
  · exact settle_conservative pass finding
  · exact Rewritten.refl finding

omit [Digest] [UuidSource] in
/-- Only a finding that is neither observed nor uncertain is resolved. -/
theorem settlementOf_isResolved (pass : CoveragePass) (uncertain : List String)
    (finding : Finding) (unobserved : Bool) :
    (unobserved && (settlementOf pass uncertain finding).isResolved) =
      ((isExisting finding && unobserved && finding.fingerprint ∉ uncertain) &&
        (settle pass finding).isResolved) := by
  have none : (settleUncertain pass finding).isResolved = false := by
    unfold settleUncertain markUncertain
    split <;> rfl
  have kept : Settlement.kept.isResolved = false := rfl
  unfold settlementOf
  cases isExisting finding <;> by_cases doubtful : finding.fingerprint ∈ uncertain <;>
    simp [doubtful, none, kept]

/-- What a pass over a completed run does. -/
structure PassOutcome [GeneralFormat] (pass : CoveragePass) (before after : Store)
    (result : RdsReservationOpportunityResult) (observed uncertain : List String) : Prop where
  observed_iff : ∀ fingerprint, fingerprint ∈ observed ↔ Observes pass fingerprint
  uncertain_iff : ∀ fingerprint, fingerprint ∈ uncertain ↔ HoldsUncertain pass fingerprint
  seen : ∀ finding ∈ before.findings.rows, finding.fingerprint ∈ observed →
    ∃ next ∈ after.findings.rows, Rewritten finding next ∧ next.presence = observedPresence pass
  settled : ∀ finding ∈ before.findings.rows, finding.fingerprint ∉ observed →
    (settlementOf pass uncertain finding).next finding ∈ after.findings.rows
  present : ∀ fingerprint ∈ observed, ∃ next ∈ after.findings.rows,
    next.fingerprint = fingerprint ∧ next.presence = observedPresence pass
  fresh : ∀ next ∈ after.findings.rows, (∃ finding ∈ before.findings.rows,
    finding.id = next.id) ∨ (NewlyObserved pass next ∧ next.fingerprint ∈ observed)
  resolved : result.resolved = before.findings.rows.countP fun finding =>
    finding.fingerprint ∉ observed && (settlementOf pass uncertain finding).isResolved
  frame : PassFrame before after

omit [CaseMapping] [Digest] [UuidSource] in
/-- A stored finding is among the existing ones exactly when it is unarchived and of
the reservation rules. -/
theorem mem_existingByFingerprint {store : Store} {finding : Finding}
    (member : finding ∈ store.findings.rows) :
    finding.fingerprint ∈ existingByFingerprint store ↔ isExisting finding = true := by
  constructor
  · intro listed
    obtain ⟨other, found, same⟩ := List.mem_map.mp listed
    obtain ⟨otherMember, existing⟩ := List.mem_filter.mp found
    rwa [← store.findings.eq_of_unique otherMember member same]
  · intro existing
    exact List.mem_map.mpr ⟨finding, List.mem_filter.mpr ⟨member, existing⟩, rfl⟩

omit [CaseMapping] [Digest] [UuidSource] in
theorem existingByFingerprint_nodup (store : Store) : (existingByFingerprint store).Nodup :=
  store.findings.distinctUnique.sublist (List.filter_sublist.map _)

omit [Digest] [UuidSource] in
/-- The two settling loops as one map. -/
theorem settleRows_spec (pass : CoveragePass) {existing : List String}
    (distinct : existing.Nodup) (state : PassState) :
    (settleRows pass existing state).store.findings.rows = (state.store.findings.rows.map fun row =>
        if row.fingerprint ∈ existing ∧ row.fingerprint ∉ state.observed then
          (if row.fingerprint ∈ state.uncertain then settleUncertain pass row
            else settle pass row).next row
        else row) ∧
      (settleRows pass existing state).result.resolved = state.result.resolved +
        (state.store.findings.rows.countP fun row =>
          (row.fingerprint ∈ existing && row.fingerprint ∉ state.observed &&
            row.fingerprint ∉ state.uncertain) && (settle pass row).isResolved) ∧
      ∃ findings, (settleRows pass existing state).store = { state.store with findings } := by
  have first := settledAll_foldl (settleUncertain_conservative pass)
    ((DistinctKeys.nodup_eraseDups state.uncertain).filter fun fingerprint =>
      fingerprint ∈ existing && fingerprint ∉ state.observed) state
  unfold settleRows
  generalize hmiddle : (state.uncertain.eraseDups.filter fun fingerprint =>
    fingerprint ∈ existing && fingerprint ∉ state.observed).foldl
      (settleFingerprint (settleUncertain pass)) state = middle at first ⊢
  have second := settledAll_foldl (settle_conservative pass)
    (distinct.filter fun fingerprint =>
      fingerprint ∉ middle.observed && fingerprint ∉ middle.uncertain) middle
  have kept (row : Finding) :
      ((settleUncertain pass row).next row).fingerprint = row.fingerprint :=
    Finding.fingerprint_of_subject (settleUncertain_conservative pass row).subject
  dsimp only
  rw [second.rows, second.resolved, first.rows, first.resolved, first.observed, first.uncertain]
  refine ⟨?_, ?_, ?_⟩
  · rw [List.map_map]
    apply List.map_congr_left
    intro row _
    by_cases isOld : row.fingerprint ∈ existing <;>
      by_cases seen : row.fingerprint ∈ state.observed <;>
      by_cases doubtful : row.fingerprint ∈ state.uncertain <;>
      simp [isOld, seen, doubtful, kept]
  · have none : ∀ row, (settleUncertain pass row).isResolved = false := by
      intro row
      unfold settleUncertain markUncertain
      split <;> rfl
    have uncounted : (state.store.findings.rows.countP fun row =>
        row.fingerprint ∈ state.uncertain.eraseDups.filter (fun fingerprint =>
          fingerprint ∈ existing && fingerprint ∉ state.observed) &&
            (settleUncertain pass row).isResolved) = 0 := by
      rw [List.countP_eq_zero]
      intro row _
      simp [none]
    rw [uncounted, Nat.add_zero, List.countP_map]
    congr 1
    apply List.countP_congr
    intro row _
    by_cases isOld : row.fingerprint ∈ existing <;>
      by_cases seen : row.fingerprint ∈ state.observed <;>
      by_cases doubtful : row.fingerprint ∈ state.uncertain <;>
      simp [isOld, seen, doubtful, kept]
  · obtain ⟨findings, frame⟩ := first.frame
    obtain ⟨laterFindings, laterFrame⟩ := second.frame
    rw [first.observed, first.uncertain] at laterFrame
    exact ⟨laterFindings, by rw [laterFrame, frame]⟩

/-- What the observing loops observe and hold uncertain is what the rows of the run say. -/
theorem observing_observeRows [GeneralFormat] {store : Store} {state : PassState}
    (accepted : observeRows pass ⟨.start pass.run.id, store, [], []⟩ = .ok state) :
    Observing pass store state ∧
      (∀ fingerprint, fingerprint ∈ state.observed ↔ Observes pass fingerprint) ∧
      ∀ fingerprint, fingerprint ∈ state.uncertain ↔ HoldsUncertain pass fingerprint := by
  simp only [observeRows, bind_eq_ok] at accepted
  obtain ⟨middle, coverage, utilization⟩ := accepted
  obtain ⟨observing, observedFirst, uncertainFirst⟩ :=
    observing_applyRows (Observing.start pass store) coverage
  obtain ⟨observing, observedLast, uncertainLast⟩ := observing_applyRows observing utilization
  refine ⟨observing, fun fingerprint => ?_, fun fingerprint => ?_⟩
  · rw [observedLast, observedFirst]
    simp [Observes]
  · rw [uncertainLast, uncertainFirst]
    simp [HoldsUncertain]

/-- The outcome of a pass, from the state of its observing loops. -/
theorem generatePass_eq_ok [GeneralFormat] {store after : Store}
    {result : RdsReservationOpportunityResult}
    (accepted : generatePass pass store = .ok (result, after)) :
    ∃ observed uncertain, PassOutcome pass store after result observed uncertain := by
  simp only [generatePass, bind_eq_ok] at accepted
  obtain ⟨state, looped, finished⟩ := accepted
  cases finished
  obtain ⟨observing, observed_iff, uncertain_iff⟩ := observing_observeRows looped
  have existing_iff {finding : Finding} (member : finding ∈ store.findings.rows) :=
    mem_existingByFingerprint member
  obtain ⟨rows, resolved, findings, frame⟩ :=
    settleRows_spec pass (existingByFingerprint_nodup store) state
  -- an unobserved row of the loops is one from before
  have unobserved {row : Finding} (member : row ∈ state.store.findings.rows)
      (outside : row.fingerprint ∉ state.observed) : row ∈ store.findings.rows := by
    rcases observing.fresh row member with ⟨finding, findingMember, sameId⟩ | ⟨-, observed⟩
    · by_cases observed : finding.fingerprint ∈ state.observed
      · obtain ⟨next, nextMember, rewritten, -⟩ := observing.seen finding findingMember observed
        obtain rfl := state.store.findings.eq_of_key nextMember member
          ((Finding.id_of_subject rewritten.subject).trans sameId)
        rw [Finding.fingerprint_of_subject rewritten.subject] at outside
        exact absurd observed outside
      · rwa [← state.store.findings.eq_of_key (observing.kept finding findingMember observed)
          member sameId]
    · exact absurd observed outside
  refine ⟨state.observed, state.uncertain, ⟨observed_iff, uncertain_iff,
    fun finding member observed => ?_, fun finding member outside => ?_,
    fun fingerprint observed => ?_, fun next member => ?_, ?_, ?_⟩⟩
  · obtain ⟨next, nextMember, rewritten, presence⟩ := observing.seen finding member observed
    refine ⟨next, ?_, rewritten, presence⟩
    rw [rows]
    refine List.mem_map.mpr ⟨next, nextMember, if_neg ?_⟩
    rw [Finding.fingerprint_of_subject rewritten.subject]
    exact fun both => both.2 observed
  · rw [rows]
    refine List.mem_map.mpr ⟨finding, observing.kept finding member outside, ?_⟩
    by_cases existing : isExisting finding = true
    · rw [if_pos ⟨(existing_iff member).mpr existing, outside⟩, settlementOf, if_pos existing]
    · rw [if_neg fun both => existing ((existing_iff member).mp both.1), settlementOf,
        if_neg existing]
      rfl
  · obtain ⟨next, nextMember, rfl, presence⟩ := observing.present fingerprint observed
    refine ⟨next, ?_, rfl, presence⟩
    rw [rows]
    exact List.mem_map.mpr ⟨next, nextMember, if_neg fun both => both.2 observed⟩
  · rw [rows] at member
    obtain ⟨row, rowMember, rfl⟩ := List.mem_map.mp member
    by_cases both : row.fingerprint ∈ existingByFingerprint store ∧
        row.fingerprint ∉ state.observed
    · rw [if_pos both]
      have same : ((if row.fingerprint ∈ state.uncertain then settleUncertain pass row
          else settle pass row).next row).id = row.id := by
        split_ifs
        · exact Finding.id_of_subject (settleUncertain_conservative pass row).subject
        · exact Finding.id_of_subject (settle_conservative pass row).subject
      exact Or.inl ⟨row, unobserved rowMember both.2, same.symm⟩
    · rw [if_neg both]
      exact observing.fresh row rowMember
  · rw [resolved, observing.resolved, Nat.zero_add]
    apply Table.countP_eq_of_mem
    intro row
    have decided (member : row ∈ store.findings.rows) : ((row.fingerprint ∈
          existingByFingerprint store && row.fingerprint ∉ state.observed &&
            row.fingerprint ∉ state.uncertain) && (settle pass row).isResolved) =
        (row.fingerprint ∉ state.observed &&
          (settlementOf pass state.uncertain row).isResolved) := by
      have known : (decide (row.fingerprint ∈ existingByFingerprint store)) = isExisting row := by
        rw [Bool.eq_iff_iff, decide_eq_true_eq]
        exact existing_iff member
      rw [known]
      exact (settlementOf_isResolved pass state.uncertain row _).symm
    constructor
    · rintro ⟨member, counted⟩
      have outside : row.fingerprint ∉ state.observed := by
        simp only [Bool.and_eq_true, decide_eq_true_eq] at counted
        exact counted.1.1.2
      have old := unobserved member outside
      exact ⟨old, (decided old).symm.trans counted⟩
    · rintro ⟨member, counted⟩
      have outside : row.fingerprint ∉ state.observed := by
        simp only [Bool.and_eq_true, decide_eq_true_eq] at counted
        exact counted.1
      exact ⟨observing.kept row member outside, (decided member).trans counted⟩
  · exact observing.frame.trans ⟨findings, _, le_rfl, frame⟩

variable [SystemClock]

omit [CaseMapping] [Digest] [UuidSource] in
/-- The pass that a call of `generate_rds_reservation_opportunities` makes. -/
def passOf (settings : RdsReservationSettings) (tables : RdsTables) (store : Store)
    (coverageRunId : Option ℤ) (now : Option Instant) : Except ServiceError CoveragePass := do
  let run ← coverageRun tables coverageRunId
  return { settings := settings
           tables := tables
           run := run
           generatedAt := now.getD store.utcnow.1
           accountNames := store.cloudAccounts.map fun account => (account.id, account.name) }

/-- A call makes its pass, after the clock was read where no instant is given. -/
theorem generate_eq_ok [GeneralFormat] {settings : RdsReservationSettings} {tables : RdsTables}
    {store after : Store} {coverageRunId : Option ℤ} {now : Option Instant}
    {result : RdsReservationOpportunityResult}
    (accepted : generateRdsReservationOpportunities settings tables store coverageRunId now =
      .ok (result, after)) :
    ∃ pass observed uncertain clockReads,
      passOf settings tables store coverageRunId now = .ok pass ∧
      store.clockReads ≤ clockReads ∧
      PassOutcome pass { store with clockReads } after result observed uncertain := by
  cases now with
  | some now =>
    simp only [generateRdsReservationOpportunities, bind_eq_ok] at accepted
    obtain ⟨run, found, passed⟩ := accepted
    obtain ⟨observed, uncertain, outcome⟩ := generatePass_eq_ok passed
    exact ⟨_, observed, uncertain, store.clockReads, bind_eq_ok.mpr ⟨run, found, rfl⟩, le_rfl,
      outcome⟩
  | none =>
    simp only [generateRdsReservationOpportunities, bind_eq_ok] at accepted
    obtain ⟨run, found, passed⟩ := accepted
    obtain ⟨observed, uncertain, outcome⟩ := generatePass_eq_ok passed
    exact ⟨_, observed, uncertain, store.clockReads + 1, bind_eq_ok.mpr ⟨run, found, rfl⟩,
      Nat.le_succ _, outcome⟩

end Observing

end FinopsAnalytics.RdsReservationPasses
