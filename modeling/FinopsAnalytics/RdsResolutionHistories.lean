import FinopsAnalytics.OpportunityOperations

/-!
# Resolutions of coverage passes over runs

A pass leaves a resolved finding alone only where the marker of the same run is
still on it. A later run resolves it once more, with its own instant and one
more in the count, or marks it missing. The condition under which a pass leaves
the resolutions is exact; over runs that meet it they stay.
-/

namespace FinopsAnalytics.RdsResolutionHistories

open PythonText UniqueTables OpportunityRecords OpportunityFingerprint OpportunityArchiving
  OpportunityLifecycle OpportunityOperations RdsReservationVerdicts RdsReservationOpportunities
  RdsReservationPasses ObservationCleanup TransactionHistories

/-- A resolved finding of the reservation rules. -/
structure IsResolution (finding : Finding) : Prop where
  provider : finding.provider = "aws"
  service : finding.service = "rds"
  rule : finding.ruleKey ∈ rdsReservationRules
  resolved : finding.presenceStatus = .resolvedExternally

theorem IsResolution.isExisting {finding : Finding} (resolution : IsResolution finding) :
    isExisting finding = finding.archivedAt.isNone := by
  simp [RdsReservationOpportunities.isExisting, resolution.provider, resolution.service,
    resolution.rule]

/-- Whether a finding is resolved by what led to a store. -/
def newlyResolved (after : Store) (finding : Finding) : Bool :=
  finding.presenceStatus ≠ .resolvedExternally &&
    (after.findings.find? finding.id).any (·.presenceStatus = .resolvedExternally)

section Passes

variable [CaseMapping] [Digest] [GeneralFormat]

/-- A pass keeps the resolutions that it does not observe, and counts those that it
makes. -/
structure ResolutionsKept (pass : CoveragePass) (before after : Store)
    (result : RdsReservationOpportunityResult) : Prop where
  kept : ∀ finding ∈ before.findings.rows, IsResolution finding →
    ¬Observes pass finding.fingerprint → ∃ next ∈ after.findings.rows,
      next.id = finding.id ∧ next.presenceStatus = .resolvedExternally ∧
      next.resolvedExternallyAt = finding.resolvedExternallyAt
  counted : result.resolved = before.findings.rows.countP (newlyResolved after)

/-- When a pass leaves a resolved finding: it observes it, or the finding is in the
archive, or the same run resolved it and decides about it again. -/
def LeavesResolution (pass : CoveragePass) (finding : Finding) : Prop :=
  Observes pass finding.fingerprint ∨ finding.archivedAt ≠ none ∨
    (¬HoldsUncertain pass finding.fingerprint ∧ (authority pass finding).1 = true ∧
      finding.presenceReconciledRunId = some (runMarker pass.run.id))

variable {pass : CoveragePass} {finding : Finding} {before after : Store}
  {result : RdsReservationOpportunityResult} {observed uncertain : List String}

omit [Digest] [GeneralFormat] in
/-- The settlements that keep a resolved finding. -/
theorem settlementOf_eq_kept {uncertain : List String} (resolution : IsResolution finding) :
    settlementOf pass uncertain finding = .kept ↔ finding.archivedAt ≠ none ∨
      (finding.fingerprint ∉ uncertain ∧ (authority pass finding).1 = true ∧
        finding.presenceReconciledRunId = some (runMarker pass.run.id)) := by
  have resolved := resolution.resolved
  unfold settlementOf
  rw [resolution.isExisting]
  by_cases active : finding.archivedAt = none
  · by_cases doubtful : finding.fingerprint ∈ uncertain
    · simp [active, doubtful, settleUncertain, markUncertain, resolved]
    · cases decided : (authority pass finding).1 with
      | false => simp [active, doubtful, settle, decided, markUncertain, resolved]
      | true => simp [active, doubtful, settle, decided, resolve, resolved]
  · simp [active]

omit [Digest] [GeneralFormat] in
/-- Any other settlement resolves the finding again or marks it missing. -/
theorem settlementOf_cases (pass : CoveragePass) (uncertain : List String) (finding : Finding) :
    settlementOf pass uncertain finding = .kept ∨
      ((settlementOf pass uncertain finding).isResolved = true ∧
        ((settlementOf pass uncertain finding).next finding).presenceStatus =
          .resolvedExternally) ∨
      ((settlementOf pass uncertain finding).isResolved = false ∧
        ((settlementOf pass uncertain finding).next finding).presenceStatus = .missing) := by
  have uncertainCases (reason : String) :
      markUncertain pass.run.id pass.generatedAt reason finding = .kept ∨
        ((markUncertain pass.run.id pass.generatedAt reason finding).isResolved = false ∧
          ((markUncertain pass.run.id pass.generatedAt reason finding).next
            finding).presenceStatus = .missing) := by
    refine Or.inr ⟨?_, markUncertain_missing _ _ _ _⟩
    unfold markUncertain
    split <;> rfl
  unfold settlementOf
  split
  · split
    · exact (uncertainCases _).imp id Or.inr
    · unfold settle
      dsimp only
      split
      · unfold resolve
        split
        · exact Or.inl rfl
        · exact Or.inr (Or.inl ⟨rfl, rfl⟩)
      · exact (uncertainCases _).imp id Or.inr
  · exact Or.inl rfl

/-- The finding after a pass. -/
theorem find_after_pass (outcome : PassOutcome pass before after result observed uncertain)
    (member : finding ∈ before.findings.rows) (unseen : finding.fingerprint ∉ observed) :
    after.findings.find? finding.id =
      some ((settlementOf pass uncertain finding).next finding) :=
  Table.find?_eq_some.mpr ⟨outcome.settled finding member unseen,
    Finding.id_of_subject (settlementOf_conservative pass uncertain finding).subject⟩

/-- A finding is newly resolved only where its settlement resolved it. -/
theorem isResolved_of_newlyResolved
    (outcome : PassOutcome pass before after result observed uncertain)
    (member : finding ∈ before.findings.rows) (newly : newlyResolved after finding = true) :
    finding.fingerprint ∉ observed ∧ (settlementOf pass uncertain finding).isResolved = true := by
  simp only [newlyResolved, Bool.and_eq_true, decide_eq_true_eq] at newly
  obtain ⟨unresolved, resolvedAfter⟩ := newly
  have unseen : finding.fingerprint ∉ observed := by
    intro seen
    obtain ⟨next, nextMember, rewritten, presence⟩ := outcome.seen finding member seen
    have found : after.findings.find? finding.id = some next :=
      Table.find?_eq_some.mpr ⟨nextMember, Finding.id_of_subject rewritten.subject⟩
    have active : next.presenceStatus = .active := congrArg TechnicalPresence.status presence
    simp [found, active] at resolvedAfter
  refine ⟨unseen, ?_⟩
  rw [find_after_pass outcome member unseen] at resolvedAfter
  simp only [Option.any_some, decide_eq_true_eq] at resolvedAfter
  rcases settlementOf_cases pass uncertain finding with kept | ⟨resolved, -⟩ | ⟨-, missing⟩
  · rw [kept] at resolvedAfter
    exact absurd resolvedAfter unresolved
  · exact resolved
  · rw [missing] at resolvedAfter
    cases resolvedAfter

/-- A pass keeps the resolutions exactly when it leaves each of them. -/
theorem resolutionsKept_iff (outcome : PassOutcome pass before after result observed uncertain) :
    ResolutionsKept pass before after result ↔
      ∀ finding ∈ before.findings.rows, IsResolution finding → LeavesResolution pass finding := by
  have leaves_iff {finding : Finding} (resolution : IsResolution finding) :
      LeavesResolution pass finding ↔ finding.fingerprint ∈ observed ∨
        settlementOf pass uncertain finding = .kept := by
    rw [settlementOf_eq_kept resolution, outcome.observed_iff, outcome.uncertain_iff]
    rfl
  constructor
  · intro keeps finding member resolution
    rw [leaves_iff resolution]
    by_cases seen : finding.fingerprint ∈ observed
    · exact Or.inl seen
    · refine Or.inr ?_
      have unobserved : ¬Observes pass finding.fingerprint := by
        rwa [← outcome.observed_iff]
      obtain ⟨next, nextMember, sameId, stillResolved, -⟩ :=
        keeps.kept finding member resolution unobserved
      obtain rfl := Option.some.inj ((find_after_pass outcome member seen).symm.trans
        (Table.find?_eq_some.mpr ⟨nextMember, sameId⟩))
      rcases settlementOf_cases pass uncertain finding with kept | ⟨resolved, -⟩ | ⟨-, missing⟩
      · exact kept
      · -- it would be counted although it was resolved before
        have newly := of_countP_eq (fun other otherMember newly => ?_)
          (outcome.resolved.symm.trans keeps.counted) finding member (by simp [seen, resolved])
        · simp [newlyResolved, resolution.resolved] at newly
        · obtain ⟨unseen, isResolved⟩ := isResolved_of_newlyResolved outcome otherMember newly
          simp [unseen, isResolved]
      · rw [missing] at stillResolved
        cases stillResolved
  · intro leaves
    refine ⟨fun finding member resolution unobserved => ?_, ?_⟩
    · have seen : finding.fingerprint ∉ observed := by
        rwa [outcome.observed_iff]
      have kept := ((leaves_iff resolution).mp (leaves finding member resolution)).resolve_left seen
      have after := outcome.settled finding member seen
      rw [kept] at after
      exact ⟨finding, after, rfl, resolution.resolved, rfl⟩
    · rw [outcome.resolved]
      apply List.countP_congr
      intro finding member
      constructor
      · intro counted
        simp only [Bool.and_eq_true, decide_eq_true_eq] at counted
        obtain ⟨seen, resolved⟩ := counted
        have existing : isExisting finding = true := by
          by_contra missing
          rw [settlementOf, if_neg missing] at resolved
          cases resolved
        have unresolved : finding.presenceStatus ≠ .resolvedExternally := by
          intro resolvedBefore
          simp only [isExisting, Bool.and_eq_true, decide_eq_true_eq] at existing
          obtain ⟨⟨⟨provider, service⟩, rule⟩, -⟩ := existing
          have resolution : IsResolution finding := ⟨provider, service, rule, resolvedBefore⟩
          have kept :=
            ((leaves_iff resolution).mp (leaves finding member resolution)).resolve_left seen
          rw [kept] at resolved
          cases resolved
        rcases settlementOf_cases pass uncertain finding with kept | ⟨-, resolvedAfter⟩ | ⟨no, -⟩
        · rw [kept] at resolved
          cases resolved
        · simp [newlyResolved, unresolved, find_after_pass outcome member seen, resolvedAfter]
        · rw [no] at resolved
          cases resolved
      · intro newly
        obtain ⟨unseen, isResolved⟩ := isResolved_of_newlyResolved outcome member newly
        simp [unseen, isResolved]

end Passes

section Runs

variable [CaseMapping] [AlphabetTable] [Digest] [GeneralFormat] [UuidSource] [SystemClock]

/-- A transition that is a completed coverage pass. -/
def Passes (transition : Transition Store Operation) (pass : CoveragePass)
    (result : RdsReservationOpportunityResult) : Prop :=
  ∃ settings tables coverageRunId now,
    transition.operation = .coverageRun settings tables coverageRunId now ∧
    passOf settings tables transition.before coverageRunId now = .ok pass ∧
    generateRdsReservationOpportunities settings tables transition.before coverageRunId now =
      .ok (result, transition.after)

omit [AlphabetTable] in
/-- A pass of a run has its outcome. -/
theorem passOutcome_of_passes {transition : Transition Store Operation} {pass : CoveragePass}
    {result : RdsReservationOpportunityResult} (passes : Passes transition pass result) :
    ∃ observed uncertain clockReads, PassOutcome pass { transition.before with clockReads }
      transition.after result observed uncertain := by
  obtain ⟨settings, tables, coverageRunId, now, -, isPass, accepted⟩ := passes
  obtain ⟨other, observed, uncertain, clockReads, sameSettings, -, outcome⟩ :=
    generate_eq_ok accepted
  obtain rfl := Except.ok.inj (isPass.symm.trans sameSettings)
  exact ⟨observed, uncertain, clockReads, outcome⟩

/-- Whether every resolved finding of a state is left by a pass over it. -/
def LeavesResolutions (pass : CoveragePass) (store : Store) : Prop :=
  ∀ finding ∈ store.findings.rows, IsResolution finding → LeavesResolution pass finding

/-- A finding with the resolution of another one. -/
structure SameResolution (before after : Finding) : Prop where
  subject : after.subject = before.subject
  resolved : after.presenceStatus = .resolvedExternally
  instant : after.resolvedExternallyAt = before.resolvedExternallyAt

omit [CaseMapping] [AlphabetTable] [Digest] [GeneralFormat] [UuidSource] [SystemClock] in
theorem SameResolution.of_presence {before after : Finding} (resolution : IsResolution before)
    (subject : after.subject = before.subject) (presence : after.presence = before.presence) :
    SameResolution before after :=
  ⟨subject, (congrArg TechnicalPresence.status presence).trans resolution.resolved,
    congrArg TechnicalPresence.resolvedExternallyAt presence⟩

omit [CaseMapping] [AlphabetTable] [Digest] [GeneralFormat] [UuidSource] [SystemClock] in
theorem SameResolution.isResolution {before after : Finding} (same : SameResolution before after)
    (resolution : IsResolution before) : IsResolution after :=
  have rule : after.ruleKey = before.ruleKey := congrArg Subject.ruleKey same.subject
  ⟨(congrArg Subject.provider same.subject).trans resolution.provider,
    (congrArg Subject.service same.subject).trans resolution.service, rule ▸ resolution.rule,
    same.resolved⟩

omit [AlphabetTable] in
/-- An operation that collects nothing keeps a resolution, where its pass leaves the
finding and does not observe it. -/
theorem sameResolution_of_effect {operation : Operation} {before after : Store}
    (uncollected : operation.collects = false) (effect : Effect operation before after)
    {finding : Finding} (member : finding ∈ before.findings.rows)
    (resolution : IsResolution finding)
    (leaves : ∀ pass result, Passes ⟨operation, before, after⟩ pass result →
      LeavesResolution pass finding ∧ ¬Observes pass finding.fingerprint) :
    ∃ next ∈ after.findings.rows, SameResolution finding next := by
  cases effect with
  | observed run observedAt clockReads later persisted collects timed =>
    rw [uncollected] at collects
    cases collects
  | reconciled findings kept collects =>
    rw [uncollected] at collects
    cases collects
  | covered settings tables coverageRunId now isCoverage pass result accepted isPass
      observed uncertain clockReads later outcome =>
    obtain ⟨left, unobserved⟩ := leaves pass result
      ⟨settings, tables, coverageRunId, now, isCoverage, isPass, accepted⟩
    have seen : finding.fingerprint ∉ observed := by
      rwa [outcome.observed_iff]
    have kept : settlementOf pass uncertain finding = .kept := by
      rw [settlementOf_eq_kept resolution, outcome.uncertain_iff]
      exact left.resolve_left unobserved
    have settled := outcome.settled finding member seen
    rw [kept] at settled
    exact ⟨finding, settled, .of_presence resolution rfl rfl⟩
  | shelved step =>
    obtain ⟨next, nextMember, -, shelved⟩ := step.findings.carries finding member
    refine ⟨next, nextMember, ?_⟩
    rcases shelved with rfl | ⟨-, archivedAt, archivedBy, archiveReason, rfl⟩
    · exact .of_presence resolution rfl rfl
    · exact .of_presence resolution rfl rfl
  | unshelved step =>
    obtain ⟨next, nextMember, -, unshelved⟩ := step.findings.carries finding member
    refine ⟨next, nextMember, ?_⟩
    rcases unshelved with rfl | ⟨-, rfl⟩
    · exact .of_presence resolution rfl rfl
    · exact .of_presence resolution rfl rfl
  | decided human =>
    obtain ⟨middle, candidates, decided, -, -, grown⟩ := human
    obtain ⟨next, nextMember, -, kept⟩ := decided.carries finding member
    obtain ⟨ledgerEntries, drawn, -, rfl⟩ := grown.frame
    exact ⟨next, nextMember, .of_presence resolution kept.subject kept.presence⟩
  | cleaned shrunk =>
    obtain ⟨collectionRuns, observations, -, rfl⟩ := shrunk
    exact ⟨finding, member, .of_presence resolution rfl rfl⟩

/-- Over a run that leaves the resolutions, one stays until a pass observes it. -/
theorem sameResolution_of_run {operations : List Operation}
    (uncollected : ∀ operation ∈ operations, operation.collects = false) {start : Store}
    (leaves : ∀ transition ∈ history perform start operations, ∀ pass result,
      Passes transition pass result → LeavesResolutions pass transition.before)
    {finding : Finding} (member : finding ∈ start.findings.rows)
    (resolution : IsResolution finding)
    (unobserved : ∀ transition ∈ history perform start operations, ∀ pass result,
      Passes transition pass result → ¬Observes pass finding.fingerprint) :
    ∃ next ∈ (stateAfter perform start operations).findings.rows,
      SameResolution finding next := by
  induction operations generalizing start finding with
  | nil => exact ⟨finding, member, .of_presence resolution rfl rfl⟩
  | cons operation rest inductionHypothesis =>
    have step : ∃ next ∈ (commit perform start operation).findings.rows,
        SameResolution finding next := by
      rcases commit_cases perform start operation with same | committed
      · rw [same]
        exact ⟨finding, member, .of_presence resolution rfl rfl⟩
      · refine sameResolution_of_effect (uncollected operation (List.mem_cons_self ..))
          (effect_of_perform committed) member resolution fun pass result passes => ?_
        exact ⟨leaves _ (List.mem_cons_self ..) pass result passes finding member resolution,
          unobserved _ (List.mem_cons_self ..) pass result passes⟩
    obtain ⟨next, nextMember, same⟩ := step
    have laterUnobserved : ∀ transition ∈
        history perform (commit perform start operation) rest, ∀ pass result,
        Passes transition pass result → ¬Observes pass next.fingerprint := by
      intro transition later pass result passes
      rw [Finding.fingerprint_of_subject same.subject]
      exact unobserved transition (List.mem_cons_of_mem _ later) pass result passes
    obtain ⟨last, lastMember, sameLater⟩ := inductionHypothesis
      (fun other later => uncollected other (List.mem_cons_of_mem _ later))
      (fun transition later => leaves transition (List.mem_cons_of_mem _ later)) nextMember
      (same.isResolution resolution) laterUnobserved
    exact ⟨last, lastMember, sameLater.subject.trans same.subject, sameLater.resolved,
      sameLater.instant.trans same.instant⟩

/-- The law of resolutions over runs, and when it holds. A pass keeps the
resolutions that it does not observe and counts only its own exactly when it leaves
each of them. In a run whose passes all do, a resolved finding keeps its status and
its instant until a pass observes it, and every pass counts only the findings that it
resolves. -/
theorem resolutions_stay (operations : List Operation)
    (uncollected : ∀ operation ∈ operations, operation.collects = false) (start : Store) :
    (∀ transition ∈ history perform start operations, ∀ pass result,
      Passes transition pass result →
      (ResolutionsKept pass transition.before transition.after result ↔
        LeavesResolutions pass transition.before)) ∧
    ((∀ transition ∈ history perform start operations, ∀ pass result,
        Passes transition pass result → LeavesResolutions pass transition.before) →
      (∀ finding ∈ start.findings.rows, IsResolution finding →
        (∀ transition ∈ history perform start operations, ∀ pass result,
          Passes transition pass result → ¬Observes pass finding.fingerprint) →
        ∃ next ∈ (stateAfter perform start operations).findings.rows, next.id = finding.id ∧
          next.presenceStatus = .resolvedExternally ∧
          next.resolvedExternallyAt = finding.resolvedExternallyAt) ∧
      ∀ transition ∈ history perform start operations, ∀ pass result,
        Passes transition pass result → result.resolved =
          transition.before.findings.rows.countP (newlyResolved transition.after)) := by
  have exactly {transition : Transition Store Operation} {pass : CoveragePass}
      {result : RdsReservationOpportunityResult} (passes : Passes transition pass result) :
      ResolutionsKept pass transition.before transition.after result ↔
        LeavesResolutions pass transition.before := by
    obtain ⟨observed, uncertain, clockReads, outcome⟩ := passOutcome_of_passes passes
    have kept := resolutionsKept_iff outcome
    exact ⟨fun keeps => kept.mp ⟨keeps.kept, keeps.counted⟩,
      fun leaves => ⟨(kept.mpr leaves).kept, (kept.mpr leaves).counted⟩⟩
  refine ⟨fun transition _ pass result passes => exactly passes, fun leaves =>
    ⟨fun finding member resolution unobserved => ?_, fun transition listed pass result passes =>
      ((exactly passes).mpr (leaves transition listed pass result passes)).counted⟩⟩
  obtain ⟨next, nextMember, same⟩ :=
    sameResolution_of_run uncollected leaves member resolution unobserved
  exact ⟨next, nextMember, Finding.id_of_subject same.subject, same.resolved, same.instant⟩

end Runs

section Sample

attribute [local instance] asciiCase asciiAlphabet plainDigest integralFormat countingUuids
  countingClock

/-- A finding of an instance without coverage that a first pass left. -/
def uncoveredFinding : Finding :=
  newRdsFinding "finding-1" "fingerprint-1" 1 10
    { accountId := "111"
      region := "eu-west-1"
      resourceId := "db-1"
      resourceType := "aws_rds_db_instance"
      ruleKey := rdsReservationUncovered
      title := "RDS sem cobertura de Reserved Instance"
      description := ""
      severity := "high"
      providerMetadata := []
      evidence := [] }

def uncoveredStore : Store :=
  { Store.empty with
    findings := ⟨[uncoveredFinding], List.nodup_singleton _, List.nodup_singleton _⟩ }

/-- Two completed runs after the instance was deleted. -/
def retiredTables : RdsTables where
  coverageRuns := [⟨2, 20, some 20, .completed⟩, ⟨3, 30, some 30, .completed⟩]
  instances := [{ RdsInventory.sampleInstance 1 "db-1" with isActive := false }]
  reservations := []
  coverage := []
  utilization := []
  allocations := []

/-- The pass over one of these runs at an instant. -/
def retiredPass (coverageRunId : ℤ) (now : Instant) : Operation :=
  .coverageRun defaultSettings retiredTables (some coverageRunId) (some now)

/-- The pass over the second run as the code makes it. -/
def secondPass : CoveragePass where
  settings := defaultSettings
  tables := retiredTables
  run := ⟨3, 30, some 30, .completed⟩
  generatedAt := 31
  accountNames := []

/-- The finding after the first pass. -/
def resolvedOnce : Finding :=
  resolvedFinding 2 21 "RDS_INACTIVE_OR_NOT_ELIGIBLE" uncoveredFinding

/-- The store after the first pass. -/
def afterFirstPass : Store := commit perform uncoveredStore (retiredPass 2 21)

/-- The first pass resolves the finding at 21. The second one does not observe it, and
resolves it again at 31. -/
theorem resolutions_stay_refuted :
    ¬∀ transition ∈ history perform uncoveredStore [retiredPass 2 21, retiredPass 3 31],
      ∀ pass result, Passes transition pass result →
        ResolutionsKept pass transition.before transition.after result := by
  intro law
  have once : afterFirstPass.findings.rows = [resolvedOnce] := by decide +kernel
  have twice : ∀ next ∈ (commit perform afterFirstPass (retiredPass 3 31)).findings.rows,
      next.resolvedExternallyAt = some 31 := by decide +kernel
  have isPass : passOf defaultSettings retiredTables afterFirstPass (some 3) (some 31) =
      .ok secondPass := rfl
  have unobserved : ¬Observes secondPass resolvedOnce.fingerprint := by
    rintro (⟨row, member, -⟩ | ⟨row, member, -⟩)
    · exact absurd member List.not_mem_nil
    · exact absurd member List.not_mem_nil
  have member : resolvedOnce ∈ afterFirstPass.findings.rows := by
    rw [once]
    exact List.mem_singleton.mpr rfl
  have listed : ⟨retiredPass 3 31, afterFirstPass,
      commit perform afterFirstPass (retiredPass 3 31)⟩ ∈
        history perform uncoveredStore [retiredPass 2 21, retiredPass 3 31] :=
    List.mem_cons_of_mem _ (List.mem_singleton.mpr rfl)
  rcases commit_cases perform afterFirstPass (retiredPass 3 31) with same | committed
  · have instant : resolvedOnce.resolvedExternallyAt = some 31 :=
      twice resolvedOnce (by rwa [same])
    exact absurd instant (by decide)
  · have generated : (generateRdsReservationOpportunities defaultSettings retiredTables
        afterFirstPass (some 3) (some 31)).map Prod.snd =
          .ok (commit perform afterFirstPass (retiredPass 3 31)) := committed
    obtain ⟨result, accepted⟩ := map_snd_eq_ok.mp generated
    have passes : Passes ⟨retiredPass 3 31, afterFirstPass,
        commit perform afterFirstPass (retiredPass 3 31)⟩ secondPass result :=
      ⟨_, _, _, _, rfl, isPass, accepted⟩
    obtain ⟨next, nextMember, -, -, sameInstant⟩ := (law _ listed secondPass result passes).kept
      resolvedOnce member ⟨rfl, rfl, by decide, rfl⟩ unobserved
    rw [twice next nextMember] at sameInstant
    exact absurd sameInstant (by decide)

/-- A repetition of the pass of the same run meets the condition and leaves the
resolution. -/
theorem resolutions_stay_repeated :
    ∃ next ∈ (stateAfter perform afterFirstPass [retiredPass 2 22]).findings.rows,
      next.id = "finding-1" ∧ next.presenceStatus = .resolvedExternally ∧
        next.resolvedExternallyAt = some 21 := by
  have once : afterFirstPass.findings.rows = [resolvedOnce] := by decide +kernel
  have member : resolvedOnce ∈ afterFirstPass.findings.rows := by
    rw [once]
    exact List.mem_singleton.mpr rfl
  have rowless {transition : Transition Store Operation}
      (listed : transition ∈ history perform afterFirstPass [retiredPass 2 22])
      {pass : CoveragePass} {result : RdsReservationOpportunityResult}
      (passes : Passes transition pass result) : transition.before = afterFirstPass ∧
        pass.coverageRows = [] ∧ pass.utilizationRows = [] ∧
        (authority pass resolvedOnce).1 = true ∧ pass.run.id = 2 := by
    obtain ⟨settings, tables, coverageRunId, now, isRun, isPass, -⟩ := passes
    rw [List.mem_singleton.mp listed] at isRun isPass ⊢
    cases isRun
    cases isPass
    exact ⟨rfl, rfl, rfl, by decide +kernel, rfl⟩
  refine ((resolutions_stay [retiredPass 2 22] (by decide) afterFirstPass).2
    fun transition listed pass result passes finding findingMember resolution => ?_).1
    resolvedOnce member ⟨rfl, rfl, by decide, rfl⟩ fun transition listed pass result passes => ?_
  · obtain ⟨isBefore, noCoverage, noUtilization, decided, sameRun⟩ := rowless listed passes
    rw [isBefore, once] at findingMember
    rw [List.mem_singleton.mp findingMember]
    refine Or.inr (Or.inr ⟨?_, decided, ?_⟩)
    · simp [HoldsUncertain, noCoverage, noUtilization]
    · rw [sameRun]
      rfl
  · obtain ⟨-, noCoverage, noUtilization, -⟩ := rowless listed passes
    simp [Observes, noCoverage, noUtilization]

end Sample

end FinopsAnalytics.RdsResolutionHistories
