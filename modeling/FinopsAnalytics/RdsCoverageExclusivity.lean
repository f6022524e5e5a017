import FinopsAnalytics.OpportunityOperations

/-!
# One coverage opportunity for an instance

An instance that a run decides about should be active under the rule of its
coverage status only. The settling loops close the other finding, but they read
the unarchived ones: a finding of the previous status that was archived while
active stays active beside the new one.
-/

namespace FinopsAnalytics.RdsCoverageExclusivity

open PythonText UniqueTables OpportunityRecords OpportunityFingerprint OpportunityCollection
  OpportunityArchiving OpportunityLifecycle OpportunityOperations RdsInventory
  RdsReservationRules RdsReservationVerdicts RdsReservationOpportunities
  RdsReservationPasses ObservationCleanup TransactionHistories

/-- The rule of a coverage status. -/
def statusRule : CoverageStatus → Option String
  | .uncovered => some rdsReservationUncovered
  | .partially => some rdsReservationPartialCoverage
  | _ => none

/-- A finding of an instance. -/
def IsAbout (row : AwsRdsInstance) (finding : Finding) : Prop :=
  finding.accountId = row.accountId ∧ finding.region = some row.region ∧
    finding.resourceId = row.dbInstanceIdentifier

section Passes

variable [CaseMapping] [Digest] [GeneralFormat]

/-- The rows that a run decides about: fresh, eligible and known. -/
structure Decides (pass : CoveragePass) (row : RdsInstanceReservationCoverage × AwsRdsInstance) :
    Prop where
  listed : row ∈ pass.coverageRows
  fresh : pass.fresh row.2.collectedAt = true
  eligible : isReservationCoverageEligibleInstance row.2 = true
  known : row.1.coverageStatus ≠ .unknown

/-- The fingerprint of an instance under a coverage rule that is not the one of its
status. -/
def Superseded (row : RdsInstanceReservationCoverage × AwsRdsInstance) (fingerprint : String) :
    Prop :=
  ∃ ruleKey ∈ coverageRules, statusRule row.1.coverageStatus ≠ some ruleKey ∧
    rdsFingerprint row.2.accountId row.2.region row.2.dbInstanceIdentifier ruleKey =
      .ok fingerprint

/-- Under the fingerprints of an instance, only the rule of its status is active. Under
its columns there is at most one active finding, of that rule. -/
structure CoverageExclusive (pass : CoveragePass) (after : Store) : Prop where
  byFingerprint : ∀ row, Decides pass row → ∀ fingerprint, Superseded row fingerprint →
    ∀ finding ∈ after.findings.rows, finding.fingerprint = fingerprint →
    finding.presenceStatus ≠ .active
  byColumns : ∀ row, Decides pass row → ∀ finding ∈ after.findings.rows, IsAbout row.2 finding →
    finding.ruleKey ∈ coverageRules → finding.presenceStatus = .active →
    statusRule row.1.coverageStatus = some finding.ruleKey
  atMostOne : ∀ row, Decides pass row → ∀ first ∈ after.findings.rows,
    ∀ second ∈ after.findings.rows, IsAbout row.2 first → IsAbout row.2 second →
    first.ruleKey ∈ coverageRules → second.ruleKey ∈ coverageRules →
    first.presenceStatus = .active → second.presenceStatus = .active → first = second

/-- No row of the run observes a superseded fingerprint, and the active findings
under these are among those that the settling loops read. -/
def SupersededInReach (pass : CoveragePass) (before : Store) : Prop :=
  ∀ row, Decides pass row → ∀ fingerprint, Superseded row fingerprint →
    ¬Observes pass fingerprint ∧ ∀ finding ∈ before.findings.rows,
      finding.fingerprint = fingerprint → finding.presenceStatus = .active →
      isExisting finding = true

/-- A finding of the reservation rules has the fingerprint of its columns. -/
def Identified (finding : Finding) : Prop :=
  finding.ruleKey ∈ rdsReservationRules → ∃ region, finding.region = some region ∧
    rdsFingerprint finding.accountId region finding.resourceId finding.ruleKey =
      .ok finding.fingerprint

omit [GeneralFormat] in
theorem Identified.of_subject {before after : Finding} (identified : Identified before)
    (subject : after.subject = before.subject) : Identified after := by
  simp only [Finding.subject, Subject.mk.injEq] at subject
  obtain ⟨-, fingerprint, -, account, rule, -, region, resource⟩ := subject
  intro reserved
  rw [rule] at reserved
  rw [fingerprint, account, rule, region, resource]
  exact identified reserved

variable {pass : CoveragePass} {before after : Store} {result : RdsReservationOpportunityResult}
  {observed uncertain : List String}

/-- A finding after a pass comes from one before, by observation or settlement, or is
newly observed. -/
theorem origin_of_pass (outcome : PassOutcome pass before after result observed uncertain)
    {next : Finding} (member : next ∈ after.findings.rows) :
    (∃ finding ∈ before.findings.rows, next.subject = finding.subject ∧
      (finding.fingerprint ∈ observed ∨
        next = (settlementOf pass uncertain finding).next finding)) ∨
      (NewlyObserved pass next ∧ next.fingerprint ∈ observed) := by
  refine (outcome.fresh next member).imp (fun origin => ?_) id
  obtain ⟨finding, findingMember, sameId⟩ := origin
  by_cases seen : finding.fingerprint ∈ observed
  · obtain ⟨carried, carriedMember, rewritten, -⟩ := outcome.seen finding findingMember seen
    obtain rfl := after.findings.eq_of_key carriedMember member
      ((Finding.id_of_subject rewritten.subject).trans sameId)
    exact ⟨finding, findingMember, rewritten.subject, Or.inl seen⟩
  · have conservative := settlementOf_conservative pass uncertain finding
    obtain rfl := after.findings.eq_of_key (outcome.settled finding findingMember seen) member
      ((Finding.id_of_subject conservative.subject).trans sameId)
    exact ⟨finding, findingMember, conservative.subject, Or.inr rfl⟩

omit [Digest] [GeneralFormat] in
/-- The settling loops leave none of the findings that they read active. -/
theorem settlementOf_inactive {uncertain : List String} {finding : Finding}
    (existing : isExisting finding = true) :
    ((settlementOf pass uncertain finding).next finding).presenceStatus ≠ .active := by
  rw [settlementOf, if_pos existing]
  split
  · rw [settleUncertain, markUncertain_missing]
    decide
  · exact settle_inactive pass finding

/-- Under the fingerprints, the exact condition. -/
theorem byFingerprint_iff (outcome : PassOutcome pass before after result observed uncertain)
    {fingerprint : String} :
    (∀ finding ∈ after.findings.rows, finding.fingerprint = fingerprint →
        finding.presenceStatus ≠ .active) ↔
      ¬Observes pass fingerprint ∧ ∀ finding ∈ before.findings.rows,
        finding.fingerprint = fingerprint → finding.presenceStatus = .active →
        isExisting finding = true := by
  constructor
  · intro inactive
    have unseen : fingerprint ∉ observed := by
      intro seen
      obtain ⟨next, nextMember, same, presence⟩ := outcome.present fingerprint seen
      exact inactive next nextMember same (congrArg TechnicalPresence.status presence)
    refine ⟨by rwa [← outcome.observed_iff], fun finding member same active => ?_⟩
    by_contra missing
    have kept := outcome.settled finding member (same ▸ unseen)
    rw [settlementOf, if_neg missing] at kept
    exact inactive finding kept same active
  · rintro ⟨unobserved, inReach⟩ next member same active
    have unseen : fingerprint ∉ observed := by rwa [outcome.observed_iff]
    rcases origin_of_pass outcome member with
      ⟨finding, findingMember, subject, seen | settled⟩ | ⟨-, seen⟩
    · rw [← Finding.fingerprint_of_subject subject, same] at seen
      exact unseen seen
    · have sameBefore : finding.fingerprint = fingerprint :=
        (Finding.fingerprint_of_subject subject).symm.trans same
      by_cases existing : isExisting finding = true
      · rw [settled] at active
        exact settlementOf_inactive existing active
      · rw [settled, settlementOf, if_neg existing] at active
        exact existing (inReach finding findingMember sameBefore active)
    · rw [same] at seen
      exact unseen seen

/-- A pass leaves an instance with one active coverage finding exactly when what it
supersedes is in reach. -/
theorem coverageExclusive_iff (outcome : PassOutcome pass before after result observed uncertain)
    (identified : ∀ finding ∈ after.findings.rows, Identified finding) :
    CoverageExclusive pass after ↔ SupersededInReach pass before := by
  constructor
  · intro exclusive row decides fingerprint superseded
    exact (byFingerprint_iff outcome).mp (exclusive.byFingerprint row decides fingerprint superseded)
  · intro inReach
    have byFingerprint : ∀ row, Decides pass row → ∀ fingerprint, Superseded row fingerprint →
        ∀ finding ∈ after.findings.rows, finding.fingerprint = fingerprint →
        finding.presenceStatus ≠ .active := fun row decides fingerprint superseded =>
      (byFingerprint_iff outcome).mpr (inReach row decides fingerprint superseded)
    -- the columns of an instance and a rule lead to its fingerprint
    have built {row : AwsRdsInstance} {finding : Finding} (member : finding ∈ after.findings.rows)
        (about : IsAbout row finding) (rule : finding.ruleKey ∈ coverageRules) :
        rdsFingerprint row.accountId row.region row.dbInstanceIdentifier finding.ruleKey =
          .ok finding.fingerprint := by
      obtain ⟨account, isRegion, resource⟩ := about
      obtain ⟨region, known, fingerprint⟩ :=
        identified finding member (List.mem_append_left _ rule)
      obtain rfl : row.region = region := Option.some.inj (isRegion.symm.trans known)
      rw [← account, ← resource]
      exact fingerprint
    have byColumns : ∀ row, Decides pass row → ∀ finding ∈ after.findings.rows,
        IsAbout row.2 finding → finding.ruleKey ∈ coverageRules →
        finding.presenceStatus = .active →
        statusRule row.1.coverageStatus = some finding.ruleKey := by
      intro row decides finding member about rule active
      by_contra other
      exact byFingerprint row decides finding.fingerprint
        ⟨finding.ruleKey, rule, other, built member about rule⟩ finding member rfl active
    refine ⟨byFingerprint, byColumns, fun row decides first firstMember second secondMember
      firstAbout secondAbout firstRule secondRule firstActive secondActive => ?_⟩
    have sameRule : first.ruleKey = second.ruleKey := Option.some.inj
      ((byColumns row decides first firstMember firstAbout firstRule firstActive).symm.trans
        (byColumns row decides second secondMember secondAbout secondRule secondActive))
    have firstBuilt := built firstMember firstAbout firstRule
    rw [sameRule, built secondMember secondAbout secondRule] at firstBuilt
    exact after.findings.eq_of_unique firstMember secondMember (Except.ok.inj firstBuilt).symm

end Passes

section Runs

variable [CaseMapping] [AlphabetTable] [Digest] [GeneralFormat] [UuidSource] [SystemClock]

omit [AlphabetTable] [GeneralFormat] [UuidSource] [SystemClock] in
/-- Findings that evolve stay identified, where the new ones are. -/
theorem identified_of_evolves {related : Finding → Finding → Prop} {new : Finding → Prop}
    {before after : Store}
    (evolved : Table.Evolves related new before.findings after.findings)
    (subject : ∀ {first second}, related first second → second.subject = first.subject)
    (fresh : ∀ {finding}, new finding → Identified finding)
    (identified : ∀ finding ∈ before.findings.rows, Identified finding) :
    ∀ finding ∈ after.findings.rows, Identified finding := by
  intro finding member
  rcases evolved.origin member with ⟨old, oldMember, -, carried⟩ | ⟨-, isNew⟩
  · exact (identified old oldMember).of_subject (subject carried)
  · exact fresh isNew

omit [AlphabetTable] in
/-- Every operation keeps the reservation findings identified, where collections
report none of their rules. -/
theorem identified_of_effect {operation : Operation} {before after : Store}
    (generic : ∀ item ∈ operation.collected, item.ruleKey ∉ rdsReservationRules)
    (effect : Effect operation before after)
    (identified : ∀ finding ∈ before.findings.rows, Identified finding) :
    ∀ finding ∈ after.findings.rows, Identified finding := by
  cases effect with
  | observed run observedAt clockReads later persisted collects timed =>
    refine identified_of_evolves persisted.findings (fun observed => observed.subject)
      (fun {finding} discovered reserved => ?_) identified
    obtain ⟨item, listed, sameRule⟩ := discovered.collectedAs
    exact absurd (sameRule ▸ reserved) (generic item listed)
  | reconciled findings kept collects =>
    exact identified_of_evolves findings (fun rewritten => rewritten.subject) False.elim identified
  | covered settings tables coverageRunId now isCoverage pass result accepted isPass
      observed uncertain clockReads later outcome =>
    intro next member
    rcases origin_of_pass outcome member with ⟨finding, findingMember, subject, -⟩ | ⟨new, -⟩
    · exact (identified finding findingMember).of_subject subject
    · exact fun _ => new.identified
  | shelved step =>
    refine identified_of_evolves step.findings (fun {first second} shelved => ?_) False.elim
      identified
    rcases shelved with rfl | ⟨-, archivedAt, archivedBy, archiveReason, rfl⟩ <;> rfl
  | unshelved step =>
    refine identified_of_evolves step.findings (fun {first second} unshelved => ?_) False.elim
      identified
    rcases unshelved with rfl | ⟨-, rfl⟩ <;> rfl
  | decided human =>
    obtain ⟨middle, candidates, decided, -, -, grown⟩ := human
    obtain ⟨ledgerEntries, drawn, -, rfl⟩ := grown.frame
    exact identified_of_evolves decided (fun kept => kept.subject) False.elim identified
  | cleaned shrunk =>
    obtain ⟨collectionRuns, observations, -, rfl⟩ := shrunk
    exact identified

/-- From every reachable store, a completed pass leaves each instance that it decides
about with at most one active coverage finding, of the rule of its status, exactly when
what it supersedes is in reach of its settling loops. -/
theorem coverage_exclusive {start : Store} (empty : start.findings.rows = [])
    {operations : List Operation}
    (generic : ∀ operation ∈ operations, ∀ item ∈ operation.collected,
      item.ruleKey ∉ rdsReservationRules)
    {settings : RdsReservationSettings} {tables : RdsTables} {coverageRunId : Option ℤ}
    {now : Option Instant} {pass : CoveragePass} {result : RdsReservationOpportunityResult}
    {after : Store}
    (isPass : passOf settings tables (stateAfter perform start operations) coverageRunId now =
      .ok pass)
    (accepted : generateRdsReservationOpportunities settings tables
      (stateAfter perform start operations) coverageRunId now = .ok (result, after)) :
    CoverageExclusive pass after ↔
      SupersededInReach pass (stateAfter perform start operations) := by
  have identified : ∀ finding ∈ (stateAfter perform start operations).findings.rows,
      Identified finding := by
    refine stateAfter_invariant (fun (state : Store) => ∀ finding ∈ state.findings.rows,
      Identified finding) (by simp [empty]) ?_
    intro operation member state next holds committed
    exact identified_of_effect (generic operation member) (effect_of_perform committed) holds
  obtain ⟨other, observed, uncertain, clockReads, same, -, outcome⟩ := generate_eq_ok accepted
  obtain rfl := Except.ok.inj (isPass.symm.trans same)
  have identifiedAfter : ∀ finding ∈ after.findings.rows, Identified finding := by
    intro next member
    rcases origin_of_pass outcome member with ⟨finding, findingMember, subject, -⟩ | ⟨new, -⟩
    · exact (identified finding findingMember).of_subject subject
    · exact fun _ => new.identified
  have exactly := coverageExclusive_iff outcome identifiedAfter
  exact exactly

end Runs

section Accounts

variable [CaseMapping] [AlphabetTable] [Digest] [GeneralFormat] [UuidSource] [SystemClock]

/-- A coverage pass leaves the accounts. -/
theorem accountsKept_coverageRun {operation : Operation} {settings : RdsReservationSettings}
    {tables : RdsTables} {coverageRunId : Option ℤ} {now : Option Instant} {store after : Store}
    (isPass : operation = .coverageRun settings tables coverageRunId now)
    (committed : perform operation store = .ok after) :
    after.cloudAccounts = store.cloudAccounts := by
  subst isPass
  obtain ⟨result, accepted⟩ := map_snd_eq_ok.mp committed
  obtain ⟨pass, observed, uncertain, clockReads, -, -, outcome⟩ := generate_eq_ok accepted
  obtain ⟨findings, drawn, -, rfl⟩ := outcome.frame
  rfl

/-- So does an archiving. -/
theorem accountsKept_archive {operation : Operation} {opportunityId actor : String}
    {store after : Store} (isArchive : operation = .archive opportunityId actor)
    (committed : perform operation store = .ok after) :
    after.cloudAccounts = store.cloudAccounts := by
  subst isArchive
  obtain ⟨result, accepted⟩ := map_snd_eq_ok.mp committed
  obtain ⟨findings, archiveHistory, clockReads, -, rfl⟩ := (archive_eq_ok accepted).frame
  rfl

end Accounts

section Sample

attribute [local instance] asciiCase asciiAlphabet plainDigest integralFormat countingUuids
  countingClock

/-- The coverage of the instance in a run. -/
def sampleCoverage (coverageRunId : ℤ) (covered : ℚ) (status : CoverageStatus) :
    RdsInstanceReservationCoverage where
  coverageRunId := coverageRunId
  rdsInstanceId := 1
  accountId := "111"
  region := "eu-west-1"
  requiredUnits := 4
  coveredUnits := covered
  uncoveredUnits := 4 - covered
  coveragePercentage := covered * 25
  coverageStatus := status
  coverageScope := "account"
  calculationMethod := "normalized_units"
  explanation := ""

/-- Two completed runs: the instance had no coverage, and then half of it. -/
def improvingTables : RdsTables where
  coverageRuns := [⟨2, 20, some 20, .completed⟩, ⟨3, 30, some 30, .completed⟩]
  instances := [sampleInstance 1 "db-1"]
  reservations := []
  coverage := [sampleCoverage 2 0 .uncovered, sampleCoverage 3 2 .partially]
  utilization := []
  allocations := []

/-- The pass over one of these runs at an instant. -/
def improvingPass (coverageRunId : ℤ) (now : Instant) : Operation :=
  .coverageRun defaultSettings improvingTables (some coverageRunId) (some now)

/-- The first pass, with or without archiving what it found. -/
def uncoveredRun (archived : Bool) : List Operation :=
  improvingPass 2 21 :: if archived then [.archive "id-" "ana"] else []

/-- The store after these operations. -/
def afterUncovered (archived : Bool) : Store :=
  stateAfter perform Store.empty (uncoveredRun archived)

/-- The pass over the second run as the code makes it. -/
def partialPass : CoveragePass where
  settings := defaultSettings
  tables := improvingTables
  run := ⟨3, 30, some 30, .completed⟩
  generatedAt := 31
  accountNames := []

theorem cloudAccounts_afterUncovered (archived : Bool) :
    (afterUncovered archived).cloudAccounts = [] := by
  refine stateAfter_invariant (fun (state : Store) => state.cloudAccounts = []) rfl ?_
  intro operation member state next holds committed
  have either : operation = improvingPass 2 21 ∨ operation = .archive "id-" "ana" := by
    cases archived with
    | true => simpa [uncoveredRun] using member
    | false => exact Or.inl (by simpa [uncoveredRun] using member)
  rcases either with isPass | isArchive
  · unfold improvingPass at isPass
    exact (accountsKept_coverageRun isPass committed).trans holds
  · exact (accountsKept_archive isArchive committed).trans holds

/-- A pass reads the names of the accounts from the store, and there are none. -/
theorem passOf_afterUncovered (archived : Bool) :
    passOf defaultSettings improvingTables (afterUncovered archived) (some 3) (some 31) =
      .ok partialPass := by
  unfold passOf
  rw [cloudAccounts_afterUncovered]
  rfl

/-- The finding of the first pass was archived while active. It is still active after
the second pass, whose status has another rule. -/
theorem coverage_exclusive_refuted :
    passOf defaultSettings improvingTables (afterUncovered true) (some 3) (some 31) =
        .ok partialPass ∧
      (commit perform (afterUncovered true) (improvingPass 3 31)).findings.rows.map
        (fun finding => (finding.ruleKey, finding.presenceStatus)) =
          [(rdsReservationUncovered, .active), (rdsReservationPartialCoverage, .active)] ∧
      ¬CoverageExclusive partialPass (commit perform (afterUncovered true) (improvingPass 3 31)) := by
  have rows : (commit perform (afterUncovered true) (improvingPass 3 31)).findings.rows.map
      (fun finding => ((finding.ruleKey, finding.presenceStatus), finding.accountId,
        finding.region, finding.resourceId)) =
      [((rdsReservationUncovered, .active), "111", some "eu-west-1", "db-1"),
        ((rdsReservationPartialCoverage, .active), "111", some "eu-west-1", "db-1")] := by
    decide +kernel
  have verdicts := congrArg (List.map Prod.fst) rows
  rw [List.map_map] at verdicts
  refine ⟨passOf_afterUncovered true, verdicts, fun exclusive => ?_⟩
  -- the first row is that of the archived finding
  have stale : ((rdsReservationUncovered, OpportunityPresenceStatus.active), "111",
      some "eu-west-1", "db-1") ∈
      (commit perform (afterUncovered true) (improvingPass 3 31)).findings.rows.map
        (fun finding => ((finding.ruleKey, finding.presenceStatus), finding.accountId,
          finding.region, finding.resourceId)) := by
    rw [rows]
    exact List.mem_cons_self
  obtain ⟨finding, member, columns⟩ := List.mem_map.mp stale
  simp only [Prod.mk.injEq] at columns
  obtain ⟨⟨rule, active⟩, about⟩ := columns
  have decides : Decides partialPass (sampleCoverage 3 2 .partially, sampleInstance 1 "db-1") :=
    ⟨by decide +kernel, by decide +kernel, by decide +kernel, by decide⟩
  have sameRule := exclusive.byColumns _ decides finding member about
    (by rw [rule]; decide) active
  rw [rule] at sameRule
  exact absurd sameRule (by decide)

/-- Without the archive operation the theorem decides the second pass. -/
theorem coverage_exclusive_improving : ∃ result after,
    generateRdsReservationOpportunities defaultSettings improvingTables (afterUncovered false)
      (some 3) (some 31) = .ok (result, after) ∧
    (CoverageExclusive partialPass after ↔
      SupersededInReach partialPass (afterUncovered false)) := by
  have completes : (generateRdsReservationOpportunities defaultSettings improvingTables
      (afterUncovered false) (some 3) (some 31)).toBool = true := by decide +kernel
  obtain ⟨outcome, computed⟩ := Fallible.ok_of_toBool completes
  have generic : ∀ operation ∈ uncoveredRun false, ∀ item ∈ operation.collected,
      item.ruleKey ∉ rdsReservationRules := by decide
  have isEmpty : Store.empty.findings.rows = [] := rfl
  exact ⟨outcome.1, outcome.2, computed,
    coverage_exclusive isEmpty generic (passOf_afterUncovered false) computed⟩

end Sample

end FinopsAnalytics.RdsCoverageExclusivity
