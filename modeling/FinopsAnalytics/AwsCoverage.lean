import FinopsAnalytics.AwsCollections

/-!
# Coverage of AWS collections

A scope row with the status of success says that the run examined a rule in a
region, and a finding that the run did not observe there is counted missing. The
row is built from the regions of the run, the rules of two readings of the policies
and the texts of errors; whether it is right depends on what each of them says.
-/

namespace FinopsAnalytics.AwsCoverage

open PythonText OpportunityRecords OpportunityReconciliation OpportunityPresence Fallible
  UniqueTables TransactionHistories Dictionaries DistinctKeys
open OciCollections (Persistence runningRun)
open AwsCollections

section Texts

/-- What stands before the first colon of an error, with its last at sign. -/
theorem errorScope_eq_some {text ruleKey region : String} :
    errorScope text = some (ruleKey, region) ↔
      ':' ∈ text.toList ∧ '@' ∉ region.toList ∧ ruleKey ≠ "" ∧ region ≠ "" ∧
        text.toList.takeWhile (· ≠ ':') = ruleKey.toList ++ '@' :: region.toList := by
  have nonempty {value : String} (present : value ≠ "") : scopeRegion (some value) = value := by
    simp [scopeRegion, present]
  constructor
  · intro read
    unfold errorScope at read
    simp only at read
    split at read
    · rename_i parts
      obtain ⟨colon, sign, rulePresent, regionPresent⟩ := parts
      rw [nonempty regionPresent, Option.some.injEq, Prod.mk.injEq] at read
      rw [String.toList_ofList] at sign
      obtain ⟨behind, before, shape, absent⟩ := List.eq_append_cons_of_mem
        (List.mem_reverse.mpr sign)
      have front : text.toList.takeWhile (· ≠ ':') =
          before.reverse ++ '@' :: behind.reverse := by
        rw [← List.reverse_reverse (text.toList.takeWhile (· ≠ ':')), shape]
        simp
      have plain : '@' ∉ behind.reverse := by simpa using absent
      rw [front, rsplitLast_append plain] at read rulePresent regionPresent
      obtain ⟨rfl, rfl⟩ := read
      exact ⟨colon, by simpa using absent, rulePresent, regionPresent, by simpa using front⟩
    · cases read
  · rintro ⟨colon, plain, rulePresent, regionPresent, front⟩
    unfold errorScope
    simp only
    rw [front, rsplitLast_append plain]
    simp [colon, rulePresent, regionPresent, nonempty regionPresent]

/-- No rule has a colon, an at sign or a bracket. -/
theorem plain_rule {ruleKey : String} (known : ruleKey ∈ rules) :
    ':' ∉ ruleKey.toList ∧ '@' ∉ ruleKey.toList ∧ '(' ∉ ruleKey.toList ∧ ruleKey ≠ "" := by
  revert ruleKey
  decide

/-- The front of a collector's error. -/
theorem takeWhile_errorText {ruleKey region message : String} (plain : ':' ∉ ruleKey.toList) :
    (errorText ruleKey region message).toList.takeWhile (· ≠ ':') =
      ruleKey.toList ++ '@' :: region.toList.takeWhile (· ≠ ':') := by
  have colonless : ∀ c ∈ ruleKey.toList, decide (c ≠ ':') = true := fun c member =>
    decide_eq_true fun same => plain (same ▸ member)
  have shape : (errorText ruleKey region message).toList =
      ruleKey.toList ++ '@' :: (region.toList ++ ':' :: ' ' :: message.toList) := by
    simp [errorText]
  rw [shape, List.takeWhile_append_of_pos colonless]
  congr 1
  rw [List.takeWhile_cons_of_pos (by decide)]
  congr 1
  induction region.toList with
  | nil => simp
  | cons first rest ih =>
    by_cases colon : first = ':'
    · simp [colon]
    · simp only [List.cons_append, List.takeWhile_cons, ih]

/-- The error of a collector names its own rule, if any. -/
theorem errorScope_rule {ruleKey region message named scope : String} (known : ruleKey ∈ rules)
    (namedKnown : named ∈ rules)
    (read : errorScope (errorText ruleKey region message) = some (named, scope)) :
    named = ruleKey := by
  obtain ⟨-, -, -, -, front⟩ := errorScope_eq_some.mp read
  rw [takeWhile_errorText (plain_rule known).1] at front
  have signless {key : String} (member : key ∈ rules) (rest : List Char) :
      (key.toList ++ '@' :: rest).takeWhile (· ≠ '@') = key.toList := by
    have plain : ∀ c ∈ key.toList, decide (c ≠ '@') = true := fun c inKey =>
      decide_eq_true fun same => (plain_rule member).2.1 (same ▸ inKey)
    rw [List.takeWhile_append_of_pos plain]
    simp
  have fronts := congrArg (List.takeWhile (· ≠ '@')) front
  rw [signless known, signless namedKnown] at fronts
  exact (String.toList_injective fronts).symm

/-- An issue of the inventory names no rule. -/
theorem errorScope_inventory {fields named scope : String}
    (read : errorScope (CollectorError.inventory fields).value.message = some (named, scope)) :
    named ∉ rules := by
  intro known
  obtain ⟨-, -, -, -, front⟩ := errorScope_eq_some.mp read
  obtain ⟨-, sign, bracket, -⟩ := plain_rule known
  have opening : ∀ c ∈ "InventoryDiscoveryIssue(".toList, decide (c ≠ ':') = true := by simp
  have shape : (CollectorError.inventory fields).value.message.toList =
      "InventoryDiscoveryIssue(".toList ++ (fields ++ ")").toList := by
    simp [CollectorError.value, CollectionErrors.ErrorValue.message, String.append_assoc]
  rw [shape, List.takeWhile_append_of_pos opening] at front
  have signless : ∀ c ∈ "InventoryDiscoveryIssue(".toList, decide (c ≠ '@') = true := by simp
  have namedSignless : ∀ c ∈ named.toList, decide (c ≠ '@') = true := fun c inKey =>
    decide_eq_true fun same => sign (same ▸ inKey)
  have fronts := congrArg (List.takeWhile (· ≠ '@')) front
  rw [List.takeWhile_append_of_pos signless, List.takeWhile_append_of_pos namedSignless] at fronts
  have inside : '(' ∈ named.toList := by
    have member : '(' ∈ named.toList ++ List.takeWhile (· ≠ '@') ('@' :: scope.toList) := by
      rw [← fronts]
      exact List.mem_append_left _ (by decide)
    simpa using member
  exact bracket inside

/-- The error of a collector names its region, where the name has neither of the
two marks. -/
theorem errorScope_errorText {ruleKey region message : String} (known : ruleKey ∈ rules)
    (colon : ':' ∉ region.toList) (sign : '@' ∉ region.toList) (present : region ≠ "") :
    errorScope (errorText ruleKey region message) = some (ruleKey, region) := by
  rw [errorScope_eq_some]
  refine ⟨by simp [errorText], sign, (plain_rule known).2.2.2, present, ?_⟩
  rw [takeWhile_errorText (plain_rule known).1]
  have colonless : ∀ c ∈ region.toList, decide (c ≠ ':') = true := fun c member =>
    decide_eq_true fun same => colon (same ▸ member)
  rw [List.takeWhile_eq_self_iff.mpr colonless]

end Texts

section Calls

variable {answers : String → String → CollectorAnswer}

/-- What `run_collectors` has gathered of its calls: the error of every call that the
provider refused, and of no other. -/
structure Answered (answers : String → String → CollectorAnswer) (calls : List (String × String))
    (gathered : Gathered) : Prop where
  errors : ∀ text ∈ gathered.errors, ∃ call ∈ calls, ∃ message,
    answers call.1 call.2 = .providerError message ∧ text = errorText call.1 call.2 message
  answered : ∀ call ∈ calls, (∃ findings, answers call.1 call.2 = .collected findings) ∨
    ∃ message, answers call.1 call.2 = .providerError message ∧
      errorText call.1 call.2 message ∈ gathered.errors ∧ call.1 ∈ gathered.failedRuleKeys

/-- Each call is answered by its own pages. -/
theorem answered_collect {calls : List (String × String)} {gathered next : Gathered}
    {call : String × String} (earlier : Answered answers calls gathered)
    (collected : collect answers gathered call = .ok next) :
    Answered answers (calls ++ [call]) next := by
  have last : call ∈ calls ++ [call] :=
    List.mem_append_right _ (List.mem_singleton.mpr rfl)
  unfold collect at collected
  split at collected
  · rename_i findings answer
    cases collected
    refine ⟨fun text member => ?_, fun other member => ?_⟩
    · obtain ⟨source, sourceMember, rest⟩ := earlier.errors text member
      exact ⟨source, List.mem_append_left _ sourceMember, rest⟩
    · rcases List.mem_append.mp member with early | own
      · exact earlier.answered other early
      · rw [List.mem_singleton.mp own]
        exact Or.inl ⟨findings, answer⟩
  · rename_i message answer
    cases collected
    refine ⟨fun text member => ?_, fun other member => ?_⟩
    · rcases List.mem_append.mp member with early | own
      · obtain ⟨source, sourceMember, rest⟩ := earlier.errors text early
        exact ⟨source, List.mem_append_left _ sourceMember, rest⟩
      · exact ⟨call, last, message, answer, List.mem_singleton.mp own⟩
    · rcases List.mem_append.mp member with early | own
      · exact (earlier.answered other early).imp id fun ⟨text, refused, listed, failed⟩ =>
          ⟨text, refused, List.mem_append_left _ listed, List.mem_append_left _ failed⟩
      · rw [List.mem_singleton.mp own]
        exact Or.inr ⟨message, answer, List.mem_append_right _ (List.mem_singleton.mpr rfl),
          List.mem_append_right _ (List.mem_singleton.mpr rfl)⟩
  · cases collected

theorem answered_runCollectors {regions ruleKeys : List String} {gathered : Gathered}
    (done : runCollectors answers regions ruleKeys = .ok gathered) :
    Answered answers (collectorCalls regions ruleKeys) gathered := by
  have run := foldlM_done [] (Answered answers)
    (fun call _ calls state next earlier collected => answered_collect earlier collected)
    ⟨fun _ member => absurd member List.not_mem_nil,
      fun _ member => absurd member List.not_mem_nil⟩ done
  exact run

theorem mem_collectorCalls {regions ruleKeys : List String} {ruleKey region : String} :
    (ruleKey, region) ∈ collectorCalls regions ruleKeys ↔
      ruleKey ∈ ruleKeys ∧ region ∈ if ruleKey ∈ globalCollectors then ["global"] else regions := by
  simp only [collectorCalls, List.mem_flatMap, List.mem_map, Prod.mk.injEq]
  constructor
  · rintro ⟨_, member, _, inRegions, rfl, rfl⟩
    exact ⟨member, inRegions⟩
  · rintro ⟨member, inRegions⟩
    exact ⟨ruleKey, member, region, inRegions, rfl, rfl⟩

end Calls

section Coverage

/-- The collector of a rule was called for a region and returned without an error. -/
def Returned (reading : Reading) (answers : AwsAnswers) (ruleKey region : String) : Prop :=
  (ruleKey, region) ∈ collectorCalls reading.regions reading.ruleKeys ∧
    ∃ findings, answers.collector ruleKey region = .collected findings

/-- The execution examined what a scope row names: all regions are examined by a
global collector. -/
def Examined (reading : Reading) (answers : AwsAnswers) (ruleKey region : String) : Prop :=
  if region = allRegionsScope then
    ruleKey ∈ globalCollectors ∧ Returned reading answers ruleKey "global"
  else Returned reading answers ruleKey region

/-- What the regions of a run, the reading of its execution and the answers must be
for the rows of a regional rule. The execution has read every region of the run; the
error of a region names it, unless no error of the rule names a region; and no
collector returns from a region that is named like all regions. -/
structure Covered (reading : Reading) (answers : AwsAnswers) (regions : List String)
    (ruleKey : String) : Prop where
  executed : ∀ region ∈ runRegions regions, region ∈ reading.regions
  named : ∀ region ∈ runRegions regions, ∀ message,
    answers.collector ruleKey region = .providerError message →
      errorScope (errorText ruleKey region message) = some (ruleKey, region) ∨
        ∀ other ∈ reading.regions, ∀ text,
          answers.collector ruleKey other = .providerError text →
            (errorScope (errorText ruleKey other text)).map Prod.fst ≠ some ruleKey
  regional : allRegionsScope ∈ runRegions regions →
    ∀ findings, answers.collector ruleKey allRegionsScope ≠ .collected findings

variable {reading : Reading} {answers : AwsAnswers} {regions : List String} {gathered : Gathered}
  {ruleKey region : String}

/-- Regions with ordinary names are covered once the execution has read them. -/
theorem covered_of_plain {ruleKey : String} (known : ruleKey ∈ rules)
    (executed : ∀ region ∈ runRegions regions, region ∈ reading.regions)
    (plain : ∀ region ∈ runRegions regions, ':' ∉ region.toList ∧ '@' ∉ region.toList ∧
      region ≠ "" ∧ region ≠ allRegionsScope) : Covered reading answers regions ruleKey where
  executed := executed
  named region member _ _ :=
    Or.inl (errorScope_errorText known (plain region member).1 (plain region member).2.1
      (plain region member).2.2.1)
  regional member := absurd rfl (plain _ member).2.2.2

/-- A failure that is read off the errors of an execution is that of a call. -/
theorem call_of_failedScope
    (answered : Answered answers.collector (collectorCalls reading.regions reading.ruleKeys)
      gathered) {ruleKey scope : String} (known : ruleKey ∈ rules) (failed : (ruleKey, scope) ∈
      failedScopes (executionResult reading answers gathered).collectorErrors) :
    ∃ region message, (ruleKey, region) ∈ collectorCalls reading.regions reading.ruleKeys ∧
      answers.collector ruleKey region = .providerError message ∧
        errorScope (errorText ruleKey region message) = some (ruleKey, scope) := by
  obtain ⟨error, member, read⟩ := List.mem_filterMap.mp failed
  rcases List.mem_append.mp member with fromCollector | fromInventory
  · obtain ⟨text, textMember, rfl⟩ := List.mem_map.mp fromCollector
    obtain ⟨⟨own, region⟩, callMember, message, refused, rfl⟩ := answered.errors text textMember
    have ownKnown := reading.known (mem_collectorCalls.mp callMember).1
    obtain rfl := errorScope_rule ownKnown known read
    exact ⟨region, message, callMember, refused, read⟩
  · obtain ⟨fields, -, rfl⟩ := List.mem_map.mp fromInventory
    exact absurd known (errorScope_inventory read)

/-- A refused call fails its rule, and its error is among those of the execution. -/
theorem refused_call
    (answered : Answered answers.collector (collectorCalls reading.regions reading.ruleKeys)
      gathered) (called : (ruleKey, region) ∈ collectorCalls reading.regions reading.ruleKeys) :
    (∃ findings, answers.collector ruleKey region = .collected findings) ∨
      ∃ message, answers.collector ruleKey region = .providerError message ∧
        ruleKey ∉ (executionResult reading answers gathered).activeRuleKeys ∧
        ∀ scope, errorScope (errorText ruleKey region message) = some scope →
          scope ∈ failedScopes (executionResult reading answers gathered).collectorErrors := by
  refine (answered.answered _ called).imp id ?_
  rintro ⟨message, refused, listed, failed⟩
  refine ⟨message, refused, fun active => ?_, fun scope read => ?_⟩
  · have unfailed := (List.mem_filter.mp active).2
    exact of_decide_eq_true unfailed failed
  · exact List.mem_filterMap.mpr
      ⟨_, List.mem_append_left _ (List.mem_map_of_mem listed), read⟩

/-- A row of success is right about a covered rule. -/
theorem examined_of_success
    (answered : Answered answers.collector (collectorCalls reading.regions reading.ruleKeys)
      gathered) (known : ruleKey ∈ rules)
    (covered : ruleKey ∈ reading.ruleKeys → ruleKey ∉ globalCollectors →
      Covered reading answers regions ruleKey) (member : region ∈ ruleRegions regions ruleKey)
    (success : scopeStatus (executionResult reading answers gathered) ruleKey region =
      .success) : Examined reading answers ruleKey region := by
  unfold scopeStatus at success
  simp only at success
  split at success
  · cases success
  rename_i unfailed
  split at success
  swap
  · cases success
  rename_i evidence
  have read : ruleKey ∈ reading.ruleKeys := by
    rcases evidence with active | named
    · exact List.mem_of_mem_filter active
    · obtain ⟨⟨own, scope⟩, failed, rfl⟩ := List.mem_map.mp named
      obtain ⟨_, _, called, -, -⟩ := call_of_failedScope answered known failed
      exact (mem_collectorCalls.mp called).1
  by_cases everywhere : ruleKey ∈ globalCollectors
  · obtain rfl : region = allRegionsScope := by
      simpa [ruleRegions, everywhere] using member
    rw [collectorScope, if_pos everywhere] at unfailed
    refine (if_pos rfl).mpr ⟨everywhere, ?_⟩
    have called : (ruleKey, "global") ∈ collectorCalls reading.regions reading.ruleKeys :=
      mem_collectorCalls.mpr ⟨read, by rw [if_pos everywhere]; exact List.mem_singleton.mpr rfl⟩
    rcases refused_call answered called with returned | ⟨message, -, -, listed⟩
    · exact ⟨called, returned⟩
    · exact absurd (listed _ (errorScope_errorText known (by decide) (by decide) (by decide)))
        unfailed
  · rw [ruleRegions, if_neg everywhere] at member
    rw [collectorScope, if_neg everywhere] at unfailed
    have cover := covered read everywhere
    have called : (ruleKey, region) ∈ collectorCalls reading.regions reading.ruleKeys :=
      mem_collectorCalls.mpr ⟨read, by
        rw [if_neg everywhere]
        exact cover.executed region member⟩
    have returned : ∃ findings, answers.collector ruleKey region = .collected findings := by
      rcases refused_call answered called with returned | ⟨message, refused, inactive, listed⟩
      · exact returned
      · rcases cover.named region member message refused with own | unnamed
        · exact absurd (listed _ own) unfailed
        · -- another region's error names the rule, which the covering excludes
          rcases evidence with active | named
          · exact absurd active inactive
          · obtain ⟨⟨key, scope⟩, failed, rfl⟩ := List.mem_map.mp named
            obtain ⟨other, text, otherCalled, otherRefused, otherRead⟩ :=
              call_of_failedScope answered known failed
            have inRegions := (mem_collectorCalls.mp otherCalled).2
            rw [if_neg everywhere] at inRegions
            exact absurd (by rw [otherRead]; rfl) (unnamed other inRegions text otherRefused)
    by_cases wildcard : region = allRegionsScope
    · obtain ⟨findings, collected⟩ := returned
      exact absurd (wildcard ▸ collected) (cover.regional (wildcard ▸ member) findings)
    · exact (if_neg wildcard).mpr ⟨called, returned⟩

/-- A region of a run has a name. -/
theorem scopeRegion_runRegions (member : region ∈ ruleRegions regions ruleKey) :
    scopeRegion (some region) = region := by
  have named : region ≠ "" := by
    unfold ruleRegions at member
    split at member
    · rw [List.mem_singleton.mp member]
      decide
    · unfold runRegions at member
      simp only at member
      split at member
      · rw [List.mem_singleton.mp member]
        decide
      · rw [mem_sortByKey, List.mem_eraseDups] at member
        obtain ⟨source, -, rfl⟩ := List.mem_map.mp member
        unfold scopeRegion
        split <;> simp_all
  simp [scopeRegion, named]

end Coverage

section Collections

abbrev AwsTransition := Transition AwsSystem AwsOperation

/-- The transition persists a collection of the run whose execution examined the
rule in the region. -/
def ExaminedBy (transition : AwsTransition) (runId ruleKey region : String) : Prop :=
  ∃ answers persistence reading,
    transition.operation = .persistCollection runId answers persistence ∧
      transition.before.readings.lookup runId = some reading ∧
        Examined reading answers ruleKey region

/-- A scope row of success is written only for what its run examined, and a finding
is counted missing only where the run examined its rule. -/
structure CoverageSound (transition : AwsTransition) : Prop where
  rows : ∀ row ∈ transition.after.opportunities.scopeExecutions.rows,
    row ∉ transition.before.opportunities.scopeExecutions.rows → row.status = .success →
      ExaminedBy transition row.collectionRunId row.ruleKey row.region
  absences : ∀ finding ∈ transition.before.opportunities.findings.rows,
    ∀ next ∈ transition.after.opportunities.findings.rows, next.id = finding.id →
      finding.missingCount < next.missingCount →
        ∃ runId region, ExaminedBy transition runId finding.ruleKey region ∧
          (region = scopeRegion finding.region ∨ region = allRegionsScope)

/-- A collection is persisted only while the regions of its run, the reading of its
execution and the answers cover the regional rules that both readings enable. -/
def CoverageKept (awsAccountId : ℤ) (transition : AwsTransition) : Prop :=
  match transition.operation with
  | .persistCollection runId answers _ =>
    ∀ reading ∈ transition.before.readings.lookup runId,
      ∀ regions ∈ transition.before.scopes.lookup runId,
        ∀ ruleKey ∈ enabledRules transition.before.policies awsAccountId,
          ruleKey ∈ reading.ruleKeys → ruleKey ∉ globalCollectors →
            Covered reading answers regions ruleKey
  | _ => True

/-- Where nothing is written, nothing is wrong. -/
theorem coverageSound_unchanged {transition : AwsTransition}
    (findings : transition.after.opportunities.findings =
      transition.before.opportunities.findings)
    (scopes : transition.after.opportunities.scopeExecutions =
      transition.before.opportunities.scopeExecutions) : CoverageSound transition where
  rows row member fresh _ := absurd (scopes ▸ member) fresh
  absences finding member next nextMember same raised := by
    rw [findings] at nextMember
    obtain rfl := transition.before.opportunities.findings.eq_of_key nextMember member same
    exact absurd raised (lt_irrefl _)

variable [CaseMapping] [InventoryPersistence.TextLiteral] [OpportunityFingerprint.Digest]
  [UuidSource] [SystemClock] {account : CloudAccount} {awsAccountId : ℤ}

/-- What a persisted collection did. -/
theorem persistCollection_eq_ok {system after : AwsSystem} {runId : String}
    {answers : AwsAnswers} {persistence : Persistence}
    (accepted : step account awsAccountId (.persistCollection runId answers persistence) system =
      .ok after) :
    ∃ run reading regions gathered,
      system.opportunities.collectionRuns.find? runId = some run ∧
      system.readings.lookup runId = some reading ∧ system.scopes.lookup runId = some regions ∧
      runCollectors answers.collector reading.regions reading.ruleKeys = .ok gathered ∧
      persistScan system.opportunities persistence.scanId runId
        (executionResult reading answers gathered).findings persistence.observedAt
        (awsScopeRows run regions (enabledRules system.policies awsAccountId)
          (executionResult reading answers gathered) persistence.completedAt)
        persistence.missingThreshold persistence.completedAt = .ok after.opportunities := by
  obtain ⟨run, running, rest⟩ := bind_eq_ok.mp accepted
  obtain ⟨known, -⟩ := OciCollections.runningRun_eq_ok running
  split at rest
  · rename_i reading regions read claimed
    obtain ⟨gathered, collected, rest⟩ := bind_eq_ok.mp rest
    obtain ⟨inventory, -, rest⟩ := bind_eq_ok.mp rest
    obtain ⟨opportunities, scanned, rest⟩ := bind_eq_ok.mp rest
    cases rest
    exact ⟨run, reading, regions, gathered, known, read, claimed, collected, scanned⟩
  · cases rest

omit [CaseMapping] [InventoryPersistence.TextLiteral] [OpportunityFingerprint.Digest]
  [UuidSource] [SystemClock] in
/-- What a candidate of a collection names is one of the rules that the second
reading enables, in one of its regions. -/
theorem mem_awsScopeRows {run : CollectionRun} {regions configured : List String}
    {result : CollectionExecutionResult} {finishedAt : Instant} {candidate : ScopeCandidate}
    (member : candidate ∈ awsScopeRows run regions configured result finishedAt) :
    candidate.ruleKey ∈ configured ∧ candidate.region ∈ ruleRegions regions candidate.ruleKey ∧
      candidate.status = scopeStatus result candidate.ruleKey candidate.region := by
  obtain ⟨ruleKey, ruleMember, inRegions⟩ := List.mem_flatMap.mp member
  obtain ⟨region, regionMember, rfl⟩ := List.mem_map.mp inRegions
  rw [mem_sortByKey, List.mem_eraseDups] at ruleMember
  exact ⟨ruleMember, regionMember, rfl⟩

/-- The step lemma: a covered collection writes only rows of success that are
right. -/
theorem coverageSound_step {system after : AwsSystem} {operation : AwsOperation}
    (accepted : step account awsAccountId operation system = .ok after)
    (kept : CoverageKept awsAccountId ⟨operation, system, after⟩) :
    CoverageSound ⟨operation, system, after⟩ := by
  cases operation with
  | updateRegions regions =>
    cases accepted
    exact coverageSound_unchanged rfl rfl
  | editPolicies policies =>
    cases accepted
    exact coverageSound_unchanged rfl rfl
  | claimScan startedAt =>
    obtain ⟨opportunities, begun, result⟩ := bind_eq_ok.mp accepted
    cases result
    obtain ⟨collectionRuns, -, result⟩ := bind_eq_ok.mp begun
    cases result
    exact coverageSound_unchanged rfl rfl
  | readConfiguration runId =>
    obtain ⟨run, -, result⟩ := bind_eq_ok.mp accepted
    cases result
    exact coverageSound_unchanged rfl rfl
  | failScan runId finishedAt =>
    obtain ⟨opportunities, failed, result⟩ := bind_eq_ok.mp accepted
    cases result
    obtain ⟨run, -, result⟩ := bind_eq_ok.mp failed
    cases result
    exact coverageSound_unchanged rfl rfl
  | persistCollection runId answers persistence =>
    obtain ⟨run, reading, regions, gathered, known, read, claimed, collected, scanned⟩ :=
      persistCollection_eq_ok accepted
    have answered := answered_runCollectors collected
    have examined {candidate : ScopeCandidate} (member : candidate ∈ awsScopeRows run regions
        (enabledRules system.policies awsAccountId) (executionResult reading answers gathered)
        persistence.completedAt) (success : candidate.status = .success) :
        ExaminedBy ⟨.persistCollection runId answers persistence, system, after⟩ runId
          candidate.ruleKey candidate.region := by
      obtain ⟨enabled, inRegions, status⟩ := mem_awsScopeRows member
      exact ⟨answers, persistence, reading, rfl, read, examined_of_success answered
        (enabledRules_known _ _ enabled) (kept reading read regions claimed _ enabled) inRegions
        (status ▸ success)⟩
    constructor
    · intro row member fresh success
      rcases persistScan_scopes scanned member with old | ⟨candidate, candidateMember, id, rfl⟩
      · exact absurd old fresh
      · exact examined candidateMember success
    · intro finding member next nextMember same raised
      obtain ⟨-, -, -, -, -, candidate, candidateMember, success, rule, region⟩ :=
        (persistScan_counts known scanned).2 finding member next nextMember same raised
      have inRegions := (mem_awsScopeRows candidateMember).2.1
      rw [scopeRegion_runRegions inRegions] at region
      exact ⟨runId, candidate.region, rule ▸ examined candidateMember success, region⟩

/-- Over every sequence of edits and collections, scope rows of success and counted
absences rest on what the run examined, as long as every collection is persisted
while the regions and rules of its transactions cover one another. -/
theorem coverage_sound {start : AwsSystem} (operations : List AwsOperation)
    (kept : ∀ transition ∈ history (step account awsAccountId) start operations,
      CoverageKept awsAccountId transition) :
    ∀ transition ∈ history (step account awsAccountId) start operations,
      CoverageSound transition := by
  intro transition member
  obtain unchanged | accepted := mem_history member
  · exact coverageSound_unchanged (by rw [unchanged]) (by rw [unchanged])
  · exact coverageSound_step accepted (kept transition member)

/-- The execution of a persisted collection has read every region of the run, and
the names of the regions are ordinary. -/
def plainlyCovered (transition : AwsTransition) : Bool :=
  match transition.operation with
  | .persistCollection runId _ _ =>
    match transition.before.readings.lookup runId, transition.before.scopes.lookup runId with
    | some reading, some regions => (runRegions regions).all fun region =>
        region ∈ reading.regions ∧ ':' ∉ region.toList ∧ '@' ∉ region.toList ∧
          region ≠ "" ∧ region ≠ allRegionsScope
    | _, _ => true
  | _ => true

omit [CaseMapping] [InventoryPersistence.TextLiteral] [OpportunityFingerprint.Digest]
  [UuidSource] [SystemClock] in
theorem coverageKept_of_plain {transition : AwsTransition}
    (plain : plainlyCovered transition = true) : CoverageKept awsAccountId transition := by
  obtain ⟨operation, before, after⟩ := transition
  cases operation with
  | persistCollection runId answers persistence =>
    intro reading read regions claimed ruleKey enabled _ _
    simp only [plainlyCovered, show before.readings.lookup runId = some reading from read,
      show before.scopes.lookup runId = some regions from claimed, List.all_eq_true,
      decide_eq_true_eq] at plain
    exact covered_of_plain (enabledRules_known _ _ enabled)
      (fun region member => (plain region member).1) fun region member => (plain region member).2
  | _ => trivial

end Collections

section Sample

attribute [local instance] asciiCase InventoryPersistence.plainLiteral
  OpportunityFingerprint.plainDigest countingUuids countingClock

private def sampleAccount : CloudAccount := ⟨1, "aws", "111122223333", "Production"⟩

/-- An account that is collected in two regions, with the default policies. -/
private def sampleStart : AwsSystem :=
  ⟨["eu-west-1", "us-east-1"], [], [], [], ⟨Table.empty _ _, Table.empty _ _⟩, Store.empty⟩

/-- A volume that no instance uses. -/
private def volumeFinding : OpportunityCollection.CollectedFinding where
  ruleKey := "ebs_unattached"
  service := "EC2/EBS"
  region := some "us-east-1"
  resourceId := "vol-1"
  resourceName := none
  resourceType := none
  providerMetadata := []
  title := "Volume EBS sem anexação"
  description := ""
  evidence := []
  currentMonthlyCost := 8
  estimatedMonthlySavings := 8
  currency := "USD"
  confidence := "high"
  severity := "medium"

/-- The answers of a provider that holds the volume or does not, and that refuses
the rule in the other region. -/
private def volumeAnswers (exists_ : Bool) : AwsAnswers where
  collector ruleKey region :=
    if ruleKey ≠ "ebs_unattached" then .collected []
    else if region = "eu-west-1" then .providerError "AccessDenied: not allowed"
    else if region = "us-east-1" ∧ exists_ then .collected [volumeFinding]
    else .collected []
  resources := []
  coverage := []
  inventoryIssues := []

/-- The second run, after the rows of the first. -/
private def secondRun : String := countingUuids.uuid4 20

/-- A collection finds the volume; the regions are edited after a second claim, and
the execution then reads them. -/
private def sampleOperations (regions : List String) (exists_ : Bool) : List AwsOperation :=
  [.claimScan 10, .readConfiguration "id-",
    .persistCollection "id-" (volumeAnswers true) ⟨"scan-1", 11, 12, 2⟩,
    .claimScan 20, .updateRegions regions, .readConfiguration secondRun,
    .persistCollection secondRun (volumeAnswers exists_) ⟨"scan-2", 21, 22, 2⟩]

/-- The regions are unchanged, and the volume that is gone is counted missing where
the second collection looked for it, although the rule failed in the other region. -/
theorem coverage_sound_unedited :
    (stateAfter (step sampleAccount 1) sampleStart
        (sampleOperations ["us-east-1", "eu-west-1"] false)).opportunities.findings.rows.map
          Finding.missingCount = [1] ∧
      ∀ transition ∈ history (step sampleAccount 1) sampleStart
        (sampleOperations ["us-east-1", "eu-west-1"] false), CoverageSound transition := by
  have evaluated : (stateAfter (step sampleAccount 1) sampleStart
        (sampleOperations ["us-east-1", "eu-west-1"] false)).opportunities.findings.rows.map
          Finding.missingCount = [1] ∧
      ∀ transition ∈ history (step sampleAccount 1) sampleStart
        (sampleOperations ["us-east-1", "eu-west-1"] false), plainlyCovered transition = true := by
    decide +kernel
  refine ⟨evaluated.1, coverage_sound _ fun transition member => ?_⟩
  exact coverageKept_of_plain (evaluated.2 transition member)

/-- The run that an operation persists. -/
private def persistedRun : AwsOperation → Option String
  | .persistCollection runId _ _ => some runId
  | _ => none

/-- The regions are edited between the claim and the execution: the second
collection looks in another region only, and counts the volume missing that is still
there. -/
theorem unexamined_volume_counted_missing :
    ¬∀ (account : CloudAccount) (awsAccountId : ℤ) (start : AwsSystem)
      (operations : List AwsOperation),
        ∀ transition ∈ history (step account awsAccountId) start operations,
          CoverageSound transition := by
  intro claimed
  have counted : ∃ transition ∈ history (step sampleAccount 1) sampleStart
      (sampleOperations ["ap-south-1"] true),
      ∃ finding ∈ transition.before.opportunities.findings.rows,
        ∃ next ∈ transition.after.opportunities.findings.rows, next.id = finding.id ∧
          finding.missingCount < next.missingCount ∧ finding.ruleKey = "ebs_unattached" ∧
          finding.region = some "us-east-1" ∧ persistedRun transition.operation = some secondRun ∧
          (transition.before.readings.lookup secondRun).map Reading.regions =
            some ["ap-south-1"] := by
    decide +kernel
  obtain ⟨transition, member, finding, findingMember, next, nextMember, same, raised, rule, place,
    persisted, regions⟩ := counted
  obtain ⟨runId, region, ⟨answers, persistence, reading, operation, read, examined⟩, named⟩ :=
    (claimed _ _ _ _ transition member).absences finding findingMember next nextMember same raised
  rw [operation] at persisted
  obtain rfl : runId = secondRun := Option.some.inj persisted
  rw [read] at regions
  have readRegions : reading.regions = ["ap-south-1"] := Option.some.inj regions
  unfold Examined at examined
  rw [rule] at examined
  rw [place] at named
  split at examined
  · exact absurd examined.1 (by decide)
  · rename_i regional
    have inRegions := (mem_collectorCalls.mp examined.1).2
    rw [if_neg (by decide), readRegions, List.mem_singleton] at inRegions
    rcases named with own | all
    · exact absurd (inRegions.symm.trans own) (by decide)
    · exact regional all

end Sample

end FinopsAnalytics.AwsCoverage
