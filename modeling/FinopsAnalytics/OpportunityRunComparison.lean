import FinopsAnalytics.OpportunityCollection

/-!
# Comparing collection runs

The comparison of two runs decides what the target run covered by a query over
its scope rows. The presence reconciliation decides the same by its own lookup.
The two read the regions differently, and agree only on some sets of rows.
-/

namespace FinopsAnalytics.OpportunityRunComparison

open PythonText UniqueTables OpportunityRecords OpportunityReconciliation OpportunityCollection

inductive DiscoveryType where
  | observed | firstSeen | newVsPrevious | reappeared | continued | noLongerDetected
deriving DecidableEq, Repr

/-- The runs that are compared. -/
structure OpportunityRunContext where
  target : CollectionRun
  baseline : Option CollectionRun
  comparable : Bool
deriving DecidableEq, Repr

/-- `_observed_in`. -/
def observedIn (store : Store) (runId : String) (finding : Finding) : Bool :=
  store.observations.rows.any fun row =>
    row.opportunityId = finding.id && row.collectionRunId = runId

/-- `_covered_by_target`. A finding without a region is covered by any region. -/
def coveredByTarget (store : Store) (target : CollectionRun) (finding : Finding) : Bool :=
  store.scopeExecutions.rows.any fun row =>
    row.collectionRunId = target.id && row.provider = finding.provider &&
      row.accountId = finding.accountId && row.ruleKey = finding.ruleKey &&
      row.status = .success &&
      match finding.region with
      | none => true
      | some region => row.region = region

/-- `_classification_condition`. -/
def classificationCondition (context : OpportunityRunContext) :
    DiscoveryType → Option (Store → Finding → Bool)
  | .observed => some fun store finding => observedIn store context.target.id finding
  | .firstSeen => some fun store finding =>
    observedIn store context.target.id finding &&
      finding.firstSeenCollectionRunId = some context.target.id
  | discoveryType =>
    match context.baseline with
    | none => none
    | some baseline =>
      if context.comparable then
        some fun store finding =>
          let targetObserved := observedIn store context.target.id finding
          let baselineObserved := observedIn store baseline.id finding
          match discoveryType with
          | .continued => targetObserved && baselineObserved
          | .newVsPrevious => targetObserved && !baselineObserved
          | .reappeared =>
            targetObserved && !baselineObserved && finding.firstSeenCollectionRunId.isSome &&
              finding.firstSeenCollectionRunId ≠ some context.target.id
          | _ =>
            baselineObserved && !targetObserved && coveredByTarget store context.target finding
      else none

/-- `comparison_condition`: any of the conditions that exist. -/
def comparisonCondition (contexts : List OpportunityRunContext) (discoveryType : DiscoveryType) :
    Option (Store → Finding → Bool) :=
  match contexts.filterMap (classificationCondition · discoveryType) with
  | [] => none
  | conditions => some fun store finding => conditions.any fun condition => condition store finding

/-- Whether the comparison lists a finding. -/
def listed (contexts : List OpportunityRunContext) (discoveryType : DiscoveryType)
    (store : Store) (finding : Finding) : Bool :=
  match comparisonCondition contexts discoveryType with
  | none => false
  | some condition => condition store finding

variable {store : Store} {finding : Finding} {rows : List CollectionScopeExecution}
  {target : CollectionRun}

theorem listed_iff {contexts : List OpportunityRunContext} {discoveryType : DiscoveryType} :
    listed contexts discoveryType store finding = true ↔
      ∃ context ∈ contexts, ∃ condition,
        classificationCondition context discoveryType = some condition ∧
          condition store finding = true := by
  unfold listed comparisonCondition
  constructor
  · intro shown
    split at shown
    · cases shown
    · rename_i condition found
      split at found
      · cases found
      · cases found
        obtain ⟨one, member, holds⟩ := List.any_eq_true.mp shown
        obtain ⟨context, contextMember, classified⟩ := List.mem_filterMap.mp member
        exact ⟨context, contextMember, one, classified, holds⟩
  · rintro ⟨context, contextMember, condition, classified, holds⟩
    have member : condition ∈ contexts.filterMap (classificationCondition · discoveryType) :=
      List.mem_filterMap.mpr ⟨context, contextMember, classified⟩
    split
    · rename_i none
      split at none
      · rename_i empty
        rw [empty] at member
        cases member
      · cases none
    · rename_i some found
      split at found
      · cases found
      · cases found
        exact List.any_eq_true.mpr ⟨condition, member, holds⟩

/-- The scope rows of a run. -/
def targetScopes (store : Store) (target : CollectionRun) : List CollectionScopeExecution :=
  store.scopeExecutions.rows.filter (·.collectionRunId = target.id)

/-- The regions in which rows report success for the rule of a finding. -/
def successRegions (rows : List CollectionScopeExecution) (finding : Finding) : List String :=
  (rows.filter fun row => row.status = .success && row.ruleKey = finding.ruleKey).map (·.region)

theorem mem_successRegions {region : String} : region ∈ successRegions rows finding ↔
      ∃ row ∈ rows, row.status = .success ∧ row.ruleKey = finding.ruleKey ∧
        row.region = region := by
  simp [successRegions, and_assoc]

theorem successfulScopeRow_isSome (rows : List CollectionScopeExecution) (finding : Finding)
    (wanted : String) : (successfulScopeRow rows finding.ruleKey wanted).isSome = true ↔
      ∃ region ∈ successRegions rows finding, scopeRegion (some region) = wanted := by
  simp only [successfulScopeRow, List.find?_isSome, List.mem_reverse, Bool.and_eq_true,
    decide_eq_true_eq]
  constructor
  · rintro ⟨row, member, ⟨success, rule⟩, region⟩
    exact ⟨row.region, mem_successRegions.mpr ⟨row, member, success, rule, rfl⟩, region⟩
  · rintro ⟨region, member, same⟩
    obtain ⟨row, rowMember, success, rule, rfl⟩ := mem_successRegions.mp member
    exact ⟨row, rowMember, ⟨success, rule⟩, same⟩

/-- The reconciliation finds a row for the finding's own region or for all. -/
theorem findingScopeRow_isSome :
    (findingScopeRow rows finding).isSome = true ↔
      ∃ region ∈ successRegions rows finding,
        scopeRegion (some region) = scopeRegion finding.region ∨
          scopeRegion (some region) = allRegionsScope := by
  have own := successfulScopeRow_isSome rows finding (scopeRegion finding.region)
  have wildcard := successfulScopeRow_isSome rows finding allRegionsScope
  unfold findingScopeRow
  cases row : successfulScopeRow rows finding.ruleKey (scopeRegion finding.region) with
  | some found =>
    rw [row] at own
    obtain ⟨region, member, same⟩ := own.mp rfl
    exact ⟨fun _ => ⟨region, member, Or.inl same⟩, fun _ => rfl⟩
  | none =>
    rw [row] at own
    dsimp only
    rw [wildcard]
    constructor
    · rintro ⟨region, member, same⟩
      exact ⟨region, member, Or.inr same⟩
    · rintro ⟨region, member, same | same⟩
      · exact absurd (own.mpr ⟨region, member, same⟩) (by simp)
      · exact ⟨region, member, same⟩

/-- The query asks for the literal region, or for any region when there is none. -/
theorem coveredByTarget_iff (scopes : ∀ row ∈ targetScopes store target,
      row.provider = finding.provider ∧ row.accountId = finding.accountId) :
    coveredByTarget store target finding = true ↔
      ∃ region ∈ successRegions (targetScopes store target) finding,
        ∀ own, finding.region = some own → region = own := by
  simp only [coveredByTarget, List.any_eq_true, Bool.and_eq_true, decide_eq_true_eq]
  constructor
  · rintro ⟨row, member, ⟨⟨⟨⟨ofRun, -⟩, -⟩, rule⟩, success⟩, region⟩
    refine ⟨row.region, mem_successRegions.mpr ⟨row, List.mem_filter.mpr
      ⟨member, by simpa using ofRun⟩, success, rule, rfl⟩, fun own isOwn => ?_⟩
    rw [isOwn] at region
    simpa using region
  · rintro ⟨region, member, literal⟩
    obtain ⟨row, rowMember, success, rule, rfl⟩ := mem_successRegions.mp member
    obtain ⟨stored, ofRun⟩ := List.mem_filter.mp rowMember
    obtain ⟨provider, account⟩ := scopes row rowMember
    refine ⟨row, stored, ⟨⟨⟨⟨by simpa using ofRun, provider⟩, account⟩, rule⟩, success⟩, ?_⟩
    cases own : finding.region with
    | none => rfl
    | some region => simpa using literal region own

/-- Where both decisions read the regions of the success rows alike. A finding
with a region needs a row of exactly that region, or no row that stands for it
otherwise; a finding without one needs a global or all-regions row, or no row. -/
def RegionsAgree (finding : Finding) (regions : List String) : Prop :=
  match finding.region with
  | some own => own ∈ regions ∨ ∀ region ∈ regions,
      region ≠ allRegionsScope ∧ scopeRegion (some region) ≠ scopeRegion (some own)
  | none => regions = [] ∨ ∃ region ∈ regions,
      region = allRegionsScope ∨ scopeRegion (some region) = "global"

instance (finding : Finding) (regions : List String) : Decidable (RegionsAgree finding regions) := by
  unfold RegionsAgree
  split <;> infer_instance

theorem scopeRegion_eq_allRegions {region : String} :
    scopeRegion (some region) = allRegionsScope ↔ region = allRegionsScope := by
  unfold scopeRegion allRegionsScope
  by_cases empty : region = ""
  · subst empty
    decide
  · simp [empty]

/-- The two decisions agree exactly where the regions do. -/
theorem coveredByTarget_eq_iff (scopes : ∀ row ∈ targetScopes store target,
      row.provider = finding.provider ∧ row.accountId = finding.accountId) :
    (coveredByTarget store target finding =
        (findingScopeRow (targetScopes store target) finding).isSome) ↔
      RegionsAgree finding (successRegions (targetScopes store target) finding) := by
  rw [Bool.eq_iff_iff, coveredByTarget_iff scopes, findingScopeRow_isSome]
  generalize successRegions (targetScopes store target) finding = regions
  unfold RegionsAgree
  cases own : finding.region with
  | none =>
    simp only [reduceCtorEq, false_implies, implies_true, and_true, scopeRegion_eq_allRegions]
    constructor
    · intro agree
      by_cases empty : regions = []
      · exact Or.inl empty
      · obtain ⟨region, member, stands⟩ := agree.mp (List.exists_mem_of_ne_nil _ empty)
        exact Or.inr ⟨region, member, stands.symm⟩
    · rintro (rfl | ⟨region, member, stands⟩)
      · simp
      · exact ⟨fun _ => ⟨region, member, stands.symm⟩, fun _ => ⟨region, member⟩⟩
  | some literal =>
    simp only [Option.some.injEq, forall_eq', scopeRegion_eq_allRegions, exists_eq_right]
    constructor
    · intro agree
      by_cases present : literal ∈ regions
      · exact Or.inl present
      · refine Or.inr fun region member => ⟨fun wildcard => present ?_, fun alike => present ?_⟩
        · exact agree.mpr ⟨region, member, Or.inr wildcard⟩
        · exact agree.mpr ⟨region, member, Or.inl alike⟩
    · rintro (present | apart)
      · exact ⟨fun _ => ⟨literal, present, Or.inl rfl⟩, fun _ => present⟩
      · constructor
        · intro present
          exact ⟨literal, present, Or.inl rfl⟩
        · rintro ⟨region, member, alike | wildcard⟩
          · exact absurd alike (apart region member).2
          · exact absurd wildcard (apart region member).1

/-- What a comparable context lists as no longer detected. -/
theorem listed_noLongerDetected {context : OpportunityRunContext} {baseline : CollectionRun}
    (hasBaseline : context.baseline = some baseline) (comparable : context.comparable = true) :
    listed [context] .noLongerDetected store finding = true ↔
      observedIn store baseline.id finding = true ∧
        observedIn store context.target.id finding = false ∧
          coveredByTarget store context.target finding = true := by
  rw [listed_iff]
  simp only [List.mem_singleton, exists_eq_left, classificationCondition, hasBaseline, comparable,
    if_true, Option.some.injEq, exists_eq_left', Bool.and_eq_true, Bool.not_eq_true', and_assoc]

/-- A context adds what it lists to what the others list. -/
theorem listed_of_mem {contexts : List OpportunityRunContext} {context : OpportunityRunContext}
    {discoveryType : DiscoveryType} (member : context ∈ contexts)
    (shown : listed [context] discoveryType store finding = true) :
    listed contexts discoveryType store finding = true := by
  rw [listed_iff] at shown ⊢
  obtain ⟨one, oneMember, condition, classified, holds⟩ := shown
  rw [List.mem_singleton] at oneMember
  subst oneMember
  exact ⟨one, member, condition, classified, holds⟩

/-- A finding whose count a reconciliation raised was covered and unobserved. -/
theorem counted_of_reconcile {store after : Store} {missingThreshold : ℕ}
    {stats : ReconciliationStats}
    (accepted : reconcileOpportunityPresence store target rows missingThreshold =
      .ok (stats, after)) {finding next : Finding} (member : finding ∈ store.findings.rows)
    (nextMember : next ∈ after.findings.rows) (sameId : next.id = finding.id)
    (counted : next.missingCount = finding.missingCount + 1) :
    next = missed target missingThreshold finding ∧
      (findingScopeRow rows finding).isSome = true ∧
        finding.id ∉ observedIds store target := by
  obtain ⟨-, mapped, -⟩ := reconcileOpportunityPresence_eq_ok accepted
  rw [mapped] at nextMember
  obtain ⟨origin, originMember, rfl⟩ := List.mem_map.mp nextMember
  have same : origin.id = finding.id :=
    (Finding.id_of_subject (reconciled_subject ..)).symm.trans sameId
  obtain rfl := store.findings.eq_of_key originMember member same
  unfold reconciled at counted ⊢
  split at counted
  · rename_i counts
    simp only [countsAbsence, absent, Bool.and_eq_true, decide_eq_true_eq] at counts
    exact ⟨if_pos (by simp [countsAbsence, absent, counts]), counts.2.1.1.1, counts.2.1.1.2⟩
  · omega

theorem observedIn_eq_false (unobserved : finding.id ∉ observedIds store target) :
    observedIn store target.id finding = false := by
  simp only [observedIds, List.mem_map, List.mem_filter, decide_eq_true_eq, not_exists,
    not_and] at unobserved
  rw [observedIn, List.any_eq_false]
  intro row member
  simp only [Bool.and_eq_true, decide_eq_true_eq, not_and]
  exact fun owner ofRun => unobserved row ⟨member, ofRun⟩ owner

/-- The comparison and the reconciliation agree on what the target run covered
exactly where the regions agree. A finding that the baseline observed and the
target's reconciliation counted missing is listed as no longer detected exactly
there, alone or among other contexts. -/
theorem comparison_agrees {store : Store} {target : CollectionRun} {finding : Finding}
    (member : finding ∈ store.findings.rows)
    (scopes : ∀ row ∈ targetScopes store target,
      row.provider = finding.provider ∧ row.accountId = finding.accountId) :
    ((coveredByTarget store target finding =
        (findingScopeRow (targetScopes store target) finding).isSome) ↔
      RegionsAgree finding (successRegions (targetScopes store target) finding)) ∧
    ∀ (missingThreshold : ℕ) (stats : ReconciliationStats) (after : Store) (next : Finding)
      (context : OpportunityRunContext) (baseline : CollectionRun),
      reconcileOpportunityPresence store target (targetScopes store target) missingThreshold =
        .ok (stats, after) →
      next ∈ after.findings.rows → next.id = finding.id →
      next.missingCount = finding.missingCount + 1 →
      context.target = target → context.baseline = some baseline → context.comparable = true →
      observedIn store baseline.id finding = true →
      (listed [context] .noLongerDetected after next = true ↔
        RegionsAgree finding (successRegions (targetScopes store target) finding)) ∧
      ∀ contexts, context ∈ contexts →
        RegionsAgree finding (successRegions (targetScopes store target) finding) →
        listed contexts .noLongerDetected after next = true := by
  refine ⟨coveredByTarget_eq_iff scopes, ?_⟩
  intro missingThreshold stats after next context baseline accepted nextMember sameId counted
    isTarget hasBaseline comparable seen
  obtain ⟨rfl, covered, unobserved⟩ :=
    counted_of_reconcile accepted member nextMember sameId counted
  obtain ⟨-, -, findings, presenceHistory, rfl⟩ := reconcileOpportunityPresence_eq_ok accepted
  subst isTarget
  have subject := missed_subject context.target missingThreshold finding
  simp only [Finding.subject, Subject.mk.injEq] at subject
  obtain ⟨id, -, provider, account, rule, -, region, -⟩ := subject
  have exactly : listed [context] .noLongerDetected { store with findings, presenceHistory }
      (missed context.target missingThreshold finding) = true ↔
      RegionsAgree finding (successRegions (targetScopes store context.target) finding) := by
    rw [listed_noLongerDetected hasBaseline comparable, ← coveredByTarget_eq_iff scopes, covered]
    simp only [observedIn, coveredByTarget, id, provider, account, rule, region]
    exact ⟨fun shown => shown.2.2,
      fun agree => ⟨seen, observedIn_eq_false unobserved, agree⟩⟩
  exact ⟨exactly, fun contexts present agree => listed_of_mem present (exactly.mpr agree)⟩

section Sample

/-- The first run observed the finding, the second one succeeds in a region. -/
def comparedStore (region : String) : Store :=
  { Store.empty with
    findings := .single sampleFinding
    scopeExecutions := .single (sampleScope "run-2" region)
    observations := .single (newObservation "observation-1" "finding-1" (sampleRun "run-1" 10)
      (sampleItem "EC2_IDLE" (some "us-east-1")) 10) }

def comparedContext : OpportunityRunContext where
  target := sampleRun "run-2" 20
  baseline := some (sampleRun "run-1" 10)
  comparable := true

/-- An all-regions row covers the finding for the reconciliation, which counts it
missing. The query does not see it, and the comparison does not list it. -/
theorem allRegions_not_listed :
    (findingScopeRow (targetScopes (comparedStore "*") (sampleRun "run-2" 20))
        sampleFinding).isSome = true ∧
      coveredByTarget (comparedStore "*") (sampleRun "run-2" 20) sampleFinding = false ∧
      observedIn (comparedStore "*") "run-1" sampleFinding = true ∧
      ∃ stats after,
        reconcileOpportunityPresence (comparedStore "*") (sampleRun "run-2" 20)
          (targetScopes (comparedStore "*") (sampleRun "run-2" 20)) 3 = .ok (stats, after) ∧
        after.findings.rows = [missed (sampleRun "run-2" 20) 3 sampleFinding] ∧
        listed [comparedContext] .noLongerDetected after
          (missed (sampleRun "run-2" 20) 3 sampleFinding) = false :=
  ⟨by decide, by decide, by decide, _, _, rfl, by decide, by decide⟩

/-- A row of the finding's own region is read alike, and the finding is listed. -/
theorem comparison_agrees_regional :
    coveredByTarget (comparedStore "us-east-1") (sampleRun "run-2" 20) sampleFinding =
        (findingScopeRow (targetScopes (comparedStore "us-east-1") (sampleRun "run-2" 20))
          sampleFinding).isSome ∧
      ∃ stats after,
        reconcileOpportunityPresence (comparedStore "us-east-1") (sampleRun "run-2" 20)
          (targetScopes (comparedStore "us-east-1") (sampleRun "run-2" 20)) 3 =
            .ok (stats, after) ∧
        listed [comparedContext] .noLongerDetected after
          (missed (sampleRun "run-2" 20) 3 sampleFinding) = true := by
  have member : sampleFinding ∈ (comparedStore "us-east-1").findings.rows := by decide
  have scopes : ∀ row ∈ targetScopes (comparedStore "us-east-1") (sampleRun "run-2" 20),
      row.provider = sampleFinding.provider ∧ row.accountId = sampleFinding.accountId := by
    decide
  have agreement := comparison_agrees member scopes
  refine ⟨agreement.1.mpr (by decide), _, _, rfl, ?_⟩
  exact (agreement.2 3 _ _ _ comparedContext (sampleRun "run-1" 10) rfl (by decide) (by decide)
    (by decide) rfl rfl rfl (by decide)).1.mpr (by decide)

end Sample

end FinopsAnalytics.OpportunityRunComparison
