import FinopsAnalytics.ObservationComparison
import FinopsAnalytics.OpportunityHistoryCycles
import FinopsAnalytics.RunChangePartition

/-!
# The pages of a comparison

A comparison answers with one page of one category. The pages of a category, one after
another, list its findings in the order of their identifiers, whatever the size of a page.
The retention policy deletes observations of a run; two runs one of which has expired are
still comparable, but nothing is compared.
-/

namespace FinopsAnalytics.ComparisonPages

open PythonText OpportunityRecords OpportunityCollection OpportunityRunComparison CollectionComparison
  RunChangePartition Fallible

section Lists

universe u
variable {α : Type u}

/-- The first pages of a list are a prefix of it. -/
theorem flatMap_pages (rows : List α) (size count : ℕ) :
    ((List.range count).flatMap fun page => (rows.drop (page * size)).take size) =
      rows.take (count * size) := by
  induction count with
  | zero => simp
  | succ count inductionHypothesis =>
    rw [List.range_succ, List.flatMap_append, inductionHypothesis, List.flatMap_singleton,
      Nat.succ_mul, List.take_add]

end Lists

section Comparison

variable [CaseMapping] [RunScopes] [EvidenceComparison]
variable {store : Store} {target baseline : CollectionRun} {named : Option CollectionRun}

/-- The baseline is the named run, or the previous comparable run where none is named. -/
def Chosen (store : Store) (target baseline : CollectionRun) (named : Option CollectionRun) :
    Prop :=
  named = some baseline ∨
    named = none ∧ previousComparableRun store target = .ok (some baseline)

/-- The first pages of a category. -/
def firstPages (store : Store) (target : CollectionRun) (named : Option CollectionRun)
    (category : ComparisonCategory) (pageSize count : ℕ) :
    Except CollectionComparisonError (List ComparisonPage) :=
  (List.range count).mapM fun page =>
    compareCollectionRuns store target named category (page + 1) pageSize

/-- The findings of the items of some pages. -/
def pagedFindings (pages : List ComparisonPage) : List Finding :=
  pages.flatMap fun page => page.items.map ComparisonItem.finding

omit [EvidenceComparison] in
/-- Comparable runs have both succeeded. -/
theorem validateRun_target (comparable : validateComparableRuns baseline target = .ok ())
    (role : String) : validateRun target role = .ok ⟨⟩ := by
  unfold validateComparableRuns at comparable
  obtain ⟨⟨⟩, -, later⟩ := bind_eq_ok.mp comparable
  obtain ⟨⟨⟩, succeeded, -⟩ := bind_eq_ok.mp later
  unfold validateRun at succeeded ⊢
  by_cases success : target.status = .success
  · exact if_pos success
  · rw [if_neg success] at succeeded
    cases succeeded

/-- Comparable runs are compared where the observations of both are kept. -/
theorem compareCollectionRuns_of_comparable
    (comparable : validateComparableRuns baseline target = .ok ())
    (chosen : Chosen store target baseline named) (category : ComparisonCategory)
    (page pageSize : ℕ) :
    compareCollectionRuns store target named category page pageSize =
      if baseline.detailedObservationsAvailable ∧ target.detailedObservationsAvailable then
        .ok (comparedPage store baseline target category page pageSize)
      else .ok (unavailablePage "OBSERVATIONS_EXPIRED" (some baseline) target category page
        pageSize) := by
  unfold compareCollectionRuns
  rw [validateRun_target comparable, ok_bind]
  rcases chosen with rfl | ⟨rfl, found⟩
  · dsimp only
    rw [ok_bind]
    dsimp only
    rw [comparable, ok_bind]
    rfl
  · dsimp only
    rw [found, ok_bind]
    dsimp only
    rw [comparable, ok_bind]
    rfl

section Categories

omit [CaseMapping] [RunScopes]

/-- The findings of a category, in the order of their identifiers. -/
def categoryFindings (store : Store) (target baseline : CollectionRun)
    (category : ComparisonCategory) : List Finding :=
  (findingsById store).filter (inCategory store target baseline category)

theorem mem_categoryFindings {category : ComparisonCategory} {finding : Finding} :
    finding ∈ categoryFindings store target baseline category ↔
      finding ∈ store.findings.rows ∧ inCategory store target baseline category finding = true := by
  rw [categoryFindings, List.mem_filter, findingsById, List.mem_insertionSort]

theorem nodup_categoryFindings (category : ComparisonCategory) :
    (categoryFindings store target baseline category).Nodup := by
  apply List.Nodup.filter
  exact (List.perm_insertionSort ..).nodup_iff.mpr store.findings.nodup_rows

/-- No finding is in two categories. -/
theorem categories_disjoint {first second : ComparisonCategory} (distinct : first ≠ second)
    (finding : Finding) : ¬(inCategory store target baseline first finding = true ∧
      inCategory store target baseline second finding = true) := by
  cases first <;> cases second <;> simp_all [inCategory, inClass_eq]

/-- The categories together are the findings that either run observed. -/
theorem categories_cover (finding : Finding) :
    (∃ category, inCategory store target baseline category finding = true) ↔
      observedIn store baseline.id finding = true ∨ observedIn store target.id finding = true := by
  constructor
  · rintro ⟨category, isIn⟩
    cases category <;> simp_all [inCategory, inClass_eq]
  · intro observed
    by_cases before : observedIn store baseline.id finding = true
    · by_cases after : observedIn store target.id finding = true
      · by_cases changed : changedBetween store baseline.id target.id finding = true
        · exact ⟨.changed, by simp [inCategory, inClass_eq, before, after, changed]⟩
        · exact ⟨.persistent, by simp [inCategory, inClass_eq, before, after, changed]⟩
      · exact ⟨.noLongerDetected, by simp [inCategory, before, after]⟩
    · have after := observed.resolve_left before
      exact ⟨.new, by simp [inCategory, inClass_eq, before, after]⟩

end Categories

section Pages

/-- The pages that are returned for runs whose observations are kept. -/
theorem firstPages_eq (comparable : validateComparableRuns baseline target = .ok ())
    (chosen : Chosen store target baseline named)
    (detailed : baseline.detailedObservationsAvailable ∧ target.detailedObservationsAvailable)
    (category : ComparisonCategory) (pageSize count : ℕ) :
    firstPages store target named category pageSize count = .ok ((List.range count).map fun page =>
      comparedPage store baseline target category (page + 1) pageSize) := by
  have returned (page : ℕ) (_ : page ∈ List.range count) :
      compareCollectionRuns store target named category (page + 1) pageSize =
        pure (comparedPage store baseline target category (page + 1) pageSize) := by
    rw [compareCollectionRuns_of_comparable comparable chosen, if_pos detailed]
    rfl
  rw [firstPages, mapM_congr returned, List.mapM_pure]
  rfl

omit [CaseMapping] [RunScopes] in
/-- Enough pages hold the whole category. -/
theorem pagedFindings_compared (category : ComparisonCategory) {pageSize count : ℕ}
    (enough : (categoryFindings store target baseline category).length ≤ count * pageSize) :
    pagedFindings ((List.range count).map fun page =>
        comparedPage store baseline target category (page + 1) pageSize) =
      categoryFindings store target baseline category := by
  have items (page : ℕ) :
      (comparedPage store baseline target category (page + 1) pageSize).items.map
          ComparisonItem.finding =
        ((categoryFindings store target baseline category).drop (page * pageSize)).take
          pageSize := by
    rw [comparedPage_items, Nat.add_sub_cancel, categoryFindings]
  rw [pagedFindings, List.flatMap_map]
  simp only [items]
  rw [flatMap_pages, List.take_of_length_le enough]

omit [CaseMapping] [RunScopes] in
/-- The total of a page is the number of findings of its category. -/
theorem comparedPage_total (category : ComparisonCategory) (page pageSize : ℕ) :
    (comparedPage store baseline target category page pageSize).total =
      (categoryFindings store target baseline category).length := by
  obtain ⟨summary, -, total, counts⟩ :=
    @comparedPage_counts store target baseline _ category page pageSize
  rw [total, counts, categoryFindings, ← List.countP_eq_length_filter, countP_findingsById]

/-- Two comparable runs, whose baseline is named or the previous one. Where the
observations of both are kept, each category has one list of findings: for any size of a
page, as many pages as hold the reported total concatenate to this list, which has the
length of the total and no finding twice. No finding is in two categories, and the
categories together are the findings that either run observed. Where observations have
expired, every page is empty and says so. -/
theorem comparison_pages (comparable : validateComparableRuns baseline target = .ok ())
    (chosen : Chosen store target baseline named) :
    (baseline.detailedObservationsAvailable ∧ target.detailedObservationsAvailable →
      (∀ category pageSize count,
        (categoryFindings store target baseline category).length ≤ count * pageSize →
        ∃ pages, firstPages store target named category pageSize count = .ok pages ∧
          pages.length = count ∧
          pagedFindings pages = categoryFindings store target baseline category ∧
          ∀ page ∈ pages, page.available = true ∧ page.total = (pagedFindings pages).length) ∧
      (∀ category, (categoryFindings store target baseline category).Nodup ∧
        ∀ finding ∈ categoryFindings store target baseline category,
          ∀ other ≠ category, finding ∉ categoryFindings store target baseline other) ∧
      ∀ finding, (∃ category, finding ∈ categoryFindings store target baseline category) ↔
        finding ∈ store.findings.rows ∧
          (observedIn store baseline.id finding = true ∨
            observedIn store target.id finding = true)) ∧
    (¬(baseline.detailedObservationsAvailable ∧ target.detailedObservationsAvailable) →
      ∀ category page pageSize,
        compareCollectionRuns store target named category page pageSize =
          .ok (unavailablePage "OBSERVATIONS_EXPIRED" (some baseline) target category page
            pageSize)) := by
  refine ⟨fun detailed => ⟨?_, ?_, ?_⟩, ?_⟩
  · intro category pageSize count enough
    have concatenated := pagedFindings_compared category enough
    refine ⟨_, firstPages_eq comparable chosen detailed category pageSize count, by simp,
      concatenated, fun page member => ?_⟩
    obtain ⟨index, -, rfl⟩ := List.mem_map.mp member
    rw [concatenated]
    exact ⟨rfl, comparedPage_total category (index + 1) pageSize⟩
  · intro category
    refine ⟨nodup_categoryFindings category, fun finding member other different again => ?_⟩
    rw [mem_categoryFindings] at member again
    exact categories_disjoint different finding ⟨again.2, member.2⟩
  · intro finding
    rw [← categories_cover finding]
    constructor
    · rintro ⟨category, member⟩
      rw [mem_categoryFindings] at member
      exact ⟨member.1, category, member.2⟩
    · rintro ⟨stored, category, isIn⟩
      exact ⟨category, mem_categoryFindings.mpr ⟨stored, isIn⟩⟩
  · intro expired category page pageSize
    rw [compareCollectionRuns_of_comparable comparable chosen, if_neg expired]

end Pages

end Comparison

section Evidence

open ObservationComparison OpportunityEvidence OpportunityHistoryCycles PythonJson

variable [PythonRuntime] [DocumentRuntime] [CaseMapping]

/-- What the normalisation reads of a stored finding. -/
def evidenceSubject (finding : Finding) : EvidenceSubject :=
  ⟨finding.ruleKey, finding.service, finding.region, finding.resourceId, finding.resourceName⟩

/-- What a comparison reads of a stored observation. -/
def storedObservation (row : OpportunityObservation) : Observation :=
  ⟨row.severity, row.confidence, row.currency, row.currentMonthlyCost,
    row.estimatedMonthlySavings, storedDocument row.evidence⟩

/-- Whether the evidence of two observations differs; equal documents are not normalised. -/
def evidenceDiffers (finding : Finding) (before after : OpportunityObservation) :
    Except PythonError Bool :=
  if equal (.object (storedObservation before).evidence)
      (.object (storedObservation after).evidence) then .ok false
  else do
    let baseline ← evidenceOf (evidenceSubject finding) (storedObservation before)
    let target ← evidenceOf (evidenceSubject finding) (storedObservation after)
    let changes ← evidenceChanges finding.ruleKey baseline target
    return !changes.isEmpty

/-- The comparison of evidence that the code makes. -/
abbrev normalisedEvidence : EvidenceComparison where
  changed finding before after := (evidenceDiffers finding before after).toOption.getD false

omit [PythonRuntime] [CaseMapping] in
/-- The own fields of two observations have a change where one of them differs. -/
theorem isEmpty_fieldChanges (before after : OpportunityObservation) :
    (!(fieldChanges (storedObservation before) (storedObservation after)).isEmpty) =
      (decide (before.severity ≠ after.severity) || decide (before.confidence ≠ after.confidence) ||
        if before.currency ≠ after.currency then true
        else decide (before.currentMonthlyCost ≠ after.currentMonthlyCost) ||
          decide (before.estimatedMonthlySavings ≠ after.estimatedMonthlySavings)) := by
  unfold fieldChanges storedObservation
  split_ifs <;> simp_all

/-- A pair of rows is changed where `compare_observations` reports a change of it. -/
theorem compareObservations_normalised {row : SharedRow} {comparison : Comparison}
    (compared : ObservationComparison.compareObservations (evidenceSubject row.finding)
      (storedObservation row.before) (storedObservation row.after) = .ok comparison) :
    @CollectionComparison.compareObservations normalisedEvidence row = comparison.changed := by
  obtain ⟨finding, before, after⟩ := row
  have fields := isEmpty_fieldChanges before after
  have evidence : @EvidenceComparison.changed normalisedEvidence finding before after =
      (evidenceDiffers finding before after).toOption.getD false := rfl
  unfold CollectionComparison.compareObservations
  dsimp only at compared fields ⊢
  rw [← fields]
  unfold ObservationComparison.compareObservations at compared
  by_cases unchanged : equal (.object (storedObservation before).evidence)
      (.object (storedObservation after).evidence) = true
  · have none : evidenceDiffers finding before after = .ok false := if_pos unchanged
    rw [if_pos unchanged] at compared
    cases compared
    rw [evidence, none]
    simp [comparisonOf, Except.toOption]
  · rw [if_neg unchanged] at compared
    obtain ⟨baseline, isBaseline, rest⟩ := bind_eq_ok.mp compared
    obtain ⟨target, isTarget, rest⟩ := bind_eq_ok.mp rest
    obtain ⟨changes, isChanges, same⟩ := bind_eq_ok.mp rest
    cases same
    have differs : evidenceDiffers finding before after = .ok (!changes.isEmpty) := by
      unfold evidenceDiffers
      rw [if_neg unchanged, isBaseline, ok_bind, isTarget, ok_bind]
      have isChanges : evidenceChanges finding.ruleKey baseline target = .ok changes := isChanges
      rw [isChanges]
      rfl
    rw [evidence, differs]
    change (!(fieldChanges _ _).isEmpty || !changes.isEmpty) =
      !(fieldChanges (storedObservation before) (storedObservation after) ++ changes).isEmpty
    cases fieldChanges (storedObservation before) (storedObservation after) <;> simp

end Evidence

section Sample

attribute [local instance] asciiCase oneScope sameEvidence

/-- A second finding, which the first run observed as well. -/
def secondFinding : Finding :=
  { sampleFinding with id := "finding-2", fingerprint := "fingerprint-2" }

def pairStore : Store :=
  { sampleStore with
    findings := ⟨[sampleFinding, secondFinding], by decide, by decide⟩
    observations :=
      ⟨[newObservation "observation-1" "finding-1" (sampleRun "run-1" 10)
          (sampleItem "EC2_IDLE" (some "us-east-1")) 10,
        newObservation "observation-2" "finding-2" (sampleRun "run-1" 10)
          (sampleItem "EC2_IDLE" (some "us-east-1")) 10], by decide, by decide⟩ }

/-- Two pages of one entry each list the two findings that are no longer detected. -/
theorem sample_comparison_pages : ∃ pages,
    firstPages pairStore (succeededRun "run-2" 20) none .noLongerDetected 1 2 = .ok pages ∧
      pages.length = 2 ∧ pagedFindings pages = [sampleFinding, secondFinding] := by
  have previous : previousComparableRun pairStore (succeededRun "run-2" 20) =
      .ok (some (succeededRun "run-1" 10)) := by decide +kernel
  obtain ⟨pages, listed, length, concatenated, -⟩ :=
    ((comparison_pages (by decide +kernel) (Or.inr ⟨rfl, previous⟩)).1 ⟨rfl, rfl⟩).1
      .noLongerDetected 1 2 (by decide +kernel)
  exact ⟨pages, listed, length, concatenated.trans (by decide +kernel)⟩

/-- An earlier run whose observations have expired, and a later one that observed the
finding. -/
def expiredRun : CollectionRun :=
  { succeededRun "run-1" 10 with detailedObservationsAvailable := false }

def expiredStore : Store :=
  { sampleStore with
    collectionRuns := ⟨[expiredRun, succeededRun "run-2" 20], by decide, by decide⟩
    observations :=
      ⟨[newObservation "observation-2" "finding-1" (sampleRun "run-2" 20)
          (sampleItem "EC2_IDLE" (some "us-east-1")) 20],
        List.nodup_singleton _, List.nodup_singleton _⟩ }

/-- The runs are comparable and the later one observed a finding, but no page of any
category lists it. -/
theorem expired_not_listed :
    validateComparableRuns expiredRun (succeededRun "run-2" 20) = .ok () ∧
      sampleFinding ∈ expiredStore.findings.rows ∧
      observedIn expiredStore "run-2" sampleFinding = true ∧
      ∀ category page pageSize, ∃ shown,
        compareCollectionRuns expiredStore (succeededRun "run-2" 20) (some expiredRun) category
          page pageSize = .ok shown ∧ shown.items = [] ∧ shown.total = 0 := by
  have comparable : validateComparableRuns expiredRun (succeededRun "run-2" 20) = .ok () := by
    decide +kernel
  refine ⟨comparable, by decide, by decide, fun category page pageSize => ?_⟩
  refine ⟨_, compareCollectionRuns_of_comparable comparable (Or.inl rfl) category page pageSize,
    rfl, rfl⟩

end Sample

end FinopsAnalytics.ComparisonPages
