import FinopsAnalytics.ObservationComparison

/-!
# The early return of the comparison

The comparison of two observations returns early where their raw evidence is equal. The
normalised evidence depends on the costs of an observation too, but only in amounts that
are not compared: metrics in dollars a month, and observed values of criteria. Evidence that
is the same value of JSON therefore has no change. Python also takes values of different
kinds for equal, which the normalisation tells apart.
-/

namespace FinopsAnalytics.ObservationShortcut

open PythonText ComparisonContexts PythonJson Dictionaries Fallible
open OpportunityEvidence ObservationComparison ParallelResults

section Drafts

/-- A metric that is compared. -/
def comparedMetric (metric : Option Metric) : Bool :=
  metric.any fun found => found.unit ≠ some "USD_MONTH"

/-- A criterion without its observed value. -/
def unobserved (criterion : Criterion) : Criterion := { criterion with observedValue := .null }

/-- What is compared of a draft. -/
def compared (draft : Draft) : Draft where
  metrics := draft.metrics.filter comparedMetric
  criteria := draft.criteria.map (Option.map unobserved)
  details := draft.details
  contributors := draft.contributors

@[simp] theorem comparedMetric_monthly (key label : String) (value : Json) (kind : String) :
    comparedMetric (metric key label value (some "USD_MONTH") kind) = false := by
  unfold metric
  by_cases absent : value = .null
  · rw [if_pos absent]
    rfl
  · rw [if_neg absent]
    rfl

@[simp] theorem map_unobserved (key label : String) (observedValue : Json) (operator : String)
    (thresholdValue : Json) (unit : Option String) :
    (criterion key label observedValue operator thresholdValue unit).map unobserved =
      criterion key label .null operator thresholdValue unit := by
  unfold criterion
  by_cases absent : thresholdValue = .null
  · rw [if_pos absent, if_pos absent]
    rfl
  · rw [if_neg absent, if_neg absent]
    rfl

/-- A computation maps its result at its end. -/
theorem map_bind {ε α β γ : Type} (first : Except ε α) (next : α → Except ε β) (f : β → γ) :
    (first >>= next).map f = first >>= fun value => (next value).map f := by
  cases first <;> rfl

theorem map_pure {ε α β : Type} (value : α) (f : α → β) :
    (pure value : Except ε α).map f = pure (f value) := rfl

variable [PythonRuntime]

/-- What is compared does not depend on the costs, rule by rule. -/
theorem ebsUnattached_compared (raw config : Entries) (cost savings : Json) :
    (ebsUnattached raw config cost savings).map compared =
      (ebsUnattached raw config .null .null).map compared := by
  unfold ebsUnattached
  simp only [map_bind, map_pure, compared, List.filter_cons, comparedMetric_monthly,
    Bool.false_eq_true, if_false, List.map_cons, map_unobserved]

omit [PythonRuntime] in
theorem eipUnassociated_compared (raw config : Entries) (cost savings : Json) :
    (eipUnassociated raw config cost savings).map compared =
      (eipUnassociated raw config .null .null).map compared := by
  unfold eipUnassociated
  simp only [map_pure, compared, List.filter_cons, comparedMetric_monthly, Bool.false_eq_true,
    if_false, List.map_cons, map_unobserved]

theorem snapshotRetention_compared (raw config : Entries) (cost : Json) :
    (snapshotRetention raw config cost).map compared =
      (snapshotRetention raw config .null).map compared := by
  unfold snapshotRetention
  simp only [map_bind, apply_ite (Except.map compared), map_pure, compared, List.filter_cons,
    comparedMetric_monthly, Bool.false_eq_true, if_false]

theorem ec2StoppedWithEbs_compared (raw config : Entries) (cost savings : Json) :
    (ec2StoppedWithEbs raw config cost savings).map compared =
      (ec2StoppedWithEbs raw config .null .null).map compared := by
  unfold ec2StoppedWithEbs
  simp only [map_bind, map_pure, compared, List.filter_cons, comparedMetric_monthly,
    Bool.false_eq_true, if_false, List.map_cons, map_unobserved]

theorem ec2NonprodOutsideHours_compared [CaseMapping] (raw config : Entries)
    (cost savings : Json) :
    (ec2NonprodOutsideHours raw config cost savings).map compared =
      (ec2NonprodOutsideHours raw config .null .null).map compared := by
  unfold ec2NonprodOutsideHours
  simp only [map_bind, map_pure, compared, List.filter_cons, comparedMetric_monthly,
    Bool.false_eq_true, if_false]

theorem loadBalancerNoTraffic_compared (raw config : Entries) (cost : Json) :
    (loadBalancerNoTraffic raw config cost).map compared =
      (loadBalancerNoTraffic raw config .null).map compared := by
  unfold loadBalancerNoTraffic
  simp only [map_bind, map_pure, compared, List.filter_cons, comparedMetric_monthly,
    Bool.false_eq_true, if_false]

theorem rdsNonprodIdle_compared [CaseMapping] (raw config : Entries) (cost : Json) :
    (rdsNonprodIdle raw config cost).map compared =
      (rdsNonprodIdle raw config .null).map compared := by
  unfold rdsNonprodIdle
  simp only [map_bind, map_pure, compared, List.filter_cons, comparedMetric_monthly,
    Bool.false_eq_true, if_false]

variable [CaseMapping]

/-- The costs enter a draft only where they are not compared. -/
theorem draftOf_compared (ruleKey : String) (raw config : Entries) (cost savings : Json) :
    (draftOf ruleKey raw config cost savings).map compared =
      (draftOf ruleKey raw config .null .null).map compared := by
  unfold draftOf
  split_ifs
  · exact ebsUnattached_compared raw config cost savings
  · exact eipUnassociated_compared raw config cost savings
  · exact snapshotRetention_compared raw config cost
  · exact ec2StoppedWithEbs_compared raw config cost savings
  · exact ec2NonprodOutsideHours_compared raw config cost savings
  · exact loadBalancerNoTraffic_compared raw config cost
  · exact rdsNonprodIdle_compared raw config cost
  · rfl
  · rfl
  · rfl

end Drafts

section Evidence

variable [PythonRuntime] [CaseMapping]

/-- The same for everything that a comparison reads. -/
structure Alike (first second : Entries) : Prop where
  metrics : metricMap first = metricMap second
  criteria : criterionMap first = criterionMap second
  parameters : getOr "parameters" (.object []) first = getOr "parameters" (.object []) second
  contributors : contributorMap first = contributorMap second
  details : detailsOf first = detailsOf second

variable (subject : EvidenceSubject) (config : Entries) (draft : Draft)

omit [CaseMapping]

theorem recordMap_items {name : String} {kept : String → Entries → Bool}
    {record : String → Entries → Json} {evidence : Entries} {items : List Json}
    (listed : getOr name (.array []) evidence = .array items) :
    recordMap name kept record evidence = .ok (items.foldl (takeRecord kept record) []) := by
  unfold recordMap
  rw [listed]
  rfl

/-- A metric in dollars a month leaves no record. -/
theorem takeRecord_monthly (result : Entries) {metric : Metric}
    (monthly : metric.unit = some "USD_MONTH") :
    takeRecord metricKept metricRecord result metric.json = result := by
  have dropped (key : String) : metricKept key (entriesOf metric.json) = false := by
    unfold metricKept Metric.json
    rw [monthly]
    exact Bool.and_false _
  unfold takeRecord
  dsimp only
  rw [dropped, Bool.and_false, if_neg Bool.false_ne_true]

theorem foldl_compared (metrics : List (Option Metric)) (result : Entries) :
    ((metrics.filterMap id).map Metric.json).foldl (takeRecord metricKept metricRecord) result =
      (((metrics.filter comparedMetric).filterMap id).map Metric.json).foldl
        (takeRecord metricKept metricRecord) result := by
  induction metrics generalizing result with
  | nil => rfl
  | cons metric rest inductionHypothesis =>
    cases metric with
    | none => exact inductionHypothesis result
    | some metric =>
      by_cases monthly : metric.unit = some "USD_MONTH"
      · have dropped : ¬comparedMetric (some metric) = true := by simp [comparedMetric, monthly]
        rw [List.filter_cons, if_neg dropped, ← inductionHypothesis]
        change (_ : List Json).foldl _ (takeRecord metricKept metricRecord result metric.json) = _
        rw [takeRecord_monthly result monthly]
      · have kept : comparedMetric (some metric) = true := by simp [comparedMetric, monthly]
        rw [List.filter_cons, if_pos kept]
        exact inductionHypothesis _

theorem metricMap_compared :
    metricMap (base subject draft config) = metricMap (base subject (compared draft) config) := by
  unfold metricMap
  rw [recordMap_items rfl, recordMap_items rfl, foldl_compared]
  rfl

/-- The record of a criterion does not hold its observed value. -/
theorem foldl_unobserved (criteria : List (Option Criterion)) (result : Entries) :
    ((criteria.filterMap id).map Criterion.json).foldl
        (takeRecord (fun _ _ => true) criterionRecord) result =
      (((criteria.map (Option.map unobserved)).filterMap id).map Criterion.json).foldl
        (takeRecord (fun _ _ => true) criterionRecord) result := by
  induction criteria generalizing result with
  | nil => rfl
  | cons criterion rest inductionHypothesis =>
    cases criterion with
    | none => exact inductionHypothesis result
    | some criterion => exact inductionHypothesis _

theorem criterionMap_compared :
    criterionMap (base subject draft config) =
      criterionMap (base subject (compared draft) config) := by
  unfold criterionMap
  rw [recordMap_items rfl, recordMap_items rfl, foldl_unobserved]
  rfl

/-- Drafts that are compared alike make evidence that is compared alike. -/
theorem alike_of_compared {draft other : Draft} (same : compared draft = compared other) :
    Alike (base subject draft config) (base subject other config) where
  metrics := by rw [metricMap_compared, same, ← metricMap_compared]
  criteria := by rw [criterionMap_compared, same, ← criterionMap_compared]
  parameters := rfl
  contributors := by
    change contributorMap (base subject (compared draft) config) =
      contributorMap (base subject (compared other) config)
    rw [same]
  details := by
    change detailsOf (base subject (compared draft) config) =
      detailsOf (base subject (compared other) config)
    rw [same]

variable [CaseMapping] {subject}

/-- The same raw evidence is normalised alike, whatever the costs. -/
theorem evidenceOf_alike {before after : Observation} {baseline target : Entries}
    (sameEvidence : before.evidence = after.evidence)
    (first : evidenceOf subject before = .ok baseline)
    (second : evidenceOf subject after = .ok target) : Alike baseline target := by
  unfold evidenceOf normalizePersistedEvidence at first second
  rw [sameEvidence] at first
  by_cases ready : structured after.evidence = true
  · rw [if_pos ready] at first second
    cases first
    cases second
    exact ⟨rfl, rfl, rfl, rfl, rfl⟩
  · rw [if_neg ready] at first second
    obtain ⟨draft, drafted, made⟩ := bind_eq_ok.mp first
    obtain ⟨other, otherDrafted, otherMade⟩ := bind_eq_ok.mp second
    cases made
    cases otherMade
    apply alike_of_compared
    have firstDraft := draftOf_compared subject.ruleKey after.evidence (policyConfig after.evidence)
      (moneyOfDecimal before.currentMonthlyCost) (moneyOfDecimal before.estimatedMonthlySavings)
    have secondDraft := draftOf_compared subject.ruleKey after.evidence (policyConfig after.evidence)
      (moneyOfDecimal after.currentMonthlyCost) (moneyOfDecimal after.estimatedMonthlySavings)
    rw [drafted] at firstDraft
    rw [otherDrafted] at secondDraft
    exact Except.ok.inj (firstDraft.trans secondDraft.symm)

end Evidence

section Unchanged

variable [PythonRuntime]

/-- A value is the same as itself, if its floats exist. -/
theorem same_self {value : Json} {unchanged : Bool} (compared : same value value = .ok unchanged) :
    unchanged = true := by
  obtain ⟨first, firstValue, rest⟩ := bind_eq_ok.mp compared
  obtain ⟨second, secondValue, last⟩ := bind_eq_ok.mp rest
  have equalValues : first = second := Except.ok.inj (firstValue.symm.trans secondValue)
  cases last
  rw [equalValues]
  exact equal_refl second

theorem changeUnlessSame_self {type : String} {label unit value baseline target : Json}
    {changes : List Change}
    (compared : changeUnlessSame type label unit value value baseline target = .ok changes) :
    changes = [] := by
  obtain ⟨unchanged, verdict, rest⟩ := bind_eq_ok.mp compared
  have unchangedValue : unchanged = true := same_self verdict
  subst unchangedValue
  cases rest
  rfl

omit [PythonRuntime] in
/-- Keys without a change have no changes together. -/
theorem changesOf_unchanged {change : String → Except PythonError (List Change)}
    (unchanged : ∀ key changes, change key = .ok changes → changes = []) (keys : List String)
    {changes : List Change} (compared : changesOf change keys = .ok changes) : changes = [] := by
  induction keys generalizing changes with
  | nil =>
    cases compared
    rfl
  | cons key rest inductionHypothesis =>
    unfold changesOf at compared
    rw [List.mapM_cons, map_bind] at compared
    obtain ⟨first, firstChanges, later⟩ := bind_eq_ok.mp compared
    rw [map_bind] at later
    obtain ⟨others, otherChanges, last⟩ := bind_eq_ok.mp later
    have noFirst : first = [] := unchanged key first firstChanges
    have noOthers : others.flatten = [] := by
      apply inductionHypothesis
      unfold changesOf
      rw [otherChanges]
      rfl
    cases last
    rw [List.flatten_cons, noFirst, noOthers]
    rfl

/-- Evidence that is compared alike has no changes. -/
theorem evidenceChanges_alike {ruleKey : String} {baseline target : Entries}
    (alike : Alike baseline target) {changes : List Change}
    (compared : evidenceChanges ruleKey baseline target = .ok changes) : changes = [] := by
  unfold evidenceChanges at compared
  rw [← alike.metrics, ← alike.criteria, ← alike.parameters, ← alike.contributors] at compared
  obtain ⟨beforeMetrics, beforeFound, compared⟩ := bind_eq_ok.mp compared
  obtain ⟨afterMetrics, afterFound, compared⟩ := bind_eq_ok.mp compared
  have sameMetrics : beforeMetrics = afterMetrics :=
    Except.ok.inj (beforeFound.symm.trans afterFound)
  subst sameMetrics
  obtain ⟨metrics, metricChanges, compared⟩ := bind_eq_ok.mp compared
  obtain ⟨beforeCriteria, beforeListed, compared⟩ := bind_eq_ok.mp compared
  obtain ⟨afterCriteria, afterListed, compared⟩ := bind_eq_ok.mp compared
  have sameCriteria : beforeCriteria = afterCriteria :=
    Except.ok.inj (beforeListed.symm.trans afterListed)
  subst sameCriteria
  obtain ⟨criteria, criterionChanges, compared⟩ := bind_eq_ok.mp compared
  obtain ⟨parameters, parameterChanges, compared⟩ := bind_eq_ok.mp compared
  obtain ⟨beforeContributors, beforeMade, compared⟩ := bind_eq_ok.mp compared
  obtain ⟨afterContributors, afterMade, compared⟩ := bind_eq_ok.mp compared
  have sameContributors : beforeContributors = afterContributors :=
    Except.ok.inj (beforeMade.symm.trans afterMade)
  subst sameContributors
  obtain ⟨contributors, contributorChanges, compared⟩ := bind_eq_ok.mp compared
  obtain ⟨details, detailChanges, compared⟩ := bind_eq_ok.mp compared
  have noMetrics : metrics = [] :=
    changesOf_unchanged (fun _ _ => changeUnlessSame_self) _ metricChanges
  have noCriteria : criteria = [] :=
    changesOf_unchanged (fun _ _ => changeUnlessSame_self) _ criterionChanges
  have noDetails : details = [] := by
    refine changesOf_unchanged ?_ _ detailChanges
    intro key found detailCompared
    unfold detailChange at detailCompared
    rw [← alike.details] at detailCompared
    obtain ⟨beforeDetails, beforeRead, detailCompared⟩ := bind_eq_ok.mp detailCompared
    obtain ⟨afterDetails, afterRead, detailCompared⟩ := bind_eq_ok.mp detailCompared
    have sameDetails : beforeDetails = afterDetails :=
      Except.ok.inj (beforeRead.symm.trans afterRead)
    subst sameDetails
    exact changeUnlessSame_self detailCompared
  cases compared
  rw [noMetrics, noCriteria, changeUnlessSame_self parameterChanges,
    changeUnlessSame_self contributorChanges, noDetails]
  rfl

end Unchanged

section Laws

theorem fieldChanges_self (observation : Observation) :
    fieldChanges observation observation = [] := by
  unfold fieldChanges
  simp only [ne_eq, not_true_eq_false, if_false, List.append_nil]

variable [PythonRuntime] [CaseMapping]

theorem compareObservations_self (subject : EvidenceSubject) (observation : Observation) :
    compareObservations subject observation observation = .ok ⟨false, [], []⟩ := by
  have nothing : comparisonOf [] = ⟨false, [], []⟩ := by
    unfold comparisonOf
    rw [List.map_nil, List.toFinset_nil, Finset.sort_empty]
    rfl
  unfold compareObservations
  rw [if_pos (equal_refl _), fieldChanges_self, nothing]

/-- What two comparisons report alike. -/
def ReportAlike (first second : Comparison) : Prop :=
  first.changed = second.changed ∧ first.changeTypes = second.changeTypes

/-- Either both orders of two observations raise, or both report alike. -/
theorem compareObservations_comm (subject : EvidenceSubject) (first second : Observation) :
    Agree ReportAlike (compareObservations subject first second)
      (compareObservations subject second first) := by
  have fields : SameTypes (fieldChanges first second) (fieldChanges second first) :=
    fieldChanges_comm first second
  unfold compareObservations
  rw [equal_comm (.object second.evidence)]
  by_cases early : equal (.object first.evidence) (.object second.evidence) = true
  · rw [if_pos early, if_pos early]
    exact comparisonOf_types fields
  · rw [if_neg early, if_neg early]
    apply agree_swap
    intro baseline target
    apply agree_bind (evidenceChanges_comm subject.ruleKey baseline target)
    intro changes others sameChanges
    exact comparisonOf_types (sameTypes_append fields sameChanges)

/-- The comparison of the normalised evidence finds nothing where the raw evidence is the same. -/
theorem compareNormalised_sameEvidence {subject : EvidenceSubject} {first second : Observation}
    (sameEvidence : first.evidence = second.evidence) {comparison : Comparison}
    (normalised : compareNormalised subject first second = .ok comparison) :
    comparison = comparisonOf (fieldChanges first second) := by
  obtain ⟨baseline, baselineMade, rest⟩ := bind_eq_ok.mp normalised
  obtain ⟨target, targetMade, rest⟩ := bind_eq_ok.mp rest
  obtain ⟨changes, found, last⟩ := bind_eq_ok.mp rest
  have alike : Alike baseline target := evidenceOf_alike sameEvidence baselineMade targetMade
  have noChanges : changes = [] := evidenceChanges_alike alike found
  cases last
  rw [noChanges, List.append_nil]

/-- An observation has no change to itself; what is reported does not depend on the order of
the observations; and where the raw evidence of both is the same, the early return reports
what the comparison of the normalised evidence reports. -/
theorem comparison_laws (subject : EvidenceSubject) (first second : Observation) :
    compareObservations subject first first = .ok ⟨false, [], []⟩ ∧
      Agree ReportAlike (compareObservations subject first second)
        (compareObservations subject second first) ∧
      (first.evidence = second.evidence →
        compareObservations subject first second =
          .ok (comparisonOf (fieldChanges first second)) ∧
        ∀ comparison, compareNormalised subject first second = .ok comparison →
          compareObservations subject first second = .ok comparison) := by
  refine ⟨compareObservations_self subject first, compareObservations_comm subject first second,
    fun sameEvidence => ?_⟩
  have early : compareObservations subject first second =
      .ok (comparisonOf (fieldChanges first second)) := by
    unfold compareObservations
    rw [sameEvidence, if_pos (equal_refl _)]
  refine ⟨early, fun comparison normalised => ?_⟩
  rw [early, compareNormalised_sameEvidence sameEvidence normalised]

end Laws

section Differences

/-- Floats that are not rounded, with the texts of numbers. -/
abbrev sampleRuntime : PythonRuntime where
  floatOfInt value := some (some value)
  floatOfDecimal value := some value
  floatOfText _ := none
  round value _ := value
  subtract first second := do return (← first) - (← second)
  sum values := values.foldl (fun total value => do return (← total) + (← value)) (some 0)
  str
    | .int value => toString value
    | .float (some value) => toString value.num ++ ".0"
    | _ => ""
  dumps _ := ""
  window _ _ _ := ""

def sampleSubject (ruleKey : String) : EvidenceSubject := ⟨ruleKey, "EC2", none, "r-1", none⟩

def sampleObservation (evidence : Entries) : Observation :=
  ⟨"LOW", "HIGH", "USD", 10, 10, evidence⟩

/-- Whether two evidences change, with the early return and without. -/
def sampleVerdicts (ruleKey : String) (first second : Entries) :
    Except PythonError Bool × Except PythonError Bool :=
  letI := sampleRuntime
  letI := asciiCase
  let subject := sampleSubject ruleKey
  let before := sampleObservation first
  let after := sampleObservation second
  ((compareObservations subject before after).map Comparison.changed,
    (compareNormalised subject before after).map Comparison.changed)

/-- The same evidence, and a larger saving: the early return tells what the normalised
comparison tells. -/
theorem comparison_laws_dearer :
    letI := sampleRuntime
    letI := asciiCase
    let before := sampleObservation [("size_gib", .int 1)]
    let after := { before with estimatedMonthlySavings := 20 }
    ∃ comparison, comparison.changed = true ∧
      compareNormalised (sampleSubject "ebs_unattached") before after = .ok comparison ∧
      compareObservations (sampleSubject "ebs_unattached") before after = .ok comparison := by
  let := sampleRuntime
  let := asciiCase
  intro before after
  have early := (comparison_laws (sampleSubject "ebs_unattached") before after).2.2 rfl
  have normalised : compareNormalised (sampleSubject "ebs_unattached") before after =
      .ok (comparisonOf (fieldChanges before after)) := by decide +kernel
  exact ⟨_, by decide +kernel, normalised, early.2 _ normalised⟩

/-- Evidence about tags, of which one is required. -/
def sampleTags (tags : Entries) : Entries :=
  [("policy_config", .object [("required_tags", .array [.string "env"])]), ("tags", .object tags)]

/-- Values of different kinds, or dictionaries in different orders, can be equal and yet be
normalised to something different; and the normalisation may raise where it is passed by. -/
theorem early_return_differs :
    sampleVerdicts "ebs_unattached" [("size_gib", .bool true)] [("size_gib", .int 1)] =
        (.ok false, .ok true) ∧
      sampleVerdicts "load_balancer_no_traffic" [("metric", .int 1)] [("metric", .float (some 1))] =
        (.ok false, .ok true) ∧
      sampleVerdicts "missing_required_tags"
          (sampleTags [("env", .string "live"), ("Env", .string "test")])
          (sampleTags [("Env", .string "test"), ("env", .string "live")]) =
        (.ok false, .ok true) ∧
      sampleVerdicts "ec2_stopped_with_ebs"
          [("volumes", .array [.object [("size_gib", .string "large")]])]
          [("volumes", .array [.object [("size_gib", .string "large")]])] =
        (.ok false, .error .valueError) := by
  refine ⟨?_, ?_, ?_, ?_⟩ <;> decide +kernel

end Differences

end FinopsAnalytics.ObservationShortcut
