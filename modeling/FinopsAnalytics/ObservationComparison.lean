import FinopsAnalytics.OpportunityEvidence
import FinopsAnalytics.ParallelResults
import Mathlib.Data.Finset.Sort
import Mathlib.Data.String.Basic

/-!
# The comparison of two observations

Two observations of a finding are compared by their own fields first. Equal raw evidence
ends the comparison; otherwise the evidence of both is normalised, and its metrics, criteria,
parameters, contributors and relevant details are compared. Amounts that follow the costs of
an observation are not among them.
-/

namespace FinopsAnalytics.ObservationComparison

open PythonText ComparisonContexts PythonJson Dictionaries DistinctKeys Fallible
open OpportunityEvidence ParallelResults

structure Observation where
  severity : String
  confidence : String
  currency : String
  currentMonthlyCost : ℚ
  estimatedMonthlySavings : ℚ
  evidence : Entries
deriving DecidableEq

def naturalEvolutionMetrics : List String :=
  ["age_days", "retention_excess_days", "stopped_days", "lookback_days", "datapoint_count",
    "baseline_period_days", "comparison_period_days"]

def relevantDetailKeys : List (String × List String) :=
  [("ebs_unattached", ["state", "volume_type"]),
    ("eip_unassociated", []),
    ("snapshot_retention", []),
    ("ec2_stopped_with_ebs", ["state", "instance_type", "volumes"]),
    ("ec2_nonprod_outside_hours", ["state", "instance_type", "environment_tags"]),
    ("load_balancer_no_traffic", ["load_balancer_type", "metric"]),
    ("rds_nonprod_idle", ["engine", "instance_class", "environment_tags"]),
    ("missing_required_tags", ["missing_tags", "required_tags_found"]),
    ("cost_growth_anomaly", ["metric", "estimated", "breakdown_status"])]

/-- A compared value: a field of the observation, an amount, or a part of the evidence. -/
inductive ComparedValue where
  | text (value : String)
  | amount (value : ℚ)
  | json (value : Json)
deriving DecidableEq

structure Change where
  type : String
  label : Json
  baseline : ComparedValue
  target : ComparedValue
  unit : Json
deriving DecidableEq

structure Comparison where
  changed : Bool
  changeTypes : List String
  changes : List Change
deriving DecidableEq

def comparisonOf (changes : List Change) : Comparison where
  changed := !changes.isEmpty
  changeTypes := (changes.map Change.type).toFinset.sort (· ≤ ·)
  changes := changes

variable [PythonRuntime]

section Semantics

mutual

/-- `_semantic_value` -/
def semanticValue : Json → Except PythonError Json
  | .null => .ok .null
  | .bool value => .ok (.bool value)
  | .int value => (floatOfInt value).map .float
  | .float value => .ok (.float value)
  | .string value => .ok (.string value)
  | .array items => do
    let normalized ← semanticItems items
    return .array (sortByKey PythonRuntime.dumps normalized)
  | .object entries => do
    let normalized ← semanticEntries entries
    return .object (sortByKey Prod.fst normalized)

def semanticItems : List Json → Except PythonError (List Json)
  | [] => .ok []
  | item :: rest => do
    let first ← semanticValue item
    let others ← semanticItems rest
    return first :: others

def semanticEntries : Entries → Except PythonError Entries
  | [] => .ok []
  | (key, value) :: rest => do
    let first ← semanticValue value
    let others ← semanticEntries rest
    return (key, first) :: others

end

/-- `_same` -/
def same (left right : Json) : Except PythonError Bool := do
  let first ← semanticValue left
  let second ← semanticValue right
  return equal first second

end Semantics

section Maps

/-- The record of an item that is a dictionary with a key. -/
def takeRecord (kept : String → Entries → Bool) (record : String → Entries → Json)
    (result : Entries) (item : Json) : Entries :=
  let entries := entriesOf item
  if isObject item && truthy (get "key" entries) && kept (str (get "key" entries)) entries then
    setKey (str (get "key" entries)) (record (str (get "key" entries)) entries) result
  else result

/-- The records of a list in the evidence, as a dictionary. -/
def recordMap (name : String) (kept : String → Entries → Bool) (record : String → Entries → Json)
    (evidence : Entries) : Except PythonError Entries := do
  let items ← iterate (getOr name (.array []) evidence)
  return items.foldl (takeRecord kept record) []

def metricKept (key : String) (entries : Entries) : Bool :=
  decide (key ∉ naturalEvolutionMetrics) && !equal (get "unit" entries) (.string "USD_MONTH")

def metricRecord (key : String) (entries : Entries) : Json :=
  .object [("label", orElse (get "label" entries) (.string key)), ("value", get "value" entries),
    ("unit", get "unit" entries), ("kind", get "kind" entries)]

def criterionRecord (key : String) (entries : Entries) : Json :=
  .object [("label", orElse (get "label" entries) (.string key)),
    ("operator", get "operator" entries), ("threshold_value", get "threshold_value" entries),
    ("unit", get "unit" entries)]

def contributorRecord (key : String) (entries : Entries) : Json :=
  .object [("label", orElse (get "label" entries) (.string key)),
    ("previous_value", get "previous_value" entries),
    ("current_value", get "current_value" entries), ("delta", get "delta" entries),
    ("unit", get "unit" entries)]

/-- `_metric_map` -/
def metricMap : Entries → Except PythonError Entries := recordMap "metrics" metricKept metricRecord

/-- `_criterion_map` -/
def criterionMap : Entries → Except PythonError Entries :=
  recordMap "criteria" (fun _ _ => true) criterionRecord

/-- `_contributor_map` -/
def contributorMap : Entries → Except PythonError Entries :=
  recordMap "contributors" (fun _ _ => true) contributorRecord

end Maps

section Stages

/-- The changes of the observation's own fields. -/
def fieldChanges (before after : Observation) : List Change :=
  (if before.severity ≠ after.severity then
    [⟨"severity", .string "Severidade", .text before.severity, .text after.severity, .null⟩]
  else []) ++
  (if before.confidence ≠ after.confidence then
    [⟨"confidence", .string "Confiança", .text before.confidence, .text after.confidence, .null⟩]
  else []) ++
  if before.currency ≠ after.currency then
    [⟨"currency", .string "Moeda", .text before.currency, .text after.currency, .null⟩]
  else
    let moneyUnit := .string (after.currency ++ "_MONTH")
    (if before.currentMonthlyCost ≠ after.currentMonthlyCost then
      [⟨"financial_impact", .string "Custo mensal observado", .amount before.currentMonthlyCost,
        .amount after.currentMonthlyCost, moneyUnit⟩]
    else []) ++
    if before.estimatedMonthlySavings ≠ after.estimatedMonthlySavings then
      [⟨"financial_impact", .string "Economia potencial estimada",
        .amount before.estimatedMonthlySavings, .amount after.estimatedMonthlySavings, moneyUnit⟩]
    else []

/-- The keys of two dictionaries, in order. -/
def sharedKeys (before after : Entries) : List String :=
  ((before.map Prod.fst).toFinset ∪ (after.map Prod.fst).toFinset).sort (· ≤ ·)

/-- The change of one compared value, if it is not the same. -/
def changeUnlessSame (type : String) (label unit old new baseline target : Json) :
    Except PythonError (List Change) := do
  if ← same old new then return []
  return [⟨type, label, .json baseline, .json target, unit⟩]

/-- `(new or old or {}).get(name, default)` -/
def fieldOf (name : String) (default old new : Json) : Json :=
  getOr name default (entriesOf (orElse new old))

/-- The change of a metric. -/
def metricChange (before after : Entries) (key : String) : Except PythonError (List Change) :=
  let old := get key before
  let new := get key after
  changeUnlessSame "evidence" (fieldOf "label" (.string key) old new) (fieldOf "unit" .null old new)
    old new (get "value" (entriesOf old)) (get "value" (entriesOf new))

/-- What is compared of a criterion. -/
def criterionSemantic (record : Json) : Json :=
  if isObject record then
    .object [("operator", get "operator" (entriesOf record)),
      ("threshold_value", get "threshold_value" (entriesOf record)),
      ("unit", get "unit" (entriesOf record))]
  else .null

def criterionChange (before after : Entries) (key : String) : Except PythonError (List Change) :=
  let old := get key before
  let new := get key after
  changeUnlessSame "threshold" (fieldOf "label" (.string key) old new)
    (fieldOf "unit" .null old new) (criterionSemantic old) (criterionSemantic new)
    (criterionSemantic old) (criterionSemantic new)

/-- `key.replace("_", " ").capitalize()` of a key of small letters. -/
def detailLabel (key : String) : String :=
  String.ofList (match key.toList.map fun c => if c = '_' then ' ' else c with
    | [] => []
    | first :: rest => first.toUpper :: rest)

/-- The details of evidence, which have to be a dictionary. -/
def detailsOf (evidence : Entries) : Except PythonError Entries :=
  match getOr "details" (.object []) evidence with
  | .object entries => .ok entries
  | _ => .error .attributeError

def detailChange (before after : Entries) (key : String) : Except PythonError (List Change) := do
  let beforeDetails ← detailsOf before
  let afterDetails ← detailsOf after
  let old := get key beforeDetails
  let new := get key afterDetails
  changeUnlessSame "evidence" (.string (detailLabel key)) .null old new old new

/-- The changes of some keys, one after another. -/
def changesOf (change : String → Except PythonError (List Change)) (keys : List String) :
    Except PythonError (List Change) :=
  (keys.mapM change).map List.flatten

/-- The comparison of two normalised evidences. -/
def evidenceChanges (ruleKey : String) (before after : Entries) :
    Except PythonError (List Change) := do
  let beforeMetrics ← metricMap before
  let afterMetrics ← metricMap after
  let metrics ← changesOf (metricChange beforeMetrics afterMetrics)
    (sharedKeys beforeMetrics afterMetrics)
  let beforeCriteria ← criterionMap before
  let afterCriteria ← criterionMap after
  let criteria ← changesOf (criterionChange beforeCriteria afterCriteria)
    (sharedKeys beforeCriteria afterCriteria)
  let beforeParameters := getOr "parameters" (.object []) before
  let afterParameters := getOr "parameters" (.object []) after
  let parameters ← changeUnlessSame "parameters" (.string "Parâmetros relevantes da regra") .null
    beforeParameters afterParameters beforeParameters afterParameters
  let beforeContributors ← contributorMap before
  let afterContributors ← contributorMap after
  let contributors ← changeUnlessSame "evidence" (.string "Contribuidores da análise") .null
    (.object beforeContributors) (.object afterContributors) (.object beforeContributors)
    (.object afterContributors)
  let details ← changesOf (detailChange before after) ((relevantDetailKeys.lookup ruleKey).getD [])
  return metrics ++ criteria ++ parameters ++ contributors ++ details

end Stages

section Comparison

variable [CaseMapping]

/-- `_evidence` -/
def evidenceOf (subject : EvidenceSubject) (observation : Observation) :
    Except PythonError Entries :=
  normalizePersistedEvidence subject observation.evidence observation.currentMonthlyCost
    observation.estimatedMonthlySavings

/-- The comparison without the early return. -/
def compareNormalised (subject : EvidenceSubject) (before after : Observation) :
    Except PythonError Comparison := do
  let baseline ← evidenceOf subject before
  let target ← evidenceOf subject after
  let changes ← evidenceChanges subject.ruleKey baseline target
  return comparisonOf (fieldChanges before after ++ changes)

/-- `compare_observations` -/
def compareObservations (subject : EvidenceSubject) (before after : Observation) :
    Except PythonError Comparison :=
  if equal (.object before.evidence) (.object after.evidence) then
    .ok (comparisonOf (fieldChanges before after))
  else compareNormalised subject before after

end Comparison

section Symmetry

/-- The same types of changes, in the same order. -/
def SameTypes (first second : List Change) : Prop :=
  first.map Change.type = second.map Change.type

theorem same_comm (left right : Json) : Agree Eq (same left right) (same right left) :=
  agree_swap fun first second => equal_comm first second

theorem changeUnlessSame_comm (type : String) (old new : Json)
    (label unit baseline target otherLabel otherUnit otherBaseline otherTarget : Json) :
    Agree SameTypes (changeUnlessSame type label unit old new baseline target)
      (changeUnlessSame type otherLabel otherUnit new old otherBaseline otherTarget) := by
  apply agree_bind (same_comm old new)
  rintro unchanged _ rfl
  cases unchanged with
  | true => exact rfl
  | false => exact rfl

omit [PythonRuntime] in
theorem sameTypes_flatten {firsts seconds : List (List Change)}
    (same : List.Forall₂ SameTypes firsts seconds) : SameTypes firsts.flatten seconds.flatten := by
  induction same with
  | nil => exact rfl
  | cons first _ inductionHypothesis =>
    unfold SameTypes at first inductionHypothesis ⊢
    rw [List.flatten_cons, List.flatten_cons, List.map_append, List.map_append, first,
      inductionHypothesis]

omit [PythonRuntime] in
theorem changesOf_agree {change other : String → Except PythonError (List Change)}
    (agree : ∀ key, Agree SameTypes (change key) (other key)) (keys : List String) :
    Agree SameTypes (changesOf change keys) (changesOf other keys) := by
  have lists := @agree_mapM _ _ SameTypes _ change other keys fun key _ => agree key
  unfold changesOf
  cases first : keys.mapM change with
  | error raised =>
    cases second : keys.mapM other with
    | error otherRaised => exact trivial
    | ok right =>
      rw [first, second] at lists
      exact lists.elim
  | ok left =>
    obtain ⟨right, second, related⟩ := agree_ok lists first
    rw [second]
    exact sameTypes_flatten related

omit [PythonRuntime] in
theorem sharedKeys_comm (before after : Entries) :
    sharedKeys before after = sharedKeys after before := by
  unfold sharedKeys
  rw [Finset.union_comm]

theorem detailChange_comm (before after : Entries) (key : String) :
    Agree SameTypes (detailChange before after key) (detailChange after before key) :=
  agree_swap fun _ _ => changeUnlessSame_comm ..

/-- The evidence of either observation may come first. -/
theorem evidenceChanges_comm (ruleKey : String) (before after : Entries) :
    Agree SameTypes (evidenceChanges ruleKey before after)
      (evidenceChanges ruleKey after before) := by
  apply agree_swap
  intro beforeMetrics afterMetrics
  rw [sharedKeys_comm]
  refine agree_bind (changesOf_agree (fun key => ?_) _) fun metrics otherMetrics metricTypes => ?_
  · exact changeUnlessSame_comm ..
  apply agree_swap
  intro beforeCriteria afterCriteria
  rw [sharedKeys_comm]
  refine agree_bind (changesOf_agree (fun key => ?_) _)
    fun criteria otherCriteria criterionTypes => ?_
  · exact changeUnlessSame_comm ..
  refine agree_bind (changeUnlessSame_comm ..) fun parameters otherParameters parameterTypes => ?_
  apply agree_swap
  intro beforeContributors afterContributors
  refine agree_bind (changeUnlessSame_comm ..) fun contributors otherContributors types => ?_
  refine agree_bind (changesOf_agree (detailChange_comm before after) _)
    fun details otherDetails detailTypes => ?_
  change List.map _ _ = List.map _ _
  unfold SameTypes at metricTypes criterionTypes parameterTypes types detailTypes
  simp only [List.map_append, metricTypes, criterionTypes, parameterTypes, types, detailTypes]

omit [PythonRuntime] in
theorem sameTypes_append {firsts seconds others rest : List Change}
    (front : SameTypes firsts seconds) (back : SameTypes others rest) :
    SameTypes (firsts ++ others) (seconds ++ rest) := by
  unfold SameTypes at front back ⊢
  rw [List.map_append, List.map_append, front, back]

omit [PythonRuntime] in
/-- A change of a field, in both directions. -/
theorem sameTypes_unless {α : Type} [DecidableEq α] (first second : α) {forth back : Change}
    (same : forth.type = back.type) :
    SameTypes (if first ≠ second then [forth] else []) (if second ≠ first then [back] else []) := by
  by_cases equal : first = second
  · rw [if_neg (not_not.mpr equal), if_neg (not_not.mpr equal.symm)]
    rfl
  · rw [if_pos equal, if_pos (Ne.symm equal)]
    exact congrArg (· :: []) same

omit [PythonRuntime] in
/-- The fields of the observations differ in both directions alike. -/
theorem fieldChanges_comm (before after : Observation) :
    SameTypes (fieldChanges before after) (fieldChanges after before) := by
  unfold fieldChanges
  refine sameTypes_append (sameTypes_append (sameTypes_unless _ _ rfl) (sameTypes_unless _ _ rfl)) ?_
  by_cases currency : before.currency = after.currency
  · rw [if_neg (not_not.mpr currency), if_neg (not_not.mpr currency.symm)]
    exact sameTypes_append (sameTypes_unless _ _ rfl) (sameTypes_unless _ _ rfl)
  · rw [if_pos currency, if_pos (Ne.symm currency)]
    rfl

omit [PythonRuntime] in
/-- What is reported depends on the types of the changes. -/
theorem comparisonOf_types {first second : List Change} (same : SameTypes first second) :
    (comparisonOf first).changed = (comparisonOf second).changed ∧
      (comparisonOf first).changeTypes = (comparisonOf second).changeTypes := by
  unfold SameTypes at same
  constructor
  · cases first with
    | nil =>
      rw [List.map_nil, eq_comm, List.map_eq_nil_iff] at same
      rw [same]
    | cons change rest =>
      cases second with
      | nil => cases same
      | cons other others => rfl
  · unfold comparisonOf
    dsimp only
    rw [same]

end Symmetry

end FinopsAnalytics.ObservationComparison
