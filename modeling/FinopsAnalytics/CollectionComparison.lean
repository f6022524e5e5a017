import FinopsAnalytics.Fallible
import FinopsAnalytics.OpportunityRunComparison
import Mathlib.Data.List.Sort

/-!
# The comparison of two collections

A target run is compared with the last successful run of its account before it, or
with one that is named. The comparison counts and lists the observations of both by a
join of their rows, page by page.
-/

namespace FinopsAnalytics.CollectionComparison

open PythonText UniqueTables OpportunityRecords OpportunityRunComparison Fallible

/-- Whether both runs hold a snapshot of their scope and the two differ. The snapshots
are columns that nothing else reads. -/
class RunScopes where
  differ : CollectionRun → CollectionRun → Bool

/-- Whether the normalised evidence of two observations of a finding differs, which it
does not where the persisted evidence is the same. -/
class EvidenceComparison where
  changed : Finding → OpportunityObservation → OpportunityObservation → Bool

structure CollectionComparisonError where
  code : String
  message : String
deriving DecidableEq, Repr

inductive ComparisonCategory where
  | new
  | persistent
  | noLongerDetected
  | changed
deriving DecidableEq, Repr

/-- `_validate_run` -/
def validateRun (run : CollectionRun) (role : String) : Except CollectionComparisonError PUnit :=
  if run.status = .success then .ok ⟨⟩
  else .error ⟨"COLLECTION_NOT_SUCCESSFUL",
    "A coleta " ++ role ++ " não foi concluída com sucesso."⟩

section Baselines

variable [RunScopes]

/-- Later runs first. -/
def laterFirst (first second : CollectionRun) : Bool :=
  decide (second.startedAt < first.startedAt) ||
    decide (first.startedAt = second.startedAt) && decide (second.id ≤ first.id)

/-- The successful runs of the same account that started earlier, the last one first. -/
def earlierSuccesses (store : Store) (target : CollectionRun) : List CollectionRun :=
  (store.collectionRuns.rows.filter fun run =>
    decide (run.id ≠ target.id) && decide (run.status = .success) &&
      decide (run.provider = target.provider) && decide (run.accountId = target.accountId) &&
      decide (run.startedAt < target.startedAt)).insertionSort (laterFirst · ·)

/-- `compatible_baselines` -/
def compatibleBaselines (store : Store) (target : CollectionRun) (limit : ℕ) :
    Except CollectionComparisonError (List CollectionRun) := do
  validateRun target "target"
  return ((earlierSuccesses store target).filter fun run =>
    !RunScopes.differ run target).take limit

/-- `previous_comparable_run` -/
def previousComparableRun (store : Store) (target : CollectionRun) :
    Except CollectionComparisonError (Option CollectionRun) := do
  let runs ← compatibleBaselines store target 1
  return runs.head?

/-- `resolve_run_context` -/
def resolveRunContext (store : Store) (target : CollectionRun) :
    Except CollectionComparisonError OpportunityRunContext :=
  if target.status ≠ .success then .ok ⟨target, none, false⟩
  else if ¬target.detailedObservationsAvailable then .ok ⟨target, none, false⟩
  else do
    match ← previousComparableRun store target with
    | none => return ⟨target, none, false⟩
    | some baseline =>
      if baseline.detailedObservationsAvailable then return ⟨target, some baseline, true⟩
      else return ⟨target, some baseline, false⟩

variable [CaseMapping]

/-- `validate_comparable_runs` -/
def validateComparableRuns (baseline target : CollectionRun) :
    Except CollectionComparisonError PUnit := do
  validateRun baseline "baseline"
  validateRun target "target"
  if baseline.id = target.id then
    throw ⟨"SAME_COLLECTION", "Selecione duas coletas diferentes."⟩
  if CaseMapping.lower baseline.provider ≠ CaseMapping.lower target.provider then
    throw ⟨"DIFFERENT_PROVIDER", "As coletas pertencem a providers diferentes."⟩
  if baseline.accountId ≠ target.accountId then
    throw ⟨"DIFFERENT_ACCOUNT", "As coletas pertencem a contas diferentes."⟩
  if RunScopes.differ baseline target then
    throw ⟨"DIFFERENT_SCOPE", "As coletas possuem escopos conhecidos diferentes."⟩
  if target.startedAt ≤ baseline.startedAt then
    throw ⟨"BASELINE_NOT_EARLIER", "A baseline precisa ser anterior à coleta atual."⟩

end Baselines

section Queries

/-- The findings in the order of their identifiers. -/
def findingsById (store : Store) : List Finding :=
  store.findings.rows.insertionSort (fun first second => first.id ≤ second.id)

/-- The observations of a finding by a run. -/
def observationsOf (store : Store) (runId : String) (finding : Finding) :
    List OpportunityObservation :=
  store.observations.rows.filter fun row =>
    decide (row.opportunityId = finding.id) && decide (row.collectionRunId = runId)

/-- The join of the findings with the observations of a run. -/
def joinedRows (store : Store) (runId : String) : List (Finding × OpportunityObservation) :=
  (findingsById store).flatMap fun finding =>
    (observationsOf store runId finding).map fun row => (finding, row)

/-- A finding with its observations by both runs. -/
structure SharedRow where
  finding : Finding
  before : OpportunityObservation
  after : OpportunityObservation
deriving DecidableEq, Repr

/-- `_comparison_query`, shared. -/
def sharedRows (store : Store) (baselineId targetId : String) : List SharedRow :=
  (findingsById store).flatMap fun finding =>
    (observationsOf store baselineId finding).flatMap fun before =>
      (observationsOf store targetId finding).map fun after => ⟨finding, before, after⟩

/-- `_comparison_query` of the observations of one run without one of the other. -/
def unsharedRows (store : Store) (runId otherId : String) :
    List (Finding × OpportunityObservation) :=
  (joinedRows store runId).filter fun row => !observedIn store otherId row.1

/-- The run that a category lists alone, and the other one. -/
def unsharedRuns (baselineId targetId : String) (category : ComparisonCategory) : String × String :=
  if category = .new then (targetId, baselineId) else (baselineId, targetId)

variable [EvidenceComparison]

/-- `compare_observations`: whether there is any change. -/
def compareObservations (row : SharedRow) : Bool :=
  decide (row.before.severity ≠ row.after.severity) ||
    decide (row.before.confidence ≠ row.after.confidence) ||
    (if row.before.currency ≠ row.after.currency then true
      else decide (row.before.currentMonthlyCost ≠ row.after.currentMonthlyCost) ||
        decide (row.before.estimatedMonthlySavings ≠ row.after.estimatedMonthlySavings)) ||
    EvidenceComparison.changed row.finding row.before row.after

/-- An entry of the listed page. -/
structure ComparisonItem where
  category : ComparisonCategory
  finding : Finding
  baseline : Option OpportunityObservation
  target : Option OpportunityObservation
deriving DecidableEq, Repr

/-- The category of a finding that both runs observed. -/
def rowCategory (row : SharedRow) : ComparisonCategory :=
  if compareObservations row then .changed else .persistent

/-- What the loop over the shared rows has counted and selected. -/
structure SharedLoop where
  sharedTotal : ℕ
  changedTotal : ℕ
  selectedTotal : ℕ
  items : List ComparisonItem
deriving DecidableEq, Repr

/-- The pass of the loop over one shared row, for a page that starts at `start`. -/
def sharedStep (category : ComparisonCategory) (start pageSize : ℕ) (loop : SharedLoop)
    (row : SharedRow) : SharedLoop :=
  let counted := { loop with
    sharedTotal := loop.sharedTotal + 1
    changedTotal := loop.changedTotal + if compareObservations row then 1 else 0 }
  if category = rowCategory row then
    let items :=
      if start ≤ loop.selectedTotal ∧ loop.selectedTotal < start + pageSize then
        loop.items ++ [⟨category, row.finding, some row.before, some row.after⟩]
      else loop.items
    { counted with items, selectedTotal := loop.selectedTotal + 1 }
  else counted

def sharedLoop (category : ComparisonCategory) (start pageSize : ℕ) (rows : List SharedRow) :
    SharedLoop :=
  rows.foldl (sharedStep category start pageSize) ⟨0, 0, 0, []⟩

structure ComparisonSummary where
  baselineTotal : ℤ
  targetTotal : ℤ
  new : ℤ
  persistent : ℤ
  noLongerDetected : ℤ
  changed : ℤ
deriving DecidableEq, Repr

def ComparisonSummary.count (summary : ComparisonSummary) : ComparisonCategory → ℤ
  | .new => summary.new
  | .persistent => summary.persistent
  | .noLongerDetected => summary.noLongerDetected
  | .changed => summary.changed

structure ComparisonPage where
  available : Bool
  reason : Option String
  baseline : Option CollectionRun
  target : CollectionRun
  summary : Option ComparisonSummary
  category : ComparisonCategory
  items : List ComparisonItem
  page : ℕ
  pageSize : ℕ
  total : ℤ
deriving DecidableEq, Repr

/-- A page that says why there is nothing to compare. -/
def unavailablePage (reason : String) (baseline : Option CollectionRun) (target : CollectionRun)
    (category : ComparisonCategory) (page pageSize : ℕ) : ComparisonPage where
  available := false
  reason := some reason
  baseline := baseline
  target := target
  summary := none
  category := category
  items := []
  page := page
  pageSize := pageSize
  total := 0

/-- The comparison of two runs whose observations are kept. -/
def comparedPage (store : Store) (baseline target : CollectionRun)
    (category : ComparisonCategory) (page pageSize : ℕ) : ComparisonPage :=
  let start := (page - 1) * pageSize
  let baselineTotal := (joinedRows store baseline.id).length
  let targetTotal := (joinedRows store target.id).length
  let loop := sharedLoop category start pageSize (sharedRows store baseline.id target.id)
  let summary : ComparisonSummary := {
    baselineTotal := baselineTotal
    targetTotal := targetTotal
    new := targetTotal - loop.sharedTotal
    persistent := loop.sharedTotal - loop.changedTotal
    noLongerDetected := baselineTotal - loop.sharedTotal
    changed := loop.changedTotal }
  let unshared :=
    if category = .new ∨ category = .noLongerDetected then
      let runs := unsharedRuns baseline.id target.id category
      (((unsharedRows store runs.1 runs.2).drop start).take pageSize).map fun row =>
        if category = .new then ⟨category, row.1, none, some row.2⟩
        else ⟨category, row.1, some row.2, none⟩
    else []
  { available := true
    reason := none
    baseline := some baseline
    target := target
    summary := some summary
    category := category
    items := loop.items ++ unshared
    page := page
    pageSize := pageSize
    total := summary.count category }

variable [CaseMapping] [RunScopes]

/-- `compare_collection_runs`; pages are counted from 1. -/
def compareCollectionRuns (store : Store) (target : CollectionRun)
    (baseline : Option CollectionRun) (category : ComparisonCategory) (page pageSize : ℕ) :
    Except CollectionComparisonError ComparisonPage := do
  validateRun target "target"
  let chosen ← match baseline with
    | some baseline => .ok (some baseline)
    | none => previousComparableRun store target
  match chosen with
  | none => return unavailablePage "NO_BASELINE" none target category page pageSize
  | some baseline =>
    validateComparableRuns baseline target
    if baseline.detailedObservationsAvailable ∧ target.detailedObservationsAvailable then
      return comparedPage store baseline target category page pageSize
    else
      return unavailablePage "OBSERVATIONS_EXPIRED" (some baseline) target category page pageSize

end Queries

end FinopsAnalytics.CollectionComparison
