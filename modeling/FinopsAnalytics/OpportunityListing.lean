import FinopsAnalytics.OpportunityRunComparison

/-!
# Lists of opportunities

A list narrows the findings by the filters of a request. The discovery filter reads
the target run among them and narrows further by the run-change class.
-/

namespace FinopsAnalytics.OpportunityListing

open OpportunityRecords OpportunityRunComparison

/-- A selection of findings: a conjunction of conditions on a row. -/
abbrev Selection := Store → Finding → Bool

/-- The filters that concern runs; `others` stands for the remaining conditions, among
them that of the archive state. -/
structure OpportunityFilters where
  collectionRunId : Option String := none
  discoveryType : Option DiscoveryType := none
  baselineCollectionRunId : Option String := none
  comparisonAvailable : Bool := true
  others : Selection := fun _ _ => true

/-- A text that is neither absent nor empty. -/
def given (text : Option String) : Option String :=
  match text with
  | some text => if text = "" then none else some text
  | none => none

inductive FilterError where
  | unsupportedDiscoveryType
deriving DecidableEq, Repr

/-- `_apply_discovery_filter`: the condition that it adds. -/
def applyDiscoveryFilter (filters : OpportunityFilters) : Except FilterError Selection :=
  match filters.discoveryType with
  | none => .ok fun _ _ => true
  | some discoveryType =>
    match given filters.collectionRunId with
    | none => .ok fun _ _ => false
    | some targetId =>
      match discoveryType with
      | .observed => .ok fun _ _ => true
      | .firstSeen => .ok fun _ finding => finding.firstSeenCollectionRunId = some targetId
      | _ =>
        match filters.comparisonAvailable, given filters.baselineCollectionRunId with
        | true, some baselineId =>
          match discoveryType with
          | .continued => .ok fun store finding => observedIn store baselineId finding
          | .newVsPrevious => .ok fun store finding => !observedIn store baselineId finding
          | .reappeared => .ok fun store finding =>
            !observedIn store baselineId finding && finding.firstSeenCollectionRunId.isSome &&
              finding.firstSeenCollectionRunId ≠ some targetId
          | _ => .error .unsupportedDiscoveryType
        | _, _ => .ok fun _ _ => false

/-- `_apply_filters` -/
def applyFilters (filters : OpportunityFilters) : Except FilterError Selection := do
  let discovered ← applyDiscoveryFilter filters
  return fun store finding =>
    filters.others store finding &&
      (match given filters.collectionRunId with
        | none => true
        | some runId => observedIn store runId finding) &&
      discovered store finding

end FinopsAnalytics.OpportunityListing
