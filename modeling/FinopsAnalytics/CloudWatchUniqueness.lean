import FinopsAnalytics.CloudWatchCostEngine
import FinopsAnalytics.Fallible
import FinopsAnalytics.KeyedAccumulations

/-!
# Accepted rules are unambiguous

The validation refuses two rules of one operation whose regions, validity and tiers meet.
So at every position at most one accepted rule prices an event. A version holds the rules
of its key, and the covered usage is what some version charges.

The database reads the commercial regions otherwise than the validation does. They agree on
the regions of the cloud, which have a hyphen in their names, and on the unknown one.
-/

namespace FinopsAnalytics.CloudWatchCostEngine

open CivilCalendar Dictionaries DistinctKeys Fallible KeyedAccumulations CloudWatchPricing

section Overlaps

/-- A scope of one region is the prefix and the region. -/
theorem scope_of_region {regionScope region : String} (named : startsWith regionScope "REGION:")
    (same : region = removePrefix regionScope "REGION:") :
    regionScope.toList = "REGION:".toList ++ region.toList := by
  rw [removePrefix, if_pos named] at same
  obtain ⟨rest, split⟩ := List.isPrefixOf_iff_prefix.mp named
  have cut : region.toList = rest := by
    rw [same, String.toList_ofList, ← split]
    rfl
  rw [cut, split]

/-- Scopes that match one region meet. -/
theorem regionsOverlap_of_matches {left right region : String}
    (leftMatches : regionScopeMatches left region = true)
    (rightMatches : regionScopeMatches right region = true) :
    regionsOverlap left right = true := by
  unfold regionScopeMatches at leftMatches rightMatches
  unfold regionsOverlap
  split_ifs at leftMatches with leftGlobal leftCommercial leftNamed
  · rw [if_pos (Or.inl leftGlobal)]
  · split_ifs at rightMatches with rightGlobal rightCommercial rightNamed
    · rw [if_pos (Or.inr rightGlobal)]
    · rw [if_neg (not_or.mpr ⟨leftGlobal, rightGlobal⟩), if_pos (leftCommercial.trans
        rightCommercial.symm)]
    · have same := of_decide_eq_true rightMatches
      have different : left ≠ right := fun same => rightCommercial (same ▸ leftCommercial)
      rw [if_neg (not_or.mpr ⟨leftGlobal, rightGlobal⟩), if_neg different,
        if_pos ⟨leftCommercial, rightNamed⟩, ← same]
      exact leftMatches
  · split_ifs at rightMatches with rightGlobal rightCommercial rightNamed
    · rw [if_pos (Or.inr rightGlobal)]
    · have same := of_decide_eq_true leftMatches
      have different : left ≠ right := fun same => leftCommercial (same.trans rightCommercial)
      rw [if_neg (not_or.mpr ⟨leftGlobal, rightGlobal⟩), if_neg different,
        if_neg fun both => leftCommercial both.1, if_pos ⟨rightCommercial, leftNamed⟩, ← same]
      exact rightMatches
    · have leftText := scope_of_region leftNamed (of_decide_eq_true leftMatches)
      have rightText := scope_of_region rightNamed (of_decide_eq_true rightMatches)
      have same : left = right := String.toList_injective (leftText.trans rightText.symm)
      rw [if_neg (not_or.mpr ⟨leftGlobal, rightGlobal⟩), if_pos same]

variable {left right : CloudWatchPricingRule}

/-- Validities that hold at one time before the end of the calendar meet. -/
theorem timeOverlap_of_effective {occurredAt : Instant}
    (leftEffective : effective left occurredAt = true)
    (rightEffective : effective right occurredAt = true) (inCalendar : occurredAt < datetimeMax) :
    timeOverlap left right = true := by
  obtain ⟨leftFrom, leftUntil⟩ := of_decide_eq_true leftEffective
  obtain ⟨rightFrom, rightUntil⟩ := of_decide_eq_true rightEffective
  have before {stop : Option Instant} (ends : ∀ end_ ∈ stop, occurredAt < end_) :
      occurredAt < stop.getD datetimeMax := by
    cases stop with
    | none => exact inCalendar
    | some end_ => exact ends end_ rfl
  exact decide_eq_true
    ⟨leftFrom.trans_lt (before rightUntil), rightFrom.trans_lt (before leftUntil)⟩

/-- Tiers that hold one position meet. -/
theorem tierOverlap_of_contains {position : ℚ} (leftHolds : tierContains left position = true)
    (rightHolds : tierContains right position = true) : tierOverlap left right = true := by
  obtain ⟨leftFrom, leftTo⟩ := of_decide_eq_true leftHolds
  obtain ⟨rightFrom, rightTo⟩ := of_decide_eq_true rightHolds
  exact decide_eq_true ⟨fun stop ends => leftFrom.trans_lt (rightTo stop ends),
    fun stop ends => rightFrom.trans_lt (leftTo stop ends)⟩

/-- Accepted rules are pairwise unambiguous. -/
theorem pairwise_of_accepted {rules : List CloudWatchPricingRule}
    (accepted : validateNoAmbiguousRules rules = .ok ()) :
    rules.Pairwise fun left right => ambiguous left right = false := by
  induction rules with
  | nil => exact List.Pairwise.nil
  | cons left rest inductionHypothesis =>
    rw [validateNoAmbiguousRules] at accepted
    cases found : rest.find? (ambiguous left) with
    | some right =>
      rw [found] at accepted
      cases accepted
    | none =>
      rw [found] at accepted
      refine List.pairwise_cons.mpr ⟨fun right member => ?_, inductionHypothesis accepted⟩
      exact Bool.not_eq_true _ ▸ List.find?_eq_none.mp found right member

/-- A rule prices an event of the operation at a position of its quantity. -/
def PricesAt (operation dimension region : String) (occurredAt : Instant) (position : ℚ)
    (rule : CloudWatchPricingRule) : Prop :=
  rule.operation = operation ∧ rule.pricingDimension = dimension ∧
    regionScopeMatches rule.regionScope region = true ∧ effective rule occurredAt = true ∧
    tierContains rule position = true

/-- Two rules that price one event at one position are ambiguous. -/
theorem ambiguous_of_priced {operation dimension region : String} {occurredAt : Instant}
    {position : ℚ} (inCalendar : occurredAt < datetimeMax)
    (leftPrices : PricesAt operation dimension region occurredAt position left)
    (rightPrices : PricesAt operation dimension region occurredAt position right) :
    ambiguous left right = true := by
  obtain ⟨leftOperation, leftDimension, leftRegion, leftTime, leftTier⟩ := leftPrices
  obtain ⟨rightOperation, rightDimension, rightRegion, rightTime, rightTier⟩ := rightPrices
  exact decide_eq_true ⟨leftOperation.trans rightOperation.symm,
    leftDimension.trans rightDimension.symm, regionsOverlap_of_matches leftRegion rightRegion,
    timeOverlap_of_effective leftTime rightTime inCalendar,
    tierOverlap_of_contains leftTier rightTier⟩

end Overlaps

section Resolution

variable [ValueText] {rules : List CloudWatchPricingRule}

/-- Accepted rules are never ambiguous to the resolver: it finds the one rule that prices an
event at a position, or there is none. -/
theorem resolve_accepted (accepted : validateNoAmbiguousRules rules = .ok ())
    (operation dimension region : String) {occurredAt : Instant}
    (inCalendar : occurredAt < datetimeMax) (position : ℚ) :
    (∃ rule ∈ rules, resolve rules operation dimension region occurredAt position = .ok rule ∧
        PricesAt operation dimension region occurredAt position rule ∧
        ∀ other ∈ rules, PricesAt operation dimension region occurredAt position other →
          other = rule) ∨
      (∃ message, resolve rules operation dimension region occurredAt position =
          .error (.notFound message)) ∧
        ∀ rule ∈ rules, ¬PricesAt operation dimension region occurredAt position rule := by
  have found (rule : CloudWatchPricingRule) :
      rule ∈ (matchingRules rules operation dimension region occurredAt).filter
          (tierContains · position) ↔
        rule ∈ rules ∧ PricesAt operation dimension region occurredAt position rule := by
    simp only [matchingRules, List.mem_filter, decide_eq_true_eq, PricesAt, and_assoc]
  have distinct := ((pairwise_of_accepted accepted).filter
    (fun rule : CloudWatchPricingRule => rule.operation = operation ∧
      rule.pricingDimension = dimension ∧ regionScopeMatches rule.regionScope region ∧
      effective rule occurredAt)).filter (tierContains · position)
  change ((matchingRules rules operation dimension region occurredAt).filter
    (tierContains · position)).Pairwise _ at distinct
  unfold resolve
  cases matched : (matchingRules rules operation dimension region occurredAt).filter
      (tierContains · position) with
  | nil =>
    refine Or.inr ⟨⟨_, rfl⟩, fun rule member prices => ?_⟩
    have listed := (found rule).mpr ⟨member, prices⟩
    rw [matched] at listed
    cases listed
  | cons rule rest =>
    rw [matched] at distinct found
    cases rest with
    | nil =>
      obtain ⟨member, prices⟩ := (found rule).mp (List.mem_singleton.mpr rfl)
      refine Or.inl ⟨rule, member, rfl, prices, fun other otherMember otherPrices => ?_⟩
      exact List.mem_singleton.mp ((found other).mpr ⟨otherMember, otherPrices⟩)
    | cons other rest =>
      have clear := (List.pairwise_cons.mp distinct).1 other (List.mem_cons_self ..)
      have first := ((found rule).mp (List.mem_cons_self ..)).2
      have second := ((found other).mp (List.mem_cons_of_mem _ (List.mem_cons_self ..))).2
      have both := ambiguous_of_priced inCalendar first second
      rw [both] at clear
      cases clear

end Resolution

/-- The price of a thousand requests, before and from the start of 2025. -/
def requestRule (id regionScope : String) (effectiveFrom : Instant)
    (effectiveUntil : Option Instant) (price : ℚ) : CloudWatchPricingRule where
  id := id
  operation := "GetMetricStatistics"
  pricingDimension := "API_REQUEST"
  regionScope := regionScope
  unit := "Requests"
  unitQuantity := 1000
  price := price
  currency := "USD"
  effectiveFrom := effectiveFrom
  effectiveUntil := effectiveUntil
  tierFrom := 0
  tierTo := none
  tierScope := "NONE"
  source := "AWS Price List"
  sourceReference := "SKU"
  pricingVerifiedAt := 0
  enabled := true
  unitQuantityPositive := by norm_num
  tierInterval := by simp

def yearRules : List CloudWatchPricingRule :=
  [requestRule "before" "AWS_COMMERCIAL" 0 (some 1735689600000000) (1 / 100),
    requestRule "after" "REGION:sa-east-1" 1735689600000000 none (1 / 50)]

/-- The first instant of 2025 in a region of the cloud, priced by the second rule. -/
theorem resolve_accepted_year :
    (∃ rule ∈ yearRules, @resolve plainText yearRules "GetMetricStatistics" "API_REQUEST"
        "sa-east-1" 1735689600000000 0 = .ok rule ∧
        PricesAt "GetMetricStatistics" "API_REQUEST" "sa-east-1" 1735689600000000 0 rule ∧
        ∀ other ∈ yearRules, PricesAt "GetMetricStatistics" "API_REQUEST" "sa-east-1"
          1735689600000000 0 other → other = rule) ∨
      (∃ message, @resolve plainText yearRules "GetMetricStatistics" "API_REQUEST" "sa-east-1"
          1735689600000000 0 = .error (.notFound message)) ∧
        ∀ rule ∈ yearRules, ¬PricesAt "GetMetricStatistics" "API_REQUEST" "sa-east-1"
          1735689600000000 0 rule :=
  @resolve_accepted plainText yearRules (by rfl) "GetMetricStatistics" "API_REQUEST" "sa-east-1"
    1735689600000000 (by decide) 0

section Versions

variable {rules : List CloudWatchPricingRule}

/-- A rule of an operation that is priced at all. -/
def known (rule : CloudWatchPricingRule) : Bool :=
  (cloudwatchPricingDimensions.lookup rule.operation).isSome

theorem rulesByVersion_eq (rules : List CloudWatchPricingRule) :
    rulesByVersion rules =
      accumulate versionKey (fun _ => []) (fun members rule => members ++ [rule])
        (rules.filter known) := by
  have loop (entries : List (VersionKey × List CloudWatchPricingRule)) :
      rules.foldl addToVersion entries =
        (rules.filter known).foldl
          (addRow versionKey (fun _ => []) fun members rule => members ++ [rule]) entries := by
    induction rules generalizing entries with
    | nil => rfl
    | cons rule rest inductionHypothesis =>
      by_cases priced : known rule = true
      · have added : addToVersion entries rule =
            addRow versionKey (fun _ => []) (fun members rule => members ++ [rule]) entries rule :=
          if_pos priced
        rw [List.filter_cons_of_pos priced, List.foldl_cons, List.foldl_cons, inductionHypothesis,
          added]
      · have passed : addToVersion entries rule = entries := if_neg priced
        rw [List.filter_cons_of_neg priced, List.foldl_cons, inductionHypothesis, passed]
  exact loop []

/-- Rules put one behind the other are the list of them. -/
theorem folded_members (members : List CloudWatchPricingRule) :
    folded (fun _ => []) (fun listed rule => listed ++ [rule]) members =
      if members = [] then none else some members := by
  have loop (rest listed : List CloudWatchPricingRule) :
      rest.foldl (fun listed rule => listed ++ [rule]) listed = listed ++ rest := by
    induction rest generalizing listed with
    | nil => exact (List.append_nil listed).symm
    | cons rule rest inductionHypothesis =>
      rw [List.foldl_cons, inductionHypothesis, List.append_assoc, List.singleton_append]
  cases members with
  | nil => rfl
  | cons first rest => exact congrArg some (loop (first :: rest) [])

/-- A version holds the rules of its key. -/
theorem mem_rulesByVersion {version : VersionKey × List CloudWatchPricingRule} :
    version ∈ rulesByVersion rules ↔ version.2 ≠ [] ∧
      version.2 = (rules.filter known).filter fun rule => versionKey rule = version.1 := by
  rw [rulesByVersion_eq, mem_accumulate, folded_members]
  split_ifs with empty
  · simp only [false_iff, not_and, empty]
    exact fun present same => present same
  · rw [Option.some.injEq]
    exact ⟨fun same => ⟨same ▸ empty, same.symm⟩, fun both => both.2.symm⟩

theorem rulesByVersion_nodup : ((rulesByVersion rules).map Prod.fst).Nodup := by
  rw [rulesByVersion_eq]
  exact accumulate_nodup _ _ _ _

/-- The version charges the event: it has the dimension of its operation and selects the
event. -/
def charges (version : VersionKey) (event : CloudWatchUsageEvent) : Bool :=
  (cloudwatchPricingDimensions.lookup version.operation).any
    (fun dimension => dimension.name = version.pricingDimension) && selects version event

/-- What is covered is charged by some version. -/
theorem covered_iff {event : CloudWatchUsageEvent} : coverageClause rules event = true ↔
    ∃ version ∈ rulesByVersion rules, charges version.1 event = true := by
  rw [coverageClause, List.any_eq_true]
  constructor
  · rintro ⟨rule, member, covers⟩
    have priced : known rule = true := by
      cases found : cloudwatchPricingDimensions.lookup rule.operation with
      | none => simp [found] at covers
      | some dimension => simp [known, found]
    have listed : rule ∈ (rules.filter known).filter fun other =>
        versionKey other = versionKey rule :=
      List.mem_filter.mpr ⟨List.mem_filter.mpr ⟨member, priced⟩, decide_eq_true rfl⟩
    exact ⟨⟨versionKey rule, _⟩, mem_rulesByVersion.mpr ⟨List.ne_nil_of_mem listed, rfl⟩, covers⟩
  · rintro ⟨version, member, charged⟩
    obtain ⟨present, members⟩ := mem_rulesByVersion.mp member
    obtain ⟨rule, listed⟩ := List.exists_mem_of_ne_nil _ present
    rw [members] at listed
    obtain ⟨kept, same⟩ := List.mem_filter.mp listed
    have key := of_decide_eq_true same
    refine ⟨rule, (List.mem_filter.mp kept).1, ?_⟩
    rw [charges, ← key] at charged
    exact charged

/-- A region that the database and the validation read alike: a region of the cloud, or
the unknown one. -/
def CloudRegion (region : String) : Prop :=
  regionClause "AWS_COMMERCIAL" region = isAwsCommercialRegion region

theorem regionClause_eq {region : String} (ofCloud : CloudRegion region) (regionScope : String) :
    regionClause regionScope region = regionScopeMatches regionScope region := by
  by_cases commercial : regionScope = "AWS_COMMERCIAL"
  · subst commercial
    exact ofCloud
  · unfold regionClause regionScopeMatches
    rw [if_neg commercial, if_neg commercial]

end Versions

end FinopsAnalytics.CloudWatchCostEngine
