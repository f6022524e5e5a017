import FinopsAnalytics.CloudWatchUniqueness
import FinopsAnalytics.StableSelections

/-!
# No usage is priced twice

A version is charged only from the start of its tiers on, so two versions that charge one
event have two rules that price it at its start, which the validation refuses. Every row of
an aggregation with an event has usage. Therefore the priced events of a calculation are
the covered ones, each taken by exactly one version.
-/

namespace FinopsAnalytics.CloudWatchCostEngine

open CivilCalendar Dictionaries DistinctKeys Fallible KeyedAccumulations UniqueTables
  CloudWatchPricing

section Charges

variable [ValueText] {rules : List CloudWatchPricingRule}

omit [ValueText] in
/-- In a loop that ends every row was taken. -/
theorem taken_of_mem {ε σ α : Type} {step : σ → α → Except ε σ} {rows : List α} {start last : σ}
    (done : rows.foldlM step start = .ok last) {row : α} (member : row ∈ rows) :
    ∃ before after, step before row = .ok after :=
  foldlM_done [] (fun earlier _ => ∀ row ∈ earlier, ∃ before after, step before row = .ok after)
    (fun _ _ _ state next taken stepped other listed => by
      rcases List.mem_append.mp listed with earlier | last
      · exact taken other earlier
      · rw [List.mem_singleton.mp last]
        exact ⟨state, next, stepped⟩) (fun _ none => absurd none List.not_mem_nil) done row member

/-- A positive quantity is priced from the start of the tiers. -/
theorem firstTier_of_priced {round : ℚ → ℚ} {quantity cost : ℚ}
    {components : List CostComponent} {rules : List SuppliedRule} (positive : 0 < quantity)
    (priced : calculateTieredCost round quantity rules = .ok (cost, components)) :
    ∃ rule ∈ rules, rule.tierFrom = 0 := by
  unfold calculateTieredCost at priced
  rw [if_neg (not_lt.mpr positive.le)] at priced
  by_cases empty : rules.isEmpty = true
  · rw [if_pos empty] at priced
    cases priced
  rw [if_neg empty] at priced
  dsimp only [pure_bind] at priced
  split_ifs at priced with mixed
  · cases priced
  simp only [bind_eq_ok] at priced
  obtain ⟨progress, taken, -⟩ := priced
  cases sorted : sortByKey SuppliedRule.tierFrom rules with
  | nil =>
    have member := (sortByKey_perm SuppliedRule.tierFrom rules).length_eq
    rw [sorted] at member
    exact absurd (List.isEmpty_iff_length_eq_zero.mpr member.symm) empty
  | cons rule rest =>
    have listed : rule ∈ rules := by
      rw [← mem_sortByKey SuppliedRule.tierFrom, sorted]
      exact List.mem_cons_self ..
    refine ⟨rule, listed, ?_⟩
    rw [sorted] at taken
    by_contra late
    simp [takeTiers, checkStart, late] at taken
    cases taken

variable [SessionCalendar]

omit [ValueText] in
/-- The rows of an aggregation share out the events. -/
theorem usageGroups_share (groupBy : Option CloudWatchCostGroup)
    (granularity : Option CloudWatchCostGranularity) (events : List CloudWatchUsageEvent) :
    ((usageGroups groupBy granularity events).flatMap UsageGroup.members).Perm events := by
  unfold usageGroups
  split_ifs with whole
  · simp
  · have covered : ∀ event ∈ events, ∀ key, some (groupKey groupBy granularity event) = some key →
        key ∈ (events.map (groupKey groupBy granularity)).eraseDups := by
      intro event member key named
      rw [← Option.some.inj named]
      exact List.mem_eraseDups.mpr (List.mem_map_of_mem member)
    have shared := StableSelections.flatMap_filed (nodup_eraseDups _) covered
    simpa [List.flatMap_map] using shared

/-- Events that the recorder stored: it counts at least one request for a call. -/
def RequestsCounted (events : List CloudWatchUsageEvent) : Prop :=
  ∀ event ∈ events, 0 < event.requestCount

/-- `_retry_observation`: the attempts that the response reports, or the one that is
certain. -/
def retryObservation (retryAttempts : Option ℤ) (success : Bool) : ℤ × Option ℤ × Bool :=
  match retryAttempts with
  | some raw =>
    if 0 ≤ raw then (raw + 1, some raw, true)
    else if success then (1, some 0, true) else (1, none, false)
  | none => if success then (1, some 0, true) else (1, none, false)

omit [ValueText] [SessionCalendar] in
theorem retryObservation_pos (retryAttempts : Option ℤ) (success : Bool) :
    0 < (retryObservation retryAttempts success).1 := by
  unfold retryObservation
  split
  · split_ifs
    · dsimp only
      omega
    · exact Int.one_pos
    · exact Int.one_pos
  · split_ifs
    · exact Int.one_pos
    · exact Int.one_pos

omit [ValueText] [SessionCalendar] in
/-- A row with an event has usage. -/
theorem usageQuantity_pos {group : UsageGroup} (counted : RequestsCounted group.members)
    {event : CloudWatchUsageEvent} (member : event ∈ group.members) (field : UsageField) :
    0 < group.usageQuantity field := by
  cases field
  have own : event.requestCount ≤ (group.members.map (UsageField.column .requestCount)).sum :=
    List.le_sum_of_mem (List.mem_map_of_mem member)
  exact (counted event member).trans_le own

/-- Events taken into a state. -/
structure Tallied (start state : CostState) (taken : List CloudWatchUsageEvent) : Prop where
  priced : state.pricedEvents = start.pricedEvents + taken.length
  inexact : state.inexactRequestEvents =
    start.inexactRequestEvents + taken.countP fun event => !event.requestCountIsExact
  failed : state.failedEvents = start.failedEvents + taken.countP fun event => !event.success

omit [ValueText] [SessionCalendar] in
theorem Tallied.refl (state : CostState) : Tallied state state [] := ⟨rfl, rfl, rfl⟩

omit [ValueText] [SessionCalendar] in
theorem Tallied.trans {start middle state : CostState} {first second : List CloudWatchUsageEvent}
    (before : Tallied start middle first) (after : Tallied middle state second) :
    Tallied start state (first ++ second) where
  priced := by rw [after.priced, before.priced, List.length_append, Nat.add_assoc]
  inexact := by rw [after.inexact, before.inexact, List.countP_append, Nat.add_assoc]
  failed := by rw [after.failed, before.failed, List.countP_append, Nat.add_assoc]

omit [ValueText] [SessionCalendar] in
theorem Tallied.perm {start state : CostState} {taken others : List CloudWatchUsageEvent}
    (tallied : Tallied start state taken) (arranged : taken.Perm others) :
    Tallied start state others where
  priced := by rw [tallied.priced, arranged.length_eq]
  inexact := by rw [tallied.inexact, arranged.countP_eq]
  failed := by rw [tallied.failed, arranged.countP_eq]

variable {groupBy : Option CloudWatchCostGroup} {granularity : Option CloudWatchCostGranularity}

omit [SessionCalendar] in
/-- A row is passed over only when it has no events. -/
theorem takeGroup_tallied {field : UsageField} {currency : String} {state next : CostState}
    {group : UsageGroup} (counted : RequestsCounted group.members)
    (taken : takeGroup groupBy granularity field currency rules state group = .ok next) :
    Tallied state next group.members := by
  unfold takeGroup at taken
  split_ifs at taken with unused
  · cases taken
    have none : group.members = [] := by
      refine List.eq_nil_iff_forall_not_mem.mpr fun event member => ?_
      exact (usageQuantity_pos counted member field).ne' unused
    rw [none]
    exact Tallied.refl state
  · simp only [bind_eq_ok] at taken
    obtain ⟨priced, -, last⟩ := taken
    cases last
    exact ⟨rfl, rfl, rfl⟩

/-- One version takes the events that it charges. -/
theorem takeVersion_tallied {events : List CloudWatchUsageEvent} {state next : CostState}
    {version : VersionKey × List CloudWatchPricingRule} (counted : RequestsCounted events)
    (taken : takeVersion groupBy granularity events state version = .ok next) :
    Tallied state next (events.filter (charges version.1)) := by
  obtain ⟨key, members⟩ := version
  unfold takeVersion at taken
  dsimp only at taken
  split_ifs at taken with mixed
  · cases taken
  have passed (uncharged : ∀ event, charges key event = false) (same : next = state) :
      Tallied state next (events.filter (charges key)) := by
    rw [same, List.filter_eq_nil_iff.mpr fun event _ => by rw [uncharged event]; simp]
    exact Tallied.refl state
  cases found : cloudwatchPricingDimensions.lookup key.operation with
  | none =>
    rw [found] at taken
    cases taken
    exact passed (fun event => by simp [charges, found]) rfl
  | some dimension =>
    rw [found] at taken
    dsimp only [pure_bind] at taken
    by_cases other : dimension.name = key.pricingDimension
    · rw [if_neg (not_not.mpr other)] at taken
      have selected : events.filter (charges key) = events.filter (selects key) :=
        List.filter_congr fun event _ => by simp [charges, found, other]
      have among : ∀ group ∈ usageGroups groupBy granularity (events.filter (selects key)),
          RequestsCounted group.members := by
        intro group listed event member
        have shared := (usageGroups_share groupBy granularity
          (events.filter (selects key))).mem_iff.mp (List.mem_flatMap.mpr ⟨group, listed, member⟩)
        exact counted event (List.mem_of_mem_filter shared)
      rw [selected]
      refine Tallied.perm ?_ (usageGroups_share groupBy granularity (events.filter (selects key)))
      exact foldlM_done [] (fun earlier now =>
          Tallied state now (earlier.flatMap UsageGroup.members))
        (fun group listed earlier now after tallied stepped => by
          rw [List.flatMap_append, List.flatMap_singleton]
          exact tallied.trans (takeGroup_tallied (among group listed) stepped))
        (Tallied.refl state) taken
    · rw [if_pos other] at taken
      cases taken
      exact passed (fun event => by simp [charges, found, other]) rfl

/-- All versions together take what each of them charges. -/
theorem takeVersions_tallied {events : List CloudWatchUsageEvent} {start last : CostState}
    {versions : List (VersionKey × List CloudWatchPricingRule)} (counted : RequestsCounted events)
    (done : versions.foldlM (takeVersion groupBy granularity events) start = .ok last) :
    Tallied start last
      ((versions.map Prod.fst).flatMap fun version => events.filter (charges version)) := by
  rw [List.flatMap_map]
  exact foldlM_done [] (fun earlier now =>
      Tallied start now (earlier.flatMap fun version => events.filter (charges version.1)))
    (fun version _ earlier now after tallied stepped => by
      rw [List.flatMap_append, List.flatMap_singleton]
      exact tallied.trans (takeVersion_tallied counted stepped))
    (Tallied.refl start) done

end Charges

section Once

variable [ValueText] [SessionCalendar] {rules : List CloudWatchPricingRule}

variable {groupBy : Option CloudWatchCostGroup} {granularity : Option CloudWatchCostGranularity}
  {events : List CloudWatchUsageEvent}

/-- A version that charges an event of a completed calculation has a first tier. -/
theorem firstTier_of_charged {start last : CostState}
    {versions : List (VersionKey × List CloudWatchPricingRule)} (counted : RequestsCounted events)
    (done : versions.foldlM (takeVersion groupBy granularity events) start = .ok last)
    {version : VersionKey × List CloudWatchPricingRule} (listed : version ∈ versions)
    {event : CloudWatchUsageEvent} (member : event ∈ events)
    (charged : charges version.1 event = true) : ∃ rule ∈ version.2, rule.tierFrom = 0 := by
  obtain ⟨before, after, taken⟩ := taken_of_mem done listed
  obtain ⟨key, members⟩ := version
  obtain ⟨named, selected⟩ := Bool.and_eq_true_iff.mp charged
  obtain ⟨dimension, found, same⟩ := (Option.any_eq_true _ _).mp named
  unfold takeVersion at taken
  dsimp only at taken
  split_ifs at taken with mixed
  · cases taken
  rw [found] at taken
  dsimp only [pure_bind] at taken
  rw [if_neg (not_not.mpr (of_decide_eq_true same))] at taken
  have shared := usageGroups_share groupBy granularity (events.filter (selects key))
  have among : event ∈ events.filter (selects key) := List.mem_filter.mpr ⟨member, selected⟩
  obtain ⟨group, grouped, inGroup⟩ := List.mem_flatMap.mp (shared.mem_iff.mpr among)
  have groupCounted : RequestsCounted group.members := by
    intro other inside
    have kept := shared.mem_iff.mp (List.mem_flatMap.mpr ⟨group, grouped, inside⟩)
    exact counted other (List.mem_of_mem_filter kept)
  have positive := usageQuantity_pos groupCounted inGroup dimension.usageField
  obtain ⟨earlier, later, stepped⟩ := taken_of_mem taken grouped
  unfold takeGroup at stepped
  rw [if_neg positive.ne'] at stepped
  simp only [bind_eq_ok] at stepped
  obtain ⟨⟨cost, components⟩, priced, -⟩ := stepped
  obtain ⟨supplied, listed, first⟩ := firstTier_of_priced (Nat.cast_pos.mpr positive) priced
  obtain ⟨rule, inVersion, rfl⟩ := List.mem_map.mp listed
  exact ⟨rule, (mem_sortByKey ..).mp inVersion, first⟩

/-- Accepted rules of two versions that charge one event are of one version. -/
theorem charged_once {start last : CostState} (accepted : validateNoAmbiguousRules rules = .ok ())
    (counted : RequestsCounted events)
    (done : (rulesByVersion rules).foldlM (takeVersion groupBy granularity events) start = .ok last)
    {event : CloudWatchUsageEvent} (member : event ∈ events) (ofCloud : CloudRegion event.region)
    (inCalendar : event.occurredAt < datetimeMax)
    {first second : VersionKey × List CloudWatchPricingRule}
    (firstListed : first ∈ rulesByVersion rules) (secondListed : second ∈ rulesByVersion rules)
    (firstCharges : charges first.1 event = true) (secondCharges : charges second.1 event = true) :
    first = second := by
  have starts {version : VersionKey × List CloudWatchPricingRule}
      (listed : version ∈ rulesByVersion rules) (charged : charges version.1 event = true) :
      ∃ rule ∈ rules, versionKey rule = version.1 ∧ ∃ dimension,
        cloudwatchPricingDimensions.lookup event.operation = some dimension ∧
          PricesAt event.operation dimension.name event.region event.occurredAt 0 rule := by
    obtain ⟨rule, inVersion, atZero⟩ := firstTier_of_charged counted done listed member charged
    rw [(mem_rulesByVersion.mp listed).2] at inVersion
    obtain ⟨kept, same⟩ := List.mem_filter.mp inVersion
    have key := of_decide_eq_true same
    rw [← key] at charged
    obtain ⟨named, selected⟩ := Bool.and_eq_true_iff.mp charged
    obtain ⟨dimension, found, sameName⟩ := (Option.any_eq_true _ _).mp named
    obtain ⟨sameOperation, began, sameRegion, ends⟩ := of_decide_eq_true selected
    rw [regionClause_eq ofCloud] at sameRegion
    have holdsZero : tierContains rule 0 = true := by
      refine decide_eq_true ⟨atZero.le, fun stop stops => ?_⟩
      exact atZero.symm.le.trans_lt (rule.tierInterval stop stops)
    refine ⟨rule, (List.mem_filter.mp kept).1, key, dimension, ?_, ?_⟩
    · rw [sameOperation]
      exact found
    · exact ⟨sameOperation.symm, (of_decide_eq_true sameName).symm, sameRegion,
        decide_eq_true ⟨began, ends⟩, holdsZero⟩
  obtain ⟨left, leftRule, leftKey, leftDimension, leftFound, leftPrices⟩ :=
    starts firstListed firstCharges
  obtain ⟨right, rightRule, rightKey, rightDimension, rightFound, rightPrices⟩ :=
    starts secondListed secondCharges
  obtain rfl : leftDimension = rightDimension := Option.some.inj (leftFound.symm.trans rightFound)
  -- the relation of the validation is directed, what it refuses is not
  have exclusive : rules.Pairwise fun left right =>
      ¬(PricesAt event.operation leftDimension.name event.region event.occurredAt 0 left ∧
        PricesAt event.operation leftDimension.name event.region event.occurredAt 0 right) := by
    refine (pairwise_of_accepted accepted).imp fun clear both => ?_
    rw [ambiguous_of_priced inCalendar both.1 both.2] at clear
    cases clear
  have keys : first.1 = second.1 := by
    by_contra different
    have apart : left ≠ right := fun same => different (leftKey ▸ rightKey ▸ same ▸ rfl)
    have symmetric : Std.Symm fun left right =>
        ¬(PricesAt event.operation leftDimension.name event.region event.occurredAt 0 left ∧
          PricesAt event.operation leftDimension.name event.region event.occurredAt 0 right) :=
      ⟨fun _ _ refused both => refused both.symm⟩
    exact exclusive.forall leftRule rightRule apart ⟨leftPrices, rightPrices⟩
  have members : first.2 = second.2 := by
    rw [(mem_rulesByVersion.mp firstListed).2, (mem_rulesByVersion.mp secondListed).2, keys]
  exact Prod.ext keys members

omit [ValueText] [SessionCalendar] in
/-- When at most one version charges an event, the versions share out the covered events. -/
theorem charges_share (single : ∀ event ∈ events, ∀ first ∈ rulesByVersion rules,
      ∀ second ∈ rulesByVersion rules, charges first.1 event = true →
        charges second.1 event = true → first = second) :
    (((rulesByVersion rules).map Prod.fst).flatMap fun version =>
      events.filter (charges version)).Perm (events.filter (coverageClause rules)) := by
  let identifier (event : CloudWatchUsageEvent) : Option VersionKey :=
    ((rulesByVersion rules).map Prod.fst).find? (charges · event)
  have charging {event : CloudWatchUsageEvent} {key : VersionKey}
      (found : identifier event = some key) : charges key event = true :=
    List.find?_some (p := (charges · event)) found
  have identified {event : CloudWatchUsageEvent} (member : event ∈ events) {key : VersionKey}
      (listed : key ∈ (rulesByVersion rules).map Prod.fst) :
      identifier event = some key ↔ charges key event = true := by
    refine ⟨charging, fun charged => ?_⟩
    cases found : identifier event with
    | none => exact absurd charged (List.find?_eq_none.mp found key listed)
    | some other =>
      obtain ⟨version, versionListed, rfl⟩ := List.mem_map.mp listed
      obtain ⟨otherVersion, otherListed, rfl⟩ := List.mem_map.mp (List.mem_of_find?_eq_some found)
      have same := single event member _ otherListed _ versionListed (charging found) charged
      rw [same]
  have covered (event : CloudWatchUsageEvent) :
      coverageClause rules event = (identifier event).isSome := by
    rw [Bool.eq_iff_iff, covered_iff, List.find?_isSome]
    simp only [List.mem_map, exists_exists_and_eq_and]
  -- only the covered events have an identifier
  have shared : ((((rulesByVersion rules).map Prod.fst).flatMap fun key =>
        (events.filter (coverageClause rules)).filter fun event => identifier event = some key) ++
      (events.filter (coverageClause rules)).filter fun event => (identifier event).isNone).Perm
        (events.filter (coverageClause rules)) :=
    StableSelections.flatMap_filed rulesByVersion_nodup fun event _ key found =>
      List.mem_of_find?_eq_some found
  have none : (events.filter (coverageClause rules)).filter
      (fun event => (identifier event).isNone) = [] := by
    refine List.filter_eq_nil_iff.mpr fun event member missing => ?_
    have named := (covered event).symm.trans (List.mem_filter.mp member).2
    rw [Option.isNone_iff_eq_none.mp missing] at named
    cases named
  rw [none, List.append_nil] at shared
  refine (List.Perm.of_eq ?_).trans shared
  refine List.flatMap_congr fun key listed => ?_
  rw [List.filter_filter]
  refine List.filter_congr fun event member => ?_
  rw [Bool.eq_iff_iff, Bool.and_eq_true, decide_eq_true_eq, identified member listed, covered]
  refine ⟨fun charged => ⟨charged, ?_⟩, And.left⟩
  rw [(identified member listed).mpr charged]
  rfl

/-- What a completed calculation went through. -/
theorem calculate_eq_ok {table : UsageTable} {filters : CloudWatchUsageFilters}
    {cost : CloudWatchCost} (done : calculate rules table filters groupBy granularity = .ok cost) :
    validateNoAmbiguousRules rules = .ok () ∧ ∃ state,
      (rulesByVersion rules).foldlM
        (takeVersion groupBy granularity (table.rows.filter (filtered filters))) ⟨[], 0, 0, 0⟩ =
          .ok state ∧
      cost.pricedEvents = state.pricedEvents ∧
      cost.inexactRequestEvents = state.inexactRequestEvents ∧
      cost.failedEvents = state.failedEvents ∧
      cost.unpricedEvents = ((unpricedGroups rules (table.rows.filter (filtered filters))).map
        fun group => group.2.length).sum := by
  unfold calculate at done
  simp only [bind_eq_ok] at done
  obtain ⟨_, accepted, state, taken, last⟩ := done
  cases last
  refine ⟨accepted, state, taken, rfl, rfl, rfl, ?_⟩
  rw [List.map_map]
  rfl

omit [ValueText] [SessionCalendar] in
/-- The groups of the unpriced usage share out what no version charges. -/
theorem unpricedGroups_length (events : List CloudWatchUsageEvent) :
    ((unpricedGroups rules events).map fun group => group.2.length).sum =
      events.countP fun event => !coverageClause rules event := by
  unfold unpricedGroups
  dsimp only
  have covered : ∀ event ∈ events.filter fun event => !coverageClause rules event, ∀ key,
      some (event.operation, event.region) = some key →
        key ∈ ((events.filter fun event => !coverageClause rules event).map
          fun event => (event.operation, event.region)).eraseDups := by
    intro event member key named
    rw [← Option.some.inj named]
    exact List.mem_eraseDups.mpr (List.mem_map.mpr ⟨event, member, rfl⟩)
  have shared := (StableSelections.flatMap_filed (nodup_eraseDups _) covered).length_eq
  simp only [Option.isNone_some, List.filter_false, List.append_nil, List.length_flatMap,
    Option.some.injEq] at shared
  rw [List.countP_eq_length_filter, List.map_map]
  exact shared

/-- Every event is priced once or reported as unpriced. -/
structure CountedOnce (rules : List CloudWatchPricingRule) (events : List CloudWatchUsageEvent)
    (cost : CloudWatchCost) : Prop where
  single : ∀ event ∈ events, ∀ first ∈ rulesByVersion rules, ∀ second ∈ rulesByVersion rules,
    charges first.1 event = true → charges second.1 event = true → first = second
  priced : cost.pricedEvents = events.countP (coverageClause rules)
  unpriced : cost.unpricedEvents = events.countP fun event => !coverageClause rules event
  whole : cost.pricedEvents + cost.unpricedEvents = events.length
  inexact : cost.inexactRequestEvents =
    events.countP fun event => coverageClause rules event && !event.requestCountIsExact
  failed : cost.failedEvents =
    events.countP fun event => coverageClause rules event && !event.success

/-- A completed calculation counts every recorded event of a cloud region once, whatever
the grouping: as priced by the one version that charges it, or as unpriced. -/
theorem priced_once {table : UsageTable} {filters : CloudWatchUsageFilters}
    {groupBy : Option CloudWatchCostGroup} {granularity : Option CloudWatchCostGranularity}
    {cost : CloudWatchCost} (done : calculate rules table filters groupBy granularity = .ok cost)
    (counted : RequestsCounted (table.rows.filter (filtered filters)))
    (ofCloud : ∀ event ∈ table.rows.filter (filtered filters), CloudRegion event.region)
    (inCalendar : ∀ event ∈ table.rows.filter (filtered filters),
      event.occurredAt < datetimeMax) :
    CountedOnce rules (table.rows.filter (filtered filters)) cost := by
  obtain ⟨accepted, state, taken, priced, inexact, failed, unpriced⟩ := calculate_eq_ok done
  generalize table.rows.filter (filtered filters) = events at *
  have single : ∀ event ∈ events, ∀ first ∈ rulesByVersion rules,
      ∀ second ∈ rulesByVersion rules, charges first.1 event = true →
        charges second.1 event = true → first = second := by
    intro event member first firstListed second secondListed firstCharges secondCharges
    exact charged_once accepted counted taken member (ofCloud event member)
      (inCalendar event member) firstListed secondListed firstCharges secondCharges
  have tallied := (takeVersions_tallied counted taken).perm (charges_share single)
  have pricedCount : cost.pricedEvents = events.countP (coverageClause rules) := by
    rw [priced, tallied.priced, List.countP_eq_length_filter, Nat.zero_add]
  have unpricedCount : cost.unpricedEvents =
      events.countP fun event => !coverageClause rules event := by
    rw [unpriced, unpricedGroups_length]
  refine ⟨single, pricedCount, unpricedCount, ?_, ?_, ?_⟩
  · rw [pricedCount, unpricedCount, List.length_eq_countP_add_countP (coverageClause rules)]
    simp
  · rw [inexact, tallied.inexact, List.countP_filter, Nat.zero_add]
    exact List.countP_congr fun event _ => by rw [Bool.and_comm]
  · rw [failed, tallied.failed, List.countP_filter, Nat.zero_add]
    exact List.countP_congr fun event _ => by rw [Bool.and_comm]

end Once

/-- Three requests of a priced operation and one request that has no price. -/
def sampleUsage : UsageTable where
  rows := [⟨"early", 1704067200000000, some 1, "111", "sa-east-1", "GetMetricStatistics",
      some "ec2", none, some "run", 2, true, true⟩,
    ⟨"late", 1735689600000000, some 1, "111", "sa-east-1", "GetMetricStatistics",
      none, some "idle", some "run", 1, false, false⟩,
    ⟨"listing", 1735689600000000, some 1, "111", "unknown", "ListMetrics",
      none, none, none, 1, true, true⟩]
  distinctKeys := by decide
  distinctUnique := by decide

theorem priced_once_sample : ∃ cost,
    @calculate plainText utcSession yearRules sampleUsage noFilters (some .region) (some .daily) =
      .ok cost ∧ CountedOnce yearRules (sampleUsage.rows.filter (filtered noFilters)) cost := by
  have returned : (@calculate plainText utcSession yearRules sampleUsage noFilters (some .region)
      (some .daily)).toBool = true := by decide +kernel
  obtain ⟨cost, done⟩ := ok_of_toBool returned
  refine ⟨cost, done, ?_⟩
  apply @priced_once plainText utcSession yearRules sampleUsage noFilters _ _ cost done
  · unfold RequestsCounted
    decide
  · unfold CloudRegion
    decide +kernel
  · decide

end FinopsAnalytics.CloudWatchCostEngine
