import FinopsAnalytics.CloudWatchPricing
import FinopsAnalytics.Fallible
import FinopsAnalytics.TieredFunctions

/-!
# Tiered cost in exact arithmetic

The loop over the pricing tiers checks and adds at once, and ends as soon as the quantity
is covered. Here its arithmetic does not round. What the loop notices is a defect of the tiers up to
the first that reaches the quantity; where it notices none, it adds up the function that is
linear on them.
-/

namespace FinopsAnalytics.CloudWatchPricing

/-- The tier of a rule, at its price of one unit. -/
def SuppliedRule.tier (rule : SuppliedRule) : TieredFunctions.Tier ℚ :=
  ⟨rule.tierFrom, rule.tierTo, rule.price / rule.unitQuantity⟩

end FinopsAnalytics.CloudWatchPricing

namespace FinopsAnalytics.TieredCosts

open CloudWatchPricing DistinctKeys Fallible TieredFunctions

section Steps

variable {quantity : ℚ} {rule : SuppliedRule} {progress : TierProgress}

theorem tierQuantity_eq : tierQuantity id quantity rule = rule.tier.part quantity := by
  unfold tierQuantity Tier.part SuppliedRule.tier
  cases rule.tierTo <;> rfl

/-- The sum of the usage of the components. -/
def usageSum (components : List CostComponent) : ℚ :=
  (components.map CostComponent.usageQuantity).sum

/-- The sum of what the components cost at their own prices. -/
def costSum (components : List CostComponent) : ℚ :=
  (components.map fun component =>
    component.usageQuantity / component.unitQuantity * component.unitPrice).sum

/-- The component of the part of a quantity that lies in the tier of a rule. -/
def componentIn (quantity : ℚ) (rule : SuppliedRule) : Option CostComponent :=
  if 0 < rule.tier.part quantity then some (componentOf rule (rule.tier.part quantity)) else none

@[simp] theorem takeTier_previousUpper :
    (takeTier id quantity rule progress).previousUpper = rule.tierTo := rfl

/-- A tier adds its component, if it has one. -/
theorem takeTier_components : (takeTier id quantity rule progress).components =
    progress.components ++ (componentIn quantity rule).toList := by
  unfold takeTier componentIn
  rw [tierQuantity_eq]
  by_cases positive : 0 < rule.tier.part quantity
  · simp [positive]
  · simp [positive]

/-- A part of zero adds nothing, so that leaving it out makes no difference. -/
theorem takeTier_adds (nonempty : rule.tier.Nonempty) :
    (takeTier id quantity rule progress).covered = progress.covered + rule.tier.part quantity ∧
      (takeTier id quantity rule progress).total =
        progress.total + rule.tier.part quantity * rule.tier.rate := by
  unfold takeTier
  rw [tierQuantity_eq]
  by_cases positive : 0 < rule.tier.part quantity
  · simp only [if_pos positive]
    refine ⟨rfl, ?_⟩
    rw [componentCost, SuppliedRule.tier]
    simp only [id]
    ring
  · have zero : rule.tier.part quantity = 0 :=
      le_antisymm (not_lt.mp positive) (Tier.part_nonneg nonempty quantity)
    simp [zero]

/-- The component of a tier uses the part, and costs it at the rate of the tier. -/
theorem componentIn_sums (nonempty : rule.tier.Nonempty) :
    usageSum (componentIn quantity rule).toList = rule.tier.part quantity ∧
      costSum (componentIn quantity rule).toList = rule.tier.part quantity * rule.tier.rate := by
  unfold componentIn
  by_cases positive : 0 < rule.tier.part quantity
  · rw [if_pos positive]
    refine ⟨by simp [usageSum, componentOf], ?_⟩
    simp only [costSum, Option.toList_some, List.map_cons, List.map_nil, List.sum_singleton,
      componentOf]
    rw [SuppliedRule.tier]
    ring
  · have zero : rule.tier.part quantity = 0 :=
      le_antisymm (not_lt.mp positive) (Tier.part_nonneg nonempty quantity)
    simp [zero, usageSum, costSum]

theorem checkInterval_eq_ok : checkInterval rule = .ok ⟨⟩ ↔ rule.tier.Nonempty := by
  unfold checkInterval Tier.Nonempty SuppliedRule.tier
  cases rule.tierTo with
  | none => exact iff_of_true rfl fun upper ends => nomatch ends
  | some upper =>
    dsimp only
    by_cases empty : upper ≤ rule.tierFrom
    · rw [if_pos empty]
      refine iff_of_false throw_ne_ok fun nonempty => ?_
      exact absurd (nonempty upper rfl) (not_lt.mpr empty)
    · rw [if_neg empty]
      refine iff_of_true rfl fun other ends => ?_
      exact Option.some.inj ends ▸ not_le.mp empty

variable [ValueText] {expected : ℚ}

theorem checkStart_eq_ok (before : progress.previousUpper = some expected) :
    checkStart rule progress = .ok ⟨⟩ ↔ rule.tier.lower = expected := by
  unfold checkStart
  rw [before]
  dsimp only
  by_cases same : rule.tierFrom = expected
  · rw [if_neg (not_not.mpr same)]
    exact iff_of_true rfl same
  · rw [if_pos same]
    exact iff_of_false throw_ne_ok same

end Steps

section Runs

variable [ValueText] {quantity start : ℚ} {rules : List SuppliedRule} {progress taken : TierProgress}

/-- A tier that passes the checks ends the loop, or is followed by the others. -/
theorem takeTiers_cons {rule : SuppliedRule} (starts : checkStart rule progress = .ok ⟨⟩)
    (nonempty : checkInterval rule = .ok ⟨⟩) :
    takeTiers id quantity (rule :: rules) progress =
      if quantity ≤ (takeTier id quantity rule progress).covered then
        .ok (takeTier id quantity rule progress)
      else takeTiers id quantity rules (takeTier id quantity rule progress) := by
  rw [takeTiers, starts, nonempty, ok_bind, ok_bind]
  rfl

/-- The rules up to the first whose tier reaches the quantity. -/
def readRules (quantity : ℚ) : List SuppliedRule → List SuppliedRule
  | [] => []
  | rule :: rest =>
    if rule.tier.Reaches quantity then [rule] else rule :: readRules quantity rest

omit [ValueText] in
theorem readRules_tiers (quantity : ℚ) (rules : List SuppliedRule) :
    (readRules quantity rules).map SuppliedRule.tier =
      readUpTo quantity (rules.map SuppliedRule.tier) := by
  induction rules with
  | nil => rfl
  | cons rule rest inductionHypothesis =>
    rw [readRules, List.map_cons, readUpTo]
    split_ifs with reaches
    · rfl
    · rw [List.map_cons, inductionHypothesis]

/-- Where the tiers follow one another from what is covered, the loop covers the quantity,
with one component for each tier that has a part in it. -/
theorem takeTiers_of_tiled (before : progress.previousUpper = some start)
    (covered : progress.covered = start) (begun : start ≤ quantity)
    (tiled : Tiled quantity start (rules.map SuppliedRule.tier)) :
    ∃ taken, takeTiers id quantity rules progress = .ok taken ∧ taken.covered = quantity ∧
      taken.total = progress.total +
        total quantity (readUpTo quantity (rules.map SuppliedRule.tier)) ∧
      taken.components = progress.components ++
        (readRules quantity rules).filterMap (componentIn quantity) := by
  induction rules generalizing progress start with
  | nil => exact tiled.elim
  | cons rule rest inductionHypothesis =>
    rw [List.map_cons] at tiled ⊢
    obtain ⟨starts, nonempty, continues⟩ := tiled
    obtain ⟨coveredMore, totalMore⟩ := @takeTier_adds quantity _ progress nonempty
    rw [takeTiers_cons ((checkStart_eq_ok before).mpr starts) (checkInterval_eq_ok.mpr nonempty)]
    by_cases reaches : rule.tier.Reaches quantity
    · have part := Tier.part_of_within (starts.trans_le begun) reaches
      rw [starts] at part
      have full : (takeTier id quantity rule progress).covered = quantity := by
        rw [coveredMore, covered, part]
        ring
      rw [if_pos full.ge, readUpTo_of_reaches reaches]
      refine ⟨_, rfl, full, ?_, ?_⟩
      · rw [totalMore, total_cons]
        simp [total]
      · rw [takeTier_components, readRules, if_pos reaches]
        cases found : componentIn quantity rule <;> simp [found]
    · obtain ⟨upper, ends, later⟩ := continues.resolve_left reaches
      obtain ⟨last, lastEnds, beyond⟩ := exists_upper reaches
      obtain rfl : upper = last := Option.some.inj (ends.symm.trans lastEnds)
      have part := Tier.part_of_beyond ends nonempty beyond.le
      rw [starts] at part
      have next : (takeTier id quantity rule progress).covered = upper := by
        rw [coveredMore, covered, part]
        ring
      rw [if_neg (not_le.mpr (next.trans_lt beyond)), readUpTo_of_short reaches]
      obtain ⟨taken, ran, coveredAll, totalAll, componentsAll⟩ :=
        inductionHypothesis (takeTier_previousUpper.trans ends) next beyond.le later
      refine ⟨taken, ran, coveredAll, ?_, ?_⟩
      · rw [totalAll, totalMore, total_cons]
        ring
      · rw [componentsAll, takeTier_components, readRules, if_neg reaches, List.append_assoc]
        congr 1
        cases found : componentIn quantity rule <;> simp [found]

/-- A loop that covers the quantity has found the tiers to follow one another. -/
theorem tiled_of_takeTiers (before : progress.previousUpper = some start)
    (covered : progress.covered = start) (begun : start ≤ quantity)
    (remaining : rules ≠ [] ∨ start < quantity)
    (ran : takeTiers id quantity rules progress = .ok taken) (full : quantity ≤ taken.covered) :
    Tiled quantity start (rules.map SuppliedRule.tier) := by
  induction rules generalizing progress start with
  | nil =>
    obtain rfl : progress = taken := Except.ok.inj ran
    have short := remaining.resolve_left (fun nonempty => nonempty rfl)
    rw [covered] at full
    exact absurd full (not_le.mpr short)
  | cons rule rest inductionHypothesis =>
    have checked := ran
    rw [takeTiers] at checked
    obtain ⟨⟨⟩, startsChecked, later⟩ := bind_eq_ok.mp checked
    obtain ⟨⟨⟩, intervalChecked, -⟩ := bind_eq_ok.mp later
    have starts := (checkStart_eq_ok before).mp startsChecked
    have nonempty := checkInterval_eq_ok.mp intervalChecked
    obtain ⟨coveredMore, -⟩ := @takeTier_adds quantity _ progress nonempty
    rw [List.map_cons]
    refine ⟨starts, nonempty, ?_⟩
    by_cases reaches : rule.tier.Reaches quantity
    · exact Or.inl reaches
    · obtain ⟨upper, ends, beyond⟩ := exists_upper reaches
      have part := Tier.part_of_beyond ends nonempty beyond.le
      rw [starts] at part
      have next : (takeTier id quantity rule progress).covered = upper := by
        rw [coveredMore, covered, part]
        ring
      rw [takeTiers_cons startsChecked intervalChecked,
        if_neg (not_le.mpr (next.trans_lt beyond))] at ran
      exact Or.inr ⟨upper, ends, inductionHypothesis (takeTier_previousUpper.trans ends) next
        beyond.le (Or.inr beyond) ran⟩

end Runs

section Costs

/-- The tiers up to the first that reaches a quantity, in ascending order. -/
def tiersRead (quantity : ℚ) (rules : List SuppliedRule) : List (Tier ℚ) :=
  readUpTo quantity ((sortByKey SuppliedRule.tierFrom rules).map SuppliedRule.tier)

def OneCurrency (rules : List SuppliedRule) : Prop :=
  ∀ first ∈ rules, ∀ second ∈ rules, first.currency = second.currency

variable {quantity : ℚ} {rules : List SuppliedRule}

/-- The number of currencies is one where the rules agree on it. -/
theorem currencies_length (supplied : rules ≠ []) :
    (rules.map SuppliedRule.currency).eraseDups.length = 1 ↔ OneCurrency rules := by
  rw [length_eraseDups, Set.ncard_eq_one]
  obtain ⟨rule, member⟩ := List.exists_mem_of_ne_nil rules supplied
  constructor
  · rintro ⟨currency, only⟩ first firstMember second secondMember
    have same {other : SuppliedRule} (isRule : other ∈ rules) : other.currency = currency := by
      have listed : other.currency ∈ {row | row ∈ rules.map SuppliedRule.currency} :=
        List.mem_map_of_mem isRule
      rwa [only] at listed
    rw [same firstMember, same secondMember]
  · intro agree
    refine ⟨rule.currency, Set.eq_singleton_iff_unique_mem.mpr
      ⟨List.mem_map_of_mem member, fun currency listed => ?_⟩⟩
    obtain ⟨other, isRule, rfl⟩ := List.mem_map.mp listed
    exact agree other isRule rule member

variable [ValueText]

/-- The result is that of the loop where the loop covers the quantity. -/
theorem calculateTieredCost_eq_ok {cost : ℚ} {components : List CostComponent}
    (nonnegative : 0 ≤ quantity) :
    calculateTieredCost id quantity rules = .ok (cost, components) ↔
      rules ≠ [] ∧ OneCurrency rules ∧
        ∃ taken, takeTiers id quantity (sortByKey SuppliedRule.tierFrom rules)
          ⟨0, 0, [], some 0⟩ = .ok taken ∧ quantity ≤ taken.covered ∧
          taken.total = cost ∧ taken.components = components := by
  unfold calculateTieredCost
  rw [if_neg (not_lt.mpr nonnegative)]
  by_cases empty : rules = []
  · subst empty
    exact iff_of_false throw_ne_ok fun supplied => supplied.1 rfl
  rw [if_neg (by simpa using empty)]
  by_cases agree : OneCurrency rules
  · have one := (currencies_length empty).mpr agree
    dsimp only
    rw [if_neg (not_not.mpr one)]
    constructor
    · intro calculated
      obtain ⟨taken, ran, ended⟩ := bind_eq_ok.mp calculated
      by_cases short : taken.covered < quantity
      · rw [if_pos short] at ended
        exact absurd ended throw_ne_ok
      · rw [if_neg short] at ended
        obtain ⟨sameCost, sameComponents⟩ := Prod.mk.inj (Except.ok.inj ended)
        exact ⟨empty, agree, taken, ran, not_lt.mp short, sameCost, sameComponents⟩
    · rintro ⟨-, -, taken, ran, full, rfl, rfl⟩
      refine bind_eq_ok.mpr ⟨taken, ran, ?_⟩
      rw [if_neg (not_lt.mpr full)]
      rfl
  · have several : (rules.map SuppliedRule.currency).eraseDups.length ≠ 1 := fun one =>
      agree ((currencies_length empty).mp one)
    dsimp only
    rw [if_pos several]
    exact iff_of_false throw_ne_ok fun result => agree result.2.1

/-- The rules that are read, in ascending order of their tiers. -/
def rulesRead (quantity : ℚ) (rules : List SuppliedRule) : List SuppliedRule :=
  readRules quantity (sortByKey SuppliedRule.tierFrom rules)

omit [ValueText] in
/-- The components of the tiers that are read share the quantity and the cost out. -/
theorem components_sums {read : List SuppliedRule}
    (nonempty : ∀ rule ∈ read, rule.tier.Nonempty) :
    usageSum (read.filterMap (componentIn quantity)) =
        (read.map fun rule => rule.tier.part quantity).sum ∧
      costSum (read.filterMap (componentIn quantity)) =
        total quantity (read.map SuppliedRule.tier) := by
  induction read with
  | nil => exact ⟨rfl, rfl⟩
  | cons rule rest inductionHypothesis =>
    obtain ⟨used, cost⟩ := inductionHypothesis fun other member =>
      nonempty other (List.mem_cons_of_mem _ member)
    obtain ⟨usedHere, costHere⟩ :=
      @componentIn_sums quantity rule (nonempty rule (List.mem_cons_self ..))
    have split : (rule :: rest).filterMap (componentIn quantity) =
        (componentIn quantity rule).toList ++ rest.filterMap (componentIn quantity) := by
      cases found : componentIn quantity rule <;> simp [found]
    rw [split, List.map_cons, List.map_cons, total_cons, List.sum_cons, ← used, ← cost, ← costHere,
      ← usedHere]
    simp [usageSum, costSum]

/-- Where it succeeds, the calculation is the sum over the tiers that are read. -/
theorem calculated_total {cost : ℚ} {components : List CostComponent} (nonnegative : 0 ≤ quantity)
    (calculated : calculateTieredCost id quantity rules = .ok (cost, components)) :
    Tiled quantity 0 ((sortByKey SuppliedRule.tierFrom rules).map SuppliedRule.tier) ∧
      cost = total quantity (tiersRead quantity rules) ∧
      components = (rulesRead quantity rules).filterMap (componentIn quantity) := by
  obtain ⟨supplied, -, taken, ran, full, rfl, rfl⟩ :=
    (calculateTieredCost_eq_ok nonnegative).mp calculated
  have sorted : sortByKey SuppliedRule.tierFrom rules ≠ [] := fun none =>
    supplied (List.Perm.eq_nil (none ▸ (sortByKey_perm SuppliedRule.tierFrom rules).symm))
  have tiled := tiled_of_takeTiers rfl rfl nonnegative (Or.inl sorted) ran full
  obtain ⟨other, otherRan, -, totalAll, componentsAll⟩ :=
    @takeTiers_of_tiled _ quantity 0 _ ⟨0, 0, [], some 0⟩ rfl rfl nonnegative tiled
  obtain rfl : taken = other := Except.ok.inj (ran.symm.trans otherRan)
  refine ⟨tiled, ?_, ?_⟩
  · rw [totalAll, zero_add, tiersRead]
  · rw [componentsAll, List.nil_append, rulesRead]

omit [ValueText] in
/-- The parts of a quantity in tiers that follow one another add up to it. -/
theorem parts_sum {start : ℚ} {tiers : List (Tier ℚ)} (begun : start ≤ quantity)
    (tiled : Tiled quantity start tiers) :
    ((readUpTo quantity tiers).map fun tier => tier.part quantity).sum = quantity - start := by
  induction tiers generalizing start with
  | nil => exact tiled.elim
  | cons tier rest inductionHypothesis =>
    obtain ⟨rfl, nonempty, continues⟩ := tiled
    by_cases reaches : tier.Reaches quantity
    · rw [readUpTo_of_reaches reaches]
      simp [Tier.part_of_within begun reaches]
    · obtain ⟨upper, ends, later⟩ := continues.resolve_left reaches
      obtain ⟨last, lastEnds, beyond⟩ := exists_upper reaches
      obtain rfl : upper = last := Option.some.inj (ends.symm.trans lastEnds)
      rw [readUpTo_of_short reaches, List.map_cons, List.sum_cons,
        inductionHypothesis beyond.le later, Tier.part_of_beyond ends nonempty beyond.le]
      ring

/-- It succeeds on rules of one currency whose tiers follow one another. -/
theorem calculated_of_tiled (nonnegative : 0 ≤ quantity) (supplied : rules ≠ [])
    (agree : OneCurrency rules)
    (tiled : Tiled quantity 0 ((sortByKey SuppliedRule.tierFrom rules).map SuppliedRule.tier)) :
    ∃ cost components, calculateTieredCost id quantity rules = .ok (cost, components) := by
  obtain ⟨taken, ran, full, -, -⟩ :=
    @takeTiers_of_tiled _ quantity 0 _ ⟨0, 0, [], some 0⟩ rfl rfl nonnegative tiled
  exact ⟨taken.total, taken.components, (calculateTieredCost_eq_ok nonnegative).mpr
    ⟨supplied, agree, taken, ran, full.ge, rfl, rfl⟩⟩

/-- For a quantity that is not negative the calculation raises exactly when there is no
rule, the currencies differ, or the tiers up to the first that reaches the quantity have a
defect. Otherwise its components are those of the tiers with a part in the quantity; they
share it and the cost out, and the cost is that of the function that is linear on these
tiers. With prices that are not negative it grows with the quantity. -/
theorem tiered_cost_exact (nonnegative : 0 ≤ quantity) :
    (∀ cost components, calculateTieredCost id quantity rules = .ok (cost, components) →
      components = (rulesRead quantity rules).filterMap (componentIn quantity) ∧
        usageSum components = quantity ∧ costSum components = cost ∧
        (∃ reference, PiecewiseLinear 0 (tiersRead quantity rules) reference) ∧
        ∀ reference, PiecewiseLinear 0 (tiersRead quantity rules) reference →
          cost = reference quantity) ∧
    ((∃ error, calculateTieredCost id quantity rules = .error error) ↔
      rules = [] ∨ ¬OneCurrency rules ∨ ¬Sound quantity 0 (tiersRead quantity rules)) ∧
    ((∀ rule ∈ rules, 0 ≤ rule.price) → ∀ more cost moreCost components moreComponents,
      quantity ≤ more → calculateTieredCost id quantity rules = .ok (cost, components) →
        calculateTieredCost id more rules = .ok (moreCost, moreComponents) →
          cost ≤ moreCost) := by
  refine ⟨fun cost components calculated => ?_, ⟨?_, ?_⟩, ?_⟩
  · obtain ⟨tiled, rfl, rfl⟩ := calculated_total nonnegative calculated
    have tiers : (rulesRead quantity rules).map SuppliedRule.tier = tiersRead quantity rules :=
      readRules_tiers quantity _
    have nonempty : ∀ rule ∈ rulesRead quantity rules, rule.tier.Nonempty := fun rule member =>
      (tiled_iff_sound.mp tiled).nonempty _
        (readRules_tiers quantity _ ▸ List.mem_map_of_mem member)
    obtain ⟨used, costs⟩ := @components_sums quantity _ nonempty
    refine ⟨rfl, ?_, ?_, ⟨_, tiled.piecewiseLinear⟩, fun reference linear => ?_⟩
    · have parts := parts_sum nonnegative tiled
      rw [← readRules_tiers, List.map_map, sub_zero] at parts
      exact used.trans parts
    · rw [costs, tiers]
    · exact (tiled.total_unique nonnegative linear).symm
  · rintro ⟨error, raised⟩
    by_contra defects
    push Not at defects
    obtain ⟨supplied, agree, sound⟩ := defects
    obtain ⟨cost, components, calculated⟩ :=
      calculated_of_tiled nonnegative supplied agree (tiled_iff_sound.mpr sound)
    rw [raised] at calculated
    cases calculated
  · intro defects
    cases calculated : calculateTieredCost id quantity rules with
    | error error => exact ⟨error, rfl⟩
    | ok result =>
      obtain ⟨supplied, agree, -⟩ := (calculateTieredCost_eq_ok nonnegative).mp calculated
      obtain ⟨tiled, -, -⟩ := calculated_total nonnegative calculated
      rcases defects with empty | several | unsound
      · exact absurd empty supplied
      · exact absurd agree several
      · exact absurd (tiled_iff_sound.mp tiled) unsound
  · intro prices more cost moreCost components moreComponents less calculated moreCalculated
    obtain ⟨-, rfl, -⟩ := calculated_total nonnegative calculated
    obtain ⟨tiled, rfl, -⟩ := calculated_total (nonnegative.trans less) moreCalculated
    apply tiled.total_mono less
    intro tier member
    obtain ⟨rule, isRule, rfl⟩ := List.mem_map.mp member
    have price := prices rule ((mem_sortByKey _ _ _).mp isRule)
    exact div_nonneg price rule.unitQuantityPositive.le

/-- A first tier of a thousand requests and an open one at a lower price. -/
def sampleRules : List SuppliedRule :=
  let rule (id : String) (price from' : ℚ) (upper : Option ℚ) : SuppliedRule :=
    ⟨id, "Requests", 1000, price, "USD", 0, none, from', upper, "AWS_PUBLIC_PRICING",
      "reference", 0, by decide⟩
  [rule "second" 2 1000 none, rule "first" 3 0 (some 1000)]

end Costs

/-- The two tiers share 1500 requests and their cost out. -/
theorem sample_tiered_cost : ∃ cost components,
    @calculateTieredCost id plainText 1500 sampleRules = .ok (cost, components) ∧
      components = (rulesRead 1500 sampleRules).filterMap (componentIn 1500) ∧
      usageSum components = 1500 ∧ costSum components = cost := by
  have calculated : (@calculateTieredCost id plainText 1500 sampleRules).toOption.isSome := by
    decide +kernel
  cases result : @calculateTieredCost id plainText 1500 sampleRules with
  | error error =>
    rw [result] at calculated
    cases calculated
  | ok found =>
    obtain ⟨isRead, used, costs, -⟩ :=
      (@tiered_cost_exact 1500 sampleRules plainText (by decide)).1 found.1 found.2 result
    exact ⟨found.1, found.2, rfl, isRead, used, costs⟩

end FinopsAnalytics.TieredCosts
