import FinopsAnalytics.DecimalArithmetic
import FinopsAnalytics.DistinctKeys
import FinopsAnalytics.Clock
import FinopsAnalytics.PythonText
import Mathlib.Data.Prod.Lex

/-!
# Pricing rules of CloudWatch usage

A rule prices one tier of one operation, in a region scope and from an instant
on. The resolver finds the rules of an event by its operation, region and time;
the tiers of one price then share out a quantity.
-/

namespace FinopsAnalytics.CloudWatchPricing

open DistinctKeys

inductive PricingError where
  | notFound (message : String)
  | ambiguous (message : String)
  | value (message : String)
deriving DecidableEq, Repr

/-- The text of a number and of an instant in a message. -/
class ValueText where
  decimal : ℚ → String
  isoformat : Instant → String

/-- Texts without digits, for evaluation at concrete inputs. -/
abbrev plainText : ValueText where
  decimal _ := "number"
  isoformat _ := "instant"

/-- The usage column that a dimension prices. -/
inductive UsageField where
  | requestCount
deriving DecidableEq, Repr

structure CloudWatchPricingDimension where
  name : String
  usageField : UsageField
deriving DecidableEq, Repr

def cloudwatchPricingDimensions : List (String × CloudWatchPricingDimension) :=
  [("GetMetricStatistics", ⟨"API_REQUEST", .requestCount⟩)]

/-- A row of `cloudwatch_pricing_rules`, with the constraints of the table. -/
structure CloudWatchPricingRule where
  id : String
  operation : String
  pricingDimension : String
  regionScope : String
  unit : String
  unitQuantity : ℚ
  price : ℚ
  currency : String
  effectiveFrom : Instant
  effectiveUntil : Option Instant
  tierFrom : ℚ
  tierTo : Option ℚ
  tierScope : String
  source : String
  sourceReference : String
  pricingVerifiedAt : Instant
  enabled : Bool
  unitQuantityPositive : 0 < unitQuantity
  tierInterval : ∀ stop ∈ tierTo, tierFrom < stop

/-- `text.startswith(start)` -/
def startsWith (text start : String) : Bool := start.toList.isPrefixOf text.toList

/-- `text.removeprefix(start)` -/
def removePrefix (text start : String) : String :=
  if startsWith text start then String.ofList (text.toList.drop start.length) else text

def excludedPrefixes : List String := ["cn-", "us-gov-", "us-iso-", "us-isob-"]

def isAwsCommercialRegion (region : String) : Bool :=
  if region = "" ∨ region = "unknown" then false
  else '-' ∈ region.toList ∧ ¬ ∃ start ∈ excludedPrefixes, startsWith region start

def regionScopeMatches (regionScope region : String) : Bool :=
  if regionScope = "GLOBAL" then true
  else if regionScope = "AWS_COMMERCIAL" then isAwsCommercialRegion region
  else if startsWith regionScope "REGION:" then region = removePrefix regionScope "REGION:"
  else false

/-- `_effective` -/
def effective (rule : CloudWatchPricingRule) (occurredAt : Instant) : Bool :=
  rule.effectiveFrom ≤ occurredAt ∧ ∀ stop ∈ rule.effectiveUntil, occurredAt < stop

/-- `_tier_contains` -/
def tierContains (rule : CloudWatchPricingRule) (usagePosition : ℚ) : Bool :=
  rule.tierFrom ≤ usagePosition ∧ ∀ stop ∈ rule.tierTo, usagePosition < stop

section Resolver

variable [ValueText]

/-- The start of the messages about one event. -/
def describeEvent (outcome operation pricingDimension region : String) (occurredAt : Instant) :
    String :=
  "cloudwatch pricing " ++ outcome ++ " for operation=" ++ operation ++ " dimension=" ++
    pricingDimension ++ " region=" ++ region ++ " occurred_at=" ++ ValueText.isoformat occurredAt

/-- The rules of an operation and dimension that are effective at a time in a region. -/
def matchingRules (rules : List CloudWatchPricingRule) (operation pricingDimension region : String)
    (occurredAt : Instant) : List CloudWatchPricingRule :=
  rules.filter fun rule => rule.operation = operation ∧ rule.pricingDimension = pricingDimension ∧
    regionScopeMatches rule.regionScope region ∧ effective rule occurredAt

/-- `CloudWatchPricingResolver.resolve` -/
def resolve (rules : List CloudWatchPricingRule) (operation pricingDimension region : String)
    (occurredAt : Instant) (usagePosition : ℚ) : Except PricingError CloudWatchPricingRule :=
  let found := (matchingRules rules operation pricingDimension region occurredAt).filter
    (tierContains · usagePosition)
  let position := " usage_position=" ++ ValueText.decimal usagePosition
  match found with
  | [] => .error (.notFound
      (describeEvent "not found" operation pricingDimension region occurredAt ++ position))
  | [rule] => .ok rule
  | _ => .error (.ambiguous
      (describeEvent "ambiguous" operation pricingDimension region occurredAt ++ position ++
        "; rules=" ++ ",".intercalate (found.map CloudWatchPricingRule.id)))

end Resolver

section Tiers

/-- The fields of a rule that the cost of a quantity is calculated from. Unlike the table,
the calculation is also given empty tiers. -/
structure SuppliedRule where
  id : String
  unit : String
  unitQuantity : ℚ
  price : ℚ
  currency : String
  effectiveFrom : Instant
  effectiveUntil : Option Instant
  tierFrom : ℚ
  tierTo : Option ℚ
  source : String
  sourceReference : String
  pricingVerifiedAt : Instant
  unitQuantityPositive : 0 < unitQuantity

def CloudWatchPricingRule.supplied (rule : CloudWatchPricingRule) : SuppliedRule :=
  { rule with }

/-- The part of a quantity that one rule prices. -/
structure CostComponent where
  pricingRuleId : String
  usageQuantity : ℚ
  unitPrice : ℚ
  unitQuantity : ℚ
  pricingUnit : String
  currency : String
  effectiveFrom : Instant
  effectiveUntil : Option Instant
  source : String
  sourceReference : String
  pricingVerifiedAt : Instant
deriving DecidableEq, Repr

def componentOf (rule : SuppliedRule) (tierQuantity : ℚ) : CostComponent where
  pricingRuleId := rule.id
  usageQuantity := tierQuantity
  unitPrice := rule.price
  unitQuantity := rule.unitQuantity
  pricingUnit := rule.unit
  currency := rule.currency
  effectiveFrom := rule.effectiveFrom
  effectiveUntil := rule.effectiveUntil
  source := rule.source
  sourceReference := rule.sourceReference
  pricingVerifiedAt := rule.pricingVerifiedAt

/-- What the loop over the tiers carries; without a previous end the tiers so far
are open. -/
structure TierProgress where
  total : ℚ
  covered : ℚ
  components : List CostComponent
  previousUpper : Option ℚ

-- what the arithmetic makes of an exact result: a `Decimal` keeps 28 digits of it
variable (round : ℚ → ℚ)

/-- The part of a quantity that lies in a tier. -/
def tierQuantity (quantity : ℚ) (rule : SuppliedRule) : ℚ :=
  let above := max 0 (round (quantity - rule.tierFrom))
  match rule.tierTo with
  | some upper => min above (round (upper - rule.tierFrom))
  | none => above

/-- The cost of a quantity at the price of a rule. -/
def componentCost (rule : SuppliedRule) (quantity : ℚ) : ℚ :=
  round (round (quantity / rule.unitQuantity) * rule.price)

/-- One tier taken in. -/
def takeTier (quantity : ℚ) (rule : SuppliedRule) (progress : TierProgress) : TierProgress :=
  let part := tierQuantity round quantity rule
  let taken :=
    if 0 < part then
      { progress with
        total := round (progress.total + componentCost round rule part)
        covered := round (progress.covered + part)
        components := progress.components ++ [componentOf rule part] }
    else progress
  { taken with previousUpper := rule.tierTo }

variable [ValueText]

/-- The check that a tier starts where the tier before it ends. -/
def checkStart (rule : SuppliedRule) (progress : TierProgress) : Except PricingError Unit :=
  match progress.previousUpper with
  | some expected =>
    if rule.tierFrom ≠ expected then
      throw (.notFound ("pricing tier gap before rule=" ++ rule.id ++ ": expected=" ++
        ValueText.decimal expected ++ " got=" ++ ValueText.decimal rule.tierFrom))
    else pure ()
  | none => pure ()

omit [ValueText] in
/-- The check that a tier ends after it starts. -/
def checkInterval (rule : SuppliedRule) : Except PricingError Unit :=
  match rule.tierTo with
  | some upper =>
    if upper ≤ rule.tierFrom then
      throw (.ambiguous ("invalid pricing tier rule=" ++ rule.id))
    else pure ()
  | none => pure ()

/-- The loop over the tiers in ascending order. It ends when the quantity is covered. -/
def takeTiers (quantity : ℚ) : List SuppliedRule → TierProgress → Except PricingError TierProgress
  | [], progress => .ok progress
  | rule :: rest, progress => do
    checkStart rule progress
    checkInterval rule
    let taken := takeTier round quantity rule progress
    if quantity ≤ taken.covered then return taken
    takeTiers quantity rest taken

/-- `calculate_tiered_cost` -/
def calculateTieredCost (quantity : ℚ) (rules : List SuppliedRule) :
    Except PricingError (ℚ × List CostComponent) := do
  if quantity < 0 then throw (.value "quantity must be non-negative")
  if rules.isEmpty then throw (.notFound "no pricing tiers supplied")
  let currencies := (rules.map SuppliedRule.currency).eraseDups
  if currencies.length ≠ 1 then
    throw (.ambiguous
      ("pricing tiers mix currencies: " ++ ",".intercalate (sortByKey id currencies)))
  let progress ← takeTiers round quantity (sortByKey SuppliedRule.tierFrom rules)
    ⟨0, 0, [], some 0⟩
  if progress.covered < quantity then
    throw (.notFound ("pricing tiers cover " ++ ValueText.decimal progress.covered ++
      " units but quantity is " ++ ValueText.decimal quantity))
  return (progress.total, progress.components)

end Tiers

end FinopsAnalytics.CloudWatchPricing
