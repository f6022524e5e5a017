import FinopsAnalytics.Clock
import FinopsAnalytics.HalfOpenIntervals
import FinopsAnalytics.PythonText
import Mathlib.Data.Rat.Defs

/-!
# The pricing catalog and its resolver

Prices are effective-dated rows under a four-part identity. The resolver selects
the enabled rows that are effective at an instant, refuses none or several, and
caches what it resolved.
-/

namespace FinopsAnalytics.PricingCatalog

open PythonText

structure PricingIdentity where
  provider : String
  service : String
  sku : String
  unit : String
deriving DecidableEq, Repr

/-- A row of `pricing_catalog_items`. -/
structure PricingCatalogItem where
  id : String
  provider : String
  service : String
  sku : String
  description : String
  unit : String
  price : ℚ
  currency : String
  effectiveFrom : Instant
  effectiveUntil : Option Instant
  enabled : Bool
  source : String
deriving DecidableEq, Repr

abbrev Catalog := List PricingCatalogItem

/-- The identity columns as they are stored. -/
def PricingCatalogItem.identity (item : PricingCatalogItem) : PricingIdentity :=
  ⟨item.provider, item.service, item.sku, item.unit⟩

def PricingCatalogItem.interval (item : PricingCatalogItem) :
    HalfOpenIntervals.Interval Instant :=
  ⟨item.effectiveFrom, item.effectiveUntil⟩

structure ResolvedPrice where
  id : String
  provider : String
  service : String
  sku : String
  description : String
  unit : String
  amount : ℚ
  currency : String
  effectiveFrom : Instant
  effectiveUntil : Option Instant
  source : String
deriving DecidableEq, Repr

def ResolvedPrice.identity (price : ResolvedPrice) : PricingIdentity :=
  ⟨price.provider, price.service, price.sku, price.unit⟩

/-- The errors of a resolution, with the values their texts are made of. -/
inductive PricingCatalogError where
  | pricingNotFound (identity : PricingIdentity) (reference : Instant)
  | pricingAmbiguity (identity : PricingIdentity) (reference : Instant)
  | pricingCurrencyMismatch (identity : PricingIdentity) (expected actual : String)
deriving DecidableEq, Repr

/-- The arguments of `resolve_price`. -/
structure PriceRequest where
  provider : String
  service : String
  sku : String
  unit : String
  at_ : Option Instant
  expectedCurrency : Option String
deriving DecidableEq, Repr

structure PricingResolver where
  referenceAt : Instant
  cache : List ((PricingIdentity × Instant) × ResolvedPrice)
deriving DecidableEq, Repr

/-- `_resolved`. -/
def resolved (item : PricingCatalogItem) : ResolvedPrice :=
  { id := item.id
    provider := item.provider
    service := item.service
    sku := item.sku
    description := item.description
    unit := item.unit
    amount := item.price
    currency := item.currency
    effectiveFrom := item.effectiveFrom
    effectiveUntil := item.effectiveUntil
    source := item.source }

/-- The rows that `_effective_query` selects at an instant. -/
def isEffective (item : PricingCatalogItem) (reference : Instant) : Bool :=
  item.enabled && decide (item.effectiveFrom ≤ reference) &&
    match item.effectiveUntil with
    | none => true
    | some effectiveUntil => decide (reference < effectiveUntil)

/-- The effective rows of one identity. -/
def effectiveRows (catalog : Catalog) (identity : PricingIdentity) (reference : Instant) :
    List PricingCatalogItem :=
  catalog.filter fun item => isEffective item reference && decide (item.identity = identity)

section Resolution

variable [CaseMapping]

/-- `_identity`. -/
def PriceRequest.identity (request : PriceRequest) : PricingIdentity :=
  { provider := CaseMapping.lower (strip request.provider)
    service := CaseMapping.lower (strip request.service)
    sku := strip request.sku
    unit := CaseMapping.upper (strip request.unit) }

def validateCurrency (price : ResolvedPrice) (expectedCurrency : Option String) :
    Except PricingCatalogError Unit :=
  match expectedCurrency with
  | none => .ok ()
  | some expected =>
    let normalized := CaseMapping.upper (strip expected)
    if price.currency ≠ normalized then
      .error (.pricingCurrencyMismatch price.identity normalized price.currency)
    else .ok ()

/-- `PricingResolver.resolve_price` with the resolver's next cache. -/
def PricingResolver.resolvePrice (resolver : PricingResolver) (catalog : Catalog)
    (request : PriceRequest) : Except PricingCatalogError ResolvedPrice × PricingResolver :=
  let reference := request.at_.getD resolver.referenceAt
  let identity := request.identity
  match resolver.cache.lookup (identity, reference) with
  | some cached =>
    (validateCurrency cached request.expectedCurrency |>.map fun _ => cached, resolver)
  | none =>
    match effectiveRows catalog identity reference with
    | [] => (.error (.pricingNotFound identity reference), resolver)
    | [item] =>
      let price := resolved item
      match validateCurrency price request.expectedCurrency with
      | .error mismatch => (.error mismatch, resolver)
      | .ok _ =>
        (.ok price, { resolver with cache := ((identity, reference), price) :: resolver.cache })
    | _ :: _ :: _ => (.error (.pricingAmbiguity identity reference), resolver)

/-- Where at most one row is effective, a resolution is never ambiguous, whatever
the resolver has cached. -/
theorem resolvePrice_unambiguous (resolver : PricingResolver) {catalog : Catalog}
    {request : PriceRequest}
    (single : (effectiveRows catalog request.identity
      (request.at_.getD resolver.referenceAt)).length ≤ 1)
    (identity : PricingIdentity) (reference : Instant) :
    (resolver.resolvePrice catalog request).1 ≠
      .error (.pricingAmbiguity identity reference) := by
  have currency (price : ResolvedPrice) : validateCurrency price request.expectedCurrency ≠
      .error (.pricingAmbiguity identity reference) := by
    unfold validateCurrency
    split
    · simp
    · dsimp only
      split <;> simp
  unfold PricingResolver.resolvePrice
  dsimp only
  split
  · rename_i cached _
    cases checked : validateCurrency cached request.expectedCurrency with
    | error mismatch => exact fun same => currency cached (checked.trans (congrArg _ (Except.error.inj same)))
    | ok passed => simp [Except.map]
  · split
    · simp
    · split
      · rename_i mismatch checked
        exact fun same => currency _ (checked.trans (congrArg _ (Except.error.inj same)))
      · simp
    · rename_i rows
      rw [rows] at single
      simp at single

/-- What a resolver without cached prices answers for an instant. -/
def priceAt (catalog : Catalog) (request : PriceRequest) (instant : Instant) :
    Except PricingCatalogError ResolvedPrice :=
  ((PricingResolver.mk instant []).resolvePrice catalog { request with at_ := some instant }).1

/-- The answer is decided by the effective rows alone. -/
theorem priceAt_eq (catalog : Catalog) (request : PriceRequest) (instant : Instant) :
    priceAt catalog request instant =
      match effectiveRows catalog request.identity instant with
      | [] => .error (.pricingNotFound request.identity instant)
      | [item] =>
        (validateCurrency (resolved item) request.expectedCurrency).map fun _ => resolved item
      | _ :: _ :: _ => .error (.pricingAmbiguity request.identity instant) := by
  have identity : ({ request with at_ := some instant } : PriceRequest).identity =
      request.identity := rfl
  simp only [priceAt, PricingResolver.resolvePrice, List.lookup_nil, Option.getD_some, identity]
  split
  · rfl
  · cases validateCurrency (resolved _) request.expectedCurrency <;> rfl
  · rfl

end Resolution

/-- A row is effective exactly when it is enabled and its interval contains the
instant. -/
theorem isEffective_iff (item : PricingCatalogItem) (reference : Instant) :
    isEffective item reference = true ↔
      item.enabled = true ∧ item.interval.Contains reference := by
  unfold isEffective
  cases ends : item.effectiveUntil <;>
    simp [HalfOpenIntervals.Interval.Contains, PricingCatalogItem.interval, ends, and_assoc]

theorem mem_effectiveRows {catalog : Catalog} {identity : PricingIdentity} {reference : Instant}
    {item : PricingCatalogItem} :
    item ∈ effectiveRows catalog identity reference ↔
      item ∈ catalog ∧ item.enabled = true ∧ item.interval.Contains reference ∧
        item.identity = identity := by
  simp [effectiveRows, isEffective_iff, and_assoc]

end FinopsAnalytics.PricingCatalog
