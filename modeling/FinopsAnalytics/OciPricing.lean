import FinopsAnalytics.OciAnalyzers
import FinopsAnalytics.PricingCatalog
import Mathlib.Data.Rat.Floor

/-!
# Prices of OCI volumes

The formulas read the catalog through a snapshot of all effective prices of the
provider. The service that holds them keeps the first snapshot that it takes, and
the analyzers share one service for the life of the process.
-/

namespace FinopsAnalytics.OciPricing

open PythonText OpportunityRecords DistinctKeys PricingCatalog OciDiscovery OciAnalyzers

/-- The finite decimals that a text denotes. -/
class DecimalText where
  decimal : String → Option ℚ

/-- No text denotes a decimal, for evaluation at concrete inputs. -/
abbrev noDecimalText : DecimalText where
  decimal _ := none

/-- What a snapshot can raise: it answers for its own date only. -/
inductive SnapshotError where
  | differentReference
  | catalog (error : PricingCatalogError)
deriving DecidableEq, Repr

structure PricingSnapshot where
  provider : String
  referenceAt : Instant
  items : List (PricingIdentity × ResolvedPrice)
deriving DecidableEq, Repr

section Snapshots

variable [CaseMapping]

/-- The pass of the loop over one effective row. -/
def addPrice (reference : Instant) (expectedCurrency : Option String)
    (items : List (PricingIdentity × ResolvedPrice)) (row : PricingCatalogItem) :
    Except PricingCatalogError (List (PricingIdentity × ResolvedPrice)) := do
  let price := resolved row
  if (items.lookup price.identity).isSome then
    throw (.pricingAmbiguity price.identity reference)
  validateCurrency price expectedCurrency
  return items ++ [(price.identity, price)]

/-- The effective rows of a provider. -/
def providerRows (catalog : Catalog) (provider : String) (reference : Instant) :
    List PricingCatalogItem :=
  catalog.filter fun item => isEffective item reference && decide (item.provider = provider)

/-- `PricingResolver.snapshot` -/
def snapshot (catalog : Catalog) (provider : String) (reference : Instant)
    (expectedCurrency : Option String) : Except PricingCatalogError PricingSnapshot := do
  let normalized := CaseMapping.lower (strip provider)
  let items ← (providerRows catalog normalized reference).foldlM
    (addPrice reference expectedCurrency) []
  return ⟨normalized, reference, items⟩

/-- `PricingSnapshot.resolve_price` -/
def PricingSnapshot.resolvePrice (taken : PricingSnapshot) (request : PriceRequest) :
    Except SnapshotError ResolvedPrice :=
  if request.at_.getD taken.referenceAt ≠ taken.referenceAt then .error .differentReference
  else
    match taken.items.lookup request.identity with
    | none => .error (.catalog (.pricingNotFound request.identity taken.referenceAt))
    | some price =>
      match validateCurrency price request.expectedCurrency with
      | .error mismatch => .error (.catalog mismatch)
      | .ok _ => .ok price

end Snapshots

def ociPricingCurrency : String := "BRL"

/-- A catalog version as a component of a price uses it. -/
structure OciPricingComponent where
  pricingItemId : String
  service : String
  sku : String
  unit : String
  unitPrice : ℚ
  currency : String
  source : String
  effectiveFrom : Instant
  effectiveUntil : Option Instant
  quantity : ℚ
deriving DecidableEq, Repr

/-- `_component` -/
def component (price : ResolvedPrice) (quantity : ℚ) : OciPricingComponent where
  pricingItemId := price.id
  service := price.service
  sku := price.sku
  unit := price.unit
  unitPrice := price.amount
  currency := price.currency
  source := price.source
  effectiveFrom := price.effectiveFrom
  effectiveUntil := price.effectiveUntil
  quantity := quantity

structure OciBlockVolumePricingResult where
  monthlyCost : ℚ
  currency : String
  sizeGb : ℚ
  vpusPerGb : ℚ
  pricingComponents : List OciPricingComponent
deriving DecidableEq, Repr

/-- `quantize_money`: cents, halves away from zero. -/
def quantizeMoney (value : ℚ) : ℚ :=
  if 0 ≤ value then ⌊value * 100 + 1 / 2⌋ / 100 else -(⌊-value * 100 + 1 / 2⌋ / 100)

/-- The arguments of `_price` for a component of a block volume. -/
def priceRequest (sku unit : String) (at_ : Option Instant) : PriceRequest where
  provider := "oci"
  service := "block_volume"
  sku := sku
  unit := unit
  at_ := at_
  expectedCurrency := some ociPricingCurrency

def storageRequest (at_ : Option Instant) : PriceRequest :=
  priceRequest "BLOCK_VOLUME_GB_MONTH" "GB_MONTH" at_

def vpuRequest (at_ : Option Instant) : PriceRequest :=
  priceRequest "BLOCK_VOLUME_VPU_GB_MONTH" "VPU_GB_MONTH" at_

structure OciPricingService where
  catalogSnapshot : Option PricingSnapshot
deriving DecidableEq, Repr

/-- The service of a process that has not priced yet. -/
def OciPricingService.new : OciPricingService := ⟨none⟩

/-- The price of a volume with its evidence. -/
structure VolumePricing where
  monthlyCost : ℚ
  currency : String
  populated : Bool
  status : String
  resourceType : String
  resourceId : Option String
  sizeGb : MetaValue
  vpusPerGb : MetaValue
  missingFields : List String
  pricingComponents : List OciPricingComponent
deriving DecidableEq, Repr

/-- The required attributes that a volume lacks. -/
def missingFields (sizeGb vpusPerGb : MetaValue) : List String :=
  (if sizeGb = .null then ["size_in_gbs"] else []) ++
    (if vpusPerGb = .null then ["vpus_per_gb"] else [])

/-- The evidence of a volume. None is the refusal of an input. -/
def volumeEvidence (sizeGb vpusPerGb : MetaValue) (resourceType : String)
    (resourceId : Option String) : Option OciBlockVolumePricingResult → VolumePricing
  | none =>
    let missing := missingFields sizeGb vpusPerGb
    { monthlyCost := 0
      currency := ociPricingCurrency
      populated := false
      status := if missing = [] then "invalid_pricing_input" else "missing_pricing_input"
      resourceType, resourceId, sizeGb, vpusPerGb
      missingFields := missing
      pricingComponents := [] }
  | some result =>
    { monthlyCost := result.monthlyCost
      currency := result.currency
      populated := true
      status := "priced"
      resourceType, resourceId, sizeGb, vpusPerGb
      missingFields := []
      pricingComponents := result.pricingComponents }

/-- `_unpriced_reason` -/
def unpricedReason (pricing : VolumePricing) : String :=
  match pricing.missingFields with
  | [] => pricing.status
  | [field] => "missing_" ++ field
  | _ => "missing_pricing_inputs"

/-- A volume in the evidence of a stopped instance. -/
inductive RenderedVolume where
  | missingInventoryResource (resourceId resourceType : String)
  | priced (resourceId : String) (pricing : VolumePricing)
deriving DecidableEq, Repr

def RenderedVolume.pricingComponents : RenderedVolume → List OciPricingComponent
  | .missingInventoryResource _ _ => []
  | .priced _ pricing => pricing.pricingComponents

/-- What a volume adds to the subtotal. -/
def RenderedVolume.monthlyCost : RenderedVolume → ℚ
  | .missingInventoryResource _ _ => 0
  | .priced _ pricing => if pricing.populated then pricing.monthlyCost else 0

/-- Why a volume has no price. -/
def RenderedVolume.unpriced : RenderedVolume → Option (String × String)
  | .missingInventoryResource resourceId _ => some (resourceId, "missing_inventory_resource")
  | .priced resourceId pricing =>
    if pricing.populated then none else some (resourceId, unpricedReason pricing)

/-- A loop of pricings that share the service. An exception ends it. -/
def pricedInTurn {α β : Type}
    (price : OciPricingService → α → Except SnapshotError β × OciPricingService) :
    OciPricingService → List α → Except SnapshotError (List β) × OciPricingService
  | service, [] => (.ok [], service)
  | service, item :: rest =>
    match price service item with
    | (.error raised, service) => (.error raised, service)
    | (.ok result, service) =>
      match pricedInTurn price service rest with
      | (.error raised, service) => (.error raised, service)
      | (.ok results, service) => (.ok (result :: results), service)

/-- The price of the storage of an instance with its evidence. -/
structure PersistentStoragePricing where
  monthlyCost : ℚ
  currency : String
  complete : Bool
  volumes : List RenderedVolume
  pricedMonthlySubtotal : ℚ
  unpricedResources : List (String × String)
deriving DecidableEq, Repr

/-- The evidence of the volumes of an instance: its price is complete where all of them
have one. -/
def storageEvidence (bootIds blockIds : List String) (rendered : List RenderedVolume) :
    PersistentStoragePricing :=
  let subtotal := (rendered.map RenderedVolume.monthlyCost).sum
  let unpriced := rendered.filterMap RenderedVolume.unpriced
  let complete := unpriced.isEmpty && !(bootIds.isEmpty && blockIds.isEmpty)
  { monthlyCost := if complete then subtotal else 0
    currency := ociPricingCurrency
    complete
    volumes := rendered
    pricedMonthlySubtotal := subtotal
    unpricedResources := unpriced }

/-- The volumes of an instance with their types, in the order of their pricing. -/
def volumesOf (bootIds blockIds : List String) : List (String × String) :=
  (sortByKey id bootIds).map (Prod.mk "boot_volume") ++
    (sortByKey id blockIds).map (Prod.mk "block_volume")

/-- What the analyzers price for a finding. -/
inductive FindingPricing where
  | blockVolume (attributes : Metadata)
  | persistentStorage (bootIds blockIds : List String) (inventory : List OciDiscoveredResource)
deriving DecidableEq, Repr

section Service

/-- `_catalog` at a reading of the clock. A snapshot for now is kept. -/
def OciPricingService.catalog [CaseMapping] (service : OciPricingService) (catalog : Catalog)
    (now : Instant) (at_ : Option Instant) : Except SnapshotError PricingSnapshot × OciPricingService :=
  match at_, service.catalogSnapshot with
  | none, some taken => (.ok taken, service)
  | _, _ =>
    match snapshot catalog "oci" (at_.getD now) (some ociPricingCurrency) with
    | .error raised => (.error (.catalog raised), service)
    | .ok taken => (.ok taken, if at_ = none then ⟨some taken⟩ else service)

/-- `_decimal_input`: the number, or none where the input is refused. -/
def decimalInput [DecimalText] (value : MetaValue) : Option ℚ :=
  let parsed :=
    match value with
    | .integer number => some (number : ℚ)
    | .text text => DecimalText.decimal text
    | _ => none
  parsed.filter fun number => 0 ≤ number

/-- The formula of a block volume over the prices of a snapshot. -/
def blockVolumeFormula [CaseMapping] (taken : PricingSnapshot) (size vpus : ℚ)
    (at_ : Option Instant) : Except SnapshotError OciBlockVolumePricingResult := do
  let storagePrice ← taken.resolvePrice (storageRequest at_)
  let vpuPrice ← taken.resolvePrice (vpuRequest at_)
  return {
    monthlyCost := quantizeMoney (size * storagePrice.amount + size * vpus * vpuPrice.amount)
    currency := ociPricingCurrency
    sizeGb := size
    vpusPerGb := vpus
    pricingComponents := [component storagePrice size, component vpuPrice (size * vpus)] }

/-- The pricings of a collection, in the order of its findings. -/
def pricingsOf [CaseMapping] (discovery : OciDiscoveryResult) : List FindingPricing :=
  letI := plainReporting
  (sortByKey OciDiscoveredResource.resourceId discovery.resources).flatMap fun resource =>
    let context := contextOf discovery resource
    let bootIds := attachedVolumes context "boot_volume_attachment" "boot_volume"
    let blockIds :=
      (attachedVolumes context "volume_attachment" "block_volume").filter (· ∉ bootIds)
    (if (analyzeBlockVolumeUnattached context).isSome then
        [.blockVolume resource.attributes] else []) ++
      (if (analyzeStoppedCompute discovery.resources context).isSome then
        [.persistentStorage bootIds blockIds discovery.resources] else [])

variable [CaseMapping] [DecimalText]

/-- `block_volume_monthly_pricing`. None is the refusal of an input, before the
catalog is read. -/
def OciPricingService.blockVolumeMonthlyPricing (service : OciPricingService) (catalog : Catalog)
    (now : Instant) (sizeGb vpusPerGb : MetaValue) (at_ : Option Instant) :
    Except SnapshotError (Option OciBlockVolumePricingResult) × OciPricingService :=
  match decimalInput sizeGb, decimalInput vpusPerGb with
  | some size, some vpus =>
    match service.catalog catalog now at_ with
    | (.error raised, service) => (.error raised, service)
    | (.ok taken, service) => ((blockVolumeFormula taken size vpus at_).map some, service)
  | _, _ => (.ok none, service)

/-- `_volume_pricing` -/
def volumePricing (service : OciPricingService) (catalog : Catalog) (now : Instant)
    (attributes : Metadata) (resourceType : String) (resourceId : Option String) :
    Except SnapshotError VolumePricing × OciPricingService :=
  let sizeGb := (attributes.lookup "size_in_gbs").getD .null
  let vpusPerGb := (attributes.lookup "vpus_per_gb").getD .null
  match service.blockVolumeMonthlyPricing catalog now sizeGb vpusPerGb none with
  | (outcome, service) =>
    (outcome.map (volumeEvidence sizeGb vpusPerGb resourceType resourceId), service)

/-- One volume of `price_resources`. -/
def priceResource (service : OciPricingService) (catalog : Catalog) (now : Instant)
    (inventory : List OciDiscoveredResource) (resourceType resourceId : String) :
    Except SnapshotError RenderedVolume × OciPricingService :=
  match inventory.reverse.find? fun resource => resource.resourceId = resourceId with
  | none => (.ok (.missingInventoryResource resourceId resourceType), service)
  | some resource =>
    if resource.resourceType ≠ resourceType then
      (.ok (.missingInventoryResource resourceId resourceType), service)
    else
      match volumePricing service catalog now resource.attributes resourceType (some resourceId) with
      | (outcome, service) => (outcome.map (.priced resourceId), service)

/-- `_persistent_storage_pricing`: the boot volumes, then the block volumes. -/
def persistentStoragePricing (service : OciPricingService) (catalog : Catalog) (now : Instant)
    (bootIds blockIds : List String) (inventory : List OciDiscoveredResource) :
    Except SnapshotError PersistentStoragePricing × OciPricingService :=
  match pricedInTurn (fun service volume =>
      priceResource service catalog now inventory volume.1 volume.2) service
      (volumesOf bootIds blockIds) with
  | (outcome, service) => (outcome.map (storageEvidence bootIds blockIds), service)

/-- The components of the prices of a finding. -/
def findingComponents (service : OciPricingService) (catalog : Catalog) (now : Instant) :
    FindingPricing → Except SnapshotError (List OciPricingComponent) × OciPricingService
  | .blockVolume attributes =>
    match volumePricing service catalog now attributes "block_volume" none with
    | (outcome, service) => (outcome.map VolumePricing.pricingComponents, service)
  | .persistentStorage bootIds blockIds inventory =>
    match persistentStoragePricing service catalog now bootIds blockIds inventory with
    | (outcome, service) =>
      (outcome.map fun pricing => pricing.volumes.flatMap RenderedVolume.pricingComponents, service)

end Service

end FinopsAnalytics.OciPricing
