import FinopsAnalytics.PricingCatalog
import Mathlib.Algebra.Order.Field.Rat

/-!
# Administration of the pricing catalog

An operation returns its outcome together with the catalog it leaves. The
service's own errors are raised before anything is written. A flush checks the
constraints of the table; when one fails, the session rolls back what the
operation had written.
-/

namespace FinopsAnalytics.PricingAdmin

open PythonText PricingCatalog

/-- `PricingAdminError` by its code, and the error of a failed flush, be it one of
integrity or of data that the columns cannot hold. -/
inductive PricingAdminError where
  | pricingNotFound (message : String)
  | pricingOverlap (message : String)
  | pricingInvalid (message : String)
  | integrityError
deriving DecidableEq, Repr

abbrev Outcome := Except PricingAdminError PricingCatalogItem × Catalog

/-- The arguments of `create_item`. -/
structure PricingCreate where
  service : String
  sku : String
  description : String
  unit : String
  price : ℚ
  currency : String
  effectiveFrom : Instant
  effectiveUntil : Option Instant
  enabled : Bool
  source : String
deriving DecidableEq, Repr

/-- The arguments of `update_item`. -/
structure PricingUpdate where
  price : Option ℚ
  description : Option String
  effectiveFrom : Option Instant
  source : String
deriving DecidableEq, Repr

/-- `get_item`. -/
def getItem (catalog : Catalog) (provider itemId : String) : Option PricingCatalogItem :=
  catalog.find? fun item => item.id = itemId && item.provider = provider

/-- The rows with the id of an updated object, rewritten. -/
def writeItem (catalog : Catalog) (itemId : String)
    (write : PricingCatalogItem → PricingCatalogItem) : Catalog :=
  catalog.map fun item => if item.id = itemId then write item else item

/-- The filter of `_ensure_no_overlap`. -/
def covers (identity : PricingIdentity) (start : Instant) (stop : Option Instant)
    (excludeIds : List String) (item : PricingCatalogItem) : Bool :=
  decide (item.identity = identity) && item.enabled &&
    (match item.effectiveUntil with
      | none => true
      | some effectiveUntil => decide (start < effectiveUntil)) &&
    (match stop with
      | none => true
      | some stop => decide (item.effectiveFrom < stop)) &&
    decide (item.id ∉ excludeIds)

/-- The filter selects the enabled rows of the identity that the interval meets. -/
theorem covers_iff {identity : PricingIdentity} {start : Instant} {stop : Option Instant}
    {excludeIds : List String} {item : PricingCatalogItem} :
    covers identity start stop excludeIds item = true ↔
      item.identity = identity ∧ item.enabled = true ∧ item.interval.Meets ⟨start, stop⟩ ∧
        item.id ∉ excludeIds := by
  unfold covers
  cases rowEnd : item.effectiveUntil <;> cases stop <;>
    simp [HalfOpenIntervals.Interval.Meets, PricingCatalogItem.interval, rowEnd, and_assoc]

def ensureNoOverlap (catalog : Catalog) (identity : PricingIdentity) (start : Instant)
    (stop : Option Instant) (excludeIds : List String) : Except PricingAdminError Unit :=
  if catalog.any (covers identity start stop excludeIds) then
    .error (.pricingOverlap "another enabled price already covers part of this effective interval")
  else .ok ()

/-- A text column holds at most so many characters, and no null character. -/
def fitsText (limit : ℕ) (text : String) : Bool :=
  decide (text.length ≤ limit) && text.toList.all (· ≠ '\u0000')

/-- The text columns, and a price of `Numeric(20, 8)`, which is rounded to eight
decimal places. -/
def fitsColumns (item : PricingCatalogItem) : Bool :=
  fitsText 16 item.provider && fitsText 64 item.service && fitsText 160 item.sku &&
    fitsText 255 item.description && fitsText 32 item.unit && fitsText 3 item.currency &&
    fitsText 80 item.source && decide (item.price + 1 / 200000000 < 1000000000000)

section Operations

variable [CaseMapping]

def cleanIdentity (provider service sku unit : String) : PricingIdentity :=
  { provider := CaseMapping.lower (strip provider)
    service := CaseMapping.lower (strip service)
    sku := strip sku
    unit := CaseMapping.upper (strip unit) }

def validateValues (service sku description unit : String) (price : ℚ) (currency source : String)
    (effectiveFrom : Instant) (effectiveUntil : Option Instant) :
    Except PricingAdminError Unit := do
  if service = "" ∨ sku = "" ∨ description = "" ∨ unit = "" then
    throw (.pricingInvalid "service, sku, description and unit are required")
  if price < 0 then throw (.pricingInvalid "price must be greater than or equal to zero")
  if currency.length ≠ 3 ∨ currency ≠ CaseMapping.upper currency then
    throw (.pricingInvalid "currency must be an uppercase ISO code")
  if source = "" then throw (.pricingInvalid "source is required")
  if ∃ stop ∈ effectiveUntil, stop ≤ effectiveFrom then
    throw (.pricingInvalid "effective_until must be after effective_from")

/-- The constraints that inserting a row can violate: what its columns can hold, the
checks on them, the primary key and the unique start of an identity. The unique
start counts disabled rows. -/
def violatesConstraint (catalog : Catalog) (item : PricingCatalogItem) : Bool :=
  !fitsColumns item || decide (item.price < 0) ||
    decide (item.currency.length ≠ 3 ∨ item.currency ≠ CaseMapping.upper item.currency) ||
    decide (∃ stop ∈ item.effectiveUntil, stop ≤ item.effectiveFrom) ||
    catalog.any fun other => decide (other.id = item.id) ||
      (decide (other.identity = item.identity) && decide (other.effectiveFrom = item.effectiveFrom))

/-- Flush an insert on top of the pending catalog, or roll back to the one the
operation began with. The schema of a request admits prices of at most eight decimal
places, so the column keeps them as they are. -/
def flushInsert (begun pending : Catalog) (item : PricingCatalogItem) : Outcome :=
  if violatesConstraint pending item then (.error .integrityError, begun)
  else (.ok item, pending ++ [item])

/-- `create_item`; `newId` is the id that the insert draws. -/
def createItem (provider : String) (request : PricingCreate) (newId : String)
    (catalog : Catalog) : Outcome :=
  let identity := cleanIdentity (CaseMapping.lower (strip provider)) request.service request.sku
    request.unit
  let description := strip request.description
  let currency := CaseMapping.upper (strip request.currency)
  let source := CaseMapping.upper (strip request.source)
  match validateValues identity.service identity.sku description identity.unit request.price
      currency source request.effectiveFrom request.effectiveUntil with
  | .error invalid => (.error invalid, catalog)
  | .ok _ =>
    match (if request.enabled then
        ensureNoOverlap catalog identity request.effectiveFrom request.effectiveUntil []
      else .ok ()) with
    | .error conflict => (.error conflict, catalog)
    | .ok _ =>
      flushInsert catalog catalog
        { id := newId
          provider := identity.provider
          service := identity.service
          sku := identity.sku
          description := description
          unit := identity.unit
          price := request.price
          currency := currency
          effectiveFrom := request.effectiveFrom
          effectiveUntil := request.effectiveUntil
          enabled := request.enabled
          source := source }

/-- The branch of `update_item` without a price. -/
def updateDescription (item : PricingCatalogItem) (changes : PricingUpdate)
    (catalog : Catalog) : Outcome :=
  if changes.effectiveFrom.isSome then
    (.error (.pricingInvalid
      "effective_from can only be changed when creating a new price version"), catalog)
  else
    match changes.description with
    | none => (.error (.pricingInvalid "no pricing changes were provided"), catalog)
    | some description =>
      let cleaned := strip description
      if cleaned = "" then (.error (.pricingInvalid "description cannot be blank"), catalog)
      else if !fitsText 255 cleaned then (.error .integrityError, catalog)
      else
        (.ok { item with description := cleaned },
          writeItem catalog item.id fun row => { row with description := cleaned })

/-- The row of a new version. -/
def nextVersion (item : PricingCatalogItem) (price : ℚ) (changes : PricingUpdate)
    (transition : Instant) (newId : String) : PricingCatalogItem :=
  { item with
    id := newId
    description := (changes.description.map strip).getD item.description
    price := price
    effectiveFrom := transition
    enabled := true
    source := CaseMapping.upper (strip changes.source) }

/-- The branch of `update_item` with a price: the current version ends where the
new one starts. -/
def updatePrice (item : PricingCatalogItem) (price : ℚ) (changes : PricingUpdate)
    (now : Instant) (newId : String) (catalog : Catalog) : Outcome :=
  if price < 0 then
    (.error (.pricingInvalid "price must be greater than or equal to zero"), catalog)
  else if !item.enabled then
    (.error (.pricingOverlap
      "inactive pricing cannot be versioned; create a new price instead"), catalog)
  else
  let transition := changes.effectiveFrom.getD now
  if transition ≤ item.effectiveFrom then
    (.error (.pricingInvalid
      "new pricing effective_from must be after the current version start"), catalog)
  else if ∃ stop ∈ item.effectiveUntil, stop ≤ transition then
    (.error (.pricingInvalid
      "new pricing effective_from must be inside the current version interval"), catalog)
  else
  match ensureNoOverlap catalog (cleanIdentity item.provider item.service item.sku item.unit)
      transition item.effectiveUntil [item.id] with
  | .error conflict => (.error conflict, catalog)
  | .ok _ =>
    let next := nextVersion item price changes transition newId
    if next.description = "" then
      (.error (.pricingInvalid "description cannot be blank"), catalog)
    else
      flushInsert catalog
        (writeItem catalog item.id fun row => { row with effectiveUntil := some transition }) next

/-- `update_item`. -/
def updateItem (provider itemId : String) (changes : PricingUpdate) (now : Instant)
    (newId : String) (catalog : Catalog) : Outcome :=
  match getItem catalog (CaseMapping.lower (strip provider)) itemId with
  | none => (.error (.pricingNotFound "pricing item not found"), catalog)
  | some item =>
    match changes.price with
    | none => updateDescription item changes catalog
    | some price => updatePrice item price changes now newId catalog

/-- `deactivate`. -/
def deactivate (provider itemId : String) (catalog : Catalog) : Outcome :=
  match getItem catalog (CaseMapping.lower (strip provider)) itemId with
  | none => (.error (.pricingNotFound "pricing item not found"), catalog)
  | some item =>
    if !item.enabled then (.ok item, catalog)
    else
      (.ok { item with enabled := false },
        writeItem catalog item.id fun row => { row with enabled := false })

/-- One administrative operation with the values it reads from outside: the
clock and the id that an insert draws. -/
inductive Operation where
  | create (provider : String) (request : PricingCreate) (newId : String)
  | update (provider itemId : String) (changes : PricingUpdate) (now : Instant) (newId : String)
  | deactivate (provider itemId : String)
deriving DecidableEq, Repr

def Operation.apply : Operation → Catalog → Outcome
  | .create provider request newId, catalog => createItem provider request newId catalog
  | .update provider itemId changes now newId, catalog =>
    updateItem provider itemId changes now newId catalog
  | .deactivate provider itemId, catalog => PricingAdmin.deactivate provider itemId catalog

/-- The catalog that a sequence of operations builds. -/
def catalogAfter (operations : List Operation) : Catalog :=
  operations.foldl (fun catalog operation => (operation.apply catalog).2) []

end Operations

end FinopsAnalytics.PricingAdmin
