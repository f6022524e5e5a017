import FinopsAnalytics.DelayedReports
import FinopsAnalytics.FinopsLedger

/-!
# Current state and observations of the inventory

A collection run hands over the resources it discovered and the scopes it
covered. Its resources are stored as observations and carried into the current
state, which only moves forward in observation time. Resources that a complete
scope did not show turn missing.
-/

namespace FinopsAnalytics.InventoryPersistence

open PythonText UniqueTables OpportunityRecords Fallible DelayedReports
open FinopsLedger (normalizeProvider)

inductive InventoryPresenceStatus where
  | active | missing
deriving DecidableEq, Repr

inductive InventoryCoverageStatus where
  | complete | partial_ | failed
deriving DecidableEq, Repr

/-- `repr` of a text, from the runtime's tables of printable characters. -/
class TextLiteral where
  repr : String → String

/-- The literal of a text without quotes and escapes. -/
abbrev plainLiteral : TextLiteral where
  repr text := "'" ++ text ++ "'"

/-- The columns that a resource, its current row and its observations share.
Tags and attributes were validated when the resource was discovered; storing
them takes a copy. -/
structure ResourceDetails where
  nativeResourceType : Option String
  service : Option String
  name : Option String
  region : Option String
  availabilityZone : Option String
  lifecycleStatus : String
  nativeStatus : Option String
  tags : Metadata
  attributes : Metadata
deriving DecidableEq, Repr

structure DiscoveredInventoryResource extends ResourceDetails where
  provider : String
  resourceId : String
  resourceType : String
deriving DecidableEq, Repr

/-- Evidence about one discovery scope. -/
structure InventoryCoverage where
  provider : String
  cloudAccountId : ℤ
  resourceType : String
  status : InventoryCoverageStatus
  region : Option String
  scope : List (String × String)
deriving DecidableEq, Repr

/-- The unique columns of a current row. -/
structure ResourceIdentity where
  provider : String
  cloudAccountId : ℤ
  resourceType : String
  resourceId : String
deriving DecidableEq, Repr

/-- A row of `inventory_resources`. -/
structure InventoryResource extends ResourceDetails, ResourceIdentity where
  id : ℤ
  nativeAccountId : String
  presenceStatus : InventoryPresenceStatus
  firstSeenAt : Instant
  lastSeenAt : Instant
  firstSeenCollectionRunId : Option String
  lastSeenCollectionRunId : Option String
deriving DecidableEq, Repr

/-- A row of `inventory_resource_observations`. -/
structure InventoryResourceObservation extends ResourceDetails where
  id : ℤ
  inventoryResourceId : ℤ
  collectionRunId : Option String
  observedAt : Instant
deriving DecidableEq, Repr

/-- The unique columns of an observation. Rows without a run never collide. -/
def InventoryResourceObservation.uniqueKey (row : InventoryResourceObservation) :
    (ℤ × String) ⊕ ℤ :=
  match row.collectionRunId with
  | some run => .inl (row.inventoryResourceId, run)
  | none => .inr row.id

/-- The inventory tables. -/
structure InventoryStore where
  resources : Table InventoryResource.id InventoryResource.toResourceIdentity
  observations : Table InventoryResourceObservation.id InventoryResourceObservation.uniqueKey

/-- Insert a current row under the next number. -/
def InventoryStore.addResource (store : InventoryStore) (row : InventoryResource) :
    Except ServiceError (InventoryStore × InventoryResource) :=
  let numbered := { row with id := store.resources.nextNumber }
  match store.resources.insert numbered with
  | some resources => .ok ({ store with resources }, numbered)
  | none => .error .integrity

/-- Insert an observation under the next number. -/
def InventoryStore.addObservation (store : InventoryStore) (row : InventoryResourceObservation) :
    Except ServiceError InventoryStore :=
  match store.observations.insert { row with id := store.observations.nextNumber } with
  | some observations => .ok { store with observations }
  | none => .error .integrity

/-- `_chunks`: consecutive slices of one size. -/
def chunks {α : Type} (size : ℕ) (values : List α) : List (List α) :=
  (List.range ((values.length + size - 1) / size)).map fun index =>
    (values.drop (index * size)).take size

def resourceLookupChunk : ℕ := 250

def observationLookupChunk : ℕ := 500

section Service

variable [CaseMapping] [TextLiteral]

omit [TextLiteral] in
/-- `_validate_context`; the account and the run are persisted rows. -/
def validateContext (account : CloudAccount) (run : CollectionRun) :
    Except ServiceError String := do
  let accountProvider ← normalizeProvider account.provider
  let runProvider ← normalizeProvider run.provider
  if accountProvider ≠ runProvider then
    throw (.value "CollectionRun provider does not match CloudAccount provider")
  if run.accountId ≠ account.nativeAccountId then
    throw (.value "CollectionRun account_id does not match CloudAccount native identity")
  if run.id = "" then
    throw (.value "CollectionRun must be persisted before Inventory observations")
  return accountProvider

/-- The identity of a discovered resource in its batch. -/
def DiscoveredInventoryResource.identity (resource : DiscoveredInventoryResource) :
    String × String :=
  (resource.resourceType, resource.resourceId)

/-- The checks of a batch, resource after resource. -/
def checkBatch (provider : String) (seen : List (String × String)) :
    List DiscoveredInventoryResource → Except ServiceError Unit
  | [] => .ok ()
  | resource :: rest => do
    let found ← normalizeProvider resource.provider
    if found ≠ provider then
      throw (.value "Discovered resource provider does not match CloudAccount provider")
    if resource.identity ∈ seen then
      throw (.value ("Duplicate Inventory resource in one batch: (" ++
        TextLiteral.repr resource.resourceType ++ ", " ++
        TextLiteral.repr resource.resourceId ++ ")"))
    checkBatch provider (resource.identity :: seen) rest

end Service

/-- The current rows of a batch, read chunk by chunk. -/
def currentRows (size : ℕ) (store : InventoryStore) (provider : String) (accountId : ℤ)
    (identities : List (String × String)) : List InventoryResource :=
  (chunks size identities).flatMap fun chunk => store.resources.rows.filter fun row =>
    row.provider = provider ∧ row.cloudAccountId = accountId ∧
      (row.resourceType, row.resourceId) ∈ chunk

/-- `current_by_identity` before the new rows are added. -/
def knownRow (known : List InventoryResource) (identity : String × String) :
    Option InventoryResource :=
  known.find? fun row => (row.resourceType, row.resourceId) = identity

/-- The resources, out of a list, that a run has observed already, chunk by chunk. -/
def observedIds (size : ℕ) (store : InventoryStore) (runId : String) (ids : List ℤ) : List ℤ :=
  (chunks size ids).flatMap fun chunk =>
    (store.observations.rows.filter fun row =>
      row.collectionRunId = some runId ∧ row.inventoryResourceId ∈ chunk).map
        fun row => row.inventoryResourceId

/-- The current row of a resource that was never seen before. -/
def newResource (provider : String) (account : CloudAccount) (run : CollectionRun)
    (observedAt : Instant) (resource : DiscoveredInventoryResource) : InventoryResource where
  toResourceDetails := resource.toResourceDetails
  provider := provider
  cloudAccountId := account.id
  resourceType := resource.resourceType
  resourceId := resource.resourceId
  id := 0
  nativeAccountId := account.nativeAccountId
  presenceStatus := .active
  firstSeenAt := observedAt
  lastSeenAt := observedAt
  firstSeenCollectionRunId := some run.id
  lastSeenCollectionRunId := some run.id

/-- `_apply_current_state` -/
def applyCurrentState (current : InventoryResource) (resource : DiscoveredInventoryResource)
    (nativeAccountId collectionRunId : String) (observedAt : Instant) : InventoryResource :=
  { current with
    toResourceDetails := resource.toResourceDetails
    nativeAccountId := nativeAccountId
    presenceStatus := .active
    lastSeenAt := observedAt
    lastSeenCollectionRunId := some collectionRunId }

/-- The observation of a resource by a run. -/
def newObservation (current : InventoryResource) (run : CollectionRun) (observedAt : Instant)
    (resource : DiscoveredInventoryResource) : InventoryResourceObservation where
  toResourceDetails := resource.toResourceDetails
  id := 0
  inventoryResourceId := current.id
  collectionRunId := some run.id
  observedAt := observedAt

/-- Give a resource of the batch its current row, a new one where none is known. -/
def addMissing (provider : String) (account : CloudAccount) (run : CollectionRun)
    (observedAt : Instant) (known : List InventoryResource)
    (state : InventoryStore × List (DiscoveredInventoryResource × InventoryResource))
    (resource : DiscoveredInventoryResource) :
    Except ServiceError (InventoryStore × List (DiscoveredInventoryResource × InventoryResource)) :=
  match knownRow known resource.identity with
  | some current => .ok (state.1, state.2 ++ [(resource, current)])
  | none => do
    let (store, current) ← state.1.addResource
      (newResource provider account run observedAt resource)
    return (store, state.2 ++ [(resource, current)])

/-- Observe a resource of the batch; its current state only moves forward. -/
def observe (account : CloudAccount) (run : CollectionRun) (observedAt : Instant)
    (known : List InventoryResource) (alreadyObserved : List ℤ) (store : InventoryStore)
    (pair : DiscoveredInventoryResource × InventoryResource) :
    Except ServiceError InventoryStore :=
  let (resource, current) := pair
  if current.id ∈ alreadyObserved then .ok store
  else
    let isNew := (knownRow known resource.identity).isNone
    let moved := applyCurrentState current resource account.nativeAccountId run.id observedAt
    let updated : InventoryStore :=
      if isNew ∨ current.lastSeenAt ≤ observedAt then
        { store with resources := store.resources.put moved }
      else store
    updated.addObservation (newObservation current run observedAt resource)

section Service

variable [CaseMapping] [TextLiteral]

/-- `persist_observations` with the sizes of its two lookups; every caller passes
the observation time. The result holds the numbers of the batch's current rows. -/
def persistObservationsBy (resourceChunk observationChunk : ℕ) (store : InventoryStore)
    (account : CloudAccount) (run : CollectionRun) (resources : List DiscoveredInventoryResource)
    (observedAt : Instant) : Except ServiceError (InventoryStore × List ℤ) := do
  let provider ← validateContext account run
  if resources.isEmpty then
    return (store, [])
  checkBatch provider [] resources
  let known := currentRows resourceChunk store provider account.id
    (resources.map DiscoveredInventoryResource.identity)
  let (stored, currents) ←
    resources.foldlM (addMissing provider account run observedAt known) (store, [])
  let ids := currents.map fun pair => pair.2.id
  let alreadyObserved := observedIds observationChunk stored run.id ids
  let observed ← currents.foldlM (observe account run observedAt known alreadyObserved) stored
  return (observed, ids)

def persistObservations (store : InventoryStore) (account : CloudAccount) (run : CollectionRun)
    (resources : List DiscoveredInventoryResource) (observedAt : Instant) :
    Except ServiceError (InventoryStore × List ℤ) :=
  persistObservationsBy resourceLookupChunk observationLookupChunk store account run resources
    observedAt

omit [TextLiteral] in
/-- `statuses_by_scope`: the statuses of the scopes of account, region and type.
Narrower scopes are skipped. -/
def statusesByScope (provider : String) (account : CloudAccount) :
    List InventoryCoverage →
      Except ServiceError (List ((String × Option String) × InventoryCoverageStatus))
  | [] => .ok []
  | item :: rest => do
    let found ← normalizeProvider item.provider
    if found ≠ provider then
      throw (.value "Coverage provider does not match CloudAccount provider")
    if item.cloudAccountId ≠ account.id then
      throw (.value "Coverage cloud_account_id does not match CloudAccount")
    let later ← statusesByScope provider account rest
    if item.scope ≠ [] then return later
    return ((item.resourceType, item.region), item.status) :: later

/-- The scopes all of whose statuses are complete. -/
def completeScopes (statuses : List ((String × Option String) × InventoryCoverageStatus)) :
    List (String × Option String) :=
  (statuses.map Prod.fst).filter fun scope =>
    statuses.all fun entry => entry.1 ≠ scope ∨ entry.2 = .complete

/-- `observed_identities` -/
def observedIdentities (provider : String) :
    List DiscoveredInventoryResource → Except ServiceError (List (String × Option String × String))
  | [] => .ok []
  | resource :: rest => do
    let found ← normalizeProvider resource.provider
    let later ← observedIdentities provider rest
    if found = provider then
      return (resource.resourceType, resource.region, resource.resourceId) :: later
    return later

/-- The current row is proved to be absent. -/
def provedAbsent (provider : String) (account : CloudAccount)
    (complete : List (String × Option String)) (observed : List (String × Option String × String))
    (observedAt : Instant) (row : InventoryResource) : Bool :=
  row.provider = provider ∧ row.cloudAccountId = account.id ∧ row.presenceStatus = .active ∧
    (row.resourceType, row.region) ∈ complete ∧
    (row.resourceType, row.region, row.resourceId) ∉ observed ∧ row.lastSeenAt ≤ observedAt

/-- A row found absent turns missing and keeps its last sighting. -/
def markMissing (absent : InventoryResource → Bool) (row : InventoryResource) :
    InventoryResource :=
  if absent row then { row with presenceStatus := .missing } else row

omit [CaseMapping] [TextLiteral] in
theorem id_markMissing (absent : InventoryResource → Bool) (row : InventoryResource) :
    (markMissing absent row).id = row.id := by
  unfold markMissing
  split <;> rfl

omit [CaseMapping] [TextLiteral] in
theorem identity_markMissing (absent : InventoryResource → Bool) (row : InventoryResource) :
    (markMissing absent row).toResourceIdentity = row.toResourceIdentity := by
  unfold markMissing
  split <;> rfl

/-- `reconcile_complete_scopes`, with the number of rows that turned missing. -/
def reconcileCompleteScopes (store : InventoryStore) (account : CloudAccount)
    (run : CollectionRun) (resources : List DiscoveredInventoryResource)
    (coverage : List InventoryCoverage) (observedAt : Instant) :
    Except ServiceError (InventoryStore × ℕ) := do
  let provider ← validateContext account run
  let statuses ← statusesByScope provider account coverage
  let complete := completeScopes statuses
  if complete.isEmpty then
    return (store, 0)
  let observed ← observedIdentities provider resources
  let absent := provedAbsent provider account complete observed observedAt
  let resources := store.resources.modify (markMissing absent) (id_markMissing absent)
    (identity_markMissing absent)
  return ({ store with resources }, store.resources.rows.countP absent)

/-- What a run hands over. -/
structure Discovery where
  run : CollectionRun
  resources : List DiscoveredInventoryResource
  coverage : List InventoryCoverage
deriving DecidableEq, Repr

/-- `_persist_inventory_discovery`: both services with the start of the run as the
observation time. -/
def persistInventoryDiscovery (store : InventoryStore) (account : CloudAccount)
    (discovery : Discovery) : Except ServiceError InventoryStore := do
  let observedAt := discovery.run.startedAt
  let (stored, _) ← persistObservations store account discovery.run discovery.resources observedAt
  let (reconciled, _) ← reconcileCompleteScopes stored account discovery.run discovery.resources
    discovery.coverage observedAt
  return reconciled

end Service

end FinopsAnalytics.InventoryPersistence
