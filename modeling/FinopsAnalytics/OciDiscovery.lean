import FinopsAnalytics.Dictionaries
import FinopsAnalytics.DistinctKeys
import FinopsAnalytics.Fallible
import FinopsAnalytics.FinopsLedger
import Mathlib.Data.Prod.Lex

/-!
# Discovery of an OCI account

A discovery resolves the configured scope into compartments, searches the
tenancy, and then lists instances, volumes, attachments and addresses region by
region and compartment by compartment. A list call that fails leaves the items
of its earlier pages and uncovers its resource type; one that fails to
authenticate ends the discovery.
-/

namespace FinopsAnalytics.OciDiscovery

open PythonText OpportunityRecords Dictionaries DistinctKeys Fallible

/-- What a failed call is classified as. -/
structure OciFailure where
  category : String
  message : String
  authenticationFatal : Bool
deriving DecidableEq, Repr

/-- `list_all_pages`: the items of all pages, or of those before a failure. -/
structure Listing (α : Type) where
  items : List α
  failure : Option OciFailure

structure OciDiscoveryIssue where
  category : String
  source : String
  operation : String
  message : String
  region : Option String
  compartmentId : Option String
  resourceType : Option String
  fatal : Bool
deriving DecidableEq, Repr

/-- The fields that the items of the inventory calls share. -/
structure ServiceItem where
  id : Option String
  displayName : Option String
  compartmentId : Option String
  lifecycleState : Option String
  availabilityDomain : Option String
  freeformTags : List (String × String)
  definedTags : Metadata
  timeCreated : Option String

structure ComputeItem extends ServiceItem where
  shape : Option String
  faultDomain : Option String
  ocpus : Option ℚ
  memoryInGbs : Option ℚ

structure BlockVolumeItem extends ServiceItem where
  sizeInGbs : Option ℤ
  vpusPerGb : Option ℤ
  isAutoTuneEnabled : Option Bool

structure BootVolumeItem extends ServiceItem where
  sizeInGbs : Option ℤ
  vpusPerGb : Option ℤ

structure PublicIpItem extends ServiceItem where
  lifetime : Option String
  scope : Option String
  ipAddress : Option String
  assignedEntityId : Option String
  assignedEntityType : Option String

/-- An attachment of a block volume or of a boot volume. -/
structure AttachmentItem where
  volumeId : Option String
  instanceId : Option String
  lifecycleState : Option String

structure SearchItem extends ServiceItem where
  resourceType : Option String
  region : Option String

/-- The answers of the OCI services to the calls of one discovery. -/
structure OciServices where
  listCompartments : (region parent : String) → (inSubtree : Bool) → Listing (Option String)
  searchResources : (region : String) → Listing SearchItem
  listAvailabilityDomains : (region : String) → Listing (Option String)
  listInstances : (region compartment : String) → Listing ComputeItem
  listVolumes : (region compartment : String) → Listing BlockVolumeItem
  listBootVolumes : (region compartment : String) → Listing BootVolumeItem
  listVolumeAttachments : (region compartment : String) → Listing AttachmentItem
  listBootVolumeAttachments : (region domain compartment : String) → Listing AttachmentItem
  listRegionalPublicIps : (region compartment : String) → Listing PublicIpItem
  listDomainPublicIps : (region compartment domain : String) → Listing PublicIpItem

structure OciDiscoveredResource where
  resourceId : String
  resourceType : String
  name : Option String
  region : Option String
  compartmentId : Option String
  lifecycleState : Option String
  availabilityDomain : Option String
  freeformTags : List (String × String)
  definedTags : Metadata
  sources : List String
  attributes : Metadata
deriving DecidableEq, Repr

structure OciResourceRelationship where
  relationType : String
  sourceId : String
  targetId : String
  sourceType : String
  targetType : String
deriving DecidableEq, Repr

def wave1ResourceTypes : List String :=
  ["compute_instance", "block_volume", "boot_volume", "public_ip"]

/-- What a discovery has gathered: the resources by identifier, the relations,
the identifiers that the service calls returned by type, the types whose calls
were incomplete, the conflicts of state and the issues. -/
structure Progress where
  resources : List (String × OciDiscoveredResource)
  relationships : List OciResourceRelationship
  searchIds : List String
  serviceIds : List (String × String)
  uncovered : List String
  lifecycleConflicts : ℕ
  errors : List OciDiscoveryIssue

/-- The description of a call. -/
structure Call where
  source : String
  operation : String
  region : Option String
  compartmentId : Option String
  resourceType : Option String

/-- A discovery that ends early leaves its issues. Whoever asked for it raises
them and reads nothing else of the failed result. -/
abbrev Attempt := Except (List OciDiscoveryIssue)

def issueOf (call : Call) (failure : OciFailure) : OciDiscoveryIssue where
  category := failure.category
  source := call.source
  operation := call.operation
  message := failure.message
  region := call.region
  compartmentId := call.compartmentId
  resourceType := call.resourceType
  fatal := failure.authenticationFatal

/-- `paged`: the items of a call and whether it was complete. -/
def paged {α : Type} (progress : Progress) (call : Call) (listing : Listing α) :
    Attempt (List α × Bool × Progress) :=
  match listing.failure with
  | none => .ok (listing.items, true, progress)
  | some failure =>
    let errors := progress.errors ++ [issueOf call failure]
    if failure.authenticationFatal then .error errors
    else .ok (listing.items, false, { progress with errors })

/-- A listing whose calls all succeeded is complete. -/
theorem paged_complete {α : Type} {progress : Progress} {call : Call} {listing : Listing α}
    (complete : listing.failure = none) :
    paged progress call listing = .ok (listing.items, true, progress) := by
  simp [paged, complete]

section Scope

/-- The configuration of an account as a collection read it. -/
structure OciConnectionSnapshot where
  tenancyOcid : String
  scopeRegions : List String
  compartmentOcids : List String
  includeRootCompartment : Bool
  includeSubcompartments : Bool
deriving DecidableEq, Repr

structure OciDiscoveryScope where
  regions : List String
  compartmentIds : List String
  complete : Bool
deriving DecidableEq, Repr

/-- The compartments of an answer that are not known yet, in order. -/
def appendNewCompartments (items : List (Option String)) (resolved : List String) : List String :=
  items.foldl (fun known item =>
    match item with
    | some child => if truthy item && child ∉ known then known ++ [child] else known
    | none => known) resolved

/-- The compartments below a branch, breadth first. The fuel bounds the number
of queue entries taken; without fuel the search has not returned. -/
def expandBranch (services : OciServices) (region : String) :
    ℕ → List String → List String → List String → Bool → Progress →
      Attempt (Option (List String × Bool × Progress))
  | 0, _, _, _, _, _ => .ok none
  | _ + 1, [], _, resolved, complete, progress => .ok (some (resolved, complete, progress))
  | fuel + 1, parent :: queue, expanded, resolved, complete, progress =>
    if parent ∈ expanded then
      expandBranch services region fuel queue expanded resolved complete progress
    else do
      let (items, ok, progress) ← paged progress
        ⟨"identity_api", "list_compartments", some region, some parent, none⟩
        (services.listCompartments region parent false)
      let children := items.filterMap fun item => if truthy item then item else none
      let expanded := parent :: expanded
      expandBranch services region fuel (queue ++ children.filter (· ∉ expanded)) expanded
        (appendNewCompartments items resolved) (complete && ok) progress

/-- The branch of one root; the tenancy is listed with its subtree. -/
def expandRoot (services : OciServices) (snapshot : OciConnectionSnapshot) (region : String)
    (fuel : ℕ) (state : Option (List String × Bool × Progress)) (root : String) :
    Attempt (Option (List String × Bool × Progress)) :=
  match state with
  | none => .ok none
  | some (resolved, complete, progress) =>
    if root = snapshot.tenancyOcid then do
      let (items, ok, progress) ← paged progress
        ⟨"identity_api", "list_compartments", some region, some root, none⟩
        (services.listCompartments region root true)
      return some (appendNewCompartments items resolved, complete && ok, progress)
    else expandBranch services region fuel [root] [] resolved complete progress

/-- The compartments that the configuration names. -/
def rootCompartments (snapshot : OciConnectionSnapshot) : List String :=
  let named := (snapshot.compartmentOcids.filter (· ≠ "")).eraseDups
  if snapshot.includeRootCompartment && snapshot.tenancyOcid ∉ named then
    named ++ [snapshot.tenancyOcid]
  else named

/-- `resolve_oci_discovery_scope` -/
def resolveOciDiscoveryScope (services : OciServices) (snapshot : OciConnectionSnapshot)
    (fuel : ℕ) (progress : Progress) : Attempt (Option (OciDiscoveryScope × Progress)) :=
  let regions := (snapshot.scopeRegions.filter (· ≠ "")).eraseDups
  let roots := rootCompartments snapshot
  match regions with
  | [] => .ok (some (⟨regions, roots, true⟩, progress))
  | region :: _ =>
    if !snapshot.includeSubcompartments || roots.isEmpty then
      .ok (some (⟨regions, roots, true⟩, progress))
    else do
      let expanded ← roots.foldlM (expandRoot services snapshot region fuel)
        (some (roots, true, progress))
      return expanded.map fun (resolved, complete, progress) =>
        (⟨regions, resolved, complete⟩, progress)

end Scope

section Resources

/-- The entries that are present. -/
def present (entries : List (String × Option MetaValue)) : Metadata :=
  entries.filterMap fun entry => entry.2.map fun value => (entry.1, value)

/-- A resource of a service call; an item without an identifier gives none. -/
def serviceResource (resourceType source region : String) (item : ServiceItem)
    (attributes : List (String × Option MetaValue)) : Option OciDiscoveredResource :=
  match item.id with
  | none => none
  | some resourceId =>
    if resourceId = "" then none
    else some
      { resourceId
        resourceType
        name := item.displayName
        region := some region
        compartmentId := item.compartmentId
        lifecycleState := item.lifecycleState
        availabilityDomain := item.availabilityDomain
        freeformTags := item.freeformTags
        definedTags := item.definedTags
        sources := [source]
        attributes := present attributes }

/-- `_compute_resource`; the operating system read from the image is left out. -/
def computeResource (region : String) (item : ComputeItem) : Option OciDiscoveredResource :=
  serviceResource "compute_instance" "compute_api" region item.toServiceItem
    [("shape", item.shape.map .text), ("fault_domain", item.faultDomain.map .text),
      ("time_created", item.timeCreated.map .text), ("ocpus", item.ocpus.map .number),
      ("memory_in_gbs", item.memoryInGbs.map .number)]

/-- `_block_volume_resource` -/
def blockVolumeResource (region : String) (item : BlockVolumeItem) :
    Option OciDiscoveredResource :=
  serviceResource "block_volume" "block_storage_api" region item.toServiceItem
    [("size_in_gbs", item.sizeInGbs.map .integer), ("vpus_per_gb", item.vpusPerGb.map .integer),
      ("is_auto_tune_enabled", item.isAutoTuneEnabled.map .boolean),
      ("time_created", item.timeCreated.map .text)]

/-- `_boot_volume_resource` -/
def bootVolumeResource (region : String) (item : BootVolumeItem) : Option OciDiscoveredResource :=
  serviceResource "boot_volume" "block_storage_api" region item.toServiceItem
    [("size_in_gbs", item.sizeInGbs.map .integer), ("vpus_per_gb", item.vpusPerGb.map .integer),
      ("time_created", item.timeCreated.map .text)]

/-- `_public_ip_resource` -/
def publicIpResource (region : String) (item : PublicIpItem) : Option OciDiscoveredResource :=
  serviceResource "public_ip" "virtual_network_api" region item.toServiceItem
    [("lifetime", item.lifetime.map .text), ("scope", item.scope.map .text),
      ("ip_address", item.ipAddress.map .text),
      ("assigned_entity_id", item.assignedEntityId.map .text),
      ("assigned_entity_type", item.assignedEntityType.map .text),
      ("is_associated", some (.boolean item.assignedEntityId.isSome)),
      ("time_created", item.timeCreated.map .text)]

section Search

variable [CaseMapping]

/-- `_normalize_search_type` -/
def normalizeSearchType (native : String) : String :=
  let token := String.ofList ((CaseMapping.lower native).toList.filter fun c =>
    ('a' ≤ c ∧ c ≤ 'z') ∨ ('0' ≤ c ∧ c ≤ '9'))
  (([("instance", "compute_instance"), ("computeinstance", "compute_instance"),
    ("volume", "block_volume"), ("blockvolume", "block_volume"), ("bootvolume", "boot_volume"),
    ("publicip", "public_ip")] : List (String × String)).lookup token).getD "oci_resource"

/-- `_search_resource` -/
def searchResource (item : SearchItem) : Option OciDiscoveredResource :=
  let native := orEmpty item.resourceType
  match item.id with
  | none => none
  | some resourceId =>
    if resourceId = "" then none
    else some
      { resourceId
        resourceType := normalizeSearchType native
        name := item.displayName
        region := item.region
        compartmentId := item.compartmentId
        lifecycleState := item.lifecycleState
        availabilityDomain := item.availabilityDomain
        freeformTags := item.freeformTags
        definedTags := item.definedTags
        sources := ["resource_search"]
        attributes := present [("native_resource_type", some (.text native)),
          ("time_created", if truthy item.timeCreated then item.timeCreated.map .text else none)] }

end Search

/-- Sources in the order in which they were added. -/
def mergeSources (known incoming : List String) : List String :=
  incoming.foldl (fun sources source =>
    if source ∈ sources then sources else sources ++ [source]) known

/-- The service call reports another state than the search did. -/
def conflicting (existing incoming : OciDiscoveredResource) : Bool :=
  truthy existing.lifecycleState && truthy incoming.lifecycleState &&
    existing.lifecycleState != incoming.lifecycleState &&
    "resource_search" ∈ mergeSources existing.sources incoming.sources

/-- A known resource as a service call reports it. -/
def authoritativeMerge (existing incoming : OciDiscoveredResource) : OciDiscoveredResource :=
  let noted :=
    if conflicting existing incoming then
      setKey "discovery_state_conflict" (.boolean true)
        (setKey "search_lifecycle_state" (.text (orEmpty existing.lifecycleState))
          existing.attributes)
    else existing.attributes
  { resourceId := existing.resourceId
    resourceType := incoming.resourceType
    name := incoming.name.or existing.name
    region := incoming.region.or existing.region
    compartmentId := incoming.compartmentId.or existing.compartmentId
    lifecycleState := incoming.lifecycleState.or existing.lifecycleState
    availabilityDomain := incoming.availabilityDomain.or existing.availabilityDomain
    freeformTags := incoming.freeformTags
    definedTags := incoming.definedTags
    sources := mergeSources existing.sources incoming.sources
    attributes := update noted incoming.attributes }

/-- `_upsert`, with the number of conflicts. -/
def upsert (resources : List (String × OciDiscoveredResource)) (incoming : OciDiscoveredResource)
    (authoritative : Bool) : List (String × OciDiscoveredResource) × ℕ :=
  match resources.lookup incoming.resourceId with
  | none => (setKey incoming.resourceId incoming resources, 0)
  | some existing =>
    if authoritative then
      (setKey incoming.resourceId (authoritativeMerge existing incoming) resources,
        if conflicting existing incoming then 1 else 0)
    else
      (setKey incoming.resourceId
        { existing with sources := mergeSources existing.sources incoming.sources } resources, 0)

/-- Take a resource that a service call returned. -/
def takeResource (progress : Progress) (resource : OciDiscoveredResource) : Progress :=
  let (resources, conflicts) := upsert progress.resources resource true
  { progress with
    resources
    lifecycleConflicts := progress.lifecycleConflicts + conflicts
    serviceIds := (resource.resourceType, resource.resourceId) :: progress.serviceIds }

/-- Set entries of the attributes of a resource, if it is known. -/
def describe (resources : List (String × OciDiscoveredResource)) (resourceId : String)
    (entries : Metadata) : List (String × OciDiscoveredResource) :=
  match resources.lookup resourceId with
  | none => resources
  | some resource =>
    setKey resourceId { resource with attributes := update resource.attributes entries } resources

/-- A resource type whose calls were not all complete. -/
def Progress.uncover (progress : Progress) (resourceType : String) : Progress :=
  { progress with uncovered := resourceType :: progress.uncovered }

/-- The resources of one list call, taken in order. -/
def takeListed {α : Type} (resourceType source operation region compartment : String)
    (build : α → Option OciDiscoveredResource) (listing : Listing α) (progress : Progress) :
    Attempt (List OciDiscoveredResource × Progress) := do
  let (items, ok, progress) ← paged progress
    ⟨source, operation, some region, some compartment, some resourceType⟩ listing
  let covered := if ok then progress else progress.uncover resourceType
  let resources := items.filterMap build
  return (resources, resources.foldl takeResource covered)

end Resources

section Attachments

variable [CaseMapping]

/-- `_active_attachment` -/
def activeAttachment (item : AttachmentItem) : Bool :=
  let state := CaseMapping.upper (orEmpty item.lifecycleState)
  state ≠ "DETACHED" ∧ state ≠ "DELETED"

/-- The volume and the instance that an active attachment links. -/
def attachmentLink (item : AttachmentItem) : Option (String × String) :=
  match item.volumeId, item.instanceId with
  | some volume, some instance_ =>
    if volume = "" ∨ instance_ = "" ∨ !activeAttachment item then none
    else some (volume, instance_)
  | _, _ => none

/-- `sorted(attached.get(volume_id, set()))` -/
def attachedInstances (items : List AttachmentItem) (volume : String) : List String :=
  sortByKey id (((items.filterMap attachmentLink).filter fun link => link.1 = volume).map
    Prod.snd).eraseDups

/-- The entries that an attachment call writes for a volume. -/
def attachmentEntries (items : List AttachmentItem) (complete : Bool) (volume : String) :
    Metadata :=
  if complete then
    [("attached_instance_ids", .texts (attachedInstances items volume)),
      ("attachment_count", .integer (attachedInstances items volume).length),
      ("attachment_coverage", .text "complete")]
  else [("attachment_coverage", .text "incomplete")]

/-- Add a relation to the set. -/
def addRelationship (relationships : List OciResourceRelationship)
    (relationship : OciResourceRelationship) : List OciResourceRelationship :=
  if relationship ∈ relationships then relationships else relationships ++ [relationship]

/-- The part that the two kinds of volumes share: relate the links of one call
and count them for the volumes of the same call's scope. -/
def correlateAttachments (relationType volumeType : String) (items : List AttachmentItem)
    (complete : Bool) (volumeIds : List String) (progress : Progress) : Progress :=
  { progress with
    relationships := (items.filterMap attachmentLink).foldl (fun relationships link =>
      addRelationship relationships
        ⟨relationType, link.1, link.2, volumeType, "compute_instance"⟩) progress.relationships
    resources := volumeIds.foldl (fun resources volume =>
      describe resources volume (attachmentEntries items complete volume)) progress.resources }

/-- `_correlate_block_volume_attachments` -/
def correlateBlockVolumeAttachments (services : OciServices) (region compartment : String)
    (volumeIds : List String) (progress : Progress) : Attempt Progress := do
  let (items, complete, progress) ← paged progress
    ⟨"compute_api", "list_volume_attachments", some region, some compartment,
      some "block_volume"⟩ (services.listVolumeAttachments region compartment)
  return correlateAttachments "volume_attachment" "block_volume" items complete volumeIds progress

/-- `_correlate_boot_volume_attachments` for one availability domain. -/
def correlateBootVolumeAttachments (services : OciServices) (region compartment : String)
    (progress : Progress) (domain : String × List String) : Attempt Progress := do
  let (items, complete, progress) ← paged progress
    ⟨"compute_api", "list_boot_volume_attachments", some region, some compartment,
      some "boot_volume"⟩ (services.listBootVolumeAttachments region domain.1 compartment)
  return correlateAttachments "boot_volume_attachment" "boot_volume" items complete domain.2
    progress

/-- One more boot volume under its availability domain. -/
def groupByDomain (domains : List (String × List String)) (resource : OciDiscoveredResource) :
    List (String × List String) :=
  match resource.availabilityDomain with
  | some domain =>
    if domain = "" then domains
    else setKey domain ((domains.lookup domain).getD [] ++ [resource.resourceId]) domains
  | none => domains

/-- `boot_ids_by_ad` -/
def bootIdsByAd (resources : List OciDiscoveredResource) : List (String × List String) :=
  resources.foldl groupByDomain []

/-- The availability domains that resources name. -/
def namedDomains (resources : List OciDiscoveredResource) : List String :=
  resources.filterMap fun resource =>
    if truthy resource.availabilityDomain then resource.availabilityDomain else none

/-- One compartment of a region: its instances and volumes, and the attachments
that the calls for this compartment return. The names of the availability
domains that its resources lie in are added to `domains`. -/
def discoverCompartment (services : OciServices) (region : String)
    (state : Progress × List String) (compartment : String) :
    Attempt (Progress × List String) := do
  let (progress, domains) := state
  let (instances, progress) ← takeListed "compute_instance" "compute_api" "list_instances"
    region compartment (computeResource region) (services.listInstances region compartment) progress
  let (volumes, progress) ← takeListed "block_volume" "block_storage_api" "list_volumes"
    region compartment (blockVolumeResource region) (services.listVolumes region compartment)
    progress
  let (boots, progress) ← takeListed "boot_volume" "block_storage_api" "list_boot_volumes"
    region compartment (bootVolumeResource region) (services.listBootVolumes region compartment)
    progress
  let progress ← correlateBlockVolumeAttachments services region compartment
    (volumes.map OciDiscoveredResource.resourceId) progress
  let progress ← (bootIdsByAd boots).foldlM
    (correlateBootVolumeAttachments services region compartment) progress
  return (progress, domains ++ namedDomains instances ++ namedDomains volumes ++ namedDomains boots)

end Attachments

section Addresses

/-- The items by identifier; a later item takes the place of an earlier one. -/
def dedupedById (items : List PublicIpItem) : List PublicIpItem :=
  (items.foldl (fun known item =>
    match item.id with
    | some id => if id = "" then known else setKey id item known
    | none => known) ([] : List (String × PublicIpItem))).map Prod.snd

/-- The addresses of one more availability domain. -/
def listDomainAddresses (services : OciServices) (region compartment : String)
    (state : List PublicIpItem × Bool × Progress) (domain : String) :
    Attempt (List PublicIpItem × Bool × Progress) := do
  let (known, complete, progress) := state
  let (items, ok, progress) ← paged progress
    ⟨"virtual_network_api", "list_public_ips_availability_domain", some region, some compartment,
      some "public_ip"⟩ (services.listDomainPublicIps region compartment domain)
  return (known ++ items, complete && ok, progress)

/-- `_list_public_ips` -/
def listPublicIps (services : OciServices) (region compartment : String) (domains : List String)
    (progress : Progress) : Attempt (List PublicIpItem × Bool × Progress) := do
  let (items, complete, progress) ← paged progress
    ⟨"virtual_network_api", "list_public_ips_region", some region, some compartment,
      some "public_ip"⟩ (services.listRegionalPublicIps region compartment)
  let (items, complete, progress) ← domains.foldlM
    (listDomainAddresses services region compartment) (items, complete, progress)
  return (dedupedById items, complete, progress)

variable [CaseMapping]

/-- Take an address and the relation to what it is assigned to. -/
def takePublicIp (progress : Progress) (resource : OciDiscoveredResource) : Progress :=
  let taken := takeResource progress resource
  match resource.attributes.lookup "assigned_entity_id" with
  | some (.text entity) =>
    if entity = "" then taken
    else
      let entityType :=
        match resource.attributes.lookup "assigned_entity_type" with
        | some (.text kind) => if kind = "" then "entity" else kind
        | _ => "entity"
      let assignment : OciResourceRelationship := ⟨"public_ip_assignment", resource.resourceId,
        entity, "public_ip", CaseMapping.lower entityType⟩
      { taken with relationships := addRelationship taken.relationships assignment }
  | _ => taken

/-- The addresses of one compartment. -/
def discoverPublicIps (services : OciServices) (region : String) (domains : List String)
    (progress : Progress) (compartment : String) : Attempt Progress := do
  let (items, complete, progress) ← listPublicIps services region compartment domains progress
  let covered := if complete then progress else progress.uncover "public_ip"
  return (items.filterMap (publicIpResource region)).foldl takePublicIp covered

/-- One region of the scope. -/
def discoverRegion (services : OciServices) (snapshot : OciConnectionSnapshot)
    (compartmentIds : List String) (progress : Progress) (region : String) : Attempt Progress := do
  let (names, complete, progress) ← paged progress
    ⟨"identity_api", "list_availability_domains", some region, some snapshot.tenancyOcid, none⟩
    (services.listAvailabilityDomains region)
  let (progress, observed) ← compartmentIds.foldlM (discoverCompartment services region)
    (progress, [])
  let covered := if complete then progress else progress.uncover "public_ip"
  let listed := names.filterMap fun name => if truthy name then name else none
  compartmentIds.foldlM
    (discoverPublicIps services region (sortByKey id (listed ++ observed).eraseDups)) covered

/-- `collect_wave1_inventory` -/
def collectWave1Inventory (services : OciServices) (snapshot : OciConnectionSnapshot)
    (scope : OciDiscoveryScope) (progress : Progress) : Attempt Progress := do
  let progress ← scope.regions.foldlM (discoverRegion services snapshot scope.compartmentIds)
    progress
  if scope.complete then return progress
  return { progress with uncovered := wave1ResourceTypes }

end Addresses

section Results

inductive OciDiscoveryStatus where
  | success | partial_
deriving DecidableEq, Repr

structure OciDiscoveryResult where
  status : OciDiscoveryStatus
  resources : List OciDiscoveredResource
  relationships : List OciResourceRelationship
  regionsScanned : List String
  compartmentsScanned : List String
  observedCountsByType : List (String × ℕ)
  countsByType : List (String × Option ℕ)
  warnings : List OciDiscoveryIssue
  errors : List OciDiscoveryIssue

/-- `_discover_search`, in the first region of the scope. -/
def discoverSearch [CaseMapping] (services : OciServices) (region : String)
    (scope : OciDiscoveryScope) (progress : Progress) : Attempt (Bool × Progress) := do
  let (items, complete, progress) ← paged progress
    ⟨"resource_search", "search_resources", some region, none, none⟩
    (services.searchResources region)
  let inScope := items.filter fun item =>
    (!truthy item.region || orEmpty item.region ∈ scope.regions) &&
      item.compartmentId.any (· ∈ scope.compartmentIds)
  let found := inScope.filterMap searchResource
  return (complete, found.foldl (fun progress resource =>
    { progress with
      resources := (upsert progress.resources resource false).1
      searchIds := resource.resourceId :: progress.searchIds }) progress)

/-- A warning about resources that only one of the two sources shows. -/
def consistencyWarning (message : String) (resourceType : Option String) (category : String) :
    OciDiscoveryIssue where
  category := category
  source := "resource_search"
  operation := "reconcile_with_service_api"
  message := message
  region := none
  compartmentId := none
  resourceType := resourceType
  fatal := false

/-- The resources of one type that the service calls returned and the search did
not, and those that only the search returned. -/
def unconfirmed (progress : Progress) (resourceType : String) : List String × List String :=
  ((((progress.serviceIds.filter fun entry => entry.1 = resourceType).map Prod.snd).eraseDups).filter
      (· ∉ progress.searchIds),
    (progress.resources.map Prod.snd).filterMap fun resource =>
      if resource.resourceType = resourceType ∧ "resource_search" ∈ resource.sources ∧
          ¬ ∃ source ∈ ["compute_api", "block_storage_api", "virtual_network_api"],
            source ∈ resource.sources then
        some resource.resourceId
      else none)

/-- `_add_consistency_warnings` for one resource type. -/
def addTypeWarnings (state : Progress × List OciDiscoveryIssue) (resourceType : String) :
    Progress × List OciDiscoveryIssue :=
  let (progress, warnings) := state
  if resourceType ∈ progress.uncovered then state
  else
    let (serviceOnly, searchOnly) := unconfirmed progress resourceType
    let noted (value : String) (resources : List (String × OciDiscoveredResource)) (id : String) :=
      describe resources id [("discovery_consistency", .text value)]
    let resources := searchOnly.foldl (noted "search_only")
      (serviceOnly.foldl (noted "service_only") progress.resources)
    let first := if serviceOnly.isEmpty then [] else
      [consistencyWarning (toString serviceOnly.length ++ " " ++ resourceType ++
        " resources were returned by the service API but were not present in Resource Search")
        (some resourceType) "search_eventual_consistency"]
    let second := if searchOnly.isEmpty then [] else
      [consistencyWarning (toString searchOnly.length ++ " " ++ resourceType ++
        " resources were present in Resource Search but were not confirmed by the service API")
        (some resourceType) "search_eventual_consistency"]
    ({ progress with resources }, warnings ++ first ++ second)

/-- `_add_consistency_warnings` -/
def addConsistencyWarnings (searchComplete : Bool) (progress : Progress) :
    Progress × List OciDiscoveryIssue :=
  let (progress, warnings) :=
    if searchComplete then wave1ResourceTypes.foldl addTypeWarnings (progress, [])
    else (progress, [])
  if progress.lifecycleConflicts = 0 then (progress, warnings)
  else (progress, warnings ++ [consistencyWarning (toString progress.lifecycleConflicts ++
    " resources had lifecycle state differences; service API values were retained")
    none "search_service_state_conflict"])

/-- The order of the relations in a result. -/
def relationshipRank (relationship : OciResourceRelationship) :
    String ×ₗ String ×ₗ String ×ₗ String ×ₗ String :=
  toLex (relationship.relationType, toLex (relationship.sourceId, toLex (relationship.targetId,
    toLex (relationship.sourceType, relationship.targetType))))

/-- `_build_result` -/
def buildResult (scope : OciDiscoveryScope) (progress : Progress)
    (warnings : List OciDiscoveryIssue) : OciDiscoveryResult :=
  let resources := sortByKey OciDiscoveredResource.resourceId (progress.resources.map Prod.snd)
  let observed (resourceType : String) :=
    resources.countP fun resource => resource.resourceType = resourceType
  { status := if progress.errors.isEmpty then .success else .partial_
    resources
    relationships := sortByKey relationshipRank progress.relationships
    regionsScanned := scope.regions
    compartmentsScanned := scope.compartmentIds
    observedCountsByType := (resources.map OciDiscoveredResource.resourceType).eraseDups.map
      fun resourceType => (resourceType, observed resourceType)
    countsByType := wave1ResourceTypes.map fun resourceType =>
      (resourceType, if resourceType ∈ progress.uncovered then none else
        some (observed resourceType))
    warnings
    errors := progress.errors }

def Progress.empty : Progress := ⟨[], [], [], [], [], 0, []⟩

variable [CaseMapping]

/-- The calls of a scope; one without regions or compartments makes none. -/
def surveyScope (services : OciServices) (snapshot : OciConnectionSnapshot)
    (scope : OciDiscoveryScope) (progress : Progress) : Attempt (Bool × Progress) :=
  match scope.regions, scope.compartmentIds with
  | region :: _, _ :: _ => do
    let (complete, progress) ← discoverSearch services region scope progress
    let progress ← collectWave1Inventory services snapshot scope progress
    return (complete, progress)
  | _, _ => .ok (true, progress)

/-- The part of `discover` after the scope is known. -/
def discoverScope (services : OciServices) (snapshot : OciConnectionSnapshot)
    (scope : OciDiscoveryScope) (progress : Progress) : Attempt OciDiscoveryResult := do
  let (searchComplete, progress) ← surveyScope services snapshot scope progress
  let (progress, warnings) := addConsistencyWarnings searchComplete progress
  return buildResult scope progress warnings

/-- `OciDiscoveryService.discover`. There is no result while the expansion of the
compartments has not returned. -/
def discover (services : OciServices) (snapshot : OciConnectionSnapshot) (fuel : ℕ) :
    Attempt (Option OciDiscoveryResult) := do
  match ← resolveOciDiscoveryScope services snapshot fuel Progress.empty with
  | none => return none
  | some (scope, progress) => some <$> discoverScope services snapshot scope progress

end Results

end FinopsAnalytics.OciDiscovery
