import FinopsAnalytics.InventoryPersistence
import FinopsAnalytics.OciAnalyzers

/-!
# The inventory of an OCI discovery

A discovery is handed to the inventory as resources and as the coverage of each
resource type in each scanned region. The compartments that bounded the
discovery are no part of the coverage.
-/

namespace FinopsAnalytics.OciInventoryAdapter

open PythonText OpportunityRecords Dictionaries OciDiscovery OciAnalyzers InventoryPersistence
open FinopsLedger (normalizeProvider)

/-- The limits of `prepare_inventory_metadata`. What passes is stored unchanged. -/
class MetadataGuard where
  prepare : Metadata → (fieldName : String) → Except ServiceError Unit

/-- Metadata within every limit. -/
abbrev openGuard : MetadataGuard where
  prepare _ _ := .ok ()

/-- A coverage with its diagnostics. -/
structure AdaptedCoverage extends InventoryCoverage where
  errorCode : Option String
  errorMessage : Option String
deriving DecidableEq, Repr

def ociServiceByType : List (String × String) :=
  [("compute_instance", "Compute"), ("block_volume", "Block Storage"),
    ("boot_volume", "Block Storage"), ("public_ip", "Networking")]

def lifecycleMapping : List (String × String) :=
  [("RUNNING", "running"), ("ACTIVE", "running"), ("AVAILABLE", "available"),
    ("ASSIGNED", "associated"), ("UNASSIGNED", "available"), ("PROVISIONING", "creating"),
    ("CREATING", "creating"), ("STARTING", "starting"), ("STOPPING", "stopping"),
    ("STOPPED", "stopped"), ("TERMINATING", "terminating"), ("TERMINATED", "terminated"),
    ("DELETING", "deleting"), ("DELETED", "deleted"), ("RESTORING", "creating"),
    ("FAULTY", "error"), ("FAILED", "error"), ("INACTIVE", "stopped")]

/-- `_issue_matches_scope` -/
def issueMatchesScope (issue : OciDiscoveryIssue) (resourceType : String)
    (region : Option String) : Bool :=
  !(truthy issue.resourceType && orEmpty issue.resourceType != resourceType) &&
    !(truthy issue.region && truthy region && issue.region != region) &&
    !(truthy issue.region && region.isNone)

/-- The regions of a coverage, as its rows name them. Without regions there is one
row without a region. -/
def coverageRegions (regions : List String) : List (Option String) :=
  if regions.isEmpty then [none] else regions.map some

/-- The region of a coverage row. -/
def coverageRegion (region : Option String) : Option String :=
  if truthy region then region.map strip else none

/-- The status and the code of a scope whose calls were not all complete. -/
def incompleteScope (discovery : OciDiscoveryResult) (resourceType : String)
    (region : Option String) : InventoryCoverageStatus × String :=
  let matching := discovery.errors.filter (issueMatchesScope · resourceType region)
  let observed := (discovery.observedCountsByType.lookup resourceType).getD 0
  (if matching ≠ [] ∧ observed = 0 then .failed else .partial_,
    match matching.head? with
    | some first => if first.category = "" then "incomplete_scope" else first.category
    | none => "incomplete_scope")

def statusText : InventoryCoverageStatus → String
  | .complete => "complete"
  | .partial_ => "partial"
  | .failed => "failed"

section Adapter

variable [CaseMapping]

/-- `normalize_oci_lifecycle_status` -/
def normalizeOciLifecycleStatus (nativeStatus : Option String) : String :=
  (lifecycleMapping.lookup (CaseMapping.upper (strip (orEmpty nativeStatus)))).getD "unknown"

/-- `DiscoveredInventoryResource.__post_init__` -/
def validateResource [MetadataGuard] (resource : DiscoveredInventoryResource) :
    Except ServiceError DiscoveredInventoryResource := do
  let provider ← normalizeProvider resource.provider
  let resourceId := strip resource.resourceId
  let resourceType := strip resource.resourceType
  let lifecycleStatus := strip resource.lifecycleStatus
  if resourceId = "" then throw (.value "resource_id is required")
  if resourceType = "" then throw (.value "resource_type is required")
  MetadataGuard.prepare resource.tags "tags"
  MetadataGuard.prepare resource.attributes "attributes"
  return { resource with
    provider, resourceId, resourceType
    lifecycleStatus := if lifecycleStatus = "" then "unknown" else lifecycleStatus }

/-- The attributes of a resource with its compartment and its sources. -/
def adaptedAttributes (resource : OciDiscoveredResource) : Metadata :=
  let located :=
    if truthy resource.compartmentId then
      setKey "compartment_id" (.text (orEmpty resource.compartmentId)) resource.attributes
    else resource.attributes
  if resource.sources.isEmpty then located else setKey "sources" (.texts resource.sources) located

/-- One resource of the discovery. -/
def adaptResource [OciReporting] [MetadataGuard] (resource : OciDiscoveredResource) :
    Except ServiceError DiscoveredInventoryResource :=
  validateResource
    { nativeResourceType := some resource.resourceType
      service := ociServiceByType.lookup resource.resourceType
      name := resource.name
      region := resource.region
      availabilityZone := resource.availabilityDomain
      lifecycleStatus := normalizeOciLifecycleStatus resource.lifecycleState
      nativeStatus := resource.lifecycleState
      tags := [("freeform", OciReporting.document (resource.freeformTags.map fun tag =>
        (tag.1, .text tag.2))), ("defined", OciReporting.document resource.definedTags)]
      attributes := adaptedAttributes resource
      provider := "oci"
      resourceId := resource.resourceId
      resourceType := resource.resourceType }

/-- The coverage of a resource type in a region, with the checks of
`InventoryCoverage.__post_init__`. -/
def adaptCoverage (cloudAccountId : ℤ) (discovery : OciDiscoveryResult) (resourceType : String)
    (region : Option String) : Except ServiceError AdaptedCoverage := do
  let provider ← normalizeProvider "oci"
  if cloudAccountId ≤ 0 then
    throw (.value "cloud_account_id must identify a persisted CloudAccount")
  let complete := ((discovery.countsByType.lookup resourceType).join).isSome
  let (status, code) := incompleteScope discovery resourceType region
  return {
    provider
    cloudAccountId
    resourceType
    status := if complete then .complete else status
    region := coverageRegion region
    scope := []
    errorCode := if complete then none else some (String.ofList ((strip code).toList.take 120))
    errorMessage := if complete then none else
      some ("OCI " ++ resourceType ++ " discovery scope is " ++ statusText status) }

/-- `adapt_oci_inventory`, without the issues that are logged. -/
def adaptOciInventory [OciReporting] [MetadataGuard] (cloudAccountId : ℤ)
    (discovery : OciDiscoveryResult) :
    Except ServiceError (List DiscoveredInventoryResource × List AdaptedCoverage) := do
  let resources ← discovery.resources.mapM adaptResource
  let coverage ← (wave1ResourceTypes.flatMap fun resourceType =>
    (coverageRegions discovery.regionsScanned).map fun region => (resourceType, region)).mapM fun scope =>
      adaptCoverage cloudAccountId discovery scope.1 scope.2
  return (resources, coverage)

end Adapter

end FinopsAnalytics.OciInventoryAdapter
