import FinopsAnalytics.OciDiscovery
import FinopsAnalytics.OpportunityCollection

/-!
# Analyzers of a discovered OCI account

Each analyzer looks at one resource of the inventory and reports it when the
inventory is complete and shows the wasteful state. The money of a finding and
the evidence of other sources are parameters: no check reads them.
-/

namespace FinopsAnalytics.OciAnalyzers

open PythonText OpportunityRecords OpportunityCollection Dictionaries DistinctKeys OciDiscovery

/-- The part of an analysis context that the analyzers check: the resource of
the inventory, its relations and what was covered. -/
structure OciResourceAnalysisContext where
  inventory : OciDiscoveredResource
  relationships : List OciResourceRelationship
  inventoryStatus : String
  inventoryCoverage : List (String × String)
  relationshipCoverage : List (String × String)

/-- The price of a volume or of several. -/
structure StoragePricing where
  monthlyCost : ℚ
  currency : String
  populated : Bool
  evidence : Metadata

/-- What usage, advice and prices add to a finding. -/
class OciReporting where
  baseEvidence : OciResourceAnalysisContext → Metadata
  document : Metadata → MetaValue
  usageCurrency : OciResourceAnalysisContext → String
  blockVolumePricing : Metadata → StoragePricing
  persistentStoragePricing : (bootIds blockIds : List String) → List OciDiscoveredResource →
    StoragePricing

/-- Reports without prices and without the evidence of other sources. -/
abbrev plainReporting : OciReporting where
  baseEvidence _ := []
  document _ := .null
  usageCurrency _ := "USD"
  blockVolumePricing _ := ⟨0, "BRL", false, []⟩
  persistentStoragePricing _ _ _ := ⟨0, "BRL", false, []⟩

def ruleBlockVolumeUnattached : String := "oci_block_volume_unattached"

def rulePublicIpUnassigned : String := "oci_public_ip_unassigned"

def ruleStoppedComputeWithStorage : String := "oci_stopped_compute_with_storage"

def ruleUntaggedResource : String := "oci_untagged_resource"

/-- The types that can be reported untagged, with their authoritative sources. -/
def supportedTagTypes : List (String × String) :=
  [("compute_instance", "compute_api"), ("block_volume", "block_storage_api"),
    ("boot_volume", "block_storage_api"), ("public_ip", "virtual_network_api")]

def terminalStates : List String := ["TERMINATED", "TERMINATING", "DELETED"]

/-- `_inventory_complete` -/
def inventoryComplete (context : OciResourceAnalysisContext) (resourceTypes : List String) :
    Bool :=
  context.inventoryStatus = "complete" ∧
    ∀ resourceType ∈ resourceTypes, context.inventoryCoverage.lookup resourceType = some "complete"

/-- `_authoritative_inventory` -/
def authoritativeInventory (context : OciResourceAnalysisContext) (source : String) : Bool :=
  source ∈ context.inventory.sources

section Analyzers

variable [CaseMapping] [OciReporting]

/-- `_finding` -/
def finding (context : OciResourceAnalysisContext)
    (ruleKey service title description recommendation severity : String) (analysis : Metadata)
    (pricing : Option StoragePricing) : CollectedFinding where
  ruleKey := ruleKey
  service := service
  region := context.inventory.region
  resourceId := context.inventory.resourceId
  resourceName := context.inventory.name
  resourceType := some context.inventory.resourceType
  providerMetadata := [("provider", .text "oci"),
    ("compartment_id", (context.inventory.compartmentId.map MetaValue.text).getD .null),
    ("analyzer_version", .text "1.0"), ("analysis_source", .text "deepops"),
    ("financial_value_populated", .boolean (pricing.any StoragePricing.populated))]
  title := title
  description := description
  evidence := update (OciReporting.baseEvidence context)
    ([("rule_key", .text ruleKey), ("analysis", OciReporting.document analysis),
      ("recommendation", .text recommendation)] ++
      (pricing.map fun price => ("pricing", OciReporting.document price.evidence)).toList)
  currentMonthlyCost := (pricing.map StoragePricing.monthlyCost).getD 0
  estimatedMonthlySavings := (pricing.map StoragePricing.monthlyCost).getD 0
  currency := (pricing.map StoragePricing.currency).getD (OciReporting.usageCurrency context)
  confidence := "high"
  severity := severity

/-- `str(context.lifecycle_state or "").upper()` -/
def lifecycle (context : OciResourceAnalysisContext) : String :=
  CaseMapping.upper (orEmpty context.inventory.lifecycleState)

/-- `OciBlockVolumeUnattachedAnalyzer` -/
def analyzeBlockVolumeUnattached (context : OciResourceAnalysisContext) :
    Option CollectedFinding :=
  let attributes := context.inventory.attributes
  if context.inventory.resourceType = "block_volume" ∧ inventoryComplete context ["block_volume"] ∧
      authoritativeInventory context "block_storage_api" ∧
      lifecycle context ∉ terminalStates ∧ lifecycle context = "AVAILABLE" ∧
      attributes.lookup "attachment_coverage" = some (.text "complete") ∧
      attributes.lookup "attachment_count" = some (.integer 0) then
    some (finding context ruleBlockVolumeUnattached "OCI Block Storage"
      "Block Volume OCI sem attachment"
      "O Block Volume está disponível e a coleta confirmou que não há attachments ativos."
      ("Validar a necessidade do volume e, se não houver dependência operacional ou " ++
        "requisito de retenção, considerar remoção após os controles de backup aplicáveis.")
      "medium"
      [("attachment_count", .integer 0), ("attachment_coverage", .text "complete"),
        ("size_in_gbs", (attributes.lookup "size_in_gbs").getD .null),
        ("vpus_per_gb", (attributes.lookup "vpus_per_gb").getD .null)]
      (some (OciReporting.blockVolumePricing attributes)))
  else none

/-- `OciPublicIpUnassignedAnalyzer` -/
def analyzePublicIpUnassigned (context : OciResourceAnalysisContext) : Option CollectedFinding :=
  let attributes := context.inventory.attributes
  let lifetime :=
    match attributes.lookup "lifetime" with
    | some (.text value) => CaseMapping.upper value
    | _ => ""
  if context.inventory.resourceType = "public_ip" ∧ inventoryComplete context ["public_ip"] ∧
      authoritativeInventory context "virtual_network_api" ∧
      lifecycle context ∉ terminalStates ∧ lifetime = "RESERVED" ∧
      attributes.lookup "is_associated" = some (.boolean false) then
    some (finding context rulePublicIpUnassigned "OCI Networking"
      "Public IP reservado OCI sem associação"
      ("O Public IP é reservado e a coleta confirmou que ele não está " ++
        "associado a uma entidade.")
      ("Validar a necessidade do Public IP reservado sem associação e liberá-lo caso " ++
        "não seja mais necessário.")
      "low"
      [("lifetime", (attributes.lookup "lifetime").getD .null), ("is_associated", .boolean false),
        ("assigned_entity_id", .null)] none)
  else none

/-- The volumes of one kind that are attached to the resource. -/
def attachedVolumes (context : OciResourceAnalysisContext) (relationType sourceType : String) :
    List String :=
  ((context.relationships.filter fun relationship =>
    relationship.targetId = context.inventory.resourceId ∧
      relationship.relationType = relationType ∧ relationship.sourceType = sourceType ∧
      relationship.targetType = "compute_instance").map
        OciResourceRelationship.sourceId).eraseDups

/-- `OciStoppedComputeWithStorageAnalyzer` -/
def analyzeStoppedCompute (inventory : List OciDiscoveredResource)
    (context : OciResourceAnalysisContext) : Option CollectedFinding :=
  let bootIds := sortByKey id (attachedVolumes context "boot_volume_attachment" "boot_volume")
  let blockIds := sortByKey id
    ((attachedVolumes context "volume_attachment" "block_volume").filter (· ∉ bootIds))
  if context.inventory.resourceType = "compute_instance" ∧
      inventoryComplete context ["compute_instance", "block_volume", "boot_volume"] ∧
      (∀ relationType ∈ ["volume_attachment", "boot_volume_attachment"],
        context.relationshipCoverage.lookup relationType = some "complete") ∧
      authoritativeInventory context "compute_api" ∧ lifecycle context = "STOPPED" ∧
      ¬ (bootIds.isEmpty ∧ blockIds.isEmpty) then
    some (finding context ruleStoppedComputeWithStorage "OCI Compute"
      "Compute OCI parado mantendo storage persistente"
      ("A instância está parada, mas mantém storage persistente associado que pode " ++
        "continuar gerando custo.")
      ("Validar a necessidade de retenção da instância e considerar descomissionamento " ++
        "dos recursos persistentes que não forem mais necessários.")
      "medium"
      [("compute_state", .text "STOPPED"), ("boot_volume_count", .integer bootIds.length),
        ("block_volume_count", .integer blockIds.length), ("boot_volume_ids", .texts bootIds),
        ("block_volume_ids", .texts blockIds)]
      (some (OciReporting.persistentStoragePricing bootIds blockIds inventory)))
  else none

/-- `OciUntaggedResourceAnalyzer` -/
def analyzeUntaggedResource (context : OciResourceAnalysisContext) : Option CollectedFinding :=
  match supportedTagTypes.lookup context.inventory.resourceType with
  | none => none
  | some source =>
    if inventoryComplete context [context.inventory.resourceType] ∧
        authoritativeInventory context source ∧
        context.inventory.freeformTags = [] ∧ context.inventory.definedTags = [] then
      some (finding context ruleUntaggedResource "OCI Governance" "Recurso OCI sem tags"
        ("O recurso suportado não possui freeform tags nem defined tags no " ++
          "inventário coletado.")
        "Adicionar metadados de governança e custo conforme a política da organização." "low"
        [("freeform_tag_count", .integer 0), ("defined_tag_namespace_count", .integer 0),
          ("defined_tag_namespaces", .texts [])] none)
    else none

/-- The registered analyzers, on one context. -/
def analyzeContext (inventory : List OciDiscoveredResource)
    (context : OciResourceAnalysisContext) : List CollectedFinding :=
  (analyzeBlockVolumeUnattached context).toList ++ (analyzePublicIpUnassigned context).toList ++
    (analyzeStoppedCompute inventory context).toList ++ (analyzeUntaggedResource context).toList

/-- A finding tells of the resource of its context. -/
structure TellsOf (resource : OciDiscoveredResource) (ruleKey : String) (found : CollectedFinding) :
    Prop where
  rule : found.ruleKey = ruleKey
  resourceId : found.resourceId = resource.resourceId
  region : found.region = resource.region
  compartment : found.providerMetadata.lookup "compartment_id" =
    some ((resource.compartmentId.map MetaValue.text).getD .null)

omit [CaseMapping] in
theorem tellsOf_finding {context : OciResourceAnalysisContext}
    {ruleKey service title description recommendation severity : String} {analysis : Metadata}
    {pricing : Option StoragePricing} :
    TellsOf context.inventory ruleKey
      (finding context ruleKey service title description recommendation severity analysis
        pricing) :=
  ⟨rfl, rfl, rfl, rfl⟩

section Reports

variable {context : OciResourceAnalysisContext} {found : CollectedFinding}

/-- A block volume is reported only where its attachments were counted as none. -/
theorem analyzeBlockVolumeUnattached_reports
    (reported : analyzeBlockVolumeUnattached context = some found) :
    TellsOf context.inventory ruleBlockVolumeUnattached found ∧
      context.inventory.attributes.lookup "attachment_coverage" = some (.text "complete") ∧
      context.inventory.attributes.lookup "attachment_count" = some (.integer 0) := by
  simp only [analyzeBlockVolumeUnattached] at reported
  split at reported
  · rename_i checks
    obtain rfl := Option.some.inj reported
    exact ⟨tellsOf_finding, checks.2.2.2.2.2⟩
  · cases reported

theorem analyzePublicIpUnassigned_reports
    (reported : analyzePublicIpUnassigned context = some found) :
    TellsOf context.inventory rulePublicIpUnassigned found := by
  simp only [analyzePublicIpUnassigned] at reported
  split_ifs at reported
  obtain rfl := Option.some.inj reported
  exact tellsOf_finding

theorem analyzeStoppedCompute_reports {inventory : List OciDiscoveredResource}
    (reported : analyzeStoppedCompute inventory context = some found) :
    TellsOf context.inventory ruleStoppedComputeWithStorage found := by
  simp only [analyzeStoppedCompute] at reported
  split_ifs at reported
  obtain rfl := Option.some.inj reported
  exact tellsOf_finding

omit [CaseMapping] in
theorem analyzeUntaggedResource_reports (reported : analyzeUntaggedResource context = some found) :
    TellsOf context.inventory ruleUntaggedResource found := by
  simp only [analyzeUntaggedResource] at reported
  split at reported
  · cases reported
  · split_ifs at reported
    obtain rfl := Option.some.inj reported
    exact tellsOf_finding

/-- What a context is reported for. -/
theorem mem_analyzeContext {inventory : List OciDiscoveredResource}
    (member : found ∈ analyzeContext inventory context) :
    (analyzeBlockVolumeUnattached context = some found ∨
      found.ruleKey ≠ ruleBlockVolumeUnattached) ∧
      ∃ ruleKey, TellsOf context.inventory ruleKey found := by
  simp only [analyzeContext, List.mem_append, Option.mem_toList] at member
  rcases member with ((volume | address) | compute) | untagged
  · exact ⟨Or.inl volume, _, (analyzeBlockVolumeUnattached_reports volume).1⟩
  · have tells := analyzePublicIpUnassigned_reports address
    exact ⟨Or.inr (by rw [tells.rule]; decide), _, tells⟩
  · have tells := analyzeStoppedCompute_reports compute
    exact ⟨Or.inr (by rw [tells.rule]; decide), _, tells⟩
  · have tells := analyzeUntaggedResource_reports untagged
    exact ⟨Or.inr (by rw [tells.rule]; decide), _, tells⟩

end Reports

end Analyzers

/-- `rule_keys` of the registry. -/
def ruleKeys : List String :=
  sortByKey id [ruleBlockVolumeUnattached, rulePublicIpUnassigned, ruleStoppedComputeWithStorage,
    ruleUntaggedResource]

section Correlation

/-- `attachment_status` -/
def attachmentStatus (discovery : OciDiscoveryResult) (resourceType : String) : String :=
  match discovery.countsByType.lookup resourceType with
  | some (some _) =>
    if ∃ resource ∈ discovery.resources, resource.resourceType = resourceType ∧
        "block_storage_api" ∈ resource.sources ∧
        resource.attributes.lookup "attachment_coverage" ≠ some (.text "complete") then "incomplete"
    else "complete"
  | _ => "incomplete"

/-- The context of a resource of the inventory, as `correlate_oci_datasets` builds it. -/
def contextOf (discovery : OciDiscoveryResult) (resource : OciDiscoveredResource) :
    OciResourceAnalysisContext where
  inventory := resource
  relationships := sortByKey relationshipRank (discovery.relationships.filter fun relationship =>
    relationship.sourceId = resource.resourceId ∨ relationship.targetId = resource.resourceId)
  inventoryStatus := if discovery.status = .success then "complete" else "partial"
  inventoryCoverage := discovery.countsByType.map fun entry =>
    (entry.1, if entry.2.isSome then "complete" else "incomplete")
  relationshipCoverage :=
    [("volume_attachment", attachmentStatus discovery "block_volume"),
      ("boot_volume_attachment", attachmentStatus discovery "boot_volume"),
      ("public_ip_assignment", if (discovery.countsByType.lookup "public_ip").join.isSome then
        "complete" else "incomplete")]

variable [CaseMapping] [OciReporting]

/-- The order of the findings. -/
def findingRank (found : CollectedFinding) : String ×ₗ String :=
  toLex (found.ruleKey, found.resourceId)

/-- `OciAnalysisService.analyze` on the contexts with an inventory resource; the
others give no finding. -/
def analyze (discovery : OciDiscoveryResult) : List CollectedFinding :=
  sortByKey findingRank (discovery.resources.flatMap fun resource =>
    analyzeContext discovery.resources (contextOf discovery resource))

end Correlation

end FinopsAnalytics.OciAnalyzers
