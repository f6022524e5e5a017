import FinopsAnalytics.OciPriceFreshness

/-!
# Volumes credited as savings

The saving of an unattached volume is its price, and the saving of a stopped
instance is the sum of the prices of its volumes, where all of them have one. An
instance counts each of its volumes once, but nothing is shared between
instances: a volume that two stopped instances hold is credited to both of them.
-/

namespace FinopsAnalytics.OciCreditedVolumes

open PythonText OpportunityRecords DistinctKeys Dictionaries PricingCatalog OciDiscovery
  OciAnalyzers OciPricing OciPriceFreshness

section Correlations

/-- A correlation as the analyzers read it: the contexts with an inventory resource.
There is one context for each resource id; those without a resource are in no
inventory and give no finding. -/
structure OciCorrelationResult where
  resourceContexts : List OciResourceAnalysisContext
  distinct : (resourceContexts.map (·.inventory.resourceId)).Nodup

/-- `inventory_by_id` of a correlation. -/
def inventoryById (discovery : OciDiscoveryResult) : List (String × OciDiscoveredResource) :=
  (sortByKey OciDiscoveredResource.resourceId
    (discovery.resources.filter (·.resourceId ≠ ""))).foldl
      (fun entries resource => setKey resource.resourceId resource entries) []

/-- Entries under the ids of their resources, each id once. -/
def FiledById (entries : List (String × OciDiscoveredResource)) : Prop :=
  (entries.map Prod.fst).Nodup ∧ ∀ entry ∈ entries, entry.2.resourceId = entry.1

/-- By induction on the resources. -/
theorem inventoryById_filed (discovery : OciDiscoveryResult) :
    FiledById (inventoryById discovery) := by
  have kept (resources : List OciDiscoveredResource) :
      ∀ entries, FiledById entries → FiledById (resources.foldl
        (fun entries resource => setKey resource.resourceId resource entries) entries) := by
    induction resources with
    | nil => exact fun _ filed => filed
    | cons resource rest inductionHypothesis =>
      intro entries filed
      apply inductionHypothesis
      refine ⟨setKey_nodup filed.1, fun entry member => ?_⟩
      rcases mem_setKey member with rfl | earlier
      · rfl
      · exact filed.2 entry earlier
  exact kept _ [] ⟨List.nodup_nil, fun _ member => absurd member List.not_mem_nil⟩

/-- `correlate_oci_datasets`, as far as the analyzers read its result. -/
def correlate (discovery : OciDiscoveryResult) : OciCorrelationResult where
  resourceContexts := (inventoryById discovery).map fun entry => contextOf discovery entry.2
  distinct := by
    obtain ⟨distinct, filed⟩ := inventoryById_filed discovery
    have ids : (inventoryById discovery).map (·.2.resourceId) =
        (inventoryById discovery).map Prod.fst :=
      List.map_congr_left filed
    simpa [Function.comp_def, contextOf, ids] using distinct

end Correlations

section Findings

/-- A finding with a cost, and the evidence of its pricing. -/
inductive CostFinding where
  | unattachedVolume (resourceId : String) (pricing : VolumePricing)
  | stoppedCompute (resourceId : String) (pricing : PersistentStoragePricing)
deriving DecidableEq, Repr

/-- The volume of an entry in the evidence. -/
def renderedId : RenderedVolume → String
  | .missingInventoryResource resourceId _ => resourceId
  | .priced resourceId _ => resourceId

/-- The volumes whose monthly costs make up the saving of a finding, with the costs. -/
def CostFinding.credits : CostFinding → List (String × ℚ)
  | .unattachedVolume resourceId pricing =>
    if pricing.populated then [(resourceId, pricing.monthlyCost)] else []
  | .stoppedCompute _ pricing =>
    if pricing.complete then
      pricing.volumes.map fun volume => (renderedId volume, volume.monthlyCost)
    else []

/-- No volume is a part of the savings twice. -/
def CreditedOnce (findings : List CostFinding) : Prop :=
  (findings.flatMap fun finding => finding.credits.map Prod.fst).Nodup

variable [CaseMapping]

/-- The unattached-volume analyzer reports the resource. -/
def reportsUnattached (context : OciResourceAnalysisContext) : Bool :=
  letI := plainReporting
  (analyzeBlockVolumeUnattached context).isSome

/-- The stopped-compute analyzer reports the resource. -/
def reportsStopped (inventory : List OciDiscoveredResource)
    (context : OciResourceAnalysisContext) : Bool :=
  letI := plainReporting
  (analyzeStoppedCompute inventory context).isSome

def bootIds (context : OciResourceAnalysisContext) : List String :=
  attachedVolumes context "boot_volume_attachment" "boot_volume"

def blockIds (context : OciResourceAnalysisContext) : List String :=
  (attachedVolumes context "volume_attachment" "block_volume").filter (· ∉ bootIds context)

/-- The distinct volumes attached to a resource. -/
def storageOf (context : OciResourceAnalysisContext) : List String :=
  bootIds context ++ blockIds context

variable [DecimalText]

/-- The cost finding of a context. A resource has one type, so at most one of the two
analyzers reports it. -/
def costFinding (catalog : Catalog) (now : Instant) (inventory : List OciDiscoveredResource)
    (service : OciPricingService) (context : OciResourceAnalysisContext) :
    Except SnapshotError (Option CostFinding) × OciPricingService :=
  let resourceId := context.inventory.resourceId
  if reportsUnattached context then
    match volumePricing service catalog now context.inventory.attributes "block_volume" none with
    | (outcome, service) =>
      (outcome.map fun pricing => some (.unattachedVolume resourceId pricing), service)
  else if reportsStopped inventory context then
    match persistentStoragePricing service catalog now (bootIds context) (blockIds context)
        inventory with
    | (outcome, service) =>
      (outcome.map fun pricing => some (.stoppedCompute resourceId pricing), service)
  else (.ok none, service)

/-- The inventory of the contexts. -/
def OciCorrelationResult.inventory (correlation : OciCorrelationResult) :
    List OciDiscoveredResource :=
  correlation.resourceContexts.map (·.inventory)

/-- The contexts in the order of the analysis. -/
def OciCorrelationResult.ordered (correlation : OciCorrelationResult) :
    List OciResourceAnalysisContext :=
  sortByKey (·.inventory.resourceId) correlation.resourceContexts

/-- The cost findings of `OciAnalysisService.analyze`. -/
def costFindings (catalog : Catalog) (now : Instant) (correlation : OciCorrelationResult)
    (service : OciPricingService) :
    Except SnapshotError (List CostFinding) × OciPricingService :=
  match pricedInTurn (costFinding catalog now correlation.inventory) service
      correlation.ordered with
  | (outcome, service) => (outcome.map fun found => found.filterMap id, service)

end Findings

section Pricing

variable [CaseMapping] [DecimalText] {catalog : Catalog} {now : Instant}

omit [CaseMapping] [DecimalText] in
/-- A loop that returns has priced every item, at some state of the service. -/
theorem pricedInTurn_ok {α β : Type}
    {price : OciPricingService → α → Except SnapshotError β × OciPricingService} {items : List α} :
    ∀ {service after : OciPricingService} {results : List β},
      pricedInTurn price service items = (.ok results, after) →
      List.Forall₂ (fun item result => ∃ before next, price before item = (.ok result, next))
        items results := by
  induction items with
  | nil =>
    intro service after results returned
    cases returned
    exact .nil
  | cons item rest inductionHypothesis =>
    intro service after results returned
    unfold pricedInTurn at returned
    rcases priced : price service item with ⟨raised | result, next⟩
    · simp [priced] at returned
    · simp only [priced] at returned
      rcases later : pricedInTurn price next rest with ⟨raised | others, last⟩
      · simp [later] at returned
      · simp only [later, Prod.mk.injEq, Except.ok.injEq] at returned
        obtain ⟨rfl, -⟩ := returned
        exact .cons ⟨service, next, priced⟩ (inductionHypothesis later)

omit [CaseMapping] [DecimalText] in
/-- The outcome of a pricing that was mapped into a finding. -/
theorem map_fst_eq_ok {β γ : Type} {priced : Except SnapshotError β × OciPricingService} {f : β → γ}
    {result : γ} {after : OciPricingService}
    (returned : (match priced with
      | (outcome, service) => (outcome.map f, service)) = (Except.ok result, after)) :
    ∃ value, priced = (.ok value, after) ∧ f value = result := by
  rcases priced with ⟨raised | value, service⟩
  · simp [Except.map] at returned
  · simp only [Except.map, Prod.mk.injEq, Except.ok.injEq] at returned
    exact ⟨value, by rw [returned.2], returned.1⟩

variable {service after : OciPricingService} {inventory : List OciDiscoveredResource}

/-- A volume that was priced without an exception has a price exactly where both its
attributes are decimals, and without a price it costs nothing. -/
theorem volumePricing_populated {attributes : Metadata} {resourceType : String}
    {resourceId : Option String} {pricing : VolumePricing}
    (priced : volumePricing service catalog now attributes resourceType resourceId =
      (.ok pricing, after)) :
    pricing.populated = readsCatalog attributes ∧
      (pricing.populated = false → pricing.monthlyCost = 0) := by
  simp only [volumePricing] at priced
  obtain ⟨outcome, read, rfl⟩ := map_fst_eq_ok priced
  unfold OciPricingService.blockVolumeMonthlyPricing at read
  unfold readsCatalog
  cases size : decimalInput ((attributes.lookup "size_in_gbs").getD .null) with
  | none =>
    simp only [size, Prod.mk.injEq, Except.ok.injEq] at read
    obtain ⟨rfl, -⟩ := read
    exact ⟨rfl, fun _ => rfl⟩
  | some sizeGb =>
    cases vpus : decimalInput ((attributes.lookup "vpus_per_gb").getD .null) with
    | none =>
      simp only [size, vpus, Prod.mk.injEq, Except.ok.injEq] at read
      obtain ⟨rfl, -⟩ := read
      exact ⟨rfl, fun _ => rfl⟩
    | some vpusPerGb =>
      simp only [size, vpus] at read
      rcases taken : service.catalog catalog now none with ⟨raised | snapshot, next⟩
      · simp [taken] at read
      · simp only [taken] at read
        cases formula : blockVolumeFormula snapshot sizeGb vpusPerGb none with
        | error raised => simp [formula, Except.map] at read
        | ok result =>
          simp only [formula, Except.map, Prod.mk.injEq, Except.ok.injEq] at read
          obtain ⟨rfl, -⟩ := read
          exact ⟨rfl, fun unpriced => (by cases unpriced)⟩

/-- An entry of the evidence is about its volume, and it has a price exactly where the
volume is in the inventory under its type with decimal attributes. -/
theorem priceResource_rendered {volume : String × String} {rendered : RenderedVolume}
    (priced : priceResource service catalog now inventory volume.1 volume.2 =
      (.ok rendered, after)) :
    renderedId rendered = volume.2 ∧
      (rendered.unpriced = none ↔ readsVolume inventory volume = true) := by
  unfold priceResource at priced
  unfold readsVolume
  cases found : inventory.reverse.find? fun resource => decide (resource.resourceId = volume.2) with
  | none =>
    simp only [found, Prod.mk.injEq, Except.ok.injEq] at priced
    obtain ⟨rfl, -⟩ := priced
    simp [renderedId, RenderedVolume.unpriced]
  | some resource =>
    simp only [found] at priced
    by_cases same : resource.resourceType = volume.1
    · rw [if_neg (not_not.mpr same)] at priced
      obtain ⟨pricing, read, rfl⟩ := map_fst_eq_ok priced
      obtain ⟨populated, -⟩ := volumePricing_populated read
      cases isPriced : pricing.populated with
      | true =>
        have reads := populated.symm.trans isPriced
        exact ⟨rfl, by simp [RenderedVolume.unpriced, isPriced, same, reads]⟩
      | false =>
        have reads := populated.symm.trans isPriced
        exact ⟨rfl, by simp [RenderedVolume.unpriced, isPriced, same, reads]⟩
    · rw [if_pos same] at priced
      simp only [Prod.mk.injEq, Except.ok.injEq] at priced
      obtain ⟨rfl, -⟩ := priced
      simp [renderedId, RenderedVolume.unpriced, same]

/-- The entries of a loop over volumes: one for each, and all of them with a price exactly
where all volumes can be read. -/
theorem rendered_inTurn {volumes : List (String × String)} {rendered : List RenderedVolume}
    (priced : List.Forall₂ (fun (volume : String × String) entry => ∃ before next,
      priceResource before catalog now inventory volume.1 volume.2 = (.ok entry, next))
      volumes rendered) :
    rendered.map renderedId = volumes.map Prod.snd ∧
      (rendered.filterMap RenderedVolume.unpriced = [] ↔
        volumes.all (readsVolume inventory) = true) := by
  induction priced with
  | nil => exact ⟨rfl, by simp⟩
  | cons isPriced _ inductionHypothesis =>
    obtain ⟨before, next, isPriced⟩ := isPriced
    obtain ⟨sameId, reads⟩ := priceResource_rendered isPriced
    obtain ⟨sameIds, allRead⟩ := inductionHypothesis
    constructor
    · rw [List.map_cons, List.map_cons, sameId, sameIds]
    · rw [List.all_cons, Bool.and_eq_true, ← reads, ← allRead, List.filterMap_cons]
      constructor
      · intro none
        split at none
        · rename_i unpriced
          exact ⟨unpriced, none⟩
        · cases none
      · rintro ⟨unpriced, others⟩
        rw [unpriced]
        exact others

/-- The price of the storage of an instance: a price for each volume, complete exactly
where all of them can be read, and their exact sum then. -/
theorem persistentStoragePricing_ok {bootIds blockIds : List String}
    {pricing : PersistentStoragePricing} (attached : ¬(bootIds.isEmpty ∧ blockIds.isEmpty))
    (priced : persistentStoragePricing service catalog now bootIds blockIds inventory =
      (.ok pricing, after)) :
    pricing.volumes.map renderedId = (volumesOf bootIds blockIds).map Prod.snd ∧
      pricing.complete = (volumesOf bootIds blockIds).all (readsVolume inventory) ∧
      pricing.monthlyCost = (if pricing.complete then
        (pricing.volumes.map RenderedVolume.monthlyCost).sum else 0) ∧
      (pricing.complete = true → ∀ entry ∈ pricing.volumes, entry.unpriced = none) := by
  simp only [persistentStoragePricing] at priced
  obtain ⟨rendered, loop, rfl⟩ := map_fst_eq_ok priced
  obtain ⟨ids, allRead⟩ := rendered_inTurn (pricedInTurn_ok loop)
  have isComplete : (storageEvidence bootIds blockIds rendered).complete =
      (volumesOf bootIds blockIds).all (readsVolume inventory) := by
    rw [Bool.eq_iff_iff, ← allRead]
    have some : (bootIds.isEmpty && blockIds.isEmpty) = false := by simpa using attached
    simp [storageEvidence, some]
  refine ⟨ids, isComplete, rfl, fun complete entry member => ?_⟩
  rw [isComplete, ← allRead, List.filterMap_eq_nil_iff] at complete
  exact complete entry member

end Pricing

section Contexts

variable [CaseMapping]

/-- The unattached-volume analyzer reports block volumes only. -/
theorem type_of_reportsUnattached {context : OciResourceAnalysisContext}
    (reported : reportsUnattached context = true) :
    context.inventory.resourceType = "block_volume" := by
  simp only [reportsUnattached, analyzeBlockVolumeUnattached] at reported
  split at reported
  · rename_i checks
    exact checks.1
  · cases reported

/-- The stopped-compute analyzer reports instances only, with some volume. -/
theorem storage_of_reportsStopped {inventory : List OciDiscoveredResource}
    {context : OciResourceAnalysisContext} (reported : reportsStopped inventory context = true) :
    context.inventory.resourceType = "compute_instance" ∧
      ¬((bootIds context).isEmpty ∧ (blockIds context).isEmpty) := by
  simp only [reportsStopped, analyzeStoppedCompute] at reported
  split at reported
  · rename_i checks
    refine ⟨checks.1, fun empty => checks.2.2.2.2.2 ?_⟩
    have sorted (rows : List String) (none : rows.isEmpty = true) :
        (sortByKey id rows).isEmpty = true := by
      rw [List.isEmpty_iff] at none
      rw [none]
      rfl
    simp only [mem_sortByKey]
    exact ⟨sorted _ empty.1, sorted _ empty.2⟩
  · cases reported

omit [CaseMapping] in
/-- A volume is attached to an instance once. -/
theorem storageOf_nodup (context : OciResourceAnalysisContext) : (storageOf context).Nodup := by
  rw [storageOf, List.nodup_append]
  refine ⟨nodup_eraseDups _, (nodup_eraseDups _).filter _, fun boot isBoot block isBlock => ?_⟩
  rintro rfl
  have apart := (List.mem_filter.mp isBlock).2
  exact absurd isBoot (by simpa using apart)

omit [CaseMapping] in
/-- The volumes are priced one after the other, each of them. -/
theorem volumesOf_perm (context : OciResourceAnalysisContext) :
    ((volumesOf (bootIds context) (blockIds context)).map Prod.snd).Perm (storageOf context) := by
  simp only [volumesOf, List.map_append, List.map_map, Function.comp_def, List.map_id']
  exact (sortByKey_perm id (bootIds context)).append (sortByKey_perm id (blockIds context))

variable [DecimalText]

/-- An unattached volume that has a price. -/
def pricedUnattached (context : OciResourceAnalysisContext) : Bool :=
  reportsUnattached context && readsCatalog context.inventory.attributes

/-- A stopped instance whose volumes all have a price. -/
def pricedStopped (inventory : List OciDiscoveredResource) (context : OciResourceAnalysisContext) :
    Bool :=
  reportsStopped inventory context &&
    (volumesOf (bootIds context) (blockIds context)).all (readsVolume inventory)

/-- Two stopped instances with prices for all of their volumes share none of them, and
none of the volumes is reported as unattached. -/
structure CreditedApart (correlation : OciCorrelationResult) : Prop where
  stopped : ∀ first ∈ correlation.resourceContexts, ∀ second ∈ correlation.resourceContexts,
    pricedStopped correlation.inventory first → pricedStopped correlation.inventory second →
      first.inventory.resourceId ≠ second.inventory.resourceId →
        (storageOf first).Disjoint (storageOf second)
  unattached : ∀ volume ∈ correlation.resourceContexts,
    ∀ instance_ ∈ correlation.resourceContexts, pricedUnattached volume →
      pricedStopped correlation.inventory instance_ →
        volume.inventory.resourceId ∉ storageOf instance_

/-- The saving of an instance is made of its attached volumes. -/
structure SumsStorage (context : OciResourceAnalysisContext) (pricing : PersistentStoragePricing) :
    Prop where
  attached : (pricing.volumes.map renderedId).Perm (storageOf context)
  priced : pricing.monthlyCost ≠ 0 → ∀ entry ∈ pricing.volumes, entry.unpriced = none
  sum : pricing.monthlyCost ≠ 0 →
    pricing.monthlyCost = (pricing.volumes.map RenderedVolume.monthlyCost).sum

/-- The volumes whose prices are in the saving of a context. -/
def credited (inventory : List OciDiscoveredResource) (context : OciResourceAnalysisContext) :
    List String :=
  if pricedUnattached context then [context.inventory.resourceId]
  else if pricedStopped inventory context then
    (volumesOf (bootIds context) (blockIds context)).map Prod.snd
  else []

variable {catalog : Catalog} {now : Instant} {inventory : List OciDiscoveredResource}

variable {context : OciResourceAnalysisContext}

/-- What the analysis of a context credits, and what its saving is made of. -/
theorem costFinding_ok {service after : OciPricingService} {found : Option CostFinding}
    (returned : costFinding catalog now inventory service context = (.ok found, after)) :
    (found.toList.flatMap fun finding => finding.credits.map Prod.fst) =
        credited inventory context ∧
      ∀ resourceId pricing, found = some (.stoppedCompute resourceId pricing) →
        context.inventory.resourceId = resourceId ∧ SumsStorage context pricing := by
  unfold costFinding at returned
  dsimp only at returned
  unfold credited pricedUnattached pricedStopped
  by_cases volume : reportsUnattached context = true
  · rw [if_pos volume] at returned
    obtain ⟨pricing, priced, rfl⟩ := map_fst_eq_ok returned
    obtain ⟨populated, -⟩ := volumePricing_populated priced
    have notStopped : reportsStopped inventory context = false := by
      by_contra reported
      have isInstance := (storage_of_reportsStopped (Bool.not_eq_false _ ▸ reported)).1
      rw [type_of_reportsUnattached volume] at isInstance
      exact absurd isInstance (by decide)
    refine ⟨?_, fun _ _ impossible => (by cases impossible)⟩
    rw [volume, notStopped, ← populated]
    cases isPriced : pricing.populated <;> simp [CostFinding.credits, isPriced]
  · rw [if_neg volume] at returned
    rw [Bool.not_eq_true] at volume
    rw [volume, Bool.false_and, if_neg Bool.false_ne_true]
    by_cases stopped : reportsStopped inventory context = true
    · rw [if_pos stopped] at returned
      obtain ⟨pricing, priced, rfl⟩ := map_fst_eq_ok returned
      obtain ⟨ids, complete, cost, allPriced⟩ :=
        persistentStoragePricing_ok (storage_of_reportsStopped stopped).2 priced
      rw [stopped, Bool.true_and, ← complete]
      constructor
      · cases isComplete : pricing.complete with
        | true =>
          rw [if_pos rfl, ← ids]
          simp [CostFinding.credits, isComplete, Function.comp_def]
        | false => simp [CostFinding.credits, isComplete]
      · rintro resourceId other same
        cases same
        have complete_of_saving (saving : pricing.monthlyCost ≠ 0) : pricing.complete = true := by
          by_contra incomplete
          rw [if_neg incomplete] at cost
          exact saving cost
        refine ⟨rfl, ids ▸ volumesOf_perm context, fun saving => ?_, fun saving => ?_⟩
        · exact allPriced (complete_of_saving saving)
        · rw [if_pos (complete_of_saving saving)] at cost
          exact cost
    · rw [if_neg stopped] at returned
      rw [Bool.not_eq_true] at stopped
      rw [stopped]
      cases returned
      exact ⟨rfl, fun _ _ impossible => (by cases impossible)⟩

omit [CaseMapping] [DecimalText] in
theorem eq_of_resourceId {correlation : OciCorrelationResult}
    {first second : OciResourceAnalysisContext} (firstMember : first ∈ correlation.resourceContexts)
    (secondMember : second ∈ correlation.resourceContexts)
    (same : first.inventory.resourceId = second.inventory.resourceId) : first = second :=
  List.inj_on_of_nodup_map correlation.distinct firstMember secondMember same

theorem credited_of_unattached (isPriced : pricedUnattached context = true) :
    credited inventory context = [context.inventory.resourceId] :=
  if_pos isPriced

/-- A resource is not both. -/
theorem credited_of_stopped (isPriced : pricedStopped inventory context = true) :
    (credited inventory context).Perm (storageOf context) := by
  have notVolume : ¬pricedUnattached context = true := by
    intro unattached
    have isVolume := type_of_reportsUnattached (Bool.and_eq_true_iff.mp unattached).1
    have isInstance := (storage_of_reportsStopped (Bool.and_eq_true_iff.mp isPriced).1).1
    rw [isVolume] at isInstance
    exact absurd isInstance (by decide)
  rw [credited, if_neg notVolume, if_pos isPriced]
  exact volumesOf_perm context

theorem credited_nodup (context : OciResourceAnalysisContext) :
    (credited inventory context).Nodup := by
  unfold credited
  split
  · exact List.nodup_singleton _
  · split
    · exact (volumesOf_perm context).nodup_iff.mpr (storageOf_nodup context)
    · exact List.nodup_nil

/-- A volume that is credited is one of the two. -/
theorem mem_credited {volume : String} (member : volume ∈ credited inventory context) :
    (pricedUnattached context = true ∧ volume = context.inventory.resourceId) ∨
      (pricedStopped inventory context = true ∧ volume ∈ storageOf context) := by
  unfold credited at member
  by_cases unattached : pricedUnattached context = true
  · rw [if_pos unattached, List.mem_singleton] at member
    exact Or.inl ⟨unattached, member⟩
  · rw [if_neg unattached] at member
    by_cases stopped : pricedStopped inventory context = true
    · rw [if_pos stopped] at member
      exact Or.inr ⟨stopped, (volumesOf_perm context).mem_iff.mp member⟩
    · rw [if_neg stopped] at member
      cases member

/-- No volume is credited by two contexts exactly where they are apart. -/
theorem credited_nodup_iff (correlation : OciCorrelationResult) :
    (correlation.resourceContexts.flatMap (credited correlation.inventory)).Nodup ↔
      CreditedApart correlation := by
  rw [List.nodup_flatMap]
  constructor
  · rintro ⟨-, disjoint⟩
    have symmetric : Std.Symm (Function.onFun List.Disjoint (credited correlation.inventory)) :=
      ⟨fun _ _ isApart => isApart.symm⟩
    have apart {first second : OciResourceAnalysisContext}
        (firstMember : first ∈ correlation.resourceContexts)
        (secondMember : second ∈ correlation.resourceContexts) (other : first ≠ second) :
        (credited correlation.inventory first).Disjoint (credited correlation.inventory second) :=
      disjoint.forall firstMember secondMember other
    constructor
    · intro first firstMember second secondMember firstPriced secondPriced different
      have other : first ≠ second := fun same => different (by rw [same])
      intro volume inFirst inSecond
      exact apart firstMember secondMember other
        ((credited_of_stopped firstPriced).mem_iff.mpr inFirst)
        ((credited_of_stopped secondPriced).mem_iff.mpr inSecond)
    · intro volume volumeMember instance_ instanceMember volumePriced instancePriced attached
      have other : volume ≠ instance_ := by
        rintro rfl
        have isVolume := type_of_reportsUnattached (Bool.and_eq_true_iff.mp volumePriced).1
        have isInstance := (storage_of_reportsStopped (Bool.and_eq_true_iff.mp instancePriced).1).1
        rw [isVolume] at isInstance
        exact absurd isInstance (by decide)
      refine apart volumeMember instanceMember other ?_
        ((credited_of_stopped instancePriced).mem_iff.mpr attached)
      rw [credited_of_unattached volumePriced]
      exact List.mem_singleton_self _
  · intro isApart
    refine ⟨fun context _ => credited_nodup context, ?_⟩
    apply List.Nodup.pairwise_of_forall_ne (List.Nodup.of_map _ correlation.distinct)
    intro first firstMember second secondMember different volume inFirst inSecond
    rcases mem_credited inFirst with ⟨firstPriced, rfl⟩ | ⟨firstPriced, firstHolds⟩
    · rcases mem_credited inSecond with ⟨-, same⟩ | ⟨secondPriced, secondHolds⟩
      · exact different (eq_of_resourceId firstMember secondMember same)
      · exact isApart.unattached first firstMember second secondMember firstPriced secondPriced
          secondHolds
    · rcases mem_credited inSecond with ⟨secondPriced, rfl⟩ | ⟨secondPriced, secondHolds⟩
      · exact isApart.unattached second secondMember first firstMember secondPriced firstPriced
          firstHolds
      · refine isApart.stopped first firstMember second secondMember firstPriced secondPriced
          (fun same => ?_) firstHolds secondHolds
        exact different (eq_of_resourceId firstMember secondMember same)

/-- What an analysis credits, context by context. -/
theorem costFindings_inTurn {contexts : List OciResourceAnalysisContext}
    {found : List (Option CostFinding)}
    (returned : List.Forall₂ (fun context result => ∃ before next,
      costFinding catalog now inventory before context = (.ok result, next)) contexts found) :
    ((found.filterMap id).flatMap fun finding => finding.credits.map Prod.fst) =
        contexts.flatMap (credited inventory) ∧
      ∀ resourceId pricing, .stoppedCompute resourceId pricing ∈ found.filterMap id →
        ∃ context ∈ contexts, context.inventory.resourceId = resourceId ∧
          SumsStorage context pricing := by
  induction returned with
  | nil => exact ⟨rfl, fun _ _ member => absurd member List.not_mem_nil⟩
  | @cons context result contexts found isFound _ inductionHypothesis =>
    obtain ⟨before, next, isFound⟩ := isFound
    obtain ⟨credits, sums⟩ := costFinding_ok isFound
    obtain ⟨othersCredits, othersSum⟩ := inductionHypothesis
    have split : (result :: found).filterMap id = result.toList ++ found.filterMap id := by
      cases result <;> rfl
    rw [split]
    constructor
    · rw [List.flatMap_append, List.flatMap_cons, credits, othersCredits]
    · intro resourceId pricing member
      rcases List.mem_append.mp member with own | others
      · obtain ⟨sameId, sumsOwn⟩ := sums resourceId pricing (Option.mem_toList.mp own)
        exact ⟨context, List.mem_cons_self .., sameId, sumsOwn⟩
      · obtain ⟨other, otherMember, isSum⟩ := othersSum resourceId pricing others
        exact ⟨other, List.mem_cons_of_mem _ otherMember, isSum⟩

/-- An analysis credits no volume twice exactly where its instances are apart, and the
saving of an instance is the sum of all of its volumes or nothing. -/
theorem costFindings_credits {service after : OciPricingService} {correlation : OciCorrelationResult}
    {findings : List CostFinding}
    (returned : costFindings catalog now correlation service = (.ok findings, after)) :
    (CreditedOnce findings ↔ CreditedApart correlation) ∧
      ∀ resourceId pricing, .stoppedCompute resourceId pricing ∈ findings →
        ∃ context ∈ correlation.resourceContexts, context.inventory.resourceId = resourceId ∧
          SumsStorage context pricing := by
  simp only [costFindings] at returned
  obtain ⟨found, loop, rfl⟩ := map_fst_eq_ok returned
  obtain ⟨credits, sums⟩ := costFindings_inTurn (pricedInTurn_ok loop)
  have arranged := sortByKey_perm (·.inventory.resourceId) correlation.resourceContexts
  constructor
  · rw [CreditedOnce, credits, ← credited_nodup_iff]
    exact (arranged.flatMap_right _).nodup_iff
  · intro resourceId pricing member
    obtain ⟨context, isContext, isSum⟩ := sums resourceId pricing member
    exact ⟨context, arranged.mem_iff.mp isContext, isSum⟩

end Contexts

section Shared

attribute [local instance] asciiCase noDecimalText

/-- A stopped instance or a volume of 10 GB. -/
def sampleResource (resourceId resourceType source state : String) : OciDiscoveredResource where
  resourceId := resourceId
  resourceType := resourceType
  name := none
  region := none
  compartmentId := none
  lifecycleState := some state
  availabilityDomain := none
  freeformTags := []
  definedTags := []
  sources := [source]
  attributes := [("attachment_coverage", .text "complete"), ("size_in_gbs", .integer 10),
    ("vpus_per_gb", .integer 2)]

def sampleAttachment (instanceId : String) : OciResourceRelationship :=
  ⟨"volume_attachment", "volume", instanceId, "block_volume", "compute_instance"⟩

/-- Stopped instances that share a block volume. -/
def sharedVolume (instanceIds : List String) : OciDiscoveryResult where
  status := .success
  resources := sampleResource "volume" "block_volume" "block_storage_api" "AVAILABLE" ::
    instanceIds.map fun instanceId =>
      sampleResource instanceId "compute_instance" "compute_api" "STOPPED"
  relationships := instanceIds.map sampleAttachment
  regionsScanned := []
  compartmentsScanned := []
  observedCountsByType := []
  countsByType := [("compute_instance", some instanceIds.length), ("block_volume", some 1),
    ("boot_volume", some 0)]
  warnings := []
  errors := []

/-- The volumes that an analysis of the process's first collection credits. -/
def creditedVolumes (discovery : OciDiscoveryResult) : Option (List String) :=
  (costFindings volumePrices 1 (correlate discovery) .new).1.toOption.map fun findings =>
    findings.flatMap fun finding => finding.credits.map Prod.fst

theorem returned_of_creditedVolumes {discovery : OciDiscoveryResult} {volumes : List String}
    (evaluated : creditedVolumes discovery = some volumes) :
    ∃ findings after, costFindings volumePrices 1 (correlate discovery) .new =
        (.ok findings, after) ∧
      (findings.flatMap fun finding => finding.credits.map Prod.fst) = volumes := by
  unfold creditedVolumes at evaluated
  rcases outcome : costFindings volumePrices 1 (correlate discovery) .new with
    ⟨raised | findings, after⟩
  · rw [outcome] at evaluated
    cases evaluated
  · rw [outcome] at evaluated
    exact ⟨findings, after, rfl, Option.some.inj evaluated⟩

/-- The volume of two stopped instances is credited to both. -/
theorem shared_volume_is_credited_twice :
    ¬∀ catalog now correlation service findings after,
      costFindings catalog now correlation service = (.ok findings, after) →
        CreditedOnce findings := by
  intro always
  have evaluated : creditedVolumes (sharedVolume ["first", "second"]) =
      some ["volume", "volume"] := by
    decide +kernel
  obtain ⟨findings, after, returned, volumes⟩ := returned_of_creditedVolumes evaluated
  have once := always _ _ _ _ findings after returned
  rw [CreditedOnce, volumes] at once
  exact absurd once (by decide)

/-- The volume of one instance is credited to it. -/
theorem single_instance_credits :
    ∃ findings, (CreditedOnce findings ↔ CreditedApart (correlate (sharedVolume ["instance"]))) ∧
      (findings.flatMap fun finding => finding.credits.map Prod.fst) = ["volume"] := by
  have evaluated : creditedVolumes (sharedVolume ["instance"]) = some ["volume"] := by
    decide +kernel
  obtain ⟨findings, after, returned, volumes⟩ := returned_of_creditedVolumes evaluated
  exact ⟨findings, (costFindings_credits returned).1, volumes⟩

end Shared

end FinopsAnalytics.OciCreditedVolumes
