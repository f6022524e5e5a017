import FinopsAnalytics.Fallible
import FinopsAnalytics.OciPricing
import FinopsAnalytics.PricingVersions

/-!
# Fresh prices in OCI collections

The first collection that prices a volume takes the snapshot that every later one of
the process reads. Its prices are fresh as long as the catalog answers what it
answered then, and as soon as it does not the findings tell a price that is not in
force any more.
-/

namespace FinopsAnalytics.OciPriceFreshness

open PythonText OpportunityRecords PricingCatalog PricingVersions OciDiscovery OciPricing Fallible

/-- The two prices of a volume. -/
def volumeRequests : List PriceRequest := [storageRequest none, vpuRequest none]

section Snapshots

variable [CaseMapping]

variable {catalog : Catalog} {taken : PricingSnapshot} {request : PriceRequest}

/-- A snapshot lists the effective rows of its provider, each with an identity of its
own. -/
theorem snapshot_eq_ok {provider : String} {reference : Instant} {expectedCurrency : Option String}
    (accepted : snapshot catalog provider reference expectedCurrency = .ok taken) :
    taken.referenceAt = reference ∧
      taken.items = (providerRows catalog (CaseMapping.lower (strip provider)) reference).map
        (fun row => (row.identity, resolved row)) ∧
      ((providerRows catalog (CaseMapping.lower (strip provider)) reference).map
        PricingCatalogItem.identity).Nodup ∧
      ∀ row ∈ providerRows catalog (CaseMapping.lower (strip provider)) reference,
        validateCurrency (resolved row) expectedCurrency = .ok () := by
  simp only [snapshot, bind_eq_ok] at accepted
  obtain ⟨items, loop, result⟩ := accepted
  cases result
  refine ⟨rfl, ?_⟩
  have loopInvariant := foldlM_done [] (fun rows items =>
    items = rows.map (fun row : PricingCatalogItem => (row.identity, resolved row)) ∧
      (rows.map PricingCatalogItem.identity).Nodup ∧
      ∀ row ∈ rows, validateCurrency (resolved row) expectedCurrency = .ok ()) ?_
    ⟨rfl, List.nodup_nil, fun _ member => absurd member List.not_mem_nil⟩ loop
  · simpa using loopInvariant
  · rintro row - earlier items next ⟨listed, distinct, currencies⟩ step
    unfold addPrice at step
    dsimp only at step
    split at step
    · exact absurd step throw_ne_ok
    · rename_i unlisted
      simp only [bind_eq_ok] at step
      obtain ⟨passed, checked, result⟩ := step
      cases result
      refine ⟨?_, ?_, ?_⟩
      · rw [listed, List.map_append]
        rfl
      · rw [List.map_append, List.nodup_append]
        refine ⟨distinct, List.nodup_singleton _, ?_⟩
        rintro identity member other otherMember rfl
        rw [List.map_singleton, List.mem_singleton] at otherMember
        apply unlisted
        obtain ⟨old, oldMember, rfl⟩ := List.mem_map.mp member
        rw [listed, List.lookup_isSome_iff]
        refine ⟨(old.identity, resolved old), List.mem_map_of_mem oldMember, ?_⟩
        exact beq_iff_eq.mpr otherMember.symm
      · intro other otherMember
        rcases List.mem_append.mp otherMember with old | last
        · exact currencies other old
        · rw [List.mem_singleton.mp last]
          exact checked

omit [CaseMapping] in
/-- Reading rows with distinct identities by identity. -/
theorem lookup_rows {rows : List PricingCatalogItem}
    (distinct : (rows.map PricingCatalogItem.identity).Nodup) (identity : PricingIdentity) :
    (rows.map fun row => (row.identity, resolved row)).lookup identity =
      match rows.filter (fun row => decide (row.identity = identity)) with
      | [] => none
      | row :: _ => some (resolved row) := by
  induction rows with
  | nil => rfl
  | cons row rest inductionHypothesis =>
    rw [List.map_cons, List.nodup_cons] at distinct
    rw [List.map_cons, List.lookup_cons, List.filter_cons]
    by_cases same : row.identity = identity
    · rw [if_pos (decide_eq_true same), beq_iff_eq.mpr same.symm]
    · rw [if_neg (by simpa using same), beq_eq_false_iff_ne.mpr fun other => same other.symm]
      exact inductionHypothesis distinct.2

omit [CaseMapping] in
/-- The effective rows of an identity of the provider. -/
theorem effectiveRows_eq_filter (catalog : Catalog) (identity : PricingIdentity)
    (reference : Instant) :
    effectiveRows catalog identity reference =
      (providerRows catalog identity.provider reference).filter
        fun row => decide (row.identity = identity) := by
  rw [effectiveRows, providerRows, List.filter_filter]
  refine List.filter_congr fun row _ => ?_
  by_cases same : row.identity = identity
  · have provider : row.provider = identity.provider := congrArg PricingIdentity.provider same
    simp [same, provider]
  · simp [same]

omit [CaseMapping] in
theorem mem_volumeRequests :
    request ∈ volumeRequests ↔ request = storageRequest none ∨ request = vpuRequest none := by
  simp [volumeRequests]

/-- The columns that the two requests share. -/
theorem shape_of_listed (listed : request ∈ volumeRequests) :
    request.at_ = none ∧ request.expectedCurrency = some ociPricingCurrency ∧
      request.identity.provider = CaseMapping.lower (strip "oci") := by
  rcases mem_volumeRequests.mp listed with rfl | rfl <;> exact ⟨rfl, rfl, rfl⟩

/-- Where a snapshot is taken, at most one row is in force for a price, and in the
currency. -/
theorem effectiveRows_of_snapshot {now : Instant}
    (accepted : snapshot catalog "oci" now (some ociPricingCurrency) = .ok taken)
    (listed : request ∈ volumeRequests) :
    (effectiveRows catalog request.identity now).length ≤ 1 ∧
      ∀ row ∈ effectiveRows catalog request.identity now,
        validateCurrency (resolved row) (some ociPricingCurrency) = .ok () := by
  obtain ⟨-, -, distinct, currencies⟩ := snapshot_eq_ok accepted
  obtain ⟨-, -, provider⟩ := shape_of_listed listed
  have rows := effectiveRows_eq_filter catalog request.identity now
  constructor
  · have alike : (effectiveRows catalog request.identity now).map PricingCatalogItem.identity =
        List.replicate (effectiveRows catalog request.identity now).length request.identity := by
      refine List.eq_replicate_iff.mpr ⟨List.length_map .., fun identity member => ?_⟩
      obtain ⟨row, rowMember, rfl⟩ := List.mem_map.mp member
      exact (mem_effectiveRows.mp rowMember).2.2.2
    rw [← List.nodup_replicate, ← alike, rows, provider]
    exact distinct.sublist (List.filter_sublist.map _)
  · intro row member
    rw [rows, provider] at member
    exact currencies row (List.mem_filter.mp member).1

/-- A snapshot answers for its date what a resolver answers. -/
theorem resolvePrice_snapshot {now : Instant}
    (accepted : snapshot catalog "oci" now (some ociPricingCurrency) = .ok taken)
    (listed : request ∈ volumeRequests) (price : ResolvedPrice) :
    taken.resolvePrice request = .ok price ↔ priceAt catalog request now = .ok price := by
  obtain ⟨reference, items, distinct, -⟩ := snapshot_eq_ok accepted
  obtain ⟨undated, currency, provider⟩ := shape_of_listed listed
  have single := (effectiveRows_of_snapshot accepted listed).1
  rw [PricingSnapshot.resolvePrice, undated, Option.getD_none, if_neg (not_not.mpr rfl), items,
    lookup_rows distinct, ← provider, ← effectiveRows_eq_filter, priceAt_eq, currency]
  cases found : effectiveRows catalog request.identity now with
  | nil => simp
  | cons row rest =>
    rw [found] at single
    obtain rfl : rest = [] := by simpa using single
    dsimp only
    cases checked : validateCurrency (resolved row) (some ociPricingCurrency) with
    | error mismatch => simp [Except.map]
    | ok passed => simp [Except.map]

end Snapshots

/-- Pricing that shares the service: a kept snapshot stays, the first one that is
needed is kept, and where none is needed the service is not asked. -/
structure Shares [CaseMapping] {β : Type} (catalog : Catalog) (now : Instant)
    (price : OciPricingService → Except SnapshotError β × OciPricingService) (reads : Bool) :
    Prop where
  held : ∀ taken, (price ⟨some taken⟩).2 = ⟨some taken⟩
  loads : reads = true → ∀ taken,
    snapshot catalog "oci" now (some ociPricingCurrency) = .ok taken →
      price ⟨none⟩ = price ⟨some taken⟩
  refuses : reads = true → ∀ raised,
    snapshot catalog "oci" now (some ociPricingCurrency) = .error raised →
      price ⟨none⟩ = (.error (.catalog raised), ⟨none⟩)
  skips : reads = false → ∃ result, ∀ service, price service = (.ok result, service)

/-- A component that is made of a price of the snapshot. -/
def UsedFrom [CaseMapping] (taken : PricingSnapshot) (used : OciPricingComponent)
    (request : PriceRequest) : Prop :=
  ∃ price, taken.resolvePrice request = .ok price ∧ used = component price used.quantity

/-- The components of some pricing are made of the two prices of the snapshot, and of
both where it prices a volume. -/
structure Yields [CaseMapping] (taken : PricingSnapshot)
    (outcome : Except SnapshotError (List OciPricingComponent)) (reads : Bool) : Prop where
  sound : ∀ components, outcome = .ok components → ∀ used ∈ components,
    ∃ request ∈ volumeRequests, UsedFrom taken used request
  complete : ∀ components, outcome = .ok components → reads = true →
    ∀ request ∈ volumeRequests, ∃ used ∈ components, UsedFrom taken used request
  silent : reads = false → ∀ components, outcome = .ok components → components = []
  returns : (∀ request ∈ volumeRequests, ∃ price, taken.resolvePrice request = .ok price) →
    ∃ components, outcome = .ok components

section Sharing

variable [CaseMapping] {catalog : Catalog} {now : Instant}

/-- Where nothing is priced there are no components. -/
theorem Yields.nil (taken : PricingSnapshot) : Yields taken (.ok []) false := by
  refine ⟨fun components returned => ?_, fun components returned isRead => ?_,
    fun _ components returned => ?_, fun _ => ⟨[], rfl⟩⟩
  · cases returned
    exact fun _ member => absurd member List.not_mem_nil
  · cases isRead
  · cases returned
    rfl

variable {taken : PricingSnapshot}

/-- An exception is raised only where a price is missing. -/
theorem Yields.of_error {raised : SnapshotError} {reads : Bool}
    (missing : ¬∀ request ∈ volumeRequests, ∃ price, taken.resolvePrice request = .ok price) :
    Yields taken (.error raised) reads :=
  ⟨fun _ impossible => (by cases impossible), fun _ impossible => (by cases impossible),
    fun _ _ impossible => (by cases impossible), fun resolvable => absurd resolvable missing⟩

/-- An exception stands for the whole. -/
theorem Yields.error {raised : SnapshotError} {reads others : Bool}
    (yields : Yields taken (.error raised) reads) : Yields taken (.error raised) others := by
  refine .of_error fun resolvable => ?_
  obtain ⟨_, impossible⟩ := yields.returns resolvable
  cases impossible

theorem Shares.map {β γ : Type} {price : OciPricingService → Except SnapshotError β × OciPricingService}
    {reads : Bool} (shares : Shares catalog now price reads) (f : β → γ) :
    Shares catalog now (fun service => ((price service).1.map f, (price service).2)) reads where
  held taken := shares.held taken
  loads isRead taken accepted := by
    rw [shares.loads isRead taken accepted]
  refuses isRead raised refused := by
    rw [shares.refuses isRead raised refused]
    rfl
  skips unread := by
    obtain ⟨result, same⟩ := shares.skips unread
    refine ⟨f result, fun service => ?_⟩
    rw [same]
    rfl

/-- A loop of such pricings is one. -/
theorem Shares.inTurn {α β : Type}
    {price : OciPricingService → α → Except SnapshotError β × OciPricingService}
    {reads : α → Bool} {items : List α}
    (shares : ∀ item ∈ items, Shares catalog now (fun service => price service item) (reads item)) :
    Shares catalog now (fun service => pricedInTurn price service items) (items.any reads) := by
  induction items with
  | nil =>
    refine ⟨fun _ => rfl, fun isRead => ?_, fun isRead => ?_, fun _ => ⟨[], fun _ => rfl⟩⟩ <;>
      cases isRead
  | cons item rest inductionHypothesis =>
    have first := shares item (List.mem_cons_self ..)
    have later := inductionHypothesis fun other member => shares other (List.mem_cons_of_mem _ member)
    refine ⟨fun taken => ?_, fun isRead taken accepted => ?_, fun isRead raised refused => ?_,
      fun unread => ?_⟩
    · have kept := first.held taken
      dsimp only [pricedInTurn]
      rcases priced : price ⟨some taken⟩ item with ⟨_ | result, service⟩
      · rw [priced] at kept
        exact kept
      · rw [priced] at kept
        obtain rfl := kept
        have keptLater := later.held taken
        dsimp only at keptLater ⊢
        rcases rests : pricedInTurn price ⟨some taken⟩ rest with ⟨_ | results, service⟩
        · rw [rests] at keptLater
          exact keptLater
        · rw [rests] at keptLater
          exact keptLater
    · dsimp only [pricedInTurn]
      cases firstReads : reads item with
      | true =>
        have loaded := first.loads firstReads taken accepted
        rw [loaded]
      | false =>
        obtain ⟨result, same⟩ := first.skips firstReads
        rw [same, same]
        dsimp only
        have restReads : rest.any reads = true := by simpa [firstReads] using isRead
        have loaded := later.loads restReads taken accepted
        rw [loaded]
    · dsimp only [pricedInTurn]
      cases firstReads : reads item with
      | true =>
        have refusal := first.refuses firstReads raised refused
        rw [refusal]
      | false =>
        obtain ⟨result, same⟩ := first.skips firstReads
        rw [same]
        dsimp only
        have restReads : rest.any reads = true := by simpa [firstReads] using isRead
        have refusal := later.refuses restReads raised refused
        rw [refusal]
    · have unreadBoth : reads item = false ∧ rest.any reads = false := by simpa using unread
      obtain ⟨result, same⟩ := first.skips unreadBoth.1
      obtain ⟨results, sameRest⟩ := later.skips unreadBoth.2
      refine ⟨result :: results, fun service => ?_⟩
      dsimp only [pricedInTurn]
      rw [same]
      dsimp only
      rw [sameRest]

/-- So the components of a loop are those of its items. -/
theorem Yields.inTurn {α β : Type}
    {price : OciPricingService → α → Except SnapshotError β × OciPricingService}
    {components : β → List OciPricingComponent} {reads : α → Bool} {items : List α}
    (held : ∀ item ∈ items, (price ⟨some taken⟩ item).2 = ⟨some taken⟩) (yields : ∀ item ∈ items,
      Yields taken ((price ⟨some taken⟩ item).1.map components) (reads item)) :
    Yields taken ((pricedInTurn price ⟨some taken⟩ items).1.map fun results =>
      results.flatMap components) (items.any reads) := by
  induction items with
  | nil => exact Yields.nil taken
  | cons item rest inductionHypothesis =>
    have kept := held item (List.mem_cons_self ..)
    have first := yields item (List.mem_cons_self ..)
    have later := inductionHypothesis
      (fun other member => held other (List.mem_cons_of_mem _ member))
      fun other member => yields other (List.mem_cons_of_mem _ member)
    unfold pricedInTurn
    rcases priced : price ⟨some taken⟩ item with ⟨raised | result, service⟩
    · rw [priced] at first
      exact Yields.error first
    · rw [priced] at first kept
      obtain rfl := kept
      dsimp only
      rcases rests : pricedInTurn price ⟨some taken⟩ rest with ⟨raised | results, service⟩
      · rw [rests] at later
        exact Yields.error later
      · rw [rests] at later
        refine ⟨fun all returned used member => ?_, fun all returned isRead request listed => ?_,
          fun unread all returned => ?_, fun _ => ⟨_, rfl⟩⟩
        · cases returned
          dsimp only at member
          rw [List.flatMap_cons, List.mem_append] at member
          rcases member with own | others
          · exact first.sound _ rfl used own
          · exact later.sound _ rfl used others
        · cases returned
          rw [List.any_cons, Bool.or_eq_true] at isRead
          dsimp only
          rw [List.flatMap_cons]
          rcases isRead with own | others
          · obtain ⟨used, member, ofRequest⟩ := first.complete _ rfl own request listed
            exact ⟨used, List.mem_append_left _ member, ofRequest⟩
          · obtain ⟨used, member, ofRequest⟩ := later.complete _ rfl others request listed
            exact ⟨used, List.mem_append_right _ member, ofRequest⟩
        · cases returned
          obtain ⟨ownUnread, restUnread⟩ : reads item = false ∧ rest.any reads = false := by
            simpa using unread
          have own := first.silent ownUnread _ rfl
          have others := later.silent restUnread _ rfl
          dsimp only at others ⊢
          rw [List.flatMap_cons, own, others]
          rfl

/-- The formula uses the two prices of the snapshot. -/
theorem yields_blockVolumeFormula (taken : PricingSnapshot) (size vpus : ℚ) :
    Yields taken ((blockVolumeFormula taken size vpus none).map
      OciBlockVolumePricingResult.pricingComponents) true := by
  unfold blockVolumeFormula
  rcases storage : taken.resolvePrice (storageRequest none) with raised | storagePrice
  · refine .of_error fun resolvable => ?_
    obtain ⟨price, resolved⟩ := resolvable _ (mem_volumeRequests.mpr (Or.inl rfl))
    rw [storage] at resolved
    cases resolved
  · rcases vpu : taken.resolvePrice (vpuRequest none) with raised | vpuPrice
    · refine .of_error fun resolvable => ?_
      obtain ⟨price, resolved⟩ := resolvable _ (mem_volumeRequests.mpr (Or.inr rfl))
      rw [vpu] at resolved
      cases resolved
    · refine ⟨fun components returned used member => ?_,
        fun components returned _ request listed => ?_, fun unread => (by cases unread),
        fun _ => ⟨_, rfl⟩⟩
      · cases returned
        rcases List.mem_cons.mp member with rfl | last
        · exact ⟨_, mem_volumeRequests.mpr (Or.inl rfl), storagePrice, storage, rfl⟩
        · rw [List.mem_singleton.mp last]
          exact ⟨_, mem_volumeRequests.mpr (Or.inr rfl), vpuPrice, vpu, rfl⟩
      · cases returned
        rcases mem_volumeRequests.mp listed with rfl | rfl
        · exact ⟨_, List.mem_cons_self .., storagePrice, storage, rfl⟩
        · exact ⟨_, List.mem_cons_of_mem _ (List.mem_singleton.mpr rfl), vpuPrice, vpu, rfl⟩

end Sharing

section Pricings

variable [DecimalText]

/-- Whether the price of a volume is asked for. -/
def readsCatalog (attributes : Metadata) : Bool :=
  (decimalInput ((attributes.lookup "size_in_gbs").getD .null)).isSome &&
    (decimalInput ((attributes.lookup "vpus_per_gb").getD .null)).isSome

/-- Whether the price of a volume of an instance is asked for. -/
def readsVolume (inventory : List OciDiscoveredResource) (volume : String × String) : Bool :=
  match inventory.reverse.find? fun resource => resource.resourceId = volume.2 with
  | none => false
  | some resource => decide (resource.resourceType = volume.1) && readsCatalog resource.attributes

/-- Whether a pricing asks for a price. -/
def readsPricing : FindingPricing → Bool
  | .blockVolume attributes => readsCatalog attributes
  | .persistentStorage bootIds blockIds inventory =>
    (volumesOf bootIds blockIds).any (readsVolume inventory)

variable [CaseMapping] {catalog : Catalog} {now : Instant}

/-- Only a volume with sizes asks for prices. -/
theorem shares_volumePricing (attributes : Metadata) (resourceType : String)
    (resourceId : Option String) :
    Shares catalog now (fun service => volumePricing service catalog now attributes resourceType
      resourceId) (readsCatalog attributes) := by
  refine Shares.map ?_ (volumeEvidence ((attributes.lookup "size_in_gbs").getD .null)
    ((attributes.lookup "vpus_per_gb").getD .null) resourceType resourceId)
  unfold readsCatalog
  cases decimalInput ((attributes.lookup "size_in_gbs").getD .null) with
  | none => exact ⟨fun _ => rfl, fun isRead => (by cases isRead), fun isRead => (by cases isRead),
      fun _ => ⟨none, fun _ => rfl⟩⟩
  | some size =>
    cases decimalInput ((attributes.lookup "vpus_per_gb").getD .null) with
    | none => exact ⟨fun _ => rfl, fun isRead => (by cases isRead),
        fun isRead => (by cases isRead), fun _ => ⟨none, fun _ => rfl⟩⟩
    | some vpus =>
      refine ⟨fun _ => rfl, fun _ taken accepted => ?_, fun _ raised refused => ?_,
        fun unread => (by cases unread)⟩
      · simp only [OciPricingService.catalog, Option.getD_none, accepted, if_true]
      · simp only [OciPricingService.catalog, Option.getD_none, refused]

theorem yields_volumePricing (taken : PricingSnapshot) (attributes : Metadata)
    (resourceType : String) (resourceId : Option String) :
    Yields taken ((volumePricing ⟨some taken⟩ catalog now attributes resourceType
      resourceId).1.map VolumePricing.pricingComponents) (readsCatalog attributes) := by
  simp only [volumePricing, readsCatalog, OciPricingService.blockVolumeMonthlyPricing]
  cases decimalInput ((attributes.lookup "size_in_gbs").getD .null) with
  | none => exact Yields.nil taken
  | some size =>
    cases decimalInput ((attributes.lookup "vpus_per_gb").getD .null) with
    | none => exact Yields.nil taken
    | some vpus =>
      have formula := yields_blockVolumeFormula taken size vpus
      dsimp only [OciPricingService.catalog]
      cases outcome : blockVolumeFormula taken size vpus none with
      | error raised =>
        rw [outcome] at formula
        exact formula
      | ok result =>
        rw [outcome] at formula
        exact formula

/-- A volume outside the inventory asks for no price. -/
theorem shares_priceResource (inventory : List OciDiscoveredResource)
    (volume : String × String) :
    Shares catalog now (fun service => priceResource service catalog now inventory volume.1
      volume.2) (readsVolume inventory volume) := by
  unfold priceResource readsVolume
  have skips (rendered : RenderedVolume) :
      Shares catalog now (fun service => (.ok rendered, service)) false :=
    ⟨fun _ => rfl, fun isRead => (by cases isRead), fun isRead => (by cases isRead),
      fun _ => ⟨_, fun _ => rfl⟩⟩
  cases inventory.reverse.find? fun resource => decide (resource.resourceId = volume.2) with
  | none => exact skips _
  | some resource =>
    by_cases same : resource.resourceType = volume.1
    · simp only [same, ne_eq, not_true_eq_false, if_false, decide_true, Bool.true_and]
      exact (shares_volumePricing resource.attributes volume.1 (some volume.2)).map _
    · simp only [same, ne_eq, not_false_eq_true, if_true, decide_false, Bool.false_and]
      exact skips _

theorem yields_priceResource (taken : PricingSnapshot) (inventory : List OciDiscoveredResource)
    (volume : String × String) :
    Yields taken ((priceResource ⟨some taken⟩ catalog now inventory volume.1 volume.2).1.map
      RenderedVolume.pricingComponents) (readsVolume inventory volume) := by
  unfold priceResource readsVolume
  cases inventory.reverse.find? fun resource => decide (resource.resourceId = volume.2) with
  | none => exact Yields.nil taken
  | some resource =>
    by_cases same : resource.resourceType = volume.1
    · have priced : Yields taken ((volumePricing ⟨some taken⟩ catalog now resource.attributes volume.1
          (some volume.2)).1.map VolumePricing.pricingComponents)
          (readsCatalog resource.attributes) :=
        yields_volumePricing taken resource.attributes volume.1 (some volume.2)
      simp only [same, ne_eq, not_true_eq_false, if_false, decide_true, Bool.true_and]
      rw [map_map]
      exact priced
    · simp only [same, ne_eq, not_false_eq_true, if_true, decide_false, Bool.false_and]
      exact Yields.nil taken

theorem shares_findingComponents (pricing : FindingPricing) :
    Shares catalog now (fun service => findingComponents service catalog now pricing)
      (readsPricing pricing) := by
  cases pricing with
  | blockVolume attributes => exact (shares_volumePricing attributes "block_volume" none).map _
  | persistentStorage bootIds blockIds inventory =>
    exact ((Shares.inTurn fun volume _ => shares_priceResource inventory volume).map
      (storageEvidence bootIds blockIds)).map _

theorem yields_findingComponents (taken : PricingSnapshot) (pricing : FindingPricing) :
    Yields taken (findingComponents ⟨some taken⟩ catalog now pricing).1 (readsPricing pricing) := by
  cases pricing with
  | blockVolume attributes =>
    have priced : Yields taken ((volumePricing ⟨some taken⟩ catalog now attributes "block_volume"
        none).1.map VolumePricing.pricingComponents) (readsCatalog attributes) :=
      yields_volumePricing taken attributes "block_volume" none
    exact priced
  | persistentStorage bootIds blockIds inventory =>
    have volumes : Yields taken ((pricedInTurn (fun service (volume : String × String) =>
          priceResource service catalog now inventory volume.1 volume.2) ⟨some taken⟩
          (volumesOf bootIds blockIds)).1.map
        fun rendered => rendered.flatMap RenderedVolume.pricingComponents)
        ((volumesOf bootIds blockIds).any (readsVolume inventory)) :=
      Yields.inTurn (fun volume _ => (shares_priceResource inventory volume).held taken)
        fun volume _ => yields_priceResource taken inventory volume
    simp only [findingComponents, persistentStoragePricing, map_map]
    exact volumes

/-- The pricings of a collection share the service. -/
theorem shares_collection (pricings : List FindingPricing) :
    Shares catalog now (fun service => pricedInTurn (fun service pricing =>
      findingComponents service catalog now pricing) service pricings)
      (pricings.any readsPricing) :=
  Shares.inTurn fun pricing _ => shares_findingComponents pricing

/-- By induction on the findings. -/
theorem yields_collection (catalog : Catalog) (now : Instant) (taken : PricingSnapshot)
    (pricings : List FindingPricing) :
    Yields taken ((pricedInTurn (fun service pricing =>
        findingComponents service catalog now pricing) ⟨some taken⟩ pricings).1.map
      fun findings => findings.flatMap id) (pricings.any readsPricing) := by
  refine Yields.inTurn (fun pricing _ => (shares_findingComponents pricing).held taken)
    fun pricing _ => ?_
  have priced : Yields taken (findingComponents ⟨some taken⟩ catalog now pricing).1
      (readsPricing pricing) := yields_findingComponents taken pricing
  cases outcome : (findingComponents ⟨some taken⟩ catalog now pricing).1 with
  | error raised =>
    rw [outcome] at priced
    exact priced
  | ok components =>
    rw [outcome] at priced
    exact priced

end Pricings

section Runs

/-- What happens to a worker process: the catalog is changed, or a collection prices what
it has found. -/
inductive Event where
  | changes (operation : PricingAdmin.Operation)
  | collects (now : Instant) (discovery : OciDiscoveryResult)

/-- The catalog and the service that the collections of the process share. -/
structure Process where
  catalog : Catalog
  service : OciPricingService

/-- What a collection has priced, on a catalog at an instant. -/
structure CollectionPricing where
  catalog : Catalog
  now : Instant
  outcome : Except SnapshotError (List (List OciPricingComponent))

/-- A catalog at the instant of a collection. -/
structure Reading where
  catalog : Catalog
  now : Instant

variable [CaseMapping] [DecimalText]

/-- A collection of the process. -/
def collect (process : Process) (now : Instant) (discovery : OciDiscoveryResult) :
    CollectionPricing × Process :=
  match pricedInTurn (fun service pricing =>
      findingComponents service process.catalog now pricing) process.service
      (pricingsOf discovery) with
  | (outcome, service) => (⟨process.catalog, now, outcome⟩, { process with service })

/-- The collections of a process in their order. -/
def collections : Process → List Event → List CollectionPricing
  | _, [] => []
  | process, .changes operation :: rest =>
    collections { process with catalog := (operation.apply process.catalog).2 } rest
  | process, .collects now discovery :: rest =>
    (collect process now discovery).1 :: collections (collect process now discovery).2 rest

/-- The component is a use of the price: of this row of the catalog, at this amount. -/
def Uses (used : OciPricingComponent) (price : ResolvedPrice) : Prop :=
  used.sku = price.sku ∧ (used.pricingItemId, used.unitPrice, used.currency) = quoted price

/-- Every component uses the price that the resolver answers at the collection. -/
def CollectionPricing.Fresh (collection : CollectionPricing) : Prop :=
  ∀ findings, collection.outcome = .ok findings → ∀ components ∈ findings, ∀ used ∈ components,
    ∃ request ∈ volumeRequests, ∃ price,
      priceAt collection.catalog request collection.now = .ok price ∧ Uses used price

/-- The collections that ask for a price. -/
def readings : Catalog → List Event → List Reading
  | _, [] => []
  | catalog, .changes operation :: rest => readings (operation.apply catalog).2 rest
  | catalog, .collects now discovery :: rest =>
    if (pricingsOf discovery).any readsPricing then ⟨catalog, now⟩ :: readings catalog rest
    else readings catalog rest

/-- Whether a snapshot can be taken: the effective prices are in the currency and none
has two. -/
def Reading.readable (reading : Reading) : Bool :=
  (snapshot reading.catalog "oci" reading.now (some ociPricingCurrency)).isOk

/-- Both prices of a volume are in force. -/
def Reading.Priced (reading : Reading) : Prop :=
  ∀ request ∈ volumeRequests,
    effectiveRows reading.catalog request.identity reading.now ≠ []

/-- The rows in force for an identity, with their amounts. -/
def Reading.quotes (reading : Reading) (identity : PricingIdentity) :
    List (String × ℚ × String) :=
  (effectiveRows reading.catalog identity reading.now).map fun row => quoted (resolved row)

/-- The same rows are in force for the two prices of a volume. -/
def SamePrices (first later : Reading) : Prop :=
  ∀ request ∈ volumeRequests, later.quotes request.identity = first.quotes request.identity

/-- From the first reading on at which a snapshot can be taken, the prices of a volume
stand, if they have both been in force there. -/
def PricesStand (all : List Reading) : Prop :=
  match all.dropWhile fun reading => !reading.readable with
  | [] => True
  | first :: later => first.Priced → ∀ reading ∈ later, SamePrices first reading

end Runs

section Freshness

variable [CaseMapping]

omit [CaseMapping] in
theorem quotes_cases (reading : Reading) (identity : PricingIdentity) {row : PricingCatalogItem}
    (rows : effectiveRows reading.catalog identity reading.now = [row]) :
    reading.quotes identity = [quoted (resolved row)] := by
  rw [Reading.quotes, rows]
  rfl

variable {catalog : Catalog} {request : PriceRequest} {now : Instant} {price : ResolvedPrice}

/-- What a resolver answers is the only row in force. -/
theorem priceAt_eq_ok :
    priceAt catalog request now = .ok price ↔
      ∃ row, effectiveRows catalog request.identity now = [row] ∧ price = resolved row ∧
        validateCurrency price request.expectedCurrency = .ok () := by
  rw [priceAt_eq]
  rcases rows : effectiveRows catalog request.identity now with _ | ⟨row, _ | ⟨second, rest⟩⟩
  · simp
  · dsimp only
    cases checked : validateCurrency (resolved row) request.expectedCurrency with
    | error mismatch =>
      refine ⟨fun impossible => (by cases impossible), fun ⟨other, same, isPrice, passed⟩ => ?_⟩
      obtain rfl := (List.cons.inj same).1
      rw [isPrice, checked] at passed
      cases passed
    | ok passed =>
      constructor
      · intro answered
        cases answered
        exact ⟨row, rfl, rfl, checked⟩
      · rintro ⟨other, same, rfl, -⟩
        obtain rfl := (List.cons.inj same).1
        rfl
  · simp

theorem row_of_priceAt (answered : priceAt catalog request now = .ok price) :
    ∃ row, effectiveRows catalog request.identity now = [row] ∧ price = resolved row ∧
      validateCurrency price request.expectedCurrency = .ok () :=
  priceAt_eq_ok.mp answered

theorem priceAt_of_row
    (inForce : ∃ row, effectiveRows catalog request.identity now = [row] ∧ price = resolved row ∧
      validateCurrency price request.expectedCurrency = .ok ()) :
    priceAt catalog request now = .ok price :=
  priceAt_eq_ok.mpr inForce

/-- A row with the quotation of a price that is answered is answered. -/
theorem priceAt_of_quotes {first later : Reading}
    (answered : priceAt first.catalog request first.now = .ok price)
    (same : later.quotes request.identity = first.quotes request.identity) :
    ∃ other, priceAt later.catalog request later.now = .ok other ∧ quoted other = quoted price := by
  obtain ⟨row, rows, rfl, passed⟩ := row_of_priceAt answered
  rw [quotes_cases first request.identity rows, Reading.quotes] at same
  obtain ⟨other, others, sameQuote⟩ := List.map_eq_singleton_iff.mp same
  have sameCurrency : (resolved other).currency = (resolved row).currency :=
    congrArg (fun quote : String × ℚ × String => quote.2.2) sameQuote
  refine ⟨resolved other, priceAt_of_row ⟨other, others, rfl, ?_⟩, sameQuote⟩
  unfold validateCurrency at passed ⊢
  split
  · rfl
  · rename_i expected isExpected
    rw [isExpected] at passed
    dsimp only at passed ⊢
    rw [sameCurrency]
    split at passed
    · cases passed
    · rename_i agreed
      rw [if_neg agreed]

theorem sku_of_priceAt (answered : priceAt catalog request now = .ok price) :
    price.sku = request.identity.sku := by
  obtain ⟨row, rows, rfl, -⟩ := row_of_priceAt answered
  have member : row ∈ effectiveRows catalog request.identity now := by simp [rows]
  exact congrArg PricingIdentity.sku (mem_effectiveRows.mp member).2.2.2

/-- The two prices have different names. -/
theorem eq_of_sku {first second : PriceRequest} (firstListed : first ∈ volumeRequests)
    (secondListed : second ∈ volumeRequests) (same : first.identity.sku = second.identity.sku) :
    first = second := by
  have apart : strip "BLOCK_VOLUME_GB_MONTH" ≠ strip "BLOCK_VOLUME_VPU_GB_MONTH" := by
    decide +kernel
  rcases mem_volumeRequests.mp firstListed with rfl | rfl <;>
    rcases mem_volumeRequests.mp secondListed with rfl | rfl
  · rfl
  · exact absurd same apart
  · exact absurd same.symm apart
  · rfl

variable [DecimalText] {first : Reading} {taken : PricingSnapshot}

omit [DecimalText] in
/-- Where both prices are in force a snapshot answers them. -/
theorem resolvable_of_priced
    (isTaken : snapshot first.catalog "oci" first.now (some ociPricingCurrency) = .ok taken)
    (priced : first.Priced) :
    ∀ request ∈ volumeRequests, ∃ price, taken.resolvePrice request = .ok price := by
  intro request listed
  obtain ⟨single, currencies⟩ := effectiveRows_of_snapshot isTaken listed
  obtain ⟨row, rows⟩ : ∃ row, effectiveRows first.catalog request.identity first.now = [row] := by
    have some := List.length_pos_iff.mpr (priced request listed)
    exact List.length_eq_one_iff.mp (Nat.le_antisymm single some)
  refine ⟨resolved row, (resolvePrice_snapshot isTaken listed _).mpr ?_⟩
  refine priceAt_of_row ⟨row, rows, rfl, ?_⟩
  rw [(shape_of_listed listed).2.1]
  exact currencies row (by simp [rows])

/-- A collection on a kept snapshot is fresh exactly where the prices stand. -/
theorem fresh_held_iff
    (isTaken : snapshot first.catalog "oci" first.now (some ociPricingCurrency) = .ok taken)
    (catalog : Catalog) (now : Instant) (discovery : OciDiscoveryResult) :
    (collect ⟨catalog, ⟨some taken⟩⟩ now discovery).1.Fresh ↔
      ((pricingsOf discovery).any readsPricing = true → first.Priced →
        SamePrices first ⟨catalog, now⟩) := by
  have yields := yields_collection catalog now taken (pricingsOf discovery)
  have outcome : (collect ⟨catalog, ⟨some taken⟩⟩ now discovery).1.outcome =
      (pricedInTurn (fun service pricing => findingComponents service catalog now pricing)
        ⟨some taken⟩ (pricingsOf discovery)).1 := rfl
  rw [← outcome] at yields
  constructor
  · intro fresh isRead priced request listed
    obtain ⟨components, returned⟩ := yields.returns (resolvable_of_priced isTaken priced)
    cases result : (collect ⟨catalog, ⟨some taken⟩⟩ now discovery).1.outcome with
    | error raised =>
      rw [result] at returned
      cases returned
    | ok findings =>
      rw [result] at returned
      cases returned
      obtain ⟨used, member, price, answered, isUsed⟩ :=
        yields.complete _ (by rw [result]; rfl) isRead request listed
      obtain ⟨finding, findingMember, usedMember⟩ := List.mem_flatMap.mp member
      obtain ⟨other, otherListed, otherPrice, otherAnswered, sku, quotes⟩ :=
        fresh findings result finding findingMember used usedMember
      have answeredFirst := (resolvePrice_snapshot isTaken listed price).mp answered
      have sameSku : request.identity.sku = other.identity.sku := by
        rw [← sku_of_priceAt answeredFirst, ← sku_of_priceAt otherAnswered, ← sku, isUsed]
        rfl
      obtain rfl := eq_of_sku listed otherListed sameSku
      obtain ⟨row, rows, isRow, -⟩ := row_of_priceAt answeredFirst
      obtain ⟨otherRow, otherRows, isOtherRow, -⟩ := row_of_priceAt otherAnswered
      rw [quotes_cases first request.identity rows,
        quotes_cases ⟨catalog, now⟩ request.identity otherRows, ← isRow, ← isOtherRow, ← quotes,
        isUsed]
      rfl
  · intro stands findings result finding findingMember used usedMember
    have member : used ∈ findings.flatMap id := List.mem_flatMap.mpr ⟨_, findingMember, usedMember⟩
    have returned : (collect ⟨catalog, ⟨some taken⟩⟩ now discovery).1.outcome.map
        (fun findings => findings.flatMap id) = .ok (findings.flatMap id) := by
      rw [result]
      rfl
    cases isRead : (pricingsOf discovery).any readsPricing with
    | false =>
      rw [yields.silent isRead _ returned] at member
      exact absurd member List.not_mem_nil
    | true =>
      obtain ⟨request, listed, price, answered, isUsed⟩ := yields.sound _ returned used member
      have priced : first.Priced := by
        intro other otherListed
        obtain ⟨-, -, otherPrice, otherAnswered, -⟩ :=
          yields.complete _ returned isRead other otherListed
        obtain ⟨row, rows, -⟩ := row_of_priceAt
          ((resolvePrice_snapshot isTaken otherListed otherPrice).mp otherAnswered)
        rw [rows]
        exact List.cons_ne_nil _ _
      have answeredFirst := (resolvePrice_snapshot isTaken listed price).mp answered
      obtain ⟨other, otherAnswered, sameQuote⟩ :=
        priceAt_of_quotes answeredFirst (stands isRead priced request listed)
      refine ⟨request, listed, other, otherAnswered, ?_, ?_⟩
      · rw [sku_of_priceAt otherAnswered, ← sku_of_priceAt answeredFirst, isUsed]
        rfl
      · rw [sameQuote, isUsed]
        rfl

/-- A kept snapshot stays. -/
theorem service_held (taken : PricingSnapshot) (catalog : Catalog) (now : Instant)
    (discovery : OciDiscoveryResult) :
    (collect ⟨catalog, ⟨some taken⟩⟩ now discovery).2 = ⟨catalog, ⟨some taken⟩⟩ :=
  congrArg (Process.mk catalog) ((shares_collection (pricingsOf discovery)).held taken)

/-- A collection that asks for no price is fresh and leaves the service. -/
theorem collect_unread (service : OciPricingService) (catalog : Catalog) (now : Instant)
    {discovery : OciDiscoveryResult}
    (unread : (pricingsOf discovery).any readsPricing = false) :
    (collect ⟨catalog, service⟩ now discovery).1.Fresh ∧
      (collect ⟨catalog, service⟩ now discovery).2 = ⟨catalog, service⟩ := by
  have shares : Shares catalog now (fun service => pricedInTurn (fun service pricing =>
      findingComponents service catalog now pricing) service (pricingsOf discovery))
      ((pricingsOf discovery).any readsPricing) := shares_collection _
  obtain ⟨result, same⟩ := shares.skips unread
  have yields := yields_collection catalog now ⟨"", 0, []⟩ (pricingsOf discovery)
  rw [same] at yields
  have none := yields.silent unread _ rfl
  have collected : collect ⟨catalog, service⟩ now discovery =
      (⟨catalog, now, .ok result⟩, ⟨catalog, service⟩) := by
    unfold collect
    rw [same]
  rw [collected]
  refine ⟨fun findings returned finding member used usedMember => ?_, rfl⟩
  cases returned
  have listed : used ∈ result.flatMap id := List.mem_flatMap.mpr ⟨finding, member, usedMember⟩
  dsimp only at none
  rw [none] at listed
  exact absurd listed List.not_mem_nil

/-- The collections of a process that keeps a snapshot. -/
theorem held_fresh_iff
    (isTaken : snapshot first.catalog "oci" first.now (some ociPricingCurrency) = .ok taken)
    (catalog : Catalog) (events : List Event) :
    (∀ collection ∈ collections ⟨catalog, ⟨some taken⟩⟩ events, collection.Fresh) ↔
      (first.Priced → ∀ reading ∈ readings catalog events, SamePrices first reading) := by
  induction events generalizing catalog with
  | nil => simp [collections, readings]
  | cons event rest inductionHypothesis =>
    cases event with
    | changes operation => exact inductionHypothesis _
    | collects now discovery =>
      rw [collections, service_held, List.forall_mem_cons, inductionHypothesis catalog,
        fresh_held_iff isTaken, readings]
      cases isRead : (pricingsOf discovery).any readsPricing with
      | false => simp
      | true =>
        rw [if_pos rfl, List.forall_mem_cons]
        exact ⟨fun both priced => ⟨both.1 rfl priced, both.2 priced⟩,
          fun stands => ⟨fun _ priced => (stands priced).1, fun priced => (stands priced).2⟩⟩

/-- The collections of a process are fresh exactly where the prices stand from its first
snapshot on. -/
theorem collections_fresh_iff (catalog : Catalog) (events : List Event) :
    (∀ collection ∈ collections ⟨catalog, .new⟩ events, collection.Fresh) ↔
      PricesStand (readings catalog events) := by
  induction events generalizing catalog with
  | nil => simp [collections, readings, PricesStand]
  | cons event rest inductionHypothesis =>
    cases event with
    | changes operation => exact inductionHypothesis _
    | collects now discovery =>
      have shares : Shares catalog now (fun service => pricedInTurn (fun service pricing =>
          findingComponents service catalog now pricing) service (pricingsOf discovery))
          ((pricingsOf discovery).any readsPricing) := shares_collection _
      rw [collections, List.forall_mem_cons, readings]
      cases isRead : (pricingsOf discovery).any readsPricing with
      | false =>
        obtain ⟨fresh, kept⟩ := collect_unread OciPricingService.new catalog now isRead
        rw [if_neg Bool.false_ne_true, kept, inductionHypothesis catalog]
        exact and_iff_right fresh
      | true =>
        rw [if_pos rfl]
        cases isTaken : snapshot catalog "oci" now (some ociPricingCurrency) with
        | error raised =>
          have refused : collect ⟨catalog, .new⟩ now discovery =
              (⟨catalog, now, .error (.catalog raised)⟩, ⟨catalog, .new⟩) := by
            have refusal := shares.refuses isRead raised isTaken
            unfold collect OciPricingService.new
            dsimp only at refusal ⊢
            rw [refusal]
          have unreadable : (Reading.mk catalog now).readable = false := by
            rw [Reading.readable, isTaken]
            rfl
          have dropped : PricesStand (⟨catalog, now⟩ :: readings catalog rest) ↔
              PricesStand (readings catalog rest) := by
            unfold PricesStand
            rw [List.dropWhile_cons_of_pos (by simp [unreadable])]
          rw [refused, dropped, inductionHypothesis catalog]
          exact and_iff_right fun _ impossible => (by cases impossible)
        | ok taken =>
          have loads : collect ⟨catalog, .new⟩ now discovery =
              collect ⟨catalog, ⟨some taken⟩⟩ now discovery := by
            have loaded := shares.loads isRead taken isTaken
            unfold collect OciPricingService.new
            dsimp only at loaded ⊢
            rw [loaded]
          have readable : (Reading.mk catalog now).readable = true := by
            rw [Reading.readable, isTaken]
            rfl
          have opened : PricesStand (⟨catalog, now⟩ :: readings catalog rest) ↔
              ((Reading.mk catalog now).Priced → ∀ reading ∈ readings catalog rest,
                SamePrices ⟨catalog, now⟩ reading) := by
            unfold PricesStand
            rw [List.dropWhile_cons_of_neg (by simp [readable])]
          have isFirst : snapshot (Reading.mk catalog now).catalog "oci" (Reading.mk catalog now).now
            (some ociPricingCurrency) = .ok taken := isTaken
          have fresh := (fresh_held_iff isFirst catalog now discovery).mpr fun _ _ _ _ => rfl
          rw [loads, service_held, opened, held_fresh_iff isFirst]
          exact and_iff_right fresh

end Freshness

section Small

attribute [local instance] asciiCase noDecimalText

/-- The two prices of a volume, in force from 0 on. -/
def volumePrices : Catalog :=
  [⟨"storage-1", "oci", "block_volume", "BLOCK_VOLUME_GB_MONTH", "storage", "GB_MONTH", 1, "BRL", 0,
      none, true, "MANUAL"⟩,
    ⟨"vpu-1", "oci", "block_volume", "BLOCK_VOLUME_VPU_GB_MONTH", "performance", "VPU_GB_MONTH", 1,
      "BRL", 0, none, true, "MANUAL"⟩]

/-- An account with one volume that is not attached. -/
def unattachedVolume : OciDiscoveryResult where
  status := .success
  resources := [{
    resourceId := "volume"
    resourceType := "block_volume"
    name := none
    region := none
    compartmentId := none
    lifecycleState := some "AVAILABLE"
    availabilityDomain := none
    freeformTags := []
    definedTags := []
    sources := ["block_storage_api"]
    attributes := [("attachment_coverage", .text "complete"), ("attachment_count", .integer 0),
      ("size_in_gbs", .integer 10), ("vpus_per_gb", .integer 2)] }]
  relationships := []
  regionsScanned := []
  compartmentsScanned := []
  observedCountsByType := []
  countsByType := [("block_volume", some 1)]
  warnings := []
  errors := []

/-- A collection, a new price for storage from 5 on, and a collection at 10. -/
def repricedStorage : List Event :=
  [.collects 1 unattachedVolume,
    .changes (.update "oci" "storage-1" ⟨some 2, none, some 5, "MANUAL"⟩ 5 "storage-2"),
    .collects 10 unattachedVolume]

/-- Whether the first component of a collection is of a row that no price resolves to. -/
def usesSuperseded (collection : CollectionPricing) : Bool :=
  match collection.outcome with
  | .ok ((used :: _) :: _) => volumeRequests.all fun request =>
    match priceAt collection.catalog request collection.now with
    | .ok price => price.id ≠ used.pricingItemId
    | .error _ => true
  | _ => false

/-- The second collection uses the price that ended at 5. -/
theorem superseded_price_is_used :
    ¬∀ catalog events, ∀ collection ∈ collections ⟨catalog, .new⟩ events, collection.Fresh := by
  intro always
  have superseded :
      (collections ⟨volumePrices, .new⟩ repricedStorage).any usesSuperseded = true := by
    decide +kernel
  obtain ⟨collection, member, uses⟩ := List.any_eq_true.mp superseded
  unfold usesSuperseded at uses
  split at uses
  · rename_i used rest others outcome
    obtain ⟨request, listed, price, answered, -, quotes⟩ :=
      always _ _ collection member _ outcome _ (List.mem_cons_self ..) used (List.mem_cons_self ..)
    have other := List.all_eq_true.mp uses request listed
    rw [answered] at other
    simp only [decide_eq_true_eq] at other
    exact other (congrArg Prod.fst quotes).symm
  · cases uses

end Small

end FinopsAnalytics.OciPriceFreshness
