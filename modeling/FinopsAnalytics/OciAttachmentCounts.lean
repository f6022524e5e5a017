import FinopsAnalytics.OciAnalyzers
import FinopsAnalytics.OciResourceUpdates

/-!
# Attachments counted by a discovery

The attachments of a block volume are counted in the call for the compartment
that listed the volume last. The relations gather the attachments of every call.
Both agree where that one call returned every instance the volume is attached to.
-/

namespace FinopsAnalytics.OciAttachmentCounts

open PythonText OpportunityRecords OpportunityCollection Dictionaries DistinctKeys Fallible
open OciDiscovery OciAnalyzers OciResourceUpdates

section Correlation

/-- Relating links adds just their relations. -/
theorem mem_foldl_addRelationship {links : List (String × String)}
    {related : String × String → OciResourceRelationship}
    {relationships : List OciResourceRelationship} {relationship : OciResourceRelationship} :
    relationship ∈ links.foldl (fun known link => addRelationship known (related link))
        relationships ↔
      relationship ∈ relationships ∨ ∃ link ∈ links, related link = relationship := by
  induction links generalizing relationships with
  | nil => simp
  | cons link rest inductionHypothesis =>
    have added : relationship ∈ addRelationship relationships (related link) ↔
        relationship ∈ relationships ∨ related link = relationship := by
      unfold addRelationship
      split_ifs with known
      · constructor
        · exact Or.inl
        · rintro (old | rfl)
          · exact old
          · exact known
      · simp [eq_comm]
    rw [List.foldl_cons, inductionHypothesis, added, List.exists_mem_cons_iff, or_assoc]

variable [CaseMapping]

variable {ids : List String} {resources : List (String × OciDiscoveredResource)}

omit [CaseMapping] in
theorem keyed_foldl_describe {entries : String → Metadata} (keyed : Keyed resources) :
    Keyed (ids.foldl (fun known id => describe known id (entries id)) resources) := by
  induction ids generalizing resources with
  | nil => exact keyed
  | cons id rest inductionHypothesis => exact inductionHypothesis (keyed_describe keyed)

omit [CaseMapping] in
/-- Counting the attachments of other volumes. -/
theorem foldl_describe_other {entries : String → Metadata} {wanted : String}
    (unlisted : wanted ∉ ids) :
    attachmentCounts (ids.foldl (fun known id => describe known id (entries id)) resources) wanted =
      attachmentCounts resources wanted := by
  induction ids generalizing resources with
  | nil => rfl
  | cons id rest inductionHypothesis =>
    rw [List.mem_cons, not_or] at unlisted
    rw [List.foldl_cons, inductionHypothesis unlisted.2, attachmentCounts_describe_other unlisted.1]

/-- The attachments of a known volume are counted anew. -/
theorem describe_counted {items : List AttachmentItem} {volume : String}
    (known : (attachmentCounts resources volume).isSome) :
    attachmentCounts (describe resources volume (attachmentEntries items true volume)) volume =
      some (some (.integer (attachedInstances items volume).length), some (.text "complete")) := by
  rw [attachmentCounts, Option.isSome_map] at known
  obtain ⟨resource, found⟩ := Option.isSome_iff_exists.mp known
  rw [describe, found, attachmentCounts_setKey, if_pos rfl]
  simp [update, attachmentEntries, lookup_setKey]

theorem foldl_describe_counted {items : List AttachmentItem} {volume : String}
    (listed : volume ∈ ids) (known : (attachmentCounts resources volume).isSome) :
    attachmentCounts (ids.foldl (fun known id =>
        describe known id (attachmentEntries items true id)) resources) volume =
      some (some (.integer (attachedInstances items volume).length), some (.text "complete")) := by
  induction ids generalizing resources with
  | nil => cases listed
  | cons id rest inductionHypothesis =>
    rw [List.foldl_cons]
    by_cases later : volume ∈ rest
    · refine inductionHypothesis later ?_
      by_cases same : volume = id
      · rw [← same, describe_counted known]
        rfl
      · rwa [attachmentCounts_describe_other same]
    · obtain rfl : volume = id := (List.mem_cons.mp listed).resolve_right later
      rw [foldl_describe_other later, describe_counted known]

end Correlation

section Compartments

/-- Every list call succeeds. -/
structure AllComplete (services : OciServices) : Prop where
  compartments : ∀ region parent inSubtree,
    (services.listCompartments region parent inSubtree).failure = none
  search : ∀ region, (services.searchResources region).failure = none
  domains : ∀ region, (services.listAvailabilityDomains region).failure = none
  instances : ∀ region compartment, (services.listInstances region compartment).failure = none
  volumes : ∀ region compartment, (services.listVolumes region compartment).failure = none
  bootVolumes : ∀ region compartment, (services.listBootVolumes region compartment).failure = none
  attachments : ∀ region compartment,
    (services.listVolumeAttachments region compartment).failure = none
  bootAttachments : ∀ region domain compartment,
    (services.listBootVolumeAttachments region domain compartment).failure = none
  regionalIps : ∀ region compartment,
    (services.listRegionalPublicIps region compartment).failure = none
  domainIps : ∀ region compartment domain,
    (services.listDomainPublicIps region compartment domain).failure = none

theorem takeListed_complete {α : Type} {resourceType source operation region compartment : String}
    {build : α → Option OciDiscoveredResource} {listing : Listing α} {progress : Progress}
    (complete : listing.failure = none) :
    takeListed resourceType source operation region compartment build listing progress =
      .ok (listing.items.filterMap build,
        (listing.items.filterMap build).foldl takeResource progress) := by
  simp only [takeListed, paged_complete complete]
  rfl

variable [CaseMapping]

/-- The block volumes that the call for a region and a compartment lists. -/
def blockVolumeIds (services : OciServices) (pair : String × String) : List String :=
  ((services.listVolumes pair.1 pair.2).items.filterMap (blockVolumeResource pair.1)).map
    OciDiscoveredResource.resourceId

/-- The boot volumes that the call for a region and a compartment lists. -/
def bootVolumeIds (services : OciServices) (pair : String × String) : List String :=
  ((services.listBootVolumes pair.1 pair.2).items.filterMap (bootVolumeResource pair.1)).map
    OciDiscoveredResource.resourceId

/-- The active attachments that the call for a region and a compartment returns. -/
def links (services : OciServices) (pair : String × String) : List (String × String) :=
  (services.listVolumeAttachments pair.1 pair.2).items.filterMap attachmentLink

/-- The last of the calls so far that listed the volume. -/
def lastListing (services : OciServices) (volume : String) (done : List (String × String)) :
    Option (String × String) :=
  (done.filter fun pair => volume ∈ blockVolumeIds services pair).getLast?

omit [CaseMapping] in
theorem lastListing_append (services : OciServices) (volume : String)
    (done : List (String × String)) (pair : String × String) :
    lastListing services volume (done ++ [pair]) =
      if volume ∈ blockVolumeIds services pair then some pair
      else lastListing services volume done := by
  unfold lastListing
  rw [List.filter_append]
  by_cases listed : volume ∈ blockVolumeIds services pair
  · simp [listed]
  · simp [listed]

/-- What a discovery has counted and related after some of its compartments. -/
structure Tracks (services : OciServices) (volume : String) (done : List (String × String))
    (progress : Progress) : Prop where
  keyed : Keyed progress.resources
  related : ∀ instance_, (∃ relationship ∈ progress.relationships,
      relationship.relationType = "volume_attachment" ∧ relationship.sourceId = volume ∧
        relationship.targetId = instance_) ↔
    ∃ pair ∈ done, (volume, instance_) ∈ links services pair
  counted : ∀ pair, lastListing services volume done = some pair →
    attachmentCounts progress.resources volume =
      some (some (.integer (attachedInstances
        (services.listVolumeAttachments pair.1 pair.2).items volume).length),
        some (.text "complete"))

/-- A change that relates no block volume and counts nothing anew. -/
structure Retains (volume : String) (before after : Progress) : Prop where
  keyed : Keyed before.resources → Keyed after.resources
  related : ∀ instance_, (∃ relationship ∈ after.relationships,
      relationship.relationType = "volume_attachment" ∧ relationship.sourceId = volume ∧
        relationship.targetId = instance_) ↔
    ∃ relationship ∈ before.relationships, relationship.relationType = "volume_attachment" ∧
      relationship.sourceId = volume ∧ relationship.targetId = instance_
  counted : ∀ counts, attachmentCounts before.resources volume = some counts →
    attachmentCounts after.resources volume = some counts

omit [CaseMapping] in
theorem Retains.refl (volume : String) (progress : Progress) : Retains volume progress progress :=
  ⟨id, fun _ => Iff.rfl, fun _ => id⟩

variable {volume : String} {services : OciServices} {done : List (String × String)}
  {resources : List OciDiscoveredResource}

omit [CaseMapping] in
theorem Retains.trans {first second third : Progress} (earlier : Retains volume first second)
    (later : Retains volume second third) :
    Retains volume first third :=
  ⟨later.keyed ∘ earlier.keyed, fun instance_ => (later.related instance_).trans
    (earlier.related instance_), fun counts => later.counted counts ∘ earlier.counted counts⟩

theorem Tracks.retain {before after : Progress} (tracks : Tracks services volume done before)
    (retains : Retains volume before after) : Tracks services volume done after :=
  ⟨retains.keyed tracks.keyed, fun instance_ => (retains.related instance_).trans
    (tracks.related instance_), fun pair last => retains.counted _ (tracks.counted pair last)⟩

omit [CaseMapping] in
/-- Taking the resources of a complete call counts nothing and relates no
volume; the resources are known then. -/
theorem takeListed_retains {α : Type} {build : α → Option OciDiscoveredResource}
    {resourceType source operation region compartment : String} {listing : Listing α}
    {progress next : Progress} (complete : listing.failure = none)
    (uncounted : ∀ item resource, build item = some resource → Uncounted resource.attributes)
    (keyed : Keyed progress.resources)
    (taken : takeListed resourceType source operation region compartment build listing progress =
      .ok (resources, next)) (volume : String) :
    resources = listing.items.filterMap build ∧ Retains volume progress next ∧
      ∀ id ∈ resources.map OciDiscoveredResource.resourceId,
        (attachmentCounts next.resources id).isSome := by
  rw [takeListed_complete complete] at taken
  obtain ⟨rfl, rfl⟩ := Prod.mk.inj (Except.ok.inj taken)
  have listed : ∀ resource ∈ listing.items.filterMap build, Uncounted resource.attributes := by
    intro resource member
    obtain ⟨item, -, built⟩ := List.mem_filterMap.mp member
    exact uncounted item resource built
  obtain ⟨restKeyed, relationships, kept, known⟩ := foldl_takeResource listed keyed
  refine ⟨rfl, ⟨fun _ => restKeyed, fun instance_ => by rw [relationships], kept volume⟩, ?_⟩
  intro id member
  obtain ⟨resource, resourceMember, rfl⟩ := List.mem_map.mp member
  exact known resource resourceMember

/-- Counting the block volumes of one call adds the call to those tracked. -/
theorem Tracks.correlate {progress : Progress} (tracks : Tracks services volume done progress)
    (pair : String × String) (known : volume ∈ blockVolumeIds services pair →
      (attachmentCounts progress.resources volume).isSome) :
    Tracks services volume (done ++ [pair]) (correlateAttachments "volume_attachment"
      "block_volume" (services.listVolumeAttachments pair.1 pair.2).items true
      (blockVolumeIds services pair) progress) := by
  refine ⟨keyed_foldl_describe tracks.keyed, fun instance_ => ?_, fun last found => ?_⟩
  · simp only [correlateAttachments, mem_foldl_addRelationship, List.mem_append,
      List.mem_singleton]
    constructor
    · rintro ⟨relationship, old | ⟨link, linked, rfl⟩, kind, source, target⟩
      · obtain ⟨earlier, member, linked⟩ :=
          (tracks.related instance_).mp ⟨relationship, old, kind, source, target⟩
        exact ⟨earlier, Or.inl member, linked⟩
      · simp only at source target
        exact ⟨pair, Or.inr rfl, source ▸ target ▸ linked⟩
    · rintro ⟨earlier, member | rfl, linked⟩
      · obtain ⟨relationship, old, same⟩ := (tracks.related instance_).mpr ⟨earlier, member, linked⟩
        exact ⟨relationship, Or.inl old, same⟩
      · exact ⟨_, Or.inr ⟨(volume, instance_), linked, rfl⟩, rfl, rfl, rfl⟩
  · rw [lastListing_append] at found
    split_ifs at found with listed
    · obtain rfl := Option.some.inj found
      exact foldl_describe_counted listed (known listed)
    · simp only [correlateAttachments]
      rw [foldl_describe_other listed]
      exact tracks.counted last found

/-- Counting boot volumes leaves a volume that is none of them. -/
theorem retains_bootCorrelation {items : List AttachmentItem} {ids : List String}
    {progress : Progress} (unlisted : volume ∉ ids) :
    Retains volume progress (correlateAttachments "boot_volume_attachment" "boot_volume" items true
      ids progress) := by
  refine ⟨keyed_foldl_describe, fun instance_ => ?_, fun counts counted => ?_⟩
  · simp only [correlateAttachments, mem_foldl_addRelationship]
    constructor
    · rintro ⟨relationship, old | ⟨link, -, rfl⟩, kind, rest⟩
      · exact ⟨relationship, old, kind, rest⟩
      · simp at kind
    · rintro ⟨relationship, old, rest⟩
      exact ⟨relationship, Or.inl old, rest⟩
  · simp only [correlateAttachments]
    rwa [foldl_describe_other unlisted]

omit [CaseMapping] in
/-- Grouping boot volumes by domain names no other volume. -/
theorem mem_foldl_groupByDomain {allowed : List String} {known : List (String × List String)}
    (inside : ∀ resource ∈ resources, resource.resourceId ∈ allowed)
    (holds : ∀ entry ∈ known, ∀ id ∈ entry.2, id ∈ allowed) :
    ∀ entry ∈ resources.foldl groupByDomain known, ∀ id ∈ entry.2, id ∈ allowed := by
  induction resources generalizing known with
  | nil => exact holds
  | cons resource rest inductionHypothesis =>
    refine inductionHypothesis (fun other later => inside other (List.mem_cons_of_mem _ later)) ?_
    unfold groupByDomain
    split
    · rename_i name _
      split_ifs
      · exact holds
      · intro entry member id listed
        rcases mem_setKey member with rfl | old
        · rcases List.mem_append.mp listed with before | last
          · cases found : known.lookup name with
            | none => simp [found] at before
            | some ids =>
              rw [found, Option.getD_some] at before
              exact holds _ (mem_of_lookup found) id before
          · rw [List.mem_singleton.mp last]
            exact inside resource (List.mem_cons_self ..)
        · exact holds entry old id listed
    · exact holds

omit [CaseMapping] in
/-- The boot volumes of a domain are among those listed. -/
theorem mem_bootIdsByAd {domain : String × List String} (member : domain ∈ bootIdsByAd resources)
    {id : String} (listed : id ∈ domain.2) : id ∈ resources.map OciDiscoveredResource.resourceId :=
  mem_foldl_groupByDomain (fun _ found => List.mem_map_of_mem found) (by simp) domain member id
    listed

/-- One compartment of a region, all its calls being complete. -/
theorem discoverCompartment_tracks (complete : AllComplete services)
    {volume region compartment : String} {state next : Progress × List String}
    (tracks : Tracks services volume done state.1)
    (distinct : volume ∉ bootVolumeIds services (region, compartment))
    (discovered : discoverCompartment services region state compartment = .ok next) :
    Tracks services volume (done ++ [(region, compartment)]) next.1 := by
  obtain ⟨progress, domains⟩ := state
  simp only [discoverCompartment] at discovered
  obtain ⟨⟨instances, withInstances⟩, instancesTaken, discovered⟩ := bind_eq_ok.mp discovered
  obtain ⟨⟨volumes, withVolumes⟩, volumesTaken, discovered⟩ := bind_eq_ok.mp discovered
  obtain ⟨⟨boots, withBoots⟩, bootsTaken, discovered⟩ := bind_eq_ok.mp discovered
  obtain ⟨correlated, correlation, discovered⟩ := bind_eq_ok.mp discovered
  obtain ⟨booted, bootCorrelations, returned⟩ := bind_eq_ok.mp discovered
  obtain rfl := Except.ok.inj returned
  obtain ⟨-, retained, -⟩ := takeListed_retains (complete.instances _ _)
    (fun _ _ => uncounted_computeResource) tracks.keyed instancesTaken volume
  have tracksInstances := tracks.retain retained
  obtain ⟨rfl, retained, known⟩ := takeListed_retains (complete.volumes _ _)
    (fun _ _ => uncounted_blockVolumeResource) tracksInstances.keyed volumesTaken volume
  have tracksVolumes := tracksInstances.retain retained
  obtain ⟨rfl, retained, -⟩ := takeListed_retains (complete.bootVolumes _ _)
    (fun _ _ => uncounted_bootVolumeResource) tracksVolumes.keyed bootsTaken volume
  have tracksBoots := tracksVolumes.retain retained
  have stillKnown (listed : volume ∈ blockVolumeIds services (region, compartment)) :
      (attachmentCounts withBoots.resources volume).isSome := by
    obtain ⟨counts, found⟩ := Option.isSome_iff_exists.mp (known volume listed)
    exact Option.isSome_iff_exists.mpr ⟨counts, retained.counted counts found⟩
  simp only [correlateBlockVolumeAttachments, paged_complete (complete.attachments _ _), ok_bind]
    at correlation
  obtain rfl := Except.ok.inj correlation
  have tracksLinks := tracksBoots.correlate (region, compartment) stillKnown
  refine tracksLinks.retain
    (foldlM_invariant (Retains volume _) ?_ (Retains.refl volume _) bootCorrelations)
  intro domain member state next retained stepped
  simp only [correlateBootVolumeAttachments, paged_complete (complete.bootAttachments _ _ _),
    ok_bind] at stepped
  obtain rfl := Except.ok.inj stepped
  exact retained.trans (retains_bootCorrelation fun listed =>
    distinct (mem_bootIdsByAd member listed))

end Compartments

section Regions

variable [CaseMapping] {services : OciServices} {volume : String}

omit [CaseMapping] in
/-- Marking a type as not covered changes no resource. -/
theorem retains_uncover (progress : Progress) (resourceType : String) :
    Retains volume progress (progress.uncover resourceType) :=
  ⟨id, fun _ => Iff.rfl, fun _ => id⟩

/-- An address is neither a volume nor an attachment. -/
theorem retains_takePublicIp {progress : Progress} {resource : OciDiscoveredResource}
    (uncounted : Uncounted resource.attributes) :
    Retains volume progress (takePublicIp progress resource) := by
  have taken : Retains volume progress (takeResource progress resource) :=
    ⟨keyed_upsert, fun _ => Iff.rfl, fun _ => attachmentCounts_upsert uncounted⟩
  unfold takePublicIp
  simp only
  split
  · rename_i entity _
    split_ifs
    · exact taken
    · refine taken.trans ⟨id, fun instance_ => ?_, fun _ => id⟩
      simp only [addRelationship]
      split_ifs with known
      · exact Iff.rfl
      · constructor
        · rintro ⟨relationship, member, kind, rest⟩
          rcases List.mem_append.mp member with old | last
          · exact ⟨relationship, old, kind, rest⟩
          · rw [List.mem_singleton.mp last] at kind
            simp at kind
        · rintro ⟨relationship, member, rest⟩
          exact ⟨relationship, List.mem_append_left _ member, rest⟩
  · exact taken

/-- The addresses of a compartment, all calls being complete. -/
theorem discoverPublicIps_retains (complete : AllComplete services) {region compartment : String}
    {domains : List String} {progress next : Progress}
    (discovered : discoverPublicIps services region domains progress compartment = .ok next) :
    Retains volume progress next := by
  simp only [discoverPublicIps, listPublicIps, paged_complete (complete.regionalIps _ _),
    ok_bind] at discovered
  obtain ⟨⟨items, covered, listed⟩, calls, returned⟩ := bind_eq_ok.mp discovered
  obtain ⟨⟨found, ok, gathered⟩, loop, deduped⟩ := bind_eq_ok.mp calls
  have unchanged : gathered = progress := by
    refine foldlM_invariant (fun state => state.2.2 = progress) ?_ rfl loop
    rintro domain - ⟨known, ok, before⟩ next rfl stepped
    simp only [listDomainAddresses, paged_complete (complete.domainIps _ _ _), ok_bind] at stepped
    obtain rfl := Except.ok.inj stepped
    rfl
  obtain ⟨rfl, rfl, rfl⟩ := Except.ok.inj deduped
  obtain rfl := Except.ok.inj returned
  rw [unchanged]
  have uncounted : ∀ resource ∈ (dedupedById found).filterMap (publicIpResource region),
      Uncounted resource.attributes := by
    intro resource member
    obtain ⟨item, -, built⟩ := List.mem_filterMap.mp member
    exact uncounted_publicIpResource built
  have folded : ∀ (taken : List OciDiscoveredResource) (before : Progress),
      (∀ resource ∈ taken, Uncounted resource.attributes) →
      Retains volume before (taken.foldl takePublicIp before) := by
    intro taken
    induction taken with
    | nil => exact fun before _ => Retains.refl volume before
    | cons resource rest inductionHypothesis =>
      intro before holds
      exact (retains_takePublicIp (holds resource (List.mem_cons_self ..))).trans
        (inductionHypothesis _ fun other later => holds other (List.mem_cons_of_mem _ later))
  split_ifs
  · exact folded _ _ uncounted
  · exact (retains_uncover _ _).trans (folded _ _ uncounted)

/-- One region of the scope, all calls being complete. -/
theorem discoverRegion_tracks (complete : AllComplete services)
    {snapshot : OciConnectionSnapshot} {compartments : List String} {region : String}
    {done : List (String × String)} {progress next : Progress}
    (tracks : Tracks services volume done progress)
    (distinct : ∀ compartment ∈ compartments,
      volume ∉ bootVolumeIds services (region, compartment))
    (discovered : discoverRegion services snapshot compartments progress region = .ok next) :
    Tracks services volume (done ++ compartments.map fun compartment => (region, compartment))
      next := by
  simp only [discoverRegion, paged_complete (complete.domains _), ok_bind] at discovered
  obtain ⟨⟨surveyed, observed⟩, loop, discovered⟩ := bind_eq_ok.mp discovered
  have tracksCompartments : Tracks services volume
      (done ++ compartments.map fun compartment => (region, compartment)) surveyed := by
    refine foldlM_done [] (fun earlier state => Tracks services volume
      (done ++ earlier.map fun compartment => (region, compartment)) state.1) ?_ ?_ loop
    · intro compartment member earlier state next holds stepped
      rw [List.map_append, List.map_singleton, ← List.append_assoc]
      exact discoverCompartment_tracks complete holds (distinct compartment member) stepped
    · simpa using tracks
  refine tracksCompartments.retain (foldlM_invariant (Retains volume surveyed) ?_ ?_ discovered)
  · intro compartment _ state next retained stepped
    exact retained.trans (discoverPublicIps_retains complete stepped)
  · exact Retains.refl volume surveyed

end Regions

end FinopsAnalytics.OciAttachmentCounts
