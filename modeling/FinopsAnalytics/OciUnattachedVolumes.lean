import FinopsAnalytics.OciAttachmentCounts

/-!
# Volumes found without attachments

A whole discovery: the scope is resolved, searched and listed, and the warnings
are added. A block volume is then counted with the instances that its relations
name exactly where every one of its attachments was returned for the compartment
that listed the volume.
-/

namespace FinopsAnalytics.OciUnattachedVolumes

open PythonText OpportunityRecords OpportunityCollection Dictionaries DistinctKeys Fallible
open OciDiscovery OciAnalyzers OciResourceUpdates OciAttachmentCounts

section Scope

variable {services : OciServices}

/-- Expanding a branch through complete calls raises no issue. -/
theorem expandBranch_progress (complete : AllComplete services) {region : String} {fuel : ℕ}
    {queue expanded resolved : List String} {covered ok : Bool} {progress next : Progress}
    {compartments : List String}
    (done : expandBranch services region fuel queue expanded resolved covered progress =
      .ok (some (compartments, ok, next))) : next = progress := by
  induction fuel generalizing queue expanded resolved covered with
  | zero => cases done
  | succ fuel inductionHypothesis =>
    cases queue with
    | nil =>
      cases done
      rfl
    | cons parent queue =>
      rw [expandBranch] at done
      split_ifs at done
      · exact inductionHypothesis done
      · rw [paged_complete (complete.compartments _ _ _)] at done
        exact inductionHypothesis done

/-- Resolving a scope through complete calls gathers nothing. -/
theorem resolve_progress (complete : AllComplete services) {snapshot : OciConnectionSnapshot}
    {fuel : ℕ} {progress next : Progress} {scope : OciDiscoveryScope}
    (done : resolveOciDiscoveryScope services snapshot fuel progress = .ok (some (scope, next))) :
    next = progress := by
  simp only [resolveOciDiscoveryScope] at done
  split at done
  · cases done
    rfl
  · rename_i region _ _
    split_ifs at done
    · cases done
      rfl
    · obtain ⟨expanded, loop, returned⟩ := bind_eq_ok.mp done
      have unchanged : ∀ state, expanded = some state → state.2.2 = progress := by
        refine foldlM_invariant (fun reached : Option (List String × Bool × Progress) =>
          ∀ state, reached = some state → state.2.2 = progress) ?_ ?_ loop
        · rintro root - reached following holds stepped state rfl
          cases reached with
          | none => cases stepped
          | some before =>
            obtain ⟨resolved, covered, known⟩ := before
            obtain rfl : known = progress := holds _ rfl
            rw [expandRoot] at stepped
            split_ifs at stepped
            · rw [paged_complete (complete.compartments _ _ _)] at stepped
              cases stepped
              rfl
            · exact expandBranch_progress complete stepped
        · rintro state same
          cases same
          rfl
      cases expanded with
      | none => cases returned
      | some state =>
        cases returned
        exact unchanged state rfl

end Scope

section Survey

variable [CaseMapping] {services : OciServices} {volume : String}

/-- The calls for the compartments of a scope, in order. -/
def scopeCalls (regions compartments : List String) : List (String × String) :=
  regions.flatMap fun region => compartments.map fun compartment => (region, compartment)

/-- A complete inventory tracks every call of its scope. -/
theorem collectWave1Inventory_tracks (complete : AllComplete services)
    {snapshot : OciConnectionSnapshot} {scope : OciDiscoveryScope} {progress next : Progress}
    (tracks : Tracks services volume [] progress)
    (distinct : ∀ pair ∈ scopeCalls scope.regions scope.compartmentIds,
      volume ∉ bootVolumeIds services pair)
    (done : collectWave1Inventory services snapshot scope progress = .ok next) :
    Tracks services volume (scopeCalls scope.regions scope.compartmentIds) next := by
  simp only [collectWave1Inventory] at done
  obtain ⟨surveyed, loop, returned⟩ := bind_eq_ok.mp done
  have surveyedTracks :
      Tracks services volume (scopeCalls scope.regions scope.compartmentIds) surveyed := by
    refine foldlM_done [] (fun earlier state =>
      Tracks services volume (scopeCalls earlier scope.compartmentIds) state) ?_ tracks loop
    intro region member earlier state following holds stepped
    have inside : ∀ compartment ∈ scope.compartmentIds,
        volume ∉ bootVolumeIds services (region, compartment) := fun compartment listed =>
      distinct _ (List.mem_flatMap.mpr ⟨region, member, List.mem_map_of_mem listed⟩)
    have next := discoverRegion_tracks complete holds inside stepped
    simpa [scopeCalls] using next
  split_ifs at returned
  · cases returned
    exact surveyedTracks
  · cases returned
    exact ⟨surveyedTracks.keyed, surveyedTracks.related, surveyedTracks.counted⟩

/-- The search relates and counts nothing. -/
theorem discoverSearch_tracks (complete : AllComplete services) {region : String}
    {scope : OciDiscoveryScope} {ok : Bool} {next : Progress}
    (done : discoverSearch services region scope Progress.empty = .ok (ok, next)) :
    Tracks services volume [] next := by
  simp only [discoverSearch, paged_complete (complete.search _), ok_bind] at done
  have kept : ∀ (found : List OciDiscoveredResource) (progress : Progress),
      Keyed progress.resources → progress.relationships = [] →
      Keyed (found.foldl (fun progress resource =>
        { progress with
          resources := (upsert progress.resources resource false).1
          searchIds := resource.resourceId :: progress.searchIds }) progress).resources ∧
      (found.foldl (fun progress resource =>
        { progress with
          resources := (upsert progress.resources resource false).1
          searchIds := resource.resourceId :: progress.searchIds }) progress).relationships = [] := by
    intro found
    induction found with
    | nil => exact fun _ keyed none => ⟨keyed, none⟩
    | cons resource rest inductionHypothesis =>
      exact fun progress keyed none => inductionHypothesis _ (keyed_upsert keyed) none
  obtain ⟨-, rfl⟩ := Prod.mk.inj (Except.ok.inj done)
  obtain ⟨keyed, none⟩ := kept (((services.searchResources region).items.filter fun item =>
    (!truthy item.region || orEmpty item.region ∈ scope.regions) &&
      item.compartmentId.any (· ∈ scope.compartmentIds)).filterMap searchResource) Progress.empty
      Keyed.empty rfl
  refine ⟨keyed, fun instance_ => ?_, fun pair found => ?_⟩
  · rw [none]
    simp
  · cases found

omit [CaseMapping] in
/-- Noting where resources were found changes no attachments. -/
theorem retains_describe {resources : List (String × OciDiscoveredResource)} {progress : Progress}
    {ids : List String} {value : String} (retains : Retains volume progress
      { progress with resources }) :
    Retains volume progress { progress with
      resources := ids.foldl (fun known id =>
        describe known id [("discovery_consistency", .text value)]) resources } := by
  induction ids generalizing resources with
  | nil => exact retains
  | cons id rest inductionHypothesis =>
    refine inductionHypothesis ⟨fun keyed => keyed_describe (retains.keyed keyed),
      retains.related, fun counts counted => ?_⟩
    have uncounted : Uncounted [("discovery_consistency", .text value)] := by simp [Uncounted]
    simp only [attachmentCounts_describe uncounted]
    exact retains.counted counts counted

omit [CaseMapping] in
/-- The warnings change no attachments. -/
theorem retains_addConsistencyWarnings (searchComplete : Bool) (progress : Progress) :
    Retains volume progress (addConsistencyWarnings searchComplete progress).1 := by
  have oneType (state : Progress × List OciDiscoveryIssue) (resourceType : String) :
      Retains volume state.1 (addTypeWarnings state resourceType).1 := by
    obtain ⟨before, warnings⟩ := state
    simp only [addTypeWarnings]
    split
    · exact Retains.refl volume before
    · exact retains_describe (retains_describe (Retains.refl volume before))
  have allTypes : ∀ (types : List String) (state : Progress × List OciDiscoveryIssue),
      Retains volume state.1 (types.foldl addTypeWarnings state).1 := by
    intro types
    induction types with
    | nil => exact fun state => Retains.refl volume state.1
    | cons resourceType rest inductionHypothesis =>
      exact fun state => (oneType state resourceType).trans (inductionHypothesis _)
  have typed : Retains volume progress
      (if searchComplete then wave1ResourceTypes.foldl addTypeWarnings (progress, [])
        else (progress, [])).1 := by
    split_ifs
    · exact allTypes wave1ResourceTypes (progress, [])
    · exact Retains.refl volume progress
  simp only [addConsistencyWarnings]
  split_ifs at typed ⊢ <;> exact typed

/-- What a complete discovery tracked, by its result. -/
theorem discover_tracks (complete : AllComplete services) {snapshot : OciConnectionSnapshot}
    {fuel : ℕ} {result : OciDiscoveryResult}
    (distinct : ∀ pair ∈ scopeCalls result.regionsScanned result.compartmentsScanned,
      volume ∉ bootVolumeIds services pair)
    (done : discover services snapshot fuel = .ok (some result)) :
    ∃ progress : Progress,
      Tracks services volume (scopeCalls result.regionsScanned result.compartmentsScanned)
        progress ∧
      result.resources.Perm (progress.resources.map Prod.snd) ∧
      result.relationships.Perm progress.relationships := by
  simp only [discover] at done
  obtain ⟨resolved, resolution, done⟩ := bind_eq_ok.mp done
  cases resolved with
  | none => cases done
  | some pair =>
    obtain ⟨scope, start⟩ := pair
    obtain rfl := resolve_progress complete resolution
    obtain ⟨found, surveyed, same⟩ := map_eq_ok.mp done
    obtain rfl := Option.some.inj same
    simp only [discoverScope] at surveyed
    obtain ⟨⟨searchComplete, progress⟩, survey, returned⟩ := bind_eq_ok.mp surveyed
    obtain rfl := Except.ok.inj returned
    simp only [buildResult] at distinct ⊢
    have tracked : Tracks services volume (scopeCalls scope.regions scope.compartmentIds)
        progress := by
      unfold surveyScope at survey
      split at survey
      · obtain ⟨⟨ok, searched⟩, search, rest⟩ := bind_eq_ok.mp survey
        obtain ⟨collected, inventory, ended⟩ := bind_eq_ok.mp rest
        cases ended
        exact collectWave1Inventory_tracks complete (discoverSearch_tracks complete search)
          distinct inventory
      · rename_i empty
        have noCalls : scopeCalls scope.regions scope.compartmentIds = [] := by
          cases regions : scope.regions with
          | nil => rfl
          | cons region rest =>
            cases compartments : scope.compartmentIds with
            | nil => simp [scopeCalls]
            | cons compartment others => exact absurd compartments (empty _ _ _ _ regions)
        cases survey
        rw [noCalls]
        exact ⟨Keyed.empty, fun _ => by simp [Progress.empty], fun _ found => by cases found⟩
    exact ⟨_, tracked.retain (retains_addConsistencyWarnings searchComplete progress),
      sortByKey_perm _ _, sortByKey_perm _ _⟩

end Survey

section Counts

/-- Of two lists without repetitions, one within the other, the lengths agree
exactly where the members do. -/
theorem length_eraseDups_eq_iff {inner outer : List String} (inside : inner ⊆ outer) :
    inner.eraseDups.length = outer.eraseDups.length ↔ outer ⊆ inner := by
  have within : inner.eraseDups ⊆ outer.eraseDups := fun _ member =>
    List.mem_eraseDups.mpr (inside (List.mem_eraseDups.mp member))
  have subperm : inner.eraseDups.Subperm outer.eraseDups :=
    List.subperm_of_subset (nodup_eraseDups inner) within
  constructor
  · intro same wanted member
    have arranged := subperm.perm_of_length_le same.ge
    exact List.mem_eraseDups.mp (arranged.mem_iff.mpr (List.mem_eraseDups.mpr member))
  · intro back
    have reverse : outer.eraseDups.Subperm inner.eraseDups :=
      List.subperm_of_subset (nodup_eraseDups outer) fun _ member =>
        List.mem_eraseDups.mpr (back (List.mem_eraseDups.mp member))
    exact le_antisymm subperm.length_le reverse.length_le

variable [CaseMapping]

/-- What OCI documents of its answers: an attachment names its instance, and the
identifier of a block volume is not that of a boot volume. -/
structure DocumentedAnswers (services : OciServices) : Prop where
  named : ∀ region compartment, ∀ item ∈ (services.listVolumeAttachments region compartment).items,
    truthy item.instanceId
  kinds : ∀ first second, ∀ volume ∈ blockVolumeIds services first,
    volume ∉ bootVolumeIds services second

/-- The calls of a discovery for the compartments of its scope. -/
def callsOf (result : OciDiscoveryResult) : List (String × String) :=
  scopeCalls result.regionsScanned result.compartmentsScanned

/-- A list call of the discovery returned the volume. -/
def Listed (services : OciServices) (result : OciDiscoveryResult) (volume : String) : Prop :=
  ∃ pair ∈ callsOf result, volume ∈ blockVolumeIds services pair

/-- An attachment call of the discovery returned an active attachment of the volume. -/
def Attached (services : OciServices) (result : OciDiscoveryResult) (volume : String) : Prop :=
  ∃ pair ∈ callsOf result, ∃ item ∈ (services.listVolumeAttachments pair.1 pair.2).items,
    item.volumeId = some volume ∧ activeAttachment item = true

/-- The distinct instances in the relations of a volume. -/
def relatedInstances (result : OciDiscoveryResult) (volume : String) : List String :=
  ((result.relationships.filter fun relationship =>
    relationship.relationType = "volume_attachment" ∧ relationship.sourceId = volume).map
      OciResourceRelationship.targetId).eraseDups

/-- The attachments of a volume are counted as its relations have them, and one
counted or reported without attachments has none. -/
structure AttachmentsCounted [OciReporting] (services : OciServices) (result : OciDiscoveryResult)
    (volume : String) : Prop where
  counted : ∃ resource ∈ result.resources, resource.resourceId = volume ∧
    resource.attributes.lookup "attachment_count" =
      some (.integer (relatedInstances result volume).length)
  unattached : ∀ resource ∈ result.resources, resource.resourceId = volume →
    resource.attributes.lookup "attachment_coverage" = some (.text "complete") →
    resource.attributes.lookup "attachment_count" = some (.integer 0) →
    ¬ Attached services result volume
  reported : ∀ found ∈ analyze result, found.ruleKey = ruleBlockVolumeUnattached →
    found.resourceId = volume → ¬ Attached services result volume

/-- The call for the compartment that listed the volume last returned an active
attachment to every instance to which a call returned one. -/
def AttachedWhereListed (services : OciServices) (result : OciDiscoveryResult) (volume : String) :
    Prop :=
  ∀ pair ∈ callsOf result, ∀ item ∈ (services.listVolumeAttachments pair.1 pair.2).items,
    item.volumeId = some volume → activeAttachment item = true →
    ∀ last, lastListing services volume (callsOf result) = some last →
      ∃ other ∈ (services.listVolumeAttachments last.1 last.2).items,
        other.volumeId = some volume ∧ activeAttachment other = true ∧
          other.instanceId = item.instanceId

variable {services : OciServices} {pair : String × String}

/-- The links of a call are its active attachments. -/
theorem mem_links {volume instance_ : String} :
    (volume, instance_) ∈ links services pair ↔
      ∃ item ∈ (services.listVolumeAttachments pair.1 pair.2).items,
        item.volumeId = some volume ∧ item.instanceId = some instance_ ∧
          activeAttachment item = true ∧ volume ≠ "" ∧ instance_ ≠ "" := by
  unfold links
  rw [List.mem_filterMap]
  refine exists_congr fun item => and_congr_right fun _ => ?_
  unfold attachmentLink
  split
  · rename_i found target volumeId instanceId
    rw [volumeId, instanceId]
    split_ifs with refused
    · simp only [Option.some.injEq, false_iff]
      rintro ⟨rfl, rfl, active, volumeNamed, instanceNamed⟩
      rcases refused with empty | empty | inactive
      · exact volumeNamed empty
      · exact instanceNamed empty
      · simp [active] at inactive
    · simp only [not_or, Bool.not_eq_true', Bool.not_eq_false] at refused
      simp only [Option.some.injEq, Prod.mk.injEq]
      constructor
      · rintro ⟨rfl, rfl⟩
        exact ⟨rfl, rfl, refused.2.2, refused.1, refused.2.1⟩
      · rintro ⟨rfl, rfl, -⟩
        exact ⟨rfl, rfl⟩
  · rename_i incomplete
    simp only [reduceCtorEq, false_iff]
    rintro ⟨volumeId, instanceId, -⟩
    exact incomplete _ _ volumeId instanceId

omit [CaseMapping] in
/-- A listed volume has an identifier. -/
theorem ne_empty_of_listed {volume : String} (listed : volume ∈ blockVolumeIds services pair) :
    volume ≠ "" := by
  obtain ⟨resource, member, rfl⟩ := List.mem_map.mp listed
  obtain ⟨item, -, built⟩ := List.mem_filterMap.mp member
  simp only [blockVolumeResource, serviceResource] at built
  split at built
  · cases built
  · split at built
    · cases built
    · rename_i named
      cases built
      exact named

/-- Attached instances of a call, by its links. -/
theorem mem_attachedInstances {volume instance_ : String} :
    instance_ ∈ attachedInstances (services.listVolumeAttachments pair.1 pair.2).items volume ↔
      (volume, instance_) ∈ links services pair := by
  simp only [attachedInstances, mem_sortByKey, List.mem_eraseDups, List.mem_map, List.mem_filter,
    decide_eq_true_eq, links]
  constructor
  · rintro ⟨⟨source, target⟩, ⟨member, rfl⟩, rfl⟩
    exact member
  · intro member
    exact ⟨(volume, instance_), ⟨member, rfl⟩, rfl⟩

/-- Which instances a tracked volume is related to. -/
theorem mem_relatedInstances {result : OciDiscoveryResult} {volume : String} {progress : Progress}
    (tracks : Tracks services volume (callsOf result) progress)
    (arranged : result.relationships.Perm progress.relationships) {instance_ : String} :
    instance_ ∈ (result.relationships.filter fun relationship =>
        relationship.relationType = "volume_attachment" ∧ relationship.sourceId = volume).map
          OciResourceRelationship.targetId ↔
      ∃ pair ∈ callsOf result, (volume, instance_) ∈ links services pair := by
  rw [← tracks.related, List.mem_map]
  refine exists_congr fun relationship => ?_
  rw [List.mem_filter, decide_eq_true_eq, arranged.mem_iff, and_assoc, and_assoc]

omit [CaseMapping] in
/-- The calls that list a volume have a last one. -/
theorem exists_lastListing {result : OciDiscoveryResult} {volume : String}
    (listed : Listed services result volume) :
    ∃ last ∈ callsOf result, lastListing services volume (callsOf result) = some last := by
  obtain ⟨pair, member, lists⟩ := listed
  cases found : lastListing services volume (callsOf result) with
  | none =>
    rw [lastListing, List.getLast?_eq_none_iff, List.filter_eq_nil_iff] at found
    exact absurd (decide_eq_true lists) (found pair member)
  | some last =>
    exact ⟨last, (List.mem_filter.mp (List.mem_of_getLast? found)).1, rfl⟩

variable [OciReporting]

variable {result : OciDiscoveryResult} {services : OciServices}

/-- A volume reported without attachments was counted so. -/
theorem counted_of_reported {found : CollectedFinding} (member : found ∈ analyze result)
    (rule : found.ruleKey = ruleBlockVolumeUnattached) :
    ∃ resource ∈ result.resources, resource.resourceId = found.resourceId ∧
      resource.attributes.lookup "attachment_coverage" = some (.text "complete") ∧
      resource.attributes.lookup "attachment_count" = some (.integer 0) := by
  rw [analyze, mem_sortByKey] at member
  obtain ⟨resource, resourceMember, reported⟩ := List.mem_flatMap.mp member
  have volume := (mem_analyzeContext reported).1.resolve_right (not_not_intro rule)
  obtain ⟨tells, counts⟩ := analyzeBlockVolumeUnattached_reports volume
  exact ⟨resource, resourceMember, tells.resourceId.symm, counts⟩

omit [OciReporting] in
/-- The last call that listed a volume returned all its instances exactly where
it was attached there to each of them. -/
theorem attachedWhereListed_iff (documented : DocumentedAnswers services) {volume : String}
    (named : volume ≠ "") {last : String × String}
    (lastFound : lastListing services volume (callsOf result) = some last) :
    AttachedWhereListed services result volume ↔
      ∀ instance_, (∃ pair ∈ callsOf result, (volume, instance_) ∈ links services pair) →
        (volume, instance_) ∈ links services last := by
  constructor
  · rintro joined instance_ ⟨pair, member, linked⟩
    obtain ⟨item, itemMember, ofVolume, target, active, -, instanceNamed⟩ := mem_links.mp linked
    obtain ⟨other, otherMember, otherVolume, otherActive, same⟩ :=
      joined pair member item itemMember ofVolume active last lastFound
    exact mem_links.mpr ⟨other, otherMember, otherVolume, same.trans target, otherActive, named,
      instanceNamed⟩
  · rintro joined pair member item itemMember ofVolume active found same
    obtain rfl := Option.some.inj (lastFound.symm.trans same)
    obtain ⟨instance_, target, instanceNamed⟩ :=
      truthy_isSome (documented.named pair.1 pair.2 item itemMember)
    obtain ⟨other, otherMember, otherVolume, otherTarget, otherActive, -⟩ := mem_links.mp
      (joined instance_ ⟨pair, member, mem_links.mpr
        ⟨item, itemMember, ofVolume, target, active, named, instanceNamed⟩⟩)
    exact ⟨other, otherMember, otherVolume, otherActive, otherTarget.trans target.symm⟩

omit [OciReporting] in
/-- As many instances are counted as related exactly where the last call that
listed the volume returned each of them. -/
theorem length_attachedInstances_eq_iff {volume : String} {progress : Progress}
    (tracks : Tracks services volume (callsOf result) progress)
    (arranged : result.relationships.Perm progress.relationships) {last : String × String}
    (member : last ∈ callsOf result) :
    (attachedInstances (services.listVolumeAttachments last.1 last.2).items volume).length =
        (relatedInstances result volume).length ↔
      ∀ instance_, (∃ pair ∈ callsOf result, (volume, instance_) ∈ links services pair) →
        (volume, instance_) ∈ links services last := by
  rw [attachedInstances, (sortByKey_perm _ _).length_eq, relatedInstances, length_eraseDups_eq_iff]
  · refine forall_congr' fun instance_ => imp_congr (mem_relatedInstances tracks arranged) ?_
    rw [← mem_attachedInstances, attachedInstances, mem_sortByKey, List.mem_eraseDups]
  · intro instance_ listed
    refine (mem_relatedInstances tracks arranged).mpr ⟨last, member, ?_⟩
    rwa [← mem_attachedInstances, attachedInstances, mem_sortByKey, List.mem_eraseDups]

/-- The attachments of a listed volume are counted as its relations have them
exactly where the call that listed it last returned them all. -/
theorem counted_iff (complete : AllComplete services) (documented : DocumentedAnswers services)
    {snapshot : OciConnectionSnapshot} {fuel : ℕ}
    (done : discover services snapshot fuel = .ok (some result)) {volume : String}
    (listed : Listed services result volume) :
    AttachmentsCounted services result volume ↔ AttachedWhereListed services result volume := by
  have distinct : ∀ pair ∈ callsOf result, volume ∉ bootVolumeIds services pair :=
    fun pair _ => listed.elim fun first found => documented.kinds first pair volume found.2
  obtain ⟨progress, tracks, resources, relationships⟩ := discover_tracks complete distinct done
  obtain ⟨last, lastMember, lastFound⟩ := exists_lastListing listed
  have named : volume ≠ "" := listed.elim fun _ found => ne_empty_of_listed found.2
  have lengths := (length_attachedInstances_eq_iff tracks relationships lastMember).trans
    (attachedWhereListed_iff documented named lastFound).symm
  have counts := tracks.counted last lastFound
  obtain ⟨stored, found, storedCounts⟩ := Option.map_eq_some_iff.mp counts
  obtain ⟨storedCount, -⟩ := Prod.mk.inj storedCounts
  have storedMember : stored ∈ result.resources :=
    resources.mem_iff.mpr (List.mem_map.mpr ⟨_, mem_of_lookup found, rfl⟩)
  have only : ∀ resource ∈ result.resources, resource.resourceId = volume → resource = stored := by
    rintro resource member rfl
    exact Option.some.inj
      ((tracks.keyed.lookup_of_mem (resources.mem_iff.mp member)).symm.trans found)
  constructor
  · intro holds
    obtain ⟨resource, member, sameId, counted⟩ := holds.counted
    rw [only resource member sameId, storedCount, Option.some.injEq, MetaValue.integer.injEq,
      Int.natCast_inj] at counted
    exact lengths.mp counted
  · intro joined
    have unattached : ∀ resource ∈ result.resources, resource.resourceId = volume →
        resource.attributes.lookup "attachment_coverage" = some (.text "complete") →
        resource.attributes.lookup "attachment_count" = some (.integer 0) →
        ¬ Attached services result volume := by
      rintro resource member sameId - none ⟨pair, pairMember, item, itemMember, ofVolume, active⟩
      obtain ⟨other, otherMember, otherVolume, otherActive, -⟩ :=
        joined pair pairMember item itemMember ofVolume active last lastFound
      obtain ⟨instance_, target, instanceNamed⟩ :=
        truthy_isSome (documented.named last.1 last.2 other otherMember)
      rw [only resource member sameId, storedCount, Option.some.injEq, MetaValue.integer.injEq,
        Int.natCast_eq_zero, List.length_eq_zero_iff] at none
      have attached := mem_attachedInstances.mpr (mem_links.mpr
        ⟨other, otherMember, otherVolume, target, otherActive, named, instanceNamed⟩)
      rw [none] at attached
      cases attached
    refine ⟨⟨stored, storedMember, tracks.keyed.lookup_id found, ?_⟩, unattached, ?_⟩
    · rw [storedCount, lengths.mpr joined]
    · intro report member rule ofVolume
      obtain ⟨resource, resourceMember, sameId, coverage, none⟩ := counted_of_reported member rule
      exact unattached resource resourceMember (sameId.trans ofVolume) coverage none

/-- A discovery all of whose calls are complete counts the attachments of every
listed block volume as its relations have them, and reports none that is
attached, exactly where each active attachment is also returned for the
compartment that listed its volume last. -/
theorem discovery_counts_attachments {services : OciServices} (complete : AllComplete services)
    (documented : DocumentedAnswers services) {snapshot : OciConnectionSnapshot} {fuel : ℕ}
    {result : OciDiscoveryResult} (done : discover services snapshot fuel = .ok (some result)) :
    (∀ volume, Listed services result volume → AttachmentsCounted services result volume) ↔
      ∀ volume, Listed services result volume → AttachedWhereListed services result volume :=
  forall_congr' fun _ => forall_congr' fun listed => counted_iff complete documented done listed

end Counts

section Sample

attribute [local instance] asciiCase plainReporting

/-- One volume in the first compartment, in use by an instance. OCI returns an
attachment in the compartment of its instance, here the given one. -/
def spreadServices (instanceCompartment : String) : OciServices where
  listCompartments _ _ _ := ⟨[], none⟩
  searchResources _ := ⟨[], none⟩
  listAvailabilityDomains _ := ⟨[], none⟩
  listInstances _ _ := ⟨[], none⟩
  listVolumes _ compartment := ⟨if compartment = "first" then
    [{ id := some "volume", displayName := none, compartmentId := some "first",
       lifecycleState := some "AVAILABLE", availabilityDomain := none, freeformTags := [],
       definedTags := [], timeCreated := none, sizeInGbs := some 50, vpusPerGb := some 10,
       isAutoTuneEnabled := none }] else [], none⟩
  listBootVolumes _ _ := ⟨[], none⟩
  listVolumeAttachments _ compartment := ⟨if compartment = instanceCompartment then
    [⟨some "volume", some "instance", some "ATTACHED"⟩] else [], none⟩
  listBootVolumeAttachments _ _ _ := ⟨[], none⟩
  listRegionalPublicIps _ _ := ⟨[], none⟩
  listDomainPublicIps _ _ _ := ⟨[], none⟩

/-- A scope of two compartments. -/
def twoCompartments : OciConnectionSnapshot where
  tenancyOcid := "tenancy"
  scopeRegions := ["region"]
  compartmentOcids := ["first", "second"]
  includeRootCompartment := false
  includeSubcompartments := false

theorem spreadServices_complete (instanceCompartment : String) :
    AllComplete (spreadServices instanceCompartment) := by
  constructor <;> intros <;> rfl

theorem spreadServices_documented (instanceCompartment : String) :
    DocumentedAnswers (spreadServices instanceCompartment) := by
  constructor
  · intro region compartment item member
    simp only [spreadServices] at member
    split_ifs at member
    · rw [List.mem_singleton.mp member]
      rfl
    · cases member
  · intro first second volume _ listed
    cases listed

instance (services : OciServices) (result : OciDiscoveryResult) (volume : String) :
    Decidable (Listed services result volume) :=
  inferInstanceAs (Decidable (∃ pair ∈ _, _ ∈ _))

instance (services : OciServices) (result : OciDiscoveryResult) (volume : String) :
    Decidable (Attached services result volume) :=
  inferInstanceAs (Decidable (∃ pair ∈ _, ∃ item ∈ _, _ ∧ _))

/-- What a check finds of a result holds of the discovery. -/
theorem exists_of_any {attempt : Attempt (Option OciDiscoveryResult)}
    {check : OciDiscoveryResult → Bool} (checked : attempt.toOption.join.any check = true) :
    ∃ result, attempt = .ok (some result) ∧ check result = true := by
  cases attempt with
  | error issues => simp [Except.toOption] at checked
  | ok found =>
    cases found with
    | none => simp [Except.toOption] at checked
    | some result => exact ⟨result, rfl, by simpa [Except.toOption] using checked⟩

/-- An attachment in the compartment of the volume is counted. -/
theorem discovery_counts_attachments_together :
    ∃ result, discover (spreadServices "first") twoCompartments 0 = .ok (some result) ∧
      AttachmentsCounted (spreadServices "first") result "volume" := by
  have checked : ((discover (spreadServices "first") twoCompartments 0).toOption.join.any
      fun result => Listed (spreadServices "first") result "volume") = true := by
    decide +kernel
  obtain ⟨result, done, listed⟩ := exists_of_any checked
  refine ⟨result, done, (discovery_counts_attachments (spreadServices_complete "first")
    (spreadServices_documented "first") done).mpr ?_ "volume" (of_decide_eq_true listed)⟩
  intro volume _ pair _ item member ofVolume active last lastFound
  have lists := of_decide_eq_true (List.mem_filter.mp (List.mem_of_getLast? lastFound)).2
  by_cases inFirst : last.2 = "first"
  · refine ⟨item, ?_, ofVolume, active, rfl⟩
    simp only [spreadServices] at member ⊢
    split_ifs at member
    · rwa [if_pos inFirst]
    · cases member
  · simp [blockVolumeIds, spreadServices, inFirst] at lists

/-- The volume of the first compartment is attached to an instance of the second,
and is reported without attachments. -/
theorem volume_in_use_reported :
    ∃ result, discover (spreadServices "second") twoCompartments 0 = .ok (some result) ∧
      Attached (spreadServices "second") result "volume" ∧
      (∃ found ∈ analyze result, found.ruleKey = ruleBlockVolumeUnattached ∧
        found.resourceId = "volume") ∧
      ¬ ∀ volume, Listed (spreadServices "second") result volume →
        AttachmentsCounted (spreadServices "second") result volume := by
  have checked : ((discover (spreadServices "second") twoCompartments 0).toOption.join.any
      fun result => Listed (spreadServices "second") result "volume" ∧
        Attached (spreadServices "second") result "volume" ∧
        ∃ found ∈ analyze result, found.ruleKey = ruleBlockVolumeUnattached ∧
          found.resourceId = "volume") = true := by
    decide +kernel
  obtain ⟨result, done, facts⟩ := exists_of_any checked
  obtain ⟨listed, attached, found, member, rule, ofVolume⟩ := of_decide_eq_true facts
  exact ⟨result, done, attached, ⟨found, member, rule, ofVolume⟩, fun holds =>
    (holds "volume" listed).reported found member rule ofVolume attached⟩

end Sample

end FinopsAnalytics.OciUnattachedVolumes
