import FinopsAnalytics.OciDiscovery

/-!
# Updates of the discovered resources

The resources are kept by identifier. Whatever a later call says of a resource,
the attachments counted for it stay, except where they are counted again.
-/

namespace FinopsAnalytics.OciResourceUpdates

open PythonText OpportunityRecords Dictionaries Fallible OciDiscovery

/-- Each resource is kept once, under its own identifier. -/
structure Keyed (resources : List (String × OciDiscoveredResource)) : Prop where
  distinct : (resources.map Prod.fst).Nodup
  own : ∀ entry ∈ resources, entry.2.resourceId = entry.1

theorem Keyed.empty : Keyed [] := ⟨List.nodup_nil, fun _ member => absurd member List.not_mem_nil⟩

variable {resources : List (String × OciDiscoveredResource)} {resource : OciDiscoveredResource}
  {entries : Metadata}

theorem Keyed.setKey (keyed : Keyed resources) {key : String} (own : resource.resourceId = key) :
    Keyed (setKey key resource resources) := by
  refine ⟨setKey_nodup keyed.distinct, fun entry member => ?_⟩
  rcases mem_setKey member with rfl | old
  · exact own
  · exact keyed.own entry old

/-- A resource found under an identifier has it. -/
theorem Keyed.lookup_id (keyed : Keyed resources) {id : String}
    (found : resources.lookup id = some resource) :
    resource.resourceId = id :=
  keyed.own _ (mem_of_lookup found)

/-- The resource of an identifier is found under it. -/
theorem Keyed.lookup_of_mem (keyed : Keyed resources) (member : resource ∈ resources.map Prod.snd) :
    resources.lookup resource.resourceId = some resource := by
  obtain ⟨⟨key, _⟩, entryMember, rfl⟩ := List.mem_map.mp member
  rw [keyed.own _ entryMember]
  exact Dictionaries.lookup_of_mem keyed.distinct entryMember

/-- Entries that count no attachments. -/
def Uncounted (entries : Metadata) : Prop :=
  "attachment_count" ∉ entries.map Prod.fst ∧ "attachment_coverage" ∉ entries.map Prod.fst

/-- The attachments counted for a resource, if it is known. -/
def attachmentCounts (resources : List (String × OciDiscoveredResource)) (id : String) :
    Option (Option MetaValue × Option MetaValue) :=
  (resources.lookup id).map fun resource =>
    (resource.attributes.lookup "attachment_count",
      resource.attributes.lookup "attachment_coverage")

theorem attachmentCounts_setKey {key wanted : String} :
    attachmentCounts (setKey key resource resources) wanted =
      if wanted = key then some (resource.attributes.lookup "attachment_count",
        resource.attributes.lookup "attachment_coverage")
      else attachmentCounts resources wanted := by
  unfold attachmentCounts
  rw [lookup_setKey]
  split_ifs <;> rfl

/-- Describing a resource otherwise leaves its attachments. -/
theorem attachmentCounts_describe {id wanted : String} (uncounted : Uncounted entries) :
    attachmentCounts (describe resources id entries) wanted = attachmentCounts resources wanted := by
  unfold describe
  split
  · rfl
  · rename_i resource found
    rw [attachmentCounts_setKey, lookup_update uncounted.1, lookup_update uncounted.2]
    split_ifs with same
    · rw [same, attachmentCounts, found]
      rfl
    · rfl

/-- Describing another resource leaves the attachments of this one. -/
theorem attachmentCounts_describe_other {id wanted : String} (different : wanted ≠ id) :
    attachmentCounts (describe resources id entries) wanted = attachmentCounts resources wanted := by
  unfold describe
  split
  · rfl
  · rw [attachmentCounts_setKey, if_neg different]

theorem keyed_describe (keyed : Keyed resources) {id : String} :
    Keyed (describe resources id entries) := by
  unfold describe
  split
  · exact keyed
  · rename_i resource found
    have own := keyed.lookup_id found
    exact keyed.setKey own

section Upsert

variable {resources : List (String × OciDiscoveredResource)} {incoming : OciDiscoveredResource}
  {authoritative : Bool}

theorem keyed_upsert (keyed : Keyed resources) :
    Keyed (upsert resources incoming authoritative).1 := by
  unfold upsert
  split
  · exact keyed.setKey rfl
  · rename_i existing found
    have own := keyed.lookup_id found
    split
    · exact keyed.setKey own
    · exact keyed.setKey own

/-- A resource that was taken is known. -/
theorem attachmentCounts_upsert_known (resources : List (String × OciDiscoveredResource))
    (incoming : OciDiscoveredResource) (authoritative : Bool) :
    (attachmentCounts (upsert resources incoming authoritative).1 incoming.resourceId).isSome := by
  unfold upsert
  split
  · simp [attachmentCounts_setKey]
  · split <;> simp [attachmentCounts_setKey]

/-- Taking a resource keeps the attachments counted for it. -/
theorem attachmentCounts_upsert (uncounted : Uncounted incoming.attributes) {wanted : String}
    {counts : Option MetaValue × Option MetaValue}
    (counted : attachmentCounts resources wanted = some counts) :
    attachmentCounts (upsert resources incoming authoritative).1 wanted = some counts := by
  by_cases same : wanted = incoming.resourceId
  · subst same
    unfold upsert
    split
    · rename_i unknown
      rw [attachmentCounts, unknown] at counted
      cases counted
    · rename_i existing found
      rw [attachmentCounts, found, Option.map_some] at counted
      rw [← counted]
      split
      · rw [attachmentCounts_setKey, if_pos rfl, authoritativeMerge]
        simp only [lookup_update uncounted.1, lookup_update uncounted.2]
        split_ifs <;> simp [lookup_setKey]
      · rw [attachmentCounts_setKey, if_pos rfl]
  · unfold upsert
    split
    · rwa [attachmentCounts_setKey, if_neg same]
    · split <;> rwa [attachmentCounts_setKey, if_neg same]

end Upsert

section Built

variable {entries : List (String × Option MetaValue)} {resource : OciDiscoveredResource}
  {region : String}

/-- What is present has the names of the entries. -/
theorem keys_present {key : String} (listed : key ∈ (present entries).map Prod.fst) :
    key ∈ entries.map Prod.fst := by
  obtain ⟨⟨name, value⟩, member, rfl⟩ := List.mem_map.mp listed
  obtain ⟨⟨other, given⟩, entryMember, found⟩ := List.mem_filterMap.mp member
  obtain ⟨_, -, same⟩ := Option.map_eq_some_iff.mp found
  obtain rfl := (Prod.mk.inj same).1
  exact List.mem_map.mpr ⟨_, entryMember, rfl⟩

theorem uncounted_present (count : "attachment_count" ∉ entries.map Prod.fst)
    (coverage : "attachment_coverage" ∉ entries.map Prod.fst) : Uncounted (present entries) :=
  ⟨fun listed => count (keys_present listed), fun listed => coverage (keys_present listed)⟩

theorem uncounted_serviceResource {resourceType source region : String} {item : ServiceItem}
    (count : "attachment_count" ∉ entries.map Prod.fst)
    (coverage : "attachment_coverage" ∉ entries.map Prod.fst)
    (built : serviceResource resourceType source region item entries = some resource) :
    Uncounted resource.attributes := by
  unfold serviceResource at built
  split at built
  · cases built
  · split at built
    · cases built
    · cases built
      exact uncounted_present count coverage

theorem uncounted_computeResource {item : ComputeItem}
    (built : computeResource region item = some resource) :
    Uncounted resource.attributes :=
  uncounted_serviceResource (by simp) (by simp) built

theorem uncounted_blockVolumeResource {item : BlockVolumeItem}
    (built : blockVolumeResource region item = some resource) :
    Uncounted resource.attributes :=
  uncounted_serviceResource (by simp) (by simp) built

theorem uncounted_bootVolumeResource {item : BootVolumeItem}
    (built : bootVolumeResource region item = some resource) :
    Uncounted resource.attributes :=
  uncounted_serviceResource (by simp) (by simp) built

theorem uncounted_publicIpResource {item : PublicIpItem}
    (built : publicIpResource region item = some resource) :
    Uncounted resource.attributes :=
  uncounted_serviceResource (by simp) (by simp) built

end Built

/-- What taking resources in turn does to the dictionary and leaves elsewhere. -/
theorem foldl_takeResource {taken : List OciDiscoveredResource} {progress : Progress}
    (uncounted : ∀ resource ∈ taken, Uncounted resource.attributes)
    (keyed : Keyed progress.resources) :
    Keyed (taken.foldl takeResource progress).resources ∧
      (taken.foldl takeResource progress).relationships = progress.relationships ∧
      (∀ wanted counts, attachmentCounts progress.resources wanted = some counts →
        attachmentCounts (taken.foldl takeResource progress).resources wanted = some counts) ∧
      ∀ resource ∈ taken, (attachmentCounts (taken.foldl takeResource progress).resources
        resource.resourceId).isSome := by
  induction taken generalizing progress with
  | nil => exact ⟨keyed, rfl, fun _ _ counted => counted, by simp⟩
  | cons first rest inductionHypothesis =>
    obtain ⟨restKeyed, relationships, kept, known⟩ := inductionHypothesis
      (fun resource member => uncounted resource (List.mem_cons_of_mem _ member))
      (show Keyed (takeResource progress first).resources from keyed_upsert keyed)
    refine ⟨restKeyed, relationships, fun wanted counts counted => ?_, fun resource member => ?_⟩
    · exact kept wanted counts
        (attachmentCounts_upsert (uncounted first (List.mem_cons_self ..)) counted)
    · rcases List.mem_cons.mp member with rfl | later
      · obtain ⟨counts, found⟩ := Option.isSome_iff_exists.mp
          (attachmentCounts_upsert_known progress.resources resource true)
        exact Option.isSome_iff_exists.mpr ⟨counts, kept _ _ found⟩
      · exact known resource later

end FinopsAnalytics.OciResourceUpdates
