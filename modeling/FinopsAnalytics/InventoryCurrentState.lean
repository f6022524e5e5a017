import FinopsAnalytics.InventoryPersistence
import Mathlib.Data.List.Range

/-!
# What a discovery does to the current state

The lookups by chunk read the tables as a whole, and a batch whose identities
are distinct treats each resource on its own. One discovery is therefore, for
every resource, one report taken into the entry of its current row.
-/

namespace FinopsAnalytics.InventoryCurrentState

open PythonText UniqueTables OpportunityRecords Fallible DelayedReports InventoryPersistence
open FinopsLedger (normalizeProvider)

/-- The slices hold the values and nothing else. -/
theorem mem_chunks {α : Type} {size : ℕ} (positive : 0 < size) {values : List α} {value : α} :
    (∃ chunk ∈ chunks size values, value ∈ chunk) ↔ value ∈ values := by
  constructor
  · rintro ⟨chunk, listed, member⟩
    obtain ⟨index, -, rfl⟩ := List.mem_map.mp listed
    exact List.mem_of_mem_drop (List.mem_of_mem_take member)
  · intro member
    obtain ⟨position, inside, rfl⟩ := List.getElem_of_mem member
    have index : position / size < (values.length + size - 1) / size := by
      rw [Nat.div_lt_iff_lt_mul positive]
      have rounded := Nat.div_add_mod (values.length + size - 1) size
      have remainder := Nat.mod_lt (values.length + size - 1) positive
      rw [Nat.mul_comm] at rounded
      omega
    refine ⟨_, List.mem_map.mpr ⟨position / size, List.mem_range.mpr index, rfl⟩, ?_⟩
    have split := Nat.div_add_mod position size
    have remainder := Nat.mod_lt position positive
    rw [Nat.mul_comm] at split
    rw [List.mem_iff_getElem?]
    refine ⟨position % size, ?_⟩
    rw [List.getElem?_take_of_lt remainder, List.getElem?_drop, split]
    exact List.getElem?_eq_getElem inside

/-- The current row of an identity. -/
def current? (store : InventoryStore) (identity : ResourceIdentity) : Option InventoryResource :=
  store.resources.findUnique? identity

section Lookups

variable {size : ℕ} {store : InventoryStore} {provider runId : String} {accountId : ℤ}

/-- The chunked lookup reads the account's rows whose identity is asked for. -/
theorem mem_currentRows (positive : 0 < size) {identities : List (String × String)}
    {row : InventoryResource} :
    row ∈ currentRows size store provider accountId identities ↔
      row ∈ store.resources.rows ∧ row.provider = provider ∧ row.cloudAccountId = accountId ∧
        (row.resourceType, row.resourceId) ∈ identities := by
  have asked := @mem_chunks _ size positive identities (row.resourceType, row.resourceId)
  simp only [currentRows, List.mem_flatMap, List.mem_filter, decide_eq_true_eq]
  constructor
  · rintro ⟨chunk, listed, member, sameProvider, sameAccount, inside⟩
    exact ⟨member, sameProvider, sameAccount, asked.mp ⟨chunk, listed, inside⟩⟩
  · rintro ⟨member, sameProvider, sameAccount, inside⟩
    obtain ⟨chunk, listed, inChunk⟩ := asked.mpr inside
    exact ⟨chunk, listed, member, sameProvider, sameAccount, inChunk⟩

/-- The chunked lookup finds the current row of every identity asked for. -/
theorem knownRow_currentRows (positive : 0 < size) {identities : List (String × String)}
    {identity : String × String} (asked : identity ∈ identities) :
    knownRow (currentRows size store provider accountId identities) identity =
      current? store ⟨provider, accountId, identity.1, identity.2⟩ := by
  have identified {row : InventoryResource}
      (listed : row ∈ currentRows size store provider accountId identities)
      (same : (row.resourceType, row.resourceId) = identity) :
      row.toResourceIdentity = ⟨provider, accountId, identity.1, identity.2⟩ := by
    obtain ⟨-, rfl, rfl, -⟩ := (mem_currentRows positive).mp listed
    subst same
    rfl
  cases found : knownRow (currentRows size store provider accountId identities) identity with
  | some row =>
    have listed := List.mem_of_find?_eq_some found
    have same : (row.resourceType, row.resourceId) = identity := by
      simpa using List.find?_some found
    exact (Table.findUnique?_eq_some.mpr
      ⟨((mem_currentRows positive).mp listed).1, identified listed same⟩).symm
  | none =>
    rw [eq_comm, current?, Table.findUnique?_eq_none]
    intro row member same
    have columns : row.provider = provider ∧ row.cloudAccountId = accountId ∧
        (row.resourceType, row.resourceId) = identity := by
      rw [same]
      exact ⟨rfl, rfl, rfl⟩
    have listed := (mem_currentRows positive).mpr
      ⟨member, columns.1, columns.2.1, columns.2.2 ▸ asked⟩
    exact absurd columns.2.2 (by simpa using List.find?_eq_none.mp found row listed)

/-- The chunked lookup finds the resources that the run observed already. -/
theorem mem_observedIds (positive : 0 < size) {ids : List ℤ} {id : ℤ} :
    id ∈ observedIds size store runId ids ↔ id ∈ ids ∧ ∃ row ∈ store.observations.rows,
      row.collectionRunId = some runId ∧ row.inventoryResourceId = id := by
  have asked := @mem_chunks _ size positive ids id
  simp only [observedIds, List.mem_flatMap, List.mem_map, List.mem_filter, decide_eq_true_eq]
  constructor
  · rintro ⟨chunk, listed, row, ⟨member, run, inside⟩, rfl⟩
    exact ⟨asked.mp ⟨chunk, listed, inside⟩, row, member, run, rfl⟩
  · rintro ⟨inside, row, member, run, rfl⟩
    obtain ⟨chunk, listed, inChunk⟩ := asked.mpr inside
    exact ⟨chunk, listed, row, ⟨member, run, inChunk⟩, rfl⟩

end Lookups

section Batch

variable [CaseMapping] [TextLiteral]

/-- A batch passes its checks where all its resources are of the provider and no
identity is listed twice. -/
theorem checkBatch_eq_ok {provider : String} {seen : List (String × String)}
    {resources : List DiscoveredInventoryResource} :
    checkBatch provider seen resources = .ok () ↔
      (∀ resource ∈ resources, normalizeProvider resource.provider = .ok provider) ∧
        (resources.map DiscoveredInventoryResource.identity).Nodup ∧
        ∀ resource ∈ resources, resource.identity ∉ seen := by
  induction resources generalizing seen with
  | nil => simp [checkBatch]
  | cons resource rest inductionHypothesis =>
    simp only [checkBatch, List.mem_cons, forall_eq_or_imp, List.map_cons, List.nodup_cons]
    cases normalized : normalizeProvider resource.provider with
    | error raised => simp [bind, Except.bind]
    | ok found =>
      by_cases same : found = provider
      · by_cases repeated : resource.identity ∈ seen
        · simp [bind, Except.bind, same, repeated, throw, throwThe, MonadExceptOf.throw]
        · simp only [bind, Except.bind, same, ne_eq, not_true_eq_false, if_false, repeated]
          simp only [inductionHypothesis, List.mem_cons, not_or, List.mem_map, not_exists,
            not_and, not_false_eq_true, true_and]
          constructor
          · rintro ⟨providers, distinct, fresh⟩
            exact ⟨providers, ⟨fun other member => (fresh other member).1, distinct⟩,
              fun other member => (fresh other member).2⟩
          · rintro ⟨providers, ⟨differ, distinct⟩, fresh⟩
            exact ⟨providers, distinct, fun other member =>
              ⟨differ other member, fresh other member⟩⟩
      · simp [bind, Except.bind, same, throw, throwThe, MonadExceptOf.throw]

end Batch

section Loops

variable {provider : String} {account : CloudAccount} {run : CollectionRun} {observedAt : Instant}
  {known : List InventoryResource}

/-- The identity under which a resource of the account is stored. -/
def storedIdentity (provider : String) (account : CloudAccount)
    (resource : DiscoveredInventoryResource) : ResourceIdentity :=
  ⟨provider, account.id, resource.resourceType, resource.resourceId⟩

theorem identity_of_stored {first second : DiscoveredInventoryResource}
    (same : storedIdentity provider account first = storedIdentity provider account second) :
    first.identity = second.identity := by
  simp only [storedIdentity, ResourceIdentity.mk.injEq, true_and] at same
  exact Prod.ext same.1 same.2

/-- A new current row is stored under its identity; all others stay. -/
theorem addResource_fresh {store : InventoryStore} {row : InventoryResource}
    (unknown : current? store row.toResourceIdentity = none) :
    ∃ stored numbered, store.addResource row = .ok (stored, numbered) ∧
      numbered = { row with id := numbered.id } ∧
      stored.observations = store.observations ∧
      ∀ identity, current? stored identity =
        if identity = row.toResourceIdentity then some numbered else current? store identity := by
  have freshUnique :
      row.toResourceIdentity ∉ store.resources.rows.map InventoryResource.toResourceIdentity := by
    intro listed
    obtain ⟨other, member, same⟩ := List.mem_map.mp listed
    exact Table.findUnique?_eq_none.mp unknown other member same
  let numbered : InventoryResource := { row with id := store.resources.nextNumber }
  obtain ⟨resources, inserted⟩ : ∃ resources, store.resources.insert numbered = some resources :=
    Table.insert_of_fresh store.resources.nextNumber_fresh freshUnique
  refine ⟨{ store with resources }, numbered, ?_, rfl, rfl, ?_⟩
  · simp [InventoryStore.addResource, inserted, numbered]
  · intro identity
    exact Table.findUnique?_insert inserted

/-- What the first loop leaves: every resource of the batch with its current row. -/
theorem foldlM_addMissing {resources : List DiscoveredInventoryResource} {store : InventoryStore}
    (pairs : List (DiscoveredInventoryResource × InventoryResource))
    (distinct : (resources.map DiscoveredInventoryResource.identity).Nodup)
    (lookups : ∀ resource ∈ resources, knownRow known resource.identity =
      current? store (storedIdentity provider account resource)) :
    ∃ stored added,
      resources.foldlM (addMissing provider account run observedAt known) (store, pairs) =
        .ok (stored, pairs ++ added) ∧
      stored.observations = store.observations ∧
      added.map Prod.fst = resources ∧
      (∀ pair ∈ added,
        current? stored (storedIdentity provider account pair.1) = some pair.2 ∧
        (knownRow known pair.1.identity = some pair.2 ∨
          knownRow known pair.1.identity = none ∧ pair.2 =
            { newResource provider account run observedAt pair.1 with id := pair.2.id })) ∧
      ∀ identity, (∀ resource ∈ resources, storedIdentity provider account resource ≠ identity) →
        current? stored identity = current? store identity := by
  induction resources generalizing store pairs with
  | nil => exact ⟨store, [], by simp [pure, Except.pure], rfl, rfl, by simp, fun _ _ => rfl⟩
  | cons resource rest inductionHypothesis =>
    obtain ⟨notLater, distinctRest⟩ := List.nodup_cons.mp distinct
    have differs : ∀ other ∈ rest, storedIdentity provider account other ≠
        storedIdentity provider account resource := fun other member same =>
      notLater (List.mem_map.mpr ⟨other, member, identity_of_stored same⟩)
    have here := lookups resource (List.mem_cons_self ..)
    -- the state after the first resource, whether its row was known or not
    obtain ⟨first, row, stepped, observations, kept, found⟩ :
        ∃ first row, addMissing provider account run observedAt known (store, pairs) resource =
            .ok (first, pairs ++ [(resource, row)]) ∧
          first.observations = store.observations ∧
          (∀ identity, current? first identity =
            if identity = storedIdentity provider account resource then some row
            else current? store identity) ∧
          (knownRow known resource.identity = some row ∨
            knownRow known resource.identity = none ∧ row =
              { newResource provider account run observedAt resource with id := row.id }) := by
      cases looked : knownRow known resource.identity with
      | some row =>
        refine ⟨store, row, by simp [addMissing, looked], rfl, fun identity => ?_, Or.inl rfl⟩
        split_ifs with same
        · rw [same, ← here, looked]
        · rfl
      | none =>
        have unknown : current? store
            (newResource provider account run observedAt resource).toResourceIdentity = none :=
          here.symm.trans looked
        obtain ⟨first, row, added, numbered, observations, kept⟩ := addResource_fresh unknown
        refine ⟨first, row, ?_, observations, kept, Or.inr ⟨rfl, numbered⟩⟩
        simp [addMissing, looked, added, bind, Except.bind, pure, Except.pure]
    have lookupsRest : ∀ other ∈ rest, knownRow known other.identity =
        current? first (storedIdentity provider account other) := by
      intro other member
      rw [kept, if_neg (differs other member)]
      exact lookups other (List.mem_cons_of_mem _ member)
    obtain ⟨stored, added, later, laterObservations, batch, rows, others⟩ :=
      inductionHypothesis (pairs ++ [(resource, row)]) distinctRest lookupsRest
    refine ⟨stored, (resource, row) :: added, ?_, laterObservations.trans observations, ?_, ?_, ?_⟩
    · rw [List.foldlM_cons, stepped]
      simpa [bind, Except.bind] using later
    · rw [List.map_cons, batch]
    · intro pair member
      rcases List.mem_cons.mp member with rfl | listed
      · refine ⟨?_, found⟩
        rw [others _ differs, kept, if_pos rfl]
      · exact rows pair listed
    · intro identity outside
      rw [others identity fun other member => outside other (List.mem_cons_of_mem _ member), kept,
        if_neg fun same => outside resource (List.mem_cons_self ..) same.symm]

/-- The current row after its resource was observed. -/
def movedRow (account : CloudAccount) (run : CollectionRun) (observedAt : Instant)
    (known : List InventoryResource) (alreadyObserved : List ℤ)
    (pair : DiscoveredInventoryResource × InventoryResource) : InventoryResource :=
  if pair.2.id ∈ alreadyObserved then pair.2
  else if (knownRow known pair.1.identity).isNone ∨ pair.2.lastSeenAt ≤ observedAt then
    applyCurrentState pair.2 pair.1 account.nativeAccountId run.id observedAt
  else pair.2

/-- An observation that its run did not make yet is stored. -/
theorem addObservation_fresh (store : InventoryStore) (row : InventoryResourceObservation)
    {runId : String} (ofRun : row.collectionRunId = some runId)
    (unobserved : ∀ other ∈ store.observations.rows, other.collectionRunId = some runId →
      other.inventoryResourceId ≠ row.inventoryResourceId) :
    ∃ stored, store.addObservation row = .ok stored ∧ stored.resources = store.resources ∧
      ∀ other ∈ stored.observations.rows, other ∈ store.observations.rows ∨
        other.collectionRunId = some runId ∧
          other.inventoryResourceId = row.inventoryResourceId := by
  let numbered : InventoryResourceObservation :=
    { row with id := store.observations.nextNumber }
  have freshUnique : numbered.uniqueKey ∉
      store.observations.rows.map InventoryResourceObservation.uniqueKey := by
    intro listed
    obtain ⟨other, member, same⟩ := List.mem_map.mp listed
    rw [show numbered.uniqueKey = .inl (row.inventoryResourceId, runId) by
      simp [InventoryResourceObservation.uniqueKey, numbered, ofRun]] at same
    unfold InventoryResourceObservation.uniqueKey at same
    split at same
    · rename_i otherRun otherOfRun
      rw [Sum.inl.injEq, Prod.mk.injEq] at same
      exact unobserved other member (otherOfRun.trans (congrArg some same.2)) same.1
    · exact absurd same (by simp)
  obtain ⟨observations, inserted⟩ :
      ∃ observations, store.observations.insert numbered = some observations :=
    Table.insert_of_fresh store.observations.nextNumber_fresh freshUnique
  refine ⟨{ store with observations }, by
    simp [InventoryStore.addObservation, inserted, numbered], rfl, fun other member => ?_⟩
  obtain ⟨rows, -, -⟩ := Table.rows_of_insert inserted
  rw [rows] at member
  rcases List.mem_append.mp member with old | last
  · exact Or.inl old
  · obtain rfl := List.mem_singleton.mp last
    exact Or.inr ⟨ofRun, rfl⟩

section Observing

variable {alreadyObserved : List ℤ} {store : InventoryStore}

/-- One resource is observed: its row moves, every other one stays. -/
theorem observe_ok {pair : DiscoveredInventoryResource × InventoryResource}
    (stored : current? store (storedIdentity provider account pair.1) = some pair.2)
    (unobserved : pair.2.id ∉ alreadyObserved → ∀ other ∈ store.observations.rows,
      other.collectionRunId = some run.id → other.inventoryResourceId ≠ pair.2.id) :
    ∃ next, observe account run observedAt known alreadyObserved store pair = .ok next ∧
      (∀ identity, current? next identity =
        if identity = storedIdentity provider account pair.1 then
          some (movedRow account run observedAt known alreadyObserved pair)
        else current? store identity) ∧
      ∀ other ∈ next.observations.rows, other ∈ store.observations.rows ∨
        other.collectionRunId = some run.id ∧ other.inventoryResourceId = pair.2.id := by
  have kept (identity : ResourceIdentity) : current? store identity =
      if identity = storedIdentity provider account pair.1 then some pair.2
      else current? store identity := by
    split_ifs with same
    · rw [same, stored]
    · rfl
  obtain ⟨member, identified⟩ := Table.findUnique?_eq_some.mp stored
  obtain ⟨resource, current⟩ := pair
  by_cases observed : current.id ∈ alreadyObserved
  · refine ⟨store, by simp [observe, observed], fun identity => ?_, fun other => Or.inl⟩
    simpa [movedRow, observed] using kept identity
  · have fresh := unobserved observed
    by_cases moves : (knownRow known resource.identity).isNone ∨ current.lastSeenAt ≤ observedAt
    · let moved := applyCurrentState current resource account.nativeAccountId run.id observedAt
      obtain ⟨next, added, resources, observations⟩ := addObservation_fresh
        { store with resources := store.resources.put moved }
        (newObservation current run observedAt resource) rfl fresh
      refine ⟨next, ?_, fun identity => ?_, observations⟩
      · simpa only [observe, if_neg observed, if_pos moves] using added
      · have replaced : (store.resources.put moved).findUnique? identity =
            if identity = moved.toResourceIdentity then some moved
            else store.resources.findUnique? identity :=
          Table.findUnique?_put member (show current.id = moved.id from rfl)
            (show current.toResourceIdentity = moved.toResourceIdentity from rfl)
        simp only [current?, resources, movedRow, if_neg observed, if_pos moves]
        rw [replaced, ← identified]
        rfl
    · obtain ⟨next, added, resources, observations⟩ := addObservation_fresh store
        (newObservation current run observedAt resource) rfl fresh
      refine ⟨next, ?_, fun identity => ?_, observations⟩
      · simpa only [observe, if_neg observed, if_neg moves] using added
      · simp only [movedRow, if_neg observed, if_neg moves]
        rw [← kept identity, current?, resources, current?]

/-- What the second loop leaves: every row of the batch moved, all others as they were. -/
theorem foldlM_observe {pairs : List (DiscoveredInventoryResource × InventoryResource)}
    (distinct : (pairs.map fun pair => pair.1.identity).Nodup)
    (stored : ∀ pair ∈ pairs,
      current? store (storedIdentity provider account pair.1) = some pair.2)
    (unobserved : ∀ pair ∈ pairs, pair.2.id ∉ alreadyObserved →
      ∀ other ∈ store.observations.rows, other.collectionRunId = some run.id →
        other.inventoryResourceId ≠ pair.2.id) :
    ∃ observed,
      pairs.foldlM (observe account run observedAt known alreadyObserved) store = .ok observed ∧
      (∀ pair ∈ pairs, current? observed (storedIdentity provider account pair.1) =
        some (movedRow account run observedAt known alreadyObserved pair)) ∧
      (∀ identity, (∀ pair ∈ pairs, storedIdentity provider account pair.1 ≠ identity) →
        current? observed identity = current? store identity) ∧
      ∀ other ∈ observed.observations.rows, other ∈ store.observations.rows ∨
        other.collectionRunId = some run.id := by
  induction pairs generalizing store with
  | nil => exact ⟨store, rfl, by simp, fun _ _ => rfl, fun other => Or.inl⟩
  | cons pair rest inductionHypothesis =>
    obtain ⟨notLater, distinctRest⟩ := List.nodup_cons.mp distinct
    have here := stored pair (List.mem_cons_self ..)
    have differs : ∀ other ∈ rest, storedIdentity provider account other.1 ≠
        storedIdentity provider account pair.1 := fun other member same =>
      notLater (List.mem_map.mpr ⟨other, member, identity_of_stored same⟩)
    obtain ⟨next, stepped, kept, observations⟩ :=
      observe_ok here (unobserved pair (List.mem_cons_self ..))
    have storedRest : ∀ other ∈ rest,
        current? next (storedIdentity provider account other.1) = some other.2 := by
      intro other member
      rw [kept, if_neg (differs other member)]
      exact stored other (List.mem_cons_of_mem _ member)
    have unobservedRest : ∀ other ∈ rest, other.2.id ∉ alreadyObserved →
        ∀ row ∈ next.observations.rows, row.collectionRunId = some run.id →
          row.inventoryResourceId ≠ other.2.id := by
      intro other member fresh row rowMember ofRun same
      rcases observations row rowMember with old | ⟨-, new⟩
      · exact unobserved other (List.mem_cons_of_mem _ member) fresh row old ofRun same
      · -- rows of different identities have different numbers
        obtain ⟨firstMember, firstIdentity⟩ := Table.findUnique?_eq_some.mp here
        obtain ⟨otherMember, otherIdentity⟩ :=
          Table.findUnique?_eq_some.mp (stored other (List.mem_cons_of_mem _ member))
        have sameRow := store.resources.eq_of_key otherMember firstMember (same.symm.trans new)
        exact differs other member (otherIdentity.symm.trans
          ((congrArg InventoryResource.toResourceIdentity sameRow).trans firstIdentity))
    obtain ⟨observed, later, rows, others, laterObservations⟩ :=
      inductionHypothesis distinctRest storedRest unobservedRest
    refine ⟨observed, ?_, fun other member => ?_, fun identity outside => ?_,
      fun row member => ?_⟩
    · rw [List.foldlM_cons, stepped]
      simpa [bind, Except.bind] using later
    · rcases List.mem_cons.mp member with rfl | listed
      · rw [others _ differs, kept, if_pos rfl]
      · exact rows other listed
    · rw [others identity fun other member => outside other (List.mem_cons_of_mem _ member),
        kept, if_neg fun same => outside pair (List.mem_cons_self ..) same.symm]
    · rcases laterObservations row member with old | ofRun
      · exact (observations row old).imp id And.left
      · exact Or.inr ofRun

end Observing

end Loops

/-- The metadata of a current row, with the run that it comes from. -/
structure CurrentMetadata extends ResourceDetails where
  nativeAccountId : String
  lastSeenCollectionRunId : Option String
deriving DecidableEq, Repr

/-- What a current row says of its resource. -/
def entryOf (row : InventoryResource) : Entry Instant CurrentMetadata where
  value :=
    { toResourceDetails := row.toResourceDetails
      nativeAccountId := row.nativeAccountId
      lastSeenCollectionRunId := row.lastSeenCollectionRunId }
  seenAt := row.lastSeenAt
  present := row.presenceStatus = .active

/-- What is known of a resource. -/
def storedEntry (store : InventoryStore) (identity : ResourceIdentity) :
    Option (Entry Instant CurrentMetadata) :=
  (current? store identity).map entryOf

/-- The metadata that a run gives to a resource it discovered. -/
def discoveredMetadata (account : CloudAccount) (run : CollectionRun)
    (resource : DiscoveredInventoryResource) : CurrentMetadata where
  toResourceDetails := resource.toResourceDetails
  nativeAccountId := account.nativeAccountId
  lastSeenCollectionRunId := some run.id

section Persist

variable [CaseMapping] [TextLiteral] {store : InventoryStore} {account : CloudAccount}
  {run : CollectionRun} {resources : List DiscoveredInventoryResource} {observedAt : Instant}
  {provider : String}

/-- A batch that passes its checks is stored: every resource of it is a sighting,
every other one stays as it is. -/
theorem persistObservationsBy_ok {resourceChunk observationChunk : ℕ}
    (resourcePositive : 0 < resourceChunk) (observationPositive : 0 < observationChunk)
    (context : validateContext account run = .ok provider)
    (checked : checkBatch provider [] resources = .ok ())
    (unobserved : ∀ row ∈ store.observations.rows, row.collectionRunId ≠ some run.id) :
    ∃ observed ids,
      persistObservationsBy resourceChunk observationChunk store account run resources observedAt =
        .ok (observed, ids) ∧
      (∀ resource ∈ resources, ∀ excludes,
        storedEntry observed (storedIdentity provider account resource) =
          absorb (storedEntry store (storedIdentity provider account resource))
            ⟨observedAt, some (discoveredMetadata account run resource), excludes⟩) ∧
      (∀ identity, (∀ resource ∈ resources, storedIdentity provider account resource ≠ identity) →
        current? observed identity = current? store identity) ∧
      ∀ row ∈ observed.observations.rows, row ∈ store.observations.rows ∨
        row.collectionRunId = some run.id := by
  obtain ⟨-, distinct, -⟩ := checkBatch_eq_ok.mp checked
  by_cases empty : resources = []
  · subst empty
    refine ⟨store, [], ?_, by simp, fun _ _ => rfl, fun row => Or.inl⟩
    simp [persistObservationsBy, context, bind, Except.bind, pure, Except.pure]
  let known := currentRows resourceChunk store provider account.id
    (resources.map DiscoveredInventoryResource.identity)
  have lookups : ∀ resource ∈ resources, knownRow known resource.identity =
      current? store (storedIdentity provider account resource) := fun resource member =>
    knownRow_currentRows resourcePositive (List.mem_map_of_mem member)
  obtain ⟨stored, added, first, storedObservations, batch, rows, others⟩ :=
    @foldlM_addMissing provider account run observedAt known resources store [] distinct lookups
  rw [List.nil_append] at first
  let alreadyObserved := observedIds observationChunk stored run.id
    (added.map fun pair => pair.2.id)
  have noneObserved : ∀ id, id ∉ alreadyObserved := by
    intro id member
    obtain ⟨-, row, rowMember, ofRun, -⟩ := (mem_observedIds observationPositive).mp member
    exact unobserved row (storedObservations ▸ rowMember) ofRun
  have distinctPairs : (added.map fun pair => pair.1.identity).Nodup := by
    rw [← batch, List.map_map] at distinct
    exact distinct
  obtain ⟨observed, second, moved, kept, observations⟩ :=
    @foldlM_observe provider account run observedAt known alreadyObserved stored added distinctPairs
      (fun pair member => (rows pair member).1)
      (fun pair _ _ row rowMember ofRun => absurd ofRun
        (unobserved row (storedObservations ▸ rowMember)))
  refine ⟨observed, added.map fun pair => pair.2.id, ?_, fun resource member excludes => ?_,
    fun identity outside => ?_, fun row member => ?_⟩
  · have nonempty : resources.isEmpty = false := by simpa using empty
    rw [persistObservationsBy, context]
    simp only [bind, Except.bind, nonempty, Bool.false_eq_true, if_false, checked]
    rw [first]
    dsimp only
    rw [second]
    rfl
  · obtain ⟨pair, listed, rfl⟩ := List.mem_map.mp (batch.symm ▸ member)
    obtain ⟨-, found⟩ := rows pair listed
    rw [storedEntry, storedEntry, moved pair listed, movedRow, if_neg (noneObserved _), ← lookups _ member]
    rcases found with old | ⟨unknown, new⟩
    · rw [old]
      by_cases newer : pair.2.lastSeenAt ≤ observedAt
      · simp [absorb, newer, entryOf, applyCurrentState, discoveredMetadata]
      · simp [absorb, newer, entryOf]
    · rw [unknown, new]
      simp [absorb, entryOf, applyCurrentState, discoveredMetadata]
  · rw [kept identity, others identity outside]
    exact fun pair listed => outside pair.1 (batch ▸ List.mem_map_of_mem listed)
  · rw [← storedObservations]
    exact observations row member

/-- The scopes in which the resources of a batch were seen. -/
def seenScopes (resources : List DiscoveredInventoryResource) :
    List (String × Option String × String) :=
  resources.map fun resource => (resource.resourceType, resource.region, resource.resourceId)

omit [TextLiteral] in
theorem observedIdentities_eq
    (providers : ∀ resource ∈ resources, normalizeProvider resource.provider = .ok provider) :
    observedIdentities provider resources = .ok (seenScopes resources) := by
  induction resources with
  | nil => rfl
  | cons resource rest inductionHypothesis =>
    have first := providers resource (List.mem_cons_self ..)
    have later := inductionHypothesis fun other member =>
      providers other (List.mem_cons_of_mem _ member)
    simp [observedIdentities, first, later, bind, Except.bind, pure, Except.pure, seenScopes]

/-- The complete scopes prove the absence of a resource with the metadata. -/
def excludedBy (provider : String) (account : CloudAccount)
    (complete : List (String × Option String)) (resources : List DiscoveredInventoryResource)
    (identity : ResourceIdentity) (metadata : CurrentMetadata) : Bool :=
  identity.provider = provider ∧ identity.cloudAccountId = account.id ∧
    (identity.resourceType, metadata.region) ∈ complete ∧
    (identity.resourceType, metadata.region, identity.resourceId) ∉ seenScopes resources

omit [CaseMapping] [TextLiteral] in
/-- Marking touches the presence only. -/
theorem entryOf_markMissing (absent : InventoryResource → Bool) (row : InventoryResource) :
    entryOf (markMissing absent row) =
      { entryOf row with present := (entryOf row).present && !absent row } := by
  unfold markMissing
  split_ifs with gone
  · simp [entryOf, gone]
  · simp [gone]

omit [CaseMapping] [TextLiteral] in
/-- The proof of absence, read off the entry. -/
theorem provedAbsent_eq (complete : List (String × Option String)) (row : InventoryResource) :
    provedAbsent provider account complete (seenScopes resources) observedAt row =
      ((entryOf row).present &&
        (excludedBy provider account complete resources row.toResourceIdentity
          (entryOf row).value && decide ((entryOf row).seenAt ≤ observedAt))) := by
  rw [Bool.eq_iff_iff]
  simp only [provedAbsent, excludedBy, Bool.and_eq_true, decide_eq_true_eq]
  simp only [entryOf, decide_eq_true_eq]
  tauto

/-- An entry after the complete scopes were compared. -/
def reconciledEntry (excludes : CurrentMetadata → Bool) (observedAt : Instant)
    (entry : Entry Instant CurrentMetadata) : Entry Instant CurrentMetadata :=
  { entry with
    present := entry.present && !(excludes entry.value && decide (entry.seenAt ≤ observedAt)) }

omit [CaseMapping] [TextLiteral] in
/-- A resource of the batch is not excluded where the batch shows it. -/
theorem excludedBy_discovered {complete : List (String × Option String)}
    {resource : DiscoveredInventoryResource} (member : resource ∈ resources) :
    excludedBy provider account complete resources (storedIdentity provider account resource)
      (discoveredMetadata account run resource) = false := by
  have shown : (resource.resourceType, resource.region, resource.resourceId) ∈
      seenScopes resources := List.mem_map_of_mem member
  simp [excludedBy, storedIdentity, discoveredMetadata, shown]

omit [CaseMapping] [TextLiteral] in
/-- A sighting is not undone by the scopes of its own report: either it was taken
in, or the entry was seen later. -/
theorem reconciled_sighting {known : Option (Entry Instant CurrentMetadata)}
    {metadata : CurrentMetadata} {excludes : CurrentMetadata → Bool}
    (shown : excludes metadata = false) :
    (absorb known ⟨observedAt, some metadata, excludes⟩).map (reconciledEntry excludes observedAt) =
      absorb known ⟨observedAt, some metadata, excludes⟩ := by
  cases known with
  | none => simp [absorb, reconciledEntry, shown]
  | some entry =>
    by_cases newer : entry.seenAt ≤ observedAt
    · simp [absorb, newer, reconciledEntry, shown]
    · simp [absorb, newer, reconciledEntry]

omit [TextLiteral] in
/-- The complete scopes turn missing what they exclude and was not seen later. -/
theorem reconcileCompleteScopes_ok {coverage : List InventoryCoverage}
    {statuses : List ((String × Option String) × InventoryCoverageStatus)}
    (context : validateContext account run = .ok provider)
    (covered : statusesByScope provider account coverage = .ok statuses)
    (providers : ∀ resource ∈ resources, normalizeProvider resource.provider = .ok provider) :
    ∃ reconciled count,
      reconcileCompleteScopes store account run resources coverage observedAt =
        .ok (reconciled, count) ∧
      reconciled.observations = store.observations ∧
      ∀ identity, storedEntry reconciled identity = (storedEntry store identity).map (reconciledEntry
        (excludedBy provider account (completeScopes statuses) resources identity) observedAt) := by
  let absent := provedAbsent provider account (completeScopes statuses) (seenScopes resources)
    observedAt
  have each (identity : ResourceIdentity) :
      ((current? store identity).map (markMissing absent)).map entryOf =
        (storedEntry store identity).map (reconciledEntry
          (excludedBy provider account (completeScopes statuses) resources identity)
          observedAt) := by
    cases found : current? store identity with
    | none => simp [storedEntry, found]
    | some row =>
      obtain ⟨-, rfl⟩ := Table.findUnique?_eq_some.mp found
      simp only [storedEntry, found, Option.map_some, entryOf_markMissing, absent, provedAbsent_eq,
        reconciledEntry]
      cases shown : (entryOf row).present <;> simp
  cases complete : completeScopes statuses with
  | nil =>
    refine ⟨store, 0, ?_, rfl, fun identity => ?_⟩
    · simp [reconcileCompleteScopes, context, covered, complete, bind, Except.bind, pure,
        Except.pure]
    · have unchanged : reconciledEntry (excludedBy provider account [] resources identity)
          observedAt = id := by
        funext entry
        simp [reconciledEntry, excludedBy]
      rw [unchanged, Option.map_id, id]
  | cons scope others =>
    let marked := store.resources.modify (markMissing absent) (id_markMissing absent)
      (identity_markMissing absent)
    refine ⟨{ store with resources := marked }, store.resources.rows.countP absent, ?_, rfl,
      fun identity => ?_⟩
    · simp [reconcileCompleteScopes, context, covered, complete, bind, Except.bind, pure,
        Except.pure, observedIdentities_eq providers, absent, marked]
    · rw [← complete, ← each identity, storedEntry, current?, Table.findUnique?_modify]
      rfl

end Persist

section Discoveries

variable [CaseMapping] [TextLiteral]

/-- The provider and the complete scopes of a discovery that passes every check. -/
def evidence (account : CloudAccount) (discovery : Discovery) :
    Except ServiceError (String × List (String × Option String)) := do
  let provider ← validateContext account discovery.run
  checkBatch provider [] discovery.resources
  let statuses ← statusesByScope provider account discovery.coverage
  return (provider, completeScopes statuses)

/-- What a discovery says of one resource: its metadata where it is in the batch,
and the regions in which it is proved absent. A refused discovery says nothing. -/
def report (account : CloudAccount) (identity : ResourceIdentity) (discovery : Discovery) :
    Report Instant CurrentMetadata :=
  match evidence account discovery with
  | .error _ => ⟨discovery.run.startedAt, none, fun _ => false⟩
  | .ok (provider, complete) =>
    { reportedAt := discovery.run.startedAt
      sighting := (discovery.resources.find? fun resource =>
        storedIdentity provider account resource = identity).map
          (discoveredMetadata account discovery.run)
      excludes := excludedBy provider account complete discovery.resources identity }

/-- The transaction of a discovery; a refused one is rolled back. -/
def commitDiscovery (account : CloudAccount) (store : InventoryStore) (discovery : Discovery) :
    InventoryStore :=
  match persistInventoryDiscovery store account discovery with
  | .ok next => next
  | .error _ => store

@[simp] theorem report_reportedAt (account : CloudAccount) (identity : ResourceIdentity)
    (discovery : Discovery) :
    (report account identity discovery).reportedAt = discovery.run.startedAt := by
  unfold report
  split <;> rfl

variable {account : CloudAccount} {discovery : Discovery} {store : InventoryStore}

/-- A refused discovery leaves the tables as they are. -/
theorem commitDiscovery_refused {raised : ServiceError}
    (refused : evidence account discovery = .error raised) :
    commitDiscovery account store discovery = store := by
  have fails (next : InventoryStore) :
      persistInventoryDiscovery store account discovery ≠ .ok next := by
    intro succeeded
    simp only [persistInventoryDiscovery, bind_eq_ok] at succeeded
    obtain ⟨⟨stored, ids⟩, persisted, ⟨reconciled, count⟩, compared, -⟩ := succeeded
    simp only [persistObservations, persistObservationsBy, bind_eq_ok] at persisted
    obtain ⟨provider, context, rest⟩ := persisted
    simp only [reconcileCompleteScopes, bind_eq_ok] at compared
    obtain ⟨same, contextAgain, statuses, covered, -⟩ := compared
    obtain rfl : provider = same := Except.ok.inj (context.symm.trans contextAgain)
    have checked : checkBatch provider [] discovery.resources = .ok () := by
      by_cases empty : discovery.resources = []
      · rw [empty]
        rfl
      · have nonempty : discovery.resources.isEmpty = false := by simpa using empty
        simp only [nonempty, Bool.false_eq_true, if_false, bind_eq_ok] at rest
        obtain ⟨_, checked, -⟩ := rest
        exact checked
    simp [evidence, context, checked, covered, bind, Except.bind, pure, Except.pure] at refused
  unfold commitDiscovery
  split
  · rename_i next succeeded
    exact absurd succeeded (fails next)
  · rfl

/-- A discovery of a run without observations is one report about every resource. -/
theorem commitDiscovery_spec (account : CloudAccount)
    (unobserved : ∀ row ∈ store.observations.rows,
      row.collectionRunId ≠ some discovery.run.id) :
    (∀ identity, storedEntry (commitDiscovery account store discovery) identity =
      absorb (storedEntry store identity) (report account identity discovery)) ∧
    ∀ row ∈ (commitDiscovery account store discovery).observations.rows,
      row ∈ store.observations.rows ∨ row.collectionRunId = some discovery.run.id := by
  cases offered : evidence account discovery with
  | error raised =>
    rw [commitDiscovery_refused offered]
    refine ⟨fun identity => ?_, fun row => Or.inl⟩
    cases known : storedEntry store identity <;> simp [report, offered, absorb, Report.disproves]
  | ok result =>
    obtain ⟨provider, complete⟩ := result
    have passed := offered
    simp only [evidence, bind_eq_ok] at passed
    obtain ⟨_, context, ⟨⟩, checked, statuses, covered, ⟨⟩⟩ := passed
    obtain ⟨stored, ids, persisted, seen, kept, observations⟩ :=
      @persistObservationsBy_ok _ _ store account discovery.run discovery.resources
        discovery.run.startedAt provider resourceLookupChunk observationLookupChunk (by decide)
        (by decide) context checked unobserved
    obtain ⟨providers, -, -⟩ := checkBatch_eq_ok.mp checked
    obtain ⟨reconciled, count, compared, sameObservations, marked⟩ :=
      @reconcileCompleteScopes_ok _ stored account discovery.run discovery.resources
        discovery.run.startedAt provider discovery.coverage statuses context covered providers
    have succeeded : persistInventoryDiscovery store account discovery = .ok reconciled := by
      simp [persistInventoryDiscovery, persistObservations, persisted, compared, bind, Except.bind,
        pure, Except.pure]
    rw [show commitDiscovery account store discovery = reconciled by
      simp [commitDiscovery, succeeded]]
    refine ⟨fun identity => ?_, fun row member => observations row (sameObservations ▸ member)⟩
    rw [marked identity, report, offered]
    dsimp only
    cases found : discovery.resources.find? fun resource =>
        storedIdentity provider account resource = identity with
    | none =>
      have outside : ∀ resource ∈ discovery.resources,
          storedIdentity provider account resource ≠ identity := by
        simpa using List.find?_eq_none.mp found
      rw [storedEntry, kept identity outside, ← storedEntry]
      cases known : storedEntry store identity <;>
        simp [absorb, reconciledEntry, Report.disproves]
    | some resource =>
      obtain rfl : storedIdentity provider account resource = identity := by
        simpa using List.find?_some found
      have member := List.mem_of_find?_eq_some found
      rw [seen resource member (excludedBy provider account (completeScopes statuses)
        discovery.resources (storedIdentity provider account resource))]
      exact reconciled_sighting (excludedBy_discovered member)

end Discoveries

end FinopsAnalytics.InventoryCurrentState
