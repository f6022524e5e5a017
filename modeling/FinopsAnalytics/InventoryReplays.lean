import FinopsAnalytics.InventoryCurrentState

/-!
# Batches, single resources and replays of a run

A batch is stored as its resources would be one after the other, whatever the sizes of
its lookups are. The absences of a run are compared with the current regions, though, and
a resource that the run had observed before keeps the region of its row: a retry that
finds it in another region marks a resource of its own batch missing.
-/

namespace FinopsAnalytics.InventoryReplays

open PythonText UniqueTables OpportunityRecords Fallible InventoryPersistence
  InventoryCurrentState
open FinopsLedger (normalizeProvider)

section Loops

variable {provider : String} {account : CloudAccount} {run : CollectionRun} {observedAt : Instant}

/-- Loops whose steps agree on the items agree. -/
theorem foldlM_congr {σ α ε : Type} {first second : σ → α → Except ε σ} {items : List α}
    (same : ∀ item ∈ items, ∀ state, first state item = second state item) :
    ∀ state, items.foldlM first state = items.foldlM second state := by
  induction items with
  | nil => exact fun _ => rfl
  | cons item rest inductionHypothesis =>
    intro state
    rw [List.foldlM_cons, List.foldlM_cons, same item (List.mem_cons_self ..)]
    congr 1
    funext next
    exact inductionHypothesis (fun other member => same other (List.mem_cons_of_mem _ member)) next

variable {resource : DiscoveredInventoryResource}
  {pair : DiscoveredInventoryResource × InventoryResource} {known : List InventoryResource}
  {store : InventoryStore} {resources : List DiscoveredInventoryResource} {observed : List ℤ}
  {pairs : List (DiscoveredInventoryResource × InventoryResource)}

/-- Only the known row of the resource itself matters when it is given one. -/
theorem addMissing_congr {known other : List InventoryResource}
    (same : knownRow known resource.identity = knownRow other resource.identity)
    (state : InventoryStore × List (DiscoveredInventoryResource × InventoryResource)) :
    addMissing provider account run observedAt known state resource =
      addMissing provider account run observedAt other state resource := by
  unfold addMissing
  rw [same]

theorem observe_congr {known other : List InventoryResource} {observed others : List ℤ}
    (same : knownRow known pair.1.identity = knownRow other pair.1.identity)
    (sameObserved : pair.2.id ∈ observed ↔ pair.2.id ∈ others) (store : InventoryStore) :
    observe account run observedAt known observed store pair =
      observe account run observedAt other others store pair := by
  unfold observe
  simp only [same, sameObserved]

/-- The rows that were given before stand in front. -/
theorem addMissing_pairs (pairs : List (DiscoveredInventoryResource × InventoryResource))
    (resource : DiscoveredInventoryResource) :
    addMissing provider account run observedAt known (store, pairs) resource =
      (fun state => (state.1, pairs ++ state.2)) <$>
        addMissing provider account run observedAt known (store, []) resource := by
  unfold addMissing
  cases knownRow known resource.identity with
  | some current => rfl
  | none =>
    cases store.addResource (newResource provider account run observedAt resource) with
    | error raised => rfl
    | ok result => rfl

/-- The first loop pairs every resource with a row, in order. -/
theorem foldlM_addMissing_pairs :
    ∀ (store : InventoryStore) (pairs : List (DiscoveredInventoryResource × InventoryResource)),
      resources.foldlM (addMissing provider account run observedAt known) (store, pairs) =
        (fun state => (state.1, pairs ++ state.2)) <$>
          resources.foldlM (addMissing provider account run observedAt known) (store, []) := by
  induction resources with
  | nil =>
    intro store pairs
    simp [pure, Except.pure, Functor.map, Except.map]
  | cons resource rest inductionHypothesis =>
    intro store pairs
    rw [List.foldlM_cons, List.foldlM_cons, addMissing_pairs]
    cases addMissing provider account run observedAt known (store, []) resource with
    | error raised => rfl
    | ok state =>
      simp only [Functor.map, Except.map, bind, Except.bind]
      rw [inductionHypothesis state.1 (pairs ++ state.2), inductionHypothesis state.1 state.2]
      cases rest.foldlM (addMissing provider account run observedAt known) (state.1, []) with
      | error raised => rfl
      | ok result => simp [Functor.map, Except.map, List.append_assoc]

/-- A row that is observed moves or not, and gets the observation of its run. -/
theorem observe_eq_ok {store next : InventoryStore}
    (isObserved : observe account run observedAt known observed store pair = .ok next) :
    (pair.2.id ∈ observed ∧ next = store) ∨
      (pair.2.id ∉ observed ∧
        store.observations.insert { newObservation pair.2 run observedAt pair.1 with
          id := store.observations.nextNumber } = some next.observations ∧
        next.resources =
          if (knownRow known pair.1.identity).isNone ∨ pair.2.lastSeenAt ≤ observedAt then
            store.resources.put
              (applyCurrentState pair.2 pair.1 account.nativeAccountId run.id observedAt)
          else store.resources) := by
  obtain ⟨resource, current⟩ := pair
  unfold observe at isObserved
  dsimp only at isObserved
  by_cases already : current.id ∈ observed
  · rw [if_pos already] at isObserved
    cases isObserved
    exact Or.inl ⟨already, rfl⟩
  · rw [if_neg already] at isObserved
    refine Or.inr ⟨already, ?_⟩
    unfold InventoryStore.addObservation at isObserved
    by_cases moves : (knownRow known resource.identity).isNone ∨ current.lastSeenAt ≤ observedAt
    · simp only [if_pos moves] at isObserved ⊢
      cases inserted : store.observations.insert { newObservation current run observedAt resource with
          id := store.observations.nextNumber } with
      | none => simp [inserted] at isObserved
      | some observations =>
        rw [inserted] at isObserved
        cases isObserved
        exact ⟨rfl, rfl⟩
    · simp only [if_neg moves] at isObserved ⊢
      cases inserted : store.observations.insert { newObservation current run observedAt resource with
          id := store.observations.nextNumber } with
      | none => simp [inserted] at isObserved
      | some observations =>
        rw [inserted] at isObserved
        cases isObserved
        exact ⟨rfl, rfl⟩

/-- A row whose run has not observed it is observed where its observation is new. -/
theorem observe_of_insert
    {observations : Table InventoryResourceObservation.id InventoryResourceObservation.uniqueKey}
    (unobserved : pair.2.id ∉ observed)
    (inserted : store.observations.insert { newObservation pair.2 run observedAt pair.1 with
      id := store.observations.nextNumber } = some observations) :
    observe account run observedAt known observed store pair = .ok
      { resources :=
          if (knownRow known pair.1.identity).isNone ∨ pair.2.lastSeenAt ≤ observedAt then
            store.resources.put
              (applyCurrentState pair.2 pair.1 account.nativeAccountId run.id observedAt)
          else store.resources
        observations } := by
  obtain ⟨resource, current⟩ := pair
  unfold observe
  dsimp only
  rw [if_neg unobserved]
  unfold InventoryStore.addObservation
  by_cases moves : (knownRow known resource.identity).isNone ∨ current.lastSeenAt ≤ observedAt
  · simp only [if_pos moves]
    rw [inserted]
  · simp only [if_neg moves]
    rw [inserted]

/-- A resource without a known row gets a new one. -/
theorem addMissing_eq_ok {store added : InventoryStore}
    (unknown : knownRow known resource.identity = none) :
    addMissing provider account run observedAt known (store, []) resource = .ok (added, pairs) ↔
      store.resources.insert { newResource provider account run observedAt resource with
          id := store.resources.nextNumber } = some added.resources ∧
        added.observations = store.observations ∧
        pairs = [(resource, { newResource provider account run observedAt resource with
          id := store.resources.nextNumber })] := by
  unfold addMissing InventoryStore.addResource
  rw [unknown]
  dsimp only
  cases store.resources.insert { newResource provider account run observedAt resource with
      id := store.resources.nextNumber } with
  | none =>
    constructor
    · intro impossible
      cases impossible
    · rintro ⟨impossible, -⟩
      cases impossible
  | some resources =>
    simp only [bind, Except.bind, pure, Except.pure, Except.ok.injEq, Prod.mk.injEq,
      List.nil_append, Option.some.injEq]
    constructor
    · rintro ⟨rfl, rfl⟩
      exact ⟨rfl, rfl, rfl⟩
    · rintro ⟨rfl, sameObservations, rfl⟩
      exact ⟨by rw [← sameObservations], rfl⟩

/-- A row can be observed before or after another resource is given one. -/
theorem observe_addMissing {known others : List InventoryResource}
    {store moved added : InventoryStore} (member : pair.2 ∈ store.resources.rows)
    (isObserved : observe account run observedAt known observed store pair = .ok moved)
    (isAdded : addMissing provider account run observedAt others (store, []) resource =
      .ok (added, pairs)) :
    pair.2 ∈ added.resources.rows ∧ ∃ both,
      addMissing provider account run observedAt others (moved, []) resource = .ok (both, pairs) ∧
        observe account run observedAt known observed added pair = .ok both := by
  cases found : knownRow others resource.identity with
  | some current =>
    have noRow (state : InventoryStore) :
        addMissing provider account run observedAt others (state, []) resource =
          .ok (state, [(resource, current)]) := by
      simp [addMissing, found]
    rw [noRow] at isAdded
    cases isAdded
    exact ⟨member, moved, noRow moved, isObserved⟩
  | none =>
    obtain ⟨inserted, sameObservations, rfl⟩ := (addMissing_eq_ok found).mp isAdded
    have stays : pair.2 ∈ added.resources.rows := by
      rw [(Table.rows_of_insert inserted).1]
      exact List.mem_append_left _ member
    refine ⟨stays, ?_⟩
    rcases observe_eq_ok isObserved with ⟨already, rfl⟩ | ⟨unobserved, observes, resources⟩
    · refine ⟨added, isAdded, ?_⟩
      obtain ⟨discovered, current⟩ := pair
      unfold observe
      exact if_pos already
    · rw [← sameObservations] at observes
      refine ⟨_, ?_, observe_of_insert unobserved observes⟩
      rw [addMissing_eq_ok found, resources]
      dsimp only
      split
      · rw [Table.nextNumber_put]
        refine ⟨?_, rfl, rfl⟩
        exact Table.insert_put inserted member (by rfl)
      · exact ⟨inserted, rfl, rfl⟩

theorem observe_foldlM_addMissing {known others : List InventoryResource} :
    ∀ {store moved added : InventoryStore}
      {pairs : List (DiscoveredInventoryResource × InventoryResource)},
      pair.2 ∈ store.resources.rows →
        observe account run observedAt known observed store pair = .ok moved →
          resources.foldlM (addMissing provider account run observedAt others) (store, []) =
            .ok (added, pairs) →
            ∃ both, resources.foldlM (addMissing provider account run observedAt others)
                (moved, []) = .ok (both, pairs) ∧
              observe account run observedAt known observed added pair = .ok both := by
  induction resources with
  | nil =>
    intro store moved added pairs _ isObserved isAdded
    cases isAdded
    exact ⟨moved, rfl, isObserved⟩
  | cons resource rest inductionHypothesis =>
    intro store moved added pairs member isObserved isAdded
    rw [List.foldlM_cons, bind_eq_ok] at isAdded
    obtain ⟨⟨first, firstPairs⟩, step, later⟩ := isAdded
    rw [foldlM_addMissing_pairs] at later
    obtain ⟨⟨last, lastPairs⟩, restAdded, same⟩ := map_eq_ok.mp later
    cases same
    obtain ⟨stays, both, stepMoved, observedFirst⟩ := observe_addMissing member isObserved step
    obtain ⟨all, laterMoved, observedLast⟩ := inductionHypothesis stays observedFirst restAdded
    refine ⟨all, ?_, observedLast⟩
    rw [List.foldlM_cons, stepMoved]
    simp only [bind, Except.bind]
    rw [foldlM_addMissing_pairs, laterMoved]
    rfl

/-- The rows of an account. -/
def accountRows (store : InventoryStore) (provider : String) (account : CloudAccount) :
    List InventoryResource :=
  store.resources.rows.filter fun row => row.provider = provider ∧ row.cloudAccountId = account.id

/-- The resources that a run has observed. -/
def observedByRun (store : InventoryStore) (run : CollectionRun) : List ℤ :=
  (store.observations.rows.filter fun row => row.collectionRunId = some run.id).map
    fun row => row.inventoryResourceId

/-- A batch whose lookups read the whole tables. -/
def persistBatch (provider : String) (store : InventoryStore) (account : CloudAccount)
    (run : CollectionRun) (resources : List DiscoveredInventoryResource) (observedAt : Instant) :
    Except ServiceError (InventoryStore × List ℤ) := do
  let known := accountRows store provider account
  let (stored, currents) ←
    resources.foldlM (addMissing provider account run observedAt known) (store, [])
  let observed ← currents.foldlM
    (observe account run observedAt known (observedByRun store run)) stored
  return (observed, currents.map fun pair => pair.2.id)

theorem mem_observedByRun {id : ℤ} :
    id ∈ observedByRun store run ↔ ∃ row ∈ store.observations.rows,
      row.collectionRunId = some run.id ∧ row.inventoryResourceId = id := by
  simp [observedByRun, and_assoc]

/-- The rows of an account know the current row of every resource. -/
theorem knownRow_accountRows (store : InventoryStore) (resource : DiscoveredInventoryResource) :
    knownRow (accountRows store provider account) resource.identity =
      current? store (storedIdentity provider account resource) := by
  have isKnown {row : InventoryResource} : (row ∈ accountRows store provider account ∧
      (row.resourceType, row.resourceId) = resource.identity) ↔
        row ∈ store.resources.rows ∧
          row.toResourceIdentity = storedIdentity provider account resource := by
    simp only [accountRows, List.mem_filter, decide_eq_true_eq, storedIdentity,
      DiscoveredInventoryResource.identity, Prod.mk.injEq]
    constructor
    · rintro ⟨⟨member, sameProvider, sameAccount⟩, sameType, sameId⟩
      refine ⟨member, ?_⟩
      rw [← sameProvider, ← sameAccount, ← sameType, ← sameId]
    · rintro ⟨member, same⟩
      rw [same]
      exact ⟨⟨member, rfl, rfl⟩, rfl, rfl⟩
  cases found : current? store (storedIdentity provider account resource) with
  | some row =>
    obtain ⟨member, same⟩ := isKnown.mpr (Table.findUnique?_eq_some.mp found)
    obtain ⟨other, isFound⟩ : ∃ other,
        knownRow (accountRows store provider account) resource.identity = some other := by
      rw [← Option.isSome_iff_exists, knownRow, List.find?_isSome]
      exact ⟨row, member, by simpa using same⟩
    rw [isFound]
    have both := isKnown.mp ⟨List.mem_of_find?_eq_some isFound,
      by simpa using List.find?_some isFound⟩
    rw [← found, current?, eq_comm, Table.findUnique?_eq_some]
    exact both
  | none =>
    rw [knownRow, List.find?_eq_none]
    intro row member same
    have both := isKnown.mp ⟨member, by simpa using same⟩
    exact Table.findUnique?_eq_none.mp found row both.1 both.2

/-- What a batch does: each resource has its row at the end of the first loop, and the
second loop moves the rows. -/
theorem persistBatch_ok (distinct : (resources.map DiscoveredInventoryResource.identity).Nodup) :
    ∃ stored pairs after,
      resources.foldlM (addMissing provider account run observedAt
        (accountRows store provider account)) (store, []) = .ok (stored, pairs) ∧
      pairs.foldlM (observe account run observedAt (accountRows store provider account)
        (observedByRun store run)) stored = .ok after ∧
      stored.observations = store.observations ∧
      pairs.map Prod.fst = resources ∧
      (∀ pair ∈ pairs,
        current? stored (storedIdentity provider account pair.1) = some pair.2 ∧
        (current? store (storedIdentity provider account pair.1) = some pair.2 ∨
          current? store (storedIdentity provider account pair.1) = none ∧ pair.2 =
            { newResource provider account run observedAt pair.1 with id := pair.2.id })) ∧
      (∀ pair ∈ pairs, current? after (storedIdentity provider account pair.1) =
        some (movedRow account run observedAt (accountRows store provider account)
          (observedByRun store run) pair)) ∧
      (∀ identity, (∀ resource ∈ resources, storedIdentity provider account resource ≠ identity) →
        current? after identity = current? store identity) ∧
      ∀ row ∈ after.observations.rows, row ∈ store.observations.rows ∨
        row.collectionRunId = some run.id := by
  have lookups : ∀ resource ∈ resources,
      knownRow (accountRows store provider account) resource.identity =
        current? store (storedIdentity provider account resource) :=
    fun resource _ => knownRow_accountRows store resource
  obtain ⟨stored, pairs, first, sameObservations, batch, rows, others⟩ :=
    @foldlM_addMissing provider account run observedAt _ resources store [] distinct lookups
  rw [List.nil_append] at first
  have distinctPairs : (pairs.map fun pair => pair.1.identity).Nodup := by
    rw [← batch, List.map_map] at distinct
    exact distinct
  obtain ⟨after, second, moved, kept, observations⟩ :=
    @foldlM_observe provider account run observedAt (accountRows store provider account)
      (observedByRun store run) stored pairs distinctPairs (fun pair member => (rows pair member).1)
      (fun pair _ unobserved other otherMember ofRun same =>
        unobserved (mem_observedByRun.mpr ⟨other, sameObservations ▸ otherMember, ofRun, same⟩))
  refine ⟨stored, pairs, after, first, second, sameObservations, batch, fun pair member => ?_, moved,
    fun identity outside => ?_, fun row member => ?_⟩
  · obtain ⟨isStored, origin⟩ := rows pair member
    rw [← knownRow_accountRows store]
    exact ⟨isStored, origin⟩
  · rw [kept identity, others identity outside]
    exact fun pair listed => outside pair.1 (batch ▸ List.mem_map_of_mem listed)
  · rw [← sameObservations]
    exact observations row member

/-- The batch is its two loops, one after the other. -/
theorem persistBatch_of_loops {store stored after : InventoryStore}
    (first : resources.foldlM (addMissing provider account run observedAt
      (accountRows store provider account)) (store, []) = .ok (stored, pairs))
    (second : pairs.foldlM (observe account run observedAt (accountRows store provider account)
      (observedByRun store run)) stored = .ok after) :
    persistBatch provider store account run resources observedAt =
      .ok (after, pairs.map fun pair => pair.2.id) := by
  unfold persistBatch
  dsimp only
  rw [first]
  simp only [bind, Except.bind]
  rw [second]
  rfl

/-- The first resource of a batch observes itself alone. -/
theorem mem_observedByRun_next {store next : InventoryStore}
    (isObserved : observe account run observedAt known observed store pair = .ok next) {id : ℤ}
    (other : id ≠ pair.2.id) : id ∈ observedByRun next run ↔ id ∈ observedByRun store run := by
  rw [mem_observedByRun, mem_observedByRun]
  rcases observe_eq_ok isObserved with ⟨-, rfl⟩ | ⟨-, inserted, -⟩
  · exact Iff.rfl
  · rw [(Table.rows_of_insert inserted).1]
    constructor
    · rintro ⟨row, member, ofRun, same⟩
      rcases List.mem_append.mp member with old | last
      · exact ⟨row, old, ofRun, same⟩
      · rw [List.mem_singleton.mp last] at same
        exact absurd same.symm other
    · rintro ⟨row, member, both⟩
      exact ⟨row, List.mem_append_left _ member, both⟩

/-- A batch is its first resource and then the others. -/
theorem persistBatch_cons {rest : List DiscoveredInventoryResource}
    (distinct : ((resource :: rest).map DiscoveredInventoryResource.identity).Nodup) :
    ∃ next id after ids,
      persistBatch provider store account run [resource] observedAt = .ok (next, [id]) ∧
      persistBatch provider next account run rest observedAt = .ok (after, ids) ∧
      persistBatch provider store account run (resource :: rest) observedAt =
        .ok (after, id :: ids) := by
  obtain ⟨notLater, distinctRest⟩ := List.nodup_cons.mp distinct
  -- the first resource alone
  obtain ⟨storedOne, pairsOne, next, addedOne, observedOne, sameOne, batchOne, rowsOne, -, keptOne, -⟩ :=
    @persistBatch_ok provider account run observedAt store [resource]
      (List.nodup_singleton _)
  obtain ⟨pair, rfl⟩ : ∃ pair, pairsOne = [pair] := by
    have length : pairsOne.length = 1 := by simpa using congrArg List.length batchOne
    exact List.length_eq_one_iff.mp length
  obtain rfl : pair.1 = resource := by simpa using batchOne
  have stepOne : observe account run observedAt (accountRows store provider account)
      (observedByRun store run) storedOne pair = .ok next := by
    simpa only [List.foldlM_cons, List.foldlM_nil, bind_pure] using observedOne
  have giveOne : addMissing provider account run observedAt (accountRows store provider account)
      (store, []) pair.1 = .ok (storedOne, [pair]) := by
    simpa only [List.foldlM_cons, List.foldlM_nil, bind_pure] using addedOne
  -- the whole batch
  obtain ⟨stored, pairs, after, added, observed, -, batch, rows, -, -, -⟩ :=
    @persistBatch_ok provider account run observedAt store _ distinct
  have addedRest := added
  rw [List.foldlM_cons, giveOne] at addedRest
  simp only [bind, Except.bind] at addedRest
  rw [foldlM_addMissing_pairs] at addedRest
  obtain ⟨⟨last, pairsRest⟩, restAdded, same⟩ := map_eq_ok.mp addedRest
  simp only [Prod.mk.injEq, List.singleton_append] at same
  obtain ⟨rfl, rfl⟩ := same
  rw [List.foldlM_cons, bind_eq_ok] at observed
  obtain ⟨moved, movedFirst, restObserved⟩ := observed
  -- the first resource observed before the others have their rows
  have member : pair.2 ∈ storedOne.resources.rows :=
    (Table.findUnique?_eq_some.mp (rowsOne pair (List.mem_singleton_self _)).1).1
  obtain ⟨both, restFromNext, movedBoth⟩ := observe_foldlM_addMissing member stepOne restAdded
  obtain rfl : both = moved := Except.ok.inj (movedBoth.symm.trans movedFirst)
  have sameKnown {other : DiscoveredInventoryResource} (inRest : other ∈ rest) :
      knownRow (accountRows next provider account) other.identity =
        knownRow (accountRows store provider account) other.identity := by
    rw [knownRow_accountRows, knownRow_accountRows, keptOne]
    intro one isOne sameIdentity
    rw [List.mem_singleton.mp isOne] at sameIdentity
    exact notLater (List.mem_map.mpr ⟨other, inRest, (identity_of_stored sameIdentity).symm⟩)
  have firstLoop : rest.foldlM (addMissing provider account run observedAt
      (accountRows next provider account)) (next, []) = .ok (both, pairsRest) := by
    rw [← restFromNext]
    exact foldlM_congr (fun other inRest state => addMissing_congr (sameKnown inRest) state) _
  have secondLoop : pairsRest.foldlM (observe account run observedAt
      (accountRows next provider account) (observedByRun next run)) both = .ok after := by
    rw [← restObserved]
    refine foldlM_congr (fun other inPairs state => ?_) _
    obtain ⟨inRest, otherRow⟩ : other.1 ∈ rest ∧
        current? last (storedIdentity provider account other.1) = some other.2 := by
      obtain ⟨isStored, -⟩ := rows other (List.mem_cons_of_mem _ inPairs)
      have inBatch : other.1 ∈ pairsRest.map Prod.fst := List.mem_map_of_mem inPairs
      rw [List.map_cons, List.cons.injEq] at batch
      rw [batch.2] at inBatch
      exact ⟨inBatch, isStored⟩
    have sameObserved : observedByRun storedOne run = observedByRun store run := by
      rw [observedByRun, sameOne, observedByRun]
    refine observe_congr (sameKnown inRest) ?_ state
    rw [← sameObserved]
    refine mem_observedByRun_next stepOne fun sameId => ?_
    -- rows of different identities have different numbers
    obtain ⟨otherMember, otherIdentity⟩ := Table.findUnique?_eq_some.mp otherRow
    obtain ⟨ownMember, ownIdentity⟩ :=
      Table.findUnique?_eq_some.mp (rows pair (List.mem_cons_self ..)).1
    have sameRow := last.resources.eq_of_key otherMember ownMember sameId
    rw [sameRow, ownIdentity] at otherIdentity
    exact notLater (List.mem_map.mpr ⟨other.1, inRest, (identity_of_stored otherIdentity).symm⟩)
  refine ⟨next, pair.2.id, after, pairsRest.map fun pair => pair.2.id, ?_, ?_, ?_⟩
  · exact persistBatch_of_loops addedOne observedOne
  · exact persistBatch_of_loops firstLoop secondLoop
  · exact persistBatch_of_loops added (by
      rw [List.foldlM_cons, bind_eq_ok]
      exact ⟨both, movedFirst, restObserved⟩)

variable [CaseMapping] [TextLiteral]

/-- The lookups of a batch read the whole tables, whatever their sizes are. -/
theorem persistObservationsBy_eq {resourceChunk observationChunk : ℕ}
    (resourcePositive : 0 < resourceChunk) (observationPositive : 0 < observationChunk)
    {store : InventoryStore} {resources : List DiscoveredInventoryResource}
    (context : validateContext account run = .ok provider)
    (checked : checkBatch provider [] resources = .ok ()) :
    persistObservationsBy resourceChunk observationChunk store account run resources observedAt =
      persistBatch provider store account run resources observedAt := by
  obtain ⟨-, distinct, -⟩ := checkBatch_eq_ok.mp checked
  unfold persistObservationsBy
  rw [context]
  cases resources with
  | nil => rfl
  | cons resource rest =>
    obtain ⟨stored, pairs, after, first, second, sameObservations, batch, -⟩ :=
      @persistBatch_ok provider account run observedAt store _ distinct
    let known := currentRows resourceChunk store provider account.id
      ((resource :: rest).map DiscoveredInventoryResource.identity)
    have sameKnown {other : DiscoveredInventoryResource} (member : other ∈ resource :: rest) :
        knownRow known other.identity =
          knownRow (accountRows store provider account) other.identity := by
      rw [knownRow_accountRows]
      exact knownRow_currentRows resourcePositive (List.mem_map_of_mem member)
    have firstLoop : (resource :: rest).foldlM (addMissing provider account run observedAt known)
        (store, []) = .ok (stored, pairs) := by
      rw [← first]
      exact foldlM_congr (fun other member state => addMissing_congr (sameKnown member) state) _
    have secondLoop : pairs.foldlM (observe account run observedAt known
        (observedIds observationChunk stored run.id (pairs.map fun pair => pair.2.id))) stored =
          .ok after := by
      rw [← second]
      refine foldlM_congr (fun pair member state => observe_congr (sameKnown ?_) ?_ state) _
      · exact batch ▸ List.mem_map_of_mem member
      · rw [mem_observedIds observationPositive, mem_observedByRun, sameObservations]
        exact and_iff_right (List.mem_map_of_mem (f := fun pair :
          DiscoveredInventoryResource × InventoryResource => pair.2.id) member)
    rw [persistBatch_of_loops first second]
    simp only [List.isEmpty_cons, Bool.false_eq_true, if_false, checked, bind, Except.bind]
    rw [firstLoop]
    dsimp only
    rw [secondLoop]
    rfl

end Loops

section Runs

variable [CaseMapping] [TextLiteral] {account : CloudAccount} {run : CollectionRun}
  {observedAt : Instant} {provider : String} {store : InventoryStore}
  {resources : List DiscoveredInventoryResource}

/-- `persist_observation` for each resource in turn. -/
def persistOneByOne (store : InventoryStore) (account : CloudAccount) (run : CollectionRun)
    (resources : List DiscoveredInventoryResource) (observedAt : Instant) :
    Except ServiceError (InventoryStore × List ℤ) :=
  resources.foldlM (fun state resource => do
    let (next, ids) ← persistObservations state.1 account run [resource] observedAt
    return (next, state.2 ++ ids)) (store, [])

/-- Resource by resource a batch leaves what it leaves as a whole. -/
theorem persistOneByOne_eq (context : validateContext account run = .ok provider)
    (checked : checkBatch provider [] resources = .ok ()) :
    persistOneByOne store account run resources observedAt =
      persistBatch provider store account run resources observedAt := by
  obtain ⟨providers, distinct, -⟩ := checkBatch_eq_ok.mp checked
  have loop : ∀ (store : InventoryStore) (earlier : List ℤ),
      resources.foldlM (fun state resource => do
        let (next, ids) ← persistObservations state.1 account run [resource] observedAt
        return (next, state.2 ++ ids)) (store, earlier) =
          (fun result => (result.1, earlier ++ result.2)) <$>
            persistBatch provider store account run resources observedAt := by
    clear checked
    induction resources with
    | nil =>
      intro store earlier
      simp [persistBatch, bind, Except.bind, pure, Except.pure, Functor.map, Except.map]
    | cons resource rest inductionHypothesis =>
      intro store earlier
      obtain ⟨next, id, after, ids, one, later, whole⟩ :=
        persistBatch_cons distinct
      have single : persistObservations store account run [resource] observedAt =
          .ok (next, [id]) := by
        rw [← one]
        refine persistObservationsBy_eq (by decide) (by decide) context ?_
        rw [checkBatch_eq_ok]
        refine ⟨fun other member => ?_, List.nodup_singleton _, fun _ _ => List.not_mem_nil⟩
        rw [List.mem_singleton.mp member]
        exact providers resource (List.mem_cons_self ..)
      have restLoop := inductionHypothesis
        (fun other member => providers other (List.mem_cons_of_mem _ member))
        (List.nodup_cons.mp distinct).2 next (earlier ++ [id])
      rw [later] at restLoop
      rw [List.foldlM_cons, single, whole]
      simp only [bind, Except.bind, pure, Except.pure] at restLoop ⊢
      rw [restLoop]
      simp [Functor.map, Except.map]
  unfold persistOneByOne
  rw [loop]
  cases persistBatch provider store account run resources observedAt with
  | error raised => rfl
  | ok result => rfl

/-- The current row of a resource of the batch, before and after. -/
inductive Sighting (account : CloudAccount) (run : CollectionRun) (observedAt : Instant)
    (store : InventoryStore) (resource : DiscoveredInventoryResource) :
    Option InventoryResource → InventoryResource → Prop where
  | new (row : InventoryResource) (details : row.toResourceDetails = resource.toResourceDetails)
      (present : row.presenceStatus = .active) (seen : row.lastSeenAt = observedAt) :
      Sighting account run observedAt store resource none row
  | replayed (row : InventoryResource) (observed : row.id ∈ observedByRun store run) :
      Sighting account run observedAt store resource (some row) row
  | delayed (row : InventoryResource) (unobserved : row.id ∉ observedByRun store run)
      (later : observedAt < row.lastSeenAt) :
      Sighting account run observedAt store resource (some row) row
  | moved (row : InventoryResource) (unobserved : row.id ∉ observedByRun store run)
      (earlier : row.lastSeenAt ≤ observedAt) :
      Sighting account run observedAt store resource (some row)
        (applyCurrentState row resource account.nativeAccountId run.id observedAt)

omit [CaseMapping] [TextLiteral] in
/-- Observations of a run are appended, at most one for each resource that it had not
observed. -/
theorem observe_appends {known : List InventoryResource} {observed : List ℤ}
    {pairs : List (DiscoveredInventoryResource × InventoryResource)} :
    ∀ {stored after : InventoryStore},
      pairs.foldlM (observe account run observedAt known observed) stored = .ok after →
        (∀ row ∈ stored.observations.rows, row ∈ after.observations.rows) ∧
          ∀ pair ∈ pairs, pair.2.id ∈ observed ∨ pair.2.id ∈ observedByRun after run := by
  induction pairs with
  | nil =>
    intro stored after loop
    cases loop
    exact ⟨fun _ member => member, fun _ member => absurd member List.not_mem_nil⟩
  | cons pair rest inductionHypothesis =>
    intro stored after loop
    rw [List.foldlM_cons, bind_eq_ok] at loop
    obtain ⟨next, step, later⟩ := loop
    obtain ⟨kept, observes⟩ := inductionHypothesis later
    have first : (∀ row ∈ stored.observations.rows, row ∈ next.observations.rows) ∧
        (pair.2.id ∈ observed ∨ pair.2.id ∈ observedByRun next run) := by
      rcases observe_eq_ok step with ⟨already, rfl⟩ | ⟨-, inserted, -⟩
      · exact ⟨fun _ member => member, Or.inl already⟩
      · rw [mem_observedByRun, (Table.rows_of_insert inserted).1]
        refine ⟨fun row member => List.mem_append_left _ member, Or.inr ?_⟩
        exact ⟨_, List.mem_append_right _ (List.mem_singleton_self _), rfl, rfl⟩
    refine ⟨fun row member => kept row (first.1 row member), fun other member => ?_⟩
    rcases List.mem_cons.mp member with rfl | inRest
    · refine first.2.imp id fun isObserved => ?_
      rw [mem_observedByRun] at isObserved ⊢
      obtain ⟨row, rowMember, both⟩ := isObserved
      exact ⟨row, kept row rowMember, both⟩
    · exact observes other inRest

omit [CaseMapping] [TextLiteral] in
theorem id_movedRow {known : List InventoryResource} {observed : List ℤ}
    (pair : DiscoveredInventoryResource × InventoryResource) :
    (movedRow account run observedAt known observed pair).id = pair.2.id := by
  unfold movedRow
  split_ifs <;> rfl

omit [CaseMapping] [TextLiteral] in
/-- How a row moves. -/
theorem sighting_movedRow {pair : DiscoveredInventoryResource × InventoryResource}
    (origin : current? store (storedIdentity provider account pair.1) = some pair.2 ∨
      current? store (storedIdentity provider account pair.1) = none ∧ pair.2 =
        { newResource provider account run observedAt pair.1 with id := pair.2.id }) :
    Sighting account run observedAt store pair.1
      (current? store (storedIdentity provider account pair.1))
      (movedRow account run observedAt (accountRows store provider account)
        (observedByRun store run) pair) := by
  unfold movedRow
  rw [knownRow_accountRows]
  rcases origin with old | ⟨unknown, new⟩
  · rw [old]
    by_cases already : pair.2.id ∈ observedByRun store run
    · rw [if_pos already]
      exact .replayed pair.2 already
    · rw [if_neg already]
      by_cases earlier : pair.2.lastSeenAt ≤ observedAt
      · rw [if_pos (Or.inr earlier)]
        exact .moved pair.2 already earlier
      · rw [if_neg (by simpa using earlier)]
        exact .delayed pair.2 already (not_le.mp earlier)
  · rw [unknown]
    split_ifs with already moves
    · rw [new]
      exact .new _ rfl rfl rfl
    · exact .new _ rfl rfl rfl
    · simp at moves

/-- What a batch that was stored leaves. -/
structure Persisted (provider : String) (account : CloudAccount) (run : CollectionRun)
    (resources : List DiscoveredInventoryResource) (observedAt : Instant)
    (store stored : InventoryStore) (ids : List ℤ) : Prop where
  sightings : ∀ resource ∈ resources, ∃ row,
    current? stored (storedIdentity provider account resource) = some row ∧
      row.id ∈ observedByRun stored run ∧
        Sighting account run observedAt store resource
          (current? store (storedIdentity provider account resource)) row
  others : ∀ identity,
    (∀ resource ∈ resources, storedIdentity provider account resource ≠ identity) →
      current? stored identity = current? store identity
  kept : ∀ row ∈ store.observations.rows, row ∈ stored.observations.rows
  ofRun : ∀ row ∈ stored.observations.rows,
    row ∈ store.observations.rows ∨ row.collectionRunId = some run.id
  ids : ids = resources.map fun resource =>
    ((current? stored (storedIdentity provider account resource)).map InventoryResource.id).getD 0

theorem persisted_of_ok {stored : InventoryStore} {ids : List ℤ}
    (persisted : persistObservations store account run resources observedAt = .ok (stored, ids)) :
    ∃ provider, validateContext account run = .ok provider ∧
      checkBatch provider [] resources = .ok () ∧
        persistBatch provider store account run resources observedAt = .ok (stored, ids) := by
  have returned := persisted
  simp only [persistObservations, persistObservationsBy, bind_eq_ok] at persisted
  obtain ⟨provider, context, rest⟩ := persisted
  have checked : checkBatch provider [] resources = .ok () := by
    cases resources with
    | nil => rfl
    | cons resource others =>
      simp only [List.isEmpty_cons, Bool.false_eq_true, if_false, bind_eq_ok] at rest
      obtain ⟨_, checked, -⟩ := rest
      exact checked
  refine ⟨provider, context, checked, ?_⟩
  have resourcePositive : 0 < resourceLookupChunk := by decide
  have observationPositive : 0 < observationLookupChunk := by decide
  rw [← persistObservationsBy_eq resourcePositive observationPositive context checked]
  exact returned

omit [CaseMapping] [TextLiteral] in
theorem persisted_rows {stored : InventoryStore} {ids : List ℤ}
    (distinct : (resources.map DiscoveredInventoryResource.identity).Nodup)
    (persisted : persistBatch provider store account run resources observedAt = .ok (stored, ids)) :
    Persisted provider account run resources observedAt store stored ids := by
  obtain ⟨given, pairs, after, first, second, sameObservations, batch, rows, moved, others, ofRun⟩ :=
    @persistBatch_ok provider account run observedAt store _ distinct
  rw [persistBatch_of_loops first second, Except.ok.injEq, Prod.mk.injEq] at persisted
  obtain ⟨rfl, rfl⟩ := persisted
  obtain ⟨kept, observes⟩ := observe_appends second
  rw [sameObservations] at kept
  refine ⟨fun resource member => ?_, others, kept, ofRun, ?_⟩
  · obtain ⟨pair, inPairs, rfl⟩ := List.mem_map.mp (batch.symm ▸ member)
    refine ⟨_, moved pair inPairs, ?_, sighting_movedRow (rows pair inPairs).2⟩
    rw [id_movedRow]
    rcases observes pair inPairs with already | isObserved
    · rw [mem_observedByRun] at already ⊢
      obtain ⟨row, rowMember, both⟩ := already
      exact ⟨row, kept row rowMember, both⟩
    · exact isObserved
  · rw [← batch, List.map_map]
    refine List.map_congr_left fun pair inPairs => ?_
    rw [Function.comp_apply, moved pair inPairs, Option.map_some, Option.getD_some, id_movedRow]

omit [CaseMapping] [TextLiteral] in
/-- A batch whose resources the run has all observed changes nothing. -/
theorem persistBatch_observed
    (observed : ∀ resource ∈ resources, ∃ row,
      current? store (storedIdentity provider account resource) = some row ∧
        row.id ∈ observedByRun store run) :
    persistBatch provider store account run resources observedAt =
      .ok (store, resources.map fun resource =>
        ((current? store (storedIdentity provider account resource)).map
          InventoryResource.id).getD 0) := by
  have rowsGiven : ∀ pairs : List (DiscoveredInventoryResource × InventoryResource),
      ∃ added, resources.foldlM (addMissing provider account run observedAt
          (accountRows store provider account)) (store, pairs) = .ok (store, pairs ++ added) ∧
        added.map Prod.fst = resources ∧ ∀ pair ∈ added,
          current? store (storedIdentity provider account pair.1) = some pair.2 ∧
            pair.2.id ∈ observedByRun store run := by
    induction resources with
    | nil => exact fun pairs => ⟨[], by simp [pure, Except.pure], rfl, by simp⟩
    | cons resource rest inductionHypothesis =>
      intro pairs
      obtain ⟨row, found, isObserved⟩ := observed resource (List.mem_cons_self ..)
      obtain ⟨added, later, batch, rows⟩ := inductionHypothesis
        (fun other member => observed other (List.mem_cons_of_mem _ member))
        (pairs ++ [(resource, row)])
      have step : addMissing provider account run observedAt (accountRows store provider account)
          (store, pairs) resource = .ok (store, pairs ++ [(resource, row)]) := by
        unfold addMissing
        rw [knownRow_accountRows, found]
      refine ⟨(resource, row) :: added, ?_, by rw [List.map_cons, batch], fun pair member => ?_⟩
      · rw [List.foldlM_cons, step]
        simpa [bind, Except.bind] using later
      · rcases List.mem_cons.mp member with rfl | inRest
        · exact ⟨found, isObserved⟩
        · exact rows pair inRest
  obtain ⟨added, first, batch, rows⟩ := rowsGiven []
  have second : added.foldlM (observe account run observedAt (accountRows store provider account)
      (observedByRun store run)) store = .ok store := by
    clear first batch
    induction added with
    | nil => rfl
    | cons pair rest inductionHypothesis =>
      have step : observe account run observedAt (accountRows store provider account)
          (observedByRun store run) store pair = .ok store := by
        unfold observe
        exact if_pos (rows pair (List.mem_cons_self ..)).2
      rw [List.foldlM_cons, step]
      exact inductionHypothesis fun other member => rows other (List.mem_cons_of_mem _ member)
  rw [persistBatch_of_loops first second, List.nil_append]
  congr 2
  rw [← batch, List.map_map]
  refine List.map_congr_left fun pair member => ?_
  rw [Function.comp_apply, (rows pair member).1, Option.map_some, Option.getD_some]

/-- A scope is covered completely: some coverage tells of it, and all of it is complete. -/
def CompletelyCovered (coverage : List InventoryCoverage) (scope : String × Option String) : Prop :=
  (∃ item ∈ coverage, item.scope = [] ∧ (item.resourceType, item.region) = scope) ∧
    ∀ item ∈ coverage, item.scope = [] → (item.resourceType, item.region) = scope →
      item.status = .complete

variable {coverage : List InventoryCoverage}

omit [TextLiteral] in
theorem statusesByScope_ok :
    ∀ {statuses}, statusesByScope provider account coverage = .ok statuses →
      ∀ entry, entry ∈ statuses ↔ ∃ item ∈ coverage, item.scope = [] ∧
        entry = ((item.resourceType, item.region), item.status) := by
  induction coverage with
  | nil =>
    intro statuses covered entry
    cases covered
    simp
  | cons item rest inductionHypothesis =>
    intro statuses covered entry
    simp only [statusesByScope, bind_eq_ok] at covered
    obtain ⟨found, -, covered⟩ := covered
    by_cases same : found = provider
    · by_cases own : item.cloudAccountId = account.id
      · rw [if_neg (not_not.mpr same), if_neg (not_not.mpr own)] at covered
        simp only [bind_eq_ok] at covered
        obtain ⟨later, isLater, covered⟩ := covered
        have laterEntries := inductionHypothesis isLater
        by_cases narrow : item.scope = []
        · rw [if_neg (not_not.mpr narrow)] at covered
          cases covered
          rw [List.mem_cons, laterEntries, List.exists_mem_cons_iff]
          exact or_congr_left (and_iff_right narrow).symm
        · rw [if_pos narrow] at covered
          cases covered
          rw [laterEntries, List.exists_mem_cons_iff]
          exact (or_iff_right fun both => narrow both.1).symm
      · rw [if_neg (not_not.mpr same), if_pos own] at covered
        exact absurd covered throw_ne_ok
    · rw [if_pos same] at covered
      exact absurd covered throw_ne_ok

omit [TextLiteral] in
/-- The complete scopes of the code are those that are covered completely. -/
theorem mem_completeScopes {statuses : List ((String × Option String) × InventoryCoverageStatus)}
    (covered : statusesByScope provider account coverage = .ok statuses)
    (scope : String × Option String) :
    scope ∈ completeScopes statuses ↔ CompletelyCovered coverage scope := by
  have entries := statusesByScope_ok covered
  simp only [completeScopes, List.mem_filter, List.mem_map, List.all_eq_true, decide_eq_true_eq,
    CompletelyCovered]
  constructor
  · rintro ⟨⟨entry, member, rfl⟩, all⟩
    obtain ⟨item, itemMember, wide, rfl⟩ := (entries entry).mp member
    refine ⟨⟨item, itemMember, wide, rfl⟩, fun other otherMember otherWide same => ?_⟩
    exact (all _ ((entries _).mpr ⟨other, otherMember, otherWide, rfl⟩)).resolve_left
      (not_not.mpr same)
  · rintro ⟨⟨item, itemMember, wide, rfl⟩, all⟩
    refine ⟨⟨_, (entries _).mpr ⟨item, itemMember, wide, rfl⟩, rfl⟩, fun entry member => ?_⟩
    obtain ⟨other, otherMember, otherWide, rfl⟩ := (entries entry).mp member
    by_cases same : (other.resourceType, other.region) = (item.resourceType, item.region)
    · exact Or.inr (all other otherMember otherWide same)
    · exact Or.inl same

omit [TextLiteral] in
/-- What the comparison with the complete scopes leaves. -/
theorem reconciled_rows {stored reconciled : InventoryStore} {count : ℕ}
    (context : validateContext account run = .ok provider)
    (providers : ∀ resource ∈ resources, normalizeProvider resource.provider = .ok provider)
    (compared : reconcileCompleteScopes stored account run resources coverage observedAt =
      .ok (reconciled, count)) :
    ∃ statuses, statusesByScope provider account coverage = .ok statuses ∧
      reconciled.observations = stored.observations ∧
      reconciled.resources.rows = stored.resources.rows.map (markMissing (provedAbsent provider
        account (completeScopes statuses) (seenScopes resources) observedAt)) ∧
      count = stored.resources.rows.countP (provedAbsent provider account (completeScopes statuses)
        (seenScopes resources) observedAt) := by
  simp only [reconcileCompleteScopes, bind_eq_ok] at compared
  obtain ⟨again, contextAgain, statuses, covered, rest⟩ := compared
  obtain rfl : provider = again := Except.ok.inj (context.symm.trans contextAgain)
  refine ⟨statuses, covered, ?_⟩
  cases complete : completeScopes statuses with
  | nil =>
    have none (row : InventoryResource) : provedAbsent provider account [] (seenScopes resources)
        observedAt row = false := by
      simp [provedAbsent]
    rw [complete] at rest
    cases rest
    refine ⟨rfl, ?_, ?_⟩
    · refine ((List.map_congr_left fun row _ => ?_).trans (List.map_id _)).symm
      exact if_neg (by rw [none row]; decide)
    · rw [eq_comm, List.countP_eq_zero]
      exact fun row _ => by simp [none row]
  | cons scope others =>
    rw [complete, observedIdentities_eq providers] at rest
    cases rest
    exact ⟨rfl, rfl, rfl⟩

omit [CaseMapping] [TextLiteral] in
/-- A comparison marks the row of each identity on its own. -/
theorem current_of_marked {stored reconciled : InventoryStore} {absent : InventoryResource → Bool}
    (rows : reconciled.resources.rows = stored.resources.rows.map (markMissing absent))
    (identity : ResourceIdentity) :
    current? reconciled identity = (current? stored identity).map (markMissing absent) := by
  have same : reconciled.resources = stored.resources.modify (markMissing absent)
      (id_markMissing absent) (identity_markMissing absent) := by
    ext1
    exact rows
  rw [current?, same, Table.findUnique?_modify, current?]

/-- A resource that the run had observed in another region is not in a completely covered
scope, or it was seen later. -/
def OwnScopesAgree (provider : String) (account : CloudAccount) (run : CollectionRun)
    (resources : List DiscoveredInventoryResource) (coverage : List InventoryCoverage)
    (observedAt : Instant) (store : InventoryStore) : Prop :=
  ∀ resource ∈ resources, ∀ row,
    current? store (storedIdentity provider account resource) = some row →
      row.id ∈ observedByRun store run → row.presenceStatus = .active →
        row.region ≠ resource.region →
          CompletelyCovered coverage (row.resourceType, row.region) → observedAt < row.lastSeenAt

/-- No resource of the batch turns missing. -/
def KeepsOwn (provider : String) (account : CloudAccount)
    (resources : List DiscoveredInventoryResource) (stored reconciled : InventoryStore) : Prop :=
  ∀ resource ∈ resources, ∀ before after,
    current? stored (storedIdentity provider account resource) = some before →
      before.presenceStatus = .active →
        current? reconciled (storedIdentity provider account resource) = some after →
          after.presenceStatus = .active

/-- What a run leaves after its batch was stored and compared with its coverage. -/
structure RunOutcome (provider : String) (account : CloudAccount) (run : CollectionRun)
    (resources : List DiscoveredInventoryResource) (coverage : List InventoryCoverage)
    (observedAt : Instant) (store stored reconciled : InventoryStore) (ids : List ℤ) : Prop where
  own : KeepsOwn provider account resources stored reconciled ↔
    OwnScopesAgree provider account run resources coverage observedAt store
  missing : ∀ identity before after, current? stored identity = some before →
    before.presenceStatus = .active → current? reconciled identity = some after →
      after.presenceStatus = .missing →
        CompletelyCovered coverage (before.resourceType, before.region) ∧
          before.lastSeenAt ≤ observedAt
  seen : ∀ identity before, current? store identity = some before →
    ∃ after, current? reconciled identity = some after ∧ before.lastSeenAt ≤ after.lastSeenAt
  appended : (∀ row ∈ store.observations.rows, row ∈ reconciled.observations.rows) ∧
    ∀ row ∈ reconciled.observations.rows,
      row ∈ store.observations.rows ∨ row.collectionRunId = some run.id
  once : ∀ first ∈ reconciled.observations.rows, ∀ second ∈ reconciled.observations.rows,
    first.collectionRunId = some run.id → second.collectionRunId = some run.id →
      first.inventoryResourceId = second.inventoryResourceId → first = second
  replay : persistObservations reconciled account run resources observedAt = .ok (reconciled, ids) ∧
    reconcileCompleteScopes reconciled account run resources coverage observedAt =
      .ok (reconciled, 0)
  chunks : ∀ resourceChunk observationChunk, 0 < resourceChunk → 0 < observationChunk →
    persistObservationsBy resourceChunk observationChunk store account run resources observedAt =
      .ok (stored, ids)
  oneByOne : persistOneByOne store account run resources observedAt = .ok (stored, ids)

omit [CaseMapping] [TextLiteral] in
/-- A row in the region in which the batch shows it is not absent. -/
theorem not_absent_of_shown {complete : List (String × Option String)}
    {resource : DiscoveredInventoryResource} (member : resource ∈ resources)
    {row : InventoryResource} (identity : row.toResourceIdentity =
      storedIdentity provider account resource) (region : row.region = resource.region) :
    provedAbsent provider account complete (seenScopes resources) observedAt row = false := by
  have shown : (row.resourceType, row.region, row.resourceId) ∈ seenScopes resources := by
    rw [identity, region]
    exact List.mem_map_of_mem member
  simp [provedAbsent, shown]

omit [CaseMapping] [TextLiteral] in
/-- A row in another region than the batch shows it is absent from the region. -/
theorem region_of_shown (distinct : (resources.map DiscoveredInventoryResource.identity).Nodup)
    {resource : DiscoveredInventoryResource} (member : resource ∈ resources)
    {row : InventoryResource} (identity : row.toResourceIdentity =
      storedIdentity provider account resource)
    (shown : (row.resourceType, row.region, row.resourceId) ∈ seenScopes resources) :
    row.region = resource.region := by
  obtain ⟨other, otherMember, same⟩ := List.mem_map.mp shown
  simp only [Prod.mk.injEq] at same
  obtain ⟨sameType, sameRegion, sameId⟩ := same
  have sameIdentity : other.identity = resource.identity := by
    rw [identity] at sameType sameId
    exact Prod.ext sameType sameId
  rw [← sameRegion, List.inj_on_of_nodup_map distinct otherMember member sameIdentity]

section Outcomes

variable {stored reconciled : InventoryStore} {ids : List ℤ} {complete : List (String × Option String)}
  {coverage : List InventoryCoverage}

omit [CaseMapping] [TextLiteral] in
/-- The batch stays active exactly where the regions that the run had seen before agree. -/
theorem keepsOwn_iff (distinct : (resources.map DiscoveredInventoryResource.identity).Nodup)
    (persisted : Persisted provider account run resources observedAt store stored ids)
    (scopes : ∀ scope, scope ∈ complete ↔ CompletelyCovered coverage scope)
    (marked : ∀ identity, current? reconciled identity = (current? stored identity).map
      (markMissing (provedAbsent provider account complete (seenScopes resources) observedAt))) :
    KeepsOwn provider account resources stored reconciled ↔
      OwnScopesAgree provider account run resources coverage observedAt store := by
  constructor
  · intro keeps resource member row found observed active region covered
    by_contra notLater
    obtain ⟨after, isStored, -, sighting⟩ := persisted.sightings resource member
    obtain rfl : after = row := by
      rw [found] at sighting
      cases sighting with
      | replayed => rfl
      | delayed => rfl
      | moved _ unobserved => exact absurd observed unobserved
    have identity := (Table.findUnique?_eq_some.mp isStored).2
    have unseen : (after.resourceType, after.region, after.resourceId) ∉ seenScopes resources :=
      fun shown => region (region_of_shown distinct member identity shown)
    have absent : provedAbsent provider account complete (seenScopes resources) observedAt after =
        true := by
      have ofAccount : after.provider = provider ∧ after.cloudAccountId = account.id := by
        rw [identity]
        exact ⟨rfl, rfl⟩
      simp only [provedAbsent, decide_eq_true_eq]
      exact ⟨ofAccount.1, ofAccount.2, active, (scopes _).mpr covered, unseen, not_lt.mp notLater⟩
    have kept := keeps resource member after _ isStored active
      (by rw [marked, isStored, Option.map_some])
    rw [markMissing, if_pos absent] at kept
    cases kept
  · intro agree resource member before after isStored active isMarked
    rw [marked, isStored, Option.map_some, Option.some.injEq] at isMarked
    subst isMarked
    obtain ⟨row, isRow, -, sighting⟩ := persisted.sightings resource member
    obtain rfl : row = before := Option.some.inj (isRow.symm.trans isStored)
    have identity := (Table.findUnique?_eq_some.mp isStored).2
    have present : provedAbsent provider account complete (seenScopes resources) observedAt row =
        false := by
      cases found : current? store (storedIdentity provider account resource) with
      | none =>
        rw [found] at sighting
        cases sighting with
        | new _ details =>
          exact not_absent_of_shown member identity (congrArg ResourceDetails.region details)
      | some old =>
        rw [found] at sighting
        cases sighting with
        | replayed _ observed =>
          by_cases region : row.region = resource.region
          · exact not_absent_of_shown member identity region
          · by_cases covered : CompletelyCovered coverage (row.resourceType, row.region)
            · have later := agree resource member row found observed active region covered
              simp [provedAbsent, not_le.mpr later]
            · simp [provedAbsent, scopes, covered]
        | delayed _ _ later => simp [provedAbsent, not_le.mpr later]
        | moved => exact not_absent_of_shown member identity rfl
    rw [markMissing, if_neg (by rw [present]; decide)]
    exact active

omit [CaseMapping] [TextLiteral] in
/-- No row is seen earlier than before. -/
theorem lastSeen_of_persisted
    (persisted : Persisted provider account run resources observedAt store stored ids)
    {identity : ResourceIdentity} {before : InventoryResource}
    (found : current? store identity = some before) :
    ∃ after, current? stored identity = some after ∧ before.lastSeenAt ≤ after.lastSeenAt := by
  by_cases listed : ∃ resource ∈ resources, storedIdentity provider account resource = identity
  · obtain ⟨resource, member, rfl⟩ := listed
    obtain ⟨row, isRow, -, sighting⟩ := persisted.sightings resource member
    refine ⟨row, isRow, ?_⟩
    rw [found] at sighting
    cases sighting with
    | replayed => exact le_refl _
    | delayed => exact le_refl _
    | moved _ _ earlier => exact earlier
  · refine ⟨before, ?_, le_refl _⟩
    rw [persisted.others identity fun resource member same => listed ⟨resource, member, same⟩]
    exact found

omit [CaseMapping] [TextLiteral] in
/-- A marked row is not absent any more. -/
theorem not_absent_of_marked (row : InventoryResource) :
    provedAbsent provider account complete (seenScopes resources) observedAt
      (markMissing (provedAbsent provider account complete (seenScopes resources) observedAt) row) =
        false := by
  unfold markMissing
  split
  · simp [provedAbsent]
  · rename_i present
    exact Bool.eq_false_iff.mpr present

omit [TextLiteral] in
/-- A repeated comparison finds nothing absent. -/
theorem compared_again {statuses : List ((String × Option String) × InventoryCoverageStatus)}
    (context : validateContext account run = .ok provider)
    (providers : ∀ resource ∈ resources, normalizeProvider resource.provider = .ok provider)
    (covered : statusesByScope provider account coverage = .ok statuses)
    (rows : reconciled.resources.rows = stored.resources.rows.map (markMissing (provedAbsent provider
      account (completeScopes statuses) (seenScopes resources) observedAt))) :
    reconcileCompleteScopes reconciled account run resources coverage observedAt =
      .ok (reconciled, 0) := by
  have present : ∀ row ∈ reconciled.resources.rows, provedAbsent provider account
      (completeScopes statuses) (seenScopes resources) observedAt row = false := by
    intro row member
    rw [rows] at member
    obtain ⟨old, -, rfl⟩ := List.mem_map.mp member
    exact not_absent_of_marked old
  obtain ⟨again, count, compared, -, -⟩ :=
    @reconcileCompleteScopes_ok _ reconciled _ _ _ observedAt _ _ _ context covered providers
  obtain ⟨same, coveredAgain, sameObservations, marks, counted⟩ :=
    reconciled_rows context providers compared
  obtain rfl : statuses = same := Except.ok.inj (covered.symm.trans coveredAgain)
  have sameResources : again.resources = reconciled.resources := by
    ext1
    rw [marks]
    refine (List.map_congr_left fun row member => ?_).trans (List.map_id _)
    exact if_neg (by rw [present row member]; decide)
  have none : count = 0 := by
    rw [counted, List.countP_eq_zero]
    exact fun row member => by rw [present row member]; decide
  rw [compared, none]
  congr 2
  cases again
  cases reconciled
  simp only [InventoryStore.mk.injEq]
  exact ⟨sameResources, sameObservations⟩

/-- A replay of the batch observes nothing new. -/
theorem persisted_again (context : validateContext account run = .ok provider)
    (checked : checkBatch provider [] resources = .ok ())
    (persisted : Persisted provider account run resources observedAt store stored ids)
    (sameObservations : reconciled.observations = stored.observations)
    (marked : ∀ identity, current? reconciled identity = (current? stored identity).map
      (markMissing (provedAbsent provider account complete (seenScopes resources) observedAt))) :
    persistObservations reconciled account run resources observedAt = .ok (reconciled, ids) := by
  have sameObserved : observedByRun reconciled run = observedByRun stored run := by
    rw [observedByRun, sameObservations, observedByRun]
  rw [persistObservations, persistObservationsBy_eq (by decide) (by decide) context checked,
    persistBatch_observed, persisted.ids]
  · congr 2
    refine List.map_congr_left fun resource _ => ?_
    rw [marked]
    cases current? stored (storedIdentity provider account resource) with
    | none => rfl
    | some row => exact id_markMissing _ row
  · intro resource member
    obtain ⟨row, isRow, observed, -⟩ := persisted.sightings resource member
    refine ⟨_, by rw [marked, isRow, Option.map_some], ?_⟩
    rw [id_markMissing, sameObserved]
    exact observed

end Outcomes

/-- A run keeps its own resources active exactly where the regions that it had seen agree
with its batch; it marks only what complete scopes exclude, moves no sighting back, observes
each resource once, can be replayed and does not depend on how its batch is read. -/
theorem run_outcome {coverage : List InventoryCoverage} {stored reconciled : InventoryStore}
    {ids : List ℤ} {count : ℕ}
    (persisted : persistObservations store account run resources observedAt = .ok (stored, ids))
    (compared : reconcileCompleteScopes stored account run resources coverage observedAt =
      .ok (reconciled, count)) :
    ∃ provider, validateContext account run = .ok provider ∧
      RunOutcome provider account run resources coverage observedAt store stored reconciled ids := by
  obtain ⟨provider, context, checked, batch⟩ := persisted_of_ok persisted
  obtain ⟨providers, distinct, -⟩ := checkBatch_eq_ok.mp checked
  have rows := persisted_rows distinct batch
  obtain ⟨statuses, covered, sameObservations, marks, -⟩ :=
    reconciled_rows context providers compared
  have marked := current_of_marked marks
  have scopes := mem_completeScopes covered
  refine ⟨provider, context, keepsOwn_iff distinct rows scopes marked, ?_, ?_, ?_, ?_, ?_, ?_, ?_⟩
  · intro identity before after isStored active isMarked missing
    rw [marked, isStored, Option.map_some, Option.some.injEq] at isMarked
    subst isMarked
    unfold markMissing at missing
    split at missing
    · rename_i absent
      simp only [provedAbsent, decide_eq_true_eq] at absent
      exact ⟨(scopes _).mp absent.2.2.2.1, absent.2.2.2.2.2⟩
    · rw [active] at missing
      cases missing
  · intro identity before found
    obtain ⟨after, isStored, later⟩ := lastSeen_of_persisted rows found
    refine ⟨_, by rw [marked, isStored, Option.map_some], ?_⟩
    unfold markMissing
    split <;> exact later
  · rw [sameObservations]
    exact ⟨rows.kept, rows.ofRun⟩
  · intro first firstMember second secondMember firstRun secondRun same
    refine reconciled.observations.eq_of_unique firstMember secondMember ?_
    simp [InventoryResourceObservation.uniqueKey, firstRun, secondRun, same]
  · exact ⟨persisted_again context checked rows sameObservations marked,
      compared_again context providers covered marks⟩
  · intro resourceChunk observationChunk resourcePositive observationPositive
    rw [persistObservationsBy_eq resourcePositive observationPositive context checked, batch]
  · rw [persistOneByOne_eq context checked, batch]

end Runs

section Retry

attribute [local instance] asciiCase plainLiteral

def retriedAccount : CloudAccount := ⟨1, "aws", "111122223333", "Production"⟩

def retriedRun : CollectionRun :=
  ⟨"run-1", "aws", "111122223333", 10, none, .success, true⟩

/-- An instance that a run sees in a region. -/
def instanceIn (region : String) : DiscoveredInventoryResource where
  nativeResourceType := none
  service := some "ec2"
  name := some "web"
  region := some region
  availabilityZone := none
  lifecycleStatus := "running"
  nativeStatus := some "running"
  tags := []
  attributes := []
  provider := "aws"
  resourceId := "i-a"
  resourceType := "compute_instance"

/-- The instances of a region are covered completely. -/
def coveredIn (region : String) : InventoryCoverage :=
  ⟨"aws", 1, "compute_instance", .complete, some region, []⟩

/-- A run of which the batch is one instance. -/
def runWith (store : InventoryStore) (region : String) (coverage : List InventoryCoverage) :
    Option (InventoryStore × InventoryStore) := do
  let (stored, _) ←
    (persistObservations store retriedAccount retriedRun [instanceIn region] 10).toOption
  let (reconciled, _) ← (reconcileCompleteScopes stored retriedAccount retriedRun
    [instanceIn region] coverage 10).toOption
  return (stored, reconciled)

/-- The presence of the instance after a run and a retry that finds it in another region. -/
def retriedPresence : Option (InventoryPresenceStatus × InventoryPresenceStatus) := do
  let (_, first) ← runWith ⟨Table.empty _ _, Table.empty _ _⟩ "us-east-1" [coveredIn "us-east-1"]
  let (stored, reconciled) ← runWith first "us-west-2"
    [coveredIn "us-east-1", coveredIn "us-west-2"]
  let before ← current? stored ⟨"aws", 1, "compute_instance", "i-a"⟩
  let after ← current? reconciled ⟨"aws", 1, "compute_instance", "i-a"⟩
  return (before.presenceStatus, after.presenceStatus)

theorem returned_of_runWith {store stored reconciled : InventoryStore} {region : String}
    {coverage : List InventoryCoverage}
    (returned : runWith store region coverage = some (stored, reconciled)) :
    ∃ ids count,
      persistObservations store retriedAccount retriedRun [instanceIn region] 10 =
          .ok (stored, ids) ∧
        reconcileCompleteScopes stored retriedAccount retriedRun [instanceIn region] coverage 10 =
          .ok (reconciled, count) := by
  unfold runWith at returned
  cases persisted :
      persistObservations store retriedAccount retriedRun [instanceIn region] 10 with
  | error raised =>
    rw [persisted] at returned
    cases returned
  | ok result =>
    rw [persisted] at returned
    cases compared : reconcileCompleteScopes result.1 retriedAccount retriedRun
        [instanceIn region] coverage 10 with
    | error raised =>
      simp [Except.toOption, compared] at returned
    | ok marked =>
      simp only [Except.toOption, compared, Option.bind_eq_bind, Option.bind_some,
        Option.pure_def, Option.some.injEq, Prod.mk.injEq] at returned
      obtain ⟨rfl, rfl⟩ := returned
      exact ⟨result.2, marked.2, rfl, compared⟩

/-- A retry that finds the instance in another region marks it missing. -/
theorem retry_marks_own_resource :
    ¬∀ store account run resources coverage observedAt stored ids reconciled count,
      persistObservations store account run resources observedAt = .ok (stored, ids) →
        reconcileCompleteScopes stored account run resources coverage observedAt =
            .ok (reconciled, count) →
          ∀ provider, validateContext account run = .ok provider →
            KeepsOwn provider account resources stored reconciled := by
  intro always
  have evaluated : retriedPresence = some (.active, .missing) := by decide +kernel
  simp only [retriedPresence, Option.bind_eq_bind, Option.bind_eq_some_iff, Option.pure_def,
    Option.some.injEq, Prod.mk.injEq] at evaluated
  obtain ⟨⟨_, first⟩, -, ⟨stored, reconciled⟩, retried, before, isBefore, after, isAfter, active,
    missing⟩ := evaluated
  obtain ⟨ids, count, persisted, compared⟩ := returned_of_runWith retried
  have context : validateContext retriedAccount retriedRun = .ok "aws" := by decide +kernel
  have kept := always _ _ _ _ _ _ _ _ _ _ persisted compared "aws" context (instanceIn "us-west-2")
    (List.mem_singleton_self _) before after isBefore active isAfter
  rw [missing] at kept
  cases kept

/-- A first run keeps its instance. -/
theorem first_run_outcome :
    ∃ stored reconciled ids provider, RunOutcome provider retriedAccount retriedRun
      [instanceIn "us-east-1"] [coveredIn "us-east-1"] 10
        ⟨Table.empty _ _, Table.empty _ _⟩ stored reconciled ids := by
  have evaluated : (runWith ⟨Table.empty _ _, Table.empty _ _⟩ "us-east-1"
      [coveredIn "us-east-1"]).isSome = true := by
    decide +kernel
  obtain ⟨⟨stored, reconciled⟩, returned⟩ := Option.isSome_iff_exists.mp evaluated
  obtain ⟨ids, count, persisted, compared⟩ := returned_of_runWith returned
  obtain ⟨provider, -, outcome⟩ := run_outcome persisted compared
  exact ⟨stored, reconciled, ids, provider, outcome⟩

end Retry

end FinopsAnalytics.InventoryReplays
