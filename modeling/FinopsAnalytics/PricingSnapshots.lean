import FinopsAnalytics.OciPricing
import FinopsAnalytics.PricingVersions

/-!
# Three readings of one catalog

A price is read singly, in a batch for a provider, or from the cache that both
fill. Each reading normalises the identity and the instant for itself. On a
catalog without overlapping prices they agree: a cached price is the only one
effective under its key, and a batch holds the effective row of every identity of
its provider. The administration list reads the same rows by status, computed
once for a row and once as conditions of a query.
-/

namespace FinopsAnalytics.PricingSnapshots

open PythonText HalfOpenIntervals PricingCatalog PricingVersions OciPricing

/-- A datetime of a caller. Without an offset it is naive. -/
structure Timestamp where
  wall : Instant
  offset : Option Duration
deriving DecidableEq, Repr

/-- `_utc_reference` of a given value: naive values are read as UTC, others are
moved there. -/
def Timestamp.utc (time : Timestamp) : Instant :=
  match time.offset with
  | none => time.wall
  | some offset => time.wall - offset

/-- `PricingResolver.__init__` at a clock reading. -/
def newResolver (now : Instant) (referenceAt : Option Timestamp) : PricingResolver :=
  ⟨(referenceAt.map Timestamp.utc).getD now, []⟩

/-- `self.reference_at if at is None else _utc_reference(at)`. -/
def referenceOf (resolver : PricingResolver) (at_ : Option Timestamp) : Instant :=
  (at_.map Timestamp.utc).getD resolver.referenceAt

section Readings

variable [CaseMapping]

/-- The loop of `PricingResolver.snapshot`. Every price that passes is cached at
once, so a loop that fails has filled the cache up to there. -/
def collectPrices (reference : Instant) (expectedCurrency : Option String) :
    List PricingCatalogItem → List (PricingIdentity × ResolvedPrice) → PricingResolver →
      Except PricingCatalogError (List (PricingIdentity × ResolvedPrice)) × PricingResolver
  | [], items, resolver => (.ok items, resolver)
  | row :: rows, items, resolver =>
    let price := resolved row
    if (items.lookup price.identity).isSome then
      (.error (.pricingAmbiguity price.identity reference), resolver)
    else
      match validateCurrency price expectedCurrency with
      | .error mismatch => (.error mismatch, resolver)
      | .ok _ =>
        collectPrices reference expectedCurrency rows (items ++ [(price.identity, price)])
          { resolver with cache := ((price.identity, reference), price) :: resolver.cache }

/-- `PricingResolver.snapshot` with the resolver's next cache. -/
def takeSnapshot (resolver : PricingResolver) (catalog : Catalog) (provider : String)
    (at_ : Option Timestamp) (expectedCurrency : Option String) :
    Except PricingCatalogError PricingSnapshot × PricingResolver :=
  let reference := referenceOf resolver at_
  let normalized := CaseMapping.lower (strip provider)
  let (collected, next) := collectPrices reference expectedCurrency
    (providerRows catalog normalized reference) [] resolver
  (collected.map fun items => ⟨normalized, reference, items⟩, next)

/-- The request of an identity at a datetime of the caller. -/
def requestAt (request : PriceRequest) (at_ : Option Timestamp) : PriceRequest :=
  { request with at_ := at_.map Timestamp.utc }

/-- The calls of a resolver. -/
inductive Call where
  | snapshot (provider : String) (at_ : Option Timestamp) (expectedCurrency : Option String)
  | resolvePrice (request : PriceRequest) (at_ : Option Timestamp)
deriving DecidableEq, Repr

/-- The resolver after a call, whether or not the call raised. -/
def afterCall (catalog : Catalog) (resolver : PricingResolver) : Call → PricingResolver
  | .snapshot provider at_ expectedCurrency =>
    (takeSnapshot resolver catalog provider at_ expectedCurrency).2
  | .resolvePrice request at_ => (resolver.resolvePrice catalog (requestAt request at_)).2

def afterCalls (catalog : Catalog) (resolver : PricingResolver) (calls : List Call) :
    PricingResolver :=
  calls.foldl (afterCall catalog) resolver

@[simp] theorem requestAt_identity (request : PriceRequest) (at_ : Option Timestamp) :
    (requestAt request at_).identity = request.identity := rfl

omit [CaseMapping] in
@[simp] theorem requestAt_expectedCurrency (request : PriceRequest) (at_ : Option Timestamp) :
    (requestAt request at_).expectedCurrency = request.expectedCurrency := rfl

/-- The cached prices do not change the batch: it is the snapshot of the service. -/
theorem collectPrices_fst (reference : Instant) (expectedCurrency : Option String)
    (rows : List PricingCatalogItem) :
    ∀ items resolver, (collectPrices reference expectedCurrency rows items resolver).1 =
      rows.foldlM (addPrice reference expectedCurrency) items := by
  induction rows with
  | nil => exact fun _ _ => rfl
  | cons row rows inductionHypothesis =>
    intro items resolver
    rw [List.foldlM_cons, collectPrices]
    by_cases present : (items.lookup (resolved row).identity).isSome
    · simp [addPrice, present, throw, throwThe, MonadExceptOf.throw, bind, Except.bind]
    · cases checked : validateCurrency (resolved row) expectedCurrency with
      | error mismatch => simp [addPrice, present, checked, bind, Except.bind]
      | ok passed =>
        simp [addPrice, present, checked, bind, Except.bind, pure, Except.pure,
          inductionHypothesis]

theorem takeSnapshot_fst (resolver : PricingResolver) (catalog : Catalog) (provider : String)
    (at_ : Option Timestamp) (expectedCurrency : Option String) :
    (takeSnapshot resolver catalog provider at_ expectedCurrency).1 =
      snapshot catalog provider (referenceOf resolver at_) expectedCurrency := by
  simp only [takeSnapshot, snapshot, collectPrices_fst]
  cases (providerRows catalog (CaseMapping.lower (strip provider))
    (referenceOf resolver at_)).foldlM (addPrice (referenceOf resolver at_) expectedCurrency) []
      <;> rfl

end Readings

section Caches

/-- A cached price is that of the only effective row under its key. -/
def Faithful (catalog : Catalog) (resolver : PricingResolver) : Prop :=
  ∀ entry ∈ resolver.cache, ∃ row, effectiveRows catalog entry.1.1 entry.1.2 = [row] ∧
    entry.2 = resolved row

theorem Faithful.cached {catalog : Catalog} {resolver : PricingResolver}
    (faithful : Faithful catalog resolver) {identity : PricingIdentity} {reference : Instant}
    {row : PricingCatalogItem} (only : effectiveRows catalog identity reference = [row]) :
    Faithful catalog
      { resolver with cache := ((identity, reference), resolved row) :: resolver.cache } := by
  intro entry member
  rcases List.mem_cons.mp member with rfl | earlier
  · exact ⟨row, only, rfl⟩
  · exact faithful entry earlier

variable {catalog : Catalog}

/-- On a catalog without overlaps an effective row is alone under its identity. -/
theorem effectiveRows_of_separate (separate : catalog.Pairwise Separate)
    (identity : PricingIdentity) (reference : Instant) :
    (effectiveRows catalog identity reference).Pairwise fun _ _ => False := by
  have apart : (effectiveRows catalog identity reference).Pairwise Separate :=
    separate.sublist List.filter_sublist
  apply apart.imp_of_mem
  intro first second firstMember secondMember separated
  obtain ⟨-, firstEnabled, firstContains, firstIdentity⟩ := mem_effectiveRows.mp firstMember
  obtain ⟨-, secondEnabled, secondContains, secondIdentity⟩ := mem_effectiveRows.mp secondMember
  exact separated firstEnabled secondEnabled (firstIdentity.trans secondIdentity.symm) reference
    firstContains secondContains

theorem effectiveRows_eq_singleton (separate : catalog.Pairwise Separate)
    {identity : PricingIdentity} {reference : Instant} {row : PricingCatalogItem}
    (member : row ∈ effectiveRows catalog identity reference) :
    effectiveRows catalog identity reference = [row] := by
  have alone := effectiveRows_of_separate separate identity reference
  cases rows : effectiveRows catalog identity reference with
  | nil => simp [rows] at member
  | cons first rest =>
    rw [rows] at alone member
    cases rest with
    | nil => rw [List.mem_singleton.mp member]
    | cons second others =>
      exact ((List.pairwise_cons.mp alone).1 second List.mem_cons_self).elim

theorem mem_providerRows {provider : String} {reference : Instant} {row : PricingCatalogItem} :
    row ∈ providerRows catalog provider reference ↔
      row ∈ effectiveRows catalog row.identity reference ∧ row.provider = provider := by
  simp [providerRows, effectiveRows, and_assoc]

variable [CaseMapping]

theorem faithful_collectPrices (separate : catalog.Pairwise Separate) {provider : String}
    {reference : Instant} {expectedCurrency : Option String} (rows : List PricingCatalogItem)
    (effective : ∀ row ∈ rows, row ∈ providerRows catalog provider reference) :
    ∀ items resolver, Faithful catalog resolver →
      Faithful catalog (collectPrices reference expectedCurrency rows items resolver).2 ∧
        (collectPrices reference expectedCurrency rows items resolver).2.referenceAt =
          resolver.referenceAt := by
  induction rows with
  | nil => exact fun _ _ faithful => ⟨faithful, rfl⟩
  | cons row rows inductionHypothesis =>
    intro items resolver faithful
    rw [collectPrices]
    split
    · exact ⟨faithful, rfl⟩
    · split
      · exact ⟨faithful, rfl⟩
      · have only := effectiveRows_eq_singleton separate
          (mem_providerRows.mp (effective row List.mem_cons_self)).1
        exact inductionHypothesis (fun later member => effective later
          (List.mem_cons_of_mem _ member)) _ _ (faithful.cached only)

theorem faithful_resolvePrice {resolver : PricingResolver} (faithful : Faithful catalog resolver)
    (request : PriceRequest) :
    Faithful catalog (resolver.resolvePrice catalog request).2 ∧
      (resolver.resolvePrice catalog request).2.referenceAt = resolver.referenceAt := by
  rw [PricingResolver.resolvePrice]
  split
  · exact ⟨faithful, rfl⟩
  · split
    · exact ⟨faithful, rfl⟩
    · rename_i only
      dsimp only
      split
      · exact ⟨faithful, rfl⟩
      · exact ⟨faithful.cached only, rfl⟩
    · exact ⟨faithful, rfl⟩

/-- No sequence of calls makes the cache unfaithful or moves the reference. -/
theorem faithful_afterCalls (separate : catalog.Pairwise Separate) (calls : List Call) :
    ∀ resolver, Faithful catalog resolver →
      Faithful catalog (afterCalls catalog resolver calls) ∧
        (afterCalls catalog resolver calls).referenceAt = resolver.referenceAt := by
  induction calls with
  | nil => exact fun _ faithful => ⟨faithful, rfl⟩
  | cons call calls inductionHypothesis =>
    intro resolver faithful
    have step : Faithful catalog (afterCall catalog resolver call) ∧
        (afterCall catalog resolver call).referenceAt = resolver.referenceAt := by
      cases call with
      | snapshot provider at_ expectedCurrency =>
        exact faithful_collectPrices separate _ (fun _ member => member) _ _ faithful
      | resolvePrice request at_ => exact faithful_resolvePrice faithful _
    obtain ⟨later, same⟩ := inductionHypothesis _ step.1
    exact ⟨later, same.trans step.2⟩

/-- A faithful cache answers as the catalog does. -/
theorem resolvePrice_of_faithful {resolver : PricingResolver}
    (faithful : Faithful catalog resolver) (request : PriceRequest) (at_ : Option Timestamp) :
    (resolver.resolvePrice catalog (requestAt request at_)).1 =
      priceAt catalog request (referenceOf resolver at_) := by
  have reference : (requestAt request at_).at_.getD resolver.referenceAt =
      referenceOf resolver at_ := rfl
  rw [priceAt_eq, PricingResolver.resolvePrice]
  simp only [requestAt_identity, requestAt_expectedCurrency, reference]
  cases cached : resolver.cache.lookup (request.identity, referenceOf resolver at_) with
  | some price =>
    obtain ⟨before, after, same, -⟩ := List.lookup_eq_some_iff.mp cached
    obtain ⟨row, only, rfl⟩ := faithful ((request.identity, referenceOf resolver at_), price)
      (by simp [same])
    simp only [only]
  | none =>
    dsimp only
    split
    · rfl
    · split
      · rename_i mismatch refused
        rw [refused]
        rfl
      · rename_i passed accepted
        rw [accepted]
        rfl
    · rfl

end Caches

section Batches

variable {catalog : Catalog}

/-- The effective rows of a provider have pairwise different identities. -/
theorem providerRows_identities (separate : catalog.Pairwise Separate) (provider : String)
    (reference : Instant) :
    (providerRows catalog provider reference).Pairwise
      fun first second => first.identity ≠ second.identity := by
  have apart : (providerRows catalog provider reference).Pairwise Separate :=
    separate.sublist List.filter_sublist
  apply apart.imp_of_mem
  intro first second firstMember secondMember separated same
  obtain ⟨-, firstEnabled, firstContains, -⟩ :=
    mem_effectiveRows.mp (mem_providerRows.mp firstMember).1
  obtain ⟨-, secondEnabled, secondContains, -⟩ :=
    mem_effectiveRows.mp (mem_providerRows.mp secondMember).1
  exact separated firstEnabled secondEnabled same reference firstContains secondContains

/-- The items of a batch that collected these rows. -/
def itemsOf (rows : List PricingCatalogItem) : List (PricingIdentity × ResolvedPrice) :=
  rows.map fun row => (row.identity, resolved row)

theorem lookup_itemsOf (rows : List PricingCatalogItem) (identity : PricingIdentity) :
    (itemsOf rows).lookup identity =
      (rows.find? fun row => row.identity = identity).map resolved := by
  induction rows with
  | nil => rfl
  | cons row rows inductionHypothesis =>
    rw [itemsOf, List.map_cons, ← itemsOf, List.lookup_cons, List.find?_cons]
    by_cases same : identity = row.identity
    · simp [same]
    · simpa [beq_false_of_ne same, Ne.symm same] using inductionHypothesis

/-- A provider's effective row of an identity is the effective row of the catalog. -/
theorem find?_providerRows (separate : catalog.Pairwise Separate) (identity : PricingIdentity)
    (reference : Instant) :
    effectiveRows catalog identity reference =
      ((providerRows catalog identity.provider reference).find?
        fun row => row.identity = identity).toList := by
  have narrowed : effectiveRows catalog identity reference =
      (providerRows catalog identity.provider reference).filter
        fun row => row.identity = identity := by
    rw [effectiveRows, providerRows, List.filter_filter]
    apply List.filter_congr
    intro row _
    by_cases same : row.identity = identity
    · have provider : row.provider = identity.provider := congrArg PricingIdentity.provider same
      simp [same, provider]
    · simp [same]
  cases found : (providerRows catalog identity.provider reference).find?
      fun row => row.identity = identity with
  | none =>
    rw [narrowed, List.filter_eq_nil_iff.mpr (List.find?_eq_none.mp found)]
    rfl
  | some row =>
    have sameIdentity : row.identity = identity := by simpa using List.find?_some found
    have member : row ∈ effectiveRows catalog identity reference := by
      rw [narrowed]
      exact List.mem_filter.mpr ⟨List.mem_of_find?_eq_some found, by simpa using sameIdentity⟩
    rw [effectiveRows_eq_singleton separate member]
    rfl

variable [CaseMapping]

/-- A batch over rows of different identities and the expected currency holds them
all. -/
theorem foldlM_addPrice (reference : Instant) {expectedCurrency : Option String}
    (rows : List PricingCatalogItem)
    (currency : ∀ row ∈ rows, ∀ expected ∈ expectedCurrency,
      row.currency = CaseMapping.upper (strip expected)) :
    ∀ earlier : List PricingCatalogItem,
      (earlier ++ rows).Pairwise (fun first second => first.identity ≠ second.identity) →
      rows.foldlM (addPrice reference expectedCurrency) (itemsOf earlier) =
        .ok (itemsOf (earlier ++ rows)) := by
  induction rows with
  | nil =>
    intro earlier _
    rw [List.append_nil]
    rfl
  | cons row rows inductionHypothesis =>
    intro earlier distinct
    have absent : (itemsOf earlier).lookup row.identity = none := by
      rw [lookup_itemsOf, Option.map_eq_none_iff, List.find?_eq_none]
      intro other member
      have different := (List.pairwise_append.mp distinct).2.2 other member row
        List.mem_cons_self
      simpa using different
    have accepted : validateCurrency (resolved row) expectedCurrency = .ok () := by
      cases expectedCurrency with
      | none => rfl
      | some expected =>
        have same := currency row List.mem_cons_self expected rfl
        simp [validateCurrency, resolved, same]
    have added : addPrice reference expectedCurrency (itemsOf earlier) row =
        .ok (itemsOf (earlier ++ [row])) := by
      have identity : (resolved row).identity = row.identity := rfl
      have appended : itemsOf (earlier ++ [row]) =
          itemsOf earlier ++ [(row.identity, resolved row)] := by
        rw [itemsOf, List.map_append]
        rfl
      simp [addPrice, identity, absent, accepted, appended, bind, Except.bind, pure, Except.pure]
    rw [List.foldlM_cons, added]
    have rest := inductionHypothesis
      (fun later member => currency later (List.mem_cons_of_mem _ member)) (earlier ++ [row])
      (by simpa using distinct)
    simpa [bind, Except.bind] using rest

/-- The batch of a provider succeeds and answers every identity of the provider as
the catalog does. -/
theorem snapshot_resolvePrice (separate : catalog.Pairwise Separate) (request : PriceRequest)
    (reference : Instant) {expectedCurrency : Option String}
    (currency : ∀ row ∈ catalog, row.provider = request.identity.provider →
      ∀ expected ∈ expectedCurrency, row.currency = CaseMapping.upper (strip expected)) :
    ∃ taken, snapshot catalog request.provider reference expectedCurrency = .ok taken ∧
      taken.referenceAt = reference ∧
      ∀ at_ : Option Instant, at_.getD reference = reference →
        taken.resolvePrice { request with at_ := at_ } =
          (priceAt catalog request reference).mapError SnapshotError.catalog := by
  have collected := foldlM_addPrice reference (providerRows catalog request.identity.provider
    reference) (fun row member => by
      obtain ⟨effective, provider⟩ := mem_providerRows.mp member
      exact currency row (mem_effectiveRows.mp effective).1 provider) []
    (providerRows_identities separate _ _)
  refine ⟨⟨request.identity.provider, reference,
    itemsOf (providerRows catalog request.identity.provider reference)⟩, ?_, rfl, ?_⟩
  · change (_ >>= _ : Except PricingCatalogError PricingSnapshot) = _
    rw [show CaseMapping.lower (strip request.provider) = request.identity.provider from rfl]
    have start : itemsOf [] = [] := rfl
    rw [← start, collected]
    rfl
  · intro at_ same
    rw [priceAt_eq, find?_providerRows separate, PricingSnapshot.resolvePrice]
    have identity : ({ request with at_ := at_ } : PriceRequest).identity = request.identity := rfl
    simp only [same, ne_eq, not_true_eq_false, ↓reduceIte, identity, lookup_itemsOf]
    cases (providerRows catalog request.identity.provider reference).find?
        fun row => row.identity = request.identity with
    | none => rfl
    | some row =>
      cases checked : validateCurrency (resolved row) request.expectedCurrency with
      | error mismatch => simp [checked, Except.map, Except.mapError]
      | ok passed => simp [checked, Except.map, Except.mapError]

end Batches

section Statuses

/-- `PricingStatus` -/
inductive PricingStatus where
  | active | inactive | future | expired | all
deriving DecidableEq, Repr

/-- `lifecycle_status` -/
def lifecycleStatus (item : PricingCatalogItem) (reference : Instant) : PricingStatus :=
  if !item.enabled then .inactive
  else if reference < item.effectiveFrom then .future
  else
    match item.effectiveUntil with
    | none => .active
    | some effectiveUntil => if effectiveUntil ≤ reference then .expired else .active

/-- The conditions that `list_items` adds for a status. -/
def statusFilter (status : PricingStatus) (reference : Instant) (item : PricingCatalogItem) :
    Bool :=
  match status with
  | .active =>
    item.enabled && decide (item.effectiveFrom ≤ reference) &&
      (item.effectiveUntil.isNone || item.effectiveUntil.any fun stop => decide (reference < stop))
  | .inactive => !item.enabled
  | .future => item.enabled && decide (reference < item.effectiveFrom)
  | .expired =>
    item.enabled && item.effectiveUntil.isSome &&
      item.effectiveUntil.any fun stop => decide (stop ≤ reference)
  | .all => true

/-- A row of the table has a nonempty interval, so the filters of the four statuses
are its lifecycle status read as a test. -/
theorem statusFilter_iff {item : PricingCatalogItem} (checked : item.interval.Nonempty)
    {status : PricingStatus} (named : status ≠ .all) (reference : Instant) :
    statusFilter status reference item = true ↔ lifecycleStatus item reference = status := by
  cases enabled : item.enabled with
  | false =>
    have inactive : lifecycleStatus item reference = .inactive := by
      simp [lifecycleStatus, enabled]
    rw [inactive]
    cases status <;> simp_all [statusFilter]
  | true =>
    by_cases begun : item.effectiveFrom ≤ reference
    · have begun' : ¬reference < item.effectiveFrom := not_lt.mpr begun
      cases ends : item.effectiveUntil with
      | none =>
        have active : lifecycleStatus item reference = .active := by
          simp [lifecycleStatus, enabled, begun', ends]
        rw [active]
        cases status <;> simp_all [statusFilter]
      | some stop =>
        by_cases ended : stop ≤ reference
        · have expired : lifecycleStatus item reference = .expired := by
            simp [lifecycleStatus, enabled, begun', ends, ended]
          have unopened : ¬reference < stop := not_lt.mpr ended
          rw [expired]
          cases status <;> simp_all [statusFilter]
        · have active : lifecycleStatus item reference = .active := by
            simp [lifecycleStatus, enabled, begun', ends, ended]
          have running : reference < stop := not_le.mp ended
          rw [active]
          cases status <;> simp [statusFilter, enabled, begun, begun', ends, ended, running]
            at named ⊢
    · have waiting : reference < item.effectiveFrom := not_le.mp begun
      have future : lifecycleStatus item reference = .future := by
        simp [lifecycleStatus, enabled, waiting]
      rw [future]
      cases ends : item.effectiveUntil with
      | none => cases status <;> simp_all [statusFilter]
      | some stop =>
        -- an interval that ended before it began would also count as expired
        have unended : ¬stop ≤ reference := not_le.mpr (waiting.trans (checked stop ends))
        cases status <;> simp [statusFilter, enabled, begun, waiting, ends, unended] at named ⊢

theorem lifecycleStatus_named (item : PricingCatalogItem) (reference : Instant) :
    lifecycleStatus item reference ≠ .all := by
  unfold lifecycleStatus
  split
  · decide
  · split
    · decide
    · split
      · decide
      · split <;> decide

variable [CaseMapping]

/-- The other filters of `list_items`: the provider of the service, the searched text
and the service of the request. -/
def requestFilter (provider q : String) (service : Option String) (item : PricingCatalogItem) :
    Bool :=
  let query := strip q
  let matching (column : String) : Bool :=
    contains (CaseMapping.lower column) (CaseMapping.lower query)
  decide (item.provider = provider) &&
    (decide (query = "") || matching item.sku || matching item.description ||
      matching item.service) &&
    (decide (strip (orEmpty service) = "") ||
      decide (item.service = CaseMapping.lower (strip (orEmpty service))))

/-- The rows that the filters of `list_items` select. -/
def selectedItems (catalog : Catalog) (provider q : String) (service : Option String)
    (status : PricingStatus) (reference : Instant) : List PricingCatalogItem :=
  catalog.filter fun item =>
    requestFilter provider q service item && statusFilter status reference item

/-- The list of a status selects the rows of the full list with that status. -/
theorem mem_selectedItems {catalog : Catalog} (checked : ∀ item ∈ catalog, item.interval.Nonempty)
    {status : PricingStatus} (named : status ≠ .all) {provider q : String}
    {service : Option String} {reference : Instant} {item : PricingCatalogItem} :
    item ∈ selectedItems catalog provider q service status reference ↔
      item ∈ selectedItems catalog provider q service .all reference ∧
        lifecycleStatus item reference = status := by
  simp only [selectedItems, List.mem_filter, Bool.and_eq_true]
  constructor
  · rintro ⟨member, requested, filtered⟩
    exact ⟨⟨member, requested, rfl⟩,
      (statusFilter_iff (checked item member) named reference).mp filtered⟩
  · rintro ⟨⟨member, requested, -⟩, same⟩
    exact ⟨member, requested, (statusFilter_iff (checked item member) named reference).mpr same⟩

end Statuses

/-- On a catalog of table rows without overlaps, a batch answers each identity of its
provider as a single resolution does, whatever calls have filled either resolver's
cache; and each row passes the status filter that its lifecycle status names, and no
other. -/
theorem pricing_readings_agree [CaseMapping] {catalog : Catalog}
    (separate : catalog.Pairwise Separate) (checked : ∀ item ∈ catalog, item.interval.Nonempty) :
    (∀ (now : Instant) (referenceAt : Option Timestamp) (earlier others : List Call)
      (request : PriceRequest) (at_ : Option Timestamp) (expectedCurrency : Option String),
      (∀ row ∈ catalog, row.provider = request.identity.provider →
        ∀ expected ∈ expectedCurrency, row.currency = CaseMapping.upper (strip expected)) →
      ∃ taken,
        (takeSnapshot (afterCalls catalog (newResolver now referenceAt) earlier) catalog
          request.provider at_ expectedCurrency).1 = .ok taken ∧
        taken.resolvePrice (requestAt request at_) =
          ((afterCalls catalog (newResolver now referenceAt) others).resolvePrice catalog
            (requestAt request at_)).1.mapError SnapshotError.catalog) ∧
    (∀ (provider q : String) (service : Option String) (reference : Instant),
      ∀ item ∈ selectedItems catalog provider q service .all reference, ∀ status,
        (status ≠ .all ∧ item ∈ selectedItems catalog provider q service status reference) ↔
          status = lifecycleStatus item reference) := by
  constructor
  · intro now referenceAt earlier others request at_ expectedCurrency currency
    have empty : Faithful catalog (newResolver now referenceAt) :=
      fun _ member => absurd member List.not_mem_nil
    obtain ⟨-, earlierReference⟩ := faithful_afterCalls separate earlier _ empty
    obtain ⟨faithful, othersReference⟩ := faithful_afterCalls separate others _ empty
    have same : referenceOf (afterCalls catalog (newResolver now referenceAt) earlier) at_ =
        referenceOf (afterCalls catalog (newResolver now referenceAt) others) at_ := by
      rw [referenceOf, referenceOf, earlierReference, othersReference]
    rw [resolvePrice_of_faithful faithful, takeSnapshot_fst, same]
    obtain ⟨taken, took, -, answers⟩ := snapshot_resolvePrice separate request
      (referenceOf (afterCalls catalog (newResolver now referenceAt) others) at_) currency
    refine ⟨taken, took, answers _ ?_⟩
    cases at_ <;> rfl
  · intro provider q service reference item member status
    constructor
    · rintro ⟨named, selected⟩
      exact ((mem_selectedItems checked named).mp selected).2.symm
    · rintro rfl
      have named := lifecycleStatus_named item reference
      exact ⟨named, (mem_selectedItems checked named).mpr ⟨member, rfl⟩⟩

section Sample

attribute [local instance] asciiCase

/-- A price of a provider that ends, or does not, at an instant. -/
def samplePrice (id : String) (start : Instant) (stop : Option Instant) : PricingCatalogItem where
  id := id
  provider := "oci"
  service := "block_volume"
  sku := "B91961"
  description := "Storage"
  unit := "GB_MONTH"
  price := 1 / 8
  currency := "BRL"
  effectiveFrom := start
  effectiveUntil := stop
  enabled := true
  source := "IMPORTED_OCI_CALCULATOR"

/-- A price and its successor. -/
def sampleCatalog : Catalog := [samplePrice "p1" 0 (some 10), samplePrice "p2" 10 none]

def sampleRequest : PriceRequest where
  provider := " OCI "
  service := "Block_Volume"
  sku := "B91961"
  unit := "gb_month"
  at_ := none
  expectedCurrency := some "brl"

/-- At the instant of the succession, a batch of a fresh resolver against a resolver
that has answered for that instant in another offset. -/
theorem sample_readings_agree :
    (∃ taken,
      (takeSnapshot (newResolver 3 none) sampleCatalog " OCI " (some ⟨10, none⟩)
        (some "brl")).1 = .ok taken ∧
      taken.resolvePrice (requestAt sampleRequest (some ⟨10, none⟩)) =
        ((afterCalls sampleCatalog (newResolver 3 none)
          [.resolvePrice sampleRequest (some ⟨12, some 2⟩)]).resolvePrice sampleCatalog
            (requestAt sampleRequest (some ⟨10, none⟩))).1.mapError SnapshotError.catalog) ∧
    samplePrice "p1" 0 (some 10) ∈
      selectedItems sampleCatalog "oci" "storage" none .expired 10 := by
  have separate : sampleCatalog.Pairwise Separate := by
    simp only [sampleCatalog, List.pairwise_cons, List.mem_singleton, forall_eq,
      List.not_mem_nil, false_implies, implies_true, List.Pairwise.nil, and_true]
    intro _ _ _ instant first second
    have ended : instant < 10 := first.2 10 rfl
    have begun : 10 ≤ instant := second.1
    exact absurd begun (not_le.mpr ended)
  have checked : ∀ item ∈ sampleCatalog, item.interval.Nonempty := by
    intro item member stop ends
    simp only [sampleCatalog, List.mem_cons, List.not_mem_nil, or_false] at member
    rcases member with rfl | rfl
    · obtain rfl := Option.some.inj ends
      decide
    · exact nomatch ends
  obtain ⟨batches, statuses⟩ := pricing_readings_agree separate checked
  constructor
  · apply batches 3 none [] _ sampleRequest (some ⟨10, none⟩) (some "brl")
    decide +kernel
  · exact ((statuses "oci" "storage" none 10 _ (by decide +kernel) .expired).mpr
      (by decide +kernel)).2

end Sample

end FinopsAnalytics.PricingSnapshots
