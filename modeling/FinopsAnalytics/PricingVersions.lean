import FinopsAnalytics.PricingAdmin
import Mathlib.Data.List.Nodup
import Mathlib.Data.List.Pairwise

/-!
# Versions of a price never overlap

Every operation either leaves the catalog, narrows rows in place, inserts a row
that no enabled row of its identity meets, or splits an enabled row at a
transition inside it. Each of these keeps the enabled intervals of an identity
apart, so no resolution is ambiguous in any catalog that operations build.
-/

namespace FinopsAnalytics.PricingVersions

open PythonText HalfOpenIntervals PricingCatalog PricingAdmin

/-- Two enabled rows of one identity are never effective together. -/
def Separate (first second : PricingCatalogItem) : Prop :=
  first.enabled = true → second.enabled = true → first.identity = second.identity →
    ∀ instant, first.interval.Contains instant → ¬second.interval.Contains instant

theorem Separate.symm {first second : PricingCatalogItem} (separate : Separate first second) :
    Separate second first :=
  fun left right same instant contained other =>
    separate right left same.symm instant other contained

instance : Std.Symm Separate := ⟨fun _ _ => Separate.symm⟩

/-- Ids are unique and the enabled rows of an identity are apart. -/
structure Coherent (catalog : Catalog) : Prop where
  distinctIds : (catalog.map (·.id)).Nodup
  separate : catalog.Pairwise Separate

/-- The rewritten row keeps its id and identity and is effective at most where
the row was. -/
structure Narrows (row rewritten : PricingCatalogItem) : Prop where
  id : rewritten.id = row.id
  identity : rewritten.identity = row.identity
  enabled : rewritten.enabled = true → row.enabled = true
  contains : ∀ instant, rewritten.interval.Contains instant → row.interval.Contains instant

theorem Narrows.refl (row : PricingCatalogItem) : Narrows row row :=
  ⟨rfl, rfl, fun enabled => enabled, fun _ contained => contained⟩

/-- Narrowing on both sides keeps rows apart. -/
theorem Separate.narrows {first second left right : PricingCatalogItem}
    (separate : Separate first second) (narrowsFirst : Narrows first left)
    (narrowsSecond : Narrows second right) : Separate left right := by
  intro leftEnabled rightEnabled same instant contained other
  have identity : first.identity = second.identity := by
    rw [← narrowsFirst.identity, ← narrowsSecond.identity, same]
  exact separate (narrowsFirst.enabled leftEnabled) (narrowsSecond.enabled rightEnabled) identity
    instant (narrowsFirst.contains instant contained) (narrowsSecond.contains instant other)

variable {catalog : Catalog}

/-- Rewriting the rows of one id touches no other row. -/
theorem writeItem_narrows {itemId : String} {write : PricingCatalogItem → PricingCatalogItem}
    (narrows : ∀ row ∈ catalog, row.id = itemId → Narrows row (write row)) :
    ∀ row ∈ catalog, Narrows row (if row.id = itemId then write row else row) := by
  intro row member
  by_cases same : row.id = itemId
  · rw [if_pos same]
    exact narrows row member same
  · rw [if_neg same]
    exact Narrows.refl row

theorem Coherent.rewrite (coherent : Coherent catalog) {itemId : String}
    {write : PricingCatalogItem → PricingCatalogItem}
    (narrows : ∀ row ∈ catalog, row.id = itemId → Narrows row (write row)) :
    Coherent (writeItem catalog itemId write) := by
  have rewritten := writeItem_narrows narrows
  constructor
  · have kept : (writeItem catalog itemId write).map (·.id) = catalog.map (·.id) := by
      rw [writeItem, List.map_map]
      exact List.map_congr_left fun row member => (rewritten row member).id
    rw [kept]
    exact coherent.distinctIds
  · rw [writeItem, List.pairwise_map]
    exact coherent.separate.imp_of_mem fun firstMember secondMember separate =>
      separate.narrows (rewritten _ firstMember) (rewritten _ secondMember)

theorem Coherent.concat (coherent : Coherent catalog) {item : PricingCatalogItem}
    (fresh : item.id ∉ catalog.map (·.id)) (apart : ∀ row ∈ catalog, Separate row item) :
    Coherent (catalog ++ [item]) := by
  constructor
  · rw [List.map_append, List.nodup_append]
    refine ⟨coherent.distinctIds, by simp, ?_⟩
    rintro first firstMember second secondMember rfl
    obtain rfl : first = item.id := List.mem_singleton.mp secondMember
    exact fresh firstMember
  · rw [List.pairwise_append]
    refine ⟨coherent.separate, List.pairwise_singleton _ _, ?_⟩
    intro row member last lastMember
    rw [List.mem_singleton.mp lastMember]
    exact apart row member

/-- Rows with one id are one row. -/
theorem Coherent.eq_of_id (coherent : Coherent catalog) {first second : PricingCatalogItem}
    (firstMember : first ∈ catalog) (secondMember : second ∈ catalog) (same : first.id = second.id) :
    first = second :=
  List.inj_on_of_nodup_map coherent.distinctIds firstMember secondMember same

/-- A coherent catalog has at most one effective row for an identity. -/
theorem Coherent.effectiveRows_length (coherent : Coherent catalog) (identity : PricingIdentity)
    (instant : Instant) :
    (effectiveRows catalog identity instant).length ≤ 1 := by
  have apart : (effectiveRows catalog identity instant).Pairwise Separate :=
    coherent.separate.sublist List.filter_sublist
  cases rows : effectiveRows catalog identity instant with
  | nil => simp
  | cons first rest =>
    cases rest with
    | nil => simp
    | cons second others =>
      have firstMember := mem_effectiveRows.mp
        (rows ▸ List.mem_cons_self : first ∈ effectiveRows catalog identity instant)
      have secondMember := mem_effectiveRows.mp
        (rows ▸ List.mem_cons_of_mem _ List.mem_cons_self :
          second ∈ effectiveRows catalog identity instant)
      rw [rows] at apart
      have separate : Separate first second :=
        (List.pairwise_cons.mp apart).1 second List.mem_cons_self
      exact absurd secondMember.2.2.1
        (separate firstMember.2.1 secondMember.2.1
          (firstMember.2.2.2.trans secondMember.2.2.2.symm) instant firstMember.2.2.1)

/-- A passed overlap check found no covering row. -/
theorem ensureNoOverlap_ok {identity : PricingIdentity} {start : Instant} {stop : Option Instant}
    {excludeIds : List String} {passed : Unit}
    (checked : ensureNoOverlap catalog identity start stop excludeIds = .ok passed) :
    ∀ row ∈ catalog, covers identity start stop excludeIds row ≠ true := by
  intro row member covered
  rw [ensureNoOverlap, if_pos (List.any_eq_true.mpr ⟨row, member, covered⟩)] at checked
  exact absurd checked (by simp)

/-- An enabled row that an insert's filter passes over shares no instant with
it. -/
theorem separate_of_uncovered {row item : PricingCatalogItem}
    (uncovered : item.enabled = true →
      covers item.identity item.effectiveFrom item.effectiveUntil [] row ≠ true) :
    Separate row item := by
  intro rowEnabled enabled same instant contained other
  exact uncovered enabled (covers_iff.mpr
    ⟨same, rowEnabled, Interval.meets_of_common contained other, List.not_mem_nil⟩)

/-- Ending a row at a transition keeps the part of its interval before it. -/
theorem interval_before (row : PricingCatalogItem) (transition : Instant) :
    ({ row with effectiveUntil := some transition } : PricingCatalogItem).interval =
      row.interval.before transition := rfl

section Effects

variable [CaseMapping]

/-- What an operation can do to a catalog. -/
inductive Effect (catalog : Catalog) : Outcome → Prop where
  /-- An operation that raises leaves the catalog. -/
  | refused (error : PricingAdminError) : Effect catalog (.error error, catalog)
  | unchanged (item : PricingCatalogItem) : Effect catalog (.ok item, catalog)
  | narrowed (item : PricingCatalogItem) (itemId : String)
      (write : PricingCatalogItem → PricingCatalogItem)
      (narrows : ∀ row, Narrows row (write row)) :
      Effect catalog (.ok item, writeItem catalog itemId write)
  | inserted (item : PricingCatalogItem) (fresh : item.id ∉ catalog.map (·.id))
      (unopposed : item.enabled = true →
        ∀ row ∈ catalog, covers item.identity item.effectiveFrom item.effectiveUntil [] row ≠ true) :
      Effect catalog (.ok item, catalog ++ [item])
  | versioned (item next : PricingCatalogItem) (transition : Instant) (member : item ∈ catalog)
      (started : item.effectiveFrom < transition)
      (unended : ∀ stop ∈ item.effectiveUntil, transition < stop)
      (enabled : item.enabled = true) (fresh : next.id ∉ catalog.map (·.id))
      (identity : next.identity = item.identity)
      (interval : next.interval = item.interval.after transition) :
      Effect catalog (.ok next,
        writeItem catalog item.id (fun row => { row with effectiveUntil := some transition }) ++
          [next])

/-- A successful flush appends the row under an id that no row has. -/
theorem flushInsert_cases (begun pending : Catalog) (item : PricingCatalogItem) :
    flushInsert begun pending item = (.error .integrityError, begun) ∨
      flushInsert begun pending item = (.ok item, pending ++ [item]) ∧
        item.id ∉ pending.map (·.id) := by
  unfold flushInsert
  split
  · exact .inl rfl
  · rename_i accepted
    refine .inr ⟨rfl, ?_⟩
    intro member
    obtain ⟨other, otherMember, same⟩ := List.mem_map.mp member
    apply accepted
    simp only [violatesConstraint, Bool.or_eq_true, List.any_eq_true]
    exact .inr ⟨other, otherMember, by simp [same]⟩

theorem createItem_effect (provider : String) (request : PricingCreate) (newId : String)
    (catalog : Catalog) : Effect catalog (createItem provider request newId catalog) := by
  simp only [createItem]
  split
  · exact .refused _
  · split
    · exact .refused _
    · rename_i checked
      rcases flushInsert_cases catalog catalog _ with raised | ⟨inserted, fresh⟩
      · rw [raised]
        exact .refused _
      · rw [inserted]
        refine .inserted _ fresh fun enabled => ?_
        rw [if_pos enabled] at checked
        exact ensureNoOverlap_ok checked

omit [CaseMapping] in
theorem updateDescription_effect (item : PricingCatalogItem) (changes : PricingUpdate)
    (catalog : Catalog) : Effect catalog (updateDescription item changes catalog) := by
  simp only [updateDescription]
  split
  · exact .refused _
  split
  · exact .refused _
  split
  · exact .refused _
  split
  · exact .refused _
  · exact .narrowed _ _ _ fun row => { Narrows.refl row with }

/-- A successful price update splits the item at the transition. -/
theorem updatePrice_cases (item : PricingCatalogItem) (price : ℚ) (changes : PricingUpdate)
    (now : Instant) (newId : String) (catalog : Catalog) :
    let transition := changes.effectiveFrom.getD now
    let next := nextVersion item price changes transition newId
    (∃ error, updatePrice item price changes now newId catalog = (.error error, catalog)) ∨
      item.enabled = true ∧ item.effectiveFrom < transition ∧
        (∀ stop ∈ item.effectiveUntil, transition < stop) ∧
        newId ∉ catalog.map (·.id) ∧
        updatePrice item price changes now newId catalog = (.ok next,
          writeItem catalog item.id (fun row => { row with effectiveUntil := some transition }) ++
            [next]) := by
  simp only [updatePrice]
  split
  · exact .inl ⟨_, rfl⟩
  split
  · exact .inl ⟨_, rfl⟩
  split
  · exact .inl ⟨_, rfl⟩
  split
  · exact .inl ⟨_, rfl⟩
  split
  · exact .inl ⟨_, rfl⟩
  split
  · exact .inl ⟨_, rfl⟩
  rename_i enabled started unended _ _ _ _
  rcases flushInsert_cases catalog
    (writeItem catalog item.id fun row =>
      { row with effectiveUntil := some (changes.effectiveFrom.getD now) })
    (nextVersion item price changes (changes.effectiveFrom.getD now) newId)
    with raised | ⟨inserted, fresh⟩
  · exact .inl ⟨_, raised⟩
  · refine .inr ⟨by simpa using enabled, not_le.mp started, ?_, ?_, inserted⟩
    · intro stop ends
      exact not_le.mp fun reached => unended ⟨stop, ends, reached⟩
    · have kept : (writeItem catalog item.id fun row =>
          { row with effectiveUntil := some (changes.effectiveFrom.getD now) }).map (·.id) =
          catalog.map (·.id) := by
        rw [writeItem, List.map_map]
        refine List.map_congr_left fun row _ => ?_
        by_cases same : row.id = item.id <;> simp [same]
      exact kept ▸ fresh

variable {catalog : Catalog}

omit [CaseMapping] in
theorem getItem_some {provider itemId : String} {item : PricingCatalogItem}
    (found : getItem catalog provider itemId = some item) : item ∈ catalog ∧ item.id = itemId := by
  have accepted := List.find?_some found
  exact ⟨List.mem_of_find?_eq_some found, by simpa using (Bool.and_eq_true_iff.mp accepted).1⟩

theorem updateItem_effect (provider itemId : String) (changes : PricingUpdate) (now : Instant)
    (newId : String) (catalog : Catalog) :
    Effect catalog (updateItem provider itemId changes now newId catalog) := by
  simp only [updateItem]
  split
  · exact .refused _
  · rename_i item found
    split
    · exact updateDescription_effect item changes catalog
    · rename_i price _
      rcases updatePrice_cases item price changes now newId catalog with
        ⟨error, raised⟩ | ⟨enabled, started, unended, fresh, split⟩
      · rw [raised]
        exact .refused error
      · rw [split]
        exact .versioned item _ _ (getItem_some found).1 started unended enabled fresh rfl rfl

theorem deactivate_effect (provider itemId : String) (catalog : Catalog) :
    Effect catalog (deactivate provider itemId catalog) := by
  simp only [deactivate]
  split
  · exact .refused _
  · split
    · exact .unchanged _
    · exact .narrowed _ _ _ fun row => ⟨rfl, rfl, fun enabled => absurd enabled (by simp),
        fun _ contained => contained⟩

theorem apply_effect (operation : Operation) (catalog : Catalog) :
    Effect catalog (operation.apply catalog) := by
  cases operation with
  | create provider request newId => exact createItem_effect provider request newId catalog
  | update provider itemId changes now newId =>
    exact updateItem_effect provider itemId changes now newId catalog
  | deactivate provider itemId => exact deactivate_effect provider itemId catalog

omit [CaseMapping] in
/-- Splitting an enabled row keeps rows apart: the old part ends where the new
one starts, and both stay inside the row that was split. -/
theorem Coherent.version (coherent : Coherent catalog) {item next : PricingCatalogItem}
    {transition : Instant} (member : item ∈ catalog) (started : item.effectiveFrom < transition)
    (unended : ∀ stop ∈ item.effectiveUntil, transition < stop) (enabled : item.enabled = true)
    (fresh : next.id ∉ catalog.map (·.id)) (identity : next.identity = item.identity)
    (interval : next.interval = item.interval.after transition) :
    Coherent (writeItem catalog item.id
      (fun row => { row with effectiveUntil := some transition }) ++ [next]) := by
  have shortens (row : PricingCatalogItem) (rowMember : row ∈ catalog) (same : row.id = item.id) :
      Narrows row { row with effectiveUntil := some transition } := by
    obtain rfl := coherent.eq_of_id rowMember member same
    refine ⟨rfl, rfl, fun enabled => enabled, fun instant contained => ?_⟩
    rw [interval_before] at contained
    exact ((Interval.before_contains unended).mp contained).1
  have inside {instant : Instant} (contained : next.interval.Contains instant) :
      item.interval.Contains instant ∧ transition ≤ instant := by
    rw [interval] at contained
    exact (Interval.after_contains started.le).mp contained
  have rewritten := writeItem_narrows shortens
  refine (coherent.rewrite shortens).concat ?_ ?_
  · have kept : (writeItem catalog item.id
        fun row => { row with effectiveUntil := some transition }).map (·.id) =
        catalog.map (·.id) := by
      rw [writeItem, List.map_map]
      exact List.map_congr_left fun row rowMember => (rewritten row rowMember).id
    exact kept ▸ fresh
  · intro changed changedMember
    obtain ⟨row, rowMember, rfl⟩ := List.mem_map.mp changedMember
    by_cases same : row.id = item.id
    · -- the split row itself: its old part ends at the transition
      rw [if_pos same]
      intro _ _ _ instant contained other
      obtain rfl := coherent.eq_of_id rowMember member same
      rw [interval_before] at contained
      exact absurd ((Interval.before_contains unended).mp contained).2
        (not_lt.mpr (inside other).2)
    · -- another row: the new part lies inside the split row
      rw [if_neg same]
      intro rowEnabled _ sameIdentity instant contained other
      have separate : Separate row item := coherent.separate.forall
        rowMember member fun equal => same (congrArg PricingCatalogItem.id equal)
      exact separate rowEnabled enabled (sameIdentity.trans identity) instant contained
        (inside other).1

omit [CaseMapping] in
/-- Every effect keeps the catalog coherent. -/
theorem Effect.coherent {outcome : Outcome} (effect : Effect catalog outcome)
    (coherent : Coherent catalog) : Coherent outcome.2 := by
  cases effect with
  | refused error => exact coherent
  | unchanged item => exact coherent
  | narrowed item itemId write narrows => exact coherent.rewrite fun row _ _ => narrows row
  | inserted item fresh unopposed =>
    exact coherent.concat fresh fun row member =>
      separate_of_uncovered fun enabled => unopposed enabled row member
  | versioned item next transition member started unended enabled fresh identity interval =>
    exact coherent.version member started unended enabled fresh identity interval

omit [CaseMapping] in
/-- An effect that raises leaves the catalog. -/
theorem Effect.refused_eq {catalog after : Catalog} {error : PricingAdminError}
    (effect : Effect catalog (.error error, after)) : after = catalog := by
  cases effect with
  | refused => rfl

/-- Every catalog that operations build is coherent. -/
theorem catalogAfter_coherent (operations : List Operation) :
    Coherent (catalogAfter operations) := by
  have kept (catalog : Catalog) (coherent : Coherent catalog) : Coherent
      (operations.foldl (fun catalog operation => (operation.apply catalog).2) catalog) := by
    induction operations generalizing catalog with
    | nil => exact coherent
    | cons operation rest inductionHypothesis =>
      exact inductionHypothesis _ ((apply_effect operation catalog).coherent coherent)
  exact kept [] ⟨List.nodup_nil, List.Pairwise.nil⟩

end Effects

section Prices

/-- What a caller reads of a resolved price: which row, how much and in which
currency. -/
def quoted (price : ResolvedPrice) : String × ℚ × String := (price.id, price.amount, price.currency)

theorem effectiveRows_append (left right : Catalog) (identity : PricingIdentity)
    (instant : Instant) : effectiveRows (left ++ right) identity instant =
      effectiveRows left identity instant ++ effectiveRows right identity instant :=
  List.filter_append ..

/-- A member of a list of at most one row is the list. -/
theorem eq_singleton_of_length {α : Type} {rows : List α} {row : α} (short : rows.length ≤ 1)
    (member : row ∈ rows) : rows = [row] := by
  match rows, short with
  | [only], _ => rw [List.mem_singleton.mp member]

/-- Rewriting rows without changing which of them are effective rewrites the
effective rows. -/
theorem effectiveRows_map {catalog : Catalog} {identity : PricingIdentity} {instant : Instant}
    {write : PricingCatalogItem → PricingCatalogItem}
    (kept : ∀ row ∈ catalog, (write row).enabled = row.enabled ∧
      (write row).identity = row.identity ∧
      (row.identity = identity →
        ((write row).interval.Contains instant ↔ row.interval.Contains instant))) :
    effectiveRows (catalog.map write) identity instant =
      (effectiveRows catalog identity instant).map write := by
  rw [effectiveRows, List.filter_map, effectiveRows]
  congr 1
  apply List.filter_congr
  intro row member
  obtain ⟨enabled, same, contains⟩ := kept row member
  rw [Function.comp_apply, Bool.eq_iff_iff, Bool.and_eq_true, Bool.and_eq_true, isEffective_iff,
    isEffective_iff, enabled, same, decide_eq_true_eq]
  constructor
  · rintro ⟨⟨on, covered⟩, named⟩
    exact ⟨⟨on, (contains named).mp covered⟩, named⟩
  · rintro ⟨⟨on, covered⟩, named⟩
    exact ⟨⟨on, (contains named).mpr covered⟩, named⟩

variable [CaseMapping]

/-- Rewriting only the ends of the effective rows keeps the quotation. -/
theorem quoted_of_rewritten {before after : Catalog} {request : PriceRequest} {instant : Instant}
    (write : PricingCatalogItem → PricingCatalogItem)
    (rows : effectiveRows after request.identity instant =
      (effectiveRows before request.identity instant).map write)
    (kept : ∀ row, ∃ effectiveUntil, write row = { row with effectiveUntil := effectiveUntil }) :
    (priceAt after request instant).map quoted = (priceAt before request instant).map quoted := by
  rw [priceAt_eq, priceAt_eq, rows]
  cases effectiveRows before request.identity instant with
  | nil => rfl
  | cons item rest =>
    cases rest with
    | cons second others => rfl
    | nil =>
      obtain ⟨effectiveUntil, written⟩ := kept item
      have sameCurrency : validateCurrency (resolved (write item)) request.expectedCurrency =
          validateCurrency (resolved item) request.expectedCurrency := by
        rw [written]
        cases request.expectedCurrency <;> rfl
      simp only [List.map_singleton, sameCurrency]
      cases validateCurrency (resolved item) request.expectedCurrency with
      | error mismatch => rfl
      | ok passed => rw [written]; rfl

variable {catalog : Catalog}

/-- The only effective row decides the quotation. -/
theorem priceAt_of_rows {request : PriceRequest} {instant : Instant} {item : PricingCatalogItem}
    (rows : effectiveRows catalog request.identity instant = [item]) :
    priceAt catalog request instant =
      (validateCurrency (resolved item) request.expectedCurrency).map fun _ => resolved item := by
  rw [priceAt_eq, rows]

/-- The laws of a versioning update at a coherent catalog: the new version is
quoted from the transition to the end of the version it splits, and every other
quotation stays. -/
structure Versions (catalog after : Catalog) (item next : PricingCatalogItem)
    (transition : Instant) : Prop where
  earlier : ∀ request : PriceRequest, ∀ instant, instant < transition →
    (priceAt after request instant).map quoted = (priceAt catalog request instant).map quoted
  replaced : ∀ request : PriceRequest, ∀ instant, request.identity = item.identity →
    transition ≤ instant → (∀ stop ∈ item.effectiveUntil, instant < stop) →
    priceAt after request instant =
      (validateCurrency (resolved next) request.expectedCurrency).map fun _ => resolved next
  ended : ∀ request : PriceRequest, ∀ instant, (∃ stop ∈ item.effectiveUntil, stop ≤ instant) →
    (priceAt after request instant).map quoted = (priceAt catalog request instant).map quoted
  others : ∀ request : PriceRequest, ∀ instant, request.identity ≠ item.identity →
    (priceAt after request instant).map quoted = (priceAt catalog request instant).map quoted

/-- Splitting an enabled row of a coherent catalog obeys the laws of versions. -/
theorem Coherent.versions (coherent : Coherent catalog) {item next : PricingCatalogItem}
    {transition : Instant} (member : item ∈ catalog) (started : item.effectiveFrom < transition)
    (unended : ∀ stop ∈ item.effectiveUntil, transition < stop) (enabled : item.enabled = true)
    (nextEnabled : next.enabled = true) (fresh : next.id ∉ catalog.map (·.id))
    (identity : next.identity = item.identity)
    (interval : next.interval = item.interval.after transition) :
    Versions catalog (writeItem catalog item.id
      (fun row => { row with effectiveUntil := some transition }) ++ [next])
      item next transition := by
  have inside {instant : Instant} :
      next.interval.Contains instant ↔ item.interval.Contains instant ∧ transition ≤ instant := by
    rw [interval]
    exact Interval.after_contains started.le
  -- where the new row is silent and the old row not yet ended, nothing changes
  have untouched (request : PriceRequest) (instant : Instant)
      (silent : next.interval.Contains instant → next.identity ≠ request.identity)
      (running : item.identity = request.identity → item.interval.Contains instant →
        instant < transition) :
      (priceAt (writeItem catalog item.id
        (fun row => { row with effectiveUntil := some transition }) ++ [next]) request instant).map
        quoted = (priceAt catalog request instant).map quoted := by
    refine quoted_of_rewritten (fun row => if row.id = item.id then
      { row with effectiveUntil := some transition } else row)
      (Eq.trans ?_ (effectiveRows_map fun row rowMember => ?_)) ?_
    · have absent : effectiveRows [next] request.identity instant = [] := by
        rw [List.eq_nil_iff_forall_not_mem]
        intro row rowMember
        obtain ⟨single, _, contained, named⟩ := mem_effectiveRows.mp rowMember
        obtain rfl := List.mem_singleton.mp single
        exact silent contained named
      rw [effectiveRows_append, absent, List.append_nil, writeItem]
    · by_cases same : row.id = item.id
      · obtain rfl := coherent.eq_of_id rowMember member same
        rw [if_pos rfl]
        refine ⟨rfl, rfl, fun named => ?_⟩
        rw [interval_before, Interval.before_contains unended]
        exact ⟨fun contained => contained.1, fun contained => ⟨contained, running named contained⟩⟩
      · simp [same]
    · intro row
      by_cases same : row.id = item.id
      · exact ⟨some transition, by simp [same]⟩
      · exact ⟨row.effectiveUntil, by simp [same]⟩
  constructor
  · intro request instant early
    exact untouched request instant
      (fun contained => absurd early (not_lt.mpr (inside.mp contained).2)) fun _ _ => early
  · intro request instant named late running
    have contained : next.interval.Contains instant :=
      inside.mpr ⟨⟨started.le.trans late, running⟩, late⟩
    apply priceAt_of_rows
    have split := coherent.version member started unended enabled fresh identity interval
    have selected : next ∈ effectiveRows (writeItem catalog item.id
        (fun row => { row with effectiveUntil := some transition }) ++ [next])
        request.identity instant :=
      mem_effectiveRows.mpr ⟨by simp, nextEnabled, contained, identity.trans named.symm⟩
    exact eq_singleton_of_length (split.effectiveRows_length request.identity instant) selected
  · rintro request instant ⟨stop, ends, passed⟩
    have expired : ¬item.interval.Contains instant :=
      fun contained => absurd (contained.2 stop ends) (not_lt.mpr passed)
    exact untouched request instant (fun contained => absurd (inside.mp contained).1 expired)
      fun _ contained => absurd contained expired
  · intro request instant different
    exact untouched request instant (fun _ named => different (named.symm.trans identity))
      fun named => absurd named.symm different

/-- A price update that succeeds obeys the laws of versions at its transition. -/
theorem updateItem_versions (coherent : Coherent catalog) {provider itemId newId : String}
    {changes : PricingUpdate} {price : ℚ} {now : Instant} {next : PricingCatalogItem}
    (priced : changes.price = some price)
    (succeeded : (updateItem provider itemId changes now newId catalog).1 = .ok next) :
    next.price = price ∧ ∃ item ∈ catalog, item.id = itemId ∧
      Versions catalog (updateItem provider itemId changes now newId catalog).2 item next
        (changes.effectiveFrom.getD now) := by
  cases found : getItem catalog (CaseMapping.lower (strip provider)) itemId with
  | none => simp [updateItem, found] at succeeded
  | some item =>
    have update : updateItem provider itemId changes now newId catalog =
        updatePrice item price changes now newId catalog := by simp [updateItem, found, priced]
    rw [update] at succeeded ⊢
    obtain ⟨member, sameId⟩ := getItem_some found
    rcases updatePrice_cases item price changes now newId catalog with
      ⟨error, raised⟩ | ⟨enabled, started, unended, fresh, split⟩
    · simp [raised] at succeeded
    · rw [split] at succeeded ⊢
      obtain rfl := Except.ok.inj succeeded
      exact ⟨rfl, item, member, sameId,
        coherent.versions member started unended enabled rfl fresh rfl rfl⟩

/-- The laws of every catalog that operations build: enabled intervals of an
identity are apart, no resolution with any cache is ambiguous, an operation that
raises changes nothing, and a price update versions the item. -/
theorem catalogAfter_laws (operations : List Operation) :
    let catalog := catalogAfter operations
    catalog.Pairwise Separate ∧
      (∀ identity instant, (effectiveRows catalog identity instant).length ≤ 1) ∧
      (∀ (resolver : PricingResolver) (request : PriceRequest) (identity : PricingIdentity)
        (reference : Instant), (resolver.resolvePrice catalog request).1 ≠
          .error (.pricingAmbiguity identity reference)) ∧
      (∀ (operation : Operation) (error : PricingAdminError),
        (operation.apply catalog).1 = .error error → (operation.apply catalog).2 = catalog) ∧
      ∀ (provider itemId : String) (changes : PricingUpdate) (price : ℚ) (now : Instant)
        (newId : String) (next : PricingCatalogItem), changes.price = some price →
        (updateItem provider itemId changes now newId catalog).1 = .ok next →
        next.price = price ∧ ∃ item ∈ catalog, item.id = itemId ∧
          Versions catalog (updateItem provider itemId changes now newId catalog).2 item next
            (changes.effectiveFrom.getD now) := by
  have coherent := catalogAfter_coherent operations
  refine ⟨coherent.separate, coherent.effectiveRows_length, ?_, ?_, ?_⟩
  · intro resolver request identity reference
    exact resolvePrice_unambiguous resolver
      (coherent.effectiveRows_length request.identity (request.at_.getD resolver.referenceAt))
      identity reference
  · intro operation error raised
    cases result : operation.apply (catalogAfter operations) with
    | mk outcome after =>
      have effect := apply_effect operation (catalogAfter operations)
      rw [result] at effect raised
      obtain rfl : outcome = .error error := raised
      exact effect.refused_eq
  · intro provider itemId changes price now newId next priced succeeded
    exact updateItem_versions coherent priced succeeded

end Prices

section Small

attribute [local instance] asciiCase

/-- One price, effective from 0 to 10. -/
def boundedPrice : PricingCreate :=
  { service := "compute"
    sku := "B1"
    description := "core"
    unit := "HOUR"
    price := 1
    currency := "BRL"
    effectiveFrom := 0
    effectiveUntil := some 10
    enabled := true
    source := "MANUAL" }

/-- A version from 5 to 10 of the price is created, and the first one ends at 5. -/
theorem catalogAfter_laws_boundedPrice :
    let catalog := catalogAfter [.create "oci" boundedPrice "a"]
    let updated := updateItem "oci" "a" ⟨some 2, none, some 5, "MANUAL"⟩ 0 "b" catalog
    ∃ next, updated.1 = .ok next ∧ next.price = 2 ∧
      ∃ item ∈ catalog, item.id = "a" ∧ Versions catalog updated.2 item next 5 := by
  intro catalog updated
  have succeeded : updated.1 = .ok ⟨"b", "oci", "compute", "B1", "core", "HOUR", 2, "BRL", 5,
      some 10, true, "MANUAL"⟩ := by decide +kernel
  obtain ⟨-, -, -, -, versions⟩ := catalogAfter_laws [.create "oci" boundedPrice "a"]
  exact ⟨_, succeeded, versions "oci" "a" ⟨some 2, none, some 5, "MANUAL"⟩ 2 0 "b" _ rfl succeeded⟩

/-- A new version from 5 inherits the end at 10, so 12 is left without a price. -/
theorem versioned_price_ends :
    ¬∀ (operations : List Operation) (provider itemId : String) (changes : PricingUpdate)
      (price : ℚ) (now : Instant) (newId : String) (next : PricingCatalogItem),
      changes.price = some price →
      (updateItem provider itemId changes now newId (catalogAfter operations)).1 = .ok next →
      ∀ (request : PriceRequest) (instant : Instant), request.identity = next.identity →
        changes.effectiveFrom.getD now ≤ instant →
        (priceAt (updateItem provider itemId changes now newId (catalogAfter operations)).2
          request instant).map ResolvedPrice.amount = .ok price := by
  intro always
  have quotedAt := always [.create "oci" boundedPrice "a"] "oci" "a" ⟨some 2, none, some 5, "MANUAL"⟩ 2
    0 "b" ⟨"b", "oci", "compute", "B1", "core", "HOUR", 2, "BRL", 5, some 10, true, "MANUAL"⟩ rfl
    (by decide +kernel) ⟨"oci", "compute", "B1", "hour", none, none⟩ 12 (by decide) (by decide)
  exact absurd quotedAt (by decide +kernel)

end Small

end FinopsAnalytics.PricingVersions
