import FinopsAnalytics.PricingVersions

/-!
# What escapes the administration of prices

The arguments of the service are what Python passes: a `Decimal` may be infinite
or no number, a datetime may leave the calendar when it is converted to UTC, and a
text may hold a null character. The service answers with its own errors as long as
it decides; what it does not decide the database refuses at the flush. The overlap
rule reads the enabled rows only, the unique start of an identity all of them.
-/

namespace FinopsAnalytics.PricingFailures

open PythonText HalfOpenIntervals PricingCatalog PricingAdmin PricingVersions

inductive DecimalValue where
  | finite (value : ℚ)
  | infinity (negative : Bool)
  | nan
deriving DecidableEq, Repr

/-- What an infinite price is compared and stored like: `Numeric(20, 8)` ends below
10^12. A value that is no number has no order. -/
def DecimalValue.ordered : DecimalValue → Option ℚ
  | .finite value => some value
  | .infinity true => some (-1)
  | .infinity false => some 1000000000000
  | .nan => none

/-- An exception that leaves an operation. -/
inductive Raised where
  | pricingAdmin (error : PricingAdminError)
  /-- The comparison of a price that is no number. -/
  | invalidOperation
  /-- `astimezone` of a datetime at the edge of the calendar. -/
  | overflowError
  /-- A parameter of a query that the driver cannot send. -/
  | dataError
deriving DecidableEq, Repr

/-- A failed flush is no error of the service. -/
def Raised.isPricingAdminError : Raised → Bool
  | .pricingAdmin .integrityError => false
  | .pricingAdmin _ => true
  | _ => false

abbrev Response := Except Raised PricingCatalogItem × Catalog

/-- What the session of a caller sees of an operation. -/
def surface (outcome : Outcome) : Response := (outcome.1.mapError .pricingAdmin, outcome.2)

/-- The operation succeeds, or raises an error of the service and changes nothing. -/
def Contained (response : Response) (catalog : Catalog) : Prop :=
  ∀ error, response.1 = .error error →
    error.isPricingAdminError = true ∧ response.2 = catalog

def datetimeMin : Instant := -62135596800000000
def datetimeMax : Instant := 253402300799999999

/-- `_utc` has a result. -/
def inCalendar (instant : Instant) : Bool :=
  decide (datetimeMin ≤ instant) && decide (instant ≤ datetimeMax)

/-- What the table asks of a row beyond the checks of the service. The unique start
of an identity counts disabled rows. -/
structure Insertable (catalog : Catalog) (item : PricingCatalogItem) : Prop where
  fits : fitsColumns item = true
  freshId : ∀ row ∈ catalog, row.id ≠ item.id
  freeStart : ∀ row ∈ catalog, row.identity = item.identity →
    row.effectiveFrom ≠ item.effectiveFrom

section Arguments

variable [CaseMapping]

/-- The checks of the table that the service makes as well. -/
structure Checked (item : PricingCatalogItem) : Prop where
  price : 0 ≤ item.price
  currency : item.currency.length = 3 ∧ item.currency = CaseMapping.upper item.currency
  interval : ∀ stop ∈ item.effectiveUntil, item.effectiveFrom < stop

variable {catalog : Catalog} {item : PricingCatalogItem} {error : PricingAdminError}

theorem violatesConstraint_eq_false :
    violatesConstraint catalog item = false ↔ Checked item ∧ Insertable catalog item := by
  have rows : (catalog.any fun other => decide (other.id = item.id) ||
      (decide (other.identity = item.identity) &&
        decide (other.effectiveFrom = item.effectiveFrom))) = false ↔
      ∀ row ∈ catalog, row.id ≠ item.id ∧
        (row.identity = item.identity → row.effectiveFrom ≠ item.effectiveFrom) := by
    simp [List.any_eq_false]
  simp only [violatesConstraint, Bool.or_eq_false_iff, rows, Bool.not_eq_false',
    decide_eq_false_iff_not, not_lt, not_or, not_not, not_exists, not_and, not_le]
  constructor
  · rintro ⟨⟨⟨⟨fits, price⟩, currency⟩, interval⟩, free⟩
    exact ⟨⟨price, currency, interval⟩, fits, fun row member => (free row member).1,
      fun row member => (free row member).2⟩
  · rintro ⟨⟨price, currency, interval⟩, fits, freshId, freeStart⟩
    exact ⟨⟨⟨⟨fits, price⟩, currency⟩, interval⟩,
      fun row member => ⟨freshId row member, freeStart row member⟩⟩

/-- A flush of a checked row is contained where the table takes the row. -/
theorem flushInsert_contained (begun : Catalog) {pending : Catalog} (checked : Checked item) :
    Contained (surface (flushInsert begun pending item)) begun ↔ Insertable pending item := by
  by_cases violated : violatesConstraint pending item = true
  · have refused : ¬Insertable pending item := by
      intro insertable
      rw [violatesConstraint_eq_false.mpr ⟨checked, insertable⟩] at violated
      exact Bool.false_ne_true violated
    rw [flushInsert, if_pos violated]
    refine iff_of_false (fun contained => ?_) refused
    exact Bool.false_ne_true (contained _ rfl).1
  · have accepted := violatesConstraint_eq_false.mp (Bool.eq_false_iff.mpr violated)
    rw [flushInsert, if_neg violated]
    refine iff_of_true (fun error raised => ?_) accepted.2
    exact nomatch raised

omit [CaseMapping] in
/-- An error of the service that leaves the catalog is contained. -/
theorem refused_contained (own : error ≠ .integrityError) :
    Contained (surface (.error error, catalog)) catalog := by
  intro raised same
  obtain rfl : Raised.pricingAdmin error = raised := by simpa [surface, Except.mapError] using same
  refine ⟨?_, rfl⟩
  cases error with
  | integrityError => exact absurd rfl own
  | pricingNotFound message => rfl
  | pricingOverlap message => rfl
  | pricingInvalid message => rfl

/-- The row of a creation. -/
def createdRow (provider : String) (request : PricingCreate) (newId : String) :
    PricingCatalogItem :=
  let identity := cleanIdentity (CaseMapping.lower (strip provider)) request.service request.sku
    request.unit
  { id := newId
    provider := identity.provider
    service := identity.service
    sku := identity.sku
    description := strip request.description
    unit := identity.unit
    price := request.price
    currency := CaseMapping.upper (strip request.currency)
    effectiveFrom := request.effectiveFrom
    effectiveUntil := request.effectiveUntil
    enabled := request.enabled
    source := CaseMapping.upper (strip request.source) }

/-- `_validate_values` passes the row of a creation. -/
def Valid (row : PricingCatalogItem) : Prop :=
  validateValues row.service row.sku row.description row.unit row.price row.currency row.source
    row.effectiveFrom row.effectiveUntil = .ok ()

instance (row : PricingCatalogItem) : Decidable (Valid row) :=
  inferInstanceAs (Decidable (_ = _))

/-- `_ensure_no_overlap` passes a row, where it is asked. -/
def Unopposed (catalog : Catalog) (row : PricingCatalogItem) : Prop :=
  row.enabled = true →
    ensureNoOverlap catalog row.identity row.effectiveFrom row.effectiveUntil [] = .ok ()

theorem validateValues_checked {row : PricingCatalogItem} (valid : Valid row) : Checked row := by
  simp only [Valid, validateValues, bind, Except.bind, throw, throwThe, MonadExceptOf.throw, pure,
    Except.pure] at valid
  split at valid
  · exact nomatch valid
  split at valid
  · exact nomatch valid
  rename_i priced
  split at valid
  · exact nomatch valid
  rename_i iso
  split at valid
  · exact nomatch valid
  split at valid
  · exact nomatch valid
  rename_i ends
  rw [not_or, not_not, not_not] at iso
  refine ⟨not_lt.mp priced, iso, fun stop ended => ?_⟩
  exact not_le.mp fun reached => ends ⟨stop, ended, reached⟩

theorem validateValues_own {row : PricingCatalogItem}
    (refused : validateValues row.service row.sku row.description row.unit row.price row.currency
      row.source row.effectiveFrom row.effectiveUntil = .error error) :
    error ≠ .integrityError := by
  rintro rfl
  simp only [validateValues, bind, Except.bind, throw, throwThe, MonadExceptOf.throw, pure,
    Except.pure] at refused
  repeat' split at refused
  all_goals exact nomatch refused

omit [CaseMapping] in
theorem ensureNoOverlap_own {identity : PricingIdentity} {start : Instant} {stop : Option Instant}
    {excludeIds : List String}
    (refused : ensureNoOverlap catalog identity start stop excludeIds = .error error) :
    error ≠ .integrityError := by
  rintro rfl
  unfold ensureNoOverlap at refused
  split at refused <;> exact nomatch refused

/-- A creation that the service does not refuse is the flush of its row. -/
theorem createItem_cases (provider : String) (request : PricingCreate) (newId : String)
    (catalog : Catalog) :
    let row := createdRow provider request newId
    (∃ error, error ≠ .integrityError ∧
        createItem provider request newId catalog = (.error error, catalog) ∧
        ¬(Valid row ∧ Unopposed catalog row)) ∨
      Valid row ∧ Unopposed catalog row ∧
        createItem provider request newId catalog = flushInsert catalog catalog row := by
  intro row
  cases validated : validateValues row.service row.sku row.description row.unit row.price
      row.currency row.source row.effectiveFrom row.effectiveUntil with
  | error invalid =>
    refine .inl ⟨invalid, validateValues_own validated, ?_, fun passed => ?_⟩
    · simp only [row, createdRow] at validated
      simp only [createItem, validated]
    · rw [passed.1] at validated
      cases validated
  | ok passed =>
    have conflicting {conflict : PricingAdminError}
        (answered : (if row.enabled = true then ensureNoOverlap catalog row.identity
          row.effectiveFrom row.effectiveUntil [] else .ok ()) = .error conflict) :
        createItem provider request newId catalog = (.error conflict, catalog) := by
      simp only [row, createdRow] at validated
      simp only [createItem, validated]
      split
      · rename_i other raised
        rw [Except.error.inj (raised.symm.trans answered)]
      · rename_i raised
        cases raised.symm.trans answered
    have flushed (answered : (if row.enabled = true then ensureNoOverlap catalog row.identity
          row.effectiveFrom row.effectiveUntil [] else .ok ()) = .ok ()) :
        createItem provider request newId catalog = flushInsert catalog catalog row := by
      simp only [row, createdRow] at validated
      simp only [createItem, validated]
      split
      · rename_i raised
        cases raised.symm.trans answered
      · rfl
    by_cases asked : row.enabled = true
    · rw [if_pos asked] at conflicting flushed
      cases overlap : ensureNoOverlap catalog row.identity row.effectiveFrom
          row.effectiveUntil [] with
      | error conflict =>
        refine .inl ⟨conflict, ensureNoOverlap_own overlap, conflicting overlap, ?_⟩
        intro passed
        rw [passed.2 asked] at overlap
        cases overlap
      | ok passed => exact .inr ⟨validated, fun _ => overlap, flushed overlap⟩
    · rw [if_neg asked] at flushed
      exact .inr ⟨validated, fun enabled => absurd enabled asked, flushed rfl⟩

/-- `create_item` with the arguments that Python passes: the datetimes are converted
first, and the price is compared after the check of the texts. -/
def createItemWith (provider : String) (request : PricingCreate) (price : DecimalValue)
    (newId : String) (catalog : Catalog) : Response :=
  if inCalendar request.effectiveFrom && request.effectiveUntil.all inCalendar then
    match price.ordered with
    | some value => surface (createItem provider { request with price := value } newId catalog)
    | none =>
      let row := createdRow provider request newId
      if row.service = "" ∨ row.sku = "" ∨ row.description = "" ∨ row.unit = "" then
        (.error (.pricingAdmin (.pricingInvalid "service, sku, description and unit are required")),
          catalog)
      else (.error .invalidOperation, catalog)
  else (.error .overflowError, catalog)

/-- A creation whose failures are those of the service: its datetimes are in the
calendar, its price is a number unless a required text is missing, and the table
takes the row that the service does not refuse. -/
structure Creates (provider : String) (request : PricingCreate) (price : DecimalValue)
    (newId : String) (catalog : Catalog) : Prop where
  dates : inCalendar request.effectiveFrom = true ∧ request.effectiveUntil.all inCalendar = true
  number : price.ordered = none →
    let row := createdRow provider request newId
    row.service = "" ∨ row.sku = "" ∨ row.description = "" ∨ row.unit = ""
  taken : ∀ value, price.ordered = some value →
    let row := createdRow provider { request with price := value } newId
    Valid row → Unopposed catalog row → Insertable catalog row

theorem createItemWith_contained (provider : String) (request : PricingCreate)
    (price : DecimalValue) (newId : String) (catalog : Catalog) :
    Contained (createItemWith provider request price newId catalog) catalog ↔
      Creates provider request price newId catalog := by
  by_cases dates : inCalendar request.effectiveFrom = true ∧
      request.effectiveUntil.all inCalendar = true
  swap
  · rw [createItemWith, if_neg (by simpa using dates)]
    exact iff_of_false (fun contained => Bool.false_ne_true (contained _ rfl).1)
      fun creates => dates creates.dates
  rw [createItemWith, if_pos (by simpa using dates)]
  cases ordered : price.ordered with
  | none =>
    by_cases missing : (createdRow provider request newId).service = "" ∨
        (createdRow provider request newId).sku = "" ∨
        (createdRow provider request newId).description = "" ∨
        (createdRow provider request newId).unit = ""
    · refine iff_of_true ?_ ⟨dates, fun _ => missing, fun value known => ?_⟩
      · dsimp only
        rw [if_pos missing]
        exact refused_contained (by simp)
      · rw [ordered] at known
        exact nomatch known
    · refine iff_of_false (fun contained => ?_) fun creates => missing (creates.number ordered)
      dsimp only at contained
      rw [if_neg missing] at contained
      exact Bool.false_ne_true (contained _ rfl).1
  | some value =>
    dsimp only
    have creates : Creates provider request price newId catalog ↔
        (Valid (createdRow provider { request with price := value } newId) →
          Unopposed catalog (createdRow provider { request with price := value } newId) →
          Insertable catalog (createdRow provider { request with price := value } newId)) := by
      constructor
      · exact fun creates => creates.taken value ordered
      · intro taken
        refine ⟨dates, fun unordered => ?_, fun other known => ?_⟩
        · rw [ordered] at unordered
          exact nomatch unordered
        · obtain rfl : value = other := Option.some.inj (ordered.symm.trans known)
          exact taken
    rw [creates]
    rcases createItem_cases provider { request with price := value } newId catalog with
      ⟨error, own, refused, rejected⟩ | ⟨valid, unopposed, flushed⟩
    · rw [refused]
      exact iff_of_true (refused_contained own)
        fun valid unopposed => absurd ⟨valid, unopposed⟩ rejected
    · rw [flushed, flushInsert_contained _ (validateValues_checked valid)]
      exact ⟨fun insertable _ _ => insertable, fun taken => taken valid unopposed⟩

/-- A valid price in a gap of its identity is created exactly where the table takes
its row. -/
theorem createItemWith_creatable (provider : String) (request : PricingCreate) (newId : String)
    (catalog : Catalog)
    (dates : inCalendar request.effectiveFrom = true ∧
      request.effectiveUntil.all inCalendar = true)
    (valid : Valid (createdRow provider request newId))
    (gap : ∀ row ∈ catalog, row.enabled = true →
      row.identity = (createdRow provider request newId).identity →
      ¬row.interval.Meets (createdRow provider request newId).interval) :
    (createItemWith provider request (.finite request.price) newId catalog).1 =
        .ok (createdRow provider request newId) ↔
      Insertable catalog (createdRow provider request newId) := by
  have unopposed : Unopposed catalog (createdRow provider request newId) := by
    intro _
    have free : ¬catalog.any (covers (createdRow provider request newId).identity
        (createdRow provider request newId).effectiveFrom
        (createdRow provider request newId).effectiveUntil []) = true := by
      intro covered
      obtain ⟨row, member, selected⟩ := List.any_eq_true.mp covered
      obtain ⟨named, enabled, meets, _⟩ := covers_iff.mp selected
      exact gap row member enabled named meets
    rw [ensureNoOverlap, if_neg free]
  have opened : createItemWith provider request (.finite request.price) newId catalog =
      surface (createItem provider request newId catalog) := by
    rw [createItemWith, if_pos (by simpa using dates)]
    rfl
  rw [opened]
  rcases createItem_cases provider request newId catalog with
    ⟨error, own, refused, rejected⟩ | ⟨_, _, flushed⟩
  · exact absurd ⟨valid, unopposed⟩ rejected
  · rw [flushed, ← flushInsert_contained catalog (validateValues_checked valid)]
    constructor
    · intro created error raised
      rw [created] at raised
      cases raised
    · intro contained
      rcases flushInsert_cases catalog catalog (createdRow provider request newId) with
        raised | ⟨inserted, _⟩
      · rw [raised] at contained
        exact absurd (contained _ rfl).1 Bool.false_ne_true
      · rw [inserted]
        rfl

/-- `update_item` accepts a new version of the current one. -/
structure Versionable (catalog : Catalog) (item next : PricingCatalogItem) : Prop where
  price : 0 ≤ next.price
  enabled : item.enabled = true
  started : item.effectiveFrom < next.effectiveFrom
  unended : ∀ stop ∈ item.effectiveUntil, next.effectiveFrom < stop
  unopposed : ensureNoOverlap catalog
    (cleanIdentity item.provider item.service item.sku item.unit) next.effectiveFrom
    item.effectiveUntil [item.id] = .ok ()
  described : next.description ≠ ""

omit [CaseMapping] in
/-- Ending a row takes no id and no start. -/
theorem insertable_writeItem {itemId : String} {transition : Instant} {next : PricingCatalogItem} :
    Insertable (writeItem catalog itemId fun row => { row with effectiveUntil := some transition })
      next ↔ Insertable catalog next := by
  have same (row : PricingCatalogItem) :
      let written :=
        if row.id = itemId then { row with effectiveUntil := some transition } else row
      written.id = row.id ∧ written.identity = row.identity ∧
        written.effectiveFrom = row.effectiveFrom := by
    dsimp only
    split <;> exact ⟨rfl, rfl, rfl⟩
  constructor
  · rintro ⟨fits, freshId, freeStart⟩
    refine ⟨fits, fun row member => ?_, fun row member named => ?_⟩
    · have fresh := freshId _ (List.mem_map_of_mem member)
      rwa [(same row).1] at fresh
    · have free := freeStart _ (List.mem_map_of_mem member)
      rw [(same row).2.1, (same row).2.2] at free
      exact free named
  · rintro ⟨fits, freshId, freeStart⟩
    refine ⟨fits, fun row member => ?_, fun row member named => ?_⟩
    · obtain ⟨old, oldMember, rfl⟩ := List.mem_map.mp member
      rw [(same old).1]
      exact freshId old oldMember
    · obtain ⟨old, oldMember, rfl⟩ := List.mem_map.mp member
      rw [(same old).2.2]
      exact freeStart old oldMember ((same old).2.1 ▸ named)

/-- A price update that the service does not refuse is the flush of its version. -/
theorem updatePrice_flushed (item : PricingCatalogItem) (price : ℚ) (changes : PricingUpdate)
    (now : Instant) (newId : String) (catalog : Catalog) :
    let next := nextVersion item price changes (changes.effectiveFrom.getD now) newId
    (∃ error, error ≠ .integrityError ∧
        updatePrice item price changes now newId catalog = (.error error, catalog) ∧
        ¬Versionable catalog item next) ∨
      Versionable catalog item next ∧
        updatePrice item price changes now newId catalog =
          flushInsert catalog (writeItem catalog item.id fun row =>
            { row with effectiveUntil := some next.effectiveFrom }) next := by
  intro next
  simp only [updatePrice]
  split
  · rename_i negative
    exact .inl ⟨_, by simp, rfl, fun versionable => absurd versionable.price (not_le.mpr negative)⟩
  rename_i priced
  split
  · rename_i inactive
    exact .inl ⟨_, by simp, rfl, fun versionable => by simp [versionable.enabled] at inactive⟩
  rename_i enabled
  split
  · rename_i early
    exact .inl ⟨_, by simp, rfl, fun versionable => absurd versionable.started (not_lt.mpr early)⟩
  rename_i started
  split
  · rename_i late
    refine .inl ⟨_, by simp, rfl, fun versionable => ?_⟩
    obtain ⟨stop, ends, reached⟩ := late
    exact absurd (versionable.unended stop ends) (not_lt.mpr reached)
  rename_i unended
  split
  · rename_i conflict overlap
    refine .inl ⟨_, ensureNoOverlap_own overlap, rfl, fun versionable => ?_⟩
    cases overlap.symm.trans versionable.unopposed
  rename_i passed overlap
  split
  · rename_i blank
    exact .inl ⟨_, by simp, rfl, fun versionable => versionable.described blank⟩
  rename_i described
  refine .inr ⟨⟨not_lt.mp priced, by simpa using enabled, not_le.mp started, ?_, overlap,
    described⟩, rfl⟩
  exact fun stop ends => not_le.mp fun reached => unended ⟨stop, ends, reached⟩

/-- Every stored currency passes the check of its column. -/
def CurrenciesChecked (catalog : Catalog) : Prop :=
  ∀ row ∈ catalog, row.currency.length = 3 ∧ row.currency = CaseMapping.upper row.currency

theorem CurrenciesChecked.writeItem (checked : CurrenciesChecked catalog) {itemId : String}
    {write : PricingCatalogItem → PricingCatalogItem}
    (kept : ∀ row, (write row).currency = row.currency) :
    CurrenciesChecked (writeItem catalog itemId write) := by
  intro row member
  obtain ⟨old, oldMember, rfl⟩ := List.mem_map.mp member
  have same : (if old.id = itemId then write old else old).currency = old.currency := by
    split
    · exact kept old
    · rfl
  rw [same]
  exact checked old oldMember

/-- A flush inserts a checked row or none. -/
theorem CurrenciesChecked.flushInsert {begun pending : Catalog} (before : CurrenciesChecked begun)
    (written : CurrenciesChecked pending) (item : PricingCatalogItem) :
    CurrenciesChecked (flushInsert begun pending item).2 := by
  by_cases violated : violatesConstraint pending item = true
  · rw [PricingAdmin.flushInsert, if_pos violated]
    exact before
  · rw [PricingAdmin.flushInsert, if_neg violated]
    intro row member
    rcases List.mem_append.mp member with old | inserted
    · exact written row old
    · obtain rfl := List.mem_singleton.mp inserted
      exact (violatesConstraint_eq_false.mp (Bool.eq_false_iff.mpr violated)).1.currency

theorem CurrenciesChecked.apply (checked : CurrenciesChecked catalog) (operation : Operation) :
    CurrenciesChecked (operation.apply catalog).2 := by
  cases operation with
  | create provider request newId =>
    rcases createItem_cases provider request newId catalog with
      ⟨error, _, refused, _⟩ | ⟨_, _, flushed⟩
    · rw [Operation.apply, refused]
      exact checked
    · rw [Operation.apply, flushed]
      exact checked.flushInsert checked _
  | update provider itemId changes now newId =>
    simp only [Operation.apply, updateItem]
    split
    · exact checked
    · rename_i item found
      split
      · simp only [updateDescription]
        repeat' split
        all_goals first | exact checked | exact checked.writeItem fun _ => rfl
      · rename_i price _
        rcases updatePrice_flushed item price changes now newId catalog with
          ⟨error, _, refused, _⟩ | ⟨_, flushed⟩
        · rw [refused]
          exact checked
        · rw [flushed]
          refine checked.flushInsert ?_ _
          exact checked.writeItem fun _ => rfl
  | deactivate provider itemId =>
    simp only [Operation.apply, PricingAdmin.deactivate]
    repeat' split
    all_goals first | exact checked | exact checked.writeItem fun _ => rfl

/-- Every catalog that operations build has checked currencies. -/
theorem catalogAfter_currencies (operations : List Operation) :
    CurrenciesChecked (catalogAfter operations) := by
  have kept (catalog : Catalog) (checked : CurrenciesChecked catalog) : CurrenciesChecked
      (operations.foldl (fun catalog operation => (operation.apply catalog).2) catalog) := by
    induction operations generalizing catalog with
    | nil => exact checked
    | cons operation rest inductionHypothesis =>
      exact inductionHypothesis _ (checked.apply operation)
  exact kept [] fun row member => nomatch member

theorem updatePrice_contained (currencies : CurrenciesChecked catalog) (member : item ∈ catalog)
    (price : ℚ) (changes : PricingUpdate) (now : Instant) (newId : String) :
    let next := nextVersion item price changes (changes.effectiveFrom.getD now) newId
    Contained (surface (updatePrice item price changes now newId catalog)) catalog ↔
      (Versionable catalog item next → Insertable catalog next) := by
  intro next
  rcases updatePrice_flushed item price changes now newId catalog with
    ⟨error, own, refused, rejected⟩ | ⟨versionable, flushed⟩
  · rw [refused]
    exact iff_of_true (refused_contained own) fun versionable => absurd versionable rejected
  · have checked : Checked next :=
      ⟨versionable.price, currencies item member, versionable.unended⟩
    rw [flushed, flushInsert_contained _ checked, insertable_writeItem]
    exact ⟨fun insertable _ => insertable, fun taken => taken versionable⟩

omit [CaseMapping] in
theorem updateDescription_contained (item : PricingCatalogItem) (changes : PricingUpdate)
    (catalog : Catalog) :
    Contained (surface (updateDescription item changes catalog)) catalog ↔
      (changes.effectiveFrom = none → ∀ description ∈ changes.description,
        fitsText 255 (strip description) = true) := by
  unfold updateDescription
  cases moved : changes.effectiveFrom with
  | some start => exact iff_of_true (refused_contained (by simp)) fun unmoved => nomatch unmoved
  | none =>
    cases described : changes.description with
    | none =>
      exact iff_of_true (refused_contained (by simp)) fun _ description given => nomatch given
    | some description =>
      dsimp only [Option.isSome_none]
      rw [if_neg Bool.false_ne_true]
      by_cases blank : strip description = ""
      · rw [if_pos blank]
        refine iff_of_true (refused_contained (by simp)) fun _ given same => ?_
        obtain rfl := Option.mem_some_iff.mp same
        rw [blank]
        rfl
      · rw [if_neg blank]
        by_cases fits : fitsText 255 (strip description) = true
        · rw [if_neg (by simp [fits])]
          refine iff_of_true (fun error raised => nomatch raised) fun _ given same => ?_
          obtain rfl := Option.mem_some_iff.mp same
          exact fits
        · rw [if_pos (by simp [fits])]
          refine iff_of_false (fun contained => ?_) fun holds => ?_
          · exact Bool.false_ne_true (contained _ rfl).1
          · exact fits (holds rfl description rfl)

/-- `update_item` with the arguments that Python passes: the id is sent first, a
price is compared before the row's state is read, and the new start is converted
after it. -/
def updateItemWith (provider itemId : String) (changes : PricingUpdate)
    (price : Option DecimalValue) (now : Instant) (newId : String) (catalog : Catalog) :
    Response :=
  if itemId.toList.any (· = '\u0000') then (.error .dataError, catalog)
  else
    match getItem catalog (CaseMapping.lower (strip provider)) itemId with
    | none => (.error (.pricingAdmin (.pricingNotFound "pricing item not found")), catalog)
    | some item =>
      match price with
      | none => surface (updateDescription item changes catalog)
      | some price =>
        match price.ordered with
        | none => (.error .invalidOperation, catalog)
        | some value =>
          if 0 ≤ value ∧ item.enabled = true ∧ ¬changes.effectiveFrom.all inCalendar then
            (.error .overflowError, catalog)
          else surface (updatePrice item value changes now newId catalog)

/-- An update with a price whose failures are those of the service. -/
structure Reprices (item : PricingCatalogItem) (changes : PricingUpdate) (price : DecimalValue)
    (now : Instant) (newId : String) (catalog : Catalog) : Prop where
  number : price.ordered ≠ none
  date : ∀ value, price.ordered = some value → 0 ≤ value → item.enabled = true →
    changes.effectiveFrom.all inCalendar = true
  taken : ∀ value, price.ordered = some value →
    let next := nextVersion item value changes (changes.effectiveFrom.getD now) newId
    Versionable catalog item next → Insertable catalog next

/-- An update whose failures are those of the service: the id can be sent, and of the
row it finds a description alone fits its column, or a price is a number at a start in
the calendar whose version the table takes where the service does. -/
def Updates (provider itemId : String) (changes : PricingUpdate) (price : Option DecimalValue)
    (now : Instant) (newId : String) (catalog : Catalog) : Prop :=
  itemId.toList.any (· = '\u0000') = false ∧
    ∀ item, getItem catalog (CaseMapping.lower (strip provider)) itemId = some item →
      (price = none → changes.effectiveFrom = none → ∀ description ∈ changes.description,
        fitsText 255 (strip description) = true) ∧
      ∀ value ∈ price, Reprices item changes value now newId catalog

theorem updateItemWith_contained (currencies : CurrenciesChecked catalog) (provider itemId : String)
    (changes : PricingUpdate) (price : Option DecimalValue) (now : Instant) (newId : String) :
    Contained (updateItemWith provider itemId changes price now newId catalog) catalog ↔
      Updates provider itemId changes price now newId catalog := by
  by_cases unsendable : itemId.toList.any (· = '\u0000') = true
  · rw [updateItemWith, if_pos unsendable]
    refine iff_of_false (fun contained => Bool.false_ne_true (contained _ rfl).1) fun updates => ?_
    exact Bool.false_ne_true (updates.1.symm.trans unsendable)
  have sent := Bool.eq_false_iff.mpr unsendable
  rw [updateItemWith, if_neg unsendable]
  cases found : getItem catalog (CaseMapping.lower (strip provider)) itemId with
  | none =>
    refine iff_of_true (refused_contained (by simp)) ⟨sent, fun item same => ?_⟩
    exact nomatch found.symm.trans same
  | some item =>
    have updates : Updates provider itemId changes price now newId catalog ↔
        (price = none → changes.effectiveFrom = none → ∀ description ∈ changes.description,
          fitsText 255 (strip description) = true) ∧
        ∀ value ∈ price, Reprices item changes value now newId catalog := by
      constructor
      · exact fun updates => updates.2 item found
      · refine fun holds => ⟨sent, fun other same => ?_⟩
        obtain rfl : item = other := Option.some.inj (found.symm.trans same)
        exact holds
    rw [updates]
    cases price with
    | none =>
      dsimp only
      rw [updateDescription_contained]
      exact ⟨fun holds => ⟨fun _ => holds, fun value given => nomatch given⟩,
        fun holds => holds.1 rfl⟩
    | some price =>
      have priced : ((some price = none → changes.effectiveFrom = none →
            ∀ description ∈ changes.description, fitsText 255 (strip description) = true) ∧
          ∀ value ∈ some price, Reprices item changes value now newId catalog) ↔
          Reprices item changes price now newId catalog := by
        simp
      rw [priced]
      dsimp only
      cases ordered : price.ordered with
      | none =>
        exact iff_of_false (fun contained => Bool.false_ne_true (contained _ rfl).1)
          fun reprices => reprices.number ordered
      | some value =>
        dsimp only
        by_cases lost : 0 ≤ value ∧ item.enabled = true ∧ ¬changes.effectiveFrom.all inCalendar
        · rw [if_pos lost]
          refine iff_of_false (fun contained => Bool.false_ne_true (contained _ rfl).1) ?_
          exact fun reprices => lost.2.2 (reprices.date value ordered lost.1 lost.2.1)
        · rw [if_neg lost]
          refine (updatePrice_contained currencies (getItem_some found).1 value changes now
            newId).trans ?_
          have only {other : ℚ} (same : price.ordered = some other) : value = other :=
            Option.some.inj (ordered.symm.trans same)
          constructor
          · intro taken
            refine ⟨by simp [ordered], fun other same positive enabled => ?_,
              fun other same => only same ▸ taken⟩
            obtain rfl := only same
            by_contra outside
            exact lost ⟨positive, enabled, outside⟩
          · exact fun reprices => reprices.taken value ordered

/-- Of every catalog that operations build: a creation and an update are contained
exactly where the database has nothing left to refuse, and a valid price in a gap of
its identity is created exactly where the table takes its row. -/
theorem catalogAfter_failures (operations : List Operation) :
    let catalog := catalogAfter operations
    (∀ (provider : String) (request : PricingCreate) (price : DecimalValue) (newId : String),
      Contained (createItemWith provider request price newId catalog) catalog ↔
        Creates provider request price newId catalog) ∧
    (∀ (provider itemId : String) (changes : PricingUpdate) (price : Option DecimalValue)
      (now : Instant) (newId : String),
      Contained (updateItemWith provider itemId changes price now newId catalog) catalog ↔
        Updates provider itemId changes price now newId catalog) ∧
    ∀ (provider : String) (request : PricingCreate) (newId : String),
      let row := createdRow provider request newId
      inCalendar request.effectiveFrom = true ∧ request.effectiveUntil.all inCalendar = true →
      Valid row →
      (∀ other ∈ catalog, other.enabled = true → other.identity = row.identity →
        ¬other.interval.Meets row.interval) →
      ((createItemWith provider request (.finite request.price) newId catalog).1 = .ok row ↔
        Insertable catalog row) :=
  ⟨fun provider request price newId =>
      createItemWith_contained provider request price newId (catalogAfter operations),
    updateItemWith_contained (catalogAfter_currencies operations),
    fun provider request newId dates valid gap =>
      createItemWith_creatable provider request newId (catalogAfter operations) dates valid gap⟩

end Arguments

section Small

attribute [local instance] asciiCase

/-- The price that follows the bounded one, from 10 to 20. -/
def followingPrice : PricingCreate :=
  { boundedPrice with effectiveFrom := 10, effectiveUntil := some 20 }

/-- It is valid and in a gap of its identity, and the table takes its row. -/
theorem catalogAfter_failures_followingPrice :
    let catalog := catalogAfter [.create "oci" boundedPrice "a"]
    let row := createdRow "oci" followingPrice "b"
    (createItemWith "oci" followingPrice (.finite followingPrice.price) "b" catalog).1 = .ok row ∧
      Insertable catalog row := by
  intro catalog row
  have created : (createItemWith "oci" followingPrice (.finite followingPrice.price) "b"
      catalog).1 = .ok row := by decide +kernel
  obtain ⟨-, -, taken⟩ := catalogAfter_failures [.create "oci" boundedPrice "a"]
  exact ⟨created, (taken "oci" followingPrice "b" (by decide +kernel) (by decide +kernel)
    (by decide +kernel)).mp created⟩

/-- A price that was created and deactivated keeps its start: the same price, now
without any enabled price of its identity, is refused by the unique constraint. -/
theorem recreated_price_escapes :
    ¬∀ (operations : List Operation) (provider : String) (request : PricingCreate)
      (newId : String), (∀ row ∈ catalogAfter operations, row.id ≠ newId) →
      (∀ row ∈ catalogAfter operations, row.enabled = false) →
      Contained (createItemWith provider request (.finite request.price) newId
        (catalogAfter operations)) (catalogAfter operations) := by
  intro always
  have contained := always [.create "oci" boundedPrice "a", .deactivate "oci" "a"] "oci"
    boundedPrice "b" (by decide +kernel) (by decide +kernel)
  exact absurd (contained (.pricingAdmin .integrityError) (by decide +kernel)).1 (by decide)

end Small

end FinopsAnalytics.PricingFailures
