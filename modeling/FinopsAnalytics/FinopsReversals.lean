import FinopsAnalytics.CivilCalendar
import FinopsAnalytics.FinopsLedger
import FinopsAnalytics.TransactionHistories

/-!
# Manual entries and reversals

An operator enters movements by hand, each under the key of its request. An entry
that was wrong stays: its reversal is another entry with the opposite direction,
and an entry is reversed once.
-/

namespace FinopsAnalytics.FinopsReversals

open PythonText UniqueTables OpportunityRecords Fallible FinopsLedger CivilCalendar
  TransactionHistories

section ManualEntries

def manualCurrencies : List String := ["BRL", "USD"]

/-- The arguments of `create_manual_entry`. -/
structure ManualRequest where
  entryType : FinOpsLedgerEntryType
  direction : Option FinOpsLedgerDirection
  provider : String
  cloudAccountId : ℤ
  amount : ℚ
  currency : String
  effectiveAt : Instant
  actor : String
  description : String
  manualEntryRequestId : String
  periodicity : FinOpsLedgerPeriodicity
  referencePeriodStart : Option ℤ
  referencePeriodEnd : Option ℤ
deriving DecidableEq, Repr

/-- The direction of a manual entry: it follows from the type, except for an
adjustment. -/
def manualDirection (entryType : FinOpsLedgerEntryType)
    (direction : Option FinOpsLedgerDirection) : Except ServiceError FinOpsLedgerDirection :=
  match entryType, direction with
  | .saving, some .debit => .error (.ledger "SAVING entries must use CREDIT direction")
  | .saving, _ => .ok .credit
  | .reallocation, some .credit =>
    .error (.ledger "REALLOCATION entries must use DEBIT direction")
  | .reallocation, _ => .ok .debit
  | .adjustment, none => .error (.ledger "ADJUSTMENT entries require direction")
  | .adjustment, some given => .ok given

/-- The idempotency key of a manual request. -/
def manualKey (requestId : String) : String := "manual:" ++ requestId

variable [CaseMapping] [AlphabetTable] [UuidSource] [SystemClock]

omit [CaseMapping] [AlphabetTable] [UuidSource] [SystemClock] in
/-- `_account`: the account, when it belongs to the provider. -/
def accountOf (store : Store) (cloudAccountId : ℤ) (provider : String) :
    Except ServiceError CloudAccount := do
  let account ← cloudAccount store cloudAccountId
  if account.provider ≠ provider then
    throw (.ledger "provider does not match the selected cloud account")
  return account

omit [AlphabetTable] [UuidSource] [SystemClock] in
/-- The provider of a manual request. -/
def manualProvider (provider : String) : Except ServiceError String :=
  match normalizeProvider provider with
  | .ok normalized => .ok normalized
  | .error _ => .error (.ledger ("Unsupported provider: " ++ provider))

omit [UuidSource] in
/-- The entry that a manual request asks for. -/
def manualEntry (store : Store) (request : ManualRequest) :
    Except ServiceError (EntryRequest × Store) := do
  let provider ← manualProvider request.provider
  let account ← accountOf store request.cloudAccountId provider
  let direction ← manualDirection request.entryType request.direction
  let currency ← currencyCode request.currency
  if currency ∉ manualCurrencies then
    throw (.ledger "Manual entries currently support BRL and USD currencies")
  let description := strip request.description
  if description.length < 3 then
    throw (.ledger "description must contain at least 3 characters")
  if dateOf store.utcnow.1 < dateOf request.effectiveAt then
    throw (.ledger "effective_date cannot be in the future")
  let requestId := strip request.manualEntryRequestId
  if requestId = "" then
    throw (.ledger "manual_entry_request_id is required")
  return (
    { entryType := request.entryType
      direction
      cloudAccountId := account.id
      amount := request.amount
      currency
      effectiveAt := request.effectiveAt
      source := .manual
      actor := some request.actor
      description := some description
      sourceReference := none
      opportunityId := none
      sourceEventId := none
      idempotencyKey := some (manualKey requestId)
      periodicity := request.periodicity
      referencePeriodStart := request.referencePeriodStart
      referencePeriodEnd := request.referencePeriodEnd
      context := [("manual_entry_request_id", .text requestId)] }, store.utcnow.2)

omit [UuidSource] in
/-- The request of a manual entry has its own key, and only the clock was read. -/
theorem manualEntry_eq_ok {store after : Store} {request : ManualRequest} {entry : EntryRequest}
    (accepted : manualEntry store request = .ok (entry, after)) :
    entry.idempotencyKey = some (manualKey (strip request.manualEntryRequestId)) ∧
      after = store.utcnow.2 := by
  unfold manualEntry at accepted
  obtain ⟨provider, -, accepted⟩ := bind_eq_ok.mp accepted
  obtain ⟨account, -, accepted⟩ := bind_eq_ok.mp accepted
  obtain ⟨direction, -, accepted⟩ := bind_eq_ok.mp accepted
  obtain ⟨currency, -, accepted⟩ := bind_eq_ok.mp accepted
  -- the four checks, in the order of the source
  simp only at accepted
  split at accepted
  · cases accepted
  split at accepted
  · cases accepted
  split at accepted
  · cases accepted
  split at accepted
  · cases accepted
  cases accepted
  exact ⟨rfl, rfl⟩

/-- `create_manual_entry`. -/
def createManualEntry (store : Store) (request : ManualRequest) :
    Except ServiceError (FinOpsLedgerEntry × Store) := do
  let (entry, store) ← manualEntry store request
  createEntry store entry

end ManualEntries

section Reversals

def FinOpsLedgerDirection.opposite : FinOpsLedgerDirection → FinOpsLedgerDirection
  | .credit => .debit
  | .debit => .credit

/-- The idempotency key of a reversal. -/
def reversalKey (originalId : String) : String := "finops-reversal:" ++ originalId

/-- The description of a reversal: the given reason, or a text of its own. -/
def reversalDescription (originalId : String) (description : Option String) : String :=
  strip (if truthy description then orEmpty description
    else "Reversal of ledger entry " ++ originalId)

/-- The row that reverses an entry. -/
def reversalRow (original : FinOpsLedgerEntry) (id : String) (actor : Option String)
    (effectiveAt : Instant) (description : Option String) : FinOpsLedgerEntry where
  id := id
  entryType := .adjustment
  direction := FinOpsLedgerDirection.opposite original.direction
  provider := original.provider
  cloudAccountId := original.cloudAccountId
  accountId := original.accountId
  amount := original.amount
  currency := original.currency
  effectiveAt := effectiveAt
  source := .system
  sourceReference := some original.id
  opportunityId := none
  sourceEventId := none
  idempotencyKey := some (reversalKey original.id)
  description := some (reversalDescription original.id description)
  context := [("reversal_of", .text original.id),
    ("reason", .text (reversalDescription original.id description))]
  periodicity := original.periodicity
  referencePeriodStart := original.referencePeriodStart
  referencePeriodEnd := original.referencePeriodEnd
  createdBy := actor
  reversalOfId := some original.id

/-- The entry that is to be reversed. -/
def originalEntry (visible : List FinOpsLedgerEntry) (entryId : String) :
    Except ServiceError FinOpsLedgerEntry :=
  match visible.find? (·.id = entryId) with
  | some original => .ok original
  | none => .error (.ledger "FinOps ledger entry not found")

/-- An entry is reversed once, and a reversal is not reversed. -/
def checkReversible (visible : List FinOpsLedgerEntry) (original : FinOpsLedgerEntry) :
    Except ServiceError Unit :=
  if original.reversalOfId.isSome then
    .error (.ledger "A reversal entry cannot be reversed by this operation")
  else if visible.any (·.reversalOfId = some original.id) then
    .error (.ledger "FinOps ledger entry is already reversed")
  else .ok ()

theorem originalEntry_eq_ok {visible : List FinOpsLedgerEntry} {entryId : String}
    {original : FinOpsLedgerEntry} (accepted : originalEntry visible entryId = .ok original) :
    original ∈ visible ∧ original.id = entryId := by
  unfold originalEntry at accepted
  split at accepted
  · rename_i found isFound
    cases accepted
    exact ⟨List.mem_of_find?_eq_some isFound, by simpa using List.find?_some isFound⟩
  · cases accepted

theorem checkReversible_eq_ok {visible : List FinOpsLedgerEntry} {original : FinOpsLedgerEntry}
    {done : Unit} (accepted : checkReversible visible original = .ok done) :
    original.reversalOfId = none ∧ ∀ row ∈ visible, row.reversalOfId ≠ some original.id := by
  unfold checkReversible at accepted
  split at accepted
  · cases accepted
  · rename_i plain
    split at accepted
    · cases accepted
    · rename_i unreversed
      exact ⟨by simpa using plain, by simpa using unreversed⟩

variable [UuidSource] [SystemClock]

/-- `reverse_entry`. -/
def reverseEntry (store : Store) (entryId : String) (actor : Option String)
    (effectiveAt : Option Instant) (description : Option String) :
    Except ServiceError (FinOpsLedgerEntry × Store) := do
  let original ← originalEntry store.ledgerEntries.rows entryId
  checkReversible store.ledgerEntries.rows original
  let (effective, store) :=
    match effectiveAt with
    | some given => (given, store)
    | none => store.utcnow
  let (id, store) := store.draw
  let reversal := reversalRow original id actor effective description
  match store.ledgerEntries.insert reversal with
  | some ledgerEntries => return (reversal, { store with ledgerEntries })
  | none => throw (.ledger "FinOps ledger entry is already reversed")

end Reversals

section Histories

/-- What changes the ledger, and what changes anything else. -/
inductive LedgerOperation where
  | create (request : EntryRequest)
  | manual (request : ManualRequest)
  | reverse (entryId : String) (actor : Option String) (effectiveAt : Option Instant)
      (description : Option String)
  | elsewhere (after : Store)

variable [CaseMapping] [AlphabetTable] [UuidSource] [SystemClock]

/-- One transaction. -/
def performLedger : LedgerOperation → Store → Except ServiceError Store
  | .create request, store => Prod.snd <$> createEntry store request
  | .manual request, store => Prod.snd <$> createManualEntry store request
  | .reverse entryId actor effectiveAt description, store =>
    Prod.snd <$> reverseEntry store entryId actor effectiveAt description
  | .elsewhere after, store => .ok { after with ledgerEntries := store.ledgerEntries }

/-- A reversal and its original: the same amount, the other way. -/
structure Mirrors (reversal original : FinOpsLedgerEntry) : Prop where
  reverses : reversal.reversalOfId = some original.id
  final : original.reversalOfId = none
  opposite : reversal.direction = FinOpsLedgerDirection.opposite original.direction
  amount : reversal.amount = original.amount
  currency : reversal.currency = original.currency
  periodicity : reversal.periodicity = original.periodicity
  provider : reversal.provider = original.provider
  cloudAccountId : reversal.cloudAccountId = original.cloudAccountId
  accountId : reversal.accountId = original.accountId
  opportunityId : reversal.opportunityId = none
  key : reversal.idempotencyKey = some (reversalKey original.id)

omit [CaseMapping] [AlphabetTable] [UuidSource] [SystemClock] in
theorem mirrors_reversalRow {original : FinOpsLedgerEntry} (final : original.reversalOfId = none)
    (id : String) (actor : Option String) (effectiveAt : Instant) (description : Option String) :
    Mirrors (reversalRow original id actor effectiveAt description) original :=
  ⟨rfl, final, rfl, rfl, rfl, rfl, rfl, rfl, rfl, rfl, rfl⟩

/-- Every reversal has its original in the ledger. -/
def Mirrored (ledger : List FinOpsLedgerEntry) : Prop :=
  ∀ reversal ∈ ledger, reversal.reversalOfId.isSome → ∃ original ∈ ledger, Mirrors reversal original

omit [CaseMapping] [AlphabetTable] [UuidSource] [SystemClock] in
/-- An entry that reverses nothing, or an entry of the ledger, keeps the originals. -/
theorem Mirrored.append {ledger : List FinOpsLedgerEntry} (mirrored : Mirrored ledger)
    {entry : FinOpsLedgerEntry} (added : entry.reversalOfId = none ∨
      ∃ original ∈ ledger, Mirrors entry original) : Mirrored (ledger ++ [entry]) := by
  intro reversal member reverses
  rcases List.mem_append.mp member with stored | appended
  · obtain ⟨original, present, mirrors⟩ := mirrored reversal stored reverses
    exact ⟨original, List.mem_append_left _ present, mirrors⟩
  · obtain rfl := List.mem_singleton.mp appended
    rcases added with plain | ⟨original, present, mirrors⟩
    · rw [plain] at reverses
      cases reverses
    · exact ⟨original, List.mem_append_left _ present, mirrors⟩

omit [SystemClock] in
/-- A created entry reverses nothing. -/
theorem mirrored_createEntry {store : Store} (mirrored : Mirrored store.ledgerEntries.rows)
    {request : EntryRequest} {result : FinOpsLedgerEntry × Store}
    (accepted : createEntry store request = .ok result) :
    Mirrored result.2.ledgerEntries.rows := by
  obtain ⟨drawn, -, same | ⟨id, provider, currency, account, sourceReference, key, ledgerEntries,
    -, entry, inserted, after⟩⟩ := createEntry_eq_ok accepted
  · rw [same]
    exact mirrored
  · rw [after, (Table.rows_of_insert inserted).1]
    exact mirrored.append (Or.inl (by rw [entry]; rfl))

omit [CaseMapping] [AlphabetTable] in
/-- What an accepted reversal does to the ledger: one entry more, the reversal of
an entry that was not reversed. -/
theorem reverseEntry_eq_ok {store : Store} {entryId : String} {actor : Option String}
    {effectiveAt : Option Instant} {description : Option String}
    {result : FinOpsLedgerEntry × Store}
    (accepted : reverseEntry store entryId actor effectiveAt description = .ok result) :
    ∃ original id effective, original ∈ store.ledgerEntries.rows ∧ original.reversalOfId = none ∧
      result.1 = reversalRow original id actor effective description ∧
      result.2.ledgerEntries.rows = store.ledgerEntries.rows ++ [result.1] := by
  unfold reverseEntry at accepted
  obtain ⟨original, isOriginal, rest⟩ := bind_eq_ok.mp accepted
  obtain ⟨done, checked, rest⟩ := bind_eq_ok.mp rest
  have frame : (match effectiveAt with
      | some given => (given, store)
      | none => store.utcnow).2.ledgerEntries = store.ledgerEntries := by
    cases effectiveAt <;> rfl
  simp only [Store.draw] at rest
  split at rest
  · rename_i ledgerEntries inserted
    cases rest
    refine ⟨original, _, _, (originalEntry_eq_ok isOriginal).1, (checkReversible_eq_ok checked).1,
      rfl, ?_⟩
    rw [frame] at inserted
    exact (Table.rows_of_insert inserted).1
  · cases rest

/-- Every operation keeps the originals. -/
theorem mirrored_performLedger {store after : Store} (mirrored : Mirrored store.ledgerEntries.rows)
    {operation : LedgerOperation} (performed : performLedger operation store = .ok after) :
    Mirrored after.ledgerEntries.rows := by
  cases operation with
  | create request =>
    obtain ⟨result, accepted, rfl⟩ := map_eq_ok.mp performed
    exact mirrored_createEntry mirrored accepted
  | manual request =>
    obtain ⟨result, accepted, rfl⟩ := map_eq_ok.mp performed
    obtain ⟨⟨entry, middle⟩, prepared, created⟩ := bind_eq_ok.mp accepted
    have frame : middle.ledgerEntries = store.ledgerEntries := by
      rw [(manualEntry_eq_ok prepared).2]
      rfl
    exact mirrored_createEntry (frame ▸ mirrored) created
  | reverse entryId actor effectiveAt description =>
    obtain ⟨result, accepted, rfl⟩ := map_eq_ok.mp performed
    obtain ⟨original, id, effective, member, final, row, rows⟩ := reverseEntry_eq_ok accepted
    rw [rows]
    refine mirrored.append (Or.inr ⟨original, member, ?_⟩)
    rw [row]
    exact mirrors_reversalRow final _ _ _ _
  | elsewhere other =>
    cases performed
    exact mirrored

/-- In a ledger that the operations built from nothing, every reversal has its
original. -/
theorem mirrored_run {start : Store} (empty : start.ledgerEntries.rows = [])
    (operations : List LedgerOperation) :
    Mirrored (stateAfter performLedger start operations).ledgerEntries.rows :=
  stateAfter_invariant (fun store => Mirrored store.ledgerEntries.rows)
    (by rw [empty]; intro reversal member; cases member)
    fun _ _ _ _ mirrored performed => mirrored_performLedger mirrored performed

end Histories

end FinopsAnalytics.FinopsReversals
