import FinopsAnalytics.Fallible
import FinopsAnalytics.OpportunityRecords

/-!
# The savings ledger

The ledger is append-only. An entry with an idempotency key is written at most
once: a second request with the key returns the entry that is there.
-/

namespace FinopsAnalytics.FinopsLedger

open PythonText UniqueTables OpportunityRecords Fallible

/-- `normalize_provider`: the canonical provider key. -/
def normalizeProvider [CaseMapping] (value : String) : Except ServiceError String :=
  let provider := CaseMapping.lower (strip value)
  if provider ∈ ["aws", "oci", "azure", "gcp"] then .ok provider
  else .error (.value (provider ++ " is not a valid CloudProvider"))

/-- The arguments of `create_entry`. -/
structure EntryRequest where
  entryType : FinOpsLedgerEntryType
  direction : FinOpsLedgerDirection
  cloudAccountId : ℤ
  amount : ℚ
  currency : String
  effectiveAt : Instant
  source : FinOpsLedgerSource
  actor : Option String
  description : Option String
  sourceReference : Option String
  opportunityId : Option String
  sourceEventId : Option String
  idempotencyKey : Option String
  periodicity : FinOpsLedgerPeriodicity
  referencePeriodStart : Option ℤ
  referencePeriodEnd : Option ℤ
  context : Metadata
deriving DecidableEq, Repr

/-- `value or None`: empty text is no text. -/
def orNone (value : Option String) : Option String := if truthy value then value else none

/-- The row of a request on an account. -/
def EntryRequest.row (request : EntryRequest) (id provider currency : String)
    (account : CloudAccount) (sourceReference idempotencyKey : Option String) :
    FinOpsLedgerEntry where
  id := id
  entryType := request.entryType
  direction := request.direction
  provider := provider
  cloudAccountId := account.id
  accountId := account.nativeAccountId
  amount := request.amount
  currency := currency
  effectiveAt := request.effectiveAt
  source := request.source
  sourceReference := sourceReference
  opportunityId := request.opportunityId
  sourceEventId := request.sourceEventId
  idempotencyKey := idempotencyKey
  description := orNone (some (strip (orEmpty request.description)))
  context := request.context
  periodicity := request.periodicity
  referencePeriodStart := request.referencePeriodStart
  referencePeriodEnd := request.referencePeriodEnd
  createdBy := request.actor
  reversalOfId := none

/-- Whether a period is given wrongly: an end without a start, or before it. -/
def periodError (start stop : Option ℤ) : Option String :=
  match start, stop with
  | none, some _ => some "reference_period_end requires reference_period_start"
  | some start, some stop =>
    if stop < start then some "reference_period_end cannot precede reference_period_start"
    else none
  | _, none => none

section Entries

variable [CaseMapping] [AlphabetTable] [UuidSource]

/-- `_currency`. -/
def currencyCode (value : String) : Except ServiceError String :=
  let normalized := CaseMapping.upper (strip value)
  if normalized.length ≠ 3 || !isAlphabetic normalized then
    .error (.ledger "currency must be a three-letter ISO-style code")
  else .ok normalized

/-- The checks of a request that look at nothing but the request: the normalised
currency. -/
def checkRequest (request : EntryRequest) : Except ServiceError String := do
  if request.amount ≤ 0 then
    throw (.ledger "amount must be greater than zero")
  let currency ← currencyCode request.currency
  if request.entryType = .saving ∧ request.direction ≠ .credit then
    throw (.ledger "SAVING entries must use CREDIT direction")
  if request.entryType = .reallocation ∧ request.direction ≠ .debit then
    throw (.ledger "REALLOCATION entries must use DEBIT direction")
  match periodError request.referencePeriodStart request.referencePeriodEnd with
  | some message => throw (.ledger message)
  | none => pure ()
  if request.source = .manual ∧ request.actor = none then
    throw (.ledger "MANUAL entries require an authenticated actor")
  return currency

/-- The cloud account with an identifier. -/
def cloudAccount (store : Store) (cloudAccountId : ℤ) : Except ServiceError CloudAccount :=
  match store.cloudAccounts.find? (·.id = cloudAccountId) with
  | some account => .ok account
  | none => .error (.ledger "Cloud account not found")

/-- `_validate_opportunity_source`. -/
def validateOpportunitySource (store : Store) (provider accountId : String)
    (opportunityId sourceEventId idempotencyKey : Option String) : Except ServiceError Unit :=
  if !truthy opportunityId || !truthy sourceEventId || !truthy idempotencyKey then
    .error (.ledger
      "OPPORTUNITY entries require opportunity_id, source_event_id and idempotency_key")
  else
    match store.findings.find? (orEmpty opportunityId),
      store.statusHistory.find? (orEmpty sourceEventId) with
    | some finding, some event =>
      if event.opportunityId ≠ orEmpty opportunityId then
        .error (.ledger "Invalid opportunity source reference")
      else if event.toStatus ≠ .treated then
        .error (.ledger "Opportunity source event must be a treatment transition")
      else if finding.provider ≠ provider ∨ finding.accountId ≠ accountId then
        .error (.ledger "Opportunity provider/account does not match ledger account")
      else .ok ()
    | _, _ => .error (.ledger "Invalid opportunity source reference")

/-- The key that is stored: trimmed, absent when empty, at most 255 characters. -/
def storedKey (idempotencyKey : Option String) : Except ServiceError (Option String) :=
  let key := orNone (idempotencyKey.map strip)
  if 255 < (orEmpty key).length then
    .error (.ledger "idempotency_key must have at most 255 characters")
  else .ok key

/-- Insert an entry; on a conflict the entry with its key is returned. -/
def insertEntry (store : Store) (entry : FinOpsLedgerEntry) :
    Except ServiceError (FinOpsLedgerEntry × Store) :=
  match store.ledgerEntries.insert entry with
  | some ledgerEntries => .ok (entry, { store with ledgerEntries })
  | none =>
    match entry.idempotencyKey with
    | none => .error .integrity
    | some key =>
      match store.ledgerEntries.findUnique? (.inl key) with
      | some existing => .ok (existing, store)
      | none => .error .integrity

/-- The source reference that is stored: an opportunity refers to itself. -/
def storedReference (request : EntryRequest) : Option String :=
  if request.source = .opportunity ∧ !truthy request.sourceReference then request.opportunityId
  else request.sourceReference

/-- `create_entry` up to its savepoint: the row that it inserts. -/
def prepareEntry (store : Store) (request : EntryRequest) :
    Except ServiceError (FinOpsLedgerEntry × Store) := do
  let currency ← checkRequest request
  let account ← cloudAccount store request.cloudAccountId
  let provider ← normalizeProvider account.provider
  if account.provider ≠ provider then
    throw (.ledger "provider does not match the selected cloud account")
  if request.source = .opportunity then
    validateOpportunitySource store provider account.nativeAccountId request.opportunityId
      request.sourceEventId request.idempotencyKey
  let key ← storedKey request.idempotencyKey
  return (request.row store.draw.1 provider currency account (storedReference request) key,
    store.draw.2)

/-- `create_entry`. -/
def createEntry (store : Store) (request : EntryRequest) :
    Except ServiceError (FinOpsLedgerEntry × Store) := do
  let (row, store) ← prepareEntry store request
  insertEntry store row

omit [CaseMapping] [AlphabetTable] [UuidSource] in
/-- An insert appends the entry, or returns one that is there. -/
theorem insertEntry_eq_ok {store after : Store} {request entry : FinOpsLedgerEntry}
    (accepted : insertEntry store request = .ok (entry, after)) :
    (entry = request ∧ ∃ ledgerEntries, store.ledgerEntries.insert request = some ledgerEntries ∧
      after = { store with ledgerEntries }) ∨ after = store := by
  unfold insertEntry at accepted
  split at accepted
  · rename_i ledgerEntries inserted
    cases accepted
    exact Or.inl ⟨rfl, ledgerEntries, inserted, rfl⟩
  · split at accepted
    · cases accepted
    · split at accepted
      · cases accepted
        exact Or.inr rfl
      · cases accepted

/-- A prepared row has the identifier drawn for it and the key that is stored. -/
theorem prepareEntry_eq_ok {store : Store} {request : EntryRequest}
    {result : FinOpsLedgerEntry × Store} (prepared : prepareEntry store request = .ok result) :
    ∃ provider currency account key, storedKey request.idempotencyKey = .ok key ∧
      result = (request.row store.draw.1 provider currency account (storedReference request) key,
        store.draw.2) := by
  simp only [prepareEntry, bind_eq_ok] at prepared
  obtain ⟨currency, -, account, -, provider, -, rest⟩ := prepared
  split at rest
  · cases rest
  · split at rest
    · simp only [bind_eq_ok] at rest
      obtain ⟨-, -, key, keyOk, result⟩ := rest
      cases result
      exact ⟨provider, currency, account, key, keyOk, rfl⟩
    · simp only [bind_eq_ok] at rest
      obtain ⟨key, keyOk, result⟩ := rest
      cases result
      exact ⟨provider, currency, account, key, keyOk, rfl⟩

/-- What an accepted request does to the store: one entry more, or none. -/
theorem createEntry_eq_ok {store after : Store} {request : EntryRequest}
    {entry : FinOpsLedgerEntry} (accepted : createEntry store request = .ok (entry, after)) :
    ∃ drawn, store.drawn ≤ drawn ∧
      (after = { store with drawn } ∨
        ∃ id provider currency account sourceReference key ledgerEntries,
          storedKey request.idempotencyKey = .ok key ∧
          entry = request.row id provider currency account sourceReference key ∧
          store.ledgerEntries.insert entry = some ledgerEntries ∧
          after = { store with ledgerEntries, drawn }) := by
  obtain ⟨⟨row, drawnStore⟩, prepared, inserted⟩ := bind_eq_ok.mp accepted
  obtain ⟨provider, currency, account, key, keyOk, same⟩ := prepareEntry_eq_ok prepared
  cases same
  refine ⟨store.drawn + 1, Nat.le_succ _, ?_⟩
  rcases insertEntry_eq_ok inserted with ⟨same, ledgerEntries, appended, frame⟩ | frame
  · exact Or.inr ⟨_, _, _, _, _, _, ledgerEntries, keyOk, same, same ▸ appended, frame⟩
  · exact Or.inl frame

end Entries

end FinopsAnalytics.FinopsLedger
