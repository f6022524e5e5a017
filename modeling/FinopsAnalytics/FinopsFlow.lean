import FinopsAnalytics.CivilCalendar
import FinopsAnalytics.Dictionaries
import FinopsAnalytics.FinopsLedger
import FinopsAnalytics.GroupedSums
import Mathlib.Data.Prod.Lex

/-!
# The flow of the savings ledger

Every entry is read with the entry that it reverses and with the opportunity that
either of them names. A reversal counts under the type and the source of its
original, while its effect keeps the recorded sign. All amounts are kept apart by
currency and periodicity.
-/

namespace FinopsAnalytics.FinopsFlow

open PythonText UniqueTables OpportunityRecords Fallible FinopsLedger CivilCalendar Dictionaries
  DistinctKeys GroupedSums

/-- `lower` of the database. -/
class DatabaseText where
  lower : String → String

/-- The conversion of the ASCII letters, for evaluation at concrete inputs. -/
abbrev asciiText : DatabaseText where
  lower text := String.ofList (text.toList.map Char.toLower)

/-- `LIKE`: `%` stands for any text, `_` for one character, and a backslash takes
the next character literally. -/
def like : List Char → List Char → Bool
  | [], text => text.isEmpty
  | '%' :: pattern, text => text.tails.any (like pattern)
  | '_' :: pattern, _ :: text => like pattern text
  | '\\' :: literal :: pattern, first :: text => literal = first && like pattern text
  | literal :: pattern, first :: text => literal = first && like pattern text
  | _ :: _, [] => false

section Texts

def entryTypes : List (String × FinOpsLedgerEntryType) :=
  [("SAVING", .saving), ("REALLOCATION", .reallocation), ("ADJUSTMENT", .adjustment)]

def sources : List (String × FinOpsLedgerSource) :=
  [("OPPORTUNITY", .opportunity), ("MANUAL", .manual), ("SYSTEM", .system)]

def periodicities : List (String × FinOpsLedgerPeriodicity) :=
  [("ONE_TIME", .oneTime), ("MONTHLY", .monthly)]

/-- The text of a stored value. -/
def periodicityText : FinOpsLedgerPeriodicity → String
  | .oneTime => "ONE_TIME"
  | .monthly => "MONTHLY"

/-- The text of a stored value. -/
def sourceText : FinOpsLedgerSource → String
  | .opportunity => "OPPORTUNITY"
  | .manual => "MANUAL"
  | .system => "SYSTEM"

end Texts

structure FinOpsFlowFilters where
  provider : Option String
  accountId : Option String
  currency : Option String
  source : Option String
  entryType : Option String
  periodicity : Option String
  effectiveFrom : Option Instant
  effectiveTo : Option Instant
  search : Option String
deriving DecidableEq, Repr

/-- The range does not end before it starts; the routes refuse any other. -/
def FinOpsFlowFilters.Ordered (filters : FinOpsFlowFilters) : Prop :=
  ∀ start ∈ filters.effectiveFrom, ∀ stop ∈ filters.effectiveTo, start ≤ stop

def noFilters : FinOpsFlowFilters := ⟨none, none, none, none, none, none, none, none, none⟩

section Rows

/-- A row of the outer joins with the original of a reversal and the finding. -/
structure FlowRow where
  entry : FinOpsLedgerEntry
  original : Option FinOpsLedgerEntry
  finding : Option Finding

namespace FlowRow

def logicalType (row : FlowRow) : FinOpsLedgerEntryType :=
  (row.original.map FinOpsLedgerEntry.entryType).getD row.entry.entryType

def logicalSource (row : FlowRow) : FinOpsLedgerSource :=
  (row.original.map FinOpsLedgerEntry.source).getD row.entry.source

def logicalOpportunityId (row : FlowRow) : Option String :=
  (row.original.bind FinOpsLedgerEntry.opportunityId).or row.entry.opportunityId

def signedBalance (row : FlowRow) : ℚ :=
  match row.entry.direction with
  | .credit => row.entry.amount
  | .debit => -row.entry.amount

def recognizedSavings (row : FlowRow) : ℚ :=
  if row.logicalType = .saving then row.signedBalance else 0

def reallocated (row : FlowRow) : ℚ :=
  if row.logicalType = .reallocation then -row.signedBalance else 0

def adjustmentNet (row : FlowRow) : ℚ :=
  if row.logicalType = .adjustment then row.signedBalance else 0

/-- What amounts are kept apart by. -/
def segment (row : FlowRow) : String × FinOpsLedgerPeriodicity :=
  (row.entry.currency, row.entry.periodicity)

end FlowRow

/-- The entry with the rows that are joined to it. -/
def flowRow (store : Store) (entry : FinOpsLedgerEntry) : FlowRow :=
  let original := entry.reversalOfId.bind store.ledgerEntries.find?
  let opportunityId := (original.bind FinOpsLedgerEntry.opportunityId).or entry.opportunityId
  ⟨entry, original, opportunityId.bind store.findings.find?⟩

def flowRows (store : Store) : List FlowRow := store.ledgerEntries.rows.map (flowRow store)

end Rows

section Conditions

variable [CaseMapping] [AlphabetTable]

/-- `_currency` -/
def currencyFilter (value : String) : Except ServiceError String :=
  let normalized := CaseMapping.upper (strip value)
  if normalized.length ≠ 3 || !isAlphabetic normalized then
    .error (.value "currency must be a three-letter ISO-style code")
  else .ok normalized

omit [AlphabetTable] in
/-- `_enum_value` -/
def enumValue {α : Type} (members : List (String × α)) (field value : String) :
    Except ServiceError α :=
  match members.lookup (CaseMapping.upper (strip value)) with
  | some member => .ok member
  | none => .error (.value ("Unsupported " ++ field ++ ": " ++ value))

omit [CaseMapping] [AlphabetTable] in
/-- A filter that is given is normalised; an empty one is not given. -/
def whenGiven {α : Type} (normalize : String → Except ServiceError α) (value : Option String) :
    Except ServiceError (Option α) :=
  if truthy value then some <$> normalize (orEmpty value) else .ok none

/-- The conditions of a query, with their normalised values. -/
structure FlowConditions where
  provider : Option String
  accountId : Option String
  currency : Option String
  source : Option FinOpsLedgerSource
  entryType : Option FinOpsLedgerEntryType
  periodicity : Option FinOpsLedgerPeriodicity
  effectiveFrom : Option Instant
  effectiveTo : Option Instant
  pattern : Option String
deriving DecidableEq, Repr

/-- `_conditions`; the dates are included or left out where they are tested. -/
def conditions (filters : FinOpsFlowFilters) : Except ServiceError FlowConditions := do
  let provider ← whenGiven normalizeProvider filters.provider
  let accountId ← whenGiven (fun value => .ok (strip value)) filters.accountId
  let currency ← whenGiven currencyFilter filters.currency
  let source ← whenGiven (enumValue sources "source") filters.source
  let entryType ← whenGiven (enumValue entryTypes "entry_type") filters.entryType
  let periodicity ← whenGiven (enumValue periodicities "periodicity") filters.periodicity
  let pattern ← whenGiven
    (fun value => .ok ("%" ++ CaseMapping.lower (strip value) ++ "%")) filters.search
  return {
    provider
    accountId
    currency
    source
    entryType
    periodicity
    effectiveFrom := filters.effectiveFrom
    effectiveTo := filters.effectiveTo
    pattern }

end Conditions

namespace FlowConditions

variable [DatabaseText]

/-- `lower(text) LIKE pattern` -/
def matchesText (pattern text : String) : Bool :=
  like pattern.toList (DatabaseText.lower text).toList

omit [DatabaseText] in
/-- The conditions on columns. -/
def columns (given : FlowConditions) (row : FlowRow) : Bool :=
  (∀ provider ∈ given.provider, row.entry.provider = provider) ∧
    (∀ accountId ∈ given.accountId, row.entry.accountId = accountId) ∧
    (∀ currency ∈ given.currency, row.entry.currency = currency) ∧
    (∀ source ∈ given.source, row.logicalSource = source) ∧
    (∀ entryType ∈ given.entryType, row.logicalType = entryType) ∧
    ∀ periodicity ∈ given.periodicity, row.entry.periodicity = periodicity

omit [DatabaseText] in
/-- The conditions on the effective instant. -/
def dates (given : FlowConditions) (row : FlowRow) : Bool :=
  (∀ start ∈ given.effectiveFrom, start ≤ row.entry.effectiveAt) ∧
    ∀ stop ∈ given.effectiveTo, row.entry.effectiveAt < stop

/-- The searched columns that follow from the account and the opportunity. -/
def searchesSubject (pattern : String) (row : FlowRow) : Bool :=
  matchesText pattern row.entry.accountId ||
    matchesText pattern (orEmpty (row.finding.map Finding.title)) ||
    matchesText pattern (orEmpty (row.finding.map Finding.resourceId)) ||
    matchesText pattern (orEmpty row.logicalOpportunityId)

/-- The condition on the searched text. -/
def searched (given : FlowConditions) (row : FlowRow) : Bool :=
  ∀ pattern ∈ given.pattern,
    (matchesText pattern (orEmpty row.entry.description) || searchesSubject pattern row) = true

/-- The conditions without the dates. -/
def undated (given : FlowConditions) (row : FlowRow) : Bool :=
  given.columns row && given.searched row

/-- All conditions. -/
def holds (given : FlowConditions) (row : FlowRow) : Bool := given.undated row && given.dates row

end FlowConditions

section Summary

structure SummaryRow where
  currency : String
  basis : FinOpsLedgerPeriodicity
  recognizedSavings : ℚ
  reallocated : ℚ
  adjustmentNet : ℚ
  balance : ℚ
deriving DecidableEq, Repr

/-- The order by currency and periodicity. -/
def segmentRank (segment : String × FinOpsLedgerPeriodicity) : String ×ₗ String :=
  toLex (segment.1, periodicityText segment.2)

variable [CaseMapping] [AlphabetTable] [DatabaseText]

def summary (store : Store) (filters : FinOpsFlowFilters) :
    Except ServiceError (List SummaryRow) := do
  let given ← conditions filters
  let segments := groups FlowRow.segment ((flowRows store).filter given.holds)
  return (sortByKey (fun group => segmentRank group.1) segments).map fun group =>
    { currency := group.1.1
      basis := group.1.2
      recognizedSavings := (group.2.map FlowRow.recognizedSavings).sum
      reallocated := (group.2.map FlowRow.reallocated).sum
      adjustmentNet := (group.2.map FlowRow.adjustmentNet).sum
      balance := (group.2.map FlowRow.signedBalance).sum }

end Summary

section Timeseries

inductive FlowGranularity where
  | day | month
deriving DecidableEq, Repr

/-- `_granularity` -/
def granularity (filters : FinOpsFlowFilters) : FlowGranularity :=
  match filters.effectiveFrom, filters.effectiveTo with
  | some start, some stop => if (stop - start) / days 1 ≤ 45 then .day else .month
  | _, _ => .month

/-- Year, month and, by day, the day of an instant. -/
def bucketOf [SessionCalendar] (unit : FlowGranularity) (instant : Instant) : ℤ × ℤ × ℤ :=
  let (year, month, day) := civil (SessionCalendar.dateOf instant)
  match unit with
  | .day => (year, month, day)
  | .month => (year, month, 0)

/-- The text of a bucket. -/
def bucketText : FlowGranularity → ℤ × ℤ × ℤ → String
  | .day, (year, month, day) => padded 4 year ++ "-" ++ padded 2 month ++ "-" ++ padded 2 day
  | .month, (year, month, _) => padded 4 year ++ "-" ++ padded 2 month

structure FlowPoint where
  currency : String
  basis : FinOpsLedgerPeriodicity
  bucket : String
  recognizedSavings : ℚ
  reallocated : ℚ
  adjustmentNet : ℚ
  balanceDelta : ℚ
  cumulativeBalance : ℚ
deriving DecidableEq, Repr

/-- The segment of a point. -/
def FlowPoint.segment (point : FlowPoint) : String × FinOpsLedgerPeriodicity :=
  (point.currency, point.basis)

/-- Segment and bucket of a row of the series. -/
abbrev SeriesKey := (String × FinOpsLedgerPeriodicity) × ℤ × ℤ × ℤ

/-- The order by segment, then by bucket. -/
def seriesRank (key : SeriesKey) : (String ×ₗ String) ×ₗ ℤ ×ₗ ℤ ×ₗ ℤ :=
  toLex (segmentRank key.1, toLex (key.2.1, toLex (key.2.2.1, key.2.2.2)))

/-- Balances by segment. -/
abbrev Balances := List ((String × FinOpsLedgerPeriodicity) × ℚ)

/-- A dictionary whose missing values are zero. -/
def balanceIn (balances : Balances) (segment : String × FinOpsLedgerPeriodicity) : ℚ :=
  (balances.lookup segment).getD 0

/-- One row of the series, with the balance that it leads to. -/
def takePoint (unit : FlowGranularity) (state : Balances × List FlowPoint)
    (group : SeriesKey × List FlowRow) : Balances × List FlowPoint :=
  let balanceDelta := (group.2.map FlowRow.signedBalance).sum
  let cumulativeBalance := balanceIn state.1 group.1.1 + balanceDelta
  (setKey group.1.1 cumulativeBalance state.1, state.2 ++
    [{ currency := group.1.1.1
       basis := group.1.1.2
       bucket := bucketText unit group.1.2
       recognizedSavings := (group.2.map FlowRow.recognizedSavings).sum
       reallocated := (group.2.map FlowRow.reallocated).sum
       adjustmentNet := (group.2.map FlowRow.adjustmentNet).sum
       balanceDelta
       cumulativeBalance }])

variable [CaseMapping] [AlphabetTable] [DatabaseText]

/-- `_opening_balances` -/
def openingBalances (store : Store) (filters : FinOpsFlowFilters) :
    Except ServiceError Balances :=
  match filters.effectiveFrom with
  | none => .ok []
  | some start => do
    let given ← conditions filters
    let earlier := (flowRows store).filter fun row =>
      given.undated row && row.entry.effectiveAt < start
    return (groups FlowRow.segment earlier).map fun group =>
      (group.1, (group.2.map FlowRow.signedBalance).sum)

variable [SessionCalendar]

def timeseries (store : Store) (filters : FinOpsFlowFilters) :
    Except ServiceError (FlowGranularity × List FlowPoint) := do
  let given ← conditions filters
  let unit := granularity filters
  let rows := groups (fun row => (row.segment, bucketOf unit row.entry.effectiveAt))
    ((flowRows store).filter given.holds)
  let opening ← openingBalances store filters
  return (unit, ((sortByKey (fun group => seriesRank group.1) rows).foldl (takePoint unit)
    (opening, [])).2)

end Timeseries

section Breakdowns

structure AccountShare where
  currency : String
  basis : FinOpsLedgerPeriodicity
  accountId : String
  accountName : String
  recognizedSavings : ℚ
deriving DecidableEq, Repr

structure SourceShare where
  currency : String
  basis : FinOpsLedgerPeriodicity
  source : FinOpsLedgerSource
  recognizedSavings : ℚ
deriving DecidableEq, Repr

structure FlowBreakdowns where
  byAccount : List AccountShare
  bySource : List SourceShare
deriving DecidableEq, Repr

/-- The rows joined with their accounts. -/
def accountRows (store : Store) (rows : List FlowRow) : List (FlowRow × CloudAccount) :=
  rows.flatMap fun row =>
    (store.cloudAccounts.filter fun account => account.id = row.entry.cloudAccountId).map
      fun account => (row, account)

/-- The shares of the accounts. -/
def accountShares (rows : List (FlowRow × CloudAccount)) : List AccountShare :=
  (groups (fun row => (row.1.segment, row.1.entry.accountId, row.2.name)) rows).map fun group =>
    { currency := group.1.1.1
      basis := group.1.1.2
      accountId := group.1.2.1
      accountName := group.1.2.2
      recognizedSavings := (group.2.map fun row => row.1.recognizedSavings).sum }

/-- The largest shares of a segment; the others are added up. -/
def topShares (topN : ℕ) (segment : String × FinOpsLedgerPeriodicity)
    (shares : List AccountShare) : List AccountShare :=
  let ordered := sortByKey (fun share => OrderDual.toDual share.recognizedSavings) shares
  let remainder := ordered.drop topN
  ordered.take topN ++
    if remainder.isEmpty then []
    else
      [{ currency := segment.1
         basis := segment.2
         accountId := "__other__"
         accountName := "Outros"
         recognizedSavings := (remainder.map AccountShare.recognizedSavings).sum }]

/-- The order by segment, then by source. -/
def sourceRank (key : (String × FinOpsLedgerPeriodicity) × FinOpsLedgerSource) :
    (String ×ₗ String) ×ₗ String :=
  toLex (segmentRank key.1, sourceText key.2)

variable [CaseMapping] [AlphabetTable] [DatabaseText]

def breakdowns (store : Store) (filters : FinOpsFlowFilters) (topN : ℕ) :
    Except ServiceError FlowBreakdowns := do
  let given ← conditions filters
  let rows := (flowRows store).filter given.holds
  let grouped := groups (fun share => (share.currency, share.basis))
    (accountShares (accountRows store rows))
  let bySource := groups (fun row => (row.segment, row.logicalSource)) rows
  return {
    byAccount := (sortByKey (fun group => segmentRank group.1) grouped).flatMap fun group =>
      topShares topN group.1 group.2
    bySource := (sortByKey (fun group => sourceRank group.1) bySource).map fun group =>
      { currency := group.1.1.1
        basis := group.1.1.2
        source := group.1.2
        recognizedSavings := (group.2.map FlowRow.recognizedSavings).sum } }

end Breakdowns

end FinopsAnalytics.FinopsFlow
