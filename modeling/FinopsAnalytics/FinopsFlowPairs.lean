import FinopsAnalytics.FinopsFlowAgreement
import FinopsAnalytics.FinopsReversals

/-!
# Reversed entries in the flow

A reversal has the columns of its original or is read with those of its original,
so every filter on columns keeps both or neither, and their effects cancel. The
searched text is another matter: each entry is found by its own description.
-/

namespace FinopsAnalytics.FinopsFlowPairs

open PythonText UniqueTables OpportunityRecords Fallible FinopsLedger FinopsReversals FinopsFlow
  FinopsFlowAgreement TransactionHistories GroupedSums

section Pairs

/-- The ledger without an entry and its reversal. -/
def withoutPair (store : Store) (entry reversal : FinOpsLedgerEntry) : Store :=
  { store with
    ledgerEntries := store.ledgerEntries.eraseWhere fun row =>
      row.id = entry.id || row.id = reversal.id }

variable {store : Store} {entry reversal : FinOpsLedgerEntry}

theorem entry_ne_reversal (mirrors : Mirrors reversal entry) : entry ≠ reversal := by
  rintro rfl
  have reverses := mirrors.reverses
  rw [mirrors.final] at reverses
  cases reverses

/-- An entry and its reversal come first, then the others. -/
theorem rows_perm (entryStored : entry ∈ store.ledgerEntries.rows)
    (reversalStored : reversal ∈ store.ledgerEntries.rows) (mirrors : Mirrors reversal entry) :
    store.ledgerEntries.rows.Perm
      (entry :: reversal :: (withoutPair store entry reversal).ledgerEntries.rows) := by
  have others {row : FinOpsLedgerEntry} :
      row ∈ (withoutPair store entry reversal).ledgerEntries.rows ↔
        row ∈ store.ledgerEntries.rows ∧ row.id ≠ entry.id ∧ row.id ≠ reversal.id := by
    simp [withoutPair, Table.mem_eraseWhere]
  have distinct : (entry :: reversal ::
      (withoutPair store entry reversal).ledgerEntries.rows).Nodup := by
    refine List.nodup_cons.mpr ⟨fun member => ?_, List.nodup_cons.mpr
      ⟨fun member => (others.mp member).2.2 rfl, Table.nodup_rows _⟩⟩
    rcases List.mem_cons.mp member with same | listed
    · exact entry_ne_reversal mirrors same
    · exact (others.mp listed).2.1 rfl
  refine (List.perm_ext_iff_of_nodup (Table.nodup_rows _) distinct).mpr fun row => ?_
  constructor
  · intro stored
    by_cases isEntry : row.id = entry.id
    · rw [Table.eq_of_key _ stored entryStored isEntry]
      exact List.mem_cons_self ..
    by_cases isReversal : row.id = reversal.id
    · rw [Table.eq_of_key _ stored reversalStored isReversal]
      exact List.mem_cons_of_mem _ (List.mem_cons_self ..)
    exact List.mem_cons_of_mem _ (List.mem_cons_of_mem _ (others.mpr
      ⟨stored, isEntry, isReversal⟩))
  · intro listed
    rcases List.mem_cons.mp listed with rfl | listed
    · exact entryStored
    rcases List.mem_cons.mp listed with rfl | listed
    · exact reversalStored
    exact (others.mp listed).1

/-- The reversal of an entry is the only one. -/
theorem reversal_unique (reversalStored : reversal ∈ store.ledgerEntries.rows)
    (mirrors : Mirrors reversal entry) {other : FinOpsLedgerEntry}
    (otherStored : other ∈ store.ledgerEntries.rows) (mirrorsToo : Mirrors other entry) :
    other = reversal := by
  refine store.ledgerEntries.eq_of_unique otherStored reversalStored ?_
  simp [FinOpsLedgerEntry.uniqueKey, mirrors.key, mirrorsToo.key]

theorem find?_stored {row : FinOpsLedgerEntry} (stored : row ∈ store.ledgerEntries.rows) :
    store.ledgerEntries.find? row.id = some row :=
  Table.find?_eq_some.mpr ⟨stored, rfl⟩

/-- The other entries are joined with the same rows. -/
theorem flowRow_withoutPair (mirrored : Mirrored store.ledgerEntries.rows)
    (entryStored : entry ∈ store.ledgerEntries.rows)
    (reversalStored : reversal ∈ store.ledgerEntries.rows) (mirrors : Mirrors reversal entry)
    {row : FinOpsLedgerEntry} (kept : row ∈ (withoutPair store entry reversal).ledgerEntries.rows) :
    flowRow (withoutPair store entry reversal) row = flowRow store row := by
  obtain ⟨stored, unselected⟩ := Table.mem_eraseWhere.mp kept
  have same : row.reversalOfId.bind (withoutPair store entry reversal).ledgerEntries.find? =
      row.reversalOfId.bind store.ledgerEntries.find? := by
    cases reverses : row.reversalOfId with
    | none => rfl
    | some originalId =>
      obtain ⟨original, originalStored, mirrorsIt⟩ := mirrored row stored (by rw [reverses]; rfl)
      obtain rfl : original.id = originalId :=
        Option.some.inj (mirrorsIt.reverses.symm.trans reverses)
      have originalKept : original ∈ (withoutPair store entry reversal).ledgerEntries.rows := by
        refine Table.mem_eraseWhere.mpr ⟨originalStored, ?_⟩
        simp only [Bool.or_eq_false_iff, decide_eq_false_iff_not] at unselected ⊢
        refine ⟨fun isEntry => unselected.2 ?_, fun isReversal => ?_⟩
        · -- a second reversal of the entry would have the key of the first
          obtain rfl := store.ledgerEntries.eq_of_key originalStored entryStored isEntry
          rw [reversal_unique reversalStored mirrors stored mirrorsIt]
        · -- a reversal is not reversed
          obtain rfl := store.ledgerEntries.eq_of_key originalStored reversalStored isReversal
          have final := mirrorsIt.final
          rw [mirrors.reverses] at final
          cases final
      change (withoutPair store entry reversal).ledgerEntries.find? original.id =
        store.ledgerEntries.find? original.id
      rw [find?_stored originalStored]
      exact find?_stored originalKept
  simp only [flowRow, same]
  rfl

/-- The rows of the flow are those of the pair and those of the other entries. -/
theorem flowRows_perm (mirrored : Mirrored store.ledgerEntries.rows)
    (entryStored : entry ∈ store.ledgerEntries.rows)
    (reversalStored : reversal ∈ store.ledgerEntries.rows) (mirrors : Mirrors reversal entry) :
    (flowRows store).Perm (flowRow store entry :: flowRow store reversal ::
      flowRows (withoutPair store entry reversal)) := by
  have arranged := (rows_perm entryStored reversalStored mirrors).map (flowRow store)
  have others : (withoutPair store entry reversal).ledgerEntries.rows.map (flowRow store) =
      flowRows (withoutPair store entry reversal) :=
    List.map_congr_left fun row kept =>
      (flowRow_withoutPair mirrored entryStored reversalStored mirrors kept).symm
  rw [List.map_cons, List.map_cons, others] at arranged
  exact arranged

end Pairs

section Selection

variable {store : Store} {entry reversal : FinOpsLedgerEntry}

/-- A reversal is read with its original. -/
theorem flowRow_reversal (entryStored : entry ∈ store.ledgerEntries.rows)
    (mirrors : Mirrors reversal entry) : (flowRow store reversal).original = some entry := by
  rw [flowRow, mirrors.reverses]
  exact find?_stored entryStored

theorem flowRow_entry (mirrors : Mirrors reversal entry) :
    (flowRow store entry).original = none := by
  rw [flowRow, mirrors.final]
  rfl

/-- What the reads of an entry and of its reversal have in common. -/
structure Alike (first second : FlowRow) : Prop where
  logicalType : second.logicalType = first.logicalType
  logicalSource : second.logicalSource = first.logicalSource
  logicalOpportunityId : second.logicalOpportunityId = first.logicalOpportunityId
  finding : second.finding = first.finding
  segment : second.segment = first.segment
  provider : second.entry.provider = first.entry.provider
  cloudAccountId : second.entry.cloudAccountId = first.entry.cloudAccountId
  accountId : second.entry.accountId = first.entry.accountId
  signedBalance : second.signedBalance = -first.signedBalance

/-- The balance of a row in the opposite direction, of the same amount. -/
theorem signedBalance_opposite {first second : FlowRow}
    (opposite : second.entry.direction = FinOpsLedgerDirection.opposite first.entry.direction)
    (amount : second.entry.amount = first.entry.amount) :
    second.signedBalance = -first.signedBalance := by
  rw [FlowRow.signedBalance, FlowRow.signedBalance, opposite, amount]
  cases first.entry.direction with
  | credit => rfl
  | debit => exact (neg_neg _).symm

theorem alike (entryStored : entry ∈ store.ledgerEntries.rows)
    (mirrors : Mirrors reversal entry) : Alike (flowRow store entry) (flowRow store reversal) := by
  have joined := flowRow_reversal entryStored mirrors
  have plain : (flowRow store entry).original = none := flowRow_entry mirrors
  have opportunity : (flowRow store reversal).logicalOpportunityId =
      (flowRow store entry).logicalOpportunityId := by
    rw [FlowRow.logicalOpportunityId, FlowRow.logicalOpportunityId, joined, plain]
    change entry.opportunityId.or reversal.opportunityId = entry.opportunityId
    rw [mirrors.opportunityId, Option.or_none]
  exact {
    logicalType := by rw [FlowRow.logicalType, FlowRow.logicalType, joined, plain]; rfl
    logicalSource := by rw [FlowRow.logicalSource, FlowRow.logicalSource, joined, plain]; rfl
    logicalOpportunityId := opportunity
    finding := congrArg (fun id => id.bind store.findings.find?) opportunity
    segment := Prod.ext mirrors.currency mirrors.periodicity
    provider := mirrors.provider
    cloudAccountId := mirrors.cloudAccountId
    accountId := mirrors.accountId
    signedBalance := signedBalance_opposite mirrors.opposite mirrors.amount }

namespace Alike

variable {first second : FlowRow} (likeness : Alike first second)

include likeness

theorem recognizedSavings : second.recognizedSavings = -first.recognizedSavings := by
  rw [FlowRow.recognizedSavings, FlowRow.recognizedSavings, likeness.logicalType,
    likeness.signedBalance]
  split <;> simp

theorem reallocated : second.reallocated = -first.reallocated := by
  rw [FlowRow.reallocated, FlowRow.reallocated, likeness.logicalType, likeness.signedBalance]
  split <;> simp

theorem adjustmentNet : second.adjustmentNet = -first.adjustmentNet := by
  rw [FlowRow.adjustmentNet, FlowRow.adjustmentNet, likeness.logicalType, likeness.signedBalance]
  split <;> simp

/-- The filters on columns keep both or neither. -/
theorem columns (given : FlowConditions) : given.columns second = given.columns first := by
  have currency : second.entry.currency = first.entry.currency :=
    congrArg Prod.fst likeness.segment
  have periodicity : second.entry.periodicity = first.entry.periodicity :=
    congrArg Prod.snd likeness.segment
  rw [FlowConditions.columns, FlowConditions.columns, likeness.provider, likeness.accountId,
    likeness.logicalSource, likeness.logicalType, currency, periodicity]

variable [DatabaseText]

/-- A search in the account and the opportunity finds both or neither. -/
theorem searchesSubject (pattern : String) :
    FlowConditions.searchesSubject pattern second =
      FlowConditions.searchesSubject pattern first := by
  rw [FlowConditions.searchesSubject, FlowConditions.searchesSubject, likeness.accountId,
    likeness.finding, likeness.logicalOpportunityId]

end Alike

variable [DatabaseText]

/-- A search that only one of the two descriptions answers: the other conditions
hold, and neither the account nor the opportunity matches. -/
def DescribedApart (given : FlowConditions) (first second : FlowRow) : Prop :=
  ∃ pattern, given.pattern = some pattern ∧ given.columns first = true ∧
    FlowConditions.searchesSubject pattern first = false ∧
    FlowConditions.matchesText pattern (orEmpty first.entry.description) ≠
      FlowConditions.matchesText pattern (orEmpty second.entry.description)

/-- The conditions keep both or neither, unless only one description is found. -/
theorem undated_iff {first second : FlowRow} (likeness : Alike first second)
    (given : FlowConditions) :
    given.undated first = given.undated second ↔ ¬ DescribedApart given first second := by
  have columns := likeness.columns given
  cases search : given.pattern with
  | none => simp [FlowConditions.undated, FlowConditions.searched, DescribedApart, search, columns]
  | some pattern =>
    have subject := likeness.searchesSubject pattern
    simp only [FlowConditions.undated, FlowConditions.searched, DescribedApart, search, columns,
      subject, Option.mem_def, Option.some.injEq, forall_eq', exists_eq_left']
    cases given.columns first <;>
      cases FlowConditions.searchesSubject pattern first <;>
        cases FlowConditions.matchesText pattern (orEmpty first.entry.description) <;>
          cases FlowConditions.matchesText pattern (orEmpty second.entry.description) <;> simp

end Selection

section Contributions

/-- The columns of the summary, with the metrics that they add up. -/
def summaryColumns : List ((SummaryRow → ℚ) × (FlowRow → ℚ)) :=
  [(SummaryRow.recognizedSavings, FlowRow.recognizedSavings),
    (SummaryRow.reallocated, FlowRow.reallocated),
    (SummaryRow.adjustmentNet, FlowRow.adjustmentNet),
    (SummaryRow.balance, FlowRow.signedBalance)]

def accountKey (share : AccountShare) : Segment × String × String :=
  (accountSegment share, share.accountId, share.accountName)

def sourceKey (share : SourceShare) : Segment × FinOpsLedgerSource :=
  (sourceSegment share, share.source)

/-- Opposite metrics of an entry and its reversal. -/
theorem Alike.metrics {first second : FlowRow} (likeness : Alike first second)
    {column : (SummaryRow → ℚ) × (FlowRow → ℚ)} (listed : column ∈ summaryColumns) :
    column.2 second = -column.2 first := by
  simp only [summaryColumns, List.mem_cons, List.not_mem_nil, or_false] at listed
  rcases listed with rfl | rfl | rfl | rfl
  · exact likeness.recognizedSavings
  · exact likeness.reallocated
  · exact likeness.adjustmentNet
  · exact likeness.signedBalance

/-- Selected rows and those without the pair: both of the pair are selected or
neither is. -/
structure Cancelling (rows others : List FlowRow) (first second : FlowRow) : Prop where
  likeness : Alike first second
  arranged : rows.Perm others ∨ rows.Perm (first :: second :: others)

namespace Cancelling

variable {rows others : List FlowRow} {first second : FlowRow}

/-- Opposite values leave the sum as it is. -/
theorem sum (cancelling : Cancelling rows others first second) (value : FlowRow → ℚ)
    (opposite : value second = -value first) : (rows.map value).sum = (others.map value).sum := by
  rcases cancelling.arranged with same | both
  · exact (same.map value).sum_eq
  · rw [(both.map value).sum_eq]
    simp [opposite]

/-- The same for the sum of the rows with a key that the pair shares. -/
theorem sum_keyed {κ : Type} [DecidableEq κ] (cancelling : Cancelling rows others first second)
    (key : FlowRow → κ) (shared : key second = key first) (value : FlowRow → ℚ)
    (opposite : value second = -value first) (wanted : κ) :
    sumAt key value rows wanted = sumAt key value others wanted := by
  rw [sumAt, sumAt, sum_filter_map, sum_filter_map]
  refine cancelling.sum _ ?_
  rw [shared]
  split <;> simp [opposite]

end Cancelling

/-- The sum over the rows joined with their accounts. -/
theorem sum_accountRows (store : Store) (value : FlowRow × CloudAccount → ℚ)
    (rows : List FlowRow) : ((accountRows store rows).map value).sum =
      (rows.map fun row =>
        ((store.cloudAccounts.filter fun account => account.id = row.entry.cloudAccountId).map
          fun account => value (row, account)).sum).sum := by
  induction rows with
  | nil => rfl
  | cons row rest inductionHypothesis =>
    rw [List.map_cons, List.sum_cons, ← inductionHypothesis]
    simp [accountRows, Function.comp_def]

/-- The shares of the accounts leave the pair out, for any part of their key. -/
theorem Cancelling.accountShares {rows others : List FlowRow} {first second : FlowRow}
    (cancelling : Cancelling rows others first second) (store : Store) {κ : Type} [DecidableEq κ]
    (part : Segment × String × String → κ) (wanted : κ) :
    sumAt (fun share => part (accountKey share)) AccountShare.recognizedSavings
        (FinopsFlow.accountShares (accountRows store rows)) wanted =
      sumAt (fun share => part (accountKey share)) AccountShare.recognizedSavings
        (FinopsFlow.accountShares (accountRows store others)) wanted := by
  have added (selected : List FlowRow) :
      sumAt (fun share => part (accountKey share)) AccountShare.recognizedSavings
          (FinopsFlow.accountShares (accountRows store selected)) wanted =
        (((accountRows store selected).map fun row =>
          if part (row.1.segment, row.1.entry.accountId, row.2.name) = wanted
            then row.1.recognizedSavings else 0)).sum := by
    have grouped := sum_groups_filter
      (fun row : FlowRow × CloudAccount => (row.1.segment, row.1.entry.accountId, row.2.name))
      (fun key => decide (part key = wanted)) (fun row => row.1.recognizedSavings)
      (accountRows store selected)
    rw [sum_filter_map _ _ (accountRows store selected)] at grouped
    rw [sumAt, FinopsFlow.accountShares, List.filter_map, List.map_map]
    simpa [accountKey, accountSegment, Function.comp_def] using grouped
  rw [added, added, sum_accountRows, sum_accountRows]
  refine cancelling.sum _ ?_
  have likeness := cancelling.likeness
  rw [likeness.cloudAccountId, eq_neg_iff_add_eq_zero, ← List.sum_map_add]
  refine List.sum_eq_zero fun value member => ?_
  obtain ⟨account, -, rfl⟩ := List.mem_map.mp member
  rw [likeness.segment, likeness.accountId, likeness.recognizedSavings]
  split <;> simp

end Contributions

section Flow

variable [CaseMapping] [AlphabetTable] [DatabaseText]

/-- The amounts of the summary and of the breakdowns are those of a ledger without
the pair. -/
structure ContributesNothing (store without : Store) (filters : FinOpsFlowFilters) : Prop where
  summary : ∀ rows others, FinopsFlow.summary store filters = .ok rows →
    FinopsFlow.summary without filters = .ok others → ∀ column ∈ summaryColumns, ∀ segment,
      sumOf summarySegment column.1 rows segment = sumOf summarySegment column.1 others segment
  accounts : ∀ topN shares others, breakdowns store filters topN = .ok shares →
    breakdowns without filters topN = .ok others → ∀ segment,
      sumOf accountSegment AccountShare.recognizedSavings shares.byAccount segment =
        sumOf accountSegment AccountShare.recognizedSavings others.byAccount segment
  eachAccount : ∀ given, conditions filters = .ok given → ∀ key,
    sumAt accountKey AccountShare.recognizedSavings
        (accountShares (accountRows store ((flowRows store).filter given.holds))) key =
      sumAt accountKey AccountShare.recognizedSavings
        (accountShares (accountRows without ((flowRows without).filter given.holds))) key
  sources : ∀ topN shares others, breakdowns store filters topN = .ok shares →
    breakdowns without filters topN = .ok others → ∀ key,
      sumAt sourceKey SourceShare.recognizedSavings shares.bySource key =
        sumAt sourceKey SourceShare.recognizedSavings others.bySource key

variable {filters : FinOpsFlowFilters} {given : FlowConditions}

/-- A column of the summary adds up its metric. -/
theorem sumOf_summaryColumn {store : Store} {rows : List SummaryRow}
    (normalized : conditions filters = .ok given) (accepted : summary store filters = .ok rows)
    {column : (SummaryRow → ℚ) × (FlowRow → ℚ)} (listed : column ∈ summaryColumns)
    (segment : Segment) :
    sumOf summarySegment column.1 rows segment =
      total column.2 ((flowRows store).filter given.holds) segment := by
  obtain ⟨same, normalizedSame, rfl⟩ := summary_eq_ok accepted
  cases normalized.symm.trans normalizedSame
  refine sumOf_groups FlowRow.segment segmentRank summarySegment column.1 column.2 _ id
    (fun _ => rfl) (fun group => ?_) (fun _ => rfl) _ segment
  simp only [summaryColumns, List.mem_cons, List.not_mem_nil, or_false] at listed
  rcases listed with rfl | rfl | rfl | rfl <;> rfl

/-- A source of the breakdowns adds up its recognised savings. -/
theorem sumAt_bySource {store : Store} (normalized : conditions filters = .ok given) {topN : ℕ}
    {shares : FlowBreakdowns} (broken : breakdowns store filters topN = .ok shares)
    (key : Segment × FinOpsLedgerSource) :
    sumAt sourceKey SourceShare.recognizedSavings shares.bySource key =
      sumAt (fun row => (row.segment, row.logicalSource)) FlowRow.recognizedSavings
        ((flowRows store).filter given.holds) key := by
  simp only [breakdowns, normalized, ok_bind] at broken
  obtain rfl := Except.ok.inj broken
  exact sumAt_groups _ sourceRank sourceKey SourceShare.recognizedSavings
    FlowRow.recognizedSavings _ id (fun _ => rfl) (fun _ => rfl) _ key

/-- A pair that the conditions keep or leave out together adds nothing. -/
theorem contributesNothing {store without : Store} (accounts : without.cloudAccounts =
    store.cloudAccounts) (normalized : conditions filters = .ok given) {first second : FlowRow}
    (cancelling : Cancelling ((flowRows store).filter given.holds)
      ((flowRows without).filter given.holds) first second) :
    ContributesNothing store without filters := by
  have likeness := cancelling.likeness
  have joined (rows : List FlowRow) : accountRows without rows = accountRows store rows := by
    rw [accountRows, accountRows, accounts]
  constructor
  · intro rows others accepted acceptedToo column listed segment
    rw [sumOf_summaryColumn normalized accepted listed,
      sumOf_summaryColumn normalized acceptedToo listed]
    exact cancelling.sum_keyed FlowRow.segment likeness.segment _ (likeness.metrics listed) segment
  · intro topN shares others broken brokenToo segment
    rw [sumOf_byAccount normalized broken, sumOf_byAccount normalized brokenToo, joined]
    exact cancelling.accountShares store Prod.fst segment
  · intro same normalizedSame key
    cases normalized.symm.trans normalizedSame
    rw [joined]
    exact cancelling.accountShares store id key
  · intro topN shares others broken brokenToo key
    rw [sumAt_bySource normalized broken, sumAt_bySource normalized brokenToo]
    refine cancelling.sum_keyed _ ?_ _ likeness.recognizedSavings key
    rw [likeness.segment, likeness.logicalSource]

omit [CaseMapping] [AlphabetTable] in
/-- The selected rows with and without a pair that is kept or left out together. -/
theorem cancelling_of_together {store : Store} (mirrored : Mirrored store.ledgerEntries.rows)
    {entry reversal : FinOpsLedgerEntry} (entryStored : entry ∈ store.ledgerEntries.rows)
    (reversalStored : reversal ∈ store.ledgerEntries.rows) (mirrors : Mirrors reversal entry)
    (together : given.holds (flowRow store entry) = given.holds (flowRow store reversal)) :
    Cancelling ((flowRows store).filter given.holds)
      ((flowRows (withoutPair store entry reversal)).filter given.holds) (flowRow store entry)
      (flowRow store reversal) := by
  refine ⟨alike entryStored mirrors, ?_⟩
  have arranged :=
    (flowRows_perm mirrored entryStored reversalStored mirrors).filter given.holds
  cases kept : given.holds (flowRow store entry) with
  | true =>
    rw [List.filter_cons_of_pos kept, List.filter_cons_of_pos (together ▸ kept)] at arranged
    exact Or.inr arranged
  | false =>
    have leftOut : ¬ given.holds (flowRow store reversal) = true := by simp [← together, kept]
    rw [List.filter_cons_of_neg (by simp [kept]), List.filter_cons_of_neg leftOut] at arranged
    exact Or.inl arranged

variable [UuidSource] [SystemClock]

/-- In every ledger that the operations built, and for all filters: the conditions
on columns keep an entry and its reversal or neither; with a search they part
exactly when it finds only one of the descriptions. Otherwise the pair adds nothing
to the summary and the breakdowns of any range that has both. -/
theorem reversal_pairing {start : Store} (empty : start.ledgerEntries.rows = [])
    (operations : List LedgerOperation) {entry reversal : FinOpsLedgerEntry}
    (entryStored : entry ∈
      (stateAfter performLedger start operations).ledgerEntries.rows)
    (reversalStored : reversal ∈
      (stateAfter performLedger start operations).ledgerEntries.rows)
    (reverses : reversal.reversalOfId = some entry.id) {filters : FinOpsFlowFilters}
    {given : FlowConditions} (normalized : conditions filters = .ok given) :
    let store := stateAfter performLedger start operations
    let first := flowRow store entry
    let second := flowRow store reversal
    given.columns first = given.columns second ∧
      (given.undated first = given.undated second ↔ ¬ DescribedApart given first second) ∧
      (¬ DescribedApart given first second → given.dates first = true →
        given.dates second = true →
          ContributesNothing store (withoutPair store entry reversal) filters) := by
  intro store first second
  have mirrored : Mirrored store.ledgerEntries.rows := mirrored_run empty operations
  have mirrors : Mirrors reversal entry := by
    obtain ⟨original, originalStored, mirrors⟩ :=
      mirrored reversal reversalStored (by rw [reverses]; rfl)
    have same : original.id = entry.id :=
      Option.some.inj (mirrors.reverses.symm.trans reverses)
    rwa [store.ledgerEntries.eq_of_key originalStored entryStored same] at mirrors
  have likeness : Alike first second := alike entryStored mirrors
  refine ⟨(likeness.columns given).symm, undated_iff likeness given, ?_⟩
  intro described firstDated secondDated
  have together : given.holds first = given.holds second := by
    rw [FlowConditions.holds, FlowConditions.holds, firstDated, secondDated,
      (undated_iff likeness given).mpr described]
  have accounts : (withoutPair store entry reversal).cloudAccounts = store.cloudAccounts := rfl
  exact contributesNothing accounts normalized
    (cancelling_of_together mirrored entryStored reversalStored mirrors together)

end Flow

section Sample

attribute [local instance] asciiCase asciiAlphabet asciiText countingUuids countingClock

/-- A saving of 100 dollars. -/
def describedSaving : EntryRequest where
  entryType := .saving
  direction := .credit
  cloudAccountId := 1
  amount := 100
  currency := "USD"
  effectiveAt := 0
  source := .manual
  actor := some "admin"
  description := some "Rightsizing"
  sourceReference := none
  opportunityId := none
  sourceEventId := none
  idempotencyKey := none
  periodicity := .monthly
  referencePeriodStart := none
  referencePeriodEnd := none
  context := []

/-- The saving is entered and reversed. -/
def reversingSaving : List LedgerOperation :=
  [.create describedSaving, .reverse "id-" (some "admin") none none]

def reversedSaving : Store :=
  stateAfter performLedger { Store.empty with cloudAccounts := [sampleAccount] } reversingSaving

def describedFilters : FinOpsFlowFilters := { noFilters with search := some "rightsizing" }

/-- The search finds the entry and not its reversal, and the summary has it. -/
theorem description_parts_pair : ∃ entry reversal given,
    reversedSaving.ledgerEntries.rows = [entry, reversal] ∧
      reversal.reversalOfId = some entry.id ∧ conditions describedFilters = .ok given ∧
      given.undated (flowRow reversedSaving entry) = true ∧
      given.undated (flowRow reversedSaving reversal) = false ∧
      summary reversedSaving describedFilters = .ok [⟨"USD", .monthly, 100, 0, 0, 100⟩] ∧
      summary (withoutPair reversedSaving entry reversal) describedFilters = .ok [] := by
  refine ⟨_, _, _, rfl, rfl, rfl, by decide +kernel, by decide +kernel, ?_, ?_⟩
  · decide +kernel
  · decide +kernel

theorem reversal_pairing_reversedSaving : ∃ entry reversal,
    reversedSaving.ledgerEntries.rows = [entry, reversal] ∧
      ContributesNothing reversedSaving (withoutPair reversedSaving entry reversal) noFilters := by
  refine ⟨_, _, rfl, ?_⟩
  have emptyLedger :
      ({ Store.empty with cloudAccounts := [sampleAccount] } : Store).ledgerEntries.rows = [] := rfl
  obtain ⟨-, -, nothing⟩ := reversal_pairing emptyLedger reversingSaving (List.mem_cons_self ..)
    (List.mem_cons_of_mem _ (List.mem_cons_self ..)) rfl (rfl : conditions noFilters = .ok _)
  refine nothing ?_ (by decide +kernel) (by decide +kernel)
  rintro ⟨pattern, search, -⟩
  cases search

end Sample

end FinopsAnalytics.FinopsFlowPairs
