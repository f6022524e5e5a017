import FinopsAnalytics.FinopsFlow
import FinopsAnalytics.FinopsReversals
import Mathlib.Tactic.Ring

/-!
# Balances of the savings ledger

The ledger adds up its credits and its debits by currency. The balance of a currency
is what the selected entries add up to with their signs, so an entry and its
reversal leave it where both are selected.
-/

namespace FinopsAnalytics.FinopsBalances

open PythonText OpportunityRecords Fallible FinopsLedger FinopsReversals FinopsFlow Dictionaries
  DistinctKeys GroupedSums

section Filters

def directions : List (String × FinOpsLedgerDirection) := [("CREDIT", .credit), ("DEBIT", .debit)]

structure FinOpsLedgerFilters where
  provider : Option String
  accountId : Option String
  currency : Option String
  entryType : Option String
  direction : Option String
  source : Option String
  effectiveFrom : Option Instant
  effectiveTo : Option Instant
deriving DecidableEq, Repr

/-- The normalised values of the filters. -/
structure LedgerConditions where
  provider : Option String
  accountId : Option String
  currency : Option String
  entryType : Option FinOpsLedgerEntryType
  direction : Option FinOpsLedgerDirection
  source : Option FinOpsLedgerSource
  effectiveFrom : Option Instant
  effectiveTo : Option Instant
deriving DecidableEq, Repr

/-- The conditions of a query. -/
def LedgerConditions.holds (given : LedgerConditions) (row : FinOpsLedgerEntry) : Bool :=
  (∀ provider ∈ given.provider, row.provider = provider) ∧
    (∀ accountId ∈ given.accountId, row.accountId = accountId) ∧
    (∀ currency ∈ given.currency, row.currency = currency) ∧
    (∀ entryType ∈ given.entryType, row.entryType = entryType) ∧
    (∀ direction ∈ given.direction, row.direction = direction) ∧
    (∀ source ∈ given.source, row.source = source) ∧
    (∀ start ∈ given.effectiveFrom, start ≤ row.effectiveAt) ∧
    ∀ stop ∈ given.effectiveTo, row.effectiveAt < stop

variable [CaseMapping] [AlphabetTable]

omit [AlphabetTable] in
/-- `_enum_value` of the ledger. -/
def ledgerEnumValue {α : Type} (members : List (String × α)) (field value : String) :
    Except ServiceError α :=
  match members.lookup (CaseMapping.upper (strip value)) with
  | some member => .ok member
  | none => .error (.ledger ("Unsupported " ++ field ++ ": " ++ value))

/-- `_conditions` of the ledger. -/
def ledgerConditions (filters : FinOpsLedgerFilters) : Except ServiceError LedgerConditions := do
  let provider ← whenGiven normalizeProvider filters.provider
  let accountId ← whenGiven .ok filters.accountId
  let currency ← whenGiven currencyCode filters.currency
  let entryType ← whenGiven (ledgerEnumValue entryTypes "entry_type") filters.entryType
  let direction ← whenGiven (ledgerEnumValue directions "direction") filters.direction
  let source ← whenGiven (ledgerEnumValue sources "source") filters.source
  return {
    provider
    accountId
    currency
    entryType
    direction
    source
    effectiveFrom := filters.effectiveFrom
    effectiveTo := filters.effectiveTo }

end Filters

section Balances

structure LedgerBalance where
  credits : ℚ
  debits : ℚ
  balance : ℚ
deriving DecidableEq, Repr

/-- Balances by currency. -/
abbrev LedgerBalances := List (String × LedgerBalance)

/-- The balance of a currency, zero where the ledger has none. -/
def balanceOf (balances : LedgerBalances) (currency : String) : LedgerBalance :=
  (balances.lookup currency).getD ⟨0, 0, 0⟩

/-- One row of the query added to its bucket. -/
def addAmount (balances : LedgerBalances)
    (group : (String × FinOpsLedgerDirection) × List FinOpsLedgerEntry) : LedgerBalances :=
  let (currency, direction) := group.1
  let amount := (group.2.map FinOpsLedgerEntry.amount).sum
  let bucket := balanceOf balances currency
  setKey currency
    (match direction with
      | .credit => { bucket with credits := bucket.credits + amount }
      | .debit => { bucket with debits := bucket.debits + amount }) balances

/-- The rows of the query: the selected amounts by currency and direction. -/
def amountRows (given : LedgerConditions) (rows : List FinOpsLedgerEntry) :
    List ((String × FinOpsLedgerDirection) × List FinOpsLedgerEntry) :=
  sortByKey (fun group => group.1.1)
    (groups (fun row => (row.currency, row.direction)) (rows.filter given.holds))

variable [CaseMapping] [AlphabetTable]

/-- `calculate_balances` -/
def calculateBalances (rows : List FinOpsLedgerEntry) (filters : FinOpsLedgerFilters) :
    Except ServiceError LedgerBalances := do
  let given ← ledgerConditions filters
  return ((amountRows given rows).foldl addAmount []).map fun (currency, bucket) =>
    (currency, { bucket with balance := bucket.credits - bucket.debits })

end Balances

section Sums

/-- The amount of an entry with its sign. -/
def signedAmount (row : FinOpsLedgerEntry) : ℚ :=
  match row.direction with
  | .credit => row.amount
  | .debit => -row.amount

/-- The amount that a row of the query adds to a balance. -/
def signedSum (group : (String × FinOpsLedgerDirection) × List FinOpsLedgerEntry) : ℚ :=
  match group.1.2 with
  | .credit => (group.2.map FinOpsLedgerEntry.amount).sum
  | .debit => -(group.2.map FinOpsLedgerEntry.amount).sum

theorem balanceOf_setKey (balances : LedgerBalances) (currency wanted : String)
    (bucket : LedgerBalance) : balanceOf (setKey currency bucket balances) wanted =
      if wanted = currency then bucket else balanceOf balances wanted := by
  rw [balanceOf, lawful_beq_subsingleton (instBEqOfDecidableEq : BEq String) instBEqOfDecidableEq,
    lookup_setKey]
  split <;> rfl

/-- What a bucket comes to after one row of the query. -/
theorem net_addAmount (balances : LedgerBalances)
    (group : (String × FinOpsLedgerDirection) × List FinOpsLedgerEntry) (currency : String) :
    (balanceOf (addAmount balances group) currency).credits -
        (balanceOf (addAmount balances group) currency).debits =
      (balanceOf balances currency).credits - (balanceOf balances currency).debits +
        if group.1.1 = currency then signedSum group else 0 := by
  obtain ⟨⟨own, direction⟩, entries⟩ := group
  rw [addAmount, balanceOf_setKey]
  by_cases same : currency = own
  · subst same
    cases direction
    · simp only [signedSum, if_true]
      ring
    · simp only [signedSum, if_true]
      ring
  · have other : own ≠ currency := fun isOwn => same isOwn.symm
    simp [same, other]

/-- The buckets add up the rows of the query. -/
theorem net_foldl (rows : List ((String × FinOpsLedgerDirection) × List FinOpsLedgerEntry))
    (balances : LedgerBalances) (currency : String) :
    (balanceOf (rows.foldl addAmount balances) currency).credits -
        (balanceOf (rows.foldl addAmount balances) currency).debits =
      (balanceOf balances currency).credits - (balanceOf balances currency).debits +
        ((rows.filter fun group => group.1.1 = currency).map signedSum).sum := by
  induction rows generalizing balances with
  | nil => simp
  | cons group rest inductionHypothesis =>
    rw [List.foldl_cons, inductionHypothesis, net_addAmount]
    by_cases same : group.1.1 = currency
    · simp only [same, if_true, List.filter_cons, decide_true, List.map_cons, List.sum_cons]
      ring
    · simp [same]

/-- The amounts of a row of the query have its sign. -/
theorem signedSum_group {rows : List FinOpsLedgerEntry}
    {group : (String × FinOpsLedgerDirection) × List FinOpsLedgerEntry}
    (member : group ∈ groups (fun row => (row.currency, row.direction)) rows) :
    signedSum group = (group.2.map signedAmount).sum := by
  obtain ⟨-, members⟩ := mem_groups.mp member
  have directed : ∀ row ∈ group.2, row.direction = group.1.2 := by
    intro row listed
    rw [members] at listed
    have sameKey : (row.currency, row.direction) = group.1 := by
      simpa using (List.mem_filter.mp listed).2
    exact congrArg Prod.snd sameKey
  unfold signedSum
  split
  · rename_i credits
    refine congrArg List.sum (List.map_congr_left fun row listed => ?_)
    rw [signedAmount, directed row listed, credits]
  · rename_i debits
    have negated := map_list_sum (negAddMonoidHom : ℚ →+ ℚ) (group.2.map FinOpsLedgerEntry.amount)
    refine negated.trans ?_
    rw [List.map_map]
    refine congrArg List.sum (List.map_congr_left fun row listed => ?_)
    rw [signedAmount, directed row listed, debits]
    rfl

/-- The rows of the query for a currency add up its selected entries. -/
theorem sum_amountRows (given : LedgerConditions) (rows : List FinOpsLedgerEntry)
    (currency : String) :
    (((amountRows given rows).filter fun group => group.1.1 = currency).map signedSum).sum =
      (rows.map fun row =>
        if given.holds row && row.currency = currency then signedAmount row else 0).sum := by
  let selected := rows.filter given.holds
  let grouped := groups (fun row : FinOpsLedgerEntry => (row.currency, row.direction)) selected
  have arranged := (((sortByKey_perm (fun group => group.1.1) grouped).filter
    fun group => group.1.1 = currency).map signedSum).sum_eq
  have signed : ((grouped.filter fun group => group.1.1 = currency).map signedSum).sum =
      ((grouped.filter fun group => group.1.1 = currency).map
        fun group => (group.2.map signedAmount).sum).sum :=
    congrArg List.sum (List.map_congr_left fun group member =>
      signedSum_group (List.mem_filter.mp member).1)
  have shared := sum_groups_filter (fun row : FinOpsLedgerEntry => (row.currency, row.direction))
    (fun key => decide (key.1 = currency)) signedAmount selected
  rw [List.filter_filter, sum_filter_map _ _ rows] at shared
  refine arranged.trans (signed.trans (shared.trans ?_))
  refine congrArg List.sum (List.map_congr_left fun row _ => ?_)
  rw [Bool.and_comm]

/-- The balances are computed from the buckets, currency by currency. -/
theorem balance_finished (balances : LedgerBalances) (currency : String) :
    (balanceOf (balances.map fun (currency, bucket) =>
      (currency, { bucket with balance := bucket.credits - bucket.debits })) currency).balance =
      (balanceOf balances currency).credits - (balanceOf balances currency).debits := by
  induction balances with
  | nil => simp [balanceOf]
  | cons entry rest inductionHypothesis =>
    obtain ⟨own, bucket⟩ := entry
    by_cases same : currency = own
    · simp [balanceOf, same]
    · have other : (currency == own) = false := beq_false_of_ne same
      simpa [balanceOf, List.lookup_cons, other] using inductionHypothesis

variable [CaseMapping] [AlphabetTable]

/-- The balance of a currency adds up the selected entries with their signs. -/
theorem balance_calculateBalances {rows : List FinOpsLedgerEntry}
    {filters : FinOpsLedgerFilters} {given : LedgerConditions} {balances : LedgerBalances}
    (normalized : ledgerConditions filters = .ok given)
    (calculated : calculateBalances rows filters = .ok balances) (currency : String) :
    (balanceOf balances currency).balance =
      (rows.map fun row =>
        if given.holds row && row.currency = currency then signedAmount row else 0).sum := by
  simp only [calculateBalances, normalized, ok_bind] at calculated
  obtain rfl := Except.ok.inj calculated
  rw [balance_finished, net_foldl, sum_amountRows]
  simp [balanceOf]

end Sums

section Pairs

variable [CaseMapping] [AlphabetTable]

/-- Balances that are the same, currency by currency. -/
def SameBalances (first second : LedgerBalances) : Prop :=
  ∀ currency, (balanceOf first currency).balance = (balanceOf second currency).balance

/-- Where both or neither are selected, the balances are those of the other entries. -/
def NetZero (rows others : List FinOpsLedgerEntry) (entry reversal : FinOpsLedgerEntry) : Prop :=
  ∀ filters given, ledgerConditions filters = .ok given →
    given.holds reversal = given.holds entry → ∀ balances remaining,
      calculateBalances rows filters = .ok balances →
      calculateBalances others filters = .ok remaining → SameBalances balances remaining

variable {entry reversal : FinOpsLedgerEntry}

omit [CaseMapping] [AlphabetTable] in
theorem signedAmount_mirrors (mirrors : Mirrors reversal entry) :
    signedAmount reversal = -signedAmount entry := by
  rw [signedAmount, signedAmount, mirrors.opposite, mirrors.amount]
  cases entry.direction <;> simp [FinOpsLedgerDirection.opposite]

/-- An entry and its reversal add nothing to the balances. -/
theorem netZero_of_perm {rows others : List FinOpsLedgerEntry} (mirrors : Mirrors reversal entry)
    (arranged : rows.Perm (entry :: reversal :: others)) :
    NetZero rows others entry reversal := by
  intro filters given normalized together balances remaining calculated calculatedToo currency
  rw [balance_calculateBalances normalized calculated,
    balance_calculateBalances normalized calculatedToo, (arranged.map _).sum_eq]
  simp only [List.map_cons, List.sum_cons, together, mirrors.currency,
    signedAmount_mirrors mirrors]
  split <;> ring

/-- The same among the entries of one periodicity. -/
theorem netZero_periodicity {rows others : List FinOpsLedgerEntry}
    (mirrors : Mirrors reversal entry) (arranged : rows.Perm (entry :: reversal :: others))
    (periodicity : FinOpsLedgerPeriodicity) :
    NetZero (rows.filter fun row => row.periodicity = periodicity)
      (others.filter fun row => row.periodicity = periodicity) entry reversal := by
  have selected := arranged.filter fun row => row.periodicity = periodicity
  by_cases same : entry.periodicity = periodicity
  · have sameToo : reversal.periodicity = periodicity := mirrors.periodicity.trans same
    rw [List.filter_cons_of_pos (by simpa using same),
      List.filter_cons_of_pos (by simpa using sameToo)] at selected
    exact netZero_of_perm mirrors selected
  · have otherToo : reversal.periodicity ≠ periodicity := by rwa [mirrors.periodicity]
    rw [List.filter_cons_of_neg (by simpa using same),
      List.filter_cons_of_neg (by simpa using otherToo)] at selected
    intro filters given normalized _ balances remaining calculated calculatedToo currency
    rw [balance_calculateBalances normalized calculated,
      balance_calculateBalances normalized calculatedToo, (selected.map _).sum_eq]

end Pairs

end FinopsAnalytics.FinopsBalances
