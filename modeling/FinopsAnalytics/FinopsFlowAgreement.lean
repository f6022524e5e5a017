import FinopsAnalytics.FinopsFlow
import Mathlib.Tactic.Ring

/-!
# The read paths of the flow agree

Every read path adds up the same rows: it groups them by some key, orders the
groups and adds up each. So each amount of a segment is the sum of one metric
over the rows of the segment, whichever path it is read from.
-/

namespace FinopsAnalytics.FinopsFlowAgreement

open PythonText UniqueTables OpportunityRecords Fallible FinopsFlow CivilCalendar Dictionaries DistinctKeys
  GroupedSums

/-- Currency and periodicity. -/
abbrev Segment := String × FinOpsLedgerPeriodicity

/-- The sum of a metric over the rows of a segment. -/
def total (metric : FlowRow → ℚ) (rows : List FlowRow) (segment : Segment) : ℚ :=
  ((rows.filter fun row => row.segment = segment).map metric).sum

/-- A sum of the records with a key. -/
def sumAt {α κ : Type} [DecidableEq κ] (keyOf : α → κ) (amount : α → ℚ) (records : List α)
    (wanted : κ) : ℚ :=
  ((records.filter fun record => keyOf record = wanted).map amount).sum

/-- A sum of the records of a segment. -/
def sumOf {α : Type} (segmentOf : α → Segment) (amount : α → ℚ) (records : List α)
    (segment : Segment) : ℚ :=
  ((records.filter fun record => segmentOf record = segment).map amount).sum

def summarySegment (row : SummaryRow) : Segment := (row.currency, row.basis)

def accountSegment (share : AccountShare) : Segment := (share.currency, share.basis)

def sourceSegment (share : SourceShare) : Segment := (share.currency, share.basis)

section Grouping

variable {κ ρ : Type} [DecidableEq κ] [LinearOrder ρ]

/-- Records made from the ordered groups of rows add up as the rows do, for any key
that the groups determine. -/
theorem sumAt_groups {α μ : Type} [DecidableEq μ] (key : FlowRow → κ) (rank : κ → ρ)
    (keyOf : α → μ) (amount : α → ℚ) (metric : FlowRow → ℚ) (record : κ × List FlowRow → α)
    (part : κ → μ) (parts : ∀ group, keyOf (record group) = part group.1)
    (amounts : ∀ group, amount (record group) = (group.2.map metric).sum) (rows : List FlowRow)
    (wanted : μ) :
    sumAt keyOf amount ((sortByKey (fun group => rank group.1) (groups key rows)).map record)
      wanted = sumAt (fun row => part (key row)) metric rows wanted := by
  have ordered := (sortByKey_perm (fun group => rank group.1) (groups key rows)).map record
  have chosen := ((ordered.filter fun made => decide (keyOf made = wanted)).map amount).sum_eq
  rw [sumAt, chosen, List.filter_map, List.map_map]
  have selected := sum_groups_filter key (fun found => decide (part found = wanted)) metric rows
  rw [sumAt, ← selected]
  refine congrArg List.sum ?_
  have sameFilter : (groups key rows).filter
      ((fun made => decide (keyOf made = wanted)) ∘ record) =
      (groups key rows).filter fun group => decide (part group.1 = wanted) :=
    List.filter_congr fun group _ => by simp [parts]
  rw [sameFilter]
  exact List.map_congr_left fun group _ => amounts group

/-- The same for the segments. -/
theorem sumOf_groups {α : Type} (key : FlowRow → κ) (rank : κ → ρ)
    (segmentOf : α → Segment) (amount : α → ℚ) (metric : FlowRow → ℚ)
    (record : κ × List FlowRow → α) (keySegment : κ → Segment)
    (segments : ∀ group, segmentOf (record group) = keySegment group.1)
    (amounts : ∀ group, amount (record group) = (group.2.map metric).sum)
    (keys : ∀ row, keySegment (key row) = row.segment) (rows : List FlowRow) (segment : Segment) :
    sumOf segmentOf amount ((sortByKey (fun group => rank group.1) (groups key rows)).map record)
      segment = total metric rows segment := by
  have summed := sumAt_groups key rank segmentOf amount metric record keySegment segments amounts
    rows segment
  simp only [keys] at summed
  exact summed

end Grouping

section Shares

/-- The accounts have distinct identifiers, and every entry names one of them. -/
structure Referenced (store : Store) : Prop where
  distinct : (store.cloudAccounts.map CloudAccount.id).Nodup
  accounts : ∀ entry ∈ store.ledgerEntries.rows,
    ∃ account ∈ store.cloudAccounts, account.id = entry.cloudAccountId

/-- A row with a key that is in a list without duplicates is found once. -/
theorem filter_id_singleton {accounts : List CloudAccount}
    (distinct : (accounts.map CloudAccount.id).Nodup) {account : CloudAccount}
    (member : account ∈ accounts) :
    (accounts.filter fun other => other.id = account.id) = [account] := by
  induction accounts with
  | nil => cases member
  | cons first rest inductionHypothesis =>
    obtain ⟨unlisted, distinctRest⟩ := List.nodup_cons.mp distinct
    rcases List.mem_cons.mp member with rfl | later
    · have others : (rest.filter fun other => other.id = account.id) = [] := by
        rw [List.filter_eq_nil_iff]
        intro other listed
        simp only [decide_eq_true_eq]
        exact fun same => unlisted (same ▸ List.mem_map_of_mem listed)
      simp [others]
    · have different : first.id ≠ account.id := fun same =>
        unlisted (same ▸ List.mem_map_of_mem later)
      simp [different, inductionHypothesis distinctRest later]

/-- The join with the accounts keeps every row once. -/
theorem accountRows_fst {store : Store} (referenced : Referenced store) {rows : List FlowRow}
    (stored : ∀ row ∈ rows, row.entry ∈ store.ledgerEntries.rows) :
    (accountRows store rows).map Prod.fst = rows := by
  induction rows with
  | nil => rfl
  | cons row rest inductionHypothesis =>
    obtain ⟨account, member, sameId⟩ := referenced.accounts row.entry (stored row (by simp))
    have single : (store.cloudAccounts.filter fun other => other.id = row.entry.cloudAccountId) =
        [account] := by
      rw [← sameId]
      exact filter_id_singleton referenced.distinct member
    have later := inductionHypothesis fun other listed =>
      stored other (List.mem_cons_of_mem _ listed)
    simp only [accountRows] at later
    simp [accountRows, single, later]

/-- The shares of the accounts add up as the rows do. -/
theorem sumOf_accountShares (rows : List (FlowRow × CloudAccount)) (segment : Segment) :
    sumOf accountSegment AccountShare.recognizedSavings (accountShares rows) segment =
      total FlowRow.recognizedSavings (rows.map Prod.fst) segment := by
  have selected := sum_groups_filter
    (fun row : FlowRow × CloudAccount => (row.1.segment, row.1.entry.accountId, row.2.name))
    (fun key => decide (key.1 = segment)) (fun row => row.1.recognizedSavings) rows
  rw [sumOf, accountShares, List.filter_map, List.map_map, total, List.filter_map, List.map_map]
  exact selected

/-- The top shares of a segment are shares of it. -/
theorem topShares_segment {topN : ℕ} {segment : Segment} {shares : List AccountShare}
    (inSegment : ∀ share ∈ shares, accountSegment share = segment) {share : AccountShare}
    (member : share ∈ topShares topN segment shares) : accountSegment share = segment := by
  simp only [topShares, List.mem_append] at member
  rcases member with taken | other
  · exact inSegment share ((mem_sortByKey _ _ _).mp (List.mem_of_mem_take taken))
  · split at other
    · cases other
    · rw [List.mem_singleton.mp other]
      rfl

/-- What is left out of the top shares is in the other one. -/
theorem topShares_sum (topN : ℕ) (segment : Segment) (shares : List AccountShare) :
    ((topShares topN segment shares).map AccountShare.recognizedSavings).sum =
      (shares.map AccountShare.recognizedSavings).sum := by
  let ordered := sortByKey (fun share => OrderDual.toDual share.recognizedSavings) shares
  have parts : ((ordered.take topN).map AccountShare.recognizedSavings).sum +
      ((ordered.drop topN).map AccountShare.recognizedSavings).sum =
      (ordered.map AccountShare.recognizedSavings).sum := by
    rw [← List.sum_append, ← List.map_append, List.take_append_drop]
  have whole : (ordered.map AccountShare.recognizedSavings).sum =
      (shares.map AccountShare.recognizedSavings).sum :=
    ((sortByKey_perm _ shares).map _).sum_eq
  simp only [topShares, List.map_append, List.sum_append]
  rw [← whole, ← parts]
  congr 1
  split
  · rename_i nothing
    rw [List.isEmpty_iff.mp nothing]
  · simp [ordered]

/-- Listing the top shares of every segment keeps the sum of each. -/
theorem sumOf_topShares {topN : ℕ} {segment : Segment}
    (grouped : List (Segment × List AccountShare))
    (inSegment : ∀ group ∈ grouped, ∀ share ∈ group.2, accountSegment share = group.1) :
    sumOf accountSegment AccountShare.recognizedSavings
      (grouped.flatMap fun group => topShares topN group.1 group.2) segment =
      ((grouped.filter fun group => group.1 = segment).map fun group =>
        (group.2.map AccountShare.recognizedSavings).sum).sum := by
  induction grouped with
  | nil => rfl
  | cons group rest inductionHypothesis =>
    have later := inductionHypothesis fun other member =>
      inSegment other (List.mem_cons_of_mem _ member)
    have own := inSegment group (List.mem_cons_self ..)
    simp only [sumOf] at later
    rw [sumOf, List.flatMap_cons, List.filter_append, List.map_append, List.sum_append, later]
    by_cases same : group.1 = segment
    · have all : ((topShares topN group.1 group.2).filter fun share =>
          accountSegment share = segment) = topShares topN group.1 group.2 :=
        List.filter_eq_self.mpr fun share member =>
          decide_eq_true ((topShares_segment own member).trans same)
      rw [all, topShares_sum]
      simp [same]
    · have none : ((topShares topN group.1 group.2).filter fun share =>
          accountSegment share = segment) = [] := by
        rw [List.filter_eq_nil_iff]
        intro share member
        simp only [decide_eq_true_eq]
        exact fun found => same ((topShares_segment own member).symm.trans found)
      rw [none]
      simp [same]

end Shares

section Series

theorem balanceIn_setKey (balances : Balances) (segment wanted : Segment) (balance : ℚ) :
    balanceIn (setKey segment balance balances) wanted =
      if wanted = segment then balance else balanceIn balances wanted := by
  have same := lawful_beq_subsingleton (instBEqProd : BEq Segment) instBEqOfDecidableEq
  unfold balanceIn
  rw [same, lookup_setKey]
  split_ifs <;> rfl

/-- Records count by their segments and amounts only. -/
theorem sumOf_pairs {α : Type} (segmentOf : α → Segment) (amount : α → ℚ) (records : List α)
    (segment : Segment) : sumOf segmentOf amount records segment =
      sumOf Prod.fst Prod.snd (records.map fun record => (segmentOf record, amount record))
        segment := by
  rw [sumOf, sumOf, List.filter_map, List.map_map]
  rfl

/-- What the loop over the series keeps. -/
structure Running (opening : Balances) (state : Balances × List FlowPoint) : Prop where
  balance : ∀ segment, balanceIn state.1 segment =
    balanceIn opening segment + sumOf FlowPoint.segment FlowPoint.balanceDelta state.2 segment
  last : ∀ segment point, (state.2.filter fun other => other.segment = segment).getLast? =
    some point → point.cumulativeBalance = balanceIn state.1 segment

theorem Running.start (opening : Balances) : Running opening (opening, []) :=
  ⟨fun _ => by simp [sumOf], fun _ _ found => by cases found⟩

/-- A point adds the balance of its group. -/
theorem Running.take {opening : Balances} {state : Balances × List FlowPoint}
    (running : Running opening state) (unit : FlowGranularity)
    (group : SeriesKey × List FlowRow) : Running opening (takePoint unit state group) := by
  constructor
  · intro segment
    simp only [takePoint]
    rw [balanceIn_setKey, sumOf, List.filter_append, List.map_append, List.sum_append]
    have before := running.balance segment
    rw [sumOf] at before
    by_cases same : segment = group.1.1
    · subst same
      simp [FlowPoint.segment] at before ⊢
      rw [before]
      ring
    · have other : ¬ group.1.1 = segment := fun found => same found.symm
      simp [same, other, FlowPoint.segment] at before ⊢
      exact before
  · intro segment point found
    simp only [takePoint] at found ⊢
    rw [balanceIn_setKey]
    by_cases same : segment = group.1.1
    · rw [if_pos same]
      simp [List.filter_append, FlowPoint.segment, same] at found
      rw [← found]
    · have other : ¬ group.1.1 = segment := fun found => same found.symm
      rw [if_neg same]
      rw [List.filter_append, List.filter_cons_of_neg (by simpa [FlowPoint.segment] using other),
        List.filter_nil, List.append_nil] at found
      exact running.last segment point found

theorem Running.run {opening : Balances} {state : Balances × List FlowPoint}
    (running : Running opening state) (unit : FlowGranularity)
    (rows : List (SeriesKey × List FlowRow)) :
    Running opening (rows.foldl (takePoint unit) state) := by
  induction rows generalizing state with
  | nil => exact running
  | cons group rest inductionHypothesis => exact inductionHypothesis (running.take unit group)

/-- The points of the series, in the order of its rows. -/
theorem points_of_rows (unit : FlowGranularity) (state : Balances × List FlowPoint)
    (rows : List (SeriesKey × List FlowRow)) :
    (rows.foldl (takePoint unit) state).2.map
        (fun point => (point.segment, point.balanceDelta)) =
      state.2.map (fun point => (point.segment, point.balanceDelta)) ++
        rows.map fun group => (group.1.1, (group.2.map FlowRow.signedBalance).sum) := by
  induction rows generalizing state with
  | nil => simp
  | cons group rest inductionHypothesis =>
    rw [List.foldl_cons, inductionHypothesis]
    simp [takePoint, FlowPoint.segment]

end Series

section Agreement

variable [CaseMapping] [AlphabetTable] [DatabaseText]

omit [CaseMapping] [AlphabetTable] [DatabaseText] in
theorem metrics_balance (row : FlowRow) :
    row.signedBalance = row.recognizedSavings - row.reallocated + row.adjustmentNet := by
  unfold FlowRow.recognizedSavings FlowRow.reallocated FlowRow.adjustmentNet
  cases row.logicalType <;> simp

variable {store : Store} {filters : FinOpsFlowFilters} {rows : List SummaryRow}
  {given : FlowConditions}

/-- The summary of accepted filters. -/
theorem summary_eq_ok (accepted : summary store filters = .ok rows) :
    ∃ given, conditions filters = .ok given ∧
      rows = (sortByKey (fun group => segmentRank group.1)
        (groups FlowRow.segment ((flowRows store).filter given.holds))).map fun group =>
          { currency := group.1.1
            basis := group.1.2
            recognizedSavings := (group.2.map FlowRow.recognizedSavings).sum
            reallocated := (group.2.map FlowRow.reallocated).sum
            adjustmentNet := (group.2.map FlowRow.adjustmentNet).sum
            balance := (group.2.map FlowRow.signedBalance).sum } := by
  obtain ⟨given, normalized, made⟩ := bind_eq_ok.mp accepted
  exact ⟨given, normalized, (Except.ok.inj made).symm⟩

omit [CaseMapping] [AlphabetTable] [DatabaseText] in
theorem sum_metrics (rows : List FlowRow) :
    (rows.map FlowRow.signedBalance).sum = (rows.map FlowRow.recognizedSavings).sum -
      (rows.map FlowRow.reallocated).sum + (rows.map FlowRow.adjustmentNet).sum := by
  induction rows with
  | nil => simp
  | cons row rest inductionHypothesis =>
    simp only [List.map_cons, List.sum_cons]
    rw [inductionHypothesis, metrics_balance row]
    ring

/-- The summary balances in every row and names each segment once. -/
structure SummaryBalanced (rows : List SummaryRow) : Prop where
  distinct : (rows.map summarySegment).Nodup
  balance : ∀ row ∈ rows,
    row.balance = row.recognizedSavings - row.reallocated + row.adjustmentNet

theorem summary_balanced (accepted : summary store filters = .ok rows) : SummaryBalanced rows := by
  obtain ⟨given, -, rfl⟩ := summary_eq_ok accepted
  constructor
  · have arranged := (sortByKey_perm (fun group : Segment × List FlowRow => segmentRank group.1)
      (groups FlowRow.segment ((flowRows store).filter given.holds))).map Prod.fst
    rw [List.map_map]
    exact arranged.nodup_iff.mpr (groups_nodup _ _)
  · intro row member
    obtain ⟨group, -, rfl⟩ := List.mem_map.mp member
    exact sum_metrics group.2

/-- The summary has a row for exactly the segments of the selected rows. -/
theorem summarized_iff (normalized : conditions filters = .ok given)
    (accepted : summary store filters = .ok rows) (segment : Segment) :
    (∃ row ∈ rows, summarySegment row = segment) ↔
      ∃ row ∈ (flowRows store).filter given.holds, row.segment = segment := by
  obtain ⟨same, normalizedSame, rfl⟩ := summary_eq_ok accepted
  cases normalized.symm.trans normalizedSame
  constructor
  · rintro ⟨row, member, rfl⟩
    obtain ⟨group, groupMember, rfl⟩ := List.mem_map.mp member
    exact (mem_groups.mp ((mem_sortByKey _ _ _).mp groupMember)).1
  · rintro ⟨row, selected, rfl⟩
    have grouped := mem_groups_of_mem FlowRow.segment selected
    exact ⟨_, List.mem_map_of_mem ((mem_sortByKey _ _ _).mpr grouped), rfl⟩

/-- A metric of the summary is its total over the selected rows. -/
theorem sumOf_summary (normalized : conditions filters = .ok given)
    (accepted : summary store filters = .ok rows) (segment : Segment) :
    sumOf summarySegment SummaryRow.recognizedSavings rows segment =
        total FlowRow.recognizedSavings ((flowRows store).filter given.holds) segment ∧
      sumOf summarySegment SummaryRow.balance rows segment =
        total FlowRow.signedBalance ((flowRows store).filter given.holds) segment := by
  obtain ⟨same, normalizedSame, rfl⟩ := summary_eq_ok accepted
  cases normalized.symm.trans normalizedSame
  exact ⟨sumOf_groups FlowRow.segment segmentRank summarySegment SummaryRow.recognizedSavings
      FlowRow.recognizedSavings _ id (fun _ => rfl) (fun _ => rfl) (fun _ => rfl) _ segment,
    sumOf_groups FlowRow.segment segmentRank summarySegment SummaryRow.balance
      FlowRow.signedBalance _ id (fun _ => rfl) (fun _ => rfl) (fun _ => rfl) _ segment⟩

omit [DatabaseText] in
/-- The first date is normalised on its own. -/
theorem conditions_from (normalized : conditions filters = .ok given) (start : Option Instant) :
    conditions { filters with effectiveFrom := start } =
      .ok { given with effectiveFrom := start } := by
  simp only [conditions] at normalized ⊢
  obtain ⟨provider, providerOk, normalized⟩ := bind_eq_ok.mp normalized
  obtain ⟨accountId, accountOk, normalized⟩ := bind_eq_ok.mp normalized
  obtain ⟨currency, currencyOk, normalized⟩ := bind_eq_ok.mp normalized
  obtain ⟨source, sourceOk, normalized⟩ := bind_eq_ok.mp normalized
  obtain ⟨entryType, typeOk, normalized⟩ := bind_eq_ok.mp normalized
  obtain ⟨periodicity, periodicityOk, normalized⟩ := bind_eq_ok.mp normalized
  obtain ⟨pattern, patternOk, normalized⟩ := bind_eq_ok.mp normalized
  cases normalized
  rw [providerOk, ok_bind, accountOk, ok_bind, currencyOk, ok_bind, sourceOk, ok_bind, typeOk,
    ok_bind, periodicityOk, ok_bind, patternOk, ok_bind]
  rfl

omit [DatabaseText] in
theorem conditions_dates (normalized : conditions filters = .ok given) :
    given.effectiveFrom = filters.effectiveFrom ∧ given.effectiveTo = filters.effectiveTo := by
  simp only [conditions] at normalized
  obtain ⟨provider, -, normalized⟩ := bind_eq_ok.mp normalized
  obtain ⟨accountId, -, normalized⟩ := bind_eq_ok.mp normalized
  obtain ⟨currency, -, normalized⟩ := bind_eq_ok.mp normalized
  obtain ⟨source, -, normalized⟩ := bind_eq_ok.mp normalized
  obtain ⟨entryType, -, normalized⟩ := bind_eq_ok.mp normalized
  obtain ⟨periodicity, -, normalized⟩ := bind_eq_ok.mp normalized
  obtain ⟨pattern, -, normalized⟩ := bind_eq_ok.mp normalized
  cases normalized
  exact ⟨rfl, rfl⟩

omit [CaseMapping] [AlphabetTable] [DatabaseText] in
/-- A dictionary of the groups holds the total of each segment. -/
theorem balanceIn_groups (rows : List FlowRow) (segment : Segment) :
    balanceIn ((groups FlowRow.segment rows).map fun group =>
      (group.1, (group.2.map FlowRow.signedBalance).sum)) segment =
      total FlowRow.signedBalance rows segment := by
  have same := lawful_beq_subsingleton (instBEqProd : BEq Segment) instBEqOfDecidableEq
  have distinct : (((groups FlowRow.segment rows).map fun group =>
      (group.1, (group.2.map FlowRow.signedBalance).sum)).map Prod.fst).Nodup := by
    rw [List.map_map]
    exact groups_nodup FlowRow.segment rows
  by_cases occurs : ∃ row ∈ rows, row.segment = segment
  · have member : (segment, total FlowRow.signedBalance rows segment) ∈
        (groups FlowRow.segment rows).map fun group =>
          (group.1, (group.2.map FlowRow.signedBalance).sum) :=
      List.mem_map.mpr ⟨(segment, rows.filter fun row => row.segment = segment),
        mem_groups.mpr ⟨occurs, rfl⟩, rfl⟩
    rw [balanceIn, same, lookup_of_mem distinct member]
    rfl
  · have absent : ((groups FlowRow.segment rows).map fun group =>
        (group.1, (group.2.map FlowRow.signedBalance).sum)).lookup segment = none := by
      rw [List.lookup_eq_none_iff]
      intro entry listed
      obtain ⟨group, member, rfl⟩ := List.mem_map.mp listed
      obtain ⟨found, -⟩ := mem_groups.mp member
      have different : segment ≠ group.1 := fun sameKey => occurs (by rwa [sameKey])
      exact bne_iff_ne.mpr different
    have nothing : rows.filter (fun row => row.segment = segment) = [] := by
      rw [List.filter_eq_nil_iff]
      intro row member
      simp only [decide_eq_true_eq]
      exact fun found => occurs ⟨row, member, found⟩
    rw [balanceIn, absent, total, nothing]
    rfl

omit [CaseMapping] [AlphabetTable] [DatabaseText] in
/-- A total over selected rows, as a sum over all rows. -/
theorem total_filter (metric : FlowRow → ℚ) (selected : FlowRow → Bool) (rows : List FlowRow)
    (segment : Segment) : total metric (rows.filter selected) segment =
      (rows.map fun row => if selected row && row.segment = segment then metric row else 0).sum := by
  rw [total, List.filter_filter, sum_filter_map]
  refine congrArg List.sum (List.map_congr_left fun row _ => ?_)
  rw [Bool.and_comm]

omit [CaseMapping] [AlphabetTable] in
/-- Entries before the range and entries in it are the entries up to its end. -/
theorem total_upTo {start : Instant} (starts : given.effectiveFrom = some start)
    (ordered : ∀ stop ∈ given.effectiveTo, start ≤ stop) (rows : List FlowRow) (segment : Segment) :
    total FlowRow.signedBalance
        (rows.filter fun row => given.undated row && row.entry.effectiveAt < start) segment +
      total FlowRow.signedBalance (rows.filter given.holds) segment =
      total FlowRow.signedBalance
        (rows.filter { given with effectiveFrom := none }.holds) segment := by
  rw [total_filter, total_filter, total_filter, ← List.sum_map_add]
  refine congrArg List.sum (List.map_congr_left fun row _ => ?_)
  have undated : { given with effectiveFrom := none }.undated row = given.undated row := rfl
  have early : row.entry.effectiveAt < start → ∀ stop ∈ given.effectiveTo,
      row.entry.effectiveAt < stop := fun before stop listed => before.trans_le (ordered stop listed)
  simp only [FlowConditions.holds, FlowConditions.dates, undated, starts, Option.mem_def,
    Option.some.injEq, forall_eq', reduceCtorEq, false_implies, implies_true, true_and]
  by_cases before : row.entry.effectiveAt < start
  · have inside : (∀ stop, given.effectiveTo = some stop → row.entry.effectiveAt < stop) = True :=
      eq_true (early before)
    simp [before, inside, not_le.mpr before]
  · simp [before, not_lt.mp before]

/-- What the read paths of one filter agree on. Records are added up by segment;
the series is compared with the opening balances and with the summary that starts
with the first entry. -/
structure ReadPathsAgree (filters : FinOpsFlowFilters) (selected : List FlowRow)
    (rows untilEnd : List SummaryRow) (opening : Balances) (points : List FlowPoint)
    (shares : FlowBreakdowns) : Prop where
  summary : SummaryBalanced rows
  summarized : ∀ segment, (∃ row ∈ rows, summarySegment row = segment) ↔
    ∃ row ∈ selected, row.segment = segment
  present : ∀ segment,
    (∃ point, (points.filter fun other => other.segment = segment).getLast? = some point) ↔
      ∃ row ∈ selected, row.segment = segment
  cumulative : ∀ segment point,
    (points.filter fun other => other.segment = segment).getLast? = some point →
      point.cumulativeBalance = balanceIn opening segment +
          sumOf FlowPoint.segment FlowPoint.balanceDelta points segment ∧
        point.cumulativeBalance = sumOf summarySegment SummaryRow.balance untilEnd segment
  settled : filters.Ordered → ∀ segment,
    balanceIn opening segment + sumOf FlowPoint.segment FlowPoint.balanceDelta points segment =
      sumOf summarySegment SummaryRow.balance untilEnd segment
  accounts : ∀ segment,
    sumOf accountSegment AccountShare.recognizedSavings shares.byAccount segment =
      sumOf summarySegment SummaryRow.recognizedSavings rows segment
  sources : ∀ segment,
    sumOf sourceSegment SourceShare.recognizedSavings shares.bySource segment =
      sumOf summarySegment SummaryRow.recognizedSavings rows segment

variable [SessionCalendar]

section Points

variable {store : Store} {filters : FinOpsFlowFilters} {given : FlowConditions}
  {opening : Balances} {unit : FlowGranularity} {points : List FlowPoint}
  (normalized : conditions filters = .ok given)
  (isOpening : openingBalances store filters = .ok opening)
  (series : timeseries store filters = .ok (unit, points))

include normalized isOpening series

/-- The points of the series follow its rows, and each carries the balance after it. -/
theorem timeseries_points :
    (∃ balances, Running opening (balances, points)) ∧
      points.map (fun point => (point.segment, point.balanceDelta)) =
        (sortByKey (fun group => seriesRank group.1)
          (groups (fun row => (row.segment, bucketOf (granularity filters) row.entry.effectiveAt))
            ((flowRows store).filter given.holds))).map fun group =>
          (group.1.1, (group.2.map FlowRow.signedBalance).sum) := by
  simp only [timeseries, normalized, isOpening, ok_bind] at series
  obtain ⟨-, rfl⟩ := Prod.mk.inj (Except.ok.inj series)
  exact ⟨⟨_, (Running.start opening).run _ _⟩, points_of_rows _ (opening, []) _⟩

/-- The deltas of a segment add up to the balance of its selected rows. -/
theorem series_deltas (segment : Segment) :
    sumOf FlowPoint.segment FlowPoint.balanceDelta points segment =
      total FlowRow.signedBalance ((flowRows store).filter given.holds) segment := by
  rw [sumOf_pairs, (timeseries_points normalized isOpening series).2]
  exact sumOf_groups _ seriesRank Prod.fst Prod.snd FlowRow.signedBalance _ Prod.fst
    (fun _ => rfl) (fun _ => rfl) (fun _ => rfl) _ segment

/-- A segment has a last point exactly where a row of it is selected. -/
theorem series_present (segment : Segment) :
    (∃ point, (points.filter fun other => other.segment = segment).getLast? = some point) ↔
      ∃ row ∈ (flowRows store).filter given.holds, row.segment = segment := by
  have listed := (timeseries_points normalized isOpening series).2
  constructor
  · rintro ⟨point, last⟩
    obtain ⟨member, same⟩ := List.mem_filter.mp (List.mem_of_getLast? last)
    obtain rfl : point.segment = segment := by simpa using same
    have pair : (point.segment, point.balanceDelta) ∈
        points.map fun point => (point.segment, point.balanceDelta) := List.mem_map_of_mem member
    rw [listed] at pair
    obtain ⟨group, groupMember, same⟩ := List.mem_map.mp pair
    obtain ⟨⟨row, selected, keyed⟩, -⟩ := mem_groups.mp ((mem_sortByKey _ _ _).mp groupMember)
    refine ⟨row, selected, ?_⟩
    rw [← (Prod.mk.inj same).1, ← keyed]
  · rintro ⟨row, selected, rfl⟩
    have grouped := mem_groups_of_mem
      (fun row : FlowRow => (row.segment, bucketOf (granularity filters) row.entry.effectiveAt))
      selected
    have pair := List.mem_map_of_mem
      (f := fun group : SeriesKey × List FlowRow =>
        (group.1.1, (group.2.map FlowRow.signedBalance).sum))
      ((mem_sortByKey (fun group : SeriesKey × List FlowRow => seriesRank group.1) _ _).mpr grouped)
    rw [← listed] at pair
    obtain ⟨point, member, same⟩ := List.mem_map.mp pair
    have inSegment : point ∈ points.filter fun other => other.segment = row.segment :=
      List.mem_filter.mpr ⟨member, by simpa using (Prod.mk.inj same).1⟩
    exact ⟨_, List.getLast?_eq_some_getLast (List.ne_nil_of_mem inSegment)⟩

/-- In a range that does not end before it starts, opening balance and deltas add up to the
balance of all entries up to its end. -/
theorem series_settled (ordered : filters.Ordered) (segment : Segment) :
    balanceIn opening segment + sumOf FlowPoint.segment FlowPoint.balanceDelta points segment =
      total FlowRow.signedBalance
        ((flowRows store).filter { given with effectiveFrom := none }.holds) segment := by
  rw [series_deltas normalized isOpening series]
  obtain ⟨sameFrom, sameTo⟩ := conditions_dates normalized
  cases from_ : filters.effectiveFrom with
  | none =>
    simp only [openingBalances, from_] at isOpening
    cases isOpening
    have whole : { given with effectiveFrom := none } = given := by
      rw [← sameFrom.trans from_]
    rw [whole]
    exact zero_add _
  | some start =>
    simp only [openingBalances, from_, normalized, ok_bind] at isOpening
    obtain rfl := Except.ok.inj isOpening
    rw [balanceIn_groups]
    exact total_upTo (sameFrom.trans from_)
      (fun stop stops => ordered start from_ stop (sameTo ▸ stops)) _ segment

/-- The last balance of the series adds up the opening balance and the deltas, and
is the balance of all entries up to the end of the range. -/
theorem series_agrees {segment : Segment} {point : FlowPoint}
    (last : (points.filter fun other => other.segment = segment).getLast? = some point) :
    point.cumulativeBalance = balanceIn opening segment +
        sumOf FlowPoint.segment FlowPoint.balanceDelta points segment ∧
      point.cumulativeBalance = total FlowRow.signedBalance
        ((flowRows store).filter { given with effectiveFrom := none }.holds) segment := by
  obtain ⟨⟨balances, running⟩, -⟩ := timeseries_points normalized isOpening series
  have atLast := (running.last segment point last).trans (running.balance segment)
  refine ⟨atLast, atLast.trans (series_settled normalized isOpening series ?_ segment)⟩
  -- the range of a selected row does not end before it starts
  obtain ⟨row, selected, -⟩ := (series_present normalized isOpening series segment).mp ⟨point, last⟩
  obtain ⟨sameFrom, sameTo⟩ := conditions_dates normalized
  have inRange : given.dates row = true :=
    (Bool.and_eq_true_iff.mp (List.mem_filter.mp selected).2).2
  simp only [FlowConditions.dates, decide_eq_true_eq] at inRange
  intro start starts stop stops
  exact (inRange.1 start (sameFrom.trans starts)).trans (inRange.2 stop (sameTo.trans stops)).le

end Points

omit [SessionCalendar] in
/-- The listed shares of a segment add up as the shares of its accounts do. -/
theorem sumOf_byAccount {store : Store} {filters : FinOpsFlowFilters} {given : FlowConditions}
    (normalized : conditions filters = .ok given) {topN : ℕ} {shares : FlowBreakdowns}
    (broken : breakdowns store filters topN = .ok shares) (segment : Segment) :
    sumOf accountSegment AccountShare.recognizedSavings shares.byAccount segment =
      sumOf accountSegment AccountShare.recognizedSavings
        (accountShares (accountRows store ((flowRows store).filter given.holds))) segment := by
  simp only [breakdowns, normalized, ok_bind] at broken
  obtain rfl := Except.ok.inj broken
  let listed := accountShares (accountRows store ((flowRows store).filter given.holds))
  let grouped := groups accountSegment listed
  have inSegment : ∀ group ∈ sortByKey (fun group => segmentRank group.1) grouped,
      ∀ share ∈ group.2, accountSegment share = group.1 := by
    intro group member share shareMember
    obtain ⟨-, members⟩ := mem_groups.mp ((mem_sortByKey _ _ _).mp member)
    rw [members] at shareMember
    simpa using (List.mem_filter.mp shareMember).2
  have arranged := (((sortByKey_perm (fun group => segmentRank group.1) grouped).filter
    fun group => group.1 = segment).map fun group =>
      (group.2.map AccountShare.recognizedSavings).sum).sum_eq
  have shared := sum_groups_filter accountSegment (fun found => decide (found = segment))
    AccountShare.recognizedSavings listed
  exact (sumOf_topShares _ inSegment).trans (arranged.trans shared)

omit [SessionCalendar] in
/-- The shares of a segment add up to its recognised savings. -/
theorem shares_agree {store : Store} (referenced : Referenced store)
    {filters : FinOpsFlowFilters} {given : FlowConditions}
    (normalized : conditions filters = .ok given) {topN : ℕ} {shares : FlowBreakdowns}
    (broken : breakdowns store filters topN = .ok shares) (segment : Segment) :
    sumOf accountSegment AccountShare.recognizedSavings shares.byAccount segment =
        total FlowRow.recognizedSavings ((flowRows store).filter given.holds) segment ∧
      sumOf sourceSegment SourceShare.recognizedSavings shares.bySource segment =
        total FlowRow.recognizedSavings ((flowRows store).filter given.holds) segment := by
  constructor
  · have stored : ∀ row ∈ (flowRows store).filter given.holds,
        row.entry ∈ store.ledgerEntries.rows := by
      intro row member
      obtain ⟨entry, entryMember, rfl⟩ := List.mem_map.mp (List.mem_filter.mp member).1
      exact entryMember
    have added := sumOf_accountShares
      (accountRows store ((flowRows store).filter given.holds)) segment
    rw [accountRows_fst referenced stored] at added
    exact (sumOf_byAccount normalized broken segment).trans added
  · simp only [breakdowns, normalized, ok_bind] at broken
    obtain rfl := Except.ok.inj broken
    exact sumOf_groups _ sourceRank sourceSegment SourceShare.recognizedSavings
      FlowRow.recognizedSavings _ Prod.fst (fun _ => rfl) (fun _ => rfl) (fun _ => rfl) _ segment

/-- For every ledger and all filters that the summary accepts, the other paths
accept them too and agree with it. -/
theorem read_paths_agree {store : Store} (referenced : Referenced store)
    (filters : FinOpsFlowFilters) (topN : ℕ) {rows : List SummaryRow}
    (accepted : summary store filters = .ok rows) :
    ∃ given untilEnd opening unit points shares,
      conditions filters = .ok given ∧
      summary store { filters with effectiveFrom := none } = .ok untilEnd ∧
      openingBalances store filters = .ok opening ∧
      timeseries store filters = .ok (unit, points) ∧
      breakdowns store filters topN = .ok shares ∧
      ReadPathsAgree filters ((flowRows store).filter given.holds) rows untilEnd opening points
        shares := by
  obtain ⟨given, normalized, -⟩ := summary_eq_ok accepted
  have normalizedUntil := conditions_from normalized none
  obtain ⟨untilEnd, untilAccepted⟩ :
      ∃ untilEnd, summary store { filters with effectiveFrom := none } = .ok untilEnd := by
    rw [summary, normalizedUntil]
    exact ⟨_, rfl⟩
  obtain ⟨opening, isOpening⟩ : ∃ opening, openingBalances store filters = .ok opening := by
    unfold openingBalances
    split
    · exact ⟨_, rfl⟩
    · rw [normalized]
      exact ⟨_, rfl⟩
  obtain ⟨unit, points, series⟩ :
      ∃ unit points, timeseries store filters = .ok (unit, points) := by
    rw [timeseries, normalized, isOpening]
    exact ⟨_, _, rfl⟩
  obtain ⟨shares, broken⟩ : ∃ shares, breakdowns store filters topN = .ok shares := by
    rw [breakdowns, normalized]
    exact ⟨_, rfl⟩
  refine ⟨given, untilEnd, opening, unit, points, shares, normalized, untilAccepted, isOpening,
    series, broken, summary_balanced accepted, summarized_iff normalized accepted,
    series_present normalized isOpening series, fun segment point last => ?_,
    fun ordered segment => ?_, fun segment => ?_, fun segment => ?_⟩
  · rw [(sumOf_summary normalizedUntil untilAccepted segment).2]
    exact series_agrees normalized isOpening series last
  · rw [(sumOf_summary normalizedUntil untilAccepted segment).2]
    exact series_settled normalized isOpening series ordered segment
  · rw [(sumOf_summary normalized accepted segment).1]
    exact (shares_agree referenced normalized broken segment).1
  · rw [(sumOf_summary normalized accepted segment).1]
    exact (shares_agree referenced normalized broken segment).2

end Agreement

section Sample

attribute [local instance] asciiCase asciiAlphabet asciiText utcSession

def sampleAccount : CloudAccount := ⟨1, "aws", "111122223333", "Production"⟩

/-- A saving of January and its reversal in February. -/
def sampleSaving : FinOpsLedgerEntry where
  id := "saving"
  entryType := .saving
  direction := .credit
  provider := "aws"
  cloudAccountId := 1
  accountId := "111122223333"
  amount := 100
  currency := "USD"
  effectiveAt := midnight (dayNumber 2026 1 10)
  source := .manual
  sourceReference := none
  opportunityId := none
  sourceEventId := none
  idempotencyKey := some "manual:1"
  description := some "Rightsizing"
  context := []
  periodicity := .monthly
  referencePeriodStart := none
  referencePeriodEnd := none
  createdBy := some "admin"
  reversalOfId := none

def sampleReversal : FinOpsLedgerEntry :=
  { sampleSaving with
    id := "reversal"
    entryType := .adjustment
    direction := .debit
    effectiveAt := midnight (dayNumber 2026 2 10)
    source := .system
    sourceReference := some "saving"
    idempotencyKey := some "finops-reversal:saving"
    description := some "Reversal of ledger entry saving"
    reversalOfId := some "saving" }

def sampleLedger : Store :=
  { Store.empty with
    cloudAccounts := [sampleAccount]
    ledgerEntries := ⟨[sampleSaving, sampleReversal], by decide, by decide⟩ }

/-- The sample has one segment with points, and its last balance is zero again. -/
theorem read_paths_agree_sample : ∃ rows given untilEnd opening unit points shares,
    summary sampleLedger noFilters = .ok rows ∧ conditions noFilters = .ok given ∧
      summary sampleLedger { noFilters with effectiveFrom := none } = .ok untilEnd ∧
      openingBalances sampleLedger noFilters = .ok opening ∧
      timeseries sampleLedger noFilters = .ok (unit, points) ∧
      breakdowns sampleLedger noFilters 10 = .ok shares ∧
      ReadPathsAgree noFilters ((flowRows sampleLedger).filter given.holds) rows untilEnd opening
        points shares := by
  have referenced : Referenced sampleLedger := ⟨by decide, by decide⟩
  obtain ⟨given, untilEnd, opening, unit, points, shares, agreed⟩ :=
    read_paths_agree referenced noFilters 10 rfl
  exact ⟨_, given, untilEnd, opening, unit, points, shares, rfl, agreed⟩

end Sample

end FinopsAnalytics.FinopsFlowAgreement
