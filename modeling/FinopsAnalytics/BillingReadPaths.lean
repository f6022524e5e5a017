import FinopsAnalytics.AwsBillingResponses

/-!
# Agreement of the billing read paths

Totals, points, groups and items are entries under distinct keys, each with the decimal
sum of the rows of its key in their order. Where no addition is rounded, sums over the
entries of one kind are therefore sums over those of another. The loop that fills the
gaps adds the buckets of the period, which lie side by side.
-/

namespace FinopsAnalytics.BillingReadPaths

open CivilCalendar CostExplorer BillingProfiles Dictionaries KeyedAccumulations DistinctKeys
open GroupedSums AwsBillingResponses DecimalArithmetic

universe u v

/-- What the amounts of rows add up to in their order. -/
def decimalSum (rows : List BillingRow) : ℚ := (rows.map BillingRow.amount).foldl add 0

section Shares

variable {ε : Type u} {κ : Type v} [DecidableEq κ]

/-- Entries under distinct keys, each with what the rows of its key add up to. -/
structure Shares (entryKey : ε → κ) (amount : ε → ℚ) (entries : List ε) (key : BillingRow → κ)
    (rows : List BillingRow) : Prop where
  distinct : (entries.map entryKey).Nodup
  covered : ∀ row ∈ rows, key row ∈ entries.map entryKey
  held : ∀ entry ∈ entries,
    amount entry = decimalSum (rows.filter fun row => key row = entryKey entry)

variable {entryKey : ε → κ} {amount : ε → ℚ} {entries : List ε} {key : BillingRow → κ}
  {rows : List BillingRow}

/-- Some of the rows add up to their sum where all do. -/
theorem decimalSum_filter (exact : SumsExactly (rows.map BillingRow.amount))
    (selected : BillingRow → Bool) :
    decimalSum (rows.filter selected) = ((rows.filter selected).map BillingRow.amount).sum :=
  (exact.sublist (List.filter_sublist.map _)).foldl_eq_sum

/-- The entries of selected keys add up to the rows of these keys. -/
theorem Shares.sum_selected (shares : Shares entryKey amount entries key rows)
    (exact : SumsExactly (rows.map BillingRow.amount)) (selected : κ → Bool) :
    ((entries.filter fun entry => selected (entryKey entry)).map amount).sum =
      ((rows.filter fun row => selected (key row)).map BillingRow.amount).sum :=
  sum_entries selected shares.distinct shares.covered fun entry member => by
    rw [shares.held entry member, decimalSum_filter exact]

/-- All entries add up to all rows. -/
theorem Shares.sum_all (shares : Shares entryKey amount entries key rows)
    (exact : SumsExactly (rows.map BillingRow.amount)) :
    (entries.map amount).sum = (rows.map BillingRow.amount).sum := by
  have every := shares.sum_selected exact fun _ => true
  simpa using every

/-- Sorted, the entries share as before. -/
theorem Shares.sorted {ρ : Type*} [LinearOrder ρ] (rank : ε → ρ)
    (shares : Shares entryKey amount entries key rows) :
    Shares entryKey amount (sortByKey rank entries) key rows := by
  have arranged := sortByKey_perm rank entries
  exact
    { distinct := (arranged.map entryKey).nodup_iff.mpr shares.distinct
      covered := fun row member => (arranged.map entryKey).mem_iff.mpr (shares.covered row member)
      held := fun entry member => shares.held entry (arranged.mem_iff.mp member) }

/-- Entries that are shown with their keys and amounts share as before. -/
theorem Shares.shown {δ : Type*} (present : ε → δ) {shownKey : δ → κ} {shownAmount : δ → ℚ}
    (keyed : ∀ entry ∈ entries, shownKey (present entry) = entryKey entry)
    (amounts : ∀ entry ∈ entries, shownAmount (present entry) = amount entry)
    (shares : Shares entryKey amount entries key rows) :
    Shares shownKey shownAmount (entries.map present) key rows := by
  have sameKeys : (entries.map present).map shownKey = entries.map entryKey := by
    rw [List.map_map]
    exact List.map_congr_left keyed
  constructor
  · rw [sameKeys]
    exact shares.distinct
  · rw [sameKeys]
    exact shares.covered
  · intro shown member
    obtain ⟨entry, listed, rfl⟩ := List.mem_map.mp member
    rw [keyed entry listed, amounts entry listed]
    exact shares.held entry listed

/-- The entries of one part of the keys share the rows of that part. -/
theorem Shares.part {ι : Type*} [DecidableEq ι] {pairKey : ε → ι × κ} {pair : BillingRow → ι × κ}
    (shares : Shares pairKey amount entries pair rows) (part : ι) :
    Shares (fun entry => (pairKey entry).2) amount
      (entries.filter fun entry => (pairKey entry).1 = part) (fun row => (pair row).2)
      (rows.filter fun row => (pair row).1 = part) := by
  constructor
  · have distinct : ((entries.filter fun entry => (pairKey entry).1 = part).map pairKey).Nodup :=
      shares.distinct.sublist (List.filter_sublist.map _)
    refine List.Nodup.of_map (fun rest => (part, rest)) ?_
    rw [List.map_map]
    convert distinct using 1
    refine List.map_congr_left fun entry member => ?_
    have own := of_decide_eq_true (List.mem_filter.mp member).2
    exact Prod.ext own.symm rfl
  · intro row member
    obtain ⟨listed, own⟩ := List.mem_filter.mp member
    obtain ⟨entry, entryListed, same⟩ := List.mem_map.mp (shares.covered row listed)
    have inPart : (pairKey entry).1 = part := by
      rw [same]
      exact of_decide_eq_true own
    exact List.mem_map.mpr ⟨entry, List.mem_filter.mpr ⟨entryListed, decide_eq_true inPart⟩,
      congrArg Prod.snd same⟩
  · intro entry member
    obtain ⟨listed, own⟩ := List.mem_filter.mp member
    rw [shares.held entry listed, List.filter_filter]
    refine congrArg decimalSum (List.filter_congr fun row _ => ?_)
    rw [← of_decide_eq_true own, ← Bool.decide_and]
    exact decide_eq_decide.mpr (Prod.ext_iff.trans and_comm)

end Shares

/-! ## What the loops over the rows add up -/

theorem foldl_addRow (rows : List BillingRow) (aggregate : Aggregate) :
    (rows.foldl Aggregate.addRow aggregate).amount =
      (rows.map BillingRow.amount).foldl add aggregate.amount := by
  induction rows generalizing aggregate with
  | nil => rfl
  | cons row rest inductionHypothesis => exact inductionHypothesis _

theorem foldl_sampled (rows : List BillingRow) (sampled : SampledAggregate) :
    (rows.foldl SampledAggregate.addRow sampled).aggregate =
      rows.foldl Aggregate.addRow sampled.aggregate := by
  induction rows generalizing sampled with
  | nil => rfl
  | cons row rest inductionHypothesis => exact inductionHypothesis _

variable {rows : List BillingRow} {granularity : BillingGranularity} {request : AwsBillingRequest}

theorem folded_amount {aggregate : Aggregate}
    (isAggregate : folded (fun _ => .empty) Aggregate.addRow rows = some aggregate) :
    aggregate.amount = decimalSum rows := by
  cases rows with
  | nil => cases isAggregate
  | cons first rest =>
    cases isAggregate
    exact foldl_addRow (first :: rest) .empty

theorem folded_sampled {sampled : SampledAggregate}
    (isSampled : folded .first SampledAggregate.addRow rows = some sampled) :
    sampled.aggregate.amount = decimalSum rows := by
  cases rows with
  | nil => cases isSampled
  | cons first rest =>
    cases isSampled
    rw [foldl_sampled]
    exact foldl_addRow (first :: rest) .empty

/-- The entries of a loop share the rows. -/
theorem accumulate_shares {κ : Type v} [DecidableEq κ] (key : BillingRow → κ)
    (rows : List BillingRow) :
    Shares Prod.fst (fun entry : κ × Aggregate => entry.2.amount)
      (accumulate key (fun _ => .empty) Aggregate.addRow rows) key rows where
  distinct := accumulate_nodup key _ _ rows
  covered row member := (mem_keys_accumulate key _ _).mpr ⟨row, member, rfl⟩
  held _ member := folded_amount ((mem_accumulate key _ _).mp member)

theorem sampled_shares {κ : Type v} [DecidableEq κ] (key : BillingRow → κ)
    (rows : List BillingRow) :
    Shares Prod.fst (fun entry : κ × SampledAggregate => entry.2.aggregate.amount)
      (accumulate key .first SampledAggregate.addRow rows) key rows where
  distinct := accumulate_nodup key _ _ rows
  covered row member := (mem_keys_accumulate key _ _).mpr ⟨row, member, rfl⟩
  held _ member := folded_sampled ((mem_accumulate key _ _).mp member)

/-! ## The buckets of a period -/

/-- Whether a bucket of a granularity starts at a date. -/
def StartsBucket : BillingGranularity → Date → Prop
  | .daily, _ => True
  | .monthly, date => (civil date).2.2 = 1

/-- A bucket of a period: it starts with the period or at a boundary and ends at the next
boundary or with the period. -/
structure IsBucket (granularity : BillingGranularity) (startDate endDate : Date)
    (bucket : Date × Date) : Prop where
  begun : startDate ≤ bucket.1
  within : bucket.1 < endDate
  starts : bucket.1 = startDate ∨ StartsBucket granularity bucket.1
  ends : bucket.2 = min (nextBucketStart bucket.1 granularity) endDate

theorem nextBucketStart_monthly (date : Date) :
    nextBucketStart date .monthly = monthStart (monthIndex date + 1) :=
  monthBounds_stop date

theorem startsBucket_next (granularity : BillingGranularity) (date : Date) :
    StartsBucket granularity (nextBucketStart date granularity) := by
  cases granularity with
  | daily => trivial
  | monthly =>
    rw [nextBucketStart_monthly]
    exact civil_monthStart (monthIndex date + 1)

/-- No bucket starts between a date and the start of the bucket after it. -/
theorem next_le_of_starts {date later : Date} (after : date < later)
    (starts : StartsBucket granularity later) :
    nextBucketStart date granularity ≤ later := by
  cases granularity with
  | daily => exact Int.add_one_le_of_lt after
  | monthly =>
    obtain ⟨-, -, begun, -, -⟩ := civil_counted date
    obtain ⟨-, -, -, -, day⟩ := civil_counted later
    have first : monthStart (monthIndex later) = later := by
      unfold StartsBucket at starts
      change (_ : ℤ) = _
      omega
    rw [nextBucketStart_monthly, ← first, monthStart_strictMono.le_iff_le]
    have ascending := monthStart_strictMono.lt_iff_lt.mp ((begun.trans_lt after).trans_eq first.symm)
    omega

/-- A period that has not ended begins with a bucket, and its other buckets are those of
the rest of the period. -/
theorem isBucket_iff {startDate endDate : Date} (unended : startDate < endDate)
    {bucket : Date × Date} :
    IsBucket granularity startDate endDate bucket ↔
      bucket = (startDate, min (nextBucketStart startDate granularity) endDate) ∨
        IsBucket granularity (min (nextBucketStart startDate granularity) endDate) endDate
          bucket := by
  obtain ⟨start, stop⟩ := bucket
  have later := lt_nextBucketStart startDate granularity
  constructor
  · intro isBucket
    rcases isBucket.starts with rfl | boundary
    · exact Or.inl (Prod.ext rfl isBucket.ends)
    rcases isBucket.begun.eq_or_lt with rfl | after
    · exact Or.inl (Prod.ext rfl isBucket.ends)
    · have begun := (min_le_left _ endDate).trans (next_le_of_starts after boundary)
      exact Or.inr ⟨begun, isBucket.within, Or.inr boundary, isBucket.ends⟩
  · rintro (isFirst | isBucket)
    · obtain ⟨rfl, rfl⟩ := Prod.mk.inj isFirst
      exact ⟨le_rfl, unended, Or.inl rfl, rfl⟩
    · have begun : startDate ≤ start :=
        (lt_min later unended).le.trans isBucket.begun
      refine ⟨begun, isBucket.within, Or.inr ?_, isBucket.ends⟩
      rcases isBucket.starts with isStart | boundary
      · have within : start < endDate := isBucket.within
        have isNext : start = nextBucketStart startDate granularity := by
          rw [show start = _ from isStart] at within ⊢
          exact min_eq_left ((min_lt_iff.mp within).resolve_right (lt_irrefl _)).le
        change StartsBucket granularity start
        rw [isNext]
        exact startsBucket_next granularity startDate
      · exact boundary

/-- Every day of a period lies in a bucket. -/
theorem exists_bucket (granularity : BillingGranularity) {startDate endDate day : Date} (begun : startDate ≤ day) (unended : day < endDate) :
    ∃ bucket, IsBucket granularity startDate endDate bucket ∧ bucket.1 ≤ day ∧ day < bucket.2 := by
  have open_ : startDate < endDate := begun.trans_lt unended
  by_cases inside : day < nextBucketStart startDate granularity
  · exact ⟨_, (isBucket_iff open_).mpr (Or.inl rfl), begun, lt_min inside unended⟩
  · have next : min (nextBucketStart startDate granularity) endDate ≤ day :=
      (min_le_left _ _).trans (le_of_not_gt inside)
    obtain ⟨bucket, isBucket, contains⟩ := exists_bucket granularity next unended
    exact ⟨bucket, (isBucket_iff open_).mpr (Or.inr isBucket), contains⟩
termination_by (endDate - startDate).toNat
decreasing_by
  have later := lt_min (lt_nextBucketStart startDate granularity) open_
  exact (Int.toNat_lt_toNat (sub_pos.mpr open_)).mpr (sub_lt_sub_left later _)

/-- No two buckets of a period share a day. -/
theorem bucket_unique {startDate endDate day : Date} {first second : Date × Date}
    (isFirst : IsBucket granularity startDate endDate first)
    (isSecond : IsBucket granularity startDate endDate second)
    (inFirst : first.1 ≤ day ∧ day < first.2) (inSecond : second.1 ≤ day ∧ day < second.2) :
    first = second := by
  -- a bucket that starts after another one starts where the other has ended
  have apart {earlier later : Date × Date} (isEarlier : IsBucket granularity startDate endDate earlier)
      (isLater : IsBucket granularity startDate endDate later) (contains : day < earlier.2)
      (reached : later.1 ≤ day) : ¬ earlier.1 < later.1 := by
    intro after
    have boundary : StartsBucket granularity later.1 := isLater.starts.resolve_left fun isStart =>
      absurd isEarlier.begun (not_le_of_gt (after.trans_eq isStart))
    have stopped : earlier.2 ≤ later.1 := by
      rw [isEarlier.ends]
      exact (min_le_left _ _).trans (next_le_of_starts after boundary)
    exact absurd (contains.trans_le (stopped.trans reached)) (lt_irrefl _)
  have sameStart : first.1 = second.1 := le_antisymm
    (le_of_not_gt (apart isSecond isFirst inSecond.2 inFirst.1))
    (le_of_not_gt (apart isFirst isSecond inFirst.2 inSecond.1))
  exact Prod.ext sameStart (by rw [isFirst.ends, isSecond.ends, sameStart])

/-- The loop that fills the gaps ends, having set defaults for the buckets of the period in
the given currencies. -/
theorem fillGaps_eq (granularity : BillingGranularity) (endDate : Date) (currencies : List String)
    (startDate : Date) : ∃ keys : List BucketKey,
      (∀ key, key ∈ keys ↔
        IsBucket granularity startDate endDate (key.1, key.2.1) ∧ key.2.2 ∈ currencies) ∧
      ∀ values, fillGaps granularity endDate currencies startDate values =
        setDefaults keys zeroAggregate values := by
  by_cases unended : startDate < endDate
  · obtain ⟨keys, isKey, filled⟩ := fillGaps_eq granularity endDate currencies
      (min (nextBucketStart startDate granularity) endDate)
    let first := currencies.map fun currency : String =>
      (startDate, min (nextBucketStart startDate granularity) endDate, currency)
    refine ⟨first ++ keys, fun key => ?_, fun values => ?_⟩
    · rw [List.mem_append, isKey, isBucket_iff unended]
      obtain ⟨start, stop, currency⟩ := key
      simp only [first, List.mem_map, Prod.mk.injEq]
      constructor
      · rintro (⟨other, listed, rfl, rfl, rfl⟩ | ⟨isBucket, listed⟩)
        · exact ⟨Or.inl ⟨rfl, rfl⟩, listed⟩
        · exact ⟨Or.inr isBucket, listed⟩
      · rintro ⟨⟨rfl, rfl⟩ | isBucket, listed⟩
        · exact Or.inl ⟨currency, listed, rfl, rfl, rfl⟩
        · exact Or.inr ⟨isBucket, listed⟩
    · rw [fillGaps, dif_pos unended, filled]
      simp only [setDefaults, first, List.foldl_append, List.foldl_map]
  · refine ⟨[], fun key => ⟨fun member => (List.not_mem_nil member).elim, fun isKey => ?_⟩,
      fun values => ?_⟩
    · exact absurd (isKey.1.begun.trans_lt isKey.1.within) unended
    · rw [fillGaps, dif_neg unended]
      rfl
termination_by (endDate - startDate).toNat
decreasing_by
  have later := lt_min (lt_nextBucketStart startDate granularity) unended
  exact (Int.toNat_lt_toNat (sub_pos.mpr unended)).mpr (sub_lt_sub_left later _)

/-! ## Who shares the rows -/

def pointKey (point : BillingSeriesPoint) : BucketKey :=
  (point.startDate, point.endDate, point.currency)

def itemKey (item : BillingBreakdownItem) : String × String := (item.key, item.currency)

@[simp] theorem seriesGroup_key (groupBy : BillingGroupBy) (key currency : String)
    (sampled : SampledAggregate) : (seriesGroup groupBy key currency sampled).key = key := by
  unfold seriesGroup
  dsimp only
  split <;> try split
  all_goals rfl

@[simp] theorem seriesGroup_amount (groupBy : BillingGroupBy) (key currency : String)
    (sampled : SampledAggregate) :
    (seriesGroup groupBy key currency sampled).amount = sampled.aggregate.amount := by
  unfold seriesGroup
  dsimp only
  split <;> try split
  all_goals rfl

@[simp] theorem seriesGroup_currency (groupBy : BillingGroupBy) (key currency : String)
    (sampled : SampledAggregate) :
    (seriesGroup groupBy key currency sampled).currency = currency := by
  unfold seriesGroup
  dsimp only
  split <;> try split
  all_goals rfl

theorem totals_share (request : AwsBillingRequest) (rows : List BillingRow) :
    Shares BillingSummaryTotal.currency BillingSummaryTotal.amount (summary request rows).totals
      BillingRow.currency rows := by
  have shares := (accumulate_shares BillingRow.currency rows).sorted Prod.fst
  exact shares.shown _ (fun _ _ => rfl) fun _ _ => rfl

/-- A bucket that is filled in has no rows, so it shares them with zero. -/
theorem filledValues_share (request : AwsBillingRequest) (rows : List BillingRow) :
    Shares Prod.fst (fun entry : BucketKey × Aggregate => entry.2.amount)
      (filledValues request rows) bucketKey rows := by
  have base := accumulate_shares bucketKey rows
  obtain ⟨keys, -, filled⟩ := fillGaps_eq request.granularity request.endDate
    (rows.map BillingRow.currency).eraseDups request.startDate
  rw [filledValues, filled]
  constructor
  · exact setDefaults_nodup keys base.distinct
  · exact fun row member => mem_keys_setDefaults.mpr (Or.inr (base.covered row member))
  · intro entry member
    rcases mem_setDefaults.mp member with old | ⟨-, unlisted, isZero⟩
    · exact base.held entry old
    · have rowless : (rows.filter fun row => bucketKey row = entry.1) = [] :=
        List.filter_eq_nil_iff.mpr fun row listed same =>
          unlisted (of_decide_eq_true same ▸ base.covered row listed)
      rw [rowless, isZero]
      rfl

theorem points_share (request : AwsBillingRequest) (rows : List BillingRow) :
    Shares pointKey BillingSeriesPoint.amount (timeseries request rows).points bucketKey rows := by
  have shares := (filledValues_share request rows).sorted fun entry => bucketRank entry.1
  exact shares.shown _ (fun _ _ => rfl) fun _ _ => rfl

theorem groups_share {groupBy : BillingGroupBy} (grouped : groupBy ≠ .none)
    (rows : List BillingRow) (bucket : BucketKey) :
    Shares BillingSeriesGroup.key BillingSeriesGroup.amount (pointGroups groupBy rows bucket)
      seriesKey (rows.filter fun row => bucketKey row = bucket) := by
  unfold pointGroups
  rw [if_neg grouped]
  have shares := (sampled_shares (fun row => (bucketKey row, seriesKey row)) rows).sorted
    fun entry => groupRank entry.1
  exact (shares.part bucket).shown _ (fun _ _ => seriesGroup_key ..)
    fun _ _ => seriesGroup_amount ..

theorem items_share {response : BillingBreakdownResponse}
    (answered : breakdown request rows = .ok response) :
    Shares itemKey BillingSeriesGroup.amount response.items
      (fun row => (seriesKey row, row.currency)) rows := by
  unfold breakdown at answered
  by_cases ungrouped : request.groupBy = .none
  · rw [if_pos ungrouped] at answered
    cases answered
  · rw [if_neg ungrouped] at answered
    cases answered
    have shares := (sampled_shares (fun row => (seriesKey row, row.currency)) rows).sorted
      fun entry => toLex entry.1
    exact shares.shown _
      (fun _ _ => Prod.ext (seriesGroup_key ..) (seriesGroup_currency ..))
      fun _ _ => seriesGroup_amount ..

/-- An item has rows. -/
theorem item_keyed {response : BillingBreakdownResponse}
    (answered : breakdown request rows = .ok response) {item : BillingBreakdownItem}
    (listed : item ∈ response.items) :
    ∃ row ∈ rows, (seriesKey row, row.currency) = itemKey item := by
  unfold breakdown at answered
  by_cases ungrouped : request.groupBy = .none
  · rw [if_pos ungrouped] at answered
    cases answered
  · rw [if_neg ungrouped] at answered
    cases answered
    obtain ⟨entry, sorted, rfl⟩ := List.mem_map.mp listed
    have member := (mem_sortByKey _ _ entry).mp sorted
    obtain ⟨row, rowListed, isKey⟩ := (mem_keys_accumulate
      (fun row => (seriesKey row, row.currency)) .first SampledAggregate.addRow).mp
      (List.mem_map_of_mem member)
    refine ⟨row, rowListed, isKey.trans ?_⟩
    exact Prod.ext (seriesGroup_key ..).symm (seriesGroup_currency ..).symm

/-- The groups of a point have its currency. -/
theorem group_currency {point : BillingSeriesPoint}
    (listed : point ∈ (timeseries request rows).points) {group : BillingSeriesGroup}
    (member : group ∈ point.groups) :
    group.currency = point.currency ∧
      point.groups = pointGroups request.groupBy rows (pointKey point) := by
  obtain ⟨entry, -, rfl⟩ := List.mem_map.mp listed
  refine ⟨?_, rfl⟩
  change group ∈ pointGroups request.groupBy rows entry.1 at member
  unfold pointGroups at member
  by_cases ungrouped : request.groupBy = .none
  · rw [if_pos ungrouped] at member
    cases member
  · rw [if_neg ungrouped] at member
    obtain ⟨found, -, rfl⟩ := List.mem_map.mp member
    exact seriesGroup_currency ..

/-! ## The read paths -/

/-- Totals, points, groups and items each share all rows, every addition being rounded. -/
structure Partitioned (request : AwsBillingRequest) (rows : List BillingRow) : Prop where
  totals : Shares BillingSummaryTotal.currency BillingSummaryTotal.amount
    (summary request rows).totals BillingRow.currency rows
  points : Shares pointKey BillingSeriesPoint.amount (timeseries request rows).points bucketKey rows
  groups : request.groupBy ≠ .none → ∀ point ∈ (timeseries request rows).points,
    (∀ group ∈ point.groups, group.currency = point.currency) ∧
      Shares BillingSeriesGroup.key BillingSeriesGroup.amount point.groups seriesKey
        (rows.filter fun row => bucketKey row = pointKey point)
  items : request.groupBy ≠ .none → ∃ response, breakdown request rows = .ok response ∧
    Shares itemKey BillingSeriesGroup.amount response.items
      (fun row => (seriesKey row, row.currency)) rows

/-- The sums of the read paths are the same. -/
structure SumsAgree (request : AwsBillingRequest) (rows : List BillingRow) : Prop where
  points : ∀ total ∈ (summary request rows).totals,
    (((timeseries request rows).points.filter fun point => point.currency = total.currency).map
      BillingSeriesPoint.amount).sum = total.amount
  currencies : ∀ point ∈ (timeseries request rows).points,
    ∃ total ∈ (summary request rows).totals, total.currency = point.currency
  groups : request.groupBy ≠ .none → ∀ point ∈ (timeseries request rows).points,
    (point.groups.map BillingSeriesGroup.amount).sum = point.amount
  items : request.groupBy ≠ .none → ∃ response, breakdown request rows = .ok response ∧
    (∀ total ∈ (summary request rows).totals,
      ((response.items.filter fun item => item.currency = total.currency).map
        BillingSeriesGroup.amount).sum = total.amount) ∧
    (∀ item ∈ response.items, ∃ total ∈ (summary request rows).totals,
      total.currency = item.currency) ∧
    ∀ item ∈ response.items,
      ((((timeseries request rows).points.flatMap BillingSeriesPoint.groups).filter
        fun group => itemKey group = itemKey item).map BillingSeriesGroup.amount).sum = item.amount

/-- A point without rows has no amount and stands for a bucket of the period in a currency
that the rows have. -/
def GapsFilled (request : AwsBillingRequest) (rows : List BillingRow) : Prop :=
  ∀ point ∈ (timeseries request rows).points,
    (∃ row ∈ rows, bucketKey row = pointKey point) ∨
      point.amount = 0 ∧ point.status = .actual ∧ point.groups = [] ∧
        IsBucket request.granularity request.startDate request.endDate
          (point.startDate, point.endDate) ∧
        ∃ row ∈ rows, row.currency = point.currency

/-- The bucket of a row is one of the request's. -/
def Aligned (request : AwsBillingRequest) (row : BillingRow) : Prop :=
  IsBucket request.granularity request.startDate request.endDate (row.startDate, row.endDate)

/-- Every day of the period lies in exactly one point of each currency that the rows have. -/
def Covered (request : AwsBillingRequest) (rows : List BillingRow) : Prop :=
  ∀ row ∈ rows, ∀ day, request.startDate ≤ day → day < request.endDate →
    ∃! point, point ∈ (timeseries request rows).points ∧ point.currency = row.currency ∧
      point.startDate ≤ day ∧ day < point.endDate

theorem partitioned (request : AwsBillingRequest) (rows : List BillingRow) :
    Partitioned request rows where
  totals := totals_share request rows
  points := points_share request rows
  groups grouped point listed := by
    refine ⟨fun group member => (group_currency listed member).1, ?_⟩
    obtain ⟨entry, -, rfl⟩ := List.mem_map.mp listed
    exact groups_share grouped rows entry.1
  items grouped := by
    have answered : ∃ response, breakdown request rows = .ok response :=
      ⟨_, if_neg grouped⟩
    obtain ⟨response, isResponse⟩ := answered
    exact ⟨response, isResponse, items_share isResponse⟩

section Agreement

variable {request : AwsBillingRequest} {rows : List BillingRow}

/-- A bucket without rows has no groups. -/
theorem pointGroups_rowless {groupBy : BillingGroupBy} {bucket : BucketKey}
    (rowless : ∀ row ∈ rows, bucketKey row ≠ bucket) : pointGroups groupBy rows bucket = [] := by
  by_cases ungrouped : groupBy = .none
  · exact if_pos ungrouped
  · have shares := groups_share ungrouped rows bucket
    have noRows : (rows.filter fun row => bucketKey row = bucket) = [] :=
      List.filter_eq_nil_iff.mpr fun row member same => rowless row member (of_decide_eq_true same)
    unfold pointGroups
    rw [if_neg ungrouped, List.map_eq_nil_iff, List.filter_eq_nil_iff]
    intro entry sorted same
    have listed := (mem_sortByKey _ _ entry).mp sorted
    obtain ⟨row, member, isKey⟩ := (mem_keys_accumulate
      (fun row => (bucketKey row, seriesKey row)) .first SampledAggregate.addRow).mp
      (List.mem_map_of_mem listed)
    have isBucket : bucketKey row = entry.1.1 := congrArg Prod.fst isKey
    exact rowless row member (isBucket.trans (of_decide_eq_true same))

/-- A point is that of a row or one that the loop over the gaps has added. -/
theorem point_cases {point : BillingSeriesPoint}
    (listed : point ∈ (timeseries request rows).points) :
    (∃ row ∈ rows, bucketKey row = pointKey point) ∨
      point.amount = 0 ∧ point.status = .actual ∧ point.groups = [] ∧
        IsBucket request.granularity request.startDate request.endDate
          (point.startDate, point.endDate) ∧
        ∃ row ∈ rows, row.currency = point.currency := by
  obtain ⟨entry, sorted, rfl⟩ := List.mem_map.mp listed
  have member := (mem_sortByKey _ _ entry).mp sorted
  obtain ⟨keys, isKey, filled⟩ := fillGaps_eq request.granularity request.endDate
    (rows.map BillingRow.currency).eraseDups request.startDate
  rw [filledValues, filled] at member
  have ofRow : entry.1 ∈ (bucketValues rows).map Prod.fst ↔
      ∃ row ∈ rows, bucketKey row = entry.1 := mem_keys_accumulate bucketKey _ _
  rcases mem_setDefaults.mp member with old | ⟨added, unlisted, isZero⟩
  · exact Or.inl (ofRow.mp (List.mem_map_of_mem old))
  · obtain ⟨isBucket, known⟩ := (isKey entry.1).mp added
    obtain ⟨row, rowListed, currency⟩ := List.mem_map.mp (List.mem_eraseDups.mp known)
    have rowless : ∀ row ∈ rows, bucketKey row ≠ entry.1 := fun other otherListed same =>
      unlisted (ofRow.mpr ⟨other, otherListed, same⟩)
    refine Or.inr ⟨?_, ?_, pointGroups_rowless rowless, isBucket, row, rowListed, currency⟩
    · change entry.2.amount = 0
      rw [isZero]
      rfl
    · change statusFromEstimationFlags entry.2.flags = .actual
      rw [isZero]
      decide

variable (request) in
/-- The buckets of the period have points in every currency of the rows. -/
theorem exists_point {row : BillingRow} (member : row ∈ rows) {bucket : Date × Date}
    (isBucket : IsBucket request.granularity request.startDate request.endDate bucket) :
    ∃ point ∈ (timeseries request rows).points,
      pointKey point = (bucket.1, bucket.2, row.currency) := by
  obtain ⟨keys, isKey, filled⟩ := fillGaps_eq request.granularity request.endDate
    (rows.map BillingRow.currency).eraseDups request.startDate
  have known : row.currency ∈ (rows.map BillingRow.currency).eraseDups :=
    List.mem_eraseDups.mpr (List.mem_map_of_mem member)
  have key : (bucket.1, bucket.2, row.currency) ∈
      (filledValues request rows).map Prod.fst := by
    rw [filledValues, filled, mem_keys_setDefaults]
    exact Or.inl ((isKey _).mpr ⟨isBucket, known⟩)
  obtain ⟨entry, listed, isEntry⟩ := List.mem_map.mp key
  have sorted := (mem_sortByKey (fun entry => bucketRank entry.1) _ entry).mpr listed
  exact ⟨_, List.mem_map_of_mem sorted, isEntry⟩

theorem point_currency {point : BillingSeriesPoint}
    (listed : point ∈ (timeseries request rows).points) :
    ∃ row ∈ rows, row.currency = point.currency := by
  rcases point_cases listed with ⟨row, member, isRow⟩ | ⟨-, -, -, -, found⟩
  · exact ⟨row, member, congrArg (fun key => key.2.2) isRow⟩
  · exact found

/-- Aligned rows and the filled gaps cover every day once. -/
theorem covered (aligned : ∀ row ∈ rows, Aligned request row) : Covered request rows := by
  intro row member day begun unended
  have pointBucket : ∀ point ∈ (timeseries request rows).points,
      IsBucket request.granularity request.startDate request.endDate
        (point.startDate, point.endDate) := fun point listed => by
    rcases point_cases listed with ⟨other, otherMember, isRow⟩ | ⟨-, -, -, isBucket, -⟩
    · obtain ⟨starts, ends⟩ := Prod.mk.inj isRow
      have own := aligned other otherMember
      rwa [Aligned, starts, (Prod.mk.inj ends).1] at own
    · exact isBucket
  obtain ⟨bucket, isBucket, contains⟩ := exists_bucket request.granularity begun unended
  obtain ⟨point, listed, isPoint⟩ := exists_point request member isBucket
  obtain ⟨starts, rest⟩ := Prod.mk.inj isPoint
  obtain ⟨ends, currency⟩ := Prod.mk.inj rest
  refine ⟨point, ⟨listed, currency, starts.trans_le contains.1, contains.2.trans_eq ends.symm⟩, ?_⟩
  rintro other ⟨otherListed, otherCurrency, otherContains⟩
  have sameBucket : (other.startDate, other.endDate) = bucket :=
    bucket_unique (pointBucket other otherListed) isBucket otherContains contains
  refine List.inj_on_of_nodup_map (points_share request rows).distinct otherListed listed ?_
  rw [isPoint, ← sameBucket, ← otherCurrency]
  rfl

/-- The total of a currency is the sum of its rows. -/
theorem total_amount (exact : SumsExactly (rows.map BillingRow.amount))
    {total : BillingSummaryTotal} (listed : total ∈ (summary request rows).totals) :
    total.amount =
      ((rows.filter fun row => row.currency = total.currency).map BillingRow.amount).sum := by
  rw [(totals_share request rows).held total listed, decimalSum_filter exact]

/-- The groups of the points with the key and the currency of an item add up to its rows.
A point of another currency has no such group. -/
theorem groups_of_item (exact : SumsExactly (rows.map BillingRow.amount))
    (grouped : request.groupBy ≠ .none) (wanted : String × String) :
    ((((timeseries request rows).points.flatMap BillingSeriesPoint.groups).filter
      fun group => itemKey group = wanted).map BillingSeriesGroup.amount).sum =
      ((rows.filter fun row => (seriesKey row, row.currency) = wanted).map
        BillingRow.amount).sum := by
  have shares := partitioned request rows
  let selected := rows.filter fun row => (seriesKey row, row.currency) = wanted
  have perPoint : ∀ point ∈ (timeseries request rows).points,
      ((point.groups.filter fun group => itemKey group = wanted).map
        BillingSeriesGroup.amount).sum =
        ((selected.filter fun row => bucketKey row = pointKey point).map BillingRow.amount).sum := by
    intro point listed
    obtain ⟨currencies, ofPoint⟩ := shares.groups grouped point listed
    have ofBucket : (rows.filter fun row => bucketKey row = pointKey point).Sublist rows :=
      List.filter_sublist
    have exactPoint := exact.sublist (ofBucket.map BillingRow.amount)
    by_cases same : point.currency = wanted.2
    · have groups := ofPoint.sum_selected exactPoint fun key => decide (key = wanted.1)
      have ofGroups : (point.groups.filter fun group => itemKey group = wanted) =
          point.groups.filter fun group => group.key = wanted.1 :=
        List.filter_congr fun group member => by
          have own := (currencies group member).trans same
          exact decide_eq_decide.mpr (Prod.ext_iff.trans (and_iff_left own))
      rw [ofGroups, groups, List.filter_filter, List.filter_filter]
      refine congrArg (fun rows : List BillingRow => (rows.map BillingRow.amount).sum)
        (List.filter_congr fun row _ => ?_)
      rw [← Bool.decide_and, ← Bool.decide_and]
      refine decide_eq_decide.mpr ?_
      constructor
      · rintro ⟨isKey, isBucket⟩
        have currency : row.currency = point.currency := congrArg (fun key => key.2.2) isBucket
        exact ⟨isBucket, Prod.ext isKey (currency.trans same)⟩
      · rintro ⟨isBucket, isItem⟩
        exact ⟨congrArg Prod.fst isItem, isBucket⟩
    · have noGroups : (point.groups.filter fun group => itemKey group = wanted) = [] :=
        List.filter_eq_nil_iff.mpr fun group member isItem =>
          same ((currencies group member).symm.trans
            (congrArg Prod.snd (of_decide_eq_true isItem)))
      have noRows : (selected.filter fun row => bucketKey row = pointKey point) = [] :=
        List.filter_eq_nil_iff.mpr fun row member isBucket => by
          have isItem := of_decide_eq_true (List.mem_filter.mp member).2
          have currency : row.currency = point.currency :=
            congrArg (fun key => key.2.2) (of_decide_eq_true isBucket)
          exact same (currency.symm.trans (congrArg Prod.snd isItem))
      rw [noGroups, noRows]
      rfl
  have coveredSelected : ∀ row ∈ selected,
      bucketKey row ∈ (timeseries request rows).points.map pointKey := fun row member =>
    shares.points.covered row (List.mem_filter.mp member).1
  have flattened (points : List BillingSeriesPoint) :
      (((points.flatMap BillingSeriesPoint.groups).filter fun group => itemKey group = wanted).map
        BillingSeriesGroup.amount).sum =
        (points.map fun point => ((point.groups.filter fun group => itemKey group = wanted).map
          BillingSeriesGroup.amount).sum).sum := by
    induction points with
    | nil => rfl
    | cons point rest inductionHypothesis =>
      rw [List.flatMap_cons, List.filter_append, List.map_append, List.sum_append,
        inductionHypothesis, List.map_cons, List.sum_cons]
  rw [flattened, List.map_congr_left perPoint]
  have shared := sum_filter_keys BillingRow.amount shares.points.distinct coveredSelected
  rwa [List.map_map] at shared

/-- Where no addition is rounded, the sums of the read paths are the same. -/
theorem sumsAgree (exact : SumsExactly (rows.map BillingRow.amount)) : SumsAgree request rows := by
  have shares := partitioned request rows
  have currencyTotal : ∀ row ∈ rows,
      ∃ total ∈ (summary request rows).totals, total.currency = row.currency := fun row member =>
    List.mem_map.mp (shares.totals.covered row member)
  constructor
  · intro total listed
    rw [total_amount exact listed]
    exact shares.points.sum_selected exact fun key => decide (key.2.2 = total.currency)
  · intro point listed
    obtain ⟨row, member, currency⟩ := point_currency listed
    rw [← currency]
    exact currencyTotal row member
  · intro grouped point listed
    obtain ⟨-, ofPoint⟩ := shares.groups grouped point listed
    rw [ofPoint.sum_all (exact.sublist (List.filter_sublist.map _)),
      shares.points.held point listed, decimalSum_filter exact]
  · intro grouped
    obtain ⟨response, isResponse, items⟩ := shares.items grouped
    refine ⟨response, isResponse, ?_, ?_, ?_⟩
    · intro total listed
      rw [total_amount exact listed]
      exact items.sum_selected exact fun key => decide (key.2 = total.currency)
    · intro item listed
      obtain ⟨row, member, isRow⟩ := item_keyed isResponse listed
      have currency : row.currency = item.currency := congrArg Prod.snd isRow
      rw [← currency]
      exact currencyTotal row member
    · intro item listed
      rw [groups_of_item exact grouped, items.held item listed, decimalSum_filter exact]

end Agreement

/-- The read paths share the same rows, their sums are the same where no addition is rounded,
the gaps are filled with zeros, and aligned buckets cover the period. -/
theorem billing_paths_agree (request : AwsBillingRequest) (rows : List BillingRow) :
    Partitioned request rows ∧
      (SumsExactly (rows.map BillingRow.amount) → SumsAgree request rows) ∧
      GapsFilled request rows ∧
      ((∀ row ∈ rows, Aligned request row) → Covered request rows) :=
  ⟨partitioned request rows, sumsAgree, fun _ => point_cases, covered⟩

/-- A request for two days by service. -/
def sampleRequest : AwsBillingRequest where
  accountIds := [1]
  startDate := 0
  endDate := 2
  granularity := .daily
  metric := .unblendedCost
  groupBy := .service
  excludeRecordTypes := []

def sampleRow (day : Date) (amount : ℚ) : BillingRow :=
  ⟨day, day + 1, some "Amazon EC2", amount, "USD", false, ⟨1, "123456789012", "Main"⟩⟩

/-- The second day has no row, and its gap is filled. -/
theorem sample_read_paths :
    SumsAgree sampleRequest [sampleRow 0 (3 / 2), sampleRow 0 (1 / 4)] ∧
      Covered sampleRequest [sampleRow 0 (3 / 2), sampleRow 0 (1 / 4)] := by
  obtain ⟨-, sums, -, days⟩ :=
    billing_paths_agree sampleRequest [sampleRow 0 (3 / 2), sampleRow 0 (1 / 4)]
  have cents : SumsExactly [3 / 2, 1 / 4] := by
    refine ⟨-2, fun amount member => ?_, by norm_num⟩
    rcases List.mem_cons.mp member with rfl | second
    · exact ⟨150, by norm_num⟩
    · rw [List.mem_singleton.mp second]
      exact ⟨25, by norm_num⟩
  have first (amount : ℚ) : Aligned sampleRequest (sampleRow 0 amount) :=
    ⟨le_rfl, (by decide : (0 : ℤ) < 2), Or.inl rfl, rfl⟩
  refine ⟨sums cents, days fun row member => ?_⟩
  rcases List.mem_cons.mp member with rfl | second
  · exact first _
  · rw [List.mem_singleton.mp second]
    exact first _

/-- An addition of more than 28 digits is rounded in the total and not in the points; and
the points of a request that does not group have no groups. -/
theorem rounded_totals_differ :
    (∃ total ∈ (summary sampleRequest
        [sampleRow 0 (10 ^ 28), sampleRow 1 1, sampleRow 0 (-10 ^ 28)]).totals,
      (((timeseries sampleRequest
        [sampleRow 0 (10 ^ 28), sampleRow 1 1, sampleRow 0 (-10 ^ 28)]).points.filter
          fun point => point.currency = total.currency).map
        BillingSeriesPoint.amount).sum ≠ total.amount) ∧
      ∃ point ∈ (timeseries { sampleRequest with groupBy := .none } [sampleRow 0 1]).points,
        (point.groups.map BillingSeriesGroup.amount).sum ≠ point.amount := by
  decide +kernel

end FinopsAnalytics.BillingReadPaths
