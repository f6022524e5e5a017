import FinopsAnalytics.CycleHistories

/-!
# The cycle of an instant

Whatever created the cycles, they never overlap. The cycle of an instant is
looked up first and only then created with the period that the policy in force
gives to the instant. That period is not checked against cycles of earlier
policies: where it meets one of them the creation is refused.
-/

namespace FinopsAnalytics.CycleInstants

open PythonText (CaseMapping asciiCase)
open UniqueTables OpportunityRecords TransactionHistories DistinctKeys CivilCalendar Fallible
open OpportunityHistoryCycles CycleOperations CycleClosings CycleHistories

section Lookups

variable [UuidSource] [SystemClock] [CaseMapping] [DocumentRuntime] [TimeZones]

/-- The call returns a cycle whose period contains the instant. -/
def FindsCycle (store : HistoryStore) (policy : OpportunityManagementPolicy)
    (timestamp : Instant) : Prop :=
  ∃ next cycle, getOrCreateCycleFor store policy timestamp = .ok (next, cycle) ∧
    cycle.contains timestamp = true

/-- A cycle contains the instant, or the period that the policy gives to it
contains it and overlaps no cycle. -/
def HasPlace (store : HistoryStore) (policy : OpportunityManagementPolicy) (timestamp : Instant) :
    Prop :=
  (∃ cycle ∈ store.cycles.rows, cycle.contains timestamp = true) ∨
    ∃ start stop label, cycleBounds policy timestamp = .ok (start, stop, label) ∧
      start ≤ timestamp ∧ timestamp < stop ∧
      ∀ cycle ∈ store.cycles.rows, ¬ Overlaps start stop cycle

variable {store : HistoryStore} {policy : OpportunityManagementPolicy} {timestamp : Instant}

omit [SystemClock] [CaseMapping] [DocumentRuntime] in
/-- A cycle that contains the instant is found. -/
theorem findsCycle_of_containing {cycle : OpportunityHistoryCycle}
    (member : cycle ∈ store.cycles.rows) (contained : cycle.contains timestamp = true) :
    FindsCycle store policy timestamp := by
  cases found : lastByKey OpportunityHistoryCycle.periodStart
      (store.cycles.rows.filter fun cycle => cycle.contains timestamp) with
  | some existing =>
    have listed := (lastByKey_eq_some found).1
    exact ⟨store, existing, by simp only [getOrCreateCycleFor, found],
      (List.mem_filter.mp listed).2⟩
  | none =>
    have missed := lastByKey_eq_none.mp found
    have listed : cycle ∈ store.cycles.rows.filter fun cycle => cycle.contains timestamp :=
      List.mem_filter.mpr ⟨member, contained⟩
    rw [missed] at listed
    cases listed

omit [SystemClock] [CaseMapping] [DocumentRuntime] in
/-- Without such a cycle the period of the policy is created, or was created
before. -/
theorem findsCycle_of_uncontained
    (uncontained : ¬ ∃ cycle ∈ store.cycles.rows, cycle.contains timestamp = true) :
    FindsCycle store policy timestamp ↔ ∃ start stop label,
      cycleBounds policy timestamp = .ok (start, stop, label) ∧ start ≤ timestamp ∧
        timestamp < stop ∧ ∃ result, createCycle store start stop label policy.cycleTimezone
          (some policy) = .ok result := by
  have nothing : lastByKey OpportunityHistoryCycle.periodStart
      (store.cycles.rows.filter fun cycle => cycle.contains timestamp) = none := by
    rw [lastByKey_eq_none, List.filter_eq_nil_iff]
    exact fun cycle member contained => uncontained ⟨cycle, member, contained⟩
  have unmatched {start stop : Instant} (started : start ≤ timestamp) (unended : timestamp < stop) :
      store.cycles.findUnique? (start, stop) = none := by
    refine Table.findUnique?_eq_none.mpr fun cycle member period => ?_
    obtain ⟨rfl, rfl⟩ := Prod.mk.inj period
    exact uncontained ⟨cycle, member, by simp [OpportunityHistoryCycle.contains, started, unended]⟩
  unfold FindsCycle
  constructor
  · rintro ⟨next, cycle, done, contained⟩
    simp only [getOrCreateCycleFor, nothing] at done
    obtain ⟨⟨start, stop, label⟩, bounds, done⟩ := bind_eq_ok.mp done
    simp only at done
    split at done
    · rename_i found
      cases done
      exact absurd ⟨cycle, (Table.findUnique?_eq_some.mp found).1, contained⟩ uncontained
    · obtain ⟨rfl, -⟩ := createCycle_eq_ok done
      have inside : start ≤ timestamp ∧ timestamp < stop := of_decide_eq_true contained
      exact ⟨start, stop, label, bounds, inside.1, inside.2, _, done⟩
  · rintro ⟨start, stop, label, bounds, started, unended, ⟨next, cycle⟩, created⟩
    refine ⟨next, cycle, ?_, ?_⟩
    · simp only [getOrCreateCycleFor, nothing]
      rw [bounds, ok_bind]
      simp only [unmatched started unended]
      exact created
    · obtain ⟨rfl, -⟩ := createCycle_eq_ok created
      simp [OpportunityHistoryCycle.contains, createdCycle, started, unended]

omit [SystemClock] [CaseMapping] [DocumentRuntime] in
/-- The cycle of an instant is found or created exactly where it has a place. -/
theorem findsCycle_iff (sound : Sound store) (injective : Function.Injective UuidSource.uuid4) :
    FindsCycle store policy timestamp ↔ HasPlace store policy timestamp := by
  by_cases contained : ∃ cycle ∈ store.cycles.rows, cycle.contains timestamp = true
  · obtain ⟨cycle, member, contains⟩ := contained
    exact iff_of_true (findsCycle_of_containing member contains) (Or.inl ⟨cycle, member, contains⟩)
  · rw [findsCycle_of_uncontained contained, HasPlace, or_iff_right contained]
    refine exists_congr fun start => exists_congr fun stop => exists_congr fun label =>
      and_congr_right fun _ => and_congr_right fun started => and_congr_right fun unended => ?_
    rw [createCycle_isOk sound injective, and_iff_right (started.trans_lt unended)]

/-- On every history the cycles do not overlap, and a call finds or creates a
cycle that contains the instant exactly where the instant has a place: no cycle
of an earlier policy may meet the period that the policy in force gives to it. -/
theorem cycle_of_every_instant (injective : Function.Injective UuidSource.uuid4)
    (operations : List CycleOperation) :
    (∀ first ∈ (stateAfter perform HistoryStore.empty operations).cycles.rows,
      ∀ second ∈ (stateAfter perform HistoryStore.empty operations).cycles.rows,
        Overlaps first.periodStart first.periodEnd second → first = second) ∧
      ∀ policy timestamp,
        FindsCycle (stateAfter perform HistoryStore.empty operations) policy timestamp ↔
          HasPlace (stateAfter perform HistoryStore.empty operations) policy timestamp := by
  have sound := reachable_sound injective operations
  refine ⟨fun first firstMember second secondMember overlaps => ?_,
    fun policy timestamp => findsCycle_iff sound injective⟩
  exact Table.eq_of_key _ firstMember secondMember
    (sound.disjoint first firstMember second secondMember overlaps)

end Lookups

section Sample

attribute [local instance] countingUuids countingClock asciiCase plainDocuments utcOnly

/-- A later policy whose period is free finds a cycle for its instant. -/
theorem cycle_of_instant_after_january :
    FindsCycle (stateAfter perform HistoryStore.empty januaryThenTenDays) tenDays
      (midnight (dayNumber 2026 2 20)) :=
  ((cycle_of_every_instant countingUuids_injective januaryThenTenDays).2 tenDays
    (midnight (dayNumber 2026 2 20))).mpr (Or.inr ⟨midnight (dayNumber 2026 2 15),
      midnight (dayNumber 2026 2 25), "2026-02-15 · 10 dias", by decide +kernel⟩)

/-- The monthly policy is restored. No cycle contains 20 February, and its month
meets the ten days from 5 February: the call raises. -/
theorem instant_without_cycle :
    (getOrCreateCycleFor (stateAfter perform HistoryStore.empty januaryThenTenDays) monthly
      (midnight (dayNumber 2026 2 20))).toOption.isNone ∧
      ¬ FindsCycle (stateAfter perform HistoryStore.empty januaryThenTenDays) monthly
        (midnight (dayNumber 2026 2 20)) := by
  have raised : (getOrCreateCycleFor (stateAfter perform HistoryStore.empty januaryThenTenDays)
      monthly (midnight (dayNumber 2026 2 20))).toOption.isNone = true := by
    decide +kernel
  refine ⟨raised, ?_⟩
  rintro ⟨next, cycle, done, -⟩
  rw [done] at raised
  cases raised

end Sample

end FinopsAnalytics.CycleInstants
