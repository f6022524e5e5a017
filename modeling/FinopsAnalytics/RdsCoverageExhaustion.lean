import FinopsAnalytics.RdsCoverageConservation
import Mathlib.Algebra.Order.BigOperators.Group.List

/-!
# No usable capacity beside compatible demand

A pair that the flexible matcher accepts shares its pool, and one of the two
phases selects it. Both phases leave every selected pair exhausted, so after the
analysis one side of the pair has nothing left.
-/

namespace FinopsAnalytics.RdsCoverageExhaustion

open PythonText RdsInventory RdsReservationRules RdsReservationEngine RdsCoverageTransport
  RdsCoverageConservation

section Pools

theorem poolMembers_cons (key other : PoolKey) (members : List ℕ) (rest : Pools) :
    poolMembers ((key, members) :: rest) other =
      if other = key then members else poolMembers rest other := by
  by_cases same : other = key
  · simp [poolMembers, same]
  · simp [poolMembers, same, List.lookup_cons, beq_false_of_ne same]

/-- Appending to one pool leaves the others. -/
theorem poolMembers_append (key other : PoolKey) (position : ℕ) (pools : Pools) :
    poolMembers (appendToPool key position pools) other =
      poolMembers pools other ++ if other = key then [position] else [] := by
  induction pools with
  | nil => exact poolMembers_cons key other [position] []
  | cons pool rest inductionHypothesis =>
    obtain ⟨name, members⟩ := pool
    by_cases named : name = key
    · subst name
      by_cases same : other = key <;> simp [appendToPool, poolMembers_cons, same]
    · by_cases same : other = name
      · simp [appendToPool, poolMembers_cons, named, same]
      · simp [appendToPool, poolMembers_cons, named, same, inductionHypothesis]

variable [CaseMapping]

/-- Appending entry after entry collects each pool's positions in order. -/
theorem poolMembers_foldl (entries : List (ReservationCapacity × ℕ)) (key : PoolKey) :
    ∀ pools : Pools,
      poolMembers (entries.foldl (fun pools entry =>
          appendToPool (reservationPoolKey entry.1.row) entry.2 pools) pools) key =
        poolMembers pools key ++
          (entries.filter (fun entry => reservationPoolKey entry.1.row = key)).map Prod.snd := by
  induction entries with
  | nil => simp
  | cons entry rest inductionHypothesis =>
    intro pools
    rw [List.foldl_cons, inductionHypothesis, poolMembers_append]
    by_cases same : key = reservationPoolKey entry.1.row
    · simp [same]
    · simp [same, Ne.symm same]

/-- A pool holds exactly the positions of the capacities with its key. -/
theorem mem_poolMembers {capacities : List ReservationCapacity} {key : PoolKey} {position : ℕ} :
    position ∈ poolMembers (capacityPools capacities) key ↔
      ∃ capacity, capacities[position]? = some capacity ∧
        reservationPoolKey capacity.row = key := by
  rw [capacityPools, poolMembers_foldl]
  simp [poolMembers, List.mem_zipIdx_iff_getElem?]

end Pools

section Selections

variable [CaseMapping] {billing : BillingScopeContext} {reservation : AwsRdsReservedInstance}
  {row : AwsRdsInstance} {at_ : Instant}

/-- A compatible pair agrees on region, engine and family, the three parts of a
pool key. -/
theorem compatible_poolKey {allowFlexible : Bool}
    (compatible : (matchReservation billing reservation row at_ allowFlexible).compatible = true) :
    reservationPoolKey reservation = instancePoolKey row := by
  obtain ⟨_, region, engine, family, _⟩ := matchReservation_compatible compatible
  rw [reservationPoolKey, instancePoolKey, region, engine, family]

/-- A pair that the flexible matcher accepts is selected by one of the phases:
its match is exact on equal classes or size flexible. -/
theorem compatible_selected
    (compatible : (matchReservation billing reservation row at_ true).compatible = true) :
    (exactSelection billing at_ reservation row).isSome ∨
      (flexibleSelection billing at_ reservation row).isSome := by
  obtain ⟨_, _, _, _, ⟨exactMatch, sameClass⟩ | flexible⟩ := matchReservation_compatible compatible
  · left
    by_cases strict : (matchReservation billing reservation row at_ false).compatible = true
    · simp [exactSelection, sameClass, strict]
    · simp [exactSelection, sameClass, strict, compatible, exactMatch]
  · right
    simp [flexibleSelection, compatible, flexible]

/-- Both phases leave a compatible pair of known records exhausted. -/
theorem compatible_exhausted {start : AllocationState} {after : TransportState}
    {demandAt capacityAt : ℕ} {demand : InstanceDemand} {capacity : ReservationCapacity}
    (demandFound : start.demands[demandAt]? = some demand)
    (demandKnown : truthy demand.unknownReason = false)
    (capacityFound : start.capacities[capacityAt]? = some capacity)
    (capacityKnown : truthy capacity.unknownReason = false)
    (served :
      let members := poolMembers (capacityPools start.capacities) (instancePoolKey demand.row)
      Served start (exactSelection billing at_) after demandAt members ∧
        Served start (flexibleSelection billing at_) after demandAt members)
    (compatible : (matchReservation billing capacity.row demand.row at_ true).compatible = true) :
    GreedyTransport.Exhausted after capacityAt demandAt := by
  have member : capacityAt ∈
      poolMembers (capacityPools start.capacities) (instancePoolKey demand.row) :=
    mem_poolMembers.mpr ⟨capacity, capacityFound, compatible_poolKey compatible⟩
  rcases compatible_selected compatible with selected | selected
  · exact served.1 demand demandFound demandKnown capacityAt member capacity capacityFound
      capacityKnown selected
  · exact served.2 demand demandFound demandKnown capacityAt member capacity capacityFound
      capacityKnown selected

end Selections

section Results

variable [CaseMapping] {start : AllocationState} {after : TransportState}
  {accepts : AwsRdsReservedInstance → AwsRdsInstance → MatchDecision → Prop}

omit [CaseMapping] in
/-- A reservation id accounts for at least what its own position shipped; other
reservations with the same id only add to it. -/
theorem shipped_le_allocated
    (run : GreedyTransport.Run (Permitted start accepts) (initialTransport start) after)
    {capacityAt : ℕ} {capacity : ReservationCapacity}
    (found : start.capacities[capacityAt]? = some capacity) :
    GreedyTransport.shipped after.plan capacityAt ≤
      allocatedByReservation (after.plan.map allocationOf) capacity.row.id := by
  rw [allocatedByReservation_eq, List.filter_map, totalUnits_rendered, GreedyTransport.shipped]
  have own : after.plan.filter (·.source = capacityAt) =
      (after.plan.filter ((fun allocation => allocation.reservation.id = capacity.row.id) ∘
        allocationOf)).filter (·.source = capacityAt) := by
    rw [List.filter_filter]
    apply List.filter_congr
    intro shipment member
    obtain ⟨_, other, _, otherFound, _, _, _, _, rowSame, _⟩ := plan_permitted run shipment member
    by_cases same : shipment.source = capacityAt
    · have rows : other = capacity :=
        Option.some.inj (otherFound.symm.trans (same ▸ found))
      have sameId : (allocationOf shipment).reservation.id = capacity.row.id :=
        congrArg AwsRdsReservedInstance.id (rowSame.trans (congrArg ReservationCapacity.row rows))
      simp [same, sameId]
    · simp [same]
  rw [own]
  apply List.Sublist.sum_le_sum (List.filter_sublist.map _)
  intro amount member
  obtain ⟨shipment, shipmentMember, rfl⟩ := List.mem_map.mp member
  exact (plan_permitted run shipment (List.mem_of_mem_filter shipmentMember)).1.le

/-- Uncovered units of a result are need left at its position. -/
theorem need_of_uncovered {demandAt : ℕ} {demand : InstanceDemand}
    (uncovered : 0 < (coverageResult (renderDemand after demandAt demand)).uncoveredUnits) :
    truthy demand.unknownReason = false ∧ 0 < after.need demandAt := by
  by_cases known : truthy demand.unknownReason = true
  · exact absurd uncovered (by simp [coverageResult, renderDemand, known])
  · have unknown : truthy demand.unknownReason = false := by simpa using known
    refine ⟨unknown, ?_⟩
    simpa [coverageResult, renderDemand, unknown] using uncovered

omit [CaseMapping] in
/-- Unused units of a result are supply left at its position. -/
theorem supply_of_unused
    (run : GreedyTransport.Run (Permitted start accepts) (initialTransport start) after)
    {capacityAt : ℕ} {capacity : ReservationCapacity}
    (found : start.capacities[capacityAt]? = some capacity)
    (unallocated : capacity.remainingUnits = capacity.totalUnits)
    (unused : 0 < (utilizationResult (renderCapacity after capacityAt capacity)
      (allocatedByReservation (after.plan.map allocationOf) capacity.row.id)).unusedUnits) :
    truthy capacity.unknownReason = false ∧ 0 < after.supply capacityAt := by
  by_cases known : truthy capacity.unknownReason = true
  · exact absurd unused (by simp [utilizationResult, renderCapacity, known])
  · have unknown : truthy capacity.unknownReason = false := by simpa using known
    refine ⟨unknown, ?_⟩
    have below : allocatedByReservation (after.plan.map allocationOf) capacity.row.id <
        capacity.totalUnits := by
      simpa [utilizationResult, renderCapacity, unknown] using unused
    have conserved := run.supply_conserved capacityAt
    have initial : (initialTransport start).supply capacityAt = capacity.totalUnits := by
      simp [initialTransport, found, unallocated]
    rw [initial] at conserved
    have empty : GreedyTransport.shipped (initialTransport start).plan capacityAt = 0 := rfl
    have own := shipped_le_allocated run found
    linarith

end Results

/-- An analysis has a result of every eligible instance and of every active reservation,
and no instance with uncovered units stands in it beside a reservation with unused units
that the flexible matcher accepts for it. -/
theorem analyze_exhausts [CaseMapping] (billing : BillingScopeContext) (at_ : Instant)
    (instances : List AwsRdsInstance) (reservations : List AwsRdsReservedInstance)
    (analysis : CoverageAnalysis)
    (returned : analyze billing at_ instances reservations = .ok analysis) :
    (analysis.instances.map (·.instanceRow)).Perm (analysedInstances instances) ∧
      (analysis.reservations.map (·.reservation)).Perm (analysedReservations at_ reservations) ∧
      ¬∃ covered ∈ analysis.instances, ∃ used ∈ analysis.reservations,
        0 < covered.uncoveredUnits ∧ 0 < used.unusedUnits ∧
        (matchReservation billing used.reservation covered.instanceRow at_ true).compatible =
          true := by
  obtain ⟨after, rendered, run, served⟩ := allocatePhases_run billing at_
    (initialState_unallocated at_ instances reservations) rfl
  obtain ⟨rfl, _⟩ := (analyze_eq_ok rendered).mp returned
  refine ⟨collected_instances at_ instances reservations after,
    collected_reservations at_ instances reservations after, ?_⟩
  rintro ⟨covered, coveredMember, used, usedMember, uncovered, unused, compatible⟩
  obtain ⟨record, recordMember, rfl⟩ := List.mem_map.mp coveredMember
  obtain ⟨demandAt, demand, demandFound, rfl⟩ := mem_rendered_demands recordMember
  obtain ⟨record, recordMember, rfl⟩ := List.mem_map.mp usedMember
  obtain ⟨capacityAt, capacity, capacityFound, rfl⟩ := mem_rendered_capacities recordMember
  obtain ⟨demandKnown, needed⟩ := need_of_uncovered uncovered
  have unallocated : capacity.remainingUnits = capacity.totalUnits := by
    rw [sortedCapacities_fresh capacityFound]
    exact capacityOf_remaining capacity.row
  obtain ⟨capacityKnown, supplied⟩ := supply_of_unused run capacityFound unallocated unused
  rw [coverageResult_instanceRow, utilizationResult_reservation] at compatible
  have exhausted := compatible_exhausted demandFound demandKnown capacityFound capacityKnown
    (served demandAt demand demandFound demandKnown) compatible
  exact exhausted.elim (not_le.mpr supplied) (not_le.mpr needed)

section Small

attribute [local instance] asciiCase

/-- Two instances share one reservation: each of the three has its result. -/
theorem analyze_exhausts_shared :
    ∃ analysis,
      analyze .isolated 5 [sampleInstance 1 "a", sampleInstance 2 "b"] [sampleReservation 3 "r"] =
        .ok analysis ∧
      (analysis.instances.map (·.instanceRow)).Perm [sampleInstance 1 "a", sampleInstance 2 "b"] ∧
      (analysis.reservations.map (·.reservation)).Perm [sampleReservation 3 "r"] ∧
      ¬∃ covered ∈ analysis.instances, ∃ used ∈ analysis.reservations,
        0 < covered.uncoveredUnits ∧ 0 < used.unusedUnits ∧
        (matchReservation .isolated used.reservation covered.instanceRow 5 true).compatible =
          true := by
  have returned : (analyze .isolated 5 [sampleInstance 1 "a", sampleInstance 2 "b"]
      [sampleReservation 3 "r"]).toBool = true := by decide +kernel
  obtain ⟨analysis, result⟩ := Fallible.ok_of_toBool returned
  obtain ⟨instances, reservations, exhausted⟩ := analyze_exhausts _ _ _ _ analysis result
  have eligible : analysedInstances [sampleInstance 1 "a", sampleInstance 2 "b"] =
      [sampleInstance 1 "a", sampleInstance 2 "b"] := by decide +kernel
  have active : analysedReservations 5 [sampleReservation 3 "r"] = [sampleReservation 3 "r"] := by
    decide +kernel
  exact ⟨analysis, result, eligible ▸ instances, active ▸ reservations, exhausted⟩

end Small

end FinopsAnalytics.RdsCoverageExhaustion
