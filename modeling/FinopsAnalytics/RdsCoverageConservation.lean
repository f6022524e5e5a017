import FinopsAnalytics.RdsCoverageTransport
import Mathlib.Data.List.Induction

/-!
# Coverage conserves capacity

The books of an analysis balance: what a reservation gave is what its
allocations sum to, what an instance received is what its own allocations sum
to, and unknown configurations stay out of both. The balance is the conservation
law of transport read through the rendering, so the assertions that close the
analysis never fail.
-/

namespace FinopsAnalytics.RdsCoverageConservation

open PythonText RdsInventory RdsReservationRules RdsReservationEngine RdsCoverageTransport

/-- The total of a list of allocations. -/
def totalUnits (allocations : List Allocation) : ℚ := (allocations.map Allocation.units).sum

/-- The running totals of the engine are the sums of the allocations of each
reservation id. -/
theorem allocatedByReservation_eq (allocations : List Allocation) (id : ℤ) :
    allocatedByReservation allocations id =
      totalUnits (allocations.filter (·.reservation.id = id)) := by
  induction allocations using List.reverseRecOn with
  | nil => rfl
  | append_singleton earlier last inductionHypothesis =>
    simp only [allocatedByReservation, totalUnits] at inductionHypothesis ⊢
    rw [List.foldl_concat, List.filter_append, List.map_append, List.sum_append]
    by_cases same : last.reservation.id = id
    · subst id
      simp [inductionHypothesis]
    · simp [same, Function.update_of_ne (Ne.symm same), inductionHypothesis]

section Runs

variable {start : AllocationState} {after : TransportState}
  {accepts : AwsRdsReservedInstance → AwsRdsInstance → MatchDecision → Prop}

/-- Every allocation of a run is positive and permitted. -/
theorem plan_permitted
    (run : GreedyTransport.Run (Permitted start accepts) (initialTransport start) after) :
    ∀ shipment ∈ after.plan, 0 < shipment.amount ∧
      Permitted start accepts shipment.source shipment.target shipment.terms :=
  run.plan_sound fun _ member => absurd member List.not_mem_nil

/-- The allocations of an instance id are the shipments to its position. -/
theorem allocations_of_instance (distinct : (start.demands.map (·.row.id)).Nodup)
    (run : GreedyTransport.Run (Permitted start accepts) (initialTransport start) after)
    {demandAt : ℕ} {demand : InstanceDemand} (found : start.demands[demandAt]? = some demand) :
    (after.plan.map allocationOf).filter (·.instanceRow.id = demand.row.id) =
      (after.plan.filter (·.target = demandAt)).map allocationOf := by
  rw [List.filter_map]
  congr 1
  apply List.filter_congr
  intro shipment member
  obtain ⟨_, _, other, _, otherFound, _, _, _, _, rowSame⟩ := plan_permitted run shipment member
  have sameId : (allocationOf shipment).instanceRow.id = other.row.id :=
    congrArg AwsRdsInstance.id rowSame
  simp only [Function.comp_apply, sameId, decide_eq_decide]
  constructor
  · intro same
    exact DistinctKeys.position_unique distinct otherFound found same
  · rintro rfl
    rw [Option.some.inj (otherFound.symm.trans found)]

/-- The allocations of a reservation id are the shipments from its position. -/
theorem allocations_of_reservation (distinct : (start.capacities.map (·.row.id)).Nodup)
    (run : GreedyTransport.Run (Permitted start accepts) (initialTransport start) after)
    {capacityAt : ℕ} {capacity : ReservationCapacity}
    (found : start.capacities[capacityAt]? = some capacity) :
    (after.plan.map allocationOf).filter (·.reservation.id = capacity.row.id) =
      (after.plan.filter (·.source = capacityAt)).map allocationOf := by
  rw [List.filter_map]
  congr 1
  apply List.filter_congr
  intro shipment member
  obtain ⟨_, other, _, otherFound, _, _, _, _, rowSame, _⟩ := plan_permitted run shipment member
  have sameId : (allocationOf shipment).reservation.id = other.row.id :=
    congrArg AwsRdsReservedInstance.id rowSame
  simp only [Function.comp_apply, sameId, decide_eq_decide]
  constructor
  · intro same
    exact DistinctKeys.position_unique distinct otherFound found same
  · rintro rfl
    rw [Option.some.inj (otherFound.symm.trans found)]

/-- Rendered allocations carry the shipped amounts. -/
theorem totalUnits_rendered (plan : List (GreedyTransport.Shipment ℕ ℕ AllocationTerms ℚ)) :
    totalUnits (plan.map allocationOf) = (plan.map GreedyTransport.Shipment.amount).sum := by
  simp [totalUnits, Function.comp_def, allocationOf]

/-- The need of a position at the end of a run: nonnegative, and together with
what was delivered the need at the start. -/
theorem remaining_demand
    (run : GreedyTransport.Run (Permitted start accepts) (initialTransport start) after)
    {demandAt : ℕ} {demand : InstanceDemand} (found : start.demands[demandAt]? = some demand)
    (nonnegative : 0 ≤ demand.remainingUnits) :
    0 ≤ after.need demandAt ∧ after.need demandAt ≤ demand.remainingUnits ∧
      after.need demandAt + GreedyTransport.delivered after.plan demandAt =
        demand.remainingUnits := by
  have initial : (initialTransport start).need demandAt = demand.remainingUnits := by
    simp [initialTransport, found]
  obtain ⟨upper, lower⟩ := run.need_bounds demandAt
  have conserved := run.need_conserved demandAt
  rw [initial] at upper lower conserved
  exact ⟨lower nonnegative, upper,
    by simpa [initialTransport, GreedyTransport.delivered] using conserved⟩

/-- What a capacity still has is its supply less what was allocated from it. -/
theorem remaining_capacity
    (run : GreedyTransport.Run (Permitted start accepts) (initialTransport start) after)
    {capacityAt : ℕ} {capacity : ReservationCapacity}
    (found : start.capacities[capacityAt]? = some capacity)
    (nonnegative : 0 ≤ capacity.remainingUnits) :
    0 ≤ after.supply capacityAt ∧ after.supply capacityAt ≤ capacity.remainingUnits ∧
      after.supply capacityAt + GreedyTransport.shipped after.plan capacityAt =
        capacity.remainingUnits := by
  have initial : (initialTransport start).supply capacityAt = capacity.remainingUnits := by
    simp [initialTransport, found]
  obtain ⟨upper, lower⟩ := run.supply_bounds capacityAt
  have conserved := run.supply_conserved capacityAt
  rw [initial] at upper lower conserved
  exact ⟨lower nonnegative, upper,
    by simpa [initialTransport, GreedyTransport.shipped] using conserved⟩

end Runs

section Assertions

/-- The assertions on an instance pass on results in range. -/
theorem assertInstance_ok {result : InstanceCoverageResult}
    (covered : result.coveredUnits ≤ result.requiredUnits) (uncovered : 0 ≤ result.uncoveredUnits)
    (percentage : 0 ≤ result.coveragePercentage ∧ result.coveragePercentage ≤ oneHundred) :
    assertInstance result = .ok ⟨⟩ := by
  simp only [assertInstance, not_lt.mpr covered, not_lt.mpr uncovered, percentage,
    and_self, not_true, ↓reduceIte]
  rfl

/-- So do those on a reservation whose total agrees. -/
theorem assertReservation_ok {byReservation : ℤ → ℚ} {result : ReservationUtilizationResult}
    (allocated : result.allocatedUnits ≤ result.totalUnits) (unused : 0 ≤ result.unusedUnits)
    (percentage : 0 ≤ result.utilizationPercentage ∧ result.utilizationPercentage ≤ oneHundred)
    (recomputed : byReservation result.reservation.id ≤ result.totalUnits) :
    assertReservation byReservation result = .ok ⟨⟩ := by
  simp only [assertReservation, not_lt.mpr allocated, not_lt.mpr unused, percentage,
    not_lt.mpr recomputed, and_self, not_true, ↓reduceIte]
  rfl

end Assertions

section Books

variable [CaseMapping]

/-- The books of one analysed instance over the allocations of the analysis. -/
structure InstanceBooks (allocations : List Allocation) (result : InstanceCoverageResult) : Prop where
  collected : allocations.filter (·.instanceRow.id = result.instanceRow.id) = result.allocations
  unknown : result.coverageStatus = .unknown ↔
    ∃ reason, instanceRequiredUnits result.instanceRow = .error reason
  required : ∀ units method, instanceRequiredUnits result.instanceRow = .ok (units, method) →
    result.requiredUnits = units ∧ 0 < result.requiredUnits
  received : ∀ units method, instanceRequiredUnits result.instanceRow = .ok (units, method) →
    totalUnits result.allocations = result.coveredUnits ∧
      result.coveredUnits + result.uncoveredUnits = result.requiredUnits
  status : ∀ units method, instanceRequiredUnits result.instanceRow = .ok (units, method) →
    (result.coverageStatus = .full ↔ result.uncoveredUnits = 0) ∧
      (result.coverageStatus = .uncovered ↔ result.coveredUnits = 0) ∧
      (result.coverageStatus = .partially ↔
        result.uncoveredUnits ≠ 0 ∧ result.coveredUnits ≠ 0)

/-- The books of one active reservation over the allocations of the analysis. -/
structure ReservationBooks (allocations : List Allocation)
    (result : ReservationUtilizationResult) : Prop where
  given : totalUnits (allocations.filter (·.reservation.id = result.reservation.id)) =
    result.allocatedUnits
  balance : result.allocatedUnits + result.unusedUnits = result.totalUnits
  total : ∀ units method, reservationTotalUnits result.reservation = .ok (units, method) →
    result.totalUnits = units

/-- A pair of rows that may appear in an allocation. -/
def KnownPair (allocation : Allocation) : Prop :=
  (∃ units method, instanceRequiredUnits allocation.instanceRow = .ok (units, method)) ∧
    ∃ units method, reservationTotalUnits allocation.reservation = .ok (units, method)

/-- The status partitions the covered part of a positive requirement. -/
theorem coverageResult_status (demand : InstanceDemand)
    (known : truthy demand.unknownReason = false) (lower : 0 ≤ demand.remainingUnits)
    (upper : demand.remainingUnits ≤ demand.requiredUnits) (positive : 0 < demand.requiredUnits) :
    ((coverageResult demand).coverageStatus = .full ↔ (coverageResult demand).uncoveredUnits = 0) ∧
      ((coverageResult demand).coverageStatus = .uncovered ↔
        (coverageResult demand).coveredUnits = 0) ∧
      ((coverageResult demand).coverageStatus = .partially ↔
        (coverageResult demand).uncoveredUnits ≠ 0 ∧ (coverageResult demand).coveredUnits ≠ 0) ∧
      (coverageResult demand).coverageStatus ≠ .unknown := by
  simp only [coverageResult, known, Bool.false_eq_true, ↓reduceIte, max_eq_right lower]
  by_cases nothing : demand.requiredUnits - demand.remainingUnits ≤ 0
  · have equal : demand.remainingUnits = demand.requiredUnits :=
      le_antisymm upper (sub_nonpos.mp nothing)
    simp [equal, positive.ne']
  · have covered : demand.requiredUnits - demand.remainingUnits ≠ 0 :=
      fun zero => nothing zero.le
    by_cases everything : demand.remainingUnits ≤ 0
    · have zero : demand.remainingUnits = 0 := le_antisymm everything lower
      simp [zero, not_le.mpr positive, positive.ne']
    · have uncovered : demand.remainingUnits ≠ 0 := fun zero => everything zero.le
      simp [nothing, everything, covered, uncovered]

variable {start : AllocationState} {after : TransportState}
  {accepts : AwsRdsReservedInstance → AwsRdsInstance → MatchDecision → Prop}

/-- The result of a demand balances: what it received is what was shipped to
its position, and the rest of its requirement remains. -/
theorem instanceBooks_of_run (distinct : (start.demands.map (·.row.id)).Nodup)
    (run : GreedyTransport.Run (Permitted start accepts) (initialTransport start) after)
    {demandAt : ℕ} {row : AwsRdsInstance} (found : start.demands[demandAt]? = some (demandOf row)) :
    InstanceBooks (after.plan.map allocationOf)
        (coverageResult (renderDemand after demandAt (demandOf row))) ∧
      assertInstance (coverageResult (renderDemand after demandAt (demandOf row))) = .ok ⟨⟩ := by
  have collected := allocations_of_instance distinct run found
  rw [demandOf_row] at collected
  cases derived : instanceRequiredUnits row with
  | error reason =>
    have nonempty : reason ≠ "" := instanceRequiredUnits_error derived
    -- an unknown demand is the target of no shipment
    have untouched : after.plan.filter (·.target = demandAt) = [] := by
      rw [List.filter_eq_nil_iff]
      intro shipment member target
      obtain ⟨_, _, other, _, otherFound, _, known, _⟩ := plan_permitted run shipment member
      rw [of_decide_eq_true target, found] at otherFound
      obtain rfl := Option.some.inj otherFound
      obtain ⟨units, method, contrary⟩ := (demandOf_reason row).mp known
      exact absurd (derived.symm.trans contrary) (by simp)
    rw [untouched] at collected
    have result : coverageResult (renderDemand after demandAt (demandOf row)) =
        ⟨row, 0, 0, 0, 0, .unknown, .unknown, .unknown, [], .unknownConfiguration reason⟩ := by
      simp [demandOf_unknown derived, renderDemand, coverageResult, nonempty]
    rw [result]
    refine ⟨⟨collected, by simp [derived], ?_, ?_, ?_⟩,
      assertInstance_ok le_rfl le_rfl ⟨le_rfl, by norm_num [oneHundred]⟩⟩
    all_goals exact fun units method known => absurd (derived.symm.trans known) (by simp)
  | ok known =>
    obtain ⟨units, method⟩ := known
    have positive : 0 < units := instanceRequiredUnits_pos derived
    rw [demandOf_known derived] at found ⊢
    obtain ⟨lower, upper, conserved⟩ := remaining_demand run found positive.le
    have statuses := coverageResult_status
      (renderDemand after demandAt ⟨row, units, units, method, none, []⟩) rfl lower upper positive
    have received : totalUnits ((after.plan.filter (·.target = demandAt)).map allocationOf) =
        units - after.need demandAt := by
      rw [totalUnits_rendered]
      exact eq_sub_of_add_eq' conserved
    have covered : (coverageResult (renderDemand after demandAt
        ⟨row, units, units, method, none, []⟩)).coveredUnits = units - after.need demandAt := rfl
    have uncovered : (coverageResult (renderDemand after demandAt
        ⟨row, units, units, method, none, []⟩)).uncoveredUnits = after.need demandAt :=
      max_eq_right lower
    have same {otherUnits : ℚ} {otherMethod : CalculationMethod}
        (other : instanceRequiredUnits row = .ok (otherUnits, otherMethod)) : units = otherUnits :=
      (Prod.mk.inj (Except.ok.inj (derived.symm.trans other))).1
    refine ⟨⟨collected, ?_, fun _ _ other => ⟨same other, positive⟩, fun _ _ _ => ⟨received, ?_⟩,
      fun _ _ _ => ⟨statuses.1, statuses.2.1, statuses.2.2.1⟩⟩, assertInstance_ok ?_ ?_ ?_⟩
    · apply iff_of_false statuses.2.2.2
      rintro ⟨reason, unknown⟩
      exact absurd (derived.symm.trans unknown) (by simp)
    · rw [covered, uncovered, sub_add_cancel]
      rfl
    · exact covered.le.trans (sub_le_self _ lower)
    · exact lower.trans uncovered.ge
    · exact safePercentage_bounds _ _

/-- The result of a capacity balances: what it gave is what was shipped from its
position, and the rest of its total is unused. -/
theorem reservationBooks_of_run (distinct : (start.capacities.map (·.row.id)).Nodup)
    (run : GreedyTransport.Run (Permitted start accepts) (initialTransport start) after)
    {capacityAt : ℕ} {row : AwsRdsReservedInstance}
    (found : start.capacities[capacityAt]? = some (capacityOf row)) :
    let result := utilizationResult (renderCapacity after capacityAt (capacityOf row))
      (allocatedByReservation (after.plan.map allocationOf) row.id)
    ReservationBooks (after.plan.map allocationOf) result ∧
      assertReservation (allocatedByReservation (after.plan.map allocationOf)) result =
        .ok ⟨⟩ := by
  have given := allocations_of_reservation distinct run found
  rw [capacityOf_row] at given
  simp only [allocatedByReservation_eq, given, totalUnits_rendered]
  cases derived : reservationTotalUnits row with
  | error reason =>
    have nonempty : reason ≠ "" := reservationTotalUnits_error derived
    -- an unknown capacity is the source of no shipment
    have untouched : after.plan.filter (·.source = capacityAt) = [] := by
      rw [List.filter_eq_nil_iff]
      intro shipment member source
      obtain ⟨_, other, _, otherFound, _, known, _⟩ := plan_permitted run shipment member
      rw [of_decide_eq_true source, found] at otherFound
      obtain rfl := Option.some.inj otherFound
      obtain ⟨units, method, contrary⟩ := (capacityOf_reason row).mp known
      exact absurd (derived.symm.trans contrary) (by simp)
    have result (allocated : ℚ) : utilizationResult (renderCapacity after capacityAt
        (capacityOf row)) allocated = ⟨row, 0, 0, 0, 0⟩ := by
      simp [capacityOf_unknown derived, renderCapacity, utilizationResult, nonempty]
    rw [untouched] at given
    simp only [result]
    refine ⟨⟨?_, by norm_num, fun units method known =>
        absurd (derived.symm.trans known) (by simp)⟩,
      assertReservation_ok le_rfl le_rfl ⟨le_rfl, by norm_num [oneHundred]⟩ ?_⟩
    · rw [given]
      rfl
    · rw [allocatedByReservation_eq, given]
      exact le_rfl
  | ok known =>
    obtain ⟨units, method⟩ := known
    have positive : 0 < units := reservationTotalUnits_pos derived
    rw [capacityOf_known derived] at found ⊢
    obtain ⟨lower, upper, conserved⟩ := remaining_capacity run found positive.le
    have shippedUnits : ((after.plan.filter (·.source = capacityAt)).map
        GreedyTransport.Shipment.amount).sum = units - after.supply capacityAt :=
      eq_sub_of_add_eq' conserved
    have given' : totalUnits ((after.plan.map allocationOf).filter (·.reservation.id = row.id)) =
        units - after.supply capacityAt := by
      rw [given, totalUnits_rendered, shippedUnits]
    rw [shippedUnits]
    have bounded : units - after.supply capacityAt ≤ units := sub_le_self _ lower
    have unused : max 0 (units - (units - after.supply capacityAt)) = after.supply capacityAt := by
      rw [sub_sub_cancel, max_eq_right lower]
    refine ⟨⟨given', ?_, ?_⟩, assertReservation_ok bounded (le_max_left _ _)
      (safePercentage_bounds _ _) ?_⟩
    · simp only [utilizationResult, renderCapacity, truthy_none, Bool.false_eq_true, ↓reduceIte,
        unused, sub_add_cancel]
    · intro otherUnits otherMethod other
      exact (Prod.mk.inj (Except.ok.inj (derived.symm.trans other))).1
    · exact (allocatedByReservation_eq _ _).trans given' |>.le.trans bounded

/-- There is one result of every analysed instance. -/
theorem collected_instances (at_ : Instant) (instances : List AwsRdsInstance)
    (reservations : List AwsRdsReservedInstance) (after : TransportState) :
    ((collectResults (render (initialState at_ instances reservations) after)).instances.map
      (·.instanceRow)).Perm (analysedInstances instances) := by
  have kept : (render (initialState at_ instances reservations) after).demands.map (·.row) =
      (sortedDemands instances).map (·.row) := rendered_demand_rows _ _
  simpa [collectResults, Function.comp_def, kept] using
    (sortedDemands_perm instances).map (·.row)

/-- There is one result of every analysed reservation. -/
theorem collected_reservations (at_ : Instant) (instances : List AwsRdsInstance)
    (reservations : List AwsRdsReservedInstance) (after : TransportState) :
    ((collectResults (render (initialState at_ instances reservations) after)).reservations.map
      (·.reservation)).Perm (analysedReservations at_ reservations) := by
  have kept : (render (initialState at_ instances reservations) after).capacities.map (·.row) =
      (sortedCapacities at_ reservations).map (·.row) := rendered_capacity_rows _ _
  simpa [collectResults, Function.comp_def, kept] using
    (sortedCapacities_perm at_ reservations).map (·.row)

/-- Every analysis conserves capacity and passes its own assertions. -/
theorem analyze_conserves (billing : BillingScopeContext) (at_ : Instant)
    (instances : List AwsRdsInstance) (reservations : List AwsRdsReservedInstance)
    (distinctInstances : (instances.map (·.id)).Nodup)
    (distinctReservations : (reservations.map (·.id)).Nodup) :
    ∃ analysis, analyze billing at_ instances reservations = .ok analysis ∧
      (analysis.instances.map (·.instanceRow)).Perm (analysedInstances instances) ∧
      (analysis.reservations.map (·.reservation)).Perm (analysedReservations at_ reservations) ∧
      (∀ allocation ∈ analysis.allocations, 0 < allocation.units ∧ KnownPair allocation ∧
        allocation.instanceRow ∈ analysedInstances instances ∧
        allocation.reservation ∈ analysedReservations at_ reservations) ∧
      (∀ result ∈ analysis.reservations, ReservationBooks analysis.allocations result) ∧
      (∀ result ∈ analysis.instances, InstanceBooks analysis.allocations result) := by
  obtain ⟨after, rendered, run, _⟩ := allocatePhases_run billing at_
    (initialState_unallocated at_ instances reservations) rfl
  have instanceBooks (result : InstanceCoverageResult)
      (member : result ∈ (render (initialState at_ instances reservations) after).demands.map
        coverageResult) :
      InstanceBooks (after.plan.map allocationOf) result ∧ assertInstance result = .ok ⟨⟩ := by
    obtain ⟨record, recordMember, rfl⟩ := List.mem_map.mp member
    obtain ⟨demandAt, demand, found, rfl⟩ := mem_rendered_demands recordMember
    have fresh := sortedDemands_fresh found
    rw [fresh] at found ⊢
    exact instanceBooks_of_run (sortedDemands_distinct distinctInstances) run found
  have reservationBooks (result : ReservationUtilizationResult)
      (member : result ∈ (render (initialState at_ instances reservations) after).capacities.map
        fun capacity => utilizationResult capacity
          (allocatedByReservation (after.plan.map allocationOf) capacity.row.id)) :
      ReservationBooks (after.plan.map allocationOf) result ∧
        assertReservation (allocatedByReservation (after.plan.map allocationOf)) result =
          .ok ⟨⟩ := by
    obtain ⟨record, recordMember, rfl⟩ := List.mem_map.mp member
    obtain ⟨capacityAt, capacity, found, rfl⟩ := mem_rendered_capacities recordMember
    have fresh := sortedCapacities_fresh found
    rw [fresh] at found
    have books := reservationBooks_of_run (sortedCapacities_distinct distinctReservations) run found
    rw [← fresh] at books
    exact books
  refine ⟨collectResults (render (initialState at_ instances reservations) after),
    (analyze_eq_ok rendered).mpr ⟨rfl, fun result member => (instanceBooks result member).2,
      fun result member => (reservationBooks result member).2⟩, ?_, ?_, ?_,
    fun result member => (reservationBooks result member).1,
    fun result member => (instanceBooks result member).1⟩
  · exact collected_instances at_ instances reservations after
  · exact collected_reservations at_ instances reservations after
  · intro allocation member
    obtain ⟨shipment, shipmentMember, rfl⟩ := List.mem_map.mp member
    obtain ⟨positive, capacity, demand, capacityFound, demandFound, capacityKnown, demandKnown, _,
      reservationSame, instanceSame⟩ := plan_permitted run shipment shipmentMember
    rw [sortedDemands_fresh demandFound, demandOf_reason] at demandKnown
    rw [sortedCapacities_fresh capacityFound, capacityOf_reason] at capacityKnown
    have instanceRow : (allocationOf shipment).instanceRow = demand.row := instanceSame
    have reservationRow : (allocationOf shipment).reservation = capacity.row := reservationSame
    rw [KnownPair, instanceRow, reservationRow]
    exact ⟨positive, ⟨demandKnown, capacityKnown⟩, sortedDemands_row demandFound,
      sortedCapacities_row capacityFound⟩

end Books

section Small

attribute [local instance] asciiCase

/-- Two instances share one reservation. -/
theorem analyze_conserves_shared :
    ∃ analysis,
      analyze .isolated 5 [sampleInstance 1 "a", sampleInstance 2 "b"] [sampleReservation 3 "r"] =
        .ok analysis ∧
      ∀ result ∈ analysis.instances, InstanceBooks analysis.allocations result := by
  obtain ⟨analysis, returned, _, _, _, _, books⟩ := analyze_conserves .isolated 5
    [sampleInstance 1 "a", sampleInstance 2 "b"] [sampleReservation 3 "r"] (by decide) (by decide)
  exact ⟨analysis, returned, books⟩

end Small

end FinopsAnalytics.RdsCoverageConservation
