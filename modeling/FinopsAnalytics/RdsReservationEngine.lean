import FinopsAnalytics.DistinctKeys
import FinopsAnalytics.Fallible
import FinopsAnalytics.RdsReservationRules
import Mathlib.Data.Prod.Lex

/-!
# The reservation coverage engine

Demands and capacities are mutable records that the two allocation phases share
by reference. They are kept at fixed positions of two lists; a pool lists the
positions of its capacities in sort order. Both phases run the same loops and
differ only in which decision of the matcher lets a pair allocate.
-/

namespace FinopsAnalytics.RdsReservationEngine

open PythonText RdsInventory RdsReservationRules

inductive CoverageExplanation where
  | unknownConfiguration (detail : String)
  | allocated (topology engine : String) (family size : Option String) (allocationCount : ℕ)
deriving DecidableEq, Repr

structure InstanceCoverageResult where
  instanceRow : AwsRdsInstance
  requiredUnits : ℚ
  coveredUnits : ℚ
  uncoveredUnits : ℚ
  coveragePercentage : ℚ
  coverageStatus : CoverageStatus
  coverageScope : AllocationScope
  calculationMethod : CalculationMethod
  allocations : List Allocation
  explanation : CoverageExplanation
deriving DecidableEq, Repr

structure ReservationUtilizationResult where
  reservation : AwsRdsReservedInstance
  totalUnits : ℚ
  allocatedUnits : ℚ
  unusedUnits : ℚ
  utilizationPercentage : ℚ
deriving DecidableEq, Repr

structure CoverageAnalysis where
  instances : List InstanceCoverageResult
  reservations : List ReservationUtilizationResult
  allocations : List Allocation
deriving DecidableEq, Repr

/-- The records that the phases mutate. -/
@[ext] structure AllocationState where
  demands : List InstanceDemand
  capacities : List ReservationCapacity
  allAllocations : List Allocation
deriving DecidableEq, Repr

/-- The sort keys compare as tuples of text. -/
abbrev SortKey := String ×ₗ String ×ₗ String ×ₗ String ×ₗ String

abbrev PoolKey := String × String × Option String

/-- Capacity positions of each pool. -/
abbrev Pools := List (PoolKey × List ℕ)

def demandSortKey (row : AwsRdsInstance) : SortKey :=
  toLex (row.accountId, toLex (row.region, toLex (row.engineNormalized,
    toLex (row.dbInstanceClass, row.dbInstanceIdentifier))))

def capacitySortKey (row : AwsRdsReservedInstance) : SortKey :=
  toLex (row.accountId, toLex (row.region, toLex (row.engineNormalized,
    toLex (row.dbInstanceClass, row.reservedDbInstanceId))))

/-- `pools[key].append(position)` on a `defaultdict(list)`. -/
def appendToPool (key : PoolKey) (position : ℕ) : Pools → Pools
  | [] => [(key, [position])]
  | (other, members) :: rest =>
    if other = key then (other, members ++ [position]) :: rest
    else (other, members) :: appendToPool key position rest

/-- `pools.get(key, [])`. -/
def poolMembers (pools : Pools) (key : PoolKey) : List ℕ := (pools.lookup key).getD []

/-- `_allocate`: both records give up the smaller of their remaining units. -/
def allocate (state : AllocationState) (demandAt capacityAt : ℕ) (demand : InstanceDemand)
    (capacity : ReservationCapacity) (decision : MatchDecision) : AllocationState :=
  let units := min capacity.remainingUnits demand.remainingUnits
  let allocation : Allocation :=
    { reservation := capacity.row
      instanceRow := demand.row
      units := units
      matchType := decision.matchType
      allocationScope := decision.allocationScope
      reason := decision.reason }
  { demands := state.demands.set demandAt
      { demand with
        remainingUnits := demand.remainingUnits - units
        allocations := demand.allocations ++ [allocation] }
    capacities := state.capacities.set capacityAt
      { capacity with remainingUnits := capacity.remainingUnits - units }
    allAllocations := state.allAllocations ++ [allocation] }

/-- The inner loop of a phase over the capacities of one pool. It leaves as soon
as the demand has nothing remaining. -/
def fillFromPool (select : AwsRdsReservedInstance → AwsRdsInstance → Option MatchDecision)
    (demandAt : ℕ) : List ℕ → AllocationState → AllocationState
  | [], state => state
  | capacityAt :: rest, state =>
    match state.demands[demandAt]?, state.capacities[capacityAt]? with
    | some demand, some capacity =>
      if truthy capacity.unknownReason ∨ capacity.remainingUnits ≤ 0 then
        fillFromPool select demandAt rest state
      else
        match select capacity.row demand.row with
        | none => fillFromPool select demandAt rest state
        | some decision =>
          let allocated := allocate state demandAt capacityAt demand capacity decision
          if demand.remainingUnits - min capacity.remainingUnits demand.remainingUnits ≤ 0 then
            allocated
          else fillFromPool select demandAt rest allocated
    | _, _ => fillFromPool select demandAt rest state

section Engine

variable [CaseMapping]

/-- `_demand`. -/
def demandOf (row : AwsRdsInstance) : InstanceDemand :=
  match instanceRequiredUnits row with
  | .ok (required, method) => ⟨row, required, required, method, none, []⟩
  | .error reason => ⟨row, 0, 0, .unknown, some reason, []⟩

/-- `_capacity`. -/
def capacityOf (row : AwsRdsReservedInstance) : ReservationCapacity :=
  match reservationTotalUnits row with
  | .ok (total, method) => ⟨row, total, total, method, none⟩
  | .error reason => ⟨row, 0, 0, .unknown, some reason⟩

/-- `_pool_key` of an instance. -/
def instancePoolKey (row : AwsRdsInstance) : PoolKey :=
  (row.region, normalizeRdsEngine row.engineNormalized, row.instanceFamily)

/-- `_pool_key` of a reservation. -/
def reservationPoolKey (row : AwsRdsReservedInstance) : PoolKey :=
  (row.region, normalizeRdsEngine row.engineNormalized, row.instanceFamily)

def capacityPools (capacities : List ReservationCapacity) : Pools :=
  capacities.zipIdx.foldl
    (fun pools entry => appendToPool (reservationPoolKey entry.1.row) entry.2 pools) []

/-- The outer loop of a phase over the demands. -/
def allocationPhase (select : AwsRdsReservedInstance → AwsRdsInstance → Option MatchDecision)
    (pools : Pools) : List ℕ → AllocationState → AllocationState
  | [], state => state
  | demandAt :: rest, state =>
    match state.demands[demandAt]? with
    | none => allocationPhase select pools rest state
    | some demand =>
      if truthy demand.unknownReason ∨ demand.remainingUnits ≤ 0 then
        allocationPhase select pools rest state
      else
        allocationPhase select pools rest
          (fillFromPool select demandAt (poolMembers pools (instancePoolKey demand.row)) state)

/-- The decision that lets a pair allocate in phase 1: equal classes and an exact
match, with flexible matching consulted only after the strict one refuses. -/
def exactSelection (billing : BillingScopeContext) (at_ : Instant)
    (reservation : AwsRdsReservedInstance) (row : AwsRdsInstance) : Option MatchDecision :=
  if reservation.dbInstanceClass ≠ row.dbInstanceClass then none
  else
    let strict := matchReservation billing reservation row at_ false
    if strict.compatible then some strict
    else
      let flexible := matchReservation billing reservation row at_ true
      if !flexible.compatible || flexible.matchType ≠ .exact then none else some flexible

/-- The decision that lets a pair allocate in phase 2. -/
def flexibleSelection (billing : BillingScopeContext) (at_ : Instant)
    (reservation : AwsRdsReservedInstance) (row : AwsRdsInstance) : Option MatchDecision :=
  let decision := matchReservation billing reservation row at_ true
  if !decision.compatible || decision.matchType ≠ .sizeFlexible then none else some decision

/-- `_coverage_result`. -/
def coverageResult (demand : InstanceDemand) : InstanceCoverageResult :=
  if truthy demand.unknownReason then
    { instanceRow := demand.row
      requiredUnits := 0
      coveredUnits := 0
      uncoveredUnits := 0
      coveragePercentage := 0
      coverageStatus := .unknown
      coverageScope := .unknown
      calculationMethod := .unknown
      allocations := []
      explanation := .unknownConfiguration (orEmpty demand.unknownReason) }
  else
    let covered := demand.requiredUnits - demand.remainingUnits
    let uncovered := max 0 demand.remainingUnits
    let status : CoverageStatus :=
      if covered ≤ 0 then .uncovered else if uncovered ≤ 0 then .full else .partially
    let scopes := demand.allocations.map Allocation.allocationScope
    let scope : AllocationScope :=
      if scopes = [] then .sameAccount
      else if AllocationScope.crossAccountVerified ∈ scopes then .crossAccountVerified
      else .sameAccount
    { instanceRow := demand.row
      requiredUnits := demand.requiredUnits
      coveredUnits := covered
      uncoveredUnits := uncovered
      coveragePercentage := safePercentage covered demand.requiredUnits
      coverageStatus := status
      coverageScope := scope
      calculationMethod := demand.calculationMethod
      allocations := demand.allocations
      explanation := .allocated (instanceTopology demand.row) demand.row.engineNormalized
        demand.row.instanceFamily demand.row.instanceSize demand.allocations.length }

/-- `_utilization_result`. -/
def utilizationResult (capacity : ReservationCapacity) (allocated : ℚ) :
    ReservationUtilizationResult :=
  if truthy capacity.unknownReason then ⟨capacity.row, 0, 0, 0, 0⟩
  else
    { reservation := capacity.row
      totalUnits := capacity.totalUnits
      allocatedUnits := allocated
      unusedUnits := max 0 (capacity.totalUnits - allocated)
      utilizationPercentage := safePercentage allocated capacity.totalUnits }

/-- The accumulation `totals[allocation.reservation.id] += allocation.units` over
a `defaultdict` of zeros. -/
def allocatedByReservation (allocations : List Allocation) : ℤ → ℚ :=
  allocations.foldl
    (fun totals allocation => Function.update totals allocation.reservation.id
      (totals allocation.reservation.id + allocation.units))
    (fun _ => 0)

def assertInstance (result : InstanceCoverageResult) : Except String Unit := do
  if result.coveredUnits > result.requiredUnits then
    throw "covered_units cannot exceed required_units"
  if result.uncoveredUnits < 0 then throw "uncovered_units cannot be negative"
  if ¬(0 ≤ result.coveragePercentage ∧ result.coveragePercentage ≤ oneHundred) then
    throw "coverage_percentage is outside [0, 100]"

def assertReservation (byReservation : ℤ → ℚ) (result : ReservationUtilizationResult) :
    Except String Unit := do
  if result.allocatedUnits > result.totalUnits then
    throw "allocated_units cannot exceed reserved_units"
  if result.unusedUnits < 0 then throw "unused_units cannot be negative"
  if ¬(0 ≤ result.utilizationPercentage ∧ result.utilizationPercentage ≤ oneHundred) then
    throw "utilization_percentage is outside [0, 100]"
  if byReservation result.reservation.id > result.totalUnits then
    throw "sum(allocations) cannot exceed reservation capacity"

/-- `_assert_invariants`: the first violated check raises `AssertionError` with
its text. -/
def assertInvariants (instances : List InstanceCoverageResult)
    (reservations : List ReservationUtilizationResult) (allocations : List Allocation) :
    Except String Unit := do
  instances.forM assertInstance
  reservations.forM (assertReservation (allocatedByReservation allocations))

/-- The instances that an analysis covers. -/
def analysedInstances (instances : List AwsRdsInstance) : List AwsRdsInstance :=
  instances.filter fun row => row.isActive && isReservationCoverageEligibleInstance row

/-- The reservations that an analysis uses. -/
def analysedReservations (at_ : Instant) (reservations : List AwsRdsReservedInstance) :
    List AwsRdsReservedInstance :=
  reservations.filter (isActiveReservation · at_)

/-- The demands of the analysed instances, in sort order. -/
def sortedDemands (instances : List AwsRdsInstance) : List InstanceDemand :=
  DistinctKeys.sortByKey (fun demand => demandSortKey demand.row)
    ((analysedInstances instances).map demandOf)

/-- The capacities of the active reservations, in sort order. -/
def sortedCapacities (at_ : Instant) (reservations : List AwsRdsReservedInstance) :
    List ReservationCapacity :=
  DistinctKeys.sortByKey (fun capacity => capacitySortKey capacity.row)
    ((analysedReservations at_ reservations).map capacityOf)

def initialState (at_ : Instant) (instances : List AwsRdsInstance)
    (reservations : List AwsRdsReservedInstance) : AllocationState :=
  ⟨sortedDemands instances, sortedCapacities at_ reservations, []⟩

/-- Phase 1 followed by phase 2, on the same records. -/
def allocatePhases (billing : BillingScopeContext) (at_ : Instant) (state : AllocationState) :
    AllocationState :=
  let pools := capacityPools state.capacities
  let positions := List.range state.demands.length
  allocationPhase (flexibleSelection billing at_) pools positions
    (allocationPhase (exactSelection billing at_) pools positions state)

/-- The results read off the records after both phases. -/
def collectResults (final : AllocationState) : CoverageAnalysis :=
  let totals := allocatedByReservation final.allAllocations
  { instances := final.demands.map coverageResult
    reservations := final.capacities.map fun capacity =>
      utilizationResult capacity (totals capacity.row.id)
    allocations := final.allAllocations }

/-- `RdsReservationCoverageEngine.analyze`. An error is the text of a failed
invariant assertion. -/
def analyze (billing : BillingScopeContext) (at_ : Instant) (instances : List AwsRdsInstance)
    (reservations : List AwsRdsReservedInstance) : Except String CoverageAnalysis := do
  let analysis := collectResults
    (allocatePhases billing at_ (initialState at_ instances reservations))
  assertInvariants analysis.instances analysis.reservations analysis.allocations
  return analysis

/-- The record of a known instance starts with its whole requirement remaining. -/
theorem demandOf_known {row : AwsRdsInstance} {units : ℚ} {method : CalculationMethod}
    (known : instanceRequiredUnits row = .ok (units, method)) :
    demandOf row = ⟨row, units, units, method, none, []⟩ := by
  simp [demandOf, known]

theorem demandOf_unknown {row : AwsRdsInstance} {reason : String}
    (unknown : instanceRequiredUnits row = .error reason) :
    demandOf row = ⟨row, 0, 0, .unknown, some reason, []⟩ := by
  simp [demandOf, unknown]

theorem capacityOf_known {row : AwsRdsReservedInstance} {units : ℚ} {method : CalculationMethod}
    (known : reservationTotalUnits row = .ok (units, method)) :
    capacityOf row = ⟨row, units, units, method, none⟩ := by
  simp [capacityOf, known]

theorem capacityOf_unknown {row : AwsRdsReservedInstance} {reason : String}
    (unknown : reservationTotalUnits row = .error reason) :
    capacityOf row = ⟨row, 0, 0, .unknown, some reason⟩ := by
  simp [capacityOf, unknown]

@[simp] theorem demandOf_row (row : AwsRdsInstance) : (demandOf row).row = row := by
  unfold demandOf
  split <;> rfl

@[simp] theorem demandOf_allocations (row : AwsRdsInstance) : (demandOf row).allocations = [] := by
  unfold demandOf
  split <;> rfl

@[simp] theorem capacityOf_row (row : AwsRdsReservedInstance) : (capacityOf row).row = row := by
  unfold capacityOf
  split <;> rfl

@[simp] theorem capacityOf_remaining (row : AwsRdsReservedInstance) :
    (capacityOf row).remainingUnits = (capacityOf row).totalUnits := by
  unfold capacityOf
  split <;> rfl

/-- The marker of an unknown demand is a nonempty text. -/
theorem demandOf_reason (row : AwsRdsInstance) :
    truthy (demandOf row).unknownReason = false ↔
      ∃ units method, instanceRequiredUnits row = .ok (units, method) := by
  cases derived : instanceRequiredUnits row with
  | ok known =>
    obtain ⟨units, method⟩ := known
    simp [demandOf_known derived]
  | error reason => simp [demandOf_unknown derived, instanceRequiredUnits_error derived]

theorem capacityOf_reason (row : AwsRdsReservedInstance) :
    truthy (capacityOf row).unknownReason = false ↔
      ∃ units method, reservationTotalUnits row = .ok (units, method) := by
  cases derived : reservationTotalUnits row with
  | ok known =>
    obtain ⟨units, method⟩ := known
    simp [capacityOf_known derived]
  | error reason => simp [capacityOf_unknown derived, reservationTotalUnits_error derived]

/-- Sorting loses and adds no demand. -/
theorem sortedDemands_perm (instances : List AwsRdsInstance) :
    (sortedDemands instances).Perm ((analysedInstances instances).map demandOf) :=
  DistinctKeys.sortByKey_perm _ _

/-- Nor a capacity. -/
theorem sortedCapacities_perm (at_ : Instant) (reservations : List AwsRdsReservedInstance) :
    (sortedCapacities at_ reservations).Perm
      ((analysedReservations at_ reservations).map capacityOf) :=
  DistinctKeys.sortByKey_perm _ _

variable {instances : List AwsRdsInstance} {at_ : Instant}
  {reservations : List AwsRdsReservedInstance}

/-- Every record at the start is the fresh record of its row. -/
theorem sortedDemands_fresh {demandAt : ℕ} {demand : InstanceDemand}
    (found : (sortedDemands instances)[demandAt]? = some demand) :
    demand = demandOf demand.row := by
  have member := (sortedDemands_perm instances).mem_iff.mp (List.mem_of_getElem? found)
  obtain ⟨row, _, rfl⟩ := List.mem_map.mp member
  rw [demandOf_row]

/-- Before the loop no capacity is used. -/
theorem sortedCapacities_fresh {capacityAt : ℕ} {capacity : ReservationCapacity}
    (found : (sortedCapacities at_ reservations)[capacityAt]? = some capacity) :
    capacity = capacityOf capacity.row := by
  have member := (sortedCapacities_perm at_ reservations).mem_iff.mp (List.mem_of_getElem? found)
  obtain ⟨row, _, rfl⟩ := List.mem_map.mp member
  rw [capacityOf_row]

theorem initialState_unallocated (at_ : Instant) (instances : List AwsRdsInstance)
    (reservations : List AwsRdsReservedInstance) :
    ∀ demand ∈ (initialState at_ instances reservations).demands, demand.allocations = [] := by
  intro demand member
  obtain ⟨row, _, rfl⟩ := List.mem_map.mp ((sortedDemands_perm instances).mem_iff.mp member)
  exact demandOf_allocations row

/-- The record at a position belongs to an analysed row. -/
theorem sortedDemands_row {demandAt : ℕ} {demand : InstanceDemand}
    (found : (sortedDemands instances)[demandAt]? = some demand) :
    demand.row ∈ analysedInstances instances := by
  have member := (sortedDemands_perm instances).mem_iff.mp (List.mem_of_getElem? found)
  obtain ⟨row, rowMember, rfl⟩ := List.mem_map.mp member
  rwa [demandOf_row]

theorem sortedCapacities_row {capacityAt : ℕ} {capacity : ReservationCapacity}
    (found : (sortedCapacities at_ reservations)[capacityAt]? = some capacity) :
    capacity.row ∈ analysedReservations at_ reservations := by
  have member := (sortedCapacities_perm at_ reservations).mem_iff.mp (List.mem_of_getElem? found)
  obtain ⟨row, rowMember, rfl⟩ := List.mem_map.mp member
  rwa [capacityOf_row]

/-- Distinct ids of the rows are distinct ids of the records. -/
theorem sortedDemands_distinct (distinct : (instances.map (·.id)).Nodup) :
    ((sortedDemands instances).map (·.row.id)).Nodup := by
  rw [((sortedDemands_perm instances).map _).nodup_iff]
  simpa [Function.comp_def, analysedInstances] using
    distinct.sublist (List.filter_sublist.map _)

theorem sortedCapacities_distinct (distinct : (reservations.map (·.id)).Nodup) :
    ((sortedCapacities at_ reservations).map (·.row.id)).Nodup := by
  rw [((sortedCapacities_perm at_ reservations).map _).nodup_iff]
  simpa [Function.comp_def, analysedReservations] using
    distinct.sublist (List.filter_sublist.map _)

@[simp] theorem coverageResult_instanceRow (demand : InstanceDemand) :
    (coverageResult demand).instanceRow = demand.row := by
  unfold coverageResult
  split <;> rfl

omit [CaseMapping] in
@[simp] theorem utilizationResult_reservation (capacity : ReservationCapacity) (allocated : ℚ) :
    (utilizationResult capacity allocated).reservation = capacity.row := by
  unfold utilizationResult
  split <;> rfl

/-- Without a failed assertion the analysis is what the records say. -/
theorem analyze_eq_ok {billing : BillingScopeContext} {final : AllocationState}
    (allocated : allocatePhases billing at_ (initialState at_ instances reservations) = final)
    {analysis : CoverageAnalysis} :
    analyze billing at_ instances reservations = .ok analysis ↔
      collectResults final = analysis ∧
        (∀ result ∈ analysis.instances, assertInstance result = .ok ⟨⟩) ∧
        ∀ result ∈ analysis.reservations,
          assertReservation (allocatedByReservation analysis.allocations) result = .ok ⟨⟩ := by
  simp only [analyze, allocated, assertInvariants, Fallible.bind_eq_ok, Fallible.forM_eq_ok, pure,
    Except.pure, Except.ok.injEq]
  constructor
  · rintro ⟨_, ⟨_, checked, alsoChecked⟩, rfl⟩
    exact ⟨rfl, checked, alsoChecked⟩
  · rintro ⟨rfl, checked, alsoChecked⟩
    exact ⟨⟨⟩, ⟨⟨⟩, checked, alsoChecked⟩, rfl⟩

/-- With distinct keys the order of the rows is immaterial. -/
theorem sortedDemands_eq_of_perm {left right : List AwsRdsInstance} (arranged : left.Perm right)
    (distinct : (left.map demandSortKey).Nodup) : sortedDemands left = sortedDemands right := by
  apply DistinctKeys.sortByKey_eq_of_perm
  · exact (arranged.filter _).map _
  · simpa [Function.comp_def, analysedInstances] using
      distinct.sublist (List.filter_sublist.map _)

/-- So is that of the reservations. -/
theorem sortedCapacities_eq_of_perm {left right : List AwsRdsReservedInstance}
    (arranged : left.Perm right) (distinct : (left.map capacitySortKey).Nodup) :
    sortedCapacities at_ left = sortedCapacities at_ right := by
  apply DistinctKeys.sortByKey_eq_of_perm
  · exact (arranged.filter _).map _
  · simpa [Function.comp_def, analysedReservations] using
      distinct.sublist (List.filter_sublist.map _)

/-- An analysis reads its rows only through the two sorts, so with distinct sort
keys every arrangement of the rows has the same results and allocations. -/
theorem analyze_arrangement (billing : BillingScopeContext) (at_ : Instant)
    {instances otherInstances : List AwsRdsInstance}
    {reservations otherReservations : List AwsRdsReservedInstance}
    (instancesArranged : instances.Perm otherInstances)
    (reservationsArranged : reservations.Perm otherReservations)
    (distinctInstances : (instances.map demandSortKey).Nodup)
    (distinctReservations : (reservations.map capacitySortKey).Nodup) :
    analyze billing at_ instances reservations =
      analyze billing at_ otherInstances otherReservations := by
  have start : initialState at_ instances reservations =
      initialState at_ otherInstances otherReservations := by
    rw [initialState, sortedDemands_eq_of_perm instancesArranged distinctInstances,
      sortedCapacities_eq_of_perm reservationsArranged distinctReservations, initialState]
  rw [analyze, start, analyze]

end Engine

section Small

attribute [local instance] asciiCase

theorem analyze_arrangement_swapped :
    analyze .isolated 5 [sampleInstance 1 "a", sampleInstance 2 "b"]
        [sampleReservation 3 "r", sampleReservation 4 "s"] =
      analyze .isolated 5 [sampleInstance 2 "b", sampleInstance 1 "a"]
        [sampleReservation 4 "s", sampleReservation 3 "r"] :=
  analyze_arrangement .isolated 5 (.swap _ _ _) (.swap _ _ _) (by decide) (by decide)

end Small

end FinopsAnalytics.RdsReservationEngine
