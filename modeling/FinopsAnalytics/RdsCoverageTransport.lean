import FinopsAnalytics.GreedyTransport
import FinopsAnalytics.RdsReservationEngine

/-!
# The allocation phases as greedy transport

Capacities supply units, demands need them, and every allocation is a shipment.
The mutable records of a phase are a rendering of a transport state over the
records that the phase started from: only the remaining units and the collected
allocations ever change. Each loop then follows a run of transport and leaves
every pair that it accepts exhausted.
-/

namespace FinopsAnalytics.RdsCoverageTransport

open PythonText RdsInventory RdsReservationRules RdsReservationEngine

/-- What an allocation records besides its units. -/
structure AllocationTerms where
  reservation : AwsRdsReservedInstance
  instanceRow : AwsRdsInstance
  decision : MatchDecision

abbrev TransportState := GreedyTransport.State ℕ ℕ AllocationTerms ℚ

def allocationOf (shipment : GreedyTransport.Shipment ℕ ℕ AllocationTerms ℚ) : Allocation :=
  { reservation := shipment.terms.reservation
    instanceRow := shipment.terms.instanceRow
    units := shipment.amount
    matchType := shipment.terms.decision.matchType
    allocationScope := shipment.terms.decision.allocationScope
    reason := shipment.terms.decision.reason }

/-- The mutable record of a demand. -/
def renderDemand (transport : TransportState) (demandAt : ℕ) (demand : InstanceDemand) :
    InstanceDemand :=
  { demand with
    remainingUnits := transport.need demandAt
    allocations := (transport.plan.filter (·.target = demandAt)).map allocationOf }

/-- The mutable record of a capacity. -/
def renderCapacity (transport : TransportState) (capacityAt : ℕ) (capacity : ReservationCapacity) :
    ReservationCapacity :=
  { capacity with remainingUnits := transport.supply capacityAt }

/-- The records of a phase that started from `start`. -/
def render (start : AllocationState) (transport : TransportState) : AllocationState :=
  { demands := start.demands.mapIdx (renderDemand transport)
    capacities := start.capacities.mapIdx (renderCapacity transport)
    allAllocations := transport.plan.map allocationOf }

/-- The transport state before any allocation. -/
def initialTransport (start : AllocationState) : TransportState :=
  { supply := fun capacityAt => (start.capacities[capacityAt]?.map (·.remainingUnits)).getD 0
    need := fun demandAt => (start.demands[demandAt]?.map (·.remainingUnits)).getD 0
    plan := [] }

/-- An allocation needs a known demand, a known capacity and a decision that
`accepts` lets through. -/
def Permitted (start : AllocationState)
    (accepts : AwsRdsReservedInstance → AwsRdsInstance → MatchDecision → Prop)
    (capacityAt demandAt : ℕ) (terms : AllocationTerms) : Prop :=
  ∃ capacity demand, start.capacities[capacityAt]? = some capacity ∧
    start.demands[demandAt]? = some demand ∧
    truthy capacity.unknownReason = false ∧ truthy demand.unknownReason = false ∧
    accepts capacity.row demand.row terms.decision ∧
    terms.reservation = capacity.row ∧ terms.instanceRow = demand.row

theorem render_demand (start : AllocationState) (transport : TransportState) (demandAt : ℕ) :
    (render start transport).demands[demandAt]? =
      start.demands[demandAt]?.map (renderDemand transport demandAt) := by
  simp [render]

theorem render_capacity (start : AllocationState) (transport : TransportState) (capacityAt : ℕ) :
    (render start transport).capacities[capacityAt]? =
      start.capacities[capacityAt]?.map (renderCapacity transport capacityAt) := by
  simp [render]

variable {start : AllocationState}

/-- A rendered record is the rendering of the record at its position. -/
theorem mem_rendered_demands {transport : TransportState} {record : InstanceDemand}
    (member : record ∈ (render start transport).demands) :
    ∃ demandAt demand, start.demands[demandAt]? = some demand ∧
      renderDemand transport demandAt demand = record := by
  obtain ⟨demandAt, inside, rfl⟩ := List.mem_mapIdx.mp member
  exact ⟨demandAt, _, List.getElem?_eq_getElem inside, rfl⟩

theorem mem_rendered_capacities {transport : TransportState} {record : ReservationCapacity}
    (member : record ∈ (render start transport).capacities) :
    ∃ capacityAt capacity, start.capacities[capacityAt]? = some capacity ∧
      renderCapacity transport capacityAt capacity = record := by
  obtain ⟨capacityAt, inside, rfl⟩ := List.mem_mapIdx.mp member
  exact ⟨capacityAt, _, List.getElem?_eq_getElem inside, rfl⟩

/-- Rendering keeps the row of every record. -/
theorem rendered_demand_rows (start : AllocationState) (transport : TransportState) :
    (render start transport).demands.map (·.row) = start.demands.map (·.row) := by
  apply List.ext_getElem?
  intro demandAt
  rw [List.getElem?_map, render_demand, List.getElem?_map, Option.map_map]
  rfl

theorem rendered_capacity_rows (start : AllocationState) (transport : TransportState) :
    (render start transport).capacities.map (·.row) = start.capacities.map (·.row) := by
  apply List.ext_getElem?
  intro capacityAt
  rw [List.getElem?_map, render_capacity, List.getElem?_map, Option.map_map]
  rfl

/-- Records that have collected nothing are the rendering of the initial
transport. -/
theorem render_initialTransport (unallocated : ∀ demand ∈ start.demands, demand.allocations = [])
    (empty : start.allAllocations = []) : render start (initialTransport start) = start := by
  have demands : (render start (initialTransport start)).demands = start.demands := by
    apply List.ext_getElem?
    intro demandAt
    rw [render_demand]
    cases found : start.demands[demandAt]? with
    | none => rfl
    | some demand =>
      have collected : demand.allocations = [] :=
        unallocated demand (List.mem_of_getElem? found)
      simp [renderDemand, initialTransport, found, ← collected]
  have capacities : (render start (initialTransport start)).capacities = start.capacities := by
    apply List.ext_getElem?
    intro capacityAt
    rw [render_capacity]
    cases found : start.capacities[capacityAt]? with
    | none => rfl
    | some capacity => simp [renderCapacity, initialTransport, found]
  exact AllocationState.ext demands capacities empty.symm

/-- Writing one position of a positional image gives the image under any function
that agrees at every other position. -/
theorem mapIdx_set {α β : Type} {rows : List α} {position : ℕ} {row : α} (before after : ℕ → α → β)
    (found : rows[position]? = some row)
    (agree : ∀ other ≠ position, before other = after other) :
    (rows.mapIdx before).set position (after position row) = rows.mapIdx after := by
  have inside : position < rows.length := (List.getElem?_eq_some_iff.mp found).1
  apply List.ext_getElem?
  intro other
  by_cases same : position = other
  · subst other
    rw [List.getElem?_set_self (by simpa using inside), List.getElem?_mapIdx, found]
    rfl
  · rw [List.getElem?_set_ne same, List.getElem?_mapIdx, List.getElem?_mapIdx,
      agree other (Ne.symm same)]

/-- `_allocate` renders one shipment. -/
theorem allocate_render (transport : TransportState) {demandAt capacityAt : ℕ}
    {demand : InstanceDemand} {capacity : ReservationCapacity}
    (demandFound : start.demands[demandAt]? = some demand)
    (capacityFound : start.capacities[capacityAt]? = some capacity) (decision : MatchDecision) :
    allocate (render start transport) demandAt capacityAt (renderDemand transport demandAt demand)
        (renderCapacity transport capacityAt capacity) decision =
      render start
        (transport.ship capacityAt demandAt ⟨capacity.row, demand.row, decision⟩) := by
  apply AllocationState.ext
  · refine Eq.trans ?_ (mapIdx_set (renderDemand transport) _ demandFound ?_)
    · simp [allocate, render, renderDemand, renderCapacity, GreedyTransport.State.ship,
        allocationOf]
    · intro other different
      funext row
      simp [renderDemand, GreedyTransport.State.ship, different, Ne.symm different]
  · refine Eq.trans ?_ (mapIdx_set (renderCapacity transport) _ capacityFound ?_)
    · simp [allocate, render, renderDemand, renderCapacity, GreedyTransport.State.ship]
    · intro other different
      funext row
      simp [renderCapacity, GreedyTransport.State.ship, different]
  · simp [allocate, render, renderDemand, renderCapacity, GreedyTransport.State.ship,
      allocationOf]

section Loops

variable {start : AllocationState}
  {select : AwsRdsReservedInstance → AwsRdsInstance → Option MatchDecision}
  {accepts : AwsRdsReservedInstance → AwsRdsInstance → MatchDecision → Prop}

/-- No more can move between the demand and the known capacities of the listed
positions that the selection lets serve it. -/
def Served (start : AllocationState)
    (select : AwsRdsReservedInstance → AwsRdsInstance → Option MatchDecision)
    (transport : TransportState) (demandAt : ℕ) (positions : List ℕ) : Prop :=
  ∀ demand, start.demands[demandAt]? = some demand → truthy demand.unknownReason = false →
    ∀ capacityAt ∈ positions, ∀ capacity, start.capacities[capacityAt]? = some capacity →
      truthy capacity.unknownReason = false → (select capacity.row demand.row).isSome →
      GreedyTransport.Exhausted transport capacityAt demandAt

/-- Service outlasts further shipments. -/
theorem Served.run {transport after : TransportState} {demandAt : ℕ} {positions : List ℕ}
    (served : Served start select transport demandAt positions)
    (run : GreedyTransport.Run (Permitted start accepts) transport after) :
    Served start select after demandAt positions :=
  fun demand found known capacityAt member capacity capacityFound capacityKnown selected =>
    run.exhausted
      (served demand found known capacityAt member capacity capacityFound capacityKnown selected)

/-- A demand without need is served by any pool. -/
theorem Served.of_need_nonpos {transport : TransportState} {demandAt : ℕ}
    (satisfied : transport.need demandAt ≤ 0) (positions : List ℕ) :
    Served start select transport demandAt positions :=
  fun _ _ _ _ _ _ _ _ _ => Or.inr satisfied

/-- A served tail and an exhausted or refused head serve the whole pool. -/
theorem Served.cons {transport : TransportState} {demandAt capacityAt : ℕ} {positions : List ℕ}
    (tail : Served start select transport demandAt positions)
    (head : ∀ demand, start.demands[demandAt]? = some demand →
      ∀ capacity, start.capacities[capacityAt]? = some capacity →
      truthy capacity.unknownReason = false → (select capacity.row demand.row).isSome →
      GreedyTransport.Exhausted transport capacityAt demandAt) :
    Served start select transport demandAt (capacityAt :: positions) := by
  intro demand found known position member capacity capacityFound capacityKnown selected
  rcases List.mem_cons.mp member with rfl | later
  · exact head demand found capacity capacityFound capacityKnown selected
  · exact tail demand found known position later capacity capacityFound capacityKnown selected

/-- The inner loop follows a run of transport and serves its pool. Induction on
the pool; the demand keeps need until the iteration that leaves the loop. -/
theorem fillFromPool_run
    (sound : ∀ reservation row decision, select reservation row = some decision →
      accepts reservation row decision)
    {demandAt : ℕ} {demand : InstanceDemand} (found : start.demands[demandAt]? = some demand)
    (known : truthy demand.unknownReason = false) (positions : List ℕ) :
    ∀ transport : TransportState, 0 < transport.need demandAt →
      ∃ after, fillFromPool select demandAt positions (render start transport) =
          render start after ∧
        GreedyTransport.Run (Permitted start accepts) transport after ∧
        Served start select after demandAt positions := by
  induction positions with
  | nil =>
    intro transport _
    exact ⟨transport, rfl, .refl, fun _ _ _ _ member => absurd member List.not_mem_nil⟩
  | cons capacityAt rest inductionHypothesis =>
    intro transport needed
    have demandRead : (render start transport).demands[demandAt]? =
        some (renderDemand transport demandAt demand) := by rw [render_demand, found]; rfl
    have skip (head : ∀ demand, start.demands[demandAt]? = some demand →
          ∀ capacity, start.capacities[capacityAt]? = some capacity →
          truthy capacity.unknownReason = false → (select capacity.row demand.row).isSome →
          GreedyTransport.Exhausted transport capacityAt demandAt) :
        ∃ after, fillFromPool select demandAt rest (render start transport) =
            render start after ∧
          GreedyTransport.Run (Permitted start accepts) transport after ∧
          Served start select after demandAt (capacityAt :: rest) := by
      obtain ⟨after, result, run, served⟩ := inductionHypothesis transport needed
      exact ⟨after, result, run, served.cons fun demand demandFound capacity capacityFound
        capacityKnown selected => run.exhausted
          (head demand demandFound capacity capacityFound capacityKnown selected)⟩
    rw [fillFromPool, demandRead, render_capacity]
    cases capacityFound : start.capacities[capacityAt]? with
    | none =>
      refine skip fun _ _ capacity present => ?_
      exact absurd present (by simp [capacityFound])
    | some capacity =>
      simp only [Option.map_some]
      by_cases unavailable : truthy capacity.unknownReason ∨ transport.supply capacityAt ≤ 0
      · rw [if_pos (by simpa [renderCapacity] using unavailable)]
        refine skip fun _ _ other present capacityKnown _ => ?_
        obtain rfl : capacity = other := Option.some.inj (capacityFound.symm.trans present)
        exact Or.inl (unavailable.resolve_left (by simp [capacityKnown]))
      · rw [if_neg (by simpa [renderCapacity] using unavailable)]
        obtain ⟨capacityKnown, supplied⟩ := not_or.mp unavailable
        cases selected : select (renderCapacity transport capacityAt capacity).row
            (renderDemand transport demandAt demand).row with
        | none =>
          refine skip fun other present second secondFound _ accepted => ?_
          obtain rfl : demand = other := Option.some.inj (found.symm.trans present)
          obtain rfl : capacity = second :=
            Option.some.inj (capacityFound.symm.trans secondFound)
          exact absurd accepted (by simp [show select capacity.row demand.row = none from selected])
        | some decision =>
          have step : GreedyTransport.Step (Permitted start accepts) transport
              (transport.ship capacityAt demandAt ⟨capacity.row, demand.row, decision⟩) :=
            .ship _ _ _ ⟨capacity, demand, capacityFound, found, by simpa using capacityKnown, known,
              sound _ _ _ selected, rfl, rfl⟩ (not_le.mp supplied) needed
          have exhausted := GreedyTransport.ship_exhausts transport capacityAt demandAt
            (⟨capacity.row, demand.row, decision⟩ : AllocationTerms)
          have left : (transport.ship capacityAt demandAt
                ⟨capacity.row, demand.row, decision⟩).need demandAt =
              transport.need demandAt -
                min (transport.supply capacityAt) (transport.need demandAt) := by
            simp [GreedyTransport.State.ship]
          simp only [allocate_render transport found capacityFound]
          split
          · rename_i satisfied
            exact ⟨_, rfl, .single step, Served.of_need_nonpos (left.le.trans satisfied) _⟩
          · rename_i unsatisfied
            obtain ⟨after, result, run, served⟩ := inductionHypothesis
              (transport.ship capacityAt demandAt ⟨capacity.row, demand.row, decision⟩)
              (left ▸ not_le.mp unsatisfied)
            exact ⟨after, result, .head step run,
              served.cons fun _ _ _ _ _ _ => run.exhausted exhausted⟩

variable [CaseMapping]

/-- A phase follows a run of transport and serves every known demand it visits
from the pool of the demand's key. -/
theorem allocationPhase_run
    (sound : ∀ reservation row decision, select reservation row = some decision →
      accepts reservation row decision) (pools : Pools) (positions : List ℕ) :
    ∀ transport : TransportState,
      ∃ after, allocationPhase select pools positions (render start transport) =
          render start after ∧
        GreedyTransport.Run (Permitted start accepts) transport after ∧
        ∀ demandAt ∈ positions, ∀ demand, start.demands[demandAt]? = some demand →
          truthy demand.unknownReason = false →
          Served start select after demandAt (poolMembers pools (instancePoolKey demand.row)) := by
  induction positions with
  | nil =>
    intro transport
    exact ⟨transport, rfl, .refl, fun _ member => absurd member List.not_mem_nil⟩
  | cons demandAt rest inductionHypothesis =>
    intro transport
    -- the demand at the head is served once its own loop ends, and stays served
    have continue_ (middle : TransportState)
        (run : GreedyTransport.Run (Permitted start accepts) transport middle)
        (head : ∀ demand, start.demands[demandAt]? = some demand →
          truthy demand.unknownReason = false →
          Served start select middle demandAt (poolMembers pools (instancePoolKey demand.row))) :
        ∃ after, allocationPhase select pools rest (render start middle) = render start after ∧
          GreedyTransport.Run (Permitted start accepts) transport after ∧
          ∀ position ∈ demandAt :: rest, ∀ demand, start.demands[position]? = some demand →
            truthy demand.unknownReason = false →
            Served start select after position
              (poolMembers pools (instancePoolKey demand.row)) := by
      obtain ⟨after, result, later, served⟩ := inductionHypothesis middle
      refine ⟨after, result, run.trans later, ?_⟩
      intro position member demand found known
      rcases List.mem_cons.mp member with rfl | tail
      · exact (head demand found known).run later
      · exact served position tail demand found known
    rw [allocationPhase, render_demand]
    cases found : start.demands[demandAt]? with
    | none => exact continue_ transport .refl fun _ present => absurd present (by simp [found])
    | some demand =>
      simp only [Option.map_some]
      by_cases idle : truthy demand.unknownReason ∨ transport.need demandAt ≤ 0
      · rw [if_pos (by simpa [renderDemand] using idle)]
        refine continue_ transport .refl fun other present known => ?_
        obtain rfl : demand = other := Option.some.inj (found.symm.trans present)
        exact Served.of_need_nonpos (idle.resolve_left (by simp [known])) _
      · rw [if_neg (by simpa [renderDemand] using idle)]
        obtain ⟨known, needed⟩ := not_or.mp idle
        obtain ⟨middle, filled, run, served⟩ := fillFromPool_run sound found
          (by simpa using known) (poolMembers pools (instancePoolKey demand.row)) transport
          (not_le.mp needed)
        rw [show (renderDemand transport demandAt demand).row = demand.row from rfl, filled]
        refine continue_ middle run fun other present _ => ?_
        obtain rfl : demand = other := Option.some.inj (found.symm.trans present)
        exact served

/-- A compatible decision of the matcher, strict or flexible. -/
def Accepts (billing : BillingScopeContext) (at_ : Instant) (reservation : AwsRdsReservedInstance)
    (row : AwsRdsInstance) (decision : MatchDecision) : Prop :=
  decision.compatible = true ∧
    ∃ allowFlexible, decision = matchReservation billing reservation row at_ allowFlexible

theorem exactSelection_accepts (billing : BillingScopeContext) (at_ : Instant)
    (reservation : AwsRdsReservedInstance) (row : AwsRdsInstance) (decision : MatchDecision)
    (selected : exactSelection billing at_ reservation row = some decision) :
    Accepts billing at_ reservation row decision := by
  simp only [exactSelection] at selected
  split at selected
  · exact absurd selected (by simp)
  · split at selected
    · rename_i compatible
      obtain rfl := Option.some.inj selected
      exact ⟨compatible, false, rfl⟩
    · split at selected
      · exact absurd selected (by simp)
      · rename_i accepted
        obtain rfl := Option.some.inj selected
        exact ⟨(by simpa using accepted : _ ∧ _).1, true, rfl⟩

theorem flexibleSelection_accepts (billing : BillingScopeContext) (at_ : Instant)
    (reservation : AwsRdsReservedInstance) (row : AwsRdsInstance) (decision : MatchDecision)
    (selected : flexibleSelection billing at_ reservation row = some decision) :
    Accepts billing at_ reservation row decision := by
  simp only [flexibleSelection] at selected
  split at selected
  · exact absurd selected (by simp)
  · rename_i accepted
    obtain rfl := Option.some.inj selected
    exact ⟨(by simpa using accepted : _ ∧ _).1, true, rfl⟩

/-- Both phases together follow one run of transport from the unallocated
records. Phase 2 keeps what phase 1 served. -/
theorem allocatePhases_run (billing : BillingScopeContext) (at_ : Instant)
    (unallocated : ∀ demand ∈ start.demands, demand.allocations = [])
    (empty : start.allAllocations = []) :
    ∃ after, allocatePhases billing at_ start = render start after ∧
      GreedyTransport.Run (Permitted start (Accepts billing at_)) (initialTransport start) after ∧
      ∀ (demandAt : ℕ) (demand : InstanceDemand), start.demands[demandAt]? = some demand →
        truthy demand.unknownReason = false →
        let members := poolMembers (capacityPools start.capacities) (instancePoolKey demand.row)
        Served start (exactSelection billing at_) after demandAt members ∧
          Served start (flexibleSelection billing at_) after demandAt members := by
  obtain ⟨middle, exactResult, exactRun, exactServed⟩ :=
    allocationPhase_run (exactSelection_accepts billing at_)
      (capacityPools start.capacities) (List.range start.demands.length) (initialTransport start)
  obtain ⟨after, flexibleResult, flexibleRun, flexibleServed⟩ :=
    allocationPhase_run (flexibleSelection_accepts billing at_)
      (capacityPools start.capacities) (List.range start.demands.length) middle
  refine ⟨after, ?_, exactRun.trans flexibleRun, ?_⟩
  · rw [render_initialTransport unallocated empty] at exactResult
    rw [allocatePhases, exactResult, flexibleResult]
  · intro demandAt demand found known
    have visited : demandAt ∈ List.range start.demands.length :=
      List.mem_range.mpr (List.getElem?_eq_some_iff.mp found).1
    exact ⟨(exactServed demandAt visited demand found known).run flexibleRun,
      flexibleServed demandAt visited demand found known⟩

end Loops

end FinopsAnalytics.RdsCoverageTransport
