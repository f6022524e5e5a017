import FinopsAnalytics.RdsCoverageExhaustion

/-!
# The pool index is an optimisation

The engine offers a demand the capacities of its pool, in sort order. A scan
offers it all of them, in the same order. The matcher refuses every pair whose
pool keys differ, and a refused capacity leaves the records as they are, so the
scan passes over whatever the index leaves out.
-/

namespace FinopsAnalytics.RdsPoolIndex

open PythonText RdsInventory RdsReservationRules RdsReservationEngine RdsCoverageExhaustion

/-- The two phases without an index: the inner loop runs over the first `count`
capacities, whatever their pool. -/
def scanningPhase (select : AwsRdsReservedInstance → AwsRdsInstance → Option MatchDecision)
    (count : ℕ) : List ℕ → AllocationState → AllocationState
  | [], state => state
  | demandAt :: rest, state =>
    match state.demands[demandAt]? with
    | none => scanningPhase select count rest state
    | some demand =>
      if truthy demand.unknownReason ∨ demand.remainingUnits ≤ 0 then
        scanningPhase select count rest state
      else
        scanningPhase select count rest (fillFromPool select demandAt (List.range count) state)

section Rows

/-- The phases change what remains of the records and never their rows. -/
structure SameRows (before after : AllocationState) : Prop where
  demands : after.demands.map (·.row) = before.demands.map (·.row)
  capacities : after.capacities.map (·.row) = before.capacities.map (·.row)

theorem SameRows.refl (state : AllocationState) : SameRows state state := ⟨rfl, rfl⟩

theorem SameRows.trans {first second third : AllocationState} (earlier : SameRows first second)
    (later : SameRows second third) : SameRows first third :=
  ⟨later.demands.trans earlier.demands, later.capacities.trans earlier.capacities⟩

/-- Writing a record with the row that its position has changes no row. -/
theorem map_set_of_same {α β : Type} (rowOf : α → β) {records : List α} {position : ℕ}
    {old new : α} (found : records[position]? = some old) (same : rowOf new = rowOf old) :
    (records.set position new).map rowOf = records.map rowOf := by
  rw [List.map_set, same]
  apply List.ext_getElem?
  intro other
  by_cases here : position = other
  · subst other
    have inside : position < (records.map rowOf).length := by
      simpa using (List.getElem?_eq_some_iff.mp found).1
    rw [List.getElem?_set_self inside, List.getElem?_map, found]
    rfl
  · rw [List.getElem?_set_ne here]

variable {select : AwsRdsReservedInstance → AwsRdsInstance → Option MatchDecision}
  {demandAt : ℕ}

theorem sameRows_allocate {state : AllocationState} {capacityAt : ℕ} {demand : InstanceDemand}
    {capacity : ReservationCapacity} (demandFound : state.demands[demandAt]? = some demand)
    (capacityFound : state.capacities[capacityAt]? = some capacity) (decision : MatchDecision) :
    SameRows state (allocate state demandAt capacityAt demand capacity decision) := by
  constructor
  · exact map_set_of_same _ demandFound rfl
  · exact map_set_of_same _ capacityFound rfl

theorem sameRows_fillFromPool (positions : List ℕ) :
    ∀ state, SameRows state (fillFromPool select demandAt positions state) := by
  induction positions with
  | nil => exact SameRows.refl
  | cons capacityAt rest inductionHypothesis =>
    intro state
    rw [fillFromPool]
    split
    · rename_i demand capacity demandFound capacityFound
      split
      · exact inductionHypothesis state
      · split
        · exact inductionHypothesis state
        · rename_i decision _
          have written := sameRows_allocate demandFound capacityFound decision
          split
          · exact written
          · exact written.trans (inductionHypothesis _)
    · exact inductionHypothesis state

/-- A capacity outside `keep` serves no demand at the position. -/
def RefusedOutside (select : AwsRdsReservedInstance → AwsRdsInstance → Option MatchDecision)
    (demandAt : ℕ) (keep : ℕ → Bool) (state : AllocationState) : Prop :=
  ∀ row, (state.demands.map (·.row))[demandAt]? = some row →
    ∀ capacityAt reservation, (state.capacities.map (·.row))[capacityAt]? = some reservation →
    keep capacityAt = false → select reservation row = none

theorem RefusedOutside.of_sameRows {keep : ℕ → Bool} {before after : AllocationState}
    (refused : RefusedOutside select demandAt keep before) (same : SameRows before after) :
    RefusedOutside select demandAt keep after := by
  intro row found capacityAt reservation capacityFound outside
  rw [same.demands] at found
  rw [same.capacities] at capacityFound
  exact refused row found capacityAt reservation capacityFound outside

/-- The inner loop passes over the positions that the selection refuses. -/
theorem fillFromPool_filter (keep : ℕ → Bool) (positions : List ℕ) :
    ∀ state, RefusedOutside select demandAt keep state →
      fillFromPool select demandAt (positions.filter keep) state =
        fillFromPool select demandAt positions state := by
  induction positions with
  | nil => exact fun _ _ => rfl
  | cons capacityAt rest inductionHypothesis =>
    intro state refused
    by_cases kept : keep capacityAt = true
    · rw [List.filter_cons_of_pos kept, fillFromPool, fillFromPool,
        inductionHypothesis state refused]
      split
      · rename_i demand capacity demandFound capacityFound
        split
        · rfl
        · split
          · rfl
          · rename_i decision _
            have written := sameRows_allocate demandFound capacityFound decision
            dsimp only
            rw [inductionHypothesis _ (refused.of_sameRows written)]
      · rfl
    · rw [List.filter_cons_of_neg kept, inductionHypothesis state refused]
      -- the scan reads the refused capacity and goes on with the same records
      conv_rhs => rw [fillFromPool]
      split
      · rename_i demand capacity demandFound capacityFound
        have none_selected : select capacity.row demand.row = none := by
          apply refused demand.row _ capacityAt capacity.row
          · simp [capacityFound]
          · simpa using kept
          · simp [demandFound]
        rw [none_selected]
        split <;> rfl
      · rfl

end Rows

section Index

variable [CaseMapping] {select : AwsRdsReservedInstance → AwsRdsInstance → Option MatchDecision}

/-- A capacity position lies in the pool of a key. -/
def inPool (capacities : List ReservationCapacity) (key : PoolKey) (position : ℕ) : Bool :=
  capacities[position]?.any fun capacity => reservationPoolKey capacity.row = key

/-- A pool lists the positions of its key in the order of the capacities. -/
theorem poolMembers_eq_filter (capacities : List ReservationCapacity) (key : PoolKey) :
    poolMembers (capacityPools capacities) key =
      (List.range capacities.length).filter (inPool capacities key) := by
  rw [capacityPools, poolMembers_foldl]
  have positions : List.range capacities.length = capacities.zipIdx.map Prod.snd := by
    rw [List.zipIdx_map_snd, List.range_eq_range']
  rw [positions, List.filter_map]
  have keys : capacities.zipIdx.filter (fun entry => reservationPoolKey entry.1.row = key) =
      capacities.zipIdx.filter (inPool capacities key ∘ Prod.snd) := by
    apply List.filter_congr
    rintro ⟨capacity, position⟩ member
    have found : capacities[position]? = some capacity := List.mem_zipIdx_iff_getElem?.mp member
    simp [inPool, found]
  rw [keys]
  rfl

/-- Every selected pair shares its pool key. -/
def Pooled (select : AwsRdsReservedInstance → AwsRdsInstance → Option MatchDecision) : Prop :=
  ∀ reservation row, (select reservation row).isSome →
    reservationPoolKey reservation = instancePoolKey row

theorem pooled_exactSelection (billing : BillingScopeContext) (at_ : Instant) :
    Pooled (exactSelection billing at_) := by
  intro reservation row selected
  obtain ⟨decision, found⟩ := Option.isSome_iff_exists.mp selected
  obtain ⟨compatible, _, rfl⟩ :=
    RdsCoverageTransport.exactSelection_accepts billing at_ reservation row decision found
  exact compatible_poolKey compatible

theorem pooled_flexibleSelection (billing : BillingScopeContext) (at_ : Instant) :
    Pooled (flexibleSelection billing at_) := by
  intro reservation row selected
  obtain ⟨decision, found⟩ := Option.isSome_iff_exists.mp selected
  obtain ⟨compatible, _, rfl⟩ :=
    RdsCoverageTransport.flexibleSelection_accepts billing at_ reservation row decision found
  exact compatible_poolKey compatible

/-- Outside the pool of its key, a demand is refused everywhere. -/
theorem refusedOutside_pool (pooled : Pooled select) {start state : AllocationState}
    (same : SameRows start state) {demandAt : ℕ} {demand : InstanceDemand}
    (found : state.demands[demandAt]? = some demand) :
    RefusedOutside select demandAt (inPool start.capacities (instancePoolKey demand.row))
      state := by
  intro row rowFound capacityAt reservation reservationFound outside
  obtain rfl : demand.row = row := by simpa [found] using rowFound
  rw [same.capacities] at reservationFound
  rw [List.getElem?_map, Option.map_eq_some_iff] at reservationFound
  obtain ⟨capacity, capacityFound, rfl⟩ := reservationFound
  by_contra selected
  have key := pooled _ _ (Option.isSome_iff_ne_none.mpr selected)
  simp [inPool, capacityFound, key] at outside

/-- A phase over the pools is the phase that scans. Induction on the demands; the
rows of the pools are those of every later state. -/
theorem allocationPhase_eq_scanning (pooled : Pooled select) (start : AllocationState)
    (positions : List ℕ) :
    ∀ state, SameRows start state →
      allocationPhase select (capacityPools start.capacities) positions state =
          scanningPhase select start.capacities.length positions state ∧
        SameRows start (scanningPhase select start.capacities.length positions state) := by
  induction positions with
  | nil => exact fun state same => ⟨rfl, same⟩
  | cons demandAt rest inductionHypothesis =>
    intro state same
    rw [allocationPhase, scanningPhase]
    cases found : state.demands[demandAt]? with
    | none => exact inductionHypothesis state same
    | some demand =>
      by_cases idle : truthy demand.unknownReason ∨ demand.remainingUnits ≤ 0
      · simp only [if_pos idle]
        exact inductionHypothesis state same
      · simp only [if_neg idle]
        rw [poolMembers_eq_filter,
          fillFromPool_filter _ _ state (refusedOutside_pool pooled same found)]
        exact inductionHypothesis _ (same.trans (sameRows_fillFromPool _ state))

end Index

section Analysis

variable [CaseMapping]

/-- Both phases, scanning. -/
def scanPhases (billing : BillingScopeContext) (at_ : Instant) (state : AllocationState) :
    AllocationState :=
  let count := state.capacities.length
  let positions := List.range state.demands.length
  scanningPhase (flexibleSelection billing at_) count positions
    (scanningPhase (exactSelection billing at_) count positions state)

/-- `analyze` without the pool index. -/
def analyzeScanning (billing : BillingScopeContext) (at_ : Instant)
    (instances : List AwsRdsInstance) (reservations : List AwsRdsReservedInstance) :
    Except String CoverageAnalysis := do
  let analysis := collectResults (scanPhases billing at_ (initialState at_ instances reservations))
  assertInvariants analysis.instances analysis.reservations analysis.allocations
  return analysis

theorem allocatePhases_eq_scanPhases (billing : BillingScopeContext) (at_ : Instant)
    (state : AllocationState) :
    allocatePhases billing at_ state = scanPhases billing at_ state := by
  obtain ⟨exactEqual, same⟩ := allocationPhase_eq_scanning (pooled_exactSelection billing at_)
    state (List.range state.demands.length) state (SameRows.refl state)
  obtain ⟨flexibleEqual, _⟩ := allocationPhase_eq_scanning
    (pooled_flexibleSelection billing at_) state (List.range state.demands.length) _ same
  rw [allocatePhases, exactEqual, flexibleEqual, scanPhases]

/-- The analysis with the pool index is the analysis that scans, because every
compatible pair shares its pool key. -/
theorem analyze_eq_scanning (billing : BillingScopeContext) (at_ : Instant)
    (instances : List AwsRdsInstance) (reservations : List AwsRdsReservedInstance) :
    analyze billing at_ instances reservations =
        analyzeScanning billing at_ instances reservations ∧
      ∀ reservation row allowFlexible,
        (matchReservation billing reservation row at_ allowFlexible).compatible = true →
        reservationPoolKey reservation = instancePoolKey row := by
  constructor
  · rw [analyze, analyzeScanning, allocatePhases_eq_scanPhases]
  · intro reservation row allowFlexible compatible
    exact compatible_poolKey compatible

end Analysis

end FinopsAnalytics.RdsPoolIndex
