import FinopsAnalytics.RdsLegitimateAllocations
import Mathlib.Algebra.Group.Subgroup.ZPowers.Basic
import Mathlib.Tactic.Ring

/-!
# Demands that are covered whole

Only the first phase serves a demand that is not size flexible, from reservations
of its class and deployment. Within a region, an engine and a class, the units of
a reservation and those of such a demand are multiples of one grain, and a
shipment between equal grains moves a whole number of them. The exception is a
Multi-AZ cluster member: it needs the units of a single instance, and the flexible
matcher takes it for an exact match of a Multi-AZ reservation, which it halves.
-/

namespace FinopsAnalytics.RdsWholeAllocations

open PythonText RdsInventory RdsReservationRules RdsReservationEngine RdsCoverageTransport
  RdsCoverageConservation RdsLegitimateAllocations

/-- The size of a row is that of its class, as the inventory derives it. -/
structure SizedByClass (sizeOf : String → Option String) (instances : List AwsRdsInstance)
    (reservations : List AwsRdsReservedInstance) : Prop where
  instances : ∀ row ∈ instances, row.instanceSize = sizeOf row.dbInstanceClass
  reservations : ∀ row ∈ reservations, row.instanceSize = sizeOf row.dbInstanceClass

/-- A region, a normalised engine and a class. -/
abbrev Stratum := String × String × String

section Units

variable [CaseMapping]

def instanceStratum (row : AwsRdsInstance) : Stratum :=
  (row.region, normalizeRdsEngine row.engineNormalized, row.dbInstanceClass)

def reservationStratum (row : AwsRdsReservedInstance) : Stratum :=
  (row.region, normalizeRdsEngine row.engineNormalized, row.dbInstanceClass)

/-- The units of a size, or zero where it has none. -/
def baseUnits (size : Option String) : ℚ := (normalizedUnitsForSize size).toOption.getD 0

/-- The units of one reserved instance outside Aurora. -/
def reservationGrain (row : AwsRdsReservedInstance) : ℚ :=
  baseUnits row.instanceSize * if row.multiAz then 2 else 1

/-- The units in which a demand outside Aurora is counted. -/
def instanceGrain (row : AwsRdsInstance) : ℚ :=
  baseUnits row.instanceSize * if instanceTopology row == "multi_az_instance" then 2 else 1

/-- A capacity outside Aurora is its instance count times the grain. -/
theorem capacityOf_granular {row : AwsRdsReservedInstance}
    (plain : isAurora (normalizeRdsEngine row.engineNormalized) = false) :
    (capacityOf row).remainingUnits ∈ AddSubgroup.zmultiples (reservationGrain row) := by
  cases derived : reservationTotalUnits row with
  | error reason =>
    rw [capacityOf_unknown derived]
    exact zero_mem _
  | ok known =>
    obtain ⟨units, method⟩ := known
    rw [capacityOf_known derived, AddSubgroup.mem_zmultiples_iff]
    refine ⟨row.instanceCount, ?_⟩
    unfold reservationTotalUnits at derived
    by_cases counted : row.instanceCount ≤ 0
    · simp [counted, throw, throwThe, MonadExceptOf.throw, bind, Except.bind] at derived
    · cases sized : normalizedUnitsForSize row.instanceSize with
      | error reason => simp [counted, sized, bind, Except.bind] at derived
      | ok base =>
        have unit : baseUnits row.instanceSize = base := by simp [baseUnits, sized, Except.toOption]
        have total : units = base * row.instanceCount * if row.multiAz then 2 else 1 := by
          simp only [counted, sized, plain, bind, Except.bind, pure, Except.pure, ↓reduceIte,
            Bool.not_false, Bool.and_true] at derived
          split at derived <;> exact (Prod.mk.inj (Except.ok.inj derived)).1.symm
        rw [total, reservationGrain, unit, zsmul_eq_mul]
        change _ = base * row.instanceCount * if row.multiAz then 2 else 1
        ring

/-- A demand outside Aurora is a multiple of its grain. -/
theorem demandOf_granular {row : AwsRdsInstance}
    (plain : isAurora (normalizeRdsEngine row.engineNormalized) = false) :
    (demandOf row).remainingUnits ∈ AddSubgroup.zmultiples (instanceGrain row) := by
  cases derived : instanceRequiredUnits row with
  | error reason =>
    rw [demandOf_unknown derived]
    exact zero_mem _
  | ok known =>
    obtain ⟨units, method⟩ := known
    obtain ⟨base, multiplier, sized, found, rfl⟩ := instanceRequiredUnits_topology derived plain
    have unit : baseUnits row.instanceSize = base := by simp [baseUnits, sized, Except.toOption]
    rw [demandOf_known derived, AddSubgroup.mem_zmultiples_iff, instanceGrain, unit]
    rcases topology_of_lookup found with
      ⟨topology, rfl⟩ | ⟨topology, rfl⟩ | ⟨topology, rfl⟩ | ⟨topology, rfl⟩ <;> rw [topology]
    · exact ⟨1, by simp⟩
    · exact ⟨1, by simp⟩
    · refine ⟨3, ?_⟩
      rw [if_neg (by decide), zsmul_eq_mul, mul_one]
      exact mul_comm _ _
    · exact ⟨1, by simp⟩

end Units

section Selections

variable [CaseMapping] {billing : BillingScopeContext} {at_ : Instant}
  {reservation : AwsRdsReservedInstance} {row : AwsRdsInstance} {decision : MatchDecision}

/-- What phase 1 selects: a pair of one class that the matcher finds compatible, and
exactly so where it matched flexibly. -/
theorem exactSelection_eq_some
    (selected : exactSelection billing at_ reservation row = some decision) :
    reservation.dbInstanceClass = row.dbInstanceClass ∧
      ((matchReservation billing reservation row at_ false).compatible = true ∨
        (matchReservation billing reservation row at_ true).compatible = true ∧
          (matchReservation billing reservation row at_ true).matchType = .exact) := by
  simp only [exactSelection] at selected
  split at selected
  · exact absurd selected (by simp)
  · rename_i sameClass
    refine ⟨not_not.mp sameClass, ?_⟩
    split at selected
    · rename_i compatible
      exact Or.inl compatible
    · split at selected
      · exact absurd selected (by simp)
      · rename_i accepted
        exact Or.inr (by simpa using accepted)

/-- Phase 1 allocates within a stratum. -/
theorem exactSelection_stratum
    (selected : exactSelection billing at_ reservation row = some decision) :
    reservationStratum reservation = instanceStratum row := by
  obtain ⟨compatible, _, rfl⟩ :=
    exactSelection_accepts billing at_ reservation row decision selected
  obtain ⟨_, region, engine, _, _⟩ := matchReservation_compatible compatible
  rw [reservationStratum, instanceStratum, region, engine, (exactSelection_eq_some selected).1]

/-- Outside Aurora, phase 1 allocates between equal deployments, or to a cluster
member. -/
theorem exactSelection_deployment
    (selected : exactSelection billing at_ reservation row = some decision)
    (plain : isAurora (normalizeRdsEngine row.engineNormalized) = false) :
    instanceTopology row = "multi_az_cluster_member" ∨
      reservation.multiAz = (instanceTopology row == "multi_az_instance") := by
  obtain ⟨_, compatible | ⟨compatible, exactly⟩⟩ := exactSelection_eq_some selected
  · rcases matchReservation_deployment compatible with ⟨-, allowed, -⟩ | ⟨-, -, -, same⟩
    · exact absurd allowed (by decide)
    · exact Or.inr same
  · rcases matchReservation_deployment compatible with ⟨-, -, deployed⟩ | ⟨-, -, -, same⟩
    · rcases deployed exactly with aurora | either
      · exact absurd (plain.symm.trans aurora) Bool.false_ne_true
      · exact either
    · exact Or.inr same

/-- Phase 1 allocates to no clustered demand that is not size flexible. -/
theorem exactSelection_unclustered
    (selected : exactSelection billing at_ reservation row = some decision)
    (strict : isSizeFlexible row = false) :
    instanceTopology row ∉ ["multi_az_cluster", "multi_az_cluster_member"] := by
  have refused {allowFlexible : Bool}
      (compatible : (matchReservation billing reservation row at_ allowFlexible).compatible =
        true) : instanceTopology row ∉ ["multi_az_cluster", "multi_az_cluster_member"] := by
    rcases matchReservation_deployment compatible with ⟨flexible, -, -⟩ | ⟨-, -, unclustered, -⟩
    · exact absurd (strict.symm.trans flexible) Bool.false_ne_true
    · exact unclustered
  obtain ⟨_, compatible | ⟨compatible, -⟩⟩ := exactSelection_eq_some selected
  · exact refused compatible
  · exact refused compatible

/-- Phase 2 allocates to no demand that is not size flexible. -/
theorem flexibleSelection_strict (strict : isSizeFlexible row = false) :
    flexibleSelection billing at_ reservation row = none := by
  cases selected : flexibleSelection billing at_ reservation row with
  | none => rfl
  | some decision =>
    simp only [flexibleSelection] at selected
    split at selected
    · exact absurd selected (by simp)
    · rename_i accepted
      obtain ⟨compatible, sizeFlexible⟩ : _ ∧ _ := by simpa using accepted
      rcases matchReservation_deployment compatible with ⟨flexible, -, -⟩ | ⟨exactly, -⟩
      · exact absurd (strict.symm.trans flexible) Bool.false_ne_true
      · cases exactly.symm.trans sizeFlexible

end Selections

/-- A cluster member of the stratum holds an allocation of a Multi-AZ reservation. -/
def Halved [CaseMapping] (allocations : List Allocation) (stratum : Stratum) : Prop :=
  ∃ allocation ∈ allocations, instanceStratum allocation.instanceRow = stratum ∧
    reservationStratum allocation.reservation = stratum ∧
    allocation.reservation.multiAz = true ∧
    instanceTopology allocation.instanceRow = "multi_az_cluster_member"

section Runs

variable [CaseMapping] {start : AllocationState}

/-- The grain of a capacity position, where it lies in the stratum. -/
def capacityGrainAt (start : AllocationState) (stratum : Stratum) (capacityAt : ℕ) :
    AddSubgroup ℚ :=
  match start.capacities[capacityAt]? with
  | none => ⊤
  | some capacity =>
    if reservationStratum capacity.row = stratum then
      AddSubgroup.zmultiples (reservationGrain capacity.row)
    else ⊤

/-- The grain of a demand position, where it lies in the stratum. -/
def demandGrainAt (start : AllocationState) (stratum : Stratum) (demandAt : ℕ) :
    AddSubgroup ℚ :=
  match start.demands[demandAt]? with
  | none => ⊤
  | some demand =>
    if instanceStratum demand.row = stratum then
      AddSubgroup.zmultiples (instanceGrain demand.row)
    else ⊤

/-- The two phases, as two runs of transport. -/
theorem allocatePhases_runs (billing : BillingScopeContext) (at_ : Instant)
    (unallocated : ∀ demand ∈ start.demands, demand.allocations = [])
    (empty : start.allAllocations = []) :
    ∃ middle after, allocatePhases billing at_ start = render start after ∧
      GreedyTransport.Run (Permitted start fun reservation row decision =>
        exactSelection billing at_ reservation row = some decision)
        (initialTransport start) middle ∧
      GreedyTransport.Run (Permitted start fun reservation row decision =>
        flexibleSelection billing at_ reservation row = some decision) middle after := by
  obtain ⟨middle, exactResult, exactRun, _⟩ := allocationPhase_run
    (fun _ _ _ selected => selected) (capacityPools start.capacities)
    (List.range start.demands.length) (initialTransport start)
  obtain ⟨after, flexibleResult, flexibleRun, _⟩ := allocationPhase_run
    (fun _ _ _ selected => selected) (capacityPools start.capacities)
    (List.range start.demands.length) middle
  refine ⟨middle, after, ?_, exactRun, flexibleRun⟩
  rw [render_initialTransport unallocated empty] at exactResult
  rw [allocatePhases, exactResult, flexibleResult]

/-- Fresh records hold multiples of the grains of a stratum outside Aurora. -/
theorem initialTransport_granular (stratum : Stratum) (plain : isAurora stratum.2.1 = false)
    (freshDemands : ∀ (demandAt : ℕ) (demand : InstanceDemand),
      start.demands[demandAt]? = some demand → demand = demandOf demand.row)
    (freshCapacities : ∀ (capacityAt : ℕ) (capacity : ReservationCapacity),
      start.capacities[capacityAt]? = some capacity → capacity = capacityOf capacity.row) :
    GreedyTransport.Granular (capacityGrainAt start stratum) (demandGrainAt start stratum)
      (initialTransport start) := by
  constructor
  · intro capacityAt
    rw [capacityGrainAt]
    cases found : start.capacities[capacityAt]? with
    | none => exact AddSubgroup.mem_top _
    | some capacity =>
      by_cases inside : reservationStratum capacity.row = stratum
      · have supply : (initialTransport start).supply capacityAt = capacity.remainingUnits := by
          simp [initialTransport, found]
        simp only [if_pos inside]
        rw [supply, freshCapacities capacityAt capacity found, capacityOf_row]
        have outside : isAurora (reservationStratum capacity.row).2.1 = false := inside ▸ plain
        exact capacityOf_granular outside
      · simp only [if_neg inside]
        exact AddSubgroup.mem_top _
  · intro demandAt
    rw [demandGrainAt]
    cases found : start.demands[demandAt]? with
    | none => exact AddSubgroup.mem_top _
    | some demand =>
      by_cases inside : instanceStratum demand.row = stratum
      · have need : (initialTransport start).need demandAt = demand.remainingUnits := by
          simp [initialTransport, found]
        simp only [if_pos inside]
        rw [need, freshDemands demandAt demand found, demandOf_row]
        have outside : isAurora (instanceStratum demand.row).2.1 = false := inside ▸ plain
        exact demandOf_granular outside
      · simp only [if_neg inside]
        exact AddSubgroup.mem_top _

/-- Without a cluster member on a Multi-AZ reservation of the stratum, phase 1 ships
between equal grains. -/
theorem aligned_of_selected {billing : BillingScopeContext} {at_ : Instant} (stratum : Stratum)
    (plain : isAurora stratum.2.1 = false) {sizeOf : String → Option String}
    (sizedDemands : ∀ (demandAt : ℕ) (demand : InstanceDemand),
      start.demands[demandAt]? = some demand →
        demand.row.instanceSize = sizeOf demand.row.dbInstanceClass)
    (sizedCapacities : ∀ (capacityAt : ℕ) (capacity : ReservationCapacity),
      start.capacities[capacityAt]? = some capacity →
        capacity.row.instanceSize = sizeOf capacity.row.dbInstanceClass)
    {capacityAt demandAt : ℕ} {terms : AllocationTerms}
    (permitted : Permitted start (fun reservation row decision =>
      exactSelection billing at_ reservation row = some decision) capacityAt demandAt terms)
    (whole : instanceStratum terms.instanceRow = stratum → terms.reservation.multiAz = true →
      instanceTopology terms.instanceRow ≠ "multi_az_cluster_member") :
    capacityGrainAt start stratum capacityAt = demandGrainAt start stratum demandAt := by
  obtain ⟨capacity, demand, capacityFound, demandFound, _, _, selected, reservationSame,
    instanceSame⟩ := permitted
  rw [reservationSame, instanceSame] at whole
  have strata := exactSelection_stratum selected
  rw [capacityGrainAt, demandGrainAt, capacityFound, demandFound]
  by_cases inside : instanceStratum demand.row = stratum
  · have outside : isAurora (instanceStratum demand.row).2.1 = false := inside ▸ plain
    have sameSize : capacity.row.instanceSize = demand.row.instanceSize := by
      rw [sizedDemands demandAt demand demandFound,
        sizedCapacities capacityAt capacity capacityFound, (exactSelection_eq_some selected).1]
    have sameDeployment : capacity.row.multiAz =
        (instanceTopology demand.row == "multi_az_instance") := by
      rcases exactSelection_deployment selected outside with member | same
      · cases deployment : capacity.row.multiAz with
        | true => exact absurd member (whole inside deployment)
        | false => rw [member]; decide
      · exact same
    simp only [if_pos inside, if_pos (strata.trans inside)]
    rw [reservationGrain, instanceGrain, sameSize, sameDeployment]
  · have apart : reservationStratum capacity.row ≠ stratum := fun same =>
      inside (strata.symm.trans same)
    simp only [if_neg inside, if_neg apart]

omit [CaseMapping] in
/-- Between nothing and the whole there is no other multiple of the whole. -/
theorem multiple_of_whole {whole part : ℚ} (positive : 0 < whole)
    (multiple : part ∈ AddSubgroup.zmultiples whole) (some_ : 0 < part) : whole ≤ part := by
  obtain ⟨count, rfl⟩ := AddSubgroup.mem_zmultiples_iff.mp multiple
  rw [zsmul_eq_mul] at some_ ⊢
  have counted : 0 < count := by
    have cast : (0 : ℚ) < count := (mul_pos_iff_of_pos_right positive).mp some_
    exact_mod_cast cast
  have atLeast : (1 : ℚ) ≤ count := by exact_mod_cast counted
  nlinarith

/-- Unless a Multi-AZ reservation of its stratum was halved, phase 1 leaves a demand
that is not size flexible with all of its need or none. -/
theorem need_of_exactRun {billing : BillingScopeContext} {at_ : Instant} {middle : TransportState}
    (run : GreedyTransport.Run (Permitted start fun reservation row decision =>
      exactSelection billing at_ reservation row = some decision) (initialTransport start) middle)
    (freshDemands : ∀ (demandAt : ℕ) (demand : InstanceDemand),
      start.demands[demandAt]? = some demand → demand = demandOf demand.row)
    (freshCapacities : ∀ (capacityAt : ℕ) (capacity : ReservationCapacity),
      start.capacities[capacityAt]? = some capacity → capacity = capacityOf capacity.row)
    {sizeOf : String → Option String}
    (sizedDemands : ∀ (demandAt : ℕ) (demand : InstanceDemand),
      start.demands[demandAt]? = some demand →
        demand.row.instanceSize = sizeOf demand.row.dbInstanceClass)
    (sizedCapacities : ∀ (capacityAt : ℕ) (capacity : ReservationCapacity),
      start.capacities[capacityAt]? = some capacity →
        capacity.row.instanceSize = sizeOf capacity.row.dbInstanceClass)
    {demandAt : ℕ} {row : AwsRdsInstance} (found : start.demands[demandAt]? = some (demandOf row))
    (strict : isSizeFlexible row = false) {units : ℚ} {method : CalculationMethod}
    (derived : instanceRequiredUnits row = .ok (units, method))
    (unhalved : ¬Halved (middle.plan.map allocationOf) (instanceStratum row))
    (needed : 0 < middle.need demandAt) : units ≤ middle.need demandAt := by
  have plain := not_isAurora strict
  obtain ⟨base, multiplier, sized, lookedUp, whole⟩ := instanceRequiredUnits_topology derived plain
  by_cases clustered : instanceTopology row ∈ ["multi_az_cluster", "multi_az_cluster_member"]
  · -- phase 1 does not serve a clustered one at all
    have never : middle.need demandAt = (initialTransport start).need demandAt := by
      apply run.need_untouched
      rintro capacityAt terms ⟨capacity, other, _, otherFound, _, _, selected, _⟩
      obtain rfl := Option.some.inj (found.symm.trans otherFound)
      rw [demandOf_row] at selected
      exact exactSelection_unclustered selected strict clustered
    have initial : (initialTransport start).need demandAt = units := by
      simp [initialTransport, found, demandOf_known derived]
    rw [never, initial]
  · have aligned : ∀ shipment ∈ middle.plan,
        capacityGrainAt start (instanceStratum row) shipment.source =
          demandGrainAt start (instanceStratum row) shipment.target := by
      intro shipment member
      obtain ⟨_, permitted⟩ := plan_permitted run shipment member
      apply aligned_of_selected (instanceStratum row) plain sizedDemands sizedCapacities permitted
      intro inside multiAz isMember
      obtain ⟨_, _, _, _, _, _, selected, reservationSame, instanceSame⟩ := permitted
      have strata := exactSelection_stratum selected
      rw [← reservationSame, ← instanceSame] at strata
      exact unhalved ⟨allocationOf shipment, List.mem_map.mpr ⟨shipment, member, rfl⟩, inside,
        strata.trans inside, multiAz, isMember⟩
    have granular := run.granular
      (initialTransport_granular (instanceStratum row) plain freshDemands freshCapacities) aligned
    have own : instanceGrain row = units := by
      have unit : baseUnits row.instanceSize = base := by
        simp [baseUnits, sized, Except.toOption]
      rw [instanceGrain, unit, whole]
      rcases topology_of_lookup lookedUp with
        ⟨topology, rfl⟩ | ⟨topology, rfl⟩ | ⟨topology, rfl⟩ | ⟨topology, rfl⟩
      · rw [topology, if_neg (by decide)]
      · rw [topology, if_pos (by decide)]
      · exact absurd (by simp [topology]) clustered
      · exact absurd (by simp [topology]) clustered
    have grain : demandGrainAt start (instanceStratum row) demandAt =
        AddSubgroup.zmultiples units := by
      rw [demandGrainAt, found]
      simp only [demandOf_row, ↓reduceIte, own]
    exact multiple_of_whole (instanceRequiredUnits_pos derived)
      (grain ▸ granular.need demandAt) needed

/-- A partial demand is known, partly covered and partly not. -/
theorem partially_covered {demand : InstanceDemand}
    (partially : (coverageResult demand).coverageStatus = .partially) :
    truthy demand.unknownReason = false ∧ demand.remainingUnits < demand.requiredUnits ∧
      0 < demand.remainingUnits := by
  cases known : truthy demand.unknownReason with
  | true => simp [coverageResult, known] at partially
  | false =>
    simp only [coverageResult, known, Bool.false_eq_true, ↓reduceIte] at partially
    split at partially
    · cases partially
    · rename_i covered
      split at partially
      · cases partially
      · rename_i uncovered
        exact ⟨rfl, sub_pos.mp (not_le.mp covered), by simpa using uncovered⟩

end Runs

/-- Where rows have the sizes of their classes, an instance whose demand is not size
flexible is partially covered only where a cluster member of its region, engine and
class holds an allocation of a Multi-AZ reservation of that class. -/
theorem whole_or_halved [CaseMapping] (billing : BillingScopeContext) (at_ : Instant)
    (instances : List AwsRdsInstance) (reservations : List AwsRdsReservedInstance)
    {sizeOf : String → Option String} (sized : SizedByClass sizeOf instances reservations)
    (analysis : CoverageAnalysis)
    (returned : analyze billing at_ instances reservations = .ok analysis) :
    ∀ result ∈ analysis.instances, isSizeFlexible result.instanceRow = false →
      result.coverageStatus = .partially →
      Halved analysis.allocations (instanceStratum result.instanceRow) := by
  obtain ⟨middle, after, rendered, exactRun, flexibleRun⟩ := allocatePhases_runs billing at_
    (initialState_unallocated at_ instances reservations) rfl
  obtain ⟨rfl, _⟩ := (analyze_eq_ok rendered).mp returned
  intro result resultMember strict partially
  obtain ⟨record, recordMember, rfl⟩ := List.mem_map.mp resultMember
  obtain ⟨demandAt, demand, demandFound, rfl⟩ := mem_rendered_demands recordMember
  obtain ⟨row, rfl⟩ : ∃ row, demand = demandOf row := ⟨_, sortedDemands_fresh demandFound⟩
  have isRow : (coverageResult (renderDemand after demandAt (demandOf row))).instanceRow = row := by
    rw [coverageResult_instanceRow]
    exact demandOf_row row
  rw [isRow] at strict ⊢
  obtain ⟨known, partly, needed⟩ := partially_covered partially
  obtain ⟨units, method, derived⟩ := (demandOf_reason row).mp known
  -- phase 2 serves no such demand, so its need is the one that phase 1 left
  have untouched : after.need demandAt = middle.need demandAt := by
    apply flexibleRun.need_untouched
    rintro capacityAt terms ⟨capacity, other, _, otherFound, _, _, selected, _⟩
    obtain rfl := Option.some.inj (demandFound.symm.trans otherFound)
    rw [demandOf_row, flexibleSelection_strict strict] at selected
    exact nomatch selected
  have required : (demandOf row).requiredUnits = units := by rw [demandOf_known derived]
  have left : (renderDemand after demandAt (demandOf row)).remainingUnits =
      middle.need demandAt := untouched
  rw [left] at partly needed
  change middle.need demandAt < (demandOf row).requiredUnits at partly
  rw [required] at partly
  by_contra unhalved
  have whole := need_of_exactRun exactRun (fun _ _ => sortedDemands_fresh)
    (fun _ _ => sortedCapacities_fresh)
    (fun _ _ other => sized.instances _ (List.mem_of_mem_filter (sortedDemands_row other)))
    (fun _ _ other => sized.reservations _ (List.mem_of_mem_filter (sortedCapacities_row other)))
    demandFound strict derived (fun halved => unhalved (by
      obtain ⟨allocation, member, terms⟩ := halved
      obtain ⟨shipment, listed, rfl⟩ := List.mem_map.mp member
      exact ⟨_, List.mem_map.mpr ⟨shipment, flexibleRun.plan_prefix.subset listed, rfl⟩, terms⟩))
    needed
  exact absurd whole (not_le.mpr partly)

section Small

attribute [local instance] asciiCase

/-- An Oracle instance whose own licence makes it size flexible, in a cluster. -/
def clusterMember : AwsRdsInstance :=
  { sampleInstance 1 "a" with
    engineNormalized := "oracle-ee"
    licenseModel := some "bring-your-own-license"
    deploymentTopology := some "multi_az_cluster_member" }

/-- A Multi-AZ Oracle instance with an included licence. -/
def multiAzInstance : AwsRdsInstance :=
  { sampleInstance 2 "b" with
    engineNormalized := "oracle-ee"
    licenseModel := some "license-included"
    multiAz := true }

/-- A Multi-AZ Oracle reservation that names no licence. -/
def multiAzReservation : AwsRdsReservedInstance :=
  { sampleReservation 3 "r" with
    engineNormalized := "oracle-ee"
    productDescription := "oracle-ee"
    multiAz := true }

/-- A reservation of the class of an instance, with another size. -/
def missizedReservation : AwsRdsReservedInstance :=
  { multiAzReservation with instanceSize := some "medium" }

/-- The statuses of the demands that are not size flexible. -/
def strictStatuses (instances : List AwsRdsInstance) (reservations : List AwsRdsReservedInstance) :
    Option (List CoverageStatus) :=
  (analyze .isolated 5 instances reservations).toOption.map fun analysis =>
    (analysis.instances.filter fun result => !isSizeFlexible result.instanceRow).map
      (·.coverageStatus)

/-- A cluster member halves the reservation of a Multi-AZ instance, and so does a size
that is not the one of the class. -/
theorem covered_by_halves :
    strictStatuses [clusterMember, multiAzInstance] [multiAzReservation] = some [.partially] ∧
      strictStatuses [multiAzInstance] [missizedReservation] = some [.partially] := by
  constructor
  · decide +kernel
  · decide +kernel

/-- Without the cluster member the Multi-AZ instance is covered whole. -/
theorem whole_or_halved_alone : ∃ analysis,
    analyze .isolated 5 [multiAzInstance] [multiAzReservation] = .ok analysis ∧
      ∀ result ∈ analysis.instances, isSizeFlexible result.instanceRow = false →
        result.coverageStatus = .partially →
        Halved analysis.allocations (instanceStratum result.instanceRow) := by
  have returned : (analyze .isolated 5 [multiAzInstance] [multiAzReservation]).toBool = true := by
    decide +kernel
  have sized : SizedByClass (fun _ => some "large") [multiAzInstance] [multiAzReservation] :=
    ⟨by decide, by decide⟩
  obtain ⟨analysis, result⟩ := Fallible.ok_of_toBool returned
  exact ⟨analysis, result, whole_or_halved _ _ _ _ sized analysis result⟩

end Small

end FinopsAnalytics.RdsWholeAllocations
