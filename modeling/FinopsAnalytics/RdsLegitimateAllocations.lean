import FinopsAnalytics.RdsCoverageConservation

/-!
# Every allocation is legitimate

The conditions under which a reservation may serve an instance are spread over
the activity filter, the two selections and the branches of the matcher. They are
collected here from what a compatible decision has passed; the run of transport
that an analysis follows ships on no other terms.
-/

namespace FinopsAnalytics.RdsLegitimateAllocations

open PythonText RdsInventory RdsReservationRules RdsReservationEngine RdsCoverageTransport
  RdsCoverageConservation

/-- The relationships on which capacity may be used. -/
theorem relationship_shared {billing : BillingScopeContext} {reservationAccount instanceAccount : String}
    (shared : billing.relationship reservationAccount instanceAccount ∈
      [AllocationScope.sameAccount, .crossAccountVerified]) :
    reservationAccount = instanceAccount ∨ ∃ scope, scope ≠ "" ∧
      billing.scopeByAccount reservationAccount = some scope ∧
      billing.scopeByAccount instanceAccount = some scope ∧
      billing.sharingEnabledByAccount reservationAccount = some true ∧
      billing.sharingEnabledByAccount instanceAccount = some true := by
  by_cases same : reservationAccount = instanceAccount
  · exact Or.inl same
  · right
    unfold BillingScopeContext.relationship at shared
    rw [if_neg same] at shared
    dsimp only at shared
    split at shared
    · simp at shared
    · rename_i named
      split at shared
      · simp at shared
      · rename_i equal
        split at shared
        · rename_i sharing
          cases found : billing.scopeByAccount reservationAccount with
          | none => simp [found] at named
          | some scope =>
            have nonempty : scope ≠ "" := by
              rintro rfl
              simp [found] at named
            exact ⟨scope, nonempty, rfl, (not_not.mp equal).symm.trans found, sharing⟩
        · split at shared <;> simp at shared

section Matching

variable [CaseMapping] {billing : BillingScopeContext} {reservation : AwsRdsReservedInstance}
  {row : AwsRdsInstance} {at_ : Instant} {allowFlexible : Bool}

/-- The licence of an instance as the matcher reads it. -/
def instanceLicense (row : AwsRdsInstance) : String :=
  normalizeLicenseModel row.licenseModel (normalizeRdsEngine row.engineNormalized)

/-- The demand of an instance is size flexible. -/
def isSizeFlexible (row : AwsRdsInstance) : Bool :=
  supportsSizeFlexibility (normalizeRdsEngine row.engineNormalized) (instanceLicense row)

/-- A compatible pair passed the account, licence and family guards. -/
theorem matchReservation_guards
    (compatible : (matchReservation billing reservation row at_ allowFlexible).compatible = true) :
    billing.relationship reservation.accountId row.accountId ∈
        [AllocationScope.sameAccount, .crossAccountVerified] ∧
      ¬(reservationLicenseModel reservation ≠ "" ∧ instanceLicense row ≠ "" ∧
        reservationLicenseModel reservation ≠ instanceLicense row) ∧
      truthy reservation.instanceFamily = true := by
  revert compatible
  unfold instanceLicense
  fun_cases matchReservation billing reservation row at_ allowFlexible
  all_goals first
    | exact fun refused => absurd refused Bool.false_ne_true
    | exact fun _ => ⟨by apply not_not.mp; assumption, by assumption, by simp_all⟩

/-- The deployment of a compatible pair. A strict match has the class and the
deployment of the instance. A flexible one is exact on the class only where no
deployment is converted, and the deployment of a cluster member never counts as
converted. -/
theorem matchReservation_deployment
    (compatible : (matchReservation billing reservation row at_ allowFlexible).compatible = true) :
    (isSizeFlexible row = true ∧ allowFlexible = true ∧
        ((matchReservation billing reservation row at_ allowFlexible).matchType = .exact →
          isAurora (normalizeRdsEngine row.engineNormalized) = true ∨
            instanceTopology row = "multi_az_cluster_member" ∨
            reservation.multiAz = (instanceTopology row == "multi_az_instance"))) ∨
      ((matchReservation billing reservation row at_ allowFlexible).matchType = .exact ∧
        reservation.dbInstanceClass = row.dbInstanceClass ∧
        instanceTopology row ∉ ["multi_az_cluster", "multi_az_cluster_member"] ∧
        reservation.multiAz = (instanceTopology row == "multi_az_instance")) := by
  revert compatible
  unfold isSizeFlexible instanceLicense
  fun_cases matchReservation billing reservation row at_ allowFlexible
  all_goals first
    | exact fun refused => absurd refused Bool.false_ne_true
    | skip
  case case8 =>
    rename_i flexible _ _ _ _ _ _ _ _ kept
    obtain ⟨isFlexible, allowed⟩ := Bool.and_eq_true_iff.mp flexible
    refine fun _ => Or.inl ⟨isFlexible, allowed, fun _ => ?_⟩
    change (!(!isAurora (normalizeRdsEngine row.engineNormalized) &&
      instanceTopology row != "multi_az_cluster_member" &&
      reservation.multiAz != (instanceTopology row == "multi_az_instance"))) = true at kept
    by_contra neither
    obtain ⟨notAurora, notMember, converted⟩ := by simpa only [not_or] using neither
    simp [notAurora, notMember, bne, beq_false_of_ne converted] at kept
  case case9 =>
    rename_i flexible _ _ _ _ _ _ _ _ _
    obtain ⟨isFlexible, allowed⟩ := Bool.and_eq_true_iff.mp flexible
    exact fun _ => Or.inl ⟨isFlexible, allowed, fun exactly => by cases exactly⟩
  case case10 =>
    rename_i flexible _ _ _ _ _
    obtain ⟨isFlexible, allowed⟩ := Bool.and_eq_true_iff.mp flexible
    exact fun _ => Or.inl ⟨isFlexible, allowed, fun exactly => by cases exactly⟩
  case case15 =>
    rename_i sameClass topology unclustered expected sameDeployment
    refine fun _ => Or.inr ⟨rfl, not_not.mp sameClass, unclustered, ?_⟩
    change ¬(reservation.multiAz != (instanceTopology row == "multi_az_instance")) = true
      at sameDeployment
    simpa using sameDeployment

/-- What makes an allocation of a reservation to an instance right. -/
structure Legitimate (billing : BillingScopeContext) (at_ : Instant)
    (reservation : AwsRdsReservedInstance) (row : AwsRdsInstance) : Prop where
  accounts : reservation.accountId = row.accountId ∨ ∃ scope, scope ≠ "" ∧
    billing.scopeByAccount reservation.accountId = some scope ∧
    billing.scopeByAccount row.accountId = some scope ∧
    billing.sharingEnabledByAccount reservation.accountId = some true ∧
    billing.sharingEnabledByAccount row.accountId = some true
  region : reservation.region = row.region
  engine : normalizeRdsEngine reservation.engineNormalized = normalizeRdsEngine row.engineNormalized
  family : reservation.instanceFamily = row.instanceFamily ∧ truthy row.instanceFamily = true
  licences : reservationLicenseModel reservation = "" ∨ instanceLicense row = "" ∨
    reservationLicenseModel reservation = instanceLicense row
  active : isActiveReservation reservation at_ = true
  whole : isSizeFlexible row = false →
    reservation.dbInstanceClass = row.dbInstanceClass ∧
      instanceTopology row = if reservation.multiAz then "multi_az_instance" else "single_az"

/-- A demand that is not size flexible is not of an Aurora engine. -/
theorem not_isAurora (strict : isSizeFlexible row = false) :
    isAurora (normalizeRdsEngine row.engineNormalized) = false := by
  cases aurora : isAurora (normalizeRdsEngine row.engineNormalized) with
  | false => rfl
  | true =>
    have flexibleEngine : normalizeRdsEngine (normalizeRdsEngine row.engineNormalized) ∈
        sizeFlexibleEngines := by
      rcases List.mem_pair.mp (of_decide_eq_true aurora) with same | same <;>
        rw [same] <;> decide
    rw [isSizeFlexible, supportsSizeFlexibility, if_pos flexibleEngine] at strict
    exact absurd strict (by decide)

/-- A known demand outside Aurora has a topology with a multiplier. -/
theorem instanceRequiredUnits_topology {units : ℚ} {method : CalculationMethod}
    (known : instanceRequiredUnits row = .ok (units, method))
    (plain : isAurora (normalizeRdsEngine row.engineNormalized) = false) :
    ∃ base multiplier, normalizedUnitsForSize row.instanceSize = .ok base ∧
      topologyMultipliers.lookup (instanceTopology row) = some multiplier ∧
      units = base * multiplier := by
  unfold instanceRequiredUnits at known
  cases sized : normalizedUnitsForSize row.instanceSize with
  | error reason => simp [sized, bind, Except.bind] at known
  | ok base =>
    simp only [sized, bind, Except.bind, plain, Bool.false_eq_true, ↓reduceIte] at known
    cases found : topologyMultipliers.lookup (instanceTopology row) with
    | none => simp [found, throw, throwThe, MonadExceptOf.throw] at known
    | some multiplier =>
      simp only [found, pure, Except.pure, Except.ok.injEq, Prod.mk.injEq] at known
      exact ⟨base, multiplier, rfl, rfl, known.1.symm⟩

omit [CaseMapping] in
/-- The topologies with a multiplier. -/
theorem topology_of_lookup {topology : String} {multiplier : ℚ}
    (found : topologyMultipliers.lookup topology = some multiplier) :
    (topology = "single_az" ∧ multiplier = 1) ∨
      (topology = "multi_az_instance" ∧ multiplier = 2) ∨
      (topology = "multi_az_cluster" ∧ multiplier = 3) ∨
      (topology = "multi_az_cluster_member" ∧ multiplier = 1) := by
  obtain ⟨before, after, same, _⟩ := List.lookup_eq_some_iff.mp found
  have member : (topology, multiplier) ∈ topologyMultipliers := by simp [same]
  simpa [topologyMultipliers] using member

/-- The terms of every shipment are legitimate. -/
theorem legitimate_of_accepts {decision : MatchDecision}
    (accepted : Accepts billing at_ reservation row decision)
    (known : ∃ units method, instanceRequiredUnits row = .ok (units, method)) :
    Legitimate billing at_ reservation row := by
  obtain ⟨compatible, allowFlexible, rfl⟩ := accepted
  obtain ⟨active, region, engine, family, _⟩ := matchReservation_compatible compatible
  obtain ⟨shared, licences, named⟩ := matchReservation_guards compatible
  refine ⟨relationship_shared shared, region, engine, ⟨family, family ▸ named⟩, ?_, active, ?_⟩
  · tauto
  · intro strict
    rcases matchReservation_deployment compatible with
      ⟨flexible, -, -⟩ | ⟨-, sameClass, unclustered, sameDeployment⟩
    · exact absurd (strict.symm.trans flexible) Bool.false_ne_true
    · refine ⟨sameClass, ?_⟩
      obtain ⟨units, method, derived⟩ := known
      obtain ⟨_, multiplier, _, found, _⟩ :=
        instanceRequiredUnits_topology derived (not_isAurora strict)
      rcases topology_of_lookup found with
        ⟨topology, -⟩ | ⟨topology, -⟩ | ⟨topology, -⟩ | ⟨topology, -⟩
      · rw [topology] at sameDeployment ⊢
        simp [sameDeployment]
      · rw [topology] at sameDeployment ⊢
        simp [sameDeployment]
      · exact absurd (by simp [topology]) unclustered
      · exact absurd (by simp [topology]) unclustered

/-- Every allocation of an analysis, in the list and in the results of the
instances, is between analysed rows and legitimate. -/
theorem analyze_legitimate (billing : BillingScopeContext) (at_ : Instant)
    (instances : List AwsRdsInstance) (reservations : List AwsRdsReservedInstance)
    (analysis : CoverageAnalysis)
    (returned : analyze billing at_ instances reservations = .ok analysis) :
    (∀ allocation ∈ analysis.allocations,
      allocation.reservation ∈ reservations ∧ allocation.instanceRow ∈ instances ∧
        Legitimate billing at_ allocation.reservation allocation.instanceRow) ∧
      ∀ result ∈ analysis.instances, ∀ allocation ∈ result.allocations,
        allocation ∈ analysis.allocations ∧ allocation.instanceRow = result.instanceRow := by
  obtain ⟨after, rendered, run, _⟩ := allocatePhases_run billing at_
    (initialState_unallocated at_ instances reservations) rfl
  obtain ⟨rfl, _⟩ := (analyze_eq_ok rendered).mp returned
  constructor
  · intro allocation member
    obtain ⟨shipment, shipmentMember, rfl⟩ := List.mem_map.mp member
    obtain ⟨_, capacity, demand, capacityFound, demandFound, _, demandKnown, accepted,
      reservationSame, instanceSame⟩ := plan_permitted run shipment shipmentMember
    have reservationRow : (allocationOf shipment).reservation = capacity.row := reservationSame
    have instanceRow : (allocationOf shipment).instanceRow = demand.row := instanceSame
    rw [reservationRow, instanceRow]
    rw [sortedDemands_fresh demandFound, demandOf_reason] at demandKnown
    exact ⟨List.mem_of_mem_filter (sortedCapacities_row capacityFound),
      List.mem_of_mem_filter (sortedDemands_row demandFound),
      legitimate_of_accepts accepted demandKnown⟩
  · intro result resultMember allocation member
    obtain ⟨record, recordMember, rfl⟩ := List.mem_map.mp resultMember
    obtain ⟨demandAt, demand, demandFound, rfl⟩ := mem_rendered_demands recordMember
    rw [coverageResult_instanceRow]
    by_cases known : truthy demand.unknownReason = true
    · simp [coverageResult, renderDemand, known] at member
    · have collected : (coverageResult (renderDemand after demandAt demand)).allocations =
          (after.plan.filter (·.target = demandAt)).map allocationOf := by
        simp [coverageResult, renderDemand, known]
      rw [collected] at member
      obtain ⟨shipment, shipmentMember, rfl⟩ := List.mem_map.mp member
      obtain ⟨listed, target⟩ := List.mem_filter.mp shipmentMember
      obtain ⟨_, _, other, _, otherFound, _, _, _, _, instanceSame⟩ :=
        plan_permitted run shipment listed
      rw [of_decide_eq_true target, demandFound] at otherFound
      obtain rfl := Option.some.inj otherFound
      exact ⟨List.mem_map.mpr ⟨shipment, listed, rfl⟩, instanceSame⟩

end Matching

section Small

attribute [local instance] asciiCase

/-- Two instances share one reservation. -/
theorem analyze_legitimate_shared :
    ∃ analysis,
      analyze .isolated 5 [sampleInstance 1 "a", sampleInstance 2 "b"] [sampleReservation 3 "r"] =
        .ok analysis ∧
      ∀ allocation ∈ analysis.allocations,
        Legitimate .isolated 5 allocation.reservation allocation.instanceRow := by
  have returned : (analyze .isolated 5 [sampleInstance 1 "a", sampleInstance 2 "b"]
      [sampleReservation 3 "r"]).toBool = true := by decide +kernel
  cases result : analyze .isolated 5 [sampleInstance 1 "a", sampleInstance 2 "b"]
      [sampleReservation 3 "r"] with
  | error raised => exact absurd returned (by simp [result, Except.toBool])
  | ok analysis =>
    have legitimate := (analyze_legitimate _ _ _ _ analysis result).1
    exact ⟨analysis, rfl, fun allocation member => (legitimate allocation member).2.2⟩

end Small

end FinopsAnalytics.RdsLegitimateAllocations
