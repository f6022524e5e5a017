import Mathlib.Algebra.Order.Field.Rat
import Mathlib.Tactic.Linarith
import Mathlib.Tactic.NormNum
import FinopsAnalytics.RdsInventory

/-!
# Reservation rules

Normalised units, licences, topologies and the matcher decide how much capacity
an instance needs, how much a reservation offers and whether the second may
serve the first. Quantities are exact rationals. A configuration that yields no
quantity is reported as an error with its reason and is never a number.
-/

namespace FinopsAnalytics.RdsReservationRules

open PythonText RdsInventory

def oneHundred : ℚ := 100

def auroraIoOptimizedMultiplier : ℚ := 13 / 10

/-- `NORMALIZED_UNITS`. -/
def normalizedUnits : List (String × ℚ) :=
  [("micro", 1 / 2), ("small", 1), ("medium", 2), ("large", 4), ("xlarge", 8),
    ("2xlarge", 16), ("4xlarge", 32), ("6xlarge", 48), ("8xlarge", 64), ("10xlarge", 80),
    ("12xlarge", 96), ("16xlarge", 128), ("24xlarge", 192), ("32xlarge", 256)]

/-- `SIZE_FLEXIBLE_ENGINES`. -/
def sizeFlexibleEngines : List String :=
  ["mysql", "mariadb", "postgres", "db2-ae", "db2-se", "aurora-mysql", "aurora-postgresql"]

/-- `ORACLE_ENGINES`. -/
def oracleEngines : List String :=
  ["oracle-ee", "oracle-ee-cdb", "oracle-se", "oracle-se1", "oracle-se2", "oracle-se2-cdb"]

inductive CoverageStatus where
  | full | partially | uncovered | unknown
deriving DecidableEq, Repr

inductive AllocationScope where
  | sameAccount | crossAccountVerified | crossAccountPotential | notShareable | unknown
deriving DecidableEq, Repr

inductive MatchType where
  | incompatible | exact | sizeFlexible
deriving DecidableEq, Repr

/-- The reason codes of a match decision. A refused account relationship is its
own reason. -/
inductive MatchReason where
  | reservationInactive | regionMismatch | engineMismatch
  | relationship (scope : AllocationScope)
  | licenseMismatch | familyMismatch | unknownConfiguration
  | exactClassMatch | deploymentSizeFlexibility | sizeFlexibility
  | sizeMismatch | deploymentMismatch | exactMatch
deriving DecidableEq, Repr

inductive CalculationMethod where
  | normalizedUnits | normalizedUnitsAuroraIoOptimized | normalizedUnitsAuroraStandard
  | exactMatchCapacity | unknown
deriving DecidableEq, Repr

structure MatchDecision where
  compatible : Bool
  matchType : MatchType
  reason : MatchReason
  allocationScope : AllocationScope
deriving DecidableEq, Repr

structure Allocation where
  reservation : AwsRdsReservedInstance
  instanceRow : AwsRdsInstance
  units : ℚ
  matchType : MatchType
  allocationScope : AllocationScope
  reason : MatchReason
deriving DecidableEq, Repr

structure InstanceDemand where
  row : AwsRdsInstance
  requiredUnits : ℚ
  remainingUnits : ℚ
  calculationMethod : CalculationMethod
  unknownReason : Option String
  allocations : List Allocation
deriving DecidableEq, Repr

structure ReservationCapacity where
  row : AwsRdsReservedInstance
  totalUnits : ℚ
  remainingUnits : ℚ
  calculationMethod : CalculationMethod
  unknownReason : Option String
deriving DecidableEq, Repr

/-- The account maps of the billing scope. A missing key and a null value read
alike. -/
structure BillingScopeContext where
  scopeByAccount : String → Option String
  sharingEnabledByAccount : String → Option Bool

/-- The scope of an organisation that shares nothing. -/
def BillingScopeContext.isolated : BillingScopeContext := ⟨fun _ => none, fun _ => none⟩

def BillingScopeContext.relationship (billing : BillingScopeContext)
    (reservationAccount instanceAccount : String) : AllocationScope :=
  if reservationAccount = instanceAccount then .sameAccount
  else
    let reservationScope := billing.scopeByAccount reservationAccount
    let instanceScope := billing.scopeByAccount instanceAccount
    if !truthy reservationScope || !truthy instanceScope then .unknown
    else if reservationScope ≠ instanceScope then .notShareable
    else
      let reservationSharing := billing.sharingEnabledByAccount reservationAccount
      let instanceSharing := billing.sharingEnabledByAccount instanceAccount
      if reservationSharing = some true ∧ instanceSharing = some true then .crossAccountVerified
      else if reservationSharing = some false ∨ instanceSharing = some false then .notShareable
      else .crossAccountPotential

def safePercentage (numerator denominator : ℚ) : ℚ :=
  if denominator ≤ 0 then 0
  else min oneHundred (max 0 (numerator / denominator * oneHundred))

/-- A percentage lies between zero and one hundred for every input. -/
theorem safePercentage_bounds (numerator denominator : ℚ) :
    0 ≤ safePercentage numerator denominator ∧
      safePercentage numerator denominator ≤ oneHundred := by
  unfold safePercentage oneHundred
  split
  · norm_num
  · exact ⟨le_min (by norm_num) (le_max_left _ _), min_le_left _ _⟩

/-- A table whose values are all positive yields positive values. -/
theorem lookup_pos {table : List (String × ℚ)} (positive : ∀ entry ∈ table, 0 < entry.2)
    {name : String} {value : ℚ} (found : table.lookup name = some value) : 0 < value := by
  obtain ⟨before, after, same, _⟩ := List.lookup_eq_some_iff.mp found
  exact positive (name, value) (by simp [same])

section Matching

variable [CaseMapping]

/-- The alias table of licence names. -/
def licenseAliases : List (String × String) :=
  [("li", "license-included"), ("license included", "license-included"),
    ("license-included", "license-included"), ("byol", "bring-your-own-license"),
    ("bring your own license", "bring-your-own-license"),
    ("bring-your-own-license", "bring-your-own-license"),
    ("general public license", "general-public-license"),
    ("general-public-license", "general-public-license"),
    ("postgresql license", "postgresql-license"), ("postgresql-license", "postgresql-license"),
    ("marketplace license", "marketplace-license"),
    ("marketplace-license", "marketplace-license")]

def normalizeLicenseModel (value : Option String) (engine : String) : String :=
  let raw := collapse (replaceChar '_' '-' (CaseMapping.lower (strip (orEmpty value))))
  let normalized := (licenseAliases.lookup raw).getD raw
  if normalized ≠ "" then normalized
  else
    let product := normalizeRdsEngine engine
    if product ∈ ["mysql", "mariadb", "aurora-mysql"] then "general-public-license"
    else if product ∈ ["postgres", "aurora-postgresql"] then "postgresql-license"
    else ""

/-- The licence names searched in a product description, in this order. -/
def licenseTokens : List String :=
  ["bring-your-own-license", "bring your own license", "license-included", "license included",
    "general-public-license", "postgresql-license", "marketplace-license", "byol"]

def reservationLicenseModel (reservation : AwsRdsReservedInstance) : String :=
  let text := CaseMapping.lower (strip reservation.productDescription)
  if contains text "(li)" || endsWith text " li" then "license-included"
  else normalizeLicenseModel (licenseTokens.find? (contains text ·)) reservation.engineNormalized

def supportsSizeFlexibility (engine licenseModel : String) : Bool :=
  let product := normalizeRdsEngine engine
  if product ∈ sizeFlexibleEngines then true
  else product ∈ oracleEngines && licenseModel = "bring-your-own-license"

/-- The units of one instance of the size, or the text of
`UnknownRdsConfiguration`. -/
def normalizedUnitsForSize (size : Option String) : Except String ℚ :=
  match normalizedUnits.lookup (CaseMapping.lower (strip (orEmpty size))) with
  | some units => .ok units
  | none => .error ("unsupported DB instance size: " ++
      if truthy size then orEmpty size else "<empty>")

def isAurora (engine : String) : Bool :=
  normalizeRdsEngine engine ∈ ["aurora-mysql", "aurora-postgresql"]

def instanceTopology (row : AwsRdsInstance) : String :=
  if truthy row.deploymentTopology then orEmpty row.deploymentTopology
  else if isAurora row.engineNormalized then "aurora_cluster"
  else if truthy row.clusterIdentifier then "unknown_cluster"
  else if row.multiAz then "multi_az_instance" else "single_az"

def instanceStorageConfiguration (row : AwsRdsInstance) : Option String :=
  if truthy row.clusterStorageType then
    some (CaseMapping.lower (strip (orEmpty row.clusterStorageType)))
  else none

/-- The multiplier of each supported topology. -/
def topologyMultipliers : List (String × ℚ) :=
  [("single_az", 1), ("multi_az_instance", 2), ("multi_az_cluster", 3),
    ("multi_az_cluster_member", 1)]

def instanceRequiredUnits (row : AwsRdsInstance) : Except String (ℚ × CalculationMethod) := do
  let base ← normalizedUnitsForSize row.instanceSize
  let engine := normalizeRdsEngine row.engineNormalized
  let topology := instanceTopology row
  if isAurora engine then
    let storage := instanceStorageConfiguration row
    if storage ∈ [some "aurora-iopt1", some "io-optimized", some "i/o-optimized",
        some "aurora-io-optimized"] then
      return (base * auroraIoOptimizedMultiplier, .normalizedUnitsAuroraIoOptimized)
    else if storage ∈ [some "aurora", some "standard", some "aurora-standard"] then
      return (base, .normalizedUnitsAuroraStandard)
    else throw "Aurora storage configuration is unknown"
  else
    match topologyMultipliers.lookup topology with
    | none => throw ("unsupported deployment topology: " ++ topology)
    | some multiplier => return (base * multiplier, .normalizedUnits)

def reservationTotalUnits (reservation : AwsRdsReservedInstance) :
    Except String (ℚ × CalculationMethod) := do
  if reservation.instanceCount ≤ 0 then throw "reservation DBInstanceCount is zero"
  let base ← normalizedUnitsForSize reservation.instanceSize
  let engine := normalizeRdsEngine reservation.engineNormalized
  let licenseModel := reservationLicenseModel reservation
  if supportsSizeFlexibility engine licenseModel then
    let deploymentMultiplier : ℚ := if reservation.multiAz && !isAurora engine then 2 else 1
    return (base * reservation.instanceCount * deploymentMultiplier, .normalizedUnits)
  else
    let deploymentMultiplier : ℚ := if reservation.multiAz then 2 else 1
    return (base * reservation.instanceCount * deploymentMultiplier, .exactMatchCapacity)

def isActiveReservation (reservation : AwsRdsReservedInstance) (at_ : Instant) : Bool :=
  reservation.isActive && CaseMapping.lower (strip reservation.state) ∈ ["active"] &&
    decide (reservation.startTime ≤ at_ ∧ at_ < reservation.expirationAt)

/-- `_NON_BILLABLE_INSTANCE_STATES`. -/
def nonBillableInstanceStates : List String := ["stopped", "stopping", "deleting", "failed"]

def isReservationCoverageEligibleInstance (row : AwsRdsInstance) : Bool :=
  let status := CaseMapping.lower (strip row.status)
  row.isActive && status ∉ nonBillableInstanceStates && isRdsCoverageEligible status

/-- `RdsReservationMatcher.match`. The guards stand in the order of the source;
each names the reason it refuses with. -/
def matchReservation (billing : BillingScopeContext) (reservation : AwsRdsReservedInstance)
    (row : AwsRdsInstance) (at_ : Instant) (allowFlexible : Bool) : MatchDecision :=
  if !isActiveReservation reservation at_ then
    ⟨false, .incompatible, .reservationInactive, .sameAccount⟩
  else if reservation.region ≠ row.region then
    ⟨false, .incompatible, .regionMismatch, .sameAccount⟩
  else
  let reservationEngine := normalizeRdsEngine reservation.engineNormalized
  let instanceEngine := normalizeRdsEngine row.engineNormalized
  if reservationEngine ≠ instanceEngine then
    ⟨false, .incompatible, .engineMismatch, .sameAccount⟩
  else
  let scope := billing.relationship reservation.accountId row.accountId
  if scope ∉ [AllocationScope.sameAccount, .crossAccountVerified] then
    ⟨false, .incompatible, .relationship scope, .sameAccount⟩
  else
  let instanceLicense := normalizeLicenseModel row.licenseModel instanceEngine
  let reservationLicense := reservationLicenseModel reservation
  if reservationLicense ≠ "" ∧ instanceLicense ≠ "" ∧ reservationLicense ≠ instanceLicense then
    ⟨false, .incompatible, .licenseMismatch, scope⟩
  else if reservation.instanceFamily ≠ row.instanceFamily then
    ⟨false, .incompatible, .familyMismatch, scope⟩
  else if !truthy reservation.instanceFamily || !truthy row.instanceFamily then
    ⟨false, .incompatible, .unknownConfiguration, scope⟩
  else if supportsSizeFlexibility instanceEngine instanceLicense && allowFlexible then
    match normalizedUnitsForSize reservation.instanceSize,
        normalizedUnitsForSize row.instanceSize with
    | .ok _, .ok _ =>
      if reservation.dbInstanceClass = row.dbInstanceClass then
        let topology := instanceTopology row
        let expectedMultiAz := topology == "multi_az_instance"
        let deploymentConverted := !isAurora instanceEngine &&
          topology != "multi_az_cluster_member" && reservation.multiAz != expectedMultiAz
        if !deploymentConverted then ⟨true, .exact, .exactClassMatch, scope⟩
        else ⟨true, .sizeFlexible, .deploymentSizeFlexibility, scope⟩
      else ⟨true, .sizeFlexible, .sizeFlexibility, scope⟩
    | _, _ => ⟨false, .incompatible, .unknownConfiguration, scope⟩
  else if reservation.dbInstanceClass ≠ row.dbInstanceClass then
    ⟨false, .incompatible, .sizeMismatch, scope⟩
  else
  let topology := instanceTopology row
  if topology ∈ ["multi_az_cluster", "multi_az_cluster_member"] then
    ⟨false, .incompatible, .deploymentMismatch, scope⟩
  else
  let expectedMultiAz := topology == "multi_az_instance"
  if reservation.multiAz != expectedMultiAz then
    ⟨false, .incompatible, .deploymentMismatch, scope⟩
  else ⟨true, .exact, .exactMatch, scope⟩

/-- Every tabulated size has positive units. -/
theorem normalizedUnitsForSize_pos {size : Option String} {units : ℚ}
    (known : normalizedUnitsForSize size = .ok units) : 0 < units := by
  unfold normalizedUnitsForSize at known
  split at known
  · rename_i found
    obtain rfl := Except.ok.inj known
    exact lookup_pos (by simp only [normalizedUnits, List.forall_mem_cons]; norm_num) found
  · exact absurd known (by simp)

variable {row : AwsRdsInstance} {reservation : AwsRdsReservedInstance}

/-- A derived demand is positive: its base, the storage multiplier and the
topology multipliers all are. -/
theorem instanceRequiredUnits_pos {units : ℚ} {method : CalculationMethod}
    (known : instanceRequiredUnits row = .ok (units, method)) : 0 < units := by
  unfold instanceRequiredUnits at known
  cases sized : normalizedUnitsForSize row.instanceSize with
  | error reason => simp [sized, bind, Except.bind] at known
  | ok base =>
    have basePositive : 0 < base := normalizedUnitsForSize_pos sized
    simp only [sized, bind, Except.bind] at known
    split at known
    · split at known
      · obtain ⟨rfl, _⟩ := Prod.mk.inj (Except.ok.inj known)
        exact mul_pos basePositive (by norm_num [auroraIoOptimizedMultiplier])
      · split at known
        · obtain ⟨rfl, _⟩ := Prod.mk.inj (Except.ok.inj known)
          exact basePositive
        · exact absurd known (by simp [throw, throwThe, MonadExceptOf.throw])
    · split at known
      · exact absurd known (by simp [throw, throwThe, MonadExceptOf.throw])
      · rename_i multiplier found
        obtain ⟨rfl, _⟩ := Prod.mk.inj (Except.ok.inj known)
        exact mul_pos basePositive
          (lookup_pos (by simp only [topologyMultipliers, List.forall_mem_cons]; norm_num) found)

/-- A derived capacity is positive: the instance count is checked, the size and
deployment multipliers are positive. -/
theorem reservationTotalUnits_pos {units : ℚ} {method : CalculationMethod}
    (known : reservationTotalUnits reservation = .ok (units, method)) : 0 < units := by
  unfold reservationTotalUnits at known
  by_cases counted : reservation.instanceCount ≤ 0
  · exact absurd known (by simp [counted, throw, throwThe, MonadExceptOf.throw, bind, Except.bind])
  · cases sized : normalizedUnitsForSize reservation.instanceSize with
    | error reason => simp [counted, sized, bind, Except.bind] at known
    | ok base =>
      have basePositive : 0 < base := normalizedUnitsForSize_pos sized
      have countPositive : (0 : ℚ) < reservation.instanceCount := by exact_mod_cast not_le.mp counted
      have scaled (multiplier : ℚ) (positive : 0 < multiplier) :
          0 < base * reservation.instanceCount * multiplier :=
        mul_pos (mul_pos basePositive countPositive) positive
      simp only [counted, sized, bind, Except.bind, ↓reduceIte] at known
      split at known
      · obtain ⟨rfl, _⟩ := Prod.mk.inj (Except.ok.inj known)
        exact scaled _ (by split <;> norm_num)
      · obtain ⟨rfl, _⟩ := Prod.mk.inj (Except.ok.inj known)
        exact scaled _ (by split <;> norm_num)

/-- `UnknownRdsConfiguration` always carries a text. -/
theorem normalizedUnitsForSize_error {size : Option String} {reason : String}
    (unknown : normalizedUnitsForSize size = .error reason) : reason ≠ "" := by
  unfold normalizedUnitsForSize at unknown
  split at unknown
  · exact absurd unknown (by simp)
  · obtain rfl := Except.error.inj unknown
    simp [String.append_eq_empty_iff]

theorem instanceRequiredUnits_error {reason : String}
    (unknown : instanceRequiredUnits row = .error reason) : reason ≠ "" := by
  unfold instanceRequiredUnits at unknown
  cases sized : normalizedUnitsForSize row.instanceSize with
  | error sizeReason =>
    simp only [sized, bind, Except.bind, Except.error.injEq] at unknown
    exact unknown ▸ normalizedUnitsForSize_error sized
  | ok base =>
    simp only [sized, bind, Except.bind, throw, throwThe, MonadExceptOf.throw, pure,
      Except.pure] at unknown
    split at unknown
    · split at unknown
      · exact absurd unknown (by simp)
      · split at unknown
        · exact absurd unknown (by simp)
        · obtain rfl := Except.error.inj unknown
          decide
    · split at unknown
      · obtain rfl := Except.error.inj unknown
        simp [String.append_eq_empty_iff]
      · exact absurd unknown (by simp)

theorem reservationTotalUnits_error {reason : String}
    (unknown : reservationTotalUnits reservation = .error reason) : reason ≠ "" := by
  unfold reservationTotalUnits at unknown
  by_cases counted : reservation.instanceCount ≤ 0
  · simp only [counted, ↓reduceIte, throw, throwThe, MonadExceptOf.throw, bind, Except.bind,
      Except.error.injEq] at unknown
    exact unknown ▸ by decide
  · cases sized : normalizedUnitsForSize reservation.instanceSize with
    | error sizeReason =>
      simp only [counted, sized, ↓reduceIte, bind, Except.bind, Except.error.injEq] at unknown
      exact unknown ▸ normalizedUnitsForSize_error sized
    | ok base =>
      simp only [counted, sized, ↓reduceIte, bind, Except.bind, pure, Except.pure] at unknown
      split at unknown <;> exact absurd unknown (by simp)

/-- What a compatible decision says: the pair agrees on region, engine and
family, and the match is exact on equal classes or a size-flexible one. -/
theorem matchReservation_compatible {billing : BillingScopeContext} {at_ : Instant}
    {allowFlexible : Bool}
    (compatible : (matchReservation billing reservation row at_ allowFlexible).compatible = true) :
    isActiveReservation reservation at_ = true ∧ reservation.region = row.region ∧
      normalizeRdsEngine reservation.engineNormalized = normalizeRdsEngine row.engineNormalized ∧
      reservation.instanceFamily = row.instanceFamily ∧
      ((matchReservation billing reservation row at_ allowFlexible).matchType = .exact ∧
          reservation.dbInstanceClass = row.dbInstanceClass ∨
        (matchReservation billing reservation row at_ allowFlexible).matchType =
          .sizeFlexible) := by
  revert compatible
  fun_cases matchReservation billing reservation row at_ allowFlexible
  -- the refusing branches contradict compatibility; the others passed every guard
  all_goals first
    | exact fun refused => absurd refused Bool.false_ne_true
    | exact fun _ => ⟨by simp_all, by simp_all, by simp_all only [not_not]; assumption,
        by simp_all, by simp_all⟩

end Matching

end FinopsAnalytics.RdsReservationRules
