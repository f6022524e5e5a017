import FinopsAnalytics.Dictionaries
import FinopsAnalytics.DistinctKeys
import FinopsAnalytics.OpportunityFingerprint
import FinopsAnalytics.RdsReservationRules
import Mathlib.Data.Prod.Lex
import Mathlib.Data.Rat.Floor
import Mathlib.Data.String.Basic

/-!
# What a coverage run says about instances and reservations

A completed coverage run is read row by row. A row whose inventory is stale, or
whose coverage is unknown, says nothing for certain about its opportunities. Any
other row says which opportunities it observes.
-/

namespace FinopsAnalytics.RdsReservationVerdicts

open PythonText DistinctKeys OpportunityRecords OpportunityFingerprint RdsInventory
  RdsReservationRules

/-- The text of a number in the general format, as in `f"{number:g}"`. -/
class GeneralFormat where
  general : ℚ → String

/-- The number rounded down, for evaluation at concrete inputs. -/
abbrev integralFormat : GeneralFormat where
  general number := toString ⌊number⌋

def rdsReservationUncovered : String := "RDS_RESERVATION_UNCOVERED"

def rdsReservationPartialCoverage : String := "RDS_RESERVATION_PARTIAL_COVERAGE"

def rdsReservationUnusedCapacity : String := "RDS_RESERVATION_UNUSED_CAPACITY"

def rdsReservationExpiring : String := "RDS_RESERVATION_EXPIRING"

/-- `COVERAGE_RULES`. -/
def coverageRules : List String := [rdsReservationUncovered, rdsReservationPartialCoverage]

/-- `RESERVATION_RULES`. -/
def reservationRules : List String := [rdsReservationUnusedCapacity, rdsReservationExpiring]

/-- `RDS_RESERVATION_RULES`. -/
def rdsReservationRules : List String := coverageRules ++ reservationRules

/-- `FINGERPRINT_SCOPE`. -/
def fingerprintScope : String := "rds-reservation"

inductive RdsCoverageRunStatus where
  | running | completed | failed
deriving DecidableEq, Repr

/-- A row of `rds_reservation_coverage_runs`. -/
structure RdsReservationCoverageRun where
  id : ℤ
  startedAt : Instant
  completedAt : Option Instant
  status : RdsCoverageRunStatus
deriving DecidableEq, Repr

/-- A row of `rds_instance_reservation_coverage`. -/
structure RdsInstanceReservationCoverage where
  coverageRunId : ℤ
  rdsInstanceId : ℤ
  accountId : String
  region : String
  requiredUnits : ℚ
  coveredUnits : ℚ
  uncoveredUnits : ℚ
  coveragePercentage : ℚ
  coverageStatus : CoverageStatus
  coverageScope : String
  calculationMethod : String
  explanation : String
deriving DecidableEq, Repr

/-- A row of `rds_reservation_allocations`. -/
structure RdsReservationAllocation where
  id : ℤ
  coverageRunId : ℤ
  reservationId : ℤ
  rdsInstanceId : ℤ
  allocatedUnits : ℚ
  matchType : String
  allocationScope : String
  reason : String
deriving DecidableEq, Repr

/-- A row of `rds_reservation_utilization`. -/
structure RdsReservationUtilization where
  coverageRunId : ℤ
  reservationId : ℤ
  totalUnits : ℚ
  allocatedUnits : ℚ
  unusedUnits : ℚ
  utilizationPercentage : ℚ
deriving DecidableEq, Repr

/-- The tables that the pass reads and does not write. -/
structure RdsTables where
  coverageRuns : List RdsReservationCoverageRun
  instances : List AwsRdsInstance
  reservations : List AwsRdsReservedInstance
  coverage : List RdsInstanceReservationCoverage
  utilization : List RdsReservationUtilization
  allocations : List RdsReservationAllocation
deriving DecidableEq, Repr

structure RdsReservationSettings where
  expirationWarningDays : ℤ
  expirationHighDays : ℤ
  expirationCriticalDays : ℤ
  inventoryFreshnessHours : ℤ
  unusedUnitsTolerance : ℚ
deriving DecidableEq, Repr

/-- The defaults of the settings. -/
def defaultSettings : RdsReservationSettings where
  expirationWarningDays := 30
  expirationHighDays := 15
  expirationCriticalDays := 7
  inventoryFreshnessHours := 24
  unusedUnitsTolerance := 1 / 1000000

/-- One pass over a completed run. -/
structure CoveragePass where
  settings : RdsReservationSettings
  tables : RdsTables
  run : RdsReservationCoverageRun
  generatedAt : Instant
  accountNames : List (ℤ × String)
deriving DecidableEq, Repr

/-- The columns of an opportunity that a row observes. -/
structure OpportunityDraft where
  accountId : String
  region : String
  resourceId : String
  resourceType : String
  ruleKey : String
  title : String
  description : String
  severity : String
  providerMetadata : Metadata
  evidence : Metadata
deriving DecidableEq, Repr

/-- What a row says: nothing for certain about some fingerprints, or which
opportunities it observes. -/
inductive RowVerdict where
  | stale (fingerprints : List String)
  | unknown (fingerprints : List String)
  | conclusive (drafts : List OpportunityDraft)
deriving DecidableEq, Repr

/-- The status as it is stored. -/
def statusText : CoverageStatus → String
  | .full => "FULL"
  | .partially => "PARTIAL"
  | .uncovered => "UNCOVERED"
  | .unknown => "UNKNOWN"

/-- A nullable text in a dictionary. -/
def optionalText : Option String → MetaValue
  | some value => .text value
  | none => .null

/-- `_coverage_severity`. -/
def coverageSeverity (uncoveredUnits percentage : ℚ) : String :=
  if 75 ≤ percentage ∨ 16 ≤ uncoveredUnits then "high"
  else if 25 ≤ percentage ∨ 4 ≤ uncoveredUnits then "medium"
  else "low"

/-- `_unused_severity`. -/
def unusedSeverity (unusedUnits utilizationPercentage : ℚ) : String :=
  if utilizationPercentage ≤ 25 ∨ 16 ≤ unusedUnits then "high"
  else if utilizationPercentage ≤ 60 ∨ 4 ≤ unusedUnits then "medium"
  else "low"

/-- `_days_until_expiration`: whole days, rounded away from zero. -/
def daysUntilExpiration (reservation : AwsRdsReservedInstance) (now : Instant) : ℤ :=
  let delta := reservation.expirationAt - now
  if delta < 0 then -((-delta + days 1 - 1) / days 1) else (delta + days 1 - 1) / days 1

namespace CoveragePass

variable (pass : CoveragePass)

/-- `_fresh`. -/
def fresh (collectedAt : Instant) : Bool :=
  pass.generatedAt - hours pass.settings.inventoryFreshnessHours ≤ collectedAt

/-- `run.completed_at or run.started_at`. -/
def calculatedAt : Instant := pass.run.completedAt.getD pass.run.startedAt

/-- `_expiration_band`. -/
def expirationBand (remaining : ℤ) : String :=
  if remaining ≤ pass.settings.expirationCriticalDays then "critical"
  else if remaining ≤ pass.settings.expirationHighDays then "high"
  else if remaining ≤ pass.settings.expirationWarningDays then "medium"
  else "healthy"

/-- `_expiration_severity`. -/
def expirationSeverity (remaining : ℤ) : String :=
  if remaining ≤ pass.settings.expirationHighDays then "high" else "medium"

/-- The coverage rows of the run with their instances, in the order of the query. -/
def coverageRows : List (RdsInstanceReservationCoverage × AwsRdsInstance) :=
  sortByKey (fun row => toLex (row.1.accountId, toLex (row.1.region, row.2.dbInstanceIdentifier)))
    ((pass.tables.coverage.filter (·.coverageRunId = pass.run.id)).filterMap fun coverage =>
      (pass.tables.instances.find? (·.id = coverage.rdsInstanceId)).map (coverage, ·))

/-- The utilisation rows of the run with their reservations, in the order of the
query. -/
def utilizationRows : List (RdsReservationUtilization × AwsRdsReservedInstance) :=
  sortByKey (fun row =>
      toLex (row.2.accountId, toLex (row.2.region, row.2.reservedDbInstanceId)))
    ((pass.tables.utilization.filter (·.coverageRunId = pass.run.id)).filterMap fun utilization =>
      (pass.tables.reservations.find? (·.id = utilization.reservationId)).map (utilization, ·))

/-- The allocations of the run with their reservations and instances. -/
def allocationRows : List (RdsReservationAllocation × AwsRdsReservedInstance × AwsRdsInstance) :=
  (sortByKey (·.id) (pass.tables.allocations.filter (·.coverageRunId = pass.run.id))).filterMap
    fun allocation => do
      let reservation ← pass.tables.reservations.find? (·.id = allocation.reservationId)
      let row ← pass.tables.instances.find? (·.id = allocation.rdsInstanceId)
      return (allocation, reservation, row)

/-- The allocations of an instance. -/
def allocationsOf (instanceId : ℤ) : List AllocationItem :=
  (pass.allocationRows.filter (·.2.2.id = instanceId)).map fun (allocation, reservation, _) =>
    { allocationId := allocation.id
      reservationId := reservation.reservedDbInstanceId
      reservationDbId := reservation.id
      allocatedUnits := allocation.allocatedUnits
      matchType := allocation.matchType
      allocationScope := allocation.allocationScope
      reason := allocation.reason }

/-- The workloads of a reservation. -/
def workloadsOf (reservationDbId : ℤ) : List WorkloadItem :=
  (pass.allocationRows.filter (·.2.1.id = reservationDbId)).map fun (allocation, _, row) =>
    { allocationId := allocation.id
      dbInstanceIdentifier := row.dbInstanceIdentifier
      dbInstanceArn := row.dbInstanceArn
      allocatedUnits := allocation.allocatedUnits
      matchType := allocation.matchType
      allocationScope := allocation.allocationScope }

/-- The name of an account. -/
def accountName (cloudAccountId : ℤ) : MetaValue :=
  optionalText (pass.accountNames.reverse.lookup cloudAccountId)

end CoveragePass

/-- What a conclusive coverage row is about. -/
structure CoverageConclusion where
  ruleKey : String
  title : String
  description : String
  recommendation : String
deriving DecidableEq, Repr

section Rows

variable [CaseMapping] [Digest] [GeneralFormat]

omit [GeneralFormat] in
/-- `_fingerprint`. -/
def rdsFingerprint (accountId region resourceId ruleKey : String) : Except ServiceError String :=
  buildOpportunityFingerprint
    { provider := "aws"
      accountId := accountId
      region := some region
      resourceId := resourceId
      ruleId := ruleKey
      scope := some fingerprintScope }

omit [GeneralFormat] in
/-- The fingerprint of a draft. -/
def OpportunityDraft.fingerprint (draft : OpportunityDraft) : Except ServiceError String :=
  rdsFingerprint draft.accountId draft.region draft.resourceId draft.ruleKey

omit [CaseMapping] [Digest] in
/-- The opportunity of an eligible instance with known coverage. -/
def coverageConclusion (coverage : RdsInstanceReservationCoverage) (row : AwsRdsInstance) :
    Option CoverageConclusion :=
  let required := coverage.requiredUnits
  let covered := coverage.coveredUnits
  let uncovered := coverage.uncoveredUnits
  if coverage.coverageStatus = .uncovered ∧ 0 < required ∧ covered ≤ 0 then
    some
      { ruleKey := rdsReservationUncovered
        title := "RDS sem cobertura de Reserved Instance"
        description := "O RDS " ++ row.dbInstanceIdentifier ++
          " não possui capacidade compatível de Reserved DB Instance atualmente alocada."
        recommendation := "Avaliar contratação de Reserved DB Instance compatível caso o " ++
          "workload possua utilização estável." }
  else if coverage.coverageStatus = .partially ∧ 0 < covered ∧ covered < required then
    some
      { ruleKey := rdsReservationPartialCoverage
        title := "RDS com cobertura parcial de Reserved Instance"
        description := "O RDS " ++ row.dbInstanceIdentifier ++ " possui " ++
          GeneralFormat.general coverage.coveragePercentage ++ "% de cobertura. " ++
          GeneralFormat.general uncovered ++ " de " ++ GeneralFormat.general required ++
          " normalized units permanecem descobertas."
        recommendation :=
          "Avaliar cobertura adicional para a capacidade atualmente descoberta." }
  else none

omit [CaseMapping] [Digest] [GeneralFormat] in
/-- `_coverage_metadata`, with the rule. -/
def coverageMetadata (pass : CoveragePass) (coverage : RdsInstanceReservationCoverage)
    (row : AwsRdsInstance) (allocations : List AllocationItem) (recommendation ruleKey : String) :
    Metadata :=
  [("category", .text "reservation"), ("finding_family", .text "rds_reservation"),
    ("coverage_run_id", .integer pass.run.id),
    ("inventory_timestamp", .instant row.collectedAt),
    ("coverage_calculated_at", .instant pass.calculatedAt),
    ("opportunity_generated_at", .instant pass.generatedAt),
    ("account_name", pass.accountName row.cloudAccountId),
    ("coverage_status", .text (statusText coverage.coverageStatus)),
    ("coverage_scope", .text coverage.coverageScope),
    ("calculation_method", .text coverage.calculationMethod),
    ("required_units", .number coverage.requiredUnits),
    ("covered_units", .number coverage.coveredUnits),
    ("uncovered_units", .number coverage.uncoveredUnits),
    ("coverage_percentage", .number coverage.coveragePercentage),
    ("engine", .text row.engineNormalized), ("engine_version", optionalText row.engineVersion),
    ("instance_class", .text row.dbInstanceClass),
    ("instance_family", optionalText row.instanceFamily),
    ("instance_size", optionalText row.instanceSize), ("multi_az", .boolean row.multiAz),
    ("deployment_topology", optionalText row.deploymentTopology),
    ("license_model", optionalText row.licenseModel),
    ("db_instance_identifier", .text row.dbInstanceIdentifier),
    ("db_instance_arn", .text row.dbInstanceArn),
    ("allocation_ids", .integers (allocations.map (·.allocationId))),
    ("reservation_ids", .texts (allocations.map (·.reservationId))),
    ("allocations", .allocations allocations),
    ("technical_explanation", .document coverage.explanation),
    ("recommended_action", .text recommendation), ("savings_status", .text "not_calculated"),
    ("recommendation_scope", .text "analysis_only"), ("opportunity_type", .text ruleKey)]

omit [CaseMapping] [Digest] [GeneralFormat] in
/-- The draft of a conclusive coverage row. -/
def coverageDraft (pass : CoveragePass) (coverage : RdsInstanceReservationCoverage)
    (row : AwsRdsInstance) (conclusion : CoverageConclusion) : OpportunityDraft :=
  let allocations := pass.allocationsOf row.id
  { accountId := row.accountId
    region := row.region
    resourceId := row.dbInstanceIdentifier
    resourceType := "aws_rds_db_instance"
    ruleKey := conclusion.ruleKey
    title := conclusion.title
    description := conclusion.description
    severity := coverageSeverity coverage.uncoveredUnits (100 - coverage.coveragePercentage)
    providerMetadata := coverageMetadata pass coverage row allocations conclusion.recommendation
      conclusion.ruleKey
    evidence :=
      [("coverage_run_id", .integer pass.run.id), ("rds_instance_id", .integer row.id),
        ("db_instance_identifier", .text row.dbInstanceIdentifier),
        ("required_units", .number coverage.requiredUnits),
        ("covered_units", .number coverage.coveredUnits),
        ("uncovered_units", .number coverage.uncoveredUnits),
        ("coverage_percentage", .number coverage.coveragePercentage),
        ("coverage_scope", .text coverage.coverageScope),
        ("allocation_ids", .integers (allocations.map (·.allocationId))),
        ("reservation_ids", .texts (allocations.map (·.reservationId))),
        ("calculated_at", .instant pass.calculatedAt)] }

/-- The pass of the coverage loop over one row, before it writes. -/
def coverageVerdict (pass : CoveragePass)
    (row : RdsInstanceReservationCoverage × AwsRdsInstance) : Except ServiceError RowVerdict := do
  let (coverage, row) := row
  let fingerprints ←
    coverageRules.mapM (rdsFingerprint row.accountId row.region row.dbInstanceIdentifier)
  if !pass.fresh row.collectedAt then return .stale fingerprints
  else if coverage.coverageStatus = .unknown then return .unknown fingerprints
  else if !isReservationCoverageEligibleInstance row then return .conclusive []
  else
    let conclusion := coverageConclusion coverage row
    return .conclusive (conclusion.map (coverageDraft pass coverage row)).toList

omit [CaseMapping] [Digest] [GeneralFormat] in
/-- `_reservation_metadata`, with the rule. -/
def reservationMetadata (pass : CoveragePass) (utilization : RdsReservationUtilization)
    (reservation : AwsRdsReservedInstance) (workloads : List WorkloadItem) (remaining : ℤ)
    (recommendation ruleKey : String) : Metadata :=
  [("category", .text "reservation"), ("finding_family", .text "rds_reservation"),
    ("coverage_run_id", .integer pass.run.id),
    ("inventory_timestamp", .instant reservation.collectedAt),
    ("coverage_calculated_at", .instant pass.calculatedAt),
    ("opportunity_generated_at", .instant pass.generatedAt),
    ("account_name", pass.accountName reservation.cloudAccountId),
    ("reservation_id", .text reservation.reservedDbInstanceId),
    ("reservation_db_id", .integer reservation.id),
    ("engine", .text reservation.engineNormalized),
    ("instance_class", .text reservation.dbInstanceClass),
    ("instance_family", optionalText reservation.instanceFamily),
    ("instance_size", optionalText reservation.instanceSize),
    ("multi_az", .boolean reservation.multiAz),
    ("db_instance_count", .integer reservation.instanceCount),
    ("offering_type", optionalText reservation.offeringType),
    ("offering_class", optionalText reservation.offeringClass),
    ("state", .text reservation.state), ("start_time", .instant reservation.startTime),
    ("expiration_at", .instant reservation.expirationAt),
    ("days_until_expiration", .integer remaining),
    ("reserved_units", .number utilization.totalUnits),
    ("allocated_units", .number utilization.allocatedUnits),
    ("unused_units", .number utilization.unusedUnits),
    ("utilization_percentage", .number utilization.utilizationPercentage),
    ("associated_workloads", .workloads workloads), ("recommended_action", .text recommendation),
    ("savings_status", .text "not_calculated"), ("recommendation_scope", .text "analysis_only"),
    ("opportunity_type", .text ruleKey)]

omit [CaseMapping] [Digest] [GeneralFormat] in
/-- The draft of a reservation under a rule. -/
def reservationDraft (pass : CoveragePass) (reservation : AwsRdsReservedInstance)
    (ruleKey title description severity : String) (providerMetadata evidence : Metadata) :
    OpportunityDraft where
  accountId := reservation.accountId
  region := reservation.region
  resourceId := reservation.reservedDbInstanceId
  resourceType := "aws_rds_reserved_db_instance"
  ruleKey := ruleKey
  title := title
  description := description
  severity := severity
  providerMetadata := providerMetadata
  evidence :=
    [("coverage_run_id", .integer pass.run.id), ("reservation_db_id", .integer reservation.id),
      ("reservation_id", .text reservation.reservedDbInstanceId)] ++ evidence ++
      [("calculated_at", .instant pass.calculatedAt)]

omit [CaseMapping] [Digest] [GeneralFormat] in
/-- The quantities in the evidence of a reservation. -/
def utilizationEvidence (utilization : RdsReservationUtilization)
    (workloads : List WorkloadItem) : Metadata :=
  [("reserved_units", .number utilization.totalUnits),
    ("allocated_units", .number utilization.allocatedUnits),
    ("unused_units", .number utilization.unusedUnits),
    ("utilization_percentage", .number utilization.utilizationPercentage),
    ("allocation_ids", .integers (workloads.map (·.allocationId)))]

omit [CaseMapping] [Digest] in
/-- The draft of unused capacity. -/
def unusedDraft (pass : CoveragePass) (utilization : RdsReservationUtilization)
    (reservation : AwsRdsReservedInstance) : OpportunityDraft :=
  let workloads := pass.workloadsOf reservation.id
  reservationDraft pass reservation rdsReservationUnusedCapacity
    "Capacidade de RDS Reserved Instance não utilizada"
    ("A reserva " ++ reservation.reservedDbInstanceId ++ " possui " ++
      GeneralFormat.general utilization.totalUnits ++ " normalized units, " ++
      GeneralFormat.general utilization.allocatedUnits ++ " utilizadas e " ++
      GeneralFormat.general utilization.unusedUnits ++ " disponíveis.")
    (unusedSeverity utilization.unusedUnits utilization.utilizationPercentage)
    (reservationMetadata pass utilization reservation workloads
      (daysUntilExpiration reservation pass.generatedAt)
      ("Revisar a capacidade reservada em relação ao inventário atual antes " ++
        "de novas aquisições ou renovações.")
      rdsReservationUnusedCapacity)
    (utilizationEvidence utilization workloads)

omit [CaseMapping] [Digest] in
/-- The draft of a reservation that expires soon. -/
def expiringDraft (pass : CoveragePass) (utilization : RdsReservationUtilization)
    (reservation : AwsRdsReservedInstance) : OpportunityDraft :=
  let workloads := pass.workloadsOf reservation.id
  let remaining := daysUntilExpiration reservation pass.generatedAt
  let recommendation :=
    if pass.settings.unusedUnitsTolerance < utilization.allocatedUnits then
      "Avaliar renovação ou substituição da reserva antes do vencimento."
    else "Revisar a necessidade da reserva antes de renovar."
  reservationDraft pass reservation rdsReservationExpiring
    "RDS Reserved Instance próxima do vencimento"
    ("A reserva " ++ reservation.reservedDbInstanceId ++ " expira em " ++ toString remaining ++
      " " ++ (if remaining = 1 then "dia" else "dias") ++ " e atualmente possui " ++
      GeneralFormat.general utilization.utilizationPercentage ++ "% de utilização.")
    (pass.expirationSeverity remaining)
    (reservationMetadata pass utilization reservation workloads remaining recommendation
      rdsReservationExpiring ++ [("expiration_band", .text (pass.expirationBand remaining))])
    ([("expiration_at", .instant reservation.expirationAt),
      ("days_until_expiration", .integer remaining)] ++ utilizationEvidence utilization workloads)

omit [Digest] [GeneralFormat] in
/-- `_active_for_expiration`. -/
def activeForExpiration (reservation : AwsRdsReservedInstance) (now : Instant) : Bool :=
  reservation.isActive && CaseMapping.lower (strip reservation.state) ∈ ["active"] &&
    decide (reservation.startTime ≤ now ∧ now ≤ reservation.expirationAt)

omit [Digest] [GeneralFormat] in
/-- Whether a reservation has capacity that nothing uses. -/
def hasUnusedCapacity (pass : CoveragePass) (utilization : RdsReservationUtilization)
    (reservation : AwsRdsReservedInstance) : Bool :=
  isActiveReservation reservation pass.generatedAt &&
    decide (pass.settings.unusedUnitsTolerance < utilization.unusedUnits)

omit [Digest] [GeneralFormat] in
/-- Whether a reservation expires within the warning period. -/
def expiresSoon (pass : CoveragePass) (reservation : AwsRdsReservedInstance) : Bool :=
  activeForExpiration reservation pass.generatedAt &&
    decide (0 ≤ reservation.expirationAt - pass.generatedAt ∧
      reservation.expirationAt - pass.generatedAt ≤ days pass.settings.expirationWarningDays)

/-- The pass of the reservation loop over one row, before it writes. -/
def reservationVerdict (pass : CoveragePass)
    (row : RdsReservationUtilization × AwsRdsReservedInstance) :
    Except ServiceError RowVerdict := do
  let (utilization, reservation) := row
  let fingerprints ← reservationRules.mapM
    (rdsFingerprint reservation.accountId reservation.region reservation.reservedDbInstanceId)
  if !pass.fresh reservation.collectedAt then return .stale fingerprints
  else
    let unused := if hasUnusedCapacity pass utilization reservation then
      [unusedDraft pass utilization reservation] else []
    let expiring := if expiresSoon pass reservation then
      [expiringDraft pass utilization reservation] else []
    return .conclusive (unused ++ expiring)

end Rows

end FinopsAnalytics.RdsReservationVerdicts
