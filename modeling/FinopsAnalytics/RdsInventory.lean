import FinopsAnalytics.Clock
import FinopsAnalytics.PythonText

/-!
# Collected RDS instances and reservations

The rows are those of the inventory tables, with the columns that coverage and
opportunity generation read. Engine names are normalised through an alias table
after an optional licence suffix in parentheses is removed.
-/

namespace FinopsAnalytics.RdsInventory

open PythonText

/-- A row of `aws_rds_instances`. -/
structure AwsRdsInstance where
  id : ℤ
  cloudAccountId : ℤ
  accountId : String
  region : String
  dbInstanceIdentifier : String
  dbInstanceArn : String
  dbInstanceClass : String
  instanceFamily : Option String
  instanceSize : Option String
  engineNormalized : String
  engineVersion : Option String
  licenseModel : Option String
  status : String
  multiAz : Bool
  deploymentTopology : Option String
  clusterStorageType : Option String
  clusterIdentifier : Option String
  collectedAt : Instant
  isActive : Bool
deriving DecidableEq, Repr

/-- A row of `aws_rds_reserved_instances`. -/
structure AwsRdsReservedInstance where
  id : ℤ
  cloudAccountId : ℤ
  accountId : String
  region : String
  reservedDbInstanceId : String
  dbInstanceClass : String
  instanceFamily : Option String
  instanceSize : Option String
  productDescription : String
  engineNormalized : String
  instanceCount : ℤ
  multiAz : Bool
  offeringType : Option String
  offeringClass : Option String
  state : String
  startTime : Instant
  expirationAt : Instant
  collectedAt : Instant
  isActive : Bool
deriving DecidableEq, Repr

/-- `RDS_COVERAGE_ELIGIBLE_STATUSES`. -/
def coverageEligibleStatuses : List String :=
  ["available", "backing-up", "configuring-enhanced-monitoring",
    "configuring-iam-database-auth", "configuring-log-exports", "converting-to-vpc",
    "maintenance", "modifying", "moving-to-vpc", "rebooting", "renaming",
    "resetting-master-credentials", "starting", "stopped", "stopping", "storage-full",
    "storage-optimization", "upgrading"]

/-- `_ENGINE_ALIASES`. -/
def engineAliases : List (String × String) :=
  [("aurora", "aurora-mysql"), ("aurora mysql", "aurora-mysql"),
    ("aurora-mysql", "aurora-mysql"), ("aurora postgresql", "aurora-postgresql"),
    ("aurora-postgresql", "aurora-postgresql"), ("db2-ae", "db2-ae"), ("db2-se", "db2-se"),
    ("mariadb", "mariadb"), ("mysql", "mysql"), ("oracle-ee", "oracle-ee"),
    ("oracle-ee-cdb", "oracle-ee-cdb"), ("oracle-se", "oracle-se"),
    ("oracle-se1", "oracle-se1"), ("oracle-se2", "oracle-se2"),
    ("oracle-se2-cdb", "oracle-se2-cdb"), ("postgres", "postgres"),
    ("postgresql", "postgres"), ("sqlserver-ee", "sqlserver-ee"),
    ("sqlserver-ex", "sqlserver-ex"), ("sqlserver-se", "sqlserver-se"),
    ("sqlserver-web", "sqlserver-web")]

/-- `_LICENSE_SUFFIXES`. -/
def licenseSuffixes : List String :=
  ["bring your own license", "bring-your-own-license", "byol", "li", "license included",
    "license-included"]

variable [CaseMapping]

/-- The text before a licence suffix in parentheses, or the text itself. -/
def dropLicenseSuffix (raw : String) : String :=
  if endsWith raw ")" && contains raw "(" then
    let (base, suffix) := rsplitLast '(' raw
    if strip (dropLast suffix) ∈ licenseSuffixes then strip base else raw
  else raw

def normalizeRdsEngine (value : String) : String :=
  let raw := collapse (CaseMapping.lower (strip value))
  if raw = "" then ""
  else
    let product := dropLicenseSuffix raw
    (engineAliases.lookup product).getD product

def isRdsCoverageEligible (status : String) : Bool :=
  CaseMapping.lower (strip status) ∈ coverageEligibleStatuses

/-- A running MySQL instance of a large class. -/
def sampleInstance (id : ℤ) (identifier : String) : AwsRdsInstance :=
  { id := id
    cloudAccountId := 1
    accountId := "111"
    region := "eu-west-1"
    dbInstanceIdentifier := identifier
    dbInstanceArn := "arn:" ++ identifier
    dbInstanceClass := "db.r5.large"
    instanceFamily := some "db.r5"
    instanceSize := some "large"
    engineNormalized := "mysql"
    engineVersion := none
    licenseModel := none
    status := "available"
    multiAz := false
    deploymentTopology := none
    clusterStorageType := none
    clusterIdentifier := none
    collectedAt := 0
    isActive := true }

/-- A reservation of one large MySQL instance, active from 0 to 10. -/
def sampleReservation (id : ℤ) (identifier : String) : AwsRdsReservedInstance :=
  { id := id
    cloudAccountId := 1
    accountId := "111"
    region := "eu-west-1"
    reservedDbInstanceId := identifier
    dbInstanceClass := "db.r5.large"
    instanceFamily := some "db.r5"
    instanceSize := some "large"
    productDescription := "mysql"
    engineNormalized := "mysql"
    instanceCount := 1
    multiAz := false
    offeringType := none
    offeringClass := none
    state := "active"
    startTime := 0
    expirationAt := 10
    collectedAt := 0
    isActive := true }

end FinopsAnalytics.RdsInventory
