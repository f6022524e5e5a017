import FinopsAnalytics.BillingProfiles
import FinopsAnalytics.ExpiringCaches
import Mathlib.Data.List.Sort

/-!
# AWS billing queries

The rows of an account are read from the cache under a key made of the request and of
the account's two identifiers. Where there are none they are asked for in the Cost
Explorer, with the session and the filter that the account's row gives, and set.
Accounts are updated and profiles are changed between the queries.
-/

namespace FinopsAnalytics.AwsBilling

open PythonText CivilCalendar OciPricing Fallible ExpiringCaches CostExplorer BillingProfiles

/-- The columns of `AwsAccount` that are not schedules or mirrors. -/
structure AwsConfiguration where
  roleArn : String
  externalId : String
  regions : Option (List String)
  isManagementAccount : Bool
deriving DecidableEq, Repr

/-- An account, whose native identifier was validated as it was created. -/
structure CloudAccount where
  id : ℤ
  provider : String
  nativeAccountId : String
  name : String
  enabled : Bool
  awsConfiguration : Option AwsConfiguration
  named : nativeAccountId ≠ ""
deriving DecidableEq, Repr

/-- The fields that are set, each with a value or null. -/
structure AwsAccountConfigurationUpdate where
  roleArn : Option (Option String) := none
  externalId : Option (Option String) := none
  regions : Option (Option (List String)) := none
  isManagementAccount : Option (Option Bool) := none
deriving DecidableEq, Repr

structure CloudAccountUpdate where
  name : Option (Option String) := none
  enabled : Option (Option Bool) := none
  configuration : Option AwsAccountConfigurationUpdate := none
deriving DecidableEq, Repr

/-- A column that is not null takes a value only. -/
def requiredColumn {α : Type} (old : α) : Option (Option α) → Option α
  | none => some old
  | some changed => changed

/-- `_update_aws_configuration`, none where it raises or the columns refuse a null. -/
def updateAwsConfiguration (nativeAccountId : String) (configuration : AwsConfiguration)
    (changes : AwsAccountConfigurationUpdate) : Option AwsConfiguration := do
  let roleArn ← requiredColumn configuration.roleArn changes.roleArn
  if changes.roleArn.isSome ∧ (roleArn.splitOn ":")[4]? ≠ some nativeAccountId then
    none
  let externalId ← requiredColumn configuration.externalId changes.externalId
  let isManagementAccount ←
    requiredColumn configuration.isManagementAccount changes.isManagementAccount
  return {
    roleArn
    externalId
    regions := changes.regions.getD configuration.regions
    isManagementAccount }

/-- `update_cloud_account` for an account of AWS. -/
def updateCloudAccount (account : CloudAccount) (payload : CloudAccountUpdate) :
    Option CloudAccount := do
  let name ← requiredColumn account.name payload.name
  let enabled ← requiredColumn account.enabled payload.enabled
  match payload.configuration with
  | none => return { account with name, enabled }
  | some changes =>
    let configuration ← account.awsConfiguration
    let changed ← updateAwsConfiguration account.nativeAccountId configuration changes
    return { account with name, enabled, awsConfiguration := some changed }

/-- The accounts after an update, which is rolled back where it raises. -/
def updateAccounts (accounts : List CloudAccount) (accountId : ℤ) (payload : CloudAccountUpdate) :
    List CloudAccount :=
  accounts.map fun account =>
    if account.id = accountId ∧ account.provider = "aws" then
      (updateCloudAccount account payload).getD account
    else account

/-- `_AccountContext` -/
structure AccountContext where
  deepopsAccountId : ℤ
  awsAccountId : String
  displayName : String
  isManagementAccount : Bool
  configuration : AwsConfiguration
deriving DecidableEq, Repr

def AccountContext.billingScope (account : AccountContext) : String :=
  "aws-account:" ++ account.awsAccountId

def AccountContext.rowAccount (account : AccountContext) : RowAccount :=
  ⟨account.deepopsAccountId, account.awsAccountId, account.displayName⟩

/-- The context of one requested account. -/
def resolveAccount (accounts : List CloudAccount) (accountId : ℤ) :
    Except BillingFailure AccountContext :=
  match accounts.find? fun account => account.id = accountId with
  | none => .error (.service "ACCOUNT_NOT_FOUND"
      ("Conta Aven " ++ toString accountId ++ " não foi encontrada ou não está autorizada."))
  | some account =>
    match account.awsConfiguration with
    | none => .error (.service "ACCOUNT_NOT_AWS"
        ("Conta Aven " ++ toString accountId ++ " não possui configuração AWS."))
    | some configuration =>
      if account.provider ≠ "aws" then
        .error (.service "ACCOUNT_NOT_AWS"
          ("Conta Aven " ++ toString accountId ++ " não possui configuração AWS."))
      else
        .ok ⟨account.id, account.nativeAccountId, account.name,
          configuration.isManagementAccount, configuration⟩

/-- `_resolve_accounts` -/
def resolveAccounts (accounts : List CloudAccount) (accountIds : List ℤ) :
    Except BillingFailure (List AccountContext) :=
  accountIds.mapM (resolveAccount accounts)

/-- The settings that the service reads. -/
structure BillingSettings where
  awsDefaultRegion : String
  cacheTtlCurrentSeconds : ℕ
  cacheTtlHistoricalSeconds : ℕ
deriving DecidableEq, Repr

/-- `_validate_period` -/
def validatePeriod (today : Date) (request : AwsBillingRequest) : Except BillingFailure Unit :=
  if today < request.startDate then
    .error (.service "INVALID_PERIOD"
      "Billing histórico não permite um período inteiramente futuro.")
  else if today + 1 < request.endDate then
    .error (.service "INVALID_PERIOD"
      "end_date pode avançar no máximo até amanhã para incluir o bucket de hoje.")
  else .ok ()

/-- `_cache_ttl` -/
def cacheTtl (settings : BillingSettings) (today : Date) (request : AwsBillingRequest) : ℕ :=
  let (year, month, _) := civil today
  if request.endDate ≤ dayNumber year month 1 then settings.cacheTtlHistoricalSeconds
  else settings.cacheTtlCurrentSeconds

/-- `tuple(sorted(request.exclude_record_types))` -/
def sortedRecordTypes (request : AwsBillingRequest) : List String :=
  (request.excludeRecordTypes.map RecordType.value).insertionSort (· ≤ ·)

structure CacheKey where
  schemaVersion : ℕ
  billingScope : String
  deepopsAccountId : ℤ
  startDate : String
  endDate : String
  granularity : String
  metric : String
  groupBy : String
  excludeRecordTypes : List String
deriving DecidableEq, Repr

/-- `_cache_key` -/
def cacheKey (account : AccountContext) (request : AwsBillingRequest) (groupBy : BillingGroupBy) :
    CacheKey where
  schemaVersion := 2
  billingScope := account.billingScope
  deepopsAccountId := account.deepopsAccountId
  startDate := isoformat request.startDate
  endDate := isoformat request.endDate
  granularity := request.granularity.value
  metric := request.metric.value
  groupBy := groupBy.value
  excludeRecordTypes := sortedRecordTypes request

/-- The request of `assume_account_session`. -/
def sessionRequest (settings : BillingSettings) (account : AccountContext) : SessionRequest where
  roleArn := account.configuration.roleArn
  externalId :=
    if account.configuration.externalId = "" then none else some account.configuration.externalId
  region := ((account.configuration.regions.getD []).head?).getD settings.awsDefaultRegion
  cloudAccountId := account.deepopsAccountId
  awsAccountId := account.awsAccountId

/-- The linked account to which a query is restricted. -/
def linkedAccountId (account : AccountContext) : Option String :=
  if account.isManagementAccount then some account.awsAccountId else none

/-- The query for the rows of an account. -/
def accountQuery (account : AccountContext) (request : AwsBillingRequest)
    (groupBy : BillingGroupBy) : CostQuery :=
  buildCostAndUsageQuery (isoformat request.startDate) (isoformat request.endDate)
    request.granularity request.metric groupBy (sortedRecordTypes request)
    (linkedAccountId account)

/-- The readings of the monotonic clock for an account: as its rows are looked for and
as they are set. -/
structure Reading where
  asked : ℚ
  answered : ℚ

/-- What is logged of a query for the rows of an account. -/
structure QueryLine where
  account : AccountContext
  key : CacheKey
  cacheHit : Bool
deriving DecidableEq, Repr

abbrev BillingQueryCache := Cache CacheKey (List BillingRow)

/-- The state of the process: its cache and its log, the last line first. -/
structure BillingProcess where
  cache : BillingQueryCache
  log : List QueryLine

section Service

variable [DateText] [DecimalText] (upstream : Upstream) (settings : BillingSettings) (limit : ℕ)

/-- The rows that the query of an account returns. -/
def queriedRows (account : AccountContext) (request : AwsBillingRequest)
    (groupBy : BillingGroupBy) : Except BillingFailure (List BillingRow) :=
  let session := sessionRequest settings account
  if upstream.opens session then
    match getCostAndUsage (upstream.respond session (accountQuery account request groupBy))
        limit none [] [] with
    | .error failure => .error failure
    | .ok pages => normalizePages request.metric groupBy account.rowAccount pages
  else .error uninitializedQuery

/-- `_fetch_account_rows` -/
def fetchAccountRows (request : AwsBillingRequest) (groupBy : BillingGroupBy) (ttlSeconds : ℕ)
    (reading : ℤ → Reading) (account : AccountContext) (process : BillingProcess) :
    Except BillingFailure (List BillingRow) × BillingProcess :=
  let key := cacheKey account request groupBy
  match process.cache.get key (reading account.deepopsAccountId).asked with
  | (some cached, cache) => (.ok cached, ⟨cache, ⟨account, key, true⟩ :: process.log⟩)
  | (none, cache) =>
    match queriedRows upstream settings limit account request groupBy with
    | .error failure => (.error failure, ⟨cache, process.log⟩)
    | .ok rows =>
      (.ok rows,
        ⟨cache.set key rows ((reading account.deepopsAccountId).answered + ttlSeconds),
          ⟨account, key, false⟩ :: process.log⟩)

/-- The loop of `_rows` over the accounts. -/
def fetchInTurn (request : AwsBillingRequest) (groupBy : BillingGroupBy) (ttlSeconds : ℕ)
    (reading : ℤ → Reading) :
    List AccountContext → BillingProcess → Except BillingFailure (List BillingRow) × BillingProcess
  | [], process => (.ok [], process)
  | account :: rest, process =>
    match fetchAccountRows upstream settings limit request groupBy ttlSeconds reading account
        process with
    | (.error failure, process) => (.error failure, process)
    | (.ok rows, process) =>
      match fetchInTurn request groupBy ttlSeconds reading rest process with
      | (.error failure, process) => (.error failure, process)
      | (.ok others, process) => (.ok (rows ++ others), process)

/-- When a query is made. -/
structure Moment where
  today : Date
  reading : ℤ → Reading

/-- `_rows` -/
def rows (accounts : List CloudAccount) (moment : Moment) (request : AwsBillingRequest)
    (groupBy : BillingGroupBy) (process : BillingProcess) :
    Except BillingFailure (List BillingRow) × BillingProcess :=
  match validatePeriod moment.today request with
  | .error failure => (.error failure, process)
  | .ok _ =>
    match resolveAccounts accounts request.accountIds with
    | .error failure => (.error failure, process)
    | .ok contexts =>
      fetchInTurn upstream settings limit request groupBy
        (cacheTtl settings moment.today request) moment.reading contexts process

/-- The rows that the queries built from the present contexts return. -/
def presentRows (accounts : List CloudAccount) (moment : Moment) (request : AwsBillingRequest)
    (groupBy : BillingGroupBy) : Except BillingFailure (List BillingRow) := do
  validatePeriod moment.today request
  let contexts ← resolveAccounts accounts request.accountIds
  let rows ← contexts.mapM fun account =>
    queriedRows upstream settings limit account request groupBy
  return rows.flatten

end Service

/-- The three operations of the service. -/
inductive BillingOperation where
  | summary
  | timeseries
  | breakdown
deriving DecidableEq, Repr

/-- The grouping with which an operation asks for rows. -/
def operationGroupBy (request : AwsBillingRequest) :
    BillingOperation → Except BillingFailure BillingGroupBy
  | .summary => .ok .none
  | .timeseries => .ok request.groupBy
  | .breakdown =>
    if request.groupBy = .none then
      .error (.service "INVALID_GROUPING" "breakdown requer group_by SERVICE ou ACCOUNT.")
    else .ok request.groupBy

/-- A query of the interface. -/
structure BillingQuery where
  operation : BillingOperation
  payload : AwsBillingApiRequest
  moment : Moment

/-- The failure of a profile. -/
def profileFailure (error : BillingProfileError) : BillingFailure :=
  .service error.code error.message

/-- The resolved request of a query and its grouping. -/
def resolvedQuery (profiles : List BillingProfile) (query : BillingQuery) :
    Except BillingFailure (AwsBillingRequest × BillingGroupBy) := do
  let request ← (resolve profiles query.payload).mapError profileFailure
  let groupBy ← operationGroupBy request query.operation
  return (request, groupBy)

structure BillingSystem where
  accounts : List CloudAccount
  profiles : List BillingProfile
  process : BillingProcess

/-- A process that has just started. -/
def BillingSystem.started (accounts : List CloudAccount) (profiles : List BillingProfile) :
    BillingSystem :=
  ⟨accounts, profiles, ⟨.empty, []⟩⟩

inductive BillingEvent where
  | queries (query : BillingQuery)
  | changesProfile (change : ProfileChange)
  | updatesAccount (accountId : ℤ) (payload : CloudAccountUpdate)

section System

variable [CaseMapping] [DateText] [DecimalText]
variable (upstream : Upstream) (settings : BillingSettings) (limit : ℕ)

/-- The rows from which a query is answered, and the process after it. -/
def answer (system : BillingSystem) (query : BillingQuery) :
    Except BillingFailure (List BillingRow) × BillingProcess :=
  match resolvedQuery system.profiles query with
  | .error failure => (.error failure, system.process)
  | .ok (request, groupBy) =>
    rows upstream settings limit system.accounts query.moment request groupBy system.process

/-- The rows that the queries built at present return. -/
def presentAnswer (system : BillingSystem) (query : BillingQuery) :
    Except BillingFailure (List BillingRow) := do
  let (request, groupBy) ← resolvedQuery system.profiles query
  presentRows upstream settings limit system.accounts query.moment request groupBy

/-- The system after an event. -/
def step (system : BillingSystem) : BillingEvent → BillingSystem
  | .queries query => { system with process := (answer upstream settings limit system query).2 }
  | .changesProfile change => { system with profiles := change.apply system.profiles }
  | .updatesAccount accountId payload =>
    { system with accounts := updateAccounts system.accounts accountId payload }

/-- The queries of a run, each with the system in which it is answered. -/
def queried (system : BillingSystem) : List BillingEvent → List (BillingSystem × BillingQuery)
  | [] => []
  | event :: rest =>
    match event with
    | .queries query => (system, query) :: queried (step upstream settings limit system event) rest
    | _ => queried (step upstream settings limit system event) rest

end System

end FinopsAnalytics.AwsBilling
