import FinopsAnalytics.OpportunityRecords
import FinopsAnalytics.RdsInventory
import FinopsAnalytics.Reconciliations
import FinopsAnalytics.UniqueTables

/-!
# Reconciliation of the RDS inventory

What a region answers is reconciled with its rows: a listed instance or reservation is
updated or added, and the rows that are not listed any more become inactive. The rows
are matched once, before the first item, so a new identity that is listed twice is added
twice and refused by the table.
-/

namespace FinopsAnalytics.RdsReconciliation

open PythonText OpportunityRecords UniqueTables RdsInventory Reconciliations

section Values

/-- A row of `aws_rds_instances` with the columns that only the inventory reads. -/
structure StoredRdsInstance extends AwsRdsInstance where
  classPrefix : Option String
  engine : String
  coverageEligible : Bool
  availabilityZone : Option String
  secondaryAvailabilityZone : Option String
  storageType : Option String
  allocatedStorage : Option ℤ
  iops : Option ℤ
  storageThroughput : Option ℤ
  publiclyAccessible : Option Bool
  vpcId : Option String
  tags : List (String × String)
  processorFeatures : List Metadata
  optionGroupMemberships : List Metadata
  parameterGroups : List Metadata
  awsCreatedAt : Option Instant
  lastSeenAt : Instant
deriving DecidableEq, Repr

/-- A row of `aws_rds_reserved_instances`. -/
structure StoredRdsReservation extends AwsRdsReservedInstance where
  offeringId : Option String
  classPrefix : Option String
  currencyCode : Option String
  fixedPrice : Option String
  usagePrice : Option String
  recurringCharges : List Metadata
  leaseId : Option String
  durationSeconds : ℤ
  lastSeenAt : Instant
deriving DecidableEq, Repr

/-- An item of `describe_db_instances` with its collected tags. -/
structure DbInstanceItem where
  dbInstanceArn : Option String
  dbInstanceIdentifier : Option String
  dbInstanceClass : Option String
  engine : Option String
  engineVersion : Option String
  licenseModel : Option String
  dbInstanceStatus : Option String
  multiAz : Option Bool
  availabilityZone : Option String
  secondaryAvailabilityZone : Option String
  storageType : Option String
  allocatedStorage : Option ℤ
  iops : Option ℤ
  storageThroughput : Option ℤ
  publiclyAccessible : Option Bool
  dbClusterIdentifier : Option String
  vpcId : Option String
  deepOpsTags : Option (List (String × String))
  processorFeatures : Option (List Metadata)
  optionGroupMemberships : Option (List Metadata)
  dbParameterGroups : Option (List Metadata)
  instanceCreateTime : Option Instant
deriving DecidableEq, Repr

/-- An item of `describe_reserved_db_instances`. -/
structure ReservedDbInstanceItem where
  reservedDbInstanceId : Option String
  reservedDbInstancesOfferingId : Option String
  dbInstanceClass : Option String
  productDescription : Option String
  startTime : Option Instant
  duration : Option ℤ
  dbInstanceCount : Option ℤ
  multiAz : Option Bool
  offeringType : Option String
  offeringClass : Option String
  currencyCode : Option String
  fixedPrice : Option ℚ
  usagePrice : Option ℚ
  recurringCharges : Option (List Metadata)
  state : Option String
  leaseId : Option String
deriving DecidableEq, Repr

/-- The text of a price, as the language prints it. -/
class MonetaryText where
  monetaryText : ℚ → String

/-- The account and region of a listing. -/
structure RdsScope where
  cloudAccountId : ℤ
  accountId : String
  region : String
deriving DecidableEq, Repr

structure DbInstanceClassParts where
  classPrefix : Option String
  family : Option String
  size : Option String
  fullClass : String
deriving DecidableEq, Repr

/-- `text.split(mark, 1)` where the mark occurs. -/
def splitFirst (mark : Char) (text : String) : Option (String × String) :=
  let chars := text.toList
  if mark ∈ chars then
    some (String.ofList (chars.takeWhile (· ≠ mark)),
      String.ofList ((chars.dropWhile (· ≠ mark)).drop 1))
  else none

/-- `part or None` -/
def orNone (part : String) : Option String := if part = "" then none else some part

/-- The value is of the form `prefix.family.size`, or has no parts. -/
def parseDbInstanceClass (value : String) : DbInstanceClassParts :=
  let fullClass := strip value
  match splitFirst '.' fullClass with
  | none => ⟨none, none, none, fullClass⟩
  | some (first, rest) =>
    match splitFirst '.' rest with
    | none => ⟨none, none, none, fullClass⟩
    | some (second, third) => ⟨orNone first, orNone second, orNone third, fullClass⟩

/-- `reservation_expiration` -/
def reservationExpiration (startTime : Instant) (durationSeconds : ℤ) : Instant :=
  startTime + durationSeconds * 1000000

variable [CaseMapping]

/-- `_instance_values`, as the new row that they make before it has a number. The topology
and the cluster's storage come from another collection. -/
def instanceValues (scope : RdsScope) (item : DbInstanceItem) (observedAt : Instant) :
    StoredRdsInstance :=
  let instanceClass := orEmpty item.dbInstanceClass
  let parts := parseDbInstanceClass instanceClass
  let status := orEmpty item.dbInstanceStatus
  { id := 0
    cloudAccountId := scope.cloudAccountId
    accountId := scope.accountId
    region := scope.region
    dbInstanceIdentifier := orEmpty item.dbInstanceIdentifier
    dbInstanceArn := orEmpty item.dbInstanceArn
    dbInstanceClass := instanceClass
    classPrefix := parts.classPrefix
    instanceFamily := parts.family
    instanceSize := parts.size
    engine := orEmpty item.engine
    engineNormalized := normalizeRdsEngine (orEmpty item.engine)
    engineVersion := item.engineVersion
    licenseModel := item.licenseModel
    status := status
    coverageEligible := isRdsCoverageEligible status
    multiAz := item.multiAz.getD false
    deploymentTopology := none
    clusterStorageType := none
    availabilityZone := item.availabilityZone
    secondaryAvailabilityZone := item.secondaryAvailabilityZone
    storageType := item.storageType
    allocatedStorage := item.allocatedStorage
    iops := item.iops
    storageThroughput := item.storageThroughput
    publiclyAccessible := item.publiclyAccessible
    clusterIdentifier := item.dbClusterIdentifier
    vpcId := item.vpcId
    tags := item.deepOpsTags.getD []
    processorFeatures := item.processorFeatures.getD []
    optionGroupMemberships := item.optionGroupMemberships.getD []
    parameterGroups := item.dbParameterGroups.getD []
    awsCreatedAt := item.instanceCreateTime
    collectedAt := observedAt
    lastSeenAt := observedAt
    isActive := true }

/-- `_reservation_values`, as the new row that they make. None is the refusal of an item
without a start time. -/
def reservationValues [MonetaryText] (scope : RdsScope) (item : ReservedDbInstanceItem)
    (observedAt : Instant) : Option StoredRdsReservation :=
  let instanceClass := orEmpty item.dbInstanceClass
  let parts := parseDbInstanceClass instanceClass
  let productDescription := orEmpty item.productDescription
  let durationSeconds := item.duration.getD 0
  item.startTime.map fun startTime =>
    { id := 0
      cloudAccountId := scope.cloudAccountId
      accountId := scope.accountId
      region := scope.region
      reservedDbInstanceId := orEmpty item.reservedDbInstanceId
      offeringId := item.reservedDbInstancesOfferingId
      dbInstanceClass := instanceClass
      classPrefix := parts.classPrefix
      instanceFamily := parts.family
      instanceSize := parts.size
      productDescription := productDescription
      engineNormalized := normalizeRdsEngine productDescription
      instanceCount := item.dbInstanceCount.getD 0
      multiAz := item.multiAz.getD false
      offeringType := item.offeringType
      offeringClass := item.offeringClass
      currencyCode := item.currencyCode
      fixedPrice := item.fixedPrice.map MonetaryText.monetaryText
      usagePrice := item.usagePrice.map MonetaryText.monetaryText
      recurringCharges := item.recurringCharges.getD []
      state := orEmpty item.state
      leaseId := item.leaseId
      startTime := startTime
      durationSeconds := durationSeconds
      expirationAt := reservationExpiration startTime durationSeconds
      collectedAt := observedAt
      lastSeenAt := observedAt
      isActive := true }

end Values

section Reconcilers

/-- A flush that two rows with one unique key refuse. -/
inductive FlushError where
  | integrityError
deriving DecidableEq, Repr

/-- The counts of a reconciliation. Those of instances have no skipped items. -/
structure ReconciliationCounts where
  found : ℕ
  created : ℕ
  updated : ℕ
  markedInactive : ℕ
  skipped : Option ℕ
deriving DecidableEq, Repr

/-- The unique constraint of the instances. -/
def instanceKey (row : StoredRdsInstance) : ℤ × String × String :=
  (row.cloudAccountId, row.region, row.dbInstanceArn)

/-- The unique constraint of the reservations. -/
def reservationKey (row : StoredRdsReservation) : ℤ × String × String :=
  (row.cloudAccountId, row.region, row.reservedDbInstanceId)

abbrev RdsInstances : Type := Table (fun row : StoredRdsInstance => row.id) instanceKey

abbrev RdsReservations : Type := Table (fun row : StoredRdsReservation => row.id) reservationKey

/-- The table of written rows, if its keys are distinct. -/
def flush {α κ υ : Type} [DecidableEq κ] [DecidableEq υ] (key : α → κ) (unique : α → υ)
    (rows : List α) : Except FlushError (Table key unique) :=
  if distinct : (rows.map key).Nodup ∧ (rows.map unique).Nodup then
    .ok ⟨rows, distinct.1, distinct.2⟩
  else .error .integrityError

/-- The ARN of an item that has one. -/
def arnOf (item : DbInstanceItem) : Option String := orNone (orEmpty item.dbInstanceArn)

/-- The identifier of an item that has one. -/
def reservationIdOf (item : ReservedDbInstanceItem) : Option String :=
  orNone (orEmpty item.reservedDbInstanceId)

variable [CaseMapping]

/-- The rules of `reconcile_db_instances`. Every item with an ARN has values. -/
def instanceRules (scope : RdsScope) (observedAt : Instant) :
    Rules StoredRdsInstance String DbInstanceItem StoredRdsInstance where
  inScope row := row.cloudAccountId = scope.cloudAccountId ∧ row.region = scope.region
  key row := row.dbInstanceArn
  active row := row.isActive
  itemKey := arnOf
  values item := some (instanceValues scope item observedAt)
  assign values row :=
    { values with
      id := row.id
      deploymentTopology := row.deploymentTopology
      clusterStorageType := row.clusterStorageType }
  touch row := row
  retire row := { row with isActive := false, collectedAt := observedAt }
  create number values := { values with id := number }

/-- The rules of `reconcile_reserved_db_instances`. An item that is refused keeps the row
that it names. -/
def reservationRules [MonetaryText] (scope : RdsScope) (observedAt : Instant) :
    Rules StoredRdsReservation String ReservedDbInstanceItem StoredRdsReservation where
  inScope row := row.cloudAccountId = scope.cloudAccountId ∧ row.region = scope.region
  key row := row.reservedDbInstanceId
  active row := row.isActive
  itemKey := reservationIdOf
  values item := reservationValues scope item observedAt
  assign values row := { values with id := row.id }
  touch row := { row with lastSeenAt := observedAt, collectedAt := observedAt, isActive := true }
  retire row := { row with isActive := false, collectedAt := observedAt }
  create number values := { values with id := number }

/-- The counts of a pass. -/
def countsOf {ρ ι ν : Type} (rules : Rules ρ String ι ν) (rows : List ρ) (items : List ι) :
    ReconciliationCounts :=
  let session := rules.pass rows items
  { found := session.seen.eraseDups.length
    created := session.added.length
    updated := session.updated
    markedInactive := session.rows.countP (rules.isAbsent session.seen)
    skipped := some session.skipped }

/-- `reconcile_db_instances`, with the flush of its commit. -/
def reconcileDbInstances (table : RdsInstances) (scope : RdsScope) (items : List DbInstanceItem)
    (observedAt : Instant) : Except FlushError (RdsInstances × ReconciliationCounts) := do
  let rules := instanceRules scope observedAt
  let after ← flush _ _ (rules.reconciled table.rows table.nextNumber items)
  return (after, { countsOf rules table.rows items with skipped := none })

/-- `reconcile_reserved_db_instances`, with the flush of its commit. -/
def reconcileReservedDbInstances [MonetaryText] (table : RdsReservations) (scope : RdsScope)
    (items : List ReservedDbInstanceItem) (observedAt : Instant) :
    Except FlushError (RdsReservations × ReconciliationCounts) := do
  let rules := reservationRules scope observedAt
  let after ← flush _ _ (rules.reconciled table.rows table.nextNumber items)
  return (after, countsOf rules table.rows items)

end Reconcilers

section Laws

variable [CaseMapping]

omit [CaseMapping] in
theorem arnOf_eq_some {item : DbInstanceItem} {arn : String} (named : arnOf item = some arn) :
    orEmpty item.dbInstanceArn = arn := by
  unfold arnOf orNone at named
  split at named
  · cases named
  · exact Option.some.inj named

omit [CaseMapping] in
theorem reservationIdOf_eq_some {item : ReservedDbInstanceItem} {id : String}
    (named : reservationIdOf item = some id) : orEmpty item.reservedDbInstanceId = id := by
  unfold reservationIdOf orNone at named
  split at named
  · cases named
  · exact Option.some.inj named

theorem instance_isAt {scope : RdsScope} {observedAt : Instant} (arn : String)
    (row : StoredRdsInstance) : (instanceRules scope observedAt).isAt arn row = true ↔
      instanceKey row = (scope.cloudAccountId, scope.region, arn) := by
  simp [isAt_iff, instanceRules, instanceKey, and_assoc]

theorem reservation_isAt [MonetaryText] {scope : RdsScope} {observedAt : Instant} (id : String)
    (row : StoredRdsReservation) : (reservationRules scope observedAt).isAt id row = true ↔
      reservationKey row = (scope.cloudAccountId, scope.region, id) := by
  simp [isAt_iff, reservationRules, reservationKey, and_assoc]

theorem instanceRules_lawful (scope : RdsScope) (observedAt : Instant) :
    Lawful (instanceRules scope observedAt) where
  assign := by
    intro item values row key named given _
    obtain rfl := Option.some.inj given
    rw [instance_isAt]
    exact congrArg (fun arn => (scope.cloudAccountId, scope.region, arn)) (arnOf_eq_some named)
  touch isAt := isAt
  create := by
    intro item values key named given number
    obtain rfl := Option.some.inj given
    rw [instance_isAt]
    exact congrArg (fun arn => (scope.cloudAccountId, scope.region, arn)) (arnOf_eq_some named)
  retire isAt := isAt
  assign_assign _ _ _ := rfl
  assign_touch _ _ := rfl
  touch_assign _ _ _ := rfl
  touch_touch _ := rfl
  assign_create _ _ _ := rfl
  active_retire _ := rfl

/-- The values of an item are those of its scope, and seen at its time. -/
theorem reservationValues_eq_some [MonetaryText] {scope : RdsScope} {observedAt : Instant}
    {item : ReservedDbInstanceItem} {values : StoredRdsReservation}
    (given : reservationValues scope item observedAt = some values) :
    reservationKey values = (scope.cloudAccountId, scope.region, orEmpty item.reservedDbInstanceId) ∧
      values.lastSeenAt = observedAt ∧ values.collectedAt = observedAt ∧ values.isActive = true := by
  obtain ⟨startTime, -, rfl⟩ := Option.map_eq_some_iff.mp given
  exact ⟨rfl, rfl, rfl, rfl⟩

theorem reservationRules_lawful [MonetaryText] (scope : RdsScope) (observedAt : Instant) :
    Lawful (reservationRules scope observedAt) where
  assign := by
    intro item values row key named given _
    rw [reservation_isAt, ← reservationIdOf_eq_some named]
    exact (reservationValues_eq_some given).1
  touch isAt := isAt
  create := by
    intro item values key named given number
    rw [reservation_isAt, ← reservationIdOf_eq_some named]
    exact (reservationValues_eq_some given).1
  retire isAt := isAt
  assign_assign _ _ _ := rfl
  assign_touch _ _ := rfl
  touch_assign := by
    rintro values row ⟨item, given⟩
    obtain ⟨-, lastSeen, collected, active⟩ := reservationValues_eq_some given
    simp only [reservationRules, ← lastSeen, ← active]
    rw [lastSeen, ← collected]
  touch_touch _ := rfl
  assign_create _ _ _ := rfl
  active_retire _ := rfl

/-- The rows of an ARN in the scope. -/
def instancesAt (scope : RdsScope) (rows : List StoredRdsInstance) (arn : String) :
    List StoredRdsInstance :=
  rows.filter fun row => decide (instanceKey row = (scope.cloudAccountId, scope.region, arn))

/-- The rows of a reservation in the scope. -/
def reservationsAt (scope : RdsScope) (rows : List StoredRdsReservation) (id : String) :
    List StoredRdsReservation :=
  rows.filter fun row => decide (reservationKey row = (scope.cloudAccountId, scope.region, id))

/-- What a reconciliation of instances leaves: a row with the values of the last item for
each listed ARN, inactive rows for the others, and the other scopes as they were. -/
structure InstancesReconciled (scope : RdsScope) (observedAt : Instant) (items : List DbInstanceItem)
    (before after : List StoredRdsInstance) : Prop where
  listed : ∀ arn item,
    (items.filter fun item => decide (arnOf item = some arn)).getLast? = some item →
      ∃ row, instancesAt scope after arn = [row] ∧
        ((∃ old, instancesAt scope before arn = [old] ∧
            row = { instanceValues scope item observedAt with
              id := old.id
              deploymentTopology := old.deploymentTopology
              clusterStorageType := old.clusterStorageType }) ∨
          (instancesAt scope before arn = [] ∧
            ∃ number, row = { instanceValues scope item observedAt with id := number }))
  absent : ∀ arn, (∀ item ∈ items, arnOf item ≠ some arn) →
    instancesAt scope after arn = (instancesAt scope before arn).map fun row =>
      if row.isActive then { row with isActive := false, collectedAt := observedAt } else row
  others : (after.filter fun row =>
      !decide (row.cloudAccountId = scope.cloudAccountId ∧ row.region = scope.region)) =
    before.filter fun row =>
      !decide (row.cloudAccountId = scope.cloudAccountId ∧ row.region = scope.region)

/-- What a reconciliation of reservations leaves. A reservation that is only listed without
a start time keeps its row, seen and active, if it has one. -/
structure ReservationsReconciled [MonetaryText] (scope : RdsScope) (observedAt : Instant)
    (items : List ReservedDbInstanceItem) (before after : List StoredRdsReservation) : Prop where
  listed : ∀ id item values,
    (items.filter fun item =>
        decide (reservationIdOf item = some id) && item.startTime.isSome).getLast? = some item →
      reservationValues scope item observedAt = some values →
        ∃ row, reservationsAt scope after id = [row] ∧
          ((∃ old, reservationsAt scope before id = [old] ∧ row = { values with id := old.id }) ∨
            (reservationsAt scope before id = [] ∧ ∃ number, row = { values with id := number }))
  incomplete : ∀ id, (∃ item ∈ items, reservationIdOf item = some id) →
    (∀ item ∈ items, reservationIdOf item = some id → item.startTime = none) →
      reservationsAt scope after id = (reservationsAt scope before id).map fun row =>
        { row with lastSeenAt := observedAt, collectedAt := observedAt, isActive := true }
  absent : ∀ id, (∀ item ∈ items, reservationIdOf item ≠ some id) →
    reservationsAt scope after id = (reservationsAt scope before id).map fun row =>
      if row.isActive then { row with isActive := false, collectedAt := observedAt } else row
  others : (after.filter fun row =>
      !decide (row.cloudAccountId = scope.cloudAccountId ∧ row.region = scope.region)) =
    before.filter fun row =>
      !decide (row.cloudAccountId = scope.cloudAccountId ∧ row.region = scope.region)

theorem rowsAt_instances {scope : RdsScope} (observedAt : Instant)
    (rows : List StoredRdsInstance) (arn : String) :
    rowsAt (instanceRules scope observedAt) rows arn = instancesAt scope rows arn := by
  refine List.filter_congr fun row _ => ?_
  rw [Bool.eq_iff_iff, instance_isAt, decide_eq_true_iff]

theorem rowsAt_reservations [MonetaryText] {scope : RdsScope} (observedAt : Instant)
    (rows : List StoredRdsReservation) (id : String) :
    rowsAt (reservationRules scope observedAt) rows id = reservationsAt scope rows id := by
  refine List.filter_congr fun row _ => ?_
  rw [Bool.eq_iff_iff, reservation_isAt, decide_eq_true_iff]

omit [CaseMapping] in
/-- An identity that no item names is not listed. -/
theorem listed_eq_false {ρ κ ι ν : Type} [DecidableEq κ] {rules : Rules ρ κ ι ν} {items : List ι}
    {key : κ} (unnamed : ∀ item ∈ items, rules.itemKey item ≠ some key) :
    rules.listed items key = false := by
  rw [Rules.listed, List.any_eq_false]
  intro item member
  simpa [Rules.names] using unnamed item member

theorem instancesReconciled_of_law {scope : RdsScope} {observedAt : Instant}
    {items : List DbInstanceItem} {before after : List StoredRdsInstance}
    (law : Law (instanceRules scope observedAt) items before after) :
    InstancesReconciled scope observedAt items before after := by
  refine ⟨fun arn item last => ?_, fun arn unnamed => ?_, law.outside⟩
  · have values : (instanceRules scope observedAt).lastValues items arn =
        some (instanceValues scope item observedAt) := by
      have selected : (items.filter fun item => (instanceRules scope observedAt).names arn item &&
          ((instanceRules scope observedAt).values item).isSome) =
            items.filter fun item => decide (arnOf item = some arn) :=
        List.filter_congr fun item _ => Bool.and_true _
      rw [lastValues_eq, selected, last]
      rfl
    simp only [← rowsAt_instances observedAt]
    exact law.given arn _ values
  · simp only [← rowsAt_instances observedAt]
    exact law.absent arn (listed_eq_false unnamed)

theorem reservationsReconciled_of_law [MonetaryText] {scope : RdsScope} {observedAt : Instant}
    {items : List ReservedDbInstanceItem} {before after : List StoredRdsReservation}
    (law : Law (reservationRules scope observedAt) items before after) :
    ReservationsReconciled scope observedAt items before after := by
  have complete (item : ReservedDbInstanceItem) :
      ((reservationRules scope observedAt).values item).isSome = item.startTime.isSome := by
    simp [reservationRules, reservationValues]
  refine ⟨fun id item values last given => ?_, fun id named incomplete => ?_,
    fun id unnamed => ?_, law.outside⟩
  · have isLast : (reservationRules scope observedAt).lastValues items id = some values := by
      have selected : (items.filter fun item => (reservationRules scope observedAt).names id item &&
          ((reservationRules scope observedAt).values item).isSome) = items.filter fun item =>
            decide (reservationIdOf item = some id) && item.startTime.isSome :=
        List.filter_congr fun item _ => congrArg _ (complete item)
      rw [lastValues_eq, selected, last]
      exact given
    simp only [← rowsAt_reservations observedAt]
    exact law.given id values isLast
  · simp only [← rowsAt_reservations observedAt]
    refine law.touched id ?_ ?_
    · obtain ⟨item, member, isNamed⟩ := named
      exact List.any_eq_true.mpr ⟨item, member, decide_eq_true isNamed⟩
    · by_contra given
      obtain ⟨values, last⟩ := Option.ne_none_iff_exists'.mp given
      obtain ⟨item, member, isNamed, isGiven⟩ := lastValues_eq_some last
      have started := congrArg Option.isSome isGiven
      rw [complete, incomplete item member isNamed] at started
      cases started
  · simp only [← rowsAt_reservations observedAt]
    exact law.absent id (listed_eq_false unnamed)

/-- A row that is listed, seen again at a later time. -/
def instanceSeenAgain (scope : RdsScope) (items : List DbInstanceItem) (later : Instant)
    (row : StoredRdsInstance) : StoredRdsInstance :=
  if (row.cloudAccountId = scope.cloudAccountId ∧ row.region = scope.region) ∧
      ∃ item ∈ items, arnOf item = some row.dbInstanceArn then
    { row with collectedAt := later, lastSeenAt := later }
  else row

def reservationSeenAgain (scope : RdsScope) (items : List ReservedDbInstanceItem) (later : Instant)
    (row : StoredRdsReservation) : StoredRdsReservation :=
  if (row.cloudAccountId = scope.cloudAccountId ∧ row.region = scope.region) ∧
      ∃ item ∈ items, reservationIdOf item = some row.reservedDbInstanceId then
    { row with collectedAt := later, lastSeenAt := later }
  else row

omit [CaseMapping] in
theorem listed_iff {ρ κ ι ν : Type} [DecidableEq κ] {rules : Rules ρ κ ι ν} {items : List ι}
    {key : κ} : rules.listed items key = true ↔ ∃ item ∈ items, rules.itemKey item = some key := by
  simp [Rules.listed, Rules.names]

/-- The values of an item at another time. -/
theorem instanceValues_at (scope : RdsScope) (item : DbInstanceItem) (observedAt later : Instant) :
    instanceValues scope item later =
      { instanceValues scope item observedAt with collectedAt := later, lastSeenAt := later } := by
  simp only [instanceValues]

/-- A repeated reconciliation sees the listed rows again and leaves the others. -/
theorem instance_settled_again {scope : RdsScope} {observedAt later : Instant}
    {items : List DbInstanceItem} {before after : List StoredRdsInstance}
    (law : Law (instanceRules scope observedAt) items before after) {row : StoredRdsInstance}
    (member : row ∈ after) :
    (instanceRules scope later).settled items row = instanceSeenAgain scope items later row := by
  unfold instanceSeenAgain
  by_cases inScope : row.cloudAccountId = scope.cloudAccountId ∧ row.region = scope.region
  · rcases @settled_again _ _ _ _ _ (instanceRules scope observedAt) (instanceRules scope later)
      rfl rfl rfl (fun _ => rfl) items before after law row member (decide_eq_true inScope) with
      ⟨item, itemMember, named, values, next, isValues, isNext, made, settled⟩ |
        ⟨listed, noValues, -, -⟩ | ⟨unlisted, ⟨old, made⟩, settled⟩
    · rw [settled, if_pos ⟨inScope, item, itemMember, named⟩]
      obtain rfl := Option.some.inj isValues
      obtain rfl := Option.some.inj isNext
      rw [instanceValues_at scope item observedAt later]
      generalize instanceValues scope item observedAt = values at made
      rcases made with ⟨old, rfl⟩ | ⟨number, rfl⟩
      · rfl
      · rfl
    · obtain ⟨item, itemMember, named⟩ := listed_iff.mp listed
      exact absurd noValues (lastValues_ne_none itemMember named rfl)
    · have unnamed : ¬∃ item ∈ items, arnOf item = some row.dbInstanceArn := by
        intro named
        rw [listed_iff.mpr named] at unlisted
        cases unlisted
      have inactive : (instanceRules scope later).active row = false := by
        rw [made]
        cases active : (instanceRules scope observedAt).active old with
        | true => rfl
        | false => exact active
      rw [settled, inactive, if_neg Bool.false_ne_true]
      exact (if_neg fun both => unnamed both.2).symm
  · rw [if_neg fun both => inScope both.1]
    exact if_neg fun inside => inScope (of_decide_eq_true inside)

/-- The values of a reservation at another time. -/
theorem reservationValues_at [MonetaryText] (scope : RdsScope) (item : ReservedDbInstanceItem)
    (observedAt later : Instant) :
    reservationValues scope item later = (reservationValues scope item observedAt).map fun values =>
      { values with collectedAt := later, lastSeenAt := later } := by
  cases started : item.startTime with
  | none => simp only [reservationValues, started, Option.map_none]
  | some startTime => simp only [reservationValues, started, Option.map_some]

theorem reservation_settled_again [MonetaryText] {scope : RdsScope} {observedAt later : Instant}
    {items : List ReservedDbInstanceItem} {before after : List StoredRdsReservation}
    (law : Law (reservationRules scope observedAt) items before after) {row : StoredRdsReservation}
    (member : row ∈ after) :
    (reservationRules scope later).settled items row =
      reservationSeenAgain scope items later row := by
  have sameItems (item : ReservedDbInstanceItem) :
      ((reservationRules scope later).values item).isSome =
        ((reservationRules scope observedAt).values item).isSome := by
    simp [reservationRules, reservationValues]
  unfold reservationSeenAgain
  by_cases inScope : row.cloudAccountId = scope.cloudAccountId ∧ row.region = scope.region
  · rcases @settled_again _ _ _ _ _ (reservationRules scope observedAt)
      (reservationRules scope later) rfl rfl rfl sameItems items before after law row member
      (decide_eq_true inScope) with
      ⟨item, itemMember, named, values, next, isValues, isNext, made, settled⟩ |
        ⟨listed, -, ⟨old, rfl⟩, settled⟩ | ⟨unlisted, ⟨old, made⟩, settled⟩
    · rw [settled, if_pos ⟨inScope, item, itemMember, named⟩]
      have isNext : reservationValues scope item later = some next := isNext
      have isValues : reservationValues scope item observedAt = some values := isValues
      rw [reservationValues_at scope item observedAt later, isValues] at isNext
      obtain rfl := Option.some.inj isNext
      rcases made with ⟨old, rfl⟩ | ⟨number, rfl⟩
      · rfl
      · rfl
    · rw [settled, if_pos ⟨inScope, listed_iff.mp listed⟩]
      rfl
    · have unnamed : ¬∃ item ∈ items, reservationIdOf item = some row.reservedDbInstanceId := by
        intro named
        rw [listed_iff.mpr named] at unlisted
        cases unlisted
      have inactive : (reservationRules scope later).active row = false := by
        rw [made]
        cases active : (reservationRules scope observedAt).active old with
        | true => rfl
        | false => exact active
      rw [settled, inactive, if_neg Bool.false_ne_true]
      exact (if_neg fun both => unnamed both.2).symm
  · rw [if_neg fun both => inScope both.1]
    exact if_neg fun inside => inScope (of_decide_eq_true inside)

end Laws

section Runs

/-- A flush without repeated keys is accepted. -/
theorem flush_of_nodup {α κ υ : Type} [DecidableEq κ] [DecidableEq υ] {key : α → κ} {unique : α → υ}
    {rows : List α} (keys : (rows.map key).Nodup) (uniques : (rows.map unique).Nodup) :
    flush key unique rows = .ok ⟨rows, keys, uniques⟩ :=
  dif_pos ⟨keys, uniques⟩

/-- A rewriting that keeps the keys of a table is written. -/
theorem flush_map {α κ υ : Type} [DecidableEq κ] [DecidableEq υ] {key : α → κ} {unique : α → υ}
    (table : Table key unique) (rewrite : α → α) (sameKey : ∀ row, key (rewrite row) = key row)
    (sameUnique : ∀ row, unique (rewrite row) = unique row) :
    ∃ again, flush key unique (table.rows.map rewrite) = .ok again ∧
      again.rows = table.rows.map rewrite := by
  have keys : (table.rows.map rewrite).map key = table.rows.map key := by
    rw [List.map_map]
    exact List.map_congr_left fun row _ => sameKey row
  have uniques : (table.rows.map rewrite).map unique = table.rows.map unique := by
    rw [List.map_map]
    exact List.map_congr_left fun row _ => sameUnique row
  exact ⟨_, flush_of_nodup (keys ▸ table.distinctKeys) (uniques ▸ table.distinctUnique), rfl⟩

/-- No ARN without a row in the scope is listed twice. -/
def InstancesListedOnce (table : RdsInstances) (scope : RdsScope) (items : List DbInstanceItem) :
    Prop :=
  ∀ arn, instancesAt scope table.rows arn = [] →
    (items.filter fun item => decide (arnOf item = some arn)).length ≤ 1

/-- No reservation without a row in the scope is listed twice with a start time. -/
def ReservationsListedOnce (table : RdsReservations) (scope : RdsScope)
    (items : List ReservedDbInstanceItem) : Prop :=
  ∀ id, reservationsAt scope table.rows id = [] →
    (items.filter fun item =>
      decide (reservationIdOf item = some id) && item.startTime.isSome).length ≤ 1

variable [CaseMapping]

theorem instance_once {table : RdsInstances} {scope : RdsScope} {observedAt : Instant}
    {items : List DbInstanceItem} (once : InstancesListedOnce table scope items) :
    (((instanceRules scope observedAt).newEntries ((instanceRules scope observedAt).keys table.rows)
      items).map Prod.fst).Nodup := by
  rw [once_iff]
  intro arn missing
  rw [← rowsAt_eq_nil, rowsAt_instances] at missing
  refine le_trans (le_of_eq (congrArg List.length ?_)) (once arn missing)
  exact List.filter_congr fun item _ => Bool.and_true _

theorem reservation_once [MonetaryText] {table : RdsReservations} {scope : RdsScope}
    {observedAt : Instant} {items : List ReservedDbInstanceItem}
    (once : ReservationsListedOnce table scope items) :
    (((reservationRules scope observedAt).newEntries
      ((reservationRules scope observedAt).keys table.rows) items).map Prod.fst).Nodup := by
  rw [once_iff]
  intro id missing
  rw [← rowsAt_eq_nil, rowsAt_reservations] at missing
  refine le_trans (le_of_eq (congrArg List.length ?_)) (once id missing)
  refine List.filter_congr fun item _ => congrArg _ ?_
  simp [reservationRules, reservationValues]

/-- A call that lists every new ARN once writes the reconciled rows. -/
theorem reconcileDbInstances_ok {table : RdsInstances} {scope : RdsScope}
    {items : List DbInstanceItem} (once : InstancesListedOnce table scope items)
    (observedAt : Instant) :
    ∃ after counts, reconcileDbInstances table scope items observedAt = .ok (after, counts) ∧
      after.rows = (instanceRules scope observedAt).reconciled table.rows table.nextNumber items := by
  have lawful := instanceRules_lawful scope observedAt
  have numbers := nodup_numbers lawful (fun row : StoredRdsInstance => row.id)
    (fun _ _ => rfl) (fun _ => rfl) (fun _ => rfl) (fun _ _ => rfl) table.distinctKeys
    (fun row member => table.lt_nextNumber member) items
  have uniques := (nodup_reconciled_iff lawful instance_isAt table.distinctUnique table.nextNumber
    items).mpr (instance_once once)
  unfold reconcileDbInstances
  dsimp only
  rw [flush_of_nodup numbers uniques]
  exact ⟨_, _, rfl, rfl⟩

/-- Reservations listed once are reconciled. -/
theorem reconcileReservedDbInstances_ok [MonetaryText] {table : RdsReservations} {scope : RdsScope}
    {items : List ReservedDbInstanceItem} (once : ReservationsListedOnce table scope items)
    (observedAt : Instant) :
    ∃ after counts,
      reconcileReservedDbInstances table scope items observedAt = .ok (after, counts) ∧
        after.rows =
          (reservationRules scope observedAt).reconciled table.rows table.nextNumber items := by
  have lawful := reservationRules_lawful scope observedAt
  have numbers := nodup_numbers lawful (fun row : StoredRdsReservation => row.id)
    (fun _ _ => rfl) (fun _ => rfl) (fun _ => rfl) (fun _ _ => rfl) table.distinctKeys
    (fun row member => table.lt_nextNumber member) items
  have uniques := (nodup_reconciled_iff lawful reservation_isAt table.distinctUnique
    table.nextNumber items).mpr (reservation_once once)
  unfold reconcileReservedDbInstances
  dsimp only
  rw [flush_of_nodup numbers uniques]
  exact ⟨_, _, rfl, rfl⟩

/-- A repeated call only sees the listed rows again, and at its own time it changes
nothing. -/
theorem reconcileDbInstances_again {table after : RdsInstances} {scope : RdsScope}
    {items : List DbInstanceItem} (once : InstancesListedOnce table scope items)
    {observedAt : Instant}
    (rows : after.rows =
      (instanceRules scope observedAt).reconciled table.rows table.nextNumber items)
    (later : Instant) :
    ∃ again counts, reconcileDbInstances after scope items later = .ok (again, counts) ∧
      again.rows = after.rows.map (instanceSeenAgain scope items later) ∧
        (later = observedAt → again = after) := by
  have lawful := instanceRules_lawful scope observedAt
  have law := law_reconciled lawful (keys_nodup instance_isAt table.distinctUnique)
    table.nextNumber (instance_once once)
  rw [← rows] at law
  have repeated := reconciled_again lawful (instanceRules_lawful scope later) rfl rfl rfl
    (fun _ => rfl) table.rows table.nextNumber after.nextNumber items
  rw [← rows] at repeated
  have seen : after.rows.map ((instanceRules scope later).settled items) =
      after.rows.map (instanceSeenAgain scope items later) :=
    List.map_congr_left fun row member => instance_settled_again law member
  obtain ⟨again, written, againRows⟩ := flush_map after
    (instanceSeenAgain scope items later)
    (fun row => by unfold instanceSeenAgain; split <;> rfl)
    (fun row => by unfold instanceSeenAgain; split <;> rfl)
  refine ⟨again, { countsOf (instanceRules scope later) after.rows items with skipped := none },
    ?_, againRows, ?_⟩
  · unfold reconcileDbInstances
    dsimp only
    rw [repeated, seen, written]
    rfl
  · rintro rfl
    ext1
    rw [againRows, ← seen]
    exact (List.map_congr_left fun row member => settled_self lawful law member).trans
      (List.map_id _)

/-- A second run moves the times of collection only, at the same instant nothing. -/
theorem reconcileReservedDbInstances_again [MonetaryText] {table after : RdsReservations}
    {scope : RdsScope} {items : List ReservedDbInstanceItem}
    (once : ReservationsListedOnce table scope items) {observedAt : Instant}
    (rows : after.rows =
      (reservationRules scope observedAt).reconciled table.rows table.nextNumber items)
    (later : Instant) :
    ∃ again counts, reconcileReservedDbInstances after scope items later = .ok (again, counts) ∧
      again.rows = after.rows.map (reservationSeenAgain scope items later) ∧
        (later = observedAt → again = after) := by
  have lawful := reservationRules_lawful scope observedAt
  have law := law_reconciled lawful (keys_nodup reservation_isAt table.distinctUnique)
    table.nextNumber (reservation_once once)
  rw [← rows] at law
  have sameItems (item : ReservedDbInstanceItem) :
      ((reservationRules scope later).values item).isSome =
        ((reservationRules scope observedAt).values item).isSome := by
    simp [reservationRules, reservationValues]
  have repeated := reconciled_again lawful (reservationRules_lawful scope later) rfl rfl rfl
    sameItems table.rows table.nextNumber after.nextNumber items
  rw [← rows] at repeated
  have seen : after.rows.map ((reservationRules scope later).settled items) =
      after.rows.map (reservationSeenAgain scope items later) :=
    List.map_congr_left fun row member => reservation_settled_again law member
  obtain ⟨again, written, againRows⟩ := flush_map after
    (reservationSeenAgain scope items later)
    (fun row => by unfold reservationSeenAgain; split <;> rfl)
    (fun row => by unfold reservationSeenAgain; split <;> rfl)
  refine ⟨again, countsOf (reservationRules scope later) after.rows items, ?_, againRows, ?_⟩
  · unfold reconcileReservedDbInstances
    dsimp only
    rw [repeated, seen, written]
    rfl
  · rintro rfl
    ext1
    rw [againRows, ← seen]
    exact (List.map_congr_left fun row member => settled_self lawful law member).trans
      (List.map_id _)

/-- Both reconciliations give every listed identity its row, retire the others of the scope
and leave the other scopes, and a repeated call changes nothing but the times of the listed
rows. -/
theorem inventory_reconciled [MonetaryText] (scope : RdsScope) (observedAt : Instant) :
    (∀ table items, InstancesListedOnce table scope items →
      ∃ after counts, reconcileDbInstances table scope items observedAt = .ok (after, counts) ∧
        InstancesReconciled scope observedAt items table.rows after.rows ∧
          ∀ later, ∃ again counts,
            reconcileDbInstances after scope items later = .ok (again, counts) ∧
              again.rows = after.rows.map (instanceSeenAgain scope items later) ∧
                (later = observedAt → again = after)) ∧
      ∀ table items, ReservationsListedOnce table scope items →
        ∃ after counts,
          reconcileReservedDbInstances table scope items observedAt = .ok (after, counts) ∧
            ReservationsReconciled scope observedAt items table.rows after.rows ∧
              ∀ later, ∃ again counts,
                reconcileReservedDbInstances after scope items later = .ok (again, counts) ∧
                  again.rows = after.rows.map (reservationSeenAgain scope items later) ∧
                    (later = observedAt → again = after) := by
  constructor
  · intro table items once
    obtain ⟨after, counts, returned, rows⟩ := reconcileDbInstances_ok once observedAt
    refine ⟨after, counts, returned, ?_, reconcileDbInstances_again once rows⟩
    rw [rows]
    exact instancesReconciled_of_law (law_reconciled (instanceRules_lawful scope observedAt)
      (keys_nodup instance_isAt table.distinctUnique) table.nextNumber (instance_once once))
  · intro table items once
    obtain ⟨after, counts, returned, rows⟩ := reconcileReservedDbInstances_ok once observedAt
    refine ⟨after, counts, returned, ?_, reconcileReservedDbInstances_again once rows⟩
    rw [rows]
    exact reservationsReconciled_of_law (law_reconciled (reservationRules_lawful scope observedAt)
      (keys_nodup reservation_isAt table.distinctUnique) table.nextNumber (reservation_once once))

end Runs

section Sample

/-- The text of a price without a fraction. -/
abbrev integralText : MonetaryText where
  monetaryText price := toString price.num

attribute [local instance] asciiCase integralText

def sampleScope : RdsScope := ⟨1, "111", "eu-west-1"⟩

/-- A listed instance. -/
def sampleItem (arn : String) : DbInstanceItem where
  dbInstanceArn := some arn
  dbInstanceIdentifier := none
  dbInstanceClass := some "db.r5.large"
  engine := some "mysql"
  engineVersion := none
  licenseModel := none
  dbInstanceStatus := some "available"
  multiAz := none
  availabilityZone := none
  secondaryAvailabilityZone := none
  storageType := none
  allocatedStorage := none
  iops := none
  storageThroughput := none
  publiclyAccessible := none
  dbClusterIdentifier := none
  vpcId := none
  deepOpsTags := none
  processorFeatures := none
  optionGroupMemberships := none
  dbParameterGroups := none
  instanceCreateTime := none

/-- The table with one active instance that was seen at 0. -/
def oneInstance : RdsInstances where
  rows := [{ instanceValues sampleScope (sampleItem "arn:one") 0 with id := 1 }]
  distinctKeys := List.nodup_singleton _
  distinctUnique := List.nodup_singleton _

/-- A listed reservation. -/
def sampleReservation : ReservedDbInstanceItem where
  reservedDbInstanceId := some "ri-1"
  reservedDbInstancesOfferingId := none
  dbInstanceClass := some "db.r5.large"
  productDescription := some "mysql"
  startTime := some 0
  duration := some 31536000
  dbInstanceCount := some 1
  multiAz := none
  offeringType := none
  offeringClass := none
  currencyCode := some "USD"
  fixedPrice := some 100
  usagePrice := none
  recurringCharges := none
  state := some "active"
  leaseId := none

/-- A new instance is listed without the stored one, and a first reservation. -/
theorem inventory_reconciled_listings :
    (∃ after counts,
      reconcileDbInstances oneInstance sampleScope [sampleItem "arn:new"] 5 =
        .ok (after, counts) ∧
      InstancesReconciled sampleScope 5 [sampleItem "arn:new"] oneInstance.rows after.rows) ∧
      ∃ after counts,
        reconcileReservedDbInstances (.empty _ _) sampleScope [sampleReservation] 5 =
          .ok (after, counts) ∧
        ReservationsReconciled sampleScope 5 [sampleReservation] [] after.rows := by
  obtain ⟨instances, reservations⟩ := inventory_reconciled sampleScope 5
  obtain ⟨after, counts, returned, reconciled, -⟩ :=
    instances oneInstance [sampleItem "arn:new"] fun _ _ => List.length_filter_le _ _
  obtain ⟨afterOther, countsOther, returnedOther, reconciledOther, -⟩ :=
    reservations (.empty _ _) [sampleReservation] fun _ _ => List.length_filter_le _ _
  exact ⟨⟨after, counts, returned, reconciled⟩, afterOther, countsOther, returnedOther,
    reconciledOther⟩

/-- A listing without the instance makes it inactive, and collected now. -/
theorem retired_row_is_collected :
    ¬∀ table scope items observedAt after counts,
      reconcileDbInstances table scope items observedAt = .ok (after, counts) →
        ∀ row ∈ table.rows, (row.cloudAccountId = scope.cloudAccountId ∧
          row.region = scope.region) → (∀ item ∈ items, arnOf item ≠ some row.dbInstanceArn) →
            { row with isActive := false } ∈ after.rows := by
  intro always
  obtain ⟨after, counts, returned, rows⟩ :=
    @reconcileDbInstances_ok _ oneInstance sampleScope [] (fun _ _ => Nat.zero_le _) 5
  have kept := always _ _ _ _ after counts returned _ (List.mem_cons_self ..) ⟨rfl, rfl⟩
    (fun _ member => absurd member List.not_mem_nil)
  rw [rows] at kept
  revert kept
  decide +kernel

-- a new ARN that is listed twice is added twice and refused by the unique constraint
example : (reconcileDbInstances oneInstance sampleScope
    [sampleItem "arn:new", sampleItem "arn:one", sampleItem "arn:new"] 5).isOk = false := by
  decide +kernel

end Sample

end FinopsAnalytics.RdsReconciliation
