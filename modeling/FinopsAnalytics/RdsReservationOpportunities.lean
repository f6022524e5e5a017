import FinopsAnalytics.Fallible
import FinopsAnalytics.RdsReservationVerdicts

/-!
# Opportunities of a coverage run

A pass writes the opportunities that the run observes, and settles every other
one outside the archive: it is resolved where the run is authoritative, and
missing where it is not. Human decisions and the archive are never touched.
-/

namespace FinopsAnalytics.RdsReservationOpportunities

open PythonText UniqueTables Dictionaries OpportunityRecords OpportunityFingerprint RdsInventory
  RdsReservationRules RdsReservationVerdicts Fallible

structure RdsReservationOpportunityResult where
  coverageRunId : ℤ
  created : ℕ
  updated : ℕ
  resolved : ℕ
  unchanged : ℕ
  uncoveredFound : ℕ
  partialFound : ℕ
  unusedCapacityFound : ℕ
  expiringFound : ℕ
  unknownSkipped : ℕ
  staleSkipped : ℕ
  uncertain : ℕ
deriving DecidableEq, Repr

def RdsReservationOpportunityResult.start (coverageRunId : ℤ) : RdsReservationOpportunityResult :=
  ⟨coverageRunId, 0, 0, 0, 0, 0, 0, 0, 0, 0, 0, 0⟩

inductive UpsertAction where
  | created | updated | unchanged
deriving DecidableEq, Repr

/-- What happens to an opportunity that a run does not observe. -/
inductive Settlement where
  | kept
  | resolved (next : Finding)
  | uncertain (next : Finding)
deriving DecidableEq, Repr

/-- The finding that a settlement leaves. -/
def Settlement.next (finding : Finding) : Settlement → Finding
  | .kept => finding
  | .resolved next => next
  | .uncertain next => next

def Settlement.isResolved : Settlement → Bool
  | .resolved _ => true
  | _ => false

/-- `_run_marker`. -/
def runMarker (runId : ℤ) : String := "rds-coverage:" ++ toString runId

/-- `_mark_active`. -/
def markActive (runId : ℤ) (now : Instant) (finding : Finding) : Finding :=
  { finding with
    presenceStatus := .active
    missingCount := 0
    missingSinceAt := none
    resolvedExternallyAt := none
    presenceReconciledRunId := some (runMarker runId)
    presenceReconciledAt := some now }

/-- The finding that `_resolve` leaves. -/
def resolvedFinding (runId : ℤ) (now : Instant) (reason : String) (finding : Finding) : Finding :=
  { finding with
    providerMetadata := setKey "resolved_by_coverage_run_id" (.integer runId)
      (setKey "resolution_reason" (.text reason) finding.providerMetadata)
    presenceStatus := .resolvedExternally
    missingCount := 0
    missingSinceAt := none
    resolvedExternallyAt := some now
    presenceReconciledRunId := some (runMarker runId)
    presenceReconciledAt := some now }

/-- `_resolve`. A finding that the same run resolved is left alone. -/
def resolve (runId : ℤ) (now : Instant) (reason : String) (finding : Finding) : Settlement :=
  if finding.presenceStatus = .resolvedExternally ∧
      finding.presenceReconciledRunId = some (runMarker runId) then .kept
  else .resolved (resolvedFinding runId now reason finding)

/-- The finding that `_mark_uncertain` leaves. -/
def uncertainFinding (runId : ℤ) (now : Instant) (reason : String) (finding : Finding) : Finding :=
  { finding with
    providerMetadata := setKey "presence_uncertain_coverage_run_id" (.integer runId)
      (setKey "presence_uncertain_reason" (.text reason) finding.providerMetadata)
    missingSinceAt := if finding.presenceStatus ≠ .missing then some now
      else finding.missingSinceAt
    presenceStatus := .missing
    missingCount := finding.missingCount + 1
    resolvedExternallyAt := none
    presenceReconciledRunId := some (runMarker runId)
    presenceReconciledAt := some now }

/-- `_mark_uncertain`. A finding that the same run marked is left alone. -/
def markUncertain (runId : ℤ) (now : Instant) (reason : String) (finding : Finding) :
    Settlement :=
  if finding.presenceStatus = .missing ∧
      finding.presenceReconciledRunId = some (runMarker runId) then .kept
  else .uncertain (uncertainFinding runId now reason finding)

/-- The candidate of a draft that is seen for the first time. -/
def newRdsFinding (id fingerprint : String) (runId : ℤ) (now : Instant)
    (draft : OpportunityDraft) : Finding :=
  markActive runId now
    { id := id
      fingerprint := fingerprint
      scanId := none
      firstSeenCollectionRunId := none
      lastSeenCollectionRunId := none
      provider := "aws"
      accountId := draft.accountId
      ruleKey := draft.ruleKey
      service := "rds"
      region := some draft.region
      resourceId := draft.resourceId
      resourceName := some draft.resourceId
      resourceType := some draft.resourceType
      providerMetadata := draft.providerMetadata
      title := draft.title
      description := draft.description
      evidence := draft.evidence
      currentMonthlyCost := 0
      estimatedMonthlySavings := 0
      currency := "USD"
      confidence := "high"
      severity := draft.severity
      status := .open_
      presenceStatus := .active
      missingCount := 0
      missingSinceAt := none
      resolvedExternallyAt := none
      presenceReconciledRunId := none
      presenceReconciledAt := none
      totalOccurrenceCount := 1
      firstSeenAt := now
      lastSeenAt := now
      treatedAt := none
      treatedBy := none
      treatmentNote := none
      rejectedAt := none
      rejectedBy := none
      rejectionReason := none
      rejectionNote := none
      needsReview := false
      archivedAt := none
      archivedBy := none
      archiveReason := none }

/-- The run that last described a finding. -/
def previousRun (finding : Finding) : Option MetaValue :=
  finding.providerMetadata.lookup "coverage_run_id"

/-- Whether a draft says what the finding says already. -/
def wasSame (runId : ℤ) (draft : OpportunityDraft) (finding : Finding) : Bool :=
  previousRun finding = some (.integer runId) &&
    finding.providerMetadata = draft.providerMetadata && finding.evidence = draft.evidence &&
    finding.title = draft.title && finding.description = draft.description &&
    finding.severity = draft.severity && finding.presenceStatus = .active

/-- The finding that `_upsert` leaves of one that exists. -/
def redescribed (runId : ℤ) (now : Instant) (draft : OpportunityDraft) (finding : Finding) :
    Finding :=
  markActive runId now
    { finding with
      resourceName := some draft.resourceId
      resourceType := some draft.resourceType
      providerMetadata := draft.providerMetadata
      title := draft.title
      description := draft.description
      evidence := draft.evidence
      severity := draft.severity
      confidence := "high"
      currentMonthlyCost := 0
      estimatedMonthlySavings := 0
      lastSeenAt := now
      totalOccurrenceCount := if previousRun finding ≠ some (.integer runId) then
        finding.totalOccurrenceCount + 1 else finding.totalOccurrenceCount }

/-- The state of a pass. The sets of fingerprints are lists that are only searched. -/
structure PassState where
  result : RdsReservationOpportunityResult
  store : Store
  observed : List String
  uncertain : List String

/-- `_record_action`. -/
def RdsReservationOpportunityResult.record (result : RdsReservationOpportunityResult)
    (action : UpsertAction) : RdsReservationOpportunityResult :=
  match action with
  | .created => { result with created := result.created + 1 }
  | .updated => { result with updated := result.updated + 1 }
  | .unchanged => { result with unchanged := result.unchanged + 1 }

/-- One more opportunity of a rule. -/
def RdsReservationOpportunityResult.found (result : RdsReservationOpportunityResult)
    (ruleKey : String) : RdsReservationOpportunityResult :=
  if ruleKey = rdsReservationUncovered then
    { result with uncoveredFound := result.uncoveredFound + 1 }
  else if ruleKey = rdsReservationPartialCoverage then
    { result with partialFound := result.partialFound + 1 }
  else if ruleKey = rdsReservationUnusedCapacity then
    { result with unusedCapacityFound := result.unusedCapacityFound + 1 }
  else { result with expiringFound := result.expiringFound + 1 }

/-- The keys of the instances of the run. -/
def currentInstanceKeys (pass : CoveragePass) : List (String × String × String) :=
  pass.coverageRows.map fun (_, row) => (row.accountId, row.region, row.dbInstanceIdentifier)

/-- The keys of the reservations of the run. -/
def currentReservationKeys (pass : CoveragePass) : List (String × String × String) :=
  pass.utilizationRows.map fun (_, reservation) =>
    (reservation.accountId, reservation.region, reservation.reservedDbInstanceId)

/-- The key of the resource of a finding. -/
def resourceKey (finding : Finding) : String × String × String :=
  (finding.accountId, orEmpty finding.region, finding.resourceId)

/-- An unarchived finding of the reservation rules. -/
def isExisting (finding : Finding) : Bool :=
  finding.provider = "aws" && finding.service = "rds" && finding.ruleKey ∈ rdsReservationRules &&
    finding.archivedAt.isNone

/-- `_existing_by_fingerprint`: its keys, in the order of the rows. -/
def existingByFingerprint (store : Store) : List String :=
  (store.findings.rows.filter isExisting).map (·.fingerprint)

section Settlements

variable [CaseMapping]

/-- Whether a run decides about a finding of a coverage rule, and why. -/
def coverageAuthority (pass : CoveragePass) (finding : Finding) : Bool × String :=
  if resourceKey finding ∈ currentInstanceKeys pass then (true, "COVERAGE_STATE_CHANGED")
  else
    let inventory := pass.tables.instances.reverse.find? fun row =>
      (row.accountId, row.region, row.dbInstanceIdentifier) = resourceKey finding
    (inventory.any fun row => pass.fresh row.collectedAt &&
      (!row.isActive || !isReservationCoverageEligibleInstance row),
      "RDS_INACTIVE_OR_NOT_ELIGIBLE")

/-- Whether a run decides about a finding of a reservation rule, and why. -/
def reservationAuthority (pass : CoveragePass) (finding : Finding) : Bool × String :=
  if resourceKey finding ∈ currentReservationKeys pass then (true, "RESERVATION_STATE_CHANGED")
  else
    let reservation := pass.tables.reservations.reverse.find? fun row =>
      (row.accountId, row.region, row.reservedDbInstanceId) = resourceKey finding
    (reservation.any fun row => pass.fresh row.collectedAt &&
      (!row.isActive || !isActiveReservation row pass.generatedAt),
      "RESERVATION_INACTIVE_OR_EXPIRED")

def authority (pass : CoveragePass) (finding : Finding) : Bool × String :=
  if finding.ruleKey ∈ coverageRules then coverageAuthority pass finding
  else reservationAuthority pass finding

/-- The settlement of a finding that the run neither observes nor holds uncertain. -/
def settle (pass : CoveragePass) (finding : Finding) : Settlement :=
  let (authoritative, reason) := authority pass finding
  if authoritative then resolve pass.run.id pass.generatedAt reason finding
  else markUncertain pass.run.id pass.generatedAt
    "RESOURCE_NOT_AUTHORITATIVELY_PRESENT_IN_COVERAGE_RUN" finding

omit [CaseMapping] in
/-- The settlement of a finding that the run holds uncertain. -/
def settleUncertain (pass : CoveragePass) (finding : Finding) : Settlement :=
  markUncertain pass.run.id pass.generatedAt "STALE_OR_UNKNOWN_RDS_RESERVATION_DATA" finding

end Settlements

/-- Write a settlement and count it. -/
def applySettlement (state : PassState) : Settlement → PassState
  | .kept => state
  | .resolved next =>
    { state with
      result := { state.result with resolved := state.result.resolved + 1 }
      store := state.store.putFinding next }
  | .uncertain next =>
    { state with
      result := { state.result with uncertain := state.result.uncertain + 1 }
      store := state.store.putFinding next }

/-- Settle the finding with a fingerprint. -/
def settleFingerprint (settlement : Finding → Settlement) (state : PassState)
    (fingerprint : String) : PassState :=
  match state.store.findings.findUnique? fingerprint with
  | none => state
  | some finding => applySettlement state (settlement finding)

section Generate

variable [CaseMapping] [Digest] [GeneralFormat] [UuidSource]

omit [GeneralFormat] in
/-- `_upsert`. -/
def upsert (pass : CoveragePass) (store : Store) (draft : OpportunityDraft) :
    Except ServiceError (Finding × UpsertAction × Store) := do
  let fingerprint ← draft.fingerprint
  let update (store : Store) (finding : Finding) : Finding × UpsertAction × Store :=
    let next := redescribed pass.run.id pass.generatedAt draft finding
    (next, if wasSame pass.run.id draft finding then .unchanged else .updated,
      store.putFinding next)
  match store.findings.findUnique? fingerprint with
  | some finding => return update store finding
  | none =>
    let (id, store) := store.draw
    let candidate := newRdsFinding id fingerprint pass.run.id pass.generatedAt draft
    match store.findings.insert candidate with
    | some findings => return (candidate, .created, { store with findings })
    | none =>
      match store.findings.findUnique? fingerprint with
      | some finding => return update store finding
      | none => throw .integrity

omit [GeneralFormat] in
/-- Write an opportunity that the run observes. -/
def observeDraft (pass : CoveragePass) (state : PassState) (draft : OpportunityDraft) :
    Except ServiceError PassState := do
  let (finding, action, store) ← upsert pass state.store draft
  return { state with
    result := (state.result.found draft.ruleKey).record action
    store := store
    observed := state.observed ++ [finding.fingerprint] }

omit [GeneralFormat] in
/-- What the pass does with the verdict on a row. -/
def applyVerdict (pass : CoveragePass) (state : PassState) :
    RowVerdict → Except ServiceError PassState
  | .stale fingerprints => return { state with
      result := { state.result with staleSkipped := state.result.staleSkipped + 1 }
      uncertain := state.uncertain ++ fingerprints }
  | .unknown fingerprints => return { state with
      result := { state.result with unknownSkipped := state.result.unknownSkipped + 1 }
      uncertain := state.uncertain ++ fingerprints }
  | .conclusive drafts => drafts.foldlM (observeDraft pass) state

omit [CaseMapping] [Digest] [GeneralFormat] [UuidSource] in
/-- The run with an identifier, or the latest completed one. -/
def coverageRun (tables : RdsTables) (coverageRunId : Option ℤ) :
    Except ServiceError RdsReservationCoverageRun :=
  let run : Option RdsReservationCoverageRun := match coverageRunId with
    | some id => tables.coverageRuns.find? (·.id = id)
    | none => DistinctKeys.lastByKey RdsReservationCoverageRun.id
        (tables.coverageRuns.filter (·.status = .completed))
  match run.filter (·.status = .completed) with
  | some run => .ok run
  | none => .error (.value "A completed RDS reservation coverage run is required")

omit [GeneralFormat] in
/-- A loop over rows of the run. -/
def applyRows {ρ : Type} (pass : CoveragePass) (verdict : ρ → Except ServiceError RowVerdict)
    (rows : List ρ) (state : PassState) : Except ServiceError PassState :=
  rows.foldlM (fun state row => do applyVerdict pass state (← verdict row)) state

/-- The two loops over the rows of the run. -/
def observeRows (pass : CoveragePass) (state : PassState) : Except ServiceError PassState := do
  let state ← applyRows pass (coverageVerdict pass) pass.coverageRows state
  applyRows pass (reservationVerdict pass) pass.utilizationRows state

omit [Digest] [GeneralFormat] [UuidSource] in
/-- The two loops over the findings that existed. -/
def settleRows (pass : CoveragePass) (existing : List String) (state : PassState) : PassState :=
  let state := (state.uncertain.eraseDups.filter fun fingerprint =>
    fingerprint ∈ existing && fingerprint ∉ state.observed).foldl
      (settleFingerprint (settleUncertain pass)) state
  (existing.filter fun fingerprint =>
    fingerprint ∉ state.observed && fingerprint ∉ state.uncertain).foldl
      (settleFingerprint (settle pass)) state

/-- The pass over a completed run. -/
def generatePass (pass : CoveragePass) (store : Store) :
    Except ServiceError (RdsReservationOpportunityResult × Store) := do
  let state ← observeRows pass ⟨.start pass.run.id, store, [], []⟩
  let state := settleRows pass (existingByFingerprint store) state
  return (state.result, state.store)

variable [SystemClock]

/-- `generate_rds_reservation_opportunities`. -/
def generateRdsReservationOpportunities (settings : RdsReservationSettings) (tables : RdsTables)
    (store : Store) (coverageRunId : Option ℤ) (now : Option Instant) :
    Except ServiceError (RdsReservationOpportunityResult × Store) := do
  let (generatedAt, store) :=
    match now with
    | some now => (now, store)
    | none => store.utcnow
  let run ← coverageRun tables coverageRunId
  let accountNames := store.cloudAccounts.map fun account => (account.id, account.name)
  generatePass ⟨settings, tables, run, generatedAt, accountNames⟩ store

end Generate

end FinopsAnalytics.RdsReservationOpportunities
