import FinopsAnalytics.RdsReservationEngine
import FinopsAnalytics.RdsReservationVerdicts

/-!
# The refresh of the RDS reservations

A refresh commits its work in stages: inventory, coverage, opportunities. The
row of its run carries a status for each. A process can end after any of its
transactions, so it is modelled as a machine whose steps are the transactions:
what a crash leaves is the table after some number of steps.

The outside of a stage, what it reads from the provider and from other tables,
is an input of the execution; so is whether the stage raises.
-/

namespace FinopsAnalytics.RdsReservationsPipeline

open PythonText UniqueTables RdsInventory RdsReservationRules RdsReservationEngine
open RdsReservationVerdicts (RdsCoverageRunStatus)

inductive PipelineStage where
  | inventory | coverage | opportunities | completed
deriving DecidableEq, Repr

/-- The values of `inventory_status` and `opportunity_status`. -/
inductive StageStatus where
  | unknown | notRun | running | completed | failed
deriving DecidableEq, Repr

/-- The figures that the coverage stage writes. -/
structure CoverageFigures where
  accountsAnalyzed : ℕ
  instancesAnalyzed : ℕ
  reservationsAnalyzed : ℕ
  fullyCovered : ℕ
  partiallyCovered : ℕ
  uncovered : ℕ
  unknown : ℕ
  requiredUnits : ℚ
  coveredUnits : ℚ
  uncoveredUnits : ℚ
  reservedUnits : ℚ
  allocatedReservedUnits : ℚ
  unusedReservedUnits : ℚ
  calculatedCoveragePercentage : ℚ
deriving DecidableEq, Repr

/-- The defaults of the columns. -/
def noFigures : CoverageFigures := ⟨0, 0, 0, 0, 0, 0, 0, 0, 0, 0, 0, 0, 0, 0⟩

/-- A row of `rds_reservation_coverage_runs` with all its columns. -/
structure PipelineRun extends RdsReservationVerdicts.RdsReservationCoverageRun,
    CoverageFigures where
  inventorySnapshotAt : Instant
  pipelineStage : PipelineStage
  inventoryStatus : StageStatus
  opportunityStatus : StageStatus
  inventoryErrorDetail : Option String
  opportunityErrorDetail : Option String
  awsObservedCoveragePercentage : Option ℚ
  reconciliationStatus : String
  reconciliationDetail : Option String
  billingValidationStatus : String
  errorDetail : Option String
deriving DecidableEq, Repr

/-- The primary key of a run. -/
abbrev runId (run : PipelineRun) : ℤ := run.id

abbrev Runs := Table runId runId

/-- `_RUNNING_TIMEOUT` -/
def runningTimeout : Duration := hours 2

/-- `str(exc)[:2000]` -/
def shortened (text : String) : String := String.ofList (text.toList.take 2000)

/-- The row of a run found abandoned. -/
def recoverRun (now : Instant) (run : PipelineRun) : PipelineRun :=
  let failed := { run with
    status := .failed
    completedAt := some now
    errorDetail := some "Pipeline execution was abandoned before completion" }
  match run.pipelineStage with
  | .inventory =>
    { failed with
      inventoryStatus := .failed
      inventoryErrorDetail := some "Pipeline execution was abandoned during inventory" }
  | .opportunities =>
    -- the coverage may already be valid
    { failed with
      status := .completed
      opportunityStatus := .failed
      opportunityErrorDetail := some "Pipeline execution was abandoned during opportunities"
      pipelineStage := .completed }
  | _ => failed

/-- The query of the recovery. -/
def abandoned (now : Instant) (run : PipelineRun) : Bool :=
  run.status = .running ∧ run.startedAt < now - runningTimeout

theorem id_recoverRun (now : Instant) (run : PipelineRun) : runId (recoverRun now run) = runId run := by
  unfold recoverRun
  cases run.pipelineStage <;> rfl

def recoverIfAbandoned (now : Instant) (run : PipelineRun) : PipelineRun :=
  if abandoned now run then recoverRun now run else run

theorem id_recoverIfAbandoned (now : Instant) (run : PipelineRun) :
    runId (recoverIfAbandoned now run) = runId run := by
  unfold recoverIfAbandoned
  split
  · exact id_recoverRun now run
  · rfl

/-- `_recover_abandoned_runs` -/
def recoverAbandonedRuns (runs : Runs) (now : Instant) : Runs :=
  runs.modify (recoverIfAbandoned now) (id_recoverIfAbandoned now) (id_recoverIfAbandoned now)

/-- Insert a run under the next number. -/
def addRun (runs : Runs) (run : PipelineRun) : Option Runs :=
  runs.insert { run with id := runs.nextNumber }

/-- The run that `_new_pipeline_run` adds. -/
def newPipelineRun (now : Instant) : PipelineRun where
  toCoverageFigures := noFigures
  id := 0
  startedAt := now
  completedAt := none
  status := .running
  inventorySnapshotAt := now
  pipelineStage := .inventory
  inventoryStatus := .running
  opportunityStatus := .notRun
  inventoryErrorDetail := none
  opportunityErrorDetail := none
  awsObservedCoveragePercentage := none
  reconciliationStatus := "NOT_AVAILABLE"
  reconciliationDetail := none
  billingValidationStatus := "NOT_AVAILABLE"
  errorDetail := none

/-- What the stages of one execution meet outside the table of runs. A text is
that of an exception. -/
structure StageInputs where
  /-- The errors that the inventory collection reports. -/
  inventory : Except String (List String)
  inventoryCompletedAt : Instant
  /-- The oldest collection time of an active row, where there is one. -/
  oldestCollectedAt : Option Instant
  /-- The active instances after their cluster metadata was read. -/
  instances : Except String (List AwsRdsInstance)
  reservations : List AwsRdsReservedInstance
  /-- The observed percentage, its validation status and a detail. -/
  billing : Except String (Option ℚ × String × String)
  coverageCompletedAt : Instant
  opportunities : Except String Unit
  finishedAt : Instant

/-- `_reconciliation_status` -/
def reconciliationStatus (calculated observed : ℚ) : String :=
  let variance := |calculated - observed|
  if variance ≤ 1 / 2 then "MATCH"
  else if variance ≤ 5 then "MINOR_VARIANCE"
  else "MISMATCH"

/-- The figures of an analysis over the eligible instances. -/
def figuresOf (eligible : List AwsRdsInstance) (analysis : CoverageAnalysis) : CoverageFigures :=
  let counted (status : CoverageStatus) :=
    analysis.instances.countP fun result => result.coverageStatus = status
  let required := (analysis.instances.map InstanceCoverageResult.requiredUnits).sum
  let covered := (analysis.instances.map InstanceCoverageResult.coveredUnits).sum
  let reserved := (analysis.reservations.map ReservationUtilizationResult.totalUnits).sum
  let allocated := (analysis.reservations.map ReservationUtilizationResult.allocatedUnits).sum
  { accountsAnalyzed := (eligible.map AwsRdsInstance.accountId).eraseDups.length
    instancesAnalyzed := analysis.instances.length
    reservationsAnalyzed := analysis.reservations.length
    fullyCovered := counted .full
    partiallyCovered := counted .partially
    uncovered := counted .uncovered
    unknown := counted .unknown
    requiredUnits := required
    coveredUnits := covered
    uncoveredUnits := max 0 (required - covered)
    reservedUnits := reserved
    allocatedReservedUnits := allocated
    unusedReservedUnits := max 0 (reserved - allocated)
    calculatedCoveragePercentage := safePercentage covered required }

section Coverage

variable [CaseMapping]

/-- The calculation of the coverage stage, up to its commit. -/
def calculateCoverage (inputs : StageInputs) (now : Instant) (validateBilling : Bool) :
    Except String (CoverageFigures × Option (Option ℚ × String × String)) := do
  let instances ← inputs.instances
  let eligible := instances.filter isReservationCoverageEligibleInstance
  let active := inputs.reservations.filter (isActiveReservation · now)
  let analysis ← analyze .isolated now eligible active
  let observation ← if validateBilling then some <$> inputs.billing else pure none
  return (figuresOf eligible analysis, observation)

/-- The row of a run whose coverage was calculated. -/
def withCoverage (run : PipelineRun) (figures : CoverageFigures)
    (observation : Option (Option ℚ × String × String)) (completedAt : Instant)
    (stage : PipelineStage) : PipelineRun :=
  let calculated := { run with
    toCoverageFigures := figures
    status := .completed
    completedAt := some completedAt
    pipelineStage := stage }
  match observation with
  | none => calculated
  | some (observed, validation, detail) =>
    { calculated with
      awsObservedCoveragePercentage := observed
      billingValidationStatus := validation
      reconciliationDetail := some detail
      reconciliationStatus := match observed with
        | some percentage =>
          reconciliationStatus figures.calculatedCoveragePercentage percentage
        | none => run.reconciliationStatus }

/-- Change the row of a run, where it is there. -/
def updateRun (runs : Runs) (id : ℤ) (change : PipelineRun → PipelineRun) : Runs :=
  match runs.find? id with
  | some run => runs.put (change run)
  | none => runs

/-- Where an execution stands. `refresh_rds_reservations` starts by recovering;
a call of `run_rds_reservation_coverage` alone, here marked as direct, starts by
preparing a run of its own. -/
inductive Point where
  | recovering
  | claiming
  | collecting (run : ℤ)
  | preparing (run : Option ℤ)
  | calculating (run : ℤ) (direct : Bool)
  | entering (run : ℤ)
  | generating (run : ℤ)
  | finishing (run : ℤ)
  | done
deriving DecidableEq, Repr

/-- The arguments of an execution, with what its stages meet. -/
structure Call where
  now : Instant
  validateBilling : Bool
  inputs : StageInputs

/-- The failure of the inventory stage. -/
def inventoryFailed (call : Call) (detail error : String) (run : PipelineRun) : PipelineRun :=
  { run with
    status := .failed
    inventoryStatus := .failed
    pipelineStage := .inventory
    inventoryErrorDetail := some (shortened detail)
    errorDetail := some error
    completedAt := some call.inputs.inventoryCompletedAt }

def inventoryCompleted (call : Call) (run : PipelineRun) : PipelineRun :=
  { run with
    inventorySnapshotAt := call.inputs.oldestCollectedAt.getD call.inputs.inventoryCompletedAt
    inventoryStatus := .completed
    inventoryErrorDetail := none
    pipelineStage := .coverage }

/-- `_prepare_run` with the run of the refresh. -/
def prepared (run : PipelineRun) : PipelineRun :=
  { run with
    status := .running
    pipelineStage := .coverage
    completedAt := none
    errorDetail := none
    reconciliationStatus := "NOT_AVAILABLE"
    reconciliationDetail := none
    billingValidationStatus := "NOT_AVAILABLE"
    awsObservedCoveragePercentage := none }

/-- The run that `_prepare_run` adds without one. -/
def newCoverageRun (call : Call) : PipelineRun :=
  { newPipelineRun call.now with
    inventorySnapshotAt := call.inputs.oldestCollectedAt.getD call.now
    pipelineStage := .coverage
    inventoryStatus := .unknown }

def coverageFailed (call : Call) (raised : String) (run : PipelineRun) : PipelineRun :=
  { run with
    status := .failed
    pipelineStage := .coverage
    completedAt := some call.inputs.coverageCompletedAt
    errorDetail := some (shortened raised) }

def enteringOpportunities (run : PipelineRun) : PipelineRun :=
  { run with
    pipelineStage := .opportunities
    opportunityStatus := .running
    opportunityErrorDetail := none }

def opportunitiesCompleted (call : Call) (run : PipelineRun) : PipelineRun :=
  { run with
    opportunityStatus := .completed
    pipelineStage := .completed
    completedAt := some call.inputs.finishedAt }

def opportunitiesFailed (call : Call) (raised : String) (run : PipelineRun) : PipelineRun :=
  { run with
    opportunityStatus := .failed
    opportunityErrorDetail := some (shortened raised)
    pipelineStage := .completed
    completedAt := some call.inputs.finishedAt }

/-- One transaction of an execution, as it is committed. -/
def step (call : Call) (runs : Runs) : Point → Runs × Point
  | .recovering => (recoverAbandonedRuns runs call.now, .claiming)
  | .claiming =>
    -- an active run makes the refresh raise that it is busy
    if runs.rows.any fun run => run.status = .running then (runs, .done)
    else
      match addRun runs (newPipelineRun call.now) with
      | some added => (added, .collecting runs.nextNumber)
      | none => (runs, .done)
  | .collecting run =>
    match call.inputs.inventory with
    | .error raised =>
      (updateRun runs run (inventoryFailed call raised "RDS inventory collection failed"), .done)
    | .ok (error :: errors) =>
      (updateRun runs run (inventoryFailed call ("\n".intercalate (error :: errors))
        "RDS inventory collection completed with errors; coverage skipped"), .done)
    | .ok [] => (updateRun runs run (inventoryCompleted call), .preparing (some run))
  | .preparing (some run) => (updateRun runs run prepared, .calculating run false)
  | .preparing none =>
    match addRun runs (newCoverageRun call) with
    | some added => (added, .calculating runs.nextNumber true)
    | none => (runs, .done)
  | .calculating run direct =>
    match calculateCoverage call.inputs call.now call.validateBilling with
    | .error raised => (updateRun runs run (coverageFailed call raised), .done)
    | .ok (figures, observation) =>
      let stage := if direct then PipelineStage.opportunities else .coverage
      (updateRun runs run fun row =>
        withCoverage row figures observation call.inputs.coverageCompletedAt stage,
        .entering run)
  | .entering run => (updateRun runs run enteringOpportunities, .generating run)
  | .generating run =>
    match call.inputs.opportunities with
    | .error raised => (updateRun runs run (opportunitiesFailed call raised), .done)
    | .ok () =>
      -- the pass is committed before the row of the run says so
      (runs, .finishing run)
  | .finishing run => (updateRun runs run (opportunitiesCompleted call), .done)
  | .done => (runs, .done)

/-- What an execution leaves after some number of transactions. -/
def executeFrom (call : Call) : ℕ → Runs × Point → Runs × Point
  | 0, reached => reached
  | count + 1, reached => executeFrom call count (step call reached.1 reached.2)

end Coverage

end FinopsAnalytics.RdsReservationsPipeline
