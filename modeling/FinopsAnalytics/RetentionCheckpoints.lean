import FinopsAnalytics.Clock
import FinopsAnalytics.Interleavings
import FinopsAnalytics.OpportunityRetention

/-!
# Checkpoints of the daily retention

A tick claims the advisory lock of its day, prepares the checkpoint, runs the
retention and marks the checkpoint, each in transactions of its own. One handler
takes every exception of the tick, marks the checkpoint as failed and releases
the lock. Several workers tick in any order, and any of them may be killed.
-/

namespace FinopsAnalytics.RetentionCheckpoints

open Interleavings
open OpportunityRetention (OpportunityRetentionResult)

/-- The ordinal of a day. -/
abbrev Period := ℤ

/-- `current.date()` -/
def periodOf (current : Instant) : Period := current / days 1

/-- `LOCK_RECHECK` -/
def lockRecheck : Duration := 5 * 60000000

/-- `FAILURE_RETRY` -/
def failureRetry : Duration := hours 1

inductive OpportunityRetentionRunStatus where
  | running | success | failed
  deriving DecidableEq

/-- `run.result`: empty, the number of errors, or the result of a retention with
the version of its policy. -/
inductive RunResult where
  | empty
  | errors
  | retained (result : OpportunityRetentionResult) (policyVersion : Option ℤ)
  deriving DecidableEq

/-- `run.result.get("policy_version")` -/
def RunResult.policyVersion : RunResult → Option ℤ
  | .empty | .errors => none
  | .retained _ policyVersion => policyVersion

/-- The checkpoint of a period. -/
structure OpportunityRetentionRun where
  status : OpportunityRetentionRunStatus
  startedAt : Instant
  finishedAt : Option Instant
  result : RunResult
  errorDetail : Option String
  deriving DecidableEq

namespace OpportunityRetentionRun

/-- The checkpoint is successful for a version of the policy. -/
def SucceededFor (run : OpportunityRetentionRun) (version : ℤ) : Prop :=
  run.status = .success ∧ run.result.policyVersion = some version

instance (run : OpportunityRetentionRun) (version : ℤ) : Decidable (run.SucceededFor version) :=
  inferInstanceAs (Decidable (_ ∧ _))

/-- The checkpoint has failed less than an hour ago. -/
def BacksOff (run : OpportunityRetentionRun) (current : Instant) : Prop :=
  run.status = .failed ∧ ∃ finished ∈ run.finishedAt, current < finished + failureRetry

instance (run : OpportunityRetentionRun) (current : Instant) : Decidable (run.BacksOff current) :=
  inferInstanceAs (Decidable (_ ∧ ∃ finished ∈ run.finishedAt, current < finished + failureRetry))

/-- A checkpoint that begins, or begins again. -/
def started (current : Instant) : OpportunityRetentionRun := ⟨.running, current, none, .empty, none⟩

/-- What `_mark_success` writes. -/
def succeeded (run : OpportunityRetentionRun) (current : Instant)
    (result : OpportunityRetentionResult) (version : ℤ) : OpportunityRetentionRun :=
  { run with
    status := .success
    finishedAt := some current
    result := .retained result (some version)
    errorDetail := none }

/-- What `_mark_failed` writes. -/
def failed (run : OpportunityRetentionRun) (current : Instant) : OpportunityRetentionRun :=
  { run with
    status := .failed
    finishedAt := some current
    result := .errors
    errorDetail := some "retention execution failed" }

end OpportunityRetentionRun

/-- What `_prepare_period` returns. -/
inductive Preparation where
  | completed | backoff | run
  deriving DecidableEq

/-- The decision of `_prepare_period`, with the version of the policy it has read. -/
def preparation (run : Option OpportunityRetentionRun) (version : ℤ) (current : Instant) :
    Preparation :=
  match run with
  | none => .run
  | some run =>
    if run.SucceededFor version then .completed
    else if run.BacksOff current then .backoff
    else .run

/-- Where a worker stands in its tick, with the period and the instant of the tick. -/
inductive TickStage where
  | idle
  | claiming (period : Period) (current : Instant)
  | claimed (period : Period) (current : Instant)
  | preparing (period : Period) (current : Instant) (version : ℤ)
  | prepared (period : Period) (current : Instant)
  | running (period : Period) (current : Instant) (version : ℤ)
  | ran (period : Period) (current : Instant) (result : OpportunityRetentionResult)
      (version : Option ℤ)
  | succeeded (period : Period) (current : Instant)
  | failing (period : Period) (current : Instant)
  | releasing (period : Period)
  deriving DecidableEq

/-- A worker: its scheduler, and whether `_prepare_period` has returned `run` in
the tick that it is in. -/
structure Worker where
  stage : TickStage
  nextLockCheckAt : Option Instant
  preparedRun : Bool
  deriving DecidableEq

/-- A successful end of the retention, or a failed one, that a worker wrote to a
checkpoint, with the holder of the lock at that time. -/
structure CheckpointWrite (ω : Type) where
  worker : ω
  period : Period
  completed : Option ℤ
  holder : Option ω
  preparedRun : Bool

/-- The database with its advisory locks, the workers and what they have written. -/
structure RetentionSystem (ω : Type) where
  policyVersion : ℤ
  runs : Period → Option OpportunityRetentionRun
  locks : Period → Option ω
  workers : ω → Worker
  writes : List (CheckpointWrite ω)

/-- The steps. A transaction that took effect may still raise where it is not
acknowledged. -/
inductive RetentionStep (ω : Type) where
  | updatePolicy
  | tick (worker : ω) (now : Instant)
  | claim (worker : ω)
  | readPolicy (worker : ω)
  | prepare (worker : ω) (acknowledged : Bool)
  | beginRun (worker : ω)
  | endRun (worker : ω) (result : OpportunityRetentionResult) (versioned : Bool)
  | markSuccess (worker : ω) (acknowledged : Bool)
  | finish (worker : ω)
  | raise (worker : ω)
  | markFailed (worker : ω) (reached : Bool)
  | release (worker : ω)
  | kill (worker : ω)

namespace RetentionSystem

variable {ω : Type} [DecidableEq ω]

def setWorker (system : RetentionSystem ω) (worker : ω) (state : Worker) : RetentionSystem ω :=
  { system with workers := Function.update system.workers worker state }

/-- The worker moves on in its tick. -/
def setStage (system : RetentionSystem ω) (worker : ω) (stage : TickStage) : RetentionSystem ω :=
  system.setWorker worker { system.workers worker with stage }

/-- The worker writes a checkpoint. -/
def setRun (system : RetentionSystem ω) (period : Period) (run : OpportunityRetentionRun) :
    RetentionSystem ω :=
  { system with runs := Function.update system.runs period (some run) }

/-- The tick returns, to be checked again at a later time. -/
def leave (system : RetentionSystem ω) (worker : ω) (period : Period) (nextCheck : Instant) :
    RetentionSystem ω :=
  system.setWorker worker
    { system.workers worker with
      stage := .releasing period
      nextLockCheckAt := some nextCheck }

/-- The end of a retention is recorded in the checkpoint. -/
def record (system : RetentionSystem ω) (worker : ω) (period : Period)
    (run : OpportunityRetentionRun) (completed : Option ℤ) : RetentionSystem ω :=
  { system.setRun period run with
    writes := system.writes ++
      [⟨worker, period, completed, system.locks period, (system.workers worker).preparedRun⟩] }

/-- A tick begins, unless the next check is still ahead. -/
def tick (system : RetentionSystem ω) (worker : ω) (now : Instant) : RetentionSystem ω :=
  match (system.workers worker).stage with
  | .idle =>
    if ∃ next ∈ (system.workers worker).nextLockCheckAt, now < next then system
    else
      system.setWorker worker
        { system.workers worker with
          stage := .claiming (periodOf now) now
          preparedRun := false }
  | _ => system

/-- `_claim_period`, for a worker that holds no lock. -/
def claim (system : RetentionSystem ω) (worker : ω) : RetentionSystem ω :=
  match (system.workers worker).stage with
  | .claiming period current =>
    match system.locks period with
    | none =>
      { system.setStage worker (.claimed period current) with
        locks := Function.update system.locks period (some worker) }
    | some _ =>
      system.setWorker worker
        { system.workers worker with
          stage := .idle
          nextLockCheckAt := some (current + lockRecheck) }
  | _ => system

/-- `_prepare_period` reads the version of the policy. -/
def readPolicy (system : RetentionSystem ω) (worker : ω) : RetentionSystem ω :=
  match (system.workers worker).stage with
  | .claimed period current =>
    system.setStage worker (.preparing period current system.policyVersion)
  | _ => system

/-- `_prepare_period` locks the checkpoint and decides. -/
def prepare (system : RetentionSystem ω) (worker : ω) (acknowledged : Bool) :
    RetentionSystem ω :=
  match (system.workers worker).stage with
  | .preparing period current version =>
    match preparation (system.runs period) version current with
    | .completed | .backoff => system.leave worker period (current + lockRecheck)
    | .run =>
      let written := system.setRun period (.started current)
      if acknowledged then
        written.setWorker worker
          { system.workers worker with
            stage := .prepared period current
            preparedRun := true }
      else written.setStage worker (.failing period current)
  | _ => system

/-- The runner reads the policy. -/
def beginRun (system : RetentionSystem ω) (worker : ω) : RetentionSystem ω :=
  match (system.workers worker).stage with
  | .prepared period current =>
    system.setStage worker (.running period current system.policyVersion)
  | _ => system

/-- The runner returns. A result without a version takes the one that
`_mark_success` reads. -/
def endRun (system : RetentionSystem ω) (worker : ω) (result : OpportunityRetentionResult)
    (versioned : Bool) : RetentionSystem ω :=
  match (system.workers worker).stage with
  | .running period current version =>
    system.setStage worker (.ran period current result (if versioned then some version else none))
  | _ => system

/-- `_mark_success` -/
def markSuccess (system : RetentionSystem ω) (worker : ω) (acknowledged : Bool) :
    RetentionSystem ω :=
  match (system.workers worker).stage with
  | .ran period current result version =>
    match system.runs period with
    | none => system.setStage worker (.failing period current)
    | some run =>
      let completed := version.getD system.policyVersion
      (system.record worker period (run.succeeded current result completed)
        (some completed)).setStage worker
          (if acknowledged then .succeeded period current else .failing period current)
  | _ => system

/-- The tick returns its result. -/
def finish (system : RetentionSystem ω) (worker : ω) : RetentionSystem ω :=
  match (system.workers worker).stage with
  | .succeeded period current => system.leave worker period (current + lockRecheck)
  | _ => system

/-- An exception reaches the handler of the tick. -/
def raise (system : RetentionSystem ω) (worker : ω) : RetentionSystem ω :=
  match (system.workers worker).stage with
  | .claiming period current | .claimed period current | .preparing period current _
  | .prepared period current | .running period current _ | .ran period current _ _
  | .succeeded period current => system.setStage worker (.failing period current)
  | .idle | .failing .. | .releasing _ => system

/-- The handler: `_mark_failed`, whose exceptions are logged. -/
def markFailed (system : RetentionSystem ω) (worker : ω) (reached : Bool) :
    RetentionSystem ω :=
  match (system.workers worker).stage with
  | .failing period current =>
    match system.runs period, reached with
    | some run, true =>
      (system.record worker period (run.failed current) none).leave worker period
        (current + failureRetry)
    | _, _ => system.leave worker period (current + failureRetry)
  | _ => system

/-- The locks that a worker holds are freed. -/
def freeLocks (system : RetentionSystem ω) (worker : ω) : RetentionSystem ω :=
  { system with
    locks := fun period =>
      if system.locks period = some worker then none else system.locks period }

/-- `_release_lock` -/
def release (system : RetentionSystem ω) (worker : ω) : RetentionSystem ω :=
  match (system.workers worker).stage with
  | .releasing _ => (system.freeLocks worker).setStage worker .idle
  | _ => system

/-- The process of a worker ends, and with it the connection of its lock. -/
def kill (system : RetentionSystem ω) (worker : ω) : RetentionSystem ω :=
  (system.freeLocks worker).setWorker worker ⟨.idle, none, false⟩

end RetentionSystem

variable {ω : Type} [DecidableEq ω]

/-- One step of the system. -/
def retentionStep (system : RetentionSystem ω) : RetentionStep ω → RetentionSystem ω
  | .updatePolicy => { system with policyVersion := system.policyVersion + 1 }
  | .tick worker now => system.tick worker now
  | .claim worker => system.claim worker
  | .readPolicy worker => system.readPolicy worker
  | .prepare worker acknowledged => system.prepare worker acknowledged
  | .beginRun worker => system.beginRun worker
  | .endRun worker result versioned => system.endRun worker result versioned
  | .markSuccess worker acknowledged => system.markSuccess worker acknowledged
  | .finish worker => system.finish worker
  | .raise worker => system.raise worker
  | .markFailed worker reached => system.markFailed worker reached
  | .release worker => system.release worker
  | .kill worker => system.kill worker

section Ownership

variable {ω : Type}

/-- No worker is in a tick and nothing has been written, over checkpoints that are
successful for versions that the policy has had. -/
structure Resting (system : RetentionSystem ω) : Prop where
  idle : ∀ worker, (system.workers worker).stage = .idle
  unlocked : ∀ period, system.locks period = none
  unwritten : system.writes = []
  versions : ∀ period, ∀ run ∈ system.runs period, ∀ version, run.SucceededFor version →
    version ≤ system.policyVersion

/-- The versions for which the retention of a period was completed, in their order. -/
def RetentionSystem.completions (system : RetentionSystem ω) (period : Period) : List ℤ :=
  system.writes.filterMap fun write => if write.period = period then write.completed else none

/-- The writes that ended a retention successfully, by period and version. -/
def RetentionSystem.successes (system : RetentionSystem ω) : List (Period × ℤ) :=
  system.writes.filterMap fun write => write.completed.map (write.period, ·)

/-- An exception at this stage comes after `_prepare_period` has returned `run` and
before `_mark_success` has committed, or it does not reach the handler. -/
def TickStage.raisesInRun : TickStage → Bool
  | .claiming .. | .claimed .. | .preparing .. | .succeeded .. => false
  | .prepared .. | .running .. | .ran .. | .idle | .failing .. | .releasing _ => true

/-- The exception that a step raises, if any, comes between the return of
`_prepare_period` and the commit of `_mark_success`. -/
def Orderly (system : RetentionSystem ω) : RetentionStep ω → Prop
  | .raise worker => (system.workers worker).stage.raisesInRun = true
  | .prepare _ acknowledged | .markSuccess _ acknowledged => acknowledged = true
  | .updatePolicy | .tick .. | .claim _ | .readPolicy _ | .beginRun _ | .endRun .. | .finish _
  | .markFailed .. | .release _ | .kill _ => True

/-- The worker has the checkpoint of a period to itself, and every version for which
the period was completed is older than the given one. -/
structure Runs (system : RetentionSystem ω) (worker : ω) (preparedRun : Bool) (period : Period)
    (version : ℤ) : Prop where
  holds : system.locks period = some worker
  prepared : preparedRun = true
  unsuccessful : ∀ run ∈ system.runs period, run.status ≠ .success
  newer : ∀ completed ∈ system.completions period, completed < version
  known : version ≤ system.policyVersion

/-- What a stage promises about the database. -/
def Fits (system : RetentionSystem ω) (worker : ω) (state : Worker) : Prop :=
  match state.stage with
  | .idle | .claiming .. => True
  | .claimed period _ | .succeeded period _ | .releasing period =>
    system.locks period = some worker
  | .preparing period _ version =>
    system.locks period = some worker ∧ version ≤ system.policyVersion ∧
      (∀ run ∈ system.runs period, ∀ stored, run.SucceededFor stored → stored ≤ version) ∧
        ∀ completed ∈ system.completions period,
          completed < version ∨ ∃ run ∈ system.runs period, run.SucceededFor completed
  | .prepared period _ | .failing period _ =>
    Runs system worker state.preparedRun period system.policyVersion
  | .running period _ version => Runs system worker state.preparedRun period version
  | .ran period _ _ version =>
    Runs system worker state.preparedRun period (version.getD system.policyVersion)

/-- The invariant of orderly runs. -/
structure Sound (system : RetentionSystem ω) : Prop where
  stages : ∀ worker, Fits system worker (system.workers worker)
  stored : ∀ period, ∀ run ∈ system.runs period, ∀ version, run.SucceededFor version →
    version ≤ system.policyVersion
  recent : ∀ period, ∀ completed ∈ system.completions period,
    completed < system.policyVersion ∨
      ∃ run ∈ system.runs period, run.SucceededFor completed
  owned : ∀ write ∈ system.writes,
    write.holder = some write.worker ∧ write.preparedRun = true
  increasing : ∀ period, (system.completions period).Pairwise (· < ·)

theorem Resting.sound {system : RetentionSystem ω} (resting : Resting system) : Sound system where
  stages worker := by
    rw [Fits, resting.idle worker]
    trivial
  stored := resting.versions
  recent period completed member := by
    rw [RetentionSystem.completions, resting.unwritten] at member
    cases member
  owned write member := by
    rw [resting.unwritten] at member
    cases member
  increasing period := by
    rw [RetentionSystem.completions, resting.unwritten]
    exact List.Pairwise.nil

/-- Two systems agree on what a period's lock protects. -/
def SamePeriod (before after : RetentionSystem ω) (period : Period) : Prop :=
  after.locks period = before.locks period ∧ after.runs period = before.runs period ∧
    after.completions period = before.completions period

theorem Runs.frame {before after : RetentionSystem ω} {worker : ω} {preparedRun : Bool}
    {period : Period} {version later : ℤ}
    (runs : Runs before worker preparedRun period version)
    (same : SamePeriod before after period) (later_le : version ≤ later)
    (known : later ≤ after.policyVersion) : Runs after worker preparedRun period later where
  holds := same.1.trans runs.holds
  prepared := runs.prepared
  unsuccessful := by
    rw [same.2.1]
    exact runs.unsuccessful
  newer completed member := by
    rw [same.2.2] at member
    exact Int.lt_of_lt_of_le (runs.newer completed member) later_le
  known := known

/-- A stage keeps its promise while nobody touches the periods of its locks. -/
theorem Fits.frame {before after : RetentionSystem ω} {worker : ω} {state : Worker}
    (fits : Fits before worker state) (grows : before.policyVersion ≤ after.policyVersion)
    (same : ∀ period, before.locks period = some worker → SamePeriod before after period) :
    Fits after worker state := by
  unfold Fits at fits ⊢
  split
  case _ | _ => trivial
  case _ period _ stage =>
    rw [stage] at fits
    exact (same period fits).1.trans fits
  case _ period _ stage =>
    rw [stage] at fits
    exact (same period fits).1.trans fits
  case _ period stage =>
    rw [stage] at fits
    exact (same period fits).1.trans fits
  case _ period _ version stage =>
    rw [stage] at fits
    obtain ⟨holds, known, older, recent⟩ := fits
    obtain ⟨sameLock, sameRun, sameCompletions⟩ := same period holds
    rw [sameRun, sameCompletions, sameLock]
    exact ⟨holds, known.trans grows, older, recent⟩
  case _ period _ stage =>
    rw [stage] at fits
    exact fits.frame (same period fits.holds) grows le_rfl
  case _ period _ stage =>
    rw [stage] at fits
    exact fits.frame (same period fits.holds) grows le_rfl
  case _ period _ version stage =>
    rw [stage] at fits
    exact fits.frame (same period fits.holds) le_rfl (fits.known.trans grows)
  case _ period _ _ version stage =>
    rw [stage] at fits
    cases version with
    | none => exact fits.frame (same period fits.holds) grows le_rfl
    | some version =>
      exact fits.frame (same period fits.holds) le_rfl (fits.known.trans grows)

end Ownership

section Steps

variable {ω : Type}

theorem RetentionSystem.runs_setRun (system : RetentionSystem ω) (period : Period)
    (run : OpportunityRetentionRun) : (system.setRun period run).runs period = some run :=
  Function.update_self ..

theorem RetentionSystem.runs_setRun_of_ne (system : RetentionSystem ω) {period other : Period}
    (run : OpportunityRetentionRun) (different : other ≠ period) :
    (system.setRun period run).runs other = system.runs other :=
  Function.update_of_ne different ..

theorem RetentionSystem.completions_record (system : RetentionSystem ω) (worker : ω) (period other : Period)
    (run : OpportunityRetentionRun) (completed : Option ℤ) :
    (system.record worker period run completed).completions other =
      system.completions other ++ if period = other then completed.toList else [] := by
  rw [RetentionSystem.completions, RetentionSystem.record, List.filterMap_append]
  congr 1
  by_cases same : period = other
  · cases completed <;> simp [same]
  · simp [same]

variable [DecidableEq ω]

@[simp] theorem RetentionSystem.workers_setWorker (system : RetentionSystem ω) (worker : ω) (state : Worker) :
    (system.setWorker worker state).workers worker = state :=
  Function.update_self ..

theorem RetentionSystem.workers_setWorker_of_ne (system : RetentionSystem ω) {worker other : ω} (state : Worker)
    (different : other ≠ worker) :
    (system.setWorker worker state).workers other = system.workers other :=
  Function.update_of_ne different ..

variable {system : RetentionSystem ω} {state : Worker} {worker : ω} {period : Period}
  {current : Instant}

theorem Fits.setWorker {other : ω} (fits : Fits system other state) (worker : ω) (moved : Worker) :
    Fits (system.setWorker worker moved) other state :=
  fits.frame le_rfl fun _ _ => ⟨rfl, rfl, rfl⟩

/-- A worker moves on to a stage whose promise holds. -/
theorem Sound.setWorker (sound : Sound system) (worker : ω) (fits : Fits system worker state) :
    Sound (system.setWorker worker state) where
  stages other := by
    by_cases same : other = worker
    · subst same
      rw [RetentionSystem.workers_setWorker]
      exact fits.setWorker other state
    · rw [RetentionSystem.workers_setWorker_of_ne system state same]
      exact (sound.stages other).setWorker worker state
  stored := sound.stored
  recent := sound.recent
  owned := sound.owned
  increasing := sound.increasing

/-- A worker that holds the lock of a period changes what the lock protects. -/
theorem Sound.stages_change (sound : Sound system) (after : RetentionSystem ω)
    (holds : system.locks period = some worker)
    (version : after.policyVersion = system.policyVersion)
    (workers : after.workers = system.workers)
    (elsewhere : ∀ other, other ≠ period → SamePeriod system after other)
    (fits : Fits after worker state) (other : ω) :
    Fits (after.setWorker worker state) other ((after.setWorker worker state).workers other) := by
  by_cases same : other = worker
  · subst same
    rw [RetentionSystem.workers_setWorker]
    exact fits.setWorker other state
  · rw [RetentionSystem.workers_setWorker_of_ne after state same, workers]
    refine Fits.setWorker ((sound.stages other).frame version.ge ?_) worker state
    intro otherPeriod otherHolds
    refine elsewhere otherPeriod fun samePeriod => same ?_
    rw [samePeriod, holds] at otherHolds
    exact (Option.some.inj otherHolds).symm

/-- A checkpoint begins, as it is not successful for the version that was read. -/
theorem Sound.begin (sound : Sound system) (holds : system.locks period = some worker)
    (newer : ∀ completed ∈ system.completions period, completed < system.policyVersion)
    (fits : Fits (system.setRun period (.started current)) worker state) :
    Sound ((system.setRun period (.started current)).setWorker worker state) where
  stages := sound.stages_change (system.setRun period (.started current)) holds rfl rfl
    (fun other different => ⟨rfl, system.runs_setRun_of_ne _ different, rfl⟩) fits
  stored other run member version succeeded := by
    by_cases same : other = period
    · subst same
      cases (system.runs_setRun other _).symm.trans member
      cases succeeded.1
    · exact sound.stored other run ((system.runs_setRun_of_ne _ same).symm.trans member) version
        succeeded
  recent other completed member := by
    by_cases same : other = period
    · subst same
      exact Or.inl (newer completed member)
    · rw [show ((system.setRun period (.started current)).setWorker worker state).runs other =
        system.runs other from system.runs_setRun_of_ne _ same]
      exact sound.recent other completed member
  owned := sound.owned
  increasing := sound.increasing

/-- The end of a retention is recorded. -/
theorem Sound.record (sound : Sound system) {version : ℤ} {run : OpportunityRetentionRun}
    {completed : Option ℤ}
    (runs : Runs system worker (system.workers worker).preparedRun period version)
    (written : ∀ stored, run.SucceededFor stored ↔ completed = some stored)
    (newest : ∀ stored ∈ completed, stored = version)
    (fits : Fits (system.record worker period run completed) worker state) :
    Sound ((system.record worker period run completed).setWorker worker state) where
  stages := sound.stages_change (system.record worker period run completed) runs.holds
    rfl rfl
    (fun other different => ⟨rfl, system.runs_setRun_of_ne _ different, by
      rw [RetentionSystem.completions_record, if_neg different.symm, List.append_nil]⟩) fits
  stored other otherRun member stored succeeded := by
    by_cases same : other = period
    · subst same
      cases (system.runs_setRun other run).symm.trans member
      rw [newest stored ((written stored).mp succeeded)]
      exact runs.known
    · exact sound.stored other otherRun ((system.runs_setRun_of_ne run same).symm.trans member)
        stored succeeded
  recent other done member := by
    have member := (system.completions_record worker period other run completed) ▸ member
    by_cases same : period = other
    · subst same
      rw [if_pos rfl, List.mem_append, Option.mem_toList] at member
      rcases member with earlier | new
      · exact Or.inl (Int.lt_of_lt_of_le (runs.newer done earlier) runs.known)
      · exact Or.inr ⟨run, system.runs_setRun period run, (written done).mpr new⟩
    · rw [if_neg same, List.append_nil] at member
      rw [show ((system.record worker period run completed).setWorker worker state).runs other =
        system.runs other from system.runs_setRun_of_ne run fun equal => same equal.symm]
      exact sound.recent other done member
  owned write member := by
    rcases List.mem_append.mp member with earlier | new
    · exact sound.owned write earlier
    · cases List.mem_singleton.mp new
      exact ⟨runs.holds, runs.prepared⟩
  increasing other := by
    rw [show ((system.record worker period run completed).setWorker worker state).completions other
      = _ from system.completions_record worker period other run completed]
    by_cases same : period = other
    · subst same
      rw [if_pos rfl]
      refine List.pairwise_append.mpr ⟨sound.increasing period, ?_, fun done earlier stored new => ?_⟩
      · cases completed <;> simp
      · rw [newest stored (Option.mem_toList.mp new)]
        exact runs.newer done earlier
    · rw [if_neg same, List.append_nil]
      exact sound.increasing other

/-- The locks of a worker are freed as it leaves its tick. -/
theorem Sound.freeLocks (sound : Sound system) (worker : ω) (idle : state.stage = .idle) :
    Sound ((system.freeLocks worker).setWorker worker state) where
  stages other := by
    by_cases same : other = worker
    · subst same
      rw [RetentionSystem.workers_setWorker, Fits, idle]
      trivial
    · rw [RetentionSystem.workers_setWorker_of_ne _ _ same]
      refine (sound.stages other).frame le_rfl fun period holds => ⟨?_, rfl, rfl⟩
      refine if_neg fun own => same ?_
      rw [holds] at own
      exact Option.some.inj own
  stored := sound.stored
  recent := sound.recent
  owned := sound.owned
  increasing := sound.increasing

/-- A free lock is taken. -/
theorem Sound.lock (sound : Sound system) (free : system.locks period = none) :
    Sound { system.setStage worker (.claimed period current) with
      locks := Function.update system.locks period (some worker) } where
  stages other := by
    by_cases same : other = worker
    · subst same
      change Fits _ other (((system.setStage other (.claimed period current))).workers other)
      rw [RetentionSystem.setStage, RetentionSystem.workers_setWorker]
      exact Function.update_self ..
    · change Fits _ other (((system.setStage worker (.claimed period current))).workers other)
      rw [RetentionSystem.setStage, RetentionSystem.workers_setWorker_of_ne _ _ same]
      refine (sound.stages other).frame le_rfl fun otherPeriod holds => ⟨?_, rfl, rfl⟩
      refine Function.update_of_ne (fun samePeriod => ?_) ..
      rw [samePeriod, free] at holds
      cases holds
  stored := sound.stored
  recent := sound.recent
  owned := sound.owned
  increasing := sound.increasing

/-- A retention begins only where the checkpoint is not successful for the version. -/
theorem not_succeededFor_of_run {run : OpportunityRetentionRun} {version : ℤ}
    (begins : preparation (some run) version current = .run) : ¬run.SucceededFor version := by
  intro succeeded
  rw [preparation, if_pos succeeded] at begins
  cases begins

/-- A prepared run has locked its period. -/
theorem Sound.prepare (sound : Sound system) (worker : ω) :
    Sound (system.prepare worker true) := by
  unfold RetentionSystem.prepare
  split
  · rename_i period current version stage
    have fits := sound.stages worker
    rw [Fits, stage] at fits
    obtain ⟨holds, known, older, recent⟩ := fits
    split
    · exact sound.setWorker worker holds
    · exact sound.setWorker worker holds
    · rename_i begins
      have newer : ∀ completed ∈ system.completions period, completed < system.policyVersion := by
        intro completed member
        refine Int.lt_of_lt_of_le ?_ known
        rcases recent completed member with earlier | ⟨run, stored, succeeded⟩
        · exact earlier
        · refine lt_of_le_of_ne (older run stored completed succeeded) fun same => ?_
          rw [stored] at begins
          exact not_succeededFor_of_run begins (same ▸ succeeded)
      rw [if_pos rfl]
      refine sound.begin holds newer ⟨holds, rfl, fun run member => ?_, newer, le_rfl⟩
      cases (system.runs_setRun period _).symm.trans member
      exact fun status => nomatch status
  · exact sound

/-- The version guard lets one worker succeed. -/
theorem Sound.markSuccess (sound : Sound system) (worker : ω) :
    Sound (system.markSuccess worker true) := by
  unfold RetentionSystem.markSuccess
  split
  · rename_i period current result version stage
    have runs := sound.stages worker
    rw [Fits, stage] at runs
    split
    · exact sound.setWorker worker (runs.frame ⟨rfl, rfl, rfl⟩ runs.known le_rfl)
    · refine sound.record runs (fun stored => ?_) (fun stored member => ?_) runs.holds
      · simp [OpportunityRetentionRun.SucceededFor, OpportunityRetentionRun.succeeded,
          RunResult.policyVersion]
      · exact (Option.some.inj member).symm
  · exact sound

theorem Sound.markFailed (sound : Sound system) (worker : ω) (reached : Bool) :
    Sound (system.markFailed worker reached) := by
  unfold RetentionSystem.markFailed
  split
  · rename_i period current stage
    have runs := sound.stages worker
    rw [Fits, stage] at runs
    split
    · refine sound.record runs (fun stored => ?_) (fun stored member => nomatch member) runs.holds
      simp [OpportunityRetentionRun.SucceededFor, OpportunityRetentionRun.failed]
    · exact sound.setWorker worker runs.holds
  · exact sound

/-- An exception in its place leaves the worker with its checkpoint. -/
theorem Sound.raise (sound : Sound system) (orderly : Orderly system (.raise worker)) :
    Sound (system.raise worker) := by
  have fits := sound.stages worker
  unfold RetentionSystem.raise
  unfold Fits at fits
  cases stage : (system.workers worker).stage with
  | claiming period current | claimed period current | preparing period current version
  | succeeded period current => simp [Orderly, stage, TickStage.raisesInRun] at orderly
  | idle | failing period current | releasing period => exact sound
  | prepared period current =>
    rw [stage] at fits
    exact sound.setWorker worker (fits.frame ⟨rfl, rfl, rfl⟩ le_rfl le_rfl)
  | running period current version | ran period current result version =>
    rw [stage] at fits
    exact sound.setWorker worker (fits.frame ⟨rfl, rfl, rfl⟩ fits.known le_rfl)

/-- The step lemma. -/
theorem Sound.step (sound : Sound system) (step : RetentionStep ω) (orderly : Orderly system step) :
    Sound (retentionStep system step) := by
  cases step with
  | updatePolicy =>
    have grows : system.policyVersion ≤ system.policyVersion + 1 := by omega
    exact {
      stages := fun worker => (sound.stages worker).frame grows fun _ _ => ⟨rfl, rfl, rfl⟩
      stored := fun period run member version succeeded =>
        (sound.stored period run member version succeeded).trans grows
      recent := fun period completed member =>
        (sound.recent period completed member).imp_left fun earlier =>
          Int.lt_of_lt_of_le earlier grows
      owned := sound.owned
      increasing := sound.increasing }
  | tick worker now =>
    change Sound (system.tick worker now)
    unfold RetentionSystem.tick
    split
    · split
      · exact sound
      · exact sound.setWorker worker trivial
    · exact sound
  | claim worker =>
    change Sound (system.claim worker)
    unfold RetentionSystem.claim
    split
    · split
      · rename_i free
        exact sound.lock free
      · exact sound.setWorker worker trivial
    · exact sound
  | readPolicy worker =>
    change Sound (system.readPolicy worker)
    unfold RetentionSystem.readPolicy
    split
    · rename_i period current stage
      have holds := sound.stages worker
      rw [Fits, stage] at holds
      exact sound.setWorker worker ⟨holds, le_rfl, sound.stored period, sound.recent period⟩
    · exact sound
  | prepare worker acknowledged =>
    rw [show acknowledged = true from orderly]
    exact sound.prepare worker
  | beginRun worker =>
    change Sound (system.beginRun worker)
    unfold RetentionSystem.beginRun
    split
    · rename_i period current stage
      have runs := sound.stages worker
      rw [Fits, stage] at runs
      exact sound.setWorker worker (runs.frame ⟨rfl, rfl, rfl⟩ le_rfl le_rfl)
    · exact sound
  | endRun worker result versioned =>
    change Sound (system.endRun worker result versioned)
    unfold RetentionSystem.endRun
    split
    · rename_i period current version stage
      have runs := sound.stages worker
      rw [Fits, stage] at runs
      cases versioned with
      | true => exact sound.setWorker worker (runs.frame ⟨rfl, rfl, rfl⟩ le_rfl runs.known)
      | false => exact sound.setWorker worker (runs.frame ⟨rfl, rfl, rfl⟩ runs.known le_rfl)
    · exact sound
  | markSuccess worker acknowledged =>
    rw [show acknowledged = true from orderly]
    exact sound.markSuccess worker
  | finish worker =>
    change Sound (system.finish worker)
    unfold RetentionSystem.finish
    split
    · rename_i period current stage
      have holds := sound.stages worker
      rw [Fits, stage] at holds
      exact sound.setWorker worker holds
    · exact sound
  | raise worker => exact sound.raise orderly
  | markFailed worker reached => exact sound.markFailed worker reached
  | release worker =>
    change Sound (system.release worker)
    unfold RetentionSystem.release
    split
    · exact sound.freeLocks worker rfl
    · exact sound
  | kill worker => exact sound.freeLocks worker rfl

end Steps

section Checkpoints

variable {ω : Type} [DecidableEq ω]

/-- Whoever ended a retention held the lock of its period, and had prepared it. -/
def Owned (system : RetentionSystem ω) : Prop :=
  ∀ write ∈ system.writes, write.holder = some write.worker ∧ write.preparedRun = true

/-- No step of a run changes a checkpoint that is successful for the version that
the policy has before the step. -/
def SuccessesStay (start : RetentionSystem ω) (steps : List (RetentionStep ω)) : Prop :=
  ∀ past step rest, steps = past ++ step :: rest → ∀ period,
    ∀ checkpoint ∈ (run retentionStep start past).runs period,
      checkpoint.SucceededFor (run retentionStep start past).policyVersion →
        (run retentionStep start (past ++ [step])).runs period = some checkpoint

/-- Only the worker that prepares a period, or ends it, writes its checkpoint. -/
theorem Sound.success_stays {system : RetentionSystem ω} (sound : Sound system)
    (step : RetentionStep ω) (orderly : Orderly system step) {period : Period}
    {checkpoint : OpportunityRetentionRun} (stored : system.runs period = some checkpoint)
    (succeeded : checkpoint.SucceededFor system.policyVersion) :
    (retentionStep system step).runs period = some checkpoint := by
  have elsewhere {worker : ω} {own : Period} {version : ℤ} {prepared : Bool}
      {written : OpportunityRetentionRun} (runs : Runs system worker prepared own version) :
      Function.update system.runs own (some written) period = some checkpoint := by
    have different : period ≠ own := by
      rintro rfl
      exact runs.unsuccessful checkpoint stored succeeded.1
    rw [Function.update_of_ne different, stored]
  cases step with
  | updatePolicy => exact stored
  | tick worker now =>
    change (system.tick worker now).runs period = _
    unfold RetentionSystem.tick
    split
    · split <;> exact stored
    · exact stored
  | claim worker =>
    change (system.claim worker).runs period = _
    unfold RetentionSystem.claim
    split
    · split <;> exact stored
    · exact stored
  | readPolicy worker =>
    change (system.readPolicy worker).runs period = _
    unfold RetentionSystem.readPolicy
    split <;> exact stored
  | prepare worker acknowledged =>
    change (system.prepare worker acknowledged).runs period = _
    unfold RetentionSystem.prepare
    split
    · rename_i own current version stage
      have fits := sound.stages worker
      rw [Fits, stage] at fits
      obtain ⟨-, known, older, -⟩ := fits
      split
      · exact stored
      · exact stored
      · rename_i begins
        have different : period ≠ own := by
          rintro rfl
          have current := le_antisymm (older checkpoint stored _ succeeded) known
          rw [stored] at begins
          exact not_succeededFor_of_run begins (current ▸ succeeded)
        have kept := (system.runs_setRun_of_ne (.started current) different).trans stored
        split <;> exact kept
    · exact stored
  | beginRun worker =>
    change (system.beginRun worker).runs period = _
    unfold RetentionSystem.beginRun
    split <;> exact stored
  | endRun worker result versioned =>
    change (system.endRun worker result versioned).runs period = _
    unfold RetentionSystem.endRun
    split <;> exact stored
  | markSuccess worker acknowledged =>
    change (system.markSuccess worker acknowledged).runs period = _
    unfold RetentionSystem.markSuccess
    split
    · rename_i own current result version stage
      have runs := sound.stages worker
      rw [Fits, stage] at runs
      split
      · exact stored
      · exact elsewhere runs
    · exact stored
  | finish worker =>
    change (system.finish worker).runs period = _
    unfold RetentionSystem.finish
    split <;> exact stored
  | raise worker =>
    change (system.raise worker).runs period = _
    unfold RetentionSystem.raise
    split <;> exact stored
  | markFailed worker reached =>
    change (system.markFailed worker reached).runs period = _
    unfold RetentionSystem.markFailed
    split
    · rename_i own current stage
      have runs := sound.stages worker
      rw [Fits, stage] at runs
      split
      · exact elsewhere runs
      · exact stored
    · exact stored
  | release worker =>
    change (system.release worker).runs period = _
    unfold RetentionSystem.release
    split <;> exact stored
  | kill worker => exact stored

omit [DecidableEq ω] in
/-- Versions that increase within every period make every success a different one. -/
theorem Sound.successes_nodup {system : RetentionSystem ω} (sound : Sound system) :
    system.successes.Nodup := by
  refine List.pairwise_filterMap.mpr (List.pairwise_iff_forall_sublist.mpr ?_)
  intro first second sublist one ofFirst two ofSecond same
  have increasing := sound.increasing first.period
  obtain ⟨version, completed, rfl⟩ := Option.map_eq_some_iff.mp ofFirst
  obtain ⟨later, completedLater, rfl⟩ := Option.map_eq_some_iff.mp ofSecond
  obtain ⟨samePeriod, rfl⟩ := Prod.mk.inj same
  have ordered := List.pairwise_iff_forall_sublist.mp (List.pairwise_filterMap.mp increasing) sublist
  refine lt_irrefl version (ordered version ?_ version ?_)
  · rw [if_pos rfl, completed]
  · rw [if_pos samePeriod.symm, completedLater]

/-- Where exceptions come only between the return of `_prepare_period` and the commit
of `_mark_success`, the checkpoints are written by the owners of their locks, a
success for the current version stays, and none is repeated. -/
theorem checkpoints_owned {start : RetentionSystem ω} (resting : Resting start)
    (steps : List (RetentionStep ω)) (orderly : Along retentionStep Orderly start steps) :
    Owned (run retentionStep start steps) ∧ SuccessesStay start steps ∧
      (run retentionStep start steps).successes.Nodup := by
  have sound {taken : List (RetentionStep ω)} (along : Along retentionStep Orderly start taken) :
      Sound (run retentionStep start taken) :=
    run_invariant Sound resting.sound (fun _ step sound orderly => sound.step step orderly) along
  refine ⟨(sound orderly).owned, ?_, (sound orderly).successes_nodup⟩
  rintro past step rest rfl period checkpoint stored succeeded
  obtain ⟨before, here, -⟩ := along_append.mp orderly
  rw [run_append]
  exact (sound before).success_stays step here stored succeeded

end Checkpoints

section Exceptions

/-- Nothing was retained yet. -/
def unretained : RetentionSystem ℕ :=
  ⟨1, fun _ => none, fun _ => none, fun _ => ⟨.idle, none, false⟩, []⟩

theorem resting_unretained : Resting unretained :=
  ⟨fun _ => rfl, fun _ => rfl, rfl, fun _ _ member => nomatch member⟩

def nothingArchived : OpportunityRetentionResult := ⟨0, 0, 0, 0, 0, 0, 0, 0, 0⟩

/-- A tick that retains. -/
def retainingTick (worker : ℕ) (now : Instant) : List (RetentionStep ℕ) :=
  [.tick worker now, .claim worker, .readPolicy worker, .prepare worker true, .beginRun worker,
    .endRun worker nothingArchived true, .markSuccess worker true, .finish worker,
    .release worker]

/-- A worker that cannot reach the lock, after another has completed the period; the
period is retained again two hours later. -/
def unreachableLock : List (RetentionStep ℕ) :=
  retainingTick 1 0 ++ [.tick 2 0, .raise 2, .markFailed 2 true, .release 2] ++
    retainingTick 1 (hours 2)

/-- A retention that fails and is repeated by another worker, which then finds it
completed. -/
def repeatedRetention : List (RetentionStep ℕ) :=
  [.tick 1 0, .claim 1, .tick 2 0, .claim 2, .readPolicy 1, .prepare 1 true, .beginRun 1,
      .raise 1, .markFailed 1 true, .release 1] ++
    retainingTick 2 (hours 2) ++ [.tick 1 (hours 3), .claim 1, .readPolicy 1, .prepare 1 true]

instance {ω : Type} [DecidableEq ω] (system : RetentionSystem ω) : Decidable (Owned system) :=
  inferInstanceAs (Decidable (∀ write ∈ system.writes, _ ∧ _))

/-- The handler marks the period as failed for a worker that never had its lock, so
that it is retained twice for one version. -/
theorem unreachable_lock_repeats :
    ¬Owned (run retentionStep unretained unreachableLock) ∧
      ¬SuccessesStay unretained unreachableLock ∧
        ¬(run retentionStep unretained unreachableLock).successes.Nodup := by
  refine ⟨by decide +kernel, fun stay => ?_, by decide +kernel⟩
  have kept := stay (retainingTick 1 0 ++ [.tick 2 0, .raise 2]) (.markFailed 2 true)
    ([.release 2] ++ retainingTick 1 (hours 2)) rfl 0
    ((OpportunityRetentionRun.started 0).succeeded 0 nothingArchived 1) (by decide +kernel)
    (by decide +kernel)
  exact absurd kept (by decide +kernel)

instance decidableOrderly {ω : Type} (system : RetentionSystem ω) :
    (step : RetentionStep ω) → Decidable (Orderly system step)
  | .raise worker => inferInstanceAs (Decidable ((system.workers worker).stage.raisesInRun = true))
  | .prepare _ acknowledged | .markSuccess _ acknowledged =>
    inferInstanceAs (Decidable (acknowledged = true))
  | .updatePolicy | .tick .. | .claim _ | .readPolicy _ | .beginRun _ | .endRun .. | .finish _
  | .markFailed .. | .release _ | .kill _ => isTrue trivial

theorem checkpoints_owned_repeatedRetention :
    Owned (run retentionStep unretained repeatedRetention) ∧
      SuccessesStay unretained repeatedRetention ∧
        (run retentionStep unretained repeatedRetention).successes.Nodup :=
  checkpoints_owned resting_unretained repeatedRetention (by decide +kernel)

end Exceptions

end FinopsAnalytics.RetentionCheckpoints
