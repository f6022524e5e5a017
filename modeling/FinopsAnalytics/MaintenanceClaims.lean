import FinopsAnalytics.Clock
import FinopsAnalytics.Interleavings
import Mathlib.Logic.Function.Basic

/-!
# Claims of the maintenance tasks

Every worker passes the two maintenance tasks in each of its ticks. A claim reads
the shared row without a lock, selects it again for update and compares the due
time. The second select waits for the lock, but the session keeps the attribute
values it has loaded, so the comparison sees the row as it was first read.
-/

namespace FinopsAnalytics.MaintenanceClaims

open Interleavings

/-- The tasks that a tick passes, in this order. -/
inductive MaintenanceTask where
  | cycleClose | observationCleanup
  deriving DecidableEq

/-- `CYCLE_CLOSE_CADENCE` and `OBSERVATION_CLEANUP_CADENCE` -/
def MaintenanceTask.cadence : MaintenanceTask → Duration
  | .cycleClose => 15 * 60000000
  | .observationCleanup => days 1

/-- The row of `OpportunityMaintenanceState`, over the type of its results. -/
structure MaintenanceState (ρ : Type) where
  lastRetentionRunAt : Option Instant
  lastCycleCloseCheckAt : Option Instant
  lastObservationCleanupAt : Option Instant
  lastRetentionResult : ρ
  lastCycleCloseResult : ρ
  lastObservationCleanupResult : ρ

namespace MaintenanceState

variable {ρ : Type}

/-- `OpportunityMaintenanceState(id=1)`, every result being the empty one. -/
def blank [Inhabited ρ] : MaintenanceState ρ := ⟨none, none, none, default, default, default⟩

/-- `getattr(state, field)` for the field of a task. -/
def claimedAt (state : MaintenanceState ρ) : MaintenanceTask → Option Instant
  | .cycleClose => state.lastCycleCloseCheckAt
  | .observationCleanup => state.lastObservationCleanupAt

/-- `setattr(state, field, current)` -/
def claim (state : MaintenanceState ρ) (current : Instant) : MaintenanceTask → MaintenanceState ρ
  | .cycleClose => { state with lastCycleCloseCheckAt := some current }
  | .observationCleanup => { state with lastObservationCleanupAt := some current }

/-- `_store_result`, for the field of a task. -/
def storeResult (state : MaintenanceState ρ) (result : ρ) : MaintenanceTask → MaintenanceState ρ
  | .cycleClose => { state with lastCycleCloseResult := result }
  | .observationCleanup => { state with lastObservationCleanupResult := result }

/-- What `_mark_success` of the retention scheduler writes to the row. -/
def markRetention (state : MaintenanceState ρ) (current : Instant) (result : ρ) :
    MaintenanceState ρ :=
  { state with lastRetentionRunAt := some current, lastRetentionResult := result }

theorem claimedAt_claim (state : MaintenanceState ρ) (current : Instant) (task : MaintenanceTask) :
    (state.claim current task).claimedAt task = some current := by
  cases task <;> rfl

theorem claimedAt_claim_of_ne (state : MaintenanceState ρ) (current : Instant)
    {task other : MaintenanceTask} (different : other ≠ task) :
    (state.claim current task).claimedAt other = state.claimedAt other := by
  cases task <;> cases other <;> first | rfl | exact absurd rfl different

@[simp] theorem claimedAt_storeResult (state : MaintenanceState ρ) (result : ρ)
    (task other : MaintenanceTask) :
    (state.storeResult result task).claimedAt other = state.claimedAt other := by
  cases task <;> cases other <;> rfl

@[simp] theorem claimedAt_markRetention (state : MaintenanceState ρ) (current : Instant)
    (result : ρ) (task : MaintenanceTask) :
    (state.markRetention current result).claimedAt task = state.claimedAt task := by
  cases task <;> rfl

@[simp] theorem claimedAt_blank [Inhabited ρ] (task : MaintenanceTask) :
    (blank : MaintenanceState ρ).claimedAt task = none := by
  cases task <;> rfl

end MaintenanceState

/-- The comparison of `_claim_due`: a task is due unless it was claimed less than
a cadence before. -/
def Due (task : MaintenanceTask) (previous : Option Instant) (current : Instant) : Prop :=
  ∀ at' ∈ previous, at' + task.cadence ≤ current

instance decidableDue (task : MaintenanceTask) (previous : Option Instant) (current : Instant) :
    Decidable (Due task previous current) :=
  inferInstanceAs (Decidable (∀ at' ∈ previous, _))

/-- Where a worker stands in its tick. The row of a session is the one it loaded. -/
inductive TickStage (ρ : Type) where
  | idle
  | starting (task : MaintenanceTask) (current : Instant)
  | missing (task : MaintenanceTask) (current : Instant)
  | loaded (task : MaintenanceTask) (current : Instant) (seen : MaintenanceState ρ)
  | locked (task : MaintenanceTask) (current : Instant) (seen : MaintenanceState ρ)
  | working (task : MaintenanceTask) (current : Instant)

/-- What follows a task in a tick. -/
def TickStage.after {ρ : Type} (current : Instant) : MaintenanceTask → TickStage ρ
  | .cycleClose => .starting .observationCleanup current
  | .observationCleanup => .idle

/-- A claim that returned true. -/
structure Claim (ω : Type) where
  worker : ω
  task : MaintenanceTask
  at' : Instant

/-- The committed row, the session that holds its lock, the workers, and the claims
made so far. -/
structure MaintenanceSystem (ω ρ : Type) where
  row : Option (MaintenanceState ρ)
  holder : Option ω
  stages : ω → TickStage ρ
  claims : List (Claim ω)

/-- The steps of the workers and of the others that write the row. -/
inductive MaintenanceStep (ω ρ : Type) where
  | tick (worker : ω) (now : Instant)
  | load (worker : ω)
  | insert (worker : ω)
  | lock (worker : ω)
  | decide (worker : ω) (acknowledged : Bool)
  | store (worker : ω) (result : ρ)
  | giveUp (worker : ω)
  | fail (worker : ω)
  | markRetention (current : Instant) (result : ρ)
  | create

namespace MaintenanceSystem

variable {ω ρ : Type} [DecidableEq ω]

def setStage (system : MaintenanceSystem ω ρ) (worker : ω) (stage : TickStage ρ) :
    MaintenanceSystem ω ρ :=
  { system with stages := Function.update system.stages worker stage }

/-- The session of a worker ends without a commit. -/
def abandon (system : MaintenanceSystem ω ρ) (worker : ω) (stage : TickStage ρ) :
    MaintenanceSystem ω ρ :=
  { system.setStage worker stage with
    holder := if system.holder = some worker then none else system.holder }

@[simp] theorem stages_setStage (system : MaintenanceSystem ω ρ) (worker : ω)
    (stage : TickStage ρ) : (system.setStage worker stage).stages worker = stage :=
  Function.update_self ..

theorem stages_setStage_of_ne (system : MaintenanceSystem ω ρ) {worker other : ω}
    (stage : TickStage ρ) (different : other ≠ worker) :
    (system.setStage worker stage).stages other = system.stages other :=
  Function.update_of_ne different ..

@[simp] theorem stages_abandon (system : MaintenanceSystem ω ρ) (worker : ω)
    (stage : TickStage ρ) :
    (system.abandon worker stage).stages = (system.setStage worker stage).stages := rfl

variable [Inhabited ρ]

/-- A transaction of one column, which waits for a lock of the row and inserts the
row where there is none. -/
def write (system : MaintenanceSystem ω ρ) (change : MaintenanceState ρ → MaintenanceState ρ) :
    MaintenanceSystem ω ρ :=
  match system.holder with
  | none => { system with row := some (change (system.row.getD .blank)) }
  | some _ => system

/-- The `db.get` of `get_maintenance_state`. -/
def load (system : MaintenanceSystem ω ρ) (worker : ω) : MaintenanceSystem ω ρ :=
  match system.stages worker, system.row with
  | .starting task current, some row => system.setStage worker (.loaded task current row)
  | .starting task current, none => system.setStage worker (.missing task current)
  | _, _ => system

/-- The insert of `get_maintenance_state`. It waits for another uncommitted insert
and fails where the row has appeared. The session then finds its own row for update. -/
def insert (system : MaintenanceSystem ω ρ) (worker : ω) : MaintenanceSystem ω ρ :=
  match system.stages worker, system.holder, system.row with
  | .missing task current, none, none =>
    { system.setStage worker (.locked task current .blank) with holder := some worker }
  | .missing _ _, none, some _ => system.setStage worker .idle
  | _, _, _ => system

/-- `with_for_update()`: the row is locked; the loaded values stay. -/
def lock (system : MaintenanceSystem ω ρ) (worker : ω) : MaintenanceSystem ω ρ :=
  match system.stages worker, system.holder with
  | .loaded task current seen, none =>
    { system.setStage worker (.locked task current seen) with holder := some worker }
  | _, _ => system

/-- The comparison and the end of the transaction. A commit that took effect may
still raise, which ends the tick. -/
def decide (system : MaintenanceSystem ω ρ) (worker : ω) (acknowledged : Bool) :
    MaintenanceSystem ω ρ :=
  match system.stages worker with
  | .locked task current seen =>
    if Due task (seen.claimedAt task) current then
      { system.abandon worker (if acknowledged then .working task current else .idle) with
        row := some ((system.row.getD .blank).claim current task)
        claims := if acknowledged then system.claims ++ [⟨worker, task, current⟩]
          else system.claims }
    else system.abandon worker (.after current task)
  | _ => system

/-- The task is done and its result is stored. -/
def store (system : MaintenanceSystem ω ρ) (worker : ω) (result : ρ) : MaintenanceSystem ω ρ :=
  match system.stages worker, system.holder with
  | .working task current, none =>
    (system.write (·.storeResult result task)).setStage worker (.after current task)
  | _, _ => system

/-- The task, or the storing of its result, raises, which is only logged. -/
def giveUp (system : MaintenanceSystem ω ρ) (worker : ω) : MaintenanceSystem ω ρ :=
  match system.stages worker with
  | .working task current => system.setStage worker (.after current task)
  | _ => system

/-- A tick begins. -/
def tick (system : MaintenanceSystem ω ρ) (worker : ω) (now : Instant) : MaintenanceSystem ω ρ :=
  match system.stages worker with
  | .idle => system.setStage worker (.starting .cycleClose now)
  | _ => system

end MaintenanceSystem

variable {ω ρ : Type} [DecidableEq ω] [Inhabited ρ]

/-- One step of the system. A failing session, or one whose process is killed, is
rolled back. -/
def maintenanceStep (system : MaintenanceSystem ω ρ) :
    MaintenanceStep ω ρ → MaintenanceSystem ω ρ
  | .tick worker now => system.tick worker now
  | .load worker => system.load worker
  | .insert worker => system.insert worker
  | .lock worker => system.lock worker
  | .decide worker acknowledged => system.decide worker acknowledged
  | .store worker result => system.store worker result
  | .giveUp worker => system.giveUp worker
  | .fail worker => system.abandon worker .idle
  | .markRetention current result => system.write (·.markRetention current result)
  | .create => system.write id

section Spacing

variable {ω ρ : Type}

/-- When the task was last claimed, as committed. -/
def MaintenanceSystem.committedAt (system : MaintenanceSystem ω ρ) (task : MaintenanceTask) :
    Option Instant :=
  system.row.bind (·.claimedAt task)

/-- No worker has begun a tick. -/
structure Resting (system : MaintenanceSystem ω ρ) : Prop where
  idle : ∀ worker, system.stages worker = .idle
  unlocked : system.holder = none
  unclaimed : system.claims = []

/-- Any two claims of a task are a cadence apart, in the order in which they were made. -/
def Spaced (claims : List (Claim ω)) : Prop :=
  claims.Pairwise fun earlier later =>
    earlier.task = later.task → earlier.at' + earlier.task.cadence ≤ later.at'

/-- The claim, if it is due by the loaded row, is due by the committed one. -/
def TickStage.StillDue (system : MaintenanceSystem ω ρ) : TickStage ρ → Prop
  | .loaded task current seen =>
    Due task (seen.claimedAt task) current → Due task (system.committedAt task) current
  | .idle | .starting .. | .missing .. | .locked .. | .working .. => True

/-- A session that takes the lock of the row for a claim that is due by the row it
loaded, finds the task still due by the row as it is committed then. -/
def CurrentLock (system : MaintenanceSystem ω ρ) : MaintenanceStep ω ρ → Prop
  | .lock worker => system.holder = none → (system.stages worker).StillDue system
  | .tick .. | .load _ | .insert _ | .decide .. | .store .. | .giveUp _ | .fail _
  | .markRetention .. | .create => True

instance decidableStillDue (system : MaintenanceSystem ω ρ) (stage : TickStage ρ) :
    Decidable (stage.StillDue system) :=
  match stage with
  | .loaded task current seen =>
    inferInstanceAs (Decidable (Due task (seen.claimedAt task) current → Due task _ current))
  | .idle | .starting .. | .missing .. | .locked .. | .working .. => isTrue trivial

instance decidableCurrentLock (system : MaintenanceSystem ω ρ) (step : MaintenanceStep ω ρ)
    [Decidable (system.holder = none)] : Decidable (CurrentLock system step) :=
  match step with
  | .lock worker => inferInstanceAs (Decidable (_ → (system.stages worker).StillDue system))
  | .tick .. | .load _ | .insert _ | .decide .. | .store .. | .giveUp _ | .fail _
  | .markRetention .. | .create => isTrue trivial

/-- The invariant. The committed row is as late as every claim of its tasks, and a
session that decides holds the lock, so that the row it was compared with stays. -/
structure Sound (system : MaintenanceSystem ω ρ) : Prop where
  spaced : Spaced system.claims
  recorded : ∀ claim ∈ system.claims, ∃ last ∈ system.committedAt claim.task, claim.at' ≤ last
  decides : ∀ worker task current seen, system.stages worker = .locked task current seen →
    system.holder = some worker ∧
      (Due task (seen.claimedAt task) current → Due task (system.committedAt task) current)

theorem Resting.sound {system : MaintenanceSystem ω ρ} (resting : Resting system) :
    Sound system where
  spaced := by
    rw [resting.unclaimed]
    exact List.Pairwise.nil
  recorded claim member := by
    rw [resting.unclaimed] at member
    cases member
  decides worker _ _ _ locked := by
    rw [resting.idle worker] at locked
    cases locked

/-- A row that keeps the times of its claims. -/
theorem committedAt_getD [Inhabited ρ] (system : MaintenanceSystem ω ρ) (task : MaintenanceTask) :
    (system.row.getD .blank).claimedAt task = system.committedAt task := by
  cases row : system.row <;> simp [MaintenanceSystem.committedAt, row]

variable [DecidableEq ω]

variable {system : MaintenanceSystem ω ρ}

/-- A worker that is not decided moves on. -/
theorem Sound.setStage (sound : Sound system) (worker : ω) {stage : TickStage ρ}
    (undecided : ∀ task current seen, stage ≠ .locked task current seen) :
    Sound (system.setStage worker stage) where
  spaced := sound.spaced
  recorded := sound.recorded
  decides other task current seen locked := by
    by_cases same : other = worker
    · subst same
      rw [system.stages_setStage] at locked
      exact absurd locked (undecided task current seen)
    · rw [system.stages_setStage_of_ne stage same] at locked
      exact sound.decides other task current seen locked

/-- A worker that stops leaves the claims as they are. -/
theorem Sound.abandon (sound : Sound system) (worker : ω) {stage : TickStage ρ}
    (undecided : ∀ task current seen, stage ≠ .locked task current seen) :
    Sound (system.abandon worker stage) where
  spaced := sound.spaced
  recorded := sound.recorded
  decides other task current seen locked := by
    by_cases same : other = worker
    · subst same
      rw [system.stages_abandon, system.stages_setStage] at locked
      exact absurd locked (undecided task current seen)
    · rw [system.stages_abandon, system.stages_setStage_of_ne stage same] at locked
      obtain ⟨holds, due⟩ := sound.decides other task current seen locked
      refine ⟨?_, due⟩
      have notWorker : system.holder ≠ some worker := by
        rw [holds]
        exact fun equal => same (Option.some.inj equal)
      exact (if_neg notWorker).trans holds

/-- A session that takes the free lock with a row by which the task is no sooner due. -/
theorem Sound.acquire (sound : Sound system) (worker : ω) {task : MaintenanceTask}
    {current : Instant} {seen : MaintenanceState ρ} (free : system.holder = none)
    (stillDue : Due task (seen.claimedAt task) current →
      Due task (system.committedAt task) current) :
    Sound { system.setStage worker (.locked task current seen) with holder := some worker } where
  spaced := sound.spaced
  recorded := sound.recorded
  decides other otherTask otherCurrent otherSeen locked := by
    by_cases same : other = worker
    · subst same
      have own := (system.stages_setStage other _).symm.trans locked
      cases own
      exact ⟨rfl, stillDue⟩
    · have locked := (system.stages_setStage_of_ne _ same).symm.trans locked
      have held := (sound.decides other otherTask otherCurrent otherSeen locked).1
      rw [free] at held
      cases held

variable [Inhabited ρ]

variable {system : MaintenanceSystem ω ρ}

omit [DecidableEq ω] in
/-- The other columns are written while nobody decides. -/
theorem Sound.write (sound : Sound system) {change : MaintenanceState ρ → MaintenanceState ρ}
    (keeps : ∀ row task, (change row).claimedAt task = row.claimedAt task) :
    Sound (system.write change) := by
  unfold MaintenanceSystem.write
  split
  · rename_i free
    refine ⟨sound.spaced, fun claim member => ?_, fun worker task current seen locked => ?_⟩
    · obtain ⟨last, stored, before⟩ := sound.recorded claim member
      refine ⟨last, ?_, before⟩
      simpa [MaintenanceSystem.committedAt, keeps, committedAt_getD] using stored
    · have held := (sound.decides worker task current seen locked).1
      rw [free] at held
      cases held
  · exact sound

/-- The step of a claim: the row becomes later than every claim before it. -/
theorem Sound.decide (sound : Sound system) (worker : ω) (acknowledged : Bool) :
    Sound (system.decide worker acknowledged) := by
  unfold MaintenanceSystem.decide
  split
  · rename_i task current seen locked
    obtain ⟨holds, stillDue⟩ := sound.decides worker task current seen locked
    by_cases due : Due task (seen.claimedAt task) current
    · rw [if_pos due]
      have earlier : ∀ claim ∈ system.claims, claim.task = task →
          claim.at' + task.cadence ≤ current := by
        intro claim member sameTask
        obtain ⟨last, stored, before⟩ := sound.recorded claim member
        rw [sameTask] at stored
        exact Int.le_trans (Int.add_le_add_right before _) (stillDue due last stored)
      have positive : 0 ≤ task.cadence := by cases task <;> decide
      refine ⟨?_, ?_, ?_⟩
      · cases acknowledged with
        | false => exact sound.spaced
        | true =>
          refine List.pairwise_append.mpr
            ⟨sound.spaced, List.pairwise_singleton _ _, fun claim member later isNew => ?_⟩
          rw [List.mem_singleton.mp isNew]
          intro sameTask
          rw [sameTask]
          exact earlier claim member sameTask
      · intro claim member
        have known : claim ∈ system.claims ∨ claim = ⟨worker, task, current⟩ := by
          cases acknowledged with
          | false => exact Or.inl member
          | true => simpa using member
        change ∃ last ∈ (some ((system.row.getD .blank).claim current task)).bind
          (·.claimedAt claim.task), claim.at' ≤ last
        rcases known with old | rfl
        · by_cases sameTask : claim.task = task
          · refine ⟨current, ?_, ?_⟩
            · simp [sameTask, MaintenanceState.claimedAt_claim]
            · exact Int.le_trans (Int.le_add_of_nonneg_right positive)
                (earlier claim old sameTask)
          · obtain ⟨last, stored, before⟩ := sound.recorded claim old
            refine ⟨last, ?_, before⟩
            simpa [MaintenanceState.claimedAt_claim_of_ne _ _ sameTask, committedAt_getD] using
              stored
        · exact ⟨current, by simp [MaintenanceState.claimedAt_claim], Int.le_refl _⟩
      · -- nobody else decides, and the worker has moved on
        intro other otherTask otherCurrent otherSeen otherLocked
        exfalso
        by_cases same : other = worker
        · subst same
          cases acknowledged <;> simp at otherLocked
        · have otherLocked := (system.stages_setStage_of_ne _ same).symm.trans otherLocked
          have held := (sound.decides other otherTask otherCurrent otherSeen otherLocked).1
          rw [holds] at held
          exact same (Option.some.inj held).symm
    · rw [if_neg due]
      exact sound.abandon worker (by cases task <;> simp [TickStage.after])
  · exact sound

/-- The step lemma. -/
theorem Sound.step (sound : Sound system) (step : MaintenanceStep ω ρ)
    (lock : CurrentLock system step) :
    Sound (maintenanceStep system step) := by
  cases step with
  | tick worker now =>
    change Sound (system.tick worker now)
    unfold MaintenanceSystem.tick
    split
    · exact sound.setStage worker (by simp)
    · exact sound
  | load worker =>
    change Sound (system.load worker)
    unfold MaintenanceSystem.load
    split
    · exact sound.setStage worker (by simp)
    · exact sound.setStage worker (by simp)
    · exact sound
  | insert worker =>
    change Sound (system.insert worker)
    unfold MaintenanceSystem.insert
    split
    · rename_i free absent
      refine sound.acquire worker free fun _ => ?_
      simp [MaintenanceSystem.committedAt, absent, Due]
    · exact sound.setStage worker (by simp)
    · exact sound
  | lock worker =>
    change Sound (system.lock worker)
    unfold MaintenanceSystem.lock
    split
    · rename_i task current seen loaded free
      have stillDue := lock free
      rw [loaded] at stillDue
      exact sound.acquire worker free stillDue
    · exact sound
  | decide worker acknowledged => exact sound.decide worker acknowledged
  | store worker result =>
    change Sound (system.store worker result)
    unfold MaintenanceSystem.store
    split
    · rename_i task current _ _
      exact (sound.write fun _ _ => by simp).setStage worker
        (by cases task <;> simp [TickStage.after])
    · exact sound
  | giveUp worker =>
    change Sound (system.giveUp worker)
    unfold MaintenanceSystem.giveUp
    split
    · rename_i task current _
      exact sound.setStage worker (by cases task <;> simp [TickStage.after])
    · exact sound
  | fail worker => exact sound.abandon worker (by simp)
  | markRetention current result =>
    exact sound.write fun row task => row.claimedAt_markRetention current result task
  | create => exact sound.write fun _ _ => rfl

/-- Where every lock is taken with a current row, any two claims of a task are at
least one cadence apart, after every run of any workers. -/
theorem claims_spaced {start : MaintenanceSystem ω ρ} (resting : Resting start)
    (steps : List (MaintenanceStep ω ρ))
    (current : Along maintenanceStep CurrentLock start steps) :
    Spaced (run maintenanceStep start steps).claims :=
  (run_invariant Sound resting.sound (fun _ step sound lock => sound.step step lock) current).spaced

end Spacing

section Overlap

/-- Nobody has claimed a task yet. -/
def unclaimed : MaintenanceSystem ℕ Unit := ⟨some .blank, none, fun _ => .idle, []⟩

theorem resting_unclaimed : Resting unclaimed := ⟨fun _ => rfl, rfl, rfl⟩

/-- Two workers load the row before either of them has claimed the closing. -/
def overlappingTicks : List (MaintenanceStep ℕ Unit) :=
  [.tick 1 0, .tick 2 0, .load 1, .load 2, .lock 1, .decide 1 true, .lock 2, .decide 2 true]

/-- The second worker loads the row after the claim of the first, waits and is refused. -/
def successiveTicks : List (MaintenanceStep ℕ Unit) :=
  [.tick 1 0, .tick 2 0, .load 1, .lock 1, .decide 1 true, .load 2, .lock 2, .decide 2 true,
    .store 1 (), .load 1, .load 2, .lock 2, .decide 2 true]

instance decidableSpaced {ω : Type} (claims : List (Claim ω)) : Decidable (Spaced claims) :=
  inferInstanceAs (Decidable (List.Pairwise _ claims))

/-- The second session waits for the lock and then compares the row it has loaded. -/
theorem overlapping_ticks_claim_twice :
    ¬∀ steps : List (MaintenanceStep ℕ Unit),
      Spaced (run maintenanceStep unclaimed steps).claims := by
  intro always
  exact absurd (always overlappingTicks) (by decide +kernel)

theorem claims_spaced_successiveTicks :
    Spaced (run maintenanceStep unclaimed successiveTicks).claims :=
  claims_spaced resting_unclaimed successiveTicks (by decide +kernel)

end Overlap

end FinopsAnalytics.MaintenanceClaims
