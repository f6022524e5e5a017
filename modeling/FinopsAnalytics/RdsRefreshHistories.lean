import FinopsAnalytics.RdsReservationsPipeline

/-!
# Refreshes that crash, and the refresh after them

An execution may end after any number of its transactions. What it leaves is
told by its point: the run of an execution that ended in its inventory or its
coverage stage is still running and the next refresh recovers it. A run whose
coverage is committed is completed, so an execution that ended in its
opportunities stage leaves a row that the recovery does not select.
-/

namespace FinopsAnalytics.RdsRefreshHistories

open PythonText UniqueTables RdsReservationsPipeline

/-- No status of the run says that it is running. -/
def Settled (run : PipelineRun) : Prop :=
  run.status ≠ .running ∧ run.inventoryStatus ≠ .running ∧ run.opportunityStatus ≠ .running

/-- The run is in its inventory or in its coverage stage. -/
def Pending (run : PipelineRun) : Prop :=
  run.status = .running ∧ run.opportunityStatus ≠ .running ∧ run.pipelineStage ≠ .opportunities ∧
    (run.inventoryStatus = .running → run.pipelineStage = .inventory)

/-- The coverage of the run is completed and its opportunities are running. -/
def Stuck (run : PipelineRun) : Prop :=
  run.status = .completed ∧ run.inventoryStatus ≠ .running ∧ run.opportunityStatus = .running

theorem not_stuck_of_settled {run : PipelineRun} (settled : Settled run) : ¬ Stuck run :=
  fun stuck => settled.2.2 stuck.2.2

theorem not_stuck_of_pending {run : PipelineRun} (pending : Pending run) : ¬ Stuck run :=
  fun stuck => pending.2.1 stuck.2.2

section Recovery

variable {now : Instant} {run : PipelineRun}

/-- The recovery touches running runs only. -/
theorem recoverIfAbandoned_of_not_running (idle : run.status ≠ .running) :
    recoverIfAbandoned now run = run := by
  simp [recoverIfAbandoned, abandoned, idle]

/-- A pending run that is old enough is settled by the recovery. -/
theorem settled_of_recovered (pending : Pending run)
    (old : run.startedAt < now - runningTimeout) : Settled (recoverIfAbandoned now run) := by
  obtain ⟨running, opportunities, stage, inventory⟩ := pending
  have found : abandoned now run = true := by simp [abandoned, running, old]
  rw [recoverIfAbandoned, if_pos found, recoverRun]
  cases reached : run.pipelineStage with
  | inventory => exact ⟨by simp, by simp, opportunities⟩
  | opportunities => exact absurd reached stage
  | coverage =>
    exact ⟨by simp, fun still => by simp [inventory still] at reached, opportunities⟩
  | completed =>
    exact ⟨by simp, fun still => by simp [inventory still] at reached, opportunities⟩

/-- A pending run stays pending or is settled. -/
theorem recovered_pending (pending : Pending run) :
    Pending (recoverIfAbandoned now run) ∨ Settled (recoverIfAbandoned now run) := by
  by_cases old : run.startedAt < now - runningTimeout
  · exact Or.inr (settled_of_recovered pending old)
  · left
    simpa [recoverIfAbandoned, abandoned, old] using pending

/-- The recovery neither makes nor ends a stuck run. -/
theorem stuck_recovered : Stuck (recoverIfAbandoned now run) ↔ Stuck run := by
  by_cases idle : run.status = .running
  · have before : ¬ Stuck run := fun stuck => by simp [Stuck, idle] at stuck
    refine ⟨fun stuck => ?_, fun stuck => absurd stuck before⟩
    by_cases found : abandoned now run = true
    · rw [recoverIfAbandoned, if_pos found, recoverRun] at stuck
      cases reached : run.pipelineStage <;> simp [reached, Stuck] at stuck
    · rwa [recoverIfAbandoned, if_neg found] at stuck
  · rw [recoverIfAbandoned_of_not_running idle]

theorem mem_recoverAbandonedRuns {runs : Runs} : run ∈ (recoverAbandonedRuns runs now).rows ↔
    ∃ found ∈ runs.rows, recoverIfAbandoned now found = run :=
  List.mem_map

end Recovery

/-- What the row of the execution's own run looks like at a point. -/
def OwnRow : Point → PipelineRun → Prop
  | .collecting id, run => run.id = id ∧ Pending run
  | .preparing (some id), run => run.id = id ∧ Pending run ∧ run.inventoryStatus ≠ .running
  | .calculating id _, run => run.id = id ∧ Pending run ∧ run.inventoryStatus ≠ .running
  | .entering id, run => run.id = id ∧ Settled run ∧ run.status = .completed
  | .generating id, run => run.id = id ∧ Stuck run
  | .finishing id, run => run.id = id ∧ Stuck run
  | .done, run => Settled run
  | _, _ => False

/-- The run of the execution at a point. -/
def ownId : Point → Option ℤ
  | .collecting id => some id
  | .preparing id => id
  | .calculating id _ => some id
  | .entering id => some id
  | .generating id => some id
  | .finishing id => some id
  | _ => none

/-- An execution past its recovery keeps the rows that it found and has at most
one row of its own. -/
structure Progress (base : Runs) (reached : Runs × Point) : Prop where
  kept : ∀ run ∈ base.rows, run ∈ reached.1.rows
  own : ∀ run ∈ reached.1.rows, run ∈ base.rows ∨
    run.id ∉ base.rows.map runId ∧ OwnRow reached.2 run
  present : ∀ id, ownId reached.2 = some id →
    id ∉ base.rows.map runId ∧ ∃ run ∈ reached.1.rows, run.id = id

section Progress

variable {base runs : Runs} {point next : Point} {id : ℤ}

/-- The own run changes in place. -/
theorem Progress.update {change : PipelineRun → PipelineRun}
    (progress : Progress base (runs, point)) (owner : ownId point = some id)
    (keeps : ∀ run, (change run).id = run.id)
    (named : ∀ run, OwnRow point run → run.id = id)
    (forms : ∀ run, OwnRow point run → OwnRow next (change run))
    (nextOwner : ∀ other, ownId next = some other → other = id) :
    Progress base (updateRun runs id change, next) := by
  obtain ⟨foreign, run, member, rfl⟩ := progress.present id owner
  have found : runs.find? run.id = some run := Table.find?_eq_some.mpr ⟨member, rfl⟩
  have updated : updateRun runs run.id change = runs.put (change run) := by
    simp [updateRun, found]
  have rows (row : PipelineRun) : row ∈ (runs.put (change run)).rows ↔
      row = change run ∨ row ∈ runs.rows ∧ row.id ≠ (change run).id :=
    Table.mem_put member (keeps run).symm (keeps run).symm
  have notBase : run ∉ base.rows := fun listed => foreign (List.mem_map.mpr ⟨run, listed, rfl⟩)
  have form : OwnRow point run :=
    ((progress.own run member).resolve_left notBase).2
  rw [updated]
  refine ⟨fun row listed => ?_, fun row listed => ?_, fun other owned => ?_⟩
  · rw [rows, keeps]
    refine Or.inr ⟨progress.kept row listed, fun same => foreign ?_⟩
    exact List.mem_map.mpr ⟨row, listed, same⟩
  · rcases (rows row).mp listed with rfl | ⟨old, different⟩
    · exact Or.inr ⟨by rwa [keeps], forms run form⟩
    · rcases progress.own row old with inBase | ⟨-, own⟩
      · exact Or.inl inBase
      · exact absurd (named row own) (by rwa [keeps] at different)
  · obtain rfl := nextOwner other owned
    exact ⟨foreign, change run, (rows _).mpr (Or.inl rfl), keeps run⟩

/-- The own run is added. -/
theorem Progress.add {added : Runs} {run : PipelineRun} (progress : Progress base (runs, point))
    (unowned : ∀ row, ¬ OwnRow point row) (inserted : addRun runs run = some added)
    (form : OwnRow next { run with id := runs.nextNumber })
    (nextOwner : ownId next = some runs.nextNumber) : Progress base (added, next) := by
  obtain ⟨rows, fresh, -⟩ := Table.rows_of_insert inserted
  have foreign : runs.nextNumber ∉ base.rows.map runId := by
    intro listed
    obtain ⟨row, member, same⟩ := List.mem_map.mp listed
    exact fresh (List.mem_map.mpr ⟨row, progress.kept row member, same⟩)
  refine ⟨fun row listed => ?_, fun row listed => ?_, fun other owned => ?_⟩
  · rw [rows]
    exact List.mem_append_left _ (progress.kept row listed)
  · rw [rows] at listed
    rcases List.mem_append.mp listed with old | last
    · rcases progress.own row old with inBase | ⟨-, own⟩
      · exact Or.inl inBase
      · exact absurd own (unowned row)
    · obtain rfl := List.mem_singleton.mp last
      exact Or.inr ⟨foreign, form⟩
  · obtain rfl : runs.nextNumber = other := Option.some.inj (nextOwner.symm.trans owned)
    exact ⟨foreign, _, by rw [rows]; exact List.mem_append_right _ (List.mem_singleton.mpr rfl), rfl⟩

/-- The rows stay as they are. -/
theorem Progress.stay (progress : Progress base (runs, point))
    (forms : ∀ run, OwnRow point run → OwnRow next run)
    (nextOwner : ∀ other, ownId next = some other → ownId point = some other) :
    Progress base (runs, next) where
  kept := progress.kept
  own run member := (progress.own run member).imp_right fun ⟨foreign, own⟩ =>
    ⟨foreign, forms run own⟩
  present other owned := progress.present other (nextOwner other owned)

end Progress

section Steps

variable [CaseMapping] {call : Call} {base : Runs}

/-- One transaction after the recovery. -/
theorem Progress.step {runs : Runs} {point : Point} (progress : Progress base (runs, point))
    (past : point ≠ .recovering) : Progress base (step call runs point) := by
  cases point with
  | recovering => exact absurd rfl past
  | claiming =>
    simp only [RdsReservationsPipeline.step]
    split_ifs with busy
    · exact progress.stay (by simp [OwnRow]) (by simp [ownId])
    · split
      · rename_i added inserted
        refine progress.add (by simp [OwnRow]) inserted ⟨rfl, ?_⟩ rfl
        exact ⟨rfl, by simp [newPipelineRun], by simp [newPipelineRun], fun _ => rfl⟩
      · exact progress.stay (by simp [OwnRow]) (by simp [ownId])
  | collecting id =>
    have failed (detail error : String) : Progress base
        (updateRun runs id (inventoryFailed call detail error), .done) :=
      progress.update rfl (fun _ => rfl) (fun _ own => own.1)
        (fun run own => ⟨by simp [inventoryFailed], by simp [inventoryFailed], own.2.2.1⟩)
        (by simp [ownId])
    simp only [RdsReservationsPipeline.step]
    split
    · exact failed _ _
    · exact failed _ _
    · refine progress.update rfl (fun _ => rfl) (fun _ own => own.1) (fun run own => ?_)
        (by simp [ownId])
      obtain ⟨named, running, opportunities, -, -⟩ := own
      exact ⟨named, ⟨running, opportunities, by simp [inventoryCompleted],
        by simp [inventoryCompleted]⟩, by simp [inventoryCompleted]⟩
  | preparing own =>
    cases own with
    | none =>
      simp only [RdsReservationsPipeline.step]
      split
      · rename_i added inserted
        refine progress.add (by simp [OwnRow]) inserted ⟨rfl, ?_, by simp [newCoverageRun]⟩ rfl
        exact ⟨rfl, by simp [newCoverageRun, newPipelineRun], by simp [newCoverageRun],
          by simp [newCoverageRun]⟩
      · exact progress.stay (by simp [OwnRow]) (by simp [ownId])
    | some id =>
      refine progress.update rfl (fun _ => rfl) (fun _ own => own.1) (fun run own => ?_)
        (by simp [ownId])
      obtain ⟨named, ⟨-, opportunities, -, -⟩, inventory⟩ := own
      exact ⟨named, ⟨rfl, opportunities, by simp [prepared],
        fun still => absurd still inventory⟩, inventory⟩
  | calculating id direct =>
    simp only [RdsReservationsPipeline.step]
    split
    · refine progress.update rfl (fun _ => rfl) (fun _ own => own.1) (fun run own => ?_)
        (by simp [ownId])
      obtain ⟨-, ⟨-, opportunities, -, -⟩, inventory⟩ := own
      exact ⟨by simp [coverageFailed], inventory, opportunities⟩
    · rename_i figures observation calculated
      have columns (run : PipelineRun) (stage : PipelineStage) :
          let written :=
            withCoverage run figures observation call.inputs.coverageCompletedAt stage
          written.id = run.id ∧ written.status = .completed ∧
            written.inventoryStatus = run.inventoryStatus ∧
            written.opportunityStatus = run.opportunityStatus := by
        cases observation with
        | none => exact ⟨rfl, rfl, rfl, rfl⟩
        | some found => exact ⟨rfl, rfl, rfl, rfl⟩
      refine progress.update rfl (fun run => (columns run _).1) (fun _ own => own.1)
        (fun run own => ?_) (by simp [ownId])
      obtain ⟨named, ⟨-, opportunities, -, -⟩, inventory⟩ := own
      obtain ⟨sameId, completed, sameInventory, sameOpportunities⟩ :=
        columns run (if direct then .opportunities else .coverage)
      exact ⟨sameId.trans named, ⟨by simp [completed], by rwa [sameInventory],
        by rwa [sameOpportunities]⟩, completed⟩
  | entering id =>
    refine progress.update rfl (fun _ => rfl) (fun _ own => own.1) (fun run own => ?_)
      (by simp [ownId])
    obtain ⟨named, ⟨-, inventory, -⟩, completed⟩ := own
    exact ⟨named, completed, inventory, rfl⟩
  | generating id =>
    simp only [RdsReservationsPipeline.step]
    split
    · refine progress.update rfl (fun _ => rfl) (fun _ own => own.1) (fun run own => ?_)
        (by simp [ownId])
      obtain ⟨-, completed, inventory, -⟩ := own
      exact ⟨by simp [opportunitiesFailed, completed], inventory, by simp [opportunitiesFailed]⟩
    · exact progress.stay (fun _ own => own) (fun _ owned => owned)
  | finishing id =>
    refine progress.update rfl (fun _ => rfl) (fun _ own => own.1) (fun run own => ?_)
      (by simp [ownId])
    obtain ⟨-, completed, inventory, -⟩ := own
    exact ⟨by simp [opportunitiesCompleted, completed], inventory, by simp [opportunitiesCompleted]⟩
  | done => exact progress.stay (fun _ own => own) (fun _ owned => owned)

/-- No transaction leads back to the recovery. -/
theorem step_past (call : Call) (runs : Runs) (point : Point) :
    (step call runs point).2 ≠ .recovering := by
  fun_cases RdsReservationsPipeline.step call runs point <;> simp

/-- Transactions after the recovery, as many as the execution commits. -/
theorem Progress.execute {reached : Runs × Point} (progress : Progress base reached)
    (past : reached.2 ≠ .recovering) (count : ℕ) :
    Progress base (executeFrom call count reached) := by
  induction count generalizing reached with
  | zero => exact progress
  | succ count inductionHypothesis =>
    exact inductionHypothesis (progress.step past) (step_past call reached.1 reached.2)

end Steps

/-- What an execution runs. -/
inductive Kind where
  | refresh | coverage
deriving DecidableEq, Repr

def Kind.start : Kind → Point
  | .refresh => .recovering
  | .coverage => .preparing none

/-- An execution with the number of transactions that it commits before it ends
or its process crashes. -/
structure Execution where
  kind : Kind
  call : Call
  transactions : ℕ

section Histories

variable [CaseMapping]

/-- What the execution leaves, and where it ended. -/
def Execution.leaves (execution : Execution) (runs : Runs) : Runs × Point :=
  executeFrom execution.call execution.transactions (runs, execution.kind.start)

/-- The table after a history of executions, the latest first. -/
def after : List Execution → Runs
  | [] => Table.empty _ _
  | execution :: earlier => (execution.leaves (after earlier)).1

/-- The execution was in its opportunities stage. -/
def inOpportunities : Point → Bool
  | .generating _ => true
  | .finishing _ => true
  | _ => false

/-- Some execution of the history ended in its opportunities stage. -/
def interruptedInOpportunities : List Execution → Prop
  | [] => False
  | execution :: earlier =>
    inOpportunities (execution.leaves (after earlier)).2 ∨ interruptedInOpportunities earlier

/-- What an execution finds once it is past its recovery. -/
def Execution.base (execution : Execution) (runs : Runs) : Runs :=
  if execution.kind = .refresh ∧ execution.transactions ≠ 0 then
    recoverAbandonedRuns runs execution.call.now
  else runs

/-- An execution only adds a row of its own to what it found. -/
theorem progress_leaves (execution : Execution) (runs : Runs) :
    Progress (execution.base runs) (execution.leaves runs) := by
  have unowned {point : Point} (none : ownId point = none) (found : Runs) :
      Progress found (found, point) :=
    ⟨fun _ member => member, fun _ member => Or.inl member, fun id owned => by
      rw [none] at owned
      exact absurd owned (by simp)⟩
  obtain ⟨kind, call, transactions⟩ := execution
  cases kind with
  | coverage =>
    simp only [Execution.base, Execution.leaves, Kind.start, reduceCtorEq, false_and, if_false]
    exact (unowned rfl runs).execute (by simp) transactions
  | refresh =>
    cases transactions with
    | zero => exact unowned rfl runs
    | succ count =>
      have past : Progress (recoverAbandonedRuns runs call.now)
          (executeFrom call count (recoverAbandonedRuns runs call.now, .claiming)) :=
        (unowned rfl _).execute (by simp) count
      have found : Execution.base ⟨.refresh, call, count + 1⟩ runs =
          recoverAbandonedRuns runs call.now := by simp [Execution.base]
      rw [found]
      exact past

/-- Every run is settled, pending or stuck. -/
def Classified (runs : Runs) : Prop :=
  ∀ run ∈ runs.rows, Settled run ∨ Pending run ∨ Stuck run

omit [CaseMapping] in
theorem classified_of_own {point : Point} {run : PipelineRun} (own : OwnRow point run) :
    Settled run ∨ Pending run ∨ Stuck run := by
  cases point with
  | collecting id => exact Or.inr (Or.inl own.2)
  | preparing id =>
    cases id with
    | none => exact own.elim
    | some id => exact Or.inr (Or.inl own.2.1)
  | calculating id direct => exact Or.inr (Or.inl own.2.1)
  | entering id => exact Or.inl own.2.1
  | generating id => exact Or.inr (Or.inr own.2)
  | finishing id => exact Or.inr (Or.inr own.2)
  | done => exact Or.inl own
  | recovering => exact own.elim
  | claiming => exact own.elim

omit [CaseMapping] in
/-- The own row is stuck exactly in the opportunities stage. -/
theorem stuck_of_own {point : Point} {run : PipelineRun} (own : OwnRow point run) :
    Stuck run ↔ inOpportunities point = true := by
  cases point with
  | collecting id => simp [inOpportunities, not_stuck_of_pending own.2]
  | preparing id =>
    cases id with
    | none => exact own.elim
    | some id => simp [inOpportunities, not_stuck_of_pending own.2.1]
  | calculating id direct => simp [inOpportunities, not_stuck_of_pending own.2.1]
  | entering id => simp [inOpportunities, not_stuck_of_settled own.2.1]
  | generating id => simp [inOpportunities, own.2]
  | finishing id => simp [inOpportunities, own.2]
  | done => simp [inOpportunities, not_stuck_of_settled own]
  | recovering => exact own.elim
  | claiming => exact own.elim

omit [CaseMapping] in
/-- The runs past the recovery come from the runs before it. -/
theorem classified_base {execution : Execution} {runs : Runs} (classified : Classified runs) :
    Classified (execution.base runs) := by
  unfold Execution.base
  split_ifs
  · intro run member
    obtain ⟨found, listed, rfl⟩ := mem_recoverAbandonedRuns.mp member
    rcases classified found listed with settled | pending | stuck
    · rw [recoverIfAbandoned_of_not_running settled.1]
      exact Or.inl settled
    · rcases recovered_pending pending with still | settled
      · exact Or.inr (Or.inl still)
      · exact Or.inl settled
    · exact Or.inr (Or.inr (stuck_recovered.mpr stuck))
  · exact classified

/-- Every reachable table holds settled, pending and stuck runs only. -/
theorem classified_after (history : List Execution) : Classified (after history) := by
  induction history with
  | nil => intro run member; cases member
  | cons execution earlier inductionHypothesis =>
    intro run member
    rcases (progress_leaves execution (after earlier)).own run member with inBase | ⟨-, own⟩
    · exact classified_base inductionHypothesis run inBase
    · exact classified_of_own own

omit [CaseMapping] in
theorem stuck_base {execution : Execution} {runs : Runs} :
    (∃ run ∈ (execution.base runs).rows, Stuck run) ↔ ∃ run ∈ runs.rows, Stuck run := by
  unfold Execution.base
  split_ifs
  · constructor
    · rintro ⟨run, member, stuck⟩
      obtain ⟨found, listed, rfl⟩ := mem_recoverAbandonedRuns.mp member
      exact ⟨found, listed, stuck_recovered.mp stuck⟩
    · rintro ⟨run, member, stuck⟩
      exact ⟨_, mem_recoverAbandonedRuns.mpr ⟨run, member, rfl⟩, stuck_recovered.mpr stuck⟩
  · rfl

/-- A reachable table holds a stuck run exactly after an execution that ended in
its opportunities stage. -/
theorem stuck_after (history : List Execution) :
    (∃ run ∈ (after history).rows, Stuck run) ↔ interruptedInOpportunities history := by
  induction history with
  | nil => simp [after, interruptedInOpportunities, Table.empty]
  | cons execution earlier inductionHypothesis =>
    have progress := progress_leaves execution (after earlier)
    have found : (∃ run ∈ (execution.base (after earlier)).rows, Stuck run) ↔
        interruptedInOpportunities earlier := stuck_base.trans inductionHypothesis
    rw [interruptedInOpportunities, ← found]
    constructor
    · rintro ⟨run, member, stuck⟩
      rcases progress.own run member with inBase | ⟨-, own⟩
      · exact Or.inr ⟨run, inBase, stuck⟩
      · exact Or.inl ((stuck_of_own own).mp stuck)
    · rintro (ended | ⟨run, inBase, stuck⟩)
      · obtain ⟨id, owned⟩ : ∃ id, ownId (execution.leaves (after earlier)).2 = some id := by
          cases reached : (execution.leaves (after earlier)).2 <;>
            simp [reached, inOpportunities, ownId] at ended ⊢
        obtain ⟨foreign, run, member, rfl⟩ := progress.present id owned
        rcases progress.own run member with inBase | ⟨-, own⟩
        · exact absurd (List.mem_map.mpr ⟨run, inBase, rfl⟩) foreign
        · exact ⟨run, member, (stuck_of_own own).mpr ended⟩
      · exact ⟨run, progress.kept run inBase, stuck⟩

/-- What the next refresh leaves of the runs before it, in whatever stage it ends
itself: it settles all of them exactly where no earlier execution ended in its
opportunities stage, and it never takes a completed coverage back. -/
theorem refresh_recovers {history : List Execution} {next : Execution}
    (refresh : next.kind = .refresh) (started : next.transactions ≠ 0)
    (timedOut : ∀ run ∈ (after history).rows, run.status = .running →
      run.startedAt < next.call.now - runningTimeout) :
    ((∀ run ∈ (after history).rows, ∃ left ∈ (next.leaves (after history)).1.rows,
        left.id = run.id ∧ Settled left) ↔ ¬ interruptedInOpportunities history) ∧
      ∀ run ∈ (after history).rows, run.status = .completed →
        ∃ left ∈ (next.leaves (after history)).1.rows, left.id = run.id ∧
          left.status = .completed := by
  have progress := progress_leaves next (after history)
  rw [Execution.base, if_pos ⟨refresh, started⟩] at progress
  have left {run : PipelineRun} (member : run ∈ (after history).rows) :
      recoverIfAbandoned next.call.now run ∈ (next.leaves (after history)).1.rows :=
    progress.kept _ (mem_recoverAbandonedRuns.mpr ⟨run, member, rfl⟩)
  constructor
  · rw [← stuck_after]
    constructor
    · rintro settles ⟨run, member, stuck⟩
      obtain ⟨found, listed, sameId, settled⟩ := settles run member
      have same : found = recoverIfAbandoned next.call.now run :=
        Table.eq_of_key _ listed (left member)
          (sameId.trans (id_recoverIfAbandoned next.call.now run).symm)
      exact not_stuck_of_settled settled (same ▸ stuck_recovered.mpr stuck)
    · intro noneStuck run member
      refine ⟨_, left member, id_recoverIfAbandoned next.call.now run, ?_⟩
      rcases classified_after history run member with settled | pending | stuck
      · rwa [recoverIfAbandoned_of_not_running settled.1]
      · exact settled_of_recovered pending (timedOut run member pending.1)
      · exact absurd ⟨run, member, stuck⟩ noneStuck
  · intro run member completed
    have idle : run.status ≠ .running := by simp [completed]
    refine ⟨_, left member, id_recoverIfAbandoned next.call.now run, ?_⟩
    rw [recoverIfAbandoned_of_not_running idle, completed]

end Histories

section Samples

attribute [local instance] asciiCase

/-- Stages that succeed, over an empty inventory. -/
private def sampleInputs : StageInputs where
  inventory := .ok []
  inventoryCompletedAt := 1
  oldestCollectedAt := none
  instances := .ok []
  reservations := []
  billing := .ok (none, "NOT_AVAILABLE", "")
  coverageCompletedAt := 2
  opportunities := .ok ()
  finishedAt := 3

private def sampleCall (now : Instant) : Call := ⟨now, false, sampleInputs⟩

/-- A refresh that crashes after its coverage stage has begun. -/
private def sampleCoverageCrash : Execution := ⟨.refresh, sampleCall 0, 4⟩

/-- A refresh that crashes after its opportunities stage has begun. -/
private def sampleOpportunitiesCrash : Execution := ⟨.refresh, sampleCall 0, 6⟩

/-- The refresh three hours later. -/
private def sampleNext : Execution := ⟨.refresh, sampleCall (hours 3), 8⟩

theorem refresh_recovers_sample :
    (after [sampleCoverageCrash]).rows ≠ [] ∧
      ∀ run ∈ (after [sampleCoverageCrash]).rows,
        ∃ left ∈ (sampleNext.leaves (after [sampleCoverageCrash])).1.rows,
          left.id = run.id ∧ Settled left := by
  refine ⟨by decide +kernel, (refresh_recovers rfl (by decide) (by decide +kernel)).1.mpr ?_⟩
  rintro (ended | none)
  · exact absurd ended (by decide +kernel)
  · exact none

/-- The refresh after a crash in the opportunities stage leaves its status running. -/
theorem opportunities_crash_unrecovered : ¬ ∀ (history : List Execution) (next : Execution),
    next.kind = .refresh → next.transactions ≠ 0 →
    (∀ run ∈ (after history).rows, run.status = .running →
      run.startedAt < next.call.now - runningTimeout) →
    ∀ run ∈ (after history).rows, ∃ left ∈ (next.leaves (after history)).1.rows,
      left.id = run.id ∧ Settled left := by
  intro claimed
  have settles := claimed [sampleOpportunitiesCrash] sampleNext rfl (by decide) (by decide +kernel)
  have crashed : ∃ run ∈ (after [sampleOpportunitiesCrash]).rows,
      ∀ left ∈ (sampleNext.leaves (after [sampleOpportunitiesCrash])).1.rows,
        left.id = run.id → left.opportunityStatus = .running := by decide +kernel
  obtain ⟨run, member, stillRunning⟩ := crashed
  obtain ⟨left, listed, sameId, settled⟩ := settles run member
  exact settled.2.2 (stillRunning left listed sameId)

end Samples

end FinopsAnalytics.RdsRefreshHistories
