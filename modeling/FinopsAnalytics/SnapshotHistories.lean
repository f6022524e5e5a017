import FinopsAnalytics.CycleHistories
import FinopsAnalytics.ObservationHistories

/-!
# Histories of snapshots

Collections, cleanups and decisions write the records while cycles are created
and closed, by an operator, with an archive or automatically, in any order. A
transaction that closes a cycle writes its snapshots; no transaction touches a
closed cycle or its snapshots again.
-/

namespace FinopsAnalytics.SnapshotHistories

open UniqueTables OpportunityRecords TransactionHistories Fallible PythonText
  OpportunityBulkArchiving OpportunityCollection OpportunityArchiving OpportunityFingerprint
  OpportunityOperations RdsReservationVerdicts OpportunityHistoryCycles CycleOperations
  CycleClosings CycleHistories PeriodClosing PeriodSnapshots ObservationHistories

/-- What can happen to the history and to the records below it. -/
inductive HistoryOperation where
  | create (periodStart periodEnd : Instant) (label timezone : String)
  | current (policy : OpportunityManagementPolicy) (timestamp : Instant)
  | close (cycleId : String) (actor : Option String) (reason : CloseReason)
  | closePeriod (cycleId : String) (filters : OpportunityFilters) (archiveAll : Bool)
      (actor : String)
  | succeed (cycleId : String) (policy : OpportunityManagementPolicy)
  | adopt (policy : OpportunityManagementPolicy)
  | autoClose (policy : OpportunityManagementPolicy) (now : Instant)
  | record (operation : Operation)
  | elsewhere (others : Store)

section Step

/-- What one transaction does to the cycles and their snapshots, over observations
that stay. -/
structure CycleStep [UuidSource] [CaseMapping] [DocumentRuntime] (before after : HistoryStore) :
    Prop where
  sound : Sound after
  findings : after.records.findings = before.records.findings
  observations : after.records.observations = before.records.observations
  carried : ∀ cycle ∈ before.cycles.rows, ∃ row ∈ after.cycles.rows,
    row.id = cycle.id ∧ row.period = cycle.period
  closed : ∀ cycle ∈ before.cycles.rows, cycle.status = .closed → cycle ∈ after.cycles.rows
  kept : ∀ cycle ∈ before.cycles.rows, cycle.status = .closed →
    snapshotsOf after cycle.id = snapshotsOf before cycle.id
  captured : Linked before.records → ∀ row ∈ after.cycles.rows, row.status = .closed →
    row ∈ before.cycles.rows ∨ Captures before.records row (snapshotsOf after row.id)

variable [UuidSource] [CaseMapping] [DocumentRuntime]

omit [UuidSource] in
/-- What is captured depends on the observations and on the period. -/
theorem Captures.congr {first second : Store} {cycle other : OpportunityHistoryCycle}
    {snapshots : List OpportunityHistorySnapshot}
    (observations : first.observations = second.observations) (period : cycle.period = other.period)
    (captures : Captures first cycle snapshots) : Captures second other snapshots := by
  obtain ⟨start, stop⟩ := Prod.mk.inj period
  have same (opportunity : String) :
      observedIn first cycle opportunity = observedIn second other opportunity := by
    simp only [observedIn, OpportunityHistoryCycle.contains, observations, start, stop]
  refine ⟨captures.distinct, fun named => ?_, fun snapshot listed opportunity named => ?_⟩
  · simp only [captures.members, same]
  · rw [← same]
    exact captures.summarizes snapshot listed opportunity named

theorem CycleStep.refl {store : HistoryStore} (sound : Sound store) : CycleStep store store where
  sound := sound
  findings := rfl
  observations := rfl
  carried cycle member := ⟨cycle, member, rfl, rfl⟩
  closed _ member _ := member
  kept _ _ _ := rfl
  captured _ _ member _ := Or.inl member

omit [UuidSource] [CaseMapping] [DocumentRuntime] in
theorem linked_congr {first second : Store} (findings : second.findings = first.findings)
    (observations : second.observations = first.observations) (linked : Linked first) :
    Linked second := by
  intro row member
  rw [findings]
  exact linked row (observations ▸ member)

/-- Steps on cycles compose. -/
theorem CycleStep.trans {first second third : HistoryStore} (before : CycleStep first second)
    (after : CycleStep second third) : CycleStep first third := by
  refine ⟨after.sound, after.findings.trans before.findings,
    after.observations.trans before.observations, ?_, ?_, ?_, ?_⟩
  · intro cycle member
    obtain ⟨middle, middleMember, sameId, samePeriod⟩ := before.carried cycle member
    obtain ⟨last, lastMember, lastId, lastPeriod⟩ := after.carried middle middleMember
    exact ⟨last, lastMember, lastId.trans sameId, lastPeriod.trans samePeriod⟩
  · intro cycle member closed
    exact after.closed cycle (before.closed cycle member closed) closed
  · intro cycle member closed
    exact (after.kept cycle (before.closed cycle member closed) closed).trans
      (before.kept cycle member closed)
  · intro linked row member closed
    rcases after.captured (linked_congr before.findings before.observations linked) row member
      closed with old | captures
    · -- closed by the first step, and kept by the second
      rw [after.kept row old closed]
      exact before.captured linked row old closed
    · exact Or.inr (Captures.congr before.observations rfl captures)

/-- A cycle that a step closed is captured. -/
theorem CycleStep.captures {before after : HistoryStore} (step : CycleStep before after)
    (linked : Linked before.records) {cycle row : OpportunityHistoryCycle}
    (member : cycle ∈ before.cycles.rows) (opened : cycle.status = .open_)
    (rowMember : row ∈ after.cycles.rows) (sameId : row.id = cycle.id)
    (closed : row.status = .closed) :
    Captures before.records cycle (snapshotsOf after cycle.id) := by
  obtain ⟨next, nextMember, nextId, period⟩ := step.carried cycle member
  obtain rfl := after.cycles.eq_of_key nextMember rowMember (nextId.trans sameId.symm)
  rcases step.captured linked next nextMember closed with old | captures
  · obtain rfl := before.cycles.eq_of_key old member nextId
    simp [opened] at closed
  · rw [← nextId]
    exact Captures.congr rfl period captures

end Step

section Steps

variable [UuidSource] [SystemClock] [CaseMapping] [DocumentRuntime] [TimeZones]

variable {store : HistoryStore} {result : HistoryStore × OpportunityHistoryCycle}
  {policy : OpportunityManagementPolicy}

omit [SystemClock] [TimeZones] in
/-- A created cycle is open and has no snapshots. -/
theorem cycleStep_createCycle (sound : Sound store) {start stop : Instant} {label timezone : String}
    {policy : Option OpportunityManagementPolicy}
    (created : createCycle store start stop label timezone policy = .ok result) :
    CycleStep store result.1 := by
  obtain ⟨next, cycle⟩ := result
  obtain ⟨rfl, rows, records, snapshots⟩ := createCycle_eq_ok created
  have known {row : OpportunityHistoryCycle} (member : row ∈ store.cycles.rows) :
      row ∈ next.cycles.rows := by
    rw [rows]
    exact List.mem_append_left _ member
  have findings : next.records.findings = store.records.findings := by
    rw [records]
    rfl
  have observations : next.records.observations = store.records.observations := by
    rw [records]
    rfl
  refine ⟨createCycle_sound sound created, findings, observations, fun row member => ⟨row, known member, rfl, rfl⟩,
    fun row member _ => known member, fun row _ _ => ?_, fun _ row member closed => ?_⟩
  · simp only [snapshotsOf, snapshots]
  · rw [rows, List.mem_append, List.mem_singleton] at member
    rcases member with old | rfl
    · exact Or.inl old
    · cases closed

omit [SystemClock] in
theorem cycleStep_getOrCreateCycleFor (sound : Sound store) {timestamp : Instant}
    (done : getOrCreateCycleFor store policy timestamp = .ok result) :
    CycleStep store result.1 := by
  simp only [getOrCreateCycleFor] at done
  split at done
  · cases done
    exact CycleStep.refl sound
  · obtain ⟨⟨start, stop, label⟩, -, created⟩ := bind_eq_ok.mp done
    simp only at created
    split at created
    · cases created
      exact CycleStep.refl sound
    · exact cycleStep_createCycle sound created

omit [SystemClock] in
theorem cycleStep_ensureNextCycle (sound : Sound store) {previous : OpportunityHistoryCycle}
    (done : ensureNextCycle store previous policy = .ok result) : CycleStep store result.1 := by
  simp only [ensureNextCycle] at done
  split at done
  · cases done
    exact CycleStep.refl sound
  · obtain ⟨bounds, -, created⟩ := bind_eq_ok.mp done
    exact cycleStep_createCycle sound created

omit [SystemClock] [TimeZones] in
/-- Only open cycles are adopted. -/
theorem cycleStep_adopt (sound : Sound store) (policy : OpportunityManagementPolicy) :
    CycleStep store (adoptLegacyOpenCycles store policy) := by
  have status (cycle : OpportunityHistoryCycle) : (adopted policy cycle).status = cycle.status := by
    unfold adopted
    split <;> rfl
  have same {cycle : OpportunityHistoryCycle} (closed : cycle.status = .closed) :
      adopted policy cycle = cycle := by
    unfold adopted
    rw [if_neg]
    simp [closed]
  have listed (row : OpportunityHistoryCycle) :
      row ∈ (adoptLegacyOpenCycles store policy).cycles.rows ↔
        ∃ old ∈ store.cycles.rows, adopted policy old = row := List.mem_map
  refine ⟨adoptLegacyOpenCycles_sound sound, rfl, rfl, fun cycle member => ?_,
    fun cycle member closed => ?_, fun _ _ _ => rfl, fun _ row member closed => ?_⟩
  · exact ⟨_, (listed _).mpr ⟨cycle, member, rfl⟩, id_adopted policy cycle,
      period_adopted policy cycle⟩
  · exact (listed _).mpr ⟨cycle, member, same closed⟩
  · obtain ⟨old, oldMember, rfl⟩ := (listed row).mp member
    rw [status] at closed
    rw [same closed]
    exact Or.inl oldMember

omit [TimeZones] in
/-- A close captures its cycle, or finds it closed. -/
theorem cycleStep_closeCycle (sound : Sound store) (injective : Function.Injective UuidSource.uuid4)
    {cycleId : String} {actor : Option String} {reason : CloseReason}
    (done : closeCycle store cycleId actor reason = .ok result) : CycleStep store result.1 := by
  obtain ⟨next, last⟩ := result
  have soundAfter := closeCycle_sound sound injective done
  obtain ⟨cycle, member, rfl, ⟨-, same⟩ | ⟨opened, -⟩⟩ := closeCycle_of_ok done
  · cases same
    exact CycleStep.refl sound
  · obtain ⟨⟨closed, sameId, period, status, cycles⟩, ⟨drawn, clockReads, -, records⟩, others,
      captures⟩ := closeCycle_closedWith sound member opened done
    have listed (row : OpportunityHistoryCycle) :
        row ∈ next.cycles.rows ↔ row = closed ∨ row ∈ store.cycles.rows ∧ row.id ≠ cycle.id := by
      rw [cycles, Table.mem_put member sameId.symm period.symm, sameId]
    have other {row : OpportunityHistoryCycle} (rowMember : row ∈ store.cycles.rows)
        (rowClosed : row.status = .closed) : row.id ≠ cycle.id := by
      intro same
      obtain rfl := store.cycles.eq_of_key rowMember member same
      simp [opened] at rowClosed
    have findings : next.records.findings = store.records.findings := by rw [records]
    have observations : next.records.observations = store.records.observations := by rw [records]
    refine ⟨soundAfter, findings, observations,
      fun row rowMember => ?_, fun row rowMember rowClosed => ?_, fun row rowMember rowClosed => ?_,
      fun linked row rowMember rowClosed => ?_⟩
    · by_cases same : row.id = cycle.id
      · obtain rfl := store.cycles.eq_of_key rowMember member same
        exact ⟨closed, (listed closed).mpr (Or.inl rfl), sameId, period⟩
      · exact ⟨row, (listed row).mpr (Or.inr ⟨rowMember, same⟩), rfl, rfl⟩
    · exact (listed row).mpr (Or.inr ⟨rowMember, other rowMember rowClosed⟩)
    · exact others row.id (other rowMember rowClosed)
    · rcases (listed row).mp rowMember with rfl | ⟨old, -⟩
      · refine Or.inr ?_
        rw [sameId]
        exact Captures.congr rfl period.symm (captures linked)
      · exact Or.inl old

/-- An automatic close is a sequence of closes and successors. -/
theorem cycleStep_autoCloseDueCycles (sound : Sound store)
    (injective : Function.Injective UuidSource.uuid4) {now : Instant}
    {result : HistoryStore × AutoCloseResult}
    (done : autoCloseDueCycles store policy now = .ok result) : CycleStep store result.1 := by
  unfold autoCloseDueCycles at done
  split at done
  · cases done
    exact CycleStep.refl sound
  · refine foldlM_invariant (fun state : HistoryStore × AutoCloseResult => CycleStep store state.1)
      (fun cycle _ state next holds step => ?_) (CycleStep.refl sound) done
    obtain ⟨current, counted⟩ := state
    simp only [closeDueCycle] at step
    split at step
    · cases step
      exact holds
    · obtain ⟨⟨written, closed⟩, closes, rest⟩ := bind_eq_ok.mp step
      obtain ⟨⟨ensured, successor⟩, ensures, last⟩ := bind_eq_ok.mp rest
      cases last
      have closing := holds.trans (cycleStep_closeCycle holds.sound injective closes)
      exact closing.trans (cycleStep_ensureNextCycle closing.sound ensures)

end Steps

section Histories

variable [CaseMapping] [AlphabetTable] [Digest] [GeneralFormat] [UuidSource] [SystemClock]
variable [DocumentRuntime] [TimeZones]

/-- One committed operation. The operations elsewhere write neither findings nor
observations, and draw identifiers of their own. -/
def perform (operation : HistoryOperation) (store : HistoryStore) :
    Except ServiceError HistoryStore :=
  match operation with
  | .create periodStart periodEnd label timezone =>
    Prod.fst <$> createCycle store periodStart periodEnd label timezone none
  | .current policy timestamp => Prod.fst <$> getOrCreateCycleFor store policy timestamp
  | .close cycleId actor reason => Prod.fst <$> closeCycle store cycleId actor reason
  | .closePeriod cycleId filters archiveAll actor =>
    Prod.snd <$> closePeriodAndArchive store cycleId filters archiveAll actor
  | .succeed cycleId policy =>
    match store.cycles.find? cycleId with
    | none => .error (.http 404 "Opportunity history cycle not found")
    | some previous => Prod.fst <$> ensureNextCycle store previous policy
  | .adopt policy => .ok (adoptLegacyOpenCycles store policy)
  | .autoClose policy now => Prod.fst <$> autoCloseDueCycles store policy now
  | .record operation => do
    let records ← OpportunityOperations.perform operation store.records
    return { store with records }
  | .elsewhere others => .ok { store with
      records := { others with
        findings := store.records.findings
        observations := store.records.observations
        drawn := store.records.drawn + others.drawn
        clockReads := store.records.clockReads + others.clockReads } }

/-- The instant at which an operation observes. -/
def HistoryOperation.observingAt (store : HistoryStore) : HistoryOperation → Option Instant
  | .record operation => ObservationHistories.observingAt store.records operation
  | _ => none

/-- What an operation does to the history and to the observations. -/
structure HistoryStep (operation : HistoryOperation) (before after : HistoryStore) : Prop where
  sound : Sound after
  linked : Linked before.records → Linked after.records
  observations : ∀ row ∈ after.records.observations.rows,
    (∃ old ∈ before.records.observations.rows, SameObservation old row) ∨
      operation.observingAt before = some row.observedAt
  recording : operation.observingAt before ≠ none → after.cycles = before.cycles
  cycles : ∃ middle, CycleStep before middle ∧ after.cycles = middle.cycles ∧
    after.snapshots = middle.snapshots

omit [AlphabetTable] [Digest] [GeneralFormat] [TimeZones] in
/-- A step of the cycles alone. -/
theorem HistoryStep.of_cycles {operation : HistoryOperation} {before after : HistoryStore}
    (unobserving : operation.observingAt before = none) (step : CycleStep before after) :
    HistoryStep operation before after where
  sound := step.sound
  linked := linked_congr step.findings step.observations
  observations row member :=
    Or.inl ⟨row, step.observations ▸ member, SameObservation.refl row⟩
  recording observes := absurd unobserving observes
  cycles := ⟨after, step, rfl, rfl⟩

omit [DocumentRuntime] [TimeZones] [CaseMapping] [AlphabetTable] [Digest] [GeneralFormat]
  [SystemClock] in
/-- Records with more identifiers keep the history sound. -/
theorem sound_records {store : HistoryStore} (sound : Sound store) {records : Store}
    (drawn : store.records.drawn ≤ records.drawn) : Sound { store with records } :=
  ⟨sound.nonempty, sound.disjoint, sound.closed, sound.cycleIds.mono drawn,
    sound.snapshotIds.mono drawn⟩

omit [AlphabetTable] [Digest] [GeneralFormat] [TimeZones] in
/-- The archive that goes with a close leaves the observations and the findings'
identifiers. -/
theorem historyStep_closePeriodAndArchive {store : HistoryStore} (sound : Sound store)
    (injective : Function.Injective UuidSource.uuid4) {cycleId actor : String}
    {filters : OpportunityFilters} {archiveAll : Bool} {result : PeriodCloseResult × HistoryStore}
    (done : closePeriodAndArchive store cycleId filters archiveAll actor = .ok result) :
    HistoryStep (.closePeriod cycleId filters archiveAll actor) store result.2 := by
  simp only [closePeriodAndArchive] at done
  obtain ⟨-, -, done⟩ := bind_eq_ok.mp done
  split at done
  · exact absurd done throw_ne_ok
  · rename_i cycle found
    split at done
    · exact absurd done throw_ne_ok
    · split at done
      · exact absurd done throw_ne_ok
      · obtain ⟨⟨written, closed⟩, closes, rest⟩ := bind_eq_ok.mp done
        obtain ⟨⟨archive, records⟩, archives, last⟩ := bind_eq_ok.mp rest
        cases last
        have closing := cycleStep_closeCycle sound injective closes
        have shelved := archiveByFilterAs_eq_ok archives
        obtain ⟨findings, archiveHistory, clockReads, -, rfl⟩ := shelved.frame
        refine ⟨sound_records closing.sound le_rfl, fun linked => ?_, fun row member => ?_,
          fun observes => absurd rfl observes, written, closing, rfl, rfl⟩
        · exact linked_keep (linked_congr closing.findings closing.observations linked)
            (fun _ => id) shelved.findings.carries
        · exact Or.inl ⟨row, closing.observations ▸ member, SameObservation.refl row⟩

/-- Every operation that commits is such a step. -/
theorem historyStep_of_perform (injective : Function.Injective UuidSource.uuid4)
    {operation : HistoryOperation} {store after : HistoryStore} (sound : Sound store)
    (done : perform operation store = .ok after) : HistoryStep operation store after := by
  cases operation with
  | create periodStart periodEnd label timezone =>
    obtain ⟨result, created, rfl⟩ := map_eq_ok.mp done
    exact .of_cycles rfl (cycleStep_createCycle sound created)
  | current policy timestamp =>
    obtain ⟨result, created, rfl⟩ := map_eq_ok.mp done
    exact .of_cycles rfl (cycleStep_getOrCreateCycleFor sound created)
  | close cycleId actor reason =>
    obtain ⟨result, closed, rfl⟩ := map_eq_ok.mp done
    exact .of_cycles rfl (cycleStep_closeCycle sound injective closed)
  | closePeriod cycleId filters archiveAll actor =>
    obtain ⟨result, closed, rfl⟩ := map_eq_ok.mp done
    exact historyStep_closePeriodAndArchive sound injective closed
  | succeed cycleId policy =>
    simp only [perform] at done
    split at done
    · cases done
    · obtain ⟨result, ensured, rfl⟩ := map_eq_ok.mp done
      exact .of_cycles rfl (cycleStep_ensureNextCycle sound ensured)
  | adopt policy =>
    cases done
    exact .of_cycles rfl (cycleStep_adopt sound policy)
  | autoClose policy now =>
    obtain ⟨result, closed, rfl⟩ := map_eq_ok.mp done
    exact .of_cycles rfl (cycleStep_autoCloseDueCycles sound injective closed)
  | record operation =>
    obtain ⟨records, committed, result⟩ := bind_eq_ok.mp done
    cases result
    have recorded := recorded_of_perform committed
    exact ⟨sound_records sound recorded.drawn, recorded.linked, recorded.observations,
      fun _ => rfl, store, CycleStep.refl sound, rfl, rfl⟩
  | elsewhere others =>
    cases done
    exact ⟨sound_records sound (Nat.le_add_right _ _), id,
      fun row member => Or.inl ⟨row, member, SameObservation.refl row⟩, fun _ => rfl, store,
      CycleStep.refl sound, rfl, rfl⟩

end Histories

end FinopsAnalytics.SnapshotHistories
