import FinopsAnalytics.SnapshotHistories

/-!
# Closed periods

On every run the close of a cycle captures the observations of its period as they
are then, and nothing that happens later changes its snapshots. They therefore
tell of every retained observation of the period exactly as long as nothing is
observed in a period that is closed already: an operator can close a cycle before
its period ends, and collections go on.
-/

namespace FinopsAnalytics.ClosedPeriods

open UniqueTables OpportunityRecords TransactionHistories Fallible PythonText
  OpportunityBulkArchiving OpportunityCollection OpportunityPresence OpportunityFingerprint
  OpportunityOperations RdsReservationVerdicts OpportunityHistoryCycles CycleOperations
  CycleHistories PeriodClosing PeriodSnapshots ObservationHistories SnapshotHistories

section Runs

variable [CaseMapping] [AlphabetTable] [Digest] [GeneralFormat] [UuidSource] [SystemClock]
variable [DocumentRuntime] [TimeZones]

/-- What holds of every reachable history. -/
structure Valid (store : HistoryStore) : Prop where
  sound : Sound store
  linked : Linked store.records

omit [CaseMapping] [AlphabetTable] [Digest] [GeneralFormat] [SystemClock] [DocumentRuntime]
  [TimeZones] in
theorem empty_valid : Valid HistoryStore.empty :=
  ⟨empty_sound, fun _ member => absurd member List.not_mem_nil⟩

theorem Valid.step (injective : Function.Injective UuidSource.uuid4) {store after : HistoryStore}
    {operation : HistoryOperation} (valid : Valid store)
    (done : SnapshotHistories.perform operation store = .ok after) : Valid after := by
  have step := historyStep_of_perform injective valid.sound done
  exact ⟨step.sound, step.linked valid.linked⟩

theorem reachable_valid (injective : Function.Injective UuidSource.uuid4)
    (operations : List HistoryOperation) :
    Valid (stateAfter SnapshotHistories.perform HistoryStore.empty operations) :=
  stateAfter_invariant Valid empty_valid fun _ _ _ _ valid done => valid.step injective done

/-- The state before an operation of a run is valid. -/
theorem history_valid (injective : Function.Injective UuidSource.uuid4)
    (operations : List HistoryOperation) :
    ∀ transition ∈ history SnapshotHistories.perform HistoryStore.empty operations,
      Valid transition.before := by
  suffices run : (∀ transition ∈
      history SnapshotHistories.perform HistoryStore.empty operations, Valid transition.before) ∧
      Valid (stateAfter SnapshotHistories.perform HistoryStore.empty operations) from run.1
  refine history_invariant (fun past state => (∀ transition ∈ past, Valid transition.before) ∧
    Valid state) operations ⟨fun _ member => absurd member List.not_mem_nil, empty_valid⟩ ?_ ?_
  · intro past state operation holds
    refine ⟨fun transition member => ?_, holds.2⟩
    rcases List.mem_append.mp member with old | last
    · exact holds.1 transition old
    · rw [List.mem_singleton.mp last]
      exact holds.2
  · intro past state operation after holds done
    refine ⟨fun transition member => ?_, holds.2.step injective done⟩
    rcases List.mem_append.mp member with old | last
    · exact holds.1 transition old
    · rw [List.mem_singleton.mp last]
      exact holds.2

variable {cycle : OpportunityHistoryCycle}

/-- A closed cycle and its snapshots stay as they are. -/
theorem closed_stays (injective : Function.Injective UuidSource.uuid4) {store : HistoryStore}
    (sound : Sound store) (member : cycle ∈ store.cycles.rows) (closed : cycle.status = .closed)
    (later : List HistoryOperation) :
    cycle ∈ (stateAfter SnapshotHistories.perform store later).cycles.rows ∧
      snapshotsOf (stateAfter SnapshotHistories.perform store later) cycle.id =
        snapshotsOf store cycle.id := by
  suffices run : Sound (stateAfter SnapshotHistories.perform store later) ∧
      cycle ∈ (stateAfter SnapshotHistories.perform store later).cycles.rows ∧
      snapshotsOf (stateAfter SnapshotHistories.perform store later) cycle.id =
        snapshotsOf store cycle.id from run.2
  refine stateAfter_invariant (fun state => Sound state ∧ cycle ∈ state.cycles.rows ∧
    snapshotsOf state cycle.id = snapshotsOf store cycle.id) ⟨sound, member, rfl⟩ ?_
  rintro operation - state after ⟨stateSound, stateMember, same⟩ done
  have step := historyStep_of_perform injective stateSound done
  obtain ⟨middle, cycleStep, cycles, snapshots⟩ := step.cycles
  refine ⟨step.sound, cycles ▸ cycleStep.closed cycle stateMember closed, ?_⟩
  have kept := cycleStep.kept cycle stateMember closed
  simp only [snapshotsOf, snapshots] at kept same ⊢
  exact kept.trans same

/-- What a close leaves of a cycle that was open: its period captured, as the
previews foretold, in snapshots that no later operation changes. -/
structure PeriodKept (before after : HistoryStore) (cycle : OpportunityHistoryCycle) : Prop where
  captures : Captures before.records cycle (snapshotsOf after cycle.id)
  foretold : ∀ preview, closeCyclePreview before cycle.id = .ok preview →
    preview.snapshotsToCreate = (snapshotsOf after cycle.id).length
  previewed : ∀ filters archiveAll preview,
    periodClosePreview before cycle.id filters archiveAll = .ok preview →
      preview.snapshotsToCreate = (snapshotsOf after cycle.id).length
  immutable : ∀ later, snapshotsOf (stateAfter SnapshotHistories.perform after later) cycle.id =
    snapshotsOf after cycle.id

/-- Both previews read the count of the cycle. -/
theorem PeriodKept.of_captures {before after : HistoryStore} (member : cycle ∈ before.cycles.rows)
    (captures : Captures before.records cycle (snapshotsOf after cycle.id)) (immutable : ∀ later,
      snapshotsOf (stateAfter SnapshotHistories.perform after later) cycle.id =
        snapshotsOf after cycle.id) : PeriodKept before after cycle := by
  have found : before.cycles.find? cycle.id = some cycle := Table.find?_eq_some.mpr ⟨member, rfl⟩
  refine ⟨captures, fun preview shown => ?_, fun filters archiveAll preview shown => ?_, immutable⟩
  · simp only [closeCyclePreview, found] at shown
    cases shown
    exact captures.preview
  · simp only [periodClosePreview, found] at shown
    obtain ⟨-, -, shown⟩ := bind_eq_ok.mp shown
    split at shown
    · exact absurd shown throw_ne_ok
    · obtain ⟨archive, -, last⟩ := bind_eq_ok.mp shown
      cases last
      exact captures.preview

/-- A transaction finds the cycle open and leaves it closed. -/
def Closes (transition : Transition HistoryStore HistoryOperation)
    (cycle : OpportunityHistoryCycle) : Prop :=
  cycle ∈ transition.before.cycles.rows ∧ cycle.status = .open_ ∧
    ∃ row ∈ transition.after.cycles.rows, row.id = cycle.id ∧ row.status = .closed

/-- On every run each close of a cycle captures its period: by a call at any state
reached, and by any transaction that closes cycles. A call on a closed cycle
changes nothing. -/
theorem close_captures_period (injective : Function.Injective UuidSource.uuid4)
    (operations : List HistoryOperation) :
    (∀ cycleId actor reason next closed,
      closeCycle (stateAfter SnapshotHistories.perform HistoryStore.empty operations) cycleId actor
          reason = .ok (next, closed) →
        ∃ cycle ∈
            (stateAfter SnapshotHistories.perform HistoryStore.empty operations).cycles.rows,
          cycle.id = cycleId ∧
          (cycle.status = .closed →
            next = stateAfter SnapshotHistories.perform HistoryStore.empty operations ∧
              closed = cycle) ∧
          (cycle.status = .open_ → PeriodKept
            (stateAfter SnapshotHistories.perform HistoryStore.empty operations) next cycle)) ∧
      ∀ transition ∈ history SnapshotHistories.perform HistoryStore.empty operations,
        ∀ cycle, Closes transition cycle →
          PeriodKept transition.before transition.after cycle := by
  constructor
  · intro cycleId actor reason next closed done
    have valid := reachable_valid injective operations
    set store := stateAfter SnapshotHistories.perform HistoryStore.empty operations
    obtain ⟨cycle, member, sameId, outcome⟩ := closeCycle_of_ok done
    refine ⟨cycle, member, sameId, fun isClosed => ?_, fun opened => ?_⟩
    · rcases outcome with ⟨-, same⟩ | ⟨opened, -⟩
      · exact Prod.mk.inj same
      · simp [isClosed] at opened
    · subst sameId
      obtain ⟨⟨row, rowId, period, status, cycles⟩, -, -, captures⟩ :=
        closeCycle_closedWith valid.sound member opened done
      have listed : row ∈ next.cycles.rows := by
        rw [cycles]
        exact (Table.mem_put member rowId.symm period.symm).mpr (Or.inl rfl)
      refine .of_captures member (captures valid.linked) fun later => ?_
      rw [← rowId]
      exact (closed_stays injective (closeCycle_sound valid.sound injective done) listed status
        later).2
  · rintro transition listed cycle ⟨member, opened, row, rowMember, sameId, closed⟩
    have valid := history_valid injective operations transition listed
    rcases mem_history listed with same | done
    · rw [same] at rowMember
      obtain rfl := transition.before.cycles.eq_of_key rowMember member sameId
      simp [opened] at closed
    · have step := historyStep_of_perform injective valid.sound done
      obtain ⟨middle, cycleStep, cycles, snapshots⟩ := step.cycles
      have captures := cycleStep.captures valid.linked member opened (cycles ▸ rowMember) sameId
        closed
      have sameSnapshots : snapshotsOf transition.after cycle.id = snapshotsOf middle cycle.id := by
        simp only [snapshotsOf, snapshots]
      refine .of_captures member (sameSnapshots ▸ captures) fun later => ?_
      rw [← sameId]
      exact (closed_stays injective step.sound rowMember closed later).2

/-- Every retained observation of the period of a closed cycle is told of by the
snapshot of its opportunity. -/
def Reflected (store : HistoryStore) : Prop :=
  ∀ cycle ∈ store.cycles.rows, cycle.status = .closed →
    ∀ row ∈ store.records.observations.rows, cycle.contains row.observedAt →
      ∃ snapshot ∈ store.snapshots.rows, snapshot.cycleId = cycle.id ∧
        snapshot.opportunityId = some row.opportunityId ∧
        row.observedAt ≤ snapshot.lastObservedInCycleAt

/-- An operation that observes does so at an instant of no closed cycle. -/
def ObservesOpenPeriods (store : HistoryStore) (operation : HistoryOperation) : Prop :=
  ∀ instant ∈ operation.observingAt store, ∀ cycle ∈ store.cycles.rows,
    cycle.contains instant → cycle.status = .open_

omit [AlphabetTable] [Digest] [GeneralFormat] [UuidSource] [SystemClock]
  [TimeZones] in
/-- What is captured tells of every observation of the period. -/
theorem reflected_of_captures {records : Store} {store : HistoryStore}
    (captures : Captures records cycle (snapshotsOf store cycle.id)) {row : OpportunityObservation}
    (member : row ∈ records.observations.rows) (inPeriod : cycle.contains row.observedAt) :
    ∃ snapshot ∈ store.snapshots.rows, snapshot.cycleId = cycle.id ∧
      snapshot.opportunityId = some row.opportunityId ∧
      row.observedAt ≤ snapshot.lastObservedInCycleAt := by
  have observed : row ∈ observedIn records cycle row.opportunityId := ⟨member, rfl, inPeriod⟩
  obtain ⟨snapshot, listed, named⟩ :=
    List.mem_map.mp ((captures.members _).mpr ⟨row.opportunityId, rfl, row, observed⟩)
  have summary := captures.summarizes snapshot listed row.opportunityId named
  obtain ⟨stored, ofCycle⟩ := List.mem_filter.mp listed
  exact ⟨snapshot, stored, by simpa using ofCycle, named, summary.last.2 ⟨row, observed, rfl⟩⟩

omit [AlphabetTable] [Digest] [GeneralFormat] [SystemClock] [TimeZones] in
/-- An operation that observes no closed period keeps every observation reflected. -/
theorem reflected_step {store after : HistoryStore} {operation : HistoryOperation}
    [SystemClock] (valid : Valid store) (reflected : Reflected store)
    (opens : ObservesOpenPeriods store operation)
    (step : HistoryStep operation store after) : Reflected after := by
  obtain ⟨middle, cycleStep, cycles, snapshots⟩ := step.cycles
  intro cycle member closed row observed inPeriod
  rcases step.observations row observed with ⟨old, oldMember, -, samePair, sameInstant⟩ | observes
  · have sameOpportunity : row.opportunityId = old.opportunityId := congrArg Prod.fst samePair
    rw [sameInstant] at inPeriod ⊢
    rw [sameOpportunity, snapshots]
    rcases cycleStep.captured valid.linked cycle (cycles ▸ member) closed with before | captures
    · obtain ⟨snapshot, stored, ofCycle, named, later⟩ :=
        reflected cycle before closed old oldMember inPeriod
      have listed : snapshot ∈ snapshotsOf store cycle.id :=
        List.mem_filter.mpr ⟨stored, by simpa using ofCycle⟩
      rw [← cycleStep.kept cycle before closed] at listed
      exact ⟨snapshot, (List.mem_filter.mp listed).1, ofCycle, named, later⟩
    · exact reflected_of_captures captures oldMember inPeriod
  · -- a new observation is in the period of no closed cycle
    rw [step.recording (by simp [observes])] at member
    have opened := opens row.observedAt observes cycle member inPeriod
    simp [closed] at opened

/-- In every run that observes no closed period, every state reached has its
observations reflected. -/
theorem observations_reflected (injective : Function.Injective UuidSource.uuid4)
    (operations : List HistoryOperation)
    (opens : ∀ transition ∈ history SnapshotHistories.perform HistoryStore.empty operations,
      ObservesOpenPeriods transition.before transition.operation) :
    Reflected (stateAfter SnapshotHistories.perform HistoryStore.empty operations) := by
  suffices run : (∀ transition ∈
      history SnapshotHistories.perform HistoryStore.empty operations,
      ObservesOpenPeriods transition.before transition.operation) →
      Valid (stateAfter SnapshotHistories.perform HistoryStore.empty operations) ∧
        Reflected (stateAfter SnapshotHistories.perform HistoryStore.empty operations) from
    (run opens).2
  refine history_invariant (fun past state => (∀ transition ∈ past,
    ObservesOpenPeriods transition.before transition.operation) → Valid state ∧ Reflected state)
    operations (fun _ => ⟨empty_valid, fun _ member => absurd member List.not_mem_nil⟩) ?_ ?_
  · intro past state operation holds opens
    exact holds fun transition member => opens transition (List.mem_append_left _ member)
  · intro past state operation after holds done opens
    obtain ⟨valid, reflected⟩ := holds fun transition member =>
      opens transition (List.mem_append_left _ member)
    exact ⟨valid.step injective done, reflected_step valid reflected
      (opens _ (List.mem_append_right _ (List.mem_singleton.mpr rfl)))
      (historyStep_of_perform injective valid.sound done)⟩

end Runs

instance (store : HistoryStore) : Decidable (Reflected store) :=
  inferInstanceAs (Decidable (∀ cycle ∈ store.cycles.rows, _ → ∀ row ∈ _, _ → ∃ snapshot ∈ _, _))

instance [SystemClock] (store : HistoryStore) (operation : HistoryOperation) :
    Decidable (ObservesOpenPeriods store operation) :=
  inferInstanceAs (Decidable (∀ instant ∈ operation.observingAt store, ∀ cycle ∈ _, _ → _))

instance (transition : Transition HistoryStore HistoryOperation)
    (cycle : OpportunityHistoryCycle) : Decidable (Closes transition cycle) :=
  inferInstanceAs (Decidable (_ ∧ _ ∧ _))

section Sample

attribute [local instance] asciiCase asciiAlphabet plainDigest integralFormat countingUuids
  countingClock plainDocuments utcOnly

/-- A period with one collection, closed by an operator before it ends. -/
def observedThenClosed : List HistoryOperation :=
  [.create 0 1000 "1970" "UTC", .record (.collection (.beginRun "aws" "111122223333" 100)),
    .record (.observe "scan-1" "id-i" [sampleItem "EC2_IDLE" (some "us-east-1")]),
    .record (.collection (.finishRun "id-i" .success 110)),
    .close "id-" (some "ana") .manual]

/-- The same period with a volume that the owner has tagged. -/
def taggedThenClosed : List HistoryOperation :=
  [.create 0 1000 "1970" "UTC", .record (.collection (.beginRun "aws" "111122223333" 100)),
    .record (.observe "scan-1" "id-i" [{ sampleItem "ebs_unattached" (some "us-east-1") with
      evidence := [("state", .text "available"), ("tags", .document sampleTags)] }]),
    .record (.collection (.finishRun "id-i" .success 110)),
    .close "id-" (some "ana") .manual]

/-- A second collection in the same period, after its close. -/
def observedAfterClose : List HistoryOperation :=
  observedThenClosed ++ [.record (.collection (.beginRun "aws" "111122223333" 200)),
    .record (.observe "scan-2" "id-iiiii" [sampleItem "EC2_IDLE" (some "us-east-1")])]

/-- The close of that run captures the period in one snapshot. -/
theorem close_captures_observedThenClosed :
    ∃ transition ∈ history SnapshotHistories.perform HistoryStore.empty observedThenClosed,
      ∃ cycle, PeriodKept transition.before transition.after cycle ∧
        (snapshotsOf transition.after cycle.id).length = 1 := by
  have found : ∃ transition ∈
      history SnapshotHistories.perform HistoryStore.empty observedThenClosed,
      ∃ cycle ∈ transition.before.cycles.rows, Closes transition cycle ∧
        (snapshotsOf transition.after cycle.id).length = 1 := by
    decide +kernel
  obtain ⟨transition, listed, cycle, -, closes, single⟩ := found
  exact ⟨transition, listed, cycle,
    (close_captures_period countingUuids_injective observedThenClosed).2 transition listed cycle
      closes, single⟩

/-- The snapshot of the tagged volume carries the values of no stored observation: the tag
whose key reads like that of a secret is left out of its evidence. -/
theorem snapshot_drops_tag :
    ∃ transition ∈ history SnapshotHistories.perform HistoryStore.empty taggedThenClosed,
      ∃ cycle ∈ transition.before.cycles.rows, Closes transition cycle ∧
        ∃ snapshot ∈ snapshotsOf transition.after cycle.id,
          ∀ row ∈ transition.before.records.observations.rows,
            row.opportunityId ∈ snapshot.opportunityId ∧ cycle.contains row.observedAt ∧
              carriedValues snapshot ≠ storedValues row := by
  decide +kernel

/-- The run up to the close observes only the open period. -/
theorem observations_reflected_observedThenClosed :
    Reflected (stateAfter SnapshotHistories.perform HistoryStore.empty observedThenClosed) ∧
      (stateAfter SnapshotHistories.perform HistoryStore.empty
        observedThenClosed).records.observations.rows.length = 1 :=
  ⟨observations_reflected countingUuids_injective observedThenClosed (by decide +kernel),
    by decide +kernel⟩

/-- The observation after the close is later than everything that the snapshot
tells of. -/
theorem observation_of_closed_period_unreflected :
    ¬ Reflected (stateAfter SnapshotHistories.perform HistoryStore.empty observedAfterClose) := by
  decide +kernel

end Sample

end FinopsAnalytics.ClosedPeriods
