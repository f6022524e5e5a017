import FinopsAnalytics.CycleClosings

/-!
# Histories of cycles

Cycles are created, closed, succeeded and adopted in any order and under any
policies, while the operational records change between the operations. On every
history reached so, the automatic close does what is due exactly where the
policy in force has room for each successor.
-/

namespace FinopsAnalytics.CycleHistories

open PythonText (CaseMapping asciiCase)
open UniqueTables OpportunityRecords TransactionHistories CivilCalendar Fallible
open OpportunityHistoryCycles CycleOperations CycleClosings

/-- What can happen to a history. -/
inductive CycleOperation where
  | create (periodStart periodEnd : Instant) (label timezone : String)
  | current (policy : OpportunityManagementPolicy) (timestamp : Instant)
  | close (cycleId : String) (actor : Option String) (reason : CloseReason)
  | succeed (cycleId : String) (policy : OpportunityManagementPolicy)
  | adopt (policy : OpportunityManagementPolicy)
  | autoClose (policy : OpportunityManagementPolicy) (now : Instant)
  | elsewhere (records : Store)

section Histories

variable [UuidSource] [SystemClock] [CaseMapping] [DocumentRuntime] [TimeZones]

/-- One committed operation. The operations on other tables draw identifiers too
and never return one. -/
def perform (operation : CycleOperation) (store : HistoryStore) :
    Except ServiceError HistoryStore :=
  match operation with
  | .create periodStart periodEnd label timezone =>
    Prod.fst <$> createCycle store periodStart periodEnd label timezone none
  | .current policy timestamp => Prod.fst <$> getOrCreateCycleFor store policy timestamp
  | .close cycleId actor reason => Prod.fst <$> closeCycle store cycleId actor reason
  | .succeed cycleId policy =>
    match store.cycles.find? cycleId with
    | none => .error (.http 404 "Opportunity history cycle not found")
    | some previous => Prod.fst <$> ensureNextCycle store previous policy
  | .adopt policy => .ok (adoptLegacyOpenCycles store policy)
  | .autoClose policy now => Prod.fst <$> autoCloseDueCycles store policy now
  | .elsewhere records => .ok { store with
      records := { records with drawn := store.records.drawn + records.drawn } }

/-- An automatic close keeps the history sound. -/
theorem autoCloseDueCycles_sound {store : HistoryStore} (sound : Sound store)
    (injective : Function.Injective UuidSource.uuid4) {policy : OpportunityManagementPolicy}
    {now : Instant} {result : HistoryStore × AutoCloseResult}
    (done : autoCloseDueCycles store policy now = .ok result) : Sound result.1 := by
  unfold autoCloseDueCycles at done
  split at done
  · cases done
    exact sound
  · exact ((closing_run policy injective (dueCycles store now) (Closing.initial sound)
      (fun cycle listed => (mem_dueCycles.mp listed).imp_right And.left)
      (dueCycles_ascending sound) ⟨0, 0, 0⟩).2 result done).sound

/-- Every operation keeps the history sound. -/
theorem perform_sound (injective : Function.Injective UuidSource.uuid4)
    {operation : CycleOperation} {store after : HistoryStore} (sound : Sound store)
    (done : perform operation store = .ok after) : Sound after := by
  cases operation with
  | create periodStart periodEnd label timezone =>
    obtain ⟨result, created, rfl⟩ := map_eq_ok.mp done
    exact createCycle_sound sound created
  | current policy timestamp =>
    obtain ⟨result, created, rfl⟩ := map_eq_ok.mp done
    exact getOrCreateCycleFor_sound sound created
  | close cycleId actor reason =>
    obtain ⟨result, closed, rfl⟩ := map_eq_ok.mp done
    exact closeCycle_sound sound injective closed
  | succeed cycleId policy =>
    simp only [perform] at done
    split at done
    · cases done
    · obtain ⟨result, ensured, rfl⟩ := map_eq_ok.mp done
      exact ensureNextCycle_sound sound ensured
  | adopt policy =>
    cases done
    exact adoptLegacyOpenCycles_sound sound
  | autoClose policy now =>
    obtain ⟨result, closed, rfl⟩ := map_eq_ok.mp done
    exact autoCloseDueCycles_sound sound injective closed
  | elsewhere records =>
    cases done
    exact ⟨sound.nonempty, sound.disjoint, sound.closed,
      sound.cycleIds.mono (Nat.le_add_right _ _), sound.snapshotIds.mono (Nat.le_add_right _ _)⟩

/-- A history without cycles. -/
def HistoryStore.empty : HistoryStore := ⟨Store.empty, .empty _ _, .empty _ _⟩

omit [SystemClock] [CaseMapping] [DocumentRuntime] [TimeZones] in
theorem empty_sound : Sound HistoryStore.empty := by
  constructor <;> simp [HistoryStore.empty, Table.empty, Drawn]

/-- Every reachable history is sound. -/
theorem reachable_sound (injective : Function.Injective UuidSource.uuid4)
    (operations : List CycleOperation) :
    Sound (stateAfter perform HistoryStore.empty operations) :=
  stateAfter_invariant Sound empty_sound fun _ _ _ _ sound done =>
    perform_sound injective sound done

/-- On every history, whatever policies it was made with, a call closes every
cycle that is due exactly where each of their successors has room; one that has
none keeps all of them open. A policy that closes nothing automatically does so
only where nothing is due. -/
theorem auto_close_closes_due (injective : Function.Injective UuidSource.uuid4)
    (operations : List CycleOperation) (policy : OpportunityManagementPolicy) (now : Instant) :
    ClosesDue (stateAfter perform HistoryStore.empty operations) policy now ↔
      if policy.enabled ∧ policy.automaticCycleCloseEnabled then
        ∀ cycle ∈ (stateAfter perform HistoryStore.empty operations).cycles.rows,
          Due now cycle → Idle (stateAfter perform HistoryStore.empty operations) cycle →
            HasRoom (stateAfter perform HistoryStore.empty operations) policy cycle
      else
        ∀ cycle ∈ (stateAfter perform HistoryStore.empty operations).cycles.rows,
          Due now cycle → ¬ Idle (stateAfter perform HistoryStore.empty operations) cycle :=
  closesDue_iff (reachable_sound injective operations) injective

end Histories

instance (now : Instant) (cycle : OpportunityHistoryCycle) : Decidable (Due now cycle) :=
  inferInstanceAs (Decidable (_ ∧ _))

instance (store : HistoryStore) (cycle : OpportunityHistoryCycle) : Decidable (Idle store cycle) :=
  inferInstanceAs (Decidable (_ = _))

instance [TimeZones] (store : HistoryStore) (policy : OpportunityManagementPolicy)
    (cycle : OpportunityHistoryCycle) : Decidable (HasRoom store policy cycle) :=
  inferInstanceAs (Decidable (_ ∨ _))

section Sample

attribute [local instance] countingUuids countingClock asciiCase plainDocuments utcOnly

/-- Months, in UTC. -/
def monthly : OpportunityManagementPolicy where
  cycleMode := .calendarMonth
  cycleLengthDays := 30
  cycleTimezone := "UTC"
  cycleAnchorDate := none
  automaticCycleCloseEnabled := true
  enabled := true
  version := 1

/-- The policy that follows: ten days, counted from 5 February 2026. -/
def tenDays : OpportunityManagementPolicy where
  cycleMode := .fixedDays
  cycleLengthDays := 10
  cycleTimezone := "UTC"
  cycleAnchorDate := some (dayNumber 2026 2 5)
  automaticCycleCloseEnabled := true
  enabled := true
  version := 2

/-- A cycle of January and, after the change of policy, one from 5 February. -/
def januaryThenTenDays : List CycleOperation :=
  [.current monthly (midnight (dayNumber 2026 1 10)),
    .current tenDays (midnight (dayNumber 2026 2 7))]

/-- A due January closes under the new policy as long as no cycle follows it. -/
theorem auto_close_closes_january :
    ClosesDue (stateAfter perform HistoryStore.empty [.current monthly
      (midnight (dayNumber 2026 1 10))]) tenDays (midnight (dayNumber 2026 2 8)) :=
  (auto_close_closes_due countingUuids_injective [.current monthly
    (midnight (dayNumber 2026 1 10))] tenDays (midnight (dayNumber 2026 2 8))).mpr
    (by decide +kernel)

/-- January is due on 8 February. Its successor would start on 1 February and
last ten days, into the cycle that the new policy had already made, and the call
raises. -/
theorem due_cycle_stays_open :
    (∃ cycle ∈ (stateAfter perform HistoryStore.empty januaryThenTenDays).cycles.rows,
      Due (midnight (dayNumber 2026 2 8)) cycle ∧
        Idle (stateAfter perform HistoryStore.empty januaryThenTenDays) cycle) ∧
      (autoCloseDueCycles (stateAfter perform HistoryStore.empty januaryThenTenDays) tenDays
        (midnight (dayNumber 2026 2 8))).toOption.isNone ∧
      ¬ ClosesDue (stateAfter perform HistoryStore.empty januaryThenTenDays) tenDays
        (midnight (dayNumber 2026 2 8)) := by
  have raised : (autoCloseDueCycles (stateAfter perform HistoryStore.empty januaryThenTenDays)
      tenDays (midnight (dayNumber 2026 2 8))).toOption.isNone = true := by
    decide +kernel
  refine ⟨by decide +kernel, raised, ?_⟩
  rintro ⟨next, result, done, -⟩
  rw [done] at raised
  cases raised

end Sample

end FinopsAnalytics.CycleHistories
