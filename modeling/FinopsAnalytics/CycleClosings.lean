import FinopsAnalytics.CycleOperations

/-!
# Automatic closing of due cycles

The due cycles are closed in the order in which their periods end, each with its
successor. A successor that overlaps another cycle raises, and then the call as
a whole closes nothing. Every reachable history is covered, whatever policies it
was made with.
-/

namespace FinopsAnalytics.CycleClosings

open PythonText (CaseMapping)
open UniqueTables OpportunityRecords DistinctKeys Fallible TransactionHistories
open OpportunityHistoryCycles CycleOperations

section Specification

variable [UuidSource] [SystemClock] [CaseMapping] [DocumentRuntime] [TimeZones]

/-- The period has ended and the cycle is open. -/
def Due (now : Instant) (cycle : OpportunityHistoryCycle) : Prop :=
  cycle.status = .open_ ∧ cycle.periodEnd ≤ now

/-- No collection that started in the period is running. -/
def Idle (store : HistoryStore) (cycle : OpportunityHistoryCycle) : Prop :=
  (collectionCoverage store.records cycle).running = 0

/-- The call returns, and every cycle that was due and idle is closed in it. -/
def ClosesDue (store : HistoryStore) (policy : OpportunityManagementPolicy) (now : Instant) :
    Prop :=
  ∃ next result, autoCloseDueCycles store policy now = .ok (next, result) ∧
    ∀ cycle ∈ store.cycles.rows, Due now cycle → Idle store cycle →
      ∃ row ∈ next.cycles.rows, row.id = cycle.id ∧ row.status = .closed

/-- A cycle starts at the end of this one, or the policy gives it a successor that is
nonempty and overlaps no cycle. -/
def HasRoom (store : HistoryStore) (policy : OpportunityManagementPolicy)
    (cycle : OpportunityHistoryCycle) : Prop :=
  (∃ row ∈ store.cycles.rows, row.periodStart = cycle.periodEnd) ∨
    ∃ bounds ∈ (successorBounds policy cycle.periodEnd).toOption, cycle.periodEnd < bounds.1 ∧
      ∀ row ∈ store.cycles.rows, ¬ Overlaps cycle.periodEnd bounds.1 row

end Specification

section DueOrder

variable [UuidSource] {store : HistoryStore} {now : Instant}

omit [UuidSource] in
theorem mem_dueCycles {cycle : OpportunityHistoryCycle} :
    cycle ∈ dueCycles store now ↔ cycle ∈ store.cycles.rows ∧ Due now cycle := by
  simp [dueCycles, Due]

/-- No two cycles end at one instant. -/
theorem periodEnd_injective (sound : Sound store) {first second : OpportunityHistoryCycle}
    (firstMember : first ∈ store.cycles.rows) (secondMember : second ∈ store.cycles.rows)
    (same : first.periodEnd = second.periodEnd) : first = second := by
  have firstNonempty := sound.nonempty first firstMember
  have secondNonempty := sound.nonempty second secondMember
  have overlaps : Overlaps first.periodStart first.periodEnd second :=
    ⟨same ▸ secondNonempty, same ▸ firstNonempty⟩
  exact store.cycles.eq_of_key firstMember secondMember
    (sound.disjoint first firstMember second secondMember overlaps)

/-- The due cycles end one strictly after the other. -/
theorem dueCycles_ascending (sound : Sound store) :
    (dueCycles store now).Pairwise fun first second => first.periodEnd < second.periodEnd := by
  have distinct : (dueCycles store now).Nodup :=
    (sortByKey_perm _ _).nodup_iff.mpr (store.cycles.nodup_rows.filter _)
  have ordered := (sortByKey_ascending OpportunityHistoryCycle.periodEnd
    (store.cycles.rows.filter fun cycle => cycle.status = .open_ ∧ cycle.periodEnd ≤ now)).and
      distinct
  refine ordered.imp_of_mem fun firstMember secondMember both => ?_
  refine lt_of_le_of_ne both.1 fun same => both.2 ?_
  exact periodEnd_injective sound (mem_dueCycles.mp firstMember).1
    (mem_dueCycles.mp secondMember).1 same

end DueOrder

section Loop

variable [UuidSource] [SystemClock] [CaseMapping] [DocumentRuntime] [TimeZones]
variable {start : HistoryStore} {policy : OpportunityManagementPolicy} {now : Instant}

/-- What holds of the history after some of the due cycles of the start. -/
structure Closing (start : HistoryStore) (done : List OpportunityHistoryCycle)
    (store : HistoryStore) : Prop where
  sound : Sound store
  runs : store.records.collectionRuns = start.records.collectionRuns
  origin : ∀ row ∈ store.cycles.rows,
    (∃ old ∈ start.cycles.rows, old.period = row.period) ∨
      ∃ previous ∈ done, row.periodStart = previous.periodEnd
  carried : ∀ old ∈ start.cycles.rows, ∃ row ∈ store.cycles.rows, row.period = old.period
  kept : ∀ old ∈ start.cycles.rows, old ∉ done → old ∈ store.cycles.rows
  closed : ∀ cycle ∈ done, Idle start cycle →
    ∃ row ∈ store.cycles.rows, row.id = cycle.id ∧ row.status = .closed

omit [UuidSource] [SystemClock] [CaseMapping] [DocumentRuntime] in
/-- The room for a successor depends on the periods only. -/
theorem room_of_periods {first second : HistoryStore} {cycle other : OpportunityHistoryCycle}
    (periods : first.cycles.rows.map OpportunityHistoryCycle.period =
      second.cycles.rows.map OpportunityHistoryCycle.period)
    (sameEnd : cycle.periodEnd = other.periodEnd) :
    HasRoom first policy cycle ↔ HasRoom second policy other := by
  have read (store : HistoryStore) (cycle : OpportunityHistoryCycle) :
      HasRoom store policy cycle ↔
        (∃ period ∈ store.cycles.rows.map OpportunityHistoryCycle.period,
          period.1 = cycle.periodEnd) ∨
        ∃ bounds ∈ (successorBounds policy cycle.periodEnd).toOption,
          cycle.periodEnd < bounds.1 ∧
          ∀ period ∈ store.cycles.rows.map OpportunityHistoryCycle.period,
            ¬ (period.1 < bounds.1 ∧ cycle.periodEnd < period.2) := by
    simp [HasRoom, Overlaps, OpportunityHistoryCycle.period]
  rw [read, read, periods, sameEnd]

variable {done : List OpportunityHistoryCycle} {store : HistoryStore}
  {cycle : OpportunityHistoryCycle}

omit [SystemClock] [CaseMapping] [DocumentRuntime] in
/-- Where the successors created so far start earlier, the room for a successor
is that of the start. -/
theorem room_iff (closing : Closing start done store) (member : cycle ∈ store.cycles.rows)
    (earlier : ∀ previous ∈ done, previous.periodEnd < cycle.periodEnd) :
    HasRoom store policy cycle ↔ HasRoom start policy cycle := by
  unfold HasRoom
  constructor
  · rintro (⟨row, rowMember, adjacent⟩ | ⟨bounds, returned, nonempty, free⟩)
    · rcases closing.origin row rowMember with ⟨old, oldMember, period⟩ | ⟨previous, listed, starts⟩
      · exact Or.inl ⟨old, oldMember, (Prod.mk.inj period).1.trans adjacent⟩
      · exact absurd (starts.symm.trans adjacent) (earlier previous listed).ne
    · refine Or.inr ⟨bounds, returned, nonempty, fun old oldMember overlaps => ?_⟩
      obtain ⟨row, rowMember, period⟩ := closing.carried old oldMember
      obtain ⟨rowStart, rowEnd⟩ := Prod.mk.inj period
      refine free row rowMember ?_
      rwa [Overlaps, rowStart, rowEnd]
  · rintro (⟨old, oldMember, adjacent⟩ | ⟨bounds, returned, nonempty, free⟩)
    · obtain ⟨row, rowMember, period⟩ := closing.carried old oldMember
      exact Or.inl ⟨row, rowMember, (Prod.mk.inj period).1.trans adjacent⟩
    · refine Or.inr ⟨bounds, returned, nonempty, fun row rowMember overlaps => ?_⟩
      rcases closing.origin row rowMember with ⟨old, oldMember, period⟩ | ⟨previous, listed, starts⟩
      · obtain ⟨oldStart, oldEnd⟩ := Prod.mk.inj period
        refine free old oldMember ?_
        rwa [Overlaps, oldStart, oldEnd]
      · -- a successor created before ends where this cycle starts, or earlier
        have before : row.periodStart < cycle.periodEnd := by
          rw [starts]
          exact earlier previous listed
        have after : cycle.periodStart < row.periodEnd :=
          (closing.sound.nonempty cycle member).trans overlaps.2
        have sameId := closing.sound.disjoint cycle member row rowMember ⟨before, after⟩
        obtain rfl := store.cycles.eq_of_key member rowMember sameId
        exact lt_irrefl _ overlaps.2

omit [SystemClock] [CaseMapping] [DocumentRuntime] [TimeZones] in
/-- Closing one due cycle, before its successor is made. -/
theorem Closing.close {store next : HistoryStore} (closing : Closing start done store)
    {cycle closed : OpportunityHistoryCycle} (member : cycle ∈ store.cycles.rows)
    (fresh : cycle ∉ done) (change : Closed cycle closed store next) :
    Closing start (done ++ [cycle]) next := by
  have listed (row : OpportunityHistoryCycle) :
      row ∈ next.cycles.rows ↔ row = closed ∨ row ∈ store.cycles.rows ∧ row.id ≠ cycle.id :=
    change.mem_cycles member
  constructor
  · exact change.sound
  · exact change.runs.trans closing.runs
  · intro row rowMember
    have before : ∃ old ∈ store.cycles.rows, old.period = row.period := by
      rcases (listed row).mp rowMember with rfl | ⟨old, -⟩
      · exact ⟨cycle, member, change.period.symm⟩
      · exact ⟨row, old, rfl⟩
    obtain ⟨old, oldMember, period⟩ := before
    rcases closing.origin old oldMember with ⟨first, firstMember, same⟩ | ⟨previous, past, starts⟩
    · exact Or.inl ⟨first, firstMember, same.trans period⟩
    · exact Or.inr ⟨previous, List.mem_append_left _ past, (Prod.mk.inj period).1.symm.trans starts⟩
  · intro old oldMember
    obtain ⟨row, rowMember, period⟩ := closing.carried old oldMember
    by_cases same : row.id = cycle.id
    · obtain rfl := store.cycles.eq_of_key rowMember member same
      exact ⟨closed, (listed closed).mpr (Or.inl rfl), change.period.trans period⟩
    · exact ⟨row, (listed row).mpr (Or.inr ⟨rowMember, same⟩), period⟩
  · intro old oldMember unlisted
    rw [List.mem_append, List.mem_singleton, not_or] at unlisted
    have oldKept := closing.kept old oldMember unlisted.1
    exact (listed old).mpr (Or.inr ⟨oldKept, fun same =>
      unlisted.2 (store.cycles.eq_of_key oldKept member same)⟩)
  · intro other otherListed idle
    rcases List.mem_append.mp otherListed with earlier | last
    · obtain ⟨row, rowMember, sameId, status⟩ := closing.closed other earlier idle
      by_cases same : row.id = cycle.id
      · exact ⟨closed, (listed closed).mpr (Or.inl rfl), (change.id.trans same.symm).trans sameId,
          change.status⟩
      · exact ⟨row, (listed row).mpr (Or.inr ⟨rowMember, same⟩), sameId, status⟩
    · rw [List.mem_singleton.mp last]
      exact ⟨closed, (listed closed).mpr (Or.inl rfl), change.id, change.status⟩

omit [SystemClock] [CaseMapping] [DocumentRuntime] in
/-- Making the successor of a cycle that was closed. -/
theorem Closing.succeed (closing : Closing start done store)
    {cycle closed : OpportunityHistoryCycle} (past : cycle ∈ done)
    (same : closed.periodEnd = cycle.periodEnd) {result : HistoryStore × OpportunityHistoryCycle}
    (ensured : ensureNextCycle store closed policy = .ok result) : Closing start done result.1 := by
  have sound := ensureNextCycle_sound closing.sound ensured
  simp only [ensureNextCycle] at ensured
  split at ensured
  · cases ensured
    exact closing
  · obtain ⟨next, created⟩ := result
    obtain ⟨bounds, -, ensured⟩ := bind_eq_ok.mp ensured
    obtain ⟨rfl, rows, records, -⟩ := createCycle_eq_ok ensured
    constructor
    · exact sound
    · rw [records]
      exact closing.runs
    · intro row member
      rw [rows, List.mem_append, List.mem_singleton] at member
      rcases member with old | rfl
      · exact closing.origin row old
      · exact Or.inr ⟨cycle, past, same⟩
    · intro old oldMember
      obtain ⟨row, rowMember, period⟩ := closing.carried old oldMember
      exact ⟨row, by simp [rows, rowMember], period⟩
    · intro old oldMember unlisted
      simp [rows, closing.kept old oldMember unlisted]
    · intro other listed idle
      obtain ⟨row, rowMember, found⟩ := closing.closed other listed idle
      exact ⟨row, by simp [rows, rowMember], found⟩

omit [SystemClock] [CaseMapping] [DocumentRuntime] in
/-- A successor is there or made exactly where there is room for it. -/
theorem ensureNextCycle_isOk (sound : Sound store) (injective : Function.Injective UuidSource.uuid4) :
    (∃ result, ensureNextCycle store cycle policy = .ok result) ↔ HasRoom store policy cycle := by
  cases found : store.cycles.rows.find? fun row => row.periodStart = cycle.periodEnd with
  | some existing =>
    have adjacent : existing.periodStart = cycle.periodEnd := by
      simpa using List.find?_some found
    simp only [ensureNextCycle, found, Except.ok.injEq, exists_eq', true_iff]
    exact Or.inl ⟨existing, List.mem_of_find?_eq_some found, adjacent⟩
  | none =>
    have noneAdjacent : ¬ ∃ row ∈ store.cycles.rows, row.periodStart = cycle.periodEnd := by
      simpa [List.find?_eq_none] using found
    simp only [ensureNextCycle, found, HasRoom, noneAdjacent, false_or]
    generalize successorBounds policy cycle.periodEnd = returned
    cases returned with
    | error raised => simp [bind, Except.bind, Except.toOption]
    | ok bounds => simp [ok_bind, createCycle_isOk sound injective, Except.toOption]

omit [SystemClock] [CaseMapping] [DocumentRuntime] [TimeZones] in
/-- The running collections are those of the start. -/
theorem Closing.idle_iff (closing : Closing start done store) (cycle : OpportunityHistoryCycle) :
    Idle store cycle ↔ Idle start cycle := by
  simp only [Idle, collectionCoverage, closing.runs]

omit [SystemClock] [CaseMapping] [DocumentRuntime] [TimeZones] in
/-- A cycle that still collects is left as it is. -/
theorem Closing.defer (closing : Closing start done store) (busy : ¬ Idle start cycle) :
    Closing start (done ++ [cycle]) store := by
  refine ⟨closing.sound, closing.runs, ?_, closing.carried, ?_, ?_⟩
  · intro row member
    exact (closing.origin row member).imp_right fun ⟨previous, past, starts⟩ =>
      ⟨previous, List.mem_append_left _ past, starts⟩
  · intro old member unlisted
    exact closing.kept old member fun past => unlisted (List.mem_append_left _ past)
  · intro other listed idle
    rcases List.mem_append.mp listed with earlier | last
    · exact closing.closed other earlier idle
    · rw [List.mem_singleton.mp last] at idle
      exact absurd idle busy

/-- A due cycle is passed exactly where it is not idle or has room for its
successor. -/
theorem closeDueCycle_step (policy : OpportunityManagementPolicy)
    (injective : Function.Injective UuidSource.uuid4) (closing : Closing start done store)
    (member : cycle ∈ start.cycles.rows) (opened : cycle.status = .open_)
    (earlier : ∀ previous ∈ done, previous.periodEnd < cycle.periodEnd) (result : AutoCloseResult) :
    ((∃ state, closeDueCycle policy (store, result) cycle = .ok state) ↔
        (Idle start cycle → HasRoom start policy cycle)) ∧
      ∀ state, closeDueCycle policy (store, result) cycle = .ok state →
        Closing start (done ++ [cycle]) state.1 := by
  have fresh : cycle ∉ done := fun listed => lt_irrefl _ (earlier cycle listed)
  have stored := closing.kept cycle member fresh
  by_cases idle : Idle store cycle
  · obtain ⟨written, closed, closes, change⟩ :=
      closeCycle_ok closing.sound injective stored opened idle none .scheduled
    have between := closing.close stored fresh change
    have sameEnd : closed.periodEnd = cycle.periodEnd := (Prod.mk.inj change.period).2
    have periods : written.cycles.rows.map OpportunityHistoryCycle.period =
        store.cycles.rows.map OpportunityHistoryCycle.period := by
      rw [change.cycles]
      exact Table.map_put _ _ fun _ _ samePeriod => samePeriod
    have room : HasRoom written policy closed ↔ HasRoom start policy cycle :=
      (room_of_periods periods sameEnd).trans (room_iff closing stored earlier)
    have ensures := (ensureNextCycle_isOk between.sound injective).trans room
    have run : closeDueCycle policy (store, result) cycle =
        (ensureNextCycle written closed policy >>= fun ensured =>
          pure (ensured.1, { result with
            evaluated := result.evaluated + 1, closed := result.closed + 1 })) := by
      have running : (collectionCoverage store.records cycle).running = 0 := idle
      simp only [closeDueCycle, running, closes]
      rfl
    refine ⟨?_, ?_⟩
    · rw [run, forall_prop_of_true ((closing.idle_iff cycle).mp idle), ← ensures]
      constructor
      · rintro ⟨state, done⟩
        obtain ⟨ensured, made, -⟩ := bind_eq_ok.mp done
        exact ⟨ensured, made⟩
      · rintro ⟨ensured, made⟩
        exact ⟨_, bind_eq_ok.mpr ⟨ensured, made, rfl⟩⟩
    · intro state done
      rw [run] at done
      obtain ⟨ensured, made, returned⟩ := bind_eq_ok.mp done
      cases returned
      exact between.succeed (by simp) sameEnd made
  · have deferred : closeDueCycle policy (store, result) cycle =
        .ok (store, { result with
          evaluated := result.evaluated + 1, deferredRunning := result.deferredRunning + 1 }) :=
      if_pos idle
    rw [closing.idle_iff] at idle
    refine ⟨⟨fun _ started => absurd started idle, fun _ => ⟨_, deferred⟩⟩, ?_⟩
    intro state done
    rw [deferred] at done
    cases done
    exact closing.defer idle

/-- The loop passes exactly where every idle cycle has room for its successor. -/
theorem closing_run (policy : OpportunityManagementPolicy)
    (injective : Function.Injective UuidSource.uuid4) (rest : List OpportunityHistoryCycle)
    (closing : Closing start done store)
    (due : ∀ cycle ∈ rest, cycle ∈ start.cycles.rows ∧ cycle.status = .open_)
    (ascending : (done ++ rest).Pairwise fun first second => first.periodEnd < second.periodEnd)
    (result : AutoCloseResult) :
    ((∃ state, rest.foldlM (closeDueCycle policy) (store, result) = .ok state) ↔
        ∀ cycle ∈ rest, Idle start cycle → HasRoom start policy cycle) ∧
      ∀ state, rest.foldlM (closeDueCycle policy) (store, result) = .ok state →
        Closing start (done ++ rest) state.1 := by
  induction rest generalizing done store result with
  | nil =>
    refine ⟨by simp [pure, Except.pure], ?_⟩
    intro state finished
    cases finished
    rwa [List.append_nil]
  | cons cycle rest inductionHypothesis =>
    obtain ⟨member, opened⟩ := due cycle (List.mem_cons_self ..)
    have earlier : ∀ previous ∈ done, previous.periodEnd < cycle.periodEnd :=
      fun previous past =>
        (List.pairwise_append.mp ascending).2.2 previous past cycle (List.mem_cons_self ..)
    obtain ⟨passes, keeps⟩ := closeDueCycle_step policy injective closing member opened
      earlier result
    rw [List.append_cons] at ascending ⊢
    have later (state : HistoryStore × AutoCloseResult)
        (stepped : closeDueCycle policy (store, result) cycle = .ok state) :=
      inductionHypothesis (keeps state stepped)
        (fun other listed => due other (List.mem_cons_of_mem _ listed)) ascending state.2
    simp only [List.foldlM_cons, bind_eq_ok, List.forall_mem_cons]
    constructor
    · rw [← passes]
      constructor
      · rintro ⟨state, middle, stepped, finished⟩
        exact ⟨⟨middle, stepped⟩, (later middle stepped).1.mp ⟨state, finished⟩⟩
      · rintro ⟨⟨middle, stepped⟩, rooms⟩
        obtain ⟨state, finished⟩ := (later middle stepped).1.mpr rooms
        exact ⟨state, middle, stepped, finished⟩
    · rintro state ⟨middle, stepped, finished⟩
      exact (later middle stepped).2 state finished

omit [SystemClock] [CaseMapping] [DocumentRuntime] [TimeZones] in
theorem Closing.initial (sound : Sound start) : Closing start [] start where
  sound := sound
  runs := rfl
  origin row member := Or.inl ⟨row, member, rfl⟩
  carried old member := ⟨old, member, rfl⟩
  kept _ member _ := member
  closed _ listed := absurd listed List.not_mem_nil

/-- Which calls close what is due. -/
theorem closesDue_iff (sound : Sound start) (injective : Function.Injective UuidSource.uuid4) :
    ClosesDue start policy now ↔
      if policy.enabled ∧ policy.automaticCycleCloseEnabled then
        ∀ cycle ∈ start.cycles.rows, Due now cycle → Idle start cycle →
          HasRoom start policy cycle
      else ∀ cycle ∈ start.cycles.rows, Due now cycle → ¬ Idle start cycle := by
  by_cases active : policy.enabled ∧ policy.automaticCycleCloseEnabled
  · have run : autoCloseDueCycles start policy now =
        (dueCycles start now).foldlM (closeDueCycle policy) (start, ⟨0, 0, 0⟩) := by
      simp [autoCloseDueCycles, active]
    obtain ⟨passes, keeps⟩ := closing_run policy injective (dueCycles start now)
      (Closing.initial sound)
      (fun cycle listed => (mem_dueCycles.mp listed).imp_right And.left)
      (dueCycles_ascending sound) ⟨0, 0, 0⟩
    rw [if_pos active]
    constructor
    · rintro ⟨next, result, done, -⟩ cycle member due
      exact passes.mp ⟨_, run.symm.trans done⟩ cycle (mem_dueCycles.mpr ⟨member, due⟩)
    · intro rooms
      obtain ⟨⟨next, result⟩, done⟩ := passes.mpr fun cycle listed =>
        rooms cycle (mem_dueCycles.mp listed).1 (mem_dueCycles.mp listed).2
      exact ⟨next, result, run.trans done, fun cycle member due =>
        (keeps _ done).closed cycle (mem_dueCycles.mpr ⟨member, due⟩)⟩
  · have off : autoCloseDueCycles start policy now = .ok (start, ⟨0, 0, 0⟩) := by
      have inactive : (!policy.enabled || !policy.automaticCycleCloseEnabled) = true := by
        simpa [-not_and, not_and_or] using active
      simp [autoCloseDueCycles, inactive]
    rw [if_neg active]
    constructor
    · rintro ⟨next, result, done, closes⟩ cycle member due idle
      obtain ⟨rfl, -⟩ := Prod.mk.inj (Except.ok.inj (off.symm.trans done))
      obtain ⟨row, rowMember, sameId, closed⟩ := closes cycle member due idle
      obtain rfl := start.cycles.eq_of_key rowMember member sameId
      simp [due.1] at closed
    · intro none
      exact ⟨start, _, off, fun cycle member due idle => absurd idle (none cycle member due)⟩

end Loop

end FinopsAnalytics.CycleClosings
