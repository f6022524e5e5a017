import FinopsAnalytics.OpportunityHistoryCycles
import FinopsAnalytics.TransactionHistories

/-!
# Operations on history cycles

Whatever creates and closes cycles, their periods stay nonempty and disjoint,
and only closed cycles have snapshots. A cycle without running collections can
then always be closed, and a successor can be created exactly where its period
overlaps no cycle.
-/

namespace FinopsAnalytics.CycleOperations

open PythonText (CaseMapping)
open UniqueTables OpportunityRecords DistinctKeys CivilCalendar Fallible
open OpportunityHistoryCycles

section Identifiers

variable [UuidSource]

/-- The identifiers were drawn before. -/
def Drawn (drawn : ℕ) (ids : List String) : Prop :=
  ∀ id ∈ ids, ∃ position < drawn, UuidSource.uuid4 position = id

variable {ids : List String}

theorem Drawn.mono {drawn later : ℕ} (known : Drawn drawn ids) (grown : drawn ≤ later) :
    Drawn later ids :=
  fun id member => (known id member).imp fun _ found => ⟨found.1.trans_le grown, found.2⟩

theorem Drawn.add {drawn : ℕ} (known : Drawn drawn ids) :
    Drawn (drawn + 1) (ids ++ [UuidSource.uuid4 drawn]) := by
  intro id member
  rcases List.mem_append.mp member with old | last
  · exact known.mono (Nat.le_succ _) id old
  · exact ⟨drawn, Nat.lt_succ_self _, (List.mem_singleton.mp last).symm⟩

/-- The next identifier is new. -/
theorem Drawn.fresh {drawn : ℕ} (known : Drawn drawn ids)
    (injective : Function.Injective UuidSource.uuid4) : UuidSource.uuid4 drawn ∉ ids := by
  intro member
  obtain ⟨position, earlier, same⟩ := known _ member
  exact absurd (injective same) earlier.ne

/-- What holds of every reachable history. -/
structure Sound (store : HistoryStore) : Prop where
  nonempty : ∀ cycle ∈ store.cycles.rows, cycle.periodStart < cycle.periodEnd
  disjoint : ∀ first ∈ store.cycles.rows, ∀ second ∈ store.cycles.rows,
    Overlaps first.periodStart first.periodEnd second → first.id = second.id
  closed : ∀ row ∈ store.snapshots.rows,
    ∃ cycle ∈ store.cycles.rows, cycle.id = row.cycleId ∧ cycle.status = .closed
  cycleIds : Drawn store.records.drawn (store.cycles.rows.map OpportunityHistoryCycle.id)
  snapshotIds : Drawn store.records.drawn (store.snapshots.rows.map OpportunityHistorySnapshot.id)

/-- An open cycle has no snapshots. -/
theorem Sound.unsnapshotted {store : HistoryStore} (sound : Sound store)
    {cycle : OpportunityHistoryCycle} (member : cycle ∈ store.cycles.rows)
    (opened : cycle.status = .open_) : ∀ row ∈ store.snapshots.rows, row.cycleId ≠ cycle.id := by
  intro row rowMember same
  obtain ⟨other, otherMember, otherId, closed⟩ := sound.closed row rowMember
  obtain rfl := store.cycles.eq_of_key otherMember member (otherId.trans same)
  simp [opened] at closed

end Identifiers

section Creating

variable [UuidSource] {store : HistoryStore} {start stop : Instant} {label timezone : String}
  {policy : Option OpportunityManagementPolicy}

/-- The row of a created cycle. -/
def createdCycle (store : HistoryStore) (start stop : Instant) (label timezone : String)
    (policy : Option OpportunityManagementPolicy) : OpportunityHistoryCycle where
  id := UuidSource.uuid4 store.records.drawn
  label := label
  periodStart := start
  periodEnd := stop
  status := .open_
  timezone := timezone
  policyVersion := policy.map OpportunityManagementPolicy.version
  closedAt := none
  closedBy := none
  closeReason := none
  metadata := ⟨policy.map policySnapshot, none, none⟩

/-- `create_cycle` past its two checks. -/
theorem createCycle_of_free (nonempty : start < stop)
    (free : ∀ cycle ∈ store.cycles.rows, ¬ Overlaps start stop cycle) :
    createCycle store start stop label timezone policy =
      (flushed store.cycles (createdCycle store start stop label timezone policy)).map
        fun cycles => ({ store with records := store.records.draw.2, cycles := cycles },
          createdCycle store start stop label timezone policy) := by
  have unblocked : (store.cycles.rows.any fun cycle => Overlaps start stop cycle) = false := by
    simpa using free
  simp only [createCycle, not_le.mpr nonempty, if_false, unblocked, Bool.false_eq_true]
  cases inserted : flushed store.cycles (createdCycle store start stop label timezone policy) with
  | error raised =>
    simp only [createdCycle, Store.draw] at inserted ⊢
    rw [inserted]
    rfl
  | ok cycles =>
    simp only [createdCycle, Store.draw] at inserted ⊢
    rw [inserted]
    rfl

/-- A refused cycle raises. -/
theorem createCycle_of_taken {result : HistoryStore × OpportunityHistoryCycle}
    (created : createCycle store start stop label timezone policy = .ok result) :
    start < stop ∧ ∀ cycle ∈ store.cycles.rows, ¬ Overlaps start stop cycle := by
  by_cases nonempty : start < stop
  · refine ⟨nonempty, fun cycle member overlaps => ?_⟩
    have blocked : (store.cycles.rows.any fun cycle => Overlaps start stop cycle) = true :=
      List.any_eq_true.mpr ⟨cycle, member, by simpa using overlaps⟩
    simp [createCycle, not_le.mpr nonempty, blocked, throw, throwThe, MonadExceptOf.throw, bind,
      Except.bind] at created
  · simp [createCycle, not_lt.mp nonempty, throw, throwThe, MonadExceptOf.throw, bind,
      Except.bind] at created

/-- What a created cycle adds. -/
theorem createCycle_eq_ok {next : HistoryStore} {cycle : OpportunityHistoryCycle}
    (created : createCycle store start stop label timezone policy = .ok (next, cycle)) :
    cycle = createdCycle store start stop label timezone policy ∧
      next.cycles.rows = store.cycles.rows ++ [cycle] ∧ next.records = store.records.draw.2 ∧
      next.snapshots = store.snapshots := by
  obtain ⟨nonempty, free⟩ := createCycle_of_taken created
  rw [createCycle_of_free nonempty free] at created
  cases inserted : flushed store.cycles (createdCycle store start stop label timezone policy) with
  | error raised => simp [inserted, Except.map] at created
  | ok cycles =>
    simp only [inserted, Except.map, Except.ok.injEq, Prod.mk.injEq] at created
    obtain ⟨rfl, rfl⟩ := created
    exact ⟨rfl, (Table.rows_of_insert (flushed_eq_ok.mp inserted)).1, rfl, rfl⟩

/-- A cycle is created exactly where its period is nonempty and overlaps no other. -/
theorem createCycle_isOk (sound : Sound store)
    (injective : Function.Injective UuidSource.uuid4) :
    (∃ result, createCycle store start stop label timezone policy = .ok result) ↔
      start < stop ∧ ∀ cycle ∈ store.cycles.rows, ¬ Overlaps start stop cycle := by
  constructor
  · rintro ⟨result, created⟩
    exact createCycle_of_taken created
  · rintro ⟨nonempty, free⟩
    have freshPeriod : (start, stop) ∉ store.cycles.rows.map OpportunityHistoryCycle.period := by
      intro listed
      obtain ⟨other, member, same⟩ := List.mem_map.mp listed
      obtain ⟨rfl, rfl⟩ := Prod.mk.inj same
      exact free other member ⟨nonempty, nonempty⟩
    obtain ⟨cycles, inserted⟩ : ∃ cycles, store.cycles.insert
        (createdCycle store start stop label timezone policy) = some cycles :=
      Table.insert_of_fresh (sound.cycleIds.fresh injective) freshPeriod
    rw [createCycle_of_free nonempty free, flushed_eq_ok.mpr inserted]
    exact ⟨_, rfl⟩

/-- A created cycle keeps the history sound. -/
theorem createCycle_sound {result : HistoryStore × OpportunityHistoryCycle} (sound : Sound store)
    (created : createCycle store start stop label timezone policy = .ok result) :
    Sound result.1 := by
  obtain ⟨next, cycle⟩ := result
  obtain ⟨nonempty, free⟩ := createCycle_of_taken created
  obtain ⟨rfl, rows, records, snapshots⟩ := createCycle_eq_ok created
  have either {row : OpportunityHistoryCycle} (member : row ∈ next.cycles.rows) :
      row ∈ store.cycles.rows ∨ row = createdCycle store start stop label timezone policy := by
    simpa [rows] using member
  constructor
  · intro row member
    rcases either member with old | rfl
    · exact sound.nonempty row old
    · exact nonempty
  · intro first firstMember second secondMember overlaps
    rcases either firstMember with firstOld | rfl
    · rcases either secondMember with secondOld | rfl
      · exact sound.disjoint first firstOld second secondOld overlaps
      · exact absurd ⟨overlaps.2, overlaps.1⟩ (free first firstOld)
    · rcases either secondMember with secondOld | rfl
      · exact absurd overlaps (free second secondOld)
      · rfl
  · intro row member
    rw [snapshots] at member
    obtain ⟨closed, closedMember, found⟩ := sound.closed row member
    exact ⟨closed, by simp [rows, closedMember], found⟩
  · rw [rows, records, List.map_append]
    exact sound.cycleIds.add
  · rw [snapshots, records]
    exact sound.snapshotIds.mono (Nat.le_succ _)

end Creating

section Snapshots

variable [UuidSource]

/-- What adding snapshots of one cycle changes. -/
structure Snapshotted (cycleId : String) (before after : HistoryStore) : Prop where
  cycles : after.cycles = before.cycles
  runs : after.records.collectionRuns = before.records.collectionRuns
  drawn : before.records.drawn ≤ after.records.drawn
  known : Drawn after.records.drawn (after.snapshots.rows.map OpportunityHistorySnapshot.id)
  rows : ∀ row ∈ after.snapshots.rows, row ∈ before.snapshots.rows ∨ row.cycleId = cycleId

/-- The unique columns of a snapshot of an opportunity. -/
def snapshotKey (cycleId opportunityId : String) : (String × String) ⊕ String :=
  .inl (cycleId, opportunityId)

/-- A snapshot of an opportunity whose columns are new is added. -/
theorem addSnapshot_ok {store : HistoryStore} {snapshot : OpportunityHistorySnapshot}
    {opportunityId : String} (injective : Function.Injective UuidSource.uuid4)
    (known : Drawn store.records.drawn (store.snapshots.rows.map OpportunityHistorySnapshot.id))
    (named : snapshot.opportunityId = some opportunityId)
    (fresh : snapshotKey snapshot.cycleId opportunityId ∉
      store.snapshots.rows.map OpportunityHistorySnapshot.uniqueKey) :
    ∃ next, addSnapshot store snapshot = .ok next ∧
      Snapshotted snapshot.cycleId store next ∧
      next.snapshots.rows.map OpportunityHistorySnapshot.uniqueKey =
        store.snapshots.rows.map OpportunityHistorySnapshot.uniqueKey ++
          [snapshotKey snapshot.cycleId opportunityId] := by
  let added : OpportunityHistorySnapshot :=
    { snapshot with id := UuidSource.uuid4 store.records.drawn }
  have addedKey : added.uniqueKey = snapshotKey snapshot.cycleId opportunityId := by
    simp [added, OpportunityHistorySnapshot.uniqueKey, named, snapshotKey]
  obtain ⟨snapshots, inserted⟩ : ∃ snapshots, store.snapshots.insert added = some snapshots :=
    Table.insert_of_fresh (known.fresh injective) (by rw [addedKey]; exact fresh)
  obtain ⟨rows, -, -⟩ := Table.rows_of_insert inserted
  refine ⟨{ store with records := store.records.draw.2, snapshots }, ?_, ?_, ?_⟩
  · simp only [addSnapshot]
    rw [show flushed store.snapshots { snapshot with id := store.records.draw.1 } = .ok snapshots
      from flushed_eq_ok.mpr inserted]
    rfl
  · refine ⟨rfl, rfl, Nat.le_succ _, ?_, ?_⟩
    · rw [rows, List.map_append]
      exact known.add
    · intro row member
      rw [rows, List.mem_append, List.mem_singleton] at member
      rcases member with old | rfl
      · exact Or.inl old
      · exact Or.inr rfl
  · rw [rows, List.map_append, List.map_singleton, addedKey]

/-- Snapshots of distinct opportunities are added to a cycle without any. -/
theorem addSnapshots_ok {cycleId : String} (injective : Function.Injective UuidSource.uuid4)
    {store : HistoryStore} {snapshots : List OpportunityHistorySnapshot}
    {opportunities : List String}
    (known : Drawn store.records.drawn (store.snapshots.rows.map OpportunityHistorySnapshot.id))
    (named : snapshots.map (fun row => (row.cycleId, row.opportunityId)) =
      opportunities.map fun opportunity => (cycleId, some opportunity))
    (distinct : opportunities.Nodup)
    (fresh : ∀ opportunity ∈ opportunities, snapshotKey cycleId opportunity ∉
      store.snapshots.rows.map OpportunityHistorySnapshot.uniqueKey) :
    ∃ next, snapshots.foldlM addSnapshot store = .ok next ∧ Snapshotted cycleId store next := by
  induction snapshots generalizing store opportunities with
  | nil => exact ⟨store, rfl, rfl, rfl, le_rfl, known, fun row member => Or.inl member⟩
  | cons snapshot rest inductionHypothesis =>
    cases opportunities with
    | nil => simp at named
    | cons opportunity others =>
      obtain ⟨first, restNamed⟩ := List.cons.inj named
      obtain ⟨rfl, opportunityId⟩ := Prod.mk.inj first
      obtain ⟨unlisted, othersDistinct⟩ := List.nodup_cons.mp distinct
      obtain ⟨middle, added, change, keys⟩ := addSnapshot_ok injective known opportunityId
        (fresh opportunity (List.mem_cons_self ..))
      obtain ⟨next, later, rest⟩ := inductionHypothesis change.known restNamed othersDistinct
        fun other member => by
          rw [keys, List.mem_append, List.mem_singleton]
          rintro (old | last)
          · exact fresh other (List.mem_cons_of_mem _ member) old
          · obtain ⟨-, rfl⟩ := Prod.mk.inj (Sum.inl.inj last)
            exact unlisted member
      refine ⟨next, ?_, rest.cycles.trans change.cycles, rest.runs.trans change.runs,
        change.drawn.trans rest.drawn, rest.known, fun row member => ?_⟩
      · rw [List.foldlM_cons, added]
        exact later
      · rcases rest.rows row member with old | new
        · exact change.rows row old
        · exact Or.inr new

/-- Snapshots of a closed cycle keep the history sound. -/
theorem Snapshotted.sound {cycleId : String} {before after : HistoryStore}
    (change : Snapshotted cycleId before after) (sound : Sound before)
    (closed : ∃ cycle ∈ before.cycles.rows, cycle.id = cycleId ∧ cycle.status = .closed) :
    Sound after := by
  constructor
  · rw [change.cycles]
    exact sound.nonempty
  · rw [change.cycles]
    exact sound.disjoint
  · intro row member
    rw [change.cycles]
    rcases change.rows row member with old | new
    · exact sound.closed row old
    · rw [new]
      exact closed
  · rw [change.cycles]
    exact sound.cycleIds.mono change.drawn
  · exact change.known

end Snapshots

section Replacing

variable [UuidSource]

/-- What closing a cycle does. -/
structure Closed (cycle closed : OpportunityHistoryCycle) (before after : HistoryStore) :
    Prop where
  id : closed.id = cycle.id
  period : closed.period = cycle.period
  status : closed.status = .closed
  cycles : after.cycles = before.cycles.put closed
  runs : after.records.collectionRuns = before.records.collectionRuns
  drawn : before.records.drawn ≤ after.records.drawn
  sound : Sound after

/-- The periods of the cycles are those of before. -/
theorem Closed.mem_cycles {cycle closed : OpportunityHistoryCycle} {before after : HistoryStore}
    (change : Closed cycle closed before after) (member : cycle ∈ before.cycles.rows)
    {row : OpportunityHistoryCycle} :
    row ∈ after.cycles.rows ↔ row = closed ∨ row ∈ before.cycles.rows ∧ row.id ≠ cycle.id := by
  rw [change.cycles, Table.mem_put member change.id.symm change.period.symm, change.id]

/-- A row replaced by one of its period keeps the history sound. -/
theorem put_sound {store : HistoryStore} (sound : Sound store)
    {cycle next : OpportunityHistoryCycle} (member : cycle ∈ store.cycles.rows)
    (sameId : next.id = cycle.id) (samePeriod : next.period = cycle.period)
    (closed : cycle.status = .closed → next.status = .closed) :
    Sound { store with cycles := store.cycles.put next } := by
  have before {row : OpportunityHistoryCycle} (rowMember : row ∈ (store.cycles.put next).rows) :
      ∃ old ∈ store.cycles.rows, row.id = old.id ∧ row.periodStart = old.periodStart ∧
        row.periodEnd = old.periodEnd := by
    rcases (Table.mem_put member sameId.symm samePeriod.symm).mp rowMember with rfl | ⟨old, -⟩
    · exact ⟨cycle, member, sameId, Prod.mk.inj samePeriod⟩
    · exact ⟨row, old, rfl, rfl, rfl⟩
  constructor
  · intro row rowMember
    obtain ⟨old, oldMember, -, start, stop⟩ := before rowMember
    rw [start, stop]
    exact sound.nonempty old oldMember
  · intro first firstMember second secondMember overlaps
    obtain ⟨left, leftMember, leftId, leftStart, leftStop⟩ := before firstMember
    obtain ⟨right, rightMember, rightId, rightStart, rightStop⟩ := before secondMember
    rw [leftId, rightId]
    refine sound.disjoint left leftMember right rightMember ?_
    rwa [Overlaps, ← leftStart, ← leftStop, ← rightStart, ← rightStop]
  · intro row rowMember
    obtain ⟨old, oldMember, oldId, oldClosed⟩ := sound.closed row rowMember
    by_cases same : old.id = next.id
    · obtain rfl := store.cycles.eq_of_key oldMember member (same.trans sameId)
      exact ⟨next, (Table.mem_put member sameId.symm samePeriod.symm).mpr (Or.inl rfl),
        sameId.trans oldId, closed oldClosed⟩
    · exact ⟨old, (Table.mem_put member sameId.symm samePeriod.symm).mpr (Or.inr ⟨oldMember, same⟩),
        oldId, oldClosed⟩
  · rw [Table.map_put OpportunityHistoryCycle.id store.cycles fun _ sameKey _ => sameKey]
    exact sound.cycleIds
  · exact sound.snapshotIds

end Replacing

section Taking

variable [CaseMapping] [DocumentRuntime]

/-- A snapshot names its cycle and its opportunity. -/
theorem snapshotOf_names {records : Store} {cycle : OpportunityHistoryCycle}
    {reason : CloseReason} {capturedAt : Instant} {finding : Finding}
    {snapshot : OpportunityHistorySnapshot}
    (taken : snapshotOf records cycle reason capturedAt finding = some snapshot) :
    snapshot.cycleId = cycle.id ∧ snapshot.opportunityId = some finding.id := by
  simp only [snapshotOf] at taken
  split at taken
  · cases taken
    exact ⟨rfl, rfl⟩
  · cases taken

/-- The snapshots of a cycle are those of distinct opportunities. -/
theorem snapshots_named (records : Store) (cycle : OpportunityHistoryCycle)
    (reason : CloseReason) (capturedAt : Instant) (findings : List Finding) :
    ∃ opportunities : List String, opportunities.Sublist (findings.map Finding.id) ∧
      (findings.filterMap (snapshotOf records cycle reason capturedAt)).map
        (fun row => (row.cycleId, row.opportunityId)) =
        opportunities.map fun opportunity => (cycle.id, some opportunity) := by
  induction findings with
  | nil => exact ⟨[], List.Sublist.refl _, rfl⟩
  | cons finding rest inductionHypothesis =>
    obtain ⟨opportunities, sublist, named⟩ := inductionHypothesis
    cases taken : snapshotOf records cycle reason capturedAt finding with
    | none =>
      refine ⟨opportunities, sublist.cons _, ?_⟩
      rw [List.filterMap_cons_none taken, named]
    | some snapshot =>
      obtain ⟨cycleId, opportunityId⟩ := snapshotOf_names taken
      refine ⟨finding.id :: opportunities, sublist.cons_cons _, ?_⟩
      rw [List.filterMap_cons_some taken, List.map_cons, List.map_cons, named, cycleId,
        opportunityId]

end Taking

section Closing

variable [UuidSource] [SystemClock] [CaseMapping] [DocumentRuntime]

variable {store : HistoryStore}

/-- An open cycle without running collections is closed. -/
theorem closeCycle_ok (sound : Sound store) (injective : Function.Injective UuidSource.uuid4)
    {cycle : OpportunityHistoryCycle} (member : cycle ∈ store.cycles.rows)
    (opened : cycle.status = .open_) (idle : (collectionCoverage store.records cycle).running = 0)
    (actor : Option String) (reason : CloseReason) :
    ∃ next closed, closeCycle store cycle.id actor reason = .ok (next, closed) ∧
      Closed cycle closed store next := by
  obtain ⟨opportunities, sublist, named⟩ := snapshots_named store.records.utcnow.2 cycle reason
    store.records.utcnow.1 (sortByKey Finding.id store.records.findings.rows)
  have distinct : opportunities.Nodup :=
    (((sortByKey_perm _ _).map Finding.id).nodup_iff.mpr
      store.records.findings.distinctKeys).sublist sublist
  have unsnapshotted := sound.unsnapshotted member opened
  have fresh : ∀ opportunity ∈ opportunities, snapshotKey cycle.id opportunity ∉
      store.snapshots.rows.map OpportunityHistorySnapshot.uniqueKey := by
    intro opportunity _ listed
    obtain ⟨row, rowMember, same⟩ := List.mem_map.mp listed
    unfold OpportunityHistorySnapshot.uniqueKey snapshotKey at same
    split at same
    · exact unsnapshotted row rowMember (Prod.mk.inj (Sum.inl.inj same)).1
    · cases same
  let stamped : HistoryStore := { store with records := store.records.utcnow.2 }
  have snapshotIds : Drawn stamped.records.drawn
      (stamped.snapshots.rows.map OpportunityHistorySnapshot.id) := sound.snapshotIds
  obtain ⟨written, added, change⟩ := addSnapshots_ok injective snapshotIds named distinct fresh
  let closed := closedCycle cycle actor reason store.records.utcnow.1
    ((sortByKey Finding.id store.records.utcnow.2.findings.rows).filterMap
      (snapshotOf store.records.utcnow.2 cycle reason store.records.utcnow.1)).length
    (collectionCoverage store.records.utcnow.2 cycle)
  have replaced : Sound { store with cycles := store.cycles.put closed } :=
    put_sound sound member rfl rfl fun _ => rfl
  have listed : closed ∈ (store.cycles.put closed).rows :=
    (Table.mem_put member (show cycle.id = closed.id from rfl) rfl).mpr (Or.inl rfl)
  refine ⟨{ written with cycles := written.cycles.put closed }, closed, ?_, rfl, rfl, rfl, ?_,
    change.runs, change.drawn, ?_⟩
  · have noSnapshots : (store.snapshots.rows.any fun row => row.cycleId = cycle.id) = false := by
      simpa using unsnapshotted
    have found : store.cycles.find? cycle.id = some cycle := Table.find?_eq_some.mpr ⟨member, rfl⟩
    simp only [closeCycle, found, opened, idle, noSnapshots, reduceCtorEq, if_false,
      Bool.false_eq_true, ne_eq, not_true_eq_false]
    exact bind_eq_ok.mpr ⟨written, added, rfl⟩
  · show written.cycles.put closed = _
    rw [change.cycles]
  · have changed : Snapshotted cycle.id { store with cycles := store.cycles.put closed }
        { written with cycles := written.cycles.put closed } :=
      ⟨congrArg (Table.put · closed) change.cycles, change.runs, change.drawn, change.known,
        change.rows⟩
    exact changed.sound replaced ⟨closed, listed, rfl, rfl⟩

/-- A cycle that is not closed leaves an error. -/
theorem closeCycle_of_ok {cycleId : String} {actor : Option String} {reason : CloseReason}
    {result : HistoryStore × OpportunityHistoryCycle}
    (done : closeCycle store cycleId actor reason = .ok result) :
    ∃ cycle ∈ store.cycles.rows, cycle.id = cycleId ∧
      (cycle.status = .closed ∧ result = (store, cycle) ∨
        cycle.status = .open_ ∧ (collectionCoverage store.records cycle).running = 0) := by
  simp only [closeCycle] at done
  split at done
  · exact absurd done throw_ne_ok
  · rename_i cycle found
    obtain ⟨member, sameId⟩ := Table.find?_eq_some.mp found
    refine ⟨cycle, member, sameId, ?_⟩
    split at done
    · rename_i closed
      exact Or.inl ⟨closed, (Except.ok.inj done).symm⟩
    · rename_i notClosed
      have opened : cycle.status = .open_ := by
        cases status : cycle.status with
        | open_ => rfl
        | closed => exact absurd status notClosed
      refine Or.inr ⟨opened, ?_⟩
      by_contra running
      rw [if_pos running] at done
      exact absurd done throw_ne_ok

/-- Closing a cycle keeps the history sound. -/
theorem closeCycle_sound (sound : Sound store) (injective : Function.Injective UuidSource.uuid4)
    {cycleId : String} {actor : Option String} {reason : CloseReason}
    {result : HistoryStore × OpportunityHistoryCycle}
    (done : closeCycle store cycleId actor reason = .ok result) : Sound result.1 := by
  obtain ⟨cycle, member, rfl, ⟨-, rfl⟩ | ⟨opened, idle⟩⟩ := closeCycle_of_ok done
  · exact sound
  · obtain ⟨next, closed, closes, change⟩ :=
      closeCycle_ok sound injective member opened idle actor reason
    obtain rfl := Except.ok.inj (closes.symm.trans done)
    exact change.sound

end Closing

section Succeeding

variable [UuidSource] [TimeZones] {store : HistoryStore} {policy : OpportunityManagementPolicy}

/-- Creating the cycle of an instant keeps the history sound. -/
theorem getOrCreateCycleFor_sound (sound : Sound store) {timestamp : Instant}
    {result : HistoryStore × OpportunityHistoryCycle}
    (done : getOrCreateCycleFor store policy timestamp = .ok result) : Sound result.1 := by
  simp only [getOrCreateCycleFor] at done
  split at done
  · cases done
    exact sound
  · obtain ⟨⟨start, stop, label⟩, -, created⟩ := bind_eq_ok.mp done
    simp only at created
    split at created
    · cases created
      exact sound
    · exact createCycle_sound sound created

/-- Creating a successor keeps the history sound. -/
theorem ensureNextCycle_sound (sound : Sound store) {previous : OpportunityHistoryCycle}
    {result : HistoryStore × OpportunityHistoryCycle}
    (done : ensureNextCycle store previous policy = .ok result) : Sound result.1 := by
  simp only [ensureNextCycle] at done
  split at done
  · cases done
    exact sound
  · obtain ⟨bounds, -, created⟩ := bind_eq_ok.mp done
    exact createCycle_sound sound created

omit [TimeZones] in
/-- Adopting the cycles without a policy keeps the history sound. -/
theorem adoptLegacyOpenCycles_sound (sound : Sound store) :
    Sound (adoptLegacyOpenCycles store policy) := by
  have before {row : OpportunityHistoryCycle}
      (member : row ∈ (adoptLegacyOpenCycles store policy).cycles.rows) :
      ∃ old ∈ store.cycles.rows, adopted policy old = row := List.mem_map.mp member
  have status (cycle : OpportunityHistoryCycle) : (adopted policy cycle).status = cycle.status := by
    unfold adopted
    split <;> rfl
  have start (cycle : OpportunityHistoryCycle) :
      (adopted policy cycle).periodStart = cycle.periodStart :=
    congrArg Prod.fst (period_adopted policy cycle)
  have stop (cycle : OpportunityHistoryCycle) :
      (adopted policy cycle).periodEnd = cycle.periodEnd :=
    congrArg Prod.snd (period_adopted policy cycle)
  constructor
  · intro row member
    obtain ⟨old, oldMember, rfl⟩ := before member
    rw [start, stop]
    exact sound.nonempty old oldMember
  · intro first firstMember second secondMember overlaps
    obtain ⟨left, leftMember, rfl⟩ := before firstMember
    obtain ⟨right, rightMember, rfl⟩ := before secondMember
    rw [Overlaps, start, start, stop, stop] at overlaps
    rw [id_adopted, id_adopted]
    exact sound.disjoint left leftMember right rightMember overlaps
  · intro row member
    obtain ⟨cycle, cycleMember, cycleId, closed⟩ := sound.closed row member
    exact ⟨adopted policy cycle, List.mem_map_of_mem cycleMember,
      (id_adopted policy cycle).trans cycleId, (status cycle).trans closed⟩
  · have ids : (adoptLegacyOpenCycles store policy).cycles.rows.map OpportunityHistoryCycle.id =
        store.cycles.rows.map OpportunityHistoryCycle.id := by
      rw [adoptLegacyOpenCycles, Table.modify, List.map_map]
      exact List.map_congr_left fun cycle _ => id_adopted policy cycle
    rw [ids]
    exact sound.cycleIds
  · exact sound.snapshotIds

end Succeeding

end FinopsAnalytics.CycleOperations
