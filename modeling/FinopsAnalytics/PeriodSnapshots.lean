import FinopsAnalytics.CycleOperations
import FinopsAnalytics.PeriodClosing
import Mathlib.Data.Set.Card
import Mathlib.Order.Bounds.Basic

/-!
# The snapshots of a period

The meaning of a close is said of sets: the observations of an opportunity in a
period, their latest, their first and last instants and the runs that made them.
The queries of `close_cycle` take exactly one snapshot with this meaning of
every opportunity that was observed, and the previews count them.
-/

namespace FinopsAnalytics.PeriodSnapshots

open UniqueTables OpportunityRecords DistinctKeys Fallible OpportunityHistoryCycles CycleOperations
  PeriodClosing
open PythonText (CaseMapping)
open ComparisonContexts (Json)

section Meaning

variable [CaseMapping] [DocumentRuntime]

/-- The columns of a snapshot that an observation fills. -/
structure TechnicalValues where
  currentMonthlyCost : ℚ
  estimatedMonthlySavings : ℚ
  currency : String
  severity : String
  confidence : String
  providerMetadata : List (String × Json)
  evidence : List (String × Json)
  collectionRunId : Option String
deriving DecidableEq

omit [CaseMapping] in
/-- The values of an observation, with its documents as the columns hold them. -/
def storedValues (row : OpportunityObservation) : TechnicalValues where
  currentMonthlyCost := row.currentMonthlyCost
  estimatedMonthlySavings := row.estimatedMonthlySavings
  currency := row.currency
  severity := row.severity
  confidence := row.confidence
  providerMetadata := storedDocument row.providerMetadata
  evidence := storedDocument row.evidence
  collectionRunId := some row.collectionRunId

/-- The values of an observation that a snapshot takes: the two documents are made safe,
like those of the audit. -/
def observedValues (row : OpportunityObservation) : TechnicalValues :=
  { storedValues row with
    providerMetadata := safeJson row.providerMetadata
    evidence := safeJson row.evidence }

omit [CaseMapping] [DocumentRuntime] in
/-- The values that a snapshot carries. -/
def carriedValues (snapshot : OpportunityHistorySnapshot) : TechnicalValues where
  currentMonthlyCost := snapshot.currentMonthlyCost
  estimatedMonthlySavings := snapshot.estimatedMonthlySavings
  currency := snapshot.currency
  severity := snapshot.severity
  confidence := snapshot.confidence
  providerMetadata := snapshot.providerMetadata
  evidence := snapshot.evidence
  collectionRunId := snapshot.lastCollectionRunIdInCycle

/-- The observations of an opportunity in the period of a cycle. -/
def observedIn (records : Store) (cycle : OpportunityHistoryCycle) (opportunity : String) :
    Set OpportunityObservation :=
  {row | row ∈ records.observations.rows ∧ row.opportunityId = opportunity ∧
    cycle.contains row.observedAt}

/-- A snapshot tells of some observations: the latest gives its values, the runs
are counted once each. -/
structure Summarizes (observed : Set OpportunityObservation)
    (snapshot : OpportunityHistorySnapshot) : Prop where
  latest : ∃ latest ∈ observed, (∀ row ∈ observed, observationRank row ≤ observationRank latest) ∧
    carriedValues snapshot = observedValues latest
  first : IsLeast (OpportunityObservation.observedAt '' observed) snapshot.firstObservedInCycleAt
  last : IsGreatest (OpportunityObservation.observedAt '' observed) snapshot.lastObservedInCycleAt
  runs : snapshot.occurrenceCountInCycle =
    (OpportunityObservation.collectionRunId '' observed).ncard

/-- The snapshots of a cycle: one of every opportunity observed in its period, no
other, and each tells of the observations in the period. -/
structure Captures (records : Store) (cycle : OpportunityHistoryCycle)
    (snapshots : List OpportunityHistorySnapshot) : Prop where
  distinct : (snapshots.map OpportunityHistorySnapshot.opportunityId).Nodup
  members : ∀ named, named ∈ snapshots.map OpportunityHistorySnapshot.opportunityId ↔
    ∃ opportunity, named = some opportunity ∧ (observedIn records cycle opportunity).Nonempty
  summarizes : ∀ snapshot ∈ snapshots, ∀ opportunity, snapshot.opportunityId = some opportunity →
    Summarizes (observedIn records cycle opportunity) snapshot

omit [CaseMapping] [DocumentRuntime] in
/-- The snapshots of a cycle. -/
def snapshotsOf (store : HistoryStore) (cycleId : String) : List OpportunityHistorySnapshot :=
  store.snapshots.rows.filter fun row => row.cycleId = cycleId

omit [CaseMapping] [DocumentRuntime] in
/-- Every observation is of a stored finding: the foreign key of `opportunity_id`. -/
def Linked (records : Store) : Prop :=
  ∀ row ∈ records.observations.rows, ∃ finding ∈ records.findings.rows,
    finding.id = row.opportunityId

end Meaning

section Taking

variable [CaseMapping] [DocumentRuntime]
  {records : Store} {cycle : OpportunityHistoryCycle} {reason : CloseReason} {capturedAt : Instant}

omit [CaseMapping] [DocumentRuntime] in
theorem mem_observationsIn {finding : Finding} {row : OpportunityObservation} :
    row ∈ observationsIn records cycle finding ↔ row ∈ observedIn records cycle finding.id := by
  simp [observationsIn, observedIn]

omit [CaseMapping] [DocumentRuntime] in
theorem observedAt_le {first second : OpportunityObservation}
    (ranked : observationRank first ≤ observationRank second) :
    first.observedAt ≤ second.observedAt :=
  Prod.Lex.monotone_fst _ _ ranked

/-- Nothing is taken of an opportunity that was not observed. -/
theorem snapshotOf_eq_none {finding : Finding} :
    snapshotOf records cycle reason capturedAt finding = none ↔
      ¬ (observedIn records cycle finding.id).Nonempty := by
  have empty : observationsIn records cycle finding = [] ↔
      ¬ (observedIn records cycle finding.id).Nonempty := by
    rw [List.eq_nil_iff_forall_not_mem, Set.not_nonempty_iff_eq_empty, Set.eq_empty_iff_forall_notMem]
    exact forall_congr' fun row => not_congr mem_observationsIn
  rw [← empty]
  constructor
  · intro none
    simp only [snapshotOf] at none
    split at none
    · cases none
    · rename_i unfound
      cases first : (sortByKey observationRank (observationsIn records cycle finding)).head? with
      | none =>
        have arranged := sortByKey_perm observationRank (observationsIn records cycle finding)
        rw [List.head?_eq_none_iff.mp first] at arranged
        exact List.nil_perm.mp arranged
      | some first' =>
        cases last : lastByKey observationRank (observationsIn records cycle finding) with
        | none => exact lastByKey_eq_none.mp last
        | some last' => exact absurd last (unfound first' last' first)
  · intro nothing
    simp only [snapshotOf, nothing]
    rfl

/-- What is taken of an opportunity tells of its observations in the period. -/
theorem snapshotOf_summarizes {finding : Finding} {snapshot : OpportunityHistorySnapshot}
    (taken : snapshotOf records cycle reason capturedAt finding = some snapshot) :
    Summarizes (observedIn records cycle finding.id) snapshot := by
  simp only [snapshotOf] at taken
  split at taken
  · rename_i first latest isFirst isLatest
    obtain ⟨firstMember, least⟩ := head?_sortByKey isFirst
    obtain ⟨latestMember, greatest⟩ := lastByKey_eq_some isLatest
    have known {row : OpportunityObservation}
        (observed : row ∈ observedIn records cycle finding.id) :
        row ∈ observationsIn records cycle finding := mem_observationsIn.mpr observed
    cases taken
    constructor
    · exact ⟨latest, mem_observationsIn.mp latestMember, fun row observed =>
        greatest row (known observed), rfl⟩
    · refine ⟨⟨first, mem_observationsIn.mp firstMember, rfl⟩, ?_⟩
      rintro instant ⟨row, observed, rfl⟩
      exact observedAt_le (least row (known observed))
    · refine ⟨⟨latest, mem_observationsIn.mp latestMember, rfl⟩, ?_⟩
      rintro instant ⟨row, observed, rfl⟩
      exact observedAt_le (greatest row (known observed))
    · have sameRuns : OpportunityObservation.collectionRunId '' observedIn records cycle finding.id =
          {run | run ∈ (observationsIn records cycle finding).map
            OpportunityObservation.collectionRunId} := by
        ext run
        simp [mem_observationsIn]
      rw [sameRuns]
      exact length_eraseDups _
  · cases taken

/-- The snapshots taken of distinct findings, where every observation is of one of
them. -/
theorem captures_taken {findings : List Finding} (distinct : (findings.map Finding.id).Nodup)
    (known : ∀ row ∈ records.observations.rows, ∃ finding ∈ findings,
      finding.id = row.opportunityId) :
    Captures records cycle (findings.filterMap (snapshotOf records cycle reason capturedAt)) := by
  have taken (snapshot : OpportunityHistorySnapshot) :
      snapshot ∈ findings.filterMap (snapshotOf records cycle reason capturedAt) ↔
        ∃ finding ∈ findings, snapshotOf records cycle reason capturedAt finding = some snapshot :=
    List.mem_filterMap
  constructor
  · obtain ⟨opportunities, sublist, named⟩ :=
      snapshots_named records cycle reason capturedAt findings
    have columns : (findings.filterMap (snapshotOf records cycle reason capturedAt)).map
        OpportunityHistorySnapshot.opportunityId = opportunities.map some := by
      have second := congrArg (List.map Prod.snd) named
      simpa [List.map_map, Function.comp_def] using second
    rw [columns]
    exact (distinct.sublist sublist).map (Option.some_injective _)
  · intro named
    rw [List.mem_map]
    constructor
    · rintro ⟨snapshot, listed, rfl⟩
      obtain ⟨finding, -, isTaken⟩ := (taken snapshot).mp listed
      obtain ⟨latest, observed, -⟩ := (snapshotOf_summarizes isTaken).latest
      exact ⟨finding.id, (snapshotOf_names isTaken).2, latest, observed⟩
    · rintro ⟨opportunity, rfl, row, observed⟩
      obtain ⟨finding, member, sameId⟩ := known row observed.1
      obtain rfl : finding.id = opportunity := sameId.trans observed.2.1
      cases isTaken : snapshotOf records cycle reason capturedAt finding with
      | none => exact absurd ⟨row, observed⟩ (snapshotOf_eq_none.mp isTaken)
      | some snapshot =>
        exact ⟨snapshot, (taken snapshot).mpr ⟨finding, member, isTaken⟩,
          (snapshotOf_names isTaken).2⟩
  · intro snapshot listed opportunity named
    obtain ⟨finding, -, isTaken⟩ := (taken snapshot).mp listed
    obtain rfl := Option.some.inj ((snapshotOf_names isTaken).2.symm.trans named)
    exact snapshotOf_summarizes isTaken

/-- The previews count the snapshots. -/
theorem Captures.preview {snapshots : List OpportunityHistorySnapshot}
    (captures : Captures records cycle snapshots) :
    snapshotsToCreate records cycle = snapshots.length := by
  have arranged : ((((records.observations.rows.filter fun row => cycle.contains row.observedAt).map
      OpportunityObservation.opportunityId).eraseDups).map some).Perm
        (snapshots.map OpportunityHistorySnapshot.opportunityId) := by
    refine (List.perm_ext_iff_of_nodup ((nodup_eraseDups _).map (Option.some_injective _))
      captures.distinct).mpr fun named => ?_
    rw [captures.members, List.mem_map]
    constructor
    · rintro ⟨opportunity, listed, rfl⟩
      rw [List.mem_eraseDups, List.mem_map] at listed
      obtain ⟨row, inPeriod, sameId⟩ := listed
      rw [List.mem_filter] at inPeriod
      exact ⟨opportunity, rfl, row, inPeriod.1, sameId, inPeriod.2⟩
    · rintro ⟨opportunity, rfl, row, member, sameId, inPeriod⟩
      refine ⟨opportunity, ?_, rfl⟩
      rw [List.mem_eraseDups, List.mem_map]
      exact ⟨row, List.mem_filter.mpr ⟨member, inPeriod⟩, sameId⟩
  simpa [snapshotsToCreate] using arranged.length_eq

end Taking

section Writing

variable [UuidSource]

/-- A snapshot without its identifier. -/
def anonymous (snapshot : OpportunityHistorySnapshot) : OpportunityHistorySnapshot :=
  { snapshot with id := "" }

/-- The snapshots are appended in order, under new identifiers; otherwise only
identifiers are drawn. -/
theorem addSnapshots_eq_ok {snapshots : List OpportunityHistorySnapshot}
    {store next : HistoryStore} (added : snapshots.foldlM addSnapshot store = .ok next) :
    ∃ written drawn, next.snapshots.rows = store.snapshots.rows ++ written ∧
      written.map anonymous = snapshots.map anonymous ∧ next.cycles = store.cycles ∧
      next.records = { store.records with drawn } := by
  induction snapshots generalizing store with
  | nil =>
    cases added
    exact ⟨[], _, (List.append_nil _).symm, rfl, rfl, rfl⟩
  | cons snapshot rest inductionHypothesis =>
    rw [List.foldlM_cons] at added
    obtain ⟨middle, first, later⟩ := bind_eq_ok.mp added
    obtain ⟨table, inserted, result⟩ := bind_eq_ok.mp first
    cases result
    obtain ⟨written, drawn, rows, sameRows, cycles, records⟩ := inductionHypothesis later
    have appended := (Table.rows_of_insert (flushed_eq_ok.mp inserted)).1
    refine ⟨{ snapshot with id := store.records.draw.1 } :: written, drawn, ?_, ?_, cycles, records⟩
    · rw [rows]
      exact (congrArg (· ++ written) appended).trans (List.append_cons _ _ _).symm
    · rw [List.map_cons, List.map_cons, sameRows]
      rfl

variable [SystemClock] [CaseMapping] [DocumentRuntime]

omit [UuidSource] [SystemClock] in
/-- The identifiers play no part in what snapshots capture. -/
theorem Captures.of_anonymous {records : Store} {cycle : OpportunityHistoryCycle}
    {first second : List OpportunityHistorySnapshot}
    (same : first.map anonymous = second.map anonymous)
    (captures : Captures records cycle second) : Captures records cycle first := by
  have column {β : Type} (read : OpportunityHistorySnapshot → β)
      (unread : ∀ snapshot, read (anonymous snapshot) = read snapshot) :
      first.map read = second.map read := by
    have mapped := congrArg (List.map read) same
    simpa [List.map_map, Function.comp_def, unread] using mapped
  have opportunities := column OpportunityHistorySnapshot.opportunityId fun _ => rfl
  constructor
  · rw [opportunities]
    exact captures.distinct
  · rw [opportunities]
    exact captures.members
  · intro snapshot listed opportunity named
    have mapped : anonymous snapshot ∈ second.map anonymous := same ▸ List.mem_map_of_mem listed
    obtain ⟨other, otherListed, equal⟩ := List.mem_map.mp mapped
    have sameColumn {β : Type} (read : OpportunityHistorySnapshot → β)
        (unread : ∀ snapshot, read (anonymous snapshot) = read snapshot) :
        read other = read snapshot := by
      rw [← unread other, equal, unread]
    have summary := captures.summarizes other otherListed opportunity
      ((sameColumn _ fun _ => rfl).trans named)
    have values := sameColumn carriedValues fun _ => rfl
    have firstAt := sameColumn OpportunityHistorySnapshot.firstObservedInCycleAt fun _ => rfl
    have lastAt := sameColumn OpportunityHistorySnapshot.lastObservedInCycleAt fun _ => rfl
    have occurrences := sameColumn OpportunityHistorySnapshot.occurrenceCountInCycle fun _ => rfl
    exact ⟨values ▸ summary.latest, firstAt ▸ summary.first, lastAt ▸ summary.last,
      occurrences ▸ summary.runs⟩

/-- What a close of an open cycle leaves: the cycle closed under its identifier and
period, its snapshots, and everything else as it was. -/
structure ClosedWith (cycle : OpportunityHistoryCycle) (before after : HistoryStore) : Prop where
  closed : ∃ closed, closed.id = cycle.id ∧ closed.period = cycle.period ∧
    closed.status = .closed ∧ after.cycles = before.cycles.put closed
  records : ∃ drawn clockReads, before.records.clockReads ≤ clockReads ∧
    after.records = { before.records with drawn, clockReads }
  others : ∀ cycleId, cycleId ≠ cycle.id → snapshotsOf after cycleId = snapshotsOf before cycleId
  captures : Linked before.records →
    Captures before.records cycle (snapshotsOf after cycle.id)

/-- Closing an open cycle captures its period. -/
theorem closeCycle_closedWith {store next : HistoryStore} (sound : Sound store)
    {cycle closed : OpportunityHistoryCycle} (member : cycle ∈ store.cycles.rows)
    (opened : cycle.status = .open_) {actor : Option String} {reason : CloseReason}
    (done : closeCycle store cycle.id actor reason = .ok (next, closed)) :
    ClosedWith cycle store next := by
  have found : store.cycles.find? cycle.id = some cycle := Table.find?_eq_some.mpr ⟨member, rfl⟩
  have notClosed : ¬ cycle.status = .closed := by simp [opened]
  have unsnapshotted := sound.unsnapshotted member opened
  have noSnapshots : (store.snapshots.rows.any fun row => row.cycleId = cycle.id) = false := by
    simpa using unsnapshotted
  simp only [closeCycle, found, if_neg notClosed, noSnapshots, Bool.false_eq_true, if_false] at done
  split at done
  · exact absurd done throw_ne_ok
  · obtain ⟨written, added, result⟩ := bind_eq_ok.mp done
    obtain ⟨rows, drawn, appended, sameRows, cycles, records⟩ := addSnapshots_eq_ok added
    cases result
    have taken : ∀ snapshot ∈ rows, snapshot.cycleId = cycle.id := by
      intro snapshot listed
      have mapped := List.mem_map_of_mem (f := anonymous) listed
      rw [sameRows] at mapped
      obtain ⟨other, otherListed, equal⟩ := List.mem_map.mp mapped
      obtain ⟨finding, -, isTaken⟩ := List.mem_filterMap.mp otherListed
      have sameCycle : (anonymous other).cycleId = (anonymous snapshot).cycleId :=
        congrArg OpportunityHistorySnapshot.cycleId equal
      exact sameCycle.symm.trans (snapshotOf_names isTaken).1
    have own : (written.snapshots.rows.filter fun row => row.cycleId = cycle.id) = rows := by
      have none : (store.snapshots.rows.filter fun row => row.cycleId = cycle.id) = [] := by
        simpa [List.filter_eq_nil_iff] using unsnapshotted
      have all : (rows.filter fun row => row.cycleId = cycle.id) = rows := by
        simpa [List.filter_eq_self] using taken
      rw [appended, List.filter_append, none, all, List.nil_append]
    refine ⟨⟨closedCycle cycle actor reason _ _ _, rfl, rfl, rfl,
      congrArg (Table.put · (closedCycle cycle actor reason _ _ _)) cycles⟩,
      ⟨drawn, _, Nat.le_succ _, records⟩, fun cycleId other => ?_, fun linked => ?_⟩
    · show written.snapshots.rows.filter (fun row => row.cycleId = cycleId) =
        store.snapshots.rows.filter (fun row => row.cycleId = cycleId)
      have none : (rows.filter fun row => row.cycleId = cycleId) = [] := by
        rw [List.filter_eq_nil_iff]
        intro snapshot listed
        simpa using fun same => other (same.symm.trans (taken snapshot listed))
      rw [appended, List.filter_append, none, List.append_nil]
    · show Captures store.records cycle
        (written.snapshots.rows.filter fun row => row.cycleId = cycle.id)
      rw [own]
      refine Captures.of_anonymous sameRows (captures_taken ?_ fun row observed => ?_)
      · exact ((sortByKey_perm _ _).map Finding.id).nodup_iff.mpr
          store.records.findings.distinctKeys
      · obtain ⟨finding, findingMember, sameId⟩ := linked row observed
        exact ⟨finding, (mem_sortByKey _ _ _).mpr findingMember, sameId⟩

end Writing

end FinopsAnalytics.PeriodSnapshots
