import FinopsAnalytics.InventoryCurrentState

/-!
# Discoveries in any order

The runs of one account are committed in some order, which need not be the
order of their starts. Metadata and last sighting of every resource end as in
chronological order. A proof of absence is kept as a presence only, without its
time, so a delayed run that saw the resource later than its last sighting makes
it active again although a newer run had proved it missing.
-/

namespace FinopsAnalytics.InventoryHistories

open PythonText UniqueTables OpportunityRecords DelayedReports DistinctKeys
open InventoryPersistence InventoryCurrentState

/-- The runs in the order of their starts. -/
def chronological (runs : List Discovery) : List Discovery :=
  sortByKey (fun discovery => discovery.run.startedAt) runs

section Histories

variable [CaseMapping] [TextLiteral] (account : CloudAccount) (start : InventoryStore)

/-- The tables after the runs were committed one after the other. -/
def processAll (runs : List Discovery) : InventoryStore := runs.foldl (commitDiscovery account) start

/-- Current metadata, presence and last sighting of every resource are the same as
after the runs in chronological order. -/
def EndsAsInOrder (runs : List Discovery) : Prop :=
  ∀ identity, storedEntry (processAll account start runs) identity =
    storedEntry (processAll account start (chronological runs)) identity

/-- No run makes a missing resource active again that a newer run, committed
before, proves missing where the run saw it. -/
def NoneRevived (runs : List Discovery) : Prop :=
  ∀ committed discovery later, runs = committed ++ discovery :: later →
    ∀ identity metadata entry, (report account identity discovery).sighting = some metadata →
      storedEntry (processAll account start committed) identity = some entry →
      entry.present = false →
      (∃ newer ∈ committed, (report account identity newer).disproves metadata
        discovery.run.startedAt) →
      ∃ after, storedEntry (processAll account start (committed ++ [discovery])) identity =
        some after ∧ after.present = false

/-- Of the runs that prove the latest sighting of a resource gone, where there are
any, one is committed after the run of that sighting. -/
def ProvedMissingLast (runs : List Discovery) : Prop :=
  ∀ identity, DisprovedLast (storedEntry start identity) (runs.map (report account identity))

/-- A run that saw a missing resource, which a newer committed run proves missing
there, started before the resource was last seen. -/
def NoLateSighting (runs : List Discovery) : Prop :=
  ∀ committed discovery later, runs = committed ++ discovery :: later →
    ∀ identity metadata entry, (report account identity discovery).sighting = some metadata →
      storedEntry (processAll account start committed) identity = some entry →
      entry.present = false →
      (∃ newer ∈ committed, (report account identity newer).disproves metadata
        discovery.run.startedAt) →
      discovery.run.startedAt < entry.seenAt

/-- None of the runs has observations in the table. -/
def Unobserved (runs : List Discovery) : Prop :=
  ∀ discovery ∈ runs, ∀ row ∈ start.observations.rows,
    row.collectionRunId ≠ some discovery.run.id

variable {account start}

/-- Committing runs is taking in their reports. -/
theorem processAll_entry (account : CloudAccount) {runs : List Discovery}
    (unobserved : Unobserved start runs)
    (distinct : (runs.map fun discovery => discovery.run.id).Nodup) (identity : ResourceIdentity) :
    storedEntry (processAll account start runs) identity =
      absorbAll (storedEntry start identity) (runs.map (report account identity)) := by
  induction runs generalizing start with
  | nil => rfl
  | cons discovery rest inductionHypothesis =>
    obtain ⟨notLater, distinctRest⟩ := List.nodup_cons.mp distinct
    obtain ⟨entries, observations⟩ :=
      commitDiscovery_spec account (unobserved discovery (List.mem_cons_self ..))
    have unobservedRest : Unobserved (commitDiscovery account start discovery) rest := by
      intro other member row rowMember
      rcases observations row rowMember with old | ofRun
      · exact unobserved other (List.mem_cons_of_mem _ member) row old
      · rw [ofRun]
        intro same
        exact notLater (List.mem_map.mpr ⟨other, member, (Option.some.inj same).symm⟩)
    rw [List.map_cons, absorbAll_cons, ← entries identity]
    exact inductionHypothesis unobservedRest distinctRest

/-- The reports of the runs in chronological order are the reports in the order
of their times. -/
theorem map_chronological (identity : ResourceIdentity) (runs : List Discovery) :
    (chronological runs).map (report account identity) =
      sortByKey Report.reportedAt (runs.map (report account identity)) := by
  apply List.map_insertionSort
  intro first _ second _
  simp

/-- The runs end as in chronological order exactly where the proofs of absence
that count are committed last. -/
theorem endsAsInOrder_iff {runs : List Discovery} (unobserved : Unobserved start runs)
    (distinctIds : (runs.map fun discovery => discovery.run.id).Nodup)
    (distinctTimes : (runs.map fun discovery => discovery.run.startedAt).Nodup) :
    EndsAsInOrder account start runs ↔ ProvedMissingLast account start runs := by
  have arranged := sortByKey_perm (fun discovery : Discovery => discovery.run.startedAt) runs
  have sortedUnobserved : Unobserved start (chronological runs) :=
    fun discovery member => unobserved discovery (arranged.mem_iff.mp member)
  have sortedIds : ((chronological runs).map fun discovery => discovery.run.id).Nodup :=
    (arranged.map _).nodup_iff.mpr distinctIds
  apply forall_congr'
  intro identity
  rw [processAll_entry account unobserved distinctIds,
    processAll_entry account sortedUnobserved sortedIds,
    map_chronological]
  apply absorbAll_eq_sorted
  simpa [List.map_map, Function.comp_def] using distinctTimes

/-- A missing resource is made active again exactly by a run that saw it no
earlier than it was last seen. -/
theorem noneRevived_iff {runs : List Discovery} (unobserved : Unobserved start runs)
    (distinctIds : (runs.map fun discovery => discovery.run.id).Nodup) :
    NoneRevived account start runs ↔ NoLateSighting account start runs := by
  have step {committed later : List Discovery} {discovery : Discovery}
      (split : runs = committed ++ discovery :: later) {identity : ResourceIdentity}
      {metadata : CurrentMetadata} {entry : Entry Instant CurrentMetadata}
      (sighted : (report account identity discovery).sighting = some metadata)
      (known : storedEntry (processAll account start committed) identity = some entry)
      (missing : entry.present = false) :
      (∃ after, storedEntry (processAll account start (committed ++ [discovery])) identity =
        some after ∧ after.present = false) ↔ discovery.run.startedAt < entry.seenAt := by
    have early : (committed ++ [discovery]).Sublist runs := by
      rw [split]
      exact (List.singleton_sublist.mpr (List.mem_cons_self ..)).append_left committed
    have absorbed := processAll_entry account (fun other member =>
      unobserved other (early.subset member)) (distinctIds.sublist (early.map _)) identity
    have earlier := processAll_entry account (fun other member =>
      unobserved other (early.subset (List.mem_append_left _ member)))
      (distinctIds.sublist (((List.sublist_append_left committed _).trans early).map _)) identity
    rw [List.map_append, absorbAll_append, ← earlier, known] at absorbed
    rw [absorbed]
    by_cases newer : entry.seenAt ≤ discovery.run.startedAt
    · simp [absorb, sighted, newer]
    · simp [absorb, sighted, newer, missing, not_le.mp newer]
  constructor
  · intro noneRevived committed discovery later split identity metadata entry sighted known
      missing disproved
    exact (step split sighted known missing).mp
      (noneRevived committed discovery later split identity metadata entry sighted known missing
        disproved)
  · intro early committed discovery later split identity metadata entry sighted known missing
      disproved
    exact (step split sighted known missing).mpr
      (early committed discovery later split identity metadata entry sighted known missing
        disproved)

/-- Delayed runs keep the history of every resource exactly where a proof of
absence against its latest sighting is committed after it, and no run that saw
the resource is committed between such a proof and the next sighting. -/
theorem delayed_runs_keep_history {runs : List Discovery} (unobserved : Unobserved start runs)
    (distinctIds : (runs.map fun discovery => discovery.run.id).Nodup)
    (distinctTimes : (runs.map fun discovery => discovery.run.startedAt).Nodup) :
    EndsAsInOrder account start runs ∧ NoneRevived account start runs ↔
      ProvedMissingLast account start runs ∧ NoLateSighting account start runs :=
  and_congr (endsAsInOrder_iff unobserved distinctIds distinctTimes)
    (noneRevived_iff unobserved distinctIds)

end Histories

section Samples

attribute [local instance] asciiCase plainLiteral

private def sampleAccount : CloudAccount := ⟨1, "aws", "111122223333", "Production"⟩

private def sampleRun (id : String) (startedAt : Instant) : CollectionRun :=
  ⟨id, "aws", "111122223333", startedAt, none, .success, true⟩

private def sampleInstance : DiscoveredInventoryResource where
  nativeResourceType := none
  service := some "ec2"
  name := some "web"
  region := some "us-east-1"
  availabilityZone := none
  lifecycleStatus := "running"
  nativeStatus := some "running"
  tags := []
  attributes := []
  provider := "aws"
  resourceId := "i-a"
  resourceType := "compute_instance"

private def sampleIdentity : ResourceIdentity := ⟨"aws", 1, "compute_instance", "i-a"⟩

/-- A run that sees the instance. -/
private def sampleSeen (id : String) (startedAt : Instant) : Discovery :=
  ⟨sampleRun id startedAt, [sampleInstance], []⟩

/-- A run whose scope is complete and empty. -/
private def sampleGone (id : String) (startedAt : Instant) : Discovery :=
  ⟨sampleRun id startedAt, [],
    [⟨"aws", 1, "compute_instance", .complete, some "us-east-1", []⟩]⟩

private def sampleStore : InventoryStore := ⟨Table.empty _ _, Table.empty _ _⟩

/-- The run that sees the instance first is committed, then the one that proves it
missing, and last a delayed run between them. -/
private def sampleDelayed : List Discovery :=
  [sampleSeen "run-1" 10, sampleGone "run-3" 30, sampleSeen "run-2" 20]

theorem delayed_runs_keep_history_sample :
    EndsAsInOrder sampleAccount sampleStore sampleDelayed ∧
        NoneRevived sampleAccount sampleStore sampleDelayed ↔
      ProvedMissingLast sampleAccount sampleStore sampleDelayed ∧
        NoLateSighting sampleAccount sampleStore sampleDelayed :=
  delayed_runs_keep_history (by intro _ _ row member; cases member) (by decide) (by decide)

/-- The delayed run makes the instance active again, and the order shows in the end. -/
theorem delayed_run_revives : ¬ ∀ (account : CloudAccount) (start : InventoryStore)
    (runs : List Discovery), Unobserved start runs →
    (runs.map fun discovery => discovery.run.id).Nodup →
    (runs.map fun discovery => discovery.run.startedAt).Nodup →
    EndsAsInOrder account start runs ∧ NoneRevived account start runs := by
  intro claimed
  obtain ⟨ends, -⟩ := claimed sampleAccount sampleStore sampleDelayed
    (by intro _ _ row member; cases member) (by decide) (by decide)
  have delayed : (storedEntry (processAll sampleAccount sampleStore sampleDelayed)
      sampleIdentity).map Entry.present = some true := by decide +kernel
  have ordered : (storedEntry (processAll sampleAccount sampleStore (chronological sampleDelayed))
      sampleIdentity).map Entry.present = some false := by decide +kernel
  rw [ends sampleIdentity, ordered] at delayed
  exact absurd delayed (by decide)

end Samples

end FinopsAnalytics.InventoryHistories
