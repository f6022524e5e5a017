import FinopsAnalytics.OciCollections
import FinopsAnalytics.InventoryCurrentState

/-!
# Absences that an OCI collection proves

A collection looked at a resource where its discovery scanned the region and the
compartment in which the resource was last observed. The coverage that it hands
on names the types and the regions only, so it proves absences outside the
scanned compartments too, unless its scope still holds every known location.
-/

namespace FinopsAnalytics.OciAbsences

open PythonText UniqueTables OpportunityRecords OpportunityCollection OpportunityReconciliation
  OpportunityPresence OpportunityFingerprint Dictionaries DistinctKeys Fallible
  TransactionHistories
open OciDiscovery OciAnalyzers OciInventoryAdapter OciCollections
open InventoryPersistence InventoryCurrentState DelayedReports

/-- The regions and the compartments hold the location. -/
def Holds (regions compartments : List String) (region : Option String)
    (compartment : Option MetaValue) : Prop :=
  (∃ name ∈ regions, region = some name) ∧
    ∃ name ∈ compartments, compartment = some (.text name)

instance (regions compartments : List String) (region : Option String)
    (compartment : Option MetaValue) : Decidable (Holds regions compartments region compartment) :=
  inferInstanceAs (Decidable ((∃ name ∈ _, _) ∧ ∃ name ∈ _, _))

section Discovery

variable [CaseMapping]

/-- A discovery scans the scope that it resolved. -/
theorem discover_scope {services : OciServices} {snapshot : OciConnectionSnapshot} {fuel : ℕ}
    {discovery : OciDiscoveryResult}
    (done : discover services snapshot fuel = .ok (some discovery)) :
    ∃ scope progress,
      resolveOciDiscoveryScope services snapshot fuel Progress.empty =
        .ok (some (scope, progress)) ∧
      discovery.regionsScanned = scope.regions ∧
      discovery.compartmentsScanned = scope.compartmentIds := by
  obtain ⟨resolved, resolvedOk, rest⟩ := bind_eq_ok.mp done
  cases resolved with
  | none => cases rest
  | some found =>
    obtain ⟨scope, progress⟩ := found
    obtain ⟨result, scanned, same⟩ := map_eq_ok.mp rest
    obtain ⟨⟨searchComplete, surveyed⟩, -, built⟩ := bind_eq_ok.mp scanned
    cases built
    cases same
    exact ⟨scope, progress, resolvedOk, rfl, rfl⟩

end Discovery

section Inventory

variable [CaseMapping]

/-- A scope of a coverage comes from one of its rows. -/
theorem mem_statusesByScope {provider : String} {account : CloudAccount}
    {coverage : List InventoryCoverage}
    {statuses : List ((String × Option String) × InventoryCoverageStatus)}
    (covered : statusesByScope provider account coverage = .ok statuses)
    {entry : (String × Option String) × InventoryCoverageStatus} (member : entry ∈ statuses) :
    ∃ item ∈ coverage, entry.1 = (item.resourceType, item.region) := by
  induction coverage generalizing statuses with
  | nil =>
    cases covered
    cases member
  | cons item rest inductionHypothesis =>
    simp only [statusesByScope] at covered
    obtain ⟨found, -, covered⟩ := bind_eq_ok.mp covered
    split at covered
    · cases covered
    split at covered
    · cases covered
    obtain ⟨later, laterOk, result⟩ := bind_eq_ok.mp covered
    have fromRest (inLater : entry ∈ later) :
        ∃ item' ∈ item :: rest, entry.1 = (item'.resourceType, item'.region) := by
      obtain ⟨other, otherMember, same⟩ := inductionHypothesis laterOk inLater
      exact ⟨other, List.mem_cons_of_mem _ otherMember, same⟩
    split at result
    · cases result
      exact fromRest member
    · cases result
      rcases List.mem_cons.mp member with rfl | inLater
      · exact ⟨item, List.mem_cons_self .., rfl⟩
      · exact fromRest inLater

variable [TextLiteral] {account : CloudAccount} {discovery : Discovery} {store : InventoryStore}

/-- A resource that turns missing keeps its details and lies in a scope of the
coverage. -/
theorem turned_missing
    (unobserved : ∀ row ∈ store.observations.rows, row.collectionRunId ≠ some discovery.run.id)
    {row next : InventoryResource} (member : row ∈ store.resources.rows)
    (nextMember : next ∈ (commitDiscovery account store discovery).resources.rows)
    (same : next.toResourceIdentity = row.toResourceIdentity)
    (active : row.presenceStatus = .active) (missing : next.presenceStatus = .missing) :
    next.toResourceDetails = row.toResourceDetails ∧ row.cloudAccountId = account.id ∧
      row.lastSeenAt ≤ discovery.run.startedAt ∧
      ∃ item ∈ discovery.coverage, item.region = row.region := by
  have known : storedEntry store row.toResourceIdentity = some (entryOf row) := by
    rw [storedEntry, current?, Table.findUnique?_eq_some.mpr ⟨member, rfl⟩, Option.map_some]
  have after : storedEntry (commitDiscovery account store discovery) row.toResourceIdentity =
      some (entryOf next) := by
    rw [storedEntry, current?, Table.findUnique?_eq_some.mpr ⟨nextMember, same⟩, Option.map_some]
  rw [(commitDiscovery_spec account unobserved).1, known] at after
  have present : (entryOf row).present = true := by simp [entryOf, active]
  have absent : (entryOf next).present = false := by simp [entryOf, missing]
  cases sighted : (report account row.toResourceIdentity discovery).sighting with
  | some metadata =>
    simp only [absorb, sighted] at after
    split at after <;> have same := congrArg (Option.map Entry.present) after <;>
      simp [present, absent] at same
  | none =>
    simp only [absorb, sighted, Option.some.injEq] at after
    have disproved : (report account row.toResourceIdentity discovery).disproves
        (entryOf row).value (entryOf row).seenAt = true := by
      have status := congrArg Entry.present after
      simpa [present, absent] using status
    have details : next.toResourceDetails = row.toResourceDetails :=
      (congrArg (fun entry => entry.value.toResourceDetails) after).symm
    simp only [Report.disproves, Bool.and_eq_true, decide_eq_true_eq, report_reportedAt]
      at disproved
    obtain ⟨⟨-, excluded⟩, seen⟩ := disproved
    cases offered : evidence account discovery with
    | error raised => simp [report, offered] at excluded
    | ok result =>
      obtain ⟨provider, complete⟩ := result
      simp only [report, offered, excludedBy, decide_eq_true_eq] at excluded
      obtain ⟨-, owner, covered, -⟩ := excluded
      simp only [evidence, bind_eq_ok] at offered
      obtain ⟨_, -, ⟨⟩, -, statuses, statusesOk, ⟨⟩⟩ := offered
      obtain ⟨entry, entryMember, sameScope⟩ :=
        List.mem_map.mp (List.mem_filter.mp covered).1
      obtain ⟨item, itemMember, scope⟩ := mem_statusesByScope statusesOk entryMember
      exact ⟨details, owner, seen, item, itemMember,
        congrArg Prod.snd (scope.symm.trans sameScope)⟩

omit [TextLiteral] in
/-- The coverage of an adapted discovery names the scanned regions only. -/
theorem adaptOciInventory_regions [OciReporting] [MetadataGuard] {cloudAccountId : ℤ}
    {found : OciDiscoveryResult} {resources : List DiscoveredInventoryResource}
    {coverage : List AdaptedCoverage}
    (adapted : adaptOciInventory cloudAccountId found = .ok (resources, coverage))
    {item : AdaptedCoverage} (member : item ∈ coverage) :
    ∃ region ∈ coverageRegions found.regionsScanned, item.region = coverageRegion region := by
  obtain ⟨_, -, rest⟩ := bind_eq_ok.mp adapted
  obtain ⟨rows, mapped, result⟩ := bind_eq_ok.mp rest
  cases result
  obtain ⟨scope, scopeMember, made⟩ := mem_of_mapM_eq_ok mapped member
  obtain ⟨resourceType, -, inRegions⟩ := List.mem_flatMap.mp scopeMember
  obtain ⟨region, regionMember, rfl⟩ := List.mem_map.mp inRegions
  refine ⟨region, regionMember, ?_⟩
  simp only [adaptCoverage] at made
  obtain ⟨provider, -, made⟩ := bind_eq_ok.mp made
  split at made
  · cases made
  · cases made
    rfl

end Inventory

section Collections

/-- Every run with observations of the inventory has finished. -/
def Settled (system : OciSystem) : Prop :=
  ∀ row ∈ system.inventory.observations.rows, ∀ runId, row.collectionRunId = some runId →
    ∃ run ∈ system.opportunities.collectionRuns.rows, run.id = runId ∧ run.status ≠ .running

abbrev OciTransition := Transition OciSystem OciOperation

/-- No observation of the inventory belongs to a run that is under way. -/
theorem unobserved_of_running {system : OciSystem} (settled : Settled system) {runId : String}
    {run : CollectionRun} (known : system.opportunities.collectionRuns.find? runId = some run)
    (running : run.status = .running) :
    ∀ row ∈ system.inventory.observations.rows, row.collectionRunId ≠ some run.id := by
  intro row member ofRun
  obtain ⟨other, otherMember, sameId, finished⟩ := settled row member run.id ofRun
  obtain rfl := system.opportunities.collectionRuns.eq_of_key otherMember
    (Table.find?_eq_some.mp known).1 sameId
  exact finished running

/-- Runs stay settled where observations come from settled runs and finished runs
stay finished. -/
theorem settled_of_finished {before after : OciSystem} (settled : Settled before)
    (observations : ∀ row ∈ after.inventory.observations.rows,
      row ∈ before.inventory.observations.rows ∨
        ∃ run ∈ after.opportunities.collectionRuns.rows,
          row.collectionRunId = some run.id ∧ run.status ≠ .running)
    (finished : ∀ run ∈ before.opportunities.collectionRuns.rows, run.status ≠ .running →
      ∃ next ∈ after.opportunities.collectionRuns.rows, next.id = run.id ∧
        next.status ≠ .running) : Settled after := by
  intro row member runId ofRun
  rcases observations row member with old | ⟨run, runMember, own, done⟩
  · obtain ⟨run, runMember, rfl, done⟩ := settled row old runId ofRun
    exact finished run runMember done
  · exact ⟨run, runMember, Option.some.inj (own.symm.trans ofRun), done⟩

/-- Finishing a run leaves every finished run finished. -/
theorem finished_put {runs : Table CollectionRun.id CollectionRun.id} {run : CollectionRun}
    (next : CollectionRun) (member : run ∈ runs.rows) (sameId : run.id = next.id) (done : next.status ≠ .running) :
    next ∈ (runs.put next).rows ∧ ∀ other ∈ runs.rows, other.status ≠ .running →
      ∃ kept ∈ (runs.put next).rows, kept.id = other.id ∧ kept.status ≠ .running := by
  have stored : next ∈ (runs.put next).rows :=
    (Table.mem_put member sameId sameId).mpr (Or.inl rfl)
  refine ⟨stored, fun other otherMember finished => ?_⟩
  by_cases same : other.id = next.id
  · exact ⟨next, stored, same.symm, done⟩
  · exact ⟨other, (Table.mem_put member sameId sameId).mpr (Or.inr ⟨otherMember, same⟩), rfl,
      finished⟩

section Known

variable [CaseMapping]

/-- The scope that an execution resolves from the configuration that it read. -/
def resolvedScope (system : OciSystem) (runId : String) (answers : OciAnswers) :
    Option OciDiscoveryScope :=
  (system.snapshots.lookup runId).bind fun snapshot =>
    ((resolveOciDiscoveryScope answers.services snapshot answers.fuel
      Progress.empty).toOption.join).map Prod.fst

/-- The scope holds a resource that is active in the regions of its coverage,
unless it was seen after the start of the run. -/
def HoldsResource (account : CloudAccount) (run : CollectionRun) (scope : OciDiscoveryScope)
    (row : InventoryResource) : Prop :=
  row.cloudAccountId = account.id → row.presenceStatus = .active →
    row.lastSeenAt ≤ run.startedAt →
    row.region ∈ (coverageRegions scope.regions).map coverageRegion →
    Holds scope.regions scope.compartmentIds row.region (row.attributes.lookup "compartment_id")

/-- The scope holds a finding of an analyzer that is unresolved in the regions of
the run, unless it was seen after the start of the run. -/
def HoldsFinding (run : CollectionRun) (runScope : CollectionScope) (scope : OciDiscoveryScope)
    (finding : Finding) : Prop :=
  finding.provider = run.provider → finding.accountId = run.accountId →
    finding.presenceStatus = .active ∨ finding.presenceStatus = .missing →
    finding.lastSeenAt ≤ run.startedAt → finding.ruleKey ∈ ruleKeys →
    (∃ region ∈ runRegions runScope, scopeRegion (some region) = scopeRegion finding.region ∨
      scopeRegion (some region) = allRegionsScope) →
    Holds scope.regions scope.compartmentIds finding.region
      (finding.providerMetadata.lookup "compartment_id")

/-- The scope of an execution still holds what is known. -/
structure HoldsKnown (account : CloudAccount) (system : OciSystem) (run : CollectionRun)
    (runScope : CollectionScope) (scope : OciDiscoveryScope) : Prop where
  resources : ∀ row ∈ system.inventory.resources.rows, HoldsResource account run scope row
  findings : ∀ finding ∈ system.opportunities.findings.rows,
    HoldsFinding run runScope scope finding

/-- A collection is persisted only with a scope that holds what is known. -/
def KeepsKnown (account : CloudAccount) (transition : OciTransition) : Prop :=
  match transition.operation with
  | .persistCollection runId answers _ =>
    ∀ run ∈ transition.before.opportunities.collectionRuns.find? runId,
      ∀ runScope ∈ transition.before.scopes.lookup runId,
        ∀ scope ∈ resolvedScope transition.before runId answers,
          HoldsKnown account transition.before run runScope scope
  | _ => True

/-- The transition is a collection whose discovery scanned the location. -/
def LookedAt (transition : OciTransition) (region : Option String)
    (compartment : Option MetaValue) : Prop :=
  ∃ runId answers persistence discovery,
    transition.operation = .persistCollection runId answers persistence ∧
      discoveryOf transition.before runId answers = some discovery ∧
      Holds discovery.regionsScanned discovery.compartmentsScanned region compartment

/-- A resource turns missing, and a finding is counted missing, only by a
collection that looked where it was last observed. -/
structure AbsentWhereLooked (transition : OciTransition) : Prop where
  resources : ∀ row ∈ transition.before.inventory.resources.rows,
    ∀ next ∈ transition.after.inventory.resources.rows,
    next.toResourceIdentity = row.toResourceIdentity → row.presenceStatus = .active →
    next.presenceStatus = .missing →
    LookedAt transition next.region (next.attributes.lookup "compartment_id")
  findings : ∀ finding ∈ transition.before.opportunities.findings.rows,
    ∀ next ∈ transition.after.opportunities.findings.rows, next.id = finding.id →
    finding.missingCount < next.missingCount →
    LookedAt transition next.region (next.providerMetadata.lookup "compartment_id")

/-- Where nothing changes, nothing turns missing. -/
theorem absentWhereLooked_unchanged {transition : OciTransition}
    (inventory : transition.after.inventory = transition.before.inventory)
    (findings : transition.after.opportunities.findings =
      transition.before.opportunities.findings) : AbsentWhereLooked transition where
  resources row member next nextMember same active missing := by
    rw [inventory] at nextMember
    obtain rfl := transition.before.inventory.resources.eq_of_unique nextMember member same
    rw [active] at missing
    cases missing
  findings finding member next nextMember same raised := by
    rw [findings] at nextMember
    obtain rfl := transition.before.opportunities.findings.eq_of_key nextMember member same
    exact absurd raised (lt_irrefl _)

/-- A discovery scans the scope that its execution resolves. -/
theorem resolvedScope_of_discoveryOf {system : OciSystem} {runId : String} {answers : OciAnswers}
    {discovery : OciDiscoveryResult} (found : discoveryOf system runId answers = some discovery) :
    ∃ scope ∈ resolvedScope system runId answers, discovery.regionsScanned = scope.regions ∧
      discovery.compartmentsScanned = scope.compartmentIds := by
  obtain ⟨snapshot, read, joined⟩ := Option.bind_eq_some_iff.mp found
  have done : discover answers.services snapshot answers.fuel = .ok (some discovery) := by
    cases result : discover answers.services snapshot answers.fuel with
    | error issues => simp [result, Except.toOption] at joined
    | ok returned => simpa [result, Except.toOption] using joined
  obtain ⟨scope, progress, resolved, regions, compartments⟩ := discover_scope done
  refine ⟨scope, ?_, regions, compartments⟩
  simp [resolvedScope, read, resolved, Except.toOption]

end Known

section Steps

variable [CaseMapping] [TextLiteral] [OciReporting] [MetadataGuard] [Digest] [UuidSource]
  [SystemClock] {account : CloudAccount}

/-- What a persisted collection did. -/
theorem persistCollection_eq_ok {system after : OciSystem} {runId : String} {answers : OciAnswers}
    {persistence : Persistence}
    (accepted : step account (.persistCollection runId answers persistence) system = .ok after) :
    ∃ run discovery runScope resources coverage result,
      system.opportunities.collectionRuns.find? runId = some run ∧ run.status = .running ∧
      run.provider = account.provider ∧ run.accountId = account.nativeAccountId ∧
      discoveryOf system runId answers = some discovery ∧
      system.scopes.lookup runId = some runScope ∧
      adaptOciInventory account.id discovery = .ok (resources, coverage) ∧
      after.inventory = commitDiscovery account system.inventory
        ⟨run, resources, coverage.map AdaptedCoverage.toInventoryCoverage⟩ ∧
      result = executionResult discovery answers.otherIssues resources ∧
      persistScan system.opportunities persistence.scanId runId result.findings
        persistence.observedAt (ociScopeRows run runScope result persistence.completedAt)
        persistence.missingThreshold persistence.completedAt = .ok after.opportunities := by
  obtain ⟨run, running, rest⟩ := bind_eq_ok.mp accepted
  obtain ⟨known, status, provider, owner⟩ := runningRun_eq_ok running
  split at rest
  · rename_i discovery runScope found claimed
    obtain ⟨⟨resources, coverage⟩, adapted, rest⟩ := bind_eq_ok.mp rest
    obtain ⟨inventory, persisted, rest⟩ := bind_eq_ok.mp rest
    obtain ⟨opportunities, scanned, rest⟩ := bind_eq_ok.mp rest
    cases rest
    refine ⟨run, discovery, runScope, resources, coverage, _, known, status, provider, owner,
      found, claimed, adapted, ?_, rfl, scanned⟩
    simp [commitDiscovery, persisted]
  · cases rest

/-- Every transaction keeps the runs settled. -/
theorem settled_step {system after : OciSystem} {operation : OciOperation}
    (settled : Settled system) (accepted : step account operation system = .ok after) :
    Settled after := by
  cases operation with
  | updateScope configuration =>
    cases accepted
    exact settled
  | claimScan startedAt =>
    obtain ⟨opportunities, begun, result⟩ := bind_eq_ok.mp accepted
    cases result
    obtain ⟨collectionRuns, flushedOk, result⟩ := bind_eq_ok.mp begun
    cases result
    refine settled_of_finished settled (fun row => Or.inl) fun run member done =>
      ⟨run, ?_, rfl, done⟩
    dsimp only
    rw [(Table.rows_of_insert (flushed_eq_ok.mp flushedOk)).1]
    exact List.mem_append_left _ member
  | readConfiguration runId =>
    obtain ⟨run, -, result⟩ := bind_eq_ok.mp accepted
    cases result
    exact settled
  | persistCollection runId answers persistence =>
    obtain ⟨run, discovery, runScope, resources, coverage, result, known, running, -, -, -, -, -,
      inventory, -, scanned⟩ := persistCollection_eq_ok accepted
    have unobserved := unobserved_of_running settled known running
    obtain ⟨runs, -⟩ := persistScan_counts known scanned
    obtain ⟨finished, others⟩ := finished_put
      { run with status := .success, finishedAt := some persistence.completedAt }
      (Table.find?_eq_some.mp known).1 rfl (fun same => by cases same)
    rw [← runs] at finished others
    refine settled_of_finished settled (fun row member => ?_) others
    rw [inventory] at member
    exact ((commitDiscovery_spec account unobserved).2 row member).imp id
      fun ofRun => ⟨_, finished, ofRun, fun same => by cases same⟩
  | failScan runId finishedAt =>
    obtain ⟨opportunities, failed, result⟩ := bind_eq_ok.mp accepted
    cases result
    obtain ⟨run, known, result⟩ := bind_eq_ok.mp failed
    cases result
    exact settled_of_finished settled (fun row => Or.inl)
      (finished_put { run with status := .failed, finishedAt := some finishedAt }
        (Table.find?_eq_some.mp (findRun_eq_ok.mp known)).1 rfl (fun same => by cases same)).2

/-- The step lemma: a collection whose scope holds what is known proves only
absences where it looked. -/
theorem absentWhereLooked_step {system after : OciSystem} {operation : OciOperation}
    (settled : Settled system) (accepted : step account operation system = .ok after)
    (keeps : KeepsKnown account ⟨operation, system, after⟩) :
    AbsentWhereLooked ⟨operation, system, after⟩ := by
  cases operation with
  | updateScope configuration =>
    cases accepted
    exact absentWhereLooked_unchanged rfl rfl
  | claimScan startedAt =>
    obtain ⟨opportunities, begun, result⟩ := bind_eq_ok.mp accepted
    cases result
    obtain ⟨collectionRuns, -, result⟩ := bind_eq_ok.mp begun
    cases result
    exact absentWhereLooked_unchanged rfl rfl
  | readConfiguration runId =>
    obtain ⟨run, -, result⟩ := bind_eq_ok.mp accepted
    cases result
    exact absentWhereLooked_unchanged rfl rfl
  | failScan runId finishedAt =>
    obtain ⟨opportunities, failed, result⟩ := bind_eq_ok.mp accepted
    cases result
    obtain ⟨run, -, result⟩ := bind_eq_ok.mp failed
    cases result
    exact absentWhereLooked_unchanged rfl rfl
  | persistCollection runId answers persistence =>
    obtain ⟨run, discovery, runScope, resources, coverage, result, known, running, provider, owner,
      found, claimed, adapted, inventory, rfl, scanned⟩ := persistCollection_eq_ok accepted
    obtain ⟨scope, resolved, regions, compartments⟩ := resolvedScope_of_discoveryOf found
    have holds : HoldsKnown account system run runScope scope :=
      keeps run known runScope claimed scope resolved
    have looked {region : Option String} {compartment : Option MetaValue}
        (held : Holds scope.regions scope.compartmentIds region compartment) :
        LookedAt ⟨.persistCollection runId answers persistence, system, after⟩ region
          compartment :=
      ⟨runId, answers, persistence, discovery, rfl, found, by rwa [regions, compartments]⟩
    constructor
    · intro row member next nextMember same active missing
      dsimp only at member nextMember
      rw [inventory] at nextMember
      obtain ⟨details, ofAccount, seen, item, itemMember, region⟩ := turned_missing
        (unobserved_of_running settled known running) member nextMember same active missing
      obtain ⟨adaptedItem, adaptedMember, rfl⟩ := List.mem_map.mp itemMember
      obtain ⟨covered, coveredMember, coveredRegion⟩ := adaptOciInventory_regions adapted
        adaptedMember
      have inCoverage : row.region ∈ (coverageRegions scope.regions).map coverageRegion := by
        rw [← region, coveredRegion, ← regions]
        exact List.mem_map_of_mem coveredMember
      have held := holds.resources row member ofAccount active seen inCoverage
      have sameRegion : next.region = row.region := congrArg ResourceDetails.region details
      have sameAttributes : next.attributes = row.attributes :=
        congrArg ResourceDetails.attributes details
      rw [sameRegion, sameAttributes]
      exact looked held
    · intro finding member next nextMember same raised
      obtain ⟨isMissed, ofProvider, ofAccount, unresolved, seen, candidate, candidateMember, -,
        rule, region⟩ := (persistScan_counts known scanned).2 finding member next nextMember same raised
      obtain ⟨ruleKey, ruleMember, inRegions⟩ := List.mem_flatMap.mp candidateMember
      obtain ⟨runRegion, regionMember, rfl⟩ := List.mem_map.mp inRegions
      dsimp only at rule region
      have analyzed : finding.ruleKey ∈ ruleKeys := by
        rw [mem_sortByKey, List.mem_eraseDups] at ruleMember
        exact rule ▸ ruleMember
      have held := holds.findings finding member ofProvider ofAccount unresolved seen analyzed
        ⟨runRegion, regionMember, region⟩
      have sameRegion : next.region = finding.region := by
        rw [isMissed, missed]
        split <;> rfl
      have sameMetadata : next.providerMetadata = finding.providerMetadata := by
        rw [isMissed, missed]
        split <;> rfl
      rw [sameRegion, sameMetadata]
      exact looked held

/-- The runs are settled, and the absences so far were proved where the collections
looked if their scopes held what was known. -/
def ProvedSoFar (account : CloudAccount) (past : List OciTransition) (system : OciSystem) : Prop :=
  Settled system ∧ ((∀ transition ∈ past, KeepsKnown account transition) →
    ∀ transition ∈ past, AbsentWhereLooked transition)

/-- Over every sequence of scope edits and collections, absences are proved only
where the collection looked, as long as every collection is persisted with a
scope that holds what is known. -/
theorem absences_where_looked {start : OciSystem} (settled : Settled start)
    (operations : List OciOperation)
    (keeps : ∀ transition ∈ history (step account) start operations,
      KeepsKnown account transition) :
    ∀ transition ∈ history (step account) start operations, AbsentWhereLooked transition := by
  have run : ProvedSoFar account (history (step account) start operations)
      (stateAfter (step account) start operations) := by
    refine history_invariant (ProvedSoFar account) operations
      ⟨settled, fun _ _ member => absurd member List.not_mem_nil⟩ ?_ ?_
    · rintro past system operation ⟨settledNow, holds⟩
      refine ⟨settledNow, fun kept transition member => ?_⟩
      rcases List.mem_append.mp member with earlier | last
      · exact holds (fun other otherMember => kept other (List.mem_append_left _ otherMember))
          transition earlier
      · rw [List.mem_singleton.mp last]
        exact absentWhereLooked_unchanged rfl rfl
    · rintro past system operation after ⟨settledNow, holds⟩ accepted
      refine ⟨settled_step settledNow accepted, fun kept transition member => ?_⟩
      rcases List.mem_append.mp member with earlier | last
      · exact holds (fun other otherMember => kept other (List.mem_append_left _ otherMember))
          transition earlier
      · rw [List.mem_singleton.mp last]
        exact absentWhereLooked_step settledNow accepted
          (kept _ (List.mem_append_right _ (List.mem_singleton.mpr rfl)))
  exact run.2 keeps

end Steps

end Collections

section Sample

attribute [local instance] asciiCase plainLiteral plainReporting openGuard plainDigest
  countingUuids countingClock

/-- A volume in the first compartment, as long as it exists. -/
def volumeServices (exists_ : Bool) : OciServices where
  listCompartments _ _ _ := ⟨[], none⟩
  searchResources _ := ⟨[], none⟩
  listAvailabilityDomains _ := ⟨[], none⟩
  listInstances _ _ := ⟨[], none⟩
  listVolumes _ compartment := ⟨if exists_ ∧ compartment = "first" then
    [{ id := some "volume", displayName := none, compartmentId := some "first",
       lifecycleState := some "AVAILABLE", availabilityDomain := none,
       freeformTags := [("team", "storage")], definedTags := [], timeCreated := none,
       sizeInGbs := some 50, vpusPerGb := some 10, isAutoTuneEnabled := none }] else [], none⟩
  listBootVolumes _ _ := ⟨[], none⟩
  listVolumeAttachments _ _ := ⟨[], none⟩
  listBootVolumeAttachments _ _ _ := ⟨[], none⟩
  listRegionalPublicIps _ _ := ⟨[], none⟩
  listDomainPublicIps _ _ _ := ⟨[], none⟩

private def sampleAccount : CloudAccount := ⟨1, "oci", "tenancy", "Production"⟩

/-- A configuration of one region. -/
private def sampleConfiguration (compartments : List String) : OciAccountConfiguration :=
  ⟨"region", ["region"], compartments, false, false⟩

private def sampleStart : OciSystem :=
  ⟨sampleConfiguration ["first"], [], [], ⟨Table.empty _ _, Table.empty _ _⟩, Store.empty⟩

/-- A collection finds the volume, the compartments are edited, and a second
collection follows. -/
private def sampleOperations (compartments : List String) (exists_ : Bool) : List OciOperation :=
  [.claimScan 10, .readConfiguration "id-",
    .persistCollection "id-" ⟨volumeServices true, 0, []⟩ ⟨"scan-1", 11, 12, 2⟩,
    .updateScope (sampleConfiguration compartments),
    .claimScan 20, .readConfiguration "id-iiiiiii",
    .persistCollection "id-iiiiiii" ⟨volumeServices exists_, 0, []⟩ ⟨"scan-2", 21, 22, 2⟩]

theorem settled_sampleStart : Settled sampleStart := by
  intro row member
  cases member

instance (account : CloudAccount) (run : CollectionRun) (scope : OciDiscoveryScope)
    (row : InventoryResource) : Decidable (HoldsResource account run scope row) :=
  inferInstanceAs (Decidable (_ → _ → _ → _ → Holds ..))

instance (run : CollectionRun) (runScope : CollectionScope) (scope : OciDiscoveryScope)
    (finding : Finding) : Decidable (HoldsFinding run runScope scope finding) :=
  inferInstanceAs (Decidable (_ → _ → _ → _ → _ → _ → Holds ..))

instance (account : CloudAccount) (system : OciSystem) (run : CollectionRun)
    (runScope : CollectionScope) (scope : OciDiscoveryScope) :
    Decidable (HoldsKnown account system run runScope scope) :=
  decidable_of_iff ((∀ row ∈ _, HoldsResource account run scope row) ∧
    ∀ finding ∈ _, HoldsFinding run runScope scope finding)
    ⟨fun both => ⟨both.1, both.2⟩, fun known => ⟨known.1, known.2⟩⟩

instance (account : CloudAccount) (transition : OciTransition) :
    Decidable (KeepsKnown account transition) :=
  match transition with
  | ⟨.persistCollection _ _ _, _, _⟩ =>
    inferInstanceAs (Decidable (∀ run ∈ _, ∀ runScope ∈ _, ∀ scope ∈ _, HoldsKnown ..))
  | ⟨.updateScope _, _, _⟩ => .isTrue trivial
  | ⟨.claimScan _, _, _⟩ => .isTrue trivial
  | ⟨.readConfiguration _, _, _⟩ => .isTrue trivial
  | ⟨.failScan _ _, _, _⟩ => .isTrue trivial

/-- A deleted volume turns missing in its compartment, which is still scanned. -/
theorem absences_where_looked_deleted :
    (stateAfter (step sampleAccount) sampleStart
        (sampleOperations ["first"] false)).inventory.resources.rows.map
          InventoryResource.presenceStatus = [.missing] ∧
      ∀ transition ∈ history (step sampleAccount) sampleStart (sampleOperations ["first"] false),
        AbsentWhereLooked transition :=
  ⟨by decide +kernel, absences_where_looked settled_sampleStart _ (by decide +kernel)⟩

/-- The transition of the second collection. -/
private def secondCollection (compartments : List String) (exists_ : Bool) : OciTransition :=
  let before := stateAfter (step sampleAccount) sampleStart
    (sampleOperations compartments exists_).dropLast
  ⟨.persistCollection "id-iiiiiii" ⟨volumeServices exists_, 0, []⟩ ⟨"scan-2", 21, 22, 2⟩, before,
    commit (step sampleAccount) before
      (.persistCollection "id-iiiiiii" ⟨volumeServices exists_, 0, []⟩ ⟨"scan-2", 21, 22, 2⟩)⟩

/-- With an empty compartment list the second collection scans nothing, and marks
the volume missing that still exists. -/
theorem unscanned_volume_missing :
    ¬ ∀ (account : CloudAccount) (start : OciSystem), Settled start →
      ∀ (operations : List OciOperation),
        ∀ transition ∈ history (step account) start operations, AbsentWhereLooked transition := by
  intro claimed
  have member : secondCollection [] true ∈
      history (step sampleAccount) sampleStart (sampleOperations [] true) := by
    rw [show sampleOperations [] true = (sampleOperations [] true).dropLast ++
      [.persistCollection "id-iiiiiii" ⟨volumeServices true, 0, []⟩ ⟨"scan-2", 21, 22, 2⟩]
      from rfl, history_append_singleton]
    exact List.mem_append_right _ (List.mem_singleton.mpr rfl)
  have absent := claimed sampleAccount sampleStart settled_sampleStart _ _ member
  have unscanned : ((discoveryOf (secondCollection [] true).before "id-iiiiiii"
      ⟨volumeServices true, 0, []⟩).all fun discovery =>
        discovery.compartmentsScanned = []) = true := by
    decide +kernel
  have turned : ((secondCollection [] true).before.inventory.resources.rows.any fun row =>
      (secondCollection [] true).after.inventory.resources.rows.any fun next =>
        next.toResourceIdentity = row.toResourceIdentity ∧ row.presenceStatus = .active ∧
          next.presenceStatus = .missing) = true := by
    decide +kernel
  obtain ⟨row, rowMember, holds⟩ := List.any_eq_true.mp turned
  obtain ⟨next, nextMember, facts⟩ := List.any_eq_true.mp holds
  obtain ⟨same, active, missing⟩ := of_decide_eq_true facts
  obtain ⟨runId, answers, persistence, discovery, operation, found, -, name, scanned, -⟩ :=
    absent.resources row rowMember next nextMember same active missing
  cases operation
  rw [found] at unscanned
  rw [show discovery.compartmentsScanned = [] by simpa using unscanned] at scanned
  cases scanned

end Sample

end FinopsAnalytics.OciAbsences
