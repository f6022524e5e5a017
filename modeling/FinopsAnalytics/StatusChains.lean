import FinopsAnalytics.OpportunityOperations
import FinopsAnalytics.StatusTransitions

/-!
# Chains of status events

The status events of an opportunity tell its history: each starts where the one before
it ended, the first at `open`, and the last ends at the status of the row. Decisions
extend the chain by an event, and nothing else touches events or statuses.
-/

namespace FinopsAnalytics.StatusChains

open PythonText UniqueTables OpportunityRecords OpportunityFingerprint OpportunityArchiving
  OpportunityCollection OpportunityPresence OpportunitySavingRecognition OpportunityLifecycle
  OpportunityOperations
  RdsReservationVerdicts RdsReservationOpportunities RdsReservationPasses StatusTransitions
  TransactionHistories Fallible

section Leads

universe u v
variable {α : Type u} {β : Type v}

/-- Steps that lead from one place to another, each from where the one before it ended. -/
def Leads (source target : α → β) : β → List α → β → Prop
  | start, [], stop => start = stop
  | start, step :: rest, stop => source step = start ∧ Leads source target (target step) rest stop

theorem leads_append_singleton {source target : α → β} {start stop : β} {steps : List α}
    {step : α} : Leads source target start (steps ++ [step]) stop ↔
      Leads source target start steps (source step) ∧ target step = stop := by
  induction steps generalizing start with
  | nil =>
    constructor
    · rintro ⟨rfl, rfl⟩
      exact ⟨rfl, rfl⟩
    · rintro ⟨rfl, rfl⟩
      exact ⟨rfl, rfl⟩
  | cons first rest inductionHypothesis =>
    rw [List.cons_append, Leads, Leads, inductionHypothesis, and_assoc]

end Leads

/-- The status events of an opportunity, in the order in which they were recorded. -/
def eventsOf (store : Store) (opportunityId : String) : List OpportunityStatusHistory :=
  store.statusHistory.rows.filter (·.opportunityId = opportunityId)

/-- The events of an opportunity lead from `open` to its status. -/
def Followed (store : Store) (finding : Finding) : Prop :=
  Leads OpportunityStatusHistory.fromStatus OpportunityStatusHistory.toStatus .open_
    (eventsOf store finding.id) finding.status

/-- Every opportunity is followed by its events, and every event is of an opportunity. -/
structure Chained (store : Store) : Prop where
  followed : ∀ finding ∈ store.findings.rows, Followed store finding
  owned : ∀ event ∈ store.statusHistory.rows,
    ∃ finding ∈ store.findings.rows, finding.id = event.opportunityId

/-- A store of open opportunities without events is chained. -/
theorem chained_of_open {store : Store} (opened : ∀ finding ∈ store.findings.rows,
    finding.status = .open_) (eventless : store.statusHistory.rows = []) : Chained store := by
  refine ⟨fun finding member => ?_, fun event member => ?_⟩
  · rw [Followed, eventsOf, eventless]
    exact (opened finding member).symm
  · rw [eventless] at member
    cases member

/-- Events and statuses stay; new opportunities are open. -/
structure StatusesKept (before after : Store) : Prop where
  findings : Table.Evolves (fun old next => next.status = old.status) (·.status = .open_)
    before.findings after.findings
  statusHistory : after.statusHistory = before.statusHistory

theorem StatusesKept.refl (store : Store) : StatusesKept store store :=
  ⟨Table.Evolves.refl (fun finding => Eq.refl finding.status) _, rfl⟩

theorem StatusesKept.trans {first second third : Store} (before : StatusesKept first second)
    (after : StatusesKept second third) : StatusesKept first third :=
  ⟨before.findings.trans (fun one two => two.trans one) (fun same opened => same.trans opened)
    after.findings, after.statusHistory.trans before.statusHistory⟩

/-- What keeps events and statuses keeps the chains. -/
theorem StatusesKept.chained {before after : Store} (kept : StatusesKept before after)
    (chained : Chained before) : Chained after := by
  have sameEvents (id : String) : eventsOf after id = eventsOf before id := by
    rw [eventsOf, kept.statusHistory]
    rfl
  refine ⟨fun finding member => ?_, fun event member => ?_⟩
  · rw [Followed, sameEvents]
    rcases kept.findings.origin member with ⟨old, oldMember, sameId, sameStatus⟩ | ⟨new, opened⟩
    · rw [sameStatus, ← sameId]
      exact chained.followed old oldMember
    · -- no event can be of a new opportunity
      have eventless : eventsOf before finding.id = [] := by
        refine List.filter_eq_nil_iff.mpr fun event eventMember => ?_
        obtain ⟨owner, ownerMember, owns⟩ := chained.owned event eventMember
        rw [decide_eq_true_eq, ← owns]
        exact new owner ownerMember
      rw [eventless]
      exact opened.symm
  · rw [kept.statusHistory] at member
    obtain ⟨owner, ownerMember, owns⟩ := chained.owned event member
    obtain ⟨next, nextMember, sameId, -⟩ := kept.findings.carries owner ownerMember
    exact ⟨next, nextMember, sameId.trans owns⟩

section Decisions

variable [UuidSource] [SystemClock]

variable {reason note : Option String}

omit [SystemClock] in
/-- A decision extends the chain of its opportunity by its event. -/
theorem Chained.writes {before after : Store} (chained : Chained before) {finding next : Finding}
    (member : finding ∈ before.findings.rows) {actor : String} {action : LifecycleAction}
    {event : OpportunityStatusHistory} {archived : List OpportunityArchiveHistory}
    (writes : Writes actor action reason note finding before after next event archived) :
    Chained after := by
  obtain ⟨statusHistory, clockReads, inserted, rfl⟩ := writes.appended
  have sameId : finding.id = next.id := (Finding.id_of_subject writes.subject).symm
  have sameFingerprint := (Finding.fingerprint_of_subject writes.subject).symm
  have ofFinding : event.opportunityId = finding.id :=
    congrArg OpportunityStatusHistory.opportunityId writes.recorded
  have source : event.fromStatus = finding.status :=
    congrArg OpportunityStatusHistory.fromStatus writes.recorded
  have target : event.toStatus = next.status := by
    have reached : event.toStatus = targetOf action :=
      congrArg OpportunityStatusHistory.toStatus writes.recorded
    have status := congrArg Finding.status writes.columns
    rw [reached]
    cases action <;> exact status.symm
  have rows := (Table.rows_of_insert inserted).1
  refine ⟨fun row rowMember => ?_, fun other otherMember => ?_⟩
  · rcases (Table.mem_put member sameId sameFingerprint).mp rowMember with rfl | ⟨old, different⟩
    · -- the events of the finding itself, with the new one at the end
      have events : (statusHistory.rows.filter (·.opportunityId = row.id)) =
          eventsOf before finding.id ++ [event] := by
        rw [rows, List.filter_append, ← sameId]
        simp [eventsOf, ofFinding]
      rw [Followed, eventsOf, events, leads_append_singleton, source]
      exact ⟨chained.followed finding member, target⟩
    · have events : (statusHistory.rows.filter (·.opportunityId = row.id)) =
          eventsOf before row.id := by
        have other : ¬event.opportunityId = row.id := by
          rw [ofFinding, sameId]
          exact fun same => different same.symm
        rw [rows, List.filter_append]
        simp [eventsOf, other]
      rw [Followed, eventsOf, events]
      exact chained.followed row old
  · have held : ∃ finding ∈ before.findings.rows, finding.id = other.opportunityId := by
      rw [rows] at otherMember
      rcases List.mem_append.mp otherMember with old | new
      · exact chained.owned other old
      · rw [List.mem_singleton.mp new]
        exact ⟨finding, member, ofFinding.symm⟩
    obtain ⟨owner, ownerMember, owns⟩ := held
    by_cases same : owner.id = next.id
    · exact ⟨next, (Table.mem_put member sameId sameFingerprint).mpr (Or.inl rfl),
        same.symm.trans owns⟩
    · exact ⟨owner, (Table.mem_put member sameId sameFingerprint).mpr (Or.inr ⟨ownerMember, same⟩),
        owns⟩

theorem chained_applyAction {store after : Store} (chained : Chained store) {finding : Finding}
    (member : finding ∈ store.findings.rows) {actor : String} {action : LifecycleAction}
    {candidate : Option Candidate}
    (accepted : applyAction actor action reason note store finding = .ok (candidate, after)) :
    Chained after := by
  obtain ⟨next, event, archived, writes, -⟩ := applyAction_writes member accepted
  exact chained.writes member writes

theorem chained_applyLegacyStatus {store after : Store} (chained : Chained store)
    {finding : Finding} (member : finding ∈ store.findings.rows) {actor : String}
    {status : LegacyStatus} {candidate : Option Candidate}
    (accepted : applyLegacyStatus actor status reason note store finding =
      .ok (candidate, after)) : Chained after := by
  rcases applyLegacyStatus_writes member accepted with ⟨-, rfl⟩ |
    ⟨action, givenReason, givenNote, next, event, archived, writes, -⟩
  · exact chained
  · exact chained.writes member writes

variable [CaseMapping] [AlphabetTable]

variable {store after : Store} {opportunityId actor : String} {note : Option String}
  {result : Finding}

omit [SystemClock] in
/-- Recognition leaves events and statuses. -/
theorem chained_recognizeTreatments (chained : Chained store) {candidates : List Candidate}
    {actor : String} (accepted : recognizeTreatments store candidates actor = .ok after) :
    Chained after := by
  obtain ⟨ledgerEntries, drawn, -, rfl⟩ := (recognizeTreatments_eq_ok accepted).frame
  exact ⟨chained.followed, chained.owned⟩

/-- Transitions of distinct findings, each of which keeps the chains. -/
theorem chained_transitionAll (chained : Chained store) {findings : List Finding} {actor : String}
    {reopened : List String}
    {transition : Store → Finding → Except ServiceError (Option Candidate × Store)}
    (members : ∀ finding ∈ findings, finding ∈ store.findings.rows)
    (distinct : (findings.map Finding.id).Nodup)
    (spec : ∀ finding ∈ findings, ∀ {state candidate after}, finding ∈ state.findings.rows →
      transition state finding = .ok (candidate, after) →
      Transitioned reopened finding state after candidate)
    (kept : ∀ {finding state candidate after}, Chained state → finding ∈ state.findings.rows →
      transition state finding = .ok (candidate, after) → Chained after)
    (accepted : transitionAll transition store findings actor = .ok after) : Chained after := by
  simp only [transitionAll, bind_eq_ok] at accepted
  obtain ⟨⟨candidates, middle⟩, loop, recognised⟩ := accepted
  suffices finished : Chained middle from chained_recognizeTreatments finished recognised
  have finished := foldlM_rest (fun rest state => (∀ finding ∈ rest, finding ∈ findings) ∧
    TransitionLoop reopened store rest state ∧ Chained state.2) ?_
    ⟨fun _ => id, transitionLoop_start members distinct, chained⟩ loop
  · exact finished.2.2
  · intro finding rest state next holds step
    obtain ⟨listed, waiting, stateChained⟩ := holds
    have member := waiting.waiting finding (List.mem_cons_self ..)
    refine ⟨fun other later => listed other (List.mem_cons_of_mem _ later),
      transitionLoop_step waiting
        (spec finding (listed finding (List.mem_cons_self ..)) member) step,
      ?_⟩
    simp only [applyAll, bind_eq_ok] at step
    obtain ⟨⟨candidate, after⟩, accepted, result⟩ := step
    cases result
    exact kept stateChained member accepted

/-- A treatment, a rejection and a reopen are transitions of one finding. -/
theorem chained_treat (chained : Chained store)
    (accepted : treat store opportunityId actor note = .ok (result, after)) : Chained after := by
  simp only [treat, bind_eq_ok, Store.locked_eq_ok] at accepted
  obtain ⟨finding, found, ⟨event, next, middle⟩, treated, last, recognised, result⟩ := accepted
  cases result
  exact chained_recognizeTreatments
    (chained.writes (Table.find?_eq_some.mp found).1 (applyTreat_writes none treated)) recognised

omit [CaseMapping] [AlphabetTable] in
theorem chained_reject (chained : Chained store) {opportunityId actor reason : String}
    (accepted : reject store opportunityId actor reason note = .ok (result, after)) :
    Chained after := by
  simp only [reject, bind_eq_ok, Store.locked_eq_ok] at accepted
  obtain ⟨-, -, finding, found, rejected⟩ := accepted
  obtain ⟨event, writes⟩ : ∃ event, Writes actor .reject (some reason) note finding store after
      result event [] := applyReject_writes rejected
  exact chained.writes (Table.find?_eq_some.mp found).1 writes

omit [CaseMapping] [AlphabetTable] in
theorem chained_reopen (chained : Chained store)
    (accepted : reopen store opportunityId actor note = .ok (result, after)) : Chained after := by
  simp only [reopen, bind_eq_ok, Store.locked_eq_ok] at accepted
  obtain ⟨finding, found, ⟨archived, next, last⟩, reopened, result⟩ := accepted
  cases result
  have member := (Table.find?_eq_some.mp found).1
  obtain ⟨event, archivedEvents, writes⟩ := applyReopen_writes none member reopened
  exact chained.writes member writes

variable {reason note : Option String}

/-- By induction on the findings. -/
theorem chained_bulkTransition (chained : Chained store) {ids : List String} {actor action : String}
    (accepted : bulkTransition store ids actor action reason note = .ok after) : Chained after := by
  obtain ⟨named, ordered, -, orderedOk, transitioned⟩ := bulkTransition_ordered accepted
  obtain ⟨members, distinct⟩ := orderedFindings_eq_ok orderedOk
  exact chained_transitionAll chained (fun finding listed => (members finding listed).1) distinct
    (fun finding listed _ _ _ stored => applyAction_eq_ok stored (members finding listed).2)
    (fun chained member accepted => chained_applyAction chained member accepted) transitioned

theorem chained_setLegacyStatus (chained : Chained store) {status : LegacyStatus}
    (accepted : setLegacyStatus store opportunityId actor status reason note = .ok after) :
    Chained after := by
  simp only [setLegacyStatus, bind_eq_ok, Store.locked_eq_ok] at accepted
  obtain ⟨finding, found, transitioned⟩ := accepted
  have distinct : ([finding].map Finding.id).Nodup := List.nodup_singleton _
  refine chained_transitionAll chained (fun other listed => ?_) distinct
    (fun other listed _ _ _ stored => applyLegacyStatus_eq_ok stored (List.mem_map_of_mem listed))
    (fun chained member accepted => chained_applyLegacyStatus chained member accepted)
    transitioned
  rw [List.mem_singleton.mp listed]
  exact (Table.find?_eq_some.mp found).1

theorem chained_bulkSetLegacyStatus (chained : Chained store) {ids : List String} {actor : String}
    {status : LegacyStatus}
    (accepted : bulkSetLegacyStatus store ids actor status reason note = .ok after) :
    Chained after := by
  simp only [bulkSetLegacyStatus, bind_eq_ok] at accepted
  obtain ⟨ordered, orderedOk, transitioned⟩ := accepted
  obtain ⟨members, distinct⟩ := orderedFindings_eq_ok orderedOk
  exact chained_transitionAll chained (fun finding listed => (members finding listed).1) distinct
    (fun finding listed _ _ _ stored => applyLegacyStatus_eq_ok stored (members finding listed).2)
    (fun chained member accepted => chained_applyLegacyStatus chained member accepted)
    transitioned

end Decisions

section Runs

variable [CaseMapping] [AlphabetTable] [Digest] [GeneralFormat] [UuidSource] [SystemClock]

variable {store after : Store}

omit [AlphabetTable] [GeneralFormat] in
/-- Persisting findings leaves events and statuses. -/
theorem statusesKept_persistFindings {scanId : String} {run : CollectionRun}
    {collected : List CollectedFinding} {observedAt : Instant} {count : ℕ}
    (accepted : persistFindings store scanId run collected observedAt = .ok (count, after)) :
    StatusesKept store after := by
  simp only [persistFindings, bind_eq_ok] at accepted
  obtain ⟨entries, -, middle, ensured, last, observed, result⟩ := accepted
  cases result
  have first : StatusesKept store middle := by
    refine foldlM_invariant _ (fun entry member state next holds step => holds.trans ?_)
      (StatusesKept.refl store) ensured
    obtain ⟨change, -, frame⟩ := ensureFinding_eq_ok step
    refine ⟨?_, frame.statusHistory⟩
    rcases change with same | ⟨id, inserted⟩
    · rw [same]
      exact Table.Evolves.refl (fun finding => Eq.refl finding.status) _
    · exact Table.Evolves.insert (fun finding => Eq.refl finding.status) inserted rfl
  refine foldlM_invariant _
    (fun entry member state next holds step => holds.trans ?_) first observed
  obtain ⟨finding, later, found, seen, -, -, put, -, frame⟩ := observeEntry_eq_ok step
  refine ⟨?_, frame.statusHistory⟩
  rw [put]
  exact Table.Evolves.put (fun finding => Eq.refl finding.status) _
    (Table.findUnique?_eq_some.mp found).1 (Finding.id_of_subject seen.subject).symm
    (Finding.status_of_decision seen.decision)

omit [AlphabetTable] [UuidSource] [SystemClock] in
/-- A coverage pass leaves the statuses; what it creates is open. -/
theorem evolves_of_pass {pass : CoveragePass} {before after : Store}
    {result : RdsReservationOpportunityResult} {observed uncertain : List String}
    (outcome : PassOutcome pass before after result observed uncertain) :
    Table.Evolves (fun old next => next.status = old.status) (·.status = .open_) before.findings
      after.findings := by
  have kept {old next : Finding} (rewritten : Rewritten old next) :
      next.id = old.id ∧ next.status = old.status :=
    ⟨Finding.id_of_subject rewritten.subject, Finding.status_of_decision rewritten.decision⟩
  refine ⟨fun finding member => ?_, fun next member => ?_⟩
  · by_cases seen : finding.fingerprint ∈ observed
    · obtain ⟨next, nextMember, rewritten, -⟩ := outcome.seen finding member seen
      exact ⟨next, nextMember, kept rewritten⟩
    · exact ⟨_, outcome.settled finding member seen,
        kept (settlementOf_conservative pass uncertain finding)⟩
  · exact (outcome.fresh next member).imp id fun new => new.1.status

omit [CaseMapping] [AlphabetTable] [Digest] [GeneralFormat] [UuidSource] [SystemClock] in
/-- An operation on the archive leaves events and statuses. -/
theorem statusesKept_of_archiveStep {related : Finding → Finding → Prop} {before after : Store}
    (sameStatus : ∀ {old next}, related old next → next.status = old.status)
    (step : ArchiveStep related before after) : StatusesKept before after := by
  obtain ⟨findings, archiveHistory, clockReads, -, rfl⟩ := step.frame
  refine ⟨⟨fun finding member => ?_, fun next member => ?_⟩, rfl⟩
  · obtain ⟨next, nextMember, sameId, related⟩ := step.findings.carries finding member
    exact ⟨next, nextMember, sameId, sameStatus related⟩
  · exact (step.findings.fresh next member).imp id False.elim

omit [CaseMapping] [AlphabetTable] [Digest] [GeneralFormat] [UuidSource] [SystemClock] in
theorem status_of_shelved {old next : Finding} (shelved : Shelved old next) :
    next.status = old.status := by
  rcases shelved with rfl | ⟨-, archivedAt, archivedBy, archiveReason, rfl⟩ <;> rfl

omit [CaseMapping] [AlphabetTable] [Digest] [GeneralFormat] [UuidSource] [SystemClock] in
theorem status_of_unshelved {old next : Finding} (unshelved : Unshelved old next) :
    next.status = old.status := by
  rcases unshelved with rfl | ⟨-, rfl⟩ <;> rfl

omit [AlphabetTable] [GeneralFormat] in
/-- By cases on the operation of a collection. -/
theorem statusesKept_collection {operation : CollectionOperation}
    (committed : OpportunityPresence.step operation store = .ok after) :
    StatusesKept store after := by
  by_cases observes : ∃ scanId runId collected observedAt,
      operation = .persistFindings scanId runId collected observedAt
  · obtain ⟨scanId, runId, collected, observedAt, rfl⟩ := observes
    simp only [OpportunityPresence.step, bind_eq_ok, findRun_eq_ok] at committed
    obtain ⟨run, -, ⟨count, last⟩, accepted, result⟩ := committed
    cases result
    exact statusesKept_persistFindings accepted
  · obtain ⟨findings, kept⟩ := collection_keeps (fun _ _ _ _ same => observes ⟨_, _, _, _, same⟩)
      committed
    refine ⟨⟨fun finding member => ?_, fun next member => ?_⟩, kept.statusHistory⟩
    · obtain ⟨next, nextMember, sameId, rewritten⟩ := findings.carries finding member
      exact ⟨next, nextMember, sameId, Finding.status_of_decision rewritten.decision⟩
    · exact (findings.fresh next member).imp id False.elim

/-- Every operation keeps the chains. -/
theorem chained_perform {operation : Operation} (chained : Chained store)
    (committed : perform operation store = .ok after) : Chained after := by
  cases operation with
  | collection operation => exact (statusesKept_collection committed).chained chained
  | observe scanId runId collected =>
    simp only [perform, observeNow, bind_eq_ok, findRun_eq_ok] at committed
    obtain ⟨run, -, ⟨count, last⟩, accepted, result⟩ := committed
    cases result
    exact (statusesKept_persistFindings accepted).chained ⟨chained.followed, chained.owned⟩
  | coverageRun settings tables coverageRunId now =>
    obtain ⟨result, accepted⟩ := map_snd_eq_ok.mp committed
    obtain ⟨pass, observed, uncertain, clockReads, -, -, outcome⟩ := generate_eq_ok accepted
    have evolves := evolves_of_pass outcome
    obtain ⟨findings, drawn, -, rfl⟩ := outcome.frame
    have kept : StatusesKept store { store with findings, drawn, clockReads } := ⟨evolves, rfl⟩
    exact kept.chained chained
  | retention settings now =>
    obtain ⟨result, accepted⟩ := map_snd_eq_ok.mp committed
    exact (statusesKept_of_archiveStep status_of_shelved
      (OpportunityRetention.run_eq_ok accepted)).chained chained
  | archive opportunityId actor =>
    obtain ⟨result, accepted⟩ := map_snd_eq_ok.mp committed
    exact (statusesKept_of_archiveStep status_of_shelved (archive_eq_ok accepted)).chained chained
  | unarchive opportunityId actor =>
    obtain ⟨result, accepted⟩ := map_snd_eq_ok.mp committed
    exact (statusesKept_of_archiveStep status_of_unshelved
      (unarchive_eq_ok accepted)).chained chained
  | bulkArchive opportunityIds actor =>
    obtain ⟨result, accepted⟩ := map_snd_eq_ok.mp committed
    exact (statusesKept_of_archiveStep status_of_shelved
      (OpportunityBulkArchiving.bulkArchive_eq_ok accepted)).chained chained
  | archiveByFilter filters actor archiveAll =>
    obtain ⟨result, accepted⟩ := map_snd_eq_ok.mp committed
    exact (statusesKept_of_archiveStep status_of_shelved
      (OpportunityBulkArchiving.archiveByFilterAs_eq_ok accepted)).chained chained
  | treat opportunityId actor note =>
    obtain ⟨result, accepted⟩ := map_snd_eq_ok.mp committed
    exact chained_treat chained accepted
  | reject opportunityId actor reason note =>
    obtain ⟨result, accepted⟩ := map_snd_eq_ok.mp committed
    exact chained_reject chained accepted
  | reopen opportunityId actor note =>
    obtain ⟨result, accepted⟩ := map_snd_eq_ok.mp committed
    exact chained_reopen chained accepted
  | bulkTransition opportunityIds actor action reason note =>
    exact chained_bulkTransition chained committed
  | setLegacyStatus opportunityId actor status reason note =>
    exact chained_setLegacyStatus chained committed
  | bulkSetLegacyStatus opportunityIds actor status reason note =>
    exact chained_bulkSetLegacyStatus chained committed
  | cleanup summaries request =>
    obtain ⟨result, accepted⟩ := map_snd_eq_ok.mp committed
    obtain ⟨collectionRuns, observations, -, rfl⟩ :=
      ObservationCleanup.cleanupObservations_eq_ok accepted
    exact ⟨chained.followed, chained.owned⟩

/-- Over every run of operations the chains stay. -/
theorem chained_run {start : Store} (chained : Chained start) (operations : List Operation) :
    Chained (stateAfter perform start operations) :=
  stateAfter_invariant Chained chained
    fun _ _ _ _ holds committed => chained_perform holds committed

end Runs

section Sample

attribute [local instance] asciiCase asciiAlphabet plainDigest integralFormat countingUuids
  countingClock

/-- One open opportunity of an account. -/
def openStore : Store :=
  { Store.empty with
    findings := .single sampleFinding
    cloudAccounts := [⟨1, "aws", "111122223333", "Main"⟩] }

/-- A treatment, a reopen and a rejection, archived and reopened in bulk. -/
def decidedAgain : List Operation :=
  [.treat "finding-1" "ana" none, .reopen "finding-1" "ana" none,
    .reject "finding-1" "ana" "OTHER" (some "kept"), .archive "finding-1" "ana",
    .bulkTransition ["finding-1"] "ana" "reopen" none none]

theorem chained_run_decidedAgain :
    (eventsOf (stateAfter perform openStore decidedAgain) "finding-1").length = 4 ∧
      Chained (stateAfter perform openStore decidedAgain) :=
  ⟨by decide +kernel, chained_run (chained_of_open (by decide) rfl) decidedAgain⟩

end Sample

end FinopsAnalytics.StatusChains
