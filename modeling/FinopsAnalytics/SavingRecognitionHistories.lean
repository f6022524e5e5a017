import FinopsAnalytics.OpportunityOperations

/-!
# Savings are credited once

A treatment is recognised at most once, because its entry carries a key of its
own. A later treatment of the same opportunity is recognised only for an
observation newer than every earlier treatment, so no observation is credited
twice. The clock and the identifiers of the observations carry the argument
over runs.
-/

namespace FinopsAnalytics.SavingRecognitionHistories

open PythonText UniqueTables OpportunityRecords OpportunityFingerprint OpportunityCollection
  OpportunitySavingRecognition OpportunityLifecycle OpportunityOperations RdsReservationVerdicts
  RdsReservationPasses ObservationCleanup TransactionHistories

/-- The entries that recognition writes. -/
def IsRecognition (entry : FinOpsLedgerEntry) : Prop :=
  entry.entryType = .saving ∧ entry.source = .opportunity

section Candidates

/-- A candidate is the current event of its finding. -/
theorem currentEventId_of_mem {candidates : List Candidate}
    (distinct : (candidates.map (·.1.id)).Nodup) {candidate : Candidate}
    (listed : candidate ∈ candidates) :
    currentEventId candidates candidate.1.id = some candidate.2.id := by
  unfold currentEventId
  cases found : candidates.reverse.find? (·.1.id = candidate.1.id) with
  | none =>
    have missing := List.find?_eq_none.mp found candidate (List.mem_reverse.mpr listed)
    simp at missing
  | some other =>
    have sameId : other.1.id = candidate.1.id := by simpa using List.find?_some found
    have member := List.mem_reverse.mp (List.mem_of_find?_eq_some found)
    rw [List.inj_on_of_nodup_map distinct member listed sameId]
    rfl

/-- Where a candidate is recognised, its observation is newer than any other
treatment of the opportunity. -/
theorem recognised_newer {store : Store} {candidates : List Candidate}
    (distinct : (candidates.map (·.1.id)).Nodup) {candidate : Candidate}
    (listed : candidate ∈ candidates) {entry : FinOpsLedgerEntry}
    (recognised : Recognised store candidates candidate entry)
    {event : OpportunityStatusHistory} (recorded : event ∈ store.statusHistory.rows)
    (ofOpportunity : event.opportunityId = candidate.1.id) (action : event.action = .treat)
    (treated : event.toStatus = .treated) (other : event.id ≠ candidate.2.id) :
    ∃ observation ∈ store.observations.rows, observation.opportunityId = candidate.1.id ∧
      observationIdOf entry = some observation.id ∧ event.changedAt < observation.observedAt := by
  have isOther : event ∈ otherTreatments store candidates candidate.1.id := by
    unfold otherTreatments
    rw [List.mem_filter, currentEventId_of_mem distinct listed]
    exact ⟨recorded, by simp [ofOpportunity, action, treated, other]⟩
  obtain ⟨observation, latest, newer⟩ := newer_than_treatments recognised.novel isOther
  obtain ⟨member, ofFinding⟩ := latestObservation_eq_some latest
  refine ⟨observation, member, ofFinding, ?_, newer⟩
  rw [recognised.observation, latest]
  rfl

end Candidates

section Invariant

variable [UuidSource]

/-- The treatment that an entry recognises. The observation that the entry names is
not newer, wherever it is still stored. -/
structure Accounted (store : Store) (entry : FinOpsLedgerEntry)
    (event : OpportunityStatusHistory) : Prop where
  recorded : event ∈ store.statusHistory.rows
  action : event.action = .treat
  treated : event.toStatus = .treated
  source : entry.sourceEventId = some event.id
  key : entry.idempotencyKey = some (recognitionKey event.id)
  drawn : ∀ id, observationIdOf entry = some id →
    ∃ position < store.drawn, id = UuidSource.uuid4 position
  older : ∀ row ∈ store.observations.rows, observationIdOf entry = some row.id →
    row.opportunityId = event.opportunityId ∧ row.observedAt ≤ event.changedAt

/-- The identifier of a row was drawn before now. -/
def DrawnBefore (store : Store) (row : OpportunityObservation) : Prop :=
  ∃ position < store.drawn, row.id = UuidSource.uuid4 position

variable [SystemClock]

/-- What holds of the ledger and the observations at every moment of a run. -/
structure Credited (store : Store) : Prop where
  accounted : ∀ entry ∈ store.ledgerEntries.rows, IsRecognition entry →
    ∃ event, Accounted store entry event
  observed : ∀ row ∈ store.observations.rows,
    row.observedAt ≤ SystemClock.utcnow store.clockReads ∧ DrawnBefore store row
  once : ∀ first ∈ store.ledgerEntries.rows, ∀ second ∈ store.ledgerEntries.rows,
    IsRecognition first → IsRecognition second → ∀ id, observationIdOf first = some id →
      observationIdOf second = some id → first = second

/-- A step that recognises nothing: events stay, and observations are kept or
new. -/
structure Quiet (before after : Store) : Prop where
  ledgerEntries : after.ledgerEntries = before.ledgerEntries
  statusHistory : ∀ event ∈ before.statusHistory.rows, event ∈ after.statusHistory.rows
  observations : ∀ row ∈ after.observations.rows,
    (∃ old ∈ before.observations.rows, SameObservation old row) ∨
    (row.observedAt ≤ SystemClock.utcnow after.clockReads ∧ ∃ position, before.drawn ≤ position ∧
      position < after.drawn ∧ row.id = UuidSource.uuid4 position)
  drawn : before.drawn ≤ after.drawn
  clockReads : before.clockReads ≤ after.clockReads

/-- A step that leaves the observations is quiet. -/
theorem Quiet.of_kept {before after : Store} (ledgerEntries : after.ledgerEntries = before.ledgerEntries)
    (statusHistory : ∀ event ∈ before.statusHistory.rows, event ∈ after.statusHistory.rows)
    (observations : ∀ row ∈ after.observations.rows, row ∈ before.observations.rows)
    (drawn : before.drawn ≤ after.drawn) (clockReads : before.clockReads ≤ after.clockReads) :
    Quiet before after :=
  ⟨ledgerEntries, statusHistory,
    fun row member => Or.inl ⟨row, observations row member, SameObservation.refl row⟩, drawn,
    clockReads⟩

/-- A quiet step keeps the accounts. New observations have identifiers of their own. -/
theorem credited_quiet (monotone : Monotone SystemClock.utcnow)
    (injective : Function.Injective UuidSource.uuid4) {before after : Store}
    (credited : Credited before) (quiet : Quiet before after) : Credited after := by
  refine ⟨fun entry member recognition => ?_, fun row member => ?_, ?_⟩
  · rw [quiet.ledgerEntries] at member
    obtain ⟨event, account⟩ := credited.accounted entry member recognition
    refine ⟨event, quiet.statusHistory event account.recorded, account.action, account.treated,
      account.source, account.key, fun id named => ?_, fun row rowMember named => ?_⟩
    · obtain ⟨position, below, drawn⟩ := account.drawn id named
      exact ⟨position, below.trans_le quiet.drawn, drawn⟩
    · rcases quiet.observations row rowMember with ⟨old, oldMember, sameId, samePair, sameInstant⟩ |
        ⟨-, position, above, -, drawn⟩
      · have sameOpportunity : row.opportunityId = old.opportunityId :=
          congrArg Prod.fst samePair
        rw [sameId] at named
        rw [sameOpportunity, sameInstant]
        exact account.older old oldMember named
      · obtain ⟨earlier, below, drawnEarlier⟩ := account.drawn row.id named
        have := injective (drawn.symm.trans drawnEarlier)
        omega
  · rcases quiet.observations row member with ⟨old, oldMember, sameId, -, sameInstant⟩ |
      ⟨inTime, position, -, below, drawn⟩
    · obtain ⟨inTime, position, below, drawn⟩ := credited.observed old oldMember
      refine ⟨?_, position, below.trans_le quiet.drawn, sameId.trans drawn⟩
      rw [sameInstant]
      exact inTime.trans (monotone quiet.clockReads)
    · exact ⟨inTime, position, below, drawn⟩
  · rw [quiet.ledgerEntries]
    exact credited.once

/-- The accounts after the recognition of treatments that were recorded since. -/
theorem credited_recognised (monotone : Monotone SystemClock.utcnow) {start middle after : Store}
    {candidates : List Candidate} (credited : Credited middle)
    (observedBefore : ∀ row ∈ middle.observations.rows,
      row.observedAt ≤ SystemClock.utcnow start.clockReads)
    (treatments : TreatedCandidates start middle candidates)
    (grown : LedgerGrows middle candidates middle after) : Credited after := by
  have frame := grown.frame
  obtain ⟨ledgerEntries, drawn, below, rfl⟩ := frame
  -- the observation that a new entry names
  have named {candidate : Candidate} {entry : FinOpsLedgerEntry}
      (recognised : Recognised middle candidates candidate entry) {id : String}
      (names : observationIdOf entry = some id) : ∃ row ∈ middle.observations.rows,
        row.id = id ∧ row.opportunityId = candidate.1.id := by
    rw [recognised.observation] at names
    obtain ⟨row, latest, sameId⟩ := Option.map_eq_some_iff.mp names
    obtain ⟨member, ofFinding⟩ := latestObservation_eq_some latest
    exact ⟨row, member, sameId, ofFinding⟩
  have sameRow {first second : OpportunityObservation}
      (firstMember : first ∈ middle.observations.rows)
      (secondMember : second ∈ middle.observations.rows) (sameId : first.id = second.id) :
      first = second := middle.observations.eq_of_key firstMember secondMember sameId
  -- an old entry and a new one never name one observation
  have apart {old new : FinOpsLedgerEntry} {candidate : Candidate}
      (oldMember : old ∈ middle.ledgerEntries.rows) (oldRecognition : IsRecognition old)
      (listed : candidate ∈ candidates)
      (recognised : Recognised middle candidates candidate new) {id : String}
      (oldNames : observationIdOf old = some id) (newNames : observationIdOf new = some id) :
      False := by
    obtain ⟨event, account⟩ := credited.accounted old oldMember oldRecognition
    obtain ⟨row, rowMember, rfl, ofFinding⟩ := named recognised newNames
    obtain ⟨ofEvent, notNewer⟩ := account.older row rowMember oldNames
    have other : event.id ≠ candidate.2.id := by
      intro same
      exact recognised.unrecognised old oldMember (by rw [account.key, same])
    obtain ⟨latest, latestMember, -, latestNamed, newer⟩ := recognised_newer treatments.distinct
      listed recognised account.recorded (ofEvent.symm.trans ofFinding) account.action
      account.treated other
    have sameId : latest.id = row.id := Option.some.inj (latestNamed.symm.trans newNames)
    rw [sameRow latestMember rowMember sameId] at newer
    exact absurd newer (not_lt.mpr notNewer)
  refine ⟨fun entry member recognition => ?_, fun row member => ?_,
    fun first firstMember second secondMember firstRecognition secondRecognition id firstNames
      secondNames => ?_⟩
  · rcases grown.added entry member with old | ⟨candidate, listed, recognised⟩
    · obtain ⟨event, account⟩ := credited.accounted entry old recognition
      refine ⟨event, account.recorded, account.action, account.treated, account.source,
        account.key, fun id names => ?_, account.older⟩
      obtain ⟨position, earlier, isDrawn⟩ := account.drawn id names
      exact ⟨position, earlier.trans_le below, isDrawn⟩
    · have treatment := treatments.treatments candidate listed
      refine ⟨candidate.2, treatment.recorded, treatment.action, treatment.treated,
        recognised.event, recognised.key, fun id names => ?_, fun row rowMember names => ?_⟩
      · obtain ⟨row, rowMember, rfl, -⟩ := named recognised names
        obtain ⟨-, position, earlier, isDrawn⟩ := credited.observed row rowMember
        exact ⟨position, earlier.trans_le below, isDrawn⟩
      · obtain ⟨latest, latestMember, sameId, ofFinding⟩ := named recognised names
        obtain rfl := sameRow latestMember rowMember sameId
        obtain ⟨reading, later, timed⟩ := treatment.timed
        refine ⟨ofFinding.trans treatment.ofFinding.symm, ?_⟩
        rw [timed]
        exact (observedBefore latest latestMember).trans (monotone later)
  · obtain ⟨inTime, position, earlier, isDrawn⟩ := credited.observed row member
    exact ⟨inTime, position, earlier.trans_le below, isDrawn⟩
  · rcases grown.added first firstMember with firstOld | ⟨candidate, listed, recognised⟩
    · rcases grown.added second secondMember with secondOld | ⟨candidate, listed, recognised⟩
      · exact credited.once first firstOld second secondOld firstRecognition secondRecognition id
          firstNames secondNames
      · exact (apart firstOld firstRecognition listed recognised firstNames secondNames).elim
    · rcases grown.added second secondMember with secondOld | ⟨other, otherListed, otherRecognised⟩
      · exact (apart secondOld secondRecognition listed recognised secondNames firstNames).elim
      · obtain ⟨row, rowMember, sameId, ofFinding⟩ := named recognised firstNames
        obtain ⟨otherRow, otherMember, sameOtherId, ofOther⟩ := named otherRecognised secondNames
        have same := sameRow rowMember otherMember (sameId.trans sameOtherId.symm)
        have sameFinding : candidate.1.id = other.1.id := by
          rw [← ofFinding, ← ofOther, same]
        obtain rfl := List.inj_on_of_nodup_map treatments.distinct listed otherListed sameFinding
        refine ledgerEntries.eq_of_unique firstMember secondMember ?_
        simp only [FinOpsLedgerEntry.uniqueKey, recognised.key, otherRecognised.key]

end Invariant

section Runs

variable [CaseMapping] [AlphabetTable] [Digest] [GeneralFormat] [UuidSource] [SystemClock]

variable {operation : Operation} {before after : Store}

omit [AlphabetTable] in
/-- Every effect but a decision is quiet. -/
theorem quiet_of_effect (monotone : Monotone SystemClock.utcnow) (undated : operation.dated = false)
    (effect : Effect operation before after) :
    Quiet before after ∨ HumanOperation operation.reopens before after := by
  cases effect with
  | observed run observedAt clockReads later persisted collects timed =>
    obtain ⟨atClock, advanced⟩ := timed undated
    have frame := persisted.frame
    have clock : before.clockReads ≤ after.clockReads := later.trans frame.clockReads
    refine Or.inl ⟨frame.ledgerEntries, fun event member => ?_, fun row member => ?_, frame.drawn,
      clock⟩
    · rw [frame.statusHistory]
      exact member
    · rcases persisted.observations.origin member with ⟨old, oldMember, -, same⟩ |
        ⟨-, -, atInstant, position, above, below, drawn⟩
      · exact Or.inl ⟨old, oldMember, same⟩
      · refine Or.inr ⟨?_, position, above, below, drawn⟩
        rw [atInstant, atClock]
        exact monotone clock
  | reconciled findings kept collects =>
    refine Or.inl (.of_kept kept.ledgerEntries ?_ ?_ kept.drawn kept.clockReads)
    · rw [kept.statusHistory]
      exact fun _ => id
    · rw [kept.observations]
      exact fun _ => id
  | covered settings tables coverageRunId now isCoverage pass result accepted isPass
      observed uncertain clockReads later outcome =>
    obtain ⟨findings, drawn, below, rfl⟩ := outcome.frame
    exact Or.inl (.of_kept rfl (fun _ => id) (fun _ => id) below later)
  | shelved step =>
    obtain ⟨findings, archiveHistory, clockReads, later, rfl⟩ := step.frame
    exact Or.inl (.of_kept rfl (fun _ => id) (fun _ => id) le_rfl later)
  | unshelved step =>
    obtain ⟨findings, archiveHistory, clockReads, later, rfl⟩ := step.frame
    exact Or.inl (.of_kept rfl (fun _ => id) (fun _ => id) le_rfl later)
  | decided human => exact Or.inr human
  | cleaned shrunk =>
    obtain ⟨collectionRuns, observations, fewer, rfl⟩ := shrunk
    exact Or.inl (.of_kept rfl (fun _ => id) fewer le_rfl le_rfl)

omit [CaseMapping] [AlphabetTable] [Digest] [GeneralFormat] [UuidSource] in
/-- The transitions of a human operation are quiet. -/
theorem quiet_of_transitionFrame [UuidSource] {before middle : Store}
    (frame : TransitionFrame before middle) : Quiet before middle := by
  refine .of_kept frame.ledgerEntries frame.statusHistory (fun row member => ?_) frame.drawn
    frame.clockReads
  rwa [← frame.observations]

/-- Every operation keeps the accounts. -/
theorem credited_perform (monotone : Monotone SystemClock.utcnow)
    (injective : Function.Injective UuidSource.uuid4) (undated : operation.dated = false)
    (credited : Credited before) (committed : perform operation before = .ok after) :
    Credited after := by
  rcases quiet_of_effect monotone undated (effect_of_perform committed) with quiet | human
  · exact credited_quiet monotone injective credited quiet
  · obtain ⟨middle, candidates, -, frame, treatments, grown⟩ := human
    have decided := credited_quiet monotone injective credited (quiet_of_transitionFrame frame)
    refine credited_recognised monotone decided (fun row member => ?_) treatments grown
    rw [frame.observations] at member
    exact (credited.observed row member).1

/-- The accounts over every run. -/
theorem credited_run (monotone : Monotone SystemClock.utcnow)
    (injective : Function.Injective UuidSource.uuid4) {start : Store} (credited : Credited start)
    {operations : List Operation} (undated : ∀ operation ∈ operations, operation.dated = false) :
    Credited (stateAfter perform start operations) :=
  stateAfter_invariant Credited credited fun operation member _ _ holds committed =>
    credited_perform monotone injective (undated operation member) holds committed

/-- A recognition that an operation adds names an observation newer than every
other treatment of its opportunity. -/
theorem newer_of_added (monotone : Monotone SystemClock.utcnow) (undated : operation.dated = false)
    (committed : perform operation before = .ok after) {entry : FinOpsLedgerEntry}
    (member : entry ∈ after.ledgerEntries.rows) (added : entry ∉ before.ledgerEntries.rows)
    {event : OpportunityStatusHistory} (recorded : event ∈ after.statusHistory.rows)
    (action : event.action = .treat) (treated : event.toStatus = .treated)
    (ofOpportunity : entry.opportunityId = some event.opportunityId)
    (other : entry.sourceEventId ≠ some event.id) :
    ∃ observation ∈ after.observations.rows, observation.opportunityId = event.opportunityId ∧
      observationIdOf entry = some observation.id ∧ event.changedAt < observation.observedAt := by
  rcases quiet_of_effect monotone undated (effect_of_perform committed) with quiet | human
  · rw [quiet.ledgerEntries] at member
    exact absurd member added
  · obtain ⟨middle, candidates, -, frame, treatments, grown⟩ := human
    rcases grown.added entry member with old | ⟨candidate, listed, recognised⟩
    · rw [frame.ledgerEntries] at old
      exact absurd old added
    · obtain ⟨ledgerEntries, drawn, -, rfl⟩ := grown.frame
      have sameOpportunity : event.opportunityId = candidate.1.id :=
        Option.some.inj (ofOpportunity.symm.trans recognised.opportunity)
      have otherEvent : event.id ≠ candidate.2.id := by
        intro same
        exact other (by rw [recognised.event, same])
      rw [sameOpportunity]
      exact recognised_newer treatments.distinct listed recognised recorded sameOpportunity action
        treated otherEvent

/-- No saving is credited twice, over every run with a clock that never runs
backwards. Every recognition belongs to one treatment and every treatment has at
most one. A treatment next to another one of the same opportunity is recognised only
for an observation that is strictly newer than the other. No two recognitions name
one observation. -/
theorem no_double_credit (monotone : Monotone SystemClock.utcnow)
    (injective : Function.Injective UuidSource.uuid4) {start : Store}
    (unrecognised : ∀ entry ∈ start.ledgerEntries.rows, ¬IsRecognition entry)
    (observed : ∀ row ∈ start.observations.rows,
      row.observedAt ≤ SystemClock.utcnow start.clockReads ∧ DrawnBefore start row)
    {operations : List Operation} (undated : ∀ operation ∈ operations, operation.dated = false) :
    (∀ entry ∈ (stateAfter perform start operations).ledgerEntries.rows, IsRecognition entry →
      ∃ event ∈ (stateAfter perform start operations).statusHistory.rows,
        event.action = .treat ∧ event.toStatus = .treated ∧
          entry.sourceEventId = some event.id) ∧
    (∀ first ∈ (stateAfter perform start operations).ledgerEntries.rows,
      ∀ second ∈ (stateAfter perform start operations).ledgerEntries.rows,
      IsRecognition first → IsRecognition second →
      first.sourceEventId = second.sourceEventId → first = second) ∧
    (∀ transition ∈ history perform start operations,
      ∀ entry ∈ transition.after.ledgerEntries.rows,
      entry ∉ transition.before.ledgerEntries.rows →
      ∀ event ∈ transition.after.statusHistory.rows, event.action = .treat →
      event.toStatus = .treated → entry.opportunityId = some event.opportunityId →
      entry.sourceEventId ≠ some event.id →
      ∃ observation ∈ transition.after.observations.rows,
        observation.opportunityId = event.opportunityId ∧
        observationIdOf entry = some observation.id ∧
        event.changedAt < observation.observedAt) ∧
    (∀ first ∈ (stateAfter perform start operations).ledgerEntries.rows,
      ∀ second ∈ (stateAfter perform start operations).ledgerEntries.rows,
      IsRecognition first → IsRecognition second → ∀ id, observationIdOf first = some id →
      observationIdOf second = some id → first = second) := by
  have initially : Credited start :=
    ⟨fun entry member recognition => absurd recognition (unrecognised entry member), observed,
      fun first member _ _ recognition => absurd recognition (unrecognised first member)⟩
  have credited := credited_run monotone injective initially undated
  refine ⟨fun entry member recognition => ?_, fun first firstMember second secondMember
    firstRecognition secondRecognition sameEvent => ?_, fun transition listed entry member added
    event recorded action treated ofOpportunity other => ?_, credited.once⟩
  · obtain ⟨event, account⟩ := credited.accounted entry member recognition
    exact ⟨event, account.recorded, account.action, account.treated, account.source⟩
  · obtain ⟨event, account⟩ := credited.accounted first firstMember firstRecognition
    obtain ⟨otherEvent, otherAccount⟩ :=
      credited.accounted second secondMember secondRecognition
    have sameId : event.id = otherEvent.id := by
      rw [account.source, otherAccount.source] at sameEvent
      exact Option.some.inj sameEvent
    refine (stateAfter perform start operations).ledgerEntries.eq_of_unique firstMember
      secondMember ?_
    simp only [FinOpsLedgerEntry.uniqueKey, account.key, otherAccount.key, sameId]
  · have isUndated := undated transition.operation (operation_mem_of_history listed)
    rcases mem_history listed with same | committed
    · rw [same] at member
      exact absurd member added
    · exact newer_of_added monotone isUndated committed member added recorded action treated
        ofOpportunity other

end Runs

section Sample

attribute [local instance] asciiCase asciiAlphabet plainDigest integralFormat countingUuids
  countingClock

/-- A store with a run to collect for and its account. -/
def collectingStore : Store :=
  { Store.empty with
    collectionRuns := ⟨[sampleRun "run-1" 10], List.nodup_singleton _, List.nodup_singleton _⟩
    cloudAccounts := [⟨1, "aws", "111122223333", "Main"⟩] }

/-- One observation, treated, reopened and treated again. -/
def treatedTwice : List Operation :=
  [.observe "scan-1" "run-1" [sampleItem "EC2_IDLE" (some "us-east-1")],
    .treat "id-" "ana" none, .reopen "id-" "ana" none, .treat "id-" "ana" none]

theorem countingClock_monotone : Monotone SystemClock.utcnow := by
  intro first second le
  change (100 : ℤ) + first ≤ 100 + second
  omega

/-- The second treatment credits nothing. -/
theorem no_double_credit_treatedTwice :
    (stateAfter perform collectingStore treatedTwice).statusHistory.rows.length = 3 ∧
      (stateAfter perform collectingStore treatedTwice).ledgerEntries.rows.length = 1 ∧
      ∀ first ∈ (stateAfter perform collectingStore treatedTwice).ledgerEntries.rows,
        ∀ second ∈ (stateAfter perform collectingStore treatedTwice).ledgerEntries.rows,
        IsRecognition first → IsRecognition second → ∀ id, observationIdOf first = some id →
        observationIdOf second = some id → first = second := by
  have unrecognised : ∀ entry ∈ collectingStore.ledgerEntries.rows, ¬IsRecognition entry :=
    fun _ member => absurd member List.not_mem_nil
  have observed : ∀ row ∈ collectingStore.observations.rows,
      row.observedAt ≤ SystemClock.utcnow collectingStore.clockReads ∧
        DrawnBefore collectingStore row :=
    fun _ member => absurd member List.not_mem_nil
  have undated : ∀ operation ∈ treatedTwice, operation.dated = false := by decide
  exact ⟨by decide +kernel, by decide +kernel, (no_double_credit countingClock_monotone
    countingUuids_injective unrecognised observed undated).2.2.2⟩

end Sample

end FinopsAnalytics.SavingRecognitionHistories
