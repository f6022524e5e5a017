import FinopsAnalytics.DistinctKeys
import FinopsAnalytics.FinopsLedger
import Mathlib.Data.Prod.Lex
import Mathlib.Data.String.Basic

/-!
# Recognising savings

A saving is recognised when a human treats an opportunity. The amount is that of
the latest observation. After an earlier treatment only an observation that is
strictly newer counts, so one observation is credited once.
-/

namespace FinopsAnalytics.OpportunitySavingRecognition

open PythonText UniqueTables DistinctKeys OpportunityRecords FinopsLedger Fallible

/-- A treated finding with the event of its treatment. -/
abbrev Candidate := Finding × OpportunityStatusHistory

structure OpportunitySavingRecognitionResult where
  entry : Option FinOpsLedgerEntry
  reason : String
  observationId : Option String
deriving DecidableEq, Repr

/-- `_latest_observations`, for one opportunity. -/
def latestObservation (store : Store) (opportunityId : String) : Option OpportunityObservation :=
  lastByKey (fun row => toLex (row.observedAt, row.id))
    (store.observations.rows.filter (·.opportunityId = opportunityId))

/-- The latest of some status events. -/
def latestEvent (events : List OpportunityStatusHistory) : Option OpportunityStatusHistory :=
  lastByKey (fun event => toLex (event.changedAt, event.id)) events

/-- The event of a finding among the candidates; the last mention stands. -/
def currentEventId (candidates : List Candidate) (opportunityId : String) : Option String :=
  (candidates.reverse.find? (·.1.id = opportunityId)).map (·.2.id)

/-- Treatments of an opportunity other than the current one. -/
def otherTreatments (store : Store) (candidates : List Candidate) (opportunityId : String) :
    List OpportunityStatusHistory :=
  store.statusHistory.rows.filter fun event =>
    event.opportunityId = opportunityId && event.action = .treat && event.toStatus = .treated &&
      some event.id ≠ currentEventId candidates opportunityId

/-- Reopenings of a treated opportunity. -/
def treatedReopens (store : Store) (opportunityId : String) : List OpportunityStatusHistory :=
  store.statusHistory.rows.filter fun event =>
    event.opportunityId = opportunityId && event.action = .reopen &&
      event.fromStatus = .treated && event.toStatus = .open_

/-- `_previous_cycle_events`, for one opportunity. A reopening stands in for a
treatment that left no event. -/
def previousCycleEvent (store : Store) (candidates : List Candidate) (opportunityId : String) :
    Option OpportunityStatusHistory :=
  match latestEvent (otherTreatments store candidates opportunityId) with
  | some event => some event
  | none => latestEvent (treatedReopens store opportunityId)

/-- Nothing was observed since the previous cycle. -/
def noNewFinancialEvent (store : Store) (candidates : List Candidate) (opportunityId : String) :
    Bool :=
  match previousCycleEvent store candidates opportunityId with
  | none => false
  | some previous =>
    match latestObservation store opportunityId with
    | none => true
    | some observation => observation.observedAt ≤ previous.changedAt

/-- The idempotency key of a treatment. -/
def recognitionKey (eventId : String) : String :=
  "opportunity-treated:" ++ eventId ++ ":saving"

/-- `_validate_treatment_event`. -/
def validateTreatmentEvent (actor : String) (candidate : Candidate) : Except ServiceError Unit :=
  let (finding, event) := candidate
  if event.opportunityId ≠ finding.id ∨ event.fromStatus ≠ .open_ ∨ event.toStatus ≠ .treated ∨
      event.action ≠ .treat ∨ event.changedBy ≠ some actor then
    .error (.ledger "Invalid human treatment event for saving recognition")
  else .ok ()

/-- The context of an entry. -/
def entryContext (finding : Finding) (observation : Option OpportunityObservation) : Metadata :=
  [("snapshot_source",
      .text (if observation.isSome then "OPPORTUNITY_OBSERVATION" else "FINDING")),
    ("opportunity_observation_id",
      match observation with
      | some row => .text row.id
      | none => .null),
    ("rule_key", .text finding.ruleKey), ("resource_id", .text finding.resourceId),
    ("service", .text finding.service),
    ("region",
      match finding.region with
      | some region => .text region
      | none => .null)]

/-- The observation that an entry names. -/
def observationIdOf (entry : FinOpsLedgerEntry) : Option String :=
  match entry.context.lookup "opportunity_observation_id" with
  | some (.text id) => some id
  | _ => none

/-- What recognition asks of the ledger for a candidate. -/
def savingRequest (candidate : Candidate) (actor : String) (account : CloudAccount)
    (observation : Option OpportunityObservation) (amount : ℚ) (currency : String) :
    EntryRequest where
  entryType := .saving
  direction := .credit
  cloudAccountId := account.id
  amount := amount
  currency := currency
  effectiveAt := candidate.2.changedAt
  source := .opportunity
  actor := some actor
  description := some ("Saving recognized from opportunity \"" ++ candidate.1.title ++ "\"")
  sourceReference := some candidate.1.id
  opportunityId := some candidate.1.id
  sourceEventId := some candidate.2.id
  idempotencyKey := some (recognitionKey candidate.2.id)
  periodicity := .monthly
  referencePeriodStart := none
  referencePeriodEnd := none
  context := entryContext candidate.1 observation

theorem latestObservation_eq_some {store : Store} {opportunityId : String}
    {observation : OpportunityObservation}
    (found : latestObservation store opportunityId = some observation) :
    observation ∈ store.observations.rows ∧ observation.opportunityId = opportunityId := by
  have member := (lastByKey_eq_some found).1
  simpa using member

/-- No event of the list is later than the latest. -/
theorem latestEvent_eq_some {events : List OpportunityStatusHistory}
    {latest : OpportunityStatusHistory} (found : latestEvent events = some latest)
    {event : OpportunityStatusHistory} (member : event ∈ events) :
    event.changedAt ≤ latest.changedAt := by
  have order := (lastByKey_eq_some found).2 event member
  rcases (Prod.Lex.toLex_le_toLex).mp order with earlier | ⟨same, -⟩
  · exact earlier.le
  · exact same.le

/-- Where something new was observed, it is newer than every other treatment. -/
theorem newer_than_treatments {store : Store} {candidates : List Candidate}
    {opportunityId : String} (novel : noNewFinancialEvent store candidates opportunityId = false)
    {event : OpportunityStatusHistory}
    (member : event ∈ otherTreatments store candidates opportunityId) :
    ∃ observation, latestObservation store opportunityId = some observation ∧
      event.changedAt < observation.observedAt := by
  unfold noNewFinancialEvent at novel
  have present : latestEvent (otherTreatments store candidates opportunityId) ≠ none := by
    rw [Ne, latestEvent, lastByKey_eq_none]
    exact List.ne_nil_of_mem member
  obtain ⟨latest, found⟩ := Option.ne_none_iff_exists'.mp present
  have previous : previousCycleEvent store candidates opportunityId = some latest := by
    rw [previousCycleEvent, found]
  rw [previous] at novel
  cases observed : latestObservation store opportunityId with
  | none =>
    rw [observed] at novel
    cases novel
  | some observation =>
    rw [observed] at novel
    have newer : latest.changedAt < observation.observedAt := by simpa using novel
    exact ⟨observation, rfl, (latestEvent_eq_some found member).trans_lt newer⟩

theorem recognitionKey_strip (eventId : String) :
    strip (recognitionKey eventId) = recognitionKey eventId := by
  have opens : "opportunity-treated:".toList = 'o' :: "pportunity-treated:".toList := by decide
  have closes : ":saving".toList = ":savin".toList ++ ['g'] := by decide
  exact strip_between eventId opens closes (by decide) (by decide)

theorem recognitionKey_ne_empty (eventId : String) : recognitionKey eventId ≠ "" :=
  between_ne_empty eventId ":saving" (by decide)

/-- The key of a treatment is stored as it is. -/
theorem storedKey_recognitionKey {eventId : String} {key : Option String}
    (stored : storedKey (some (recognitionKey eventId)) = .ok key) :
    key = some (recognitionKey eventId) := by
  have present : orNone (some (recognitionKey eventId)) = some (recognitionKey eventId) := by
    rw [orNone, truthy_some, if_pos (bne_iff_ne.mpr (recognitionKey_ne_empty eventId))]
  rw [storedKey, Option.map_some, recognitionKey_strip, present] at stored
  split at stored
  · cases stored
  · exact (Except.ok.inj stored).symm

section Recognition

variable [CaseMapping] [AlphabetTable] [UuidSource]

/-- The decision for a candidate: a reason to skip it, or a request. -/
def savingDecision (store : Store) (candidates : List Candidate) (actor : String)
    (candidate : Candidate) : Except ServiceError (String ⊕ EntryRequest) :=
  let finding := candidate.1
  let observation := latestObservation store finding.id
  if noNewFinancialEvent store candidates finding.id then .ok (.inl "NO_NEW_FINANCIAL_EVENT")
  else
    let amount := (observation.map (·.estimatedMonthlySavings)).getD
      finding.estimatedMonthlySavings
    let currency := CaseMapping.upper
      (strip ((observation.map (·.currency)).getD finding.currency))
    if amount = 0 then .ok (.inl "ZERO_SAVING")
    else if amount < 0 then .ok (.inl "NEGATIVE_SAVING")
    else if currency = "" then .ok (.inl "NO_CURRENCY")
    else if currency.length ≠ 3 || !isAlphabetic currency then .ok (.inl "INVALID_CURRENCY")
    else do
      let provider ← normalizeProvider finding.provider
      match store.cloudAccounts.reverse.find? fun account =>
        account.provider = provider && account.nativeAccountId = finding.accountId with
      | none =>
        throw (.ledger "Cloud account for opportunity saving recognition was not found")
      | some account =>
        return .inr (savingRequest candidate actor account observation amount currency)

/-- The pass of the loop over one candidate. -/
def recognizeCandidate (start : Store) (candidates : List Candidate) (actor : String)
    (state : List OpportunitySavingRecognitionResult × Store) (candidate : Candidate) :
    Except ServiceError (List OpportunitySavingRecognitionResult × Store) := do
  let observationId := (latestObservation start candidate.1.id).map (·.id)
  match ← savingDecision start candidates actor candidate with
  | .inl reason => return (state.1 ++ [⟨none, reason, observationId⟩], state.2)
  | .inr request => do
    let (entry, store) ← createEntry state.2 request
    return (state.1 ++ [⟨some entry, "CREATED", observationId⟩], store)

/-- `recognize_many`. -/
def recognizeMany (store : Store) (candidates : List Candidate) (actor : String) :
    Except ServiceError (List OpportunitySavingRecognitionResult × Store) :=
  if candidates = [] then .ok ([], store)
  else do
    candidates.forM (validateTreatmentEvent actor)
    candidates.forM fun candidate => do
      let _ ← normalizeProvider candidate.1.provider
    candidates.foldlM (recognizeCandidate store candidates actor) ([], store)

/-- An entry that recognises the saving of a candidate. -/
structure Recognised (start : Store) (candidates : List Candidate) (candidate : Candidate)
    (entry : FinOpsLedgerEntry) : Prop where
  saving : entry.entryType = .saving
  source : entry.source = .opportunity
  event : entry.sourceEventId = some candidate.2.id
  opportunity : entry.opportunityId = some candidate.1.id
  key : entry.idempotencyKey = some (recognitionKey candidate.2.id)
  observation : observationIdOf entry = (latestObservation start candidate.1.id).map (·.id)
  novel : noNewFinancialEvent start candidates candidate.1.id = false
  unrecognised : ∀ old ∈ start.ledgerEntries.rows,
    old.idempotencyKey ≠ some (recognitionKey candidate.2.id)

omit [CaseMapping] [AlphabetTable] [UuidSource] in
theorem observationIdOf_entryContext {entry : FinOpsLedgerEntry} {finding : Finding}
    {observation : Option OpportunityObservation}
    (context : entry.context = entryContext finding observation) :
    observationIdOf entry = observation.map (·.id) := by
  rw [observationIdOf, context]
  cases observation <;> rfl

variable {candidates : List Candidate}

omit [UuidSource] in
/-- A request is made only where something new was observed. -/
theorem savingDecision_eq_request {store : Store} {actor : String} {candidate : Candidate}
    {request : EntryRequest}
    (decided : savingDecision store candidates actor candidate = .ok (.inr request)) :
    noNewFinancialEvent store candidates candidate.1.id = false ∧
      ∃ account amount currency, request = savingRequest candidate actor account
        (latestObservation store candidate.1.id) amount currency := by
  unfold savingDecision at decided
  dsimp only at decided
  split at decided
  · cases decided
  · rename_i novel
    refine ⟨by simpa using novel, ?_⟩
    split at decided
    · cases decided
    · split at decided
      · cases decided
      · split at decided
        · cases decided
        · split at decided
          · cases decided
          · rw [bind_eq_ok] at decided
            obtain ⟨provider, -, found⟩ := decided
            split at found
            · cases found
            · cases found
              exact ⟨_, _, _, rfl⟩

/-- The ledger after the recognition of some candidates: old entries stay, new
ones recognise one of them. -/
structure LedgerGrows (start : Store) (candidates : List Candidate) (before after : Store) :
    Prop where
  frame : ∃ ledgerEntries drawn, before.drawn ≤ drawn ∧
    after = { before with ledgerEntries, drawn }
  kept : ∀ entry ∈ before.ledgerEntries.rows, entry ∈ after.ledgerEntries.rows
  added : ∀ entry ∈ after.ledgerEntries.rows, entry ∈ before.ledgerEntries.rows ∨
    ∃ candidate ∈ candidates, Recognised start candidates candidate entry

omit [CaseMapping] [AlphabetTable] [UuidSource] in
theorem LedgerGrows.refl (start : Store) (candidates : List Candidate) (store : Store) :
    LedgerGrows start candidates store store :=
  ⟨⟨_, _, le_rfl, rfl⟩, fun _ => id, fun _ => Or.inl⟩

omit [CaseMapping] [AlphabetTable] [UuidSource] in
theorem LedgerGrows.trans {start : Store} {first second third : Store}
    (before : LedgerGrows start candidates first second)
    (after : LedgerGrows start candidates second third) :
    LedgerGrows start candidates first third := by
  obtain ⟨entries, drawn, below, rfl⟩ := before.frame
  obtain ⟨laterEntries, laterDrawn, above, rfl⟩ := after.frame
  refine ⟨⟨_, _, below.trans above, rfl⟩, fun entry member => after.kept entry
    (before.kept entry member), fun entry member => ?_⟩
  rcases after.added entry member with old | new
  · exact before.added entry old
  · exact Or.inr new

theorem ledgerGrows_recognizeCandidate {start : Store} {actor : String}
    {state next : List OpportunitySavingRecognitionResult × Store} {candidate : Candidate}
    (listed : candidate ∈ candidates)
    (older : ∀ entry ∈ start.ledgerEntries.rows, entry ∈ state.2.ledgerEntries.rows)
    (accepted : recognizeCandidate start candidates actor state candidate = .ok next) :
    LedgerGrows start candidates state.2 next.2 := by
  simp only [recognizeCandidate, bind_eq_ok] at accepted
  obtain ⟨decision, decided, rest⟩ := accepted
  cases decision with
  | inl reason =>
    cases rest
    exact LedgerGrows.refl start candidates state.2
  | inr request =>
    rw [bind_eq_ok] at rest
    obtain ⟨⟨entry, after⟩, created, result⟩ := rest
    cases result
    obtain ⟨novel, account, amount, currency, rfl⟩ := savingDecision_eq_request decided
    obtain ⟨drawn, below, rfl | ⟨id, provider, code, cloudAccount, reference, key, ledgerEntries,
      keyOk, rfl, inserted, rfl⟩⟩ := createEntry_eq_ok created
    · exact ⟨⟨_, _, below, rfl⟩, fun _ => id, fun _ => Or.inl⟩
    · obtain rfl := storedKey_recognitionKey keyOk
      obtain ⟨rows, -, freshKey⟩ := Table.rows_of_insert inserted
      refine ⟨⟨_, _, below, rfl⟩, fun old member => ?_, fun other member => ?_⟩
      · rw [rows]
        exact List.mem_append_left _ member
      · rw [rows] at member
        rcases List.mem_append.mp member with old | new
        · exact Or.inl old
        · rw [List.mem_singleton.mp new]
          refine Or.inr ⟨candidate, listed, rfl, rfl, rfl, rfl, rfl,
            observationIdOf_entryContext rfl, novel, fun old oldMember sameKey => freshKey ?_⟩
          -- an entry with the key would have refused the insert
          refine List.mem_map.mpr ⟨old, older old oldMember, ?_⟩
          simp only [FinOpsLedgerEntry.uniqueKey, sameKey]
          rfl

/-- What recognition does to the store. -/
theorem recognizeMany_eq_ok {store after : Store} {actor : String}
    {results : List OpportunitySavingRecognitionResult}
    (accepted : recognizeMany store candidates actor = .ok (results, after)) :
    LedgerGrows store candidates store after := by
  unfold recognizeMany at accepted
  split at accepted
  · cases accepted
    exact LedgerGrows.refl store candidates store
  · simp only [bind_eq_ok] at accepted
    obtain ⟨-, -, -, -, loop⟩ := accepted
    refine foldlM_invariant (fun state => LedgerGrows store candidates store state.2) ?_
      (LedgerGrows.refl store candidates store) loop
    intro candidate listed state next holds step
    exact holds.trans (ledgerGrows_recognizeCandidate listed holds.kept step)

end Recognition

end FinopsAnalytics.OpportunitySavingRecognition
