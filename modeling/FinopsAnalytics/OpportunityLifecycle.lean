import FinopsAnalytics.OpportunityArchiving
import FinopsAnalytics.OpportunitySavingRecognition

/-!
# Human decisions on opportunities

An opportunity is open, treated or rejected. Only open ones can be treated or
rejected, and only a reopen leads back. Every transition records an event, and
the savings of treated opportunities are recognised in the same transaction.
-/

namespace FinopsAnalytics.OpportunityLifecycle

open PythonText UniqueTables DistinctKeys OpportunityRecords OpportunityArchiving
  OpportunitySavingRecognition Fallible

def legacyRejectionNote : String := "Legacy status update did not provide a rejection reason."

def rejectionReasons : List String :=
  ["FALSE_POSITIVE", "OPERATIONAL_EXCEPTION", "ACCEPTABLE_COST", "RESOURCE_REQUIRED",
    "RISK_ACCEPTED", "OTHER"]

/-- The statuses of the legacy interface. -/
inductive LegacyStatus where
  | accepted | treated | dismissed | rejected | open_
deriving DecidableEq, Repr

/-- `_legacy_target`. -/
def legacyTarget : LegacyStatus → OpportunityStatus
  | .accepted | .treated => .treated
  | .dismissed | .rejected => .rejected
  | .open_ => .open_

/-- `_validate_rejection`. -/
def validateRejection (reason note : Option String) : Except ServiceError Unit :=
  match reason with
  | none => .error (.http 422 "Unsupported rejection reason")
  | some reason =>
    if reason ∉ rejectionReasons then .error (.http 422 "Unsupported rejection reason")
    else if reason = "OTHER" ∧ strip (orEmpty note) = "" then
      .error (.http 422 "A note is required for OTHER")
    else .ok ()

/-- The columns of a treated finding. -/
def treatedColumns (finding : Finding) (treatedAt : Instant) (actor : String)
    (note : Option String) : Finding :=
  { finding with
    status := .treated
    treatedAt := some treatedAt
    treatedBy := some actor
    treatmentNote := note
    needsReview := false }

/-- The columns of a rejected finding. -/
def rejectedColumns (finding : Finding) (rejectedAt : Instant) (actor reason : String)
    (note : Option String) : Finding :=
  { finding with
    status := .rejected
    rejectedAt := some rejectedAt
    rejectedBy := some actor
    rejectionReason := some reason
    rejectionNote := note
    needsReview := false }

/-- The columns of a reopened finding. -/
def reopenedColumns (finding : Finding) : Finding :=
  { finding with status := .open_, needsReview := false }

section Lifecycle

variable [UuidSource] [SystemClock]

/-- `_history`: record a transition of a finding. -/
def statusEvent (store : Store) (finding : Finding) (actor : String)
    (toStatus : OpportunityStatus) (action : LifecycleAction) (reason note : Option String) :
    Except ServiceError (OpportunityStatusHistory × Store) := do
  let (changedAt, store) := store.utcnow
  let (id, store) := store.draw
  let event : OpportunityStatusHistory :=
    { id, opportunityId := finding.id, fromStatus := finding.status, toStatus, action, reason
      note, changedBy := some actor, changedAt }
  let statusHistory ← flushed store.statusHistory event
  return (event, { store with statusHistory })

/-- `_apply_treat`. -/
def applyTreat (store : Store) (finding : Finding) (actor : String) (note : Option String) :
    Except ServiceError (OpportunityStatusHistory × Finding × Store) := do
  if finding.status ≠ .open_ then
    throw (.http 409 "Only open opportunities can be treated")
  let (event, store) ← statusEvent store finding actor .treated .treat none note
  let finding := treatedColumns finding event.changedAt actor note
  return (event, finding, store.putFinding finding)

/-- `_apply_reject`. -/
def applyReject (store : Store) (finding : Finding) (actor reason : String)
    (note : Option String) : Except ServiceError (Finding × Store) := do
  if finding.status ≠ .open_ then
    throw (.http 409 "Only open opportunities can be rejected")
  let (_, store) ← statusEvent store finding actor .rejected .reject (some reason) note
  let (rejectedAt, store) := store.utcnow
  let finding := rejectedColumns finding rejectedAt actor reason note
  return (finding, store.putFinding finding)

/-- `_apply_reopen`: whether an archived rejection was reopened. -/
def applyReopen (store : Store) (finding : Finding) (actor : String) (note : Option String) :
    Except ServiceError (Bool × Finding × Store) := do
  if finding.status = .open_ then
    throw (.http 409 "Only treated or rejected opportunities can be reopened")
  let reopenedArchived := finding.status = .rejected && finding.archivedAt.isSome
  let (finding, store) ←
    if reopenedArchived then unarchiveForReopen store finding actor else pure (finding, store)
  let (_, store) ← statusEvent store finding actor .open_ .reopen none note
  let finding := reopenedColumns finding
  return (reopenedArchived, finding, store.putFinding finding)

variable [CaseMapping] [AlphabetTable]

/-- `_recognize_treatments`. -/
def recognizeTreatments (store : Store) (candidates : List Candidate) (actor : String) :
    Except ServiceError Store := do
  let (_, store) ← recognizeMany store candidates actor
  return store

def treat (store : Store) (opportunityId actor : String) (note : Option String) :
    Except ServiceError (Finding × Store) := do
  let finding ← store.locked opportunityId
  let (event, finding, store) ← applyTreat store finding actor note
  let store ← recognizeTreatments store [(finding, event)] actor
  return (finding, store)

omit [CaseMapping] [AlphabetTable] in
def reject (store : Store) (opportunityId actor reason : String) (note : Option String) :
    Except ServiceError (Finding × Store) := do
  validateRejection (some reason) note
  let finding ← store.locked opportunityId
  applyReject store finding actor reason note

omit [CaseMapping] [AlphabetTable] in
def reopen (store : Store) (opportunityId actor : String) (note : Option String) :
    Except ServiceError (Finding × Store) := do
  let finding ← store.locked opportunityId
  let (_, finding, store) ← applyReopen store finding actor note
  return (finding, store)

omit [UuidSource] [SystemClock] [CaseMapping] [AlphabetTable] in
/-- The findings of some identifiers in their order, repeated ones dropped. -/
def orderedFindings (store : Store) (opportunityIds : List String) :
    Except ServiceError (List Finding) :=
  let ids := opportunityIds.eraseDups
  if ids.all fun id => (store.findings.find? id).isSome then
    .ok (ids.filterMap store.findings.find?)
  else .error (.http 404 "Uma ou mais oportunidades não existem.")

omit [CaseMapping] [AlphabetTable] in
/-- One transition of a bulk operation, with the candidate of a treatment. -/
def applyAction (actor : String) (action : LifecycleAction) (reason note : Option String)
    (store : Store) (finding : Finding) : Except ServiceError (Option Candidate × Store) :=
  match action with
  | .treat => do
    let (event, finding, store) ← applyTreat store finding actor note
    return (some (finding, event), store)
  | .reject => do
    let (_, store) ← applyReject store finding actor (orEmpty reason) note
    return (none, store)
  | .reopen => do
    let (_, _, store) ← applyReopen store finding actor note
    return (none, store)

omit [CaseMapping] [AlphabetTable] in
/-- `_apply_legacy_status`. A finding that has the status already is left alone. -/
def applyLegacyStatus (actor : String) (status : LegacyStatus) (reason note : Option String)
    (store : Store) (finding : Finding) : Except ServiceError (Option Candidate × Store) :=
  if finding.status = legacyTarget status then .ok (none, store)
  else
    match legacyTarget status with
    | .open_ => applyAction actor .reopen reason note store finding
    | .treated => applyAction actor .treat reason note store finding
    | .rejected => do
      let (rejectionReason, rejectionNote) :=
        match reason with
        | some reason => (reason, note)
        | none => ("OTHER", if truthy note then note else some legacyRejectionNote)
      validateRejection (some rejectionReason) rejectionNote
      let (_, store) ← applyReject store finding actor rejectionReason rejectionNote
      return (none, store)

omit [UuidSource] [SystemClock] [CaseMapping] [AlphabetTable] in
/-- Apply a transition to every finding, collecting the candidates. -/
def applyAll (transition : Store → Finding → Except ServiceError (Option Candidate × Store))
    (state : List Candidate × Store) (finding : Finding) :
    Except ServiceError (List Candidate × Store) := do
  let (candidate, store) ← transition state.2 finding
  return (state.1 ++ candidate.toList, store)

/-- The transitions of a bulk operation, then the savings of its treatments. -/
def transitionAll (transition : Store → Finding → Except ServiceError (Option Candidate × Store))
    (store : Store) (findings : List Finding) (actor : String) : Except ServiceError Store := do
  let (candidates, store) ← findings.foldlM (applyAll transition) ([], store)
  recognizeTreatments store candidates actor

/-- The action with a name. -/
def lifecycleAction : String → Option LifecycleAction
  | "treat" => some .treat
  | "reject" => some .reject
  | "reopen" => some .reopen
  | _ => none

def bulkTransition (store : Store) (opportunityIds : List String) (actor action : String)
    (reason note : Option String) : Except ServiceError Store := do
  if action = "reject" then
    validateRejection reason note
  match lifecycleAction action with
  | none => throw (.http 422 "Unsupported opportunity action")
  | some action =>
    let ordered ← orderedFindings store opportunityIds
    transitionAll (applyAction actor action reason note) store ordered actor

def setLegacyStatus (store : Store) (opportunityId actor : String) (status : LegacyStatus)
    (reason note : Option String) : Except ServiceError Store := do
  let finding ← store.locked opportunityId
  transitionAll (applyLegacyStatus actor status reason note) store [finding] actor

def bulkSetLegacyStatus (store : Store) (opportunityIds : List String) (actor : String)
    (status : LegacyStatus) (reason note : Option String) : Except ServiceError Store := do
  let ordered ← orderedFindings store opportunityIds
  transitionAll (applyLegacyStatus actor status reason note) store ordered actor

end Lifecycle

/-- A decision changes neither the subject nor the presence, and leaves a rejected
finding outside the reopened ones alone. -/
structure KeepsRejected (reopened : List String) (before after : Finding) : Prop where
  subject : after.subject = before.subject
  presence : after.presence = before.presence
  rejected : before.status = .rejected → before.id ∉ reopened → after = before

theorem KeepsRejected.refl (reopened : List String) (finding : Finding) :
    KeepsRejected reopened finding finding :=
  ⟨rfl, rfl, fun _ _ => rfl⟩

theorem KeepsRejected.trans {reopened : List String} {first second third : Finding}
    (before : KeepsRejected reopened first second) (after : KeepsRejected reopened second third) :
    KeepsRejected reopened first third := by
  refine ⟨after.subject.trans before.subject, after.presence.trans before.presence,
    fun rejected outside => ?_⟩
  obtain rfl := before.rejected rejected outside
  exact after.rejected rejected outside

/-- The tables that a transition leaves alone; events are only added. -/
structure TransitionFrame (before after : Store) : Prop where
  observations : after.observations = before.observations
  ledgerEntries : after.ledgerEntries = before.ledgerEntries
  statusHistory : ∀ event ∈ before.statusHistory.rows, event ∈ after.statusHistory.rows
  drawn : before.drawn ≤ after.drawn
  clockReads : before.clockReads ≤ after.clockReads

theorem TransitionFrame.refl (store : Store) : TransitionFrame store store :=
  ⟨rfl, rfl, fun _ => id, le_rfl, le_rfl⟩

theorem TransitionFrame.trans {first second third : Store}
    (before : TransitionFrame first second) (after : TransitionFrame second third) :
    TransitionFrame first third :=
  ⟨after.observations.trans before.observations, after.ledgerEntries.trans before.ledgerEntries,
    fun event member => after.statusHistory event (before.statusHistory event member),
    before.drawn.trans after.drawn, before.clockReads.trans after.clockReads⟩

section Spec

variable [SystemClock]

/-- A treatment whose event was recorded since. -/
structure NewTreatment (before after : Store) (candidate : Candidate) : Prop where
  recorded : candidate.2 ∈ after.statusHistory.rows
  ofFinding : candidate.2.opportunityId = candidate.1.id
  action : candidate.2.action = .treat
  treated : candidate.2.toStatus = .treated
  timed : ∃ reading, before.clockReads ≤ reading ∧ candidate.2.changedAt =
    SystemClock.utcnow reading

/-- What one transition does: it replaces its finding, and a treatment is a
candidate. -/
structure Transitioned (reopened : List String) (finding : Finding) (before after : Store)
    (candidate : Option Candidate) : Prop where
  findings : ∃ next, KeepsRejected reopened finding next ∧
    after.findings = before.findings.put next
  frame : TransitionFrame before after
  candidate : ∀ treated, candidate = some treated →
    treated.1.id = finding.id ∧ NewTreatment before after treated

variable [UuidSource]

variable {store after : Store} {finding : Finding} {actor : String} {reason note : Option String}
  {reopened : List String}

theorem statusEvent_eq_ok {toStatus : OpportunityStatus} {action : LifecycleAction}
    {event : OpportunityStatusHistory}
    (accepted : statusEvent store finding actor toStatus action reason note =
      .ok (event, after)) :
    event.opportunityId = finding.id ∧ event.action = action ∧ event.toStatus = toStatus ∧
      event.changedAt = SystemClock.utcnow store.clockReads ∧
      event ∈ after.statusHistory.rows ∧ after.findings = store.findings ∧
      TransitionFrame store after := by
  simp only [statusEvent, Store.utcnow, Store.draw, bind_eq_ok, flushed_eq_ok] at accepted
  obtain ⟨statusHistory, inserted, result⟩ := accepted
  cases result
  obtain ⟨rows, -⟩ := Table.rows_of_insert inserted
  refine ⟨rfl, rfl, rfl, rfl, ?_, rfl, rfl, rfl, fun event member => ?_, Nat.le_succ _,
    Nat.le_succ _⟩
  · rw [rows]
    exact List.mem_append_right _ (List.mem_singleton.mpr rfl)
  · rw [rows]
    exact List.mem_append_left _ member

variable {finding next : Finding} {note : Option String}

theorem applyTreat_eq_ok {event : OpportunityStatusHistory} (reopened : List String)
    (accepted : applyTreat store finding actor note = .ok (event, next, after)) :
    Transitioned reopened finding store after (some (next, event)) := by
  unfold applyTreat at accepted
  split at accepted
  · cases accepted
  · rename_i isOpen
    simp only [bind_eq_ok] at accepted
    obtain ⟨⟨recorded, middle⟩, historyOk, result⟩ := accepted
    cases result
    obtain ⟨owner, action, treated, timed, member, findings, frame⟩ := statusEvent_eq_ok historyOk
    refine ⟨⟨treatedColumns finding recorded.changedAt actor note, ⟨rfl, rfl, fun rejected => ?_⟩,
        ?_⟩,
      ⟨frame.observations, frame.ledgerEntries, frame.statusHistory, frame.drawn,
        frame.clockReads⟩, ?_⟩
    · exact absurd (rejected.symm.trans (not_not.mp isOpen)) (by decide)
    · simp only [Store.putFinding, findings]
    · rintro candidate same
      cases same
      exact ⟨rfl, member, owner, action, treated, _, le_rfl, timed⟩

theorem applyReject_eq_ok {actor reason : String} (reopened : List String)
    (accepted : applyReject store finding actor reason note = .ok (next, after)) :
    Transitioned reopened finding store after none := by
  unfold applyReject at accepted
  split at accepted
  · cases accepted
  · rename_i isOpen
    simp only [bind_eq_ok, Store.utcnow] at accepted
    obtain ⟨⟨recorded, middle⟩, historyOk, result⟩ := accepted
    cases result
    obtain ⟨-, -, -, -, -, findings, frame⟩ := statusEvent_eq_ok historyOk
    refine ⟨⟨rejectedColumns finding (SystemClock.utcnow middle.clockReads) actor reason note,
        ⟨rfl, rfl, fun rejected => ?_⟩, ?_⟩,
      ⟨frame.observations, frame.ledgerEntries, frame.statusHistory, frame.drawn,
        frame.clockReads.trans (Nat.le_succ _)⟩, fun candidate none => by cases none⟩
    · exact absurd (rejected.symm.trans (not_not.mp isOpen)) (by decide)
    · simp only [Store.putFinding, findings]

omit [UuidSource] in
/-- Leaving the archive for a reopen replaces the finding by an unarchived one. -/
theorem unarchiveForReopen_eq_ok (member : finding ∈ store.findings.rows)
    (accepted : unarchiveForReopen store finding actor = .ok (next, after)) :
    next.subject = finding.subject ∧ next.presence = finding.presence ∧
      after.findings = store.findings.put next ∧ TransitionFrame store after := by
  unfold unarchiveForReopen at accepted
  split at accepted
  · cases accepted
    exact ⟨rfl, rfl, (Table.put_self member).symm, TransitionFrame.refl store⟩
  · split at accepted
    · cases accepted
    · cases accepted
      refine ⟨rfl, rfl, by simp [Store.putFinding], ?_⟩
      obtain ⟨archiveHistory, clockReads, later, frame⟩ := history_frame
        (store.putFinding (unarchived finding)) (unarchived finding) .unarchive .manual
        (some actor) none _ none
      rw [frame]
      exact ⟨rfl, rfl, fun _ => id, le_rfl, later⟩

theorem applyReopen_eq_ok {reopenedArchived : Bool} (member : finding ∈ store.findings.rows)
    (listed : finding.id ∈ reopened)
    (accepted : applyReopen store finding actor note = .ok (reopenedArchived, next, after)) :
    Transitioned reopened finding store after none := by
  unfold applyReopen at accepted
  split at accepted
  · cases accepted
  · have finish {current : Finding} {middle : Store} (subject : current.subject = finding.subject)
        (presence : current.presence = finding.presence)
        (findings : middle.findings = store.findings.put current)
        (frame : TransitionFrame store middle)
        {event : OpportunityStatusHistory} {last : Store}
        (historyOk : statusEvent middle current actor .open_ .reopen none note =
          .ok (event, last)) :
        Transitioned reopened finding store (last.putFinding (reopenedColumns current)) none := by
      obtain ⟨-, -, -, -, -, kept, eventFrame⟩ := statusEvent_eq_ok historyOk
      have both := frame.trans eventFrame
      refine ⟨⟨reopenedColumns current,
          ⟨subject, presence, fun _ outside => absurd listed outside⟩, ?_⟩,
        ⟨both.observations, both.ledgerEntries, both.statusHistory, both.drawn,
          both.clockReads⟩, fun candidate none => by cases none⟩
      simp only [Store.putFinding, kept, findings]
      exact Table.put_put _ rfl rfl
    dsimp only at accepted
    split at accepted
    · simp only [bind_eq_ok] at accepted
      obtain ⟨⟨current, middle⟩, unarchivedOk, ⟨event, last⟩, historyOk, result⟩ := accepted
      cases result
      obtain ⟨subject, presence, findings, frame⟩ := unarchiveForReopen_eq_ok member unarchivedOk
      exact finish subject presence findings frame historyOk
    · simp only [bind_eq_ok] at accepted
      obtain ⟨⟨current, middle⟩, same, ⟨event, last⟩, historyOk, result⟩ := accepted
      cases same
      cases result
      exact finish rfl rfl (Table.put_self member).symm (TransitionFrame.refl store) historyOk

/-- The reopened findings of an action on some findings. -/
def reopenedBy (action : LifecycleAction) (ids : List String) : List String :=
  if action = .reopen then ids else []

theorem applyAction_eq_ok {action : LifecycleAction} {candidate : Option Candidate}
    {ids : List String} (member : finding ∈ store.findings.rows) (listed : finding.id ∈ ids)
    (accepted : applyAction actor action reason note store finding = .ok (candidate, after)) :
    Transitioned (reopenedBy action ids) finding store after candidate := by
  cases action with
  | treat =>
    simp only [applyAction, bind_eq_ok] at accepted
    obtain ⟨⟨event, next, last⟩, treatOk, result⟩ := accepted
    cases result
    exact applyTreat_eq_ok _ treatOk
  | reject =>
    simp only [applyAction, bind_eq_ok] at accepted
    obtain ⟨⟨next, last⟩, rejectOk, result⟩ := accepted
    cases result
    exact applyReject_eq_ok _ rejectOk
  | reopen =>
    simp only [applyAction, bind_eq_ok] at accepted
    obtain ⟨⟨archived, next, last⟩, reopenOk, result⟩ := accepted
    cases result
    exact applyReopen_eq_ok member listed reopenOk

/-- The reopened findings of a legacy status on some findings. -/
def reopenedByLegacy (status : LegacyStatus) (ids : List String) : List String :=
  if status = .open_ then ids else []

omit [SystemClock] [UuidSource] in
theorem legacyTarget_eq_open {status : LegacyStatus} :
    legacyTarget status = .open_ ↔ status = .open_ := by
  cases status <;> decide

theorem applyLegacyStatus_eq_ok {status : LegacyStatus} {candidate : Option Candidate}
    {ids : List String} (member : finding ∈ store.findings.rows) (listed : finding.id ∈ ids)
    (accepted : applyLegacyStatus actor status reason note store finding =
      .ok (candidate, after)) :
    Transitioned (reopenedByLegacy status ids) finding store after candidate := by
  unfold applyLegacyStatus at accepted
  split at accepted
  · cases accepted
    exact ⟨⟨finding, KeepsRejected.refl _ finding, (Table.put_self member).symm⟩,
      TransitionFrame.refl store, fun treated none => by cases none⟩
  · split at accepted
    · rename_i isOpen
      have reopens : reopenedByLegacy status ids = reopenedBy .reopen ids := by
        rw [reopenedByLegacy, if_pos (legacyTarget_eq_open.mp isOpen)]
        rfl
      rw [reopens]
      exact applyAction_eq_ok member listed accepted
    · rename_i isTreated
      have keeps : reopenedByLegacy status ids = reopenedBy .treat ids := by
        have notOpen : status ≠ .open_ := by
          rintro rfl
          cases isTreated
        rw [reopenedByLegacy, if_neg notOpen]
        rfl
      rw [keeps]
      exact applyAction_eq_ok member listed accepted
    · simp only [bind_eq_ok] at accepted
      obtain ⟨-, -, ⟨next, last⟩, rejectOk, result⟩ := accepted
      cases result
      exact applyReject_eq_ok _ rejectOk

/-- The candidates of the treatments that a step recorded, at most one for each
opportunity. -/
structure TreatedCandidates (before after : Store) (candidates : List Candidate) : Prop where
  distinct : (candidates.map (·.1.id)).Nodup
  treatments : ∀ candidate ∈ candidates, NewTreatment before after candidate

/-- What a human operation does: its transitions, then the recognition of the
savings of its treatments. -/
def HumanOperation (reopened : List String) (before after : Store) : Prop :=
  ∃ middle candidates,
    Table.Evolves (KeepsRejected reopened) (fun _ => False) before.findings middle.findings ∧
    TransitionFrame before middle ∧ TreatedCandidates before middle candidates ∧
    LedgerGrows middle candidates middle after

omit [UuidSource] in
theorem NewTreatment.mono {start before after last : Store} {candidate : Candidate}
    (earlier : start.clockReads ≤ before.clockReads)
    (kept : ∀ event ∈ after.statusHistory.rows, event ∈ last.statusHistory.rows)
    (treatment : NewTreatment before after candidate) : NewTreatment start last candidate := by
  obtain ⟨reading, later, timed⟩ := treatment.timed
  exact ⟨kept _ treatment.recorded, treatment.ofFinding, treatment.action, treatment.treated,
    reading, earlier.trans later, timed⟩

/-- The state of the loop over the findings of an operation: those still to come
are as they were. -/
structure TransitionLoop (reopened : List String) (start : Store) (rest : List Finding)
    (state : List Candidate × Store) : Prop where
  waiting : ∀ finding ∈ rest, finding ∈ state.2.findings.rows
  distinct : (state.1.map (·.1.id) ++ rest.map Finding.id).Nodup
  findings : Table.Evolves (KeepsRejected reopened) (fun _ => False) start.findings
    state.2.findings
  frame : TransitionFrame start state.2
  treatments : ∀ candidate ∈ state.1, NewTreatment start state.2 candidate

omit [UuidSource] in
theorem transitionLoop_step {start : Store} {rest : List Finding}
    {state next : List Candidate × Store}
    {transition : Store → Finding → Except ServiceError (Option Candidate × Store)}
    (loop : TransitionLoop reopened start (finding :: rest) state)
    (spec : ∀ {candidate after}, transition state.2 finding = .ok (candidate, after) →
      Transitioned reopened finding state.2 after candidate)
    (step : applyAll transition state finding = .ok next) :
    TransitionLoop reopened start rest next := by
  simp only [applyAll, bind_eq_ok] at step
  obtain ⟨⟨candidate, after⟩, accepted, result⟩ := step
  cases result
  obtain ⟨⟨replaced, keeps, put⟩, frame, treated⟩ := spec accepted
  have member := loop.waiting finding (List.mem_cons_self ..)
  have sameId : finding.id = replaced.id := (Finding.id_of_subject keeps.subject).symm
  have sameFingerprint : finding.fingerprint = replaced.fingerprint :=
    (Finding.fingerprint_of_subject keeps.subject).symm
  have distinct := loop.distinct
  rw [List.map_cons, List.nodup_append] at distinct
  obtain ⟨distinctOld, distinctRest, apart⟩ := distinct
  rw [List.nodup_cons] at distinctRest
  refine ⟨fun other later => ?_, ?_, ?_, loop.frame.trans frame, fun treatment listed => ?_⟩
  · rw [put, Table.mem_put member sameId sameFingerprint]
    refine Or.inr ⟨loop.waiting other (List.mem_cons_of_mem _ later), fun same => ?_⟩
    exact distinctRest.1 (List.mem_map.mpr ⟨other, later, same.trans sameId.symm⟩)
  · cases candidate with
    | none =>
      rw [Option.toList_none, List.append_nil, List.nodup_append]
      exact ⟨distinctOld, distinctRest.2, fun old oldMember other otherMember =>
        apart old oldMember other (List.mem_cons_of_mem _ otherMember)⟩
    | some one =>
      -- the identifier of the candidate is that of the finding at the front
      have sameFront : one.1.id = finding.id := (treated one rfl).1
      rw [Option.toList_some, List.map_append, List.map_singleton, sameFront, List.append_assoc,
        List.singleton_append]
      exact loop.distinct
  · refine loop.findings.trans KeepsRejected.trans (fun _ => id) ?_
    rw [put]
    exact Table.Evolves.put (KeepsRejected.refl reopened) _ member sameId keeps
  · rcases List.mem_append.mp listed with old | new
    · exact (loop.treatments treatment old).mono le_rfl frame.statusHistory
    · have isNew : candidate = some treatment := by
        cases candidate with
        | none => cases new
        | some one => rw [List.mem_singleton.mp new]
      exact (treated treatment isNew).2.mono loop.frame.clockReads fun _ => id

omit [UuidSource] in
theorem transitionLoop_start {store : Store} {findings : List Finding}
    (members : ∀ finding ∈ findings, finding ∈ store.findings.rows)
    (distinct : (findings.map Finding.id).Nodup) :
    TransitionLoop reopened store findings ([], store) :=
  ⟨members, distinct, Table.Evolves.refl (KeepsRejected.refl reopened) _,
    TransitionFrame.refl store, fun _ none => absurd none List.not_mem_nil⟩

variable [CaseMapping] [AlphabetTable]

variable {store after : Store} {ids : List String} {opportunityId actor : String}
  {note : Option String} {result : Finding}

omit [SystemClock] in
theorem recognizeTreatments_eq_ok {candidates : List Candidate} {actor : String}
    (accepted : recognizeTreatments store candidates actor = .ok after) :
    LedgerGrows store candidates store after := by
  simp only [recognizeTreatments, bind_eq_ok] at accepted
  obtain ⟨⟨results, last⟩, recognised, result⟩ := accepted
  cases result
  exact recognizeMany_eq_ok recognised

/-- The transitions of distinct findings with their recognition are one human
operation. -/
theorem transitionAll_eq_ok {reopened : List String} {findings : List Finding} {actor : String}
    {transition : Store → Finding → Except ServiceError (Option Candidate × Store)}
    (members : ∀ finding ∈ findings, finding ∈ store.findings.rows)
    (distinct : (findings.map Finding.id).Nodup)
    (spec : ∀ finding ∈ findings, ∀ {state candidate after}, finding ∈ state.findings.rows →
      transition state finding = .ok (candidate, after) →
      Transitioned reopened finding state after candidate)
    (accepted : transitionAll transition store findings actor = .ok after) :
    HumanOperation reopened store after := by
  simp only [transitionAll, bind_eq_ok] at accepted
  obtain ⟨⟨candidates, middle⟩, loop, recognised⟩ := accepted
  have finished := foldlM_rest (fun rest state => (∀ finding ∈ rest, finding ∈ findings) ∧
    TransitionLoop reopened store rest state) ?_
    ⟨fun _ => id, transitionLoop_start members distinct⟩ loop
  · refine ⟨middle, candidates, finished.2.findings, finished.2.frame, ⟨?_, ?_⟩,
      recognizeTreatments_eq_ok recognised⟩
    · simpa using finished.2.distinct
    · exact finished.2.treatments
  · intro finding rest state next holds step
    refine ⟨fun other later => holds.1 other (List.mem_cons_of_mem _ later), ?_⟩
    exact transitionLoop_step holds.2 (spec finding (holds.1 finding (List.mem_cons_self ..))
      (holds.2.waiting finding (List.mem_cons_self ..))) step

omit [SystemClock] [UuidSource] [CaseMapping] [AlphabetTable] in
/-- The findings of an operation are stored, distinct and among those asked for. -/
theorem orderedFindings_eq_ok {store : Store} {ordered : List Finding}
    (accepted : orderedFindings store ids = .ok ordered) :
    (∀ finding ∈ ordered, finding ∈ store.findings.rows ∧ finding.id ∈ ids) ∧
      (ordered.map Finding.id).Nodup := by
  unfold orderedFindings at accepted
  dsimp only at accepted
  split at accepted
  · rename_i present
    cases accepted
    have sameId {id : String} {finding : Finding}
        (found : store.findings.find? id = some finding) : finding.id = id :=
      (Table.find?_eq_some.mp found).2
    refine ⟨fun finding member => ?_, ?_⟩
    · obtain ⟨id, listed, found⟩ := List.mem_filterMap.mp member
      refine ⟨(Table.find?_eq_some.mp found).1, ?_⟩
      rw [sameId found]
      exact List.mem_eraseDups.mp listed
    · have kept : (ids.eraseDups.filterMap store.findings.find?).map Finding.id =
          ids.eraseDups := by
        rw [List.map_filterMap]
        refine (List.filterMap_congr fun id listed => ?_).trans (List.filterMap_some)
        obtain ⟨finding, found⟩ := Option.isSome_iff_exists.mp (List.all_eq_true.mp present id listed)
        rw [found, Option.map_some, sameId found]
      rw [kept]
      exact nodup_eraseDups ids
  · cases accepted

theorem treat_eq_ok (accepted : treat store opportunityId actor note = .ok (result, after)) :
    HumanOperation [] store after := by
  simp only [treat, bind_eq_ok, Store.locked_eq_ok] at accepted
  obtain ⟨finding, found, ⟨event, next, middle⟩, treated, last, recognised, result⟩ := accepted
  cases result
  obtain ⟨⟨replaced, keeps, put⟩, frame, candidate⟩ := applyTreat_eq_ok [] treated
  have member := (Table.find?_eq_some.mp found).1
  refine ⟨middle, [(next, event)], ?_, frame, ⟨List.nodup_singleton _, ?_⟩,
    recognizeTreatments_eq_ok recognised⟩
  · rw [put]
    exact Table.Evolves.put (KeepsRejected.refl []) _ member
      (Finding.id_of_subject keeps.subject).symm keeps
  · intro other listed
    rw [List.mem_singleton.mp listed]
    exact (candidate _ rfl).2

omit [UuidSource] [CaseMapping] [AlphabetTable] in
/-- A transition without a treatment is a human operation. -/
theorem Transitioned.humanOperation {reopened : List String} {finding : Finding}
    {before after : Store} (member : finding ∈ before.findings.rows)
    (transitioned : Transitioned reopened finding before after none) :
    HumanOperation reopened before after := by
  obtain ⟨⟨next, keeps, put⟩, frame, -⟩ := transitioned
  refine ⟨after, [], ?_, frame, ⟨List.nodup_nil, fun _ none => absurd none List.not_mem_nil⟩,
    LedgerGrows.refl after [] after⟩
  rw [put]
  exact Table.Evolves.put (KeepsRejected.refl reopened) _ member
    (Finding.id_of_subject keeps.subject).symm keeps

omit [CaseMapping] [AlphabetTable] in
theorem reject_eq_ok {opportunityId actor reason : String}
    (accepted : reject store opportunityId actor reason note = .ok (result, after)) :
    HumanOperation [] store after := by
  simp only [reject, bind_eq_ok, Store.locked_eq_ok] at accepted
  obtain ⟨-, -, finding, found, rejected⟩ := accepted
  exact (applyReject_eq_ok [] rejected).humanOperation (Table.find?_eq_some.mp found).1

omit [CaseMapping] [AlphabetTable] in
theorem reopen_eq_ok (accepted : reopen store opportunityId actor note = .ok (result, after)) :
    HumanOperation [opportunityId] store after := by
  simp only [reopen, bind_eq_ok, Store.locked_eq_ok] at accepted
  obtain ⟨finding, found, ⟨archived, next, last⟩, reopened, result⟩ := accepted
  cases result
  obtain ⟨member, sameId⟩ := Table.find?_eq_some.mp found
  exact (applyReopen_eq_ok member (List.mem_singleton.mpr sameId) reopened).humanOperation member

variable {reason note : Option String}

/-- A bulk transition that is accepted transitions the findings in their order. -/
theorem bulkTransition_ordered {actor action : String}
    (accepted : bulkTransition store ids actor action reason note = .ok after) :
    ∃ named ordered, lifecycleAction action = some named ∧
      orderedFindings store ids = .ok ordered ∧
      transitionAll (applyAction actor named reason note) store ordered actor = .ok after := by
  unfold bulkTransition at accepted
  split at accepted
  · dsimp only at accepted
    split at accepted
    · rw [bind_eq_ok] at accepted
      obtain ⟨-, -, refused⟩ := accepted
      cases refused
    · cases accepted
  · rename_i named isNamed
    dsimp only at accepted
    split at accepted
    · simp only [bind_eq_ok] at accepted
      obtain ⟨-, -, ordered, orderedOk, transitioned⟩ := accepted
      exact ⟨named, ordered, isNamed, orderedOk, transitioned⟩
    · simp only [bind_eq_ok] at accepted
      obtain ⟨ordered, orderedOk, transitioned⟩ := accepted
      exact ⟨named, ordered, isNamed, orderedOk, transitioned⟩

theorem bulkTransition_eq_ok {actor action : String}
    (accepted : bulkTransition store ids actor action reason note = .ok after) :
    ∃ named, lifecycleAction action = some named ∧
      HumanOperation (reopenedBy named ids) store after := by
  obtain ⟨named, ordered, isNamed, orderedOk, transitioned⟩ := bulkTransition_ordered accepted
  obtain ⟨members, distinct⟩ := orderedFindings_eq_ok orderedOk
  refine ⟨named, isNamed, transitionAll_eq_ok (fun finding listed => (members finding listed).1)
    distinct ?_ transitioned⟩
  intro finding listed state candidate next stored
  exact applyAction_eq_ok stored (members finding listed).2

theorem setLegacyStatus_eq_ok {status : LegacyStatus}
    (accepted : setLegacyStatus store opportunityId actor status reason note = .ok after) :
    HumanOperation (reopenedByLegacy status [opportunityId]) store after := by
  simp only [setLegacyStatus, bind_eq_ok, Store.locked_eq_ok] at accepted
  obtain ⟨finding, found, transitioned⟩ := accepted
  obtain ⟨member, sameId⟩ := Table.find?_eq_some.mp found
  have distinct : ([finding].map Finding.id).Nodup := List.nodup_singleton _
  refine transitionAll_eq_ok (fun other listed => ?_) distinct ?_ transitioned
  · rwa [List.mem_singleton.mp listed]
  · intro other listed state candidate next stored
    obtain rfl := List.mem_singleton.mp listed
    exact applyLegacyStatus_eq_ok stored (List.mem_singleton.mpr sameId)

theorem bulkSetLegacyStatus_eq_ok {actor : String} {status : LegacyStatus}
    (accepted : bulkSetLegacyStatus store ids actor status reason note = .ok after) :
    HumanOperation (reopenedByLegacy status ids) store after := by
  simp only [bulkSetLegacyStatus, bind_eq_ok] at accepted
  obtain ⟨ordered, orderedOk, transitioned⟩ := accepted
  obtain ⟨members, distinct⟩ := orderedFindings_eq_ok orderedOk
  refine transitionAll_eq_ok (fun finding listed => (members finding listed).1) distinct ?_
    transitioned
  intro finding listed state candidate next stored
  exact applyLegacyStatus_eq_ok stored (members finding listed).2

end Spec

end FinopsAnalytics.OpportunityLifecycle
