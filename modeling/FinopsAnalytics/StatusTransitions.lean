import FinopsAnalytics.OpportunityLifecycle

/-!
# What one decision writes

A decision on an opportunity replaces its row, appends one status event and, where an
archived rejection is reopened, one archive event. Apart from identifiers and instants
all of this is a function of the opportunity as it stood.
-/

namespace FinopsAnalytics.StatusTransitions

open PythonText UniqueTables OpportunityRecords OpportunityArchiving OpportunitySavingRecognition
  OpportunityLifecycle Fallible

/-- A finding without the instants of its decisions; whether there are any stays. -/
def undated (finding : Finding) : Finding :=
  { finding with
    treatedAt := finding.treatedAt.map fun _ => 0
    rejectedAt := finding.rejectedAt.map fun _ => 0 }

/-- A status event without its identifier and its instant. -/
def anonymous (event : OpportunityStatusHistory) : OpportunityStatusHistory :=
  { event with id := "", changedAt := 0 }

/-- An archive event without its instant. -/
def undatedArchive (event : OpportunityArchiveHistory) : OpportunityArchiveHistory :=
  { event with occurredAt := 0 }

/-- Whether an action may be applied to an opportunity of a status. -/
def allows : LifecycleAction → OpportunityStatus → Bool
  | .treat, status => status = .open_
  | .reject, status => status = .open_
  | .reopen, status => status ≠ .open_

/-- The status to which an action leads. -/
def targetOf : LifecycleAction → OpportunityStatus
  | .treat => .treated
  | .reject => .rejected
  | .reopen => .open_

/-- Whether an action takes a finding out of the archive. -/
def leavesArchive (action : LifecycleAction) (finding : Finding) : Bool :=
  action = .reopen && finding.status = .rejected && finding.archivedAt.isSome

/-- The archive event of a reopen. -/
def reopenArchiveEvent (finding : Finding) (actor : String) (occurredAt : Instant) :
    OpportunityArchiveHistory where
  opportunityId := finding.id
  action := .unarchive
  reason := .manual
  changedBy := some actor
  collectionRunId := none
  occurredAt := occurredAt
  context := previousContext finding ++ [("trigger", .text "reopen")]

section Plans

variable (actor : String) (action : LifecycleAction) (reason note : Option String)

/-- The finding after an action, without instants. -/
def plannedFinding (finding : Finding) : Finding :=
  undated <| match action with
    | .treat => treatedColumns finding 0 actor note
    | .reject => rejectedColumns finding 0 actor (orEmpty reason) note
    | .reopen =>
      reopenedColumns (if leavesArchive action finding then unarchived finding else finding)

/-- The status event of an action, without identifier and instant. -/
def plannedEvent (finding : Finding) : OpportunityStatusHistory where
  id := ""
  opportunityId := finding.id
  fromStatus := finding.status
  toStatus := targetOf action
  action := action
  reason := if action = .reject then some (orEmpty reason) else none
  note := note
  changedBy := some actor
  changedAt := 0

/-- The archive events of an action, without instants. -/
def plannedArchive (finding : Finding) : List OpportunityArchiveHistory :=
  if leavesArchive action finding then [reopenArchiveEvent finding actor 0] else []

end Plans

section Transitions

variable [UuidSource] [SystemClock]

/-- The store after a decision has written its rows. -/
def Appended (before after : Store) (next : Finding) (event : OpportunityStatusHistory)
    (archived : List OpportunityArchiveHistory) : Prop :=
  ∃ statusHistory clockReads, before.statusHistory.insert event = some statusHistory ∧
    after = { before with
      findings := before.findings.put next
      statusHistory
      archiveHistory := before.archiveHistory ++ archived
      drawn := before.drawn + 1
      clockReads }

/-- What an action on a finding writes: the planned rows, with the next identifier. -/
structure Writes (actor : String) (action : LifecycleAction) (reason note : Option String)
    (finding : Finding) (before after : Store) (next : Finding)
    (event : OpportunityStatusHistory) (archived : List OpportunityArchiveHistory) : Prop where
  allowed : allows action finding.status = true
  subject : next.subject = finding.subject
  columns : undated next = plannedFinding actor action reason note finding
  identifier : event.id = UuidSource.uuid4 before.drawn
  recorded : anonymous event = plannedEvent actor action reason note finding
  unarchives : archived.map undatedArchive = plannedArchive actor action finding
  appended : Appended before after next event archived

/-- The event that `_history` records. -/
def eventOf (store : Store) (finding : Finding) (actor : String) (toStatus : OpportunityStatus)
    (action : LifecycleAction) (reason note : Option String) : OpportunityStatusHistory where
  id := UuidSource.uuid4 store.drawn
  opportunityId := finding.id
  fromStatus := finding.status
  toStatus := toStatus
  action := action
  reason := reason
  note := note
  changedBy := some actor
  changedAt := SystemClock.utcnow store.clockReads

variable {store after : Store} {finding : Finding} {actor : String} {reason note : Option String}
  {event : OpportunityStatusHistory}

theorem statusEvent_ok_iff {toStatus : OpportunityStatus} {action : LifecycleAction} :
    statusEvent store finding actor toStatus action reason note = .ok (event, after) ↔
      event = eventOf store finding actor toStatus action reason note ∧
        ∃ statusHistory, store.statusHistory.insert event = some statusHistory ∧
          after = { store with
            statusHistory
            drawn := store.drawn + 1
            clockReads := store.clockReads + 1 } := by
  simp only [statusEvent, Store.utcnow, Store.draw, bind_eq_ok, flushed_eq_ok]
  constructor
  · rintro ⟨statusHistory, inserted, result⟩
    cases result
    exact ⟨rfl, statusHistory, inserted, rfl⟩
  · rintro ⟨rfl, statusHistory, inserted, rfl⟩
    exact ⟨statusHistory, inserted, rfl⟩

/-- A treatment writes the row and one event. -/
theorem applyTreat_writes {finding next : Finding} {note : Option String} (reason : Option String)
    (accepted : applyTreat store finding actor note = .ok (event, next, after)) :
    Writes actor .treat reason note finding store after next event [] := by
  unfold applyTreat at accepted
  by_cases isOpen : finding.status = .open_
  · rw [if_neg (not_not.mpr isOpen)] at accepted
    obtain ⟨⟨recorded, middle⟩, historyOk, result⟩ := bind_eq_ok.mp accepted
    cases result
    obtain ⟨rfl, statusHistory, inserted, rfl⟩ := statusEvent_ok_iff.mp historyOk
    refine ⟨by simp [allows, isOpen], rfl, rfl, rfl, ?_, rfl, statusHistory, store.clockReads + 1,
      inserted, ?_⟩
    · simp [anonymous, eventOf, plannedEvent, targetOf]
    · simp [Store.putFinding]
  · rw [if_pos isOpen] at accepted
    cases accepted

/-- A rejection writes the row and one event. -/
theorem applyReject_writes {finding next : Finding}
    (accepted : applyReject store finding actor (orEmpty reason) note = .ok (next, after)) :
    ∃ event, Writes actor .reject reason note finding store after next event [] := by
  unfold applyReject at accepted
  by_cases isOpen : finding.status = .open_
  · rw [if_neg (not_not.mpr isOpen)] at accepted
    obtain ⟨⟨recorded, middle⟩, historyOk, result⟩ := bind_eq_ok.mp accepted
    cases result
    obtain ⟨rfl, statusHistory, inserted, rfl⟩ := statusEvent_ok_iff.mp historyOk
    refine ⟨_, by simp [allows, isOpen], rfl, rfl, rfl, ?_, rfl, statusHistory,
      store.clockReads + 2, inserted, ?_⟩
    · simp [anonymous, eventOf, plannedEvent, targetOf]
    · simp [Store.putFinding]
  · rw [if_pos isOpen] at accepted
    cases accepted

omit [UuidSource] in
/-- Leaving the archive for a reopen writes one archive event. -/
theorem unarchiveForReopen_of_archived {store : Store} (rejected : finding.status = .rejected)
    (archived : finding.archivedAt.isSome = true) :
    unarchiveForReopen store finding actor = .ok (unarchived finding,
      { store with
        findings := store.findings.put (unarchived finding)
        archiveHistory := store.archiveHistory ++
          [reopenArchiveEvent finding actor (SystemClock.utcnow store.clockReads)]
        clockReads := store.clockReads + 1 }) := by
  have present : ¬finding.archivedAt.isNone = true := by
    simpa using Option.isSome_iff_ne_none.mp archived
  unfold unarchiveForReopen
  rw [if_neg present, if_neg (not_not.mpr rejected)]
  rfl

/-- A reopen after its finding has left the archive, or was not in it. -/
theorem writes_of_reopened {store middle last : Store} {finding current : Finding}
    {archived : List OpportunityArchiveHistory} (allowed : allows .reopen finding.status = true)
    (isCurrent : current = if leavesArchive .reopen finding then unarchived finding else finding)
    (unarchives : archived.map undatedArchive = plannedArchive actor .reopen finding)
    (clockReads : ℕ) (isMiddle : middle = { store with
      findings := store.findings.put current
      archiveHistory := store.archiveHistory ++ archived
      clockReads })
    (accepted : statusEvent middle current actor .open_ .reopen none note = .ok (event, last)) :
    Writes actor .reopen reason note finding store (last.putFinding (reopenedColumns current))
      (reopenedColumns current) event archived := by
  obtain ⟨rfl, statusHistory, inserted, rfl⟩ := statusEvent_ok_iff.mp accepted
  have subject : current.subject = finding.subject := by
    rw [isCurrent]
    split <;> rfl
  have status : current.status = finding.status := by
    rw [isCurrent]
    split <;> rfl
  subst isMiddle
  refine ⟨allowed, subject, ?_, rfl, ?_, unarchives, statusHistory, clockReads + 1, inserted, ?_⟩
  · rw [isCurrent]
    rfl
  · simp [anonymous, eventOf, plannedEvent, targetOf, Finding.id_of_subject subject, status]
  · have replaced : (store.findings.put current).put (reopenedColumns current) =
        store.findings.put (reopenedColumns current) := Table.put_put _ rfl rfl
    simp only [Store.putFinding, replaced]

/-- A reopening may write an event of the archive as well. -/
theorem applyReopen_writes {finding next : Finding} {note : Option String} {reopenedArchived : Bool}
    (reason : Option String) (member : finding ∈ store.findings.rows)
    (accepted : applyReopen store finding actor note = .ok (reopenedArchived, next, after)) :
    ∃ event archived, Writes actor .reopen reason note finding store after next event archived := by
  unfold applyReopen at accepted
  by_cases isOpen : finding.status = .open_
  · rw [if_pos isOpen] at accepted
    cases accepted
  · rw [if_neg isOpen] at accepted
    have allowed : allows .reopen finding.status = true := by simp [allows, isOpen]
    dsimp only at accepted
    by_cases leaves : (finding.status = .rejected && finding.archivedAt.isSome) = true
    · have both : leavesArchive .reopen finding = true := by
        simpa [leavesArchive] using leaves
      have rejected := of_decide_eq_true (Bool.and_eq_true_iff.mp leaves).1
      rw [if_pos leaves, unarchiveForReopen_of_archived rejected (Bool.and_eq_true_iff.mp leaves).2,
        ok_bind] at accepted
      obtain ⟨⟨recorded, last⟩, historyOk, result⟩ := bind_eq_ok.mp accepted
      cases result
      exact ⟨_, _, writes_of_reopened allowed (if_pos both).symm (if_pos both).symm _ rfl
        historyOk⟩
    · have neither : ¬leavesArchive .reopen finding = true := by
        simpa [leavesArchive] using leaves
      rw [if_neg leaves] at accepted
      obtain ⟨⟨current, middle⟩, same, accepted⟩ := bind_eq_ok.mp accepted
      cases same
      obtain ⟨⟨recorded, last⟩, historyOk, result⟩ := bind_eq_ok.mp accepted
      cases result
      refine ⟨_, [], writes_of_reopened allowed (if_neg neither).symm (if_neg neither).symm
        store.clockReads ?_ historyOk⟩
      rw [Table.put_self member, List.append_nil]

/-- The candidate of a decision: a treatment with its event. -/
def candidateOf (action : LifecycleAction) (next : Finding) (event : OpportunityStatusHistory) :
    Option Candidate :=
  if action = .treat then some (next, event) else none

/-- One action of a bulk operation. -/
theorem applyAction_writes {action : LifecycleAction} {candidate : Option Candidate}
    (member : finding ∈ store.findings.rows)
    (accepted : applyAction actor action reason note store finding = .ok (candidate, after)) :
    ∃ next event archived,
      Writes actor action reason note finding store after next event archived ∧
        candidate = candidateOf action next event := by
  cases action with
  | treat =>
    obtain ⟨⟨event, next, last⟩, treatOk, result⟩ := bind_eq_ok.mp accepted
    cases result
    exact ⟨next, event, [], applyTreat_writes reason treatOk, rfl⟩
  | reject =>
    obtain ⟨⟨next, last⟩, rejectOk, result⟩ := bind_eq_ok.mp accepted
    cases result
    obtain ⟨event, writes⟩ := applyReject_writes rejectOk
    exact ⟨next, event, [], writes, rfl⟩
  | reopen =>
    obtain ⟨⟨archived, next, last⟩, reopenOk, result⟩ := bind_eq_ok.mp accepted
    cases result
    obtain ⟨event, archivedEvents, writes⟩ := applyReopen_writes reason member reopenOk
    exact ⟨next, event, archivedEvents, writes, rfl⟩

/-- A legacy status leaves a finding that has it already, and is one action otherwise. -/
theorem applyLegacyStatus_writes {status : LegacyStatus} {candidate : Option Candidate}
    (member : finding ∈ store.findings.rows)
    (accepted : applyLegacyStatus actor status reason note store finding =
      .ok (candidate, after)) :
    (candidate = none ∧ after = store) ∨
      ∃ action givenReason givenNote next event archived,
        Writes actor action givenReason givenNote finding store after next event archived ∧
          candidate = candidateOf action next event := by
  unfold applyLegacyStatus at accepted
  split at accepted
  · cases accepted
    exact Or.inl ⟨rfl, rfl⟩
  · refine Or.inr ?_
    split at accepted
    · exact ⟨_, _, _, applyAction_writes member accepted⟩
    · exact ⟨_, _, _, applyAction_writes member accepted⟩
    · simp only [bind_eq_ok] at accepted
      obtain ⟨-, -, ⟨next, last⟩, rejectOk, result⟩ := accepted
      cases result
      obtain ⟨event, writes⟩ : ∃ event, Writes actor .reject (some _) _ finding store last next
          event [] := applyReject_writes rejectOk
      exact ⟨_, _, _, next, event, [], writes, rfl⟩

end Transitions

end FinopsAnalytics.StatusTransitions
