import FinopsAnalytics.Fallible
import FinopsAnalytics.OpportunityRecords

/-!
# Archiving opportunities

Archiving hides an opportunity without touching its human status or its
technical presence. A rejected opportunity leaves the archive only through a
reopen: both the manual and the automatic unarchive refuse it.
-/

namespace FinopsAnalytics.OpportunityArchiving

open UniqueTables OpportunityRecords Fallible

/-- Only the archive history and the clock differ. -/
def SameButArchive (before after : Store) : Prop :=
  ∃ archiveHistory clockReads, before.clockReads ≤ clockReads ∧
    after = { before with archiveHistory, clockReads }

theorem SameButArchive.refl (store : Store) : SameButArchive store store :=
  ⟨_, _, le_rfl, rfl⟩

section Archiving

variable [SystemClock]

/-- `_history`: append an event, at the given instant or now. -/
def history (store : Store) (finding : Finding) (action : OpportunityArchiveAction)
    (reason : OpportunityArchiveReason) (changedBy collectionRunId : Option String)
    (context : Metadata) (occurredAt : Option Instant) : Store :=
  let (instant, store) :=
    match occurredAt with
    | some instant => (instant, store)
    | none => store.utcnow
  { store with
    archiveHistory := store.archiveHistory ++
      [{ opportunityId := finding.id, action, reason, changedBy, collectionRunId, context,
         occurredAt := instant }] }

@[simp] theorem history_findings (store : Store) (finding : Finding)
    (action : OpportunityArchiveAction) (reason : OpportunityArchiveReason)
    (changedBy collectionRunId : Option String) (context : Metadata)
    (occurredAt : Option Instant) :
    (history store finding action reason changedBy collectionRunId context occurredAt).findings =
      store.findings := by
  cases occurredAt <;> rfl

/-- An event changes no table but the archive history. -/
theorem history_frame (store : Store) (finding : Finding) (action : OpportunityArchiveAction)
    (reason : OpportunityArchiveReason) (changedBy collectionRunId : Option String)
    (context : Metadata) (occurredAt : Option Instant) :
    SameButArchive store
      (history store finding action reason changedBy collectionRunId context occurredAt) := by
  cases occurredAt with
  | none => exact ⟨_, _, Nat.le_succ _, rfl⟩
  | some instant => exact ⟨_, _, le_rfl, rfl⟩

/-- The status columns in the context of an event. -/
def statusContext (finding : Finding) : Metadata :=
  [("status", .text finding.status.text), ("presence_status", .text finding.presenceStatus.text)]

/-- The columns before an unarchive in the context of its event. -/
def previousContext (finding : Finding) : Metadata :=
  [("archived_at", ((finding.archivedAt.map .instant).getD .null)),
    ("archived_by", ((finding.archivedBy.map .text).getD .null)),
    ("archive_reason", (finding.archiveReason.map fun reason => .text reason.text).getD .null)] ++
  statusContext finding

/-- The archive columns cleared. -/
def unarchived (finding : Finding) : Finding :=
  { finding with archivedAt := none, archivedBy := none, archiveReason := none }

/-- The archive columns of a finding that a user archives. -/
def archivedManually (finding : Finding) (archivedAt : Instant) (actor : String) : Finding :=
  { finding with
    archivedAt := some archivedAt, archivedBy := some actor, archiveReason := some .manual }

def archive (store : Store) (opportunityId actor : String) :
    Except ServiceError (Finding × Store) := do
  let finding ← store.locked opportunityId
  if finding.archivedAt.isSome then
    return (finding, store)
  let (archivedAt, store) := store.utcnow
  let finding := archivedManually finding archivedAt actor
  return (finding,
    history (store.putFinding finding) finding .archive .manual (some actor) none
      (statusContext finding) none)

/-- The archive columns of a finding that a retention policy archives. -/
def archivedByPolicy (finding : Finding) (archivedAt : Instant) : Finding :=
  { finding with
    archivedAt := some archivedAt, archivedBy := none, archiveReason := some .retentionPolicy }

/-- `archive_retention_locked` with the instant of the retention run and the context of
its policy. -/
def archiveRetentionLocked (store : Store) (finding : Finding) (archivedAt : Instant)
    (policyContext : Metadata) : Bool × Store :=
  if finding.archivedAt.isSome then
    (false, store)
  else
    let finding := archivedByPolicy finding archivedAt
    (true, history (store.putFinding finding) finding .archive .retentionPolicy none none
      (policyContext ++ statusContext finding) (some archivedAt))

/-- The refusal to unarchive a rejected opportunity. -/
def rejectedRefusal : ServiceError :=
  .http 409 ("Esta oportunidade está rejeitada. " ++
    "Reabra-a para devolvê-la ao backlog operacional.")

def unarchive (store : Store) (opportunityId actor : String) :
    Except ServiceError (Finding × Store) := do
  let finding ← store.locked opportunityId
  if finding.archivedAt.isNone then
    return (finding, store)
  if finding.status = .rejected then
    throw rejectedRefusal
  let previous := previousContext finding
  let finding := unarchived finding
  return (finding,
    history (store.putFinding finding) finding .unarchive .manual (some actor) none previous none)

/-- Unarchive a locked rejected finding as part of an explicit reopen. -/
def unarchiveForReopen (store : Store) (finding : Finding) (actor : String) :
    Except ServiceError (Finding × Store) := do
  if finding.archivedAt.isNone then
    return (finding, store)
  if finding.status ≠ .rejected then
    throw (.runtime "Reopen unarchive is only valid for rejected opportunities")
  let previous := previousContext finding ++ [("trigger", .text "reopen")]
  let finding := unarchived finding
  return (finding,
    history (store.putFinding finding) finding .unarchive .manual (some actor) none previous none)

/-- An automatic flow never breaks an explicit rejection. -/
def unarchiveReappeared (store : Store) (finding : Finding) (run : CollectionRun) :
    Finding × Store :=
  if finding.status = .rejected then
    (finding, store)
  else if finding.archivedAt.isNone then
    (finding, store)
  else
    let previous := previousContext finding ++
      [("provider", .text finding.provider), ("account_id", .text finding.accountId)]
    let finding := unarchived finding
    (finding, history (store.putFinding finding) finding .unarchive .reappeared none
      (some run.id) previous none)

/-- A rejected opportunity in the archive cannot be unarchived by hand. -/
theorem unarchive_rejected {store : Store} {opportunityId actor : String} {finding : Finding}
    (found : store.findings.find? opportunityId = some finding)
    (rejected : finding.status = .rejected) (archived : finding.archivedAt ≠ none) :
    unarchive store opportunityId actor = .error rejectedRefusal := by
  unfold unarchive
  rw [Store.locked_eq_ok.mpr found]
  simp [bind, Except.bind, archived, rejected, throw, throwThe, MonadExceptOf.throw]

/-- Archiving fills the archive columns of a finding outside the archive and leaves
any other finding. -/
def Shelved (before after : Finding) : Prop :=
  after = before ∨ before.archivedAt = none ∧ ∃ archivedAt archivedBy archiveReason,
    after = { before with archivedAt, archivedBy, archiveReason }

/-- Unarchiving clears the archive columns of a finding that is not rejected and
leaves any other finding. -/
def Unshelved (before after : Finding) : Prop :=
  after = before ∨ before.status ≠ .rejected ∧ after = unarchived before

omit [SystemClock] in
theorem Shelved.refl (finding : Finding) : Shelved finding finding := Or.inl rfl

omit [SystemClock] in
theorem Shelved.trans {first second third : Finding} (before : Shelved first second)
    (after : Shelved second third) : Shelved first third := by
  rcases before with rfl | ⟨active, archivedAt, archivedBy, archiveReason, rfl⟩
  · exact after
  · rcases after with rfl | ⟨-, laterAt, laterBy, laterReason, rfl⟩
    · exact Or.inr ⟨active, _, _, _, rfl⟩
    · exact Or.inr ⟨active, _, _, _, rfl⟩

/-- An operation on the archive: findings change as the relation says, and otherwise
only the archive history and the clock do. -/
structure ArchiveStep (related : Finding → Finding → Prop) (before after : Store) : Prop where
  findings : Table.Evolves related (fun _ => False) before.findings after.findings
  frame : ∃ findings archiveHistory clockReads, before.clockReads ≤ clockReads ∧
    after = { before with findings, archiveHistory, clockReads }

omit [SystemClock] in
theorem ArchiveStep.refl {related : Finding → Finding → Prop}
    (reflexive : ∀ finding, related finding finding) (store : Store) :
    ArchiveStep related store store :=
  ⟨Table.Evolves.refl reflexive _, _, _, _, le_rfl, rfl⟩

omit [SystemClock] in
theorem ArchiveStep.trans {first second third : Store} (before : ArchiveStep Shelved first second)
    (after : ArchiveStep Shelved second third) : ArchiveStep Shelved first third := by
  refine ⟨before.findings.trans Shelved.trans (fun _ => id) after.findings, ?_⟩
  obtain ⟨findings, archiveHistory, clockReads, later, rfl⟩ := before.frame
  obtain ⟨findings', archiveHistory', clockReads', later', rfl⟩ := after.frame
  exact ⟨_, _, _, later.trans later', rfl⟩

/-- Reading the clock leaves the archive. -/
theorem archiveStep_utcnow (store : Store) : ArchiveStep Shelved store store.utcnow.2 :=
  ⟨Table.Evolves.refl Shelved.refl _, _, _, _, Nat.le_succ _, rfl⟩

/-- Writing a finding with its event is one operation on the archive. -/
theorem archiveStep_history {related : Finding → Finding → Prop}
    (reflexive : ∀ finding, related finding finding) {store : Store} {stored next : Finding}
    (member : stored ∈ store.findings.rows) (step : related stored next)
    (sameId : stored.id = next.id) (action : OpportunityArchiveAction)
    (reason : OpportunityArchiveReason) (changedBy collectionRunId : Option String)
    (context : Metadata) (occurredAt : Option Instant) :
    ArchiveStep related store
      (history (store.putFinding next) next action reason changedBy collectionRunId context
        occurredAt) := by
  refine ⟨?_, ?_⟩
  · rw [history_findings]
    exact Table.Evolves.put reflexive _ member sameId step
  · obtain ⟨archiveHistory, clockReads, later, frame⟩ := history_frame
      (store.putFinding next) next action reason changedBy collectionRunId context occurredAt
    exact ⟨_, archiveHistory, clockReads, later, frame⟩

/-- An archive shelves its finding. -/
theorem archive_eq_ok {store after : Store} {opportunityId actor : String} {result : Finding}
    (accepted : archive store opportunityId actor = .ok (result, after)) :
    ArchiveStep Shelved store after := by
  simp only [archive, bind_eq_ok, Store.locked_eq_ok] at accepted
  obtain ⟨finding, found, result⟩ := accepted
  split at result
  · cases result
    exact ArchiveStep.refl Shelved.refl store
  · rename_i active
    cases result
    have active : finding.archivedAt = none := by simpa using active
    have shelved : Shelved finding (archivedManually finding store.utcnow.1 actor) :=
      Or.inr ⟨active, _, _, _, rfl⟩
    have member : finding ∈ store.utcnow.2.findings.rows := (Table.find?_eq_some.mp found).1
    exact (archiveStep_utcnow store).trans
      (archiveStep_history Shelved.refl member shelved rfl _ _ _ _ _ _)

/-- An unarchive clears the archive columns of its finding, which is not rejected. -/
theorem unarchive_eq_ok {store after : Store} {opportunityId actor : String} {result : Finding}
    (accepted : unarchive store opportunityId actor = .ok (result, after)) :
    ArchiveStep Unshelved store after := by
  simp only [unarchive, bind_eq_ok, Store.locked_eq_ok] at accepted
  obtain ⟨finding, found, result⟩ := accepted
  have reflexive (finding : Finding) : Unshelved finding finding := Or.inl rfl
  split at result
  · cases result
    exact ArchiveStep.refl reflexive store
  · split at result
    · cases result
    · rename_i notRejected
      cases result
      have unshelved : Unshelved finding (unarchived finding) := Or.inr ⟨notRejected, rfl⟩
      exact archiveStep_history reflexive (Table.find?_eq_some.mp found).1 unshelved rfl _ _ _ _ _ _

/-- Retention shelves its finding. -/
theorem archiveStep_archiveRetentionLocked {store : Store} {finding : Finding}
    (member : finding ∈ store.findings.rows) (archivedAt : Instant) (policyContext : Metadata) :
    ArchiveStep Shelved store
      (archiveRetentionLocked store finding archivedAt policyContext).2 := by
  unfold archiveRetentionLocked
  split
  · exact ArchiveStep.refl Shelved.refl store
  · rename_i active
    have shelved : Shelved finding (archivedByPolicy finding archivedAt) :=
      Or.inr ⟨by simpa using active, _, _, _, rfl⟩
    exact archiveStep_history Shelved.refl member shelved rfl .archive .retentionPolicy none none
      _ (some archivedAt)

end Archiving

end FinopsAnalytics.OpportunityArchiving
