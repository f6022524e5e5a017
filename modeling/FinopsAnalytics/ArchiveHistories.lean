import FinopsAnalytics.SnapshotHistories

/-!
# Archive histories

Seven operations write the archive columns of an opportunity, each with an event
of the archive history. On every run the events of an opportunity alternate,
beginning with an archive, and the columns are filled exactly while the last
event is an archive.

The invariant is carried with the row at hand: an operation reads a stored row,
writes it back and appends the event, and in between it must still hold the row
that is stored.
-/

namespace FinopsAnalytics.ArchiveHistories

open PythonText UniqueTables OpportunityRecords OpportunityFingerprint OpportunityReconciliation
  OpportunityCollection OpportunityPresence OpportunityArchiving OpportunityBulkArchiving
  OpportunitySavingRecognition OpportunityLifecycle OpportunityRetention ObservationCleanup
  RdsReservationVerdicts RdsReservationOpportunities RdsReservationPasses TransactionHistories
  OpportunityOperations OpportunityHistoryCycles CycleOperations CycleClosings CycleHistories
  PeriodClosing PeriodSnapshots SnapshotHistories Fallible

/-- The action that follows an action. -/
def following : OpportunityArchiveAction → OpportunityArchiveAction
  | .archive => .unarchive
  | .unarchive => .archive

/-- Each action is the one that is due, and the other is due after it. -/
def AlternatesFrom : OpportunityArchiveAction → List OpportunityArchiveAction → Prop
  | _, [] => True
  | due, action :: rest => action = due ∧ AlternatesFrom (following due) rest

/-- The action that is due after some actions. -/
def dueAfter (first : OpportunityArchiveAction) (actions : List OpportunityArchiveAction) :
    OpportunityArchiveAction :=
  (actions.getLast?.map following).getD first

variable {actions : List OpportunityArchiveAction} {finding next : Finding}

/-- The action that is due continues the alternation. -/
theorem alternatesFrom_append {first : OpportunityArchiveAction}
    (alternates : AlternatesFrom first actions) :
    AlternatesFrom first (actions ++ [dueAfter first actions]) := by
  induction actions generalizing first with
  | nil => exact ⟨rfl, trivial⟩
  | cons action rest inductionHypothesis =>
    obtain ⟨rfl, later⟩ := alternates
    refine ⟨rfl, ?_⟩
    have sameDue : dueAfter action (action :: rest) = dueAfter (following action) rest := by
      cases rest with
      | nil => rfl
      | cons next others => rw [dueAfter, dueAfter, List.getLast?_cons_cons]; rfl
    rw [sameDue]
    exact inductionHypothesis later

/-- The actions recorded for an opportunity, in their order. -/
def actionsOf (events : List OpportunityArchiveHistory) (opportunityId : String) :
    List OpportunityArchiveAction :=
  (events.filter (·.opportunityId = opportunityId)).map (·.action)

theorem actionsOf_append (events : List OpportunityArchiveHistory)
    (event : OpportunityArchiveHistory) (opportunityId : String) :
    actionsOf (events ++ [event]) opportunityId = actionsOf events opportunityId ++
      if event.opportunityId = opportunityId then [event.action] else [] := by
  by_cases own : event.opportunityId = opportunityId <;> simp [actionsOf, own]

/-- The columns of a finding agree with its actions. -/
structure WellFiled (finding : Finding) (actions : List OpportunityArchiveAction) : Prop where
  alternates : AlternatesFrom .archive actions
  archivedAt : finding.archivedAt.isSome = true ↔ actions.getLast? = some .archive
  archiveReason : finding.archiveReason.isSome = true ↔ actions.getLast? = some .archive

theorem WellFiled.congr {first second : Finding} (same : second.archiveState = first.archiveState)
    (filed : WellFiled first actions) :
    WellFiled second actions := by
  have archivedAt : second.archivedAt = first.archivedAt := congrArg ArchiveState.archivedAt same
  have archiveReason : second.archiveReason = first.archiveReason :=
    congrArg ArchiveState.reason same
  exact ⟨filed.alternates, archivedAt ▸ filed.archivedAt, archiveReason ▸ filed.archiveReason⟩

/-- A finding that is not in the archive. -/
def Unfiled (finding : Finding) : Prop :=
  finding.archivedAt = none ∧ finding.archiveReason = none

theorem Unfiled.wellFiled {finding : Finding} (unfiled : Unfiled finding) :
    WellFiled finding [] := by
  refine ⟨trivial, ?_, ?_⟩ <;> simp [unfiled.1, unfiled.2]

/-- What an action does to the columns of a finding. -/
def Turns (before after : Finding) : OpportunityArchiveAction → Prop
  | .archive => before.archivedAt.isNone = true ∧ after.archivedAt.isSome = true ∧
      after.archiveReason.isSome = true
  | .unarchive => before.archivedAt.isSome = true ∧ Unfiled after

/-- An action on the columns is the one that is due. -/
theorem WellFiled.turn {before after : Finding} (filed : WellFiled before actions)
    {action : OpportunityArchiveAction} (turns : Turns before after action) :
    WellFiled after (actions ++ [action]) := by
  have due : action = dueAfter .archive actions := by
    have stored := filed.archivedAt
    cases action with
    | archive =>
      have active : before.archivedAt.isSome = false := by simpa using turns.1
      rcases last : actions.getLast? with _ | (_ | _)
      · simp [dueAfter, last]
      · simp [last, active] at stored
      · simp [dueAfter, last, following]
    | unarchive =>
      rw [dueAfter, stored.mp turns.1]
      rfl
  refine ⟨due ▸ alternatesFrom_append filed.alternates, ?_, ?_⟩
  · cases action with
    | archive => simp [turns.2.1]
    | unarchive => simp [turns.2.1]
  · cases action with
    | archive => simp [turns.2.2]
    | unarchive => simp [turns.2.2]

/-- Every event is one of a stored finding, and every finding agrees with its
events. -/
structure Filed (store : Store) : Prop where
  known : ∀ event ∈ store.archiveHistory, ∃ finding ∈ store.findings.rows,
    finding.id = event.opportunityId
  wellFiled : ∀ finding ∈ store.findings.rows,
    WellFiled finding (actionsOf store.archiveHistory finding.id)

theorem empty_filed : Filed Store.empty :=
  ⟨fun _ member => absurd member List.not_mem_nil, fun _ member => absurd member List.not_mem_nil⟩

/-- The archive columns are kept. -/
def SameArchive (before after : Finding) : Prop := after.archiveState = before.archiveState

theorem SameArchive.refl (finding : Finding) : SameArchive finding finding := rfl

/-- Neither the archive columns nor the archive history change; new findings are
outside the archive. -/
structure ArchiveUntouched (before after : Store) : Prop where
  findings : Table.Evolves SameArchive Unfiled before.findings after.findings
  events : after.archiveHistory = before.archiveHistory

theorem ArchiveUntouched.of_findings {before after : Store}
    (findings : after.findings = before.findings)
    (events : after.archiveHistory = before.archiveHistory) : ArchiveUntouched before after :=
  ⟨findings ▸ Table.Evolves.refl SameArchive.refl _, events⟩

theorem ArchiveUntouched.refl (store : Store) : ArchiveUntouched store store :=
  .of_findings rfl rfl

theorem ArchiveUntouched.trans {first second third : Store}
    (before : ArchiveUntouched first second) (after : ArchiveUntouched second third) :
    ArchiveUntouched first third := by
  refine ⟨before.findings.trans (fun old next => Eq.trans next old) ?_ after.findings,
    after.events.trans before.events⟩
  intro old next same unfiled
  exact ⟨(congrArg ArchiveState.archivedAt same).trans unfiled.1,
    (congrArg ArchiveState.reason same).trans unfiled.2⟩

/-- What does not touch the archive keeps it filed. A new finding has no events,
since every event is one of an old finding. -/
theorem ArchiveUntouched.filed {before after : Store} (untouched : ArchiveUntouched before after)
    (filed : Filed before) : Filed after := by
  refine ⟨fun event member => ?_, fun finding member => ?_⟩
  · rw [untouched.events] at member
    obtain ⟨finding, findingMember, owner⟩ := filed.known event member
    obtain ⟨next, nextMember, sameId, -⟩ := untouched.findings.carries finding findingMember
    exact ⟨next, nextMember, sameId.trans owner⟩
  · rw [untouched.events]
    rcases untouched.findings.origin member with ⟨old, oldMember, sameId, same⟩ | ⟨fresh, unfiled⟩
    · rw [← sameId]
      exact (filed.wellFiled old oldMember).congr same
    · have none : actionsOf before.archiveHistory finding.id = [] := by
        rw [actionsOf, List.map_eq_nil_iff, List.filter_eq_nil_iff]
        intro event eventMember own
        obtain ⟨old, oldMember, owner⟩ := filed.known event eventMember
        exact fresh old oldMember (owner.trans (by simpa using own))
      rw [none]
      exact unfiled.wellFiled

/-- Changes to other tables. -/
theorem Filed.congr {store after : Store} (filed : Filed store)
    (findings : after.findings = store.findings)
    (events : after.archiveHistory = store.archiveHistory) : Filed after :=
  (ArchiveUntouched.of_findings findings events).filed filed

/-- The archive is filed, and the row at hand is the stored one. -/
structure FiledWith (store : Store) (finding : Finding) : Prop where
  filed : Filed store
  member : finding ∈ store.findings.rows

theorem FiledWith.congr {store after : Store} {finding : Finding}
    (filedWith : FiledWith store finding) (findings : after.findings = store.findings)
    (events : after.archiveHistory = store.archiveHistory) : FiledWith after finding :=
  ⟨filedWith.filed.congr findings events, findings ▸ filedWith.member⟩

theorem mem_putFinding {store : Store} (member : finding ∈ store.findings.rows)
    (subject : next.subject = finding.subject) :
    next ∈ (store.putFinding next).findings.rows := by
  have replaced : next ∈ (store.findings.put next).rows :=
    (Table.mem_put member (Finding.id_of_subject subject).symm
      (Finding.fingerprint_of_subject subject).symm).mpr (Or.inl rfl)
  exact replaced

theorem archiveUntouched_put {store : Store} (member : finding ∈ store.findings.rows)
    (subject : next.subject = finding.subject) (same : SameArchive finding next) :
    ArchiveUntouched store (store.putFinding next) :=
  ⟨Table.Evolves.put SameArchive.refl _ member (Finding.id_of_subject subject).symm same, rfl⟩

/-- A write that keeps the archive columns. -/
theorem FiledWith.put {store : Store} (filedWith : FiledWith store finding)
    (subject : next.subject = finding.subject) (same : SameArchive finding next) :
    FiledWith (store.putFinding next) next :=
  ⟨(archiveUntouched_put filedWith.member subject same).filed filedWith.filed,
    mem_putFinding filedWith.member subject⟩

section Events

variable [SystemClock]

theorem archiveHistory_history (store : Store) (finding : Finding)
    (action : OpportunityArchiveAction) (reason : OpportunityArchiveReason)
    (changedBy collectionRunId : Option String) (context : Metadata)
    (occurredAt : Option Instant) :
    ∃ event, (history store finding action reason changedBy collectionRunId context
        occurredAt).archiveHistory = store.archiveHistory ++ [event] ∧
      event.opportunityId = finding.id ∧ event.action = action := by
  cases occurredAt <;> exact ⟨_, rfl, rfl, rfl⟩

variable {store : Store} {finding : Finding}

/-- A write of the archive columns with its event. -/
theorem FiledWith.turn {finding next : Finding} (filedWith : FiledWith store finding)
    {action : OpportunityArchiveAction} (turns : Turns finding next action)
    (subject : next.subject = finding.subject) (reason : OpportunityArchiveReason)
    (changedBy collectionRunId : Option String) (context : Metadata) (occurredAt : Option Instant) :
    FiledWith (history (store.putFinding next) next action reason changedBy collectionRunId context
      occurredAt) next := by
  obtain ⟨event, events, owner, ofAction⟩ := archiveHistory_history (store.putFinding next) next
    action reason changedBy collectionRunId context occurredAt
  have sameId : next.id = finding.id := Finding.id_of_subject subject
  have listed (row : Finding) : row ∈ (history (store.putFinding next) next action reason changedBy
      collectionRunId context occurredAt).findings.rows ↔
        row = next ∨ row ∈ store.findings.rows ∧ row.id ≠ next.id := by
    rw [history_findings]
    exact Table.mem_put filedWith.member sameId.symm (Finding.fingerprint_of_subject subject).symm
  have known : ∀ finding ∈ store.findings.rows, ∃ row ∈ (history (store.putFinding next) next action
      reason changedBy collectionRunId context occurredAt).findings.rows, row.id = finding.id := by
    intro old oldMember
    by_cases same : old.id = next.id
    · exact ⟨next, (listed next).mpr (Or.inl rfl), same.symm⟩
    · exact ⟨old, (listed old).mpr (Or.inr ⟨oldMember, same⟩), rfl⟩
  refine ⟨⟨fun other otherMember => ?_, fun row rowMember => ?_⟩, (listed next).mpr (Or.inl rfl)⟩
  · rw [events] at otherMember
    rcases List.mem_append.mp otherMember with old | last
    · obtain ⟨row, rowMember, ownerOld⟩ := filedWith.filed.known other old
      obtain ⟨kept, keptMember, keptId⟩ := known row rowMember
      exact ⟨kept, keptMember, keptId.trans ownerOld⟩
    · rw [List.mem_singleton.mp last, owner]
      exact ⟨next, (listed next).mpr (Or.inl rfl), rfl⟩
  · rw [events, actionsOf_append]
    rcases (listed row).mp rowMember with rfl | ⟨oldMember, other⟩
    · rw [if_pos owner, ofAction, sameId]
      exact (filedWith.filed.wellFiled finding filedWith.member).turn turns
    · rw [if_neg fun same => other (same.symm.trans owner), List.append_nil]
      exact filedWith.filed.wellFiled row oldMember

omit [SystemClock] in
theorem filedWith_locked (filed : Filed store) {id : String}
    (found : store.findings.find? id = some finding) : FiledWith store finding :=
  ⟨filed, (Table.find?_eq_some.mp found).1⟩

omit [SystemClock] in
theorem unfiled_unarchived (finding : Finding) : Unfiled (unarchived finding) := ⟨rfl, rfl⟩

/-- Archiving by hand appends an event of a finding outside the archive. -/
theorem filed_archive {store after : Store} (filed : Filed store) {opportunityId actor : String}
    {result : Finding} (accepted : archive store opportunityId actor = .ok (result, after)) :
    Filed after := by
  simp only [archive, bind_eq_ok, Store.locked_eq_ok] at accepted
  obtain ⟨finding, found, result⟩ := accepted
  split at result
  · cases result
    exact filed
  · rename_i active
    cases result
    have read : FiledWith store.utcnow.2 finding := (filedWith_locked filed found).congr rfl rfl
    have turns : Turns finding (archivedManually finding store.utcnow.1 actor) .archive :=
      ⟨by simpa using active, rfl, rfl⟩
    exact (read.turn turns rfl _ _ _ _ _).filed

/-- Unarchiving by hand appends an event of an archived finding. -/
theorem filed_unarchive {store after : Store} (filed : Filed store) {opportunityId actor : String}
    {result : Finding} (accepted : unarchive store opportunityId actor = .ok (result, after)) :
    Filed after := by
  simp only [unarchive, bind_eq_ok, Store.locked_eq_ok] at accepted
  obtain ⟨finding, found, result⟩ := accepted
  split at result
  · cases result
    exact filed
  · rename_i archived
    split at result
    · cases result
    · cases result
      have turns : Turns finding (unarchived finding) .unarchive :=
        ⟨by simpa [Option.isSome_iff_ne_none] using archived, unfiled_unarchived finding⟩
      exact ((filedWith_locked filed found).turn turns rfl _ _ _ _ _).filed

/-- A reopening unarchives what is archived. -/
theorem filedWith_unarchiveForReopen {store after : Store} {finding next : Finding} {actor : String}
    (filedWith : FiledWith store finding)
    (accepted : unarchiveForReopen store finding actor = .ok (next, after)) :
    FiledWith after next := by
  unfold unarchiveForReopen at accepted
  split at accepted
  · cases accepted
    exact filedWith
  · rename_i archived
    split at accepted
    · cases accepted
    · cases accepted
      have turns : Turns finding (unarchived finding) .unarchive :=
        ⟨by simpa [Option.isSome_iff_ne_none] using archived, unfiled_unarchived finding⟩
      exact filedWith.turn turns rfl _ _ _ _ _

theorem filedWith_unarchiveReappeared (filedWith : FiledWith store finding) (run : CollectionRun) :
    FiledWith (unarchiveReappeared store finding run).2 (unarchiveReappeared store finding run).1 := by
  unfold unarchiveReappeared
  split
  · exact filedWith
  · split
    · exact filedWith
    · rename_i archived
      have turns : Turns finding (unarchived finding) .unarchive :=
        ⟨by simpa [Option.isSome_iff_ne_none] using archived, unfiled_unarchived finding⟩
      dsimp only
      exact filedWith.turn turns rfl _ _ _ _ _

theorem filed_archiveRetentionLocked (filedWith : FiledWith store finding) (archivedAt : Instant)
    (policyContext : Metadata) :
    Filed (archiveRetentionLocked store finding archivedAt policyContext).2 := by
  unfold archiveRetentionLocked
  split
  · exact filedWith.filed
  · rename_i active
    have turns : Turns finding (archivedByPolicy finding archivedAt) .archive :=
      ⟨by simpa using active, rfl, rfl⟩
    dsimp only
    exact (filedWith.turn turns rfl _ _ _ _ _).filed

/-! ## Archive operations over many opportunities -/

/-- A row of a bulk is archived, or refused unchanged. -/
theorem filed_archiveRow {state : BulkArchiveState} (filed : Filed state.store)
    (actor operation : String) (cycleId : Option String) (operationAt : Instant)
    (opportunityId : String) :
    Filed (archiveRow actor operation cycleId operationAt state opportunityId).store := by
  unfold archiveRow
  split
  · exact filed
  · rename_i finding found
    split
    · exact filed
    · rename_i active
      have turns : Turns finding (archivedManually finding operationAt actor) .archive :=
        ⟨by simpa using active, rfl, rfl⟩
      dsimp only
      exact ((filedWith_locked filed found).turn turns rfl _ _ _ _ _).filed

theorem filed_archiveLocked {state : BulkArchiveState} (filed : Filed state.store)
    (actor operation : String) (cycleId : Option String) (operationAt : Instant)
    (ids : List String) :
    Filed (archiveLocked actor operation cycleId operationAt state ids).store :=
  List.foldlRecOn (motive := fun (current : BulkArchiveState) => Filed current.store) ids _
    filed fun _ current opportunityId _ => filed_archiveRow current _ _ _ _ opportunityId

theorem filed_utcnow (filed : Filed store) : Filed store.utcnow.2 :=
  filed.congr rfl rfl

theorem filed_bulkArchive {store after : Store} (filed : Filed store) {opportunityIds : List String}
    {actor : String} {result : BulkArchiveResult}
    (accepted : bulkArchive store opportunityIds actor = .ok (result, after)) : Filed after := by
  unfold bulkArchive at accepted
  dsimp only at accepted
  split at accepted
  · cases accepted
  · split at accepted
    · cases accepted
    · cases accepted
      have started : Filed (BulkArchiveState.mk [] 0 store.utcnow.2).store := filed_utcnow filed
      exact filed_archiveLocked started _ _ _ _ _

/-- By induction on the selected rows. -/
theorem filed_archiveByFilterAs {store after : Store} (filed : Filed store) {operation : String}
    {cycleId : Option String} {filters : OpportunityFilters} {actor : String} {archiveAll : Bool}
    {result : BulkArchiveResult}
    (accepted : archiveByFilterAs operation cycleId store filters actor archiveAll =
      .ok (result, after)) : Filed after := by
  simp only [archiveByFilterAs, bind_eq_ok] at accepted
  obtain ⟨-, -, result⟩ := accepted
  cases result
  exact List.foldlRecOn (motive := fun (current : BulkArchiveState) => Filed current.store) _ _
    (b := ⟨[], 0, store.utcnow.2⟩) (filed_utcnow filed) fun _ current ids _ =>
      filed_archiveLocked current _ _ _ _ ids

/-- By induction on the batches that remain. -/
theorem filed_archivePolicy (service : OpportunityRetentionService) (policy : RetentionPolicy)
    (now : Instant) (remaining : ℕ) {state : OpportunityRetentionResult × Store}
    (filed : Filed state.2) : Filed (archivePolicy service policy now remaining state).2 := by
  have expired (current : OpportunityRetentionResult × Store) (filed : Filed current.2)
      (opportunityId : String) :
      Filed (archiveExpired service policy now current opportunityId).2 := by
    unfold archiveExpired
    split
    · exact filed
    · rename_i finding found
      have archived := filed_archiveRetentionLocked (filedWith_locked filed found) now
        (policyContext service policy finding)
      split <;> rename_i same <;> rw [same] at archived <;> exact archived
  induction remaining generalizing state with
  | zero => exact filed
  | succ remaining inductionHypothesis =>
    unfold archivePolicy
    split
    · exact filed
    · rename_i first rest batch
      have archived : Filed
          ((first :: rest).foldl (archiveExpired service policy now) state).2 := List.foldlRecOn
        (motive := fun (current : OpportunityRetentionResult × Store) => Filed current.2)
        (first :: rest) _ filed fun current filed opportunityId _ =>
          expired current filed opportunityId
      exact inductionHypothesis archived

/-- The policies run one after the other. -/
theorem filed_retention {store after : Store} (filed : Filed store) {settings : RetentionSettings}
    {now : Option Instant} {result : OpportunityRetentionResult}
    (accepted : OpportunityRetention.run settings store now = .ok (result, after)) :
    Filed after := by
  simp only [OpportunityRetention.run, bind_eq_ok] at accepted
  obtain ⟨service, -, result⟩ := accepted
  have policies (runAt : Instant) (state : OpportunityRetentionResult × Store)
      (filed : Filed state.2) : Filed (service.policies.foldl (runPolicy service runAt) state).2 := by
    refine List.foldlRecOn
      (motive := fun (current : OpportunityRetentionResult × Store) => Filed current.2) _ _ filed
      fun current filed policy _ => ?_
    unfold runPolicy
    split
    · exact filed_archivePolicy service policy runAt _ filed
    · exact filed
  cases now with
  | some runAt =>
    have run := policies runAt (preflight service store runAt, store) filed
    rw [Except.ok.inj result] at run
    exact run
  | none =>
    have run := policies store.utcnow.1
      (preflight service store.utcnow.2 store.utcnow.1, store.utcnow.2) (filed_utcnow filed)
    rw [Except.ok.inj result] at run
    exact run

end Events

/-! ## Collections -/

theorem sameArchive_snapshotted (run : CollectionRun) (scanId : String) (item : CollectedFinding)
    (created latest : Bool) (finding : Finding) :
    SameArchive finding (snapshotted scanId run item created latest finding) := by
  unfold SameArchive
  cases created <;> simp only [snapshotted] <;> split_ifs <;> rfl

theorem subject_reviewAfterTreatment (observedAt : Instant) (finding : Finding) :
    (reviewAfterTreatment observedAt finding).subject = finding.subject := by
  unfold reviewAfterTreatment
  split
  · split_ifs <;> rfl
  · rfl

theorem sameArchive_reviewAfterTreatment (observedAt : Instant) (finding : Finding) :
    SameArchive finding (reviewAfterTreatment observedAt finding) := by
  unfold SameArchive reviewAfterTreatment
  split
  · split_ifs <;> rfl
  · rfl

section Collections

variable [CaseMapping] [Digest] [UuidSource] [SystemClock]

variable {store after : Store} {run : CollectionRun} {observedAt : Instant}

omit [CaseMapping] [Digest] [UuidSource] in
/-- A reactivation leaves the archive by an event, or not at all. -/
theorem filedWith_reactivate {finding next : Finding} {changed : Bool}
    (filedWith : FiledWith store finding)
    (accepted : reactivatePresenceFromObservation store finding run = .ok (changed, next, after)) :
    FiledWith after next := by
  unfold reactivatePresenceFromObservation at accepted
  split at accepted
  · cases accepted
    exact filedWith
  · simp only [bind_eq_ok] at accepted
    obtain ⟨middle, recorded, result⟩ := accepted
    obtain ⟨presenceHistory, rfl⟩ := recordObservedAgain_eq_ok recorded
    simp only [pure, Except.pure, Except.ok.injEq, Prod.mk.injEq] at result
    have noted : FiledWith { store with presenceHistory } finding := filedWith.congr rfl rfl
    have active : FiledWith
        ({ store with presenceHistory }.putFinding (reactivated run finding))
        (reactivated run finding) := noted.put rfl rfl
    have surfaced : FiledWith
        (surface { store with presenceHistory } (reactivated run finding) run).2
        (surface { store with presenceHistory } (reactivated run finding) run).1 := by
      unfold surface
      split
      · exact noted.put rfl rfl
      · exact filedWith_unarchiveReappeared active run
    rw [result.2] at surfaced
    exact surfaced

omit [CaseMapping] [Digest] in
/-- The snapshot and the observation leave the archive; the reappearance may not. -/
theorem filed_observeEntry (filed : Filed store) {scanId : String}
    {entry : String × CollectedFinding}
    (accepted : observeEntry scanId run observedAt store entry = .ok after) : Filed after := by
  unfold observeEntry at accepted
  cases found : store.findings.findUnique? entry.1 with
  | none =>
    rw [found] at accepted
    cases accepted
  | some finding =>
    rw [found] at accepted
    simp only [bind_eq_ok] at accepted
    obtain ⟨⟨observation, created, recordedStore⟩, recorded, continued⟩ := accepted
    obtain ⟨-, -, -, -, -, -, observations, drawn, rfl⟩ := recordObservation_eq_ok recorded
    have stored : FiledWith { store with observations, drawn } finding :=
      ⟨filed.congr rfl rfl, (Table.findUnique?_eq_some.mp found).1⟩
    have written (latest : Bool) := stored.put
      (observed_snapshotted run scanId entry.2 created latest finding).subject
      (sameArchive_snapshotted run scanId entry.2 created latest finding)
    have marked (latest : Bool) := stored.put
      ((observed_snapshotted run scanId entry.2 created latest finding).trans
        (observed_markSeen run observation.observedAt _)).subject
      (sameArchive_snapshotted run scanId entry.2 created latest finding)
    dsimp only at continued
    split at continued
    · simp only [bind_eq_ok] at continued
      obtain ⟨⟨changed, next, last⟩, reactivation, result⟩ := continued
      cases result
      have reactivated := filedWith_reactivate (marked _) reactivation
      exact (reactivated.put (subject_reviewAfterTreatment _ _)
        (sameArchive_reviewAfterTreatment _ _)).filed
    · cases continued
      exact (written _).filed

omit [SystemClock] [CaseMapping] [Digest] in
/-- A new finding begins outside the archive. -/
theorem archiveUntouched_ensureFinding {scanId : String} {entry : String × CollectedFinding}
    (accepted : ensureFinding scanId run observedAt store entry = .ok after) :
    ArchiveUntouched store after := by
  unfold ensureFinding at accepted
  split at accepted
  · cases accepted
    exact ArchiveUntouched.refl store
  · rename_i missing
    simp only [createFindingRaceSafe, Store.draw] at accepted
    split at accepted
    · rename_i findings inserted
      cases accepted
      exact ⟨Table.Evolves.insert SameArchive.refl inserted ⟨rfl, rfl⟩, rfl⟩
    · rw [missing] at accepted
      cases accepted

/-- By induction on the entries. -/
theorem filed_persistFindings (filed : Filed store) {scanId : String}
    {collected : List CollectedFinding} {count : ℕ}
    (accepted : persistFindings store scanId run collected observedAt = .ok (count, after)) :
    Filed after := by
  simp only [persistFindings, bind_eq_ok] at accepted
  obtain ⟨entries, -, created, creating, observed, observing, result⟩ := accepted
  cases result
  have ensured : Filed created := foldlM_invariant Filed
    (fun entry _ state next holds step => (archiveUntouched_ensureFinding step).filed holds)
    filed creating
  exact foldlM_invariant Filed
    (fun entry _ state next holds step => filed_observeEntry holds step) ensured observing

end Collections

/-! ## Decisions -/

section Decisions

variable [UuidSource] [SystemClock]

variable {store after : Store} {actor : String} {reason note : Option String}
  {finding next : Finding}

/-- An event of a decision leaves the archive. -/
theorem filedWith_statusEvent {current finding : Finding} {toStatus : OpportunityStatus}
    {action : LifecycleAction} {event : OpportunityStatusHistory}
    (filedWith : FiledWith store current)
    (accepted : statusEvent store finding actor toStatus action reason note = .ok (event, after)) :
    FiledWith after current := by
  simp only [statusEvent, Store.utcnow, Store.draw, bind_eq_ok, flushed_eq_ok] at accepted
  obtain ⟨statusHistory, -, result⟩ := accepted
  cases result
  exact filedWith.congr rfl rfl

theorem filedWith_applyTreat {note : Option String} {event : OpportunityStatusHistory}
    (filedWith : FiledWith store finding)
    (accepted : applyTreat store finding actor note = .ok (event, next, after)) :
    FiledWith after next := by
  unfold applyTreat at accepted
  split at accepted
  · cases accepted
  · simp only [bind_eq_ok] at accepted
    obtain ⟨⟨recorded, middle⟩, historyOk, result⟩ := accepted
    cases result
    exact (filedWith_statusEvent filedWith historyOk).put rfl rfl

theorem filedWith_applyReject {actor reason : String} {note : Option String}
    (filedWith : FiledWith store finding)
    (accepted : applyReject store finding actor reason note = .ok (next, after)) :
    FiledWith after next := by
  unfold applyReject at accepted
  split at accepted
  · cases accepted
  · simp only [bind_eq_ok] at accepted
    obtain ⟨⟨recorded, middle⟩, historyOk, result⟩ := accepted
    cases result
    have read : FiledWith middle.utcnow.2 finding :=
      (filedWith_statusEvent filedWith historyOk).congr rfl rfl
    exact read.put rfl rfl

/-- The unarchival comes before the event of the status. -/
theorem filedWith_applyReopen {note : Option String} {reopenedArchived : Bool}
    (filedWith : FiledWith store finding)
    (accepted : applyReopen store finding actor note = .ok (reopenedArchived, next, after)) :
    FiledWith after next := by
  unfold applyReopen at accepted
  split at accepted
  · cases accepted
  · dsimp only at accepted
    split at accepted
    · simp only [bind_eq_ok] at accepted
      obtain ⟨⟨current, middle⟩, unarchivedOk, ⟨event, last⟩, historyOk, result⟩ := accepted
      cases result
      have opened := filedWith_unarchiveForReopen filedWith unarchivedOk
      exact (filedWith_statusEvent opened historyOk).put rfl rfl
    · simp only [bind_eq_ok] at accepted
      obtain ⟨⟨current, middle⟩, same, ⟨event, last⟩, historyOk, result⟩ := accepted
      cases same
      cases result
      exact (filedWith_statusEvent filedWith historyOk).put rfl rfl

/-- By cases on the action. -/
theorem filed_applyAction {finding : Finding} {action : LifecycleAction}
    {candidate : Option Candidate} (filedWith : FiledWith store finding)
    (accepted : applyAction actor action reason note store finding = .ok (candidate, after)) :
    Filed after := by
  cases action with
  | treat =>
    simp only [applyAction, bind_eq_ok] at accepted
    obtain ⟨⟨event, next, last⟩, treatOk, result⟩ := accepted
    cases result
    exact (filedWith_applyTreat filedWith treatOk).filed
  | reject =>
    simp only [applyAction, bind_eq_ok] at accepted
    obtain ⟨⟨next, last⟩, rejectOk, result⟩ := accepted
    cases result
    exact (filedWith_applyReject filedWith rejectOk).filed
  | reopen =>
    simp only [applyAction, bind_eq_ok] at accepted
    obtain ⟨⟨archived, next, last⟩, reopenOk, result⟩ := accepted
    cases result
    exact (filedWith_applyReopen filedWith reopenOk).filed

/-- By cases on the legacy status. -/
theorem filed_applyLegacyStatus {finding : Finding} {status : LegacyStatus}
    {candidate : Option Candidate} (filedWith : FiledWith store finding)
    (accepted : applyLegacyStatus actor status reason note store finding =
      .ok (candidate, after)) : Filed after := by
  unfold applyLegacyStatus at accepted
  split at accepted
  · cases accepted
    exact filedWith.filed
  · split at accepted
    · exact filed_applyAction filedWith accepted
    · exact filed_applyAction filedWith accepted
    · simp only [bind_eq_ok] at accepted
      obtain ⟨-, -, ⟨next, last⟩, rejectOk, result⟩ := accepted
      cases result
      exact (filedWith_applyReject filedWith rejectOk).filed

variable [CaseMapping] [AlphabetTable]

variable {store after : Store} {opportunityId actor : String} {note : Option String}
  {result : Finding}

omit [SystemClock] in
theorem filed_recognizeTreatments {candidates : List Candidate} {actor : String}
    (filed : Filed store) (accepted : recognizeTreatments store candidates actor = .ok after) :
    Filed after := by
  obtain ⟨ledgerEntries, drawn, -, rfl⟩ := (recognizeTreatments_eq_ok accepted).frame
  exact filed.congr rfl rfl

/-- Transitions of distinct findings, each of which keeps the archive filed. -/
theorem filed_transitionAll (filed : Filed store) {findings : List Finding} {actor : String}
    {reopened : List String}
    {transition : Store → Finding → Except ServiceError (Option Candidate × Store)}
    (members : ∀ finding ∈ findings, finding ∈ store.findings.rows)
    (distinct : (findings.map Finding.id).Nodup)
    (spec : ∀ finding ∈ findings, ∀ {state candidate after}, finding ∈ state.findings.rows →
      transition state finding = .ok (candidate, after) →
      Transitioned reopened finding state after candidate)
    (kept : ∀ {finding state candidate after}, FiledWith state finding →
      transition state finding = .ok (candidate, after) → Filed after)
    (accepted : transitionAll transition store findings actor = .ok after) : Filed after := by
  simp only [transitionAll, bind_eq_ok] at accepted
  obtain ⟨⟨candidates, middle⟩, loop, recognised⟩ := accepted
  suffices finished : Filed middle from filed_recognizeTreatments finished recognised
  have finished := foldlM_rest (fun rest state => (∀ finding ∈ rest, finding ∈ findings) ∧
    TransitionLoop reopened store rest state ∧ Filed state.2) ?_
    ⟨fun _ => id, transitionLoop_start members distinct, filed⟩ loop
  · exact finished.2.2
  · intro finding rest state next holds step
    obtain ⟨listed, waiting, stateFiled⟩ := holds
    have member := waiting.waiting finding (List.mem_cons_self ..)
    refine ⟨fun other later => listed other (List.mem_cons_of_mem _ later),
      transitionLoop_step waiting (spec finding (listed finding (List.mem_cons_self ..)) member) step,
      ?_⟩
    simp only [applyAll, bind_eq_ok] at step
    obtain ⟨⟨candidate, after⟩, accepted, result⟩ := step
    cases result
    exact kept ⟨stateFiled, member⟩ accepted

theorem filed_treat (filed : Filed store)
    (accepted : treat store opportunityId actor note = .ok (result, after)) : Filed after := by
  simp only [treat, bind_eq_ok, Store.locked_eq_ok] at accepted
  obtain ⟨finding, found, ⟨event, next, middle⟩, treated, last, recognised, result⟩ := accepted
  cases result
  exact filed_recognizeTreatments (filedWith_applyTreat (filedWith_locked filed found) treated).filed
    recognised

omit [CaseMapping] [AlphabetTable] in
theorem filed_reject (filed : Filed store) {opportunityId actor reason : String}
    (accepted : reject store opportunityId actor reason note = .ok (result, after)) :
    Filed after := by
  simp only [reject, bind_eq_ok, Store.locked_eq_ok] at accepted
  obtain ⟨-, -, finding, found, rejected⟩ := accepted
  exact (filedWith_applyReject (filedWith_locked filed found) rejected).filed

omit [CaseMapping] [AlphabetTable] in
theorem filed_reopen (filed : Filed store)
    (accepted : reopen store opportunityId actor note = .ok (result, after)) : Filed after := by
  simp only [reopen, bind_eq_ok, Store.locked_eq_ok] at accepted
  obtain ⟨finding, found, ⟨archived, next, last⟩, reopened, result⟩ := accepted
  cases result
  exact (filedWith_applyReopen (filedWith_locked filed found) reopened).filed

theorem filed_bulkTransition (filed : Filed store) {ids : List String} {actor action : String}
    {reason note : Option String}
    (accepted : bulkTransition store ids actor action reason note = .ok after) : Filed after := by
  have finish {named : LifecycleAction} (continued : (do
        let ordered ← orderedFindings store ids
        transitionAll (applyAction actor named reason note) store ordered actor) =
      (.ok after : Except ServiceError Store)) : Filed after := by
    simp only [bind_eq_ok] at continued
    obtain ⟨ordered, orderedOk, transitioned⟩ := continued
    obtain ⟨members, distinct⟩ := orderedFindings_eq_ok orderedOk
    exact filed_transitionAll filed (fun finding listed => (members finding listed).1) distinct
      (fun finding listed _ _ _ stored => applyAction_eq_ok stored (members finding listed).2)
      filed_applyAction transitioned
  unfold bulkTransition at accepted
  split at accepted
  · dsimp only at accepted
    split at accepted
    · rw [bind_eq_ok] at accepted
      obtain ⟨-, -, refused⟩ := accepted
      cases refused
    · cases accepted
  · dsimp only at accepted
    split at accepted
    · rw [bind_eq_ok] at accepted
      obtain ⟨-, -, continued⟩ := accepted
      exact finish continued
    · exact finish accepted

theorem filed_setLegacyStatus (filed : Filed store) {status : LegacyStatus}
    {reason note : Option String}
    (accepted : setLegacyStatus store opportunityId actor status reason note = .ok after) :
    Filed after := by
  simp only [setLegacyStatus, bind_eq_ok, Store.locked_eq_ok] at accepted
  obtain ⟨finding, found, transitioned⟩ := accepted
  have distinct : ([finding].map Finding.id).Nodup := List.nodup_singleton _
  refine filed_transitionAll filed (fun other listed => ?_) distinct
    (fun other listed _ _ _ stored => applyLegacyStatus_eq_ok stored (List.mem_map_of_mem listed))
    filed_applyLegacyStatus transitioned
  rw [List.mem_singleton.mp listed]
  exact (Table.find?_eq_some.mp found).1

theorem filed_bulkSetLegacyStatus (filed : Filed store) {ids : List String} {actor : String}
    {status : LegacyStatus} {reason note : Option String}
    (accepted : bulkSetLegacyStatus store ids actor status reason note = .ok after) :
    Filed after := by
  simp only [bulkSetLegacyStatus, bind_eq_ok] at accepted
  obtain ⟨ordered, orderedOk, transitioned⟩ := accepted
  obtain ⟨members, distinct⟩ := orderedFindings_eq_ok orderedOk
  exact filed_transitionAll filed (fun finding listed => (members finding listed).1) distinct
    (fun finding listed _ _ _ stored => applyLegacyStatus_eq_ok stored (members finding listed).2)
    filed_applyLegacyStatus transitioned

end Decisions

/-! ## Coverage passes -/

section Passes

variable [CaseMapping] [Digest] [UuidSource]

/-- A coverage run writes no column of the archive. -/
theorem archiveUntouched_upsert {pass : CoveragePass} {store after : Store}
    {draft : OpportunityDraft} {next : Finding} {action : UpsertAction}
    (accepted : upsert pass store draft = .ok (next, action, after)) :
    ArchiveUntouched store after := by
  simp only [upsert, bind_eq_ok] at accepted
  obtain ⟨fingerprint, -, rest⟩ := accepted
  split at rest
  · rename_i finding found
    cases rest
    exact archiveUntouched_put (Table.findUnique?_eq_some.mp found).1 rfl rfl
  · rename_i missing
    simp only [Store.draw] at rest
    split at rest
    · rename_i findings inserted
      cases rest
      exact ⟨Table.Evolves.insert SameArchive.refl inserted ⟨rfl, rfl⟩, rfl⟩
    · rw [missing] at rest
      cases rest

theorem archiveUntouched_applyRows {ρ : Type} {pass : CoveragePass}
    {verdict : ρ → Except ServiceError RowVerdict} {rows : List ρ} {state next : PassState}
    (applied : applyRows pass verdict rows state = .ok next) :
    ArchiveUntouched state.store next.store := by
  refine foldlM_invariant (fun current => ArchiveUntouched state.store current.store) ?_
    (ArchiveUntouched.refl state.store) applied
  intro row _ current following untouched step
  obtain ⟨given, -, written⟩ := bind_eq_ok.mp step
  cases given with
  | stale fingerprints =>
    cases written
    exact untouched
  | unknown fingerprints =>
    cases written
    exact untouched
  | conclusive drafts =>
    refine foldlM_invariant (fun later => ArchiveUntouched state.store later.store) ?_ untouched
      written
    intro draft _ later last holds observed
    simp only [observeDraft, bind_eq_ok] at observed
    obtain ⟨⟨finding, action, store⟩, upserted, result⟩ := observed
    cases result
    exact holds.trans (archiveUntouched_upsert upserted)

omit [CaseMapping] [Digest] [UuidSource] in
/-- A settlement writes no column of the archive. -/
theorem archiveUntouched_settle {settlement : Finding → Settlement}
    (conservative : Conservative settlement) (fingerprints : List String) (state : PassState) :
    ArchiveUntouched state.store
      (fingerprints.foldl (settleFingerprint settlement) state).store := by
  refine List.foldlRecOn
    (motive := fun (current : PassState) => ArchiveUntouched state.store current.store) _ _
    (ArchiveUntouched.refl state.store) fun current untouched fingerprint _ =>
      untouched.trans ?_
  unfold settleFingerprint
  split
  · exact ArchiveUntouched.refl current.store
  · rename_i finding found
    have rewritten := conservative finding
    have put := archiveUntouched_put (Table.findUnique?_eq_some.mp found).1 rewritten.subject
      rewritten.archiveState
    cases settled : settlement finding with
    | kept => exact ArchiveUntouched.refl current.store
    | resolved next =>
      rw [settled] at put
      exact put
    | uncertain next =>
      rw [settled] at put
      exact put

variable [GeneralFormat] [SystemClock]

theorem archiveUntouched_generate {settings : RdsReservationSettings} {tables : RdsTables}
    {store after : Store} {coverageRunId : Option ℤ} {now : Option Instant}
    {result : RdsReservationOpportunityResult}
    (accepted : generateRdsReservationOpportunities settings tables store coverageRunId now =
      .ok (result, after)) : ArchiveUntouched store after := by
  have passed {pass : CoveragePass} {start : Store}
      (passes : generatePass pass start = .ok (result, after)) : ArchiveUntouched start after := by
    simp only [generatePass, observeRows, bind_eq_ok] at passes
    obtain ⟨state, ⟨middle, coverage, utilization⟩, finished⟩ := passes
    cases finished
    refine ((archiveUntouched_applyRows coverage).trans
      (archiveUntouched_applyRows utilization)).trans ?_
    exact (archiveUntouched_settle (settleUncertain_conservative pass) _ _).trans
      (archiveUntouched_settle (settle_conservative pass) _ _)
  cases now with
  | some now =>
    simp only [generateRdsReservationOpportunities, bind_eq_ok] at accepted
    obtain ⟨run, -, generated⟩ := accepted
    exact passed generated
  | none =>
    simp only [generateRdsReservationOpportunities, bind_eq_ok] at accepted
    obtain ⟨run, -, generated⟩ := accepted
    have read : ArchiveUntouched store store.utcnow.2 := .of_findings rfl rfl
    exact read.trans (passed generated)

end Passes

/-! ## Runs -/

section Runs

variable [CaseMapping] [AlphabetTable] [Digest] [GeneralFormat] [UuidSource] [SystemClock]

omit [AlphabetTable] [GeneralFormat] in
/-- By cases on the operation of a collection. -/
theorem filed_collection {operation : CollectionOperation} {store after : Store}
    (filed : Filed store) (committed : OpportunityPresence.step operation store = .ok after) :
    Filed after := by
  cases operation with
  | beginRun provider accountId startedAt =>
    simp only [OpportunityPresence.step, Store.draw, bind_eq_ok] at committed
    obtain ⟨collectionRuns, -, result⟩ := committed
    cases result
    exact filed.congr rfl rfl
  | persistFindings scanId runId collected observedAt =>
    simp only [OpportunityPresence.step, bind_eq_ok] at committed
    obtain ⟨run, -, ⟨count, last⟩, accepted, result⟩ := committed
    cases result
    exact filed_persistFindings filed accepted
  | persistScopes runId rows =>
    simp only [OpportunityPresence.step, bind_eq_ok, findRun_eq_ok] at committed
    obtain ⟨run, -, ⟨persisted, last⟩, accepted, result⟩ := committed
    cases result
    obtain ⟨-, scopeExecutions, drawn, later, rfl⟩ :=
      persistCollectionScopeExecutions_eq_ok accepted
    exact filed.congr rfl rfl
  | reconcile runId rows missingThreshold =>
    have untouched := (collection_keeps (fun _ _ _ _ same => by cases same) committed).1
    simp only [OpportunityPresence.step, bind_eq_ok, findRun_eq_ok] at committed
    obtain ⟨run, -, guarded⟩ := committed
    split at guarded
    · simp only [bind_eq_ok] at guarded
      obtain ⟨⟨stats, last⟩, accepted, result⟩ := guarded
      cases result
      obtain ⟨-, mapped, findings, presenceHistory, rfl⟩ :=
        reconcileOpportunityPresence_eq_ok accepted
      have kept : ArchiveUntouched store { store with findings, presenceHistory } := by
        refine ⟨⟨fun finding member => ?_, fun next member => ?_⟩, rfl⟩
        · obtain ⟨next, nextMember, sameId, rewritten⟩ := untouched.carries finding member
          exact ⟨next, nextMember, sameId, rewritten.archiveState⟩
        · exact (untouched.fresh next member).imp id False.elim
      exact kept.filed filed
    · cases guarded
  | finishRun runId status finishedAt =>
    simp only [OpportunityPresence.step, bind_eq_ok] at committed
    obtain ⟨run, -, result⟩ := committed
    cases result
    exact filed.congr rfl rfl

/-- Every operation on opportunities keeps the archive filed. -/
theorem filed_perform {operation : Operation} {store after : Store} (filed : Filed store)
    (committed : OpportunityOperations.perform operation store = .ok after) : Filed after := by
  cases operation with
  | collection operation => exact filed_collection filed committed
  | observe scanId runId collected =>
    simp only [OpportunityOperations.perform, observeNow, bind_eq_ok] at committed
    obtain ⟨run, -, ⟨count, last⟩, accepted, result⟩ := committed
    cases result
    exact filed_persistFindings (filed_utcnow filed) accepted
  | coverageRun settings tables coverageRunId now =>
    obtain ⟨result, accepted⟩ := map_snd_eq_ok.mp committed
    exact (archiveUntouched_generate accepted).filed filed
  | retention settings now =>
    obtain ⟨result, accepted⟩ := map_snd_eq_ok.mp committed
    exact filed_retention filed accepted
  | archive opportunityId actor =>
    obtain ⟨result, accepted⟩ := map_snd_eq_ok.mp committed
    exact filed_archive filed accepted
  | unarchive opportunityId actor =>
    obtain ⟨result, accepted⟩ := map_snd_eq_ok.mp committed
    exact filed_unarchive filed accepted
  | bulkArchive opportunityIds actor =>
    obtain ⟨result, accepted⟩ := map_snd_eq_ok.mp committed
    exact filed_bulkArchive filed accepted
  | archiveByFilter filters actor archiveAll =>
    obtain ⟨result, accepted⟩ := map_snd_eq_ok.mp committed
    exact filed_archiveByFilterAs filed accepted
  | treat opportunityId actor note =>
    obtain ⟨result, accepted⟩ := map_snd_eq_ok.mp committed
    exact filed_treat filed accepted
  | reject opportunityId actor reason note =>
    obtain ⟨result, accepted⟩ := map_snd_eq_ok.mp committed
    exact filed_reject filed accepted
  | reopen opportunityId actor note =>
    obtain ⟨result, accepted⟩ := map_snd_eq_ok.mp committed
    exact filed_reopen filed accepted
  | bulkTransition opportunityIds actor action reason note =>
    exact filed_bulkTransition filed committed
  | setLegacyStatus opportunityId actor status reason note =>
    exact filed_setLegacyStatus filed committed
  | bulkSetLegacyStatus opportunityIds actor status reason note =>
    exact filed_bulkSetLegacyStatus filed committed
  | cleanup summaries request =>
    obtain ⟨result, accepted⟩ := map_snd_eq_ok.mp committed
    obtain ⟨collectionRuns, observations, -, rfl⟩ := cleanupObservations_eq_ok accepted
    exact filed.congr rfl rfl

variable [DocumentRuntime] [TimeZones]

/-- The operations of a history. Those elsewhere do not write the archive history. -/
def performArchiving (operation : HistoryOperation) (store : HistoryStore) :
    Except ServiceError HistoryStore :=
  match operation with
  | .elsewhere others =>
    SnapshotHistories.perform
      (.elsewhere { others with archiveHistory := store.records.archiveHistory }) store
  | operation => SnapshotHistories.perform operation store

variable {store : HistoryStore} {result : HistoryStore × OpportunityHistoryCycle}
  {policy : OpportunityManagementPolicy}

omit [CaseMapping] [AlphabetTable] [Digest] [GeneralFormat] [SystemClock] [DocumentRuntime]
  [TimeZones] in
theorem filed_createCycle (filed : Filed store.records) {start stop : Instant}
    {label timezone : String} {policy : Option OpportunityManagementPolicy}
    (created : createCycle store start stop label timezone policy = .ok result) :
    Filed result.1.records := by
  obtain ⟨next, cycle⟩ := result
  obtain ⟨-, -, records, -⟩ := createCycle_eq_ok created
  exact records ▸ filed.congr rfl rfl

omit [CaseMapping] [AlphabetTable] [Digest] [GeneralFormat] [SystemClock] [DocumentRuntime] in
theorem filed_getOrCreateCycleFor (filed : Filed store.records) {timestamp : Instant}
    (done : getOrCreateCycleFor store policy timestamp = .ok result) :
    Filed result.1.records := by
  simp only [getOrCreateCycleFor] at done
  split at done
  · cases done
    exact filed
  · obtain ⟨⟨start, stop, label⟩, -, created⟩ := bind_eq_ok.mp done
    simp only at created
    split at created
    · cases created
      exact filed
    · exact filed_createCycle filed created

omit [CaseMapping] [AlphabetTable] [Digest] [GeneralFormat] [SystemClock] [DocumentRuntime] in
theorem filed_ensureNextCycle (filed : Filed store.records) {previous : OpportunityHistoryCycle}
    (done : ensureNextCycle store previous policy = .ok result) : Filed result.1.records := by
  simp only [ensureNextCycle] at done
  split at done
  · cases done
    exact filed
  · obtain ⟨bounds, -, created⟩ := bind_eq_ok.mp done
    exact filed_createCycle filed created

omit [AlphabetTable] [Digest] [GeneralFormat] [TimeZones] in
/-- A close draws identifiers and reads the clock. -/
theorem filed_closeCycle (filed : Filed store.records) {cycleId : String} {actor : Option String}
    {reason : CloseReason} (done : closeCycle store cycleId actor reason = .ok result) :
    Filed result.1.records := by
  simp only [closeCycle] at done
  split at done
  · exact absurd done throw_ne_ok
  · split at done
    · cases done
      exact filed
    · split at done
      · exact absurd done throw_ne_ok
      · split at done
        · exact absurd done throw_ne_ok
        · obtain ⟨written, added, last⟩ := bind_eq_ok.mp done
          obtain ⟨rows, drawn, -, -, -, records⟩ := addSnapshots_eq_ok added
          cases last
          have kept : Filed written.records := records ▸ filed.congr rfl rfl
          exact kept

omit [AlphabetTable] [Digest] [GeneralFormat] in
theorem filed_autoCloseDueCycles (filed : Filed store.records) {now : Instant}
    {result : HistoryStore × AutoCloseResult}
    (done : autoCloseDueCycles store policy now = .ok result) : Filed result.1.records := by
  unfold autoCloseDueCycles at done
  split at done
  · cases done
    exact filed
  · refine foldlM_invariant (fun state : HistoryStore × AutoCloseResult => Filed state.1.records)
      (fun cycle _ state next holds step => ?_) filed done
    obtain ⟨current, counted⟩ := state
    simp only [closeDueCycle] at step
    split at step
    · cases step
      exact holds
    · obtain ⟨⟨written, closed⟩, closes, rest⟩ := bind_eq_ok.mp step
      obtain ⟨⟨ensured, successor⟩, ensures, last⟩ := bind_eq_ok.mp rest
      cases last
      have closing : Filed written.records := filed_closeCycle holds closes
      exact filed_ensureNextCycle closing ensures

omit [AlphabetTable] [Digest] [GeneralFormat] [TimeZones] in
/-- The closing leaves the archive, and the bulk keeps it filed. -/
theorem filed_closePeriodAndArchive (filed : Filed store.records) {cycleId actor : String}
    {filters : OpportunityFilters} {archiveAll : Bool} {result : PeriodCloseResult × HistoryStore}
    (done : closePeriodAndArchive store cycleId filters archiveAll actor = .ok result) :
    Filed result.2.records := by
  simp only [closePeriodAndArchive] at done
  obtain ⟨-, -, done⟩ := bind_eq_ok.mp done
  split at done
  · exact absurd done throw_ne_ok
  · split at done
    · exact absurd done throw_ne_ok
    · split at done
      · exact absurd done throw_ne_ok
      · obtain ⟨⟨written, closed⟩, closes, rest⟩ := bind_eq_ok.mp done
        obtain ⟨⟨archive, records⟩, archives, last⟩ := bind_eq_ok.mp rest
        cases last
        have closing : Filed written.records := filed_closeCycle filed closes
        exact filed_archiveByFilterAs closing archives

/-- Every operation of a history keeps the archive filed. -/
theorem filed_performArchiving {operation : HistoryOperation} {store after : HistoryStore}
    (filed : Filed store.records) (done : performArchiving operation store = .ok after) :
    Filed after.records := by
  cases operation with
  | create periodStart periodEnd label timezone =>
    obtain ⟨result, created, rfl⟩ := map_eq_ok.mp done
    exact filed_createCycle filed created
  | current policy timestamp =>
    obtain ⟨result, created, rfl⟩ := map_eq_ok.mp done
    exact filed_getOrCreateCycleFor filed created
  | close cycleId actor reason =>
    obtain ⟨result, closed, rfl⟩ := map_eq_ok.mp done
    exact filed_closeCycle filed closed
  | closePeriod cycleId filters archiveAll actor =>
    obtain ⟨result, closed, rfl⟩ := map_eq_ok.mp done
    exact filed_closePeriodAndArchive filed closed
  | succeed cycleId policy =>
    simp only [performArchiving, SnapshotHistories.perform] at done
    split at done
    · cases done
    · obtain ⟨result, ensured, rfl⟩ := map_eq_ok.mp done
      exact filed_ensureNextCycle filed ensured
  | adopt policy =>
    cases done
    exact filed
  | autoClose policy now =>
    obtain ⟨result, closed, rfl⟩ := map_eq_ok.mp done
    exact filed_autoCloseDueCycles filed closed
  | record operation =>
    obtain ⟨records, committed, result⟩ := bind_eq_ok.mp done
    cases result
    exact filed_perform filed committed
  | elsewhere others =>
    cases done
    exact filed.congr rfl rfl

omit [CaseMapping] [AlphabetTable] [Digest] [GeneralFormat] [UuidSource] [SystemClock]
  [DocumentRuntime] [TimeZones] in
/-- The events of any opportunity alternate, known or not. -/
theorem Filed.alternates {store : Store} (filed : Filed store) (opportunityId : String) :
    AlternatesFrom .archive (actionsOf store.archiveHistory opportunityId) := by
  by_cases known : ∃ finding ∈ store.findings.rows, finding.id = opportunityId
  · obtain ⟨finding, member, rfl⟩ := known
    exact (filed.wellFiled finding member).alternates
  · have none : actionsOf store.archiveHistory opportunityId = [] := by
      rw [actionsOf, List.map_eq_nil_iff, List.filter_eq_nil_iff]
      intro event member own
      obtain ⟨finding, findingMember, owner⟩ := filed.known event member
      exact known ⟨finding, findingMember, owner.trans (by simpa using own)⟩
    rw [none]
    trivial

/-- On every run the archive history of an opportunity alternates, beginning with an
archive, and either archive column is filled exactly while its last action is an
archive. -/
theorem archive_histories_alternate (operations : List HistoryOperation) :
    let store := (stateAfter performArchiving HistoryStore.empty operations).records
    (∀ opportunityId, AlternatesFrom .archive (actionsOf store.archiveHistory opportunityId)) ∧
      ∀ finding ∈ store.findings.rows,
        [finding.archivedAt.isSome = true, finding.archiveReason.isSome = true,
          (actionsOf store.archiveHistory finding.id).getLast? = some .archive].TFAE := by
  intro store
  have filed : Filed store := stateAfter_invariant (fun state => Filed state.records) empty_filed
    fun operation _ state after holds done => filed_performArchiving holds done
  refine ⟨filed.alternates, fun finding member => ?_⟩
  have own := filed.wellFiled finding member
  tfae_have 1 ↔ 3 := own.archivedAt
  tfae_have 2 ↔ 3 := own.archiveReason
  tfae_finish

end Runs

end FinopsAnalytics.ArchiveHistories
