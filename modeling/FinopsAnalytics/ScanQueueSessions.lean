import FinopsAnalytics.ScanQueue
import FinopsAnalytics.SharedTables

/-!
# Sessions on the queue of scans

Requests, scheduler passes and workers change the queue in transactions of their
own. A writer looks for an active scan of the account among the committed rows and
its own, inserts its scan where it finds none, and commits later. A claim locks
its scan, skipping those that others have locked. Each step is one statement of a
session, or a commit, and the steps of the sessions come in any order.
-/

namespace FinopsAnalytics.ScanQueueSessions

open PythonText UniqueTables OpportunityRecords SharedTables ScanQueue Fallible DistinctKeys

/-- Where a session stands. -/
inductive QueueTask where
  | idle
  | queued
  | passing (now : Instant) (due advanced : List CollectionAccount)
  | claiming (scan : Scan)
  | working (scanId : String)

/-- The accounts and the queue, with the sessions that work on them. -/
structure QueueState (σ : Type) where
  accounts : List CollectionAccount
  scans : SharedTable σ Scan.id Scan.id
  locks : List (String × σ)
  tasks : σ → QueueTask

/-- How a scan ends. -/
inductive ScanOutcome where
  | completed | completedWithWarnings | failed

def ScanOutcome.status : ScanOutcome → ScanStatus
  | .completed => .completed
  | .completedWithWarnings => .completedWithWarnings
  | .failed => .failed

/-- The steps of the sessions. Accounts are edited at any time. -/
inductive QueueAction (σ : Type) where
  | editAccounts (accounts : List CollectionAccount)
  | requestManual (session : σ) (cloudAccountId : ℤ) (trigger id : String) (createdAt : Instant)
  | beginPass (session : σ) (now : Instant)
  | lookAt (session : σ) (id : String) (createdAt : Instant)
  | claim (session : σ) (startedAt failedAt : Instant)
  | complete (session : σ) (outcome : ScanOutcome) (completedAt : Instant) (findingsCount : ℕ)
  | commit (session : σ)
  | rollback (session : σ)

section Steps

variable {σ : Type} [DecidableEq σ]

namespace QueueState

def setTask (state : QueueState σ) (session : σ) (task : QueueTask) : QueueState σ :=
  { state with tasks := Function.update state.tasks session task }

/-- The transaction of a session is given up. -/
def rollback (state : QueueState σ) (session : σ) : QueueState σ :=
  { state.setTask session .idle with
    scans := state.scans.rollback session
    locks := state.locks.filter fun lock => lock.2 ≠ session }

/-- `db.add(scan)` and `db.flush()` -/
def insert (state : QueueState σ) (session : σ) (scan : Scan) (task : QueueTask) :
    QueueState σ :=
  match state.scans.insertRow session scan with
  | .inserted scans => { state with scans }.setTask session task
  | .violated => state.rollback session
  | .waits => state

/-- The schedule is written for the accounts of a pass. -/
def writeSchedule (accounts advanced : List CollectionAccount) : List CollectionAccount :=
  accounts.map fun account =>
    match advanced.find? (·.id = account.id) with
    | some next => { account with nextScanAt := next.nextScanAt }
    | none => account

/-- `db.commit()`, after the statements of the transaction. -/
def commit (state : QueueState σ) (session : σ) : QueueState σ :=
  match state.tasks session with
  | .queued => { state.setTask session .idle with scans := state.scans.commit session }
  | .passing _ [] advanced =>
    { state.setTask session .idle with
      accounts := writeSchedule state.accounts advanced
      scans := state.scans.commit session }
  | .claiming scan =>
    { state.setTask session (if scan.status = .running then .working scan.id else .idle) with
      scans := state.scans.put ⟨scan, none⟩
      locks := state.locks.filter fun lock => lock.2 ≠ session }
  | .idle | .passing _ (_ :: _) _ | .working _ => state

/-- The last transaction of a worker on its scan; it waits for a lock of another. -/
def complete (state : QueueState σ) (session : σ) (outcome : ScanOutcome)
    (completedAt : Instant) (findingsCount : ℕ) : QueueState σ :=
  match state.tasks session with
  | .working scanId =>
    match state.scans.committed.find? (·.id = scanId) with
    | some scan =>
      if state.locks.any fun lock => lock.1 = scanId then state
      else
        { state.setTask session .idle with
          scans := state.scans.put
            ⟨{ scan with
                status := outcome.status, completedAt := some completedAt, findingsCount }, none⟩ }
    | none => state.setTask session .idle
  | _ => state

variable [CaseMapping]

/-- `claim_scan`, up to its commit. -/
def claim (state : QueueState σ) (session : σ) (startedAt failedAt : Instant) : QueueState σ :=
  match state.tasks session, nextPending state.scans.committed (state.locks.map Prod.fst) with
  | .idle, some scan =>
    let account := state.accounts.find? (·.id = scan.cloudAccountId)
    { state.setTask session (.claiming (claimed account scan startedAt failedAt)) with
      locks := (scan.id, session) :: state.locks }
  | _, _ => state

/-- `queue_manual_collection`; a refused request is rolled back. -/
def requestManual (state : QueueState σ) (session : σ) (cloudAccountId : ℤ)
    (trigger id : String) (createdAt : Instant) : QueueState σ :=
  match state.tasks session, state.accounts.find? (·.id = cloudAccountId) with
  | .idle, some account =>
    match queueManualCollection (state.scans.visible session) account trigger id createdAt with
    | .ok scan => state.insert session scan .queued
    | .error _ => state
  | _, _ => state

/-- `enqueue_due_scans` selects its accounts. -/
def beginPass (state : QueueState σ) (session : σ) (now : Instant) : QueueState σ :=
  match state.tasks session with
  | .idle => state.setTask session (.passing now (dueAccounts state.accounts now) [])
  | _ => state

/-- `enqueue_due_scans` takes its next account. -/
def lookAt (state : QueueState σ) (session : σ) (id : String) (createdAt : Instant) :
    QueueState σ :=
  match state.tasks session with
  | .passing now (account :: due) advanced =>
    let next := .passing now due (advanced ++ [advancedSchedule account now])
    match scheduledScan (state.scans.visible session) account id createdAt with
    | some scan => state.insert session scan next
    | none => state.setTask session next
  | _ => state

end QueueState

variable [CaseMapping]

/-- One step of a session. -/
def queueStep (state : QueueState σ) : QueueAction σ → QueueState σ
  | .editAccounts accounts => { state with accounts }
  | .requestManual session cloudAccountId trigger id createdAt =>
    state.requestManual session cloudAccountId trigger id createdAt
  | .beginPass session now => state.beginPass session now
  | .lookAt session id createdAt => state.lookAt session id createdAt
  | .claim session startedAt failedAt => state.claim session startedAt failedAt
  | .complete session outcome completedAt findingsCount =>
    state.complete session outcome completedAt findingsCount
  | .commit session => state.commit session
  | .rollback session => state.rollback session

/-- The steps of a run, in their order. -/
def queueRun (state : QueueState σ) (actions : List (QueueAction σ)) : QueueState σ :=
  actions.foldl queueStep state

end Steps

section Exclusivity

variable {σ : Type}

/-- At most one scan of an account is pending or running. -/
def Exclusive (scans : List Scan) : Prop :=
  ∀ cloudAccountId, (scans.filter (·.activeFor cloudAccountId)).length ≤ 1

theorem activeFor_iff {scan : Scan} {cloudAccountId : ℤ} :
    scan.activeFor cloudAccountId = true ↔
      scan.cloudAccountId = cloudAccountId ∧ scan.status.isActive = true := by
  simp [Scan.activeFor]

theorem nodup_committed (table : SharedTable σ Scan.id Scan.id) : table.committed.Nodup := by
  have distinct : (table.committed.map Scan.id).Nodup := by
    rw [SharedTable.committed, List.map_map]
    exact (List.filter_sublist.map _).nodup table.distinctKeys
  exact distinct.of_map _

variable {table : SharedTable σ Scan.id Scan.id}

/-- Scans of one identifier in a table are one row. -/
theorem version_eq {first second : Scan} {writer other : Option σ}
    (firstMember : ⟨first, writer⟩ ∈ table.rows) (secondMember : ⟨second, other⟩ ∈ table.rows)
    (same : first.id = second.id) :
    first = second ∧ writer = other := by
  have rows_eq := table.eq_of_key firstMember secondMember same
  cases rows_eq
  exact ⟨rfl, rfl⟩

/-- Two active scans of an account are the same scan. -/
theorem exclusive_iff :
    Exclusive table.committed ↔
      ∀ cloudAccountId first second, ⟨first, none⟩ ∈ table.rows → ⟨second, none⟩ ∈ table.rows →
        first.activeFor cloudAccountId = true → second.activeFor cloudAccountId = true →
          first = second := by
  constructor
  · intro exclusive cloudAccountId first second firstMember secondMember firstActive secondActive
    have firstListed : first ∈ table.committed.filter (·.activeFor cloudAccountId) :=
      List.mem_filter.mpr ⟨SharedTable.mem_committed.mpr firstMember, firstActive⟩
    have secondListed : second ∈ table.committed.filter (·.activeFor cloudAccountId) :=
      List.mem_filter.mpr ⟨SharedTable.mem_committed.mpr secondMember, secondActive⟩
    rcases Nat.le_one_iff_eq_zero_or_eq_one.mp (exclusive cloudAccountId) with none | one
    · rw [List.length_eq_zero_iff.mp none] at firstListed
      cases firstListed
    · obtain ⟨only, listed⟩ := List.length_eq_one_iff.mp one
      rw [listed, List.mem_singleton] at firstListed secondListed
      rw [firstListed, secondListed]
  · intro same cloudAccountId
    have distinct := (nodup_committed table).filter (·.activeFor cloudAccountId)
    cases shape : table.committed.filter (·.activeFor cloudAccountId) with
    | nil => simp
    | cons first rest =>
      cases rest with
      | nil => simp
      | cons second others =>
        have listed {scan : Scan} (member : scan ∈ first :: second :: others) :
            ⟨scan, none⟩ ∈ table.rows ∧ scan.activeFor cloudAccountId = true := by
          rw [← shape] at member
          obtain ⟨stored, active⟩ := List.mem_filter.mp member
          exact ⟨SharedTable.mem_committed.mp stored, active⟩
        obtain ⟨firstStored, firstActive⟩ := listed (List.mem_cons_self ..)
        obtain ⟨secondStored, secondActive⟩ :=
          listed (List.mem_cons_of_mem _ (List.mem_cons_self ..))
        have equal := same cloudAccountId first second firstStored secondStored firstActive
          secondActive
        rw [shape, equal] at distinct
        exact absurd (List.mem_cons_self ..) (List.nodup_cons.mp distinct).1

/-- No scan of the account is active where the query finds none. -/
theorem activeScan_eq_none {scans : List Scan} {cloudAccountId : ℤ} :
    activeScan scans cloudAccountId = none ↔
      ∀ scan ∈ scans, scan.activeFor cloudAccountId = false := by
  simp [activeScan]

/-- Replacing a scan keeps the exclusivity where the new one is active only for an
account for which the replaced one was. -/
theorem Exclusive.put (exclusive : Exclusive table.committed) {scan next : Scan}
    (member : ⟨scan, none⟩ ∈ table.rows) (same : scan.id = next.id)
    (active : ∀ cloudAccountId, next.activeFor cloudAccountId = true →
      scan.activeFor cloudAccountId = true) :
    Exclusive (SharedTable.committed (table.put ⟨next, none⟩)) := by
  rw [exclusive_iff] at exclusive ⊢
  intro cloudAccountId first second firstMember secondMember firstActive secondActive
  have replaced {row : Scan} (stored : (⟨row, none⟩ : Version Scan σ) ∈
      (table.put ⟨next, none⟩).rows) :
      row = next ∨ ⟨row, none⟩ ∈ table.rows ∧ row.id ≠ next.id := by
    rcases (Table.mem_put member same same).mp stored with new | old
    · cases new
      exact Or.inl rfl
    · exact Or.inr old
  rcases replaced firstMember with rfl | ⟨firstStored, firstOther⟩ <;>
    rcases replaced secondMember with rfl | ⟨secondStored, secondOther⟩
  · rfl
  · have equal := exclusive cloudAccountId scan second member secondStored
      (active cloudAccountId firstActive) secondActive
    exact absurd (equal ▸ same) secondOther
  · have equal := exclusive cloudAccountId scan first member firstStored
      (active cloudAccountId secondActive) firstActive
    exact absurd (equal ▸ same) firstOther
  · exact exclusive cloudAccountId first second firstStored secondStored firstActive secondActive

/-- With fewer committed scans there are fewer active ones. -/
theorem Exclusive.mono {before after : SharedTable σ Scan.id Scan.id}
    (exclusive : Exclusive before.committed)
    (kept : ∀ scan, ⟨scan, none⟩ ∈ after.rows → ⟨scan, none⟩ ∈ before.rows) :
    Exclusive after.committed := by
  rw [exclusive_iff] at exclusive ⊢
  intro cloudAccountId first second firstMember secondMember
  exact exclusive cloudAccountId first second (kept first firstMember) (kept second secondMember)

end Exclusivity

section Writers

variable [CaseMapping]

variable {scans : List Scan}

/-- A request queues a pending scan of the account where it sees no active one. -/
theorem queueManualCollection_eq_ok {account : CollectionAccount} {trigger id : String}
    {createdAt : Instant} {scan : Scan}
    (queued : queueManualCollection scans account trigger id createdAt = .ok scan) :
    scan.status = .pending ∧ scan.cloudAccountId = account.id ∧
      activeScan scans account.id = none := by
  unfold queueManualCollection at queued
  obtain ⟨-, -, queued⟩ := bind_eq_ok.mp queued
  by_cases disabled : account.enabled = true
  · rw [disabled] at queued
    obtain ⟨executor, -, queued⟩ := bind_eq_ok.mp queued
    obtain ⟨preparation, -, queued⟩ := bind_eq_ok.mp queued
    by_cases found : (activeScan scans account.id).isSome = true
    · rw [if_pos found] at queued
      cases queued
    · rw [if_neg found] at queued
      cases queued
      exact ⟨rfl, rfl, Option.not_isSome_iff_eq_none.mp found⟩
  · rw [Bool.not_eq_true] at disabled
    rw [disabled] at queued
    cases queued

omit [CaseMapping] in
theorem scheduledScan_eq_some {account : CollectionAccount} {id : String} {createdAt : Instant}
    {scan : Scan} (queued : scheduledScan scans account id createdAt = some scan) :
    scan.status = .pending ∧ scan.cloudAccountId = account.id ∧
      activeScan scans account.id = none := by
  unfold scheduledScan at queued
  split at queued
  · cases queued
  · rename_i absent
    cases queued
    exact ⟨rfl, rfl, absent⟩

omit [CaseMapping] in
theorem nextPending_eq_some {locked : List String} {scan : Scan}
    (found : nextPending scans locked = some scan) :
    scan ∈ scans ∧ scan.status = .pending ∧ scan.id ∉ locked := by
  have member := List.mem_of_find?_eq_some found
  have free := List.find?_some found
  rw [mem_sortByKey, List.mem_filter, decide_eq_true_eq] at member
  exact ⟨member.1, member.2, of_decide_eq_true free⟩

/-- A claim keeps the identifier and the account of its scan. -/
theorem claimed_subject (account : Option CollectionAccount) (scan : Scan)
    (startedAt failedAt : Instant) :
    (claimed account scan startedAt failedAt).id = scan.id ∧
      (claimed account scan startedAt failedAt).cloudAccountId = scan.cloudAccountId := by
  unfold claimed
  split <;> exact ⟨rfl, rfl⟩

end Writers

section Invariant

variable {σ : Type}

/-- The invariant of the sessions. What a session has inserted is pending, one scan
for an account, and a session that claims a scan holds its lock, so that the scan
stays pending. -/
structure Sound (state : QueueState σ) : Prop where
  pending : ∀ scan session, ⟨scan, some session⟩ ∈ state.scans.rows → scan.status = .pending
  single : ∀ session first second, ⟨first, some session⟩ ∈ state.scans.rows →
    ⟨second, some session⟩ ∈ state.scans.rows →
      first.cloudAccountId = second.cloudAccountId → first = second
  claims : ∀ session scan, state.tasks session = .claiming scan →
    (scan.id, session) ∈ state.locks ∧ ∃ stored, ⟨stored, none⟩ ∈ state.scans.rows ∧
      stored.id = scan.id ∧ stored.cloudAccountId = scan.cloudAccountId ∧
        stored.status = .pending
  locks : ∀ id first second, (id, first) ∈ state.locks → (id, second) ∈ state.locks →
    first = second

/-- No session has begun and every scan is committed. -/
structure Resting (state : QueueState σ) : Prop where
  committed : ∀ version ∈ state.scans.rows, version.writer = none
  unlocked : state.locks = []
  idle : ∀ session, state.tasks session = .idle

theorem Resting.sound {state : QueueState σ} (resting : Resting state) : Sound state where
  pending _ _ member := nomatch resting.committed _ member
  single _ _ _ member := nomatch resting.committed _ member
  claims session _ current := by
    rw [resting.idle session] at current
    cases current
  locks _ _ _ held := by
    rw [resting.unlocked] at held
    cases held

variable [DecidableEq σ]

variable {state : QueueState σ}

/-- A new task that is no claim. -/
theorem Sound.setTask (sound : Sound state) (session : σ) (task : QueueTask)
    (other : ∀ scan, task ≠ .claiming scan) :
    Sound (state.setTask session task) := by
  refine ⟨sound.pending, sound.single, fun owner scan current => ?_, sound.locks⟩
  by_cases same : owner = session
  · subst same
    simp only [QueueState.setTask, Function.update_self] at current
    exact absurd current (other scan)
  · refine sound.claims owner scan ?_
    simpa [QueueState.setTask, same] using current

/-- A rollback drops what the session wrote. -/
theorem Sound.rollback (sound : Sound state) (session : σ) :
    Sound (state.rollback session) := by
  have idle : Sound (state.setTask session .idle) := sound.setTask session .idle (by simp)
  constructor
  · intro scan owner member
    exact sound.pending scan owner (SharedTable.open_of_rollback.mp member).2
  · intro owner first second firstMember secondMember
    exact sound.single owner first second (SharedTable.open_of_rollback.mp firstMember).2
      (SharedTable.open_of_rollback.mp secondMember).2
  · intro owner scan current
    obtain ⟨held, stored, member, rest⟩ := idle.claims owner scan current
    have foreign : owner ≠ session := by
      rintro rfl
      simp [QueueState.rollback, QueueState.setTask] at current
    refine ⟨List.mem_filter.mpr ⟨held, by simpa using foreign⟩, stored, ?_, rest⟩
    exact SharedTable.committed_of_rollback.mpr member
  · intro id first second firstHeld secondHeld
    exact sound.locks id first second (List.mem_filter.mp firstHeld).1
      (List.mem_filter.mp secondHeld).1

/-- A pending scan is inserted where the session sees no active one of its account. -/
theorem Sound.insert (sound : Sound state) {session : σ} {scan : Scan} {task : QueueTask}
    (other : ∀ scan, task ≠ .claiming scan) (pending : scan.status = .pending)
    (absent : activeScan (state.scans.visible session) scan.cloudAccountId = none) :
    Sound (state.insert session scan task) := by
  unfold QueueState.insert
  split
  · rename_i scans inserted
    have rows := SharedTable.rows_of_insertRow inserted
    have free {own : Scan} (member : ⟨own, some session⟩ ∈ state.scans.rows) :
        own.cloudAccountId ≠ scan.cloudAccountId := by
      intro same
      have inactive := activeScan_eq_none.mp absent own
        (SharedTable.mem_visible.mpr (Or.inr member))
      rw [← same] at inactive
      simp [Scan.activeFor, sound.pending own session member, ScanStatus.isActive] at inactive
    have origin {row : Scan} {owner : σ} (member : ⟨row, some owner⟩ ∈ scans.rows) :
        ⟨row, some owner⟩ ∈ state.scans.rows ∨ row = scan ∧ owner = session := by
      rw [rows] at member
      rcases List.mem_append.mp member with stored | appended
      · exact Or.inl stored
      · cases List.mem_singleton.mp appended
        exact Or.inr ⟨rfl, rfl⟩
    have grown : Sound { state with scans } := by
      refine ⟨fun row owner member => ?_, fun owner first second firstMember secondMember same =>
        ?_, fun owner row current => ?_, sound.locks⟩
      · rcases origin member with stored | ⟨rfl, -⟩
        · exact sound.pending row owner stored
        · exact pending
      · rcases origin firstMember with firstStored | ⟨rfl, rfl⟩ <;>
          rcases origin secondMember with secondStored | ⟨rfl, ownerEq⟩
        · exact sound.single owner first second firstStored secondStored same
        · exact absurd same (free (ownerEq ▸ firstStored))
        · exact absurd same.symm (free secondStored)
        · rfl
      · obtain ⟨held, stored, member, rest⟩ := sound.claims owner row current
        refine ⟨held, stored, ?_, rest⟩
        change _ ∈ scans.rows
        rw [rows]
        exact List.mem_append_left _ member
    exact grown.setTask session task other
  · exact sound.rollback session
  · exact sound

omit [DecidableEq σ] in
/-- A scan is replaced that no session has locked. -/
theorem Sound.replace (sound : Sound state) {scan : Scan} (next : Scan)
    (member : ⟨scan, none⟩ ∈ state.scans.rows) (same : scan.id = next.id)
    (free : ∀ session claim, state.tasks session = .claiming claim → claim.id ≠ next.id) :
    Sound { state with scans := state.scans.put ⟨next, none⟩ } := by
  have origin {row : Scan} {owner : σ}
      (stored : ⟨row, some owner⟩ ∈ (Table.put state.scans ⟨next, none⟩).rows) :
      ⟨row, some owner⟩ ∈ state.scans.rows := by
    rcases (Table.mem_put member same same).mp stored with new | old
    · cases new
    · exact old.1
  refine ⟨fun row owner stored => sound.pending row owner (origin stored),
    fun owner first second firstMember secondMember =>
      sound.single owner first second (origin firstMember) (origin secondMember),
    fun owner claim current => ?_, sound.locks⟩
  obtain ⟨held, stored, storedMember, sameId, rest⟩ := sound.claims owner claim current
  refine ⟨held, stored, ?_, sameId, rest⟩
  exact (Table.mem_put member same same).mpr
    (Or.inr ⟨storedMember, fun equal => free owner claim current (sameId.symm.trans equal)⟩)

/-- A completed scan was running for its session only. -/
theorem Sound.complete (sound : Sound state) (session : σ) (outcome : ScanOutcome)
    (completedAt : Instant) (findingsCount : ℕ) :
    Sound (state.complete session outcome completedAt findingsCount) := by
  unfold QueueState.complete
  split
  · rename_i scanId current
    split
    · rename_i scan found
      by_cases locked : (state.locks.any fun lock => lock.1 = scanId) = true
      · rw [if_pos locked]
        exact sound
      · rw [if_neg locked]
        have member := SharedTable.mem_committed.mp (List.mem_of_find?_eq_some found)
        have scanId_eq : scan.id = scanId := by simpa using List.find?_some found
        have replaced := sound.replace
          { scan with status := outcome.status, completedAt := some completedAt, findingsCount }
          member rfl fun owner claim claiming equal => locked (List.any_eq_true.mpr
            ⟨_, (sound.claims owner claim claiming).1, by simpa [scanId_eq] using equal⟩)
        exact replaced.setTask session .idle (by simp)
    · exact sound.setTask session .idle (by simp)
  · exact sound

/-- A claim locks its scan, so no other session has it. -/
theorem Sound.claim [CaseMapping] (sound : Sound state) (session : σ) (startedAt failedAt : Instant) :
    Sound (state.claim session startedAt failedAt) := by
  unfold QueueState.claim
  split
  · rename_i scan idle found
    obtain ⟨member, pending, unlocked⟩ := nextPending_eq_some found
    have free {owner : σ} : (scan.id, owner) ∉ state.locks := fun held =>
      unlocked (List.mem_map.mpr ⟨_, held, rfl⟩)
    obtain ⟨sameId, sameAccount⟩ := claimed_subject
      (state.accounts.find? (·.id = scan.cloudAccountId)) scan startedAt failedAt
    refine ⟨sound.pending, sound.single, fun owner claim current => ?_, ?_⟩
    · by_cases own : owner = session
      · subst own
        simp only [QueueState.setTask, Function.update_self, QueueTask.claiming.injEq] at current
        subst current
        refine ⟨by rw [sameId]; exact List.mem_cons_self .., scan,
          SharedTable.mem_committed.mp member, sameId.symm, sameAccount.symm, pending⟩
      · have earlier : state.tasks owner = .claiming claim := by
          simpa [QueueState.setTask, own] using current
        obtain ⟨held, rest⟩ := sound.claims owner claim earlier
        exact ⟨List.mem_cons_of_mem _ held, rest⟩
    · intro id first second firstHeld secondHeld
      rcases List.mem_cons.mp firstHeld with firstNew | firstOld <;>
        rcases List.mem_cons.mp secondHeld with secondNew | secondOld
      · cases firstNew
        cases secondNew
        rfl
      · cases firstNew
        exact absurd secondOld free
      · cases secondNew
        exact absurd firstOld free
      · exact sound.locks id first second firstOld secondOld
  · exact sound

/-- The scans of a session are committed. -/
theorem Sound.commitScans (sound : Sound state) (session : σ) :
    Sound { state with scans := state.scans.commit session } := by
  refine ⟨fun row owner member => ?_, fun owner first second firstMember secondMember => ?_,
    fun owner claim current => ?_, sound.locks⟩
  · exact sound.pending row owner (SharedTable.open_of_commit.mp member).2
  · exact sound.single owner first second (SharedTable.open_of_commit.mp firstMember).2
      (SharedTable.open_of_commit.mp secondMember).2
  · obtain ⟨held, stored, member, rest⟩ := sound.claims owner claim current
    exact ⟨held, stored, SharedTable.committed_of_commit.mpr (Or.inl member), rest⟩

/-- A commit publishes what the session wrote. -/
theorem Sound.commit (sound : Sound state) (session : σ) :
    Sound (state.commit session) := by
  unfold QueueState.commit
  split
  · exact (sound.commitScans session).setTask session .idle (by simp)
  · have committed := (sound.commitScans session).setTask session .idle (by simp)
    exact ⟨committed.pending, committed.single, committed.claims, committed.locks⟩
  · rename_i scan current
    obtain ⟨held, stored, member, sameId, -⟩ := sound.claims session scan current
    have idle : Sound (state.setTask session
        (if scan.status = .running then .working scan.id else .idle)) :=
      sound.setTask session _ (by intro claim; split <;> simp)
    have foreign {owner : σ} {claim : Scan}
        (claiming : (state.setTask session (if scan.status = .running then .working scan.id
          else .idle)).tasks owner = .claiming claim) : owner ≠ session := by
      rintro rfl
      simp only [QueueState.setTask, Function.update_self] at claiming
      split at claiming <;> cases claiming
    have replaced := idle.replace scan member sameId fun owner claim claiming equal =>
      foreign claiming (sound.locks claim.id owner session (idle.claims owner claim claiming).1
        (equal ▸ held))
    refine ⟨replaced.pending, replaced.single, fun owner claim claiming => ?_, ?_⟩
    · obtain ⟨heldBy, rest⟩ := replaced.claims owner claim claiming
      exact ⟨List.mem_filter.mpr ⟨heldBy, by simpa using foreign claiming⟩, rest⟩
    · intro id first second firstHeld secondHeld
      exact sound.locks id first second (List.mem_filter.mp firstHeld).1
        (List.mem_filter.mp secondHeld).1
  · exact sound
  · exact sound
  · exact sound

theorem Sound.requestManual [CaseMapping] (sound : Sound state) (session : σ) (cloudAccountId : ℤ)
    (trigger id : String) (createdAt : Instant) :
    Sound (state.requestManual session cloudAccountId trigger id createdAt) := by
  unfold QueueState.requestManual
  split
  · split
    · rename_i queued
      obtain ⟨pending, account, absent⟩ := queueManualCollection_eq_ok queued
      exact sound.insert (by simp) pending (account ▸ absent)
    · exact sound
  · exact sound

theorem Sound.lookAt (sound : Sound state) (session : σ) (id : String) (createdAt : Instant) :
    Sound (state.lookAt session id createdAt) := by
  unfold QueueState.lookAt
  split
  · simp only
    split
    · rename_i queued
      obtain ⟨pending, account, absent⟩ := scheduledScan_eq_some queued
      exact sound.insert (by simp) pending (account ▸ absent)
    · exact sound.setTask session _ (by simp)
  · exact sound

theorem Sound.beginPass (sound : Sound state) (session : σ) (now : Instant) :
    Sound (state.beginPass session now) := by
  unfold QueueState.beginPass
  split
  · exact sound.setTask session _ (by simp)
  · exact sound

/-- The step lemma of the invariant. -/
theorem Sound.step [CaseMapping] (sound : Sound state) (action : QueueAction σ) :
    Sound (queueStep state action) := by
  cases action with
  | editAccounts accounts => exact ⟨sound.pending, sound.single, sound.claims, sound.locks⟩
  | requestManual session cloudAccountId trigger id createdAt =>
    exact sound.requestManual session cloudAccountId trigger id createdAt
  | beginPass session now => exact sound.beginPass session now
  | lookAt session id createdAt => exact sound.lookAt session id createdAt
  | claim session startedAt failedAt => exact sound.claim session startedAt failedAt
  | complete session outcome completedAt findingsCount =>
    exact sound.complete session outcome completedAt findingsCount
  | commit session => exact sound.commit session
  | rollback session => exact sound.rollback session

theorem Sound.run [CaseMapping] (sound : Sound state) (actions : List (QueueAction σ)) :
    Sound (queueRun state actions) := by
  induction actions generalizing state with
  | nil => exact sound
  | cons action rest ih => exact ih (sound.step action)

end Invariant

section Runs

variable {σ : Type} [DecidableEq σ]

/-- The task ends in the commit of what the session has queued. -/
def QueueTask.queues : QueueTask → Bool
  | .queued | .passing _ [] _ => true
  | _ => false

/-- A session commits a scan only while the query with which it was queued would
still find no active scan of the account: no transaction that was committed in
between has left one. -/
def Undisturbed (state : QueueState σ) : QueueAction σ → Prop
  | .commit session => (state.tasks session).queues = true →
      ∀ scan, ⟨scan, some session⟩ ∈ state.scans.rows →
        activeScan state.scans.committed scan.cloudAccountId = none
  | _ => True

instance decidableUndisturbed (state : QueueState σ) :
    (action : QueueAction σ) → Decidable (Undisturbed state action)
  | .commit session =>
    decidable_of_iff ((state.tasks session).queues = true → ∀ version ∈ state.scans.rows,
        version.writer = some session →
          activeScan state.scans.committed version.row.cloudAccountId = none)
      ⟨fun holds queues scan member => holds queues ⟨scan, some session⟩ member rfl,
        fun holds queues version member own => holds queues version.row (own ▸ member)⟩
  | .editAccounts _ | .requestManual .. | .beginPass .. | .lookAt .. | .claim .. | .complete ..
  | .rollback _ => isTrue trivial

variable {state : QueueState σ}

/-- Committing what a session has queued keeps the exclusivity exactly where its
queries still hold. -/
theorem exclusive_commit_iff (sound : Sound state) (exclusive : Exclusive state.scans.committed)
    (session : σ) :
    Exclusive (state.scans.commit session).committed ↔
      ∀ scan, ⟨scan, some session⟩ ∈ state.scans.rows →
        activeScan state.scans.committed scan.cloudAccountId = none := by
  have own_active {scan : Scan} (member : ⟨scan, some session⟩ ∈ state.scans.rows) :
      scan.activeFor scan.cloudAccountId = true := by
    simp [Scan.activeFor, sound.pending scan session member, ScanStatus.isActive]
  constructor
  · intro after scan member
    rw [activeScan_eq_none]
    intro stored storedMember
    by_contra active
    rw [Bool.not_eq_false] at active
    have storedRow := SharedTable.mem_committed.mp storedMember
    have equal := exclusive_iff.mp after scan.cloudAccountId scan stored
      (SharedTable.committed_of_commit.mpr (Or.inr member))
      (SharedTable.committed_of_commit.mpr (Or.inl storedRow)) (own_active member) active
    cases (version_eq member storedRow (congrArg Scan.id equal)).2
  · intro absent
    have foreign {scan stored : Scan} {cloudAccountId : ℤ}
        (member : ⟨scan, some session⟩ ∈ state.scans.rows)
        (storedMember : ⟨stored, none⟩ ∈ state.scans.rows)
        (scanActive : scan.activeFor cloudAccountId = true)
        (storedActive : stored.activeFor cloudAccountId = true) : False := by
      have inactive := activeScan_eq_none.mp (absent scan member) stored
        (SharedTable.mem_committed.mpr storedMember)
      rw [(activeFor_iff.mp scanActive).1, storedActive] at inactive
      cases inactive
    rw [exclusive_iff] at exclusive ⊢
    intro cloudAccountId first second firstMember secondMember firstActive secondActive
    rcases SharedTable.committed_of_commit.mp firstMember with firstStored | firstOwn <;>
      rcases SharedTable.committed_of_commit.mp secondMember with secondStored | secondOwn
    · exact exclusive cloudAccountId first second firstStored secondStored firstActive
        secondActive
    · exact absurd (foreign secondOwn firstStored secondActive firstActive) id
    · exact absurd (foreign firstOwn secondStored firstActive secondActive) id
    · exact sound.single session first second firstOwn secondOwn
        ((activeFor_iff.mp firstActive).1.trans (activeFor_iff.mp secondActive).1.symm)

omit [DecidableEq σ] in
/-- What the end of a claim comes to. -/
theorem exclusive_claimed (sound : Sound state) (exclusive : Exclusive state.scans.committed)
    {session : σ} {scan : Scan} (claiming : state.tasks session = .claiming scan) :
    Exclusive (SharedTable.committed (Table.put state.scans ⟨scan, none⟩)) := by
  obtain ⟨-, stored, member, sameId, sameAccount, pending⟩ := sound.claims session scan claiming
  refine exclusive.put member sameId fun cloudAccountId active => ?_
  rw [activeFor_iff] at active ⊢
  exact ⟨sameAccount.trans active.1, by rw [pending]; rfl⟩

/-- What a completion comes to. -/
theorem exclusive_complete (exclusive : Exclusive state.scans.committed) (session : σ)
    (outcome : ScanOutcome) (completedAt : Instant) (findingsCount : ℕ) :
    Exclusive (state.complete session outcome completedAt findingsCount).scans.committed := by
  unfold QueueState.complete
  split
  · split
    · rename_i scan found
      split
      · exact exclusive
      · refine exclusive.put (SharedTable.mem_committed.mp (List.mem_of_find?_eq_some found)) rfl
          fun cloudAccountId active => ?_
        obtain ⟨-, terminal⟩ := activeFor_iff.mp active
        cases outcome <;> cases terminal
    · exact exclusive
  · exact exclusive

/-- An insert is not committed. -/
theorem committed_insert {session : σ} {scan : Scan} {task : QueueTask} {row : Scan}
    (member : ⟨row, none⟩ ∈ (state.insert session scan task).scans.rows) :
    ⟨row, none⟩ ∈ state.scans.rows := by
  unfold QueueState.insert at member
  split at member
  · rename_i scans inserted
    change _ ∈ scans.rows at member
    rw [SharedTable.rows_of_insertRow inserted] at member
    rcases List.mem_append.mp member with stored | appended
    · exact stored
    · cases List.mem_singleton.mp appended
  · exact SharedTable.committed_of_rollback.mp member
  · exact member

variable [CaseMapping]

variable {state : QueueState σ}

/-- Requests, passes and claims commit nothing before their commit. -/
theorem committed_requestManual {session : σ} {cloudAccountId : ℤ} {trigger id : String}
    {createdAt : Instant} {row : Scan} (member : ⟨row, none⟩ ∈
      (state.requestManual session cloudAccountId trigger id createdAt).scans.rows) :
    ⟨row, none⟩ ∈ state.scans.rows := by
  unfold QueueState.requestManual at member
  split at member
  · split at member
    · exact committed_insert member
    · exact member
  · exact member

omit [CaseMapping] in
theorem committed_lookAt {session : σ} {id : String} {createdAt : Instant} {row : Scan}
    (member : ⟨row, none⟩ ∈ (state.lookAt session id createdAt).scans.rows) :
    ⟨row, none⟩ ∈ state.scans.rows := by
  unfold QueueState.lookAt at member
  split at member
  · simp only at member
    split at member
    · exact committed_insert member
    · exact member
  · exact member

/-- The step lemma: a step keeps the exclusivity exactly where it is undisturbed. -/
theorem exclusive_step_iff (sound : Sound state) (exclusive : Exclusive state.scans.committed)
    (action : QueueAction σ) :
    Exclusive (queueStep state action).scans.committed ↔ Undisturbed state action := by
  cases action with
  | editAccounts accounts => exact iff_of_true exclusive trivial
  | requestManual session cloudAccountId trigger id createdAt =>
    exact iff_of_true (exclusive.mono fun _ => committed_requestManual) trivial
  | beginPass session now =>
    refine iff_of_true ?_ trivial
    change Exclusive (state.beginPass session now).scans.committed
    unfold QueueState.beginPass
    split <;> exact exclusive
  | lookAt session id createdAt =>
    exact iff_of_true (exclusive.mono fun _ => committed_lookAt) trivial
  | claim session startedAt failedAt =>
    refine iff_of_true ?_ trivial
    change Exclusive (state.claim session startedAt failedAt).scans.committed
    unfold QueueState.claim
    split <;> exact exclusive
  | complete session outcome completedAt findingsCount =>
    exact iff_of_true (exclusive_complete exclusive session outcome completedAt findingsCount)
      trivial
  | rollback session =>
    exact iff_of_true (exclusive.mono fun _ => SharedTable.committed_of_rollback.mp) trivial
  | commit session =>
    have queues := exclusive_commit_iff sound exclusive session
    change Exclusive (state.commit session).scans.committed ↔
      ((state.tasks session).queues = true → ∀ scan, ⟨scan, some session⟩ ∈ state.scans.rows →
        activeScan state.scans.committed scan.cloudAccountId = none)
    unfold QueueState.commit
    cases current : state.tasks session with
    | idle => simpa [QueueTask.queues] using exclusive
    | queued => simpa [QueueTask.queues, QueueState.setTask] using queues
    | passing now due advanced =>
      cases due with
      | nil => simpa [QueueTask.queues, QueueState.setTask] using queues
      | cons account due => simpa [QueueTask.queues] using exclusive
    | claiming scan =>
      simpa [QueueTask.queues, QueueState.setTask] using
        exclusive_claimed sound exclusive current
    | working scanId => simpa [QueueTask.queues] using exclusive

/-- In every state of a run at most one scan of an account is pending or running,
exactly where every step of the run is undisturbed. -/
theorem exclusive_iff_undisturbed {start : QueueState σ} (resting : Resting start)
    (exclusive : Exclusive start.scans.committed) (actions : List (QueueAction σ)) :
    (∀ past rest, actions = past ++ rest → Exclusive (queueRun start past).scans.committed) ↔
      ∀ past action rest, actions = past ++ action :: rest →
        Undisturbed (queueRun start past) action := by
  have advance (past : List (QueueAction σ)) (action : QueueAction σ) :
      queueRun start (past ++ [action]) = queueStep (queueRun start past) action := by
    simp [queueRun]
  constructor
  · intro always past action rest run
    rw [← exclusive_step_iff (resting.sound.run past) (always past _ run), ← advance]
    exact always (past ++ [action]) rest (by rw [run, List.append_assoc]; rfl)
  · intro undisturbed past
    induction past using List.reverseRecOn with
    | nil => exact fun _ _ => exclusive
    | append_singleton past action ih =>
      intro rest run
      rw [List.append_assoc] at run
      rw [advance, exclusive_step_iff (resting.sound.run past) (ih _ run)]
      exact undisturbed past action rest run

end Runs

section Overlap

attribute [local instance] asciiCase

/-- An AWS account that may be collected. -/
def sampleAccount : CollectionAccount where
  id := 1
  provider := "aws"
  nativeAccountId := "111122223333"
  name := "Production"
  enabled := true
  connectionStatus := "untested"
  lastError := none
  scheduleEnabled := false
  scanIntervalHours := 24
  nextScanAt := none
  awsConfiguration := some ⟨1, "111122223333", ["us-east-1"]⟩
  ociConfiguration := none

/-- An empty queue over the account. -/
def emptyQueue : QueueState ℕ where
  accounts := [sampleAccount]
  scans := Table.empty _ _
  locks := []
  tasks _ := .idle

/-- Two requests that both look before one of them commits. -/
def overlappingRequests : List (QueueAction ℕ) :=
  [.requestManual 1 1 "manual" "first" 0, .requestManual 2 1 "manual" "second" 0,
    .commit 1, .commit 2]

/-- A request whose scan is claimed and completed before the next request. -/
def successiveRequests : List (QueueAction ℕ) :=
  [.requestManual 1 1 "manual" "first" 0, .commit 1, .claim 2 1 1, .commit 2,
    .complete 2 .completed 2 0, .requestManual 1 1 "manual" "second" 3, .commit 1]

theorem resting_emptyQueue : Resting emptyQueue where
  committed _ member := nomatch member
  unlocked := rfl
  idle _ := rfl

theorem exclusive_emptyQueue : Exclusive emptyQueue.scans.committed := fun _ => Nat.zero_le _

/-- Each of the two requests finds no active scan, and both scans are then pending. -/
theorem overlapping_requests_queue_twice :
    ¬∀ actions : List (QueueAction ℕ), Exclusive (queueRun emptyQueue actions).scans.committed := by
  intro always
  have one := always overlappingRequests 1
  exact absurd one (by decide +kernel)

/-- The steps of a run, by their positions. -/
theorem undisturbed_of_positions {start : QueueState ℕ} {actions : List (QueueAction ℕ)}
    (undisturbed : ∀ position : Fin actions.length,
      Undisturbed (queueRun start (actions.take position)) actions[position])
    (past : List (QueueAction ℕ)) (action : QueueAction ℕ) (rest : List (QueueAction ℕ))
    (run : actions = past ++ action :: rest) : Undisturbed (queueRun start past) action := by
  subst run
  have here := undisturbed ⟨past.length, by simp⟩
  simpa using here

/-- The successive requests queue two scans and never leave two active ones. -/
theorem exclusive_successiveRequests :
    (queueRun emptyQueue successiveRequests).scans.committed.length = 2 ∧
      ∀ past rest, successiveRequests = past ++ rest →
        Exclusive (queueRun emptyQueue past).scans.committed := by
  constructor
  · decide +kernel
  · exact (exclusive_iff_undisturbed resting_emptyQueue exclusive_emptyQueue
      successiveRequests).mpr (undisturbed_of_positions (by decide +kernel))

end Overlap

end FinopsAnalytics.ScanQueueSessions
