import FinopsAnalytics.FinopsBalances
import FinopsAnalytics.OpportunitySavingRecognition
import FinopsAnalytics.SharedTables
import Mathlib.Data.List.DropRight

/-!
# Sessions on the savings ledger

Requests and workers write the ledger in transactions of their own. A call of
`create_entry` inserts its row in a savepoint and reads the key again when the
insert violates a constraint; a reversal locks its original first. Each step below
is one statement, and the steps of the sessions come in any order. The other tables
are read as they are at that moment, which may be anything.
-/

namespace FinopsAnalytics.FinopsLedgerSessions

open PythonText UniqueTables OpportunityRecords Fallible FinopsLedger FinopsReversals
  FinopsBalances OpportunitySavingRecognition SharedTables

section Machine

/-- Where a session stands in a call. -/
inductive LedgerTask where
  | idle
  | creating (entry : FinOpsLedgerEntry)
  | rereading (entry : FinOpsLedgerEntry)
  | checking (original reversal : FinOpsLedgerEntry)
  | reversing (reversal : FinOpsLedgerEntry)

/-- An entry that `create_entry` returned, with the key it was called with. -/
structure Returned where
  key : Option String
  entry : FinOpsLedgerEntry

/-- The ledger with the sessions that work on it. What `create_entry` returned in an
open transaction counts when the transaction is committed. -/
structure LedgerState (σ : Type) where
  ledger : SharedTable σ FinOpsLedgerEntry.id FinOpsLedgerEntry.uniqueKey
  locks : List (String × σ)
  tasks : σ → LedgerTask
  returned : σ → List Returned
  answered : List Returned

/-- The sessions at rest on a committed ledger. -/
def LedgerState.onLedger {σ : Type} (ledger : Table FinOpsLedgerEntry.id FinOpsLedgerEntry.uniqueKey) :
    LedgerState σ where
  ledger := SharedTable.ofTable ledger
  locks := []
  tasks _ := .idle
  returned _ := []
  answered := []

/-- The statements of the sessions. A call names what it read of the other tables
and what it drew. -/
inductive LedgerAction (σ : Type) where
  | create (session : σ) (view : Store) (request : EntryRequest)
  | manual (session : σ) (view : Store) (request : ManualRequest)
  | reverse (session : σ) (entryId id : String) (actor : Option String) (effectiveAt : Instant)
      (description : Option String)
  | proceed (session : σ)
  | commit (session : σ)
  | rollback (session : σ)

variable {σ : Type} [DecidableEq σ]

namespace LedgerState

def setTask (state : LedgerState σ) (session : σ) (task : LedgerTask) : LedgerState σ :=
  { state with tasks := Function.update state.tasks session task }

/-- A call of `create_entry` ends. -/
def return_ (state : LedgerState σ) (session : σ) (result : Returned) : LedgerState σ :=
  { state.setTask session .idle with
    returned := Function.update state.returned session (state.returned session ++ [result]) }

/-- The transaction of a session ends. -/
def finish (state : LedgerState σ) (session : σ) : LedgerState σ :=
  { state.setTask session .idle with
    locks := state.locks.filter fun lock => lock.2 ≠ session
    returned := Function.update state.returned session [] }

/-- A call that was prepared inserts its row next; one that was refused is over. -/
def begin_ (state : LedgerState σ) (session : σ)
    (prepared : Except ServiceError (FinOpsLedgerEntry × Store)) : LedgerState σ :=
  match state.tasks session, prepared with
  | .idle, .ok (entry, _) => state.setTask session (.creating entry)
  | _, _ => state

/-- The original is locked until the transaction ends; another session waits. -/
def lookUp (state : LedgerState σ) (session : σ) (entryId id : String) (actor : Option String)
    (effectiveAt : Instant) (description : Option String) : LedgerState σ :=
  match state.tasks session, originalEntry (state.ledger.visible session) entryId with
  | .idle, .ok original =>
    if state.locks.any fun lock => lock.1 = original.id && lock.2 ≠ session then state
    else
      { state.setTask session
          (.checking original (reversalRow original id actor effectiveAt description)) with
        locks := (original.id, session) :: state.locks }
  | _, _ => state

/-- The next statement of a call. -/
def proceed (state : LedgerState σ) (session : σ) : LedgerState σ :=
  match state.tasks session with
  | .idle => state
  | .creating entry =>
    match state.ledger.insertRow session entry with
    | .inserted ledger => { state with ledger }.return_ session ⟨entry.idempotencyKey, entry⟩
    | .violated =>
      state.setTask session (if entry.idempotencyKey.isSome then .rereading entry else .idle)
    | .waits => state
  | .rereading entry =>
    match (state.ledger.visible session).find? (·.idempotencyKey = entry.idempotencyKey) with
    | some existing => state.return_ session ⟨entry.idempotencyKey, existing⟩
    | none => state.setTask session .idle
  | .checking original reversal =>
    match checkReversible (state.ledger.visible session) original with
    | .ok _ => state.setTask session (.reversing reversal)
    | .error _ => state.setTask session .idle
  | .reversing reversal =>
    match state.ledger.insertRow session reversal with
    | .inserted ledger => { state with ledger }.setTask session .idle
    | .violated => state.setTask session .idle
    | .waits => state

/-- The transaction is committed after the calls in it have ended. -/
def commit (state : LedgerState σ) (session : σ) : LedgerState σ :=
  match state.tasks session with
  | .idle =>
    { state.finish session with
      ledger := state.ledger.commit session
      answered := state.answered ++ state.returned session }
  | _ => state

def rollback (state : LedgerState σ) (session : σ) : LedgerState σ :=
  { state.finish session with ledger := state.ledger.rollback session }

end LedgerState

variable [CaseMapping] [AlphabetTable] [UuidSource] [SystemClock]

/-- One statement. -/
def ledgerStep (state : LedgerState σ) : LedgerAction σ → LedgerState σ
  | .create session view request => state.begin_ session (prepareEntry view request)
  | .manual session view request =>
    state.begin_ session (manualEntry view request >>= fun (entry, view) => prepareEntry view entry)
  | .reverse session entryId id actor effectiveAt description =>
    state.lookUp session entryId id actor effectiveAt description
  | .proceed session => state.proceed session
  | .commit session => state.commit session
  | .rollback session => state.rollback session

/-- The statements of a run, in their order. -/
def ledgerRun (state : LedgerState σ) (actions : List (LedgerAction σ)) : LedgerState σ :=
  actions.foldl ledgerStep state

end Machine

section Invariant

variable {σ : Type} [DecidableEq σ]

/-- What a session relies on in the middle of a call. -/
def TaskSound (ledger : SharedTable σ FinOpsLedgerEntry.id FinOpsLedgerEntry.uniqueKey)
    (session : σ) : LedgerTask → Prop
  | .idle => True
  | .creating entry => entry.reversalOfId = none
  | .rereading entry => entry.idempotencyKey.isSome ∧ ∃ stored ∈ ledger.visible session,
      stored.id = entry.id ∨ stored.uniqueKey = entry.uniqueKey
  | .checking original reversal => original ∈ ledger.visible session ∧
      (original.reversalOfId = none → Mirrors reversal original)
  | .reversing reversal => ∃ original ∈ ledger.visible session, Mirrors reversal original

/-- The invariant of the sessions: an original is committed with its reversal, and
what `create_entry` returned is in sight and has the key. -/
structure Sound (state : LedgerState σ) : Prop where
  mirrored : ∀ row writer, ⟨row, writer⟩ ∈ state.ledger.rows → row.reversalOfId.isSome →
    ∃ original, Mirrors row original ∧
      (⟨original, none⟩ ∈ state.ledger.rows ∨ ⟨original, writer⟩ ∈ state.ledger.rows)
  tasks : ∀ session, TaskSound state.ledger session (state.tasks session)
  returned : ∀ session, ∀ result ∈ state.returned session,
    result.entry ∈ state.ledger.visible session ∧ result.entry.idempotencyKey = result.key
  answered : ∀ result ∈ state.answered,
    result.entry ∈ state.ledger.committed ∧ result.entry.idempotencyKey = result.key

variable {session : σ} {state : LedgerState σ}

/-- More in sight keeps what a session relies on. -/
theorem TaskSound.mono
    {before after : SharedTable σ FinOpsLedgerEntry.id FinOpsLedgerEntry.uniqueKey}
    (kept : ∀ row, row ∈ before.visible session → row ∈ after.visible session) {task : LedgerTask}
    (sound : TaskSound before session task) : TaskSound after session task := by
  cases task with
  | idle => trivial
  | creating entry => exact sound
  | rereading entry =>
    obtain ⟨keyed, stored, member, collides⟩ := sound
    exact ⟨keyed, stored, kept stored member, collides⟩
  | checking original reversal => exact ⟨kept original sound.1, sound.2⟩
  | reversing reversal =>
    obtain ⟨original, member, mirrors⟩ := sound
    exact ⟨original, kept original member, mirrors⟩

/-- A new task of one session. -/
theorem Sound.setTask (sound : Sound state) {task : LedgerTask}
    (taskSound : TaskSound state.ledger session task) :
    Sound (state.setTask session task) := by
  refine ⟨sound.mirrored, fun other => ?_, sound.returned, sound.answered⟩
  by_cases same : other = session
  · subst same
    simpa [LedgerState.setTask] using taskSound
  · simpa [LedgerState.setTask, same] using sound.tasks other

/-- A call of `create_entry` returns an entry that the session sees. -/
theorem Sound.return_ (sound : Sound state) {result : Returned}
    (seen : result.entry ∈ state.ledger.visible session)
    (keyed : result.entry.idempotencyKey = result.key) : Sound (state.return_ session result) := by
  have idle : Sound (state.setTask session .idle) := sound.setTask trivial
  refine ⟨sound.mirrored, idle.tasks, fun other made member => ?_, sound.answered⟩
  by_cases same : other = session
  · subst same
    simp only [LedgerState.return_, Function.update_self, List.mem_append,
      List.mem_singleton] at member
    rcases member with earlier | rfl
    · exact sound.returned other made earlier
    · exact ⟨seen, keyed⟩
  · refine sound.returned other made ?_
    simpa [LedgerState.return_, same] using member

/-- An insert keeps the invariant where the row reverses nothing or an entry that
the session sees. -/
theorem Sound.inserted (sound : Sound state) {entry : FinOpsLedgerEntry}
    {ledger : SharedTable σ FinOpsLedgerEntry.id FinOpsLedgerEntry.uniqueKey}
    (result : state.ledger.insertRow session entry = .inserted ledger)
    (added : entry.reversalOfId = none ∨
      ∃ original ∈ state.ledger.visible session, Mirrors entry original) :
    Sound { state with ledger } := by
  have rows := SharedTable.rows_of_insertRow result
  constructor
  · intro row writer member reverses
    rw [rows] at member ⊢
    rcases List.mem_append.mp member with stored | appended
    · obtain ⟨original, mirrors, present⟩ := sound.mirrored row writer stored reverses
      exact ⟨original, mirrors, present.imp (List.mem_append_left _) (List.mem_append_left _)⟩
    · cases List.mem_singleton.mp appended
      rcases added with plain | ⟨original, seen, mirrors⟩
      · rw [plain] at reverses
        cases reverses
      · exact ⟨original, mirrors, (SharedTable.mem_visible.mp seen).imp
          (List.mem_append_left _) (List.mem_append_left _)⟩
  · exact fun other => (sound.tasks other).mono fun row => SharedTable.visible_insertRow result
  · intro other made member
    obtain ⟨seen, keyed⟩ := sound.returned other made member
    exact ⟨SharedTable.visible_insertRow result seen, keyed⟩
  · intro made member
    obtain ⟨stored, keyed⟩ := sound.answered made member
    refine ⟨SharedTable.mem_committed.mpr ?_, keyed⟩
    rw [rows]
    exact List.mem_append_left _ (SharedTable.mem_committed.mp stored)

/-- The next statement of a call keeps the invariant. -/
theorem Sound.proceed (sound : Sound state) (session : σ) :
    Sound (state.proceed session) := by
  have relied := sound.tasks session
  unfold LedgerState.proceed
  cases current : state.tasks session with
  | idle => exact sound
  | creating entry =>
    rw [current] at relied
    cases result : state.ledger.insertRow session entry with
    | inserted ledger =>
      have inserted : Sound { state with ledger } := sound.inserted result (Or.inl relied)
      have returned : Sound (LedgerState.return_ { state with ledger } session
          ⟨entry.idempotencyKey, entry⟩) :=
        inserted.return_ (SharedTable.inserted_visible result) rfl
      simpa only [result] using returned
    | violated =>
      by_cases keyed : entry.idempotencyKey.isSome
      · have waiting : TaskSound state.ledger session (.rereading entry) :=
          ⟨keyed, SharedTable.seen_of_violated result⟩
        simpa only [result, keyed, if_true] using sound.setTask waiting
      · have idle : TaskSound state.ledger session .idle := trivial
        simpa [result, keyed] using sound.setTask idle
    | waits => simpa only [result] using sound
  | rereading entry =>
    simp only
    split
    · rename_i existing found
      exact sound.return_ (List.mem_of_find?_eq_some found)
        (by simpa using List.find?_some found)
    · exact sound.setTask trivial
  | checking original reversal =>
    rw [current] at relied
    simp only
    split
    · rename_i done checked
      exact sound.setTask ⟨original, relied.1, relied.2 (checkReversible_eq_ok checked).1⟩
    · exact sound.setTask trivial
  | reversing reversal =>
    rw [current] at relied
    cases result : state.ledger.insertRow session reversal with
    | inserted ledger =>
      have inserted : Sound { state with ledger } := sound.inserted result (Or.inr relied)
      have idle : TaskSound ledger session .idle := trivial
      simpa only [result] using inserted.setTask idle
    | violated =>
      have idle : TaskSound state.ledger session .idle := trivial
      simpa only [result] using sound.setTask idle
    | waits => simpa only [result] using sound

/-- A call begins. -/
theorem Sound.begin_ (sound : Sound state) (session : σ)
    {prepared : Except ServiceError (FinOpsLedgerEntry × Store)}
    (plain : ∀ result, prepared = .ok result → result.1.reversalOfId = none) :
    Sound (state.begin_ session prepared) := by
  unfold LedgerState.begin_
  split
  · exact sound.setTask (plain _ rfl)
  · exact sound

theorem Sound.lookUp (sound : Sound state) (session : σ) (entryId id : String)
    (actor : Option String) (effectiveAt : Instant) (description : Option String) :
    Sound (state.lookUp session entryId id actor effectiveAt description) := by
  unfold LedgerState.lookUp
  split
  · rename_i original atRest found
    split
    · exact sound
    · have locked : Sound (state.setTask session
          (.checking original (reversalRow original id actor effectiveAt description))) :=
        sound.setTask ⟨(originalEntry_eq_ok found).1, fun final =>
          mirrors_reversalRow final id actor effectiveAt description⟩
      exact ⟨locked.mirrored, locked.tasks, locked.returned, locked.answered⟩
  · exact sound

/-- A commit keeps the invariant: the originals of the rows are committed before
them or with them. -/
theorem Sound.commit (sound : Sound state) (session : σ) :
    Sound (state.commit session) := by
  unfold LedgerState.commit
  split
  · have idle : Sound (state.setTask session .idle) := sound.setTask trivial
    constructor
    · intro row writer member reverses
      cases writer with
      | none =>
        rcases SharedTable.committed_of_commit.mp member with stored | own
        · obtain ⟨original, mirrors, present⟩ := sound.mirrored row none stored reverses
          exact ⟨original, mirrors, Or.inl (SharedTable.committed_of_commit.mpr
            (Or.inl (present.elim id id)))⟩
        · obtain ⟨original, mirrors, present⟩ := sound.mirrored row _ own reverses
          exact ⟨original, mirrors, Or.inl (SharedTable.committed_of_commit.mpr present)⟩
      | some other =>
        obtain ⟨foreign, stored⟩ := SharedTable.open_of_commit.mp member
        obtain ⟨original, mirrors, present⟩ := sound.mirrored row _ stored reverses
        exact ⟨original, mirrors, present.imp
          (fun earlier => SharedTable.committed_of_commit.mpr (Or.inl earlier))
          fun own => SharedTable.open_of_commit.mpr ⟨foreign, own⟩⟩
    · exact fun other => (idle.tasks other).mono fun row => SharedTable.visible_commit
    · intro other made member
      by_cases same : other = session
      · subst same
        simp [LedgerState.finish] at member
      · obtain ⟨seen, keyed⟩ := sound.returned other made
          (by simpa [LedgerState.finish, same] using member)
        exact ⟨SharedTable.visible_commit seen, keyed⟩
    · intro made member
      rcases List.mem_append.mp member with earlier | now
      · obtain ⟨stored, keyed⟩ := sound.answered made earlier
        exact ⟨SharedTable.mem_committed.mpr (SharedTable.committed_of_commit.mpr
          (Or.inl (SharedTable.mem_committed.mp stored))), keyed⟩
      · obtain ⟨seen, keyed⟩ := sound.returned session made now
        exact ⟨SharedTable.mem_committed.mpr (SharedTable.committed_of_commit.mpr
          (SharedTable.mem_visible.mp seen)), keyed⟩
  · exact sound

/-- A rollback keeps the invariant: a row that stays has an original that stays. -/
theorem Sound.rollback (sound : Sound state) (session : σ) :
    Sound (state.rollback session) := by
  have idle : Sound (state.setTask session .idle) := sound.setTask trivial
  constructor
  · intro row writer member reverses
    cases writer with
    | none =>
      obtain ⟨original, mirrors, present⟩ := sound.mirrored row none
        (SharedTable.committed_of_rollback.mp member) reverses
      exact ⟨original, mirrors, Or.inl (SharedTable.committed_of_rollback.mpr
        (present.elim id id))⟩
    | some other =>
      obtain ⟨foreign, stored⟩ := SharedTable.open_of_rollback.mp member
      obtain ⟨original, mirrors, present⟩ := sound.mirrored row _ stored reverses
      exact ⟨original, mirrors, present.imp SharedTable.committed_of_rollback.mpr
        fun own => SharedTable.open_of_rollback.mpr ⟨foreign, own⟩⟩
  · intro other
    by_cases same : other = session
    · subst same
      simp [LedgerState.rollback, LedgerState.finish, LedgerState.setTask, TaskSound]
    · exact (idle.tasks other).mono fun row => SharedTable.visible_rollback same
  · intro other made member
    by_cases same : other = session
    · subst same
      simp [LedgerState.rollback, LedgerState.finish] at member
    · obtain ⟨seen, keyed⟩ := sound.returned other made
        (by simpa [LedgerState.rollback, LedgerState.finish, same] using member)
      exact ⟨SharedTable.visible_rollback same seen, keyed⟩
  · intro made member
    obtain ⟨stored, keyed⟩ := sound.answered made member
    exact ⟨SharedTable.mem_committed.mpr (SharedTable.committed_of_rollback.mpr
      (SharedTable.mem_committed.mp stored)), keyed⟩

variable [CaseMapping] [AlphabetTable] [UuidSource] [SystemClock]

theorem Sound.ledgerStep {state : LedgerState σ} (sound : Sound state)
    (action : LedgerAction σ) : Sound (FinopsLedgerSessions.ledgerStep state action) := by
  cases action with
  | create session view request =>
    refine sound.begin_ session fun result prepared => ?_
    obtain ⟨_, _, _, _, -, rfl⟩ := prepareEntry_eq_ok prepared
    rfl
  | manual session view request =>
    refine sound.begin_ session fun result prepared => ?_
    obtain ⟨entry, -, prepared⟩ := bind_eq_ok.mp prepared
    obtain ⟨_, _, _, _, -, rfl⟩ := prepareEntry_eq_ok prepared
    rfl
  | reverse session entryId id actor effectiveAt description =>
    exact sound.lookUp session entryId id actor effectiveAt description
  | proceed session => exact sound.proceed session
  | commit session => exact sound.commit session
  | rollback session => exact sound.rollback session

/-- Every run keeps the invariant, in whatever order the statements come. -/
theorem Sound.ledgerRun {state : LedgerState σ} (sound : Sound state)
    (actions : List (LedgerAction σ)) : Sound (FinopsLedgerSessions.ledgerRun state actions) := by
  induction actions generalizing state with
  | nil => exact sound
  | cons action rest inductionHypothesis => exact inductionHypothesis (sound.ledgerStep action)

omit [CaseMapping] [AlphabetTable] [UuidSource] [SystemClock] in
/-- Sessions at rest on a ledger with the originals of its reversals. -/
theorem sound_onLedger {ledger : Table FinOpsLedgerEntry.id FinOpsLedgerEntry.uniqueKey}
    (mirrored : Mirrored ledger.rows) : Sound (LedgerState.onLedger ledger : LedgerState σ) := by
  constructor
  · intro row writer member reverses
    obtain ⟨stored, storedMember, same⟩ := List.mem_map.mp member
    cases same
    obtain ⟨original, present, mirrors⟩ := mirrored _ storedMember reverses
    exact ⟨original, mirrors, Or.inl (List.mem_map_of_mem present)⟩
  · exact fun _ => trivial
  · intro session made member
    cases member
  · intro made member
    cases member

end Invariant

section Calls

/-- The unique index takes a row with a key for the key. -/
theorem key_of_unique {first second : FinOpsLedgerEntry} {key : String}
    (keyed : first.idempotencyKey = some key) (same : second.uniqueKey = first.uniqueKey) :
    second.idempotencyKey = some key := by
  cases storedKey : second.idempotencyKey with
  | none => simp [FinOpsLedgerEntry.uniqueKey, keyed, storedKey] at same
  | some other =>
    simp only [FinOpsLedgerEntry.uniqueKey, keyed, storedKey, Sum.inl.injEq] at same
    rw [same]

variable {σ : Type} [DecidableEq σ]

/-- A call of `create_entry` with what it reads of the other tables and draws. -/
structure Call (σ : Type) where
  session : σ
  view : Store
  request : EntryRequest

namespace Call

/-- The identifier that is drawn for the entry. -/
def drawn [UuidSource] (call : Call σ) : String := call.view.draw.1

/-- The statements of the call in a transaction of its own. -/
def statements (call : Call σ) : List (LedgerAction σ) :=
  [.create call.session call.view call.request, .proceed call.session, .proceed call.session,
    .commit call.session]

variable [CaseMapping] [AlphabetTable] [UuidSource]

/-- The call passes the checks of `create_entry`, with a key. -/
def Accepted (call : Call σ) (key : String) : Prop :=
  (prepareEntry call.view call.request).toOption.bind (·.1.idempotencyKey) = some key

instance (call : Call σ) (key : String) : Decidable (call.Accepted key) :=
  inferInstanceAs (Decidable (_ = _))

end Call

variable [CaseMapping] [AlphabetTable] [UuidSource]

/-- The session of an accepted call is at rest, the identifier is new, and no other open
transaction holds a row with the key. -/
structure Ready (state : LedgerState σ) (key : String) (call : Call σ) : Prop where
  idle : state.tasks call.session = .idle
  unanswered : state.returned call.session = []
  accepted : call.Accepted key
  fresh : ∀ version ∈ state.ledger.rows, version.row.id ≠ call.drawn
  free : ∀ version ∈ state.ledger.rows, version.row.idempotencyKey = some key →
    version.seenBy call.session = true

/-- What one call leaves: its answer and, at most, its own row, committed. -/
structure Served (state after : LedgerState σ) (key : String) (call : Call σ) : Prop where
  answered : ∃ entry, after.answered = state.answered ++ [⟨some key, entry⟩]
  tasks : after.tasks = state.tasks
  returned : after.returned = state.returned
  rows : ∀ version ∈ after.ledger.rows,
    (version.row.id = call.drawn ∧ version.writer = none) ∨
      ∃ old ∈ state.ledger.rows, version.row = old.row ∧
        (version.writer = none ∨ version = old)

variable [SystemClock] {state : LedgerState σ} {key : String} {call : Call σ}

/-- A call that nothing stands in the way of returns an entry with its key, whether the
entry was there or is inserted. -/
theorem Ready.served (ready : Ready state key call) :
    Served state (ledgerRun state call.statements) key call := by
  obtain ⟨⟨entry, rest⟩, given, keyed⟩ := Option.bind_eq_some_iff.mp ready.accepted
  have keyed : entry.idempotencyKey = some key := keyed
  have prepared : prepareEntry call.view call.request = .ok (entry, rest) := by
    cases outcome : prepareEntry call.view call.request with
    | error raised =>
      rw [outcome] at given
      cases given
    | ok result =>
      rw [outcome] at given
      cases given
      rfl
  have drawn : entry.id = call.drawn := by
    obtain ⟨_, _, _, _, -, same⟩ := prepareEntry_eq_ok prepared
    cases same
    rfl
  have tasks : Function.update state.tasks call.session LedgerTask.idle = state.tasks := by
    rw [← ready.idle, Function.update_eq_self]
  have returned : Function.update state.returned call.session [] = state.returned := by
    rw [← ready.unanswered, Function.update_eq_self]
  cases result : state.ledger.insertRow call.session entry with
  | inserted ledger =>
    have after : ledgerRun state call.statements =
        { state with
          locks := state.locks.filter fun lock => lock.2 ≠ call.session
          ledger := ledger.commit call.session
          answered := state.answered ++ [⟨some key, entry⟩] } := by
      simp [Call.statements, ledgerRun, ledgerStep, LedgerState.begin_, LedgerState.setTask,
        LedgerState.proceed, LedgerState.return_, LedgerState.commit, LedgerState.finish,
        prepared, result, keyed, ready.idle, ready.unanswered, tasks, returned]
    rw [after]
    refine ⟨⟨entry, rfl⟩, rfl, rfl, fun version member => ?_⟩
    obtain ⟨before, stored, same, writer⟩ := SharedTable.mem_commit member
    rw [SharedTable.rows_of_insertRow result] at stored
    rcases List.mem_append.mp stored with old | own
    · exact Or.inr ⟨before, old, same, writer.imp_right And.left⟩
    · obtain rfl := List.mem_singleton.mp own
      have committed : version.writer = none := by
        rcases writer with committed | ⟨rfl, foreign⟩
        · exact committed
        · exact absurd rfl foreign
      exact Or.inl ⟨same ▸ drawn, committed⟩
  | violated =>
    obtain ⟨stored, seen, sameId | sameUnique⟩ := SharedTable.seen_of_violated result
    · rcases SharedTable.mem_visible.mp seen with member | member
      · exact absurd (sameId.trans drawn) (ready.fresh _ member)
      · exact absurd (sameId.trans drawn) (ready.fresh _ member)
    · have storedKey : stored.idempotencyKey = some key := key_of_unique keyed sameUnique
      have isSome : ((state.ledger.visible call.session).find?
          fun row => row.idempotencyKey = entry.idempotencyKey).isSome :=
        List.find?_isSome.mpr ⟨stored, seen, decide_eq_true (storedKey.trans keyed.symm)⟩
      obtain ⟨existing, found⟩ := Option.isSome_iff_exists.mp isSome
      have after : ledgerRun state call.statements =
          { state with
            locks := state.locks.filter fun lock => lock.2 ≠ call.session
            ledger := state.ledger.commit call.session
            answered := state.answered ++ [⟨some key, existing⟩] } := by
        rw [keyed] at found
        simp [Call.statements, ledgerRun, ledgerStep, LedgerState.begin_, LedgerState.setTask,
          LedgerState.proceed, LedgerState.return_, LedgerState.commit, LedgerState.finish,
          prepared, result, keyed, found, ready.idle, ready.unanswered, tasks, returned]
      rw [after]
      refine ⟨⟨existing, rfl⟩, rfl, rfl, fun version member => ?_⟩
      obtain ⟨before, old, same, writer⟩ := SharedTable.mem_commit member
      exact Or.inr ⟨before, old, same, writer.imp_right And.left⟩
  | waits =>
    obtain ⟨version, member, collides, hidden⟩ := SharedTable.hidden_of_waits result
    rcases collides with sameId | sameUnique
    · exact absurd (sameId.trans drawn) (ready.fresh version member)
    · rw [ready.free version member (key_of_unique keyed sameUnique)] at hidden
      cases hidden

omit [SystemClock] in
/-- A call that was served stands in the way of no other. -/
theorem Ready.after {after : LedgerState σ} {other : Call σ} (ready : Ready state key other)
    (served : Served state after key call) (different : other.drawn ≠ call.drawn) :
    Ready after key other := by
  refine ⟨?_, ?_, ready.accepted, fun version member => ?_, fun version member keyed => ?_⟩
  · rw [served.tasks]
    exact ready.idle
  · rw [served.returned]
    exact ready.unanswered
  · rcases served.rows version member with ⟨own, -⟩ | ⟨old, stored, same, -⟩
    · exact fun sameId => different (sameId.symm.trans own)
    · rw [same]
      exact ready.fresh old stored
  · rcases served.rows version member with ⟨-, committed⟩ | ⟨old, stored, same, committed | rfl⟩
    · simp [Version.seenBy, committed]
    · simp [Version.seenBy, committed]
    · exact ready.free version stored keyed

/-- Calls with one key, one after the other, each return an entry with the key. -/
theorem calls_served {calls : List (Call σ)} (ready : ∀ call ∈ calls, Ready state key call)
    (distinct : (calls.map Call.drawn).Nodup) :
    ∃ entries : List FinOpsLedgerEntry, entries.length = calls.length ∧
      (ledgerRun state (calls.flatMap Call.statements)).answered =
        state.answered ++ entries.map (Returned.mk (some key)) := by
  induction calls generalizing state with
  | nil => exact ⟨[], rfl, (List.append_nil _).symm⟩
  | cons call rest inductionHypothesis =>
    obtain ⟨unlisted, distinctRest⟩ := List.nodup_cons.mp distinct
    have served := (ready call (List.mem_cons_self ..)).served
    obtain ⟨entry, first⟩ := served.answered
    obtain ⟨entries, count, others⟩ := inductionHypothesis
      (fun other member => (ready other (List.mem_cons_of_mem _ member)).after served
        fun same => unlisted (same ▸ List.mem_map_of_mem member)) distinctRest
    refine ⟨entry :: entries, by rw [List.length_cons, count, List.length_cons], ?_⟩
    rw [List.flatMap_cons, ledgerRun, List.foldl_append]
    change (ledgerRun (ledgerRun state call.statements) _).answered = _
    rw [others, first, List.append_assoc, List.map_cons, List.singleton_append]

end Calls

section Keys

theorem toList_opening {opening : String} {first : Char} {front : List Char}
    (opens : opening.toList = first :: front) (text : String) :
    (opening ++ text).toList = first :: (front ++ text.toList) := by
  rw [String.toList_append, opens, List.cons_append]

/-- A key with a first character of its own is stored with it. -/
theorem storedKey_head {text : String} {first : Char} {rest : List Char} {stored : Option String}
    (opens : text.toList = first :: rest) (start : isSpace first = false)
    (accepted : storedKey (some text) = .ok stored) :
    ∃ key kept, stored = some key ∧ key.toList = first :: kept := by
  obtain ⟨kept, trimmed⟩ := strip_head opens start
  have present : strip text ≠ "" := by
    intro none
    rw [none] at trimmed
    cases trimmed
  have given : orNone (some (strip text)) = some (strip text) := by
    rw [orNone, truthy_some, if_pos (bne_iff_ne.mpr present)]
  simp only [storedKey, Option.map_some, given] at accepted
  split at accepted
  · cases accepted
  · exact ⟨_, kept, (Except.ok.inj accepted).symm, trimmed⟩

/-- The keys of manual requests, of treatments and of reversals, as they are stored,
never coincide. -/
def KeysApart : Prop :=
  ∀ requestId eventId originalId manual treated,
    storedKey (some (manualKey requestId)) = .ok manual →
      storedKey (some (recognitionKey eventId)) = .ok treated →
        manual ≠ treated ∧ manual ≠ some (reversalKey originalId) ∧
          treated ≠ some (reversalKey originalId)

theorem keys_apart : KeysApart := by
  intro requestId eventId originalId manual treated storedManual storedTreated
  have manualOpens : (manualKey requestId).toList = _ :=
    toList_opening (by decide : "manual:".toList = 'm' :: "anual:".toList) requestId
  have treatedOpens : (recognitionKey eventId).toList =
      'o' :: ("pportunity-treated:".toList ++ (eventId ++ ":saving").toList) := by
    have opens : "opportunity-treated:".toList = 'o' :: "pportunity-treated:".toList := by decide
    have shape : recognitionKey eventId = "opportunity-treated:" ++ (eventId ++ ":saving") :=
      String.append_assoc
    rw [shape]
    exact toList_opening opens _
  have reversalOpens : (reversalKey originalId).toList = _ :=
    toList_opening (by decide : "finops-reversal:".toList = 'f' :: "inops-reversal:".toList)
      originalId
  obtain ⟨first, firstRest, rfl, firstHead⟩ :=
    storedKey_head manualOpens (by decide) storedManual
  obtain ⟨second, secondRest, rfl, secondHead⟩ :=
    storedKey_head treatedOpens (by decide) storedTreated
  refine ⟨fun same => ?_, fun same => ?_, fun same => ?_⟩
  · rw [Option.some.inj same, secondHead] at firstHead
    exact absurd (List.cons.inj firstHead).1 (by decide)
  · rw [Option.some.inj same, reversalOpens] at firstHead
    exact absurd (List.cons.inj firstHead).1 (by decide)
  · rw [Option.some.inj same, reversalOpens] at secondHead
    exact absurd (List.cons.inj secondHead).1 (by decide)

end Keys

section Consistency

variable {σ : Type} [DecidableEq σ]

/-- The committed ledger is consistent with what its callers were told. -/
structure Consistent [CaseMapping] [AlphabetTable] (state : LedgerState σ) : Prop where
  answers : ∀ result ∈ state.answered, ∀ key, result.key = some key →
    result.entry ∈ state.ledger.committed ∧ result.entry.idempotencyKey = some key ∧
      ∀ other ∈ state.ledger.committed, other.idempotencyKey = some key → other = result.entry
  creates : ∀ session entry, state.tasks session = .creating entry →
    entry.idempotencyKey.isSome →
      (state.proceed session).returned session =
          state.returned session ++ [⟨entry.idempotencyKey, entry⟩] ∨
        (state.proceed session).tasks session = .rereading entry ∨
        ∃ version ∈ state.ledger.rows, version.seenBy session = false ∧
          (version.row.id = entry.id ∨ version.row.uniqueKey = entry.uniqueKey)
  rereads : ∀ session entry, state.tasks session = .rereading entry →
    (∀ stored ∈ state.ledger.visible session, stored.id ≠ entry.id) →
      ∃ existing ∈ state.ledger.visible session,
        existing.idempotencyKey = entry.idempotencyKey ∧
          (state.proceed session).returned session =
            state.returned session ++ [⟨entry.idempotencyKey, existing⟩]
  originals : ∀ reversal ∈ state.ledger.committed, reversal.reversalOfId.isSome →
    ∃ original ∈ state.ledger.committed, Mirrors reversal original
  reversedOnce : ∀ first ∈ state.ledger.committed, ∀ second ∈ state.ledger.committed,
    first.reversalOfId.isSome → first.reversalOfId = second.reversalOfId → first = second
  netZero : ∀ entry ∈ state.ledger.committed, ∀ reversal ∈ state.ledger.committed,
    reversal.reversalOfId = some entry.id → ∃ others,
      state.ledger.committed.Perm (entry :: reversal :: others) ∧
        NetZero state.ledger.committed others entry reversal ∧
        ∀ periodicity, NetZero
          (state.ledger.committed.filter fun row => row.periodicity = periodicity)
          (others.filter fun row => row.periodicity = periodicity) entry reversal

omit [DecidableEq σ] in
/-- Committed rows with one key, or one identifier, are one row. -/
theorem committed_unique {ledger : SharedTable σ FinOpsLedgerEntry.id FinOpsLedgerEntry.uniqueKey}
    {first second : FinOpsLedgerEntry} (firstStored : first ∈ ledger.committed)
    (secondStored : second ∈ ledger.committed)
    (same : first.uniqueKey = second.uniqueKey ∨ first.id = second.id) : first = second := by
  have firstVersion := SharedTable.mem_committed.mp firstStored
  have secondVersion := SharedTable.mem_committed.mp secondStored
  have versions := same.elim (fun sameKey => ledger.eq_of_unique firstVersion secondVersion sameKey)
    fun sameId => ledger.eq_of_key firstVersion secondVersion sameId
  exact congrArg Version.row versions

/-- Two members of a list come first in a rearrangement. -/
theorem perm_pair {α : Type} [DecidableEq α] {rows : List α} {first second : α}
    (firstMember : first ∈ rows) (secondMember : second ∈ rows) (different : first ≠ second) :
    rows.Perm (first :: second :: (rows.erase first).erase second) := by
  have later : second ∈ rows.erase first :=
    (List.mem_erase_of_ne different.symm).mpr secondMember
  exact (List.perm_cons_erase firstMember).trans
    ((List.perm_cons_erase later).cons first)

variable [CaseMapping] [AlphabetTable]

/-- What the invariant says of the committed ledger and of a re-read. -/
theorem consistent_of_sound {state : LedgerState σ} (sound : Sound state) : Consistent state := by
  have originals : ∀ reversal ∈ state.ledger.committed, reversal.reversalOfId.isSome →
      ∃ original ∈ state.ledger.committed, Mirrors reversal original := by
    intro reversal stored reverses
    obtain ⟨original, mirrors, present⟩ :=
      sound.mirrored reversal none (SharedTable.mem_committed.mp stored) reverses
    exact ⟨original, SharedTable.mem_committed.mpr (present.elim id id), mirrors⟩
  constructor
  · intro result answered key isKey
    obtain ⟨stored, keyed⟩ := sound.answered result answered
    have entryKey : result.entry.idempotencyKey = some key := keyed.trans isKey
    refine ⟨stored, entryKey, fun other otherStored otherKey => ?_⟩
    refine committed_unique otherStored stored (Or.inl ?_)
    simp [FinOpsLedgerEntry.uniqueKey, entryKey, otherKey]
  · intro session entry waiting keyed
    cases result : state.ledger.insertRow session entry with
    | inserted ledger =>
      left
      simp [LedgerState.proceed, LedgerState.return_, waiting, result]
    | violated =>
      right
      left
      simp [LedgerState.proceed, LedgerState.setTask, waiting, result, keyed]
    | waits =>
      obtain ⟨version, member, collides, hidden⟩ := SharedTable.hidden_of_waits result
      exact Or.inr (Or.inr ⟨version, member, hidden, collides⟩)
  · intro session entry waiting fresh
    have relied := sound.tasks session
    rw [waiting] at relied
    obtain ⟨keyed, stored, seen, sameId | sameKey⟩ := relied
    · exact absurd sameId (fresh stored seen)
    · obtain ⟨key, isKey⟩ := Option.isSome_iff_exists.mp keyed
      have storedKey := (key_of_unique isKey sameKey).trans isKey.symm
      have isSome : ((state.ledger.visible session).find?
          fun row => row.idempotencyKey = entry.idempotencyKey).isSome :=
        List.find?_isSome.mpr ⟨stored, seen, decide_eq_true storedKey⟩
      obtain ⟨existing, found⟩ := Option.isSome_iff_exists.mp isSome
      refine ⟨existing, List.mem_of_find?_eq_some found, by simpa using List.find?_some found, ?_⟩
      simp [LedgerState.proceed, LedgerState.return_, waiting, found]
  · exact originals
  · intro first firstStored second secondStored reverses same
    obtain ⟨firstOriginal, -, firstMirrors⟩ := originals first firstStored reverses
    obtain ⟨secondOriginal, -, secondMirrors⟩ := originals second secondStored (same ▸ reverses)
    have sameId : firstOriginal.id = secondOriginal.id := by
      have ids := firstMirrors.reverses.symm.trans (same.trans secondMirrors.reverses)
      exact Option.some.inj ids
    refine committed_unique firstStored secondStored (Or.inl ?_)
    simp [FinOpsLedgerEntry.uniqueKey, firstMirrors.key, secondMirrors.key, sameId]
  · intro entry entryStored reversal reversalStored reverses
    obtain ⟨original, originalStored, mirrors⟩ :=
      originals reversal reversalStored (by rw [reverses]; rfl)
    have sameId : original.id = entry.id :=
      Option.some.inj (mirrors.reverses.symm.trans reverses)
    obtain rfl := committed_unique originalStored entryStored (Or.inr sameId)
    have different : original ≠ reversal := by
      rintro rfl
      rw [mirrors.final] at reverses
      cases reverses
    have arranged := perm_pair entryStored reversalStored different
    exact ⟨_, arranged, netZero_of_perm mirrors arranged,
      netZero_periodicity mirrors arranged⟩

variable [UuidSource] [SystemClock]

/-- Calls with one key that nothing stands in the way of all return the one entry that the
ledger then has with the key. -/
def CallsAgree (state : LedgerState σ) : Prop :=
  ∀ (key : String) (calls : List (Call σ)), calls ≠ [] →
    (∀ call ∈ calls, Ready state key call) → (calls.map Call.drawn).Nodup →
      ∃ entry ∈ (ledgerRun state (calls.flatMap Call.statements)).ledger.committed,
        entry.idempotencyKey = some key ∧
        (∀ other ∈ (ledgerRun state (calls.flatMap Call.statements)).ledger.committed,
          other.idempotencyKey = some key → other = entry) ∧
        (ledgerRun state (calls.flatMap Call.statements)).answered =
          state.answered ++ List.replicate calls.length ⟨some key, entry⟩

/-- What the invariant says of calls with one key. -/
theorem callsAgree_of_sound {state : LedgerState σ} (sound : Sound state) : CallsAgree state := by
  intro key calls called ready distinct
  have answers := (consistent_of_sound
    (sound.ledgerRun (calls.flatMap Call.statements))).answers
  obtain ⟨entries, count, answered⟩ := calls_served ready distinct
  have told {entry : FinOpsLedgerEntry} (listed : entry ∈ entries) :=
    answers ⟨some key, entry⟩
      (answered ▸ List.mem_append_right _ (List.mem_map_of_mem listed)) key rfl
  obtain ⟨entry, listed⟩ := List.exists_mem_of_ne_nil entries fun none => called
    (List.eq_nil_of_length_eq_zero (by rw [← count, none, List.length_nil]))
  obtain ⟨stored, keyed, only⟩ := told listed
  have same : entries = List.replicate calls.length entry :=
    List.eq_replicate_iff.mpr ⟨count, fun other member =>
      only other (told member).1 (told member).2.1⟩
  refine ⟨entry, stored, keyed, only, ?_⟩
  rw [answered, same, List.map_replicate]

/-- However the statements of any number of sessions interleave on an empty ledger:
all calls with one key that were committed returned the one entry with that key, a call
ends with its answer or waits for the transaction that holds its key, calls that are run to
their ends make one entry and return it, an entry has at most one reversal and a reversal
none, the pair adds nothing to any balance, and the writers' keys never coincide. -/
theorem sessions_consistent (actions : List (LedgerAction σ)) :
    Consistent (ledgerRun (LedgerState.onLedger (.empty _ _)) actions) ∧
      CallsAgree (ledgerRun (LedgerState.onLedger (.empty _ _)) actions) ∧ KeysApart := by
  have mirrored : Mirrored (Table.empty FinOpsLedgerEntry.id FinOpsLedgerEntry.uniqueKey).rows := by
    intro reversal member
    cases member
  have sound := (sound_onLedger mirrored).ledgerRun actions
  exact ⟨consistent_of_sound sound, callsAgree_of_sound sound, keys_apart⟩

end Consistency

section Sample

attribute [local instance] asciiCase asciiAlphabet countingUuids countingClock

/-- A manual saving under one key; a session calls twice. -/
def sampleCall (drawn : ℕ) : Call ℕ where
  session := 1
  view := { Store.empty with cloudAccounts := [⟨1, "aws", "111122223333", "Production"⟩], drawn }
  request :=
    { entryType := .saving
      direction := .credit
      cloudAccountId := 1
      amount := 100
      currency := "USD"
      effectiveAt := 0
      source := .manual
      actor := some "admin"
      description := none
      sourceReference := none
      opportunityId := none
      sourceEventId := none
      idempotencyKey := some "manual:1"
      periodicity := .monthly
      referencePeriodStart := none
      referencePeriodEnd := none
      context := [] }

/-- Two calls make one entry, which both return. -/
theorem sessions_consistent_twice :
    ∃ entry ∈ (ledgerRun (LedgerState.onLedger (.empty _ _))
        ([sampleCall 0, sampleCall 1].flatMap Call.statements)).ledger.committed,
      entry.idempotencyKey = some "manual:1" ∧
        (ledgerRun (LedgerState.onLedger (.empty _ _))
          ([sampleCall 0, sampleCall 1].flatMap Call.statements)).answered =
            [⟨some "manual:1", entry⟩, ⟨some "manual:1", entry⟩] := by
  obtain ⟨-, agree, -⟩ := sessions_consistent ([] : List (LedgerAction ℕ))
  have ready {drawn : ℕ} (accepted : (sampleCall drawn).Accepted "manual:1") :
      Ready (ledgerRun (LedgerState.onLedger (.empty _ _)) []) "manual:1" (sampleCall drawn) :=
    ⟨rfl, rfl, accepted, fun _ member => absurd member List.not_mem_nil,
      fun _ member => absurd member List.not_mem_nil⟩
  obtain ⟨entry, stored, keyed, -, answered⟩ := agree "manual:1" [sampleCall 0, sampleCall 1]
    (List.cons_ne_nil _ _)
    (fun call member => by
      rcases List.mem_cons.mp member with rfl | later
      · exact ready (by decide +kernel)
      · obtain rfl := List.mem_singleton.mp later
        exact ready (by decide +kernel))
    (by decide)
  exact ⟨entry, stored, keyed, answered⟩

end Sample

end FinopsAnalytics.FinopsLedgerSessions
