import FinopsAnalytics.AccountTransactions
import FinopsAnalytics.EventLogs
import FinopsAnalytics.Interleavings
import FinopsAnalytics.KeyedRows

/-!
# Runs of requests on accounts

The tables keep their unique columns, and what a request holds of a session still
names the stored row. So every step of a run is a sequence of changes, and what the
changes keep holds after every run.
-/

namespace FinopsAnalytics.AccountRuns

open PythonText AccountStore AccountRequests AccountChanges AccountTransactions EventLogs KeyedRows

/-- The unique columns of the tables. -/
structure WellKeyed (db : Database) : Prop where
  users : Keyed User.id db.users
  sessionIds : Keyed LoginSession.id db.sessions
  sessions : Keyed LoginSession.tokenHash db.sessions
  tokens : Keyed AccessToken.tokenHash db.tokens
  credentials : Keyed MfaCredential.userId db.credentials
  challenges : Keyed MfaChallenge.tokenHash db.challenges
  codes : Keyed RecoveryCode.codeHash db.codes

theorem WellKeyed.writeCredential {db : Database} (keyed : WellKeyed db) (item : MfaCredential) :
    WellKeyed (db.writeCredential item) := by
  refine { keyed with credentials := ?_ }
  unfold Database.writeCredential
  dsimp only
  split
  · exact keyed.credentials.rewrite item
  · rename_i absent
    refine keyed.credentials.concat fun row member same => ?_
    exact absent (List.any_eq_true.mpr ⟨row, member, by simpa using same⟩)

variable [Cryptography]

variable {db after : Database} {events : List Event}

/-- Every change keeps the unique columns. -/
theorem Change.wellKeyed (change : Change db events after) (keyed : WellKeyed db) :
    WellKeyed after := by
  cases change with
  | passwordStored userId passwordHash =>
    refine { keyed with users := keyed.users.map fun row _ => ?_ }
    split <;> rfl
  | bootstrapped user incomplete nobody counts =>
    exact { keyed with users := List.nodup_singleton _ }
  | userAdded user fresh => exact { keyed with users := keyed.users.concat fresh }
  | userWritten user next => exact { keyed with users := keyed.users.rewrite next }
  | versionIncreased user next => exact { keyed with users := keyed.users.rewrite next }
  | sessionsWritten write keeps =>
    exact { keyed with
      sessionIds := keyed.sessionIds.map fun row _ => keeps.id row
      sessions := keyed.sessions.map fun row _ => keeps.tokenHash row }
  | sessionIssued user member session owner version fresh =>
    exact { keyed with
      sessionIds := keyed.sessionIds.concat fun row inside => (fresh row inside).1
      sessions := keyed.sessions.concat fun row inside => (fresh row inside).2 }
  | sessionAccepted => exact keyed
  | tokenIssued user member token now owner version unused fresh =>
    have marked : Keyed AccessToken.tokenHash (db.tokens.map fun row =>
        if row.userId = user.id ∧ row.purpose = token.purpose ∧ row.usedAt = none then
          { row with usedAt := some now }
        else row) := by
      refine keyed.tokens.map fun row _ => ?_
      split <;> rfl
    refine { keyed with tokens := marked.concat fun row inside => ?_ }
    obtain ⟨old, oldMember, rfl⟩ := List.mem_map.mp inside
    have same := fresh old oldMember
    split <;> exact same
  | accessCompleted token member unused now usedAt =>
    exact { keyed with tokens := keyed.tokens.rewrite { token with usedAt := some usedAt } }
  | secretDrawn => exact keyed.writeCredential _
  | stepAccepted => exact keyed.writeCredential _
  | confirmed => exact keyed.writeCredential _
  | cleared => exact keyed.writeCredential _
  | codesDropped => exact { keyed with codes := keyed.codes.filter _ }
  | codeIssued userId codeHash fresh => exact { keyed with codes := keyed.codes.concat fresh }
  | codeAccepted row member unused now =>
    exact { keyed with codes := keyed.codes.rewrite { row with usedAt := some now } }
  | challengesDropped => exact { keyed with challenges := keyed.challenges.filter _ }
  | challengeIssued user member item owner version untried unused fresh =>
    exact { keyed with challenges := keyed.challenges.concat fresh }
  | challengeTried item =>
    exact { keyed with
      challenges := keyed.challenges.rewrite { item with attempts := item.attempts + 1 } }
  | challengeOpened item member unused now =>
    exact { keyed with
      challenges := keyed.challenges.rewrite { item with usedAt := some now } }

/-- The stored row of a session that a request holds. -/
def Stored (db : Database) (session : LoginSession) : Prop :=
  ∃ row ∈ db.sessions, row.id = session.id ∧ row.userId = session.userId ∧
    row.tokenHash = session.tokenHash ∧ row.userVersion = session.userVersion

theorem Change.stored (change : Change db events after) {session : LoginSession}
    (stored : Stored db session) :
    Stored after session := by
  cases change with
  | sessionsWritten write keeps =>
    obtain ⟨row, member, id, userId, tokenHash, userVersion⟩ := stored
    exact ⟨write row, List.mem_map_of_mem member, (keeps.id row).trans id,
      (keeps.userId row).trans userId, (keeps.tokenHash row).trans tokenHash,
      (keeps.userVersion row).trans userVersion⟩
  | sessionIssued =>
    obtain ⟨row, member, same⟩ := stored
    exact ⟨row, List.mem_append_left _ member, same⟩
  | _ => exact stored

theorem Changes.stored (changes : Changes db events after) {session : LoginSession}
    (stored : Stored db session) :
    Stored after session := by
  induction changes with
  | done => exact stored
  | step first _ inductionHypothesis => exact inductionHypothesis (Change.stored first stored)

theorem Changes.wellKeyed (changes : Changes db events after) (keyed : WellKeyed db) :
    WellKeyed after := by
  induction changes with
  | done => exact keyed
  | step first _ inductionHypothesis => exact inductionHypothesis (Change.wellKeyed first keyed)

/-- Unique columns, and a stored row for every session that a request holds. -/
structure Coherent (system : System) : Prop where
  keyed : WellKeyed system.db
  loaded : ∀ request user session now,
    system.waiting request = some (.loaded user session now) → Stored system.db session
  admitted : ∀ request user session,
    system.waiting request = some (.admitted user session) → Stored system.db session

/-- What one step does: its changes, with the events that it adds to the log. -/
def Advances (system next : System) : Prop :=
  ∃ events, next.log = system.log ++ events ∧ Changes system.db events next.db

theorem Advances.refl {system next : System} (db : next.db = system.db)
    (log : next.log = system.log) : Advances system next :=
  ⟨[], by rw [log, List.append_nil], db ▸ .done _⟩

/-- Something issued to a user at a version that the user has not left: it is not
newer than the user, and while the user has the version, no increase followed. -/
def Versioned (db : Database) (log : List Event) (issued : Event → Prop) (userId : String)
    (userVersion : ℕ) : Prop :=
  ∃ user ∈ db.users, user.id = userId ∧ userVersion ≤ user.tokenVersion ∧
    (userVersion = user.tokenVersion → Since issued (· = .versionIncreased userId) log)

omit [Cryptography] in
theorem Versioned.append {log events : List Event} {issued : Event → Prop} {userId : String}
    {userVersion : ℕ} (versioned : Versioned db log issued userId userVersion)
    (users : after.users = db.users) (harmless : ∀ event ∈ events, event ≠ .versionIncreased userId) :
    Versioned after (log ++ events) issued userId userVersion := by
  obtain ⟨user, member, id, older, since⟩ := versioned
  exact ⟨user, users ▸ member, id, older, fun same => (since same).append harmless⟩

/-- Only an increase of the version makes something issued older than its user. -/
theorem Change.versioned {log events : List Event} {issued : Event → Prop} {userId : String}
    {userVersion : ℕ} (change : Change db events after) (keyed : WellKeyed db)
    (versioned : Versioned db log issued userId userVersion) :
    Versioned after (log ++ events) issued userId userVersion := by
  cases change with
  | passwordStored =>
    obtain ⟨user, member, id, older, since⟩ := versioned
    rw [List.append_nil]
    refine ⟨_, List.mem_map_of_mem member, ?_, ?_, ?_⟩
    · split <;> exact id
    · split <;> exact older
    · split <;> exact since
  | bootstrapped user incomplete nobody =>
    obtain ⟨user, member, _⟩ := versioned
    rw [nobody] at member
    exact nomatch member
  | userAdded =>
    obtain ⟨user, member, rest⟩ := versioned
    rw [List.append_nil]
    exact ⟨user, List.mem_append_left _ member, rest⟩
  | userWritten user next member id version =>
    obtain ⟨row, rowMember, rowId, older, since⟩ := versioned
    rw [List.append_nil]
    by_cases same : row.id = next.id
    · obtain rfl := keyed.users.eq_of_key rowMember member (same.trans id)
      exact ⟨next, next_mem_rewritten rowMember same, same ▸ rowId, version ▸ older,
        version ▸ since⟩
    · exact ⟨row, mem_rewritten_of_ne rowMember same, rowId, older, since⟩
  | versionIncreased user next member id version =>
    obtain ⟨row, rowMember, rowId, older, since⟩ := versioned
    by_cases same : row.id = next.id
    · -- the version of the user moves past the one that it was issued at
      obtain rfl := keyed.users.eq_of_key rowMember member (same.trans id)
      refine ⟨next, next_mem_rewritten rowMember same, same ▸ rowId, by omega, fun reached => ?_⟩
      omega
    · refine ⟨row, mem_rewritten_of_ne rowMember same, rowId, older, fun reached => ?_⟩
      refine (since reached).append fun event single raised => same ?_
      rw [List.mem_singleton.mp single] at raised
      rw [rowId, id]
      exact (Event.versionIncreased.inj raised).symm
  | _ => exact versioned.append rfl (by simp)

variable [CaseMapping] (settings : Settings)

omit [Cryptography] [CaseMapping] in
/-- A session that was touched is stored under the hash that the request holds, and
is not revoked. -/
theorem touched_stored {db : Database} (keyed : WellKeyed db) {session : LoginSession}
    (stored : Stored db session) {now : Instant}
    (touched : db.sessions.any (touches settings session now) = true) :
    ∃ row ∈ db.sessions, row.tokenHash = session.tokenHash ∧ row.revokedAt = none := by
  obtain ⟨row, member, same, _, tokenHash, _⟩ := stored
  obtain ⟨other, otherMember, selected⟩ := List.any_eq_true.mp touched
  simp only [touches, Bool.and_eq_true, decide_eq_true_eq, Option.isNone_iff_eq_none] at selected
  obtain rfl : other = row :=
    keyed.sessionIds.eq_of_key otherMember member (selected.1.1.1.trans same.symm)
  exact ⟨other, otherMember, tokenHash, selected.1.1.2⟩

omit [CaseMapping] in
theorem touching_change (db : Database) (session : LoginSession) (now : Instant) :
    Change db [] (db.writeSessions (touches settings session now) fun row =>
      { row with lastSeenAt := now }) := by
  have keeps : KeepsSession fun row => { row with lastSeenAt := now } :=
    ⟨fun _ => rfl, fun _ => rfl, fun _ => rfl, fun _ => rfl, fun _ => id⟩
  exact writeSessions_change keeps

omit [CaseMapping] in
/-- Touching a session and admitting its request. -/
theorem admit_changes {db : Database} (keyed : WellKeyed db) {session : LoginSession}
    (stored : Stored db session) {user : User} {now : Instant} {pathAllowed : Bool} {done : Unit} :
    let touched := db.writeSessions (touches settings session now) fun row =>
      { row with lastSeenAt := now }
    admission settings touched user session (db.sessions.any (touches settings session now))
        pathAllowed = .ok done →
      Changes db [.sessionAccepted session.tokenHash] touched := by
  intro touched passed
  obtain ⟨_, checked, _⟩ := Fallible.bind_eq_ok.mp passed
  obtain ⟨row, member, tokenHash, unrevoked⟩ :=
    touched_stored settings keyed stored (ensure_eq_ok.mp checked)
  have accepted : Change db [.sessionAccepted session.tokenHash] db := by
    rw [← tokenHash]
    exact .sessionAccepted row member unrevoked
  exact .step accepted (touching_change settings db session now).changes

/-- A step makes the changes of its transaction, or none. -/
theorem step_advances {system : System} (coherent : Coherent system) (action : Step) :
    Advances system (step settings system action) := by
  cases action with
  | load request raw now =>
    unfold step
    dsimp only
    split <;> exact .refl rfl rfl
  | authorize request pathAllowed =>
    unfold step
    dsimp only
    split
    · rename_i user session now held
      split
      · exact ⟨[], (List.append_nil _).symm,
          (touching_change settings system.db session now).changes⟩
      · rename_i done passed
        exact ⟨[.sessionAccepted session.tokenHash], rfl,
          admit_changes settings coherent.keyed (coherent.loaded request user session now held)
            passed⟩
    · exact .refl rfl rfl
  | identify request email password rehashed =>
    unfold step
    dsimp only
    split <;> exact .refl rfl rfl
  | perform request operation clock =>
    unfold step
    dsimp only
    split
    · exact .refl rfl rfl
    · rename_i db events committed
      exact ⟨events, rfl, perform_changes settings committed⟩

omit [CaseMapping] in
/-- A request that holds something new of a session has just read its stored row. -/
theorem hold_coherent {system next : System} (coherent : Coherent system)
    (advances : Advances system next) {request : ℕ} {held : Option Waiting}
    (waiting : next.waiting = Function.update system.waiting request held)
    (loaded : ∀ user session now, held = some (.loaded user session now) →
      Stored system.db session)
    (admitted : ∀ user session, held = some (.admitted user session) → Stored system.db session) :
    Coherent next := by
  obtain ⟨events, _, changes⟩ := advances
  refine ⟨Changes.wellKeyed changes coherent.keyed, ?_, ?_⟩
  · intro other user session now holds
    apply Changes.stored changes
    rw [waiting] at holds
    by_cases same : other = request
    · subst same
      rw [Function.update_self] at holds
      exact loaded user session now holds
    · rw [Function.update_of_ne same] at holds
      exact coherent.loaded other user session now holds
  · intro other user session holds
    apply Changes.stored changes
    rw [waiting] at holds
    by_cases same : other = request
    · subst same
      rw [Function.update_self] at holds
      exact admitted user session holds
    · rw [Function.update_of_ne same] at holds
      exact coherent.admitted other user session holds

/-- A request holds only what it has read of stored rows. -/
theorem step_coherent {system : System} (coherent : Coherent system) (action : Step) :
    Coherent (step settings system action) := by
  have advances := step_advances settings coherent action
  revert advances
  cases action with
  | load request raw now =>
    unfold step
    dsimp only
    split
    · exact fun advances => hold_coherent coherent advances rfl
        (fun _ _ _ held => nomatch held) fun _ _ held => nomatch held
    · rename_i user session loads
      intro advances
      refine hold_coherent coherent advances rfl (fun _ _ _ held => ?_) fun _ _ held => nomatch held
      cases held
      obtain ⟨_, _, loads⟩ := Fallible.bind_eq_ok.mp loads
      obtain ⟨row, found, loads⟩ := Fallible.bind_eq_ok.mp loads
      obtain ⟨_, _, loads⟩ := Fallible.bind_eq_ok.mp loads
      obtain ⟨_, _, same⟩ := Fallible.bind_eq_ok.mp loads
      cases Except.ok.inj same
      exact ⟨session, List.mem_of_find?_eq_some (found_eq_ok.mp found), rfl, rfl, rfl, rfl⟩
  | authorize request pathAllowed =>
    unfold step
    dsimp only
    split
    · rename_i user session now held
      split
      · exact fun advances => hold_coherent coherent advances rfl
          (fun _ _ _ held => nomatch held) fun _ _ held => nomatch held
      · intro advances
        refine hold_coherent coherent advances rfl (fun _ _ _ held => nomatch held)
          fun _ _ same => ?_
        cases same
        exact coherent.loaded request user session now held
    · exact fun advances => hold_coherent coherent advances rfl
        (fun _ _ _ held => nomatch held) fun _ _ held => nomatch held
  | identify request email password rehashed =>
    unfold step
    dsimp only
    split
    · exact fun advances => hold_coherent coherent advances rfl
        (fun _ _ _ held => nomatch held) fun _ _ held => nomatch held
    · exact fun advances => hold_coherent coherent advances rfl
        (fun _ _ _ held => nomatch held) fun _ _ held => nomatch held
  | perform request operation clock =>
    unfold step
    dsimp only
    split
    · exact fun advances => hold_coherent coherent advances rfl
        (fun _ _ _ held => nomatch held) fun _ _ held => nomatch held
    · intro advances
      refine hold_coherent coherent advances rfl (fun _ _ _ held => ?_) fun _ _ held => ?_
      · split at held <;> exact nomatch held
      · split at held <;> exact nomatch held

/-- The system after a run of steps. -/
def systemAfter (steps : List Step) : System := Interleavings.run (step settings) initial steps

omit [Cryptography] [CaseMapping] in
theorem initial_coherent : Coherent initial :=
  ⟨⟨List.nodup_nil, List.nodup_nil, List.nodup_nil, List.nodup_nil, List.nodup_nil,
    List.nodup_nil, List.nodup_nil⟩, (fun _ _ _ _ held => nomatch held),
    (fun _ _ _ held => nomatch held)⟩

/-- The rule of runs: what every change of keyed tables keeps, every run keeps. -/
theorem run_invariant (kept : Database → List Event → Prop)
    (change : ∀ {db after events log}, WellKeyed db → Change db events after → kept db log →
      kept after (log ++ events)) {system : System} (coherent : Coherent system)
    (initially : kept system.db system.log) (steps : List Step) :
    let after := Interleavings.run (step settings) system steps
    Coherent after ∧ kept after.db after.log := by
  have changes {db after : Database} {events log : List Event} (changes : Changes db events after)
      (holds : WellKeyed db ∧ kept db log) : kept after (log ++ events) :=
    (Changes.invariant (fun db log => WellKeyed db ∧ kept db log)
      (fun first both => ⟨Change.wellKeyed first both.1, change both.1 first both.2⟩) changes
      holds).2
  have stepped (system : System) (action : Step)
      (holds : Coherent system ∧ kept system.db system.log) :
      Coherent (step settings system action) ∧
        kept (step settings system action).db (step settings system action).log := by
    obtain ⟨events, log, advanced⟩ := step_advances settings holds.1 action
    rw [log]
    exact ⟨step_coherent settings holds.1 action, changes advanced ⟨holds.1.keyed, holds.2⟩⟩
  exact Interleavings.run_invariant_of_kept
    (fun system : System => Coherent system ∧ kept system.db system.log) ⟨coherent, initially⟩
    stepped steps

theorem systemAfter_coherent (steps : List Step) : Coherent (systemAfter settings steps) :=
  (run_invariant settings (fun _ _ => True) (fun _ _ _ => trivial) initial_coherent trivial
    steps).1

theorem systemAfter_invariant (kept : Database → List Event → Prop)
    (initially : kept emptyDatabase [])
    (change : ∀ {db after events log}, WellKeyed db → Change db events after → kept db log →
      kept after (log ++ events)) (steps : List Step) :
    kept (systemAfter settings steps).db (systemAfter settings steps).log :=
  (run_invariant settings kept change initial_coherent initially steps).2

section Sample

/-- A cookie of the length that is read. -/
def cookie (mark : Char) : String := String.ofList (List.replicate 43 mark)

/-- The SHA-256 digests of the tokens and of the recovery code of the samples. -/
def sampleDigests : List (String × String) :=
  [(cookie 'a', "66d34fba71f8f450f7e45598853e53bfc23bbd129027cbb131a2f4ffd7878cd0"),
    (cookie 'b', "f01b57226261ae3756b93936e1c4e6b849f9a5b0933fa3b91843bf4195b9d964"),
    (cookie 'c', "0c49d89230696ff3c031ca5a128a4e121e3589bf872c17fa04487ed0cc245d21"),
    (cookie 'd', "9fb93e93b2f42ab1d60660300c454df7c90a2e61647223c1a725f39390cccdae"),
    ("u:code", "14150e32020ee84a9ce99b8e0ecfb932dc499685be08c520890b078b70140495")]

/-- Passwords and secrets that are stored as they are, and codes that alternate. -/
abbrev plainCryptography : Cryptography where
  cipherAvailable := true
  digest text := ((sampleDigests.find? (·.1 = text)).map Prod.snd).getD text
  verifyPassword password passwordHash := password == passwordHash
  needsRehash _ := false
  encrypt _ secret := some ⟨secret⟩
  decrypt token := some token.text
  totp _ step := if step % 2 = 0 then "000000" else "111111"
  decrypt_encrypt := by
    intro nonce secret token plain encrypted plainOf
    obtain rfl := Option.some.inj encrypted
    exact (Option.some.inj plainOf).symm

def oneHour : Settings := ⟨60, 60, false, false⟩

end Sample

end FinopsAnalytics.AccountRuns
