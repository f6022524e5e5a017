import FinopsAnalytics.AccountChanges

/-!
# Transactions as sequences of changes

One lemma for each service and each operation: when it commits, what it leaves is
reached by changes that list its events. The reads under the lock supply the
conditions of the changes.
-/

namespace FinopsAnalytics.AccountTransactions

open PythonText AccountStore AccountRequests AccountChanges Fallible

section Services

variable [Cryptography] (settings : Settings)

variable {db after : Database} {user : User} {events : List Event}

/-- `new_session` adds one row. -/
theorem newSession_changes {mfaVerified : Bool} {now : Instant} {sessionId raw : String}
    (member : user ∈ db.users)
    (committed : newSession settings db user mfaVerified now sessionId raw = .ok (after, events)) :
    Changes db events after := by
  obtain ⟨_, fresh, same⟩ := bind_eq_ok.mp committed
  obtain ⟨rfl, rfl⟩ := Prod.mk.inj (Except.ok.inj same)
  exact (Change.sessionIssued user member _ rfl rfl (ensure_eq_ok.mp fresh)).changes

/-- `issue_token` uses up the earlier tokens and adds one row. -/
theorem issueToken_changes {purpose : Purpose} {now : Instant} {raw : String}
    (member : user ∈ db.users)
    (committed : issueToken db user purpose now raw = .ok (after, events)) :
    Changes db events after := by
  obtain ⟨_, fresh, same⟩ := bind_eq_ok.mp committed
  obtain ⟨rfl, rfl⟩ := Prod.mk.inj (Except.ok.inj same)
  exact (Change.tokenIssued user member
    ⟨user.id, digest raw, purpose, user.tokenVersion, _, none⟩ now rfl rfl rfl
    (ensure_eq_ok.mp fresh)).changes

/-- `challenge` drops the challenges of the user and adds one. -/
theorem challenge_changes {now : Instant} {raw : String} (member : user ∈ db.users)
    (committed : challenge db user now raw = .ok (after, events)) : Changes db events after := by
  obtain ⟨_, fresh, same⟩ := bind_eq_ok.mp committed
  obtain ⟨rfl, rfl⟩ := Prod.mk.inj (Except.ok.inj same)
  let kept : MfaChallenge → Bool := fun row =>
    !(decide (row.expiresAt < now)) && decide (row.userId ≠ user.id)
  let item : MfaChallenge :=
    ⟨digest raw, user.id, user.tokenVersion, now + minutes 5, 0, none⟩
  let dropped : Database := { db with challenges := db.challenges.filter kept }
  have drops : Change db [] dropped := .challengesDropped kept
  have stays : user ∈ dropped.users := member
  have issues : Change dropped [.challengeIssued user.id item.tokenHash]
      { dropped with challenges := dropped.challenges ++ [item] } :=
    .challengeIssued user stays item rfl rfl rfl rfl (ensure_eq_ok.mp fresh)
  exact .step drops issues.changes

/-- Codes are issued one after the other. -/
theorem codesIssued_changes (db : Database) (userId : String) (hashes : List String)
    (distinct : (db.codes.map (·.codeHash) ++ hashes).Nodup) :
    Changes db (hashes.map (Event.codeIssued userId))
      { db with codes := db.codes ++ hashes.map fun codeHash => ⟨userId, codeHash, none⟩ } := by
  induction hashes generalizing db with
  | nil =>
    rw [List.map_nil, List.map_nil, List.append_nil]
    exact .done db
  | cons codeHash rest inductionHypothesis =>
    have fresh : ∀ row ∈ db.codes, row.codeHash ≠ codeHash := by
      intro row member same
      exact (List.nodup_append.mp distinct).2.2 row.codeHash (List.mem_map_of_mem member) codeHash
        (List.mem_cons_self ..) same
    have later := inductionHypothesis
      { db with codes := db.codes ++ [⟨userId, codeHash, none⟩] }
      (by simpa using distinct)
    have first := Change.codeIssued userId codeHash fresh
    simp only [List.append_assoc, List.cons_append, List.nil_append] at later
    exact .step first later

/-- `recovery_codes` drops the codes of the user and adds those drawn. -/
theorem recoveryCodes_changes {userId : String} {drawn : List String}
    (committed : recoveryCodes db userId drawn = .ok (after, events)) :
    Changes db events after ∧ after.users = db.users ∧ after.sessions = db.sessions := by
  obtain ⟨_, distinct, same⟩ := bind_eq_ok.mp committed
  obtain ⟨rfl, rfl⟩ := Prod.mk.inj (Except.ok.inj same)
  refine ⟨.step (Change.codesDropped userId) ?_, rfl, rfl⟩
  have issued := codesIssued_changes { db with codes := db.codes.filter (·.userId ≠ userId) } userId
    (drawn.map fun code => digest (userId ++ ":" ++ code))
    (by simpa [Function.comp_def] using ensure_eq_ok.mp distinct)
  simpa [Function.comp_def] using issued

/-- The factor, the codes and challenges, the sessions and the version, in turn. -/
theorem resetMfa_changes {db : Database} (member : user ∈ db.users) (now : Instant) :
    Changes db (resetMfa db user now).2 (resetMfa db user now).1 := by
  let cleared := db.writeCredential
    { (db.credential user.id).getD (blankCredential user.id) with
      secret := none
      enabledAt := none
      pendingSecret := none
      pendingSessionId := none
      pendingExpiresAt := none
      lastStep := -1
      resetRequired := true }
  let dropped := { cleared with codes := cleared.codes.filter (·.userId ≠ user.id) }
  let challenged := { dropped with
    challenges := dropped.challenges.filter (·.userId ≠ user.id) }
  have clears : Change db [] cleared := .cleared _ rfl rfl
  have drops : Change cleared [.codesDropped user.id] dropped := .codesDropped user.id
  have challenges : Change dropped [] challenged := .challengesDropped _
  have stays : user ∈ challenged.users := member
  have increases : Changes challenged [.versionIncreased user.id]
      ((revokeSessions challenged user.id now).writeUser
        { user with tokenVersion := user.tokenVersion + 1 }) :=
    increase_changes now stays rfl rfl .inl
  exact .step clears (.step drops (.step challenges increases))

variable [CaseMapping]

variable {clock : Readings} {events : List Event}

/-- An accepted factor of a stored credential is one change, which touches neither
users nor sessions. -/
theorem verifyFactor_changes {db after : Database} {item : MfaCredential} {code : String}
    (member : item ∈ db.credentials)
    (accepted : verifyFactor db item code clock = .ok (some (after, events))) :
    Changes db events after ∧ after.users = db.users ∧ after.sessions = db.sessions ∧
      after.challenges = db.challenges := by
  obtain ⟨userId, secret, enabledAt, lastStep, resetRequired, pendingSecret, pendingExpiresAt,
    pendingSessionId⟩ := item
  unfold verifyFactor at accepted
  cases secret with
  | none => exact nomatch accepted
  | some token =>
    obtain ⟨secret, plain, accepted⟩ := bind_eq_ok.mp accepted
    have decrypts : decrypt token = some secret := decrypted_eq_ok plain
    cases matched : matchedStep secret code lastStep (clock 0) with
    | some step =>
      rw [matched] at accepted
      obtain ⟨rfl, rfl⟩ := Prod.mk.inj (Option.some.inj (Except.ok.inj accepted))
      exact ⟨(Change.stepAccepted _ member token rfl secret decrypts step
        (lt_of_matchedStep matched)).changes, rfl, rfl, rfl⟩
    | none =>
      rw [matched] at accepted
      dsimp only at accepted
      split at accepted
      · exact nomatch accepted
      · split at accepted
        · exact nomatch accepted
        · rename_i row found
          obtain ⟨rfl, rfl⟩ := Prod.mk.inj (Option.some.inj (Except.ok.inj accepted))
          have selected := List.find?_some found
          simp only [Bool.and_eq_true, Option.isNone_iff_eq_none] at selected
          exact ⟨(Change.codeAccepted row (List.mem_of_find?_eq_some found) selected.2
            (clock 1)).changes, rfl, rfl, rfl⟩

/-- A required factor accepts a step or a code. -/
theorem requireFactor_changes {db after : Database} {user : User} {code : String}
    (committed : requireFactor db user code clock = .ok (after, events)) :
    Changes db events after ∧ after.users = db.users ∧ after.sessions = db.sessions := by
  unfold requireFactor at committed
  cases current : db.credential user.id with
  | none =>
    rw [current] at committed
    obtain ⟨rfl, rfl⟩ := Prod.mk.inj (Except.ok.inj committed)
    exact ⟨.done db, rfl, rfl⟩
  | some item =>
    rw [current] at committed
    dsimp only at committed
    split at committed
    · obtain ⟨rfl, rfl⟩ := Prod.mk.inj (Except.ok.inj committed)
      exact ⟨.done db, rfl, rfl⟩
    · obtain ⟨accepted, verified, committed⟩ := bind_eq_ok.mp committed
      obtain rfl := found_eq_ok.mp committed
      obtain ⟨changes, users, sessions, _⟩ :=
        verifyFactor_changes (mem_of_credential current).1 verified
      exact ⟨changes, users, sessions⟩

omit [Cryptography] [CaseMapping] in
/-- What the recheck of the acting administrator found. -/
theorem lockAndRecheckAdmin_ok {db : Database} {actor : User} {done : Unit}
    (passed : lockAndRecheckAdmin db actor = .ok done) :
    ∃ current ∈ db.users, current.id = actor.id ∧ current.isActive = true ∧
      current.role = .admin ∧ current.tokenVersion = actor.tokenVersion := by
  obtain ⟨current, read, checked⟩ := bind_eq_ok.mp passed
  obtain ⟨member, same⟩ := mem_of_user? (found_eq_ok.mp read)
  exact ⟨current, member, same, ensure_eq_ok.mp checked⟩

omit [Cryptography] [CaseMapping] in
/-- The user and the session of a locked transaction are the stored ones, at the
version of the session that was admitted. -/
theorem lockedUser_ok {db : Database} {user current : User} {session row : LoginSession}
    {now : Instant} (locked : lockedUser settings db user session now = .ok (current, row)) :
    current ∈ db.users ∧ current.id = user.id ∧ current.tokenVersion = session.userVersion ∧
      row ∈ db.sessions ∧ row.id = session.id := by
  obtain ⟨read, readUser, locked⟩ := bind_eq_ok.mp locked
  obtain ⟨readRow, readSession, locked⟩ := bind_eq_ok.mp locked
  obtain ⟨_, checked, same⟩ := bind_eq_ok.mp locked
  obtain ⟨rfl, rfl⟩ := Prod.mk.inj (Except.ok.inj same)
  obtain ⟨userMember, sameUser⟩ := mem_of_user? (found_eq_ok.mp readUser)
  obtain ⟨sessionMember, sameSession⟩ := mem_of_session? (found_eq_ok.mp readSession)
  exact ⟨userMember, sameUser, (ensure_eq_ok.mp checked).2.2.1, sessionMember, sameSession⟩

/-- What a passed proof leaves: the locked user, and a factor accepted. -/
theorem proof_ok {db proven : Database} {user current : User} {session row : LoginSession}
    {password code : String} (passed : proof settings db user session password code clock =
      .ok (current, row, proven, events)) :
    current ∈ db.users ∧ current.id = user.id ∧ current.tokenVersion = session.userVersion ∧
      Changes db events proven ∧ proven.users = db.users ∧ proven.sessions = db.sessions := by
  obtain ⟨⟨readUser, readRow⟩, locked, passed⟩ := bind_eq_ok.mp passed
  obtain ⟨_, _, passed⟩ := bind_eq_ok.mp passed
  obtain ⟨⟨after, accepted⟩, required, same⟩ := bind_eq_ok.mp passed
  cases Except.ok.inj same
  obtain ⟨member, sameId, version, _⟩ := lockedUser_ok settings locked
  exact ⟨member, sameId, version, requireFactor_changes required⟩

end Services

section Administration

variable [Cryptography] (settings : Settings)

variable {db after : Database} {events : List Event} {actor : User} {now : Instant}

/-- A new user row is a permitted change and is then stored. -/
theorem addUser_changes {user : User} {refusal : HttpError}
    (added : db.addUser user refusal = .ok after) : Changes db [] after ∧ user ∈ after.users := by
  obtain ⟨_, fresh, same⟩ := bind_eq_ok.mp added
  obtain rfl := Except.ok.inj same
  exact ⟨(Change.userAdded user fun row member =>
    (ensure_eq_ok.mp fresh row member).1).changes, by simp⟩

/-- The bootstrap adds the first user, or nothing. -/
theorem bootstrapAdmin_changes {email password passwordHash newId : String}
    (committed : bootstrapAdmin db email password passwordHash newId = .ok (after, events)) :
    Changes db events after := by
  unfold bootstrapAdmin at committed
  by_cases complete : db.bootstrapComplete = true
  · rw [if_pos complete] at committed
    obtain ⟨rfl, rfl⟩ := Prod.mk.inj (Except.ok.inj committed)
    exact .done db
  · rw [if_neg complete] at committed
    obtain ⟨_, nobody, committed⟩ := bind_eq_ok.mp committed
    obtain ⟨_, _, committed⟩ := bind_eq_ok.mp committed
    obtain ⟨_, _, committed⟩ := bind_eq_ok.mp committed
    obtain ⟨rfl, rfl⟩ := Prod.mk.inj (Except.ok.inj committed)
    exact (Change.bootstrapped _ (Bool.eq_false_iff.mpr complete) (ensure_eq_ok.mp nobody)
      rfl).changes

/-- Creating a user is a permitted change. -/
theorem createUser_changes {name email : String} {role : UserRole} {passwordHash newId : String}
    (committed : createUser db actor name email role passwordHash newId = .ok (after, events)) :
    Changes db events after := by
  obtain ⟨_, _, committed⟩ := bind_eq_ok.mp committed
  obtain ⟨added, adds, same⟩ := bind_eq_ok.mp committed
  obtain ⟨rfl, rfl⟩ := Prod.mk.inj (Except.ok.inj same)
  exact (addUser_changes adds).1

/-- So is an invitation with its token. -/
theorem inviteUser_changes {name email : String} {role : UserRole} {passwordHash newId raw : String}
    (committed : inviteUser db actor name email role passwordHash newId now raw =
      .ok (after, events)) : Changes db events after := by
  obtain ⟨_, _, committed⟩ := bind_eq_ok.mp committed
  obtain ⟨added, adds, issued⟩ := bind_eq_ok.mp committed
  obtain ⟨changes, member⟩ := addUser_changes adds
  exact changes.trans (issueToken_changes member issued)

/-- An update that keeps role, activity and email only renames; every other one signs
the user out, and the guard leaves another administrator. -/
theorem updateUser_changes {userId : String} {changes : UserUpdate}
    (committed : updateUser db actor userId changes now = .ok (after, events)) :
    Changes db events after := by
  obtain ⟨_, _, committed⟩ := bind_eq_ok.mp committed
  obtain ⟨user, read, committed⟩ := bind_eq_ok.mp committed
  obtain ⟨_, guarded, committed⟩ := bind_eq_ok.mp committed
  obtain ⟨_, _, committed⟩ := bind_eq_ok.mp committed
  have member := (mem_of_user? (found_eq_ok.mp read)).1
  have guard := ensure_eq_ok.mp guarded
  by_cases versioned : (changes.applied user).email ≠ user.email ∨
      (changes.applied user).role ≠ user.role ∨ (changes.applied user).isActive ≠ user.isActive
  · rw [if_pos versioned] at committed
    obtain ⟨rfl, rfl⟩ := Prod.mk.inj (Except.ok.inj committed)
    refine increase_changes now member rfl rfl fun counts => ?_
    by_cases removing : (changes.applied user).role ≠ .admin ∨
        (!(changes.applied user).isActive) = true
    · right
      by_contra few
      exact guard ⟨counts, removing, by omega⟩
    · left
      rw [not_or, not_not] at removing
      have active : (changes.applied user).isActive = true := by simpa using removing.2
      have passwordSet : (changes.applied user).passwordSet = true := by
        simp only [countsAsAdmin, Bool.and_eq_true] at counts
        exact counts.2
      simp [countsAsAdmin, removing.1, active, passwordSet]
  · rw [if_neg versioned] at committed
    obtain ⟨rfl, rfl⟩ := Prod.mk.inj (Except.ok.inj committed)
    simp only [not_or, not_not] at versioned
    exact (Change.userWritten user (changes.applied user) member rfl rfl versioned.2.1 versioned.2.2
      rfl).changes

/-- So is a new access link for a user. -/
theorem issueAccess_changes {userId : String} {purpose : Purpose} {raw : String}
    (committed : issueAccess db actor userId purpose now raw = .ok (after, events)) :
    Changes db events after := by
  obtain ⟨_, _, committed⟩ := bind_eq_ok.mp committed
  obtain ⟨user, read, committed⟩ := bind_eq_ok.mp committed
  obtain ⟨_, _, issued⟩ := bind_eq_ok.mp committed
  exact issueToken_changes (mem_of_user? (found_eq_ok.mp read)).1 issued

/-- So is revoking all sessions of a user. -/
theorem revokeUserSessions_changes {userId : String}
    (committed : revokeUserSessions db actor userId now = .ok (after, events)) :
    Changes db events after := by
  obtain ⟨_, _, committed⟩ := bind_eq_ok.mp committed
  obtain ⟨_, _, same⟩ := bind_eq_ok.mp committed
  obtain ⟨rfl, rfl⟩ := Prod.mk.inj (Except.ok.inj same)
  exact (revokeSessions_change db userId now).changes

/-- So is revoking one of them. -/
theorem revokeOneUserSession_changes {userId sessionId : String}
    (committed : revokeOneUserSession db actor userId sessionId now = .ok (after, events)) :
    Changes db events after := by
  obtain ⟨_, _, committed⟩ := bind_eq_ok.mp committed
  obtain ⟨_, _, committed⟩ := bind_eq_ok.mp committed
  obtain ⟨_, _, committed⟩ := bind_eq_ok.mp committed
  obtain ⟨_, _, same⟩ := bind_eq_ok.mp committed
  obtain ⟨rfl, rfl⟩ := Prod.mk.inj (Except.ok.inj same)
  exact (writeSessions_change (keepsSession_revoked now)).changes

/-- Completing an access uses the token up, sets the password and signs the user out. -/
theorem completeAccess_changes {purpose : Purpose} {raw passwordHash : String} {clock : Readings}
    (committed : completeAccess db purpose raw passwordHash clock = .ok (after, events)) :
    Changes db events after := by
  obtain ⟨token, readToken, committed⟩ := bind_eq_ok.mp committed
  obtain ⟨user, readUser, committed⟩ := bind_eq_ok.mp committed
  obtain ⟨_, checked, same⟩ := bind_eq_ok.mp committed
  obtain ⟨rfl, rfl⟩ := Prod.mk.inj (Except.ok.inj same)
  obtain ⟨unused, unexpired, _, version, _⟩ := ensure_eq_ok.mp checked
  obtain ⟨member, owner⟩ := mem_of_user? (found_eq_ok.mp readUser)
  have completes := Change.accessCompleted token
    (List.mem_of_find?_eq_some (found_eq_ok.mp readToken)) unused (clock 0) (clock 1) unexpired user
    member owner version
  refine .step completes (increase_changes (clock 2) member rfl rfl fun counts => .inl ?_)
  simp only [countsAsAdmin, Bool.and_eq_true, decide_eq_true_eq] at counts ⊢
  exact ⟨counts.1, trivial⟩

/-- A requested reset changes tokens only. -/
theorem requestPasswordReset_changes {email raw : String}
    (committed : requestPasswordReset settings db email now raw = .ok (after, events)) :
    Changes db events after := by
  unfold requestPasswordReset at committed
  split at committed
  · split at committed
    · obtain ⟨rfl, rfl⟩ := Prod.mk.inj (Except.ok.inj committed)
      exact .done db
    · rename_i user read
      exact issueToken_changes (mem_of_reachable read) committed
  · obtain ⟨rfl, rfl⟩ := Prod.mk.inj (Except.ok.inj committed)
    exact .done db

end Administration

section SignedIn

variable [Cryptography] [CaseMapping] (settings : Settings)

variable {db after : Database} {now : Instant} {events : List Event} {user : User}
  {session : LoginSession} {clock : Readings} {sessionId raw : String}

/-- So does the recovery link of the host. -/
theorem recoveryLink_changes {email raw : String}
    (committed : recoveryLink db email now raw = .ok (after, events)) :
    Changes db events after := by
  obtain ⟨user, read, issued⟩ := bind_eq_ok.mp committed
  exact issueToken_changes (mem_of_reachable (found_eq_ok.mp read)) issued

/-- The reset of a second factor by the host. -/
theorem hostMfaReset_changes {email : String}
    (committed : hostMfaReset db email now = .ok (after, events)) :
    Changes db events after := by
  obtain ⟨user, read, same⟩ := bind_eq_ok.mp committed
  cases Except.ok.inj same
  exact resetMfa_changes (mem_of_reachable (found_eq_ok.mp read)) now

/-- A proof, the password, the next version and the sessions. -/
theorem changePassword_changes {currentPassword code passwordHash : String}
    (committed : changePassword settings db user session currentPassword code passwordHash clock =
      .ok (after, events)) : Changes db events after := by
  obtain ⟨⟨current, row⟩, locked, committed⟩ := bind_eq_ok.mp committed
  obtain ⟨_, _, committed⟩ := bind_eq_ok.mp committed
  obtain ⟨⟨proven, accepted⟩, required, same⟩ := bind_eq_ok.mp committed
  cases Except.ok.inj same
  obtain ⟨changes, users, _⟩ := requireFactor_changes required
  have member : current ∈ proven.users := users ▸ (lockedUser_ok settings locked).1
  exact changes.trans (increase_changes (clock 3) member rfl rfl .inl)

/-- A fresh proof changes the session and spends a code. -/
theorem reauthenticate_changes {password code : String}
    (committed : reauthenticate settings db user session password code clock =
      .ok (after, events)) : Changes db events after := by
  obtain ⟨⟨current, row, proven, accepted⟩, proved, same⟩ := bind_eq_ok.mp committed
  cases Except.ok.inj same
  obtain ⟨_, _, _, changes, _⟩ := proof_ok settings proved
  have touched : Change proven [] (proven.writeSessions (fun other => decide (other.id = row.id))
      fun other => { other with reauthenticatedAt := clock 3 }) :=
    writeSessions_change ⟨fun _ => rfl, fun _ => rfl, fun _ => rfl, fun _ => rfl, fun _ => id⟩
  have both := changes.trans touched.changes
  rwa [List.append_nil] at both

omit [CaseMapping] in
/-- The old cookie is signed out before the session or the challenge. -/
theorem login_changes {identified : User} {oldCookie : Option String}
    (committed : login settings db identified oldCookie clock sessionId raw =
      .ok (after, events)) : Changes db events after := by
  obtain ⟨user, read, committed⟩ := bind_eq_ok.mp committed
  obtain ⟨_, _, committed⟩ := bind_eq_ok.mp committed
  have member := (mem_of_user? (found_eq_ok.mp read)).1
  -- the session of the old cookie is revoked first
  have opens (signedOut : Database) (users : signedOut.users = db.users)
      (revoked : Changes db [] signedOut)
      (committed : (if (signedOut.credential user.id).any (·.secret.isSome) then
          challenge signedOut user (clock 1) raw
        else newSession settings signedOut user false (clock 1) sessionId raw) =
          .ok (after, events)) : Changes db events after := by
    have stays : user ∈ signedOut.users := users ▸ member
    split at committed
    · exact revoked.trans (challenge_changes stays committed)
    · exact revoked.trans (newSession_changes settings stays committed)
  cases oldCookie with
  | none => exact opens db rfl (.done db) committed
  | some old =>
    by_cases blank : old = ""
    · refine opens db rfl (.done db) ?_
      simpa [blank] using committed
    · let signedOut := db.writeSessions (fun row => decide (row.tokenHash = digest old))
        fun row => { row with revokedAt := some (clock 0) }
      have revoked : Change db [] signedOut := writeSessions_change (keepsSession_revoked (clock 0))
      refine opens signedOut rfl revoked.changes ?_
      simpa [blank] using committed

omit [Cryptography] [CaseMapping] in
/-- The later of two writes of a challenge stays. -/
theorem writeChallenge_twice (db : Database) (first second : MfaChallenge)
    (same : second.tokenHash = first.tokenHash) :
    (db.writeChallenge first).writeChallenge second = db.writeChallenge second := by
  simp only [Database.writeChallenge, List.map_map]
  congr 1
  refine List.map_congr_left fun row _ => ?_
  by_cases named : row.tokenHash = first.tokenHash
  · simp [named, same]
  · simp [named, same]

/-- A verification tries the challenge; a proven one then opens it with a session. -/
theorem verifyLogin_changes {rawChallenge code : String}
    (committed : verifyLogin settings db rawChallenge code clock sessionId raw =
      .ok (after, events)) : Changes db events after := by
  obtain ⟨item, readItem, committed⟩ := bind_eq_ok.mp committed
  obtain ⟨user, readUser, committed⟩ := bind_eq_ok.mp committed
  obtain ⟨_, checked, committed⟩ := bind_eq_ok.mp committed
  obtain ⟨verified, verifies, committed⟩ := bind_eq_ok.mp committed
  obtain ⟨member, owner⟩ := mem_of_user? (found_eq_ok.mp readUser)
  have itemMember := (mem_of_challenge? (found_eq_ok.mp readItem)).1
  obtain ⟨unused, _, remaining, _, _, version⟩ := ensure_eq_ok.mp checked
  let attempted := { item with attempts := item.attempts + 1 }
  cases verified with
  | none =>
    cases Except.ok.inj committed
    exact (Change.challengeTried item itemMember unused remaining user member owner version).changes
  | some accepted =>
    obtain ⟨proven, factor⟩ := accepted
    obtain ⟨⟨opened, issued⟩, opens, same⟩ := bind_eq_ok.mp committed
    cases Except.ok.inj same
    have proves : Changes db factor proven ∧ proven.users = db.users ∧
        proven.sessions = db.sessions ∧ proven.challenges = db.challenges := by
      cases current : db.credential user.id with
      | none =>
        rw [current] at verifies
        exact nomatch verifies
      | some credential =>
        simp only [current, verifyCredential] at verifies
        exact verifyFactor_changes (mem_of_credential current).1 verifies
    obtain ⟨changes, users, _, challenges⟩ := proves
    have stays : item ∈ proven.challenges := challenges ▸ itemMember
    have provenMember : user ∈ proven.users := users ▸ member
    have tries : Change proven [.challengeTried item.tokenHash] (proven.writeChallenge attempted) :=
      .challengeTried item stays unused remaining user provenMember owner version
    have tried : attempted ∈ (proven.writeChallenge attempted).challenges :=
      List.mem_map.mpr ⟨item, stays, if_pos rfl⟩
    let used := proven.writeChallenge { attempted with usedAt := some (clock 3) }
    have uses : Change (proven.writeChallenge attempted) [.challengeOpened item.tokenHash] used := by
      have once := Change.challengeOpened attempted tried unused (clock 3) user provenMember owner
        version
      rwa [writeChallenge_twice proven attempted { attempted with usedAt := some (clock 3) } rfl]
        at once
    have usedMember : user ∈ used.users := provenMember
    have signsIn : Changes used issued after := newSession_changes settings usedMember opens
    exact changes.trans (.step tries (.step uses signsIn))

/-- Starting an enrollment stores a pending secret. -/
theorem setup_changes {password code secret nonce : String}
    (committed : setup settings db user session password code secret nonce clock =
      .ok (after, events)) : Changes db events after := by
  obtain ⟨⟨current, row, proven, accepted⟩, proved, committed⟩ := bind_eq_ok.mp committed
  obtain ⟨token, encrypted, same⟩ := bind_eq_ok.mp committed
  cases Except.ok.inj same
  obtain ⟨_, _, _, changes, _⟩ := proof_ok settings proved
  exact changes.trans (Change.secretDrawn _ current.id secret nonce token rfl
    (found_eq_ok.mp encrypted) (clock 3 + minutes 10) row.id).changes

omit [CaseMapping] in
/-- A confirmation installs the pending secret, replaces the codes, signs the user out
and opens a session at the next version. -/
theorem confirm_changes {code : String} {drawn : List String}
    (committed : confirm settings db user session code clock sessionId raw drawn =
      .ok (after, events)) : Changes db events after := by
  obtain ⟨⟨current, row⟩, locked, committed⟩ := bind_eq_ok.mp committed
  obtain ⟨item, readItem, committed⟩ := bind_eq_ok.mp committed
  obtain ⟨token, pending, committed⟩ := bind_eq_ok.mp committed
  obtain ⟨_, _, committed⟩ := bind_eq_ok.mp committed
  obtain ⟨secret, plain, committed⟩ := bind_eq_ok.mp committed
  obtain ⟨step, _, committed⟩ := bind_eq_ok.mp committed
  obtain ⟨⟨coded, codes⟩, replaced, committed⟩ := bind_eq_ok.mp committed
  obtain ⟨⟨opened, issued⟩, opens, same⟩ := bind_eq_ok.mp committed
  cases Except.ok.inj same
  have itemMember := (mem_of_credential (found_eq_ok.mp readItem)).1
  let next := { item with
    secret := some token
    pendingSecret := none
    pendingExpiresAt := none
    pendingSessionId := none
    enabledAt := some (clock 3)
    lastStep := step
    resetRequired := false }
  have installs : Change db [.stepAccepted secret step] (db.writeCredential next) :=
    .confirmed item next itemMember token (found_eq_ok.mp pending) secret (decrypted_eq_ok plain)
      step rfl rfl rfl rfl
  obtain ⟨changes, users, _⟩ := recoveryCodes_changes replaced
  have member : current ∈ coded.users := users ▸ (lockedUser_ok settings locked).1
  let bumped := { current with tokenVersion := current.tokenVersion + 1 }
  let signedOut := (revokeSessions coded current.id (clock 4)).writeUser bumped
  have increases : Changes coded [.versionIncreased current.id] signedOut :=
    increase_changes (clock 4) member rfl rfl .inl
  have bumpedMember : bumped ∈ signedOut.users :=
    List.mem_map.mpr ⟨current, member, if_pos rfl⟩
  have signsIn : Changes signedOut issued after := newSession_changes settings bumpedMember opens
  exact (Changes.step installs changes).trans (increases.trans signsIn)

/-- New recovery codes replace the old ones. -/
theorem regenerate_changes {password code : String} {drawn : List String}
    (committed : regenerate settings db user session password code clock drawn =
      .ok (after, events)) : Changes db events after := by
  obtain ⟨⟨current, row, proven, accepted⟩, proved, committed⟩ := bind_eq_ok.mp committed
  obtain ⟨_, _, committed⟩ := bind_eq_ok.mp committed
  obtain ⟨⟨coded, codes⟩, replaced, same⟩ := bind_eq_ok.mp committed
  cases Except.ok.inj same
  obtain ⟨_, _, _, changes, _⟩ := proof_ok settings proved
  exact changes.trans (recoveryCodes_changes replaced).1

/-- The reset of a second factor by an administrator. -/
theorem adminReset_changes {actor : User} {userId password code : String}
    (committed : adminReset settings db actor session userId password code clock =
      .ok (after, events)) : Changes db events after := by
  obtain ⟨_, _, committed⟩ := bind_eq_ok.mp committed
  obtain ⟨⟨current, row, proven, accepted⟩, proved, committed⟩ := bind_eq_ok.mp committed
  obtain ⟨_, _, committed⟩ := bind_eq_ok.mp committed
  obtain ⟨_, _, committed⟩ := bind_eq_ok.mp committed
  obtain ⟨user, read, committed⟩ := bind_eq_ok.mp committed
  obtain ⟨_, _, same⟩ := bind_eq_ok.mp committed
  cases Except.ok.inj same
  obtain ⟨_, _, _, changes, _⟩ := proof_ok settings proved
  exact changes.trans (resetMfa_changes (mem_of_user? (found_eq_ok.mp read)).1 (clock 3))

omit [CaseMapping] in
/-- Logging out everywhere revokes sessions. -/
theorem logoutAll_changes
    (committed : logoutAll settings db user session clock = .ok (after, events)) :
    Changes db events after := by
  obtain ⟨⟨current, row⟩, _, same⟩ := bind_eq_ok.mp committed
  cases Except.ok.inj same
  exact (revokeSessions_change db current.id (clock 1)).changes

omit [CaseMapping] in
/-- Logging out revokes the current session. -/
theorem logout_changes (committed : logout db session now = .ok (after, events)) :
    Changes db events after := by
  cases Except.ok.inj committed
  exact (writeSessions_change (keepsSession_revoked now)).changes

omit [CaseMapping] in
/-- A user revokes one of their own sessions. -/
theorem revokeSession_changes {sessionId : String}
    (committed : revokeSession db user sessionId now = .ok (after, events)) :
    Changes db events after := by
  obtain ⟨_, _, same⟩ := bind_eq_ok.mp committed
  cases Except.ok.inj same
  exact (writeSessions_change (keepsSession_revoked now)).changes

/-- Every committed transaction is a sequence of changes. -/
theorem perform_changes {operation : Operation} {waiting : Option Waiting}
    (committed : perform settings operation waiting clock db = .ok (after, events)) :
    Changes db events after := by
  unfold perform at committed
  split at committed
  · exact bootstrapAdmin_changes committed
  · exact completeAccess_changes committed
  · exact requestPasswordReset_changes settings committed
  · exact recoveryLink_changes committed
  · exact hostMfaReset_changes committed
  · exact verifyLogin_changes settings committed
  · exact login_changes settings committed
  · cases Except.ok.inj committed
    exact (Change.passwordStored _ _).changes
  · exact createUser_changes (bind_eq_ok.mp committed).choose_spec.2
  · exact updateUser_changes (bind_eq_ok.mp committed).choose_spec.2
  · exact inviteUser_changes (bind_eq_ok.mp committed).choose_spec.2
  · exact issueAccess_changes (bind_eq_ok.mp committed).choose_spec.2
  · exact revokeUserSessions_changes (bind_eq_ok.mp committed).choose_spec.2
  · exact revokeOneUserSession_changes (bind_eq_ok.mp committed).choose_spec.2
  · exact changePassword_changes settings committed
  · exact setup_changes settings committed
  · exact confirm_changes settings committed
  · exact regenerate_changes settings committed
  · exact adminReset_changes settings committed
  · exact reauthenticate_changes settings committed
  · exact logoutAll_changes settings committed
  · exact logout_changes committed
  · exact revokeSession_changes committed
  · exact nomatch committed

end SignedIn

end FinopsAnalytics.AccountTransactions
