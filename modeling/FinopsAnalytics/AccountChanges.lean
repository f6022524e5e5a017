import FinopsAnalytics.AccountRequests

/-!
# What a committed transaction does to the accounts

Every committed transaction is a sequence of changes. A change writes one table,
under the conditions that its transaction has checked by then, and it issues or
accepts at most one thing. What the changes keep, the transactions keep.
-/

namespace FinopsAnalytics.AccountChanges

open AccountStore AccountRequests Fallible

/-- A write of a session row that keeps what the row stands for. -/
structure KeepsSession (write : LoginSession → LoginSession) : Prop where
  id : ∀ row, (write row).id = row.id
  userId : ∀ row, (write row).userId = row.userId
  tokenHash : ∀ row, (write row).tokenHash = row.tokenHash
  userVersion : ∀ row, (write row).userVersion = row.userVersion
  revokedAt : ∀ row, row.revokedAt.isSome = true → (write row).revokedAt.isSome = true

/-- A user found is stored under the id asked for. -/
theorem mem_of_user? {db : Database} {userId : String} {user : User}
    (found : db.user? userId = some user) : user ∈ db.users ∧ user.id = userId :=
  ⟨List.mem_of_find?_eq_some found, by simpa using List.find?_some found⟩

/-- So is a session. -/
theorem mem_of_session? {db : Database} {sessionId : String} {session : LoginSession}
    (found : db.session? sessionId = some session) :
    session ∈ db.sessions ∧ session.id = sessionId :=
  ⟨List.mem_of_find?_eq_some found, by simpa using List.find?_some found⟩

/-- So is a credential. -/
theorem mem_of_credential {db : Database} {userId : String} {item : MfaCredential}
    (found : db.credential userId = some item) :
    item ∈ db.credentials ∧ item.userId = userId :=
  ⟨List.mem_of_find?_eq_some found, by simpa using List.find?_some found⟩

/-- So is a challenge, by the hash of its token. -/
theorem mem_of_challenge? {db : Database} {tokenHash : String} {item : MfaChallenge}
    (found : db.challenge? tokenHash = some item) :
    item ∈ db.challenges ∧ item.tokenHash = tokenHash :=
  ⟨List.mem_of_find?_eq_some found, by simpa using List.find?_some found⟩

/-- An account a link can reach is stored. -/
theorem mem_of_reachable {db : Database} {email : String} {user : User}
    (found : reachable db email = some user) : user ∈ db.users :=
  List.mem_of_find?_eq_some found

theorem keepsSession_revoked (now : Instant) :
    KeepsSession fun row => { row with revokedAt := some now } :=
  ⟨fun _ => rfl, fun _ => rfl, fun _ => rfl, fun _ => rfl, fun _ _ => rfl⟩

/-- No session of the user is left. -/
theorem revokeSessions_signedOut (db : Database) (userId : String) (now : Instant) :
    ∀ session ∈ (revokeSessions db userId now).sessions, session.userId = userId →
      session.revokedAt.isSome = true := by
  intro session member owner
  obtain ⟨row, rowMember, rfl⟩ := List.mem_map.mp member
  by_cases selected : (decide (row.userId = userId) && row.revokedAt.isNone) = true
  · rw [if_pos selected]
    rfl
  · rw [if_neg selected] at owner ⊢
    simpa [owner, Option.not_isSome, ← Option.isSome_iff_ne_none] using selected

section Changes

variable [Cryptography]

/-- One change, with the event that it lists, if any. -/
inductive Change (db : Database) : List Event → Database → Prop where
  | passwordStored (userId passwordHash : String) :
      Change db [] { db with users := db.users.map fun row =>
        if row.id = userId then { row with passwordHash := passwordHash } else row }
  | bootstrapped (user : User) (incomplete : db.bootstrapComplete = false)
      (nobody : db.users = []) (counts : countsAsAdmin user = true) :
      Change db [] { db with users := [user], bootstrapComplete := true }
  | userAdded (user : User) (fresh : ∀ row ∈ db.users, row.id ≠ user.id) :
      Change db [] { db with users := db.users ++ [user] }
  | userWritten (user next : User) (member : user ∈ db.users) (id : next.id = user.id)
      (tokenVersion : next.tokenVersion = user.tokenVersion) (role : next.role = user.role)
      (isActive : next.isActive = user.isActive) (passwordSet : next.passwordSet = user.passwordSet) :
      Change db [] (db.writeUser next)
  /-- A version increases when no session of the user is left, and an administrator
  who stops counting leaves another one. -/
  | versionIncreased (user next : User) (member : user ∈ db.users) (id : next.id = user.id)
      (tokenVersion : next.tokenVersion = user.tokenVersion + 1)
      (signedOut : ∀ session ∈ db.sessions, session.userId = user.id →
        session.revokedAt.isSome = true)
      (guarded : countsAsAdmin user = true → countsAsAdmin next = true ∨
        2 ≤ db.users.countP countsAsAdmin) :
      Change db [.versionIncreased user.id] (db.writeUser next)
  | sessionsWritten (write : LoginSession → LoginSession) (keeps : KeepsSession write) :
      Change db [] { db with sessions := db.sessions.map write }
  | sessionIssued (user : User) (member : user ∈ db.users) (session : LoginSession)
      (owner : session.userId = user.id) (version : session.userVersion = user.tokenVersion)
      (fresh : ∀ row ∈ db.sessions, row.id ≠ session.id ∧ row.tokenHash ≠ session.tokenHash) :
      Change db [.sessionIssued user.id session.tokenHash]
        { db with sessions := db.sessions ++ [session] }
  | sessionAccepted (session : LoginSession) (member : session ∈ db.sessions)
      (unrevoked : session.revokedAt = none) : Change db [.sessionAccepted session.tokenHash] db
  | tokenIssued (user : User) (member : user ∈ db.users) (token : AccessToken) (now : Instant)
      (owner : token.userId = user.id) (version : token.userVersion = user.tokenVersion)
      (unused : token.usedAt = none) (fresh : ∀ row ∈ db.tokens, row.tokenHash ≠ token.tokenHash) :
      Change db [.tokenIssued user.id token.purpose token.tokenHash token.expiresAt]
        { db with tokens := db.tokens.map (fun row =>
            if row.userId = user.id ∧ row.purpose = token.purpose ∧ row.usedAt = none then
              { row with usedAt := some now }
            else row) ++ [token] }
  | accessCompleted (token : AccessToken) (member : token ∈ db.tokens) (unused : token.usedAt = none)
      (now usedAt : Instant) (unexpired : now < token.expiresAt) (user : User)
      (userMember : user ∈ db.users) (owner : user.id = token.userId)
      (version : user.tokenVersion = token.userVersion) :
      Change db [.accessCompleted token.tokenHash now]
        { db with tokens := db.tokens.map fun row =>
            if row.tokenHash = token.tokenHash then { token with usedAt := some usedAt } else row }
  | secretDrawn (item : MfaCredential) (userId secret nonce : String) (token : FernetToken)
      (current : item = (db.credential userId).getD (blankCredential userId))
      (encrypted : encrypt nonce secret = some token) (expiry : Instant) (sessionId : String) :
      Change db [.secretDrawn userId secret] (db.writeCredential
        { item with
          pendingSecret := some token
          pendingExpiresAt := some expiry
          pendingSessionId := some sessionId })
  | stepAccepted (item : MfaCredential) (member : item ∈ db.credentials) (token : FernetToken)
      (held : item.secret = some token) (secret : String) (plain : decrypt token = some secret)
      (step : ℤ) (later : item.lastStep < step) :
      Change db [.stepAccepted secret step] (db.writeCredential { item with lastStep := step })
  | confirmed (item next : MfaCredential) (member : item ∈ db.credentials) (token : FernetToken)
      (pending : item.pendingSecret = some token) (secret : String)
      (plain : decrypt token = some secret) (step : ℤ) (owner : next.userId = item.userId)
      (installed : next.secret = some token) (nothingPending : next.pendingSecret = none)
      (lastStep : next.lastStep = step) :
      Change db [.stepAccepted secret step] (db.writeCredential next)
  | cleared (next : MfaCredential) (noSecret : next.secret = none)
      (nothingPending : next.pendingSecret = none) : Change db [] (db.writeCredential next)
  | codesDropped (userId : String) :
      Change db [.codesDropped userId] { db with codes := db.codes.filter (·.userId ≠ userId) }
  | codeIssued (userId codeHash : String) (fresh : ∀ row ∈ db.codes, row.codeHash ≠ codeHash) :
      Change db [.codeIssued userId codeHash]
        { db with codes := db.codes ++ [⟨userId, codeHash, none⟩] }
  | codeAccepted (row : RecoveryCode) (member : row ∈ db.codes) (unused : row.usedAt = none)
      (now : Instant) :
      Change db [.codeAccepted row.codeHash] { db with codes := db.codes.map fun other =>
        if other.codeHash = row.codeHash then { row with usedAt := some now } else other }
  | challengesDropped (kept : MfaChallenge → Bool) :
      Change db [] { db with challenges := db.challenges.filter kept }
  | challengeIssued (user : User) (member : user ∈ db.users) (item : MfaChallenge)
      (owner : item.userId = user.id) (version : item.userVersion = user.tokenVersion)
      (untried : item.attempts = 0) (unused : item.usedAt = none)
      (fresh : ∀ row ∈ db.challenges, row.tokenHash ≠ item.tokenHash) :
      Change db [.challengeIssued user.id item.tokenHash]
        { db with challenges := db.challenges ++ [item] }
  | challengeTried (item : MfaChallenge) (member : item ∈ db.challenges) (unused : item.usedAt = none)
      (remaining : item.attempts < 5) (user : User) (userMember : user ∈ db.users)
      (owner : user.id = item.userId) (version : user.tokenVersion = item.userVersion) :
      Change db [.challengeTried item.tokenHash]
        (db.writeChallenge { item with attempts := item.attempts + 1 })
  | challengeOpened (item : MfaChallenge) (member : item ∈ db.challenges)
      (unused : item.usedAt = none) (now : Instant) (user : User) (userMember : user ∈ db.users)
      (owner : user.id = item.userId) (version : user.tokenVersion = item.userVersion) :
      Change db [.challengeOpened item.tokenHash]
        (db.writeChallenge { item with usedAt := some now })

/-- Changes in a row, with their events. -/
inductive Changes : Database → List Event → Database → Prop where
  | done (db : Database) : Changes db [] db
  | step {before between after : Database} {event events : List Event}
      (first : Change before event between) (rest : Changes between events after) :
      Changes before (event ++ events) after

theorem Change.changes {before after : Database} {events : List Event}
    (change : Change before events after) : Changes before events after := by
  have single := Changes.step change (.done after)
  rwa [List.append_nil] at single

/-- Permitted changes compose, with their events. -/
theorem Changes.trans {before between after : Database} {events others : List Event}
    (first : Changes before events between) (rest : Changes between others after) :
    Changes before (events ++ others) after := by
  induction first with
  | done db => exact rest
  | step change _ inductionHypothesis =>
    rw [List.append_assoc]
    exact .step change (inductionHypothesis rest)

/-- What every change keeps, changes in a row keep. -/
theorem Changes.invariant (kept : Database → List Event → Prop)
    (change : ∀ {db after events log}, Change db events after → kept db log →
      kept after (log ++ events)) {db after : Database} {events : List Event}
    (changes : Changes db events after) {log : List Event} (holds : kept db log) :
    kept after (log ++ events) := by
  induction changes generalizing log with
  | done db => rwa [List.append_nil]
  | step first _ inductionHypothesis =>
    rw [← List.append_assoc]
    exact inductionHypothesis (change first holds)

/-- A selective write of sessions is a write of every session. -/
theorem writeSessions_change {db : Database} {selected : LoginSession → Bool}
    {write : LoginSession → LoginSession} (keeps : KeepsSession write) :
    Change db [] (db.writeSessions selected write) := by
  refine .sessionsWritten (fun row => if selected row then write row else row) ?_
  constructor <;> intro row <;> cases selected row
  · rfl
  · exact keeps.id row
  · rfl
  · exact keeps.userId row
  · rfl
  · exact keeps.tokenHash row
  · rfl
  · exact keeps.userVersion row
  · exact id
  · exact keeps.revokedAt row

/-- Revoking the sessions of a user is one change. -/
theorem revokeSessions_change (db : Database) (userId : String) (now : Instant) :
    Change db [] (revokeSessions db userId now) :=
  writeSessions_change (keepsSession_revoked now)

/-- Revoking the sessions of a user and writing the user with the next version. -/
theorem increase_changes {db : Database} {user next : User} (now : Instant)
    (member : user ∈ db.users) (id : next.id = user.id)
    (tokenVersion : next.tokenVersion = user.tokenVersion + 1)
    (guarded : countsAsAdmin user = true → countsAsAdmin next = true ∨
      2 ≤ db.users.countP countsAsAdmin) :
    Changes db [.versionIncreased user.id] ((revokeSessions db user.id now).writeUser next) := by
  have increased : Change (revokeSessions db user.id now) [.versionIncreased user.id]
      ((revokeSessions db user.id now).writeUser next) :=
    .versionIncreased user next member id tokenVersion (revokeSessions_signedOut db user.id now)
      guarded
  exact .step (revokeSessions_change db user.id now) increased.changes

end Changes

end FinopsAnalytics.AccountChanges
