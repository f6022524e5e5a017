import FinopsAnalytics.AccountStore

/-!
# The requests on accounts

A request first reads its session and user, then touches the session in a transaction
of its own, and only then runs its transaction. The transactions that change accounts
wait for one lock and read again what they decide on; a transaction is one step here,
and any number of requests take their steps in any order.
-/

namespace FinopsAnalytics.AccountRequests

open PythonText AccountStore

/-- What a request holds from its earlier reads. -/
inductive Waiting where
  /-- `require_session` has read the rows and not yet touched the session. -/
  | loaded (user : User) (session : LoginSession) (now : Instant)
  /-- `require_session` and `require_user` have passed. -/
  | admitted (user : User) (session : LoginSession)
  /-- `authenticate_user` of a login, with the hash that it is about to store. -/
  | identified (user : User) (rehashed : Option String)
deriving DecidableEq, Repr

/-- The fields of an update that are set. -/
structure UserUpdate where
  name : Option String
  email : Option String
  role : Option UserRole
  isActive : Option Bool
deriving DecidableEq, Repr

/-- The transactions, with the hashes, ids and tokens that they draw. -/
inductive Operation where
  | bootstrapAdmin (email password passwordHash newId : String)
  | createUser (name email : String) (role : UserRole) (passwordHash newId : String)
  | updateUser (userId : String) (changes : UserUpdate)
  | inviteUser (name email : String) (role : UserRole) (passwordHash newId raw : String)
  | issueAccess (userId : String) (purpose : Purpose) (raw : String)
  | revokeUserSessions (userId : String)
  | revokeOneUserSession (userId sessionId : String)
  | completeAccess (purpose : Purpose) (token passwordHash : String)
  | changePassword (currentPassword code passwordHash : String)
  | requestPasswordReset (email raw : String)
  | recoveryLink (email raw : String)
  | hostMfaReset (email : String)
  | storeRehash
  | login (oldCookie : Option String) (sessionId raw : String)
  | verifyLogin (rawChallenge code sessionId raw : String)
  | setup (password code secret nonce : String)
  | confirm (code sessionId raw : String) (drawn : List String)
  | regenerate (password code : String) (drawn : List String)
  | adminReset (userId password code : String)
  | reauthenticate (password code : String)
  | logoutAll
  | logout
  | revokeSession (sessionId : String)
deriving DecidableEq, Repr

def sessionExpired : HttpError := ⟨401, "Sessão expirada. Entre novamente."⟩

def adminRequired : HttpError := ⟨403, "Administrator access required"⟩

section Requests

variable [Cryptography] (settings : Settings)

/-- The reads of `require_session`. -/
def loadSession (db : Database) (raw : String) : Except HttpError (User × LoginSession) := do
  ensure (raw.length = 43) sessionExpired
  let session ← found (db.sessions.find? (·.tokenHash = digest raw)) sessionExpired
  let user ← found (db.user? session.userId) sessionExpired
  ensure (user.isActive ∧ user.passwordSet ∧ session.userVersion = user.tokenVersion) sessionExpired
  return (user, session)

/-- The conditional update of `require_session`. -/
def touches (session : LoginSession) (now : Instant) (row : LoginSession) : Bool :=
  decide (row.id = session.id) && row.revokedAt.isNone && decide (now < row.expiresAt) &&
    decide (now - minutes settings.sessionIdleMinutes < row.lastSeenAt)

/-- The rest of `require_session`, on the tables that its update leaves. -/
def admission (db : Database) (user : User) (session : LoginSession) (touched pathAllowed : Bool) :
    Except HttpError Unit := do
  ensure touched sessionExpired
  let item := db.credential user.id
  ensure (¬(item.any (·.secret.isSome) ∧ !session.mfaVerified)) sessionExpired
  ensure (¬(enrollmentRequired settings item ∧ !pathAllowed)) ⟨403, "mfa_enrollment_required"⟩

/-- `authenticate_user`, up to its own commit. -/
def authenticateUser (db : Database) (email password : String) : Option User :=
  match db.users.find? (·.email = email) with
  | none => none
  | some user =>
    if verifyPassword password user.passwordHash && user.isActive && user.passwordSet then some user
    else none

/-- `_lock_and_recheck_admin`. -/
def lockAndRecheckAdmin (db : Database) (actor : User) : Except HttpError Unit := do
  let current ← found (db.user? actor.id) integrityError
  ensure (current.isActive ∧ current.role = .admin ∧ current.tokenVersion = actor.tokenVersion)
    ⟨403, "Administrator access changed; sign in again"⟩

/-- `require_recent_admin`. -/
def requireRecentAdmin (actor : User) (session : LoginSession) (now : Instant) :
    Except HttpError Unit := do
  ensure (actor.role = .admin) adminRequired
  ensure (now - minutes 5 ≤ session.reauthenticatedAt) ⟨403, "reauthentication_required"⟩

/-- `_locked_user`: the user and the session as they are under the lock. -/
def lockedUser (db : Database) (user : User) (session : LoginSession) (now : Instant) :
    Except HttpError (User × LoginSession) := do
  let current ← found (db.user? user.id) integrityError
  let row ← found (db.session? session.id) integrityError
  ensure (current.isActive ∧ current.passwordSet ∧ current.tokenVersion = session.userVersion ∧
    row.revokedAt = none ∧ now < row.expiresAt ∧
    now - minutes settings.sessionIdleMinutes < row.lastSeenAt) sessionExpired
  return (current, row)

/-- The active administrators with a password. -/
def countsAsAdmin (user : User) : Bool :=
  decide (user.role = .admin) && user.isActive && user.passwordSet

/-- `bootstrap_admin`. -/
def bootstrapAdmin (db : Database) (email password passwordHash newId : String) : Committed :=
  if db.bootstrapComplete then return (db, [])
  else do
    ensure (db.users = [])
      ⟨500, "Bootstrap incomplete but users already exist; inspect the database"⟩
    ensure (password ∉ ["", "change-me", "replace-this-password"])
      ⟨500, "Set NUVEMIQ_ADMIN_PASSWORD before the first user migration"⟩
    ensure (email ≠ "" ∧ '@' ∈ email.toList ∧ email.length ≤ 254)
      ⟨500, "Set a valid NUVEMIQ_ADMIN_EMAIL before the first user migration"⟩
    let user : User := ⟨newId, "Administrador", email, passwordHash, .admin, true, true, 1⟩
    return ({ db with users := [user], bootstrapComplete := true }, [])

def emailTaken : HttpError := ⟨409, "Email is already registered"⟩

/-- `create_user`. -/
def createUser (db : Database) (actor : User) (name email : String) (role : UserRole)
    (passwordHash newId : String) : Committed := do
  lockAndRecheckAdmin db actor
  let added ← db.addUser ⟨newId, name, email, passwordHash, role, true, true, 1⟩ emailTaken
  return (added, [])

/-- The loaded user with the fields of an update. -/
def UserUpdate.applied (changes : UserUpdate) (user : User) : User :=
  { user with
    name := changes.name.getD user.name
    email := changes.email.getD user.email
    role := changes.role.getD user.role
    isActive := changes.isActive.getD user.isActive }

/-- `update_user`. -/
def updateUser (db : Database) (actor : User) (userId : String) (changes : UserUpdate)
    (now : Instant) : Committed := do
  lockAndRecheckAdmin db actor
  let user ← found (db.user? userId) ⟨404, "User not found"⟩
  let next := changes.applied user
  let removingAdmin := next.role ≠ .admin ∨ !next.isActive
  ensure (¬(countsAsAdmin user ∧ removingAdmin ∧ db.users.countP countsAsAdmin ≤ 1))
    ⟨409, "Cannot remove the last active administrator"⟩
  ensure (∀ row ∈ db.users, row.id ≠ user.id → row.email ≠ next.email) emailTaken
  if next.email ≠ user.email ∨ next.role ≠ user.role ∨ next.isActive ≠ user.isActive then
    return ((revokeSessions db user.id now).writeUser
      { next with tokenVersion := user.tokenVersion + 1 }, [.versionIncreased user.id])
  else return (db.writeUser next, [])

/-- `invite_user`. -/
def inviteUser (db : Database) (actor : User) (name email : String) (role : UserRole)
    (passwordHash newId : String) (now : Instant) (raw : String) : Committed := do
  lockAndRecheckAdmin db actor
  let user : User := ⟨newId, name, email, passwordHash, role, true, false, 1⟩
  let added ← db.addUser user emailTaken
  issueToken added user .invite now raw

/-- `_issue_access`. -/
def issueAccess (db : Database) (actor : User) (userId : String) (purpose : Purpose)
    (now : Instant) (raw : String) : Committed := do
  lockAndRecheckAdmin db actor
  let user ← found (db.user? userId) ⟨404, "User not found"⟩
  ensure (¬(!user.isActive ∨ decide (purpose = .invite) = user.passwordSet))
    ⟨409, "Estado da conta incompatível com esta operação"⟩
  issueToken db user purpose now raw

/-- `revoke_user_sessions`. -/
def revokeUserSessions (db : Database) (actor : User) (userId : String) (now : Instant) :
    Committed := do
  lockAndRecheckAdmin db actor
  let _ ← found (db.user? userId) ⟨404, "User not found"⟩
  return (revokeSessions db userId now, [])

/-- `revoke_one_user_session`. -/
def revokeOneUserSession (db : Database) (actor : User) (userId sessionId : String)
    (now : Instant) : Committed := do
  lockAndRecheckAdmin db actor
  let item ← found (db.session? sessionId) ⟨404, "Sessão não encontrada"⟩
  ensure (item.userId = userId) ⟨404, "Sessão não encontrada"⟩
  let _ ← found (db.user? userId) ⟨404, "User not found"⟩
  return (db.writeSessions (fun row => decide (row.id = item.id))
    fun row => { row with revokedAt := some now }, [])

def invalidLink : HttpError :=
  ⟨400, "Link inválido, expirado ou já utilizado. Solicite um novo link."⟩

/-- `_complete_access`. -/
def completeAccess (db : Database) (purpose : Purpose) (raw passwordHash : String)
    (clock : Readings) : Committed := do
  let token ← found (db.tokens.find? fun row =>
    decide (row.tokenHash = digest raw) && decide (row.purpose = purpose)) invalidLink
  let user ← found (db.user? token.userId) invalidLink
  ensure (token.usedAt = none ∧ clock 0 < token.expiresAt ∧ user.isActive ∧
    user.tokenVersion = token.userVersion ∧ ¬(purpose = .invite ∧ user.passwordSet) ∧
    ¬(purpose = .reset ∧ !user.passwordSet)) invalidLink
  let used := { db with tokens := db.tokens.map fun row =>
    if row.tokenHash = token.tokenHash then { token with usedAt := some (clock 1) } else row }
  return ((revokeSessions used user.id (clock 2)).writeUser
      { user with
        passwordHash := passwordHash
        passwordSet := true
        tokenVersion := user.tokenVersion + 1 },
    [.accessCompleted token.tokenHash (clock 0), .versionIncreased user.id])

/-- The users whom a link to reset their password may reach. -/
def reachable (db : Database) (email : String) : Option User :=
  db.users.find? fun user => decide (user.email = email) && user.isActive && user.passwordSet

/-- `request_password_reset`. -/
def requestPasswordReset (db : Database) (email : String) (now : Instant) (raw : String) :
    Committed :=
  if settings.smtpConfigured then
    match reachable db email with
    | none => return (db, [])
    | some user => issueToken db user .reset now raw
  else return (db, [])

def passwordRequired : HttpError := ⟨500, "An active account with a password is required"⟩

section Factors

variable [CaseMapping]

/-- `recovery_link` of the host; the email is unique, so the state of the account may
be read by the search. -/
def recoveryLink (db : Database) (email : String) (now : Instant) (raw : String) : Committed := do
  let user ← found (reachable db (CaseMapping.lower (strip email))) passwordRequired
  issueToken db user .reset now raw

/-- The second factor reset by the host. -/
def hostMfaReset (db : Database) (email : String) (now : Instant) : Committed := do
  let user ← found (reachable db (CaseMapping.lower (strip email))) passwordRequired
  return resetMfa db user now

/-- `change_password`. -/
def changePassword (db : Database) (user : User) (session : LoginSession)
    (currentPassword code passwordHash : String) (clock : Readings) : Committed := do
  let (user, _) ← lockedUser settings db user session (clock 0)
  ensure (verifyPassword currentPassword user.passwordHash) ⟨400, "Senha atual incorreta"⟩
  let (proven, accepted) ← requireFactor db user code fun reading => clock (reading + 1)
  return ((revokeSessions proven user.id (clock 3)).writeUser
      { user with passwordHash := passwordHash, tokenVersion := user.tokenVersion + 1 },
    accepted ++ [.versionIncreased user.id])

/-- `proof`: the password and the second factor of a locked user. -/
def proof (db : Database) (user : User) (session : LoginSession) (password code : String)
    (clock : Readings) : Except HttpError (User × LoginSession × Database × List Event) := do
  let (user, session) ← lockedUser settings db user session (clock 0)
  ensure (verifyPassword password user.passwordHash) ⟨400, "Senha incorreta"⟩
  let (proven, accepted) ← requireFactor db user code fun reading => clock (reading + 1)
  return (user, session, proven, accepted)

/-- `reauthenticate`. -/
def reauthenticate (db : Database) (user : User) (session : LoginSession)
    (password code : String) (clock : Readings) : Committed := do
  let (_, session, proven, accepted) ← proof settings db user session password code clock
  return (proven.writeSessions (fun row => decide (row.id = session.id))
    fun row => { row with reauthenticatedAt := clock 3 }, accepted)

def invalidLogin : HttpError := ⟨401, "Invalid email or password"⟩

/-- `login` under the lock, for the user that was identified before it. -/
def login (db : Database) (identified : User) (oldCookie : Option String) (clock : Readings)
    (sessionId raw : String) : Committed := do
  let user ← found (db.user? identified.id) integrityError
  ensure (user.isActive ∧ user.passwordSet ∧ user.tokenVersion = identified.tokenVersion)
    invalidLogin
  let signedOut := match oldCookie with
    | none => db
    | some old =>
      if old = "" then db
      else db.writeSessions (fun row => decide (row.tokenHash = digest old))
        fun row => { row with revokedAt := some (clock 0) }
  if (signedOut.credential user.id).any (·.secret.isSome) then
    challenge signedOut user (clock 1) raw
  else newSession settings signedOut user false (clock 1) sessionId raw

def invalidChallenge : HttpError := ⟨400, "Desafio inválido ou expirado. Entre novamente."⟩

/-- The verification of a login without a credential fails. -/
def verifyCredential (db : Database) (credential : Option MfaCredential) (code : String)
    (clock : Readings) : Except HttpError (Option (Database × List Event)) :=
  match credential with
  | none => return none
  | some item => verifyFactor db item code clock

/-- `verify_login`. A wrong code is refused as well, but its attempt is committed. -/
def verifyLogin (db : Database) (rawChallenge code : String) (clock : Readings)
    (sessionId raw : String) : Committed := do
  let item ← found (db.challenge? (digest rawChallenge)) invalidChallenge
  let user ← found (db.user? item.userId) invalidChallenge
  ensure (item.usedAt = none ∧ clock 0 < item.expiresAt ∧ item.attempts < 5 ∧ user.isActive ∧
    user.passwordSet ∧ user.tokenVersion = item.userVersion) invalidChallenge
  let attempted := { item with attempts := item.attempts + 1 }
  let verified ← verifyCredential db (db.credential user.id) code fun reading => clock (reading + 1)
  match verified with
  | none => return (db.writeChallenge attempted, [.challengeTried item.tokenHash])
  | some (proven, accepted) =>
    let (opened, issued) ← newSession settings
      (proven.writeChallenge { attempted with usedAt := some (clock 3) }) user true (clock 4)
      sessionId raw
    return (opened,
      accepted ++ .challengeTried item.tokenHash :: .challengeOpened item.tokenHash :: issued)

/-- `setup`. -/
def setup (db : Database) (user : User) (session : LoginSession)
    (password code secret nonce : String) (clock : Readings) : Committed := do
  let (user, session, proven, accepted) ← proof settings db user session password code clock
  let item := (proven.credential user.id).getD (blankCredential user.id)
  let token ← found (encrypt nonce secret) cipherUnavailable
  return (proven.writeCredential
    { item with
      pendingSecret := some token
      pendingExpiresAt := some (clock 3 + minutes 10)
      pendingSessionId := some session.id },
    accepted ++ [.secretDrawn user.id secret])

def setupExpired : HttpError := ⟨400, "Configuração expirada. Inicie novamente."⟩

/-- `confirm`: the pending secret becomes the secret of the user. -/
def confirm (db : Database) (user : User) (session : LoginSession) (code : String)
    (clock : Readings) (sessionId raw : String) (drawn : List String) : Committed := do
  let (user, session) ← lockedUser settings db user session (clock 0)
  let item ← found (db.credential user.id) setupExpired
  let token ← found item.pendingSecret setupExpired
  ensure (item.pendingSessionId = some session.id ∧ ∃ expiry ∈ item.pendingExpiresAt,
    clock 1 < expiry) setupExpired
  let secret ← decrypted token
  let step ← found (matchedStep secret code (-1) (clock 2))
    ⟨400, "Código inválido. Confira o relógio do autenticador."⟩
  let enabled := db.writeCredential
    { item with
      secret := some token
      pendingSecret := none
      pendingExpiresAt := none
      pendingSessionId := none
      enabledAt := some (clock 3)
      lastStep := step
      resetRequired := false }
  let (coded, codes) ← recoveryCodes enabled user.id drawn
  let bumped := { user with tokenVersion := user.tokenVersion + 1 }
  let (opened, issued) ← newSession settings
    ((revokeSessions coded user.id (clock 4)).writeUser bumped) bumped true (clock 5) sessionId raw
  return (opened, .stepAccepted secret step :: codes ++ .versionIncreased user.id :: issued)

/-- `regenerate`. -/
def regenerate (db : Database) (user : User) (session : LoginSession) (password code : String)
    (clock : Readings) (drawn : List String) : Committed := do
  let (user, _, proven, accepted) ← proof settings db user session password code clock
  ensure ((proven.credential user.id).any (·.secret.isSome)) ⟨409, "Ative o MFA primeiro."⟩
  let (coded, codes) ← recoveryCodes proven user.id drawn
  return (coded, accepted ++ codes)

/-- `admin_reset`. -/
def adminReset (db : Database) (actor : User) (session : LoginSession)
    (userId password code : String) (clock : Readings) : Committed := do
  ensure (actor.role = .admin) adminRequired
  let (actor, session, proven, accepted) ← proof settings db actor session password code clock
  ensure ((proven.credential actor.id).any (·.secret.isSome) ∧ session.mfaVerified)
    ⟨403, "Ative o MFA na sua conta antes de recuperar outra conta."⟩
  ensure (actor.id ≠ userId)
    ⟨400, "Para sua conta, use Trocar autenticador ou a recuperação pelo host."⟩
  let user ← found (proven.user? userId) ⟨404, "Conta ativa não encontrada."⟩
  ensure (user.isActive ∧ user.passwordSet) ⟨404, "Conta ativa não encontrada."⟩
  let (cleared, dropped) := resetMfa proven user (clock 3)
  return (cleared, accepted ++ dropped)

/-- `logout_all`. -/
def logoutAll (db : Database) (user : User) (session : LoginSession) (clock : Readings) :
    Committed := do
  let (user, _) ← lockedUser settings db user session (clock 0)
  return (revokeSessions db user.id (clock 1), [])

/-- `logout`; it does not wait for the lock. -/
def logout (db : Database) (session : LoginSession) (now : Instant) : Committed :=
  return (db.writeSessions (fun row => decide (row.id = session.id))
    fun row => { row with revokedAt := some now }, [])

/-- `revoke_session`; it does not wait for the lock. -/
def revokeSession (db : Database) (user : User) (sessionId : String) (now : Instant) :
    Committed := do
  let selected := fun (row : LoginSession) =>
    decide (row.id = sessionId) && decide (row.userId = user.id)
  ensure (db.sessions.any selected) ⟨404, "Sessão não encontrada"⟩
  return (db.writeSessions selected fun row => { row with revokedAt := some now }, [])

/-- The transaction of an operation for what its request holds. An operation of a
signed-in user needs an admission, and one of the administrators their role as it was
read with it. -/
def perform (operation : Operation) (waiting : Option Waiting) (clock : Readings)
    (db : Database) : Committed :=
  match operation, waiting with
  | .bootstrapAdmin email password passwordHash newId, _ =>
    bootstrapAdmin db email password passwordHash newId
  | .completeAccess purpose token passwordHash, _ =>
    completeAccess db purpose token passwordHash clock
  | .requestPasswordReset email raw, _ => requestPasswordReset settings db email (clock 0) raw
  | .recoveryLink email raw, _ => recoveryLink db email (clock 0) raw
  | .hostMfaReset email, _ => hostMfaReset db email (clock 0)
  | .verifyLogin rawChallenge code sessionId raw, _ =>
    verifyLogin settings db rawChallenge code clock sessionId raw
  | .login oldCookie sessionId raw, some (.identified user none) =>
    login settings db user oldCookie clock sessionId raw
  | .storeRehash, some (.identified user (some rehashed)) =>
    return ({ db with users := db.users.map fun row =>
      if row.id = user.id then { row with passwordHash := rehashed } else row }, [])
  | .createUser name email role passwordHash newId, some (.admitted user session) => do
    requireRecentAdmin user session (clock 0)
    createUser db user name email role passwordHash newId
  | .updateUser userId changes, some (.admitted user session) => do
    requireRecentAdmin user session (clock 0)
    updateUser db user userId changes (clock 1)
  | .inviteUser name email role passwordHash newId raw, some (.admitted user session) => do
    requireRecentAdmin user session (clock 0)
    inviteUser db user name email role passwordHash newId (clock 1) raw
  | .issueAccess userId purpose raw, some (.admitted user session) => do
    requireRecentAdmin user session (clock 0)
    issueAccess db user userId purpose (clock 1) raw
  | .revokeUserSessions userId, some (.admitted user session) => do
    requireRecentAdmin user session (clock 0)
    revokeUserSessions db user userId (clock 1)
  | .revokeOneUserSession userId sessionId, some (.admitted user session) => do
    requireRecentAdmin user session (clock 0)
    revokeOneUserSession db user userId sessionId (clock 1)
  | .changePassword currentPassword code passwordHash, some (.admitted user session) =>
    changePassword settings db user session currentPassword code passwordHash clock
  | .setup password code secret nonce, some (.admitted user session) =>
    setup settings db user session password code secret nonce clock
  | .confirm code sessionId raw drawn, some (.admitted user session) =>
    confirm settings db user session code clock sessionId raw drawn
  | .regenerate password code drawn, some (.admitted user session) =>
    regenerate settings db user session password code clock drawn
  | .adminReset userId password code, some (.admitted user session) =>
    adminReset settings db user session userId password code clock
  | .reauthenticate password code, some (.admitted user session) =>
    reauthenticate settings db user session password code clock
  | .logoutAll, some (.admitted user session) => logoutAll settings db user session clock
  | .logout, some (.admitted _ session) => logout db session (clock 0)
  | .revokeSession sessionId, some (.admitted user _) => revokeSession db user sessionId (clock 0)
  | _, _ => .error sessionExpired

/-- The tables, what every request holds, and the events of the committed steps. -/
structure System where
  db : Database
  waiting : ℕ → Option Waiting
  log : List Event

/-- A step of one request. -/
inductive Step where
  | load (request : ℕ) (raw : String) (now : Instant)
  | authorize (request : ℕ) (pathAllowed : Bool)
  | identify (request : ℕ) (email password rehashed : String)
  | perform (request : ℕ) (operation : Operation) (clock : Readings)

def System.hold (system : System) (request : ℕ) (held : Option Waiting) : System :=
  { system with waiting := Function.update system.waiting request held }

/-- A step that raises leaves the tables; the request is over, except that a login
goes on after it has stored a new hash. -/
def step (system : System) : Step → System
  | .load request raw now =>
    match loadSession system.db raw with
    | .error _ => system.hold request none
    | .ok (user, session) => system.hold request (some (.loaded user session now))
  | .authorize request pathAllowed =>
    match system.waiting request with
    | some (.loaded user session now) =>
      let selected := touches settings session now
      let touched := system.db.writeSessions selected fun row => { row with lastSeenAt := now }
      match admission settings touched user session (system.db.sessions.any selected)
        pathAllowed with
      | .error _ => { system with db := touched }.hold request none
      | .ok _ =>
        { system with
          db := touched
          log := system.log ++ [Event.sessionAccepted session.tokenHash] }.hold request
            (some (.admitted user session))
    | _ => system.hold request none
  | .identify request email password rehashed =>
    match authenticateUser system.db (CaseMapping.lower (strip email)) password with
    | none => system.hold request none
    | some user =>
      system.hold request (some (.identified user
        (if needsRehash user.passwordHash then some rehashed else none)))
  | .perform request operation clock =>
    match perform settings operation (system.waiting request) clock system.db with
    | .error _ => system.hold request none
    | .ok (db, events) =>
      { system with db := db, log := system.log ++ events }.hold request
        (match operation, system.waiting request with
          | .storeRehash, some (.identified user _) => some (.identified user none)
          | _, _ => none)

def emptyDatabase : Database := ⟨false, [], [], [], [], [], []⟩

/-- The migrated database before its first start. -/
def initial : System := ⟨emptyDatabase, fun _ => none, []⟩

end Factors

end Requests

end FinopsAnalytics.AccountRequests
