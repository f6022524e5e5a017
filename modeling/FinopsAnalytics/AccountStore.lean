import FinopsAnalytics.Clock
import FinopsAnalytics.Fallible
import FinopsAnalytics.PythonText

/-!
# Accounts, sessions and one-time proofs

The tables of users, login sessions, access tokens and second factors, and the
services that write them. A function takes the tables as its transaction sees them
and returns what it leaves. What it accepts and issues is listed as events, in order.
-/

namespace FinopsAnalytics.AccountStore

open PythonText

inductive UserRole where
  | admin
  | operator
  | viewer
deriving DecidableEq, Repr

structure User where
  id : String
  name : String
  email : String
  passwordHash : String
  role : UserRole
  isActive : Bool
  passwordSet : Bool
  tokenVersion : ℕ
deriving DecidableEq, Repr

structure LoginSession where
  id : String
  userId : String
  tokenHash : String
  userVersion : ℕ
  createdAt : Instant
  lastSeenAt : Instant
  expiresAt : Instant
  revokedAt : Option Instant
  reauthenticatedAt : Instant
  mfaVerified : Bool
deriving DecidableEq, Repr

inductive Purpose where
  | invite
  | reset
deriving DecidableEq, Repr

structure AccessToken where
  userId : String
  tokenHash : String
  purpose : Purpose
  userVersion : ℕ
  expiresAt : Instant
  usedAt : Option Instant
deriving DecidableEq, Repr

/-- An encrypted secret. -/
structure FernetToken where
  text : String
deriving DecidableEq, Repr

structure MfaCredential where
  userId : String
  secret : Option FernetToken
  enabledAt : Option Instant
  lastStep : ℤ
  resetRequired : Bool
  pendingSecret : Option FernetToken
  pendingExpiresAt : Option Instant
  pendingSessionId : Option String
deriving DecidableEq, Repr

structure MfaChallenge where
  tokenHash : String
  userId : String
  userVersion : ℕ
  expiresAt : Instant
  attempts : ℕ
  usedAt : Option Instant
deriving DecidableEq, Repr

structure RecoveryCode where
  userId : String
  codeHash : String
  usedAt : Option Instant
deriving DecidableEq, Repr

structure Database where
  bootstrapComplete : Bool
  users : List User
  sessions : List LoginSession
  tokens : List AccessToken
  credentials : List MfaCredential
  challenges : List MfaChallenge
  codes : List RecoveryCode
deriving DecidableEq, Repr

/-- What a transaction issues and accepts. -/
inductive Event where
  | versionIncreased (userId : String)
  | sessionIssued (userId tokenHash : String)
  | sessionAccepted (tokenHash : String)
  | tokenIssued (userId : String) (purpose : Purpose) (tokenHash : String) (expiresAt : Instant)
  | accessCompleted (tokenHash : String) (at_ : Instant)
  | secretDrawn (userId secret : String)
  | stepAccepted (secret : String) (step : ℤ)
  | codesDropped (userId : String)
  | codeIssued (userId codeHash : String)
  | codeAccepted (codeHash : String)
  | challengeIssued (userId tokenHash : String)
  | challengeTried (tokenHash : String)
  | challengeOpened (tokenHash : String)
deriving DecidableEq, Repr

/-- The status and the text of a refusal; 500 is an exception that no route handles. -/
structure HttpError where
  status : ℕ
  detail : String
deriving DecidableEq, Repr

/-- What a transaction leaves when it commits. -/
abbrev Committed := Except HttpError (Database × List Event)

structure Settings where
  accessTokenMinutes : ℤ
  sessionIdleMinutes : ℤ
  mfaRequired : Bool
  smtpConfigured : Bool
deriving DecidableEq, Repr

def minutes (count : ℤ) : Duration := count * 60000000

/-- The clock readings of one transaction, in order. -/
abbrev Readings := ℕ → Instant

/-- Digests, passwords and the cipher and codes of second factors. The cipher has its key
or not; decrypting an encrypted secret gives the secret, or nothing under another key. -/
class Cryptography where
  cipherAvailable : Bool
  digest : String → String
  verifyPassword : String → String → Bool
  needsRehash : String → Bool
  encrypt : String → String → Option FernetToken
  decrypt : FernetToken → Option String
  totp : String → ℤ → String
  decrypt_encrypt : ∀ nonce secret token plain, encrypt nonce secret = some token →
    decrypt token = some plain → plain = secret

export Cryptography (cipherAvailable digest verifyPassword needsRehash encrypt decrypt totp)

def ensure (condition : Prop) [Decidable condition] (refusal : HttpError) : Except HttpError Unit :=
  if condition then .ok () else .error refusal

theorem ensure_eq_ok {condition : Prop} [Decidable condition] {refusal : HttpError} {done : Unit} :
    ensure condition refusal = .ok done ↔ condition := by
  unfold ensure
  by_cases holds : condition <;> simp [holds]

def found {α : Type} (row : Option α) (refusal : HttpError) : Except HttpError α :=
  match row with
  | some row => .ok row
  | none => .error refusal

theorem found_eq_ok {α : Type} {row : Option α} {refusal : HttpError} {result : α} :
    found row refusal = .ok result ↔ row = some result := by
  cases row <;> simp [found]

/-- A unique column refuses a second row with its value. -/
def integrityError : HttpError := ⟨500, "IntegrityError"⟩

namespace Database

variable (db : Database)

def user? (userId : String) : Option User := db.users.find? (·.id = userId)

/-- The row of a loaded user, rewritten. -/
def writeUser (user : User) : Database :=
  { db with users := db.users.map fun row => if row.id = user.id then user else row }

/-- A new user; `id` and `email` are unique. -/
def addUser (user : User) (refusal : HttpError) : Except HttpError Database := do
  ensure (∀ row ∈ db.users, row.id ≠ user.id ∧ row.email ≠ user.email) refusal
  return { db with users := db.users ++ [user] }

def session? (sessionId : String) : Option LoginSession := db.sessions.find? (·.id = sessionId)

/-- The sessions that a filter selects, rewritten. -/
def writeSessions (selected : LoginSession → Bool) (write : LoginSession → LoginSession) :
    Database :=
  { db with sessions := db.sessions.map fun row => if selected row then write row else row }

/-- `credential`. -/
def credential (userId : String) : Option MfaCredential :=
  db.credentials.find? (·.userId = userId)

/-- A credential as it is flushed: the row of its user, or a new one. -/
def writeCredential (item : MfaCredential) : Database :=
  { db with credentials :=
      if db.credentials.any (·.userId = item.userId) then
        db.credentials.map fun row => if row.userId = item.userId then item else row
      else db.credentials ++ [item] }

def challenge? (tokenHash : String) : Option MfaChallenge :=
  db.challenges.find? (·.tokenHash = tokenHash)

def writeChallenge (item : MfaChallenge) : Database :=
  { db with challenges := db.challenges.map fun row =>
      if row.tokenHash = item.tokenHash then item else row }

end Database

/-- `revoke_sessions`. -/
def revokeSessions (db : Database) (userId : String) (now : Instant) : Database :=
  db.writeSessions (fun row => decide (row.userId = userId) && row.revokedAt.isNone)
    fun row => { row with revokedAt := some now }

section Services

variable [Cryptography] (settings : Settings)

/-- `new_session`. -/
def newSession (db : Database) (user : User) (mfaVerified : Bool) (now : Instant)
    (sessionId raw : String) : Committed := do
  let session : LoginSession :=
    { id := sessionId
      userId := user.id
      tokenHash := digest raw
      userVersion := user.tokenVersion
      createdAt := now
      lastSeenAt := now
      expiresAt := now + minutes settings.accessTokenMinutes
      revokedAt := none
      reauthenticatedAt := now
      mfaVerified := mfaVerified }
  ensure (∀ row ∈ db.sessions, row.id ≠ session.id ∧ row.tokenHash ≠ session.tokenHash)
    integrityError
  return ({ db with sessions := db.sessions ++ [session] },
    [.sessionIssued user.id session.tokenHash])

/-- `issue_token`: earlier unused tokens of the purpose are used up. -/
def issueToken (db : Database) (user : User) (purpose : Purpose) (now : Instant) (raw : String) :
    Committed := do
  let expiry := now + match purpose with
    | .invite => hours 24
    | .reset => minutes 30
  let token : AccessToken :=
    { userId := user.id
      tokenHash := digest raw
      purpose := purpose
      userVersion := user.tokenVersion
      expiresAt := expiry
      usedAt := none }
  ensure (∀ row ∈ db.tokens, row.tokenHash ≠ token.tokenHash) integrityError
  return ({ db with tokens := db.tokens.map (fun row =>
      if row.userId = user.id ∧ row.purpose = purpose ∧ row.usedAt = none then
        { row with usedAt := some now }
      else row) ++ [token] },
    [.tokenIssued user.id purpose token.tokenHash expiry])

/-- `enrollment_required`. -/
def enrollmentRequired (item : Option MfaCredential) : Bool :=
  !(item.any (·.secret.isSome)) && (settings.mfaRequired || item.any (·.resetRequired))

/-- What `cipher` raises without a key. -/
def cipherUnavailable : HttpError :=
  ⟨503, "Configure uma chave segura no servidor antes de usar MFA."⟩

/-- `decrypt`, which asks for the cipher first. -/
def decrypted (token : FernetToken) : Except HttpError String := do
  ensure cipherAvailable cipherUnavailable
  found (decrypt token) ⟨503, "Chave MFA indisponível. Contate o administrador."⟩

theorem decrypted_eq_ok {token : FernetToken} {secret : String}
    (plain : decrypted token = .ok secret) : decrypt token = some secret := by
  obtain ⟨_, -, held⟩ := Fallible.bind_eq_ok.mp plain
  exact found_eq_ok.mp held

/-- `int(utcnow().timestamp()) // 30`. -/
def timeStep (now : Instant) : ℤ := now.tdiv 1000000 / 30

/-- `matched_step`. -/
def matchedStep (secret code : String) (lastStep : ℤ) (now : Instant) : Option ℤ :=
  if code.length ≠ 6 ∨ !code.toList.all Char.isDigit then none
  else
    [timeStep now, timeStep now - 1, timeStep now + 1].find? fun candidate =>
      decide (lastStep < candidate) && decide (totp secret candidate = code)

theorem lt_of_matchedStep {secret code : String} {lastStep step : ℤ} {now : Instant}
    (matched : matchedStep secret code lastStep now = some step) : lastStep < step := by
  unfold matchedStep at matched
  split at matched
  · exact nomatch matched
  · have selected := List.find?_some matched
    simp only [Bool.and_eq_true, decide_eq_true_eq] at selected
    exact selected.1

variable [CaseMapping]

/-- `verify_factor`: a fresh time step, or a recovery code that was not used. -/
def verifyFactor (db : Database) (item : MfaCredential) (code : String) (clock : Readings) :
    Except HttpError (Option (Database × List Event)) :=
  match item.secret with
  | none => return none
  | some token => do
    let secret ← decrypted token
    match matchedStep secret code item.lastStep (clock 0) with
    | some step =>
      return some (db.writeCredential { item with lastStep := step }, [.stepAccepted secret step])
    | none =>
      let normalized := CaseMapping.upper (strip (String.ofList (code.toList.filter (· ≠ '-'))))
      if normalized.length ≠ 32 then return none
      else
        let codeHash := digest (item.userId ++ ":" ++ normalized)
        match db.codes.find? (fun row => decide (row.userId = item.userId) &&
          decide (row.codeHash = codeHash) && row.usedAt.isNone) with
        | none => return none
        | some row =>
          return some
            ({ db with codes := db.codes.map fun other =>
                if other.codeHash = row.codeHash then { row with usedAt := some (clock 1) }
                else other },
              [.codeAccepted row.codeHash])

/-- `require_factor`: who has a second factor must prove it. -/
def requireFactor (db : Database) (user : User) (code : String) (clock : Readings) : Committed :=
  match db.credential user.id with
  | none => return (db, [])
  | some item =>
    if item.secret.isNone then return (db, [])
    else do
      let accepted ← verifyFactor db item code clock
      found accepted ⟨400, "Código inválido ou já utilizado. Aguarde o próximo código."⟩

/-- `recovery_codes`: the codes of the user are replaced by the drawn ones. -/
def recoveryCodes (db : Database) (userId : String) (drawn : List String) : Committed := do
  let kept := db.codes.filter (·.userId ≠ userId)
  let issued := drawn.map fun code =>
    ({ userId := userId, codeHash := digest (userId ++ ":" ++ code), usedAt := none } : RecoveryCode)
  ensure ((kept ++ issued).map (·.codeHash)).Nodup integrityError
  return ({ db with codes := kept ++ issued },
    .codesDropped userId :: issued.map fun row => .codeIssued userId row.codeHash)

/-- `challenge`: only the latest password verification may be completed. -/
def challenge (db : Database) (user : User) (now : Instant) (raw : String) : Committed := do
  let kept := db.challenges.filter fun row =>
    !(decide (row.expiresAt < now)) && decide (row.userId ≠ user.id)
  let item : MfaChallenge :=
    { tokenHash := digest raw
      userId := user.id
      userVersion := user.tokenVersion
      expiresAt := now + minutes 5
      attempts := 0
      usedAt := none }
  ensure (∀ row ∈ kept, row.tokenHash ≠ item.tokenHash) integrityError
  return ({ db with challenges := kept ++ [item] }, [.challengeIssued user.id item.tokenHash])

/-- A credential before anything is set up. -/
def blankCredential (userId : String) : MfaCredential :=
  { userId := userId
    secret := none
    enabledAt := none
    lastStep := -1
    resetRequired := false
    pendingSecret := none
    pendingExpiresAt := none
    pendingSessionId := none }

/-- `reset_mfa`. -/
def resetMfa (db : Database) (user : User) (now : Instant) : Database × List Event :=
  let item := (db.credential user.id).getD (blankCredential user.id)
  let cleared := db.writeCredential
    { item with
      secret := none
      enabledAt := none
      pendingSecret := none
      pendingSessionId := none
      pendingExpiresAt := none
      lastStep := -1
      resetRequired := true }
  let dropped := { cleared with
    codes := cleared.codes.filter (·.userId ≠ user.id)
    challenges := cleared.challenges.filter (·.userId ≠ user.id) }
  ((revokeSessions dropped user.id now).writeUser { user with tokenVersion := user.tokenVersion + 1 },
    [.codesDropped user.id, .versionIncreased user.id])

end Services

end FinopsAnalytics.AccountStore
