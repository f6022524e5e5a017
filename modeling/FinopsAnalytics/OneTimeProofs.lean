import FinopsAnalytics.AccountRuns
import Mathlib.Data.List.Count

/-!
# One-time proofs

What is drawn at random does not come twice. Then, over every run of requests, the
time steps accepted for a secret increase, a recovery code is accepted once and not
after its user's codes were dropped, a login challenge is tried five times and opens
one session at most, and nothing that was issued to a user before the version of the
user increased is accepted after it.
-/

namespace FinopsAnalytics.OneTimeProofs

open PythonText AccountStore AccountRequests AccountChanges AccountRuns EventLogs KeyedRows

/-- The increase of a user's version. -/
def Increases (userId : String) (event : Event) : Prop := event = .versionIncreased userId

section Sessions

def AcceptsSession (tokenHash : String) (event : Event) : Prop := event = .sessionAccepted tokenHash

/-- What the stored sessions say of the log: who was not signed out is at the version
at which the session was opened. -/
structure SessionsSound (db : Database) (log : List Event) : Prop where
  issued : ∀ row ∈ db.sessions, .sessionIssued row.userId row.tokenHash ∈ log
  current : ∀ row ∈ db.sessions, row.revokedAt = none →
    Since (Issues Event.sessionIssued row.tokenHash) (Increases row.userId) log
  stored : ∀ tokenHash, ∀ event ∈ log, Issues Event.sessionIssued tokenHash event →
    ∃ row ∈ db.sessions, row.tokenHash = tokenHash
  once : ∀ tokenHash, AtMostOnce (Issues Event.sessionIssued tokenHash) log
  answers : Guarded (Answers Event.sessionIssued Increases AcceptsSession) log

/-- The events about sessions and versions. -/
def aboutSessions : Event → Bool
  | .versionIncreased .. => true
  | .sessionIssued .. => true
  | .sessionAccepted .. => true
  | _ => false

theorem keepsSession_id : KeepsSession id :=
  ⟨fun _ => rfl, fun _ => rfl, fun _ => rfl, fun _ => rfl, fun _ => id⟩

/-- Sessions that keep who they are, and events that are none of theirs. -/
theorem SessionsSound.rewrite {db after : Database} {log events : List Event}
    (sound : SessionsSound db log) (write : LoginSession → LoginSession) (keeps : KeepsSession write)
    (sessions : after.sessions = db.sessions.map write)
    (issuesNone : ∀ event ∈ events, ∀ tokenHash, ¬Issues Event.sessionIssued tokenHash event)
    (acceptsNone : ∀ event ∈ events, ∀ tokenHash, ¬AcceptsSession tokenHash event)
    (bars : ∀ event ∈ events, ∀ userId, Increases userId event →
      ∀ row ∈ db.sessions, row.userId = userId → row.revokedAt.isSome = true) :
    SessionsSound after (log ++ events) := by
  refine ⟨?_, ?_, ?_, fun tokenHash => ?_, ?_⟩
  · intro row member
    rw [sessions] at member
    obtain ⟨old, oldMember, rfl⟩ := List.mem_map.mp member
    rw [keeps.userId, keeps.tokenHash]
    exact List.mem_append_left _ (sound.issued old oldMember)
  · intro row member unrevoked
    rw [sessions] at member
    obtain ⟨old, oldMember, rfl⟩ := List.mem_map.mp member
    have before : ¬old.revokedAt.isSome = true := by
      intro revoked
      simpa [unrevoked] using keeps.revokedAt old revoked
    rw [keeps.userId, keeps.tokenHash]
    refine (sound.current old oldMember (by simpa using before)).append fun event inside bar => ?_
    exact before (bars event inside _ bar old oldMember rfl)
  · intro tokenHash event inside issues
    rcases List.mem_append.mp inside with earlier | last
    · obtain ⟨row, member, same⟩ := sound.stored tokenHash event earlier issues
      rw [sessions]
      exact ⟨write row, List.mem_map_of_mem member, (keeps.tokenHash row).trans same⟩
    · exact absurd issues (issuesNone event last tokenHash)
  · exact (sound.once tokenHash).append fun event inside => issuesNone event inside tokenHash
  · exact sound.answers.append fun event inside before tokenHash accepts =>
      absurd accepts (acceptsNone event inside tokenHash)

/-- Events about other rows leave the sessions sound. -/
theorem SessionsSound.other {db after : Database} {log events : List Event}
    (sound : SessionsSound db log) (sessions : after.sessions = db.sessions)
    (others : ∀ event ∈ events, aboutSessions event = false) :
    SessionsSound after (log ++ events) := by
  refine sound.rewrite id keepsSession_id (by rw [sessions, List.map_id]) ?_ ?_ ?_
  · rintro event inside tokenHash ⟨_, rfl⟩
    exact nomatch others _ inside
  · rintro event inside tokenHash rfl
    exact nomatch others _ inside
  · rintro event inside userId rfl
    exact nomatch others _ inside

variable [Cryptography]

/-- Each change keeps the sessions sound. -/
theorem Change.sessionsSound {db after : Database} {log events : List Event}
    (change : Change db events after) (sound : SessionsSound db log) :
    SessionsSound after (log ++ events) := by
  cases change with
  | sessionsWritten write keeps =>
    exact sound.rewrite write keeps rfl (by simp) (by simp) (by simp)
  | versionIncreased user next member sameId version signedOut =>
    refine sound.rewrite id keepsSession_id (List.map_id _).symm ?_ ?_ ?_
    · rintro event single tokenHash ⟨_, rfl⟩
      exact nomatch List.mem_singleton.mp single
    · rintro event single tokenHash rfl
      exact nomatch List.mem_singleton.mp single
    · rintro event single userId rfl row rowMember owner
      obtain rfl := Event.versionIncreased.inj (List.mem_singleton.mp single)
      exact signedOut row rowMember owner
  | sessionIssued user member session owner version fresh =>
    have unissued : ∀ event ∈ log, ¬Issues Event.sessionIssued session.tokenHash event := by
      intro event inside issues
      obtain ⟨row, rowMember, same⟩ := sound.stored _ event inside issues
      exact (fresh row rowMember).2 same
    have issues : Issues Event.sessionIssued session.tokenHash
        (.sessionIssued user.id session.tokenHash) := ⟨user.id, rfl⟩
    refine ⟨?_, ?_, ?_, fun tokenHash => ?_, ?_⟩
    · intro row rowMember
      rcases List.mem_append.mp rowMember with old | new
      · exact List.mem_append_left _ (sound.issued row old)
      · obtain rfl := List.mem_singleton.mp new
        rw [owner]
        simp
    · intro row rowMember unrevoked
      rcases List.mem_append.mp rowMember with old | new
      · exact (sound.current row old unrevoked).append (by simp [Increases])
      · obtain rfl := List.mem_singleton.mp new
        exact since_of_issued issues
    · intro tokenHash event inside issued
      rcases List.mem_append.mp inside with earlier | last
      · obtain ⟨row, rowMember, same⟩ := sound.stored tokenHash event earlier issued
        exact ⟨row, List.mem_append_left _ rowMember, same⟩
      · obtain ⟨userId, rfl⟩ := issued
        exact ⟨session, by simp, (Event.sessionIssued.inj (List.mem_singleton.mp last)).2.symm⟩
    · refine atMostOnce_append_singleton.mpr ⟨sound.once tokenHash, ?_⟩
      rintro ⟨userId, same⟩
      obtain rfl := (Event.sessionIssued.inj same).2
      exact unissued
    · exact guarded_append_singleton.mpr ⟨sound.answers, fun _ accepts => nomatch accepts⟩
  | sessionAccepted session member unrevoked =>
    refine ⟨fun row rowMember => List.mem_append_left _ (sound.issued row rowMember), ?_, ?_,
      fun tokenHash => ?_, ?_⟩
    · intro row rowMember current
      exact (sound.current row rowMember current).append (by simp [Increases])
    · intro tokenHash event inside issued
      rcases List.mem_append.mp inside with earlier | last
      · exact sound.stored tokenHash event earlier issued
      · obtain ⟨userId, rfl⟩ := issued
        exact nomatch List.mem_singleton.mp last
    · refine (sound.once tokenHash).append ?_
      rintro event single ⟨userId, rfl⟩
      exact nomatch List.mem_singleton.mp single
    · refine guarded_append_singleton.mpr ⟨sound.answers, fun tokenHash accepts => ?_⟩
      obtain rfl := Event.sessionAccepted.inj accepts
      exact ⟨session.userId, sound.issued session member, sound.current session member unrevoked⟩
  | _ => exact sound.other rfl (by simp [aboutSessions])

end Sessions

def drawnSecret : Event → Option String
  | .secretDrawn _ secret => some secret
  | _ => none

def drawnCode : Event → Option String
  | .codeIssued _ codeHash => some codeHash
  | _ => none

def drawnChallenge : Event → Option String
  | .challengeIssued _ tokenHash => some tokenHash
  | _ => none

/-- What is drawn from a source of randomness does not come twice: no two secrets, no
two digests of recovery codes and no two digests of challenges are equal. -/
structure FreshDraws (log : List Event) : Prop where
  secrets : (log.filterMap drawnSecret).Nodup
  codes : (log.filterMap drawnCode).Nodup
  challenges : (log.filterMap drawnChallenge).Nodup

namespace FreshDraws

variable {log events : List Event}

theorem of_append (fresh : FreshDraws (log ++ events)) : FreshDraws log := by
  obtain ⟨secrets, codes, challenges⟩ := fresh
  rw [List.filterMap_append] at secrets codes challenges
  exact ⟨(List.nodup_append.mp secrets).1, (List.nodup_append.mp codes).1,
    (List.nodup_append.mp challenges).1⟩

theorem secretOnce (fresh : FreshDraws log) (secret : String) :
    AtMostOnce (fun event => ∃ userId, event = .secretDrawn userId secret) log :=
  atMostOnce_of_nodup fresh.secrets (by rintro _ ⟨_, rfl⟩; rfl)

theorem codeOnce (fresh : FreshDraws log) (codeHash : String) :
    AtMostOnce (Issues Event.codeIssued codeHash) log :=
  atMostOnce_of_nodup fresh.codes (by rintro _ ⟨_, rfl⟩; rfl)

theorem challengeOnce (fresh : FreshDraws log) (tokenHash : String) :
    AtMostOnce (Issues Event.challengeIssued tokenHash) log :=
  atMostOnce_of_nodup fresh.challenges (by rintro _ ⟨_, rfl⟩; rfl)

end FreshDraws

section Codes

def AcceptsCode (codeHash : String) (event : Event) : Prop := event = .codeAccepted codeHash

def DropsCodes (userId : String) (event : Event) : Prop := event = .codesDropped userId

/-- What a stored recovery code says of the log. -/
structure CodeRow (log : List Event) (row : RecoveryCode) : Prop where
  issued : .codeIssued row.userId row.codeHash ∈ log
  kept : Since (Issues Event.codeIssued row.codeHash) (DropsCodes row.userId) log
  unaccepted : row.usedAt = none → ∀ event ∈ log, ¬AcceptsCode row.codeHash event

structure CodesSound (db : Database) (log : List Event) : Prop where
  rows : ∀ row ∈ db.codes, CodeRow log row
  once : ∀ codeHash, AtMostOnce (AcceptsCode codeHash) log
  known : ∀ codeHash, .codeAccepted codeHash ∈ log →
    ∃ event ∈ log, Issues Event.codeIssued codeHash event
  answers : Guarded (Answers Event.codeIssued DropsCodes AcceptsCode) log

def aboutCodes : Event → Bool
  | .codesDropped .. => true
  | .codeIssued .. => true
  | .codeAccepted .. => true
  | _ => false

variable {log events : List Event}

/-- A row stays sound under events that neither accept it nor drop the codes of its
user. -/
theorem CodeRow.append {row : RecoveryCode} (sound : CodeRow log row)
    (acceptsNone : ∀ event ∈ events, ¬AcceptsCode row.codeHash event)
    (dropsNone : ∀ event ∈ events, ¬DropsCodes row.userId event) : CodeRow (log ++ events) row := by
  refine ⟨List.mem_append_left _ sound.issued, sound.kept.append dropsNone, ?_⟩
  intro unused event inside
  rcases List.mem_append.mp inside with earlier | last
  · exact sound.unaccepted unused event earlier
  · exact acceptsNone event last

/-- Events that accept nothing keep the log of the codes. -/
theorem CodesSound.of_rows {db after : Database} (sound : CodesSound db log)
    (rows : ∀ row ∈ after.codes, CodeRow (log ++ events) row)
    (acceptsNone : ∀ event ∈ events, ∀ codeHash, ¬AcceptsCode codeHash event) :
    CodesSound after (log ++ events) := by
  refine ⟨rows, fun codeHash => ?_, fun codeHash inside => ?_, ?_⟩
  · exact (sound.once codeHash).append fun event last => acceptsNone event last codeHash
  · rcases List.mem_append.mp inside with earlier | last
    · obtain ⟨event, member, issues⟩ := sound.known codeHash earlier
      exact ⟨event, List.mem_append_left _ member, issues⟩
    · exact absurd rfl (acceptsNone _ last codeHash)
  · exact sound.answers.append fun event last before codeHash accepts =>
      absurd accepts (acceptsNone event last codeHash)

theorem CodesSound.other {db after : Database} (sound : CodesSound db log)
    (codes : after.codes = db.codes) (others : ∀ event ∈ events, aboutCodes event = false) :
    CodesSound after (log ++ events) := by
  refine sound.of_rows (fun row member => (sound.rows row (codes ▸ member)).append ?_ ?_) ?_
  · rintro event last rfl
    exact nomatch others _ last
  · rintro event last rfl
    exact nomatch others _ last
  · rintro event last codeHash rfl
    exact nomatch others _ last

variable [Cryptography]

/-- Each change keeps the recovery codes sound. -/
theorem Change.codesSound {db after : Database} {log events : List Event}
    (change : Change db events after) (fresh : FreshDraws (log ++ events))
    (sound : CodesSound db log) : CodesSound after (log ++ events) := by
  cases change with
  | codesDropped userId =>
    refine sound.of_rows (fun row member => ?_) (by simp [AcceptsCode])
    obtain ⟨old, other⟩ := List.mem_filter.mp member
    refine (sound.rows row old).append (by simp [AcceptsCode]) ?_
    rintro event single rfl
    obtain rfl := Event.codesDropped.inj (List.mem_singleton.mp single)
    simp at other
  | codeIssued userId codeHash unused =>
    have issues : Issues Event.codeIssued codeHash (.codeIssued userId codeHash) := ⟨userId, rfl⟩
    have unissued := (atMostOnce_append_singleton.mp (fresh.codeOnce codeHash)).2 issues
    refine sound.of_rows (fun row member => ?_) (by simp [AcceptsCode])
    rcases List.mem_append.mp member with old | new
    · exact (sound.rows row old).append (by simp [AcceptsCode]) (by simp [DropsCodes])
    · obtain rfl := List.mem_singleton.mp new
      refine ⟨by simp, since_of_issued issues, fun _ event inside => ?_⟩
      rintro rfl
      rcases List.mem_append.mp inside with earlier | last
      · obtain ⟨issue, issueMember, issued⟩ := sound.known codeHash earlier
        exact unissued issue issueMember issued
      · exact nomatch List.mem_singleton.mp last
  | codeAccepted row member unused now =>
    have own := sound.rows row member
    refine ⟨?_, fun codeHash => ?_, fun codeHash inside => ?_, ?_⟩
    · intro other otherMember
      have rewritten : other = { row with usedAt := some now } ∨
          other ∈ db.codes ∧ other.codeHash ≠ row.codeHash := mem_rewritten otherMember
      rcases rewritten with rfl | ⟨old, different⟩
      · exact ⟨List.mem_append_left _ own.issued, own.kept.append (by simp [DropsCodes]),
          fun used => nomatch used⟩
      · refine (sound.rows other old).append ?_ (by simp [DropsCodes])
        rintro event single rfl
        exact different (Event.codeAccepted.inj (List.mem_singleton.mp single))
    · refine atMostOnce_append_singleton.mpr ⟨sound.once codeHash, fun accepts => ?_⟩
      obtain rfl := Event.codeAccepted.inj accepts
      exact own.unaccepted unused
    · have issue : ∃ event ∈ log, Issues Event.codeIssued codeHash event := by
        rcases List.mem_append.mp inside with earlier | last
        · exact sound.known codeHash earlier
        · obtain rfl := Event.codeAccepted.inj (List.mem_singleton.mp last)
          exact ⟨_, own.issued, row.userId, rfl⟩
      obtain ⟨event, eventMember, issued⟩ := issue
      exact ⟨event, List.mem_append_left _ eventMember, issued⟩
    · refine guarded_append_singleton.mpr ⟨sound.answers, fun codeHash accepts => ?_⟩
      obtain rfl := Event.codeAccepted.inj accepts
      exact ⟨row.userId, own.issued, own.kept⟩
  | _ => exact sound.other rfl (by simp [aboutCodes])

end Codes

section Steps

variable [Cryptography]

/-- The secret of a credential. -/
def Current (item : MfaCredential) (secret : String) : Prop :=
  ∃ token, item.secret = some token ∧ decrypt token = some secret

/-- The secret that a credential waits to confirm. -/
def Pending (item : MfaCredential) (secret : String) : Prop :=
  ∃ token, item.pendingSecret = some token ∧ decrypt token = some secret

/-- What a stored credential says of the log: its secret was drawn for its user and has
no later step than the last one; of its pending secret no step was accepted yet. -/
structure CredentialRow (log : List Event) (item : MfaCredential) : Prop where
  drawn : ∀ secret, Current item secret ∨ Pending item secret →
    .secretDrawn item.userId secret ∈ log
  used : ∀ secret, Current item secret → ∃ step, .stepAccepted secret step ∈ log
  last : ∀ secret, Current item secret → ∀ step, .stepAccepted secret step ∈ log →
    step ≤ item.lastStep
  unused : ∀ secret, Pending item secret → ∀ step, .stepAccepted secret step ∉ log

/-- The later of two accepted steps of a secret is the greater. -/
def StepsIncrease (log : List Event) : Prop :=
  log.Pairwise fun earlier later => ∀ secret first second, earlier = .stepAccepted secret first →
    later = .stepAccepted secret second → first < second

structure StepsSound (db : Database) (log : List Event) : Prop where
  rows : ∀ item ∈ db.credentials, CredentialRow log item
  known : ∀ secret step, .stepAccepted secret step ∈ log → ∃ userId, .secretDrawn userId secret ∈ log
  increasing : StepsIncrease log

omit [Cryptography] in
theorem mem_writeCredential {db : Database} {item row : MfaCredential}
    (member : row ∈ (db.writeCredential item).credentials) :
    row = item ∨ row ∈ db.credentials ∧ row.userId ≠ item.userId := by
  unfold Database.writeCredential at member
  dsimp only at member
  split at member
  · exact mem_rewritten member
  · rename_i absent
    rcases List.mem_append.mp member with old | new
    · refine .inr ⟨old, fun same => absent (List.any_eq_true.mpr ⟨row, old, by simpa using same⟩)⟩
    · exact .inl (List.mem_singleton.mp new)

variable {log events : List Event} {db after : Database}

theorem CredentialRow.append {item : MfaCredential} (sound : CredentialRow log item)
    (acceptsNone : ∀ secret, Current item secret ∨ Pending item secret → ∀ step,
      .stepAccepted secret step ∉ events) : CredentialRow (log ++ events) item := by
  refine ⟨fun secret holds => List.mem_append_left _ (sound.drawn secret holds), ?_, ?_, ?_⟩
  · intro secret current
    obtain ⟨step, inside⟩ := sound.used secret current
    exact ⟨step, List.mem_append_left _ inside⟩
  · intro secret current step inside
    rcases List.mem_append.mp inside with earlier | last
    · exact sound.last secret current step earlier
    · exact absurd last (acceptsNone secret (.inl current) step)
  · intro secret pending step inside
    rcases List.mem_append.mp inside with earlier | last
    · exact sound.unused secret pending step earlier
    · exact acceptsNone secret (.inr pending) step last

/-- Events that accept no step keep the log of the steps. -/
theorem StepsSound.of_rows (sound : StepsSound db log)
    (rows : ∀ item ∈ after.credentials, CredentialRow (log ++ events) item)
    (acceptsNone : ∀ secret step, .stepAccepted secret step ∉ events) :
    StepsSound after (log ++ events) := by
  refine ⟨rows, fun secret step inside => ?_, ?_⟩
  · rcases List.mem_append.mp inside with earlier | last
    · obtain ⟨userId, drawn⟩ := sound.known secret step earlier
      exact ⟨userId, List.mem_append_left _ drawn⟩
    · exact absurd last (acceptsNone secret step)
  · refine List.pairwise_append.mpr ⟨sound.increasing, ?_, ?_⟩
    · refine List.pairwise_of_forall_mem_list fun _ _ later member secret _ second _ same => ?_
      exact absurd (same ▸ member) (acceptsNone secret second)
    · rintro _ _ later member secret _ second _ rfl
      exact absurd member (acceptsNone secret second)

theorem StepsSound.other (sound : StepsSound db log)
    (credentials : after.credentials = db.credentials)
    (acceptsNone : ∀ secret step, .stepAccepted secret step ∉ events) :
    StepsSound after (log ++ events) :=
  sound.of_rows (fun item member => (sound.rows item (credentials ▸ member)).append
    fun secret _ => acceptsNone secret) acceptsNone

/-- A secret that was drawn once is held by one credential, so a step accepted for it
leaves the others. -/
theorem StepsSound.accepted {db : Database} {log : List Event} (sound : StepsSound db log)
    (fresh : FreshDraws log) {secret : String} {step : ℤ} {next : MfaCredential}
    (drawn : .secretDrawn next.userId secret ∈ log)
    (row : CredentialRow (log ++ [.stepAccepted secret step]) next)
    (later : ∀ earlier, .stepAccepted secret earlier ∈ log → earlier < step) :
    StepsSound (db.writeCredential next) (log ++ [.stepAccepted secret step]) := by
  refine ⟨fun item member => ?_, fun other accepted inside => ?_, ?_⟩
  · rcases mem_writeCredential member with rfl | ⟨old, different⟩
    · exact row
    · refine (sound.rows item old).append fun other holds accepted single => different ?_
      rw [(Event.stepAccepted.inj (List.mem_singleton.mp single)).1] at holds
      have same := (fresh.secretOnce secret).eq ((sound.rows item old).drawn secret holds) drawn
        ⟨_, rfl⟩ ⟨_, rfl⟩
      exact (Event.secretDrawn.inj same).1
  · rcases List.mem_append.mp inside with earlier | last
    · obtain ⟨userId, known⟩ := sound.known other accepted earlier
      exact ⟨userId, List.mem_append_left _ known⟩
    · obtain ⟨rfl, _⟩ := Event.stepAccepted.inj (List.mem_singleton.mp last)
      exact ⟨next.userId, List.mem_append_left _ drawn⟩
  · refine List.pairwise_append.mpr ⟨sound.increasing, List.pairwise_singleton _ _, ?_⟩
    rintro earlier member last single other first second rfl same
    rw [List.mem_singleton.mp single] at same
    obtain ⟨rfl, rfl⟩ := Event.stepAccepted.inj same
    exact later first member

/-- Each change keeps the accepted steps sound. -/
theorem Change.stepsSound (change : Change db events after) (fresh : FreshDraws (log ++ events))
    (sound : StepsSound db log) : StepsSound after (log ++ events) := by
  cases change with
  | secretDrawn item userId secret nonce token current encrypted expiry sessionId =>
    have draws : ∃ owner, Event.secretDrawn userId secret = .secretDrawn owner secret := ⟨_, rfl⟩
    have undrawn := (atMostOnce_append_singleton.mp (fresh.secretOnce secret)).2 draws
    refine sound.of_rows (fun row member => ?_) (by simp)
    rcases mem_writeCredential member with rfl | ⟨old, _⟩
    · -- the current secret is that of the stored credential, if there is one
      have before : item.userId = userId ∧
          ((∃ stored, Current item stored) → item ∈ db.credentials) := by
        cases read : db.credential userId with
        | none =>
          rw [read] at current
          subst current
          exact ⟨rfl, fun ⟨_, _, held, _⟩ => nomatch held⟩
        | some row =>
          rw [read] at current
          subst current
          exact ⟨(mem_of_credential read).2, fun _ => (mem_of_credential read).1⟩
      have only {plain : String} (pending : ∃ other, some token = some other ∧
          decrypt other = some plain) : plain = secret := by
        obtain ⟨other, same, plainOf⟩ := pending
        obtain rfl := Option.some.inj same
        exact Cryptography.decrypt_encrypt nonce secret token plain encrypted plainOf
      refine ⟨fun plain holds => ?_, fun plain held => ?_, fun plain held step inside => ?_,
        fun plain pending step inside => ?_⟩
      · rcases holds with held | pending
        · exact List.mem_append_left _
            ((sound.rows item (before.2 ⟨plain, held⟩)).drawn plain (.inl held))
        · rw [only pending, before.1]
          simp
      · obtain ⟨step, inside⟩ := (sound.rows item (before.2 ⟨plain, held⟩)).used plain held
        exact ⟨step, List.mem_append_left _ inside⟩
      · rcases List.mem_append.mp inside with earlier | last
        · exact (sound.rows item (before.2 ⟨plain, held⟩)).last plain held step earlier
        · exact nomatch List.mem_singleton.mp last
      · obtain rfl := only pending
        rcases List.mem_append.mp inside with earlier | last
        · obtain ⟨owner, drawn⟩ := sound.known plain step earlier
          exact undrawn _ drawn ⟨owner, rfl⟩
        · exact nomatch List.mem_singleton.mp last
    · exact (sound.rows row old).append (by simp)
  | stepAccepted item member token held secret plain step later =>
    have own := sound.rows item member
    have current : Current item secret := ⟨token, held, plain⟩
    have only {other : String} (holds : Current item other) : other = secret := by
      obtain ⟨found, same, plainOf⟩ := holds
      obtain rfl := Option.some.inj (held.symm.trans same)
      exact Option.some.inj (plainOf.symm.trans plain)
    refine sound.accepted fresh.of_append (own.drawn secret (.inl current)) ?_ fun earlier inside =>
      (own.last secret current earlier inside).trans_lt later
    refine ⟨fun other holds => List.mem_append_left _ (own.drawn other holds), fun other holds => ?_,
      fun other holds accepted inside => ?_, fun other pending accepted inside => ?_⟩
    · obtain rfl := only holds
      exact ⟨step, by simp⟩
    · obtain rfl := only holds
      rcases List.mem_append.mp inside with earlier | last
      · exact ((own.last other current accepted earlier).trans_lt later).le
      · exact (Event.stepAccepted.inj (List.mem_singleton.mp last)).2.le
    · rcases List.mem_append.mp inside with earlier | last
      · exact own.unused other pending accepted earlier
      · -- the secret has accepted steps, the pending one has none
        obtain ⟨rfl, _⟩ := Event.stepAccepted.inj (List.mem_singleton.mp last)
        obtain ⟨first, accepts⟩ := own.used other current
        exact own.unused other pending first accepts
  | confirmed item next member token pending secret plain step owner installed nothing lastStep =>
    have own := sound.rows item member
    have waits : Pending item secret := ⟨token, pending, plain⟩
    have drawn : .secretDrawn next.userId secret ∈ log := owner ▸ own.drawn secret (.inr waits)
    have only {other : String} (holds : Current next other) : other = secret := by
      obtain ⟨found, same, plainOf⟩ := holds
      obtain rfl := Option.some.inj (installed.symm.trans same)
      exact Option.some.inj (plainOf.symm.trans plain)
    have noPending {other : String} : ¬Pending next other := by
      rintro ⟨found, same, _⟩
      exact nomatch nothing.symm.trans same
    refine sound.accepted fresh.of_append drawn ?_ fun earlier inside =>
      absurd inside (own.unused secret waits earlier)
    refine ⟨fun other holds => ?_, fun other holds => ?_, fun other holds accepted inside => ?_,
      fun other waiting => absurd waiting noPending⟩
    · rcases holds with held | waiting
      · rw [only held]
        exact List.mem_append_left _ drawn
      · exact absurd waiting noPending
    · exact ⟨step, by simp [only holds]⟩
    · obtain rfl := only holds
      rcases List.mem_append.mp inside with earlier | last
      · exact absurd earlier (own.unused other waits accepted)
      · rw [lastStep]
        exact (Event.stepAccepted.inj (List.mem_singleton.mp last)).2.le
  | cleared next noSecret nothing =>
    have blank {other : String} : ¬(Current next other ∨ Pending next other) := by
      rintro (⟨_, same, _⟩ | ⟨_, same, _⟩)
      · exact nomatch noSecret.symm.trans same
      · exact nomatch nothing.symm.trans same
    refine sound.of_rows (fun row member => ?_) (by simp)
    rcases mem_writeCredential member with rfl | ⟨old, _⟩
    · exact ⟨fun _ holds => absurd holds blank, fun _ holds => absurd (.inl holds) blank,
        fun _ holds => absurd (.inl holds) blank, fun _ holds => absurd (.inr holds) blank⟩
    · exact (sound.rows row old).append (by simp)
  | _ => exact sound.other rfl (by simp)

end Steps

section Challenges

/-- A challenge is tried, or opened with a session. -/
def AcceptsChallenge (tokenHash : String) (event : Event) : Prop :=
  event = .challengeTried tokenHash ∨ event = .challengeOpened tokenHash

/-- What a stored challenge says of the log. -/
structure ChallengeRow (db : Database) (log : List Event) (item : MfaChallenge) : Prop where
  issued : .challengeIssued item.userId item.tokenHash ∈ log
  versioned : Versioned db log (Issues Event.challengeIssued item.tokenHash) item.userId
    item.userVersion
  tried : log.count (.challengeTried item.tokenHash) = item.attempts
  unopened : item.usedAt = none → .challengeOpened item.tokenHash ∉ log

structure ChallengesSound (db : Database) (log : List Event) : Prop where
  rows : ∀ item ∈ db.challenges, ChallengeRow db log item
  few : ∀ tokenHash, log.count (.challengeTried tokenHash) ≤ 5
  openedOnce : ∀ tokenHash, AtMostOnce (· = .challengeOpened tokenHash) log
  known : ∀ tokenHash, ∀ event ∈ log, AcceptsChallenge tokenHash event →
    ∃ issue ∈ log, Issues Event.challengeIssued tokenHash issue
  answers : Guarded (Answers Event.challengeIssued Increases AcceptsChallenge) log

/-- A row stays sound under events that do not accept it. -/
theorem ChallengeRow.append {db after : Database} {log events : List Event} {item : MfaChallenge}
    (sound : ChallengeRow db log item)
    (versioned : ∀ {issued userId userVersion}, Versioned db log issued userId userVersion →
      Versioned after (log ++ events) issued userId userVersion)
    (acceptsNone : ∀ event ∈ events, ¬AcceptsChallenge item.tokenHash event) :
    ChallengeRow after (log ++ events) item := by
  refine ⟨List.mem_append_left _ sound.issued, versioned sound.versioned, ?_, ?_⟩
  · rw [List.count_append, sound.tried, List.count_eq_zero_of_not_mem, Nat.add_zero]
    exact fun last => acceptsNone _ last (.inl rfl)
  · intro unused inside
    rcases List.mem_append.mp inside with earlier | last
    · exact sound.unopened unused earlier
    · exact acceptsNone _ last (.inr rfl)

/-- Events that accept no challenge keep the log of the challenges. -/
theorem ChallengesSound.of_rows {db after : Database} {log events : List Event}
    (sound : ChallengesSound db log)
    (rows : ∀ item ∈ after.challenges, ChallengeRow after (log ++ events) item)
    (acceptsNone : ∀ event ∈ events, ∀ tokenHash, ¬AcceptsChallenge tokenHash event) :
    ChallengesSound after (log ++ events) := by
  refine ⟨rows, fun tokenHash => ?_, fun tokenHash => ?_, fun tokenHash event inside accepts => ?_,
    ?_⟩
  · rw [List.count_append, List.count_eq_zero_of_not_mem (l := events), Nat.add_zero]
    · exact sound.few tokenHash
    · exact fun last => acceptsNone _ last tokenHash (.inl rfl)
  · refine (sound.openedOnce tokenHash).append ?_
    rintro event last rfl
    exact acceptsNone _ last tokenHash (.inr rfl)
  · rcases List.mem_append.mp inside with earlier | last
    · obtain ⟨issue, member, issued⟩ := sound.known tokenHash event earlier accepts
      exact ⟨issue, List.mem_append_left _ member, issued⟩
    · exact absurd accepts (acceptsNone event last tokenHash)
  · exact sound.answers.append fun event last before tokenHash accepts =>
      absurd accepts (acceptsNone event last tokenHash)

theorem AcceptsChallenge.unique {first second : String} {event : Event}
    (one : AcceptsChallenge first event) (two : AcceptsChallenge second event) : first = second := by
  rcases one with rfl | rfl
  · rcases two with same | same
    · exact Event.challengeTried.inj same
    · exact nomatch same
  · rcases two with same | same
    · exact nomatch same
    · exact Event.challengeOpened.inj same

/-- A stored challenge of the user's version is accepted: the other rows stay, and the
acceptance answers its issue. -/
theorem ChallengesSound.accepted {db : Database} {log : List Event} {event : Event}
    (sound : ChallengesSound db log) (keyed : WellKeyed db) {item next : MfaChallenge}
    (member : item ∈ db.challenges) (accepts : AcceptsChallenge item.tokenHash event)
    {user : User} (userMember : user ∈ db.users) (owner : user.id = item.userId)
    (version : user.tokenVersion = item.userVersion)
    (versioned : ∀ {issued userId userVersion}, Versioned db log issued userId userVersion →
      Versioned (db.writeChallenge next) (log ++ [event]) issued userId userVersion)
    (sameHash : next.tokenHash = item.tokenHash)
    (row : ChallengeRow (db.writeChallenge next) (log ++ [event]) next)
    (few : ∀ tokenHash, (log ++ [event]).count (.challengeTried tokenHash) ≤ 5)
    (openedOnce : ∀ tokenHash, AtMostOnce (· = .challengeOpened tokenHash) (log ++ [event])) :
    ChallengesSound (db.writeChallenge next) (log ++ [event]) := by
  have own := sound.rows item member
  refine ⟨fun other otherMember => ?_, few, openedOnce, fun tokenHash accepted inside accepting => ?_,
    ?_⟩
  · have rewritten : other = next ∨ other ∈ db.challenges ∧ other.tokenHash ≠ next.tokenHash :=
      mem_rewritten otherMember
    rcases rewritten with rfl | ⟨old, different⟩
    · exact row
    · refine (sound.rows other old).append versioned fun last single accepting => different ?_
      rw [List.mem_singleton.mp single] at accepting
      exact (accepting.unique accepts).trans sameHash.symm
  · rcases List.mem_append.mp inside with earlier | last
    · obtain ⟨issue, issueMember, issued⟩ := sound.known tokenHash accepted earlier accepting
      exact ⟨issue, List.mem_append_left _ issueMember, issued⟩
    · rw [List.mem_singleton.mp last] at accepting
      obtain rfl := accepting.unique accepts
      exact ⟨_, List.mem_append_left _ own.issued, item.userId, rfl⟩
  · refine guarded_append_singleton.mpr ⟨sound.answers, fun tokenHash accepting => ?_⟩
    obtain rfl := accepting.unique accepts
    obtain ⟨stored, storedMember, storedId, _, since⟩ := own.versioned
    obtain rfl := keyed.users.eq_of_key storedMember userMember (storedId.trans owner.symm)
    exact ⟨item.userId, own.issued, since version.symm⟩

variable [Cryptography]

/-- Each change keeps the challenges sound. -/
theorem Change.challengesSound {db after : Database} {log events : List Event}
    (change : Change db events after) (keyed : WellKeyed db) (fresh : FreshDraws (log ++ events))
    (sound : ChallengesSound db log) : ChallengesSound after (log ++ events) := by
  have versioned : ∀ {issued userId userVersion}, Versioned db log issued userId userVersion →
      Versioned after (log ++ events) issued userId userVersion :=
    Change.versioned change keyed
  cases change with
  | challengesDropped kept =>
    refine sound.of_rows (fun item member => ?_) (by simp)
    exact (sound.rows item (List.mem_filter.mp member).1).append versioned (by simp)
  | challengeIssued user member item owner version untried unused unknown =>
    have issues : Issues Event.challengeIssued item.tokenHash
        (.challengeIssued user.id item.tokenHash) := ⟨user.id, rfl⟩
    have unissued := (atMostOnce_append_singleton.mp (fresh.challengeOnce item.tokenHash)).2 issues
    have unaccepted {event : Event} (inside : event ∈ log) :
        ¬AcceptsChallenge item.tokenHash event := by
      intro accepts
      obtain ⟨issue, issueMember, issued⟩ := sound.known item.tokenHash event inside accepts
      exact unissued issue issueMember issued
    refine sound.of_rows (fun row rowMember => ?_) (by simp [AcceptsChallenge])
    rcases List.mem_append.mp rowMember with old | new
    · exact (sound.rows row old).append versioned (by simp [AcceptsChallenge])
    · obtain rfl := List.mem_singleton.mp new
      refine ⟨by simp [owner], ⟨user, member, owner.symm, version.le, fun _ => since_of_issued issues⟩,
        ?_, fun _ inside => ?_⟩
      · rw [List.count_append, List.count_eq_zero_of_not_mem fun inside => unaccepted inside (.inl rfl),
          untried]
        simp
      · rcases List.mem_append.mp inside with earlier | last
        · exact unaccepted earlier (.inr rfl)
        · exact nomatch List.mem_singleton.mp last
  | challengeTried item member unused remaining user userMember owner version =>
    have own := sound.rows item member
    have counted : (log ++ [Event.challengeTried item.tokenHash]).count
        (.challengeTried item.tokenHash) = item.attempts + 1 := by
      rw [List.count_append, own.tried, List.count_singleton_self]
    refine sound.accepted keyed member (.inl rfl) userMember owner version versioned rfl
      ⟨List.mem_append_left _ own.issued, versioned own.versioned, counted, fun _ inside => ?_⟩
      (fun tokenHash => ?_) fun tokenHash => ?_
    · rcases List.mem_append.mp inside with earlier | last
      · exact own.unopened unused earlier
      · exact nomatch List.mem_singleton.mp last
    · by_cases same : tokenHash = item.tokenHash
      · rw [same, counted]
        omega
      · have other : Event.challengeTried tokenHash ∉ [Event.challengeTried item.tokenHash] := by
          simpa using same
        rw [List.count_append, List.count_eq_zero_of_not_mem other, Nat.add_zero]
        exact sound.few tokenHash
    · exact (sound.openedOnce tokenHash).append (by simp)
  | challengeOpened item member unused now user userMember owner version =>
    have own := sound.rows item member
    have untried (tokenHash : String) : (log ++ [Event.challengeOpened item.tokenHash]).count
        (.challengeTried tokenHash) = log.count (.challengeTried tokenHash) := by
      have other : Event.challengeTried tokenHash ∉ [Event.challengeOpened item.tokenHash] := by
        simp
      rw [List.count_append, List.count_eq_zero_of_not_mem other, Nat.add_zero]
    refine sound.accepted keyed member (.inr rfl) userMember owner version versioned rfl
      ⟨List.mem_append_left _ own.issued, versioned own.versioned, ?_, fun used => nomatch used⟩
      (fun tokenHash => ?_) fun tokenHash => ?_
    · exact (untried _).trans own.tried
    · exact (untried tokenHash).le.trans (sound.few tokenHash)
    · refine atMostOnce_append_singleton.mpr ⟨sound.openedOnce tokenHash, fun opens => ?_⟩
      obtain rfl := Event.challengeOpened.inj opens
      rintro event inside rfl
      exact own.unopened unused inside
  | _ =>
    exact sound.of_rows (fun item member => (sound.rows item member).append versioned
      (by simp [AcceptsChallenge])) (by simp [AcceptsChallenge])

end Challenges

/-- What the log of a run says of one-time proofs. -/
structure OneTime (log : List Event) : Prop where
  stepsIncrease : StepsIncrease log
  stepOnce : ∀ secret step, AtMostOnce (· = .stepAccepted secret step) log
  codeOnce : ∀ codeHash, AtMostOnce (AcceptsCode codeHash) log
  codeDropped : ∀ first rest userId codeHash, log = first ++ .codesDropped userId :: rest →
    .codeIssued userId codeHash ∈ first → ∀ event ∈ rest, ¬AcceptsCode codeHash event
  opensOnce : ∀ tokenHash, AtMostOnce (· = .challengeOpened tokenHash) log
  triesFive : ∀ tokenHash, log.count (.challengeTried tokenHash) ≤ 5
  challengeVersion : ∀ first rest userId tokenHash,
    log = first ++ .versionIncreased userId :: rest → .challengeIssued userId tokenHash ∈ first →
    ∀ event ∈ rest, ¬AcceptsChallenge tokenHash event
  sessionVersion : ∀ first rest userId tokenHash,
    log = first ++ .versionIncreased userId :: rest → .sessionIssued userId tokenHash ∈ first →
    ∀ event ∈ rest, ¬AcceptsSession tokenHash event

section Runs

variable [Cryptography] [CaseMapping] (settings : Settings)

/-- Over every run whose draws are fresh, one-time proofs are one-time. -/
theorem systemAfter_one_time (steps : List Step)
    (fresh : FreshDraws (systemAfter settings steps).log) :
    OneTime (systemAfter settings steps).log := by
  have sessions := systemAfter_invariant settings SessionsSound
    ⟨(fun _ member => nomatch member), (fun _ member => nomatch member),
      (fun _ _ member => nomatch member), (fun _ => List.Pairwise.nil), guarded_nil⟩
    (fun _ change sound => Change.sessionsSound change sound) steps
  have codes := systemAfter_invariant settings (fun db log => FreshDraws log → CodesSound db log)
    (fun _ => ⟨(fun _ member => nomatch member), (fun _ => List.Pairwise.nil),
      (fun _ member => nomatch member), guarded_nil⟩)
    (fun _ change sound fresh => Change.codesSound change fresh (sound fresh.of_append)) steps fresh
  have accepted := systemAfter_invariant settings (fun db log => FreshDraws log → StepsSound db log)
    (fun _ => ⟨(fun _ member => nomatch member), (fun _ _ member => nomatch member),
      List.Pairwise.nil⟩)
    (fun _ change sound fresh => Change.stepsSound change fresh (sound fresh.of_append)) steps fresh
  have challenges := systemAfter_invariant settings
    (fun db log => FreshDraws log → ChallengesSound db log)
    (fun _ => ⟨(fun _ member => nomatch member), (fun _ => Nat.zero_le 5),
      (fun _ => List.Pairwise.nil), (fun _ _ member => nomatch member), guarded_nil⟩)
    (fun keyed change sound fresh =>
      Change.challengesSound change keyed fresh (sound fresh.of_append)) steps fresh
  refine ⟨accepted.increasing, ?_, codes.once, ?_, challenges.openedOnce, challenges.few, ?_, ?_⟩
  · intro secret step
    refine accepted.increasing.imp fun increases both => ?_
    exact absurd (increases secret step step both.1 both.2) (lt_irrefl step)
  · intro first rest userId codeHash split issued
    exact codes.answers.not_accepted_after (fun same => (Event.codeIssued.inj same).1)
      (fresh.codeOnce codeHash) split issued rfl
  · intro first rest userId tokenHash split issued
    exact challenges.answers.not_accepted_after (fun same => (Event.challengeIssued.inj same).1)
      (fresh.challengeOnce tokenHash) split issued rfl
  · intro first rest userId tokenHash split issued
    exact sessions.answers.not_accepted_after (fun same => (Event.sessionIssued.inj same).1)
      (sessions.once tokenHash) split issued rfl

end Runs

section Small

attribute [local instance] asciiCase

attribute [local instance] plainCryptography

/-- A user signs in, sets a second factor up and signs in with it; a replayed code is
refused. -/
def signInTwice : List Step :=
  [.perform 0 (.bootstrapAdmin "a@b" "secret" "secret" "u") fun _ => 0,
    .identify 1 "a@b" "secret" "",
    .perform 1 (.login none "first" (cookie 'a')) fun _ => 0,
    .load 2 (cookie 'a') 0, .authorize 2 true,
    .perform 2 (.setup "secret" "" "key" "nonce") fun _ => 0,
    .load 3 (cookie 'a') 0, .authorize 3 true,
    .perform 3 (.confirm "000000" "second" (cookie 'b') ["code"]) fun _ => 0,
    .identify 4 "a@b" "secret" "",
    .perform 4 (.login none "third" (cookie 'c')) fun _ => 0,
    .perform 5 (.verifyLogin (cookie 'c') "000000" "third" (cookie 'd')) fun _ => 0,
    .perform 6 (.verifyLogin (cookie 'c') "111111" "third" (cookie 'd')) fun _ => 0]

theorem signInTwice_one_time :
    (systemAfter oneHour signInTwice).log.length = 15 ∧
      OneTime (systemAfter oneHour signInTwice).log :=
  ⟨by decide +kernel, systemAfter_one_time oneHour signInTwice
    ⟨by decide +kernel, by decide +kernel, by decide +kernel⟩⟩

end Small

end FinopsAnalytics.OneTimeProofs
