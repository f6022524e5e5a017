import FinopsAnalytics.AccountRuns

/-!
# Administrators, links and the lock

Over every run of requests: once the first administrator exists there is always one
who is active and has a password; a link completes one password change at most, never
past its expiry, a newer link of its purpose or another version of its user; and an
administrator who changed between the first read of a request and the lock changes
nothing.
-/

namespace FinopsAnalytics.AccountSafety

open PythonText AccountStore AccountRequests AccountChanges AccountTransactions AccountRuns
open EventLogs KeyedRows

section Administrators

variable [Cryptography]

/-- Someone can administer once the bootstrap is complete. -/
def Administered (db : Database) : Prop :=
  db.bootstrapComplete = true → ∃ user ∈ db.users, countsAsAdmin user = true

/-- The changes that could remove an administrator are made where another one counts. -/
theorem Change.administered {db after : Database} {events : List Event}
    (change : Change db events after) (keyed : WellKeyed db) (administered : Administered db) :
    Administered after := by
  cases change with
  | passwordStored =>
    intro complete
    obtain ⟨admin, member, counts⟩ := administered complete
    refine ⟨_, List.mem_map_of_mem member, ?_⟩
    split <;> exact counts
  | bootstrapped user incomplete nobody counts =>
    exact fun _ => ⟨user, List.mem_singleton_self user, counts⟩
  | userAdded =>
    intro complete
    obtain ⟨admin, member, counts⟩ := administered complete
    exact ⟨admin, List.mem_append_left _ member, counts⟩
  | userWritten user next member id _ role isActive passwordSet =>
    intro complete
    obtain ⟨admin, adminMember, counts⟩ := administered complete
    by_cases same : admin.id = next.id
    · obtain rfl := keyed.users.eq_of_key adminMember member (same.trans id)
      refine ⟨next, next_mem_rewritten adminMember same, ?_⟩
      rw [← counts]
      simp only [countsAsAdmin, role, isActive, passwordSet]
    · exact ⟨admin, mem_rewritten_of_ne adminMember same, counts⟩
  | versionIncreased user next member id _ _ guarded =>
    intro complete
    obtain ⟨admin, adminMember, counts⟩ := administered complete
    by_cases same : admin.id = next.id
    · obtain rfl := keyed.users.eq_of_key adminMember member (same.trans id)
      -- the administrator who changes still counts, or there is another one
      rcases guarded counts with still | two
      · exact ⟨next, next_mem_rewritten adminMember same, still⟩
      · obtain ⟨other, otherMember, otherCounts, different⟩ :=
          keyed.users.exists_other two next.id
        exact ⟨other, mem_rewritten_of_ne otherMember different, otherCounts⟩
    · exact ⟨admin, mem_rewritten_of_ne adminMember same, counts⟩
  | _ => exact administered

end Administrators

section Links

/-- The issue of a link. -/
def IssuesLink (tokenHash : String) (event : Event) : Prop :=
  ∃ userId purpose expiresAt, event = .tokenIssued userId purpose tokenHash expiresAt

def CompletesAccess (tokenHash : String) (event : Event) : Prop :=
  ∃ at_, event = .accessCompleted tokenHash at_

/-- The issue of any link of a purpose to a user. -/
def IssuesTo (userId : String) (purpose : Purpose) (event : Event) : Prop :=
  ∃ tokenHash expiresAt, event = .tokenIssued userId purpose tokenHash expiresAt

/-- A completion happens before the expiry of its link, with no newer link of the
purpose and no other version of the user since the link was issued. -/
def CompletesInTime (event : Event) (before : List Event) : Prop :=
  ∀ tokenHash at_, event = .accessCompleted tokenHash at_ → ∃ userId purpose expiresAt,
    .tokenIssued userId purpose tokenHash expiresAt ∈ before ∧ at_ < expiresAt ∧
      Since (IssuesLink tokenHash) (IssuesTo userId purpose) before ∧
      Since (IssuesLink tokenHash) (· = .versionIncreased userId) before

/-- What a stored link says of the log. -/
structure LinkRow (db : Database) (log : List Event) (token : AccessToken) : Prop where
  issued : .tokenIssued token.userId token.purpose token.tokenHash token.expiresAt ∈ log
  latest : token.usedAt = none →
    Since (IssuesLink token.tokenHash) (IssuesTo token.userId token.purpose) log
  uncompleted : token.usedAt = none → ∀ event ∈ log, ¬CompletesAccess token.tokenHash event
  versioned : Versioned db log (IssuesLink token.tokenHash) token.userId token.userVersion

/-- The links of the tables and of the log. -/
structure LinksSound (db : Database) (log : List Event) : Prop where
  rows : ∀ token ∈ db.tokens, LinkRow db log token
  stored : ∀ tokenHash, ∀ event ∈ log, IssuesLink tokenHash event ∨ CompletesAccess tokenHash event →
    ∃ token ∈ db.tokens, token.tokenHash = tokenHash
  issuedOnce : ∀ tokenHash, AtMostOnce (IssuesLink tokenHash) log
  completedOnce : ∀ tokenHash, AtMostOnce (CompletesAccess tokenHash) log
  inTime : Guarded CompletesInTime log

/-- The events about links. -/
def aboutLinks : Event → Bool
  | .tokenIssued .. => true
  | .accessCompleted .. => true
  | _ => false

section Others

variable {event : Event} (other : aboutLinks event = false)
include other

theorem not_issuesLink (tokenHash : String) : ¬IssuesLink tokenHash event := by
  rintro ⟨_, _, _, rfl⟩
  exact nomatch other

theorem not_completesAccess (tokenHash : String) : ¬CompletesAccess tokenHash event := by
  rintro ⟨_, rfl⟩
  exact nomatch other

theorem not_issuesTo (userId : String) (purpose : Purpose) : ¬IssuesTo userId purpose event := by
  rintro ⟨_, _, rfl⟩
  exact nomatch other

end Others

/-- A change about other things keeps the links. -/
theorem LinksSound.other {db after : Database} {log events : List Event}
    (sound : LinksSound db log) (tokens : after.tokens = db.tokens)
    (others : ∀ event ∈ events, aboutLinks event = false)
    (versioned : ∀ {issued userId userVersion}, Versioned db log issued userId userVersion →
      Versioned after (log ++ events) issued userId userVersion) :
    LinksSound after (log ++ events) := by
  refine ⟨?_, ?_, fun tokenHash => ?_, fun tokenHash => ?_, ?_⟩
  · intro token member
    have row := sound.rows token (tokens ▸ member)
    refine ⟨List.mem_append_left _ row.issued, fun unused => ?_, fun unused event inside => ?_,
      versioned row.versioned⟩
    · exact (row.latest unused).append fun event inside => not_issuesTo (others event inside) _ _
    · rcases List.mem_append.mp inside with old | new
      · exact row.uncompleted unused event old
      · exact not_completesAccess (others event new) _
  · intro tokenHash event inside about
    rw [tokens]
    rcases List.mem_append.mp inside with old | new
    · exact sound.stored tokenHash event old about
    · rcases about with issues | completes
      · exact absurd issues (not_issuesLink (others event new) tokenHash)
      · exact absurd completes (not_completesAccess (others event new) tokenHash)
  · exact (sound.issuedOnce tokenHash).append fun event inside =>
      not_issuesLink (others event inside) tokenHash
  · exact (sound.completedOnce tokenHash).append fun event inside =>
      not_completesAccess (others event inside) tokenHash
  · refine sound.inTime.append fun event inside before tokenHash at_ same => ?_
    exact absurd ⟨at_, same⟩ (not_completesAccess (others event inside) tokenHash)

/-- A new link is the latest one of its purpose, and earlier unused ones are used up. -/
theorem LinksSound.tokenIssued {db : Database} {log : List Event} (sound : LinksSound db log)
    {user : User} (member : user ∈ db.users) (token : AccessToken) (now : Instant)
    (owner : token.userId = user.id) (version : token.userVersion = user.tokenVersion)
    (fresh : ∀ row ∈ db.tokens, row.tokenHash ≠ token.tokenHash) :
    LinksSound
      { db with tokens := db.tokens.map (fun row =>
          if row.userId = user.id ∧ row.purpose = token.purpose ∧ row.usedAt = none then
            { row with usedAt := some now }
          else row) ++ [token] }
      (log ++ [.tokenIssued user.id token.purpose token.tokenHash token.expiresAt]) := by
  let after : Database := { db with
    tokens := db.tokens.map (fun row =>
        if row.userId = user.id ∧ row.purpose = token.purpose ∧ row.usedAt = none then
          { row with usedAt := some now }
        else row) ++ [token] }
  have issues : IssuesLink token.tokenHash
      (.tokenIssued user.id token.purpose token.tokenHash token.expiresAt) := ⟨_, _, _, rfl⟩
  have unknown : ∀ event ∈ log,
      ¬(IssuesLink token.tokenHash event ∨ CompletesAccess token.tokenHash event) := by
    intro event inside about
    obtain ⟨row, rowMember, same⟩ := sound.stored token.tokenHash event inside about
    exact fresh row rowMember same
  have completesNone {tokenHash : String} :
      ∀ event ∈ [Event.tokenIssued user.id token.purpose token.tokenHash token.expiresAt],
        ¬CompletesAccess tokenHash event := by
    intro event single
    rw [List.mem_singleton.mp single]
    rintro ⟨at_, same⟩
    exact nomatch same
  refine ⟨?_, ?_, fun tokenHash => ?_, fun tokenHash => ?_, ?_⟩
  · intro row rowMember
    rcases List.mem_append.mp rowMember with older | newest
    · obtain ⟨old, oldMember, rfl⟩ := List.mem_map.mp older
      have before := sound.rows old oldMember
      have versioned : Versioned after
          (log ++ [.tokenIssued user.id token.purpose token.tokenHash token.expiresAt])
          (IssuesLink old.tokenHash) old.userId old.userVersion :=
        before.versioned.append rfl (by simp)
      by_cases replaced : old.userId = user.id ∧ old.purpose = token.purpose ∧ old.usedAt = none
      · rw [if_pos replaced]
        exact ⟨List.mem_append_left _ before.issued, (fun unused => nomatch unused),
          (fun unused => nomatch unused), versioned⟩
      · rw [if_neg replaced]
        refine ⟨List.mem_append_left _ before.issued, fun unused => ?_, fun unused event inside => ?_,
          versioned⟩
        · refine (before.latest unused).append fun event single => ?_
          rw [List.mem_singleton.mp single]
          rintro ⟨tokenHash, expiresAt, same⟩
          obtain ⟨sameUser, samePurpose, _⟩ := Event.tokenIssued.inj same
          exact replaced ⟨sameUser.symm, samePurpose.symm, unused⟩
        · rcases List.mem_append.mp inside with earlier | last
          · exact before.uncompleted unused event earlier
          · exact completesNone event last
    · obtain rfl := List.mem_singleton.mp newest
      refine ⟨by rw [owner]; simp, fun _ => since_of_issued issues, fun _ event inside => ?_,
        user, member, owner.symm, version.le, fun _ => since_of_issued issues⟩
      rcases List.mem_append.mp inside with earlier | last
      · exact fun completes => unknown event earlier (.inr completes)
      · exact completesNone event last
  · intro tokenHash event inside about
    rcases List.mem_append.mp inside with earlier | last
    · obtain ⟨row, rowMember, same⟩ := sound.stored tokenHash event earlier about
      refine ⟨_, List.mem_append_left _ (List.mem_map_of_mem rowMember), ?_⟩
      split <;> exact same
    · rcases about with issuesIt | completes
      · rw [List.mem_singleton.mp last] at issuesIt
        obtain ⟨_, _, _, same⟩ := issuesIt
        exact ⟨token, by simp, (Event.tokenIssued.inj same).2.2.1⟩
      · exact absurd completes (completesNone event last)
  · refine atMostOnce_append_singleton.mpr ⟨sound.issuedOnce tokenHash, ?_⟩
    rintro ⟨_, _, _, same⟩ event inside issuesIt
    obtain rfl := (Event.tokenIssued.inj same).2.2.1
    exact unknown event inside (.inl issuesIt)
  · exact (sound.completedOnce tokenHash).append completesNone
  · refine sound.inTime.append fun event single before tokenHash at_ same => ?_
    exact absurd ⟨at_, same⟩ (completesNone event single)

/-- A completion uses its link up. -/
theorem LinksSound.accessCompleted {db : Database} {log : List Event} (sound : LinksSound db log)
    (keyed : WellKeyed db) {token : AccessToken} (member : token ∈ db.tokens)
    (unused : token.usedAt = none) {now usedAt : Instant} (unexpired : now < token.expiresAt)
    {user : User} (userMember : user ∈ db.users) (owner : user.id = token.userId)
    (version : user.tokenVersion = token.userVersion) :
    LinksSound
      { db with tokens := db.tokens.map fun row =>
          if row.tokenHash = token.tokenHash then { token with usedAt := some usedAt } else row }
      (log ++ [.accessCompleted token.tokenHash now]) := by
  let used : AccessToken := { token with usedAt := some usedAt }
  have own := sound.rows token member
  have issuesNone {tokenHash : String} : ∀ event ∈ [Event.accessCompleted token.tokenHash now],
      ¬IssuesLink tokenHash event := by
    intro event single
    rw [List.mem_singleton.mp single]
    rintro ⟨_, _, _, same⟩
    exact nomatch same
  refine ⟨?_, ?_, fun tokenHash => ?_, fun tokenHash => ?_, ?_⟩
  · intro row rowMember
    have rewritten : row = used ∨ row ∈ db.tokens ∧ row.tokenHash ≠ used.tokenHash :=
      mem_rewritten rowMember
    rcases rewritten with rfl | ⟨old, different⟩
    · exact ⟨List.mem_append_left _ own.issued, (fun unused => nomatch unused),
        (fun unused => nomatch unused), own.versioned.append rfl (by simp)⟩
    · have before := sound.rows row old
      refine ⟨List.mem_append_left _ before.issued, fun unused => ?_, fun unused event inside => ?_,
        before.versioned.append rfl (by simp)⟩
      · refine (before.latest unused).append fun event single => ?_
        rw [List.mem_singleton.mp single]
        rintro ⟨_, _, same⟩
        exact nomatch same
      · rcases List.mem_append.mp inside with earlier | last
        · exact before.uncompleted unused event earlier
        · rw [List.mem_singleton.mp last]
          rintro ⟨at_, same⟩
          exact different (Event.accessCompleted.inj same).1.symm
  · intro tokenHash event inside about
    have stored : ∃ row ∈ db.tokens, row.tokenHash = tokenHash := by
      rcases List.mem_append.mp inside with earlier | last
      · exact sound.stored tokenHash event earlier about
      · rcases about with issues | ⟨at_, same⟩
        · exact absurd issues (issuesNone event last)
        · rw [List.mem_singleton.mp last] at same
          exact ⟨token, member, (Event.accessCompleted.inj same).1⟩
    obtain ⟨row, rowMember, same⟩ := stored
    refine ⟨_, List.mem_map_of_mem rowMember, ?_⟩
    split
    · rename_i named
      exact named.symm.trans same
    · exact same
  · exact (sound.issuedOnce tokenHash).append issuesNone
  · refine atMostOnce_append_singleton.mpr ⟨sound.completedOnce tokenHash, ?_⟩
    rintro ⟨at_, same⟩ event inside
    obtain rfl := (Event.accessCompleted.inj same).1
    exact own.uncompleted unused event inside
  · refine guarded_append_singleton.mpr ⟨sound.inTime, ?_⟩
    intro tokenHash at_ same
    obtain ⟨rfl, rfl⟩ := Event.accessCompleted.inj same
    obtain ⟨row, rowMember, rowId, _, since⟩ := own.versioned
    obtain rfl := keyed.users.eq_of_key rowMember userMember (rowId.trans owner.symm)
    exact ⟨token.userId, token.purpose, token.expiresAt, own.issued, unexpired,
      own.latest unused, since version.symm⟩

variable [Cryptography]

/-- By cases on the change; only issuing and completing touch the links. -/
theorem Change.linksSound {db after : Database} {log events : List Event}
    (change : Change db events after) (keyed : WellKeyed db) (sound : LinksSound db log) :
    LinksSound after (log ++ events) := by
  have versioned : ∀ {issued userId userVersion}, Versioned db log issued userId userVersion →
      Versioned after (log ++ events) issued userId userVersion :=
    Change.versioned change keyed
  cases change with
  | tokenIssued user member token now owner version unused fresh =>
    exact sound.tokenIssued member token now owner version fresh
  | accessCompleted token member unused now usedAt unexpired user userMember owner version =>
    exact sound.accessCompleted keyed member unused unexpired userMember owner version
  | _ => exact sound.other rfl (by simp [aboutLinks]) versioned

/-- What the log of a run says of links: a link completes one access at most, before it
expires, and not after a newer link of its purpose was issued to its user or the
version of the user increased. -/
structure LinkLaws (log : List Event) : Prop where
  once : ∀ tokenHash, AtMostOnce (CompletesAccess tokenHash) log
  issued : ∀ tokenHash at_, .accessCompleted tokenHash at_ ∈ log →
    ∃ event ∈ log, IssuesLink tokenHash event
  unexpired : ∀ userId purpose tokenHash expiresAt at_,
    .tokenIssued userId purpose tokenHash expiresAt ∈ log →
    .accessCompleted tokenHash at_ ∈ log → at_ < expiresAt
  newer : ∀ first rest userId purpose tokenHash expiresAt newHash newExpiry,
    log = first ++ .tokenIssued userId purpose newHash newExpiry :: rest →
    .tokenIssued userId purpose tokenHash expiresAt ∈ first →
    ∀ event ∈ rest, ¬CompletesAccess tokenHash event
  version : ∀ first rest userId purpose tokenHash expiresAt,
    log = first ++ .versionIncreased userId :: rest →
    .tokenIssued userId purpose tokenHash expiresAt ∈ first →
    ∀ event ∈ rest, ¬CompletesAccess tokenHash event

omit [Cryptography] in
/-- What the stored links say of the log. -/
theorem LinksSound.laws {db : Database} {log : List Event} (sound : LinksSound db log) :
    LinkLaws log := by
  -- the issue that a completion answers is the only one of its link
  have answers {userId : String} {purpose : Purpose} {tokenHash : String} {expiresAt : Instant}
      (issued : .tokenIssued userId purpose tokenHash expiresAt ∈ log) :
      Guarded (fun event before => ∀ at_, event = .accessCompleted tokenHash at_ →
        at_ < expiresAt ∧ Since (IssuesLink tokenHash) (IssuesTo userId purpose) before ∧
          Since (IssuesLink tokenHash) (· = .versionIncreased userId) before) log := by
    intro front event back split at_ same
    obtain ⟨otherUser, otherPurpose, otherExpiry, otherIssued, unexpired, since⟩ :=
      sound.inTime front event back split tokenHash at_ same
    have one : Event.tokenIssued otherUser otherPurpose tokenHash otherExpiry =
        .tokenIssued userId purpose tokenHash expiresAt :=
      (sound.issuedOnce tokenHash).eq (by rw [split]; exact List.mem_append_left _ otherIssued)
        issued ⟨_, _, _, rfl⟩ ⟨_, _, _, rfl⟩
    obtain ⟨rfl, rfl, _, rfl⟩ := Event.tokenIssued.inj one
    exact ⟨unexpired, since⟩
  refine ⟨sound.completedOnce, ?_, ?_, ?_, ?_⟩
  · intro tokenHash at_ inside
    obtain ⟨front, back, split⟩ := List.append_of_mem inside
    obtain ⟨_, _, _, issued, _⟩ := sound.inTime front _ back split tokenHash at_ rfl
    exact ⟨_, by rw [split]; exact List.mem_append_left _ issued, _, _, _, rfl⟩
  · intro userId purpose tokenHash expiresAt at_ issued completed
    obtain ⟨front, back, split⟩ := List.append_of_mem completed
    exact (answers issued front _ back split at_ rfl).1
  · intro first rest userId purpose tokenHash expiresAt newHash newExpiry split issued
    have inLog : .tokenIssued userId purpose tokenHash expiresAt ∈ log := by
      rw [split]
      exact List.mem_append_left _ issued
    have guarded : Guarded (fun event before => CompletesAccess tokenHash event →
        Since (IssuesLink tokenHash) (IssuesTo userId purpose) before) log := by
      rintro front event back cut ⟨at_, same⟩
      exact (answers inLog front event back cut at_ same).2.1
    exact guarded.never_after (sound.issuedOnce tokenHash) split issued ⟨_, _, _, rfl⟩ ⟨_, _, rfl⟩
  · intro first rest userId purpose tokenHash expiresAt split issued
    have inLog : .tokenIssued userId purpose tokenHash expiresAt ∈ log := by
      rw [split]
      exact List.mem_append_left _ issued
    have guarded : Guarded (fun event before => CompletesAccess tokenHash event →
        Since (IssuesLink tokenHash) (· = .versionIncreased userId) before) log := by
      rintro front event back cut ⟨at_, same⟩
      exact (answers inLog front event back cut at_ same).2.2
    exact guarded.never_after (sound.issuedOnce tokenHash) split issued ⟨_, _, _, rfl⟩ rfl

end Links

section Recheck

/-- Later tables know every user, at a later version or with the same role and
activity. -/
def Follows (before after : Database) : Prop :=
  ∀ user ∈ before.users, ∃ next ∈ after.users, next.id = user.id ∧
    user.tokenVersion ≤ next.tokenVersion ∧
    (next.tokenVersion = user.tokenVersion → next.role = user.role ∧ next.isActive = user.isActive)

theorem Follows.refl (db : Database) : Follows db db :=
  fun user member => ⟨user, member, rfl, le_rfl, fun _ => ⟨rfl, rfl⟩⟩

/-- Later rows follow earlier ones. -/
theorem Follows.trans {first second third : Database} (one : Follows first second)
    (two : Follows second third) : Follows first third := by
  intro user member
  obtain ⟨next, nextMember, nextId, nextLater, nextSame⟩ := one user member
  obtain ⟨last, lastMember, lastId, lastLater, lastSame⟩ := two next nextMember
  refine ⟨last, lastMember, lastId.trans nextId, nextLater.trans lastLater, fun same => ?_⟩
  have middle : next.tokenVersion = user.tokenVersion := by omega
  obtain ⟨nextRole, nextActive⟩ := nextSame middle
  obtain ⟨lastRole, lastActive⟩ := lastSame (same.trans middle.symm)
  exact ⟨lastRole.trans nextRole, lastActive.trans nextActive⟩

variable [Cryptography]

/-- A change of role or activity is a change of version. -/
theorem Change.follows {db after : Database} {events : List Event}
    (change : Change db events after) (keyed : WellKeyed db) : Follows db after := by
  intro row member
  cases change with
  | passwordStored =>
    refine ⟨_, List.mem_map_of_mem member, ?_⟩
    split <;> exact ⟨rfl, le_rfl, fun _ => ⟨rfl, rfl⟩⟩
  | bootstrapped _ _ nobody =>
    rw [nobody] at member
    exact nomatch member
  | userAdded => exact ⟨row, List.mem_append_left _ member, rfl, le_rfl, fun _ => ⟨rfl, rfl⟩⟩
  | userWritten user next userMember id version role isActive =>
    by_cases same : row.id = next.id
    · obtain rfl := keyed.users.eq_of_key member userMember (same.trans id)
      exact ⟨next, next_mem_rewritten member same, id, version.ge, fun _ => ⟨role, isActive⟩⟩
    · exact ⟨row, mem_rewritten_of_ne member same, rfl, le_rfl, fun _ => ⟨rfl, rfl⟩⟩
  | versionIncreased user next userMember id version =>
    by_cases same : row.id = next.id
    · obtain rfl := keyed.users.eq_of_key member userMember (same.trans id)
      exact ⟨next, next_mem_rewritten member same, id, by omega, fun reached => by omega⟩
    · exact ⟨row, mem_rewritten_of_ne member same, rfl, le_rfl, fun _ => ⟨rfl, rfl⟩⟩
  | _ => exact ⟨row, member, rfl, le_rfl, fun _ => ⟨rfl, rfl⟩⟩

/-- The operations that an administrator performs on accounts. -/
def administrative : Operation → Bool
  | .createUser .. => true
  | .updateUser .. => true
  | .inviteUser .. => true
  | .issueAccess .. => true
  | .revokeUserSessions .. => true
  | .revokeOneUserSession .. => true
  | .adminReset .. => true
  | _ => false

/-- A step that begins the request anew. -/
def starts (request : ℕ) : Step → Bool
  | .load other _ _ => decide (other = request)
  | .identify other _ _ _ => decide (other = request)
  | _ => false

/-- A request that has read a user and a session and not read them again. -/
def Holds (user : User) (session : LoginSession) (held : Option Waiting) : Prop :=
  held = none ∨ (∃ now, held = some (.loaded user session now)) ∨
    held = some (.admitted user session)

variable [CaseMapping] (settings : Settings)

variable {user : User} {session : LoginSession} {operation : Operation} {system : System}

omit [Cryptography] [CaseMapping] in
theorem loadSession_ok [Cryptography] {db : Database} {raw : String}
    (loads : loadSession db raw = .ok (user, session)) :
    user ∈ db.users ∧ session.userVersion = user.tokenVersion := by
  obtain ⟨_, _, loads⟩ := Fallible.bind_eq_ok.mp loads
  obtain ⟨row, _, loads⟩ := Fallible.bind_eq_ok.mp loads
  obtain ⟨read, readUser, loads⟩ := Fallible.bind_eq_ok.mp loads
  obtain ⟨_, checked, same⟩ := Fallible.bind_eq_ok.mp loads
  cases Except.ok.inj same
  exact ⟨(mem_of_user? (found_eq_ok.mp readUser)).1, (ensure_eq_ok.mp checked).2.2⟩

/-- An administrative operation that commits has found its administrator at the version
that the request read. -/
theorem perform_administrative (isAdministrative : administrative operation)
    (version : session.userVersion = user.tokenVersion) {clock : Readings} {db after : Database}
    {events : List Event}
    (committed : perform settings operation (some (.admitted user session)) clock db =
      .ok (after, events)) :
    ∃ current ∈ db.users, current.id = user.id ∧ current.tokenVersion = user.tokenVersion := by
  -- the operations of the user routes check the version under the lock
  have rechecked {done : Unit} (passed : lockAndRecheckAdmin db user = .ok done) :
      ∃ current ∈ db.users, current.id = user.id ∧
        current.tokenVersion = user.tokenVersion := by
    obtain ⟨current, member, id, _, _, same⟩ := lockAndRecheckAdmin_ok passed
    exact ⟨current, member, id, same⟩
  cases operation with
  | createUser =>
    obtain ⟨_, _, committed⟩ := Fallible.bind_eq_ok.mp committed
    exact rechecked (Fallible.bind_eq_ok.mp committed).choose_spec.1
  | updateUser =>
    obtain ⟨_, _, committed⟩ := Fallible.bind_eq_ok.mp committed
    exact rechecked (Fallible.bind_eq_ok.mp committed).choose_spec.1
  | inviteUser =>
    obtain ⟨_, _, committed⟩ := Fallible.bind_eq_ok.mp committed
    exact rechecked (Fallible.bind_eq_ok.mp committed).choose_spec.1
  | issueAccess =>
    obtain ⟨_, _, committed⟩ := Fallible.bind_eq_ok.mp committed
    exact rechecked (Fallible.bind_eq_ok.mp committed).choose_spec.1
  | revokeUserSessions =>
    obtain ⟨_, _, committed⟩ := Fallible.bind_eq_ok.mp committed
    exact rechecked (Fallible.bind_eq_ok.mp committed).choose_spec.1
  | revokeOneUserSession =>
    obtain ⟨_, _, committed⟩ := Fallible.bind_eq_ok.mp committed
    exact rechecked (Fallible.bind_eq_ok.mp committed).choose_spec.1
  | adminReset =>
    obtain ⟨_, _, committed⟩ := Fallible.bind_eq_ok.mp committed
    obtain ⟨⟨current, row, proven, accepted⟩, proved, _⟩ := Fallible.bind_eq_ok.mp committed
    obtain ⟨member, id, same, _⟩ := proof_ok settings proved
    exact ⟨current, member, id, same.trans version⟩
  | _ => exact nomatch isAdministrative

/-- An administrative operation needs an admission. -/
theorem perform_unadmitted (isAdministrative : administrative operation) {held : Option Waiting}
    (unadmitted : ∀ user session, held ≠ some (.admitted user session)) (clock : Readings)
    (db : Database) :
    perform settings operation held clock db = .error sessionExpired := by
  cases operation <;> first
    | exact absurd isAdministrative Bool.false_ne_true
    | cases held with
      | none => rfl
      | some waiting => cases waiting <;> first | rfl | exact absurd rfl (unadmitted _ _)

/-- A request that does not begin again holds what it read, or nothing. -/
theorem step_holds {request : ℕ} (holds : Holds user session (system.waiting request))
    {action : Step} (continues : starts request action = false) :
    Holds user session ((step settings system action).waiting request) := by
  -- a step of another request leaves what this one holds
  have elsewhere {other : ℕ} (different : other ≠ request) {next : System} {held : Option Waiting}
      (waiting : next.waiting = Function.update system.waiting other held) :
      Holds user session (next.waiting request) := by
    rw [waiting, Function.update_of_ne (Ne.symm different)]
    exact holds
  have here {next : System} {held : Option Waiting}
      (waiting : next.waiting = Function.update system.waiting request held)
      (holding : Holds user session held) : Holds user session (next.waiting request) := by
    rw [waiting, Function.update_self]
    exact holding
  cases action with
  | load other raw now =>
    have different : other ≠ request := by simpa [starts] using continues
    unfold step
    dsimp only
    split <;> exact elsewhere different rfl
  | identify other email password rehashed =>
    have different : other ≠ request := by simpa [starts] using continues
    unfold step
    dsimp only
    split <;> exact elsewhere different rfl
  | authorize other pathAllowed =>
    by_cases same : other = request
    · subst same
      unfold step
      dsimp only
      rcases holds with nothing | ⟨now, loaded⟩ | admitted
      · rw [nothing]
        exact here rfl (.inl rfl)
      · rw [loaded]
        dsimp only
        split
        · exact here rfl (.inl rfl)
        · exact here rfl (.inr (.inr rfl))
      · rw [admitted]
        exact here rfl (.inl rfl)
    · unfold step
      dsimp only
      split
      · split <;> exact elsewhere same rfl
      · exact elsewhere same rfl
  | perform other operation clock =>
    by_cases same : other = request
    · subst same
      unfold step
      dsimp only
      split
      · exact here rfl (.inl rfl)
      · refine here rfl (.inl ?_)
        rcases holds with nothing | ⟨now, loaded⟩ | admitted
        · rw [nothing]
          cases operation <;> rfl
        · rw [loaded]
          cases operation <;> rfl
        · rw [admitted]
          cases operation <;> rfl
    · unfold step
      dsimp only
      split <;> exact elsewhere same rfl

theorem run_holds {request : ℕ} (holds : Holds user session (system.waiting request))
    {steps : List Step} (continues : ∀ action ∈ steps, starts request action = false) :
    Holds user session ((Interleavings.run (step settings) system steps).waiting request) := by
  induction steps generalizing system with
  | nil => exact holds
  | cons action rest inductionHypothesis =>
    exact inductionHypothesis
      (step_holds settings holds (continues action (List.mem_cons_self ..)))
      fun other member => continues other (List.mem_cons_of_mem _ member)

theorem run_follows (coherent : Coherent system) (steps : List Step) :
    Coherent (Interleavings.run (step settings) system steps) ∧
      Follows system.db (Interleavings.run (step settings) system steps).db :=
  run_invariant settings (fun db _ => Follows system.db db)
    (fun keyed change follows => follows.trans (Change.follows change keyed)) coherent
    (Follows.refl system.db) steps

/-- An administrator whose role, activity or version changed while the request waited
for the lock performs no change. -/
theorem changed_administrator_refused (coherent : Coherent system) {request : ℕ} {raw : String}
    {now : Instant} (loads : loadSession system.db raw = .ok (user, session))
    (middle later : List Step)
    (continues : ∀ action ∈ middle ++ later, starts request action = false)
    (isAdministrative : administrative operation) (clock : Readings) {row : User} (member : row ∈
      (Interleavings.run (step settings) (step settings system (.load request raw now))
        middle).db.users) (id : row.id = user.id)
    (changed : row.role ≠ user.role ∨ row.isActive ≠ user.isActive ∨
      row.tokenVersion ≠ user.tokenVersion) :
    let waited := Interleavings.run (step settings) (step settings system (.load request raw now))
      (middle ++ later)
    let done := step settings waited (.perform request operation clock)
    done.db = waited.db ∧ done.log = waited.log := by
  intro waited done
  let read := step settings system (.load request raw now)
  have reads : read = system.hold request (some (.loaded user session now)) := by
    simp only [read, step, loads]
  have coherentRead : Coherent read := step_coherent settings coherent _
  have holds : Holds user session (waited.waiting request) := by
    refine run_holds settings (.inr (.inl ⟨now, ?_⟩)) continues
    show read.waiting request = _
    rw [reads]
    exact Function.update_self ..
  have split : waited = Interleavings.run (step settings)
      (Interleavings.run (step settings) read middle) later := Interleavings.run_append ..
  obtain ⟨coherentBetween, follows⟩ := run_follows settings coherentRead middle
  obtain ⟨coherentWaited, followsLater⟩ := run_follows settings coherentBetween later
  rw [← split] at coherentWaited followsLater
  cases result : perform settings operation (waited.waiting request) clock waited.db with
  | error refusal =>
    simp only [done, step, result]
    exact ⟨rfl, rfl⟩
  | ok committed =>
    exfalso
    have admitted : waited.waiting request = some (.admitted user session) := by
      by_contra other
      have unadmitted : ∀ other session, waited.waiting request ≠ some (.admitted other session) := by
        intro anyone any held
        rcases holds with nothing | ⟨_, loaded⟩ | same
        · exact nomatch nothing.symm.trans held
        · exact nomatch loaded.symm.trans held
        · exact other same
      rw [perform_unadmitted settings isAdministrative unadmitted] at result
      exact nomatch result
    rw [admitted] at result
    obtain ⟨userMember, version⟩ := loadSession_ok loads
    obtain ⟨current, currentMember, currentId, currentVersion⟩ :=
      perform_administrative settings isAdministrative version result
    have stored : user ∈ read.db.users := by
      rw [reads]
      exact userMember
    obtain ⟨next, nextMember, nextId, nextLater, nextSame⟩ := follows user stored
    obtain rfl : row = next :=
      coherentBetween.keyed.users.eq_of_key member nextMember (id.trans nextId.symm)
    obtain ⟨last, lastMember, lastId, lastLater, _⟩ := followsLater row nextMember
    obtain rfl : current = last := coherentWaited.keyed.users.eq_of_key currentMember lastMember
      (currentId.trans (nextId.symm.trans lastId.symm))
    have unchanged : row.tokenVersion = user.tokenVersion := by omega
    obtain ⟨role, isActive⟩ := nextSame unchanged
    rcases changed with role' | isActive' | version'
    · exact role' role
    · exact isActive' isActive
    · exact version' unchanged

end Recheck

section Runs

variable [Cryptography] [CaseMapping] (settings : Settings)

/-- The administrator whom a request read has another role, activity or version at some
point while the request waits: its administrative operation changes nothing. -/
def RefusesChangedAdministrators (system : System) : Prop :=
  ∀ (request : ℕ) (raw : String) (now : Instant) (user : User) (session : LoginSession)
    (middle later : List Step) (operation : Operation) (clock : Readings) (row : User),
    loadSession system.db raw = .ok (user, session) →
    (∀ action ∈ middle ++ later, starts request action = false) →
    administrative operation = true →
    let read := step settings system (.load request raw now)
    row ∈ (Interleavings.run (step settings) read middle).db.users → row.id = user.id →
    row.role ≠ user.role ∨ row.isActive ≠ user.isActive ∨ row.tokenVersion ≠ user.tokenVersion →
    let waited := Interleavings.run (step settings) read (middle ++ later)
    let done := step settings waited (.perform request operation clock)
    done.db = waited.db ∧ done.log = waited.log

/-- A completed bootstrap stays complete. -/
theorem run_administered {system : System} (coherent : Coherent system)
    (administered : Administered system.db) (complete : system.db.bootstrapComplete = true)
    (steps : List Step) :
    ∃ user ∈ (Interleavings.run (step settings) system steps).db.users,
      countsAsAdmin user = true := by
  have kept := (run_invariant settings
    (fun db _ => db.bootstrapComplete = true ∧ Administered db)
    (fun keyed change holds => by
      refine ⟨?_, Change.administered change keyed holds.2⟩
      cases change <;> first | exact holds.1 | rfl)
    coherent ⟨complete, administered⟩ steps).2
  exact kept.2 kept.1

/-- Over every run: the bootstrap leaves an administrator for good, links obey their
laws, and administrators who changed while they waited are refused. -/
theorem accounts_safe (earlier later : List Step) :
    let system := systemAfter settings (earlier ++ later)
    ((systemAfter settings earlier).db.bootstrapComplete = true →
      ∃ user ∈ system.db.users,
        user.role = .admin ∧ user.isActive = true ∧ user.passwordSet = true) ∧
    LinkLaws system.log ∧ RefusesChangedAdministrators settings system := by
  intro system
  have administered := systemAfter_invariant settings (fun db _ => Administered db)
    (fun complete => nomatch complete)
    (fun keyed change holds => Change.administered change keyed holds) earlier
  have links := systemAfter_invariant settings LinksSound
    ⟨(fun _ member => nomatch member), (fun _ _ member => nomatch member),
      (fun _ => List.Pairwise.nil), (fun _ => List.Pairwise.nil), guarded_nil⟩
    (fun keyed change sound => Change.linksSound change keyed sound) (earlier ++ later)
  refine ⟨fun complete => ?_, links.laws, ?_⟩
  · obtain ⟨user, member, counts⟩ := run_administered settings
      (systemAfter_coherent settings earlier) administered complete later
    simp only [countsAsAdmin, Bool.and_eq_true, decide_eq_true_eq] at counts
    refine ⟨user, ?_, counts.1.1, counts.1.2, counts.2⟩
    have split : system = Interleavings.run (step settings) (systemAfter settings earlier) later :=
      Interleavings.run_append ..
    rw [split]
    exact member
  · intro request raw now user session middle last operation clock row loads continues
      isAdministrative read member id changed
    exact changed_administrator_refused settings (systemAfter_coherent settings _) loads middle last
      continues isAdministrative clock member id changed

end Runs

section Sample

attribute [local instance] asciiCase plainCryptography

/-- A first administrator adds a second one. -/
def secondAdministrator : List Step :=
  [.identify 1 "a@b" "secret" "",
    .perform 1 (.login none "first" (cookie 'a')) fun _ => 0,
    .load 2 (cookie 'a') 0, .authorize 2 true,
    .perform 2 (.createUser "Second" "c@d" .admin "secret" "v") fun _ => 0,
    .identify 3 "c@d" "secret" "",
    .perform 3 (.login none "second" (cookie 'b')) fun _ => 0]

/-- The second one takes the role of the first, of whom a request waits. -/
def demotion : List Step :=
  [.authorize 4 true, .load 5 (cookie 'b') 0, .authorize 5 true,
    .perform 5 (.updateUser "u" ⟨none, none, some .viewer, none⟩) fun _ => 0]

/-- The bootstrap and the second administrator, and then the refused request. -/
theorem accounts_safe_demotion :
    let earlier := [.perform 0 (.bootstrapAdmin "a@b" "secret" "secret" "u") fun _ => 0]
    let system := systemAfter oneHour (earlier ++ secondAdministrator)
    let read := step oneHour system (.load 4 (cookie 'a') 0)
    let waited := Interleavings.run (step oneHour) read demotion
    let done := step oneHour waited
      (.perform 4 (.createUser "Third" "e@f" .admin "secret" "w") fun _ => 0)
    (∃ user ∈ system.db.users,
      user.role = .admin ∧ user.isActive = true ∧ user.passwordSet = true) ∧
      LinkLaws system.log ∧ done.db = waited.db ∧ done.log = waited.log := by
  intro earlier system read waited done
  obtain ⟨administered, links, refuses⟩ := accounts_safe oneHour earlier secondAdministrator
  let user : User := ⟨"u", "Administrador", "a@b", "secret", .admin, true, true, 1⟩
  let session : LoginSession := ⟨"first", "u", (sampleDigests.map Prod.snd).headD "", 1, 0, 0,
    minutes 60, none, 0, false⟩
  let row : User := { user with role := .viewer, tokenVersion := 2 }
  refine ⟨administered (by decide +kernel), links, ?_⟩
  exact refuses 4 (cookie 'a') 0 user session demotion [] _ (fun _ => 0) row (by decide +kernel)
    (by decide +kernel) rfl (by decide +kernel) rfl (Or.inl (by decide))

end Sample

end FinopsAnalytics.AccountSafety
