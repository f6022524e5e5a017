import FinopsAnalytics.TlsManager

/-!
# Restoration after a failed application

An application that raises should leave the stores as they were, unless it says that
the restoration failed too. It does so unless the proxy has taken a configuration that
is not undone, a replaced file stays replaced, or the exception comes from where
nothing is undone.
-/

namespace FinopsAnalytics.TlsRestorations

open PythonText TlsManager

/-- A text names a certificate directory by its path. -/
def Names (text reference : String) : Prop :=
  (certificatePath reference).toList <:+: text.toList

/-- A certificate directory that a file or the proxy refers to. -/
def Named (stores : Stores) (reference : String) : Prop :=
  ∃ text, (stores.config = some text ∨ stores.state = some text ∨ stores.running = text) ∧
    Names text reference

/-- The stores are those from before, and every directory that they refer to is still
there. -/
structure Restored (before after : Stores) : Prop where
  config : after.config = before.config
  state : after.state = before.state
  running : after.running = before.running
  certs : ∀ reference, Named before reference → before.Holds reference → after.Holds reference

/-- The exceptions that say that the restoration failed too. -/
def restorationFailures : List TlsError := [verificationUnrestored, persistenceUnrestored]

/-- A call that raises anything else has restored the stores. -/
def Sound (before : Stores) (result : ApplyResult × Stores) : Prop :=
  ∀ raised, result.1 = .error raised → raised ∉ restorationFailures → Restored before result.2

/-- Whether `_load` raises the exception for which a rollback reports its failure. -/
def reported : LoadReply → Bool
  | .accepted => false
  | .refused => true
  | .unanswered _ => true
  | .broken _ => false

/-- The proxy runs after the rollback what it ran before the call. -/
def Reloaded (incidents : Incidents) (candidate : String) (before : Stores) : Prop :=
  before.running =
    if incidents.reload.taken then previousRuntime before.config else candidate

/-- The Caddyfile has been replaced. -/
def configReplaced (incidents : Incidents) : Prop :=
  incidents.configWrite = none ∨ incidents.configWrite = some .fsyncDirectory

/-- A state file that was replaced held the same text. -/
def StateKept (incidents : Incidents) (text : String) (before : Stores) : Prop :=
  incidents.configWrite = none → incidents.stateWrite = some .fsyncDirectory →
    before.state = some text

/-- A failed persistence is undone. -/
def PersistenceUndone (incidents : Incidents) (candidate text : String) (before : Stores) : Prop :=
  match incidents.restore with
  | none => reported incidents.reload = true ∨
      StateKept incidents text before ∧ Reloaded incidents candidate before
  | some step =>
    (step = .fsyncDirectory ∨ ¬configReplaced incidents ∨ before.config = some candidate) ∧
      StateKept incidents text before ∧ before.running = candidate

/-- The call changed nothing that the stores did not hold before. -/
def Unchanged (incidents : Incidents) (candidate text : String) (before : Stores) : Prop :=
  before.config = some candidate ∧ before.state = some text ∧ before.running = candidate ∧
    ∀ reference, Named before reference → before.Holds reference →
      reference ∈ incidents.cleanupLeft

section Conditions

variable [CaseMapping]

/-- The material of an attempt is written. -/
def CertificateStored (incidents : Incidents) (attempt : Attempt) (before : Stores) : Prop :=
  ∀ reference, newReference incidents attempt = some reference →
    incidents.certificate = none ∧ ¬before.Holds reference

variable [StateText]

/-- What happens after the material is written is undone. -/
def Undone (incidents : Incidents) (attempt : Attempt) (before : Stores) : Prop :=
  let candidate := candidateOf incidents attempt
  match incidents.load with
  | .accepted =>
    match incidents.probe with
    | .raises => before.running = candidate
    | .fails _ => reported incidents.reload = true ∨ Reloaded incidents candidate before
    | .answers localTls =>
      if incidents.configWrite = none ∧ incidents.stateWrite = none then
        incidents.statusRaises = true →
          Unchanged incidents candidate (stateText incidents attempt localTls) before
      else PersistenceUndone incidents candidate (stateText incidents attempt localTls) before
  | reply => reply.taken = true → before.running = candidate

/-- Nothing is changed, or what is changed is undone. -/
def Recoverable [TlsValidation] (incidents : Incidents) (arguments : ApplyArguments)
    (before : Stores) : Prop :=
  ∀ attempt, validated arguments = .ok attempt → incidents.entry = none →
    CertificateStored incidents attempt before → Undone incidents attempt before

end Conditions

section Directories

/-- Every directory of the one stores is one of the other. -/
def Keeps (before after : Stores) : Prop :=
  ∀ reference, before.Holds reference → after.Holds reference

variable {before after : Stores}

/-- Where the directories are kept, the files and the proxy decide. -/
theorem restored_iff (keeps : Keeps before after) :
    Restored before after ↔ after.config = before.config ∧ after.state = before.state ∧
      after.running = before.running :=
  ⟨fun restored => ⟨restored.config, restored.state, restored.running⟩,
    fun same => ⟨same.1, same.2.1, same.2.2, fun reference _ => keeps reference⟩⟩

theorem sound_error {raised : TlsError} (unreported : raised ∉ restorationFailures) :
    Sound before (.error raised, after) ↔ Restored before after :=
  ⟨fun sound => sound raised rfl unreported, fun restored _ same _ => by
    cases same
    exact restored⟩

theorem sound_reported {raised : TlsError} (reports : raised ∈ restorationFailures) :
    Sound before (.error raised, after) := by
  intro caught same unreported
  cases same
  exact absurd reports unreported

theorem sound_ok (result : TlsState × LocalTls) :
    Sound before (.ok result, after) := by
  intro raised impossible
  cases impossible

/-- A directory that was not there is discarded without loss. -/
theorem keeps_discard {before stores : Stores} (incidents : Incidents)
    {reference : Option String} (keeps : Keeps before stores)
    (fresh : ∀ new, reference = some new → ¬before.Holds new) :
    Keeps before (discardCertificate incidents reference stores) := by
  intro old held
  unfold discardCertificate
  split
  · exact keeps old held
  · rename_i new
    split
    · obtain ⟨directory, member, same⟩ := keeps old held
      refine ⟨directory, List.mem_filter.mpr ⟨member, ?_⟩, same⟩
      rw [same]
      refine decide_eq_true fun isNew => ?_
      exact fresh new rfl (isNew ▸ held)
    · exact keeps old held

theorem discard_fields (incidents : Incidents) (reference : Option String) (stores : Stores) :
    (discardCertificate incidents reference stores).config = stores.config ∧
      (discardCertificate incidents reference stores).state = stores.state ∧
      (discardCertificate incidents reference stores).running = stores.running := by
  unfold discardCertificate
  split
  · exact ⟨rfl, rfl, rfl⟩
  · split <;> exact ⟨rfl, rfl, rfl⟩

/-- What a load leaves in the stores. -/
theorem load_fields (reply : LoadReply) (caddyfile : String) (stores : Stores) :
    (load reply caddyfile stores).config = stores.config ∧
      (load reply caddyfile stores).state = stores.state ∧
      (load reply caddyfile stores).running =
        (if reply.taken then caddyfile else stores.running) ∧
      (load reply caddyfile stores).certs = stores.certs := by
  unfold load
  split <;> exact ⟨rfl, rfl, rfl, rfl⟩

/-- What the exception of a load says of the rollback. -/
theorem reload_error (reply : LoadReply) :
    (reported reply = true ∧ ∃ message, reply.error = some (.operation message)) ∨
      (reported reply = false ∧ reply.error = some .other) ∨
        (reported reply = false ∧ reply.error = none) := by
  cases reply with
  | accepted => exact Or.inr (Or.inr ⟨rfl, rfl⟩)
  | refused => exact Or.inl ⟨rfl, _, rfl⟩
  | unanswered taken => exact Or.inl ⟨rfl, _, rfl⟩
  | broken taken => exact Or.inr (Or.inl ⟨rfl, rfl⟩)

theorem other_unreported : TlsError.other ∉ restorationFailures := by decide

theorem os_unreported : TlsError.os ∉ restorationFailures := by decide

theorem failure_unreported (failure : ProbeFailure) :
    TlsError.operation failure.message ∉ restorationFailures := by
  cases failure <;> decide

variable {before stores : Stores} {incidents : Incidents} {candidate : String}
  {reference : Option String}

/-- A rollback that reloads: over files that are back it restores when the proxy runs
what it ran. -/
theorem sound_reload {unrestored raised : TlsError}
    (reports : unrestored ∈ restorationFailures) (unreported : raised ∉ restorationFailures) (keeps : Keeps before stores)
    (fresh : ∀ new, reference = some new → ¬before.Holds new)
    (config : stores.config = before.config) (running : stores.running = candidate) :
    Sound before (reloadPrevious incidents reference before.config unrestored raised stores) ↔
      reported incidents.reload = true ∨
        stores.state = before.state ∧ Reloaded incidents candidate before := by
  obtain ⟨loadedConfig, loadedState, loadedRunning, loadedCerts⟩ :=
    load_fields incidents.reload (previousRuntime before.config) stores
  have kept : Keeps before (load incidents.reload (previousRuntime before.config) stores) := by
    intro old held
    unfold Stores.Holds
    rw [loadedCerts]
    exact keeps old held
  rw [running] at loadedRunning
  unfold reloadPrevious Reloaded
  dsimp only
  rcases reload_error incidents.reload with ⟨isReported, message, error⟩ | ⟨silent, error⟩ |
    ⟨silent, error⟩
  · rw [error, isReported]
    simp [sound_reported reports]
  · rw [error, silent]
    dsimp only
    rw [sound_error other_unreported, restored_iff kept, loadedConfig, loadedState, loadedRunning,
      config, eq_comm (b := before.running)]
    simp
  · rw [error, silent]
    dsimp only
    obtain ⟨leftConfig, leftState, leftRunning⟩ := discard_fields incidents reference
      (load incidents.reload (previousRuntime before.config) stores)
    rw [sound_error unreported, restored_iff (keeps_discard incidents kept fresh), leftConfig,
      leftState, leftRunning, loadedConfig, loadedState, loadedRunning, config,
      eq_comm (b := before.running)]
    simp

/-- The handler of a failed verification restores when the proxy runs what it ran. -/
theorem sound_restoreRuntime (keeps : Keeps before stores)
    (fresh : ∀ new, reference = some new → ¬before.Holds new)
    (config : stores.config = before.config) (state : stores.state = before.state)
    (running : stores.running = candidate) (failure : ProbeFailure) :
    Sound before (restoreRuntime incidents reference before.config failure stores) ↔
      reported incidents.reload = true ∨ Reloaded incidents candidate before := by
  rw [restoreRuntime,
    sound_reload (by decide) (failure_unreported failure) keeps fresh config running]
  simp [state]

/-- What the restoration of the Caddyfile leaves. -/
theorem restorePersisted_cases (fault : Option WriteStep) (previous current : Option String) :
    restorePersisted fault previous current =
      match fault with
      | none => (true, previous)
      | some step => (false, if step = .fsyncDirectory then previous else current) := by
  unfold restorePersisted atomicWrite
  cases previous with
  | none => rcases fault with _ | _ | _ | _ | _ | _ | _ | _ | _ <;> rfl
  | some data => rcases fault with _ | _ | _ | _ | _ | _ | _ | _ | _ <;> rfl

/-- The handler of a failed persistence. -/
theorem sound_restoreAll (keeps : Keeps before stores)
    (fresh : ∀ new, reference = some new → ¬before.Holds new)
    (running : stores.running = candidate) :
    Sound before (restoreAll incidents reference before.config stores) ↔
      match incidents.restore with
      | none => reported incidents.reload = true ∨
          stores.state = before.state ∧ Reloaded incidents candidate before
      | some step => (step = .fsyncDirectory ∨ stores.config = before.config) ∧
          stores.state = before.state ∧ before.running = candidate := by
  unfold restoreAll
  rw [restorePersisted_cases]
  cases incidents.restore with
  | none => exact sound_reload (by decide) (by decide) keeps fresh rfl running
  | some step =>
    dsimp only
    have kept : Keeps before { stores with
        config := if step = .fsyncDirectory then before.config else stores.config } := keeps
    rw [sound_error os_unreported, restored_iff kept]
    dsimp only
    rw [running, eq_comm (a := candidate)]
    by_cases last : step = .fsyncDirectory
    · simp [last]
    · simp [last]

end Directories

section Persistence

variable [StateText] {before stores : Stores} {incidents : Incidents} {attempt : Attempt}
  {candidate text : String} {reference : Option String}

omit [StateText] in
/-- Both writes return, and both files are replaced. -/
theorem persist_written (unhurt : incidents.configWrite = none ∧ incidents.stateWrite = none) :
    persist incidents candidate text stores =
      (true, { stores with config := some candidate, state := some text }) := by
  unfold persist atomicWrite
  rw [unhurt.1, unhurt.2]

omit [StateText] in
variable (candidate text stores) in
/-- A write raises: each file that was reached before the last step of its write stays. -/
theorem persist_failed (hurt : ¬(incidents.configWrite = none ∧ incidents.stateWrite = none)) :
    ∃ left : Stores, persist incidents candidate text stores = (false, left) ∧
      left.running = stores.running ∧ left.certs = stores.certs ∧
      (configReplaced incidents ∧ left.config = some candidate ∨
        ¬configReplaced incidents ∧ left.config = stores.config) ∧
      (incidents.configWrite = none ∧ incidents.stateWrite = some .fsyncDirectory ∧
          left.state = some text ∨
        ¬(incidents.configWrite = none ∧ incidents.stateWrite = some .fsyncDirectory) ∧
          left.state = stores.state) := by
  unfold persist atomicWrite configReplaced
  rcases configWrite : incidents.configWrite with _ | step
  · rcases stateWrite : incidents.stateWrite with _ | step
    · exact absurd ⟨configWrite, stateWrite⟩ hurt
    · cases step <;> exact ⟨_, rfl, rfl, rfl, by simp, by simp⟩
  · cases step <;> exact ⟨_, rfl, rfl, rfl, by simp, by simp⟩

omit [StateText] in
/-- A failed persistence restores exactly when it is undone. -/
theorem sound_failed (keeps : Keeps before stores)
    (fresh : ∀ new, reference = some new → ¬before.Holds new)
    (config : stores.config = before.config) (state : stores.state = before.state)
    (running : stores.running = candidate) {left : Stores}
    (hurt : ¬(incidents.configWrite = none ∧ incidents.stateWrite = none))
    (failed : persist incidents candidate text stores = (false, left)) :
    Sound before (restoreAll incidents reference before.config left) ↔
      PersistenceUndone incidents candidate text before := by
  obtain ⟨left', failed', sameRunning, sameCerts, configCases, stateCases⟩ :=
    persist_failed stores candidate text hurt
  obtain rfl : left' = left := (Prod.mk.inj (failed'.symm.trans failed)).2
  have kept : Keeps before left' := by
    intro old held
    unfold Stores.Holds
    rw [sameCerts]
    exact keeps old held
  have stateBack : left'.state = before.state ↔ StateKept incidents text before := by
    unfold StateKept
    rcases stateCases with ⟨first, second, replaced⟩ | ⟨unreplaced, same⟩
    · simp [first, second, replaced, eq_comm]
    · rw [same, state]
      simp only [true_iff]
      exact fun first second => absurd ⟨first, second⟩ unreplaced
  have configBack : left'.config = before.config ↔
      ¬configReplaced incidents ∨ before.config = some candidate := by
    rcases configCases with ⟨isReplaced, replaced⟩ | ⟨unreplaced, same⟩
    · simp [isReplaced, replaced, eq_comm]
    · simp [unreplaced, same, config]
  rw [sound_restoreAll kept fresh (sameRunning.trans running)]
  unfold PersistenceUndone
  cases incidents.restore with
  | none => simp only [stateBack]
  | some step => simp only [stateBack, configBack]

/-- What follows the probe restores when it is undone, or when a status that raises finds
nothing changed. -/
theorem sound_persistAll (keeps : Keeps before stores)
    (fresh : ∀ new, reference = some new → ¬before.Holds new)
    (config : stores.config = before.config) (state : stores.state = before.state)
    (running : stores.running = candidate) (localTls : LocalTls) :
    Sound before (persistAll incidents attempt candidate reference before.config localTls stores) ↔
      if incidents.configWrite = none ∧ incidents.stateWrite = none then
        incidents.statusRaises = true →
          Unchanged incidents candidate (stateText incidents attempt localTls) before
      else
        PersistenceUndone incidents candidate (stateText incidents attempt localTls) before := by
  unfold persistAll
  by_cases unhurt : incidents.configWrite = none ∧ incidents.stateWrite = none
  · rw [persist_written unhurt, if_pos unhurt]
    dsimp only
    cases incidents.statusRaises with
    | false =>
      rw [if_neg Bool.false_ne_true]
      simp [sound_ok]
    | true =>
      rw [if_pos rfl, sound_error other_unreported]
      simp only [true_implies]
      unfold Unchanged
      constructor
      · intro restored
        refine ⟨restored.config.symm, restored.state.symm, restored.running.symm.trans running, ?_⟩
        intro old named held
        obtain ⟨directory, member, same⟩ := restored.certs old named held
        have left := of_decide_eq_true (List.mem_filter.mp member).2
        rw [same] at left
        rcases left with isNew | isLeft
        · exact absurd held (fresh old isNew.symm)
        · exact isLeft
      · rintro ⟨sameConfig, sameState, sameRunning, isLeft⟩
        refine ⟨sameConfig.symm, sameState.symm, running.trans sameRunning.symm, ?_⟩
        intro old named held
        obtain ⟨directory, member, same⟩ := keeps old held
        refine ⟨directory, List.mem_filter.mpr ⟨member, decide_eq_true (Or.inr ?_)⟩, same⟩
        rw [same]
        exact isLeft old named held
  · obtain ⟨left, failed, -⟩ := persist_failed stores candidate (stateText incidents attempt localTls) unhurt
    rw [if_neg unhurt, failed]
    exact sound_failed keeps fresh config state running unhurt failed

end Persistence

section Application

variable [CaseMapping] [StateText] {before stores : Stores} {incidents : Incidents}
  {attempt : Attempt}

omit [StateText] in
/-- The writing of the material changes neither the files nor the proxy, and returns
exactly where the material is stored. -/
theorem storeCertificate_spec (incidents : Incidents) (attempt : Attempt) (before : Stores) :
    let stored := (storeCertificate incidents attempt before).2
    ((storeCertificate incidents attempt before).1 = true ↔
        CertificateStored incidents attempt before) ∧
      stored.config = before.config ∧ stored.state = before.state ∧
      stored.running = before.running ∧ Keeps before stored := by
  intro stored
  have kept (directory : CertificateDirectory) :
      Keeps before { before with certs := before.certs ++ [directory] } := by
    rintro old ⟨other, member, same⟩
    exact ⟨other, List.mem_append_left _ member, same⟩
  unfold CertificateStored newReference
  simp only [stored, storeCertificate]
  cases attempt.custom with
  | none => exact ⟨by simp, rfl, rfl, rfl, fun _ held => held⟩
  | some material =>
    obtain ⟨prepared, privateKeyPem⟩ := material
    simp only [Option.map_some, Option.some.injEq, forall_eq', writeCustomFiles]
    by_cases exists_ : before.Holds (certificateReference prepared.certificate incidents.token)
    · rw [if_pos exists_]
      exact ⟨by simp [exists_], rfl, rfl, rfl, fun _ held => held⟩
    · rw [if_neg exists_]
      rcases incidents.certificate with _ | _ | _ | step | step
      · exact ⟨by simp [exists_], rfl, rfl, rfl, kept _⟩
      · exact ⟨by simp, rfl, rfl, rfl, fun _ held => held⟩
      · exact ⟨by simp, rfl, rfl, rfl, kept _⟩
      · exact ⟨by simp, rfl, rfl, rfl, kept _⟩
      · exact ⟨by simp, rfl, rfl, rfl, kept _⟩

omit [CaseMapping] in
/-- What follows the storing of the material. -/
theorem sound_loadCandidate {candidate : String} {reference : Option String}
    (keeps : Keeps before stores) (fresh : ∀ new, reference = some new → ¬before.Holds new)
    (config : stores.config = before.config) (state : stores.state = before.state)
    (running : stores.running = before.running) :
    Sound before (loadCandidate incidents attempt candidate reference before.config stores) ↔
      match incidents.load with
      | .accepted =>
        match incidents.probe with
        | .raises => before.running = candidate
        | .fails _ => reported incidents.reload = true ∨ Reloaded incidents candidate before
        | .answers localTls =>
          if incidents.configWrite = none ∧ incidents.stateWrite = none then
            incidents.statusRaises = true →
              Unchanged incidents candidate (stateText incidents attempt localTls) before
          else PersistenceUndone incidents candidate (stateText incidents attempt localTls) before
      | reply => reply.taken = true → before.running = candidate := by
  obtain ⟨loadedConfig, loadedState, loadedRunning, loadedCerts⟩ :=
    load_fields incidents.load candidate stores
  have kept : Keeps before (load incidents.load candidate stores) := by
    intro old held
    unfold Stores.Holds
    rw [loadedCerts]
    exact keeps old held
  obtain ⟨leftConfig, leftState, leftRunning⟩ := discard_fields incidents reference
    (load incidents.load candidate stores)
  -- an exception of the load, with or without the new directory
  have loses (taken : Bool) : ((if taken = true then candidate else before.running) =
      before.running) ↔ (taken = true → before.running = candidate) := by
    cases taken with
    | false => simp
    | true => simp [eq_comm]
  rw [config] at loadedConfig
  rw [state] at loadedState
  rw [running] at loadedRunning
  unfold loadCandidate
  cases reply : incidents.load with
  | refused =>
    rw [reply] at loadedConfig loadedState loadedRunning leftConfig leftState leftRunning kept
    dsimp only [LoadReply.error]
    rw [sound_error (by decide), restored_iff (keeps_discard incidents kept fresh), leftConfig,
      leftState, leftRunning, loadedConfig, loadedState, loadedRunning, loses]
    simp
  | unanswered taken =>
    rw [reply] at loadedConfig loadedState loadedRunning leftConfig leftState leftRunning kept
    dsimp only [LoadReply.error]
    rw [sound_error (by decide), restored_iff (keeps_discard incidents kept fresh), leftConfig,
      leftState, leftRunning, loadedConfig, loadedState, loadedRunning, loses]
    simp
  | broken taken =>
    rw [reply] at loadedConfig loadedState loadedRunning kept
    dsimp only [LoadReply.error]
    rw [sound_error other_unreported, restored_iff kept, loadedConfig, loadedState, loadedRunning,
      loses]
    simp
  | accepted =>
    rw [reply] at loadedConfig loadedState loadedRunning kept
    dsimp only [LoadReply.error]
    have runs : (load .accepted candidate stores).running = candidate := loadedRunning
    cases incidents.probe with
    | raises =>
      dsimp only
      rw [sound_error other_unreported, restored_iff kept, loadedConfig, loadedState, runs,
        eq_comm (a := candidate)]
      simp
    | fails failure => exact sound_restoreRuntime kept fresh loadedConfig loadedState runs failure
    | answers localTls => exact sound_persistAll kept fresh loadedConfig loadedState runs localTls

/-- An application restores the stores, or says that it could not, exactly where what
it has changed is undone. -/
theorem apply_restores_iff [TlsValidation] (incidents : Incidents) (arguments : ApplyArguments)
    (before : Stores) :
    Sound before (apply incidents arguments before) ↔ Recoverable incidents arguments before := by
  have untouched : Restored before before := ⟨rfl, rfl, rfl, fun _ _ held => held⟩
  unfold apply Recoverable
  cases validated arguments with
  | error raised => simp [Sound, untouched]
  | ok attempt =>
    simp only [Except.ok.injEq, forall_eq']
    cases incidents.entry with
    | some raised => simp [Sound, untouched]
    | none =>
      simp only [true_implies]
      obtain ⟨isStored, config, state, running, keeps⟩ :=
        storeCertificate_spec incidents attempt before
      unfold applyLocked
      rcases written : storeCertificate incidents attempt before with ⟨_ | _, stored⟩
      · rw [written] at isStored config state running keeps
        have unstored : ¬CertificateStored incidents attempt before := by
          rw [← isStored]
          exact Bool.false_ne_true
        dsimp only
        rw [sound_error (by decide), restored_iff keeps]
        exact iff_of_true ⟨config, state, running⟩ fun held => absurd held unstored
      · rw [written] at isStored config state running keeps
        have isIn : CertificateStored incidents attempt before := isStored.mp rfl
        dsimp only
        rw [sound_loadCandidate keeps (fun new isNew => (isIn new isNew).2) config state running]
        simp only [isIn, true_implies, Undone]

end Application

section Small

/-- Every domain is valid, and no material is. -/
abbrev domainsOnly : TlsValidation where
  normalizeDomain domain := .ok domain
  prepareCustom _ _ _ _ := .error (.validation "Certificado do servidor inválido.")

/-- States are told by their domain. -/
abbrev domainText : StateText where
  dumps state := state.domain

attribute [local instance] asciiCase domainsOnly domainText

/-- A system that has only ever answered HTTP. -/
def unconfigured : Stores := ⟨none, none, [], baselineCaddyfile⟩

/-- The proxy takes the candidate, and its reply is lost. -/
def lostReply : Incidents where
  entry := none
  token := "00aa"
  certificate := none
  load := .unanswered true
  probe := .fails .unreachable
  appliedAt := "2026-01-01T00:00:00+00:00"
  configWrite := none
  stateWrite := none
  restore := none
  reload := .accepted
  discarded := true
  cleanupLeft := []
  statusRaises := false

/-- The proxy goes on to run the candidate of a call that has raised. -/
theorem lost_reply_keeps_candidate :
    ¬∀ incidents arguments before, Sound before (apply incidents arguments before) := by
  intro always
  have raised : (apply lostReply ⟨"automatic", "aven.example.com", "", "", ""⟩ unconfigured).1 =
      .error (.operation "A API interna do Caddy está indisponível.") := by decide +kernel
  have restored := always lostReply ⟨"automatic", "aven.example.com", "", "", ""⟩ unconfigured _
    raised (by decide)
  have differs : (apply lostReply ⟨"automatic", "aven.example.com", "", "", ""⟩
      unconfigured).2.running ≠ unconfigured.running := by decide +kernel
  exact differs restored.running

end Small

end FinopsAnalytics.TlsRestorations
