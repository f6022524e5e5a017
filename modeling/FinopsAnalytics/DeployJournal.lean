import FinopsAnalytics.AutoDeploy
import FinopsAnalytics.Interleavings

/-!
# What an invocation of the deployer leaves

Whatever fails and wherever the process is killed, an invocation leaves the journal,
the releases and the activations in one of a few shapes. The safety of the journal
over every sequence of invocations follows from them.
-/

namespace FinopsAnalytics.DeployJournal

open InterruptedPrograms AutoDeploy Interleavings

/-- What has happened since a host: the journal it has now, the events that were
added, and at most one release that was touched. -/
structure Rest (touched : Option String) (before : Host) (journal : Option Journal)
    (added : List DeployEvent) (host : Host) : Prop where
  journal : host.journal = journal
  events : host.events = before.events ++ added
  releases : ∀ revision, some revision ≠ touched →
    host.releases revision = before.releases revision

section Contracts

variable {touched : Option String} {revision : String} {before : Host} {journal : Option Journal}
  {added : List DeployEvent}

theorem Rest.refl (host : Host) : Rest touched host host.journal [] host :=
  ⟨rfl, (List.append_nil _).symm, fun _ _ => rfl⟩

theorem Rest.setRelease {host : Host} (rest : Rest (some revision) before journal added host)
    (directory : Option ReleaseDirectory) :
    Rest (some revision) before journal added (host.setRelease revision directory) where
  journal := rest.journal
  events := rest.events
  releases other different := by
    have apart : other ≠ revision := fun same => different (congrArg some same)
    exact (Function.update_of_ne apart ..).trans (rest.releases other different)

theorem Rest.log {host : Host} (rest : Rest touched before journal added host)
    (event : DeployEvent) : Rest touched before journal (added ++ [event]) (host.log event) where
  journal := rest.journal
  events := by rw [Host.log, rest.events, List.append_assoc]
  releases := rest.releases

theorem Rest.setJournal {host : Host} (rest : Rest touched before journal added host)
    (state : Journal) :
    Rest touched before (some state) added { host with journal := some state } where
  journal := rfl
  events := rest.events
  releases := rest.releases

/-- A program that keeps a condition however it ends. -/
abbrev Keeps {α : Type} (program : Program Host α) (condition : Host → Prop) : Prop :=
  Meets condition program (fun _ => condition) condition condition

variable {α : Type} {condition : Host → Prop}

theorem keeps_command : Keeps Program.command condition :=
  Meets.command (fun _ holds => holds) fun _ holds => holds

theorem keeps_demand {read : Host → Option α} : Keeps (Program.demand read) condition :=
  (Meets.demand (fun _ holds => holds) fun _ holds => holds).strengthen
    (fun _ _ holds => holds.1) (fun _ holds => holds) fun _ holds => holds

theorem keeps_orFail (value : Option α) : Keeps (orFail value) condition := by
  cases value with
  | none => exact Meets.fail fun _ holds => holds
  | some value => exact fun _ _ holds => holds

theorem keeps_pure (value : α) : Keeps (pure value : Program Host α) condition :=
  fun _ _ holds => holds

theorem keeps_fail : Keeps (Program.fail : Program Host α) condition :=
  Meets.fail fun _ holds => holds

theorem keeps_setRelease (directory : Host → Option ReleaseDirectory) :
    Keeps (Program.write fun host => host.setRelease revision (directory host))
      (Rest (some revision) before journal added) :=
  Meets.write (fun _ rest => ⟨rest, rest⟩) fun _ rest => ⟨rest.setRelease _, rest.setRelease _⟩

theorem keeps_saveFile (change : ReleaseDirectory → ReleaseDirectory) :
    Keeps (saveFile revision change) (Rest (some revision) before journal added) :=
  Meets.step (fun _ rest => ⟨rest, rest⟩) fun state value after rest done => by
    obtain ⟨directory, -, pair⟩ := Option.map_eq_some_iff.mp done
    cases pair
    exact ⟨rest.setRelease _, rest.setRelease _⟩

theorem keeps_prepare (preparation : Preparation) :
    Keeps (prepare revision preparation) (Rest (some revision) before journal added) := by
  refine Meets.andThen (Meets.forM (fun file => keeps_setRelease _) _) fun _ => ?_
  refine Meets.andThen (keeps_setRelease _) fun _ => ?_
  refine Meets.andThen (keeps_setRelease _) fun _ => ?_
  refine Meets.andThen keeps_command fun _ => ?_
  refine Meets.andThen keeps_command fun _ => ?_
  refine Meets.andThen keeps_command fun _ => ?_
  refine Meets.andThen keeps_command fun _ => ?_
  dsimp only
  split
  · exact Meets.andThen (keeps_saveFile _) fun _ => keeps_pure _
  · exact keeps_fail

/-- The files that `pin` writes can be activated. -/
theorem pin_files (config : ComposeConfig) (images : Images) :
    Meets (Rest (some revision) before journal added) (pin revision config images)
      (fun _ host => Rest (some revision) before journal added host ∧
        host.files revision = some ⟨literalCompose (pinned revision config), images⟩)
      (Rest (some revision) before journal added) (Rest (some revision) before journal added) := by
  refine Meets.andThen (Meets.forM (fun _ => keeps_command) _) fun _ => ?_
  have runtimeSaved : Meets (Rest (some revision) before journal added)
      (saveFile revision fun directory =>
        { directory with runtime := some (literalCompose (pinned revision config)) })
      (fun _ host => Rest (some revision) before journal added host ∧
        (host.releases revision).bind (·.runtime) =
          some (literalCompose (pinned revision config)))
      (Rest (some revision) before journal added) (Rest (some revision) before journal added) := by
    refine Meets.step (fun _ rest => ⟨rest, rest⟩) fun state value after rest done => ?_
    obtain ⟨directory, -, pair⟩ := Option.map_eq_some_iff.mp done
    cases pair
    exact ⟨⟨rest.setRelease _, by simp [Host.setRelease]⟩, rest.setRelease _⟩
  refine Meets.andThen runtimeSaved fun _ => ?_
  refine Meets.step (fun _ holds => ⟨holds.1, holds.1⟩) fun state value after holds done => ?_
  obtain ⟨directory, stored, pair⟩ := Option.map_eq_some_iff.mp done
  cases pair
  obtain ⟨rest, runtime⟩ := holds
  rw [stored] at runtime
  refine ⟨⟨rest.setRelease _, ?_⟩, rest.setRelease _⟩
  have written : directory.runtime = some (literalCompose (pinned revision config)) := runtime
  simp [Host.files, Host.setRelease, ReleaseDirectory.activationFiles, written]

theorem keeps_pin (config : ComposeConfig) (images : Images) :
    Keeps (pin revision config images) (Rest (some revision) before journal added) :=
  (pin_files config images).strengthen (fun _ _ holds => holds.1) (fun _ rest => rest)
    fun _ rest => rest

theorem keeps_candidateImage (current : String) (candidate previous : ComposeConfig)
    (inspected : String → String) (name : String) :
    Keeps (candidateImage current candidate previous inspected name) condition := by
  refine Meets.andThen (keeps_orFail _) fun service => ?_
  split
  · refine Meets.andThen (keeps_orFail _) fun _ => ?_
    exact Meets.andThen keeps_command fun _ => keeps_pure _
  · refine Meets.andThen (keeps_orFail _) fun image => ?_
    refine Meets.andThen (keeps_orFail _) fun former => ?_
    refine Meets.andThen (keeps_orFail _) fun formerImage => ?_
    split
    · refine Meets.andThen keeps_demand fun images => ?_
      exact Meets.andThen (keeps_orFail _) fun kept => keeps_pure _
    · refine Meets.andThen keeps_command fun _ => ?_
      exact Meets.andThen keeps_command fun _ => keeps_pure _

/-- Until its activation a target touches nothing but its release. -/
theorem keeps_prepareTarget (current : String) (answers : CheckAnswers) :
    Keeps (prepareTarget current answers) (Rest (some answers.target) before journal added) := by
  refine Meets.andThen (keeps_prepare _) fun candidate => ?_
  refine Meets.andThen keeps_demand fun previous => ?_
  split
  · exact keeps_fail
  split
  · exact keeps_fail
  split
  · exact keeps_fail
  refine Meets.andThen (keeps_saveFile _) fun _ => ?_
  refine Meets.andThen keeps_command fun _ => ?_
  refine Meets.andThen (Meets.mapM (fun name => keeps_candidateImage _ _ _ _ name) _) fun _ => ?_
  exact keeps_pin _ _

/-- An activation that has not returned. -/
def Begun (touched : Option String) (before : Host) (journal : Option Journal)
    (added : List DeployEvent) (revision : String) (host : Host) : Prop :=
  Rest touched before journal added host ∨
    Rest touched before journal (added ++ [.started revision]) host

/-- An activation that has returned. -/
def Returned (touched : Option String) (before : Host) (journal : Option Journal)
    (added : List DeployEvent) (revision : String) (host : Host) : Prop :=
  ∃ files, host.files revision = some files ∧
    Rest touched before journal (added ++ [.started revision, .returned revision files]) host

theorem activate_meets (touched : Option String) (before : Host) (journal : Option Journal)
    (added : List DeployEvent) (revision : String) :
    Meets (Rest touched before journal added) (activate revision)
      (fun _ => Returned touched before journal added revision)
      (Begun touched before journal added revision)
      (Begun touched before journal added revision) := by
  have upStarted : Meets (Rest touched before journal added)
      (Program.write (·.log (.started revision)))
      (fun _ => Rest touched before journal (added ++ [.started revision]))
      (Begun touched before journal added revision)
      (Begun touched before journal added revision) :=
    Meets.write (fun _ rest => ⟨Or.inl rest, Or.inl rest⟩)
      fun _ rest => ⟨rest.log _, Or.inr (rest.log _)⟩
  refine Meets.andThen upStarted fun _ => ?_
  refine Meets.andThen (Meets.demand (fun _ => Or.inr) fun _ => Or.inr) fun runtime => ?_
  refine Meets.andThen
    (Meets.command (fun _ holds => Or.inr holds.1) fun _ holds => Or.inr holds.1) fun _ => ?_
  refine Meets.andThen (Meets.demand (fun _ holds => Or.inr holds.1) fun _ holds => Or.inr holds.1)
    fun images => ?_
  refine Meets.andThen
    (Meets.command (fun _ holds => Or.inr holds.1.1) fun _ holds => Or.inr holds.1.1) fun _ => ?_
  refine Meets.note fun host holds => ?_
  obtain ⟨⟨rest, runtimeRead⟩, imagesRead⟩ := holds
  refine ⟨⟨runtime, images⟩, ?_, ?_⟩
  · change host.files revision = _
    obtain ⟨directory, stored, runtimeStored⟩ := Option.bind_eq_some_iff.mp runtimeRead
    have imagesStored : directory.images = some images := by
      rw [stored] at imagesRead
      exact imagesRead
    simp [Host.files, stored, ReleaseDirectory.activationFiles, runtimeStored, imagesStored]
  · have logged := rest.log (.returned revision ⟨runtime, images⟩)
    rwa [List.append_assoc] at logged

/-- A save takes effect, or is interrupted before or after that. -/
theorem save_meets (state : Journal) {unsaved saved left : Host → Prop}
    (takesEffect : ∀ host, unsaved host → saved { host with journal := some state })
    (before : ∀ host, unsaved host → left host) (after : ∀ host, saved host → left host) :
    Meets unsaved (save state) (fun _ => saved) left left :=
  Meets.write (fun host holds => ⟨before host holds, before host holds⟩)
    fun host holds => ⟨takesEffect host holds, after _ (takesEffect host holds)⟩

end Contracts

section Invocations

/-- A check prepares the commit of the branch unless it is current or blocked. -/
structure Admitted (state : Journal) (target : String) : Prop where
  resting : state.pending = none
  changed : target ≠ state.current
  unblocked : target ∉ state.failed

/-- How an action makes a release pending, by the commit of the branch that it checks,
if it does, and by the release that it touches. -/
inductive Origin (state : Journal) : Option String → Option String → String → Prop
  | checked (target : String) (admitted : Admitted state target) :
    Origin state (some target) (some target) target
  | rolledBack (previous : String) (resting : state.pending = none)
    (stored : state.previous = some previous) : Origin state none none previous

theorem Origin.resting {state : Journal} {branch : Option String} {touched : Option String}
    {target : String} (origin : Origin state branch touched target) : state.pending = none := by
  cases origin with
  | checked target admitted => exact admitted.resting
  | rolledBack previous resting stored => exact resting

/-- How far the activation of the pending release has come before a recovery. -/
inductive Attempted (state : Journal) (branch : Option String) :
    Option String → String → List DeployEvent → Prop
  | begun {touched : Option String} {target : String}
    (origin : Origin state branch touched target) : Attempted state branch touched target []
  | failed {touched : Option String} {target : String}
    (origin : Origin state branch touched target) :
    Attempted state branch touched target [.started target]
  | interrupted {target : String} (pending : state.pending = some target) :
    Attempted state branch none target []

theorem Attempted.of_pending {state : Journal} {branch : Option String} {touched : Option String}
    {target pending : String} {tried : List DeployEvent}
    (attempted : Attempted state branch touched target tried)
    (stored : state.pending = some pending) : tried = [] := by
  cases attempted with
  | begun origin => rfl
  | failed origin =>
    rw [origin.resting] at stored
    cases stored
  | interrupted => rfl

/-- How far the activation of the current release has come in a recovery. -/
inductive Restoring (host : Host) (current : String) : List DeployEvent → Prop
  | waiting : Restoring host current []
  | begun : Restoring host current [.started current]
  | done (files : ActivationFiles) (stored : host.files current = some files) :
    Restoring host current [.started current, .returned current files]

/-- The journal of a recovery: the pending release is blocked. -/
def recovering (state : Journal) (target : String) : Journal :=
  { state with pending := some target, failed := block state.failed target }

/-- The journal after a recovery. -/
def recovered (state : Journal) (target : String) : Journal :=
  { state with pending := none, failed := block state.failed target }

/-- What an invocation leaves of a journal. -/
inductive Left (branch : Option String) (before : Host) (state : Journal) (after : Host) : Prop
  | kept (touched : Option String)
    (admitted : ∀ target ∈ touched, branch = some target ∧ Admitted state target)
    (rest : Rest touched before (some state) [] after)
  | blocked (target : String) (found : branch = some target) (admitted : Admitted state target)
    (rest : Rest (some target) before
      (some { state with failed := state.failed ++ [target] }) [] after)
  | pended (touched : Option String) (target : String) (tried : List DeployEvent)
    (attempted : Attempted state branch touched target tried)
    (rest : Rest touched before (some { state with pending := some target }) tried after)
  | recovering (touched : Option String) (target : String) (tried restored : List DeployEvent)
    (attempted : Attempted state branch touched target tried)
    (restoring : Restoring after state.current restored)
    (rest : Rest touched before (some (recovering state target)) (tried ++ restored) after)
  | recovered (touched : Option String) (target : String) (tried : List DeployEvent)
    (files : ActivationFiles) (attempted : Attempted state branch touched target tried)
    (stored : after.files state.current = some files)
    (rest : Rest touched before (some (recovered state target))
      (tried ++ [.started state.current, .returned state.current files]) after)
  | returned (touched : Option String) (target : String) (files : ActivationFiles)
    (origin : Origin state branch touched target) (stored : after.files target = some files)
    (rest : Rest touched before (some { state with pending := some target })
      [.started target, .returned target files] after)
  | activated (touched : Option String) (target : String) (failed : List String)
    (files : ActivationFiles) (origin : Origin state branch touched target)
    (stored : after.files target = some files)
    (rest : Rest touched before
      (some { state with
        current := target, previous := some state.current, pending := none, failed })
      [.started target, .returned target files] after)

variable {branch : Option String} {touched : Option String} {before : Host} {state : Journal}
  {target : String}

/-- Whatever a command leaves, the rest of the host is as before. -/
theorem Left.rest {after : Host} (left : Left branch before state after) :
    ∃ touched journal added, Rest touched before journal added after := by
  cases left with
  | kept touched admitted rest => exact ⟨_, _, _, rest⟩
  | blocked target found admitted rest => exact ⟨_, _, _, rest⟩
  | pended touched target tried attempted rest => exact ⟨_, _, _, rest⟩
  | recovering touched target tried restored attempted restoring rest => exact ⟨_, _, _, rest⟩
  | recovered touched target tried files attempted stored rest => exact ⟨_, _, _, rest⟩
  | returned touched target files origin stored rest => exact ⟨_, _, _, rest⟩
  | activated touched target failed files origin stored rest => exact ⟨_, _, _, rest⟩

/-- What a recovery leaves: its release is blocked, then the current one is activated,
then nothing is pending. -/
theorem recover_left (before : Host) {tried : List DeployEvent}
    (attempted : Attempted state branch touched target tried) :
    Meets (Rest touched before (some { state with pending := some target }) tried)
      (recover { state with pending := some target } target)
      (fun _ after => ∃ files, after.files state.current = some files ∧
        Rest touched before (some (recovered state target))
          (tried ++ [.started state.current, .returned state.current files]) after)
      (Left branch before state) (Left branch before state) := by
  have blocked (after : Host)
      (rest : Rest touched before (some (DeployJournal.recovering state target)) tried after) :
      Left branch before state after :=
    .recovering touched target tried [] attempted .waiting (by rwa [List.append_nil])
  refine Meets.andThen (save_meets _ (fun host rest => rest.setJournal _)
    (fun after rest => .pended touched target tried attempted rest) blocked) fun _ => ?_
  have activation := activate_meets touched before
    (some (DeployJournal.recovering state target)) tried state.current
  refine Meets.andThen (activation.strengthen (fun _ _ returned => returned) ?_ ?_) fun _ => ?_
  · rintro after (waiting | begun)
    · exact blocked after waiting
    · exact .recovering touched target tried _ attempted .begun begun
  · rintro after (waiting | begun)
    · exact blocked after waiting
    · exact .recovering touched target tried _ attempted .begun begun
  refine save_meets _ ?_ ?_ ?_
  · rintro host ⟨files, stored, rest⟩
    exact ⟨files, stored, rest.setJournal _⟩
  · rintro host ⟨files, stored, rest⟩
    exact .recovering touched target tried _ attempted (.done files stored) rest
  · rintro host ⟨files, stored, rest⟩
    exact .recovered touched target tried files attempted stored rest

/-- What the activation of a pending release leaves, with its recovery. -/
theorem deploy_left (origin : Origin state branch touched target) (failed : List String)
    (unsaved : ∀ after, Rest touched before (some state) [] after → Left branch before state after) :
    Meets (Rest touched before (some state) [])
      (do
        save { state with pending := some target }
        (activate target).onException (recover { state with pending := some target } target)
        save { state with
          current := target, previous := some state.current, pending := none, failed })
      (fun _ => Left branch before state) (Left branch before state) (Left branch before state) := by
  refine Meets.andThen (save_meets _ (fun host rest => rest.setJournal _) unsaved
    fun after rest => .pended touched target [] (.begun origin) rest) fun _ => ?_
  have activation := activate_meets touched before
    (some { state with pending := some target }) [] target
  refine Meets.andThen (Meets.onException (activation.strengthen (fun _ _ returned => returned)
    (fun _ begun => begun) ?_) ?_) fun _ => ?_
  · rintro after (waiting | begun)
    · exact .pended touched target [] (.begun origin) waiting
    · exact .pended touched target _ (.failed origin) begun
  · -- the handler recovers, wherever the activation has raised
    have handled {tried : List DeployEvent} (attempted : Attempted state branch touched target tried) :=
      (recover_left before attempted).strengthen
        (fun _ after ⟨files, stored, rest⟩ =>
          Left.recovered touched target tried files attempted stored rest)
        (fun _ left => left) fun _ left => left
    intro host fates begun
    rcases begun with waiting | begun
    · exact handled (.begun origin) host fates waiting
    · exact handled (.failed origin) host fates begun
  · refine save_meets _ ?_ ?_ fun _ left => left
    · rintro host ⟨files, stored, rest⟩
      exact .activated touched target failed files origin stored (rest.setJournal _)
    · rintro host ⟨files, stored, rest⟩
      exact .returned touched target files origin stored rest

/-- A pending release is recovered, whatever the journal says else. -/
theorem interrupted_left (branch : Option String) (journal : before.journal = some state)
    (pending : state.pending = some target) :
    Meets (fun host => host = before) (recover state target)
      (fun _ after => ∃ files, after.files state.current = some files ∧
        Rest none before (some (recovered state target))
          [.started state.current, .returned state.current files] after)
      (Left branch before state) (Left branch before state) := by
  have same : { state with pending := some target } = state := by
    cases state
    simp_all
  have interrupted : Attempted state branch none target [] := .interrupted pending
  have left := recover_left before interrupted
  rw [same] at left
  refine left.weaken ?_
  rintro host rfl
  rw [← journal]
  exact Rest.refl host

/-- A pending deployment is recovered before the check deploys. -/
theorem check_left (journal : before.journal = some state) (answers : CheckAnswers) :
    Meets (fun host => host = before) (check (some state) answers)
      (fun _ => Left (some answers.target) before state) (Left (some answers.target) before state) (Left (some answers.target) before state) := by
  obtain ⟨current, previous, pending, failed, checkout⟩ := state
  cases pending with
  | some target =>
    refine (interrupted_left _ journal rfl).strengthen ?_ (fun _ left => left) fun _ left => left
    rintro _ after ⟨files, stored, rest⟩
    exact .recovered none target [] files (.interrupted rfl) stored rest
  | none =>
    have unchanged (host : Host) (same : host = before) :
        Left (some answers.target) before ⟨current, previous, none, failed, checkout⟩ host := by
      subst same
      refine .kept none (fun _ member => nomatch member) ?_
      rw [← journal]
      exact Rest.refl host
    refine Meets.andThen (Meets.command unchanged unchanged) fun _ => ?_
    refine Meets.andThen (Meets.command unchanged unchanged) fun _ => ?_
    refine Meets.andThen (Meets.command unchanged unchanged) fun _ => ?_
    dsimp only
    split
    · exact Meets.fail unchanged
    split
    · exact fun host _ same => unchanged host same
    rename_i gate
    have admitted : Admitted ⟨current, previous, none, failed, checkout⟩ answers.target :=
      ⟨rfl, fun same => gate (Or.inl same), fun member => gate (Or.inr member)⟩
    have kept (after : Host)
        (rest : Rest (some answers.target) before
          (some ⟨current, previous, none, failed, checkout⟩) [] after) :
        Left (some answers.target) before ⟨current, previous, none, failed, checkout⟩ after :=
      .kept _ (fun target member => ⟨member, Option.some.inj member ▸ admitted⟩) rest
    refine Meets.andThen ((Meets.demand unchanged unchanged).strengthen
      (fun _ _ holds => holds.1) (fun _ left => left) fun _ left => left) fun _ => ?_
    refine Meets.andThen (Meets.command unchanged unchanged) fun _ => ?_
    have resting (host : Host) (same : host = before) : Rest (some answers.target) before
        (some ⟨current, previous, none, failed, checkout⟩) [] host := by
      subst same
      rw [← journal]
      exact Rest.refl host
    have prepared := (keeps_prepareTarget current answers).strengthen
      (fun _ _ rest => rest) (fun _ rest => rest) kept
    refine Meets.andThen (Meets.onException (prepared.weaken resting) ?_) fun _ => ?_
    · exact save_meets _ (fun host rest =>
        Left.blocked answers.target rfl admitted (rest.setJournal _)) kept fun _ left => left
    · exact deploy_left (.checked answers.target admitted) failed kept

/-- A rollback activates the previous revision, if there is one. -/
theorem rollback_left (journal : before.journal = some state) :
    Meets (fun host => host = before) (rollback (some state))
      (fun _ => Left none before state) (Left none before state) (Left none before state) := by
  have unchanged (host : Host) (same : host = before) : Rest none before (some state) [] host := by
    subst same
    rw [← journal]
    exact Rest.refl host
  have kept (after : Host) (rest : Rest none before (some state) [] after) :
      Left none before state after :=
    .kept none (fun _ member => nomatch member) rest
  obtain ⟨current, previous, pending, failed, checkout⟩ := state
  cases pending with
  | some target =>
    refine (interrupted_left _ journal rfl).strengthen ?_ (fun _ left => left) fun _ left => left
    rintro _ after ⟨files, stored, rest⟩
    exact .recovered none target [] files (.interrupted rfl) stored rest
  | none =>
    cases previous with
    | none => exact Meets.fail fun host same => kept host (unchanged host same)
    | some previous =>
      exact (deploy_left (.rolledBack previous rfl rfl) (block failed current) kept).weaken
        unchanged

/-- The journal is loaded before an action runs. -/
theorem load_meets (next : Option Journal → Program Host PUnit) {returns : PUnit → Host → Prop}
    {left : Host → Prop} (unchanged : left before)
    (runs : Meets (fun host => host = before) (next before.journal) returns left left) :
    Meets (fun host => host = before)
      (Program.demand (fun host : Host => some host.journal) >>= next) returns left left := by
  have ends (host : Host) (same : host = before) : left host := same ▸ unchanged
  refine Meets.andThen (Meets.demand ends ends) fun value => ?_
  have loaded (host : Host) (holds : host = before ∧ some host.journal = some value) :
      value = before.journal := by
    rw [← Option.some.inj holds.2, holds.1]
  refine Meets.assuming loaded fun same => ?_
  rw [same]
  exact runs.weaken fun _ holds => holds.1

/-- What an invocation leaves where a journal was saved. -/
theorem invoke_left (journal : before.journal = some state) (invocation : Invocation) :
    Left invocation.action.branch before state (invoke before invocation) ∨
      invocation.action = .retry ∧
        Rest none before (some { state with failed := [] }) [] (invoke before invocation) := by
  have unchanged : Rest none before (some state) [] before := by
    rw [← journal]
    exact Rest.refl before
  have kept {branch : Option String} : Left branch before state before := .kept none (fun _ member => nomatch member) unchanged
  obtain ⟨action, fates⟩ := invocation
  cases action with
  | bootstrap answers =>
    refine Or.inl ((load_meets (fun state => bootstrap state answers) kept ?_).settles rfl fates)
    rw [journal]
    refine Meets.fail ?_
    rintro host rfl
    exact kept
  | check answers =>
    refine Or.inl ((load_meets (fun state => check state answers) kept ?_).settles rfl fates)
    rw [journal]
    exact check_left journal answers
  | rollback =>
    refine Or.inl ((load_meets rollback kept ?_).settles rfl fates)
    rw [journal]
    exact rollback_left journal
  | retry =>
    have retried : Left none before state (invoke before ⟨.retry, fates⟩) ∨
        Rest none before (some { state with failed := [] }) [] (invoke before ⟨.retry, fates⟩) := by
      suffices saved : Meets (fun host => host = before) (retry before.journal)
          (fun _ after => Left none before state after ∨
            Rest none before (some { state with failed := [] }) [] after)
          (fun after => Left none before state after ∨
            Rest none before (some { state with failed := [] }) [] after)
          (fun after => Left none before state after ∨
            Rest none before (some { state with failed := [] }) [] after) from
        (load_meets retry (Or.inl kept) saved).settles rfl fates
      rw [journal]
      refine save_meets _ ?_ ?_ fun _ left => left
      · rintro host rfl
        exact Or.inr (unchanged.setJournal _)
      · rintro host rfl
        exact Or.inl kept
    exact retried.imp_right (And.intro rfl)

/-- What an invocation leaves where no journal was saved. -/
inductive Bootstrapped (before after : Host) : Prop
  | unsaved (journal : after.journal = none) (events : after.events = before.events)
  | adopted (revision checkout : String) (files : ActivationFiles)
    (journal : after.journal = some ⟨revision, none, none, [], checkout⟩)
    (events : after.events = before.events ++ [.adopted revision files])
    (stored : after.files revision = some files)

/-- A bootstrap adopts what runs, or deploys a first revision. -/
theorem bootstrap_left (journal : before.journal = none) (answers : BootstrapAnswers) :
    Meets (fun host => host = before) (bootstrap none answers) (fun _ => Bootstrapped before)
      (Bootstrapped before) (Bootstrapped before) := by
  obtain ⟨revision, named⟩ : ∃ revision, revision = "baseline-" ++ toString answers.time :=
    ⟨_, rfl⟩
  have unsaved (after : Host) (rest : Rest (some revision) before none [] after) :
      Bootstrapped before after :=
    .unsaved rest.journal (by rw [rest.events, List.append_nil])
  have resting (host : Host) (same : host = before) :
      Rest (some revision) before none [] host := by
    subst same
    rw [← journal]
    exact Rest.refl host
  have command : Meets (Rest (some revision) before none []) Program.command
      (fun _ => Rest (some revision) before none []) (Bootstrapped before)
      (Bootstrapped before) := Meets.command unsaved unsaved
  refine Meets.andThen (command.weaken resting) fun _ => ?_
  refine Meets.andThen command fun _ => ?_
  refine Meets.andThen command fun _ => ?_
  dsimp only
  rw [← named]
  refine Meets.andThen ((keeps_prepare _).strengthen (fun _ _ rest => rest) unsaved
    unsaved) fun config => ?_
  refine Meets.andThen (Meets.forM (fun _ => command) _) fun _ => ?_
  refine Meets.andThen ((pin_files _ _).strengthen (fun _ _ holds => holds) unsaved
    unsaved) fun _ => ?_
  have adopted (host : Host) (holds : Rest (some revision) before none [] host ∧
      host.files revision = some ⟨literalCompose (pinned revision config), answers.running⟩) :
      Bootstrapped before
        { host.log (.adopted revision
            ⟨literalCompose (pinned revision config), answers.running⟩) with
          journal := some ⟨revision, none, none, [], answers.checkout⟩ } := by
    obtain ⟨rest, stored⟩ := holds
    exact .adopted revision answers.checkout _ rfl
      (by rw [Host.log, rest.events, List.append_nil]) stored
  exact Meets.write (fun host holds => ⟨unsaved host holds.1, unsaved host holds.1⟩)
    fun host holds => ⟨adopted host holds, adopted host holds⟩

/-- Only a bootstrap writes the first journal. -/
theorem invoke_fresh (journal : before.journal = none) (invocation : Invocation) :
    Bootstrapped before (invoke before invocation) := by
  have kept : Bootstrapped before before := .unsaved journal rfl
  have fails (next : Option Journal → Program Host PUnit) (raises : next none = Program.fail)
      (fates : List Fate) :
      Bootstrapped before
        ((Program.demand (fun host : Host => some host.journal) >>= next) before fates).2.1 := by
    refine (load_meets next kept ?_).settles rfl fates
    rw [journal, raises]
    exact Meets.fail fun _ same => same ▸ kept
  obtain ⟨action, fates⟩ := invocation
  cases action with
  | bootstrap answers =>
    refine (load_meets (fun state => bootstrap state answers) kept ?_).settles rfl fates
    rw [journal]
    exact bootstrap_left journal answers
  | check answers => exact fails (fun state => check state answers) rfl fates
  | rollback => exact fails rollback rfl fates
  | retry => exact fails retry rfl fates

end Invocations

section Safety

/-- The last activation that was started, and whether it has returned. -/
def lastStarted (events : List DeployEvent) : Option (String × Bool) :=
  events.foldl (fun last event =>
    match event with
    | .adopted .. => last
    | .started revision => some (revision, false)
    | .returned revision _ => some (revision, true)) none

/-- While nothing is pending, the last activation that was started has returned and
was one of the current release, unless none was started yet. -/
def Settled (host : Host) : Prop :=
  ∀ state, host.journal = some state → state.pending = none →
    lastStarted host.events = none ∨ lastStarted host.events = some (state.current, true)

/-- A release becomes the current one by an activation that has returned, or as the
baseline that the bootstrap adopts. -/
def CurrentActivated (host after : Host) (added : List DeployEvent) : Prop :=
  ∀ next, after.journal = some next → host.journal.map (·.current) ≠ some next.current →
    (∃ files, .returned next.current files ∈ added) ∨
      host.journal = none ∧ ∃ files, .adopted next.current files ∈ added

/-- With a pending release, an action activates nothing but the current release, ends
with nothing pending only if this has returned, and does so unless it is interrupted. -/
def Recovers (host : Host) (invocation : Invocation) (added : List DeployEvent) : Prop :=
  ∀ state target, host.journal = some state → state.pending = some target →
    ∃ next, (invoke host invocation).journal = some next ∧ next.current = state.current ∧
      (added = [] ∨ added = [.started state.current] ∨
        ∃ files, added = [.started state.current, .returned state.current files]) ∧
      (next.pending = none →
        ∃ files, added = [.started state.current, .returned state.current files]) ∧
      ((main invocation.action host invocation.fates).1 = .returned ⟨⟩ → next.pending = none)

/-- No activation of a blocked release is started, except one of the current release. -/
def SparesBlocked (host : Host) (added : List DeployEvent) : Prop :=
  ∀ state, host.journal = some state → ∀ revision, .started revision ∈ added →
    revision ∈ state.failed → revision = state.current

variable {before : Host} {state : Journal}

/-- An action that finds a pending release recovers it. -/
theorem main_interrupted (branch : Option String) {target : String} (journal : before.journal = some state)
    (pending : state.pending = some target) {action : Action} (recovers : action.recovers = true) :
    Meets (fun host => host = before) (main action)
      (fun _ after => ∃ files, after.files state.current = some files ∧
        Rest none before (some (recovered state target))
          [.started state.current, .returned state.current files] after)
      (Left branch before state) (Left branch before state) := by
  have kept : Left branch before state before := by
    refine .kept none (fun _ member => nomatch member) ?_
    rw [← journal]
    exact Rest.refl before
  have recovery := interrupted_left branch journal pending
  cases action with
  | bootstrap answers => cases recovers
  | retry => cases recovers
  | check answers =>
    refine load_meets (fun state => check state answers) kept ?_
    rw [journal]
    have program : check (some state) answers = recover state target := by
      simp only [check, pending]
    rw [program]
    exact recovery
  | rollback =>
    refine load_meets rollback kept ?_
    rw [journal]
    have program : rollback (some state) = recover state target := by
      simp only [rollback, pending]
    rw [program]
    exact recovery

theorem lastStarted_returned (events : List DeployEvent) (revision : String)
    (files : ActivationFiles) :
    lastStarted (events ++ [.started revision, .returned revision files]) =
      some (revision, true) := by
  simp [lastStarted, List.foldl_append]

theorem lastStarted_adopted (events : List DeployEvent) (revision : String)
    (files : ActivationFiles) :
    lastStarted (events ++ [.adopted revision files]) = lastStarted events := by
  simp [lastStarted, List.foldl_append]

/-- The step lemma of the settled journal. -/
theorem settled_invoke (host : Host) (invocation : Invocation)
    (invariant : Settled host ∧ (host.journal = none → lastStarted host.events = none)) :
    Settled (invoke host invocation) ∧
      ((invoke host invocation).journal = none →
        lastStarted (invoke host invocation).events = none) := by
  obtain ⟨settled, unstarted⟩ := invariant
  cases journal : host.journal with
  | none =>
    cases invoke_fresh journal invocation with
    | unsaved unsaved events =>
      refine ⟨fun state saved => ?_, fun _ => ?_⟩
      · rw [unsaved] at saved
        cases saved
      · rw [events]
        exact unstarted journal
    | adopted revision checkout files saved events stored =>
      refine ⟨fun state _ _ => Or.inl ?_, fun absent => ?_⟩
      · rw [events, lastStarted_adopted]
        exact unstarted journal
      · rw [saved] at absent
        cases absent
  | some state =>
    -- the journal stays as settled as it was where no activation was started
    have still {touched : Option String} {next : Journal}
        (rest : Rest touched host (some next) [] (invoke host invocation))
        (current : next.current = state.current) (pending : next.pending = state.pending) :
        Settled (invoke host invocation) := by
      intro saved savedJournal resting
      cases rest.journal.symm.trans savedJournal
      rw [rest.events, List.append_nil, current]
      exact settled state journal (pending ▸ resting)
    have pended {touched : Option String} {next : Journal} {added : List DeployEvent}
        (rest : Rest touched host (some next) added (invoke host invocation)) {target : String}
        (pending : next.pending = some target) : Settled (invoke host invocation) := by
      intro saved savedJournal resting
      cases rest.journal.symm.trans savedJournal
      rw [pending] at resting
      cases resting
    have saved {touched : Option String} {next : Journal} {added : List DeployEvent}
        (rest : Rest touched host (some next) added (invoke host invocation)) :
        (invoke host invocation).journal = none →
          lastStarted (invoke host invocation).events = none := by
      rw [rest.journal]
      exact fun absent => nomatch absent
    rcases invoke_left journal invocation with left | ⟨-, rest⟩
    · cases left with
      | kept touched admitted rest => exact ⟨still rest rfl rfl, saved rest⟩
      | blocked target found admitted rest => exact ⟨still rest rfl rfl, saved rest⟩
      | pended touched target tried attempted rest => exact ⟨pended rest rfl, saved rest⟩
      | recovering touched target tried restored attempted restoring rest =>
        exact ⟨pended rest rfl, saved rest⟩
      | recovered touched target tried files attempted stored rest =>
        refine ⟨fun next savedJournal _ => Or.inr ?_, saved rest⟩
        cases rest.journal.symm.trans savedJournal
        rw [rest.events, ← List.append_assoc, lastStarted_returned]
        rfl
      | returned touched target files origin stored rest => exact ⟨pended rest rfl, saved rest⟩
      | activated touched target failed files origin stored rest =>
        refine ⟨fun next savedJournal _ => Or.inr ?_, saved rest⟩
        cases rest.journal.symm.trans savedJournal
        rw [rest.events, lastStarted_returned]
    · exact ⟨still rest rfl rfl, saved rest⟩

variable {added : List DeployEvent}

/-- What an invocation that was interrupted in its recovery leaves. -/
theorem recovers_left {host after : Host} {target : String} (left : Left branch host state after)
    (events : after.events = host.events ++ added) (pending : state.pending = some target) :
    ∃ next, after.journal = some next ∧ next.current = state.current ∧
      (added = [] ∨ added = [.started state.current] ∨
        ∃ files, added = [.started state.current, .returned state.current files]) ∧
      (next.pending = none →
        ∃ files, added = [.started state.current, .returned state.current files]) := by
  have added_eq {touched : Option String} {journal : Option Journal} {new : List DeployEvent}
      (rest : Rest touched host journal new after) : added = new :=
    List.append_cancel_left (events.symm.trans rest.events)
  have resting (absurdly : state.pending = none) : False := by
    rw [pending] at absurdly
    cases absurdly
  cases left with
  | kept touched admitted rest =>
    exact ⟨state, rest.journal, rfl, Or.inl (added_eq rest), fun none => (resting none).elim⟩
  | blocked target found admitted rest => exact (resting admitted.resting).elim
  | pended touched target tried attempted rest =>
    refine ⟨_, rest.journal, rfl, Or.inl ?_, fun none => nomatch none⟩
    rw [added_eq rest, attempted.of_pending pending]
  | recovering touched target tried restored attempted restoring rest =>
    refine ⟨_, rest.journal, rfl, ?_, fun none => nomatch none⟩
    rw [added_eq rest, attempted.of_pending pending, List.nil_append]
    cases restoring with
    | waiting => exact Or.inl rfl
    | begun => exact Or.inr (Or.inl rfl)
    | done files stored => exact Or.inr (Or.inr ⟨files, rfl⟩)
  | recovered touched target tried files attempted stored rest =>
    have new : added = [.started state.current, .returned state.current files] := by
      rw [added_eq rest, attempted.of_pending pending, List.nil_append]
    exact ⟨_, rest.journal, rfl, Or.inr (Or.inr ⟨files, new⟩), fun _ => ⟨files, new⟩⟩
  | returned touched target files origin stored rest => exact (resting origin.resting).elim
  | activated touched target failed files origin stored rest =>
    exact (resting origin.resting).elim

theorem recovers_invoke (host : Host) (invocation : Invocation)
    (events : (invoke host invocation).events = host.events ++ added)
    (recovers : invocation.action.recovers = true) : Recovers host invocation added := by
  intro state target journal pending
  have meets := main_interrupted none journal pending recovers host invocation.fates rfl
  have left : Left invocation.action.branch host state (invoke host invocation) := by
    rcases invoke_left journal invocation with left | ⟨retried, -⟩
    · exact left
    · rw [retried] at recovers
      cases recovers
  obtain ⟨next, saved, current, shape, cleared⟩ := recovers_left left events pending
  refine ⟨next, saved, current, shape, cleared, fun returned => ?_⟩
  -- an action that has returned has recovered the release
  rcases result : main invocation.action host invocation.fates with ⟨outcome, after, rest⟩
  have after_eq : invoke host invocation = after := by rw [invoke, result]
  rw [result] at meets returned
  cases returned
  obtain ⟨files, stored, rest⟩ := meets
  rw [after_eq, rest.journal] at saved
  cases saved
  rfl

/-- What a check starts was admitted or is current. -/
theorem spares_left {host after : Host} {target : String}
    (left : Left (some target) host state after) (events : after.events = host.events ++ added)
    {revision : String} (started : .started revision ∈ added) (blocked : revision ∈ state.failed) :
    revision = state.current := by
  have added_eq {touched : Option String} {journal : Option Journal} {new : List DeployEvent}
      (rest : Rest touched host journal new after) : .started revision ∈ new :=
    List.append_cancel_left (events.symm.trans rest.events) ▸ started
  have notTarget {touched : Option String} {found target : String}
      (origin : Origin state (some found) touched target) : revision ≠ target := by
    rintro rfl
    cases origin with
    | checked target admitted => exact admitted.unblocked blocked
  have notTried {touched : Option String} {found target : String} {tried : List DeployEvent}
      (attempted : Attempted state (some found) touched target tried) : .started revision ∉ tried := by
    cases attempted with
    | begun origin => exact List.not_mem_nil
    | failed origin =>
      intro member
      cases List.mem_singleton.mp member
      exact notTarget origin rfl
    | interrupted pending => exact List.not_mem_nil
  cases left with
  | kept touched admitted rest => cases added_eq rest
  | blocked target found admitted rest => cases added_eq rest
  | pended touched target tried attempted rest => exact (notTried attempted (added_eq rest)).elim
  | recovering touched target tried restored attempted restoring rest =>
    rcases List.mem_append.mp (added_eq rest) with inTried | inRestored
    · exact (notTried attempted inTried).elim
    · cases restoring with
      | waiting => cases inRestored
      | begun => simpa using inRestored
      | done files stored => simpa using inRestored
  | recovered touched target tried files attempted stored rest =>
    rcases List.mem_append.mp (added_eq rest) with inTried | inRestored
    · exact (notTried attempted inTried).elim
    · simpa using inRestored
  | returned touched target files origin stored rest =>
    have isTarget : revision = target := by simpa using added_eq rest
    exact (notTarget origin isTarget).elim
  | activated touched target failed files origin stored rest =>
    have isTarget : revision = target := by simpa using added_eq rest
    exact (notTarget origin isTarget).elim

/-- A release becomes current by an activation that returned, or by its adoption. -/
theorem current_invoke (host : Host) (invocation : Invocation)
    (events : (invoke host invocation).events = host.events ++ added) :
    CurrentActivated host (invoke host invocation) added := by
  intro next saved changed
  have added_eq {touched : Option String} {journal : Option Journal} {new : List DeployEvent}
      (rest : Rest touched host journal new (invoke host invocation)) : added = new :=
    List.append_cancel_left (events.symm.trans rest.events)
  cases journal : host.journal with
  | none =>
    cases invoke_fresh journal invocation with
    | unsaved unsaved _ =>
      rw [unsaved] at saved
      cases saved
    | adopted revision checkout files adopted adoptedEvents _ =>
      cases adopted.symm.trans saved
      refine Or.inr ⟨rfl, files, ?_⟩
      rw [List.append_cancel_left (events.symm.trans adoptedEvents)]
      exact List.mem_singleton.mpr rfl
  | some state =>
    have same {touched : Option String} {left : Journal} {new : List DeployEvent}
        (rest : Rest touched host (some left) new (invoke host invocation))
        (current : left.current = state.current) : False := by
      cases rest.journal.symm.trans saved
      rw [journal, Option.map_some, current] at changed
      exact changed rfl
    rcases invoke_left journal invocation with left | ⟨-, rest⟩
    · cases left with
      | kept touched admitted rest => exact (same rest rfl).elim
      | blocked target found admitted rest => exact (same rest rfl).elim
      | pended touched target tried attempted rest => exact (same rest rfl).elim
      | recovering touched target tried restored attempted restoring rest =>
        exact (same rest rfl).elim
      | recovered touched target tried files attempted stored rest => exact (same rest rfl).elim
      | returned touched target files origin stored rest => exact (same rest rfl).elim
      | activated touched target failed files origin stored rest =>
        cases rest.journal.symm.trans saved
        refine Or.inl ⟨files, ?_⟩
        rw [added_eq rest]
        exact List.mem_cons_of_mem _ (List.mem_singleton.mpr rfl)
    · exact (same rest rfl).elim

/-- Events are only added. -/
theorem events_invoke (host : Host) (invocation : Invocation) :
    ∃ added, (invoke host invocation).events = host.events ++ added := by
  cases journal : host.journal with
  | none =>
    cases invoke_fresh journal invocation with
    | unsaved unsaved events => exact ⟨[], by rw [events, List.append_nil]⟩
    | adopted revision checkout files adopted events stored => exact ⟨_, events⟩
  | some state =>
    rcases invoke_left journal invocation with left | ⟨-, rest⟩
    · obtain ⟨_, _, added, rest⟩ := left.rest
      exact ⟨added, rest.events⟩
    · exact ⟨_, rest.events⟩

/-- The safety of the journal: after every sequence of invocations it is settled while
nothing is pending, and the next invocation, wherever it fails or is killed, makes a
release current only by an activation that has returned, or as the baseline; it
recovers a pending release before anything else; and a check starts no activation of
a blocked release but that of the current one. -/
theorem journal_safe (invocations : List Invocation) (next : Invocation) :
    let host := run invoke fresh invocations
    Settled host ∧ ∃ added, (invoke host next).events = host.events ++ added ∧
      CurrentActivated host (invoke host next) added ∧
        (next.action.recovers = true → Recovers host next added) ∧
          (∀ answers, next.action = .check answers → SparesBlocked host added) := by
  intro host
  have initially : Settled fresh ∧ (fresh.journal = none → lastStarted fresh.events = none) :=
    ⟨fun _ saved => (nomatch saved), fun _ => rfl⟩
  have settled := run_invariant_of_kept
    (fun host => Settled host ∧ (host.journal = none → lastStarted host.events = none))
    initially settled_invoke invocations
  obtain ⟨added, events⟩ := events_invoke host next
  refine ⟨settled.1, added, events, current_invoke host next events,
    recovers_invoke host next events, fun answers checks state journal revision started blocked => ?_⟩
  rcases invoke_left journal next with left | ⟨retried, -⟩
  · rw [checks] at left
    exact spares_left left events started blocked
  · rw [checks] at retried
    cases retried

end Safety

section Rollbacks

/-- A stack of the five services. -/
def sampleConfig : ComposeConfig where
  services := [("db", ⟨some "postgres", none, none, ""⟩), ("api", ⟨none, some "backend", none, ""⟩),
    ("worker", ⟨none, some "backend", none, ""⟩), ("web", ⟨none, some "frontend", none, ""⟩),
    ("proxy", ⟨some "caddy", none, none, ""⟩)]
  volumes := none
  networks := none
  configs := none
  secrets := none

def samplePreparation : Preparation := ⟨sampleConfig, [.source, .build, .runtime, .images]⟩

def sampleBootstrap : Action :=
  .bootstrap ⟨0, "", samplePreparation, services.map fun name => (name, "running-" ++ name)⟩

/-- A check that finds a commit of forty equal digits. -/
def sampleCheck (digit : Char) : Action :=
  .check ⟨String.ofList (List.replicate 40 digit), samplePreparation, fun name => "built-" ++ name⟩

/-- As many steps proceed. -/
def proceeding (steps : ℕ) : List Fate := List.replicate steps .proceeds

/-- A deployment that is rolled back twice, after which its release is current and
blocked. -/
def rolledBackTwice : List Invocation :=
  [⟨sampleBootstrap, proceeding 60⟩, ⟨sampleCheck '1', proceeding 60⟩, ⟨.rollback, proceeding 60⟩,
    ⟨.rollback, proceeding 60⟩]

/-- The next check fails in its activation and recovers. -/
def failingCheck : Invocation := ⟨sampleCheck '2', proceeding 34 ++ .raises :: proceeding 60⟩

/-- The bootstrap makes a release current that no activation has returned for, and a
check may start the activation of a blocked release: a manual rollback returns to it,
and the recovery of a failing commit activates it again. -/
theorem blocked_current_reactivated :
    (¬∀ (invocations : List Invocation) (state : Journal),
      (run invoke fresh invocations).journal = some state →
        ∃ files, .returned state.current files ∈ (run invoke fresh invocations).events) ∧
    ¬∀ (invocations : List Invocation) (answers : CheckAnswers) (fates : List Fate)
      (state : Journal), (run invoke fresh invocations).journal = some state →
        ∀ revision ∈ state.failed, ∀ added,
          (invoke (run invoke fresh invocations) ⟨.check answers, fates⟩).events =
              (run invoke fresh invocations).events ++ added →
            .started revision ∉ added := by
  constructor
  · intro always
    obtain ⟨files, returned⟩ := always [⟨sampleBootstrap, proceeding 60⟩]
      ⟨"baseline-0", none, none, [], ""⟩ (by decide +kernel)
    have adopted : (run invoke fresh [⟨sampleBootstrap, proceeding 60⟩]).events.all
        (fun event => match event with
          | .adopted .. => true
          | .started _ | .returned .. => false) = true := by decide +kernel
    exact absurd (List.all_eq_true.mp adopted _ returned) (by simp)
  · intro always
    obtain ⟨added, appended⟩ := events_invoke (run invoke fresh rolledBackTwice) failingCheck
    have kept := always rolledBackTwice
      ⟨String.ofList (List.replicate 40 '2'), samplePreparation, fun name => "built-" ++ name⟩
      (proceeding 34 ++ .raises :: proceeding 60)
      ⟨String.ofList (List.replicate 40 '1'), some "baseline-0", none,
        [String.ofList (List.replicate 40 '1'), "baseline-0"], ""⟩ (by decide +kernel)
      (String.ofList (List.replicate 40 '1')) (List.mem_cons_self) added appended
    -- the check adds its events after those of the other invocations
    have added_eq : added = (invoke (run invoke fresh rolledBackTwice) failingCheck).events.drop
        (run invoke fresh rolledBackTwice).events.length := by
      rw [appended, List.drop_left]
    have started : .started (String.ofList (List.replicate 40 '1')) ∈
        (invoke (run invoke fresh rolledBackTwice) failingCheck).events.drop
          (run invoke fresh rolledBackTwice).events.length := by
      decide +kernel
    exact kept (added_eq ▸ started)

end Rollbacks

end FinopsAnalytics.DeployJournal
