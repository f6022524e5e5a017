import FinopsAnalytics.InterruptedPrograms
import Mathlib.Data.Nat.Notation
import Mathlib.Logic.Function.Basic

/-!
# Deployments of a single host

A deployer keeps a journal of the current, the previous and the pending release and
of the blocked commits, and a directory for every release. Its actions run external
commands, which may fail, and may be killed at any step. One action runs at a time
and reads the journal when it begins. The events record which releases were adopted
or activated, with the files that they were activated with.
-/

namespace FinopsAnalytics.AutoDeploy

open InterruptedPrograms Program

/-- A service of a Compose configuration; the settings are its other entries. -/
structure ServiceConfig where
  image : Option String
  build : Option String
  pullPolicy : Option String
  settings : String
  deriving DecidableEq, Repr

/-- A resolved Compose configuration. -/
structure ComposeConfig where
  services : List (String × ServiceConfig)
  volumes : Option String
  networks : Option String
  configs : Option String
  secrets : Option String
  deriving DecidableEq, Repr

/-- The image identifiers of the services. -/
abbrev Images := List (String × String)

/-- The JSON files of a release directory. -/
structure ReleaseDirectory where
  source : Option ComposeConfig
  build : Option ComposeConfig
  runtime : Option ComposeConfig
  images : Option Images
  deriving DecidableEq, Repr

inductive ReleaseFile where
  | source | build | runtime | images
  deriving DecidableEq, Repr

def ReleaseDirectory.empty : ReleaseDirectory := ⟨none, none, none, none⟩

def ReleaseDirectory.remove (directory : ReleaseDirectory) : ReleaseFile → ReleaseDirectory
  | .source => { directory with source := none }
  | .build => { directory with build := none }
  | .runtime => { directory with runtime := none }
  | .images => { directory with images := none }

/-- The files that an activation takes from a release directory. -/
structure ActivationFiles where
  runtime : ComposeConfig
  images : Images
  deriving DecidableEq, Repr

def ReleaseDirectory.activationFiles (directory : ReleaseDirectory) : Option ActivationFiles :=
  directory.runtime.bind fun runtime => directory.images.map fun images => ⟨runtime, images⟩

/-- `state.json` -/
structure Journal where
  current : String
  previous : Option String
  pending : Option String
  failed : List String
  baselineCheckout : String
  deriving DecidableEq, Repr

inductive DeployEvent where
  | adopted (revision : String) (files : ActivationFiles)
  | started (revision : String)
  | returned (revision : String) (files : ActivationFiles)
  deriving DecidableEq, Repr

/-- What outlives the process of a deployer, with the events so far. -/
structure Host where
  journal : Option Journal
  releases : String → Option ReleaseDirectory
  events : List DeployEvent

def Host.log (host : Host) (event : DeployEvent) : Host :=
  { host with events := host.events ++ [event] }

def Host.setRelease (host : Host) (revision : String) (directory : Option ReleaseDirectory) :
    Host :=
  { host with releases := Function.update host.releases revision directory }

/-- The files of a release that can be activated. -/
def Host.files (host : Host) (revision : String) : Option ActivationFiles :=
  (host.releases revision).bind (·.activationFiles)

/-- `SERVICES` -/
def services : List String := ["db", "api", "worker", "web", "proxy"]

section Texts

/-- `literal_compose` of a text: dollars are doubled. -/
def literalText (text : String) : String :=
  String.ofList (text.toList.flatMap fun character =>
    if character = '$' then ['$', '$'] else [character])

def literalService (service : ServiceConfig) : ServiceConfig where
  image := service.image.map literalText
  build := service.build.map literalText
  pullPolicy := service.pullPolicy.map literalText
  settings := literalText service.settings

/-- `literal_compose` -/
def literalCompose (config : ComposeConfig) : ComposeConfig where
  services := config.services.map fun (name, service) => (name, literalService service)
  volumes := config.volumes.map literalText
  networks := config.networks.map literalText
  configs := config.configs.map literalText
  secrets := config.secrets.map literalText

/-- The configuration that `pin` writes: local tags, no builds, no pulls. -/
def pinned (revision : String) (config : ComposeConfig) : ComposeConfig :=
  { config with
    services := config.services.map fun (name, service) =>
      (name, { service with
        image := some ("deepops-local/" ++ name ++ ":" ++ revision)
        build := none
        pullPolicy := some "never" }) }

/-- The configuration of the build, with a tag for every image that is built. -/
def buildConfig (target : String) (config : ComposeConfig) : ComposeConfig :=
  { config with
    services := config.services.map fun (name, service) =>
      (name, if name ∈ ["api", "worker", "web"] then
          { service with image := some ("deepops-build/" ++ name ++ ":" ++ target) }
        else service) }

/-- `re.fullmatch('[0-9a-f]{40}', target)` -/
def isCommit (target : String) : Bool :=
  target.length = 40 && target.toList.all fun character =>
    character.isDigit || ('a' ≤ character && character ≤ 'f')

end Texts

/-- The entry of a list is added if it is not there yet. -/
def block (failed : List String) (revision : String) : List String :=
  if revision ∈ failed then failed else failed ++ [revision]

/-- What the external commands answer to `prepare`: the resolved configuration, and
the order in which a directory is deleted. -/
structure Preparation where
  config : ComposeConfig
  removal : List ReleaseFile

/-- An entry of a dictionary that must be there. -/
def orFail {α : Type} (value : Option α) : Program Host α :=
  match value with
  | some value => pure value
  | none => fail

/-- `self.save()` -/
def save (state : Journal) : Program Host PUnit :=
  write fun host => { host with journal := some state }

/-- `save_json` of a file in a release directory, which must be there. -/
def saveFile (revision : String) (change : ReleaseDirectory → ReleaseDirectory) :
    Program Host PUnit :=
  step fun host => (host.releases revision).map fun directory =>
    (⟨⟩, host.setRelease revision (some (change directory)))

/-- `prepare`: the directory is deleted, file by file, and built again. -/
def prepare (revision : String) (preparation : Preparation) : Program Host ComposeConfig := do
  preparation.removal.forM fun file =>
    write fun host => host.setRelease revision ((host.releases revision).map (·.remove file))
  write fun host => host.setRelease revision none
  write fun host => host.setRelease revision (some .empty)
  -- the archive, its extraction, the copy of `.env` and the resolved configuration
  command
  command
  command
  command
  let config := preparation.config
  if (∀ name ∈ config.services.map Prod.fst, name ∈ services) ∧
      ∀ name ∈ services, name ∈ config.services.map Prod.fst then
    saveFile revision fun directory => { directory with source := some config }
    pure config
  else fail

/-- `pin` -/
def pin (revision : String) (config : ComposeConfig) (images : Images) : Program Host PUnit := do
  config.services.forM fun _ => command
  saveFile revision fun directory =>
    { directory with runtime := some (literalCompose (pinned revision config)) }
  saveFile revision fun directory => { directory with images := some images }

/-- `activate`: `up` and the check of the health until it is stable. -/
def activate (revision : String) : Program Host PUnit := do
  write (·.log (.started revision))
  let runtime ← demand fun host => (host.releases revision).bind (·.runtime)
  command
  let images ← demand fun host => (host.releases revision).bind (·.images)
  command
  note (·.log (.returned revision ⟨runtime, images⟩))

/-- `recover`, for the pending release. -/
def recover (state : Journal) (target : String) : Program Host PUnit := do
  let state := { state with failed := block state.failed target }
  save state
  activate state.current
  save { state with pending := none }

/-- What the commands of `bootstrap` answer. -/
structure BootstrapAnswers where
  time : ℕ
  checkout : String
  preparation : Preparation
  running : Images

/-- `bootstrap`: the running images are adopted. -/
def bootstrap (state : Option Journal) (answers : BootstrapAnswers) : Program Host PUnit := do
  match state with
  | some _ => fail
  | none =>
    -- the clean checkout, the health and the checked out commit
    command
    command
    command
    let revision := "baseline-" ++ toString answers.time
    let config ← prepare revision answers.preparation
    services.forM fun _ => command
    pin revision config answers.running
    write fun host =>
      { host.log (.adopted revision ⟨literalCompose (pinned revision config), answers.running⟩) with
        journal := some ⟨revision, none, none, [], answers.checkout⟩ }

/-- What the commands of `check` answer: the commit of the branch, its configuration
and the image of every service. -/
structure CheckAnswers where
  target : String
  preparation : Preparation
  inspected : String → String

/-- The image of a service of the candidate: built, kept, or pulled. -/
def candidateImage (current : String) (candidate previous : ComposeConfig)
    (inspected : String → String) (name : String) : Program Host (String × String) := do
  let service ← orFail (candidate.services.lookup name)
  match service.build with
  | some _ =>
    let _ ← orFail service.image
    command
    pure (name, inspected name)
  | none =>
    let image ← orFail service.image
    let former ← orFail (previous.services.lookup name)
    let formerImage ← orFail former.image
    if image = formerImage then
      let images ← demand fun host => (host.releases current).bind (·.images)
      let kept ← orFail (images.lookup name)
      pure (name, kept)
    else
      command
      command
      pure (name, inspected name)

/-- The preparation of a target, up to `pin`. -/
def prepareTarget (current : String) (answers : CheckAnswers) : Program Host PUnit := do
  let target := answers.target
  let candidate ← prepare target answers.preparation
  let previous ← demand fun host => (host.releases current).bind (·.source)
  if candidate.volumes ≠ previous.volumes ∨ candidate.networks ≠ previous.networks ∨
      candidate.configs ≠ previous.configs ∨ candidate.secrets ≠ previous.secrets then fail
  else if candidate.services.lookup "db" ≠ previous.services.lookup "db" then fail
  else if ∃ name ∈ ["api", "worker", "web"],
      ((candidate.services.lookup name).bind (·.build)) = none then fail
  else
    saveFile target fun directory =>
      { directory with build := some (literalCompose (buildConfig target candidate)) }
    command
    let images ← services.mapM
      (candidateImage current (buildConfig target candidate) previous answers.inspected)
    pin target candidate images

/-- `check` -/
def check (state : Option Journal) (answers : CheckAnswers) : Program Host PUnit := do
  match state with
  | none => fail
  | some state =>
    match state.pending with
    | some target => recover state target
    | none =>
      -- the clean checkout, the fetch and the commit of the branch
      command
      command
      command
      let target := answers.target
      if isCommit target = false then fail
      else if target = state.current ∨ target ∈ state.failed then pure ⟨⟩
      else
        let _ ← demand fun host => (host.releases state.current).bind (·.images)
        command
        (prepareTarget state.current answers).onException
          (save { state with failed := state.failed ++ [target] })
        let pended := { state with pending := some target }
        save pended
        (activate target).onException (recover pended target)
        save { state with current := target, previous := some state.current, pending := none }

/-- `rollback` -/
def rollback (state : Option Journal) : Program Host PUnit := do
  match state with
  | none => fail
  | some state =>
    match state.pending with
    | some target => recover state target
    | none =>
      match state.previous with
      | none => fail
      | some previous =>
        let pended := { state with pending := some previous }
        save pended
        (activate previous).onException (recover pended previous)
        save { state with
          current := previous
          previous := some state.current
          pending := none
          failed := block state.failed state.current }

/-- `retry` -/
def retry (state : Option Journal) : Program Host PUnit := do
  match state with
  | none => fail
  | some state => save { state with failed := [] }

/-- The actions of the command line that change something. -/
inductive Action where
  | bootstrap (answers : BootstrapAnswers)
  | check (answers : CheckAnswers)
  | rollback
  | retry

/-- The actions that recover a pending release. -/
def Action.recovers : Action → Bool
  | .check _ | .rollback => true
  | .bootstrap _ | .retry => false

/-- The commit of the branch, for an action that asks for it. -/
def Action.branch : Action → Option String
  | .check answers => some answers.target
  | .bootstrap _ | .rollback | .retry => none

/-- `main`, under the lock: the journal is loaded and the action runs. -/
def main (action : Action) : Program Host PUnit := do
  let state ← demand fun host => some host.journal
  match action with
  | .bootstrap answers => bootstrap state answers
  | .check answers => check state answers
  | .rollback => rollback state
  | .retry => retry state

/-- A run of the script, with what befalls its steps. -/
structure Invocation where
  action : Action
  fates : List Fate

/-- What an invocation leaves. -/
def invoke (host : Host) (invocation : Invocation) : Host :=
  (main invocation.action host invocation.fates).2.1

/-- A host before the bootstrap. -/
def fresh : Host := ⟨none, fun _ => none, []⟩

end FinopsAnalytics.AutoDeploy
