import FinopsAnalytics.DeployJournal

/-!
# Releases that can be restored

A rollback activates the files that a release directory has at that time. They are
those of the last activation of the release as long as no check prepares the commit
of a recorded release again: the preparation deletes its directory first.
-/

namespace FinopsAnalytics.DeployReleases

open InterruptedPrograms AutoDeploy Interleavings DeployJournal

/-- The files of an event in which a release was adopted or activated. -/
def filesOf (revision : String) : DeployEvent → Option ActivationFiles
  | .adopted other files | .returned other files => if other = revision then some files else none
  | .started _ => none

/-- The files with which a release was last activated, or adopted. -/
def lastActivated (events : List DeployEvent) (revision : String) : Option ActivationFiles :=
  events.reverse.findSome? (filesOf revision)

/-- The release directory has the files with which the release was last activated. -/
def Kept (host : Host) (revision : String) : Prop :=
  ∃ files, host.files revision = some files ∧ lastActivated host.events revision = some files

/-- The current release of the journal is kept, and so is the previous one. -/
def Restorable (host : Host) : Prop :=
  ∀ state, host.journal = some state →
    Kept host state.current ∧ ∀ previous ∈ state.previous, Kept host previous

/-- A check that goes on to prepare the commit of the branch finds a commit other than
the previous release. -/
def SparesPrevious (host : Host) (invocation : Invocation) : Prop :=
  ∀ state ∈ host.journal, ∀ target ∈ invocation.action.branch,
    state.pending = none → target ≠ state.current → target ∉ state.failed →
      state.previous ≠ some target

section Events

/-- Whatever was activated has its files in its directory. -/
def Faithful (host : Host) (added : List DeployEvent) : Prop :=
  ∀ revision, ∀ event ∈ added, ∀ files ∈ filesOf revision event,
    host.files revision = some files

theorem lastActivated_append (events added : List DeployEvent) (revision : String) :
    lastActivated (events ++ added) revision =
      (lastActivated added revision).or (lastActivated events revision) := by
  rw [lastActivated, List.reverse_append, List.findSome?_append]
  rfl

variable {revision : String} {files : ActivationFiles} {touched : Option String}
  {before host : Host} {journal : Option Journal} {added : List DeployEvent}

/-- The last files come from an event. -/
theorem exists_event_of_lastActivated {events : List DeployEvent}
    (found : lastActivated events revision = some files) :
    ∃ event ∈ events, filesOf revision event = some files := by
  obtain ⟨event, member, ofEvent⟩ := List.exists_of_findSome?_eq_some found
  exact ⟨event, List.mem_reverse.mp member, ofEvent⟩

theorem files_eq (rest : Rest touched before journal added host) (apart : some revision ≠ touched) :
    host.files revision = before.files revision := by
  rw [Host.files, Host.files, rest.releases revision apart]

/-- An invocation keeps the releases that it does not touch. -/
theorem Kept.frame (kept : Kept before revision) (rest : Rest touched before journal added host)
    (faithful : Faithful host added) (apart : some revision ≠ touched) : Kept host revision := by
  obtain ⟨files, stored, last⟩ := kept
  rw [Kept, rest.events, lastActivated_append]
  cases found : lastActivated added revision with
  | none =>
    rw [files_eq rest apart]
    exact ⟨files, stored, last⟩
  | some activated =>
    obtain ⟨event, member, ofEvent⟩ := exists_event_of_lastActivated found
    exact ⟨activated, faithful revision event member activated ofEvent, rfl⟩

/-- A release that was activated is kept. -/
theorem kept_of_returned (rest : Rest touched before journal added host)
    (faithful : Faithful host added)
    (activated : .returned revision files ∈ added ∨ .adopted revision files ∈ added) :
    Kept host revision := by
  obtain ⟨event, member, ofEvent⟩ : ∃ event ∈ added, filesOf revision event = some files := by
    rcases activated with member | member
    · exact ⟨_, member, if_pos rfl⟩
    · exact ⟨_, member, if_pos rfl⟩
  rw [Kept, rest.events, lastActivated_append]
  cases found : lastActivated added revision with
  | none =>
    have absent := List.findSome?_eq_none_iff.mp found event (List.mem_reverse.mpr member)
    rw [ofEvent] at absent
    cases absent
  | some last =>
    obtain ⟨other, otherMember, ofOther⟩ := exists_event_of_lastActivated found
    exact ⟨last, faithful revision other otherMember last ofOther, rfl⟩

theorem faithful_nil (host : Host) : Faithful host [] := fun _ _ member => nomatch member

theorem faithful_append {host : Host} {first second : List DeployEvent}
    (ofFirst : Faithful host first) (ofSecond : Faithful host second) :
    Faithful host (first ++ second) := by
  intro revision event member
  rcases List.mem_append.mp member with inFirst | inSecond
  · exact ofFirst revision event inFirst
  · exact ofSecond revision event inSecond

theorem faithful_started (host : Host) (revision : String) :
    Faithful host [.started revision] := by
  intro other event member files ofEvent
  rw [List.mem_singleton.mp member] at ofEvent
  cases ofEvent

theorem faithful_returned {host : Host} (stored : host.files revision = some files) :
    Faithful host [.started revision, .returned revision files] := by
  intro other event member found ofEvent
  rcases List.mem_cons.mp member with rfl | last
  · cases ofEvent
  · rw [List.mem_singleton.mp last, filesOf] at ofEvent
    split at ofEvent
    · rename_i same
      cases ofEvent
      rw [← same, stored]
    · cases ofEvent

theorem faithful_tried {host : Host} {state : Journal} {branch touched : Option String}
    {target : String} {tried : List DeployEvent}
    (attempted : Attempted state branch touched target tried) : Faithful host tried := by
  cases attempted with
  | begun origin => exact faithful_nil host
  | failed origin => exact faithful_started host target
  | interrupted pending => exact faithful_nil host

theorem faithful_restoring {host : Host} {current : String} {restored : List DeployEvent}
    (restoring : Restoring host current restored) : Faithful host restored := by
  cases restoring with
  | waiting => exact faithful_nil host
  | begun => exact faithful_started host current
  | done files stored => exact faithful_returned stored

end Events

section Runs

variable {host : Host} {state : Journal} {branch : Option String}

/-- The release that an invocation touches is neither current nor previous. -/
theorem apart_of_origin {touched : Option String} {target : String}
    (origin : Origin state branch touched target)
    (spares : ∀ target ∈ branch, Admitted state target → state.previous ≠ some target) :
    some state.current ≠ touched ∧ ∀ previous ∈ state.previous, some previous ≠ touched := by
  cases origin with
  | checked target admitted =>
    refine ⟨fun same => admitted.changed (Option.some.inj same).symm, ?_⟩
    rintro previous stored same
    rw [Option.some.inj same] at stored
    exact spares target rfl admitted stored
  | rolledBack previous resting stored => exact ⟨nofun, fun _ _ => nofun⟩

theorem apart_of_attempted {touched : Option String} {target : String} {tried : List DeployEvent}
    (attempted : Attempted state branch touched target tried)
    (spares : ∀ target ∈ branch, Admitted state target → state.previous ≠ some target) :
    some state.current ≠ touched ∧ ∀ previous ∈ state.previous, some previous ≠ touched := by
  cases attempted with
  | begun origin => exact apart_of_origin origin spares
  | failed origin => exact apart_of_origin origin spares
  | interrupted pending => exact ⟨nofun, fun _ _ => nofun⟩

/-- The step lemma. -/
theorem restorable_left {after : Host} (left : Left branch host state after)
    (spares : ∀ target ∈ branch, Admitted state target → state.previous ≠ some target)
    (current : Kept host state.current) (previous : ∀ previous ∈ state.previous, Kept host previous) :
    Restorable after := by
  -- the releases of the old journal stay where they are not touched
  have stays {touched : Option String} {journal : Option Journal} {added : List DeployEvent}
      (rest : Rest touched host journal added after) (faithful : Faithful after added)
      (apart : some state.current ≠ touched ∧ ∀ previous ∈ state.previous, some previous ≠ touched) :
      Kept after state.current ∧ ∀ previous ∈ state.previous, Kept after previous :=
    ⟨current.frame rest faithful apart.1, fun release stored =>
      (previous release stored).frame rest faithful (apart.2 release stored)⟩
  have saved {touched : Option String} {next : Journal} {added : List DeployEvent}
      (rest : Rest touched host (some next) added after)
      (kept : Kept after next.current ∧ ∀ previous ∈ next.previous, Kept after previous) :
      Restorable after := by
    intro found journal
    cases rest.journal.symm.trans journal
    exact kept
  cases left with
  | kept touched admitted rest =>
    refine saved rest (stays rest (faithful_nil after) ?_)
    refine ⟨fun same => ?_, fun release stored same => ?_⟩
    · exact (admitted state.current same.symm).2.changed rfl
    · obtain ⟨found, admits⟩ := admitted release same.symm
      exact spares release found admits stored
  | blocked target found admitted rest =>
    have origin : Origin state branch (some target) target := by
      rw [found]
      exact .checked target admitted
    exact saved rest (stays rest (faithful_nil after) (apart_of_origin origin spares))
  | pended touched target tried attempted rest =>
    exact saved rest (stays rest (faithful_tried attempted) (apart_of_attempted attempted spares))
  | recovering touched target tried restored attempted restoring rest =>
    exact saved rest (stays rest
      (faithful_append (faithful_tried attempted) (faithful_restoring restoring))
      (apart_of_attempted attempted spares))
  | recovered touched target tried files attempted stored rest =>
    exact saved rest (stays rest
      (faithful_append (faithful_tried attempted) (faithful_returned stored))
      (apart_of_attempted attempted spares))
  | returned touched target files origin stored rest =>
    exact saved rest (stays rest (faithful_returned stored) (apart_of_origin origin spares))
  | activated touched target failed files origin stored rest =>
    have faithful := faithful_returned stored
    refine saved rest ⟨?_, fun release isCurrent => ?_⟩
    · exact kept_of_returned rest faithful
        (Or.inl (List.mem_cons_of_mem _ (List.mem_singleton.mpr rfl)))
    · rw [← Option.some.inj isCurrent]
      exact (stays rest faithful (apart_of_origin origin spares)).1

/-- An invocation that spares the previous release keeps it restorable. -/
theorem restorable_invoke (restorable : Restorable host) (invocation : Invocation)
    (spares : SparesPrevious host invocation) : Restorable (invoke host invocation) := by
  cases journal : host.journal with
  | none =>
    intro state saved
    cases invoke_fresh journal invocation with
    | unsaved unsaved events =>
      rw [unsaved] at saved
      cases saved
    | adopted revision checkout files adopted events stored =>
      cases adopted.symm.trans saved
      refine ⟨⟨files, stored, ?_⟩, fun previous absent => nomatch absent⟩
      rw [events, lastActivated_append]
      simp [lastActivated, filesOf]
  | some state =>
    obtain ⟨current, previous⟩ := restorable state journal
    rcases invoke_left journal invocation with left | ⟨-, rest⟩
    · exact restorable_left left (fun target found admitted => spares state journal target found
        admitted.resting admitted.changed admitted.unblocked) current previous
    · intro next saved
      cases rest.journal.symm.trans saved
      exact ⟨current.frame rest (faithful_nil _) nofun, fun release stored =>
        (previous release stored).frame rest (faithful_nil _) nofun⟩

/-- Where no check prepares the previous release again, the current and the previous
release stay restorable in every sequence of invocations. -/
theorem releases_restorable (invocations : List Invocation)
    (spares : Along invoke SparesPrevious fresh invocations) :
    Restorable (run invoke fresh invocations) :=
  run_invariant Restorable (fun _ saved => nomatch saved)
    (fun _ invocation restorable spares => restorable_invoke restorable invocation spares) spares

end Runs

section Branches

/-- Two deployments, after which the branch is moved back to the first one, whose
preparation is killed in the build. -/
def branchMovedBack : List Invocation :=
  [⟨sampleBootstrap, proceeding 60⟩, ⟨sampleCheck '1', proceeding 60⟩,
    ⟨sampleCheck '2', proceeding 60⟩, ⟨sampleCheck '1', proceeding 20⟩]

/-- The previous release has lost its directory. -/
theorem moved_branch_deletes_previous :
    ¬∀ invocations : List Invocation, Restorable (run invoke fresh invocations) := by
  intro always
  have kept := (always branchMovedBack
    ⟨String.ofList (List.replicate 40 '2'), some (String.ofList (List.replicate 40 '1')), none, [],
      ""⟩ (by decide +kernel)).2 (String.ofList (List.replicate 40 '1')) rfl
  obtain ⟨files, stored, -⟩ := kept
  have missing : (run invoke fresh branchMovedBack).files
      (String.ofList (List.replicate 40 '1')) = none := by decide +kernel
  rw [missing] at stored
  cases stored

/-- Two deployments, a failing third one and a rollback. -/
def deploymentsAndRollback : List Invocation :=
  [⟨sampleBootstrap, proceeding 60⟩, ⟨sampleCheck '1', proceeding 60⟩,
    ⟨sampleCheck '2', proceeding 60⟩, ⟨sampleCheck '3', proceeding 35⟩,
    ⟨sampleCheck '3', proceeding 60⟩, ⟨.rollback, proceeding 60⟩, ⟨.retry, proceeding 60⟩]

instance decidableSparesPrevious (host : Host) (invocation : Invocation) :
    Decidable (SparesPrevious host invocation) :=
  inferInstanceAs (Decidable (∀ state ∈ host.journal, ∀ target ∈ invocation.action.branch,
    state.pending = none → target ≠ state.current → target ∉ state.failed →
      state.previous ≠ some target))

theorem releases_restorable_deployments :
    Restorable (run invoke fresh deploymentsAndRollback) :=
  releases_restorable deploymentsAndRollback (by decide +kernel)

end Branches

end FinopsAnalytics.DeployReleases
