import FinopsAnalytics.OpportunityPresence

/-!
# What a count of absences rests on

The missing count of a finding is the number of absences counted since it was
last made present. Each was counted for another run, the runs start one strictly
after the other, and every one of them after the run that made it present.
-/

namespace FinopsAnalytics.PresenceHistories

open UniqueTables OpportunityRecords OpportunityReconciliation OpportunityCollection
  OpportunityFingerprint OpportunityPresence PythonText TransactionHistories

/-- A transition that concerns the presence of a finding. -/
def Touches (id : String) (transition : CollectionTransition) (run : CollectionRun) : Prop :=
  MadePresent id transition run ∨
    ∃ missingThreshold finding, CountedAbsence id transition run missingThreshold finding

/-- An operation that committed or was rolled back. -/
structure Lawful (transition : CollectionTransition) : Prop where
  presence : ∀ next ∈ transition.after.findings.rows, PresenceChange transition next
  frame : StepFrame transition.operation transition.before transition.after

theorem lawful_rolledBack (operation : CollectionOperation) (state : Store) :
    Lawful ⟨operation, state, state⟩ :=
  ⟨fun next member => .kept next member rfl rfl,
    fun finding member => ⟨finding, member, rfl⟩, fun run member => ⟨run, member, rfl, rfl⟩,
    fun row member => Or.inl ⟨row, member, rfl⟩⟩

theorem missed_missingCount (run : CollectionRun) (missingThreshold : ℕ) (finding : Finding) :
    (missed run missingThreshold finding).missingCount = finding.missingCount + 1 := by
  simp only [missed]
  split_ifs <;> rfl

theorem missed_reconciledAt (run : CollectionRun) (missingThreshold : ℕ) (finding : Finding) :
    (missed run missingThreshold finding).presenceReconciledAt = some run.startedAt := by
  simp only [missed]
  split_ifs <;> rfl

variable {run : CollectionRun} {missingThreshold : ℕ} {finding : Finding} {id : String}
  {transition : CollectionTransition}

/-- A missed finding is resolved exactly when its count reaches the threshold. -/
theorem missed_resolved
    (resolved : (missed run missingThreshold finding).presenceStatus = .resolvedExternally) :
    missingThreshold ≤ finding.missingCount + 1 := by
  by_contra below
  simp only [missed] at resolved
  rw [if_neg below] at resolved
  cases resolved

theorem missed_of_counted {finding next : Finding}
    (absence : CountedAbsence id transition run missingThreshold finding)
    (member : next ∈ transition.after.findings.rows) (sameId : next.id = id) :
    next = missed run missingThreshold finding := by
  apply transition.after.findings.eq_of_key member absence.result
  rw [sameId, ← absence.id_eq]
  exact (Finding.id_of_subject (missed_subject ..)).symm

theorem presence_of_made {next : Finding} (made : MadePresent next.id transition run)
    (member : next ∈ transition.after.findings.rows) : next.presence = observedPresence run := by
  obtain ⟨other, otherMember, sameId, present, -⟩ := made.result
  obtain rfl := transition.after.findings.eq_of_key otherMember member sameId
  exact present

/-- A transition that keeps the presence of a finding does not touch it. -/
theorem not_touches_of_kept {finding next : Finding}
    (member : finding ∈ transition.before.findings.rows)
    (nextMember : next ∈ transition.after.findings.rows) (sameId : finding.id = next.id)
    (kept : next.presence = finding.presence) (run : CollectionRun) :
    ¬Touches next.id transition run := by
  rintro (made | ⟨missingThreshold, origin, absence⟩)
  · obtain ⟨other, otherMember, otherId, -, changed⟩ := made.result
    obtain rfl := transition.after.findings.eq_of_key otherMember nextMember otherId
    exact changed finding member sameId kept.symm
  · obtain rfl := transition.before.findings.eq_of_key absence.member member
      (absence.id_eq.trans sameId.symm)
    have count : next.missingCount = origin.missingCount :=
      congrArg TechnicalPresence.missingCount kept
    rw [missed_of_counted absence nextMember rfl, missed_missingCount] at count
    omega

/-- One operation serves one run, and only one kind of change. -/
theorem not_made_of_counted {run other : CollectionRun}
    (absence : CountedAbsence id transition run missingThreshold finding) :
    ¬MadePresent id transition other := by
  rintro ⟨⟨scanId, collected, observedAt, persists⟩, -, -⟩
  obtain ⟨rows, reconciles⟩ := absence.reconciles
  rw [reconciles] at persists
  cases persists

theorem run_of_made {run other : CollectionRun} (made : MadePresent id transition run)
    (touched : Touches id transition other) : other = run := by
  obtain ⟨scanId, collected, observedAt, persists⟩ := made.persists
  rcases touched with otherMade | ⟨missingThreshold, finding, absence⟩
  · obtain ⟨_, _, _, otherPersists⟩ := otherMade.persists
    have sameId : run.id = other.id := by
      rw [persists] at otherPersists
      injection otherPersists
    have found := otherMade.known
    rw [← sameId, made.known] at found
    exact (Option.some.inj found).symm
  · exact absurd made (not_made_of_counted absence)

theorem run_of_counted {run other : CollectionRun}
    (absence : CountedAbsence id transition run missingThreshold finding)
    (touched : Touches id transition other) : other = run := by
  rcases touched with made | ⟨otherThreshold, origin, otherAbsence⟩
  · exact absurd made (not_made_of_counted absence)
  · obtain ⟨rows, reconciles⟩ := absence.reconciles
    obtain ⟨otherRows, otherReconciles⟩ := otherAbsence.reconciles
    have sameId : run.id = other.id := by
      rw [reconciles] at otherReconciles
      injection otherReconciles
    have found := otherAbsence.known
    rw [← sameId, absence.known] at found
    exact (Option.some.inj found).symm

/-- A counted absence with what it was counted for. -/
structure AbsenceRecord where
  transition : CollectionTransition
  run : CollectionRun
  missingThreshold : ℕ
  finding : Finding

/-- The absences of a finding counted in the later part of the past, in which it
was never made present. -/
structure Absences (id : String) (past : List CollectionTransition) (state : Store)
    (earlier later : List CollectionTransition) (absences : List AbsenceRecord) : Prop where
  split : past = earlier ++ later
  quiet : ∀ transition ∈ later, ∀ run, ¬MadePresent id transition run
  sublist : (absences.map (·.transition)).Sublist later
  counted : ∀ absence ∈ absences, CountedAbsence id absence.transition absence.run
    absence.missingThreshold absence.finding
  increasing : absences.Pairwise fun first second =>
    first.run.startedAt < second.run.startedAt ∧ first.run.id ≠ second.run.id
  sincePresent : ∀ transition ∈ earlier, ∀ run, MadePresent id transition run →
    ∀ absence ∈ absences, run.startedAt < absence.run.startedAt
  unobserved : ∀ absence ∈ absences, ∃ before after,
    past = before ++ absence.transition :: after ∧
      ((∀ transition ∈ after, ∀ scanId collected observedAt,
        transition.operation ≠ .persistFindings scanId absence.run.id collected observedAt) →
        ∀ row ∈ state.observations.rows,
          ¬(row.opportunityId = id ∧ row.collectionRunId = absence.run.id))

/-- The count of a finding is accounted for, and nothing that touched it is later
than its last reconciliation. -/
structure Accounted (past : List CollectionTransition) (state : Store) (finding : Finding) :
    Prop where
  absences : ∃ earlier later absences, Absences finding.id past state earlier later absences ∧
    finding.missingCount = absences.length ∧
    (finding.presenceStatus = .resolvedExternally → ∃ last, absences.getLast? = some last ∧
      last.missingThreshold ≤ absences.length)
  bounded : ∀ transition ∈ past, ∀ run, Touches finding.id transition run →
    ∃ reconciledAt, finding.presenceReconciledAt = some reconciledAt ∧
      run.startedAt ≤ reconciledAt

/-- The invariant of a history. -/
structure Evidence (past : List CollectionTransition) (state : Store) : Prop where
  accounted : ∀ finding ∈ state.findings.rows, Accounted past state finding
  knownFindings : ∀ transition ∈ past, ∀ finding ∈ transition.after.findings.rows,
    ∃ next ∈ state.findings.rows, next.id = finding.id
  knownRuns : ∀ transition ∈ past, ∀ run,
    transition.before.collectionRuns.find? run.id = some run →
    ∃ next ∈ state.collectionRuns.rows, next.id = run.id ∧ next.startedAt = run.startedAt
  distinct : past.Pairwise fun first second => ∀ id run other missingThreshold otherThreshold
    finding otherFinding, CountedAbsence id first run missingThreshold finding →
    CountedAbsence id second other otherThreshold otherFinding →
    run.startedAt < other.startedAt ∧ run.id ≠ other.id

/-- A finding that no absence was counted for. -/
def Uncounted (finding : Finding) : Prop :=
  finding.presenceStatus = .active ∧ finding.missingCount = 0

theorem evidence_initially {start : Store}
    (uncounted : ∀ finding ∈ start.findings.rows, Uncounted finding) : Evidence [] start := by
  refine ⟨fun finding member => ⟨⟨[], [], [], ?_, (uncounted finding member).2, ?_⟩, ?_⟩, ?_, ?_,
    List.Pairwise.nil⟩
  · constructor <;> simp
  · intro resolved
    rw [(uncounted finding member).1] at resolved
    cases resolved
  all_goals
    intro transition member
    cases member

/-- Nothing is counted right after a finding is made present or created. -/
theorem absences_restart (id : String) (past : List CollectionTransition) (state : Store) :
    Absences id past state past [] [] := by
  constructor <;> simp

section Extension

variable {id : String} {past earlier later : List CollectionTransition}
  {absences : List AbsenceRecord} {transition : CollectionTransition}

/-- A counted run stays unobserved through a transition that does not persist it. -/
theorem unobserved_extend (lawful : Lawful transition) {absence : AbsenceRecord}
    (unobserved : ∃ before after, past = before ++ absence.transition :: after ∧
      ((∀ other ∈ after, ∀ scanId collected observedAt,
        other.operation ≠ .persistFindings scanId absence.run.id collected observedAt) →
        ∀ row ∈ transition.before.observations.rows,
          ¬(row.opportunityId = id ∧ row.collectionRunId = absence.run.id))) :
    ∃ before after, past ++ [transition] = before ++ absence.transition :: after ∧
      ((∀ other ∈ after, ∀ scanId collected observedAt,
        other.operation ≠ .persistFindings scanId absence.run.id collected observedAt) →
        ∀ row ∈ transition.after.observations.rows,
          ¬(row.opportunityId = id ∧ row.collectionRunId = absence.run.id)) := by
  obtain ⟨before, after, rfl, none⟩ := unobserved
  refine ⟨before, after ++ [transition], by simp, fun untouched row member pair => ?_⟩
  rcases lawful.frame.observations row member with
    ⟨old, oldMember, same⟩ | ⟨scanId, collected, observedAt, persists⟩
  · refine none (fun other later => untouched other (List.mem_append_left _ later)) old oldMember ?_
    exact ⟨(congrArg Prod.fst same).trans pair.1, (congrArg Prod.snd same).trans pair.2⟩
  · rw [pair.2] at persists
    exact untouched transition (List.mem_append_right _ (List.mem_singleton.mpr rfl)) scanId
      collected observedAt persists

/-- A transition that does not touch the finding adds nothing. -/
theorem absences_extend (lawful : Lawful transition)
    (known : Absences id past transition.before earlier later absences)
    (quiet : ∀ run, ¬MadePresent id transition run) :
    Absences id (past ++ [transition]) transition.after earlier (later ++ [transition])
      absences where
  split := by rw [known.split, List.append_assoc]
  quiet := by
    intro other member
    rcases List.mem_append.mp member with old | new
    · exact known.quiet other old
    · rw [List.mem_singleton.mp new]
      exact quiet
  sublist := known.sublist.trans (List.sublist_append_left _ _)
  counted := known.counted
  increasing := known.increasing
  sincePresent := known.sincePresent
  unobserved := fun absence member => unobserved_extend lawful (known.unobserved absence member)

/-- A counted absence is one more record, of a later run. -/
theorem absences_count (lawful : Lawful transition)
    (known : Absences id past transition.before earlier later absences) {run : CollectionRun}
    {missingThreshold : ℕ} {finding : Finding}
    (absence : CountedAbsence id transition run missingThreshold finding)
    (later_run : ∀ other ∈ past, ∀ earlierRun, Touches id other earlierRun →
      earlierRun.startedAt < run.startedAt ∧ earlierRun.id ≠ run.id) :
    Absences id (past ++ [transition]) transition.after earlier (later ++ [transition])
      (absences ++ [⟨transition, run, missingThreshold, finding⟩]) := by
  have extended := absences_extend lawful known fun other => not_made_of_counted absence
  have old_touches {record : AbsenceRecord} (member : record ∈ absences) :
      record.transition ∈ past ∧ Touches id record.transition record.run := by
    refine ⟨?_, Or.inr ⟨_, _, known.counted record member⟩⟩
    rw [known.split]
    exact List.mem_append_right _
      (known.sublist.subset (List.mem_map_of_mem member))
  refine ⟨extended.split, extended.quiet, ?_, ?_, ?_, ?_, ?_⟩
  · rw [List.map_append]
    exact known.sublist.append (List.Sublist.refl _)
  · intro record member
    rcases List.mem_append.mp member with old | new
    · exact known.counted record old
    · rw [List.mem_singleton.mp new]
      exact absence
  · rw [List.pairwise_append]
    refine ⟨known.increasing, List.pairwise_singleton _ _, fun record member last lastMember => ?_⟩
    rw [List.mem_singleton.mp lastMember]
    obtain ⟨inPast, touches⟩ := old_touches member
    exact later_run _ inPast _ touches
  · intro other member madeRun made record recordMember
    rcases List.mem_append.mp recordMember with old | new
    · exact known.sincePresent other member madeRun made record old
    · rw [List.mem_singleton.mp new]
      refine (later_run other ?_ madeRun (Or.inl made)).1
      rw [known.split]
      exact List.mem_append_left _ member
  · intro record member
    rcases List.mem_append.mp member with old | new
    · exact extended.unobserved record old
    · rw [List.mem_singleton.mp new]
      refine ⟨past, [], by simp, fun _ row rowMember pair => ?_⟩
      -- a reconciliation adds no observation
      rcases lawful.frame.observations row rowMember with
        ⟨before, beforeMember, same⟩ | ⟨scanId, collected, observedAt, persists⟩
      · exact absence.unobserved before beforeMember
          ⟨(congrArg Prod.fst same).trans pair.1, (congrArg Prod.snd same).trans pair.2⟩
      · obtain ⟨rows, reconciles⟩ := absence.reconciles
        rw [reconciles] at persists
        cases persists

/-- A new count is for a run that starts after every run that touched the finding,
and for another run. -/
theorem run_later_of_touches (evidence : Evidence past transition.before)
    {run earlierRun : CollectionRun} {missingThreshold : ℕ} {finding : Finding}
    (absence : CountedAbsence id transition run missingThreshold finding)
    {other : CollectionTransition} (member : other ∈ past)
    (touches : Touches id other earlierRun) :
    earlierRun.startedAt < run.startedAt ∧ earlierRun.id ≠ run.id := by
  have accounted := evidence.accounted finding absence.member
  obtain ⟨reconciledAt, marked, bound⟩ :=
    accounted.bounded other member earlierRun (absence.id_eq.symm ▸ touches)
  have later := absence.afterReconciliation reconciledAt marked
  have order : earlierRun.startedAt < run.startedAt := bound.trans_lt later
  refine ⟨order, fun sameId => ?_⟩
  have found : other.before.collectionRuns.find? earlierRun.id = some earlierRun := by
    rcases touches with made | ⟨_, _, counted⟩
    · exact made.known
    · exact counted.known
  obtain ⟨stored, storedMember, storedId, storedStart⟩ :=
    evidence.knownRuns other member earlierRun found
  obtain rfl := transition.before.collectionRuns.eq_of_key storedMember
    (Table.find?_eq_some.mp absence.known).1 (storedId.trans sameId)
  exact absurd storedStart.symm order.ne

end Extension

theorem startedBeforeReconciliation_eq_false {run : CollectionRun} {finding : Finding}
    (recent : startedBeforeReconciliation run finding = false) {reconciledAt : Instant}
    (marked : finding.presenceReconciledAt = some reconciledAt) :
    reconciledAt ≤ run.startedAt := by
  simpa [startedBeforeReconciliation, marked] using recent

/-- The account of one finding after a transition. -/
theorem accounted_step {past : List CollectionTransition} {transition : CollectionTransition}
    (lawful : Lawful transition) (evidence : Evidence past transition.before) {next : Finding}
    (member : next ∈ transition.after.findings.rows) :
    Accounted (past ++ [transition]) transition.after next := by
  have both {holds : CollectionTransition → Prop} (old : ∀ other ∈ past, holds other)
      (new : holds transition) : ∀ other ∈ past ++ [transition], holds other := by
    intro other otherMember
    rcases List.mem_append.mp otherMember with earlier | last
    · exact old other earlier
    · rwa [List.mem_singleton.mp last]
  cases lawful.presence next member with
  | kept finding findingMember sameId presence =>
    obtain ⟨⟨earlier, later, absences, known, count, resolved⟩, bounded⟩ :=
      evidence.accounted finding findingMember
    have untouched := not_touches_of_kept findingMember member sameId presence
    have status : next.presenceStatus = finding.presenceStatus :=
      congrArg TechnicalPresence.status presence
    have sameCount : next.missingCount = finding.missingCount :=
      congrArg TechnicalPresence.missingCount presence
    have reconciledAt : next.presenceReconciledAt = finding.presenceReconciledAt :=
      congrArg TechnicalPresence.reconciledAt presence
    rw [sameId] at known bounded
    refine ⟨⟨earlier, later ++ [transition], absences, absences_extend lawful known
      fun run made => untouched run (Or.inl made), sameCount.trans count,
      fun isResolved => resolved (status.symm.trans isResolved)⟩, both ?_ ?_⟩
    · intro other otherMember run touches
      rw [reconciledAt]
      exact bounded other otherMember run touches
    · exact fun run touches => absurd touches (untouched run)
  | madePresent finding run findingMember sameId recent presence made =>
    have sameCount : next.missingCount = 0 := congrArg TechnicalPresence.missingCount presence
    have status : next.presenceStatus = .active := congrArg TechnicalPresence.status presence
    have reconciledAt : next.presenceReconciledAt = some run.startedAt :=
      congrArg TechnicalPresence.reconciledAt presence
    refine ⟨⟨past ++ [transition], [], [], absences_restart _ _ _, sameCount, ?_⟩, both ?_ ?_⟩
    · intro isResolved
      rw [status] at isResolved
      cases isResolved
    · intro other otherMember otherRun touches
      obtain ⟨instant, marked, bound⟩ := (evidence.accounted finding findingMember).bounded other
        otherMember otherRun (sameId.symm ▸ touches)
      exact ⟨_, reconciledAt, bound.trans (startedBeforeReconciliation_eq_false recent marked)⟩
    · intro otherRun touches
      exact ⟨_, reconciledAt, (run_of_made made touches) ▸ le_rfl⟩
  | created fresh active uncounted persists =>
    refine ⟨⟨past ++ [transition], [], [], absences_restart _ _ _, uncounted, ?_⟩, both ?_ ?_⟩
    · intro isResolved
      rw [show next.presenceStatus = .active from active] at isResolved
      cases isResolved
    · -- no earlier transition knew the finding
      intro other otherMember run touches
      obtain ⟨known, knownMember, knownId⟩ : ∃ known ∈ other.after.findings.rows,
          known.id = next.id := by
        rcases touches with made | ⟨missingThreshold, origin, absence⟩
        · obtain ⟨known, knownMember, knownId, -⟩ := made.result
          exact ⟨known, knownMember, knownId⟩
        · exact ⟨_, absence.result, (Finding.id_of_subject (missed_subject ..)).trans absence.id_eq⟩
      obtain ⟨stored, storedMember, storedId⟩ :=
        evidence.knownFindings other otherMember known knownMember
      exact absurd (storedId.trans knownId) (fresh stored storedMember)
    · intro run touches
      rcases touches with made | ⟨missingThreshold, origin, absence⟩
      · exact ⟨_, congrArg TechnicalPresence.reconciledAt (presence_of_made made member), le_rfl⟩
      · exact absurd absence.id_eq (fresh origin absence.member)
  | counted finding run missingThreshold absence isMissed =>
    obtain ⟨⟨earlier, later, absences, known, count, resolved⟩, bounded⟩ :=
      evidence.accounted finding absence.member
    rw [absence.id_eq] at known
    have laterRun : ∀ other ∈ past, ∀ earlierRun, Touches next.id other earlierRun →
        earlierRun.startedAt < run.startedAt ∧ earlierRun.id ≠ run.id :=
      fun other otherMember earlierRun touches =>
        run_later_of_touches evidence absence otherMember touches
    have reconciledAt : next.presenceReconciledAt = some run.startedAt :=
      isMissed ▸ missed_reconciledAt run missingThreshold finding
    refine ⟨⟨earlier, later ++ [transition], _, absences_count lawful known absence laterRun,
      ?_, ?_⟩, both ?_ ?_⟩
    · rw [isMissed, missed_missingCount, count, List.length_append, List.length_singleton]
    · intro isResolved
      rw [isMissed] at isResolved
      refine ⟨_, List.getLast?_concat .., ?_⟩
      rw [List.length_append, List.length_singleton, ← count]
      exact missed_resolved isResolved
    · exact fun other otherMember otherRun touches =>
        ⟨_, reconciledAt, (laterRun other otherMember otherRun touches).1.le⟩
    · exact fun otherRun touches => ⟨_, reconciledAt, (run_of_counted absence touches) ▸ le_rfl⟩

/-- One more transition keeps the evidence. -/
theorem evidence_step {past : List CollectionTransition} {transition : CollectionTransition}
    (lawful : Lawful transition) (evidence : Evidence past transition.before) :
    Evidence (past ++ [transition]) transition.after := by
  refine ⟨fun next member => accounted_step lawful evidence member, ?_, ?_, ?_⟩
  · intro other member finding findingMember
    rcases List.mem_append.mp member with old | new
    · obtain ⟨known, knownMember, knownId⟩ :=
        evidence.knownFindings other old finding findingMember
      obtain ⟨next, nextMember, nextId⟩ := lawful.frame.findings known knownMember
      exact ⟨next, nextMember, nextId.trans knownId⟩
    · rw [List.mem_singleton.mp new] at findingMember
      exact ⟨finding, findingMember, rfl⟩
  · intro other member run found
    rcases List.mem_append.mp member with old | new
    · obtain ⟨known, knownMember, knownId, knownStart⟩ := evidence.knownRuns other old run found
      obtain ⟨next, nextMember, nextId, nextStart⟩ := lawful.frame.runs known knownMember
      exact ⟨next, nextMember, nextId.trans knownId, nextStart.trans knownStart⟩
    · rw [List.mem_singleton.mp new] at found
      exact lawful.frame.runs run (Table.find?_eq_some.mp found).1
  · rw [List.pairwise_append]
    refine ⟨evidence.distinct, List.pairwise_singleton _ _, fun other member last lastMember => ?_⟩
    rw [List.mem_singleton.mp lastMember]
    intro id run laterRun missingThreshold otherThreshold finding otherFinding first second
    exact run_later_of_touches evidence second member (Or.inr ⟨_, _, first⟩)

section Histories

variable [CaseMapping] [Digest] [UuidSource] [SystemClock]

theorem lawful_committed {operation : CollectionOperation} {state after : Store}
    (committed : step operation state = .ok after) : Lawful ⟨operation, state, after⟩ :=
  ⟨fun _ member => step_presenceChange committed member, step_frame committed⟩

/-- The run lemma: every history has its evidence. -/
theorem evidence_history {start : Store}
    (uncounted : ∀ finding ∈ start.findings.rows, Uncounted finding)
    (operations : List CollectionOperation) :
    Evidence (history step start operations) (stateAfter step start operations) := by
  apply history_invariant Evidence operations (evidence_initially uncounted)
  · intro past state operation evidence
    exact evidence_step (lawful_rolledBack operation state) evidence
  · intro past state operation after evidence committed
    exact evidence_step (lawful_committed committed) evidence

theorem lawful_history {start : Store} {operations : List CollectionOperation}
    {transition : CollectionTransition} (member : transition ∈ history step start operations) :
    Lawful transition := by
  obtain ⟨operation, before, after⟩ := transition
  rcases mem_history member with same | committed
  · dsimp only at same
    subst same
    exact lawful_rolledBack operation after
  · exact lawful_committed committed

omit [CaseMapping] [Digest] [UuidSource] [SystemClock] in
/-- Only a counted absence raises a count, and by one. -/
theorem counted_of_raised {transition : CollectionTransition} (lawful : Lawful transition)
    {finding next : Finding} (member : finding ∈ transition.before.findings.rows)
    (nextMember : next ∈ transition.after.findings.rows) (sameId : next.id = finding.id)
    (raised : finding.missingCount < next.missingCount) :
    ∃ run missingThreshold, CountedAbsence finding.id transition run missingThreshold finding ∧
      next.missingCount = finding.missingCount + 1 := by
  cases lawful.presence next nextMember with
  | kept other otherMember otherId presence =>
    obtain rfl := transition.before.findings.eq_of_key otherMember member (otherId.trans sameId)
    have : next.missingCount = other.missingCount :=
      congrArg TechnicalPresence.missingCount presence
    omega
  | madePresent other run otherMember otherId recent presence made =>
    have : next.missingCount = 0 := congrArg TechnicalPresence.missingCount presence
    omega
  | created fresh active uncounted persists => exact absurd sameId.symm (fresh finding member)
  | counted other run missingThreshold absence isMissed =>
    obtain rfl := transition.before.findings.eq_of_key absence.member member
      (absence.id_eq.trans sameId)
    exact ⟨run, missingThreshold, sameId ▸ absence, isMissed ▸ missed_missingCount ..⟩

/-- The presence machine over every sequence of collection steps. A finding is
resolved only after at least the threshold of counted absences since it was last
made present, for distinct runs of increasing start that did not observe it. Only
counted absences raise a count, and no run is counted twice. A new latest
observation by a run that is not too old resets the finding. -/
theorem presence_machine {start : Store}
    (uncounted : ∀ finding ∈ start.findings.rows, Uncounted finding)
    (operations : List CollectionOperation) :
    (∀ finding ∈ (stateAfter step start operations).findings.rows,
      finding.presenceStatus = .resolvedExternally →
      ∃ earlier later absences last,
        Absences finding.id (history step start operations) (stateAfter step start operations)
          earlier later absences ∧
        absences.getLast? = some last ∧ last.missingThreshold ≤ absences.length) ∧
    (∀ transition ∈ history step start operations,
      ∀ finding ∈ transition.before.findings.rows, ∀ next ∈ transition.after.findings.rows,
      next.id = finding.id → finding.missingCount < next.missingCount →
      ∃ run missingThreshold, CountedAbsence finding.id transition run missingThreshold finding ∧
        next.missingCount = finding.missingCount + 1) ∧
    ((history step start operations).Pairwise fun first second => ∀ id run other missingThreshold
      otherThreshold finding otherFinding, CountedAbsence id first run missingThreshold finding →
      CountedAbsence id second other otherThreshold otherFinding →
      run.startedAt < other.startedAt ∧ run.id ≠ other.id) ∧
    ∀ transition ∈ history step start operations, ∀ scanId run collected observedAt,
      transition.operation = .persistFindings scanId run.id collected observedAt →
      step transition.operation transition.before = .ok transition.after →
      transition.before.collectionRuns.find? run.id = some run →
      ∀ finding ∈ transition.before.findings.rows, ∀ item ∈ collected,
      buildOpportunityFingerprint (item.identity run) = .ok finding.fingerprint →
      transition.before.observations.findUnique? (finding.id, run.id) = none →
      finding.lastSeenAt < observedAt →
      (∀ reconciledAt, finding.presenceReconciledAt = some reconciledAt →
        reconciledAt ≤ run.startedAt) →
      ∃ next ∈ transition.after.findings.rows, next.id = finding.id ∧
        next.presenceStatus = .active ∧ next.missingCount = 0 ∧ next.missingSinceAt = none ∧
        next.resolvedExternallyAt = none := by
  have evidence := evidence_history uncounted operations
  refine ⟨fun finding member resolved => ?_, ?_, evidence.distinct, ?_⟩
  · obtain ⟨⟨earlier, later, absences, known, count, threshold⟩, -⟩ :=
      evidence.accounted finding member
    obtain ⟨last, isLast, reached⟩ := threshold resolved
    exact ⟨earlier, later, absences, last, known, isLast, reached⟩
  · intro transition member finding findingMember next nextMember sameId raised
    exact counted_of_raised (lawful_history member) findingMember nextMember sameId raised
  · intro transition _ scanId run collected observedAt persists committed found finding member
      item collectedItem built unobserved later inTime
    have recent : startedBeforeReconciliation run finding = false := by
      unfold startedBeforeReconciliation
      split
      · rename_i reconciledAt marked
        simpa using inTime reconciledAt marked
      · rfl
    rw [persists] at committed
    simp only [step, Fallible.bind_eq_ok, findRun_eq_ok, found] at committed
    obtain ⟨_, same, ⟨count, last⟩, accepted, result⟩ := committed
    cases same
    cases result
    obtain ⟨next, nextMember, subject, presence⟩ := persistFindings_reactivates accepted member
      collectedItem built unobserved later recent
    exact ⟨next, nextMember, Finding.id_of_subject subject,
      congrArg TechnicalPresence.status presence,
      congrArg TechnicalPresence.missingCount presence,
      congrArg TechnicalPresence.missingSinceAt presence,
      congrArg TechnicalPresence.resolvedExternallyAt presence⟩

end Histories

section Sample

attribute [local instance] asciiCase plainDigest countingUuids countingClock

/-- A finding that the first run observed, and a success row of the second run. -/
def absentStore : Store :=
  { Store.empty with
    findings := .single sampleFinding
    collectionRuns := .single (sampleRun "run-2" 20)
    scopeExecutions := .single (sampleScope "run-2" "*") }

/-- With a threshold of one, one absence resolves the finding. -/
theorem presence_machine_resolves :
    (stateAfter step absentStore [.reconcile "run-2" [sampleScope "run-2" "*"] 1]).findings.rows =
        [missed (sampleRun "run-2" 20) 1 sampleFinding] ∧
      ∃ earlier later absences last,
        Absences "finding-1"
          (history step absentStore [.reconcile "run-2" [sampleScope "run-2" "*"] 1])
          (stateAfter step absentStore [.reconcile "run-2" [sampleScope "run-2" "*"] 1])
          earlier later absences ∧
        absences.getLast? = some last ∧ last.missingThreshold ≤ absences.length := by
  have uncounted : ∀ finding ∈ absentStore.findings.rows, Uncounted finding := by
    intro finding member
    rw [List.mem_singleton.mp member]
    exact ⟨rfl, rfl⟩
  refine ⟨by decide, ?_⟩
  exact (presence_machine uncounted [.reconcile "run-2" [sampleScope "run-2" "*"] 1]).1
    (missed (sampleRun "run-2" 20) 1 sampleFinding) (by decide) (by decide)

end Sample

end FinopsAnalytics.PresenceHistories
