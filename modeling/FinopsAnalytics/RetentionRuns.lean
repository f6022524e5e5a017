import FinopsAnalytics.OpportunityCollection
import FinopsAnalytics.OpportunityLifecycle
import FinopsAnalytics.OpportunityRetention

/-!
# What a retention run archives

A run goes through its policies in order and drains each of them. What a policy
takes does not depend on the batches: archiving adds no unarchive event, and an
archived row is out of every query. So each policy takes the findings that it
matches and no earlier policy did.
-/

namespace FinopsAnalytics.RetentionRuns

open UniqueTables DistinctKeys OpportunityRecords OpportunityArchiving OpportunityCollection
  OpportunityLifecycle OpportunityRetention Fallible

/-- A finding that a run archives, with the policy that takes it. -/
abbrev Archived := Finding × RetentionPolicy

/-- The event of an archived finding. -/
def retentionEvent (service : OpportunityRetentionService) (now : Instant) (entry : Archived) :
    OpportunityArchiveHistory where
  opportunityId := entry.1.id
  action := .archive
  reason := .retentionPolicy
  changedBy := none
  collectionRunId := none
  occurredAt := now
  context := policyContext service entry.2 entry.1 ++ statusContext entry.1

/-- Whether an enabled policy matches a finding. -/
def takes (store : Store) (now : Instant) (policy : RetentionPolicy) (finding : Finding) : Bool :=
  policy.enabled && eligible store policy (cutoff policy now) finding

/-- The first enabled policy that matches a finding. -/
def attributed (service : OpportunityRetentionService) (store : Store) (now : Instant)
    (finding : Finding) : Option RetentionPolicy :=
  service.policies.find? fun policy => takes store now policy finding

/-- The counter of a policy. -/
def archivedFor (result : OpportunityRetentionResult) : PolicyKey → ℕ
  | .treatedRetention => result.archivedTreated
  | .rejectedRetention => result.archivedRejected
  | .resolvedExternalRetention => result.archivedResolvedExternally
  | .openRetention => result.archivedOpen

section Counters

theorem count_archivedTotal (result : OpportunityRetentionResult) (key : PolicyKey) :
    (result.count key).archivedTotal = result.archivedTotal + 1 := by
  cases key <;> rfl

theorem count_archivedFor (result : OpportunityRetentionResult) (key counted : PolicyKey) :
    archivedFor (result.count key) counted =
      archivedFor result counted + if key = counted then 1 else 0 := by
  cases key <;> cases counted <;> rfl

/-- The counters tell how many findings were archived, and how many for each policy. -/
structure Counts (base : OpportunityRetentionResult) (archived : List Archived)
    (result : OpportunityRetentionResult) : Prop where
  total : result.archivedTotal = base.archivedTotal + archived.length
  byPolicy : ∀ key, archivedFor result key =
    archivedFor base key + archived.countP fun entry => entry.2.key = key

theorem Counts.count {base result : OpportunityRetentionResult} {archived : List Archived}
    (counts : Counts base archived result) (finding : Finding) (policy : RetentionPolicy) :
    Counts base (archived ++ [(finding, policy)]) (result.count policy.key) := by
  refine ⟨?_, fun key => ?_⟩
  · rw [count_archivedTotal, counts.total, List.length_append]
    rfl
  · rw [count_archivedFor, counts.byPolicy key, List.countP_append, List.countP_singleton]
    simp [Nat.add_assoc]

theorem Counts.countBatch {base result : OpportunityRetentionResult} {archived : List Archived}
    (counts : Counts base archived result) : Counts base archived result.countBatch := by
  refine ⟨counts.total, fun key => ?_⟩
  have same : archivedFor result.countBatch key = archivedFor result key := by
    cases key <;> rfl
  rw [same, counts.byPolicy]

end Counters

/-- The state of a run that archived some findings since its start. -/
structure Archiving (service : OpportunityRetentionService) (now : Instant) (start : Store)
    (base : OpportunityRetentionResult) (archived : List Archived)
    (state : OpportunityRetentionResult × Store) : Prop where
  rows : state.2.findings.rows = start.findings.rows.map fun finding =>
    if finding ∈ archived.map Prod.fst then archivedByPolicy finding now else finding
  archiveHistory : state.2.archiveHistory =
    start.archiveHistory ++ archived.map (retentionEvent service now)
  frame : ∃ findings archiveHistory, state.2 = { start with findings, archiveHistory }
  members : ∀ entry ∈ archived, entry.1 ∈ start.findings.rows
  distinct : (archived.map Prod.fst).Nodup
  counts : Counts base archived state.1

section Run

variable {service : OpportunityRetentionService} {now : Instant} {start : Store}
  {base : OpportunityRetentionResult} {archived : List Archived}
  {state : OpportunityRetentionResult × Store}

theorem Archiving.initially (service : OpportunityRetentionService) (now : Instant) (start : Store)
    (base : OpportunityRetentionResult) : Archiving service now start base [] (base, start) :=
  ⟨by simp, by simp, ⟨_, _, rfl⟩, fun _ none => absurd none List.not_mem_nil, List.nodup_nil,
    rfl, fun _ => rfl⟩

/-- Archiving adds no unarchive event. -/
theorem Archiving.recentUnarchive (archiving : Archiving service now start base archived state)
    (limit : Instant) (finding : Finding) :
    recentUnarchive state.2 limit finding =
      OpportunityRetention.recentUnarchive start limit finding := by
  have none : (archived.map (retentionEvent service now)).any (fun event =>
      event.opportunityId = finding.id && event.action = .unarchive &&
        limit < event.occurredAt) = false := by
    rw [List.any_eq_false]
    intro event member
    obtain ⟨entry, -, rfl⟩ := List.mem_map.mp member
    simp [retentionEvent]
  unfold OpportunityRetention.recentUnarchive
  rw [archiving.archiveHistory, List.any_append, none, Bool.or_false]

/-- What a policy matches among the rows that are left does not change. -/
theorem Archiving.eligible (archiving : Archiving service now start base archived state)
    (policy : RetentionPolicy) (limit : Instant) (finding : Finding) :
    eligible state.2 policy limit finding =
      OpportunityRetention.eligible start policy limit finding := by
  unfold OpportunityRetention.eligible
  rw [archiving.recentUnarchive]

/-- A matched row is one of the start that was not archived since. -/
theorem Archiving.of_eligible (archiving : Archiving service now start base archived state)
    {policy : RetentionPolicy} {limit : Instant} {row : Finding}
    (member : row ∈ state.2.findings.rows)
    (matched : OpportunityRetention.eligible state.2 policy limit row = true) :
    row ∈ start.findings.rows ∧ row ∉ archived.map Prod.fst ∧
      OpportunityRetention.eligible start policy limit row = true := by
  rw [archiving.rows] at member
  obtain ⟨finding, findingMember, rfl⟩ := List.mem_map.mp member
  by_cases taken : finding ∈ archived.map Prod.fst
  · rw [if_pos taken] at matched
    simp [OpportunityRetention.eligible, archivedByPolicy] at matched
  · rw [if_neg taken] at matched ⊢
    exact ⟨findingMember, taken, archiving.eligible policy limit finding ▸ matched⟩

/-- A row of the start that was not archived is still there. -/
theorem Archiving.mem_rows (archiving : Archiving service now start base archived state)
    {finding : Finding} (member : finding ∈ start.findings.rows)
    (left : finding ∉ archived.map Prod.fst) : finding ∈ state.2.findings.rows := by
  rw [archiving.rows]
  exact List.mem_map.mpr ⟨finding, member, if_neg left⟩

variable [SystemClock]

/-- The pass over one row archives it. -/
theorem Archiving.archiveExpired (archiving : Archiving service now start base archived state)
    (policy : RetentionPolicy) {finding : Finding} (member : finding ∈ start.findings.rows)
    (left : finding ∉ archived.map Prod.fst) (active : finding.archivedAt = none) :
    Archiving service now start base (archived ++ [(finding, policy)])
      (archiveExpired service policy now state finding.id) := by
  have present := archiving.mem_rows member left
  have found : state.2.findings.find? finding.id = some finding :=
    Table.find?_eq_some.mpr ⟨present, rfl⟩
  have isArchived : OpportunityRetention.archiveExpired service policy now state finding.id =
      (state.1.count policy.key, { state.2.putFinding (archivedByPolicy finding now) with
        archiveHistory := state.2.archiveHistory ++
          [retentionEvent service now (finding, policy)] }) := by
    simp only [OpportunityRetention.archiveExpired, found, archiveRetentionLocked, active,
      Option.isSome_none, Bool.false_eq_true, if_false]
    rfl
  rw [isArchived]
  obtain ⟨findings, archiveHistory, frame⟩ := archiving.frame
  have sameId : finding.id = (archivedByPolicy finding now).id := rfl
  have sameFingerprint : finding.fingerprint = (archivedByPolicy finding now).fingerprint := rfl
  refine ⟨?_, ?_, ?_, ?_, ?_, archiving.counts.count finding policy⟩
  · dsimp only [Store.putFinding]
    rw [Table.rows_put_unique present sameId sameFingerprint, archiving.rows, List.map_map]
    apply List.map_congr_left
    intro other otherMember
    have listed : other ∈ (archived ++ [(finding, policy)]).map Prod.fst ↔
        other ∈ archived.map Prod.fst ∨ other = finding := by
      rw [List.map_append, List.mem_append]
      simp
    by_cases same : other = finding
    · subst same
      rw [if_pos (listed.mpr (Or.inr rfl)), Function.comp_apply, if_neg left]
      exact if_pos sameFingerprint
    · have apart : other.fingerprint ≠ (archivedByPolicy finding now).fingerprint :=
        fun sameUnique => same (start.findings.eq_of_unique otherMember member sameUnique)
      rw [Function.comp_apply]
      by_cases taken : other ∈ archived.map Prod.fst
      · rw [if_pos taken, if_pos (listed.mpr (Or.inl taken))]
        exact if_neg apart
      · rw [if_neg taken, if_neg fun either => (listed.mp either).elim taken same]
        exact if_neg apart
  · dsimp only
    rw [archiving.archiveHistory, List.map_append, List.append_assoc]
    rfl
  · rw [frame]
    exact ⟨_, _, rfl⟩
  · intro entry listed
    rcases List.mem_append.mp listed with old | new
    · exact archiving.members entry old
    · rw [List.mem_singleton.mp new]
      exact member
  · rw [List.map_append, List.nodup_append]
    refine ⟨archiving.distinct, List.nodup_singleton _, fun first firstMember second new => ?_⟩
    rintro rfl
    rw [List.mem_singleton.mp new] at firstMember
    exact left firstMember

omit [SystemClock] in
/-- A list of images of rows is the image of a list of rows. -/
theorem exists_map_eq {rows : List Finding} {ids : List String}
    (images : ∀ id ∈ ids, ∃ row ∈ rows, row.id = id) :
    ∃ batch : List Finding, batch.map Finding.id = ids ∧ ∀ row ∈ batch, row ∈ rows := by
  induction ids with
  | nil => exact ⟨[], rfl, fun _ none => absurd none List.not_mem_nil⟩
  | cons id rest inductionHypothesis =>
    obtain ⟨row, member, rfl⟩ := images id (List.mem_cons_self ..)
    obtain ⟨batch, rfl, members⟩ := inductionHypothesis
      fun other later => images other (List.mem_cons_of_mem _ later)
    exact ⟨row :: batch, rfl, List.forall_mem_cons.mpr ⟨member, members⟩⟩

omit [SystemClock] in
/-- A batch names matched findings of the start that were not archived since. -/
theorem Archiving.nextBatch (archiving : Archiving service now start base archived state)
    (policy : RetentionPolicy) :
    ∃ batch : List Finding, nextBatch service policy now state.2 = batch.map Finding.id ∧
      batch.Nodup ∧ ∀ finding ∈ batch, finding ∈ start.findings.rows ∧
        finding ∉ archived.map Prod.fst ∧
        OpportunityRetention.eligible start policy (cutoff policy now) finding = true := by
  have images : ∀ id ∈ OpportunityRetention.nextBatch service policy now state.2,
      ∃ row ∈ state.2.findings.rows.filter
        (OpportunityRetention.eligible state.2 policy (cutoff policy now)), row.id = id := by
    intro id member
    have listed := List.mem_of_mem_take member
    rw [mem_sortByKey] at listed
    exact List.mem_map.mp listed
  obtain ⟨batch, isBatch, members⟩ := exists_map_eq images
  refine ⟨batch, isBatch.symm, List.Nodup.of_map Finding.id ?_, fun finding listed => ?_⟩
  · rw [isBatch]
    refine List.Nodup.sublist (List.take_sublist ..) ?_
    rw [(sortByKey_perm _ _).nodup_iff]
    exact state.2.findings.distinctKeys.sublist (List.filter_sublist.map _)
  · obtain ⟨member, matched⟩ := List.mem_filter.mp (members finding listed)
    exact archiving.of_eligible member matched

omit [SystemClock] in
/-- An empty batch leaves nothing that the policy matches. -/
theorem Archiving.drained (archiving : Archiving service now start base archived state)
    {policy : RetentionPolicy} (positive : 1 ≤ service.batchSize)
    (empty : OpportunityRetention.nextBatch service policy now state.2 = []) {finding : Finding}
    (member : finding ∈ start.findings.rows)
    (matched : OpportunityRetention.eligible start policy (cutoff policy now) finding = true) :
    finding ∈ archived.map Prod.fst := by
  by_contra left
  have listed : finding.id ∈ sortByKey id ((state.2.findings.rows.filter
      (OpportunityRetention.eligible state.2 policy (cutoff policy now))).map Finding.id) := by
    rw [mem_sortByKey]
    refine List.mem_map_of_mem (List.mem_filter.mpr ⟨archiving.mem_rows member left, ?_⟩)
    rw [archiving.eligible, matched]
  rcases List.take_eq_nil_iff.mp empty with none | none
  · omega
  · rw [none] at listed
    exact absurd listed List.not_mem_nil

/-- A batch archives its findings. -/
theorem Archiving.batch (archiving : Archiving service now start base archived state)
    (policy : RetentionPolicy) {batch : List Finding} (distinct : batch.Nodup)
    (members : ∀ finding ∈ batch, finding ∈ start.findings.rows ∧
      finding ∉ archived.map Prod.fst ∧ finding.archivedAt = none) :
    Archiving service now start base (archived ++ batch.map fun finding => (finding, policy))
      ((batch.map Finding.id).foldl (OpportunityRetention.archiveExpired service policy now)
        state) := by
  induction batch generalizing archived state with
  | nil =>
    rw [List.map_nil, List.append_nil]
    exact archiving
  | cons finding rest inductionHypothesis =>
    obtain ⟨outside, restDistinct⟩ := List.nodup_cons.mp distinct
    obtain ⟨member, left, active⟩ := members finding (List.mem_cons_self ..)
    have first := archiving.archiveExpired policy member left active
    have later := inductionHypothesis first restDistinct fun other listed => by
      obtain ⟨otherMember, otherLeft, otherActive⟩ :=
        members other (List.mem_cons_of_mem _ listed)
      refine ⟨otherMember, fun taken => ?_, otherActive⟩
      rw [List.map_append, List.mem_append] at taken
      rcases taken with old | new
      · exact otherLeft old
      · rw [List.mem_singleton.mp new] at listed
        exact outside listed
    rw [List.append_assoc, List.singleton_append] at later
    exact later

end Run

section Drains

variable [SystemClock]

/-- The `while True` loop of `_archive_policy`: batch after batch, until a query finds
nothing. -/
inductive Drains (service : OpportunityRetentionService) (policy : RetentionPolicy)
    (now : Instant) : OpportunityRetentionResult × Store → OpportunityRetentionResult × Store → Prop
  | done {state : OpportunityRetentionResult × Store}
      (empty : nextBatch service policy now state.2 = []) : Drains service policy now state state
  | batch {state last : OpportunityRetentionResult × Store} {first : String} {rest : List String}
      (found : nextBatch service policy now state.2 = first :: rest)
      (later : Drains service policy now
        (((first :: rest).foldl (archiveExpired service policy now) state).1.countBatch,
          ((first :: rest).foldl (archiveExpired service policy now) state).2) last) :
      Drains service policy now state last

/-- The loop of `run` over its policies. -/
inductive DrainsAll (service : OpportunityRetentionService) (now : Instant) :
    List RetentionPolicy → OpportunityRetentionResult × Store →
      OpportunityRetentionResult × Store → Prop
  | done (state : OpportunityRetentionResult × Store) : DrainsAll service now [] state state
  | enabled {policy : RetentionPolicy} {rest : List RetentionPolicy}
      {state next last : OpportunityRetentionResult × Store} (enabled : policy.enabled = true)
      (first : Drains service policy now state next) (later : DrainsAll service now rest next last) :
      DrainsAll service now (policy :: rest) state last
  | disabled {policy : RetentionPolicy} {rest : List RetentionPolicy}
      {state last : OpportunityRetentionResult × Store} (disabled : policy.enabled = false)
      (later : DrainsAll service now rest state last) :
      DrainsAll service now (policy :: rest) state last

variable {service : OpportunityRetentionService} {now : Instant} {start : Store}
  {base : OpportunityRetentionResult}

variable {archived : List Archived} {state : OpportunityRetentionResult × Store}

omit [SystemClock] in
/-- No more findings are archived than there are. -/
theorem Archiving.length_le (archiving : Archiving service now start base archived state) :
    archived.length ≤ start.findings.rows.length := by
  rw [← List.length_map (f := Prod.fst)]
  refine (List.subperm_of_subset archiving.distinct fun finding member => ?_).length_le
  obtain ⟨entry, listed, rfl⟩ := List.mem_map.mp member
  exact archiving.members entry listed

/-- The batches of a policy end, since each archives a finding, and they take what the
policy matches of the findings that were left. -/
theorem drains_archivePolicy (policy : RetentionPolicy) (positive : 1 ≤ service.batchSize)
    {fuel : ℕ} (archiving : Archiving service now start base archived state)
    (enough : start.findings.rows.length < fuel + archived.length) :
    Drains service policy now state (archivePolicy service policy now fuel state) ∧
      ∃ taken : List Finding,
        Archiving service now start base (archived ++ taken.map fun finding => (finding, policy))
          (archivePolicy service policy now fuel state) ∧
        (∀ finding ∈ taken, eligible start policy (cutoff policy now) finding = true) ∧
        ∀ finding ∈ start.findings.rows,
          eligible start policy (cutoff policy now) finding = true →
          finding ∈ archived.map Prod.fst ∨ finding ∈ taken := by
  induction fuel generalizing archived state with
  | zero =>
    have := archiving.length_le
    omega
  | succ fuel inductionHypothesis =>
    unfold archivePolicy
    split
    · rename_i empty
      refine ⟨.done empty, [], ?_, fun _ none => absurd none List.not_mem_nil,
        fun finding member matched => Or.inl (archiving.drained positive empty member matched)⟩
      rw [List.map_nil, List.append_nil]
      exact archiving
    · rename_i first rest found
      obtain ⟨batch, isBatch, distinct, members⟩ := archiving.nextBatch policy
      have active : ∀ finding ∈ batch, finding ∈ start.findings.rows ∧
          finding ∉ archived.map Prod.fst ∧ finding.archivedAt = none := by
        intro finding listed
        obtain ⟨member, left, matched⟩ := members finding listed
        refine ⟨member, left, ?_⟩
        simp only [eligible, Bool.and_eq_true] at matched
        simpa using matched.1.1.1.1
      have archivedBatch := archiving.batch policy distinct active
      rw [← isBatch, found] at archivedBatch
      have batchNonempty : 0 < batch.length := by
        rw [← List.length_map (f := Finding.id), ← isBatch, found]
        exact Nat.succ_pos _
      have counted : Archiving service now start base
          (archived ++ batch.map fun finding => (finding, policy))
          (((first :: rest).foldl (archiveExpired service policy now) state).1.countBatch,
            ((first :: rest).foldl (archiveExpired service policy now) state).2) :=
        ⟨archivedBatch.rows, archivedBatch.archiveHistory, archivedBatch.frame,
          archivedBatch.members, archivedBatch.distinct, archivedBatch.counts.countBatch⟩
      obtain ⟨drains, taken, last, sound, complete⟩ := inductionHypothesis counted (by
        rw [List.length_append, List.length_map]
        omega)
      refine ⟨.batch found drains, batch ++ taken, ?_, fun finding listed => ?_,
        fun finding member matched => ?_⟩
      · rw [List.map_append, ← List.append_assoc]
        exact last
      · rcases List.mem_append.mp listed with inBatch | later
        · exact (members finding inBatch).2.2
        · exact sound finding later
      · rcases complete finding member matched with before | later
        · rw [List.map_append, List.mem_append] at before
          refine before.imp id fun inBatch => List.mem_append_left _ ?_
          simpa using inBatch
        · exact Or.inr (List.mem_append_right _ later)

/-- The policies take what they match in their order. -/
theorem drainsAll_foldl (positive : 1 ≤ service.batchSize) {done : List RetentionPolicy}
    (rest : List RetentionPolicy) (archiving : Archiving service now start base archived state)
    (attribution : ∀ finding policy, (finding, policy) ∈ archived ↔
      finding ∈ start.findings.rows ∧
        done.find? (fun policy => takes start now policy finding) = some policy) :
    DrainsAll service now rest state (rest.foldl (runPolicy service now) state) ∧
      ∃ all : List Archived,
        Archiving service now start base all (rest.foldl (runPolicy service now) state) ∧
        ∀ finding policy, (finding, policy) ∈ all ↔ finding ∈ start.findings.rows ∧
          (done ++ rest).find? (fun policy => takes start now policy finding) = some policy := by
  induction rest generalizing done archived state with
  | nil =>
    refine ⟨.done state, archived, archiving, ?_⟩
    rwa [List.append_nil]
  | cons policy rest inductionHypothesis =>
    rw [List.foldl_cons, runPolicy]
    have rebracket : done ++ policy :: rest = (done ++ [policy]) ++ rest := by simp
    rw [rebracket]
    cases enabled : policy.enabled with
    | false =>
      rw [if_neg (by decide)]
      have skipped : ∀ finding other, (finding, other) ∈ archived ↔
          finding ∈ start.findings.rows ∧ (done ++ [policy]).find?
            (fun policy => takes start now policy finding) = some other := by
        intro finding other
        rw [attribution, List.find?_append]
        simp [takes, enabled]
      obtain ⟨drains, later⟩ := inductionHypothesis archiving skipped
      exact ⟨.disabled enabled drains, later⟩
    | true =>
      rw [if_pos rfl]
      have sameLength : state.2.findings.rows.length = start.findings.rows.length := by
        rw [archiving.rows, List.length_map]
      have enough : start.findings.rows.length <
          state.2.findings.rows.length + 1 + archived.length := by omega
      obtain ⟨first, taken, drained, sound, complete⟩ :=
        drains_archivePolicy policy positive archiving enough
      have distinct := drained.distinct
      rw [List.map_append, List.nodup_append] at distinct
      have extended : ∀ finding other,
          (finding, other) ∈ archived ++ taken.map (fun finding => (finding, policy)) ↔
          finding ∈ start.findings.rows ∧ (done ++ [policy]).find?
            (fun policy => takes start now policy finding) = some other := by
        intro finding other
        rw [List.mem_append, attribution, List.find?_append]
        cases earlier : done.find? (fun policy => takes start now policy finding) with
        | some before =>
          rw [Option.some_or]
          refine ⟨fun either => either.elim id fun new => ?_, Or.inl⟩
          -- an earlier policy has taken the finding already
          obtain ⟨row, listed, same⟩ := List.mem_map.mp new
          cases same
          have member := drained.members _ (List.mem_append_right _ new)
          have old := (attribution finding before).mpr ⟨member, earlier⟩
          exact absurd rfl (distinct.2.2 finding (List.mem_map_of_mem old) finding
            (List.mem_map_of_mem new))
        | none =>
          rw [Option.none_or, List.find?_singleton]
          constructor
          · rintro (⟨-, none⟩ | new)
            · cases none
            · have member := drained.members _ (List.mem_append_right _ new)
              obtain ⟨row, listed, same⟩ := List.mem_map.mp new
              cases same
              exact ⟨member, by simp [takes, enabled, sound finding listed]⟩
          · rintro ⟨member, found⟩
            by_cases matched : takes start now policy finding = true
            · rw [if_pos matched] at found
              obtain rfl := Option.some.inj found
              simp only [takes, enabled, Bool.true_and] at matched
              rcases complete finding member matched with old | new
              · obtain ⟨⟨_, before⟩, listed, rfl⟩ := List.mem_map.mp old
                have := ((attribution _ before).mp listed).2
                rw [earlier] at this
                cases this
              · exact Or.inr (List.mem_map.mpr ⟨finding, new, rfl⟩)
            · rw [if_neg matched] at found
              cases found
      obtain ⟨drains, later⟩ := inductionHypothesis drained extended
      exact ⟨.enabled enabled first drains, later⟩

omit [SystemClock] in
/-- A service that was built has a batch size. -/
theorem positive_of_service {settings : RetentionSettings}
    {service : OpportunityRetentionService} (configured : settings.service = .ok service) :
    1 ≤ service.batchSize ∧ service.batchSize = settings.batchSize := by
  simp only [RetentionSettings.service, bind_eq_ok, forM_eq_ok] at configured
  obtain ⟨-, checked, result⟩ := configured
  cases result
  refine ⟨?_, rfl⟩
  have positive := checked ("batch_size", (settings.batchSize : ℤ)) (by simp)
  dsimp only at positive ⊢
  split at positive
  · cases positive
  · omega

end Drains

section Laws

variable [SystemClock] {settings : RetentionSettings} {service : OpportunityRetentionService}

/-- What a run of a service does: it drains its policies, and archives the findings
that are attributed to one, each with one event and one count for its policy. -/
structure Run (settings : RetentionSettings) (service : OpportunityRetentionService)
    (now : Instant) (store : Store) (archived : List Archived)
    (result : OpportunityRetentionResult) (after : Store) : Prop where
  accepted : run settings store (some now) = .ok (result, after)
  drains : DrainsAll service now service.policies (preflight service store now, store)
    (result, after)
  attribution : ∀ finding policy, (finding, policy) ∈ archived ↔
    finding ∈ store.findings.rows ∧ attributed service store now finding = some policy
  once : (archived.map Prod.fst).Nodup
  rows : after.findings.rows = store.findings.rows.map fun finding =>
    if (attributed service store now finding).isSome then archivedByPolicy finding now else finding
  frame : after = { store with
    findings := after.findings
    archiveHistory := store.archiveHistory ++ archived.map (retentionEvent service now) }
  total : result.archivedTotal = archived.length
  byPolicy : ∀ key, archivedFor result key = archived.countP fun entry => entry.2.key = key

/-- The batches end: each archives at least one of the rows that remain. -/
theorem exists_run (configured : settings.service = .ok service) (store : Store) (now : Instant) :
    ∃ archived result after, Run settings service now store archived result after := by
  obtain ⟨positive, -⟩ := positive_of_service configured
  have nothing : ∀ (finding : Finding) (policy : RetentionPolicy),
      (finding, policy) ∈ ([] : List Archived) ↔ finding ∈ store.findings.rows ∧
        [].find? (fun policy => takes store now policy finding) = some policy := by
    simp
  obtain ⟨drains, archived, archiving, attribution⟩ := drainsAll_foldl positive service.policies
    (Archiving.initially service now store (preflight service store now)) nothing
  have taken {finding : Finding} (member : finding ∈ store.findings.rows) :
      finding ∈ archived.map Prod.fst ↔ (attributed service store now finding).isSome := by
    rw [Option.isSome_iff_exists]
    constructor
    · intro listed
      obtain ⟨⟨_, policy⟩, entry, rfl⟩ := List.mem_map.mp listed
      exact ⟨policy, ((attribution _ policy).mp entry).2⟩
    · rintro ⟨policy, found⟩
      exact List.mem_map.mpr ⟨_, (attribution finding policy).mpr ⟨member, found⟩, rfl⟩
  obtain ⟨findings, archiveHistory, frame⟩ := archiving.frame
  refine ⟨archived, _, _, ?_, drains, attribution, archiving.distinct, ?_, ?_, ?_, fun key => ?_⟩
  · simp only [run, configured]
    rfl
  · rw [archiving.rows]
    apply List.map_congr_left
    intro finding member
    simp only [taken member]
  · rw [← archiving.archiveHistory, frame]
  · rw [archiving.counts.total]
    exact Nat.zero_add _
  · rw [archiving.counts.byPolicy]
    cases key <;> exact Nat.zero_add _

/-- After a run no policy matches a finding. -/
theorem Run.settled {now : Instant} {store after : Store} {archived : List Archived}
    {result : OpportunityRetentionResult}
    (finished : Run settings service now store archived result after) {next : Finding}
    (member : next ∈ after.findings.rows) : attributed service after now next = none := by
  have recent (policy : RetentionPolicy) (finding : Finding) :
      eligible after policy (cutoff policy now) finding =
        eligible store policy (cutoff policy now) finding := by
    have none : (archived.map (retentionEvent service now)).any (fun event =>
        event.opportunityId = finding.id && event.action = .unarchive &&
          cutoff policy now < event.occurredAt) = false := by
      rw [List.any_eq_false]
      intro event listed
      obtain ⟨entry, -, rfl⟩ := List.mem_map.mp listed
      simp [retentionEvent]
    unfold eligible recentUnarchive
    rw [finished.frame]
    dsimp only
    rw [List.any_append, none, Bool.or_false]
  rw [finished.rows] at member
  obtain ⟨finding, -, rfl⟩ := List.mem_map.mp member
  by_cases taken : (attributed service store now finding).isSome = true
  · rw [if_pos taken, attributed, List.find?_eq_none]
    intro policy _
    simp [takes, eligible, archivedByPolicy]
  · rw [if_neg taken]
    rw [Bool.not_eq_true, Option.isSome_eq_false_iff, Option.isNone_iff_eq_none] at taken
    rw [← taken]
    simp only [attributed, takes, recent]

/-- A second run at the same instant archives nothing. -/
theorem Run.repeated {now : Instant} {store after : Store} {archived : List Archived}
    {result : OpportunityRetentionResult}
    (finished : Run settings service now store archived result after)
    (configured : settings.service = .ok service) :
    ∃ again, run settings after (some now) = .ok (again, after) ∧ again.archivedTotal = 0 := by
  obtain ⟨none, again, last, second⟩ := exists_run configured after now
  have nothing : none = [] := by
    rw [List.eq_nil_iff_forall_not_mem]
    rintro ⟨finding, policy⟩ listed
    obtain ⟨member, found⟩ := (second.attribution finding policy).mp listed
    rw [finished.settled member] at found
    cases found
  have sameRows : last.findings.rows = after.findings.rows := by
    rw [second.rows]
    refine (List.map_congr_left fun finding member => ?_).trans (List.map_id _)
    simp [finished.settled member]
  have same : last = after := by
    rw [second.frame, Table.ext sameRows, nothing, List.map_nil, List.append_nil]
  refine ⟨again, ?_, ?_⟩
  · rw [second.accepted, same]
  · rw [second.total, nothing]
    rfl

omit [SystemClock] in
/-- The attribution does not see the batch size. -/
theorem attributed_batchSize {batchSize : ℕ} (large : 1 ≤ batchSize)
    (configured : settings.service = .ok service) :
    ∃ other, RetentionSettings.service { settings with batchSize } = .ok other ∧
      other.policies = service.policies := by
  simp only [RetentionSettings.service, bind_eq_ok, forM_eq_ok] at configured ⊢
  obtain ⟨-, checked, result⟩ := configured
  cases result
  refine ⟨_, ⟨⟨⟩, fun field listed => ?_, rfl⟩, rfl⟩
  by_cases isBatch : field = ("batch_size", (batchSize : ℤ))
  · rw [isBatch]
    dsimp only
    rw [if_neg (by omega)]
  · refine checked field ?_
    simp only [List.mem_cons, List.not_mem_nil, or_false, isBatch] at listed ⊢
    tauto

omit [SystemClock] in
/-- What a run takes needs no review, was not seen since its treatment while active,
and was not unarchived within the window of the policy. -/
theorem spared {store : Store} {now : Instant} {finding : Finding} {policy : RetentionPolicy}
    (taken : attributed service store now finding = some policy) :
    finding.archivedAt = none ∧ finding.needsReview = false ∧
      ¬(finding.status = .treated ∧ finding.presenceStatus = .active ∧
        seenAfterTreatment finding = true) ∧
      ∀ event ∈ store.archiveHistory, event.opportunityId = finding.id →
        event.action = .unarchive → event.occurredAt ≤ cutoff policy now := by
  have matched := List.find?_some taken
  simp only [takes, eligible, Bool.and_eq_true, Bool.not_eq_true', Option.isNone_iff_eq_none]
    at matched
  obtain ⟨-, ⟨⟨⟨unarchived, clear⟩, isExpired⟩, guarded⟩, settled⟩ := matched
  refine ⟨unarchived, clear, ?_, fun event listed same action => ?_⟩
  · rintro ⟨treated, active, seen⟩
    unfold expired at isExpired
    unfold treatedActivityGuard at guarded
    cases key : policy.key <;> simp [key, treated, active, seen] at isExpired guarded
  · have notRecent := List.any_eq_false.mp settled event listed
    simpa [same, action] using notRecent

/-- A run at an instant ends and archives exactly the unarchived findings that an
enabled policy matches, each once and for the first such policy; nothing else of a
finding changes. The batch size does not matter, and a second run at the instant
archives nothing. It spares what needs a review, what is active and was seen since its
treatment, and what was unarchived within the window of the policy. -/
theorem retention_run (configured : settings.service = .ok service) (store : Store)
    (now : Instant) :
    ∃ archived result after, Run settings service now store archived result after ∧
      (∀ batchSize, 1 ≤ batchSize → ∃ other otherAfter,
        run { settings with batchSize } store (some now) = .ok (other, otherAfter) ∧
          otherAfter.findings = after.findings) ∧
      (∃ again, run settings after (some now) = .ok (again, after) ∧ again.archivedTotal = 0) ∧
      ∀ entry ∈ archived, entry.1.archivedAt = none ∧ entry.1.needsReview = false ∧
        ¬(entry.1.status = .treated ∧ entry.1.presenceStatus = .active ∧
          seenAfterTreatment entry.1 = true) ∧
        ∀ event ∈ store.archiveHistory, event.opportunityId = entry.1.id →
          event.action = .unarchive → event.occurredAt ≤ cutoff entry.2 now := by
  obtain ⟨archived, result, after, finished⟩ := exists_run configured store now
  refine ⟨archived, result, after, finished, fun batchSize large => ?_,
    finished.repeated configured, fun entry listed => ?_⟩
  · obtain ⟨other, otherConfigured, samePolicies⟩ := attributed_batchSize large configured
    obtain ⟨otherArchived, otherResult, otherAfter, otherFinished⟩ := exists_run otherConfigured store now
    have sameAttribution : attributed other store now = attributed service store now := by
      funext finding
      rw [attributed, attributed, samePolicies]
    refine ⟨otherResult, otherAfter, otherFinished.accepted, Table.ext ?_⟩
    rw [otherFinished.rows, finished.rows, sameAttribution]
  · exact spared ((finished.attribution entry.1 entry.2).mp listed).2

end Laws

section Sample

attribute [local instance] countingClock

/-- Retention after one day of every status, two findings at a time. -/
def sampleSettings : RetentionSettings where
  treatedDays := 1
  rejectedDays := 1
  resolvedExternallyDays := 1
  openDays := 1
  treatedEnabled := true
  rejectedEnabled := true
  resolvedExternallyEnabled := true
  openEnabled := false
  batchSize := 2
  policyVersion := none

/-- The service of these settings. -/
def sampleService : OpportunityRetentionService where
  policies := [⟨.rejectedRetention, 1, true⟩, ⟨.treatedRetention, 1, true⟩,
    ⟨.resolvedExternalRetention, 1, true⟩, ⟨.openRetention, 1, false⟩]
  batchSize := 2
  policyVersion := none

/-- An active finding that was treated after it was last seen. -/
def treatedFinding : Finding :=
  treatedColumns sampleFinding 20 "ana" none

def treatedStore : Store :=
  { Store.empty with
    findings := ⟨[treatedFinding], List.nodup_singleton _, List.nodup_singleton _⟩ }

/-- A treated finding that is still active is archived where it was not seen since its
treatment. -/
theorem treated_active_archived :
    ¬∀ (settings : RetentionSettings) (store : Store) (now : Instant)
      (result : OpportunityRetentionResult) (after : Store),
      run settings store (some now) = .ok (result, after) →
      ∀ finding ∈ store.findings.rows, finding.status = .treated →
        finding.presenceStatus = .active → finding.archivedAt = none →
        finding ∈ after.findings.rows := by
  intro law
  have configured : sampleSettings.service = .ok sampleService := rfl
  obtain ⟨archived, result, after, finished⟩ := exists_run configured treatedStore (days 3)
  have kept := law sampleSettings treatedStore (days 3) result after finished.accepted
    treatedFinding (List.mem_singleton.mpr rfl) rfl rfl rfl
  rw [finished.rows] at kept
  exact absurd kept (by decide +kernel)

/-- The run over this finding. -/
theorem retention_run_treated :
    ∃ archived result after, Run sampleSettings sampleService (days 3) treatedStore archived
      result after ∧ result.archivedTotal = 1 := by
  have configured : sampleSettings.service = .ok sampleService := rfl
  obtain ⟨archived, result, after, finished, -⟩ := retention_run configured treatedStore (days 3)
  have total : (run sampleSettings treatedStore (some (days 3))).map
      (fun finished => finished.1.archivedTotal) = .ok 1 := by decide +kernel
  rw [finished.accepted] at total
  exact ⟨archived, result, after, finished, Except.ok.inj total⟩

end Sample

end FinopsAnalytics.RetentionRuns
