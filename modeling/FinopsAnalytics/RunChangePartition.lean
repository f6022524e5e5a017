import FinopsAnalytics.CollectionComparison
import FinopsAnalytics.OpportunityListing

/-!
# The classes of run changes

The comparison of a run with its baseline sorts the findings that either observed into
classes. The run-change conditions, the filters of the lists and the comparison of
collections read the same classes off different queries.
-/

namespace FinopsAnalytics.RunChangePartition

open PythonText UniqueTables OpportunityRecords OpportunityCollection OpportunityRunComparison
  CollectionComparison OpportunityListing Fallible

section Pages

universe u v
variable {α : Type u} {β : Type v}

/-- A join that yields each selected row once lists the selected rows. -/
theorem flatMap_map_eq_filter {rows : List α} {join : α → List β} {row : β → α}
    {selected : α → Bool}
    (once : ∀ item ∈ rows, (join item).map row = if selected item then [item] else []) :
    (rows.flatMap join).map row = rows.filter selected := by
  induction rows with
  | nil => rfl
  | cons item rest inductionHypothesis =>
    rw [List.flatMap_cons, List.map_append, once item (List.mem_cons_self ..),
      inductionHypothesis fun other member => once other (List.mem_cons_of_mem _ member),
      List.filter_cons]
    by_cases isSelected : selected item = true
    · rw [if_pos isSelected, if_pos isSelected]
      rfl
    · rw [if_neg isSelected, if_neg isSelected]
      rfl

/-- One more row comes onto the page when the rows before it reach the page but do not
fill it. -/
theorem page_append (rows : List α) (row : α) (start size : ℕ) :
    ((rows ++ [row]).drop start).take size =
      (rows.drop start).take size ++
        if start ≤ rows.length ∧ rows.length < start + size then [row] else [] := by
  by_cases reached : start ≤ rows.length
  · rw [List.drop_append_of_le_length reached]
    by_cases room : rows.length < start + size
    · rw [if_pos ⟨reached, room⟩, List.take_of_length_le (by simp; omega),
        List.take_of_length_le (by simp; omega)]
    · rw [if_neg fun held => room held.2, List.append_nil,
        List.take_append_of_le_length (by simp; omega)]
  · rw [if_neg fun held => reached held.1, List.append_nil,
      List.drop_eq_nil_of_le (by simp; omega), List.drop_eq_nil_of_le (by omega)]

end Pages

section Observations

/-- An observation of a finding by a run, if there is one, is the only one. -/
theorem observationsOf_cases (store : Store) (runId : String) (finding : Finding) :
    (observedIn store runId finding = false ∧ observationsOf store runId finding = []) ∨
      ∃ row, observedIn store runId finding = true ∧
        observationsOf store runId finding = [row] := by
  rcases shape : observationsOf store runId finding with _ | ⟨row, _ | ⟨other, rest⟩⟩
  · refine Or.inl ⟨?_, rfl⟩
    rw [observedIn, List.any_eq_false]
    intro row member isOf
    have listed : row ∈ observationsOf store runId finding :=
      List.mem_filter.mpr ⟨member, isOf⟩
    rw [shape] at listed
    cases listed
  · refine Or.inr ⟨row, ?_, rfl⟩
    have listed : row ∈ observationsOf store runId finding := by
      rw [shape]
      exact List.mem_cons_self ..
    obtain ⟨member, isOf⟩ := List.mem_filter.mp listed
    exact List.any_eq_true.mpr ⟨row, member, isOf⟩
  · have pairOf (one : OpportunityObservation)
        (listed : one ∈ observationsOf store runId finding) :
        one ∈ store.observations.rows ∧ one.pair = (finding.id, runId) := by
      obtain ⟨member, isOf⟩ := List.mem_filter.mp listed
      rw [Bool.and_eq_true, decide_eq_true_eq, decide_eq_true_eq] at isOf
      exact ⟨member, Prod.ext isOf.1 isOf.2⟩
    have first := pairOf row (by rw [shape]; exact List.mem_cons_self ..)
    have second := pairOf other (by
      rw [shape]
      exact List.mem_cons_of_mem _ (List.mem_cons_self ..))
    have same : row = other :=
      store.observations.eq_of_unique first.1 second.1 (first.2.trans second.2.symm)
    have distinct : (observationsOf store runId finding).Nodup :=
      store.observations.nodup_rows.filter _
    rw [shape, same] at distinct
    exact absurd (List.mem_cons_self ..) (List.nodup_cons.mp distinct).1

/-- The join of the findings with a run lists the observed ones. -/
theorem joinedRows_findings (store : Store) (runId : String) :
    (joinedRows store runId).map Prod.fst =
      (findingsById store).filter (observedIn store runId) := by
  refine flatMap_map_eq_filter fun finding _ => ?_
  rcases observationsOf_cases store runId finding with ⟨unobserved, none⟩ | ⟨row, observed, one⟩
  · rw [none, unobserved]
    rfl
  · rw [one, observed]
    rfl

/-- Every row of a join is of the findings that it selects. -/
theorem filter_joinedRows (store : Store) (runId : String) (selected : Finding → Bool) :
    ((joinedRows store runId).filter fun row => selected row.1).map Prod.fst =
      (findingsById store).filter fun finding =>
        observedIn store runId finding && selected finding := by
  have mapped : ((joinedRows store runId).filter fun row => selected row.1).map Prod.fst =
      ((joinedRows store runId).map Prod.fst).filter selected := by
    rw [List.filter_map]
    rfl
  rw [mapped, joinedRows_findings, List.filter_filter]
  exact List.filter_congr fun finding _ => Bool.and_comm ..

/-- The shared rows are those of the findings that both runs observed. -/
theorem sharedRows_findings (store : Store) (baselineId targetId : String) :
    (sharedRows store baselineId targetId).map SharedRow.finding =
      (findingsById store).filter fun finding =>
        observedIn store baselineId finding && observedIn store targetId finding := by
  refine flatMap_map_eq_filter fun finding _ => ?_
  rcases observationsOf_cases store baselineId finding with ⟨unobserved, none⟩ |
    ⟨before, observed, one⟩
  · rw [none, unobserved]
    rfl
  · rw [one, observed]
    rcases observationsOf_cases store targetId finding with ⟨unobserved, none⟩ |
      ⟨after, observed, one⟩
    · rw [none, unobserved]
      rfl
    · rw [one, observed]
      rfl

end Observations

section Loop

variable [EvidenceComparison]

/-- The shared rows of a category. -/
def rowsOfCategory (category : ComparisonCategory) (rows : List SharedRow) : List SharedRow :=
  rows.filter fun row => category = rowCategory row

/-- The entry of a shared row. -/
def sharedItem (category : ComparisonCategory) (row : SharedRow) : ComparisonItem :=
  ⟨category, row.finding, some row.before, some row.after⟩

/-- The loop counts the shared rows and the changed ones, and selects the page of those
of the category. -/
theorem sharedLoop_eq (category : ComparisonCategory) (start pageSize : ℕ)
    (rows : List SharedRow) :
    sharedLoop category start pageSize rows = {
      sharedTotal := rows.length
      changedTotal := rows.countP compareObservations
      selectedTotal := (rowsOfCategory category rows).length
      items := (((rowsOfCategory category rows).drop start).take pageSize).map
        (sharedItem category) } := by
  induction rows using List.reverseRecOn with
  | nil => simp [sharedLoop, rowsOfCategory]
  | append_singleton rows row inductionHypothesis =>
    unfold sharedLoop at inductionHypothesis ⊢
    rw [List.foldl_append, inductionHypothesis, List.foldl_cons, List.foldl_nil]
    have counted : (rows ++ [row]).countP compareObservations =
        rows.countP compareObservations + if compareObservations row then 1 else 0 := by
      rw [List.countP_append, List.countP_singleton]
    unfold sharedStep
    by_cases isOf : category = rowCategory row
    · have selected : rowsOfCategory category (rows ++ [row]) =
          rowsOfCategory category rows ++ [row] := by
        have kept : [row].filter (fun row => decide (category = rowCategory row)) = [row] := by
          simp [isOf]
        rw [rowsOfCategory, List.filter_append, kept]
        rfl
      rw [if_pos isOf, counted, selected, page_append, List.map_append]
      dsimp only
      by_cases onPage : start ≤ (rowsOfCategory category rows).length ∧
          (rowsOfCategory category rows).length < start + pageSize
      · rw [if_pos onPage, if_pos onPage]
        simp [sharedItem]
      · rw [if_neg onPage, if_neg onPage]
        simp
    · have selected : rowsOfCategory category (rows ++ [row]) = rowsOfCategory category rows := by
        have dropped : [row].filter (fun row => decide (category = rowCategory row)) = [] := by
          simp [isOf]
        rw [rowsOfCategory, List.filter_append, dropped, List.append_nil]
        rfl
      rw [if_neg isOf, counted, selected]
      simp

end Loop

section Baseline

variable [RunScopes]

/-- A previous comparable run is a successful run of the same account that started
earlier, of no other known scope. -/
theorem previousComparableRun_spec {store : Store} {target baseline : CollectionRun}
    (found : previousComparableRun store target = .ok (some baseline)) :
    target.status = .success ∧ baseline ∈ store.collectionRuns.rows ∧ baseline.id ≠ target.id ∧
      baseline.status = .success ∧ baseline.provider = target.provider ∧
      baseline.accountId = target.accountId ∧ baseline.startedAt < target.startedAt ∧
      RunScopes.differ baseline target = false := by
  simp only [previousComparableRun, compatibleBaselines, bind_eq_ok] at found
  obtain ⟨runs, ⟨valid, isValid, listed⟩, first⟩ := found
  cases listed
  have succeeded : target.status = .success := by
    unfold validateRun at isValid
    split at isValid
    · assumption
    · cases isValid
  have head := List.mem_of_mem_head? (Option.mem_def.mpr (Except.ok.inj first))
  obtain ⟨sorted, alike⟩ := List.mem_filter.mp (List.mem_of_mem_take head)
  have chosen := (List.mem_insertionSort _).mp sorted
  obtain ⟨member, matching⟩ := List.mem_filter.mp chosen
  simp only [Bool.and_eq_true, decide_eq_true_eq] at matching
  obtain ⟨⟨⟨⟨other, success⟩, provider⟩, account⟩, earlier⟩ := matching
  exact ⟨succeeded, member, other, success, provider, account, earlier, by simpa using alike⟩

/-- What a comparable context says of its runs. -/
theorem resolveRunContext_comparable {store : Store} {target baseline : CollectionRun}
    (resolved : resolveRunContext store target = .ok ⟨target, some baseline, true⟩) :
    target.detailedObservationsAvailable = true ∧
      baseline.detailedObservationsAvailable = true ∧
      previousComparableRun store target = .ok (some baseline) := by
  unfold resolveRunContext at resolved
  by_cases succeeded : target.status ≠ .success
  · rw [if_pos succeeded] at resolved
    cases resolved
  · rw [if_neg succeeded] at resolved
    by_cases detailed : target.detailedObservationsAvailable = true
    · rw [if_neg (not_not.mpr detailed)] at resolved
      obtain ⟨chosen, found, context⟩ := bind_eq_ok.mp resolved
      cases chosen with
      | none => cases context
      | some run =>
        dsimp only at context
        by_cases kept : run.detailedObservationsAvailable = true
        · rw [if_pos kept] at context
          cases context
          exact ⟨detailed, kept, found⟩
        · rw [if_neg kept] at context
          cases context
    · rw [if_pos detailed] at resolved
      cases resolved

variable [CaseMapping] [EvidenceComparison]

/-- Both ways to name the baseline of a comparable context lead to its comparison. -/
theorem compareCollectionRuns_eq {store : Store} {target baseline : CollectionRun}
    (resolved : resolveRunContext store target = .ok ⟨target, some baseline, true⟩)
    {named : Option CollectionRun} (names : named = none ∨ named = some baseline)
    (category : ComparisonCategory) (page pageSize : ℕ) :
    compareCollectionRuns store target named category page pageSize =
      .ok (comparedPage store baseline target category page pageSize) := by
  obtain ⟨detailed, baselineDetailed, found⟩ := resolveRunContext_comparable resolved
  obtain ⟨succeeded, -, other, success, provider, account, earlier, alike⟩ :=
    previousComparableRun_spec found
  have validTarget (role : String) : validateRun target role = .ok ⟨⟩ := if_pos succeeded
  have validBaseline (role : String) : validateRun baseline role = .ok ⟨⟩ := if_pos success
  have comparable : validateComparableRuns baseline target = .ok ⟨⟩ := by
    unfold validateComparableRuns
    rw [validTarget, validBaseline, if_neg other, provider, if_neg (not_not.mpr rfl), account,
      if_neg (not_not.mpr rfl), alike, if_neg Bool.false_ne_true, if_neg (not_le.mpr earlier)]
    rfl
  unfold compareCollectionRuns
  rw [validTarget]
  rcases names with rfl | rfl
  · rw [found]
    dsimp only
    rw [ok_bind, ok_bind]
    dsimp only
    rw [comparable, ok_bind, if_pos ⟨baselineDetailed, detailed⟩]
    rfl
  · dsimp only
    rw [ok_bind, ok_bind]
    dsimp only
    rw [comparable, ok_bind, if_pos ⟨baselineDetailed, detailed⟩]
    rfl

end Baseline

section Classes

variable (store : Store) (target baseline : CollectionRun)

/-- Whether the run-change condition of a class lists a finding, for a comparable
context. -/
def inClass (discoveryType : DiscoveryType) (finding : Finding) : Bool :=
  listed [⟨target, some baseline, true⟩] discoveryType store finding

variable {store target baseline}

/-- The classes in terms of the observations. -/
theorem inClass_eq (discoveryType : DiscoveryType) (finding : Finding) :
    inClass store target baseline discoveryType finding =
      match discoveryType with
      | .observed => observedIn store target.id finding
      | .firstSeen => observedIn store target.id finding &&
          finding.firstSeenCollectionRunId = some target.id
      | .newVsPrevious => observedIn store target.id finding && !observedIn store baseline.id finding
      | .reappeared => observedIn store target.id finding &&
          !observedIn store baseline.id finding && finding.firstSeenCollectionRunId.isSome &&
          finding.firstSeenCollectionRunId ≠ some target.id
      | .continued => observedIn store target.id finding && observedIn store baseline.id finding
      | .noLongerDetected => observedIn store baseline.id finding &&
          !observedIn store target.id finding && coveredByTarget store target finding := by
  unfold inClass listed comparisonCondition
  cases discoveryType <;> simp [classificationCondition]

/-- The filters of a list for a run, its baseline and a class. -/
def classFilters (target baseline : CollectionRun) (others : Selection)
    (discoveryType : DiscoveryType) : OpportunityListing.OpportunityFilters where
  collectionRunId := some target.id
  discoveryType := some discoveryType
  baselineCollectionRunId := some baseline.id
  comparisonAvailable := true
  others := others

/-- A list selects what the run-change condition lists, in every class that it knows. -/
theorem applyFilters_eq (targetNamed : target.id ≠ "") (baselineNamed : baseline.id ≠ "")
    (others : Selection) {discoveryType : DiscoveryType}
    (known : discoveryType ≠ .noLongerDetected) :
    ∃ selection, applyFilters (classFilters target baseline others discoveryType) = .ok selection ∧
      ∀ finding, selection store finding =
        (others store finding && inClass store target baseline discoveryType finding) := by
  have givenTarget : given (some target.id) = some target.id := if_neg targetNamed
  have givenBaseline : given (some baseline.id) = some baseline.id := if_neg baselineNamed
  unfold applyFilters applyDiscoveryFilter classFilters
  cases discoveryType with
  | noLongerDetected => exact absurd rfl known
  | observed =>
    simp only [givenTarget]
    exact ⟨_, rfl, fun finding => by simp [inClass_eq]⟩
  | firstSeen =>
    simp only [givenTarget]
    exact ⟨_, rfl, fun finding => by simp [inClass_eq, Bool.and_assoc]⟩
  | newVsPrevious =>
    simp only [givenTarget, givenBaseline]
    exact ⟨_, rfl, fun finding => by simp [inClass_eq, Bool.and_assoc]⟩
  | reappeared =>
    simp only [givenTarget, givenBaseline]
    exact ⟨_, rfl, fun finding => by simp [inClass_eq, Bool.and_assoc]⟩
  | continued =>
    simp only [givenTarget, givenBaseline]
    exact ⟨_, rfl, fun finding => by simp [inClass_eq, Bool.and_assoc]⟩

/-- A list has no class of what is no longer detected. -/
theorem applyFilters_refuses (targetNamed : target.id ≠ "") (baselineNamed : baseline.id ≠ "")
    (others : Selection) :
    applyFilters (classFilters target baseline others .noLongerDetected) =
      .error .unsupportedDiscoveryType := by
  have givenTarget : given (some target.id) = some target.id := if_neg targetNamed
  have givenBaseline : given (some baseline.id) = some baseline.id := if_neg baselineNamed
  unfold applyFilters applyDiscoveryFilter classFilters
  simp only [givenTarget, givenBaseline]
  rfl

variable [EvidenceComparison]

/-- Whether the observations of a finding by the two runs differ. -/
def changedBetween (store : Store) (baselineId targetId : String) (finding : Finding) : Bool :=
  (observationsOf store baselineId finding).any fun before =>
    (observationsOf store targetId finding).any fun after =>
      compareObservations ⟨finding, before, after⟩

/-- The findings of a category of the comparison. -/
def inCategory (store : Store) (target baseline : CollectionRun) (category : ComparisonCategory)
    (finding : Finding) : Bool :=
  match category with
  | .new => inClass store target baseline .newVsPrevious finding
  | .noLongerDetected =>
    observedIn store baseline.id finding && !observedIn store target.id finding
  | .persistent => inClass store target baseline .continued finding &&
      !changedBetween store baseline.id target.id finding
  | .changed => inClass store target baseline .continued finding &&
      changedBetween store baseline.id target.id finding

/-- The shared rows of a category are those of the findings that both runs observed,
with or without a change. -/
theorem rowsOfCategory_findings (category : ComparisonCategory) :
    (rowsOfCategory category (sharedRows store baseline.id target.id)).map SharedRow.finding =
      (findingsById store).filter fun finding =>
        decide (category = .persistent ∨ category = .changed) &&
          inCategory store target baseline category finding := by
  unfold rowsOfCategory sharedRows
  rw [List.filter_flatMap]
  refine flatMap_map_eq_filter fun finding _ => ?_
  rcases observationsOf_cases store baseline.id finding with ⟨before, none⟩ | ⟨before, seen, one⟩
  · have absent : inClass store target baseline .continued finding = false := by
      rw [inClass_eq, before, Bool.and_false]
    rw [none]
    cases category <;> simp [inCategory, absent]
  · rcases observationsOf_cases store target.id finding with ⟨after, none⟩ | ⟨after, sees, other⟩
    · have absent : inClass store target baseline .continued finding = false := by
        rw [inClass_eq, after]
        rfl
      rw [one, none]
      cases category <;> simp [inCategory, absent]
    · have present : inClass store target baseline .continued finding = true := by
        rw [inClass_eq, sees, seen]
        rfl
      have change : changedBetween store baseline.id target.id finding =
          compareObservations ⟨finding, before, after⟩ := by
        simp [changedBetween, one, other]
      rw [one, other]
      cases changed : compareObservations ⟨finding, before, after⟩ <;>
        cases category <;> simp [inCategory, present, change, changed, rowCategory]

omit [EvidenceComparison] in
/-- The findings without their order. -/
theorem countP_findingsById (selected : Finding → Bool) :
    (findingsById store).countP selected = store.findings.rows.countP selected :=
  (List.perm_insertionSort ..).countP_eq _

omit [EvidenceComparison] in
/-- A count of some is split by what else holds of them. -/
theorem countP_split (rows : List Finding) (first second : Finding → Bool) :
    rows.countP first = rows.countP (fun row => first row && second row) +
      rows.countP fun row => first row && !second row := by
  rw [List.countP_eq_countP_filter_add rows first second, List.countP_filter, List.countP_filter]

omit [EvidenceComparison] in
theorem length_joinedRows (runId : String) :
    (joinedRows store runId).length = store.findings.rows.countP (observedIn store runId) := by
  rw [← List.length_map (f := Prod.fst), joinedRows_findings, ← List.countP_eq_length_filter,
    countP_findingsById]

omit [EvidenceComparison] in
theorem length_sharedRows : (sharedRows store baseline.id target.id).length =
    store.findings.rows.countP fun finding =>
      observedIn store baseline.id finding && observedIn store target.id finding := by
  rw [← List.length_map (f := SharedRow.finding), sharedRows_findings,
    ← List.countP_eq_length_filter, countP_findingsById]

/-- The shared rows that changed are the findings of the category. -/
theorem countP_changed : (sharedRows store baseline.id target.id).countP compareObservations =
    store.findings.rows.countP (inCategory store target baseline .changed) := by
  have rows : (sharedRows store baseline.id target.id).countP compareObservations =
      (rowsOfCategory .changed (sharedRows store baseline.id target.id)).length := by
    rw [rowsOfCategory, ← List.countP_eq_length_filter]
    refine List.countP_congr fun row _ => ?_
    cases changed : compareObservations row <;> simp [rowCategory, changed]
  rw [rows, ← List.length_map (f := SharedRow.finding), rowsOfCategory_findings,
    ← List.countP_eq_length_filter, countP_findingsById]
  simp

/-- The counts of the comparison are those of its categories. -/
theorem comparedPage_counts (category : ComparisonCategory) (page pageSize : ℕ) :
    ∃ summary, (comparedPage store baseline target category page pageSize).summary = some summary ∧
      (comparedPage store baseline target category page pageSize).total = summary.count category ∧
      ∀ other, summary.count other =
        store.findings.rows.countP (inCategory store target baseline other) := by
  refine ⟨_, rfl, rfl, fun other => ?_⟩
  rw [sharedLoop_eq]
  dsimp only
  rw [length_joinedRows, length_joinedRows, length_sharedRows, countP_changed]
  have continued : store.findings.rows.countP (fun finding =>
        observedIn store baseline.id finding && observedIn store target.id finding) =
      store.findings.rows.countP (inCategory store target baseline .persistent) +
        store.findings.rows.countP (inCategory store target baseline .changed) := by
    have split := countP_split store.findings.rows
      (inClass store target baseline .continued) (changedBetween store baseline.id target.id)
    have both : store.findings.rows.countP (inClass store target baseline .continued) =
        store.findings.rows.countP fun finding =>
          observedIn store baseline.id finding && observedIn store target.id finding :=
      List.countP_congr fun finding _ => by
        rw [inClass_eq]
        dsimp only
        rw [Bool.and_comm]
    rw [← both, split, Nat.add_comm]
    rfl
  have seen := countP_split store.findings.rows (observedIn store baseline.id)
    (observedIn store target.id)
  have sees := countP_split store.findings.rows (observedIn store target.id)
    (observedIn store baseline.id)
  have swapped : store.findings.rows.countP (fun finding =>
        observedIn store target.id finding && observedIn store baseline.id finding) =
      store.findings.rows.countP fun finding =>
        observedIn store baseline.id finding && observedIn store target.id finding :=
    List.countP_congr fun finding _ => by rw [Bool.and_comm]
  have new : store.findings.rows.countP (inCategory store target baseline .new) =
      store.findings.rows.countP fun finding =>
        observedIn store target.id finding && !observedIn store baseline.id finding :=
    List.countP_congr fun finding _ => by rw [inCategory, inClass_eq]
  have gone : store.findings.rows.countP (inCategory store target baseline .noLongerDetected) =
      store.findings.rows.countP fun finding =>
        observedIn store baseline.id finding && !observedIn store target.id finding := rfl
  cases other with
  | new =>
    dsimp only [ComparisonSummary.count]
    omega
  | persistent =>
    dsimp only [ComparisonSummary.count]
    omega
  | noLongerDetected =>
    dsimp only [ComparisonSummary.count]
    omega
  | changed => rfl

/-- A page of the comparison lists a part of its category, in the order of the
identifiers. -/
theorem comparedPage_items (category : ComparisonCategory) (page pageSize : ℕ) :
    (comparedPage store baseline target category page pageSize).items.map ComparisonItem.finding =
      (((findingsById store).filter (inCategory store target baseline category)).drop
        ((page - 1) * pageSize)).take pageSize := by
  unfold comparedPage
  dsimp only
  rw [sharedLoop_eq, List.map_append, List.map_map]
  have shared : (((rowsOfCategory category (sharedRows store baseline.id target.id)).drop
        ((page - 1) * pageSize)).take pageSize).map
          (ComparisonItem.finding ∘ sharedItem category) =
      (((findingsById store).filter fun finding =>
        decide (category = .persistent ∨ category = .changed) &&
          inCategory store target baseline category finding).drop
            ((page - 1) * pageSize)).take pageSize := by
    rw [← rowsOfCategory_findings, ← List.map_drop, ← List.map_take]
    rfl
  have unshared (runId otherId : String)
      (item : Finding × OpportunityObservation → ComparisonItem)
      (ofRow : ∀ row, (item row).finding = row.1) :
      ((((unsharedRows store runId otherId).drop ((page - 1) * pageSize)).take pageSize).map
          item).map ComparisonItem.finding =
        (((findingsById store).filter fun finding =>
          observedIn store runId finding && !observedIn store otherId finding).drop
            ((page - 1) * pageSize)).take pageSize := by
    have row : ComparisonItem.finding ∘ item = Prod.fst := funext ofRow
    rw [List.map_map, row, List.map_take, List.map_drop, unsharedRows]
    congr 2
    exact filter_joinedRows store runId fun finding => !observedIn store otherId finding
  rw [shared]
  cases category with
  | persistent => simp
  | changed => simp
  | new =>
    rw [if_pos (Or.inl rfl), unshared _ _ _ fun _ => rfl]
    simp only [unsharedRuns, if_true]
    have class_ : inCategory store target baseline .new = fun finding =>
        observedIn store target.id finding && !observedIn store baseline.id finding := by
      funext finding
      rw [inCategory, inClass_eq]
    simp [class_]
  | noLongerDetected =>
    have class_ : inCategory store target baseline .noLongerDetected = fun finding =>
        observedIn store baseline.id finding && !observedIn store target.id finding := rfl
    rw [if_pos (Or.inr rfl), unshared _ _ _ fun _ => rfl]
    simp [unsharedRuns, class_]

end Classes

section Partition

variable [CaseMapping] [RunScopes] [EvidenceComparison]

/-- The classes of a comparable context, as the run-change conditions read them. -/
structure ClassesPartition (store : Store) (target baseline : CollectionRun) : Prop where
  observed (finding : Finding) : inClass store target baseline .observed finding =
    (inClass store target baseline .continued finding ||
      inClass store target baseline .newVsPrevious finding)
  disjoint (finding : Finding) : (inClass store target baseline .continued finding &&
    inClass store target baseline .newVsPrevious finding) = false
  reappeared (finding : Finding) : inClass store target baseline .reappeared finding = true →
    inClass store target baseline .newVsPrevious finding = true
  reappearedNotFirst (finding : Finding) :
    (inClass store target baseline .reappeared finding &&
      inClass store target baseline .firstSeen finding) = false
  goneNotObserved (finding : Finding) :
    (inClass store target baseline .noLongerDetected finding &&
      inClass store target baseline .observed finding) = false

/-- A list with the same run and baseline selects the findings of the class among those
that its other filters let through. -/
def ListAgrees (store : Store) (target baseline : CollectionRun)
    (discoveryType : DiscoveryType) : Prop :=
  ∀ others : Selection, ∃ selection,
    applyFilters (classFilters target baseline others discoveryType) = .ok selection ∧
      ∀ finding, selection store finding =
        (others store finding && inClass store target baseline discoveryType finding)

/-- The findings of the categories are those of the classes. -/
structure CategoriesAgree (store : Store) (target baseline : CollectionRun) : Prop where
  new (finding : Finding) : inCategory store target baseline .new finding =
    inClass store target baseline .newVsPrevious finding
  continued (finding : Finding) : inClass store target baseline .continued finding =
    (inCategory store target baseline .persistent finding ||
      inCategory store target baseline .changed finding)
  disjoint (finding : Finding) : (inCategory store target baseline .persistent finding &&
    inCategory store target baseline .changed finding) = false
  gone (finding : Finding) : inClass store target baseline .noLongerDetected finding = true →
    inCategory store target baseline .noLongerDetected finding = true

/-- A comparison counts its categories and lists a page of the chosen one. -/
structure PageAgrees (store : Store) (target baseline : CollectionRun)
    (shown : ComparisonPage) : Prop where
  available : shown.available = true ∧ shown.baseline = some baseline ∧ shown.target = target
  items : shown.items.map ComparisonItem.finding =
    (((findingsById store).filter (inCategory store target baseline shown.category)).drop
      ((shown.page - 1) * shown.pageSize)).take shown.pageSize
  counts : ∃ summary, shown.summary = some summary ∧
    shown.total = summary.count shown.category ∧
    ∀ category, summary.count category =
      store.findings.rows.countP (inCategory store target baseline category)

omit [CaseMapping] [RunScopes] [EvidenceComparison] in
/-- By cases on who observed the finding and on its coverage. -/
theorem classes_partition (store : Store) (target baseline : CollectionRun) :
    ClassesPartition store target baseline where
  observed finding := by
    simp only [inClass_eq]
    cases observedIn store target.id finding <;> cases observedIn store baseline.id finding <;> rfl
  disjoint finding := by
    simp only [inClass_eq]
    cases observedIn store target.id finding <;> cases observedIn store baseline.id finding <;> rfl
  reappeared finding reappeared := by
    simp only [inClass_eq, Bool.and_eq_true] at reappeared ⊢
    exact reappeared.1.1
  reappearedNotFirst finding := by
    simp only [inClass_eq]
    by_cases first : finding.firstSeenCollectionRunId = some target.id <;> simp [first]
  goneNotObserved finding := by
    simp only [inClass_eq]
    cases observedIn store target.id finding <;> simp

omit [CaseMapping] [RunScopes] in
/-- The categories of the comparison are the classes of the list. -/
theorem categories_agree (store : Store) (target baseline : CollectionRun) :
    CategoriesAgree store target baseline where
  new _ := rfl
  continued finding := by
    unfold inCategory
    dsimp only
    cases inClass store target baseline .continued finding <;>
      cases changedBetween store baseline.id target.id finding <;> rfl
  disjoint finding := by
    unfold inCategory
    dsimp only
    cases changedBetween store baseline.id target.id finding <;> simp
  gone finding gone := by
    rw [inClass_eq] at gone
    dsimp only at gone
    rw [Bool.and_eq_true] at gone
    exact gone.1

/-- The run-change conditions, the lists and the comparison agree on a target run and
its comparable baseline: the classes are a partition, a list selects each class that it
knows, and the categories of the comparison are the classes. -/
theorem classes_shared {store : Store} {target baseline : CollectionRun}
    (stored : target ∈ store.collectionRuns.rows)
    (named : ∀ run ∈ store.collectionRuns.rows, run.id ≠ "")
    (resolved : resolveRunContext store target = .ok ⟨target, some baseline, true⟩) :
    ClassesPartition store target baseline ∧
      (∀ discoveryType, discoveryType ≠ .noLongerDetected →
        ListAgrees store target baseline discoveryType) ∧
      (∀ others, applyFilters (classFilters target baseline others .noLongerDetected) =
        .error .unsupportedDiscoveryType) ∧
      CategoriesAgree store target baseline ∧
      ∀ chosen, chosen = none ∨ chosen = some baseline → ∀ category page pageSize,
        ∃ shown, compareCollectionRuns store target chosen category page pageSize = .ok shown ∧
          (shown.category, shown.page, shown.pageSize) = (category, page, pageSize) ∧
          PageAgrees store target baseline shown := by
  have baselineStored : baseline ∈ store.collectionRuns.rows :=
    (previousComparableRun_spec (resolveRunContext_comparable resolved).2.2).2.1
  have targetNamed := named target stored
  have baselineNamed := named baseline baselineStored
  refine ⟨classes_partition store target baseline, ?_, ?_, categories_agree store target baseline,
    ?_⟩
  · exact fun _ known others => applyFilters_eq targetNamed baselineNamed others known
  · exact fun others => applyFilters_refuses targetNamed baselineNamed others
  · intro chosen choices category page pageSize
    refine ⟨_, compareCollectionRuns_eq resolved choices category page pageSize, rfl, ?_⟩
    exact ⟨⟨rfl, rfl, rfl⟩, comparedPage_items category page pageSize,
      comparedPage_counts category page pageSize⟩

end Partition

section Sample

attribute [local instance] asciiCase

/-- All runs have one scope, and no evidence differs, for evaluation at concrete inputs. -/
abbrev oneScope : RunScopes where
  differ _ _ := false

abbrev sameEvidence : EvidenceComparison where
  changed _ _ _ := false

attribute [local instance] oneScope sameEvidence

/-- A successful run, for evaluation at concrete inputs. -/
def succeededRun (id : String) (startedAt : Instant) : CollectionRun :=
  { sampleRun id startedAt with status := .success }

/-- Two successful runs, the first of which observed a finding of the region that both
cover. -/
def sampleStore : Store :=
  { comparedStore "us-east-1" with
    collectionRuns := ⟨[succeededRun "run-1" 10, succeededRun "run-2" 20], by decide, by decide⟩ }

theorem sampleStore_resolved : resolveRunContext sampleStore (succeededRun "run-2" 20) =
    .ok ⟨succeededRun "run-2" 20, some (succeededRun "run-1" 10), true⟩ := by
  decide +kernel

/-- The finding is no longer detected. -/
theorem classes_shared_gone :
    inClass sampleStore (succeededRun "run-2" 20) (succeededRun "run-1" 10) .noLongerDetected
        sampleFinding = true ∧
      ClassesPartition sampleStore (succeededRun "run-2" 20) (succeededRun "run-1" 10) ∧
      CategoriesAgree sampleStore (succeededRun "run-2" 20) (succeededRun "run-1" 10) := by
  have stored : succeededRun "run-2" 20 ∈ sampleStore.collectionRuns.rows := by decide
  have named : ∀ run ∈ sampleStore.collectionRuns.rows, run.id ≠ "" := by decide
  have shared := classes_shared stored named sampleStore_resolved
  exact ⟨by decide, shared.1, shared.2.2.2.1⟩

/-- A list cannot select the findings that are no longer detected: it refuses the class,
although the context is comparable and the class has a finding. -/
theorem list_refuses_gone :
    resolveRunContext sampleStore (succeededRun "run-2" 20) =
        .ok ⟨succeededRun "run-2" 20, some (succeededRun "run-1" 10), true⟩ ∧
      sampleFinding ∈ sampleStore.findings.rows ∧
      inClass sampleStore (succeededRun "run-2" 20) (succeededRun "run-1" 10) .noLongerDetected
        sampleFinding = true ∧
      ¬ListAgrees sampleStore (succeededRun "run-2" 20) (succeededRun "run-1" 10)
        .noLongerDetected := by
  refine ⟨sampleStore_resolved, by decide, by decide, fun agrees => ?_⟩
  obtain ⟨selection, applied, -⟩ := agrees fun _ _ => true
  rw [applyFilters_refuses (by decide) (by decide)] at applied
  cases applied

end Sample

end FinopsAnalytics.RunChangePartition
