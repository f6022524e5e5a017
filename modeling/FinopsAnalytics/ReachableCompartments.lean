import FinopsAnalytics.BreadthFirst
import FinopsAnalytics.OciDiscovery

/-!
# The compartments of a scope

A scope is resolved by listings of compartments: the tenancy with its subtree, and every
other root by a visit of its own. The branches share the list of compartments that are
resolved but not what is expanded, so that overlapping branches are listed again. On
finitely many compartments the listings that are made are determined before the first one
is answered; the scope is then a fold over their answers.
-/

namespace FinopsAnalytics.ReachableCompartments

open PythonText OpportunityRecords OciDiscovery BreadthFirst Fallible

section Answers

/-- The identifiers that an answer names. -/
def identifiers (items : List (Option String)) : List String :=
  items.filterMap fun item => if truthy item then item else none

variable {items : List (Option String)} {resolved : List String}

theorem mem_identifiers {id : String} : id ∈ identifiers items ↔ some id ∈ items ∧ id ≠ "" := by
  unfold identifiers
  rw [List.mem_filterMap]
  constructor
  · rintro ⟨item, member, named⟩
    by_cases present : truthy item = true
    · rw [if_pos present] at named
      subst named
      exact ⟨member, by simpa using present⟩
    · rw [if_neg present] at named
      cases named
  · rintro ⟨member, nonempty⟩
    exact ⟨some id, member, if_pos (by simpa using nonempty)⟩

theorem appendNewCompartments_cons (item : Option String) :
    appendNewCompartments (item :: items) resolved =
      appendNewCompartments items (appendNewCompartments [item] resolved) := rfl

/-- One more item names at most one new compartment. -/
theorem appendNewCompartments_single (item : Option String) :
    appendNewCompartments [item] resolved =
      resolved ++ (identifiers [item]).filter (· ∉ resolved) := by
  cases item with
  | none => simp [appendNewCompartments, identifiers]
  | some child =>
    by_cases present : truthy (some child) = true
    · by_cases known : child ∈ resolved
      · simp [appendNewCompartments, identifiers, known]
      · simp [appendNewCompartments, identifiers, present, known]
    · simp [appendNewCompartments, identifiers, present]

theorem mem_appendNewCompartments {id : String} :
    id ∈ appendNewCompartments items resolved ↔ id ∈ resolved ∨ id ∈ identifiers items := by
  induction items generalizing resolved with
  | nil => simp [appendNewCompartments, identifiers]
  | cons item rest inductionHypothesis =>
    rw [appendNewCompartments_cons, inductionHypothesis, appendNewCompartments_single]
    have split : id ∈ identifiers (item :: rest) ↔
        id ∈ identifiers [item] ∨ id ∈ identifiers rest := by
      simp only [mem_identifiers, List.mem_cons, List.not_mem_nil, or_false]
      tauto
    rw [split, List.mem_append, List.mem_filter]
    by_cases known : id ∈ resolved
    · simp [known]
    · simp [known]

theorem nodup_appendNewCompartments (distinct : resolved.Nodup) :
    (appendNewCompartments items resolved).Nodup := by
  induction items generalizing resolved with
  | nil => exact distinct
  | cons item rest inductionHypothesis =>
    rw [appendNewCompartments_cons]
    apply inductionHypothesis
    rw [appendNewCompartments_single]
    have single : (identifiers [item]).Nodup := by
      unfold identifiers
      rw [List.filterMap_cons, List.filterMap_nil]
      split
      · exact List.nodup_nil
      · exact List.nodup_singleton _
    refine distinct.append (single.filter _) fun id known new => ?_
    simpa [known] using (List.mem_filter.mp new).2

end Answers

section Calls

/-- A listing that ends the discovery. -/
def Fatal (listing : Listing (Option String)) : Prop :=
  ∃ failure, listing.failure = some failure ∧ failure.authenticationFatal = true

/-- A call of `list_compartments`: the compartment, and whether with its subtree. -/
abbrev ScopeCall := String × Bool

def answer (services : OciServices) (region : String) (call : ScopeCall) :
    Listing (Option String) := services.listCompartments region call.1 call.2

abbrev ScopeState := List String × Bool × Progress

/-- One listing taken in. -/
def takeListing (services : OciServices) (region : String) (state : ScopeState)
    (call : ScopeCall) : Attempt ScopeState := do
  let (items, ok, progress) ← paged state.2.2
    ⟨"identity_api", "list_compartments", some region, some call.1, none⟩
    (answer services region call)
  return (appendNewCompartments items state.1, state.2.1 && ok, progress)

variable {services : OciServices} {region : String} {call : ScopeCall} {calls : List ScopeCall}
variable {state reached : ScopeState}

theorem paged_fatal {progress : Progress} {described : Call} {listing : Listing (Option String)}
    (fatal : Fatal listing) : ∃ errors, paged progress described listing = .error errors := by
  obtain ⟨failure, failed, authentication⟩ := fatal
  refine ⟨progress.errors ++ [issueOf described failure], ?_⟩
  unfold paged
  rw [failed]
  dsimp only
  rw [if_pos authentication]

/-- A listing that is not fatal gives its items, and is complete if it did not fail. -/
theorem paged_not_fatal {progress : Progress} {described : Call}
    {listing : Listing (Option String)} (survives : ¬Fatal listing) :
    ∃ next, paged progress described listing =
      .ok (listing.items, listing.failure.isNone, next) := by
  unfold paged
  cases failed : listing.failure with
  | none => exact ⟨progress, rfl⟩
  | some failure =>
    have survivable : ¬failure.authenticationFatal = true := fun authentication =>
      survives ⟨failure, failed, authentication⟩
    dsimp only
    rw [if_neg survivable]
    exact ⟨_, rfl⟩

theorem takeListing_fatal (fatal : Fatal (answer services region call)) :
    ∃ errors, takeListing services region state call = .error errors := by
  obtain ⟨errors, raised⟩ := @paged_fatal state.2.2
    ⟨"identity_api", "list_compartments", some region, some call.1, none⟩ _ fatal
  refine ⟨errors, ?_⟩
  unfold takeListing
  rw [raised]
  rfl

theorem takeListing_not_fatal (survives : ¬Fatal (answer services region call)) :
    ∃ next, takeListing services region state call =
      .ok (appendNewCompartments (answer services region call).items state.1,
        state.2.1 && (answer services region call).failure.isNone, next) := by
  obtain ⟨next, taken⟩ := @paged_not_fatal state.2.2
    ⟨"identity_api", "list_compartments", some region, some call.1, none⟩ _ survives
  refine ⟨next, ?_⟩
  unfold takeListing
  rw [taken]
  rfl

/-- A fatal listing among the calls ends the fold. -/
theorem takeListings_fatal (fatal : ∃ call ∈ calls, Fatal (answer services region call)) :
    ∃ errors, calls.foldlM (takeListing services region) state = .error errors := by
  induction calls generalizing state with
  | nil =>
    obtain ⟨call, member, -⟩ := fatal
    cases member
  | cons call rest inductionHypothesis =>
    rw [List.foldlM_cons]
    by_cases first : Fatal (answer services region call)
    · obtain ⟨errors, raised⟩ := @takeListing_fatal services region call state first
      exact ⟨errors, by rw [raised]; rfl⟩
    · obtain ⟨next, taken⟩ := @takeListing_not_fatal services region call state first
      rw [taken, ok_bind]
      apply inductionHypothesis
      obtain ⟨other, member, isFatal⟩ := fatal
      rcases List.mem_cons.mp member with rfl | inRest
      · exact absurd isFatal first
      · exact ⟨other, inRest, isFatal⟩

/-- Otherwise the fold gathers what the answers name. -/
theorem takeListings_not_fatal (survives : ∀ call ∈ calls, ¬Fatal (answer services region call)) :
    ∃ reached : ScopeState, calls.foldlM (takeListing services region) state = .ok reached ∧
      (state.1.Nodup → reached.1.Nodup) ∧
      (∀ id, id ∈ reached.1 ↔ id ∈ state.1 ∨
        ∃ call ∈ calls, id ∈ identifiers (answer services region call).items) ∧
      (reached.2.1 = true ↔ state.2.1 = true ∧
        ∀ call ∈ calls, (answer services region call).failure = none) := by
  induction calls generalizing state with
  | nil => exact ⟨state, rfl, id, by simp, by simp⟩
  | cons call rest inductionHypothesis =>
    obtain ⟨next, taken⟩ := @takeListing_not_fatal services region call state
      (survives call (List.mem_cons_self ..))
    obtain ⟨reached, ran, distinct, members, complete⟩ := @inductionHypothesis
      (appendNewCompartments (answer services region call).items state.1,
        state.2.1 && (answer services region call).failure.isNone, next)
      (fun other member => survives other (List.mem_cons_of_mem _ member))
    refine ⟨reached, ?_, fun before => distinct (nodup_appendNewCompartments before), ?_, ?_⟩
    · rw [List.foldlM_cons, taken, ok_bind, ran]
    · intro id
      rw [members, mem_appendNewCompartments]
      simp only [List.mem_cons, exists_eq_or_imp]
      tauto
    · rw [complete]
      simp only [List.forall_mem_cons, Bool.and_eq_true, Option.isNone_iff_eq_none]
      tauto

end Calls

section Branches

/-- The compartments that the listing of a compartment names. -/
def children (services : OciServices) (region parent : String) : List String :=
  identifiers (answer services region (parent, false)).items

variable {services : OciServices} {region : String} {fuel : ℕ}

/-- A branch is expanded by the listings of its visit. -/
theorem expandBranch_eq {queue expanded order : List String} {state : ScopeState}
    (visited : visit (children services region) fuel queue expanded = some order) :
    expandBranch services region fuel queue expanded state.1 state.2.1 state.2.2 =
      (order.map (·, false)).foldlM (takeListing services region) state >>= fun reached =>
        .ok (some reached) := by
  induction fuel generalizing queue expanded order state with
  | zero => cases visited
  | succ fuel inductionHypothesis =>
    cases queue with
    | nil =>
      obtain rfl : [] = order := Option.some.inj visited
      rfl
    | cons parent queue =>
      rw [expandBranch]
      rcases visit_cons visited with ⟨known, later⟩ | ⟨unknown, rest, rfl, later⟩
      · rw [if_pos known]
        exact inductionHypothesis later
      · rw [if_neg unknown, List.map_cons, List.foldlM_cons]
        by_cases fatal : Fatal (answer services region (parent, false))
        · obtain ⟨errors, raised⟩ := @paged_fatal state.2.2
            ⟨"identity_api", "list_compartments", some region, some parent, none⟩ _ fatal
          unfold takeListing
          dsimp only [answer] at raised ⊢
          rw [raised]
          rfl
        · obtain ⟨next, taken⟩ := @paged_not_fatal state.2.2
            ⟨"identity_api", "list_compartments", some region, some parent, none⟩ _ fatal
          unfold takeListing
          dsimp only [answer] at taken ⊢
          rw [taken]
          exact @inductionHypothesis _ _ _ (appendNewCompartments
            (services.listCompartments region parent false).items state.1,
            state.2.1 && (services.listCompartments region parent false).failure.isNone, next) later

variable {snapshot : OciConnectionSnapshot} {order : String → List String}

/-- The listings for a root. -/
def rootCalls (snapshot : OciConnectionSnapshot) (order : String → List String) (root : String) :
    List ScopeCall :=
  if root = snapshot.tenancyOcid then [(root, true)] else (order root).map (·, false)

theorem expandRoot_eq {root : String} {state : ScopeState}
    (visited : root ≠ snapshot.tenancyOcid →
      visit (children services region) fuel [root] [] = some (order root)) :
    expandRoot services snapshot region fuel (some state) root =
      (rootCalls snapshot order root).foldlM (takeListing services region) state >>=
        fun reached => .ok (some reached) := by
  unfold expandRoot rootCalls
  dsimp only
  by_cases isTenancy : root = snapshot.tenancyOcid
  · rw [if_pos isTenancy, if_pos isTenancy, List.foldlM_cons]
    unfold takeListing
    dsimp only [answer]
    cases paged state.2.2 ⟨"identity_api", "list_compartments", some region, some root, none⟩
      (services.listCompartments region root true) <;> rfl
  · rw [if_neg isTenancy, if_neg isTenancy]
    exact expandBranch_eq (visited isTenancy)

/-- All roots are expanded by their listings, one after another. -/
theorem expandRoots_eq {roots : List String} {state : ScopeState}
    (visited : ∀ root ∈ roots, root ≠ snapshot.tenancyOcid →
      visit (children services region) fuel [root] [] = some (order root)) :
    roots.foldlM (expandRoot services snapshot region fuel) (some state) =
      (roots.flatMap (rootCalls snapshot order)).foldlM (takeListing services region) state >>=
        fun reached => .ok (some reached) := by
  induction roots generalizing state with
  | nil => rfl
  | cons root rest inductionHypothesis =>
    rw [List.foldlM_cons, expandRoot_eq (visited root (List.mem_cons_self ..)),
      List.flatMap_cons, List.foldlM_append, bind_assoc, bind_assoc]
    congr 1
    funext reached
    rw [ok_bind]
    exact inductionHypothesis fun other member => visited other (List.mem_cons_of_mem _ member)

end Branches

section Scope

variable {services : OciServices} {snapshot : OciConnectionSnapshot} {region : String}

/-- The listings that a scope asks for: the tenancy with its subtree if it is a root, and
each compartment that is reachable from another root. -/
def Asked (services : OciServices) (snapshot : OciConnectionSnapshot) (region : String)
    (call : ScopeCall) : Prop :=
  snapshot.tenancyOcid ∈ rootCompartments snapshot ∧ call = (snapshot.tenancyOcid, true) ∨
    ∃ root ∈ rootCompartments snapshot, root ≠ snapshot.tenancyOcid ∧
      ∃ compartment, Reaches (children services region) root compartment ∧
        call = (compartment, false)

/-- The calls of the visits are those that are asked for. -/
theorem mem_rootCalls {fuel : ℕ} {order : String → List String}
    (visited : ∀ root ∈ rootCompartments snapshot, root ≠ snapshot.tenancyOcid →
      visit (children services region) fuel [root] [] = some (order root)) (call : ScopeCall) :
    call ∈ (rootCompartments snapshot).flatMap (rootCalls snapshot order) ↔
      Asked services snapshot region call := by
  rw [List.mem_flatMap]
  constructor
  · rintro ⟨root, isRoot, member⟩
    unfold rootCalls at member
    by_cases isTenancy : root = snapshot.tenancyOcid
    · rw [if_pos isTenancy, List.mem_singleton] at member
      subst isTenancy
      exact Or.inl ⟨isRoot, member⟩
    · rw [if_neg isTenancy] at member
      obtain ⟨compartment, expanded, rfl⟩ := List.mem_map.mp member
      obtain ⟨entry, isEntry, reaches⟩ :=
        (mem_visit (visited root isRoot isTenancy) compartment).mp expanded
      obtain rfl := List.mem_singleton.mp isEntry
      exact Or.inr ⟨entry, isRoot, isTenancy, compartment, reaches, rfl⟩
  · rintro (⟨isRoot, rfl⟩ | ⟨root, isRoot, notTenancy, compartment, reaches, rfl⟩)
    · refine ⟨snapshot.tenancyOcid, isRoot, ?_⟩
      unfold rootCalls
      rw [if_pos rfl]
      exact List.mem_singleton.mpr rfl
    · refine ⟨root, isRoot, ?_⟩
      unfold rootCalls
      rw [if_neg notTenancy]
      have expanded := (mem_visit (visited root isRoot notTenancy) compartment).mpr
        ⟨root, List.mem_singleton.mpr rfl, reaches⟩
      exact List.mem_map_of_mem expanded

theorem nodup_rootCompartments : (rootCompartments snapshot).Nodup := by
  unfold rootCompartments
  dsimp only
  split_ifs with appended
  · rw [Bool.and_eq_true] at appended
    refine (DistinctKeys.nodup_eraseDups _).append (List.nodup_singleton _) fun id named single => ?_
    obtain rfl := List.mem_singleton.mp single
    exact of_decide_eq_true appended.2 named
  · exact DistinctKeys.nodup_eraseDups _

theorem mem_rootCompartments {id : String} : id ∈ rootCompartments snapshot ↔
    id ∈ snapshot.compartmentOcids ∧ id ≠ "" ∨
      snapshot.includeRootCompartment = true ∧ id = snapshot.tenancyOcid := by
  unfold rootCompartments
  dsimp only
  split_ifs with appended
  · rw [Bool.and_eq_true] at appended
    simp [List.mem_eraseDups, appended.1]
  · rw [Bool.and_eq_true, decide_eq_true_eq, not_and_not_right] at appended
    simp only [List.mem_eraseDups, List.mem_filter, decide_eq_true_eq] at appended ⊢
    constructor
    · exact Or.inl
    · rintro (named | ⟨included, rfl⟩)
      · exact named
      · exact appended included

/-- The listing of the tenancy names its descendants. -/
def SubtreeListed (services : OciServices) (snapshot : OciConnectionSnapshot) (region : String) :
    Prop :=
  snapshot.tenancyOcid ∈ rootCompartments snapshot → ∀ id, id ≠ snapshot.tenancyOcid →
    (id ∈ identifiers (answer services region (snapshot.tenancyOcid, true)).items ↔
      Reaches (children services region) snapshot.tenancyOcid id)

/-- What the listings name, with the roots themselves, is what the roots reach. -/
theorem named_iff_reachable (subtree : SubtreeListed services snapshot region) (id : String) :
    (id ∈ rootCompartments snapshot ∨ ∃ call, Asked services snapshot region call ∧
        id ∈ identifiers (answer services region call).items) ↔
      ∃ root ∈ rootCompartments snapshot, Reaches (children services region) root id := by
  constructor
  · rintro (isRoot | ⟨call, ⟨tenancyRoot, rfl⟩ | ⟨root, isRoot, -, parent, reaches, rfl⟩, named⟩)
    · exact ⟨id, isRoot, Relation.ReflTransGen.refl⟩
    · refine ⟨snapshot.tenancyOcid, tenancyRoot, ?_⟩
      by_cases isTenancy : id = snapshot.tenancyOcid
      · rw [isTenancy]
        exact Relation.ReflTransGen.refl
      · exact (subtree tenancyRoot id isTenancy).mp named
    · exact ⟨root, isRoot, reaches.tail named⟩
  · rintro ⟨root, isRoot, reaches⟩
    by_cases isTenancy : root = snapshot.tenancyOcid
    · subst isTenancy
      by_cases same : id = snapshot.tenancyOcid
      · exact Or.inl (same ▸ isRoot)
      · exact Or.inr ⟨_, Or.inl ⟨isRoot, rfl⟩, (subtree isRoot id same).mpr reaches⟩
    · rcases reaches.cases_tail with rfl | ⟨parent, before, isChild⟩
      · exact Or.inl isRoot
      · exact Or.inr ⟨_, Or.inr ⟨root, isRoot, isTenancy, parent, before, rfl⟩, isChild⟩

/-- On finitely many compartments every root has a visit. -/
theorem visits_end {nodes : Finset String}
    (rooted : ∀ root ∈ rootCompartments snapshot, root ∈ nodes)
    (closed : ∀ node ∈ nodes, ∀ child ∈ children services region node, child ∈ nodes) :
    ∃ bound, ∀ fuel > bound, ∃ order : String → List String,
      ∀ root ∈ rootCompartments snapshot, root ≠ snapshot.tenancyOcid →
        visit (children services region) fuel [root] [] = some (order root) := by
  refine ⟨1 + ∑ node ∈ nodes, (children services region node).length, fun fuel enough => ?_⟩
  refine ⟨fun root => (visit (children services region) fuel [root] []).getD [], ?_⟩
  intro root isRoot _
  have inside : ∀ node ∈ [root], node ∈ nodes := by
    intro node member
    rw [List.mem_singleton.mp member]
    exact rooted root isRoot
  obtain ⟨order, visited⟩ := @visit_ends _ _ (children services region) nodes closed fuel [root] []
    inside (by simpa [pending] using enough)
  dsimp only
  rw [visited, Option.getD_some]

/-- The resolution is the fold over the listings of its roots. -/
theorem resolve_eq {others : List String} {fuel : ℕ} {order : String → List String}
    {progress : Progress}
    (regions : (snapshot.scopeRegions.filter (· ≠ "")).eraseDups = region :: others)
    (subcompartments : snapshot.includeSubcompartments = true)
    (visited : ∀ root ∈ rootCompartments snapshot, root ≠ snapshot.tenancyOcid →
      visit (children services region) fuel [root] [] = some (order root)) :
    resolveOciDiscoveryScope services snapshot fuel progress = (do
      let reached ← ((rootCompartments snapshot).flatMap (rootCalls snapshot order)).foldlM
        (takeListing services region) (rootCompartments snapshot, true, progress)
      return some (⟨region :: others, reached.1, reached.2.1⟩, reached.2.2)) := by
  unfold resolveOciDiscoveryScope
  rw [regions]
  dsimp only
  by_cases none : rootCompartments snapshot = []
  · simp [none]
    rfl
  · rw [if_neg (by simpa [subcompartments] using none), expandRoots_eq visited, bind_assoc]
    rfl

/-- A scope of some region with subcompartments, over finitely many compartments. With
enough fuel the resolution ends: where a listing that is asked for fails fatally it raises,
and otherwise it returns the compartments without repetition, incomplete exactly when a
listing failed. Where all listings succeed and that of the tenancy names its descendants,
the compartments are those that the roots reach; the roots are the configured ones, and
the tenancy if it is included. -/
theorem scope_resolved {others : List String} {nodes : Finset String}
    (regions : (snapshot.scopeRegions.filter (· ≠ "")).eraseDups = region :: others)
    (subcompartments : snapshot.includeSubcompartments = true)
    (rooted : ∀ root ∈ rootCompartments snapshot, root ∈ nodes)
    (closed : ∀ node ∈ nodes, ∀ child ∈ children services region node, child ∈ nodes) :
    ∃ bound, ∀ fuel > bound, ∀ progress,
      ((∃ call, Asked services snapshot region call ∧ Fatal (answer services region call)) →
        ∃ errors, resolveOciDiscoveryScope services snapshot fuel progress = .error errors) ∧
      ((∀ call, Asked services snapshot region call → ¬Fatal (answer services region call)) →
        ∃ scope next,
          resolveOciDiscoveryScope services snapshot fuel progress = .ok (some (scope, next)) ∧
          scope.compartmentIds.Nodup ∧
          (scope.complete = false ↔ ∃ call, Asked services snapshot region call ∧
            (answer services region call).failure ≠ none) ∧
          ((∀ call, Asked services snapshot region call →
              (answer services region call).failure = none) →
            SubtreeListed services snapshot region → ∀ id, id ∈ scope.compartmentIds ↔
              ∃ root, (root ∈ snapshot.compartmentOcids ∧ root ≠ "" ∨
                  snapshot.includeRootCompartment = true ∧ root = snapshot.tenancyOcid) ∧
                Reaches (children services region) root id)) := by
  obtain ⟨bound, ends⟩ := visits_end rooted closed
  refine ⟨bound, fun fuel enough progress => ?_⟩
  obtain ⟨order, visited⟩ := ends fuel enough
  have asked := mem_rootCalls visited
  rw [resolve_eq regions subcompartments visited]
  constructor
  · rintro ⟨call, isAsked, fatal⟩
    obtain ⟨errors, raised⟩ := takeListings_fatal ⟨call, (asked call).mpr isAsked, fatal⟩
    rw [raised]
    exact ⟨errors, rfl⟩
  · intro survives
    obtain ⟨reached, ran, distinct, members, complete⟩ := takeListings_not_fatal
      fun call member => survives call ((asked call).mp member)
    rw [ran]
    refine ⟨_, _, rfl, distinct nodup_rootCompartments, ?_, ?_⟩
    · rw [← Bool.not_eq_true, complete]
      simp only [asked]
      push Not
      simp
    · intro _ subtree id
      rw [members]
      simp only [asked, ← mem_rootCompartments]
      exact named_iff_reachable subtree id

end Scope

section Sample

/-- Services that list compartments only. -/
def graphServices (listing : String → Listing (Option String)) : OciServices where
  listCompartments _ parent _ := listing parent
  searchResources _ := ⟨[], none⟩
  listAvailabilityDomains _ := ⟨[], none⟩
  listInstances _ _ := ⟨[], none⟩
  listVolumes _ _ := ⟨[], none⟩
  listBootVolumes _ _ := ⟨[], none⟩
  listVolumeAttachments _ _ := ⟨[], none⟩
  listBootVolumeAttachments _ _ _ := ⟨[], none⟩
  listRegionalPublicIps _ _ := ⟨[], none⟩
  listDomainPublicIps _ _ _ := ⟨[], none⟩

def branchSnapshot : OciConnectionSnapshot := ⟨"tenancy", ["region"], ["first"], false, true⟩

/-- Two compartments, each a child of the other. -/
def cyclicServices : OciServices :=
  graphServices fun parent => ⟨if parent = "first" then [some "second"] else [some "first"], none⟩

theorem cyclic_scope_resolved : ∃ fuel scope next,
    resolveOciDiscoveryScope cyclicServices branchSnapshot fuel Progress.empty =
        .ok (some (scope, next)) ∧
      scope.compartmentIds.Nodup ∧ "second" ∈ scope.compartmentIds := by
  have succeeds (call : ScopeCall) : (answer cyclicServices "region" call).failure = none := rfl
  obtain ⟨bound, resolves⟩ := @scope_resolved cyclicServices branchSnapshot "region" []
    {"first", "second"} (by decide +kernel) rfl (by decide +kernel) (by decide +kernel)
  obtain ⟨scope, next, resolved, distinct, -, reachable⟩ :=
    (resolves (bound + 1) (Nat.lt_succ_self bound) Progress.empty).2 fun call _ fatal => by
      obtain ⟨failure, failed, -⟩ := fatal
      cases (succeeds call).symm.trans failed
  have members := reachable (fun call _ => succeeds call) fun tenancyRoot =>
    absurd tenancyRoot (by decide +kernel)
  refine ⟨bound + 1, scope, next, resolved, distinct, (members "second").mpr ?_⟩
  exact ⟨"first", Or.inl (by decide), Relation.ReflTransGen.single (by decide +kernel)⟩

/-- A listing that the account may not make ends the resolution. -/
theorem refused_scope_raises : ∃ errors, ∀ fuel,
    resolveOciDiscoveryScope (graphServices fun _ => ⟨[], some ⟨"authentication", "", true⟩⟩)
      branchSnapshot (fuel + 1) Progress.empty = .error errors := by
  refine ⟨[issueOf ⟨"identity_api", "list_compartments", some "region", some "first", none⟩
    ⟨"authentication", "", true⟩], fun fuel => ?_⟩
  rfl

end Sample

end FinopsAnalytics.ReachableCompartments
