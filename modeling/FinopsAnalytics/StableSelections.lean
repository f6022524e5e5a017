import FinopsAnalytics.Dictionaries
import FinopsAnalytics.GroupedSums
import Mathlib.Data.List.MinMax
import Mathlib.Data.Prod.Lex

/-!
# Selections that do not depend on the order of their input

Rows are compared by a token. One row of each token is kept, or one row of each
identifier, the one of the least token; the kept rows are sorted. Where different
rows have different tokens the selection is a function of the set of the rows, so
every arrangement of the input gives the same list.
-/

namespace FinopsAnalytics.StableSelections

open Dictionaries DistinctKeys GroupedSums

universe u v w
variable {α : Type u} {κ : Type v} {τ : Type w}

/-- Rows with one token are one row. -/
def Faithful (token : α → τ) (rows : List α) : Prop :=
  ∀ first ∈ rows, ∀ second ∈ rows, token first = token second → first = second

theorem Faithful.perm {token : α → τ} {rows others : List α} (faithful : Faithful token rows)
    (arranged : rows.Perm others) : Faithful token others :=
  fun first firstMember second secondMember same =>
    faithful first (arranged.mem_iff.mpr firstMember) second (arranged.mem_iff.mpr secondMember)
      same

theorem Faithful.sublist {token : α → τ} {rows others : List α} (faithful : Faithful token rows)
    (among : ∀ row ∈ others, row ∈ rows) : Faithful token others :=
  fun first firstMember second secondMember =>
    faithful first (among first firstMember) second (among second secondMember)

section Unique

variable [LinearOrder τ]

/-- `_stable_unique`: the first row of each token, in the order of the tokens. -/
def stableUnique (token : α → τ) (rows : List α) : List α :=
  (sortByKey Prod.fst
    (rows.foldl (fun byToken row => setDefault (token row) row byToken) [])).map Prod.snd

/-- What the loop knows after some rows. -/
structure FirstRows (token : α → τ) (rows : List α) (byToken : List (τ × α)) : Prop where
  distinct : (byToken.map Prod.fst).Nodup
  filed : ∀ entry ∈ byToken, token entry.2 = entry.1 ∧ entry.2 ∈ rows
  covered : ∀ row ∈ rows, token row ∈ byToken.map Prod.fst

variable {token : α → τ} {rows : List α}

theorem FirstRows.step {byToken : List (τ × α)} (known : FirstRows token rows byToken) (row : α) :
    FirstRows token (rows ++ [row]) (setDefault (token row) row byToken) where
  distinct := setDefault_nodup known.distinct
  filed := by
    intro entry member
    rcases mem_setDefault.mp member with earlier | ⟨-, rfl⟩
    · obtain ⟨named, among⟩ := known.filed entry earlier
      exact ⟨named, List.mem_append_left _ among⟩
    · exact ⟨rfl, List.mem_append_right _ (List.mem_singleton.mpr rfl)⟩
  covered := by
    intro other member
    rw [mem_keys_setDefault]
    rcases List.mem_append.mp member with earlier | last
    · exact Or.inr (known.covered other earlier)
    · rw [List.mem_singleton.mp last]
      exact Or.inl rfl

theorem firstRows_foldl (token : α → τ) (rows : List α) :
    FirstRows token rows
      (rows.foldl (fun byToken row => setDefault (token row) row byToken) []) := by
  induction rows using List.reverseRecOn with
  | nil => exact ⟨List.nodup_nil, by simp, by simp⟩
  | append_singleton earlier row inductionHypothesis =>
    rw [List.foldl_append]
    exact inductionHypothesis.step row

/-- The tokens of the kept rows are the sorted keys. -/
theorem stableUnique_tokens (token : α → τ) (rows : List α) :
    (stableUnique token rows).map token =
      (sortByKey Prod.fst
        (rows.foldl (fun byToken row => setDefault (token row) row byToken) [])).map Prod.fst := by
  rw [stableUnique, List.map_map]
  apply List.map_congr_left
  intro entry member
  exact ((firstRows_foldl token rows).filed entry ((mem_sortByKey _ _ _).mp member)).1

/-- No token is kept twice. -/
theorem stableUnique_nodup (token : α → τ) (rows : List α) :
    ((stableUnique token rows).map token).Nodup := by
  rw [stableUnique_tokens]
  exact ((sortByKey_perm _ _).map _).nodup_iff.mpr (firstRows_foldl token rows).distinct

theorem stableUnique_ascending (token : α → τ) (rows : List α) :
    (stableUnique token rows).Pairwise fun left right => token left ≤ token right := by
  have sorted : ((stableUnique token rows).map token).Pairwise (· ≤ ·) := by
    rw [stableUnique_tokens]
    exact List.pairwise_map.mpr (sortByKey_ascending _ _)
  exact List.pairwise_map.mp sorted

/-- What is kept is a row. -/
theorem mem_of_stableUnique {row : α} (member : row ∈ stableUnique token rows) : row ∈ rows := by
  obtain ⟨entry, listed, rfl⟩ := List.mem_map.mp member
  exact ((firstRows_foldl token rows).filed entry ((mem_sortByKey _ _ _).mp listed)).2

/-- Every token is kept. -/
theorem token_mem_stableUnique {row : α} (member : row ∈ rows) :
    token row ∈ (stableUnique token rows).map token := by
  rw [stableUnique_tokens]
  exact ((sortByKey_perm _ _).map _).mem_iff.mpr ((firstRows_foldl token rows).covered row member)

/-- Of faithful rows every one is kept. -/
theorem mem_stableUnique (faithful : Faithful token rows) {row : α} :
    row ∈ stableUnique token rows ↔ row ∈ rows := by
  refine ⟨mem_of_stableUnique, fun member => ?_⟩
  have present : token row ∈ (stableUnique token rows).map token := token_mem_stableUnique member
  obtain ⟨kept, listed, same⟩ := List.mem_map.mp present
  rwa [← faithful kept (mem_of_stableUnique listed) row member same]

/-- Sorted lists of rows with distinct keys are determined by their members. -/
theorem eq_of_ascending {key : α → τ} {left right : List α}
    (leftAscending : left.Pairwise fun first second => key first ≤ key second)
    (rightAscending : right.Pairwise fun first second => key first ≤ key second)
    (leftDistinct : (left.map key).Nodup) (rightDistinct : (right.map key).Nodup)
    (same : ∀ row, row ∈ left ↔ row ∈ right) : left = right := by
  have arranged : left.Perm right :=
    (List.perm_ext_iff_of_nodup leftDistinct.of_map rightDistinct.of_map).mpr same
  apply arranged.eq_of_pairwise _ leftAscending rightAscending
  intro first second firstMember secondMember below above
  exact List.inj_on_of_nodup_map leftDistinct firstMember ((same second).mpr secondMember)
    (le_antisymm below above)

/-- The kept rows do not depend on the arrangement. -/
theorem stableUnique_perm {rows others : List α} (faithful : Faithful token rows)
    (arranged : rows.Perm others) : stableUnique token rows = stableUnique token others := by
  apply eq_of_ascending (stableUnique_ascending ..) (stableUnique_ascending ..)
    (stableUnique_nodup ..) (stableUnique_nodup ..)
  intro row
  rw [mem_stableUnique faithful, mem_stableUnique (faithful.perm arranged), arranged.mem_iff]

/-- Sorting faithful rows by their tokens does not depend on the arrangement either: rows
of one token are copies. -/
theorem sortByKey_perm_of_faithful {rows others : List α} (faithful : Faithful token rows)
    (arranged : rows.Perm others) :
    sortByKey token rows = sortByKey token others := by
  apply List.Perm.eq_of_pairwise _ (sortByKey_ascending token rows)
    (sortByKey_ascending token others)
  · exact (sortByKey_perm token rows).trans (arranged.trans (sortByKey_perm token others).symm)
  · intro first second firstMember secondMember below above
    exact faithful first ((mem_sortByKey _ _ _).mp firstMember) second
      (arranged.mem_iff.mpr ((mem_sortByKey _ _ _).mp secondMember)) (le_antisymm below above)

end Unique

section Filed

variable [DecidableEq κ]

/-- `filed.setdefault(identifier, []).append(row)` for the rows with an identifier. -/
def filedBy (identifier : α → Option κ) (rows : List α) : List (κ × List α) :=
  (rows.filterMap identifier).eraseDups.map fun id =>
    (id, rows.filter fun row => identifier row = some id)

theorem filedBy_keys (identifier : α → Option κ) (rows : List α) :
    (filedBy identifier rows).map Prod.fst = (rows.filterMap identifier).eraseDups := by
  simp [filedBy, Function.comp_def]

theorem filedBy_nodup (identifier : α → Option κ) (rows : List α) :
    ((filedBy identifier rows).map Prod.fst).Nodup := by
  rw [filedBy_keys]
  exact nodup_eraseDups _

theorem mem_filedBy_keys {identifier : α → Option κ} {rows : List α} {id : κ} :
    id ∈ (filedBy identifier rows).map Prod.fst ↔ ∃ row ∈ rows, identifier row = some id := by
  rw [filedBy_keys, List.mem_eraseDups, List.mem_filterMap]

/-- `filed.get(identifier, [])` -/
theorem getD_filedBy (identifier : α → Option κ) (rows : List α) (id : κ) :
    ((filedBy identifier rows).lookup id).getD [] =
      rows.filter fun row => identifier row = some id := by
  cases found : (filedBy identifier rows).lookup id with
  | some members =>
    obtain ⟨other, -, same⟩ := List.mem_map.mp (mem_of_lookup found)
    obtain ⟨rfl, rfl⟩ := Prod.mk.inj same
    rfl
  | none =>
    refine (List.filter_eq_nil_iff.mpr fun row member named => ?_).symm
    have key : id ∈ (filedBy identifier rows).map Prod.fst :=
      mem_filedBy_keys.mpr ⟨row, member, of_decide_eq_true named⟩
    obtain ⟨⟨other, members⟩, listed, rfl⟩ := List.mem_map.mp key
    rw [lookup_of_mem (filedBy_nodup identifier rows) listed] at found
    cases found

/-- Keys that cover the rows share them out, each row once. -/
theorem flatMap_filed {identifier : α → Option κ} {keys : List κ} (distinct : keys.Nodup)
    {rows : List α} (covered : ∀ row ∈ rows, ∀ id, identifier row = some id → id ∈ keys) :
    ((keys.flatMap fun id => rows.filter fun row => identifier row = some id) ++
      rows.filter fun row => (identifier row).isNone).Perm rows := by
  induction rows with
  | nil => simp
  | cons row rest inductionHypothesis =>
    have later := inductionHypothesis fun other member =>
      covered other (List.mem_cons_of_mem _ member)
    cases named : identifier row with
    | none =>
      simp only [named, List.filter_cons, reduceCtorEq, decide_false, Bool.false_eq_true, if_false,
        Option.isNone_none, if_true]
      exact List.perm_middle.trans (later.cons row)
    | some id =>
      obtain ⟨front, back, rfl⟩ := List.append_of_mem
        (covered row (List.mem_cons_self ..) id named)
      have others (keys : List κ) (unlisted : id ∉ keys) :
          (keys.flatMap fun other => (row :: rest).filter fun row => identifier row = some other) =
            keys.flatMap fun other => rest.filter fun row => identifier row = some other := by
        apply List.flatMap_congr
        intro other member
        have different : id ≠ other := fun same => unlisted (same ▸ member)
        simp [named, different]
      obtain ⟨-, backDistinct, apart⟩ := List.nodup_append.mp distinct
      have frontUnlisted : id ∉ front := fun member =>
        apart id member id (List.mem_cons_self ..) rfl
      have backUnlisted : id ∉ back := (List.nodup_cons.mp backDistinct).1
      rw [List.flatMap_append, List.flatMap_cons] at later ⊢
      rw [others front frontUnlisted, others back backUnlisted]
      simp only [named, List.filter_cons, Option.isNone_some, Bool.false_eq_true, if_false,
        decide_true, if_true, List.cons_append, List.append_assoc] at later ⊢
      exact List.perm_middle.trans (later.cons row)

end Filed

section Identified

variable [LinearOrder κ] [LinearOrder τ]

/-- The row of the least token for each identifier. -/
def leastById (identifier : α → Option κ) (token : α → τ) (rows : List α) : List (κ × α) :=
  (filedBy identifier rows).filterMap fun group => (group.2.argmin token).map (group.1, ·)

/-- `_stable_unique_by_id`: one row of each identifier, sorted, and after them the rows
without an identifier. -/
def stableUniqueById (identifier : α → Option κ) (token : α → τ) (rows : List α) : List α :=
  (sortByKey (fun entry => toLex (entry.1, token entry.2))
      (leastById identifier token rows)).map Prod.snd ++
    stableUnique token (rows.filter fun row => (identifier row).isNone)

variable {identifier : α → Option κ} {token : α → τ} {rows : List α}

/-- A row is kept where no other of its identifier has a lesser token. -/
theorem mem_leastById {id : κ} {row : α} : (id, row) ∈ leastById identifier token rows ↔
      row ∈ (rows.filter fun row => identifier row = some id).argmin token := by
  simp only [leastById, filedBy, List.mem_filterMap, List.mem_map, List.mem_eraseDups]
  constructor
  · rintro ⟨_, ⟨other, -, rfl⟩, least⟩
    obtain ⟨kept, chosen, same⟩ := Option.map_eq_some_iff.mp least
    obtain ⟨rfl, rfl⟩ := Prod.mk.inj same
    exact chosen
  · intro least
    obtain ⟨member, named⟩ := List.mem_filter.mp (List.argmin_mem least)
    exact ⟨_, ⟨id, ⟨row, member, of_decide_eq_true named⟩, rfl⟩,
      Option.map_eq_some_iff.mpr ⟨row, least, rfl⟩⟩

/-- A kept row is a row with its identifier. -/
theorem named_of_leastById {entry : κ × α} (member : entry ∈ leastById identifier token rows) :
    entry.2 ∈ rows ∧ identifier entry.2 = some entry.1 := by
  obtain ⟨among, named⟩ := List.mem_filter.mp (List.argmin_mem (mem_leastById.mp member))
  exact ⟨among, of_decide_eq_true named⟩

theorem leastById_nodup (identifier : α → Option κ) (token : α → τ) (rows : List α) :
    ((leastById identifier token rows).map Prod.fst).Nodup := by
  refine (filedBy_nodup identifier rows).sublist ?_
  have keys : (leastById identifier token rows).map Prod.fst =
      ((filedBy identifier rows).filter fun group => (group.2.argmin token).isSome).map
        Prod.fst := by
    unfold leastById
    induction filedBy identifier rows with
    | nil => rfl
    | cons group rest inductionHypothesis =>
      cases least : group.2.argmin token with
      | none => simpa [least] using inductionHypothesis
      | some row => simpa [least] using inductionHypothesis
  rw [keys]
  exact List.filter_sublist.map _

/-- What stands for a row: its identifier, or its token. -/
def label (identifier : α → Option κ) (token : α → τ) (row : α) : κ ⊕ τ :=
  match identifier row with
  | some id => .inl id
  | none => .inr (token row)

theorem mem_of_stableUniqueById {row : α} (member : row ∈ stableUniqueById identifier token rows) :
    row ∈ rows := by
  rcases List.mem_append.mp member with named | unnamed
  · obtain ⟨entry, listed, rfl⟩ := List.mem_map.mp named
    exact (named_of_leastById ((mem_sortByKey _ _ _).mp listed)).1
  · exact List.mem_of_mem_filter (mem_of_stableUnique unnamed)

/-- Every identifier is kept, and every token of a row without one. -/
theorem label_mem_stableUniqueById {row : α} (member : row ∈ rows) :
    label identifier token row ∈
      (stableUniqueById identifier token rows).map (label identifier token) := by
  cases named : identifier row with
  | some id =>
    have among : row ∈ rows.filter fun row => identifier row = some id :=
      List.mem_filter.mpr ⟨member, decide_eq_true named⟩
    obtain ⟨kept, least⟩ := Option.ne_none_iff_exists'.mp fun none : List.argmin token _ = none =>
      List.ne_nil_of_mem among (List.argmin_eq_none.mp none)
    have listed := mem_leastById.mpr least
    refine List.mem_map.mpr ⟨kept, List.mem_append_left _ (List.mem_map.mpr
      ⟨(id, kept), (mem_sortByKey _ _ _).mpr listed, rfl⟩), ?_⟩
    simp [label, named, (named_of_leastById listed).2]
  | none =>
    have among : row ∈ rows.filter fun row => (identifier row).isNone :=
      List.mem_filter.mpr ⟨member, by simp [named]⟩
    have present : token row ∈
        (stableUnique token (rows.filter fun row => (identifier row).isNone)).map token :=
      token_mem_stableUnique among
    obtain ⟨kept, listed, same⟩ := List.mem_map.mp present
    have unnamed : identifier kept = none := by
      simpa using (List.mem_filter.mp (mem_of_stableUnique listed)).2
    refine List.mem_map.mpr ⟨kept, List.mem_append_right _ listed, ?_⟩
    simp [label, named, unnamed, same]

/-- No identifier is kept twice, and no token of a row without one. -/
theorem stableUniqueById_nodup (identifier : α → Option κ) (token : α → τ) (rows : List α) :
    ((stableUniqueById identifier token rows).map (label identifier token)).Nodup := by
  rw [stableUniqueById, List.map_append, List.map_map]
  have ids : (sortByKey (fun entry => toLex (entry.1, token entry.2))
        (leastById identifier token rows)).map (label identifier token ∘ Prod.snd) =
      ((sortByKey (fun entry => toLex (entry.1, token entry.2))
        (leastById identifier token rows)).map Prod.fst).map Sum.inl := by
    rw [List.map_map]
    apply List.map_congr_left
    intro entry member
    have named := (named_of_leastById ((mem_sortByKey _ _ _).mp member)).2
    simp [label, named]
  have tokens : (stableUnique token (rows.filter fun row => (identifier row).isNone)).map
        (label identifier token) =
      ((stableUnique token (rows.filter fun row => (identifier row).isNone)).map token).map
        Sum.inr := by
    rw [List.map_map]
    apply List.map_congr_left
    intro row member
    have unnamed : identifier row = none := by
      simpa using (List.mem_filter.mp (mem_of_stableUnique member)).2
    simp [label, unnamed]
  rw [ids, tokens]
  apply List.Nodup.append
  · apply List.Nodup.map Sum.inl_injective
    exact ((sortByKey_perm _ _).map _).nodup_iff.mpr (leastById_nodup identifier token rows)
  · exact (stableUnique_nodup token _).map Sum.inr_injective
  · intro other left right
    obtain ⟨id, -, rfl⟩ := List.mem_map.mp left
    obtain ⟨token, -, contrary⟩ := List.mem_map.mp right
    cases contrary

/-- Identifiers of a selection by identifier are distinct. -/
theorem identifiers_nodup (identifier : α → Option κ) (token : α → τ) (rows : List α) :
    ((stableUniqueById identifier token rows).filterMap identifier).Nodup := by
  have labels := stableUniqueById_nodup identifier token rows
  have chosen : (stableUniqueById identifier token rows).filterMap identifier =
      ((stableUniqueById identifier token rows).map (label identifier token)).filterMap
        Sum.getLeft? := by
    rw [List.filterMap_map]
    apply List.filterMap_congr
    intro row _
    cases named : identifier row <;> simp [label, named]
  rw [chosen]
  apply labels.filterMap
  rintro (first | first) (second | second) id left right
  · simp only [Sum.getLeft?_inl, Option.mem_def, Option.some.injEq] at left right
    rw [left, right]
  all_goals simp at left right

/-- The row of the least token does not depend on the arrangement. -/
theorem argmin_perm {rows others : List α} (faithful : Faithful token rows)
    (arranged : rows.Perm others) : rows.argmin token = others.argmin token := by
  cases least : rows.argmin token with
  | none =>
    obtain rfl := List.argmin_eq_none.mp least
    obtain rfl := arranged.nil_eq
    exact least.symm
  | some row =>
    cases other : others.argmin token with
    | none =>
      obtain rfl := List.argmin_eq_none.mp other
      rw [arranged.eq_nil] at least
      cases least
    | some rival =>
      have member := List.argmin_mem least
      have rivalMember := arranged.mem_iff.mpr (List.argmin_mem other)
      have below := List.le_of_mem_argmin rivalMember least
      have above := List.le_of_mem_argmin (arranged.mem_iff.mp member) other
      rw [faithful row member rival rivalMember (le_antisymm below above)]

/-- The selection by identifier does not depend on the arrangement. -/
theorem stableUniqueById_perm {rows others : List α} (faithful : Faithful token rows)
    (arranged : rows.Perm others) :
    stableUniqueById identifier token rows = stableUniqueById identifier token others := by
  have filtered (selected : α → Bool) : Faithful token (rows.filter selected) :=
    faithful.sublist fun row => List.mem_of_mem_filter
  have least : sortByKey (fun entry => toLex (entry.1, token entry.2))
        (leastById identifier token rows) =
      sortByKey (fun entry => toLex (entry.1, token entry.2))
        (leastById identifier token others) := by
    have distinct (rows : List α) : ((sortByKey (fun entry => toLex (entry.1, token entry.2))
        (leastById identifier token rows)).map
          fun entry => toLex (entry.1, token entry.2)).Nodup := by
      apply List.Nodup.of_map fun rank => (ofLex rank).1
      rw [List.map_map]
      exact ((sortByKey_perm _ _).map _).nodup_iff.mpr (leastById_nodup identifier token rows)
    apply eq_of_ascending (sortByKey_ascending ..) (sortByKey_ascending ..) (distinct _)
      (distinct _)
    rintro ⟨id, row⟩
    rw [mem_sortByKey, mem_sortByKey, mem_leastById, mem_leastById,
      argmin_perm (filtered _) (arranged.filter _)]
  rw [stableUniqueById, stableUniqueById, least,
    stableUnique_perm (filtered _) (arranged.filter _)]

end Identified

end FinopsAnalytics.StableSelections
