import FinopsAnalytics.DistinctKeys
import Mathlib.Algebra.BigOperators.Group.List.Basic

/-!
# Sums over groups

Rows are grouped by a key in the order in which the keys first occur. Every row
lies in one group, so a sum over the groups of the sums within them is the sum
over the rows.
-/

namespace FinopsAnalytics.GroupedSums

open DistinctKeys

universe u v w
variable {α : Type u} {κ : Type v} {M : Type w} [DecidableEq κ]

/-- The rows of each key that occurs. -/
def groups (key : α → κ) (rows : List α) : List (κ × List α) :=
  (rows.map key).eraseDups.map fun group => (group, rows.filter fun row => key row = group)

theorem mem_groups {key : α → κ} {rows : List α} {group : κ × List α} :
    group ∈ groups key rows ↔ (∃ row ∈ rows, key row = group.1) ∧
      group.2 = rows.filter fun row => key row = group.1 := by
  obtain ⟨wanted, members⟩ := group
  simp only [groups, List.mem_map, List.mem_eraseDups, Prod.mk.injEq]
  constructor
  · rintro ⟨found, ⟨row, member, rfl⟩, rfl, rfl⟩
    exact ⟨⟨row, member, rfl⟩, rfl⟩
  · rintro ⟨⟨row, member, found⟩, same⟩
    exact ⟨wanted, ⟨row, member, found⟩, rfl, same.symm⟩

/-- The group of a row. -/
theorem mem_groups_of_mem (key : α → κ) {rows : List α} {row : α} (member : row ∈ rows) :
    (key row, rows.filter fun other => key other = key row) ∈ groups key rows :=
  mem_groups.mpr ⟨⟨row, member, rfl⟩, rfl⟩

theorem groups_keys (key : α → κ) (rows : List α) :
    (groups key rows).map Prod.fst = (rows.map key).eraseDups := by
  simp [groups, Function.comp_def]

/-- Every key has one group. -/
theorem groups_nodup (key : α → κ) (rows : List α) :
    ((groups key rows).map Prod.fst).Nodup := by
  rw [groups_keys]
  exact nodup_eraseDups _

section Sums

variable [AddCommMonoid M]

/-- One of several distinct keys is met once. -/
theorem sum_map_ite {keys : List κ} (distinct : keys.Nodup) {key : κ} (member : key ∈ keys)
    (value : M) : (keys.map fun other => if key = other then value else 0).sum = value := by
  induction keys with
  | nil => cases member
  | cons first rest inductionHypothesis =>
    obtain ⟨unlisted, distinctRest⟩ := List.nodup_cons.mp distinct
    rw [List.map_cons, List.sum_cons]
    rcases List.mem_cons.mp member with rfl | later
    · have others : (rest.map fun other => if key = other then value else 0).sum = 0 := by
        refine List.sum_eq_zero fun term listed => ?_
        obtain ⟨other, otherListed, rfl⟩ := List.mem_map.mp listed
        exact if_neg fun same : key = other => unlisted (same ▸ otherListed)
      rw [if_pos rfl, others, add_zero]
    · have different : key ≠ first := fun same => unlisted (same ▸ later)
      rw [if_neg different, zero_add, inductionHypothesis distinctRest later]

/-- Groups under distinct keys that cover the rows share out every sum. -/
theorem sum_filter_keys {key : α → κ} (value : α → M) {keys : List κ} (distinct : keys.Nodup)
    {rows : List α} (covered : ∀ row ∈ rows, key row ∈ keys) :
    (keys.map fun group => ((rows.filter fun row => key row = group).map value).sum).sum =
      (rows.map value).sum := by
  induction rows with
  | nil => simp
  | cons row rest inductionHypothesis =>
    have own := covered row (List.mem_cons_self ..)
    have later := inductionHypothesis fun other member =>
      covered other (List.mem_cons_of_mem _ member)
    have shared (group : κ) :
        (((row :: rest).filter fun other => key other = group).map value).sum =
          (if key row = group then value row else 0) +
            ((rest.filter fun other => key other = group).map value).sum := by
      by_cases same : key row = group <;> simp [same]
    simp only [shared]
    rw [List.sum_map_add, sum_map_ite distinct own, later, List.map_cons, List.sum_cons]

/-- Entries under distinct keys that cover the rows, each with the sum of the rows of its
key, share out the sum of the rows whose keys are selected. -/
theorem sum_entries {ε : Type*} {key : α → κ} {value : α → M} {entryKey : ε → κ} {amount : ε → M}
    (selected : κ → Bool) {entries : List ε} {rows : List α}
    (distinct : (entries.map entryKey).Nodup)
    (covered : ∀ row ∈ rows, key row ∈ entries.map entryKey)
    (held : ∀ entry ∈ entries,
      amount entry = ((rows.filter fun row => key row = entryKey entry).map value).sum) :
    ((entries.filter fun entry => selected (entryKey entry)).map amount).sum =
      ((rows.filter fun row => selected (key row)).map value).sum := by
  have keys : ((entries.map entryKey).filter selected).Nodup := distinct.filter _
  have coveredSelected : ∀ row ∈ rows.filter fun row => selected (key row),
      key row ∈ (entries.map entryKey).filter selected := fun row member => by
    obtain ⟨listed, chosen⟩ := List.mem_filter.mp member
    exact List.mem_filter.mpr ⟨covered row listed, chosen⟩
  rw [← sum_filter_keys value keys coveredSelected, List.filter_map, List.map_map]
  refine congrArg List.sum (List.map_congr_left fun entry member => ?_)
  obtain ⟨listed, chosen⟩ := List.mem_filter.mp member
  rw [held entry listed, Function.comp_apply, List.filter_filter]
  refine congrArg (fun rows : List α => (rows.map value).sum) (List.filter_congr fun row _ => ?_)
  by_cases same : key row = entryKey entry
  · simpa [same] using chosen
  · simp [same]

/-- The groups share out every sum. -/
theorem sum_groups (key : α → κ) (value : α → M) (rows : List α) :
    ((groups key rows).map fun group => (group.2.map value).sum).sum = (rows.map value).sum := by
  rw [groups, List.map_map]
  exact sum_filter_keys value (nodup_eraseDups _) fun row member =>
    List.mem_eraseDups.mpr (List.mem_map_of_mem member)

/-- A sum of the selected rows, as a sum over all. -/
theorem sum_filter_map (selected : α → Bool) (value : α → M) (rows : List α) :
    ((rows.filter selected).map value).sum =
      (rows.map fun row => if selected row then value row else 0).sum := by
  induction rows with
  | nil => rfl
  | cons row rest inductionHypothesis =>
    rw [List.map_cons, List.sum_cons, ← inductionHypothesis]
    by_cases chosen : selected row <;> simp [chosen]

/-- Groups that are selected by their keys share out the sum of the rows whose
keys are selected. -/
theorem sum_groups_filter (key : α → κ) (selected : κ → Bool) (value : α → M) (rows : List α) :
    (((groups key rows).filter fun group => selected group.1).map
      fun group => (group.2.map value).sum).sum =
      ((rows.filter fun row => selected (key row)).map value).sum := by
  rw [sum_filter_map, sum_filter_map, ← sum_groups key]
  refine congrArg List.sum (List.map_congr_left fun group member => ?_)
  obtain ⟨-, members⟩ := mem_groups.mp member
  have inGroup : ∀ row ∈ group.2, key row = group.1 := fun row listed => by
    rw [members] at listed
    simpa using (List.mem_filter.mp listed).2
  by_cases chosen : selected group.1 = true
  · rw [if_pos chosen]
    refine congrArg List.sum (List.map_congr_left fun row listed => ?_)
    rw [inGroup row listed, if_pos chosen]
  · rw [if_neg chosen]
    refine (List.sum_eq_zero fun term listed => ?_).symm
    obtain ⟨row, rowListed, rfl⟩ := List.mem_map.mp listed
    rw [inGroup row rowListed, if_neg chosen]

end Sums

end FinopsAnalytics.GroupedSums
