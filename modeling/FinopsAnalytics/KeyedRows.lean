import Mathlib.Data.List.Count
import Mathlib.Data.List.Nodup
import Mathlib.Data.List.Pairwise

/-!
# Rows under a key

Lists of rows in which no two rows share a key. Rewriting a row under its own key,
adding a row under a new key and dropping rows all keep the keys apart.
-/

namespace FinopsAnalytics.KeyedRows

universe u v
variable {α : Type u} {κ : Type v} {key : α → κ} {rows : List α} {next row : α}

/-- No two rows share a key. -/
def Keyed (key : α → κ) (rows : List α) : Prop := (rows.map key).Nodup

theorem Keyed.eq_of_key (keyed : Keyed key rows) {first second : α} (firstMember : first ∈ rows)
    (secondMember : second ∈ rows) (same : key first = key second) : first = second :=
  List.inj_on_of_nodup_map keyed firstMember secondMember same

/-- A write that keeps every key. -/
theorem Keyed.map (keyed : Keyed key rows) {write : α → α}
    (same : ∀ row ∈ rows, key (write row) = key row) : Keyed key (rows.map write) := by
  have keys : (rows.map write).map key = rows.map key := by
    rw [List.map_map]
    exact List.map_congr_left same
  rw [Keyed, keys]
  exact keyed

theorem Keyed.concat (keyed : Keyed key rows) (fresh : ∀ row ∈ rows, key row ≠ key next) :
    Keyed key (rows ++ [next]) := by
  rw [Keyed, List.map_append, List.nodup_append]
  refine ⟨keyed, List.nodup_singleton _, ?_⟩
  rintro first firstMember second secondMember rfl
  obtain ⟨row, member, same⟩ := List.mem_map.mp firstMember
  exact fresh row member (same.trans (List.mem_singleton.mp secondMember))

theorem Keyed.filter (keyed : Keyed key rows) (kept : α → Bool) : Keyed key (rows.filter kept) :=
  List.Nodup.sublist (List.filter_sublist.map key) keyed

/-- Of two counted rows one has another key than a given row. -/
theorem Keyed.exists_other (keyed : Keyed key rows) {counted : α → Bool}
    (two : 2 ≤ rows.countP counted) (given : κ) :
    ∃ row ∈ rows, counted row = true ∧ key row ≠ given := by
  by_contra none
  have only : ∀ row ∈ rows, counted row = true → key row = given := by
    intro row member counts
    by_contra other
    exact none ⟨row, member, counts, other⟩
  have few : (rows.filter counted).length ≤ 1 := by
    have keys := keyed.filter counted
    cases filtered : rows.filter counted with
    | nil => simp
    | cons first rest =>
      cases rest with
      | nil => simp
      | cons second others =>
        have member {row : α} (inside : row ∈ first :: second :: others) : key row = given := by
          rw [← filtered] at inside
          exact only row (List.mem_filter.mp inside).1 (List.mem_filter.mp inside).2
        rw [Keyed, filtered, List.map_cons, List.map_cons] at keys
        have firstKey : key first = given := member (by simp)
        have secondKey : key second = given := member (by simp)
        refine absurd ?_ (List.nodup_cons.mp keys).1
        rw [firstKey, ← secondKey]
        exact List.mem_cons_self ..
  rw [List.countP_eq_length_filter] at two
  omega

variable [DecidableEq κ]

/-- The rows after rewriting the one with the key of the next row. -/
theorem mem_rewritten (member : row ∈ rows.map fun old => if key old = key next then next else old) :
    row = next ∨ row ∈ rows ∧ key row ≠ key next := by
  obtain ⟨old, oldMember, rfl⟩ := List.mem_map.mp member
  by_cases same : key old = key next
  · exact .inl (if_pos same)
  · rw [if_neg same]
    exact .inr ⟨oldMember, same⟩

theorem mem_rewritten_of_ne (member : row ∈ rows) (other : key row ≠ key next) :
    row ∈ rows.map fun old => if key old = key next then next else old :=
  List.mem_map.mpr ⟨row, member, if_neg other⟩

theorem next_mem_rewritten (member : row ∈ rows) (same : key row = key next) :
    next ∈ rows.map fun old => if key old = key next then next else old :=
  List.mem_map.mpr ⟨row, member, if_pos same⟩

theorem Keyed.rewrite (keyed : Keyed key rows) (next : α) :
    Keyed key (rows.map fun old => if key old = key next then next else old) := by
  refine keyed.map fun old _ => ?_
  by_cases same : key old = key next
  · rw [if_pos same, same]
  · rw [if_neg same]

end FinopsAnalytics.KeyedRows
