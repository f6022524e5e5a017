import Mathlib.Data.List.Sort
import Mathlib.Data.Set.Card

/-!
# Sorting rows by a key

A stable sort by key depends on the order of its input only through rows of
equal key. Where the keys are pairwise distinct, every arrangement of the rows
sorts to the same list.
-/

namespace FinopsAnalytics.DistinctKeys

universe u v
variable {α : Type u} {κ : Type v} [LinearOrder κ]

/-- Rows in ascending key order; rows of equal key keep their input order. -/
def sortByKey (key : α → κ) (rows : List α) : List α :=
  rows.insertionSort (fun left right => key left ≤ key right)

theorem sortByKey_perm (key : α → κ) (rows : List α) : (sortByKey key rows).Perm rows :=
  List.perm_insertionSort _ rows

@[simp] theorem mem_sortByKey (key : α → κ) (rows : List α) (row : α) :
    row ∈ sortByKey key rows ↔ row ∈ rows :=
  (sortByKey_perm key rows).mem_iff

/-- The sorted rows ascend. -/
theorem sortByKey_ascending (key : α → κ) (rows : List α) :
    (sortByKey key rows).Pairwise (fun left right => key left ≤ key right) := by
  have : Std.Total (fun left right : α => key left ≤ key right) :=
    ⟨fun left right => le_total (key left) (key right)⟩
  have : IsTrans α (fun left right => key left ≤ key right) :=
    ⟨fun _ _ _ first second => first.trans second⟩
  exact List.pairwise_insertionSort _ rows

/-- Arrangements of rows with distinct keys sort to one list. Ascending lists
of the same rows can differ only between rows of equal key. -/
theorem sortByKey_eq_of_perm (key : α → κ) {left right : List α} (arranged : left.Perm right)
    (distinct : (left.map key).Nodup) : sortByKey key left = sortByKey key right := by
  apply List.Perm.eq_of_pairwise _ (sortByKey_ascending key left) (sortByKey_ascending key right)
  · exact (sortByKey_perm key left).trans (arranged.trans (sortByKey_perm key right).symm)
  · intro first second firstMember secondMember below above
    have secondLeft : second ∈ left :=
      arranged.mem_iff.mpr ((mem_sortByKey key right second).mp secondMember)
    exact List.inj_on_of_nodup_map distinct ((mem_sortByKey key left first).mp firstMember)
      secondLeft (le_antisymm below above)

variable {rows : List α} {key : α → κ}

/-- Sorting and selecting commute where the keys are distinct. -/
theorem sortByKey_filter (key : α → κ) (selected : α → Bool) (distinct : (rows.map key).Nodup) :
    sortByKey key (rows.filter selected) = (sortByKey key rows).filter selected := by
  have sorted := (sortByKey_ascending key rows).filter selected
  calc sortByKey key (rows.filter selected)
      = sortByKey key ((sortByKey key rows).filter selected) :=
        sortByKey_eq_of_perm key ((sortByKey_perm key rows).symm.filter selected)
          (distinct.sublist (List.filter_sublist.map key))
    _ = (sortByKey key rows).filter selected := sorted.insertionSort_eq

omit [LinearOrder κ] in
/-- Rows without their repetitions are distinct. -/
theorem nodup_eraseDups [BEq α] [LawfulBEq α] : (rows : List α) → rows.eraseDups.Nodup
  | [] => List.nodup_nil
  | row :: rest => by
    rw [List.eraseDups_cons, List.nodup_cons]
    refine ⟨fun member => ?_, nodup_eraseDups _⟩
    simpa using List.mem_eraseDups.mp member
termination_by rows => rows.length
decreasing_by
  exact Nat.lt_succ_of_le (List.length_filter_le _ rest)

omit [LinearOrder κ] in
/-- The number of rows without their repetitions is that of the set of the rows. -/
theorem length_eraseDups [DecidableEq α] (rows : List α) :
    rows.eraseDups.length = {row | row ∈ rows}.ncard := by
  have sameSet : {row | row ∈ rows} = ((rows.eraseDups.toFinset : Finset α) : Set α) := by
    ext row
    simp
  rw [sameSet, Set.ncard_coe_finset, List.toFinset_card_of_nodup (nodup_eraseDups rows)]

/-- The first of the sorted rows is one of them, and no key is smaller. -/
theorem head?_sortByKey {first : α} (found : (sortByKey key rows).head? = some first) :
    first ∈ rows ∧ ∀ row ∈ rows, key first ≤ key row := by
  obtain ⟨rest, split⟩ := List.head?_eq_some_iff.mp found
  have ascending := sortByKey_ascending key rows
  rw [split, List.pairwise_cons] at ascending
  have listed (row : α) : row ∈ rows ↔ row ∈ first :: rest := by
    rw [← split, mem_sortByKey]
  refine ⟨(listed first).mpr (List.mem_cons_self ..), fun row member => ?_⟩
  rcases List.mem_cons.mp ((listed row).mp member) with rfl | later
  · exact le_rfl
  · exact ascending.1 row later

/-- The row with the greatest key. -/
def lastByKey (key : α → κ) (rows : List α) : Option α := (sortByKey key rows).getLast?

theorem lastByKey_eq_none :
    lastByKey key rows = none ↔ rows = [] := by
  rw [lastByKey, List.getLast?_eq_none_iff]
  constructor
  · intro empty
    exact List.Perm.eq_nil ((sortByKey_perm key rows).symm.trans (empty ▸ List.Perm.refl _))
  · rintro rfl
    rfl

/-- The last row is one of the rows, and no key is greater. -/
theorem lastByKey_eq_some {last : α} (found : lastByKey key rows = some last) :
    last ∈ rows ∧ ∀ row ∈ rows, key row ≤ key last := by
  obtain ⟨front, split⟩ := List.getLast?_eq_some_iff.mp found
  have ascending := sortByKey_ascending key rows
  rw [split, List.pairwise_append] at ascending
  have listed (row : α) : row ∈ rows ↔ row ∈ front ++ [last] := by
    rw [← split, mem_sortByKey]
  refine ⟨(listed last).mpr (by simp), fun row member => ?_⟩
  rcases List.mem_append.mp ((listed row).mp member) with earlier | same
  · exact ascending.2.2 row earlier last (List.mem_singleton.mpr rfl)
  · rw [List.mem_singleton.mp same]

omit [LinearOrder κ] in
/-- Rows at two positions with one key are at one position. -/
theorem position_unique (distinct : (rows.map key).Nodup) {first second : ℕ} {left right : α}
    (firstFound : rows[first]? = some left) (secondFound : rows[second]? = some right)
    (same : key left = key right) : first = second := by
  have inside : first < (rows.map key).length := by
    simpa using (List.getElem?_eq_some_iff.mp firstFound).1
  apply (List.getElem?_inj inside distinct).mp
  rw [List.getElem?_map, List.getElem?_map, firstFound, secondFound]
  exact congrArg some same

end FinopsAnalytics.DistinctKeys
