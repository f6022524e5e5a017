import FinopsAnalytics.Dictionaries
import FinopsAnalytics.GroupedSums

/-!
# Accumulating rows by a key

A loop that reads the entry of a row's key, or a starting value where there is none,
adds the row and sets the entry again keeps one entry for each key that occurs. Each
holds what the rows of its key add up to in their own order, whatever rows stand
between them.
-/

namespace FinopsAnalytics.KeyedAccumulations

open Dictionaries GroupedSums

universe u v w
variable {α : Type u} {κ : Type v} {β : Type w} [DecidableEq κ]
variable (key : α → κ) (initial : α → β) (step : β → α → β)

/-- One turn of the loop. -/
def addRow (entries : List (κ × β)) (row : α) : List (κ × β) :=
  setKey (key row) (step ((entries.lookup (key row)).getD (initial row)) row) entries

/-- The entries after all rows. -/
def accumulate (rows : List α) : List (κ × β) :=
  rows.foldl (addRow key initial step) []

/-- What rows of one key add up to, the first of them giving the starting value. -/
def folded : List α → Option β
  | [] => none
  | first :: rest => some ((first :: rest).foldl step (initial first))

theorem accumulate_concat (rows : List α) (row : α) :
    accumulate key initial step (rows ++ [row]) =
      addRow key initial step (accumulate key initial step rows) row := by
  simp [accumulate]

theorem folded_concat (rows : List α) (row : α) :
    folded initial step (rows ++ [row]) =
      some (step ((folded initial step rows).getD (initial row)) row) := by
  cases rows with
  | nil => rfl
  | cons first rest => simp [folded]

/-- The keys of the entries are distinct. -/
theorem accumulate_nodup (rows : List α) :
    ((accumulate key initial step rows).map Prod.fst).Nodup := by
  induction rows using List.reverseRecOn with
  | nil => exact List.nodup_nil
  | append_singleton rows row inductionHypothesis =>
    rw [accumulate_concat]
    exact setKey_nodup inductionHypothesis

/-- Under a key stands what the rows of that key add up to. -/
theorem lookup_accumulate (rows : List α) (wanted : κ) :
    (accumulate key initial step rows).lookup wanted =
      folded initial step (rows.filter fun row => key row = wanted) := by
  induction rows using List.reverseRecOn generalizing wanted with
  | nil => rfl
  | append_singleton rows row inductionHypothesis =>
    rw [accumulate_concat, addRow, lookup_setKey, List.filter_append]
    by_cases same : wanted = key row
    · subst same
      have own : [row].filter (fun other => key other = key row) = [row] := by simp
      rw [if_pos rfl, own, folded_concat, inductionHypothesis]
    · have others : [row].filter (fun other => key other = wanted) = [] := by
        simp [Ne.symm same]
      rw [if_neg same, others, List.append_nil, inductionHypothesis]

/-- An entry holds what the rows of its key add up to. -/
theorem mem_accumulate {rows : List α} {entry : κ × β} :
    entry ∈ accumulate key initial step rows ↔
      folded initial step (rows.filter fun row => key row = entry.1) = some entry.2 := by
  rw [← lookup_accumulate key initial step rows entry.1]
  exact ⟨lookup_of_mem (accumulate_nodup key initial step rows), mem_of_lookup⟩

/-- The keys are those of the rows. -/
theorem mem_keys_accumulate {rows : List α} {wanted : κ} :
    wanted ∈ (accumulate key initial step rows).map Prod.fst ↔ ∃ row ∈ rows, key row = wanted := by
  have listed : wanted ∈ (accumulate key initial step rows).map Prod.fst ↔
      ∃ value, folded initial step (rows.filter fun row => key row = wanted) = some value := by
    constructor
    · intro member
      obtain ⟨entry, entryMember, rfl⟩ := List.mem_map.mp member
      exact ⟨entry.2, (mem_accumulate key initial step).mp entryMember⟩
    · rintro ⟨value, isValue⟩
      have entryMember : (wanted, value) ∈ accumulate key initial step rows :=
        (mem_accumulate key initial step).mpr isValue
      exact List.mem_map_of_mem entryMember
  rw [listed]
  constructor
  · rintro ⟨value, isValue⟩
    cases members : rows.filter fun row => key row = wanted with
    | nil => simp [members, folded] at isValue
    | cons first rest =>
      have member : first ∈ rows.filter fun row => key row = wanted := by
        rw [members]
        exact List.mem_cons_self ..
      obtain ⟨listed, same⟩ := List.mem_filter.mp member
      exact ⟨first, listed, of_decide_eq_true same⟩
  · rintro ⟨row, member, same⟩
    have selected : row ∈ rows.filter fun row => key row = wanted :=
      List.mem_filter.mpr ⟨member, decide_eq_true same⟩
    cases members : rows.filter fun row => key row = wanted with
    | nil => simp [members] at selected
    | cons first rest => exact ⟨_, rfl⟩

end FinopsAnalytics.KeyedAccumulations
