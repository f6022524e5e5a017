import FinopsAnalytics.UniqueTables

/-!
# Writes that overwrite each other

A write is aimed at the row with some unique key. Where a write leaves no trace of
the earlier ones aimed at its row, a list of writes made twice leaves what it leaves
when it is made once.
-/

namespace FinopsAnalytics.Overwrites

open UniqueTables

universe u v w
variable {α ω : Type u} {κ : Type v} {υ : Type w} [DecidableEq υ]

section Rows

variable (unique : α → υ) (target : ω → Option υ) (write : ω → α → α)

/-- The row that a list of writes leaves of a row. -/
def overwritten (writes : List ω) (row : α) : α :=
  writes.foldl (fun row next => if target next = some (unique row) then write next row else row)
    row

variable {unique target write}

theorem overwritten_append (writes : List ω) (next : ω) (row : α) :
    overwritten unique target write (writes ++ [next]) row =
      if target next = some (unique (overwritten unique target write writes row)) then
        write next (overwritten unique target write writes row)
      else overwritten unique target write writes row := by
  rw [overwritten, List.foldl_append]
  rfl

/-- What the writes keep of a row is kept of the row that they leave. -/
theorem overwritten_keeps {β : Type*} (column : α → β)
    (kept : ∀ next row, column (write next row) = column row) (writes : List ω) (row : α) :
    column (overwritten unique target write writes row) = column row := by
  induction writes generalizing row with
  | nil => rfl
  | cons next rest inductionHypothesis =>
    rw [overwritten, List.foldl_cons, ← overwritten, inductionHypothesis]
    split_ifs
    · exact kept next row
    · rfl

/-- A row at which no write is aimed stays. -/
theorem overwritten_of_missed {writes : List ω} {row : α}
    (missed : ∀ next ∈ writes, target next ≠ some (unique row)) :
    overwritten unique target write writes row = row := by
  induction writes with
  | nil => rfl
  | cons next rest inductionHypothesis =>
    rw [overwritten, List.foldl_cons, if_neg (missed next (List.mem_cons_self ..)), ← overwritten]
    exact inductionHypothesis fun other later => missed other (List.mem_cons_of_mem _ later)

/-- A write that leaves no trace of the others does so after all of them. -/
theorem write_overwritten {writes : List ω}
    (absorbed : ∀ first ∈ writes, ∀ second row, write second (write first row) = write second row)
    (next : ω) (row : α) :
    write next (overwritten unique target write writes row) = write next row := by
  induction writes generalizing row with
  | nil => rfl
  | cons first rest inductionHypothesis =>
    have later := inductionHypothesis fun other member =>
      absorbed other (List.mem_cons_of_mem _ member)
    rw [overwritten, List.foldl_cons, ← overwritten, later]
    split_ifs
    · exact absorbed first (List.mem_cons_self ..) next row
    · rfl

end Rows

section Tables

variable {key : α → κ} {unique : α → υ} {target : ω → Option υ} {write : ω → α → α}
variable {keys : ∀ next row, key (write next row) = key row}
variable {uniques : ∀ next row, unique (write next row) = unique row}

/-- The table that a list of writes leaves. The writes keep both keys. -/
def overwrite (target : ω → Option υ) (write : ω → α → α)
    (keys : ∀ next row, key (write next row) = key row)
    (uniques : ∀ next row, unique (write next row) = unique row) (table : Table key unique)
    (writes : List ω) : Table key unique :=
  table.modify (overwritten unique target write writes)
    (overwritten_keeps key keys writes) (overwritten_keeps unique uniques writes)

variable {table : Table key unique} {writes : List ω}

/-- A row that is found after some writes is what they left of the row with its key. -/
theorem findUnique?_overwrite {row : α} (member : row ∈ table.rows) :
    (overwrite target write keys uniques table writes).findUnique? (unique row) =
      some (overwritten unique target write writes row) := by
  have found := Table.findUnique?_eq_some.mpr ⟨member, (rfl : unique row = unique row)⟩
  rw [overwrite, Table.findUnique?_modify, found]
  rfl

/-- One more write to the row at which it is aimed. -/
theorem put_overwrite [DecidableEq κ] {row : α} {next : ω} (member : row ∈ table.rows)
    (aimed : target next = some (unique row)) :
    (overwrite target write keys uniques table writes).put
        (write next (overwritten unique target write writes row)) =
      overwrite target write keys uniques table (writes ++ [next]) := by
  have sameKey (other : α) : key (overwritten unique target write writes other) = key other :=
    overwritten_keeps key keys writes other
  have sameUnique (other : α) :
      unique (overwritten unique target write writes other) = unique other :=
    overwritten_keeps unique uniques writes other
  ext1
  simp only [Table.put, overwrite, Table.modify, List.map_map]
  apply List.map_congr_left
  intro other otherMember
  simp only [Function.comp_apply, overwritten_append, sameKey, sameUnique, keys, uniques, aimed,
    Option.some.injEq]
  by_cases same : unique other = unique row
  · obtain rfl := table.eq_of_unique otherMember member same
    simp
  · simp [same, Ne.symm same]

/-- Writes that every row bears already leave the table. -/
theorem overwrite_eq_self
    (borne : ∀ row ∈ table.rows, overwritten unique target write writes row = row) :
    overwrite target write keys uniques table writes = table := by
  ext1
  exact (List.map_congr_left borne).trans (List.map_id' _)

end Tables

end FinopsAnalytics.Overwrites
