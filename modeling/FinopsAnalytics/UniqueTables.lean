import Mathlib.Data.Int.Notation
import Mathlib.Data.List.Nodup
import Mathlib.Data.List.Perm.Basic

/-!
# Tables with a primary and a unique key

A table is a list of rows whose primary keys and unique keys are both free of
duplicates; the proof is part of the table. A row is replaced by a row with the
same two keys, and an insert that would repeat either key has no result.
-/

namespace FinopsAnalytics.UniqueTables

universe u v w
variable {α : Type u} {κ : Type v} {υ : Type w}

structure Table (key : α → κ) (unique : α → υ) where
  rows : List α
  distinctKeys : (rows.map key).Nodup
  distinctUnique : (rows.map unique).Nodup

/-- The table of one row. -/
def Table.single {key : α → κ} {unique : α → υ} (row : α) : Table key unique :=
  ⟨[row], List.nodup_singleton _, List.nodup_singleton _⟩

/-- Rows counted by either of two exclusive predicates. -/
theorem countP_exclusive {first second : α → Bool} {rows : List α}
    (exclusive : ∀ row, first row = true → second row = false) :
    rows.countP (fun row => first row || second row) = rows.countP first + rows.countP second := by
  induction rows with
  | nil => rfl
  | cons row rest inductionHypothesis =>
    simp only [List.countP_cons, inductionHypothesis]
    cases counted : first row with
    | true =>
      rw [exclusive row counted]
      simp only [Bool.true_or, if_true, Bool.false_eq_true, if_false]
      omega
    | false =>
      simp only [Bool.false_or, Bool.false_eq_true, if_false]
      omega

/-- A predicate that implies another and counts as many rows holds of the same rows. -/
theorem of_countP_eq {narrow wide : α → Bool} {rows : List α}
    (implies : ∀ row ∈ rows, narrow row = true → wide row = true)
    (same : rows.countP wide = rows.countP narrow) :
    ∀ row ∈ rows, wide row = true → narrow row = true := by
  induction rows with
  | nil => simp
  | cons row rest inductionHypothesis =>
    have laterImplies : ∀ other ∈ rest, narrow other = true → wide other = true :=
      fun other later => implies other (List.mem_cons_of_mem _ later)
    have fewer := List.countP_mono_left laterImplies
    have first := implies row (List.mem_cons_self ..)
    rw [List.countP_cons, List.countP_cons] at same
    have sameRest : rest.countP wide = rest.countP narrow := by
      split_ifs at same <;> first | omega | simp_all
    intro other member counted
    rcases List.mem_cons.mp member with rfl | later
    · by_contra missing
      rw [if_pos counted, if_neg missing] at same
      omega
    · exact inductionHypothesis laterImplies sameRest other later counted

namespace Table

variable {key : α → κ} {unique : α → υ}

@[ext] theorem ext {first second : Table key unique} (same : first.rows = second.rows) :
    first = second := by
  cases first
  cases second
  cases same
  rfl

def empty (key : α → κ) (unique : α → υ) : Table key unique := ⟨[], List.nodup_nil, List.nodup_nil⟩

/-- Drop the rows that a predicate selects. -/
def eraseWhere (table : Table key unique) (selected : α → Bool) : Table key unique where
  rows := table.rows.filter fun row => !selected row
  distinctKeys := table.distinctKeys.sublist (List.filter_sublist.map key)
  distinctUnique := table.distinctUnique.sublist (List.filter_sublist.map unique)

theorem mem_eraseWhere {table : Table key unique} {selected : α → Bool} {row : α} :
    row ∈ (table.eraseWhere selected).rows ↔ row ∈ table.rows ∧ selected row = false := by
  simp [eraseWhere]

/-- Rows with one primary key are one row. -/
theorem eq_of_key (table : Table key unique) {first second : α} (firstMember : first ∈ table.rows)
    (secondMember : second ∈ table.rows) (same : key first = key second) : first = second :=
  List.inj_on_of_nodup_map table.distinctKeys firstMember secondMember same

/-- Rows with one unique key are one row. -/
theorem eq_of_unique (table : Table key unique) {first second : α}
    (firstMember : first ∈ table.rows) (secondMember : second ∈ table.rows)
    (same : unique first = unique second) : first = second :=
  List.inj_on_of_nodup_map table.distinctUnique firstMember secondMember same

/-- The rows are distinct. -/
theorem nodup_rows (table : Table key unique) : table.rows.Nodup :=
  List.Nodup.of_map key table.distinctKeys

/-- Two tables count equally many rows where the counted rows are the same. -/
theorem countP_eq_of_mem {first second : Table key unique} {left right : α → Bool}
    (same : ∀ row, (row ∈ first.rows ∧ left row = true) ↔ (row ∈ second.rows ∧ right row = true)) :
    first.rows.countP left = second.rows.countP right := by
  rw [List.countP_eq_length_filter, List.countP_eq_length_filter]
  apply List.Perm.length_eq
  rw [List.perm_ext_iff_of_nodup (first.nodup_rows.filter left) (second.nodup_rows.filter right)]
  intro row
  rw [List.mem_filter, List.mem_filter]
  exact same row

variable [DecidableEq κ] [DecidableEq υ]

def find? (table : Table key unique) (wanted : κ) : Option α :=
  table.rows.find? fun row => key row = wanted

def findUnique? (table : Table key unique) (wanted : υ) : Option α :=
  table.rows.find? fun row => unique row = wanted

/-- Replace the row with both keys of the given one. -/
def put (table : Table key unique) (next : α) : Table key unique where
  rows := table.rows.map fun row =>
    if key row = key next ∧ unique row = unique next then next else row
  distinctKeys := by
    rw [List.map_map, show (key ∘ fun row =>
      if key row = key next ∧ unique row = unique next then next else row) = key from ?_]
    · exact table.distinctKeys
    · funext row
      by_cases same : key row = key next ∧ unique row = unique next <;> simp [same]
  distinctUnique := by
    rw [List.map_map, show (unique ∘ fun row =>
      if key row = key next ∧ unique row = unique next then next else row) = unique from ?_]
    · exact table.distinctUnique
    · funext row
      by_cases same : key row = key next ∧ unique row = unique next <;> simp [same]

/-- Append a row whose keys are both new. -/
def insert (table : Table key unique) (next : α) : Option (Table key unique) :=
  if fresh : key next ∉ table.rows.map key ∧ unique next ∉ table.rows.map unique then
    some
      { rows := table.rows ++ [next]
        distinctKeys := by
          rw [List.map_append]
          exact List.nodup_append.mpr ⟨table.distinctKeys, List.nodup_cons.mpr
            ⟨List.not_mem_nil, List.nodup_nil⟩, fun _ member _ last same => fresh.1
              (List.mem_singleton.mp last ▸ same ▸ member)⟩
        distinctUnique := by
          rw [List.map_append]
          exact List.nodup_append.mpr ⟨table.distinctUnique, List.nodup_cons.mpr
            ⟨List.not_mem_nil, List.nodup_nil⟩, fun _ member _ last same => fresh.2
              (List.mem_singleton.mp last ▸ same ▸ member)⟩ }
  else none

variable {table : Table key unique} {wanted : υ} {stored next : α}

omit [DecidableEq υ] in
/-- Keys are unique, so a lookup is membership. -/
theorem find?_eq_some {wanted : κ} {row : α} :
    table.find? wanted = some row ↔ row ∈ table.rows ∧ key row = wanted := by
  constructor
  · intro found
    exact ⟨List.mem_of_find?_eq_some found, by simpa using List.find?_some found⟩
  · rintro ⟨member, rfl⟩
    obtain ⟨other, found⟩ : ∃ other, table.find? (key row) = some other := by
      rw [← Option.isSome_iff_exists, find?, List.find?_isSome]
      exact ⟨row, member, by simp⟩
    rw [found, table.eq_of_key (List.mem_of_find?_eq_some found) member
      (by simpa using List.find?_some found)]

omit [DecidableEq κ] in
/-- So is a lookup by the unique column. -/
theorem findUnique?_eq_some {row : α} :
    table.findUnique? wanted = some row ↔ row ∈ table.rows ∧ unique row = wanted := by
  constructor
  · intro found
    exact ⟨List.mem_of_find?_eq_some found, by simpa using List.find?_some found⟩
  · rintro ⟨member, rfl⟩
    obtain ⟨other, found⟩ : ∃ other, table.findUnique? (unique row) = some other := by
      rw [← Option.isSome_iff_exists, findUnique?, List.find?_isSome]
      exact ⟨row, member, by simp⟩
    rw [found, table.eq_of_unique (List.mem_of_find?_eq_some found) member
      (by simpa using List.find?_some found)]

omit [DecidableEq κ] in
theorem findUnique?_eq_none :
    table.findUnique? wanted = none ↔ ∀ row ∈ table.rows, unique row ≠ wanted := by
  simp [findUnique?, List.find?_eq_none]

/-- After a replacement the table holds the new row and the rows of other
primary keys. -/
theorem mem_put (member : stored ∈ table.rows) (sameKey : key stored = key next)
    (sameUnique : unique stored = unique next) {row : α} :
    row ∈ (table.put next).rows ↔ row = next ∨ row ∈ table.rows ∧ key row ≠ key next := by
  simp only [put, List.mem_map]
  constructor
  · rintro ⟨old, oldMember, rfl⟩
    by_cases same : key old = key next ∧ unique old = unique next
    · exact Or.inl (if_pos same)
    · rw [if_neg same]
      refine Or.inr ⟨oldMember, fun sameOld => same ⟨sameOld, ?_⟩⟩
      rw [table.eq_of_key oldMember member (sameOld.trans sameKey.symm), sameUnique]
  · rintro (rfl | ⟨oldMember, different⟩)
    · exact ⟨stored, member, if_pos ⟨sameKey, sameUnique⟩⟩
    · exact ⟨row, oldMember, if_neg fun same => different same.1⟩

/-- A row put is found under its key. -/
theorem find?_put (member : stored ∈ table.rows) (sameKey : key stored = key next)
    (sameUnique : unique stored = unique next) :
    (table.put next).find? (key next) = some next :=
  find?_eq_some.mpr ⟨(mem_put member sameKey sameUnique).mpr (Or.inl rfl), rfl⟩

/-- A replacement keeps what the replaced row and the new one agree on. -/
theorem map_put {β : Type*} (column : α → β) (table : Table key unique) {next : α}
    (same : ∀ row, key row = key next → unique row = unique next → column row = column next) :
    (table.put next).rows.map column = table.rows.map column := by
  rw [put, List.map_map]
  apply List.map_congr_left
  intro row _
  by_cases replaced : key row = key next ∧ unique row = unique next
  · simp [replaced, same row replaced.1 replaced.2]
  · simp [replaced]

/-- A replacement, read off the unique keys alone. -/
theorem rows_put_unique (member : stored ∈ table.rows) (sameKey : key stored = key next)
    (sameUnique : unique stored = unique next) :
    (table.put next).rows =
      table.rows.map fun row => if unique row = unique next then next else row := by
  apply List.map_congr_left
  intro row rowMember
  by_cases same : unique row = unique next
  · obtain rfl := table.eq_of_unique rowMember member (same.trans sameUnique.symm)
    rw [if_pos ⟨sameKey, same⟩, if_pos same]
  · rw [if_neg fun both => same both.2, if_neg same]

omit [DecidableEq κ] in
/-- A unique key counts one row. -/
theorem countP_unique {stored : α} (member : stored ∈ table.rows) (holds : α → Bool) :
    table.rows.countP (fun row => unique row = unique stored && holds row) =
      if holds stored then 1 else 0 := by
  obtain ⟨before, after, split⟩ := List.append_of_mem member
  have others : ∀ row ∈ before ++ after, unique row ≠ unique stored := by
    have distinct := table.distinctUnique
    rw [split, List.map_append, List.map_cons, List.nodup_middle, List.nodup_cons,
      ← List.map_append] at distinct
    exact fun row rowMember same => distinct.1 (List.mem_map.mpr ⟨row, rowMember, same⟩)
  have none (rows : List α) (inside : ∀ row ∈ rows, row ∈ before ++ after) :
      rows.countP (fun row => unique row = unique stored && holds row) = 0 := by
    rw [List.countP_eq_zero]
    intro row rowMember
    simp [others row (inside row rowMember)]
  rw [split, List.countP_append, List.countP_cons,
    none before fun row => List.mem_append_left _, none after fun row => List.mem_append_right _]
  simp

/-- The later of two replacements of one row stands. -/
theorem put_put (table : Table key unique) {first second : α} (sameKey : key first = key second)
    (sameUnique : unique first = unique second) :
    (table.put first).put second = table.put second := by
  ext1
  simp only [put, List.map_map]
  apply List.map_congr_left
  intro row _
  by_cases same : key row = key second ∧ unique row = unique second <;>
    simp [same, sameKey, sameUnique]

/-- Replacing a row by itself changes nothing. -/
theorem put_self {row : α} (member : row ∈ table.rows) :
    table.put row = table := by
  ext1
  refine (List.map_congr_left fun other otherMember => ?_).trans (List.map_id' _)
  split_ifs with same
  · exact (table.eq_of_key otherMember member same.1).symm
  · rfl

/-- Replace every row by what a function makes of it, its keys being kept. -/
def modify (table : Table key unique) (replaced : α → α)
    (keys : ∀ row, key (replaced row) = key row)
    (uniques : ∀ row, unique (replaced row) = unique row) : Table key unique where
  rows := table.rows.map replaced
  distinctKeys := by
    rw [List.map_map, show key ∘ replaced = key from funext keys]
    exact table.distinctKeys
  distinctUnique := by
    rw [List.map_map, show unique ∘ replaced = unique from funext uniques]
    exact table.distinctUnique

omit [DecidableEq κ] in
theorem findUnique?_modify {replaced : α → α} {keys : ∀ row, key (replaced row) = key row}
    {uniques : ∀ row, unique (replaced row) = unique row} :
    (table.modify replaced keys uniques).findUnique? wanted =
      (table.findUnique? wanted).map replaced := by
  simp only [findUnique?, modify, List.find?_map]
  congr 2
  funext row
  simp [uniques]

/-- A replaced row is found under its own key, the other rows under theirs. -/
theorem findUnique?_put (member : stored ∈ table.rows) (sameKey : key stored = key next)
    (sameUnique : unique stored = unique next) :
    (table.put next).findUnique? wanted =
      if wanted = unique next then some next else table.findUnique? wanted := by
  split_ifs with same
  · rw [findUnique?_eq_some, mem_put member sameKey sameUnique]
    exact ⟨Or.inl rfl, same.symm⟩
  · cases found : table.findUnique? wanted with
    | none =>
      rw [findUnique?_eq_none] at found ⊢
      intro row rowMember
      rcases (mem_put member sameKey sameUnique).mp rowMember with rfl | ⟨old, -⟩
      · exact Ne.symm same
      · exact found row old
    | some row =>
      rw [findUnique?_eq_some] at found ⊢
      refine ⟨(mem_put member sameKey sameUnique).mpr (Or.inr ⟨found.1, fun keys => ?_⟩), found.2⟩
      obtain rfl := table.eq_of_key found.1 member (keys.trans sameKey.symm)
      exact same (found.2.symm.trans sameUnique)

section Pending

variable {table current : Table key unique} {replaced : α → α} {pending : List κ} {row : α}

/-- One more row of a table whose rows are replaced one after the other. -/
theorem rows_put_pending (keys : ∀ row, key (replaced row) = key row)
    (uniques : ∀ row, unique (replaced row) = unique row)
    (rows : current.rows = table.rows.map fun other =>
      if key other ∈ key row :: pending then other else replaced other)
    (member : row ∈ table.rows) (last : key row ∉ pending) :
    (current.put (replaced row)).rows = table.rows.map fun other =>
      if key other ∈ pending then other else replaced other := by
  simp only [put, rows, List.map_map]
  apply List.map_congr_left
  intro other otherMember
  by_cases same : key other = key row
  · obtain rfl := table.eq_of_key otherMember member same
    simp [last, keys, uniques]
  · by_cases waiting : key other ∈ pending <;> simp [same, waiting, keys]

omit [DecidableEq υ] in
/-- A row that stays as it is needs no replacement. -/
theorem rows_skip_pending (kept : replaced row = row) (member : row ∈ table.rows) :
    (table.rows.map fun other => if key other ∈ key row :: pending then other
      else replaced other) =
      table.rows.map fun other => if key other ∈ pending then other else replaced other := by
  apply List.map_congr_left
  intro other otherMember
  by_cases same : key other = key row
  · obtain rfl := table.eq_of_key otherMember member same
    simp [kept]
  · simp [same]

end Pending

variable {table inserted : Table key unique}

/-- An accepted insert appends a row with new keys. -/
theorem rows_of_insert {next : α} (result : table.insert next = some inserted) :
    inserted.rows = table.rows ++ [next] ∧ key next ∉ table.rows.map key ∧
      unique next ∉ table.rows.map unique := by
  unfold insert at result
  split at result
  · rename_i fresh
    obtain rfl := Option.some.inj result
    exact ⟨rfl, fresh⟩
  · exact absurd result (by simp)

/-- An inserted row is found under its own key, the other rows under theirs. -/
theorem findUnique?_insert {next : α} (result : table.insert next = some inserted) {wanted : υ} :
    inserted.findUnique? wanted =
      if wanted = unique next then some next else table.findUnique? wanted := by
  obtain ⟨rows, -, -⟩ := rows_of_insert result
  split_ifs with same
  · rw [findUnique?_eq_some, rows]
    exact ⟨by simp, same.symm⟩
  · rw [findUnique?, rows, List.find?_append]
    simp [findUnique?, Ne.symm same]

/-- An insert succeeds where both keys are new. -/
theorem insert_of_fresh {table : Table key unique} {next : α}
    (freshKey : key next ∉ table.rows.map key)
    (freshUnique : unique next ∉ table.rows.map unique) :
    ∃ inserted, table.insert next = some inserted := by
  simp [insert, freshKey, freshUnique]

/-- A row that is stored can be replaced before or after another one is added. -/
theorem insert_put {next stored moved : α} (result : table.insert next = some inserted)
    (member : stored ∈ table.rows) (sameKey : key stored = key moved) :
    (table.put moved).insert next = some (inserted.put moved) := by
  obtain ⟨rows, freshKey, freshUnique⟩ := rows_of_insert result
  have keys : (table.put moved).rows.map key = table.rows.map key :=
    map_put key table fun _ same _ => same
  have uniques : (table.put moved).rows.map unique = table.rows.map unique :=
    map_put unique table fun _ _ same => same
  obtain ⟨both, added⟩ := @insert_of_fresh _ _ _ key unique _ _ (table.put moved) next
    (keys ▸ freshKey) (uniques ▸ freshUnique)
  rw [added, Option.some.injEq]
  ext1
  have other : ¬(key next = key moved ∧ unique next = unique moved) := by
    rintro ⟨same, -⟩
    exact freshKey (same ▸ sameKey ▸ List.mem_map_of_mem member)
  rw [(rows_of_insert added).1]
  simp only [put, rows, List.map_append, List.map_singleton, if_neg other]

omit [DecidableEq κ] [DecidableEq υ] in
/-- Every row of the first table has a row with its primary key in the second,
related to it. -/
def Carries (related : α → α → Prop) (before after : Table key unique) : Prop :=
  ∀ row ∈ before.rows, ∃ next ∈ after.rows, key next = key row ∧ related row next

section Carries

variable {related : α → α → Prop} {before middle after : Table key unique}

omit [DecidableEq κ] [DecidableEq υ] in
theorem Carries.refl (reflexive : ∀ row, related row row) (table : Table key unique) :
    Carries related table table :=
  fun row member => ⟨row, member, rfl, reflexive row⟩

omit [DecidableEq κ] [DecidableEq υ] in
theorem Carries.trans (transitive : ∀ {first second third : α}, related first second →
      related second third → related first third)
    (first : Carries related before middle) (second : Carries related middle after) :
    Carries related before after := by
  intro row member
  obtain ⟨next, nextMember, sameKey, related⟩ := first row member
  obtain ⟨last, lastMember, lastKey, further⟩ := second next nextMember
  exact ⟨last, lastMember, lastKey.trans sameKey, transitive related further⟩

/-- A replacement carries every row if it carries the one it replaces. -/
theorem Carries.put (reflexive : ∀ row, related row row) (table : Table key unique) {next : α}
    (step : ∀ row ∈ table.rows, key row = key next → unique row = unique next →
      related row next) : Carries related table (table.put next) := by
  intro row member
  by_cases same : key row = key next ∧ unique row = unique next
  · exact ⟨next, List.mem_map.mpr ⟨row, member, if_pos same⟩, same.1.symm,
      step row member same.1 same.2⟩
  · exact ⟨row, List.mem_map.mpr ⟨row, member, if_neg same⟩, rfl, reflexive row⟩

theorem Carries.insert (reflexive : ∀ row, related row row) {next : α}
    (inserted : before.insert next = some after) : Carries related before after := by
  intro row member
  refine ⟨row, ?_, rfl, reflexive row⟩
  rw [(rows_of_insert inserted).1]
  exact List.mem_append_left _ member

end Carries

/-- Every row is carried, and every row with a new primary key is as a new row
should be. -/
structure Evolves (related : α → α → Prop) (new : α → Prop) (before after : Table key unique) :
    Prop where
  carries : Carries related before after
  fresh : ∀ row ∈ after.rows, (∃ old ∈ before.rows, key old = key row) ∨ new row

section Evolves

variable {related : α → α → Prop} {new : α → Prop} {before middle after : Table key unique}

omit [DecidableEq κ] [DecidableEq υ] in
theorem Evolves.refl (reflexive : ∀ row, related row row) (table : Table key unique) :
    Evolves related new table table :=
  ⟨Carries.refl reflexive table, fun row member => Or.inl ⟨row, member, rfl⟩⟩

omit [DecidableEq κ] [DecidableEq υ] in
/-- Evolutions compose. -/
theorem Evolves.trans (transitive : ∀ {first second third : α}, related first second →
      related second third → related first third)
    (kept : ∀ {first second : α}, related first second → new first → new second)
    (first : Evolves related new before middle) (second : Evolves related new middle after) :
    Evolves related new before after := by
  refine ⟨first.carries.trans transitive second.carries, fun row member => ?_⟩
  rcases second.fresh row member with ⟨old, oldMember, sameKey⟩ | new
  · rcases first.fresh old oldMember with ⟨oldest, oldestMember, oldestKey⟩ | new
    · exact Or.inl ⟨oldest, oldestMember, oldestKey.trans sameKey⟩
    · -- the row that carries the new one is this row
      obtain ⟨next, nextMember, nextKey, carried⟩ := second.carries old oldMember
      obtain rfl := after.eq_of_key nextMember member (nextKey.trans sameKey)
      exact Or.inr (kept carried new)
  · exact Or.inr new

/-- A put evolves the row it replaces. -/
theorem Evolves.put (reflexive : ∀ row, related row row) (table : Table key unique)
    {stored next : α} (member : stored ∈ table.rows) (sameKey : key stored = key next)
    (step : related stored next) : Evolves related new table (table.put next) := by
  constructor
  · apply Carries.put reflexive
    intro row rowMember rowKey _
    rwa [table.eq_of_key rowMember member (rowKey.trans sameKey.symm)]
  · intro row rowMember
    obtain ⟨old, oldMember, rfl⟩ := List.mem_map.mp rowMember
    refine Or.inl ⟨old, oldMember, ?_⟩
    split_ifs with same
    · exact same.1
    · rfl

theorem Evolves.insert (reflexive : ∀ row, related row row) {next : α}
    (inserted : before.insert next = some after) (fresh : new next) :
    Evolves related new before after := by
  refine ⟨Carries.insert reflexive inserted, fun row member => ?_⟩
  rw [(rows_of_insert inserted).1] at member
  rcases List.mem_append.mp member with old | last
  · exact Or.inl ⟨row, old, rfl⟩
  · exact Or.inr (by rwa [List.mem_singleton.mp last])

omit [DecidableEq κ] [DecidableEq υ] in
theorem Evolves.mono {wider : α → Prop} (evolved : Evolves related new before after)
    (weaker : ∀ row, new row → wider row) : Evolves related wider before after :=
  ⟨evolved.carries, fun row member => (evolved.fresh row member).imp id (weaker row)⟩

omit [DecidableEq κ] [DecidableEq υ] in
/-- A row that is not new comes from the row with its primary key. -/
theorem Evolves.origin (evolved : Evolves related new before after) {row : α}
    (member : row ∈ after.rows) : (∃ old ∈ before.rows, key old = key row ∧ related old row) ∨
      ((∀ old ∈ before.rows, key old ≠ key row) ∧ new row) := by
  rcases evolved.fresh row member with ⟨old, oldMember, sameKey⟩ | isNew
  · obtain ⟨next, nextMember, nextKey, carried⟩ := evolved.carries old oldMember
    obtain rfl := after.eq_of_key nextMember member (nextKey.trans sameKey)
    exact Or.inl ⟨old, oldMember, sameKey, carried⟩
  · by_cases known : ∃ old ∈ before.rows, key old = key row
    · obtain ⟨old, oldMember, sameKey⟩ := known
      obtain ⟨next, nextMember, nextKey, carried⟩ := evolved.carries old oldMember
      obtain rfl := after.eq_of_key nextMember member (nextKey.trans sameKey)
      exact Or.inl ⟨old, oldMember, sameKey, carried⟩
    · exact Or.inr ⟨fun old oldMember same => known ⟨old, oldMember, same⟩, isNew⟩

end Evolves

/-- A replacement keeps what holds of every row and of the new one. -/
theorem forall_put {holds : α → Prop} {table : Table key unique} {next : α}
    (rows : ∀ row ∈ table.rows, holds row) (new : holds next) :
    ∀ row ∈ (table.put next).rows, holds row := by
  intro row member
  obtain ⟨old, oldMember, rfl⟩ := List.mem_map.mp member
  split
  · exact new
  · exact rows old oldMember

/-- What all rows and the new one satisfy, all rows satisfy. -/
theorem forall_insert {holds : α → Prop} {table inserted : Table key unique} {next : α}
    (result : table.insert next = some inserted) (rows : ∀ row ∈ table.rows, holds row)
    (new : holds next) : ∀ row ∈ inserted.rows, holds row := by
  intro row member
  rw [(rows_of_insert result).1] at member
  rcases List.mem_append.mp member with old | last
  · exact rows row old
  · rwa [List.mem_singleton.mp last]

end Table

section Sequence

variable {number : α → ℤ} {unique : α → υ}

/-- The next number of a table that numbers its rows. -/
def Table.nextNumber (table : Table number unique) : ℤ :=
  table.rows.foldr (fun row bound => max (number row + 1) bound) 1

/-- The next number is above every number in use. -/
theorem Table.lt_nextNumber {table : Table number unique} {row : α} (member : row ∈ table.rows) :
    number row < table.nextNumber := by
  have above (rows : List α) : ∀ row ∈ rows,
      number row < rows.foldr (fun other bound => max (number other + 1) bound) 1 := by
    induction rows with
    | nil => simp
    | cons first rest inductionHypothesis =>
      intro row member
      rw [List.foldr_cons]
      rcases List.mem_cons.mp member with rfl | later
      · omega
      · have bound := inductionHypothesis row later
        omega
  exact above table.rows row member

/-- The next number is in use nowhere. -/
theorem Table.nextNumber_fresh (table : Table number unique) :
    table.nextNumber ∉ table.rows.map number := by
  rw [List.mem_map]
  rintro ⟨row, member, same⟩
  have bound := table.lt_nextNumber member
  omega

variable [DecidableEq υ]

/-- A replacement keeps the numbers in use. -/
theorem Table.nextNumber_put (table : Table number unique) (moved : α) :
    (table.put moved).nextNumber = table.nextNumber := by
  have sameNumbers : (table.put moved).rows.map number = table.rows.map number :=
    Table.map_put number table fun _ same _ => same
  have bound (rows : List α) : rows.foldr (fun row bound => max (number row + 1) bound) 1 =
      (rows.map number).foldr (fun next bound => max (next + 1) bound) 1 := by
    rw [List.foldr_map]
  rw [Table.nextNumber, Table.nextNumber, bound, bound, sameNumbers]

end Sequence

end FinopsAnalytics.UniqueTables
