import FinopsAnalytics.UniqueTables

/-!
# Tables shared by open transactions

A table holds the committed rows and the rows of the transactions that are still
open. Its unique index covers all of them: an insert that meets a row of another
open transaction waits for its end, and one that meets a row that is visible to it
violates the constraint. A transaction sees the committed rows and its own.
-/

namespace FinopsAnalytics.SharedTables

open UniqueTables

universe u v w x
variable {α : Type u} {κ : Type v} {υ : Type w} {σ : Type x}

/-- A row, with the open transaction that wrote it. -/
structure Version (α : Type u) (σ : Type x) where
  row : α
  writer : Option σ

/-- A table with its uncommitted rows. -/
abbrev SharedTable (σ : Type x) (key : α → κ) (unique : α → υ) :=
  Table (fun version : Version α σ => key version.row) (fun version => unique version.row)

/-- The row is committed or written by the session. -/
def Version.seenBy [DecidableEq σ] (version : Version α σ) (session : σ) : Bool :=
  version.writer = none || version.writer = some session

/-- What an insert comes to. -/
inductive Insertion (σ : Type x) (key : α → κ) (unique : α → υ) where
  | inserted (table : SharedTable σ key unique)
  | violated
  | waits

namespace SharedTable

variable {key : α → κ} {unique : α → υ}

/-- The committed rows. -/
def committed (table : SharedTable σ key unique) : List α :=
  (table.rows.filter fun version => version.writer.isNone).map Version.row

/-- The rows are all committed. -/
def ofTable (table : Table key unique) : SharedTable σ key unique where
  rows := table.rows.map fun row => ⟨row, none⟩
  distinctKeys := by
    rw [List.map_map]
    exact table.distinctKeys
  distinctUnique := by
    rw [List.map_map]
    exact table.distinctUnique

theorem mem_committed {table : SharedTable σ key unique} {row : α} :
    row ∈ table.committed ↔ ⟨row, none⟩ ∈ table.rows := by
  simp only [committed, List.mem_map, List.mem_filter, Option.isNone_iff_eq_none]
  constructor
  · rintro ⟨⟨found, writer⟩, ⟨member, rfl⟩, rfl⟩
    exact member
  · intro member
    exact ⟨_, ⟨member, rfl⟩, rfl⟩

variable [DecidableEq σ]

/-- The rows that a session sees. -/
def visible (table : SharedTable σ key unique) (session : σ) : List α :=
  (table.rows.filter fun version => version.seenBy session).map Version.row

theorem mem_visible {table : SharedTable σ key unique} {session : σ} {row : α} :
    row ∈ table.visible session ↔
      ⟨row, none⟩ ∈ table.rows ∨ ⟨row, some session⟩ ∈ table.rows := by
  simp only [visible, List.mem_map, List.mem_filter, Version.seenBy, Bool.or_eq_true,
    decide_eq_true_eq]
  constructor
  · rintro ⟨⟨found, writer⟩, ⟨member, rfl | rfl⟩, rfl⟩
    · exact Or.inl member
    · exact Or.inr member
  · rintro (member | member)
    · exact ⟨_, ⟨member, Or.inl rfl⟩, rfl⟩
    · exact ⟨_, ⟨member, Or.inr rfl⟩, rfl⟩

/-- The rows of a session become committed. -/
def commit (table : SharedTable σ key unique) (session : σ) : SharedTable σ key unique where
  rows := table.rows.map fun version =>
    if version.writer = some session then ⟨version.row, none⟩ else version
  distinctKeys := by
    rw [List.map_map, List.map_congr_left (g := fun version => key version.row)]
    · exact table.distinctKeys
    · intro version _
      simp only [Function.comp_apply]
      split <;> rfl
  distinctUnique := by
    rw [List.map_map, List.map_congr_left (g := fun version => unique version.row)]
    · exact table.distinctUnique
    · intro version _
      simp only [Function.comp_apply]
      split <;> rfl

/-- The rows of a session are dropped. -/
def rollback (table : SharedTable σ key unique) (session : σ) : SharedTable σ key unique :=
  table.eraseWhere fun version => version.writer = some session

variable {table : SharedTable σ key unique} {session other : σ} {row : α}

theorem committed_of_commit :
    ⟨row, none⟩ ∈ (table.commit session).rows ↔
      ⟨row, none⟩ ∈ table.rows ∨ ⟨row, some session⟩ ∈ table.rows := by
  simp only [commit, List.mem_map]
  constructor
  · rintro ⟨⟨found, writer⟩, member, same⟩
    split at same
    · rename_i own
      cases same
      cases own
      exact Or.inr member
    · cases same
      exact Or.inl member
  · rintro (member | member)
    · exact ⟨_, member, by simp⟩
    · exact ⟨_, member, by simp⟩

theorem open_of_commit :
    ⟨row, some other⟩ ∈ (table.commit session).rows ↔
      other ≠ session ∧ ⟨row, some other⟩ ∈ table.rows := by
  simp only [commit, List.mem_map]
  constructor
  · rintro ⟨⟨found, writer⟩, member, same⟩
    split at same
    · cases same
    · rename_i foreign
      cases same
      exact ⟨fun own => foreign (by rw [own]), member⟩
  · rintro ⟨foreign, member⟩
    exact ⟨_, member, by simp [foreign]⟩

/-- The rows stay; those of the session are committed. -/
theorem mem_commit {version : Version α σ} (member : version ∈ (table.commit session).rows) :
    ∃ before ∈ table.rows, version.row = before.row ∧
      (version.writer = none ∨ version = before ∧ before.writer ≠ some session) := by
  obtain ⟨before, stored, same⟩ := List.mem_map.mp member
  split at same
  · exact ⟨before, stored, by rw [← same], Or.inl (by rw [← same])⟩
  · rename_i foreign
    exact ⟨before, stored, by rw [same], Or.inr ⟨same.symm, foreign⟩⟩

theorem committed_of_rollback :
    ⟨row, none⟩ ∈ (table.rollback session).rows ↔ ⟨row, none⟩ ∈ table.rows := by
  simp [rollback, Table.mem_eraseWhere]

theorem open_of_rollback :
    ⟨row, some other⟩ ∈ (table.rollback session).rows ↔
      other ≠ session ∧ ⟨row, some other⟩ ∈ table.rows := by
  simp [rollback, Table.mem_eraseWhere, and_comm]

/-- A commit takes nothing from the sight of a session. -/
theorem visible_commit (member : row ∈ table.visible other) :
    row ∈ (table.commit session).visible other := by
  rw [mem_visible, committed_of_commit, open_of_commit]
  rcases mem_visible.mp member with stored | own
  · exact Or.inl (Or.inl stored)
  · by_cases same : other = session
    · exact Or.inl (Or.inr (same ▸ own))
    · exact Or.inr ⟨same, own⟩

/-- A rollback takes nothing from the sight of the other sessions. -/
theorem visible_rollback (foreign : other ≠ session) (member : row ∈ table.visible other) :
    row ∈ (table.rollback session).visible other := by
  rw [mem_visible, committed_of_rollback, open_of_rollback]
  rcases mem_visible.mp member with stored | own
  · exact Or.inl stored
  · exact Or.inr ⟨foreign, own⟩

variable [DecidableEq κ] [DecidableEq υ]

/-- `INSERT` of a session, as the unique index decides it. -/
def insertRow (table : SharedTable σ key unique) (session : σ) (row : α) :
    Insertion σ key unique :=
  match table.insert ⟨row, some session⟩ with
  | some inserted => .inserted inserted
  | none =>
    if table.rows.any fun version => (key version.row = key row ∨ unique version.row = unique row) &&
        !version.seenBy session then .waits
    else .violated

variable {inserted : SharedTable σ key unique}

theorem rows_of_insertRow (result : table.insertRow session row = .inserted inserted) :
    inserted.rows = table.rows ++ [⟨row, some session⟩] := by
  unfold insertRow at result
  split at result
  · rename_i found
    cases result
    exact (Table.rows_of_insert found).1
  · split at result <;> cases result

/-- A constraint is violated by a row that the session sees. -/
theorem seen_of_violated (result : table.insertRow session row = .violated) :
    ∃ stored ∈ table.visible session, key stored = key row ∨ unique stored = unique row := by
  unfold insertRow at result
  split at result
  · cases result
  · rename_i refused
    split at result
    · cases result
    · rename_i seen
      obtain ⟨version, member, collides⟩ : ∃ version ∈ table.rows,
          key version.row = key row ∨ unique version.row = unique row := by
        by_contra absent
        push Not at absent
        obtain ⟨inserted, found⟩ : ∃ inserted, table.insert ⟨row, some session⟩ = some inserted :=
          Table.insert_of_fresh
          (by
            intro listed
            obtain ⟨version, member, same⟩ := List.mem_map.mp listed
            exact (absent version member).1 same)
          (by
            intro listed
            obtain ⟨version, member, same⟩ := List.mem_map.mp listed
            exact (absent version member).2 same)
        rw [refused] at found
        cases found
      refine ⟨version.row, List.mem_map_of_mem (List.mem_filter.mpr ⟨member, ?_⟩), collides⟩
      by_contra unseen
      have hidden : version.seenBy session = false := by simpa using unseen
      refine seen (List.any_eq_true.mpr ⟨version, member, ?_⟩)
      simp [collides, hidden]

/-- An insert waits for a row of another open transaction. -/
theorem hidden_of_waits (result : table.insertRow session row = .waits) :
    ∃ version ∈ table.rows, (key version.row = key row ∨ unique version.row = unique row) ∧
      version.seenBy session = false := by
  unfold insertRow at result
  split at result
  · cases result
  · split at result
    · rename_i hidden
      obtain ⟨version, member, both⟩ := List.any_eq_true.mp hidden
      exact ⟨version, member, by simpa using both⟩
    · cases result

/-- An insert takes nothing from the sight of a session. -/
theorem visible_insertRow {next : α} (result : table.insertRow session next = .inserted inserted)
    (member : row ∈ table.visible other) : row ∈ inserted.visible other := by
  rw [mem_visible, rows_of_insertRow result]
  rcases mem_visible.mp member with stored | own
  · exact Or.inl (List.mem_append_left _ stored)
  · exact Or.inr (List.mem_append_left _ own)

theorem inserted_visible (result : table.insertRow session row = .inserted inserted) :
    row ∈ inserted.visible session := by
  rw [mem_visible, rows_of_insertRow result]
  exact Or.inr (List.mem_append_right _ (List.mem_singleton.mpr rfl))

end SharedTable

end FinopsAnalytics.SharedTables
