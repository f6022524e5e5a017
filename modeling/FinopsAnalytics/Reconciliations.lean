import Mathlib.Data.Int.Notation
import Mathlib.Data.List.Basic
import Mathlib.Data.List.Nodup

/-!
# Rows reconciled with a listing

A listing names what exists in a scope. The rows of the scope are matched with the
items by key: a matched row takes the values of the item, an item without a row is
added as one, and a row that no item names is retired. An item can lack its key or its
values; without values it only touches the row that it names.
-/

namespace FinopsAnalytics.Reconciliations

universe u v w x
variable {ρ : Type u} {κ : Type v} {ι : Type w} {ν : Type x}

/-- How items are matched with rows, and what becomes of both. -/
structure Rules (ρ : Type u) (κ : Type v) (ι : Type w) (ν : Type x) where
  inScope : ρ → Bool
  key : ρ → κ
  active : ρ → Bool
  itemKey : ι → Option κ
  values : ι → Option ν
  assign : ν → ρ → ρ
  touch : ρ → ρ
  retire : ρ → ρ
  create : ℤ → ν → ρ

/-- The rows as the pass over the items has left them, what it adds and what it has
seen. -/
structure Session (ρ : Type u) (κ : Type v) (ν : Type x) where
  rows : List ρ
  added : List ν
  seen : List κ
  updated : ℕ
  skipped : ℕ

namespace Rules

variable (rules : Rules ρ κ ι ν)

/-- What an item makes of the row that it names. -/
def apply (item : ι) (row : ρ) : ρ :=
  match rules.values item with
  | some values => rules.assign values row
  | none => rules.touch row

/-- The keys of the scope. -/
def keys (rows : List ρ) : List κ := (rows.filter rules.inScope).map rules.key

variable [DecidableEq κ]

/-- The row is the one of a key. -/
def isAt (key : κ) (row : ρ) : Bool := rules.inScope row && decide (rules.key row = key)

/-- One item. -/
def step (existing : List κ) (session : Session ρ κ ν) (item : ι) : Session ρ κ ν :=
  match rules.itemKey item with
  | none => { session with skipped := session.skipped + 1 }
  | some key =>
    let written := session.rows.map fun row =>
      if rules.isAt key row then rules.apply item row else row
    match rules.values item with
    | none =>
      { session with rows := written, seen := key :: session.seen, skipped := session.skipped + 1 }
    | some values =>
      if key ∈ existing then
        { session with rows := written, seen := key :: session.seen, updated := session.updated + 1 }
      else { session with added := session.added ++ [values], seen := key :: session.seen }

/-- The pass over the items. -/
def pass (rows : List ρ) (items : List ι) : Session ρ κ ν :=
  items.foldl (rules.step (rules.keys rows)) ⟨rows, [], [], 0, 0⟩

/-- A row that was not seen is retired. -/
def isAbsent (seen : List κ) (row : ρ) : Bool :=
  rules.inScope row && decide (rules.key row ∉ seen) && rules.active row

/-- Rows for added values, numbered in their order. -/
def numbered : ℤ → List ν → List ρ
  | _, [] => []
  | number, values :: rest => rules.create number values :: numbered (number + 1) rest

/-- The rows of a reconciliation, the added ones numbered from a first number on. -/
def reconciled (rows : List ρ) (first : ℤ) (items : List ι) : List ρ :=
  let session := rules.pass rows items
  (session.rows.map fun row => if rules.isAbsent session.seen row then rules.retire row else row) ++
    rules.numbered first session.added

/-- An item names the key. -/
def names (key : κ) (item : ι) : Bool := decide (rules.itemKey item = some key)

/-- Some item names the key. -/
def listed (items : List ι) (key : κ) : Bool := items.any (rules.names key)

/-- The values of the last item that names the key and has values. -/
def lastValues (items : List ι) (key : κ) : Option ν :=
  ((items.filter (rules.names key)).filterMap rules.values).getLast?

/-- The values of the items that name no row, with their keys. -/
def newEntries (existing : List κ) (items : List ι) : List (κ × ν) :=
  items.filterMap fun item => (rules.itemKey item).bind fun key =>
    if key ∈ existing then none else (rules.values item).map (Prod.mk key)

/-- What the items make of a row. -/
def settled (items : List ι) (row : ρ) : ρ :=
  if rules.inScope row then
    if rules.listed items (rules.key row) then
      match rules.lastValues items (rules.key row) with
      | some values => rules.assign values row
      | none => rules.touch row
    else if rules.active row then rules.retire row else row
  else row

end Rules

/-- A row keeps its scope and key, and values take the place of what was written
before. -/
structure Lawful [DecidableEq κ] (rules : Rules ρ κ ι ν) : Prop where
  assign : ∀ {item values row key}, rules.itemKey item = some key → rules.values item = some values →
    rules.isAt key row = true → rules.isAt key (rules.assign values row) = true
  touch : ∀ {row key}, rules.isAt key row = true → rules.isAt key (rules.touch row) = true
  create : ∀ {item values key}, rules.itemKey item = some key → rules.values item = some values →
    ∀ number, rules.isAt key (rules.create number values) = true
  retire : ∀ {row key}, rules.isAt key row = true → rules.isAt key (rules.retire row) = true
  assign_assign : ∀ first second row, rules.assign second (rules.assign first row) =
    rules.assign second row
  assign_touch : ∀ values row, rules.assign values (rules.touch row) = rules.assign values row
  touch_assign : ∀ values row, (∃ item, rules.values item = some values) →
    rules.touch (rules.assign values row) = rules.assign values row
  touch_touch : ∀ row, rules.touch (rules.touch row) = rules.touch row
  assign_create : ∀ number values, (∃ item, rules.values item = some values) →
    rules.assign values (rules.create number values) = rules.create number values
  active_retire : ∀ row, rules.active (rules.retire row) = false

section Passes

variable [DecidableEq κ] {rules : Rules ρ κ ι ν}

theorem isAt_iff {key : κ} {row : ρ} :
    rules.isAt key row = true ↔ rules.inScope row = true ∧ rules.key row = key := by
  simp [Rules.isAt]

theorem Lawful.apply (lawful : Lawful rules) {item : ι} {row : ρ} {key : κ}
    (named : rules.itemKey item = some key) (isAt : rules.isAt key row = true) :
    rules.isAt key (rules.apply item row) = true := by
  unfold Rules.apply
  cases complete : rules.values item with
  | none => exact lawful.touch isAt
  | some values => exact lawful.assign named complete isAt

/-- What one item makes of any row. -/
def written (rules : Rules ρ κ ι ν) (item : ι) (row : ρ) : ρ :=
  if rules.inScope row ∧ rules.itemKey item = some (rules.key row) then rules.apply item row
  else row

theorem written_isAt (lawful : Lawful rules) (item : ι) {row : ρ} {key : κ}
    (isAt : rules.isAt key row = true) : rules.isAt key (written rules item row) = true := by
  unfold written
  by_cases named : rules.inScope row = true ∧ rules.itemKey item = some (rules.key row)
  · rw [if_pos named]
    obtain ⟨-, rfl⟩ := isAt_iff.mp isAt
    exact lawful.apply named.2 isAt
  · rw [if_neg named]
    exact isAt

/-- A row outside of the scope is left. -/
theorem written_outside (item : ι) {row : ρ} (outside : rules.inScope row = false) :
    written rules item row = row :=
  if_neg fun named => by rw [outside] at named; exact absurd named.1 (by decide)

/-- A write keeps scope and key. -/
theorem written_same (lawful : Lawful rules) (item : ι) (row : ρ) :
    rules.inScope (written rules item row) = rules.inScope row ∧
      (rules.inScope row = true → rules.key (written rules item row) = rules.key row) := by
  cases inside : rules.inScope row with
  | true =>
    have isAt := written_isAt lawful item (isAt_iff.mpr ⟨inside, rfl⟩)
    obtain ⟨inScope, key⟩ := isAt_iff.mp isAt
    exact ⟨inScope, fun _ => key⟩
  | false =>
    rw [written_outside item inside]
    exact ⟨inside, fun impossible => absurd impossible (by decide)⟩

omit [DecidableEq κ] in
/-- A rewriting that keeps scope and key keeps the keys of the scope. -/
theorem keys_map {rewrite : ρ → ρ}
    (same : ∀ row, rules.inScope (rewrite row) = rules.inScope row ∧
      (rules.inScope row = true → rules.key (rewrite row) = rules.key row)) (rows : List ρ) :
    rules.keys (rows.map rewrite) = rules.keys rows := by
  unfold Rules.keys
  rw [List.filter_map, List.map_map]
  have scope : rules.inScope ∘ rewrite = rules.inScope := funext fun row => (same row).1
  rw [scope]
  exact List.map_congr_left fun row member => (same row).2 (List.mem_filter.mp member).2

/-- What one item leaves: every row written, its values added where it names no row, and
its key seen. -/
theorem step_session {session : Session ρ κ ν} (item : ι) :
    (rules.step (rules.keys session.rows) session item).rows =
        session.rows.map (written rules item) ∧
      (rules.step (rules.keys session.rows) session item).added =
        session.added ++ (rules.newEntries (rules.keys session.rows) [item]).map Prod.snd ∧
      (rules.step (rules.keys session.rows) session item).seen =
        (rules.itemKey item).toList ++ session.seen := by
  unfold Rules.step Rules.newEntries
  cases named : rules.itemKey item with
  | none =>
    refine ⟨?_, by simp [named], rfl⟩
    have unwritten : written rules item = id := by
      funext row
      exact if_neg fun matches_ => by rw [named] at matches_; cases matches_.2
    rw [unwritten, List.map_id]
  | some key =>
    have rows : (session.rows.map fun row =>
        if rules.isAt key row then rules.apply item row else row) =
          session.rows.map (written rules item) := by
      refine List.map_congr_left fun row _ => ?_
      have same : rules.isAt key row = true ↔
          rules.inScope row = true ∧ some key = some (rules.key row) := by
        rw [isAt_iff, Option.some.injEq, eq_comm (a := key)]
      rw [written, named]
      simp only [same]
    dsimp only
    cases complete : rules.values item with
    | none => exact ⟨rows, by simp [named, complete], rfl⟩
    | some values =>
      dsimp only
      by_cases exists_ : key ∈ rules.keys session.rows
      · rw [if_pos exists_]
        exact ⟨rows, by simp [named, exists_], rfl⟩
      · rw [if_neg exists_]
        refine ⟨?_, by simp [named, complete, exists_], rfl⟩
        -- no row is written under a key that the scope lacks
        refine (List.map_id _).symm.trans (List.map_congr_left fun row member => ?_)
        refine (if_neg fun matches_ => exists_ ?_).symm
        rw [named, Option.some.injEq] at matches_
        rw [matches_.2]
        exact List.mem_map_of_mem (List.mem_filter.mpr ⟨member, matches_.1⟩)

/-- What a pass leaves. -/
theorem foldl_step (lawful : Lawful rules) {existing : List κ} {items : List ι} :
    ∀ {session : Session ρ κ ν}, rules.keys session.rows = existing →
      (items.foldl (rules.step existing) session).rows =
          session.rows.map (fun row => items.foldl (fun row item => written rules item row) row) ∧
        (items.foldl (rules.step existing) session).added =
          session.added ++ (rules.newEntries existing items).map Prod.snd ∧
        ∀ key, key ∈ (items.foldl (rules.step existing) session).seen ↔
          key ∈ session.seen ∨ rules.listed items key = true := by
  induction items with
  | nil =>
    intro session _
    refine ⟨(List.map_id _).symm, (List.append_nil _).symm, fun key => ?_⟩
    simp [Rules.listed]
  | cons item rest inductionHypothesis =>
    rintro session rfl
    obtain ⟨rows, added, seen⟩ := @step_session ρ κ ι ν _ rules session item
    have sameKeys : rules.keys (rules.step (rules.keys session.rows) session item).rows =
        rules.keys session.rows := by
      rw [rows]
      exact keys_map (written_same lawful item) _
    obtain ⟨restRows, restAdded, restSeen⟩ := inductionHypothesis sameKeys
    rw [List.foldl_cons]
    refine ⟨?_, ?_, fun key => ?_⟩
    · rw [restRows, rows, List.map_map]
      rfl
    · rw [restAdded, added, List.append_assoc, ← List.map_append]
      congr 2
      exact List.filterMap_append.symm
    · rw [restSeen, seen]
      simp only [Rules.listed, Rules.names, List.mem_append, Option.mem_toList, List.any_cons,
        Bool.or_eq_true, decide_eq_true_eq]
      tauto

/-- The last named item with values counts. -/
theorem lastValues_cons (item : ι) (rest : List ι) (key : κ) :
    rules.lastValues (item :: rest) key =
      if rules.names key item then (rules.lastValues rest key).or (rules.values item)
      else rules.lastValues rest key := by
  unfold Rules.lastValues
  cases named : rules.names key item with
  | false => rw [List.filter_cons_of_neg (by simp [named]), if_neg (by decide)]
  | true =>
    rw [List.filter_cons_of_pos named, if_pos rfl]
    cases complete : rules.values item with
    | none => rw [List.filterMap_cons_none complete, Option.or_none]
    | some values =>
      rw [List.filterMap_cons_some complete, List.getLast?_cons]
      cases ((rest.filter (rules.names key)).filterMap rules.values).getLast? <;> rfl

/-- The values that a key takes are those of an item that names it. -/
theorem lastValues_eq_some {items : List ι} {key : κ} {values : ν}
    (last : rules.lastValues items key = some values) :
    ∃ item ∈ items, rules.itemKey item = some key ∧ rules.values item = some values := by
  have member := List.mem_of_getLast? last
  obtain ⟨item, named, complete⟩ := List.mem_filterMap.mp member
  obtain ⟨itemMember, names⟩ := List.mem_filter.mp named
  exact ⟨item, itemMember, by simpa [Rules.names] using names, complete⟩

/-- What the items make of a row of the scope, one after the other. -/
theorem foldl_written (lawful : Lawful rules) {key : κ} {items : List ι} :
    ∀ {row : ρ}, rules.isAt key row = true →
      items.foldl (fun row item => written rules item row) row =
        if rules.listed items key then
          match rules.lastValues items key with
          | some values => rules.assign values row
          | none => rules.touch row
        else row := by
  induction items with
  | nil =>
    intro row _
    rfl
  | cons item rest inductionHypothesis =>
    intro row isAt
    rw [List.foldl_cons, inductionHypothesis (written_isAt lawful item isAt), lastValues_cons]
    obtain ⟨inScope, rfl⟩ := isAt_iff.mp isAt
    have listed : rules.listed (item :: rest) (rules.key row) =
        (rules.names (rules.key row) item || rules.listed rest (rules.key row)) :=
      List.any_cons
    rw [listed]
    cases named : rules.names (rules.key row) item with
    | false =>
      have other : written rules item row = row := by
        refine if_neg fun matches_ => ?_
        rw [Rules.names, decide_eq_false_iff_not] at named
        exact named matches_.2
      rw [other, Bool.false_or, if_neg Bool.false_ne_true]
    | true =>
      have own : written rules item row = rules.apply item row :=
        if_pos ⟨inScope, by simpa [Rules.names] using named⟩
      rw [own, Bool.true_or, if_pos rfl, if_pos rfl]
      unfold Rules.apply
      cases later : rules.lastValues rest (rules.key row) with
      | some values =>
        -- the rest has values, and these take the place of what the item wrote
        have restListed : rules.listed rest (rules.key row) = true := by
          obtain ⟨other, member, names, -⟩ := lastValues_eq_some later
          exact List.any_eq_true.mpr ⟨other, member, by simp [Rules.names, names]⟩
        rw [if_pos restListed, Option.some_or]
        cases rules.values item with
        | some first => exact lawful.assign_assign first values row
        | none => exact lawful.assign_touch values row
      | none =>
        rw [Option.none_or]
        cases complete : rules.values item with
        | some values =>
          dsimp only
          split
          · exact lawful.touch_assign values row ⟨item, complete⟩
          · rfl
        | none =>
          dsimp only
          split
          · exact lawful.touch_touch row
          · rfl

theorem foldl_isAt (lawful : Lawful rules) {key : κ} {row : ρ} (isAt : rules.isAt key row = true)
    (items : List ι) :
    rules.isAt key (items.foldl (fun row item => written rules item row) row) = true := by
  induction items generalizing row with
  | nil => exact isAt
  | cons item rest inductionHypothesis => exact inductionHypothesis (written_isAt lawful item isAt)

/-- A reconciliation settles every row and adds the values without a row. -/
theorem reconciled_eq (lawful : Lawful rules) (rows : List ρ) (first : ℤ) (items : List ι) :
    rules.reconciled rows first items = rows.map (rules.settled items) ++
      rules.numbered first ((rules.newEntries (rules.keys rows) items).map Prod.snd) := by
  obtain ⟨passed, added, seen⟩ := @foldl_step ρ κ ι ν _ rules lawful (rules.keys rows)
    items ⟨rows, [], [], 0, 0⟩ rfl
  unfold Rules.reconciled Rules.pass
  dsimp only
  rw [added, passed, List.nil_append, List.map_map]
  congr 1
  refine List.map_congr_left fun row _ => ?_
  have unseen (key : κ) : decide (key ∉ (items.foldl (rules.step (rules.keys rows))
      ⟨rows, [], [], 0, 0⟩).seen) = !rules.listed items key := by
    rw [decide_not]
    congr 1
    rw [Bool.eq_iff_iff, decide_eq_true_iff, seen]
    simp
  simp only [Function.comp_apply, Rules.isAbsent, unseen]
  unfold Rules.settled
  cases inScope : rules.inScope row with
  | false =>
    have left : items.foldl (fun row item => written rules item row) row = row := by
      clear passed added seen unseen
      induction items with
      | nil => rfl
      | cons item rest inductionHypothesis =>
        rw [List.foldl_cons, written_outside item inScope, inductionHypothesis]
    rw [left, inScope, Bool.false_and, Bool.false_and]
    rfl
  | true =>
    have isAt : rules.isAt (rules.key row) row = true := isAt_iff.mpr ⟨inScope, rfl⟩
    have stays := isAt_iff.mp (foldl_isAt lawful isAt items)
    rw [stays.1, stays.2, foldl_written lawful isAt, Bool.true_and, if_pos rfl]
    cases rules.listed items (rules.key row) with
    | true => rfl
    | false => rfl

end Passes

section Laws

variable [DecidableEq κ] {rules : Rules ρ κ ι ν}

/-- The rows of a key. -/
def rowsAt (rules : Rules ρ κ ι ν) (rows : List ρ) (key : κ) : List ρ := rows.filter (rules.isAt key)

/-- The rows of the other scopes. -/
def rowsOutside (rules : Rules ρ κ ι ν) (rows : List ρ) : List ρ :=
  rows.filter fun row => !rules.inScope row

/-- A key without a row, and its values. -/
theorem mem_newEntries {existing : List κ} {items : List ι} {entry : κ × ν}
    (member : entry ∈ rules.newEntries existing items) :
    entry.1 ∉ existing ∧
      ∃ item ∈ items, rules.itemKey item = some entry.1 ∧ rules.values item = some entry.2 := by
  obtain ⟨item, itemMember, made⟩ := List.mem_filterMap.mp member
  obtain ⟨key, named, made⟩ := Option.bind_eq_some_iff.mp made
  by_cases exists_ : key ∈ existing
  · rw [if_pos exists_] at made
    cases made
  · rw [if_neg exists_] at made
    obtain ⟨values, complete, rfl⟩ := Option.map_eq_some_iff.mp made
    exact ⟨exists_, item, itemMember, named, complete⟩

/-- The entries of a key that has no row are the values that the items give it. -/
theorem newEntries_at {existing : List κ} {key : κ} (missing : key ∉ existing) (items : List ι) :
    ((rules.newEntries existing items).filter fun entry => decide (entry.1 = key)).map Prod.snd =
      (items.filter (rules.names key)).filterMap rules.values := by
  induction items with
  | nil => rfl
  | cons item rest inductionHypothesis =>
    unfold Rules.newEntries at inductionHypothesis ⊢
    rw [List.filterMap_cons, List.filter_cons]
    cases named : rules.itemKey item with
    | none =>
      have other : rules.names key item = false := by simp [Rules.names, named]
      simp only [Option.bind_none, other, Bool.false_eq_true, if_false]
      exact inductionHypothesis
    | some own =>
      simp only [Option.bind_some]
      by_cases same : own = key
      · subst same
        have isNamed : rules.names own item = true := by simp [Rules.names, named]
        rw [if_neg missing, if_pos isNamed]
        cases complete : rules.values item with
        | none =>
          rw [List.filterMap_cons_none complete]
          exact inductionHypothesis
        | some values =>
          rw [List.filterMap_cons_some complete, Option.map_some]
          dsimp only
          rw [List.filter_cons_of_pos (by simp), List.map_cons, inductionHypothesis]
      · have other : rules.names key item = false := by simp [Rules.names, named, same]
        simp only [other, Bool.false_eq_true, if_false]
        by_cases exists_ : own ∈ existing
        · rw [if_pos exists_]
          exact inductionHypothesis
        · rw [if_neg exists_]
          cases rules.values item with
          | none => exact inductionHypothesis
          | some values =>
            rw [Option.map_some]
            dsimp only
            rw [List.filter_cons_of_neg (by simpa using same)]
            exact inductionHypothesis

/-- Numbered rows, under the keys of their entries. -/
theorem rowsAt_numbered {key : κ} {entries : List (κ × ν)} :
    ∀ {first : ℤ}, (∀ entry ∈ entries, ∀ number, rules.isAt entry.1 (rules.create number entry.2)) →
      List.Forall₂ (fun row values => ∃ number, row = rules.create number values)
        (rowsAt rules (rules.numbered first (entries.map Prod.snd)) key)
        ((entries.filter fun entry => decide (entry.1 = key)).map Prod.snd) := by
  induction entries with
  | nil =>
    intro _ _
    exact .nil
  | cons entry rest inductionHypothesis =>
    intro first placed
    have later := @inductionHypothesis (first + 1)
      fun other member => placed other (List.mem_cons_of_mem _ member)
    obtain ⟨inScope, own⟩ := isAt_iff.mp (placed entry (List.mem_cons_self ..) first)
    rw [List.map_cons, Rules.numbered, rowsAt, List.filter_cons, List.filter_cons]
    by_cases same : entry.1 = key
    · rw [if_pos (isAt_iff.mpr ⟨inScope, own.trans same⟩), if_pos (decide_eq_true same),
        List.map_cons]
      exact .cons ⟨first, rfl⟩ later
    · rw [if_neg fun isAt => same (own.symm.trans (isAt_iff.mp isAt).2),
        if_neg (by simpa using same)]
      exact later

/-- Settling keeps a row under its key. -/
theorem settled_isAt (lawful : Lawful rules) {items : List ι} {key : κ} {row : ρ} :
    rules.isAt key (rules.settled items row) = rules.isAt key row := by
  unfold Rules.settled
  cases inScope : rules.inScope row with
  | false => rfl
  | true =>
    have isAt : rules.isAt (rules.key row) row = true := isAt_iff.mpr ⟨inScope, rfl⟩
    have stays : rules.isAt (rules.key row) (if rules.listed items (rules.key row) then
        match rules.lastValues items (rules.key row) with
        | some values => rules.assign values row
        | none => rules.touch row
      else if rules.active row then rules.retire row else row) = true := by
      split
      · split
        · rename_i values last
          obtain ⟨item, -, named, complete⟩ := lastValues_eq_some last
          exact lawful.assign named complete isAt
        · exact lawful.touch isAt
      · split
        · exact lawful.retire isAt
        · exact isAt
    rw [if_pos rfl]
    rw [isAt_iff] at stays
    simp only [Rules.isAt, stays.1, stays.2, inScope]

/-- What a reconciliation leaves under each key, and that it leaves the other scopes. -/
structure Law (rules : Rules ρ κ ι ν) (items : List ι) (before after : List ρ) : Prop where
  outside : rowsOutside rules after = rowsOutside rules before
  given : ∀ key values, rules.lastValues items key = some values →
    ∃ row, rowsAt rules after key = [row] ∧
      ((∃ old, rowsAt rules before key = [old] ∧ row = rules.assign values old) ∨
        (rowsAt rules before key = [] ∧ ∃ number, row = rules.create number values))
  touched : ∀ key, rules.listed items key = true → rules.lastValues items key = none →
    rowsAt rules after key = (rowsAt rules before key).map rules.touch
  absent : ∀ key, rules.listed items key = false →
    rowsAt rules after key =
      (rowsAt rules before key).map fun row => if rules.active row then rules.retire row else row

theorem numbered_inScope {entries : List (κ × ν)} :
    ∀ {first : ℤ}, (∀ entry ∈ entries, ∀ number, rules.isAt entry.1 (rules.create number entry.2)) →
      ∀ row ∈ rules.numbered first (entries.map Prod.snd), rules.inScope row = true := by
  induction entries with
  | nil => exact fun _ _ member => absurd member List.not_mem_nil
  | cons entry rest inductionHypothesis =>
    intro first placed row member
    rcases List.mem_cons.mp member with rfl | later
    · exact (isAt_iff.mp (placed entry (List.mem_cons_self ..) first)).1
    · exact inductionHypothesis (fun other inside => placed other (List.mem_cons_of_mem _ inside))
        row later

/-- The rows of a key after settling. -/
theorem rowsAt_settled (lawful : Lawful rules) (rows : List ρ) (items : List ι) (key : κ) :
    rowsAt rules (rows.map (rules.settled items)) key =
      (rowsAt rules rows key).map (rules.settled items) := by
  unfold rowsAt
  rw [List.filter_map]
  congr 2
  funext row
  exact settled_isAt lawful

theorem rowsAt_eq_nil {rows : List ρ} {key : κ} :
    rowsAt rules rows key = [] ↔ key ∉ rules.keys rows := by
  rw [rowsAt, List.filter_eq_nil_iff, Rules.keys, List.mem_map]
  constructor
  · rintro none ⟨row, member, same⟩
    obtain ⟨inside, inScope⟩ := List.mem_filter.mp member
    exact none row inside (isAt_iff.mpr ⟨inScope, same⟩)
  · intro missing row member isAt
    obtain ⟨inScope, same⟩ := isAt_iff.mp isAt
    exact missing ⟨row, List.mem_filter.mpr ⟨member, inScope⟩, same⟩

/-- Entries with distinct keys have at most one under each. -/
theorem length_le_one_of_distinct {α : Type u} {key : α → κ} {rows : List α}
    (distinct : (rows.map key).Nodup) (wanted : κ) :
    (rows.filter fun row => decide (key row = wanted)).length ≤ 1 := by
  have alike : (rows.filter fun row => decide (key row = wanted)).map key =
      List.replicate (rows.filter fun row => decide (key row = wanted)).length wanted := by
    refine List.eq_replicate_iff.mpr ⟨List.length_map .., fun other member => ?_⟩
    obtain ⟨row, rowMember, rfl⟩ := List.mem_map.mp member
    exact of_decide_eq_true (List.mem_filter.mp rowMember).2
  rw [← List.nodup_replicate (a := wanted), ← alike]
  exact distinct.sublist (List.filter_sublist.map key)

/-- A key of the scope has one row. -/
theorem rowsAt_eq_singleton {rows : List ρ} (keyed : (rules.keys rows).Nodup) {key : κ}
    (member : key ∈ rules.keys rows) : ∃ row, rowsAt rules rows key = [row] := by
  have few := length_le_one_of_distinct keyed key
  have same : ((rows.filter rules.inScope).filter fun row => decide (rules.key row = key)) =
      rowsAt rules rows key := by
    rw [List.filter_filter, rowsAt]
    congr 1
    funext row
    rw [Rules.isAt, Bool.and_comm]
  rw [same] at few
  have some := List.length_pos_iff.mpr fun none => rowsAt_eq_nil.mp none member
  exact List.length_eq_one_iff.mp (Nat.le_antisymm few some)

/-- What the items make of the row of a key. -/
theorem settled_of_isAt {items : List ι} {key : κ} {row : ρ} (isAt : rules.isAt key row = true) :
    rules.settled items row = if rules.listed items key then
        match rules.lastValues items key with
        | some values => rules.assign values row
        | none => rules.touch row
      else if rules.active row then rules.retire row else row := by
  obtain ⟨inScope, rfl⟩ := isAt_iff.mp isAt
  exact if_pos inScope

theorem isAt_of_mem {rows : List ρ} {key : κ} {row : ρ} (member : row ∈ rowsAt rules rows key) :
    rules.isAt key row = true :=
  (List.mem_filter.mp member).2

theorem listed_of_lastValues {items : List ι} {key : κ} {values : ν}
    (last : rules.lastValues items key = some values) : rules.listed items key = true := by
  obtain ⟨item, member, named, -⟩ := lastValues_eq_some last
  exact List.any_eq_true.mpr ⟨item, member, by simp [Rules.names, named]⟩

/-- Settling leaves the other scopes. -/
theorem rowsOutside_settled (lawful : Lawful rules) (rows : List ρ) (items : List ι) :
    rowsOutside rules (rows.map (rules.settled items)) = rowsOutside rules rows := by
  have sameScope (row : ρ) : rules.inScope (rules.settled items row) = rules.inScope row := by
    cases inScope : rules.inScope row with
    | false =>
      unfold Rules.settled
      rw [if_neg (by rw [inScope]; decide), inScope]
    | true =>
      have isAt : rules.isAt (rules.key row) row = true := isAt_iff.mpr ⟨inScope, rfl⟩
      rw [← settled_isAt lawful] at isAt
      exact (isAt_iff.mp isAt).1
  unfold rowsOutside
  rw [List.filter_map]
  simp only [Function.comp_def, sameScope]
  refine (List.map_congr_left fun row member => ?_).trans (List.map_id _)
  have outside : rules.inScope row = false := by simpa using (List.mem_filter.mp member).2
  exact if_neg (by rw [outside]; decide)

/-- Where every key without a row is given values once, a reconciliation follows its
law. -/
theorem law_reconciled (lawful : Lawful rules) {rows : List ρ} (keyed : (rules.keys rows).Nodup)
    (first : ℤ) {items : List ι}
    (once : ((rules.newEntries (rules.keys rows) items).map Prod.fst).Nodup) :
    Law rules items rows (rules.reconciled rows first items) := by
  rw [reconciled_eq lawful]
  have placed : ∀ entry ∈ rules.newEntries (rules.keys rows) items, ∀ number,
      rules.isAt entry.1 (rules.create number entry.2) = true := by
    intro entry member number
    obtain ⟨-, item, -, named, complete⟩ := mem_newEntries member
    exact lawful.create named complete number
  have append (key : κ) : rowsAt rules (rows.map (rules.settled items) ++ rules.numbered first
      ((rules.newEntries (rules.keys rows) items).map Prod.snd)) key =
        (rowsAt rules rows key).map (rules.settled items) ++ rowsAt rules (rules.numbered first
          ((rules.newEntries (rules.keys rows) items).map Prod.snd)) key := by
    rw [← rowsAt_settled lawful]
    exact List.filter_append ..
  -- a key with a row or without values adds none
  have unadded {key : κ} (none : key ∈ rules.keys rows ∨ rules.lastValues items key = none) :
      rowsAt rules (rules.numbered first
        ((rules.newEntries (rules.keys rows) items).map Prod.snd)) key = [] := by
    have added := @rowsAt_numbered ρ κ ι ν _ rules key _ first placed
    by_cases exists_ : key ∈ rules.keys rows
    · have noEntry : ((rules.newEntries (rules.keys rows) items).filter fun entry =>
          decide (entry.1 = key)) = [] := by
        rw [List.filter_eq_nil_iff]
        intro entry member same
        rw [decide_eq_true_eq] at same
        exact (mem_newEntries member).1 (same ▸ exists_)
      rw [noEntry] at added
      exact List.forall₂_nil_right_iff.mp added
    · have noValues := none.resolve_left exists_
      rw [newEntries_at exists_, List.getLast?_eq_none_iff.mp noValues] at added
      exact List.forall₂_nil_right_iff.mp added
  have settledRows {key : κ} {become : ρ → ρ}
      (isSettled : ∀ row, rules.isAt key row = true → rules.settled items row = become row) :
      (rowsAt rules rows key).map (rules.settled items) = (rowsAt rules rows key).map become :=
    List.map_congr_left fun row member => isSettled row (isAt_of_mem member)
  refine ⟨?_, fun key values last => ?_, fun key listed noValues => ?_, fun key unlisted => ?_⟩
  · rw [rowsOutside, List.filter_append]
    have noneOutside : (rules.numbered first ((rules.newEntries (rules.keys rows) items).map
        Prod.snd)).filter (fun row => !rules.inScope row) = [] := by
      rw [List.filter_eq_nil_iff]
      intro row member
      simp [numbered_inScope placed row member]
    rw [noneOutside, List.append_nil]
    exact rowsOutside_settled lawful rows items
  · by_cases exists_ : key ∈ rules.keys rows
    · obtain ⟨old, single⟩ := rowsAt_eq_singleton keyed exists_
      have isAt : rules.isAt key old = true := @isAt_of_mem ρ κ ι ν _ rules rows key old (by simp [single])
      refine ⟨rules.assign values old, ?_, Or.inl ⟨old, single, rfl⟩⟩
      rw [append, unadded (Or.inl exists_), List.append_nil, single, List.map_singleton,
        settled_of_isAt isAt, if_pos (listed_of_lastValues last), last]
    · have added := @rowsAt_numbered ρ κ ι ν _ rules key _ first placed
      have few := length_le_one_of_distinct once key
      rw [← List.length_map (f := Prod.snd), newEntries_at exists_] at few
      rw [newEntries_at exists_] at added
      -- the values are the last ones and the only ones
      have single : (items.filter (rules.names key)).filterMap rules.values = [values] := by
        obtain ⟨front, split⟩ := List.getLast?_eq_some_iff.mp last
        rw [split] at few ⊢
        rw [List.length_append, List.length_singleton] at few
        have noFront : front = [] := List.eq_nil_of_length_eq_zero (by omega)
        rw [noFront, List.nil_append]
      rw [single] at added
      have noRow := rowsAt_eq_nil.mpr exists_
      rw [append, noRow, List.map_nil, List.nil_append]
      cases rowsAdded : rowsAt rules (rules.numbered first
          ((rules.newEntries (rules.keys rows) items).map Prod.snd)) key with
      | nil =>
        rw [rowsAdded] at added
        cases added
      | cons row rest =>
        rw [rowsAdded] at added
        obtain ⟨created, none⟩ := List.forall₂_cons.mp added
        rw [List.forall₂_nil_right_iff.mp none]
        exact ⟨row, rfl, Or.inr ⟨rfl, created⟩⟩
  · rw [append, unadded (Or.inr noValues), List.append_nil]
    refine settledRows fun row isAt => ?_
    rw [settled_of_isAt isAt, if_pos listed, noValues]
  · have noValues : rules.lastValues items key = none := by
      by_contra given
      obtain ⟨values, last⟩ := Option.ne_none_iff_exists'.mp given
      rw [listed_of_lastValues last] at unlisted
      exact absurd unlisted (by decide)
    rw [append, unadded (Or.inr noValues), List.append_nil]
    refine settledRows fun row isAt => ?_
    rw [settled_of_isAt isAt, unlisted, if_neg Bool.false_ne_true]

omit [DecidableEq κ] in
theorem exists_numbered {entries : List (κ × ν)} {entry : κ × ν} (member : entry ∈ entries) :
    ∀ first : ℤ, ∃ number,
      rules.create number entry.2 ∈ rules.numbered first (entries.map Prod.snd) := by
  induction entries with
  | nil => cases member
  | cons other rest inductionHypothesis =>
    intro first
    rw [List.map_cons, Rules.numbered]
    rcases List.mem_cons.mp member with rfl | later
    · exact ⟨first, List.mem_cons_self ..⟩
    · obtain ⟨number, created⟩ := inductionHypothesis later (first + 1)
      exact ⟨number, List.mem_cons_of_mem _ created⟩

/-- After a reconciliation every item with values has a row. -/
theorem mem_keys_reconciled (lawful : Lawful rules) (rows : List ρ) (first : ℤ) {items : List ι}
    {item : ι} {key : κ} (member : item ∈ items) (named : rules.itemKey item = some key)
    (given : (rules.values item).isSome = true) :
    key ∈ rules.keys (rules.reconciled rows first items) := by
  obtain ⟨values, complete⟩ := Option.isSome_iff_exists.mp given
  rw [reconciled_eq lawful]
  have keyOf {row : ρ} (isAt : rules.isAt key row = true)
      (inside : row ∈ rows.map (rules.settled items) ++ rules.numbered first
        ((rules.newEntries (rules.keys rows) items).map Prod.snd)) :
      key ∈ rules.keys (rows.map (rules.settled items) ++ rules.numbered first
        ((rules.newEntries (rules.keys rows) items).map Prod.snd)) := by
    obtain ⟨inScope, rfl⟩ := isAt_iff.mp isAt
    exact List.mem_map_of_mem (List.mem_filter.mpr ⟨inside, inScope⟩)
  by_cases exists_ : key ∈ rules.keys rows
  · obtain ⟨row, rowMember, rfl⟩ := List.mem_map.mp exists_
    obtain ⟨inside, inScope⟩ := List.mem_filter.mp rowMember
    refine keyOf ?_ (List.mem_append_left _ (List.mem_map_of_mem inside))
    rw [settled_isAt lawful]
    exact isAt_iff.mpr ⟨inScope, rfl⟩
  · have entry : (key, values) ∈ rules.newEntries (rules.keys rows) items := by
      refine List.mem_filterMap.mpr ⟨item, member, ?_⟩
      rw [named, Option.bind_some, if_neg exists_, complete, Option.map_some]
    obtain ⟨number, created⟩ := @exists_numbered ρ κ ι ν rules _ _ entry first
    exact keyOf (lawful.create named complete number) (List.mem_append_right _ created)

omit [DecidableEq κ] in
/-- Numbered rows have the unique keys of their entries. -/
theorem map_numbered {υ : Type u} {unique : ρ → υ} {place : κ → υ} {entries : List (κ × ν)} :
    ∀ {first : ℤ}, (∀ entry ∈ entries, ∀ number,
        unique (rules.create number entry.2) = place entry.1) →
      (rules.numbered first (entries.map Prod.snd)).map unique =
        (entries.map Prod.fst).map place := by
  induction entries with
  | nil => exact fun _ => rfl
  | cons entry rest inductionHypothesis =>
    intro first placed
    have later := @inductionHypothesis (first + 1)
      fun other member => placed other (List.mem_cons_of_mem _ member)
    simp only [List.map_cons, Rules.numbered]
    rw [placed entry (List.mem_cons_self ..) first, later]

/-- The rows of a reconciliation keep a unique key apart exactly where every key without a
row is given values once. -/
theorem nodup_reconciled_iff (lawful : Lawful rules) {υ : Type u} {unique : ρ → υ} {place : κ → υ}
    (identifies : ∀ key row, rules.isAt key row = true ↔ unique row = place key) {rows : List ρ}
    (distinct : (rows.map unique).Nodup) (first : ℤ) (items : List ι) :
    ((rules.reconciled rows first items).map unique).Nodup ↔
      ((rules.newEntries (rules.keys rows) items).map Prod.fst).Nodup := by
  have placed : ∀ entry ∈ rules.newEntries (rules.keys rows) items, ∀ number,
      rules.isAt entry.1 (rules.create number entry.2) = true := by
    intro entry member number
    obtain ⟨-, item, -, named, complete⟩ := mem_newEntries member
    exact lawful.create named complete number
  have sameUnique (row : ρ) : unique (rules.settled items row) = unique row := by
    cases inScope : rules.inScope row with
    | false =>
      congr 1
      exact if_neg (by rw [inScope]; decide)
    | true =>
      have isAt : rules.isAt (rules.key row) row = true := isAt_iff.mpr ⟨inScope, rfl⟩
      have stays := isAt
      rw [← settled_isAt lawful] at stays
      rw [(identifies _ _).mp stays, (identifies _ _).mp isAt]
  have oldRows : (rows.map (rules.settled items)).map unique = rows.map unique := by
    rw [List.map_map]
    exact List.map_congr_left fun row _ => sameUnique row
  have newRows : (rules.numbered first ((rules.newEntries (rules.keys rows) items).map
      Prod.snd)).map unique = ((rules.newEntries (rules.keys rows) items).map Prod.fst).map place :=
    map_numbered fun entry member number => (identifies _ _).mp (placed entry member number)
  rw [reconciled_eq lawful, List.map_append, oldRows, newRows, List.nodup_append]
  constructor
  · exact fun nodup => List.Nodup.of_map place nodup.2.1
  · intro once
    refine ⟨distinct, ?_, ?_⟩
    · refine List.Nodup.map_on ?_ once
      intro key member other otherMember same
      obtain ⟨entry, entryMember, rfl⟩ := List.mem_map.mp member
      have isAt := placed entry entryMember first
      have isAtOther : rules.isAt other (rules.create first entry.2) = true := by
        rw [identifies, ← same, ← identifies]
        exact isAt
      exact (isAt_iff.mp isAt).2.symm.trans (isAt_iff.mp isAtOther).2
    · rintro old oldMember new newMember rfl
      obtain ⟨row, rowMember, rfl⟩ := List.mem_map.mp oldMember
      obtain ⟨key, keyMember, same⟩ := List.mem_map.mp newMember
      obtain ⟨entry, entryMember, rfl⟩ := List.mem_map.mp keyMember
      obtain ⟨inScope, isKey⟩ := isAt_iff.mp ((identifies entry.1 row).mpr same.symm)
      exact (mem_newEntries entryMember).1
        (isKey ▸ List.mem_map_of_mem (List.mem_filter.mpr ⟨rowMember, inScope⟩))

/-- The numbers of the rows are kept apart. -/
theorem nodup_numbers (lawful : Lawful rules) (number : ρ → ℤ)
    (assigned : ∀ values row, number (rules.assign values row) = number row)
    (touched : ∀ row, number (rules.touch row) = number row)
    (retired : ∀ row, number (rules.retire row) = number row)
    (created : ∀ next values, number (rules.create next values) = next) {rows : List ρ}
    (distinct : (rows.map number).Nodup) {first : ℤ} (above : ∀ row ∈ rows, number row < first)
    (items : List ι) : ((rules.reconciled rows first items).map number).Nodup := by
  have kept (row : ρ) : number (rules.settled items row) = number row := by
    unfold Rules.settled
    split_ifs
    · split
      · exact assigned _ row
      · exact touched row
    · exact retired row
    · rfl
    · rfl
  have oldRows : (rows.map (rules.settled items)).map number = rows.map number := by
    rw [List.map_map]
    exact List.map_congr_left fun row _ => kept row
  have numbers (values : List ν) : ∀ first : ℤ, (∀ other ∈ (rules.numbered first values).map number,
      first ≤ other) ∧ ((rules.numbered first values).map number).Nodup := by
    induction values with
    | nil => exact fun _ => ⟨fun _ member => absurd member List.not_mem_nil, List.nodup_nil⟩
    | cons value rest inductionHypothesis =>
      intro first
      obtain ⟨later, nodup⟩ := inductionHypothesis (first + 1)
      rw [Rules.numbered, List.map_cons, created, List.nodup_cons]
      refine ⟨fun other member => ?_, fun member => ?_, nodup⟩
      · rcases List.mem_cons.mp member with rfl | inside
        · exact Int.le_refl _
        · have bound := later other inside
          omega
      · have bound := later first member
        omega
  rw [reconciled_eq lawful, List.map_append, oldRows, List.nodup_append]
  obtain ⟨later, nodup⟩ := numbers ((rules.newEntries (rules.keys rows) items).map Prod.snd) first
  refine ⟨distinct, nodup, fun old oldMember new newMember same => ?_⟩
  obtain ⟨row, rowMember, rfl⟩ := List.mem_map.mp oldMember
  have below := above row rowMember
  have bound := later new newMember
  omega

/-- A unique key of the rows keeps the keys of the scope apart. -/
theorem keys_nodup {υ : Type u} {unique : ρ → υ} {place : κ → υ}
    (identifies : ∀ key row, rules.isAt key row = true ↔ unique row = place key) {rows : List ρ}
    (distinct : (rows.map unique).Nodup) : (rules.keys rows).Nodup := by
  have places : (rules.keys rows).map place = (rows.filter rules.inScope).map unique := by
    rw [Rules.keys, List.map_map]
    refine List.map_congr_left fun row member => ?_
    have isAt : rules.isAt (rules.key row) row = true :=
      isAt_iff.mpr ⟨(List.mem_filter.mp member).2, rfl⟩
    exact ((identifies _ _).mp isAt).symm
  refine List.Nodup.of_map place ?_
  rw [places]
  exact distinct.sublist (List.filter_sublist.map unique)

/-- Every key without a row is given values once, key by key. -/
theorem once_iff {existing : List κ} {items : List ι} :
    ((rules.newEntries existing items).map Prod.fst).Nodup ↔ ∀ key, key ∉ existing →
      (items.filter fun item => rules.names key item && (rules.values item).isSome).length ≤ 1 := by
  have lengths {key : κ} (missing : key ∉ existing) :
      ((rules.newEntries existing items).filter fun entry => decide (entry.1 = key)).length =
        (items.filter fun item => rules.names key item && (rules.values item).isSome).length := by
    have values := congrArg List.length (@newEntries_at ρ κ ι ν _ rules existing key missing items)
    rw [List.length_map, List.length_filterMap_eq_countP, List.countP_filter,
      List.countP_eq_length_filter] at values
    rw [values]
    congr 2
    funext item
    rw [Bool.and_comm]
  constructor
  · intro distinct key missing
    rw [← lengths missing]
    exact length_le_one_of_distinct distinct key
  · intro once
    rw [List.nodup_iff_count_le_one]
    intro key
    rw [List.count_eq_countP, List.countP_map, List.countP_eq_length_filter]
    by_cases missing : key ∈ existing
    · have noEntry : (rules.newEntries existing items).filter
          ((fun other => other == key) ∘ Prod.fst) = [] := by
        rw [List.filter_eq_nil_iff]
        intro entry member same
        have isKey : entry.1 = key := by simpa using same
        exact (mem_newEntries member).1 (isKey ▸ missing)
      rw [noEntry]
      exact Nat.zero_le _
    · have few := once key missing
      rw [← lengths missing] at few
      exact few

/-- The last values of a key are those of the last item that names it with values. -/
theorem lastValues_eq (items : List ι) (key : κ) :
    rules.lastValues items key =
      (items.filter fun item => rules.names key item && (rules.values item).isSome).getLast?.bind
        rules.values := by
  induction items with
  | nil => rfl
  | cons item rest inductionHypothesis =>
    rw [lastValues_cons, inductionHypothesis]
    cases named : rules.names key item with
    | false => rw [List.filter_cons_of_neg (by simp [named]), if_neg (by decide)]
    | true =>
      cases complete : rules.values item with
      | none =>
        rw [List.filter_cons_of_neg (by simp [complete]), if_pos rfl, Option.or_none]
      | some values =>
        rw [List.filter_cons_of_pos (by simp [named, complete]), if_pos rfl, List.getLast?_cons,
          Option.bind_some]
        cases last : (rest.filter fun item => rules.names key item &&
            (rules.values item).isSome).getLast? with
        | none => exact complete.symm
        | some other =>
          have isGiven := List.mem_of_getLast? last
          have given := (List.mem_filter.mp isGiven).2
          rw [Bool.and_eq_true] at given
          obtain ⟨_, isValues⟩ := Option.isSome_iff_exists.mp given.2
          rw [Option.bind_some, Option.getD_some, isValues]
          rfl

/-- Two reconciliations that differ in the values alone take those of the same item. -/
theorem lastValues_again {later : Rules ρ κ ι ν} (sameNames : later.itemKey = rules.itemKey)
    (sameItems : ∀ item, (later.values item).isSome = (rules.values item).isSome) (items : List ι)
    (key : κ) :
    (rules.lastValues items key = none ∧ later.lastValues items key = none) ∨
      ∃ item ∈ items, rules.itemKey item = some key ∧ ∃ values next,
        rules.values item = some values ∧ later.values item = some next ∧
          rules.lastValues items key = some values ∧ later.lastValues items key = some next := by
  have sameFilter : (items.filter fun item => later.names key item && (later.values item).isSome) =
      items.filter fun item => rules.names key item && (rules.values item).isSome := by
    refine List.filter_congr fun item _ => ?_
    rw [sameItems, Rules.names, Rules.names, sameNames]
  rw [lastValues_eq, lastValues_eq, sameFilter]
  cases last : (items.filter fun item => rules.names key item &&
      (rules.values item).isSome).getLast? with
  | none => exact Or.inl ⟨rfl, rfl⟩
  | some item =>
    obtain ⟨member, given⟩ := List.mem_filter.mp (List.mem_of_getLast? last)
    rw [Bool.and_eq_true] at given
    obtain ⟨values, isValues⟩ := Option.isSome_iff_exists.mp given.2
    have nextGiven := given.2
    rw [← sameItems] at nextGiven
    obtain ⟨next, isNext⟩ := Option.isSome_iff_exists.mp nextGiven
    exact Or.inr ⟨item, member, of_decide_eq_true given.1, values, next, isValues, isNext, isValues,
      isNext⟩

/-- A key that an item gives values has last values. -/
theorem lastValues_ne_none {items : List ι} {item : ι} {key : κ} (member : item ∈ items)
    (named : rules.itemKey item = some key) (given : (rules.values item).isSome = true) :
    rules.lastValues items key ≠ none := by
  obtain ⟨values, isValues⟩ := Option.isSome_iff_exists.mp given
  intro none
  have inside : values ∈ (items.filter (rules.names key)).filterMap rules.values :=
    List.mem_filterMap.mpr ⟨item, List.mem_filter.mpr ⟨member, decide_eq_true named⟩, isValues⟩
  rw [List.getLast?_eq_none_iff.mp none] at inside
  cases inside

/-- What a later pass over the same items finds in a row that an earlier one has left. -/
theorem settled_again {later : Rules ρ κ ι ν} (sameScope : later.inScope = rules.inScope)
    (sameKey : later.key = rules.key) (sameNames : later.itemKey = rules.itemKey)
    (sameItems : ∀ item, (later.values item).isSome = (rules.values item).isSome) {items : List ι}
    {before after : List ρ} (law : Law rules items before after) {row : ρ} (member : row ∈ after)
    (inScope : rules.inScope row = true) :
    (∃ item ∈ items, rules.itemKey item = some (rules.key row) ∧ ∃ values next,
      rules.values item = some values ∧ later.values item = some next ∧
        ((∃ old, row = rules.assign values old) ∨ ∃ number, row = rules.create number values) ∧
          later.settled items row = later.assign next row) ∨
      (rules.listed items (rules.key row) = true ∧ rules.lastValues items (rules.key row) = none ∧
        (∃ old, row = rules.touch old) ∧ later.settled items row = later.touch row) ∨
      (rules.listed items (rules.key row) = false ∧
        (∃ old, row = if rules.active old then rules.retire old else old) ∧
          later.settled items row = if later.active row then later.retire row else row) := by
  have own : row ∈ rowsAt rules after (rules.key row) :=
    List.mem_filter.mpr ⟨member, isAt_iff.mpr ⟨inScope, rfl⟩⟩
  have isAt : later.isAt (rules.key row) row = true := by
    rw [isAt_iff, sameScope, sameKey]
    exact ⟨inScope, rfl⟩
  have sameListed : later.listed items (rules.key row) = rules.listed items (rules.key row) := by
    unfold Rules.listed Rules.names
    rw [sameNames]
  rw [settled_of_isAt isAt, sameListed]
  cases listed : rules.listed items (rules.key row) with
  | false =>
    rw [law.absent _ listed] at own
    obtain ⟨old, -, made⟩ := List.mem_map.mp own
    exact Or.inr (Or.inr ⟨rfl, ⟨old, made.symm⟩, rfl⟩)
  | true =>
    rw [if_pos rfl]
    rcases lastValues_again sameNames sameItems items (rules.key row) with
      ⟨noValues, noNext⟩ | ⟨item, itemMember, named, values, next, isValues, isNext, given, last⟩
    · rw [law.touched _ listed noValues] at own
      obtain ⟨old, -, made⟩ := List.mem_map.mp own
      rw [noNext]
      exact Or.inr (Or.inl ⟨rfl, noValues, ⟨old, made.symm⟩, rfl⟩)
    · obtain ⟨single, rowsAfter, origin⟩ := law.given _ _ given
      rw [rowsAfter, List.mem_singleton] at own
      rw [last]
      refine Or.inl ⟨item, itemMember, named, values, next, isValues, isNext, ?_, rfl⟩
      rcases origin with ⟨old, -, made⟩ | ⟨-, number, made⟩
      · exact Or.inl ⟨old, own.trans made⟩
      · exact Or.inr ⟨number, own.trans made⟩

/-- A pass with the same values finds nothing to change. -/
theorem settled_self (lawful : Lawful rules) {items : List ι} {before after : List ρ}
    (law : Law rules items before after) {row : ρ} (member : row ∈ after) :
    rules.settled items row = row := by
  cases inScope : rules.inScope row with
  | false => exact if_neg (by rw [inScope]; decide)
  | true =>
    rcases settled_again rfl rfl rfl (fun _ => rfl) law member inScope with
      ⟨item, -, -, values, next, isValues, isNext, made, settled⟩ | ⟨-, -, ⟨old, made⟩, settled⟩ |
        ⟨-, ⟨old, made⟩, settled⟩
    · rw [settled]
      obtain rfl := Option.some.inj (isValues.symm.trans isNext)
      rcases made with ⟨old, rfl⟩ | ⟨number, rfl⟩
      · exact lawful.assign_assign values values old
      · exact lawful.assign_create number values ⟨item, isValues⟩
    · rw [settled, made]
      exact lawful.touch_touch old
    · rw [settled]
      have inactive : rules.active row = false := by
        rw [made]
        cases active : rules.active old with
        | true => exact lawful.active_retire old
        | false => exact active
      rw [inactive]
      rfl

/-- A repeated reconciliation adds nothing: each item with values has found its row. -/
theorem reconciled_again {later : Rules ρ κ ι ν} (lawful : Lawful rules) (laterLawful : Lawful later)
    (sameScope : later.inScope = rules.inScope) (sameKey : later.key = rules.key)
    (sameNames : later.itemKey = rules.itemKey)
    (sameItems : ∀ item, (later.values item).isSome = (rules.values item).isSome) (rows : List ρ)
    (first next : ℤ) (items : List ι) :
    later.reconciled (rules.reconciled rows first items) next items =
      (rules.reconciled rows first items).map (later.settled items) := by
  have noEntries : later.newEntries (later.keys (rules.reconciled rows first items)) items = [] := by
    rw [Rules.newEntries, List.filterMap_eq_nil_iff]
    intro item member
    rw [Option.bind_eq_none_iff]
    intro key named
    rw [sameNames] at named
    by_cases complete : later.values item = none
    · rw [complete]
      split <;> rfl
    · refine if_pos ?_
      have given : (rules.values item).isSome = true := by
        rw [← sameItems, Option.isSome_iff_ne_none]
        exact complete
      have exists_ := mem_keys_reconciled lawful rows first member named given
      rw [Rules.keys, sameScope, sameKey]
      exact exists_
  rw [reconciled_eq laterLawful, noEntries]
  exact List.append_nil _

end Laws

end FinopsAnalytics.Reconciliations
