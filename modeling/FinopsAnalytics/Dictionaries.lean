import Mathlib.Data.List.Nodup

/-!
# Dictionaries that remember insertion order

A dictionary is a list of entries. Setting a key replaces its value in place, or
appends the entry when the key is new, so keys stay distinct.
-/

namespace FinopsAnalytics.Dictionaries

universe u v
variable {κ : Type u} {α : Type v} [DecidableEq κ]

/-- `entries[key] = value`. -/
def setKey (key : κ) (value : α) : List (κ × α) → List (κ × α)
  | [] => [(key, value)]
  | (other, old) :: rest =>
    if other = key then (key, value) :: rest else (other, old) :: setKey key value rest

variable {value : α} {entries : List (κ × α)} {key : κ} {entry : κ × α}

theorem mem_keys_setKey {key wanted : κ} :
    wanted ∈ (setKey key value entries).map Prod.fst ↔
      wanted = key ∨ wanted ∈ entries.map Prod.fst := by
  induction entries with
  | nil => simp [setKey]
  | cons entry rest inductionHypothesis =>
    obtain ⟨other, old⟩ := entry
    by_cases same : other = key
    · subst same
      simp [setKey]
    · simp only [setKey, if_neg same, List.map_cons, List.mem_cons, inductionHypothesis]
      tauto

/-- Setting a key keeps the keys distinct. -/
theorem setKey_nodup (distinct : (entries.map Prod.fst).Nodup) :
    ((setKey key value entries).map Prod.fst).Nodup := by
  induction entries with
  | nil => simp [setKey]
  | cons entry rest inductionHypothesis =>
    obtain ⟨other, old⟩ := entry
    rw [List.map_cons, List.nodup_cons] at distinct
    by_cases same : other = key
    · subst same
      simpa [setKey] using distinct
    · simp only [setKey, if_neg same, List.map_cons, List.nodup_cons]
      refine ⟨fun member => ?_, inductionHypothesis distinct.2⟩
      rcases mem_keys_setKey.mp member with rfl | old
      · exact same rfl
      · exact distinct.1 old

/-- Every entry comes from the dictionary or from the assignment. -/
theorem mem_setKey (member : entry ∈ setKey key value entries) :
    entry = (key, value) ∨ entry ∈ entries := by
  induction entries with
  | nil => exact Or.inl (List.mem_singleton.mp member)
  | cons first rest inductionHypothesis =>
    obtain ⟨other, old⟩ := first
    by_cases same : other = key
    · rw [setKey, if_pos same] at member
      rcases List.mem_cons.mp member with rfl | later
      · exact Or.inl rfl
      · exact Or.inr (List.mem_cons_of_mem _ later)
    · rw [setKey, if_neg same] at member
      rcases List.mem_cons.mp member with rfl | later
      · exact Or.inr (List.mem_cons_self ..)
      · exact (inductionHypothesis later).imp id (List.mem_cons_of_mem _)

theorem lookup_cons_ne {wanted other : κ} {old : α} {rest : List (κ × α)}
    (different : wanted ≠ other) : ((other, old) :: rest).lookup wanted = rest.lookup wanted := by
  have test : (wanted == other) = false := beq_eq_false_iff_ne.mpr different
  rw [List.lookup_cons, test]

/-- What is found under a key is an entry. -/
theorem mem_of_lookup (found : entries.lookup key = some value) : (key, value) ∈ entries := by
  induction entries with
  | nil => simp at found
  | cons entry rest inductionHypothesis =>
    obtain ⟨other, old⟩ := entry
    by_cases same : key = other
    · subst same
      obtain rfl : old = value := by simpa using found
      exact List.mem_cons_self ..
    · rw [lookup_cons_ne same] at found
      exact List.mem_cons_of_mem _ (inductionHypothesis found)

/-- An entry is what is found under its key. -/
theorem lookup_of_mem (distinct : (entries.map Prod.fst).Nodup) (member : (key, value) ∈ entries) :
    entries.lookup key = some value := by
  induction entries with
  | nil => cases member
  | cons entry rest inductionHypothesis =>
    obtain ⟨unlisted, restDistinct⟩ := List.nodup_cons.mp distinct
    rcases List.mem_cons.mp member with rfl | later
    · simp
    · have different : key ≠ entry.1 := by
        rintro rfl
        exact unlisted (List.mem_map.mpr ⟨_, later, rfl⟩)
      rw [lookup_cons_ne different]
      exact inductionHypothesis restDistinct later

/-- Setting a key changes what is found under it and nothing else. -/
theorem lookup_setKey {key wanted : κ} :
    (setKey key value entries).lookup wanted =
      if wanted = key then some value else entries.lookup wanted := by
  induction entries with
  | nil =>
    by_cases same : wanted = key
    · simp [setKey, same]
    · rw [setKey, lookup_cons_ne same, if_neg same]
  | cons first rest inductionHypothesis =>
    obtain ⟨other, old⟩ := first
    by_cases replaced : other = key
    · subst replaced
      rw [setKey, if_pos rfl]
      by_cases same : wanted = other
      · simp [same]
      · rw [lookup_cons_ne same, lookup_cons_ne same, if_neg same]
    · rw [setKey, if_neg replaced]
      by_cases first : wanted = other
      · simp [first, replaced]
      · rw [lookup_cons_ne first, lookup_cons_ne first, inductionHypothesis]

/-- `entries.setdefault(key, value)`. -/
def setDefault (key : κ) (value : α) (entries : List (κ × α)) : List (κ × α) :=
  if key ∈ entries.map Prod.fst then entries else entries ++ [(key, value)]

theorem mem_keys_setDefault {key wanted : κ} :
    wanted ∈ (setDefault key value entries).map Prod.fst ↔
      wanted = key ∨ wanted ∈ entries.map Prod.fst := by
  unfold setDefault
  by_cases known : key ∈ entries.map Prod.fst
  · rw [if_pos known]
    refine ⟨Or.inr, fun either => ?_⟩
    rcases either with rfl | listed
    · exact known
    · exact listed
  · rw [if_neg known, List.map_append, List.mem_append, or_comm]
    simp

/-- A key that is there keeps its value, and a new key gets the default. -/
theorem mem_setDefault :
    entry ∈ setDefault key value entries ↔
      entry ∈ entries ∨ key ∉ entries.map Prod.fst ∧ entry = (key, value) := by
  unfold setDefault
  by_cases known : key ∈ entries.map Prod.fst
  · rw [if_pos known]
    exact ⟨Or.inl, fun either => either.resolve_right fun added => added.1 known⟩
  · rw [if_neg known, List.mem_append, List.mem_singleton, and_iff_right known]

theorem setDefault_nodup (distinct : (entries.map Prod.fst).Nodup) :
    ((setDefault key value entries).map Prod.fst).Nodup := by
  unfold setDefault
  by_cases known : key ∈ entries.map Prod.fst
  · rwa [if_pos known]
  · rw [if_neg known, List.map_append]
    exact distinct.append (List.nodup_singleton key)
      (List.disjoint_singleton.mpr known)

/-- The default is set under several keys. -/
def setDefaults (keys : List κ) (value : α) (entries : List (κ × α)) : List (κ × α) :=
  keys.foldl (fun known key => setDefault key value known) entries

theorem mem_keys_setDefaults {keys : List κ} {wanted : κ} :
    wanted ∈ (setDefaults keys value entries).map Prod.fst ↔
      wanted ∈ keys ∨ wanted ∈ entries.map Prod.fst := by
  unfold setDefaults
  induction keys generalizing entries with
  | nil => simp
  | cons key rest inductionHypothesis =>
    rw [List.foldl_cons, inductionHypothesis, mem_keys_setDefault, List.mem_cons]
    tauto

theorem setDefaults_nodup (keys : List κ) (distinct : (entries.map Prod.fst).Nodup) :
    ((setDefaults keys value entries).map Prod.fst).Nodup := by
  unfold setDefaults
  induction keys generalizing entries with
  | nil => exact distinct
  | cons key rest inductionHypothesis => exact inductionHypothesis (setDefault_nodup distinct)

/-- An entry was there before, or has a new key and the default. -/
theorem mem_setDefaults {keys : List κ} :
    entry ∈ setDefaults keys value entries ↔ entry ∈ entries ∨
      entry.1 ∈ keys ∧ entry.1 ∉ entries.map Prod.fst ∧ entry.2 = value := by
  unfold setDefaults
  induction keys generalizing entries with
  | nil => simp
  | cons key rest inductionHypothesis =>
    rw [List.foldl_cons, inductionHypothesis, mem_setDefault, mem_keys_setDefault, List.mem_cons]
    obtain ⟨wanted, held⟩ := entry
    by_cases same : wanted = key
    · subst same
      simp only [Prod.mk.injEq, true_and, true_or, not_true_eq_false, false_and, and_false, or_false]
    · simp only [Prod.mk.injEq, same, false_and, and_false, or_false, false_or]

/-- `entries.update(others)`. -/
def update (entries others : List (κ × α)) : List (κ × α) :=
  others.foldl (fun known entry => setKey entry.1 entry.2 known) entries

/-- An update leaves the keys that it does not name. -/
theorem lookup_update {wanted : κ} {entries others : List (κ × α)}
    (unnamed : wanted ∉ others.map Prod.fst) :
    (update entries others).lookup wanted = entries.lookup wanted := by
  unfold update
  induction others generalizing entries with
  | nil => rfl
  | cons entry rest inductionHypothesis =>
    rw [List.map_cons, List.mem_cons, not_or] at unnamed
    rw [List.foldl_cons, inductionHypothesis unnamed.2, lookup_setKey, if_neg unnamed.1]

/-- An update under distinct keys has the entries given. -/
theorem lookup_update_of_mem {known entries : List (κ × α)}
    (distinct : (entries.map Prod.fst).Nodup) (member : (key, value) ∈ entries) :
    (update known entries).lookup key = some value := by
  induction entries generalizing known with
  | nil => cases member
  | cons entry rest inductionHypothesis =>
    obtain ⟨unlisted, restDistinct⟩ := List.nodup_cons.mp distinct
    have opened : update known (entry :: rest) = update (setKey entry.1 entry.2 known) rest := rfl
    rw [opened]
    rcases List.mem_cons.mp member with rfl | later
    · rw [lookup_update unlisted, lookup_setKey, if_pos rfl]
    · exact inductionHypothesis restDistinct later

end FinopsAnalytics.Dictionaries
