import Mathlib.Data.Rat.Defs
import Mathlib.Logic.Function.Basic

/-!
# Caches whose entries expire

A cache maps keys to values with an instant until which they are answered. A
property of its entries survives a reading, which at most drops one, and a setting
of a value that has it.
-/

namespace FinopsAnalytics.ExpiringCaches

universe u v
variable {κ : Type u} {ν : Type v} [DecidableEq κ]

structure Entry (ν : Type v) where
  expiresAt : ℚ
  value : ν

structure Cache (κ : Type u) (ν : Type v) where
  items : κ → Option (Entry ν)

def Cache.empty : Cache κ ν := ⟨fun _ => none⟩

/-- The value under a key, and the cache without it where it has expired. -/
def Cache.get (cache : Cache κ ν) (key : κ) (now : ℚ) : Option ν × Cache κ ν :=
  match cache.items key with
  | none => (none, cache)
  | some entry =>
    if entry.expiresAt ≤ now then (none, ⟨Function.update cache.items key none⟩)
    else (some entry.value, cache)

def Cache.set (cache : Cache κ ν) (key : κ) (value : ν) (expiresAt : ℚ) : Cache κ ν :=
  ⟨Function.update cache.items key (some ⟨expiresAt, value⟩)⟩

/-- Every entry has a property of its key and its value. -/
def Cache.Holds (cache : Cache κ ν) (property : κ → ν → Prop) : Prop :=
  ∀ key entry, cache.items key = some entry → property key entry.value

omit [DecidableEq κ] in
theorem Cache.Holds.empty (property : κ → ν → Prop) : (Cache.empty).Holds property := by
  intro key entry impossible
  cases impossible

omit [DecidableEq κ] in
theorem Cache.Holds.mono {cache : Cache κ ν} {first second : κ → ν → Prop}
    (holds : cache.Holds first) (implies : ∀ key value, first key value → second key value) :
    cache.Holds second :=
  fun key entry held => implies key entry.value (holds key entry held)

/-- A reading adds no entry. -/
theorem Cache.items_get {cache : Cache κ ν} {key other : κ} {now : ℚ} {entry : Entry ν}
    (held : (cache.get key now).2.items other = some entry) : cache.items other = some entry := by
  unfold Cache.get at held
  split at held
  · exact held
  · split at held
    · by_cases same : other = key
      · subst same
        simp at held
      · dsimp only at held
        rwa [Function.update_of_ne same] at held
    · exact held

/-- What is read is the value of an entry that has not expired. -/
theorem Cache.get_eq_some {cache : Cache κ ν} {key : κ} {now : ℚ} {value : ν} :
    (cache.get key now).1 = some value ↔
      ∃ entry, cache.items key = some entry ∧ ¬entry.expiresAt ≤ now ∧ entry.value = value := by
  unfold Cache.get
  cases cache.items key with
  | none => simp
  | some entry =>
    by_cases expired : entry.expiresAt ≤ now
    · simp [expired]
    · have read : (match some entry with
          | none => ((none : Option ν), cache)
          | some entry => if entry.expiresAt ≤ now then
              (none, { items := Function.update cache.items key none })
            else (some entry.value, cache)).1 = some entry.value := by
        dsimp only
        rw [if_neg expired]
      rw [read, Option.some.injEq]
      constructor
      · rintro rfl
        exact ⟨entry, rfl, expired, rfl⟩
      · rintro ⟨found, isFound, -, rfl⟩
        rw [Option.some.inj isFound]

theorem Cache.entry_of_get {cache : Cache κ ν} {key : κ} {now : ℚ} {value : ν}
    (found : (cache.get key now).1 = some value) :
    ∃ entry, cache.items key = some entry ∧ ¬entry.expiresAt ≤ now ∧ entry.value = value :=
  Cache.get_eq_some.mp found

theorem Cache.get_of_entry {cache : Cache κ ν} {key : κ} {now : ℚ} {value : ν}
    (held : ∃ entry, cache.items key = some entry ∧ ¬entry.expiresAt ≤ now ∧
      entry.value = value) : (cache.get key now).1 = some value :=
  Cache.get_eq_some.mpr held

/-- What is read after another reading could be read before it. -/
theorem Cache.get_of_get {cache : Cache κ ν} {key other : κ} {now later : ℚ} {value : ν}
    (found : ((cache.get key now).2.get other later).1 = some value) :
    (cache.get other later).1 = some value := by
  obtain ⟨entry, held, unexpired, same⟩ := Cache.entry_of_get found
  exact Cache.get_of_entry ⟨entry, Cache.items_get held, unexpired, same⟩

/-- Setting a key does not change what another answers. -/
theorem Cache.get_set_of_ne {cache : Cache κ ν} {key other : κ} {value found : ν}
    {expiresAt now : ℚ} (different : other ≠ key)
    (read : ((cache.set key value expiresAt).get other now).1 = some found) :
    (cache.get other now).1 = some found := by
  obtain ⟨entry, held, unexpired, same⟩ := Cache.entry_of_get read
  unfold Cache.set at held
  dsimp only at held
  rw [Function.update_of_ne different] at held
  exact Cache.get_of_entry ⟨entry, held, unexpired, same⟩

/-- A value that is read stays. -/
theorem Cache.get_of_some {cache : Cache κ ν} {key : κ} {now : ℚ} {value : ν}
    (found : (cache.get key now).1 = some value) : (cache.get key now).2 = cache := by
  obtain ⟨entry, held, unexpired, -⟩ := Cache.entry_of_get found
  unfold Cache.get
  rw [held]
  dsimp only
  rw [if_neg unexpired]

theorem Cache.Holds.get {cache : Cache κ ν} {property : κ → ν → Prop}
    (holds : cache.Holds property) (key : κ) (now : ℚ) :
    (cache.get key now).2.Holds property :=
  fun other entry held => holds other entry (Cache.items_get held)

theorem Cache.Holds.value {cache : Cache κ ν} {property : κ → ν → Prop}
    (holds : cache.Holds property) {key : κ} {now : ℚ} {value : ν}
    (found : (cache.get key now).1 = some value) : property key value := by
  obtain ⟨entry, held, -, rfl⟩ := Cache.entry_of_get found
  exact holds key entry held

/-- A setting keeps what holds of the other entries. -/
theorem Cache.Holds.set {cache : Cache κ ν} {before after : κ → ν → Prop} {key : κ} {value : ν}
    (holds : cache.Holds before) (new : after key value)
    (kept : ∀ other old, other ≠ key → before other old → after other old) (expiresAt : ℚ) :
    (cache.set key value expiresAt).Holds after := by
  intro other entry held
  unfold Cache.set at held
  dsimp only at held
  by_cases same : other = key
  · subst same
    rw [Function.update_self] at held
    cases held
    exact new
  · rw [Function.update_of_ne same] at held
    exact kept other entry.value same (holds other entry held)

end FinopsAnalytics.ExpiringCaches
