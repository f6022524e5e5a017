import Mathlib.Algebra.BigOperators.Group.List.Basic
import Mathlib.Algebra.Order.BigOperators.Group.List
import Mathlib.Algebra.Order.Field.Basic
import Mathlib.Data.List.Chain
import Mathlib.Tactic.Linarith
import Mathlib.Tactic.Ring

/-!
# Functions that are linear on tiers

A tier starts at a position, may end at a later one, and has a rate. Tiers that follow
one another from a start up to a quantity share the quantity out, and determine one
function that grows with the rate of the tier in which its argument lies.
-/

namespace FinopsAnalytics.TieredFunctions

universe u
variable {α : Type u} [Field α] [LinearOrder α] [IsStrictOrderedRing α]

structure Tier (α : Type u) where
  lower : α
  upper : Option α
  rate : α

namespace Tier

/-- The tier does not end before the position. -/
def Reaches (tier : Tier α) (position : α) : Prop := ∀ upper ∈ tier.upper, position ≤ upper

instance (tier : Tier α) (position : α) : Decidable (tier.Reaches position) :=
  inferInstanceAs (Decidable (∀ upper ∈ tier.upper, position ≤ upper))

/-- The tier is open, or ends after it starts. -/
def Nonempty (tier : Tier α) : Prop := ∀ upper ∈ tier.upper, tier.lower < upper

instance (tier : Tier α) : Decidable tier.Nonempty :=
  inferInstanceAs (Decidable (∀ upper ∈ tier.upper, tier.lower < upper))

/-- The part of a quantity that lies in the tier. -/
def part (tier : Tier α) (quantity : α) : α :=
  match tier.upper with
  | some upper => min (max 0 (quantity - tier.lower)) (upper - tier.lower)
  | none => max 0 (quantity - tier.lower)

variable {tier : Tier α} {quantity position : α}

/-- A quantity that ends in the tier fills it from its start on. -/
theorem part_of_within (begun : tier.lower ≤ quantity) (reaches : tier.Reaches quantity) :
    tier.part quantity = quantity - tier.lower := by
  have positive : max 0 (quantity - tier.lower) = quantity - tier.lower :=
    max_eq_right (sub_nonneg.mpr begun)
  unfold part
  rw [positive]
  cases ends : tier.upper with
  | none => rfl
  | some upper => exact min_eq_left (sub_le_sub_right (reaches upper ends) _)

/-- A quantity that goes on after the tier fills it. -/
theorem part_of_beyond {upper : α} (ends : tier.upper = some upper) (nonempty : tier.Nonempty)
    (beyond : upper ≤ quantity) : tier.part quantity = upper - tier.lower := by
  have started := (nonempty upper ends).le.trans beyond
  unfold part
  rw [ends]
  dsimp only
  rw [max_eq_right (sub_nonneg.mpr started)]
  exact min_eq_right (sub_le_sub_right beyond _)

/-- A quantity that ends before the tier has no part in it. -/
theorem part_of_before (nonempty : tier.Nonempty) (before : quantity ≤ tier.lower) :
    tier.part quantity = 0 := by
  unfold part
  rw [max_eq_left (sub_nonpos.mpr before)]
  cases ends : tier.upper with
  | none => rfl
  | some upper => exact min_eq_left (sub_nonneg.mpr (nonempty upper ends).le)

theorem part_mono (tier : Tier α) {first second : α} (less : first ≤ second) :
    tier.part first ≤ tier.part second := by
  have grows : max 0 (first - tier.lower) ≤ max 0 (second - tier.lower) :=
    max_le_max_left 0 (sub_le_sub_right less _)
  unfold part
  cases tier.upper with
  | none => exact grows
  | some upper => exact min_le_min_right _ grows

theorem part_nonneg (nonempty : tier.Nonempty) (quantity : α) : 0 ≤ tier.part quantity := by
  unfold part
  cases ends : tier.upper with
  | none => exact le_max_left 0 _
  | some upper => exact le_min (le_max_left 0 _) (sub_nonneg.mpr (nonempty upper ends).le)

end Tier

/-- The tiers up to the first that reaches a quantity. -/
def readUpTo (quantity : α) : List (Tier α) → List (Tier α)
  | [] => []
  | tier :: rest => if tier.Reaches quantity then [tier] else tier :: readUpTo quantity rest

/-- Tiers that follow one another from a start until one of them reaches a quantity. -/
def Tiled (quantity : α) : α → List (Tier α) → Prop
  | _, [] => False
  | start, tier :: rest => tier.lower = start ∧ tier.Nonempty ∧
      (tier.Reaches quantity ∨ ∃ upper ∈ tier.upper, Tiled quantity upper rest)

/-- The same of the tiers that are read: the first one starts at the start, every other
one where the tier before it ends, none is empty, and one reaches the quantity. -/
structure Sound (quantity start : α) (read : List (Tier α)) : Prop where
  first : ∀ tier ∈ read.head?, tier.lower = start
  continuous : read.IsChain fun tier next => tier.upper = some next.lower
  nonempty : ∀ tier ∈ read, tier.Nonempty
  reaches : ∃ tier ∈ read, tier.Reaches quantity

/-- The sum of a function over the parts of a quantity. -/
def total (quantity : α) (tiers : List (Tier α)) : α :=
  (tiers.map fun tier => tier.part quantity * tier.rate).sum

/-- A function that starts at zero and grows with the rate of each tier within it. -/
structure PiecewiseLinear (start : α) (tiers : List (Tier α)) (cost : α → α) : Prop where
  start : cost start = 0
  slope : ∀ tier ∈ tiers, ∀ first second, tier.lower ≤ first → first ≤ second →
    tier.Reaches second → cost second - cost first = (second - first) * tier.rate

variable {quantity start : α} {tiers : List (Tier α)}

omit [Field α] [IsStrictOrderedRing α] in
/-- A tier that does not reach a quantity ends before it. -/
theorem exists_upper {tier : Tier α} (short : ¬tier.Reaches quantity) :
    ∃ upper, tier.upper = some upper ∧ upper < quantity := by
  unfold Tier.Reaches at short
  push Not at short
  exact short

omit [Field α] [IsStrictOrderedRing α] in
theorem readUpTo_of_reaches {tier : Tier α} (reaches : tier.Reaches quantity) :
    readUpTo quantity (tier :: tiers) = [tier] :=
  if_pos reaches

omit [Field α] [IsStrictOrderedRing α] in
theorem readUpTo_of_short {tier : Tier α} (short : ¬tier.Reaches quantity) :
    readUpTo quantity (tier :: tiers) = tier :: readUpTo quantity tiers :=
  if_neg short

omit [Field α] [IsStrictOrderedRing α] in
theorem mem_of_mem_readUpTo {tier : Tier α} (member : tier ∈ readUpTo quantity tiers) :
    tier ∈ tiers := by
  induction tiers with
  | nil => cases member
  | cons first rest inductionHypothesis =>
    rw [readUpTo] at member
    split_ifs at member with reaches
    · rw [List.mem_singleton.mp member]
      exact List.mem_cons_self ..
    · rcases List.mem_cons.mp member with rfl | inRest
      · exact List.mem_cons_self ..
      · exact List.mem_cons_of_mem _ (inductionHypothesis inRest)

omit [Field α] [IsStrictOrderedRing α] in
/-- What the recursion asks of the tiers, tier by tier. -/
theorem tiled_iff_sound :
    Tiled quantity start tiers ↔ Sound quantity start (readUpTo quantity tiers) := by
  induction tiers generalizing start with
  | nil =>
    refine iff_of_false id fun sound => ?_
    obtain ⟨tier, member, -⟩ := sound.reaches
    cases member
  | cons tier rest inductionHypothesis =>
    rw [Tiled, readUpTo]
    by_cases reaches : tier.Reaches quantity
    · rw [if_pos reaches]
      constructor
      · rintro ⟨starts, nonempty, -⟩
        refine ⟨by simpa using starts, List.IsChain.singleton _, by simpa using nonempty,
          tier, List.mem_singleton.mpr rfl, reaches⟩
      · intro sound
        exact ⟨sound.first tier rfl, sound.nonempty tier (List.mem_cons_self ..), Or.inl reaches⟩
    · obtain ⟨upper, ends, -⟩ := exists_upper reaches
      rw [if_neg reaches, or_iff_right reaches]
      constructor
      · rintro ⟨starts, nonempty, other, otherEnds, tiled⟩
        obtain rfl : upper = other := Option.some.inj (ends.symm.trans otherEnds)
        have later := inductionHypothesis.mp tiled
        refine ⟨by simpa using starts, ?_, ?_, ?_⟩
        · refine List.isChain_cons.mpr ⟨fun next first => ?_, later.continuous⟩
          rw [ends, later.first next first]
        · intro other member
          rcases List.mem_cons.mp member with rfl | inRest
          · exact nonempty
          · exact later.nonempty other inRest
        · obtain ⟨last, member, lastReaches⟩ := later.reaches
          exact ⟨last, List.mem_cons_of_mem _ member, lastReaches⟩
      · intro sound
        refine ⟨sound.first tier rfl, sound.nonempty tier (List.mem_cons_self ..), upper, ends,
          inductionHypothesis.mpr ⟨fun next first => ?_, ?_, fun other member => ?_, ?_⟩⟩
        · have linked := (List.isChain_cons.mp sound.continuous).1 next first
          exact (Option.some.inj (ends.symm.trans linked)).symm
        · exact (List.isChain_cons.mp sound.continuous).2
        · exact sound.nonempty other (List.mem_cons_of_mem _ member)
        · obtain ⟨last, member, lastReaches⟩ := sound.reaches
          rcases List.mem_cons.mp member with rfl | inRest
          · exact absurd lastReaches reaches
          · exact ⟨last, inRest, lastReaches⟩

omit [Field α] [IsStrictOrderedRing α] in
/-- Every tier that is read starts at the start or later. -/
theorem Tiled.start_le (tiled : Tiled quantity start tiers) :
    ∀ tier ∈ readUpTo quantity tiers, start ≤ tier.lower := by
  induction tiers generalizing start with
  | nil => exact tiled.elim
  | cons tier rest inductionHypothesis =>
    obtain ⟨rfl, nonempty, continues⟩ := tiled
    intro other member
    rw [readUpTo] at member
    split_ifs at member with reaches
    · rw [List.mem_singleton.mp member]
    · obtain ⟨upper, ends, later⟩ := continues.resolve_left reaches
      rcases List.mem_cons.mp member with rfl | inRest
      · exact le_rfl
      · exact (nonempty upper ends).le.trans (inductionHypothesis later other inRest)

theorem total_nonneg (nonempty : ∀ tier ∈ tiers, tier.Nonempty)
    (rates : ∀ tier ∈ tiers, 0 ≤ tier.rate) :
    0 ≤ total quantity tiers := by
  apply List.sum_nonneg
  intro share member
  obtain ⟨tier, isTier, rfl⟩ := List.mem_map.mp member
  exact mul_nonneg (Tier.part_nonneg (nonempty tier isTier) quantity) (rates tier isTier)

/-- More costs no less, although more tiers may be read. -/
theorem Tiled.total_mono {first second : α} (tiled : Tiled second start tiers)
    (less : first ≤ second) (rates : ∀ tier ∈ tiers, 0 ≤ tier.rate) :
    total first (readUpTo first tiers) ≤ total second (readUpTo second tiers) := by
  induction tiers generalizing start with
  | nil => exact tiled.elim
  | cons tier rest inductionHypothesis =>
    obtain ⟨-, -, continues⟩ := tiled
    have rate := rates tier (List.mem_cons_self ..)
    have restRates : ∀ other ∈ rest, 0 ≤ other.rate := fun other member =>
      rates other (List.mem_cons_of_mem _ member)
    have grows : tier.part first * tier.rate ≤ tier.part second * tier.rate :=
      mul_le_mul_of_nonneg_right (Tier.part_mono tier less) rate
    by_cases reaches : tier.Reaches second
    · have reachesFirst : tier.Reaches first := fun upper ends => less.trans (reaches upper ends)
      rw [readUpTo_of_reaches reachesFirst, readUpTo_of_reaches reaches]
      simpa [total] using grows
    · obtain ⟨upper, ends, later⟩ := continues.resolve_left reaches
      rw [readUpTo_of_short reaches]
      by_cases reachesFirst : tier.Reaches first
      · rw [readUpTo_of_reaches reachesFirst]
        have further : 0 ≤ total second (readUpTo second rest) :=
          total_nonneg (tiled_iff_sound.mp later).nonempty fun other member =>
            restRates other (mem_of_mem_readUpTo member)
        simp only [total, List.map_cons, List.map_nil, List.sum_cons, List.sum_nil,
          add_zero] at further ⊢
        linarith
      · have remaining := inductionHypothesis later restRates
        rw [readUpTo_of_short reachesFirst]
        simp only [total, List.map_cons, List.sum_cons] at remaining ⊢
        linarith

omit [IsStrictOrderedRing α] in
theorem total_cons (tier : Tier α) (quantity : α) :
    total quantity (tier :: tiers) = tier.part quantity * tier.rate + total quantity tiers := by
  rw [total, List.map_cons, List.sum_cons, total]

/-- Tiers that start later cost nothing. -/
theorem total_of_before (nonempty : ∀ tier ∈ tiers, tier.Nonempty)
    (before : ∀ tier ∈ tiers, quantity ≤ tier.lower) : total quantity tiers = 0 := by
  apply List.sum_eq_zero
  intro share member
  obtain ⟨tier, isTier, rfl⟩ := List.mem_map.mp member
  rw [Tier.part_of_before (nonempty tier isTier) (before tier isTier), zero_mul]

/-- The sum over the tiers that are read grows with the rate of each of them. -/
theorem Tiled.slope (tiled : Tiled quantity start tiers) :
    ∀ tier ∈ readUpTo quantity tiers, ∀ first second, tier.lower ≤ first → first ≤ second →
      tier.Reaches second → total second (readUpTo quantity tiers) -
        total first (readUpTo quantity tiers) = (second - first) * tier.rate := by
  induction tiers generalizing start with
  | nil => exact tiled.elim
  | cons head rest inductionHypothesis =>
    obtain ⟨-, nonempty, continues⟩ := tiled
    intro tier member first second begun less within
    by_cases reaches : head.Reaches quantity
    · rw [readUpTo_of_reaches reaches] at member ⊢
      obtain rfl := List.mem_singleton.mp member
      have withinFirst : tier.Reaches first := fun upper ends => less.trans (within upper ends)
      rw [total_cons, total_cons, Tier.part_of_within begun withinFirst,
        Tier.part_of_within (begun.trans less) within]
      simp only [total, List.map_nil, List.sum_nil]
      ring
    · obtain ⟨upper, ends, later⟩ := continues.resolve_left reaches
      have laterSound := tiled_iff_sound.mp later
      rw [readUpTo_of_short reaches] at member ⊢
      rw [total_cons, total_cons]
      rcases List.mem_cons.mp member with rfl | inRest
      · -- the other tiers start where this one ends
        have withinFirst : tier.Reaches first := fun upper ends => less.trans (within upper ends)
        have none {position : α} (before : position ≤ upper) :
            total position (readUpTo quantity rest) = 0 :=
          total_of_before laterSound.nonempty fun other isOther =>
            before.trans (later.start_le other isOther)
        rw [none (within upper ends), none (less.trans (within upper ends)),
          Tier.part_of_within begun withinFirst, Tier.part_of_within (begun.trans less) within]
        ring
      · have beyond : upper ≤ first := (later.start_le tier inRest).trans begun
        rw [Tier.part_of_beyond ends nonempty beyond,
          Tier.part_of_beyond ends nonempty (beyond.trans less),
          ← inductionHypothesis later tier inRest first second begun less within]
        ring

theorem Tiled.piecewiseLinear (tiled : Tiled quantity start tiers) :
    PiecewiseLinear start (readUpTo quantity tiers) fun position =>
      total position (readUpTo quantity tiers) :=
  ⟨total_of_before (tiled_iff_sound.mp tiled).nonempty tiled.start_le, tiled.slope⟩

/-- No other function does. -/
theorem Tiled.total_unique (tiled : Tiled quantity start tiers) (begun : start ≤ quantity)
    {cost : α → α} (linear : PiecewiseLinear start (readUpTo quantity tiers) cost) :
    cost quantity = total quantity (readUpTo quantity tiers) := by
  have grown : cost quantity - cost start = total quantity (readUpTo quantity tiers) := by
    have slope := linear.slope
    clear linear
    induction tiers generalizing start with
    | nil => exact tiled.elim
    | cons tier rest inductionHypothesis =>
      obtain ⟨rfl, nonempty, continues⟩ := tiled
      by_cases reaches : tier.Reaches quantity
      · rw [readUpTo_of_reaches reaches] at slope ⊢
        rw [slope tier (List.mem_cons_self ..) _ _ le_rfl begun reaches, total_cons,
          Tier.part_of_within begun reaches]
        simp only [total, List.map_nil, List.sum_nil, add_zero]
      · obtain ⟨upper, ends, later⟩ := continues.resolve_left reaches
        obtain ⟨last, lastEnds, beyond⟩ := exists_upper reaches
        obtain rfl : upper = last := Option.some.inj (ends.symm.trans lastEnds)
        rw [readUpTo_of_short reaches] at slope ⊢
        have first := slope tier (List.mem_cons_self ..) _ upper le_rfl (nonempty upper ends).le
          fun other otherEnds => (Option.some.inj (ends.symm.trans otherEnds)).le
        have remaining := inductionHypothesis later beyond.le fun other member =>
          slope other (List.mem_cons_of_mem _ member)
        rw [total_cons, Tier.part_of_beyond ends nonempty beyond.le, ← first, ← remaining]
        ring
  rw [← grown, linear.start, sub_zero]

end FinopsAnalytics.TieredFunctions
