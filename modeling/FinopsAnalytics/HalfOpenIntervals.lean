import Mathlib.Order.Basic
import Mathlib.Order.Defs.LinearOrder
import Mathlib.Data.Option.Basic
import Mathlib.Order.GaloisConnection.Basic

/-!
# Half-open intervals with an optional end

An interval contains its start and excludes its end; without an end it is
unbounded. The meeting test compares ends with starts only. It decides whether
two nonempty intervals share an instant, and splitting an interval inside itself
partitions its instants.

A tiling gives every instant the bounds of an interval around it, the same to all
instants of the interval. Its intervals follow one another without a gap.
-/

namespace FinopsAnalytics.HalfOpenIntervals

universe u v
variable {α : Type u} [LinearOrder α]

structure Interval (α : Type u) where
  start : α
  stop : Option α

/-- The interval has begun and has not ended. -/
def Interval.Contains (interval : Interval α) (instant : α) : Prop :=
  interval.start ≤ instant ∧ ∀ stop ∈ interval.stop, instant < stop

/-- Each interval starts before the other ends. -/
def Interval.Meets (first second : Interval α) : Prop :=
  (∀ stop ∈ first.stop, second.start < stop) ∧ ∀ stop ∈ second.stop, first.start < stop

instance (first second : Interval α) : Decidable (first.Meets second) :=
  inferInstanceAs (Decidable (_ ∧ _))

/-- A bounded interval ends after it starts. -/
def Interval.Nonempty (interval : Interval α) : Prop :=
  ∀ stop ∈ interval.stop, interval.start < stop

/-- The part up to a transition. -/
def Interval.before (interval : Interval α) (transition : α) : Interval α :=
  ⟨interval.start, some transition⟩

/-- The part from a transition on. -/
def Interval.after (interval : Interval α) (transition : α) : Interval α :=
  ⟨transition, interval.stop⟩

/-- Intervals with a common instant meet. -/
theorem Interval.meets_of_common {first second : Interval α} {instant : α}
    (left : first.Contains instant) (right : second.Contains instant) : first.Meets second :=
  ⟨fun stop ends => right.1.trans_lt (left.2 stop ends),
    fun stop ends => left.1.trans_lt (right.2 stop ends)⟩

/-- Before the transition the first part contains what the whole does. -/
theorem Interval.before_contains {interval : Interval α} {transition instant : α}
    (inside : ∀ stop ∈ interval.stop, transition < stop) :
    (interval.before transition).Contains instant ↔
      interval.Contains instant ∧ instant < transition := by
  simp only [Interval.before, Interval.Contains, Option.mem_def, Option.some.injEq, forall_eq']
  constructor
  · rintro ⟨begun, earlier⟩
    exact ⟨⟨begun, fun stop ends => earlier.trans (inside stop ends)⟩, earlier⟩
  · rintro ⟨⟨begun, _⟩, earlier⟩
    exact ⟨begun, earlier⟩

/-- From the transition on the second part contains what the whole does. -/
theorem Interval.after_contains {interval : Interval α} {transition instant : α}
    (begun : interval.start ≤ transition) :
    (interval.after transition).Contains instant ↔
      interval.Contains instant ∧ transition ≤ instant := by
  simp only [Interval.after, Interval.Contains]
  constructor
  · rintro ⟨later, unended⟩
    exact ⟨⟨begun.trans later, unended⟩, later⟩
  · rintro ⟨⟨_, unended⟩, later⟩
    exact ⟨later, unended⟩

/-- Bounds of every instant that are around it and those of every instant between them. -/
structure Tiling (α : Type u) [LinearOrder α] where
  start : α → α
  stop : α → α
  begun : ∀ instant, start instant ≤ instant
  unended : ∀ instant, instant < stop instant
  shared : ∀ {instant other}, start instant ≤ other → other < stop instant →
    start other = start instant ∧ stop other = stop instant

/-- Two intervals of a tiling are equal or disjoint. -/
theorem Tiling.eq_or_disjoint (tiling : Tiling α) (first second : α) :
    (tiling.start first = tiling.start second ∧ tiling.stop first = tiling.stop second) ∨
      tiling.stop first ≤ tiling.start second ∨ tiling.stop second ≤ tiling.start first := by
  rcases le_or_gt (tiling.stop first) (tiling.start second) with apart | firstLater
  · exact Or.inr (Or.inl apart)
  rcases le_or_gt (tiling.stop second) (tiling.start first) with apart | secondLater
  · exact Or.inr (Or.inr apart)
  -- the later of the two starts lies in both intervals
  rcases le_total (tiling.start first) (tiling.start second) with later | later
  · obtain ⟨firstStart, firstStop⟩ := tiling.shared later firstLater
    have nonempty := (tiling.begun second).trans_lt (tiling.unended second)
    obtain ⟨secondStart, secondStop⟩ := tiling.shared le_rfl nonempty
    exact Or.inl ⟨firstStart.symm.trans secondStart, firstStop.symm.trans secondStop⟩
  · obtain ⟨secondStart, secondStop⟩ := tiling.shared later secondLater
    have nonempty := (tiling.begun first).trans_lt (tiling.unended first)
    obtain ⟨firstStart, firstStop⟩ := tiling.shared le_rfl nonempty
    exact Or.inl ⟨firstStart.symm.trans secondStart, firstStop.symm.trans secondStop⟩

/-- The interval after that of an instant starts where it ends. -/
theorem Tiling.start_stop (tiling : Tiling α) (instant : α) :
    tiling.start (tiling.stop instant) = tiling.stop instant := by
  have begun := tiling.begun (tiling.stop instant)
  have unended := tiling.unended (tiling.stop instant)
  rcases tiling.eq_or_disjoint instant (tiling.stop instant) with same | apart | apart
  · rw [← same.2] at unended
    exact absurd unended (lt_irrefl _)
  · exact le_antisymm begun apart
  · have reversed := apart.trans (tiling.begun instant)
    exact absurd (unended.trans_le reversed) (tiling.unended instant).not_gt

/-- The tiling of the instants by the readings that a clock shows at them. -/
def Tiling.comap {β : Type v} [LinearOrder β] (tiling : Tiling α) {earliest : α → β} {read : β → α}
    (forward : GaloisConnection earliest read) : Tiling β where
  start instant := earliest (tiling.start (read instant))
  stop instant := earliest (tiling.stop (read instant))
  begun instant := (forward _ _).mpr (tiling.begun (read instant))
  unended instant := forward.lt_iff_lt.mpr (tiling.unended (read instant))
  shared {instant other} begun unended := by
    obtain ⟨sameStart, sameStop⟩ :=
      tiling.shared ((forward _ _).mp begun) (forward.lt_iff_lt.mp unended)
    exact ⟨congrArg earliest sameStart, congrArg earliest sameStop⟩

end FinopsAnalytics.HalfOpenIntervals
