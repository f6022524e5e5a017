import Mathlib.Algebra.BigOperators.Group.List.Basic
import Mathlib.Algebra.Group.Subgroup.Defs
import Mathlib.Algebra.Order.Group.MinMax
import Mathlib.Data.List.Basic
import Mathlib.Logic.Function.Basic
import Mathlib.Logic.Relation
import Mathlib.Tactic.Abel

/-!
# Greedy transport between sources and targets

Sources hold a supply, targets have a need. One shipment moves the smaller of
the two between a pair on permitted terms while both are positive and is
recorded in a plan. Nothing fixes which pair ships next, so the laws below hold
for every greedy strategy: amounts are conserved at each source and target, both
sides only decrease and never fall below zero, and a pair that has shipped stays
exhausted on one side.
-/

namespace FinopsAnalytics.GreedyTransport

universe u v w x
variable {κ : Type u} {ι : Type v} {ν : Type w} {α : Type x}

/-- An amount moved from a source to a target on some terms. -/
structure Shipment (κ : Type u) (ι : Type v) (ν : Type w) (α : Type x) where
  source : κ
  target : ι
  terms : ν
  amount : α

structure State (κ : Type u) (ι : Type v) (ν : Type w) (α : Type x) where
  supply : κ → α
  need : ι → α
  plan : List (Shipment κ ι ν α)

section Totals

variable [AddCommMonoid α]

/-- The total a plan takes from one source. -/
def shipped [DecidableEq κ] (plan : List (Shipment κ ι ν α)) (source : κ) : α :=
  ((plan.filter (·.source = source)).map Shipment.amount).sum

/-- The total a plan brings to one target. -/
def delivered [DecidableEq ι] (plan : List (Shipment κ ι ν α)) (target : ι) : α :=
  ((plan.filter (·.target = target)).map Shipment.amount).sum

theorem shipped_concat [DecidableEq κ] (plan : List (Shipment κ ι ν α)) (last : Shipment κ ι ν α)
    (source : κ) : shipped (plan ++ [last]) source =
      shipped plan source + if last.source = source then last.amount else 0 := by
  by_cases same : last.source = source <;> simp [shipped, same]

theorem delivered_concat [DecidableEq ι] (plan : List (Shipment κ ι ν α)) (last : Shipment κ ι ν α)
    (target : ι) : delivered (plan ++ [last]) target =
      delivered plan target + if last.target = target then last.amount else 0 := by
  by_cases same : last.target = target <;> simp [delivered, same]

end Totals

variable [DecidableEq κ] [DecidableEq ι] [AddCommGroup α] [LinearOrder α]

/-- Move the smaller of supply and need. -/
def State.ship (state : State κ ι ν α) (source : κ) (target : ι) (terms : ν) :
    State κ ι ν α :=
  let amount := min (state.supply source) (state.need target)
  { supply := Function.update state.supply source (state.supply source - amount)
    need := Function.update state.need target (state.need target - amount)
    plan := state.plan ++ [⟨source, target, terms, amount⟩] }

/-- One shipment on permitted terms between a pair with supply and need left. -/
inductive Step (permitted : κ → ι → ν → Prop) (state : State κ ι ν α) : State κ ι ν α → Prop where
  | ship (source : κ) (target : ι) (terms : ν) (allowed : permitted source target terms)
      (supplied : 0 < state.supply source) (needed : 0 < state.need target) :
      Step permitted state (state.ship source target terms)

/-- Any number of shipments, in any order. -/
abbrev Run (permitted : κ → ι → ν → Prop) : State κ ι ν α → State κ ι ν α → Prop :=
  Relation.ReflTransGen (Step permitted)

variable {permitted : κ → ι → ν → Prop} {before after : State κ ι ν α}

/-- What leaves a source's supply is what the plan records for it. -/
theorem Step.supply_conserved (step : Step permitted before after) (source : κ) :
    after.supply source + shipped after.plan source =
      before.supply source + shipped before.plan source := by
  obtain ⟨used, target, _, _, _, _⟩ := step
  by_cases same : used = source
  · subst used
    simp only [State.ship, Function.update_self, shipped_concat, ↓reduceIte]
    abel
  · simp [State.ship, shipped_concat, same, Function.update_of_ne (Ne.symm same)]

/-- What leaves a target's need is what the plan records for it. -/
theorem Step.need_conserved (step : Step permitted before after) (target : ι) :
    after.need target + delivered after.plan target =
      before.need target + delivered before.plan target := by
  obtain ⟨source, used, _, _, _, _⟩ := step
  by_cases same : used = target
  · subst used
    simp only [State.ship, Function.update_self, delivered_concat, ↓reduceIte]
    abel
  · simp [State.ship, delivered_concat, same, Function.update_of_ne (Ne.symm same)]

theorem Run.supply_conserved (run : Run permitted before after) (source : κ) :
    after.supply source + shipped after.plan source =
      before.supply source + shipped before.plan source := by
  induction run with
  | refl => rfl
  | tail _ step inductionHypothesis => exact (step.supply_conserved source).trans inductionHypothesis

theorem Run.need_conserved (run : Run permitted before after) (target : ι) :
    after.need target + delivered after.plan target =
      before.need target + delivered before.plan target := by
  induction run with
  | refl => rfl
  | tail _ step inductionHypothesis => exact (step.need_conserved target).trans inductionHypothesis

/-- Every recorded shipment is positive and permitted if those before the run
were. -/
theorem Run.plan_sound (run : Run permitted before after)
    (sound : ∀ shipment ∈ before.plan,
      0 < shipment.amount ∧ permitted shipment.source shipment.target shipment.terms) :
    ∀ shipment ∈ after.plan,
      0 < shipment.amount ∧ permitted shipment.source shipment.target shipment.terms := by
  induction run with
  | refl => exact sound
  | tail _ step inductionHypothesis =>
    obtain ⟨source, target, terms, allowed, supplied, needed⟩ := step
    intro shipment member
    rcases List.mem_append.mp member with earlier | last
    · exact inductionHypothesis shipment earlier
    · obtain rfl : shipment = _ := List.mem_singleton.mp last
      exact ⟨lt_min supplied needed, allowed⟩

/-- A run only appends to the plan. -/
theorem Run.plan_prefix (run : Run permitted before after) : before.plan <+: after.plan := by
  induction run with
  | refl => exact List.prefix_refl _
  | tail _ step inductionHypothesis =>
    obtain ⟨source, target, terms, _, _, _⟩ := step
    exact inductionHypothesis.trans (List.prefix_append _ _)

/-- Without permission nothing reaches a target. -/
theorem Run.need_untouched (run : Run permitted before after) {target : ι}
    (refused : ∀ source terms, ¬permitted source target terms) :
    after.need target = before.need target := by
  induction run with
  | refl => rfl
  | tail _ step inductionHypothesis =>
    obtain ⟨source, other, terms, allowed, _, _⟩ := step
    have different : target ≠ other := by
      rintro rfl
      exact refused source terms allowed
    exact (Function.update_of_ne different _ _).trans inductionHypothesis

/-- The supplies and needs of a state are multiples of their grains. -/
structure Granular (sourceGrain : κ → AddSubgroup α) (targetGrain : ι → AddSubgroup α)
    (state : State κ ι ν α) : Prop where
  supply : ∀ source, state.supply source ∈ sourceGrain source
  need : ∀ target, state.need target ∈ targetGrain target

/-- A shipment between equal grains moves one of the two amounts whole, so both
sides stay granular. -/
theorem Granular.ship {sourceGrain : κ → AddSubgroup α} {targetGrain : ι → AddSubgroup α}
    {state : State κ ι ν α} (granular : Granular sourceGrain targetGrain state) {source : κ}
    {target : ι} (terms : ν) (aligned : sourceGrain source = targetGrain target) :
    Granular sourceGrain targetGrain (state.ship source target terms) := by
  have amount : min (state.supply source) (state.need target) ∈ targetGrain target := by
    rcases min_choice (state.supply source) (state.need target) with same | same
    · rw [same, ← aligned]
      exact granular.supply source
    · rw [same]
      exact granular.need target
  constructor
  · intro other
    by_cases same : other = source
    · subst other
      simp only [State.ship, Function.update_self]
      exact sub_mem (granular.supply source) (aligned ▸ amount)
    · simp only [State.ship, Function.update_of_ne same]
      exact granular.supply other
  · intro other
    by_cases same : other = target
    · subst other
      simp only [State.ship, Function.update_self]
      exact sub_mem (granular.need target) amount
    · simp only [State.ship, Function.update_of_ne same]
      exact granular.need other

/-- Where every shipment of a run is between equal grains, the run stays granular. -/
theorem Run.granular {sourceGrain : κ → AddSubgroup α} {targetGrain : ι → AddSubgroup α}
    (run : Run permitted before after) (granular : Granular sourceGrain targetGrain before)
    (aligned : ∀ shipment ∈ after.plan,
      sourceGrain shipment.source = targetGrain shipment.target) :
    Granular sourceGrain targetGrain after := by
  induction run with
  | refl => exact granular
  | tail _ step inductionHypothesis =>
    obtain ⟨source, target, terms, _, _, _⟩ := step
    have earlier := inductionHypothesis fun shipment member =>
      aligned shipment (List.mem_append_left _ member)
    exact earlier.ship terms (aligned _ (List.mem_append_right _ (List.mem_singleton_self _)))

variable [IsOrderedAddMonoid α]

/-- A shipment lowers one supply, keeps it nonnegative and leaves the others. -/
theorem Step.supply_bounds (step : Step permitted before after) (source : κ) :
    after.supply source ≤ before.supply source ∧
      (0 ≤ before.supply source → 0 ≤ after.supply source) := by
  obtain ⟨used, target, _, _, supplied, needed⟩ := step
  by_cases same : used = source
  · subst used
    simp only [State.ship, Function.update_self, sub_nonneg]
    exact ⟨sub_le_self _ (le_min supplied.le needed.le), fun _ => min_le_left _ _⟩
  · simp [State.ship, Function.update_of_ne (Ne.symm same)]

/-- A shipment lowers one need, keeps it nonnegative and leaves the others. -/
theorem Step.need_bounds (step : Step permitted before after) (target : ι) :
    after.need target ≤ before.need target ∧
      (0 ≤ before.need target → 0 ≤ after.need target) := by
  obtain ⟨source, used, _, _, supplied, needed⟩ := step
  by_cases same : used = target
  · subst used
    simp only [State.ship, Function.update_self, sub_nonneg]
    exact ⟨sub_le_self _ (le_min supplied.le needed.le), fun _ => min_le_right _ _⟩
  · simp [State.ship, Function.update_of_ne (Ne.symm same)]

theorem Run.supply_bounds (run : Run permitted before after) (source : κ) :
    after.supply source ≤ before.supply source ∧
      (0 ≤ before.supply source → 0 ≤ after.supply source) := by
  induction run with
  | refl => exact ⟨le_rfl, id⟩
  | tail _ step inductionHypothesis =>
    exact ⟨(step.supply_bounds source).1.trans inductionHypothesis.1,
      (step.supply_bounds source).2 ∘ inductionHypothesis.2⟩

theorem Run.need_bounds (run : Run permitted before after) (target : ι) :
    after.need target ≤ before.need target ∧
      (0 ≤ before.need target → 0 ≤ after.need target) := by
  induction run with
  | refl => exact ⟨le_rfl, id⟩
  | tail _ step inductionHypothesis =>
    exact ⟨(step.need_bounds target).1.trans inductionHypothesis.1,
      (step.need_bounds target).2 ∘ inductionHypothesis.2⟩

/-- No more can move between the pair. -/
def Exhausted (state : State κ ι ν α) (source : κ) (target : ι) : Prop :=
  state.supply source ≤ 0 ∨ state.need target ≤ 0

/-- The smaller of supply and need is used up by its own shipment. -/
theorem ship_exhausts (state : State κ ι ν α) (source : κ) (target : ι) (terms : ν) :
    Exhausted (state.ship source target terms) source target := by
  simp only [Exhausted, State.ship, Function.update_self, sub_nonpos, le_min_iff, le_refl,
    true_and, and_true]
  exact le_total _ _

/-- Exhaustion outlasts every further shipment, since both sides only decrease. -/
theorem Run.exhausted (run : Run permitted before after) {source : κ} {target : ι}
    (exhausted : Exhausted before source target) : Exhausted after source target :=
  exhausted.imp (run.supply_bounds source).1.trans (run.need_bounds target).1.trans

end FinopsAnalytics.GreedyTransport
