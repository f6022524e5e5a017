import Mathlib.Data.List.Induction

/-!
# Interleavings

Any number of parties take steps one after the other, in any order. A step is a
total function of the whole state; one that its party cannot take leaves the
state. A run is the list of the steps taken. A condition on single steps holds
along a run when every step meets it in the state in which it is taken.
-/

namespace FinopsAnalytics.Interleavings

universe u v
variable {σ : Type u} {α : Type v}

/-- The state after the steps of a run. -/
def run (step : σ → α → σ) (start : σ) (steps : List α) : σ := steps.foldl step start

/-- Every step meets the condition in the state in which it is taken. -/
def Along (step : σ → α → σ) (condition : σ → α → Prop) (start : σ) : List α → Prop
  | [] => True
  | action :: rest => condition start action ∧ Along step condition (step start action) rest

variable {step : σ → α → σ} {condition : σ → α → Prop}

instance decidableAlong [∀ state action, Decidable (condition state action)] :
    (start : σ) → (steps : List α) → Decidable (Along step condition start steps)
  | _, [] => isTrue trivial
  | start, action :: rest =>
    have : Decidable (Along step condition (step start action) rest) := decidableAlong _ rest
    inferInstanceAs (Decidable (_ ∧ _))

theorem run_append (start : σ) (first second : List α) :
    run step start (first ++ second) = run step (run step start first) second :=
  List.foldl_append

theorem along_append {start : σ} {first second : List α} :
    Along step condition start (first ++ second) ↔
      Along step condition start first ∧ Along step condition (run step start first) second := by
  induction first generalizing start with
  | nil => simp [Along, run]
  | cons action rest inductionHypothesis =>
    rw [List.cons_append, Along, Along, inductionHypothesis, and_assoc]
    rfl

/-- The rule of invariants: what holds initially and is kept by every step that
meets the condition holds after every run along the condition. -/
theorem run_invariant (invariant : σ → Prop) {start : σ} {steps : List α}
    (initially : invariant start)
    (kept : ∀ state action, invariant state → condition state action →
      invariant (step state action))
    (along : Along step condition start steps) : invariant (run step start steps) := by
  induction steps generalizing start with
  | nil => exact initially
  | cons action rest inductionHypothesis =>
    exact inductionHypothesis (kept start action initially along.1) along.2

/-- The rule for what every step keeps. -/
theorem run_invariant_of_kept (invariant : σ → Prop) {start : σ} (initially : invariant start)
    (kept : ∀ state action, invariant state → invariant (step state action)) (steps : List α) :
    invariant (run step start steps) := by
  induction steps generalizing start with
  | nil => exact initially
  | cons action rest inductionHypothesis =>
    exact inductionHypothesis (kept start action initially)

end FinopsAnalytics.Interleavings
