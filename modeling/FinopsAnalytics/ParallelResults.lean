import Mathlib.Data.List.Forall2

/-!
# Two fallible computations side by side

Two computations agree on a relation when both fail, with any errors, or both succeed with
related results.
-/

namespace FinopsAnalytics.ParallelResults

universe u v
variable {ε : Type v} {α β : Type u}

def Agree (relation : α → α → Prop) (first second : Except ε α) : Prop :=
  match first, second with
  | .ok left, .ok right => relation left right
  | .error _, .error _ => True
  | _, _ => False

variable {relation : α → α → Prop} {result : β → β → Prop} {first second : Except ε α}

/-- Agreeing computations that agree on how they go on. -/
theorem agree_bind {next other : α → Except ε β} (agree : Agree relation first second)
    (continues : ∀ left right, relation left right → Agree result (next left) (other right)) :
    Agree result (first >>= next) (second >>= other) := by
  cases first with
  | error raised =>
    cases second with
    | error other => exact trivial
    | ok right => exact agree.elim
  | ok left =>
    cases second with
    | error other => exact agree.elim
    | ok right => exact continues left right agree

/-- Two computations in either order. -/
theorem agree_swap {next other : α → α → Except ε β}
    (continues : ∀ left right, Agree result (next left right) (other right left)) :
    Agree result (first >>= fun left => second >>= fun right => next left right)
      (second >>= fun right => first >>= fun left => other right left) := by
  cases first with
  | error raised =>
    cases second with
    | error other => exact trivial
    | ok right => exact trivial
  | ok left =>
    cases second with
    | error other => exact trivial
    | ok right => exact continues left right

/-- A success has a counterpart. -/
theorem agree_ok {value : α} (agree : Agree relation first second)
    (succeeded : first = .ok value) : ∃ other, second = .ok other ∧ relation value other := by
  subst succeeded
  cases second with
  | error raised => exact agree.elim
  | ok other => exact ⟨other, rfl, agree⟩

/-- Computations that agree for each of some arguments agree on the list of their results. -/
theorem agree_mapM {γ : Type u} {compute other : γ → Except ε α} {arguments : List γ}
    (agree : ∀ argument ∈ arguments, Agree relation (compute argument) (other argument)) :
    Agree (List.Forall₂ relation) (arguments.mapM compute) (arguments.mapM other) := by
  induction arguments with
  | nil => exact List.Forall₂.nil
  | cons argument rest inductionHypothesis =>
    rw [List.mapM_cons, List.mapM_cons]
    refine agree_bind (agree argument (List.mem_cons_self ..)) fun left right related => ?_
    refine agree_bind (inductionHypothesis fun later member =>
      agree later (List.mem_cons_of_mem _ member)) fun lefts rights others => ?_
    exact List.Forall₂.cons related others

end FinopsAnalytics.ParallelResults
