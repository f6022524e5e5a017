import Mathlib.Data.List.Induction

/-!
# Histories of transactions

Operations run one after the other. One that raises is rolled back and leaves
the state as it was. The history of a run lists every operation with the states
around it; facts about histories are proved by adding one operation at the end.
-/

namespace FinopsAnalytics.TransactionHistories

universe u v w
variable {σ : Type u} {ω : Type v} {ε : Type w}

/-- An operation with the states around it. -/
structure Transition (σ : Type u) (ω : Type v) where
  operation : ω
  before : σ
  after : σ

section Runs

variable (step : ω → σ → Except ε σ)

/-- The state after an operation that may have been rolled back. -/
def commit (state : σ) (operation : ω) : σ :=
  match step operation state with
  | .ok after => after
  | .error _ => state

/-- The state after a sequence of operations. -/
def stateAfter (start : σ) (operations : List ω) : σ := operations.foldl (commit step) start

/-- The history of a sequence of operations. -/
def history (start : σ) : List ω → List (Transition σ ω)
  | [] => []
  | operation :: rest =>
    ⟨operation, start, commit step start operation⟩ :: history (commit step start operation) rest

end Runs

variable {step : ω → σ → Except ε σ}

/-- An operation either commits its result or leaves the state. -/
theorem commit_cases (step : ω → σ → Except ε σ) (state : σ) (operation : ω) :
    commit step state operation = state ∨
      step operation state = .ok (commit step state operation) := by
  unfold commit
  split
  · rename_i after committed
    exact Or.inr committed
  · exact Or.inl rfl

theorem stateAfter_append_singleton (start : σ) (operations : List ω) (operation : ω) :
    stateAfter step start (operations ++ [operation]) =
      commit step (stateAfter step start operations) operation := by
  simp [stateAfter]

theorem history_append_singleton (start : σ) (operations : List ω) (operation : ω) :
    history step start (operations ++ [operation]) =
      history step start operations ++
        [⟨operation, stateAfter step start operations,
          commit step (stateAfter step start operations) operation⟩] := by
  induction operations generalizing start with
  | nil => rfl
  | cons first rest inductionHypothesis =>
    rw [List.cons_append, history, inductionHypothesis]
    rfl

variable {start : σ} {operations : List ω}

/-- What holds initially and is kept by every operation that commits holds at
the end. -/
theorem stateAfter_invariant (invariant : σ → Prop) (initially : invariant start)
    (kept : ∀ operation ∈ operations, ∀ state after, invariant state →
      step operation state = .ok after → invariant after) :
    invariant (stateAfter step start operations) := by
  induction operations using List.reverseRecOn with
  | nil => exact initially
  | append_singleton rest operation inductionHypothesis =>
    have earlier := inductionHypothesis fun other member =>
      kept other (List.mem_append_left _ member)
    rw [stateAfter_append_singleton]
    rcases commit_cases step (stateAfter step start rest) operation with
      same | committed
    · rwa [same]
    · exact kept operation (List.mem_append_right _ (List.mem_singleton.mpr rfl)) _ _ earlier
        committed

/-- The same for an invariant of the history and the state. -/
theorem history_invariant (invariant : List (Transition σ ω) → σ → Prop) (operations : List ω)
    (initially : invariant [] start) (rolledBack : ∀ past state operation, invariant past state →
      invariant (past ++ [⟨operation, state, state⟩]) state)
    (committed : ∀ past state operation after, invariant past state →
      step operation state = .ok after →
      invariant (past ++ [⟨operation, state, after⟩]) after) :
    invariant (history step start operations) (stateAfter step start operations) := by
  induction operations using List.reverseRecOn with
  | nil => exact initially
  | append_singleton rest operation inductionHypothesis =>
    rw [stateAfter_append_singleton, history_append_singleton]
    rcases commit_cases step (stateAfter step start rest) operation with same | result
    · rw [same]
      exact rolledBack _ _ operation inductionHypothesis
    · exact committed _ _ operation _ inductionHypothesis result

/-- Every entry of a history is an operation that committed or left the state. -/
theorem mem_history {transition : Transition σ ω}
    (member : transition ∈ history step start operations) :
    transition.after = transition.before ∨
      step transition.operation transition.before = .ok transition.after := by
  induction operations generalizing start with
  | nil => cases member
  | cons operation rest inductionHypothesis =>
    rcases List.mem_cons.mp member with rfl | later
    · exact commit_cases _ start operation
    · exact inductionHypothesis later

/-- The operations of a history are those of the run. -/
theorem operation_mem_of_history {transition : Transition σ ω}
    (member : transition ∈ history step start operations) : transition.operation ∈ operations := by
  induction operations generalizing start with
  | nil => cases member
  | cons operation rest inductionHypothesis =>
    rcases List.mem_cons.mp member with rfl | later
    · exact List.mem_cons_self ..
    · exact List.mem_cons_of_mem _ (inductionHypothesis later)

end FinopsAnalytics.TransactionHistories
