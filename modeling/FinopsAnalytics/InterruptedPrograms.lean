import Mathlib.Init

/-!
# Programs whose process may be killed

A program changes a state that outlives its process. Each of its steps may raise,
before or after it took effect, and the process may be killed before any step. An
exception can be handled, a kill cannot. What befalls the steps is the list of their
fates; where the list ends the process is killed. A contract says what holds of the
state when a program returns, when it raises and when it is killed.
-/

namespace FinopsAnalytics.InterruptedPrograms

universe u v
variable {σ α β : Type u}

/-- What befalls a step. -/
inductive Fate where
  | proceeds | raises | raisesAfter | kills
  deriving DecidableEq

/-- How a program ends. -/
inductive Outcome (α : Type u) where
  | returned (value : α)
  | raised
  | killed
  deriving DecidableEq

/-- A program, over the fates of its steps. -/
def Program (σ α : Type u) := σ → List Fate → Outcome α × σ × List Fate

namespace Program

/-- Sequential composition. An exception or a kill skips the rest. -/
def andThen (first : Program σ α) (next : α → Program σ β) : Program σ β := fun state fates =>
  match first state fates with
  | (.returned value, after, rest) => next value after rest
  | (.raised, after, rest) => (.raised, after, rest)
  | (.killed, after, rest) => (.killed, after, rest)

instance : Monad (Program σ) where
  pure value state fates := (.returned value, state, fates)
  bind := andThen

/-- A step. It raises by itself where it has no effect. -/
def step (effect : σ → Option (α × σ)) : Program σ α := fun state fates =>
  match fates with
  | [] | .kills :: _ => (.killed, state, [])
  | .raises :: rest => (.raised, state, rest)
  | .raisesAfter :: rest =>
    match effect state with
    | some (_, after) => (.raised, after, rest)
    | none => (.raised, state, rest)
  | .proceeds :: rest =>
    match effect state with
    | some (value, after) => (.returned value, after, rest)
    | none => (.raised, state, rest)

/-- An external command that leaves the state alone. -/
def command : Program σ PUnit := step fun state => some (⟨⟩, state)

/-- A step that changes the state. -/
def write (change : σ → σ) : Program σ PUnit := step fun state => some (⟨⟩, change state)

/-- A step that reads what must be there. -/
def demand (read : σ → Option α) : Program σ α := step fun state =>
  (read state).map fun value => (value, state)

/-- A record of the run that is no step of the process. -/
def note (change : σ → σ) : Program σ PUnit := fun state fates =>
  (.returned ⟨⟩, change state, fates)

/-- `raise` -/
def fail : Program σ α := fun state fates => (.raised, state, fates)

/-- The handler of an exception, which is raised again. -/
def onException (body : Program σ α) (handler : Program σ β) : Program σ α := fun state fates =>
  match body state fates with
  | (.returned value, after, rest) => (.returned value, after, rest)
  | (.killed, after, rest) => (.killed, after, rest)
  | (.raised, after, rest) =>
    match handler after rest with
    | (.returned _, last, left) | (.raised, last, left) => (.raised, last, left)
    | (.killed, last, left) => (.killed, last, left)

end Program

/-- From a state that meets the precondition, the program returns into one that meets
the first condition, raises into one that meets the second, or is killed in one that
meets the third. -/
def Meets (before : σ → Prop) (program : Program σ α) (returns : α → σ → Prop)
    (raises kills : σ → Prop) : Prop :=
  ∀ state fates, before state →
    match program state fates with
    | (.returned value, after, _) => returns value after
    | (.raised, after, _) => raises after
    | (.killed, after, _) => kills after

variable {before weaker : σ → Prop} {program : Program σ α} {returns : α → σ → Prop}
  {raises kills : σ → Prop}

theorem Meets.weaken (meets : Meets weaker program returns raises kills)
    (implies : ∀ state, before state → weaker state) :
    Meets before program returns raises kills :=
  fun state fates holds => meets state fates (implies state holds)

theorem Meets.strengthen {returns' : α → σ → Prop} {raises' kills' : σ → Prop}
    (meets : Meets before program returns raises kills)
    (onReturn : ∀ value state, returns value state → returns' value state)
    (onRaise : ∀ state, raises state → raises' state)
    (onKill : ∀ state, kills state → kills' state) :
    Meets before program returns' raises' kills' := by
  intro state fates holds
  have result := meets state fates holds
  split at result
  · exact onReturn _ _ result
  · exact onRaise _ result
  · exact onKill _ result

/-- A fact that the precondition carries may be assumed. -/
theorem Meets.assuming {fact : Prop} (carried : ∀ state, before state → fact)
    (meets : fact → Meets before program returns raises kills) :
    Meets before program returns raises kills :=
  fun state fates holds => meets (carried state holds) state fates holds

/-- What holds of the state however the program ends. -/
theorem Meets.settles {post : σ → Prop} (meets : Meets before program (fun _ => post) post post)
    {state : σ} (holds : before state) (fates : List Fate) : post (program state fates).2.1 := by
  have result := meets state fates holds
  split at result <;> rename_i ended <;> rw [ended] <;> exact result

/-- The rule of sequential composition. -/
theorem Meets.andThen {next : α → Program σ β} {middle : α → σ → Prop} {finish : β → σ → Prop}
    (first : Meets before program middle raises kills)
    (rest : ∀ value, Meets (middle value) (next value) finish raises kills) :
    Meets before (program >>= next) finish raises kills := by
  intro state fates holds
  have result := first state fates holds
  change match Program.andThen program next state fates with
    | (.returned value, after, _) => finish value after
    | (.raised, after, _) => raises after
    | (.killed, after, _) => kills after
  unfold Program.andThen
  split at result
  · exact rest _ _ _ result
  · exact result
  · exact result

/-- The rule of steps. -/
theorem Meets.step {effect : σ → Option (α × σ)}
    (interrupted : ∀ state, before state → raises state ∧ kills state)
    (done : ∀ state value after, before state → effect state = some (value, after) →
      returns value after ∧ raises after) :
    Meets before (Program.step effect) returns raises kills := by
  intro state fates holds
  have left := interrupted state holds
  cases fates with
  | nil => exact left.2
  | cons fate rest =>
    cases result : effect state with
    | none =>
      cases fate <;> simp only [Program.step, result]
      · exact left.1
      · exact left.1
      · exact left.1
      · exact left.2
    | some pair =>
      obtain ⟨value, after⟩ := pair
      have ends := done state value after holds result
      cases fate <;> simp only [Program.step, result]
      · exact ends.1
      · exact left.1
      · exact ends.2
      · exact left.2

/-- A command leaves what held before it. -/
theorem Meets.command (raisesAfter : ∀ state, before state → raises state)
    (killsAfter : ∀ state, before state → kills state) :
    Meets before Program.command (fun _ => before) raises kills :=
  Meets.step (fun state holds => ⟨raisesAfter state holds, killsAfter state holds⟩)
    fun _ _ _ holds done => by
      cases done
      exact ⟨holds, raisesAfter _ holds⟩

theorem Meets.write {change : σ → σ} {after : σ → Prop}
    (interrupted : ∀ state, before state → raises state ∧ kills state)
    (changed : ∀ state, before state → after (change state) ∧ raises (change state)) :
    Meets before (Program.write change) (fun _ => after) raises kills :=
  Meets.step interrupted fun _ _ _ holds done => by
    cases done
    exact changed _ holds

/-- What was read is known from then on. -/
theorem Meets.demand {read : σ → Option α} (raisesAfter : ∀ state, before state → raises state)
    (killsAfter : ∀ state, before state → kills state) :
    Meets before (Program.demand read) (fun value state => before state ∧ read state = some value)
      raises kills :=
  Meets.step (fun state holds => ⟨raisesAfter state holds, killsAfter state holds⟩)
    fun state value after holds done => by
      obtain ⟨found, read_eq, pair⟩ := Option.map_eq_some_iff.mp done
      cases pair
      exact ⟨⟨holds, read_eq⟩, raisesAfter _ holds⟩

theorem Meets.note {change : σ → σ} {after : σ → Prop}
    (changed : ∀ state, before state → after (change state)) :
    Meets before (Program.note change) (fun _ => after) raises kills :=
  fun state _ holds => changed state holds

theorem Meets.fail (raisesAfter : ∀ state, before state → raises state) :
    Meets before (Program.fail : Program σ α) returns raises kills :=
  fun state _ holds => raisesAfter state holds

/-- The rule of handlers. -/
theorem Meets.onException {handler : Program σ β} {caught : σ → Prop}
    (body : Meets before program returns caught kills)
    (handled : Meets caught handler (fun _ => raises) raises kills) :
    Meets before (program.onException handler) returns raises kills := by
  intro state fates holds
  have result := body state fates holds
  unfold Program.onException
  split at result <;> rename_i ended <;> simp only [ended]
  · exact result
  · rename_i caughtState rest
    have after := handled caughtState rest result
    rcases ran : handler caughtState rest with ⟨ended | ended | ended, last, left⟩ <;>
      rw [ran] at after <;> exact after
  · exact result

/-- The rule of loops that collect: what every turn keeps. -/
theorem Meets.mapM {invariant : σ → Prop} {body : α → Program σ β}
    (turn : ∀ item, Meets invariant (body item) (fun _ => invariant) raises kills)
    (items : List α) :
    Meets invariant (items.mapM body) (fun _ => invariant) raises kills := by
  have loop (items : List α) (collected : List β) :
      Meets invariant (List.mapM.loop body items collected) (fun _ => invariant) raises kills := by
    induction items generalizing collected with
    | nil => exact fun _ _ holds => holds
    | cons item rest inductionHypothesis =>
      exact Meets.andThen (turn item) fun value => inductionHypothesis (value :: collected)
  exact loop items []

theorem Meets.forM {invariant : σ → Prop} {body : α → Program σ PUnit}
    (turn : ∀ item, Meets invariant (body item) (fun _ => invariant) raises kills)
    (items : List α) :
    Meets invariant (items.forM body) (fun _ => invariant) raises kills := by
  induction items with
  | nil => exact fun _ _ holds => holds
  | cons item rest inductionHypothesis =>
    exact Meets.andThen (turn item) fun _ => inductionHypothesis

end FinopsAnalytics.InterruptedPrograms
