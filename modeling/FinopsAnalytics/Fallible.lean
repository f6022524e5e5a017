import Mathlib.Logic.Basic

/-!
# Computations that may raise

Rules for `Except` blocks: a bind succeeds exactly when both parts do, and a
loop of checks passes exactly when each check does.
-/

namespace FinopsAnalytics.Fallible

universe u v
variable {ε : Type u} {α β σ : Type v}

variable {first : Except ε α} {rows : List α} {step : σ → α → Except ε σ} {start last : σ}

theorem bind_eq_ok {next : α → Except ε β} {result : β} :
    (first >>= next) = .ok result ↔ ∃ value, first = .ok value ∧ next value = .ok result := by
  cases first with
  | error raised => simp [bind, Except.bind]
  | ok value => simp [bind, Except.bind]

theorem ok_bind {value : α} {next : α → Except ε β} : (Except.ok value >>= next) = next value := rfl

theorem map_eq_ok {f : α → β} {result : β} :
    (f <$> first) = .ok result ↔ ∃ value, first = .ok value ∧ f value = result := by
  cases first with
  | error raised => simp [Functor.map, Except.map]
  | ok value => simp [Functor.map, Except.map]

theorem map_map {γ : Type v} (first : Except ε α) (f : α → β) (g : β → γ) :
    (first.map f).map g = first.map fun value => g (f value) := by
  cases first <;> rfl

theorem ok_of_toBool (returned : first.toBool = true) :
    ∃ value, first = .ok value := by
  cases first with
  | error raised => cases returned
  | ok value => exact ⟨value, rfl⟩

theorem throw_ne_ok {raised : ε} {result : α} : (throw raised : Except ε α) ≠ .ok result := by
  intro same
  cases same

/-- A loop of checks passes exactly when every check does. -/
theorem forM_eq_ok {check : α → Except ε PUnit} {done : PUnit} :
    rows.forM check = .ok done ↔ ∀ row ∈ rows, check row = .ok ⟨⟩ := by
  induction rows with
  | nil => simp [pure, Except.pure]
  | cons row rest inductionHypothesis =>
    have split : List.forM (row :: rest) check = (check row >>= fun _ => rest.forM check) := rfl
    rw [split, bind_eq_ok]
    simp only [inductionHypothesis, List.mem_cons, forall_eq_or_imp]
    exact ⟨fun ⟨_, first, later⟩ => ⟨first, later⟩, fun ⟨first, later⟩ => ⟨_, first, later⟩⟩

/-- A loop keeps an invariant of its state and of the rows still to come. -/
theorem foldlM_rest (invariant : List α → σ → Prop)
    (preserved : ∀ row rest state next, invariant (row :: rest) state →
      step state row = .ok next → invariant rest next) (initially : invariant rows start)
    (done : rows.foldlM step start = .ok last) :
    invariant [] last := by
  induction rows generalizing start with
  | nil =>
    cases done
    exact initially
  | cons row rest inductionHypothesis =>
    rw [List.foldlM_cons, bind_eq_ok] at done
    obtain ⟨next, first, later⟩ := done
    exact inductionHypothesis (preserved row rest start next initially first) later

/-- A loop keeps an invariant that every step for one of its rows keeps. -/
theorem foldlM_invariant (invariant : σ → Prop)
    (preserved : ∀ row ∈ rows, ∀ state next, invariant state → step state row = .ok next →
      invariant next) (initially : invariant start) (done : rows.foldlM step start = .ok last) :
    invariant last := by
  refine (foldlM_rest (fun rest state => rest ⊆ rows ∧ invariant state) ?_
    ⟨List.Subset.refl rows, initially⟩ done).2
  intro row rest state next holds stepped
  have row_mem : row ∈ rows := holds.1 (List.mem_cons_self ..)
  exact ⟨fun other member => holds.1 (List.mem_cons_of_mem _ member),
    preserved row row_mem state next holds.2 stepped⟩

/-- A loop keeps an invariant of its state and of the rows already taken. -/
theorem foldlM_done (earlier : List α) (invariant : List α → σ → Prop)
    (preserved : ∀ row ∈ rows, ∀ earlier state next, invariant earlier state →
      step state row = .ok next → invariant (earlier ++ [row]) next)
    (initially : invariant earlier start) (done : rows.foldlM step start = .ok last) :
    invariant (earlier ++ rows) last := by
  induction rows generalizing start earlier with
  | nil =>
    cases done
    rwa [List.append_nil]
  | cons row rest inductionHypothesis =>
    rw [List.foldlM_cons, bind_eq_ok] at done
    obtain ⟨next, first, later⟩ := done
    rw [List.append_cons]
    exact inductionHypothesis (earlier ++ [row])
      (fun other member => preserved other (List.mem_cons_of_mem _ member))
      (preserved row (List.mem_cons_self ..) earlier start next initially first) later

/-- A loop whose steps succeed under an invariant succeeds. -/
theorem foldlM_succeeds (earlier : List α) (invariant : List α → σ → Prop)
    (progress : ∀ row ∈ rows, ∀ earlier state, invariant earlier state →
      ∃ next, step state row = .ok next ∧ invariant (earlier ++ [row]) next) {start : σ}
    (initially : invariant earlier start) :
    ∃ last, rows.foldlM step start = .ok last ∧ invariant (earlier ++ rows) last := by
  induction rows generalizing start earlier with
  | nil => exact ⟨start, rfl, by rwa [List.append_nil]⟩
  | cons row rest inductionHypothesis =>
    obtain ⟨next, stepped, holds⟩ := progress row (List.mem_cons_self ..) earlier start initially
    obtain ⟨last, done, holdsLast⟩ := inductionHypothesis (earlier ++ [row])
      (fun other member => progress other (List.mem_cons_of_mem _ member)) holds
    rw [List.append_cons]
    refine ⟨last, ?_, holdsLast⟩
    rw [List.foldlM_cons, bind_eq_ok]
    exact ⟨next, stepped, done⟩

/-- Every result of a mapped computation is that of one of its arguments. -/
theorem mem_of_mapM_eq_ok {f : α → Except ε β} {arguments : List α} {results : List β}
    (done : arguments.mapM f = .ok results) {result : β} (member : result ∈ results) :
    ∃ argument ∈ arguments, f argument = .ok result := by
  induction arguments generalizing results with
  | nil =>
    cases done
    cases member
  | cons first rest inductionHypothesis =>
    rw [List.mapM_cons] at done
    obtain ⟨value, valueOk, done⟩ := bind_eq_ok.mp done
    obtain ⟨later, laterOk, done⟩ := bind_eq_ok.mp done
    cases done
    rcases List.mem_cons.mp member with rfl | inLater
    · exact ⟨first, List.mem_cons_self .., valueOk⟩
    · obtain ⟨argument, argumentMember, same⟩ := inductionHypothesis laterOk inLater
      exact ⟨argument, List.mem_cons_of_mem _ argumentMember, same⟩

/-- A mapped computation depends on what it does to the arguments. -/
theorem mapM_congr {first second : α → Except ε β} {arguments : List α}
    (same : ∀ argument ∈ arguments, first argument = second argument) :
    arguments.mapM first = arguments.mapM second := by
  induction arguments with
  | nil => rfl
  | cons argument rest inductionHypothesis =>
    rw [List.mapM_cons, List.mapM_cons, same argument (List.mem_cons_self ..),
      inductionHypothesis fun other member => same other (List.mem_cons_of_mem _ member)]

/-- A loop over what is read of the rows, each read before its step. -/
theorem foldlM_bind_eq_ok {read : α → Except ε β} {step : σ → β → Except ε σ} :
    rows.foldlM (fun state row => do step state (← read row)) start = .ok last ↔
      ∃ values, rows.mapM read = .ok values ∧ values.foldlM step start = .ok last := by
  induction rows generalizing start with
  | nil => simp [pure, Except.pure]
  | cons row rest inductionHypothesis =>
    simp only [List.foldlM_cons, List.mapM_cons, bind_eq_ok, inductionHypothesis]
    constructor
    · rintro ⟨next, ⟨value, valueOk, stepped⟩, values, valuesOk, later⟩
      refine ⟨value :: values, ⟨value, valueOk, values, valuesOk, rfl⟩, ?_⟩
      rw [List.foldlM_cons, bind_eq_ok]
      exact ⟨next, stepped, later⟩
    · rintro ⟨_, ⟨value, valueOk, values, valuesOk, same⟩, done⟩
      cases same
      rw [List.foldlM_cons, bind_eq_ok] at done
      obtain ⟨next, stepped, later⟩ := done
      exact ⟨next, ⟨value, valueOk, stepped⟩, values, valuesOk, later⟩

end FinopsAnalytics.Fallible
