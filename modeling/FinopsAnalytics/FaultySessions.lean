import Mathlib.Init

/-!
# Database sessions of code that may be interrupted

Code works on a session: its statements read and write in an open transaction, which
it commits or rolls back. Any of them may raise, by itself or because it is
interrupted, and then leaves some of its work in the transaction. An exception skips
the rest up to the handler. A contract says what holds of the session when code
returns and what holds when it raises.
-/

namespace FinopsAnalytics.FaultySessions

universe u
variable {σ ι ε : Type u} {α β : Type u}

/-- A session: the committed state, the one that its transaction sees, the states it
has committed in their order, and the statements that have raised. -/
structure Session (σ ι : Type u) where
  committed : σ
  current : σ
  commits : List σ
  raised : List ι

/-- A session at its begin. -/
def Session.start (state : σ) : Session σ ι := ⟨state, state, [], []⟩

/-- A statement has raised and leaves a state in the transaction. -/
def Session.interrupt (session : Session σ ι) (point : ι) (left : σ) : Session σ ι :=
  { session with current := left, raised := session.raised ++ [point] }

/-- What interrupts a statement: the exception, and what the statement has done of
its work. -/
structure Fault (σ ε : Type u) where
  exception : ε
  left : σ → σ

/-- Code that returns a value or raises. -/
def Code (σ ι ε α : Type u) := Session σ ι → Except ε α × Session σ ι

namespace Code

/-- Sequential composition. An exception skips the rest. -/
def andThen (first : Code σ ι ε α) (next : α → Code σ ι ε β) : Code σ ι ε β := fun session =>
  match first session with
  | (.ok value, after) => next value after
  | (.error raised, after) => (.error raised, after)

instance : Monad (Code σ ι ε) where
  pure value session := (.ok value, session)
  bind := andThen

/-- A statement that may be interrupted. -/
def interruptible (faults : ι → Option (Fault σ ε)) (point : ι)
    (done : Session σ ι → Except ε α × Session σ ι) : Code σ ι ε α := fun session =>
  match faults point with
  | some fault => (.error fault.exception, session.interrupt point (fault.left session.current))
  | none => done session

/-- A statement in the transaction, which may raise by itself. -/
def statement (faults : ι → Option (Fault σ ε)) (point : ι) (body : σ → Except ε (α × σ)) :
    Code σ ι ε α :=
  interruptible faults point fun session =>
    match body session.current with
    | .ok (value, current) => (.ok value, { session with current })
    | .error raised => (.error raised, session.interrupt point session.current)

def commit (faults : ι → Option (Fault σ ε)) (point : ι) : Code σ ι ε PUnit :=
  interruptible faults point fun session =>
    (.ok ⟨⟩, { session with
      committed := session.current, commits := session.commits ++ [session.current] })

def rollback (faults : ι → Option (Fault σ ε)) (point : ι) : Code σ ι ε PUnit :=
  interruptible faults point fun session =>
    (.ok ⟨⟩, { session with current := session.committed })

/-- What other sessions commit while this one has no transaction open. -/
def elsewhere (change : σ → σ) : Code σ ι ε PUnit := fun session =>
  (.ok ⟨⟩, { session with
    committed := change session.committed, current := change session.current })

/-- `try` and `except` -/
def attempt (body : Code σ ι ε α) (handler : ε → Code σ ι ε α) : Code σ ι ε α := fun session =>
  match body session with
  | (.ok value, after) => (.ok value, after)
  | (.error raised, after) => handler raised after

/-- From a session that meets the precondition, the code returns into a session that
meets the one condition or raises into one that meets the other. -/
def Meets (before : Session σ ι → Prop) (code : Code σ ι ε α)
    (returns : α → Session σ ι → Prop) (raises : Session σ ι → Prop) : Prop :=
  ∀ session, before session →
    match code session with
    | (.ok value, after) => returns value after
    | (.error _, after) => raises after

/-- Two continuations that do the same wherever the code returns. -/
theorem andThen_congr {code : Code σ ι ε α} {next other : α → Code σ ι ε β} {session : Session σ ι}
    (same : ∀ value after, code session = (.ok value, after) → next value after = other value after) :
    (code >>= next) session = (code >>= other) session := by
  change andThen code next session = andThen code other session
  unfold andThen
  split
  · rename_i value after returned
    exact same value after returned
  · rfl

variable {before weaker : Session σ ι → Prop} {code : Code σ ι ε α}
  {returns : α → Session σ ι → Prop} {raises : Session σ ι → Prop}
  {faults : ι → Option (Fault σ ε)} {point : ι}

theorem Meets.weaken (meets : Meets weaker code returns raises)
    (implies : ∀ session, before session → weaker session) : Meets before code returns raises :=
  fun session holds => meets session (implies session holds)

theorem Meets.strengthen {returns' : α → Session σ ι → Prop} {raises' : Session σ ι → Prop}
    (meets : Meets before code returns raises)
    (onReturn : ∀ value session, returns value session → returns' value session)
    (onRaise : ∀ session, raises session → raises' session) :
    Meets before code returns' raises' := by
  intro session holds
  have result := meets session holds
  split at result
  · exact onReturn _ _ result
  · exact onRaise _ result

/-- A fact that the precondition carries may be assumed. -/
theorem Meets.assuming {fact : Prop} (carried : ∀ session, before session → fact)
    (meets : fact → Meets before code returns raises) : Meets before code returns raises :=
  fun session holds => meets (carried session holds) session holds

/-- What holds however the code ends. -/
theorem Meets.settles {post : Session σ ι → Prop}
    (meets : Meets before code (fun _ => post) post) {session : Session σ ι}
    (holds : before session) : post (code session).2 := by
  have result := meets session holds
  split at result
  · rename_i value after ended
    rw [ended]
    exact result
  · rename_i raised after ended
    rw [ended]
    exact result

theorem Meets.pure {value : α} :
    Meets (returns value) (Pure.pure value : Code σ ι ε α) returns raises :=
  fun _ holds => holds

/-- The rule of sequential composition. -/
theorem Meets.andThen {next : α → Code σ ι ε β} {middle : α → Session σ ι → Prop}
    {finish : β → Session σ ι → Prop} (first : Meets before code middle raises)
    (rest : ∀ value, Meets (middle value) (next value) finish raises) :
    Meets before (code >>= next) finish raises := by
  intro session holds
  have result := first session holds
  change match Code.andThen code next session with
    | (.ok value, after) => finish value after
    | (.error _, after) => raises after
  unfold Code.andThen
  split at result
  · exact rest _ _ result
  · exact result

/-- The rule of handled exceptions. -/
theorem Meets.attempt {handler : ε → Code σ ι ε α} {raises' : Session σ ι → Prop}
    (body : Meets before code returns raises)
    (handled : ∀ raised, Meets raises (handler raised) returns raises') :
    Meets before (code.attempt handler) returns raises' := by
  intro session holds
  have result := body session holds
  unfold Code.attempt
  split at result
  · exact result
  · exact handled _ _ result

theorem Meets.interruptible {done : Session σ ι → Except ε α × Session σ ι}
    (returned : Meets before done returns raises)
    (interrupted : ∀ session left, before session → raises (session.interrupt point left)) :
    Meets before (Code.interruptible faults point done) returns raises := by
  intro session holds
  unfold Code.interruptible
  cases faults point with
  | some fault => exact interrupted session _ holds
  | none => exact returned session holds

/-- The rule of statements: what the body makes of the current state. -/
theorem Meets.statement {body : σ → Except ε (α × σ)}
    (returned : ∀ session value current, before session →
      body session.current = .ok (value, current) → returns value { session with current })
    (interrupted : ∀ session left, before session → raises (session.interrupt point left)) :
    Meets before (Code.statement faults point body) returns raises := by
  refine Meets.interruptible (fun session holds => ?_) interrupted
  cases ran : body session.current with
  | ok result => exact returned session result.1 result.2 holds ran
  | error raised => exact interrupted session session.current holds

variable {returns : PUnit → Session σ ι → Prop}

theorem Meets.commit (committed : ∀ session, before session → returns ⟨⟩ { session with
      committed := session.current, commits := session.commits ++ [session.current] })
    (interrupted : ∀ session left, before session → raises (session.interrupt point left)) :
    Meets before (Code.commit faults point) returns raises :=
  Meets.interruptible (fun session holds => committed session holds) interrupted

theorem Meets.rollback (rolledBack : ∀ session, before session →
      returns ⟨⟩ { session with current := session.committed })
    (interrupted : ∀ session left, before session → raises (session.interrupt point left)) :
    Meets before (Code.rollback faults point) returns raises :=
  Meets.interruptible (fun session holds => rolledBack session holds) interrupted

theorem Meets.elsewhere {change : σ → σ}
    (changed : ∀ session, before session → returns ⟨⟩ { session with
      committed := change session.committed, current := change session.current }) :
    Meets before (Code.elsewhere change : Code σ ι ε PUnit) returns raises :=
  fun session holds => changed session holds

end Code

end FinopsAnalytics.FaultySessions
