import Mathlib.Data.List.Sort
import Mathlib.Data.String.Basic
import FinopsAnalytics.BillingProfiles
import FinopsAnalytics.Interleavings

/-!
# Sessions that change billing profiles

Each session reads committed rows, may lock them, and writes its statements in one
commit. A flush writes one update for each changed row in the order of the primary keys
and then the inserts; the unique keys are checked after every statement. A read with a
lock fixes the visible rows when it is sent and their values when it gets the locks.
-/

namespace FinopsAnalytics.BillingProfileSessions

open PythonText CostExplorer BillingProfiles Interleavings

/-- `FINOPS_SYSTEM_PROFILE_NAME` -/
def finopsSystemProfileName : String := "FinOps"

/-- The profile that `ensure_finops_profile` adds. -/
def finopsProfile (isDefault : Bool) : BillingProfile where
  id := finopsSystemProfileId
  name := finopsSystemProfileName
  description := some "Visão diária amortizada usada pelo time FinOps."
  granularity := .daily
  metric := .amortizedCost
  groupBy := .service
  excludeRecordTypes := [.credit]
  isDefault := isDefault
  enabled := true
  isSystem := true

/-- What holds of the table after every statement: the primary key, the unique name and
the one default. -/
def Constraints (profiles : List BillingProfile) : Prop :=
  (profiles.map BillingProfile.id).Nodup ∧ (profiles.map BillingProfile.name).Nodup ∧
    ∀ first ∈ profiles, ∀ second ∈ profiles,
      first.isDefault = true → second.isDefault = true → first.id = second.id

instance (profiles : List BillingProfile) : Decidable (Constraints profiles) :=
  inferInstanceAs (Decidable (_ ∧ _ ∧ _))

/-- A column that the session changed takes its value, any other keeps the current one. -/
def changedColumn {α : Type} [DecidableEq α] (before after current : α) : α :=
  if after = before then current else after

/-- The columns that `update` can change. -/
def writeColumns (before after current : BillingProfile) : BillingProfile :=
  { current with
    name := changedColumn before.name after.name current.name
    description := changedColumn before.description after.description current.description
    granularity := changedColumn before.granularity after.granularity current.granularity
    metric := changedColumn before.metric after.metric current.metric
    groupBy := changedColumn before.groupBy after.groupBy current.groupBy
    excludeRecordTypes := changedColumn before.excludeRecordTypes after.excludeRecordTypes
      current.excludeRecordTypes }

inductive Statement where
  | markDefault (id : String) (isDefault : Bool)
  | disable (id : String)
  | write (before after : BillingProfile)
  | insert (profile : BillingProfile)

/-- The row of one identifier rewritten. -/
def updateRow (profiles : List BillingProfile) (id : String)
    (rewrite : BillingProfile → BillingProfile) : List BillingProfile :=
  profiles.map fun profile => if profile.id = id then rewrite profile else profile

def Statement.apply (profiles : List BillingProfile) : Statement → List BillingProfile
  | .markDefault id isDefault =>
    updateRow profiles id fun profile => { profile with isDefault := isDefault }
  | .disable id => updateRow profiles id fun profile => { profile with enabled := false }
  | .write before after => updateRow profiles before.id (writeColumns before after)
  | .insert profile => profiles ++ [profile]

/-- A flush, or nothing when a statement breaks a constraint. -/
def execute (profiles : List BillingProfile) : List Statement → Option (List BillingProfile)
  | [] => some profiles
  | statement :: rest =>
    if Constraints (statement.apply profiles) then execute (statement.apply profiles) rest
    else none

/-- Rows in the order of their primary keys. -/
def inKeyOrder (profiles : List BillingProfile) : List BillingProfile :=
  profiles.insertionSort fun first second => first.id ≤ second.id

/-- `_lock_profiles`, once it has its locks. -/
def lockRows (profiles : List BillingProfile) (visible : List String) : List BillingProfile :=
  inKeyOrder (profiles.filter fun profile => decide (profile.id ∈ visible))

/-- What a session has still to write. -/
inductive Pending where
  | insertFinops (isDefault : Bool)
  | insertProfile (locked : List BillingProfile) (profile : BillingProfile)
  | changeProfile (before after : BillingProfile)
  | moveDefault (locked : List BillingProfile) (target : BillingProfile)
  | disable (profileId : String)

/-- The statements of the flush. -/
def Pending.statements : Pending → List Statement
  | .insertFinops isDefault => [.insert (finopsProfile isDefault)]
  | .insertProfile locked profile =>
    (inKeyOrder (locked.filter fun row => row.isDefault)).map (fun row =>
      .markDefault row.id false) ++ [.insert profile]
  | .changeProfile before after => if before = after then [] else [.write before after]
  | .moveDefault locked target =>
    (inKeyOrder (locked.filter fun row => row.isDefault != decide (row.id = target.id))).map
      fun row => .markDefault row.id (decide (row.id = target.id))
  | .disable profileId => [.disable profileId]

/-- The rows that a session holds. -/
def Pending.locked : Pending → List BillingProfile
  | .insertProfile locked _ => locked
  | .moveDefault locked _ => locked
  | _ => []

/-- The rows that the flush waits for. -/
def Pending.updates : Pending → List String
  | .changeProfile before _ => [before.id]
  | .disable profileId => [profileId]
  | _ => []

inductive Phase where
  | lockingCreate (profile : BillingProfile) (visible : List String)
  | lockingDefault (profileId : String) (visible : List String)
  | pending (work : Pending)

def Phase.locked : Phase → List BillingProfile
  | .pending work => work.locked
  | _ => []

inductive Call where
  | ensureFinopsProfile
  | create (id : String) (payload : BillingProfileCreate)
  | update (profileId : String) (payload : BillingProfileUpdate)
  | setDefault (profileId : String)
  | deactivate (profileId : String)

/-- How a call ends. An integrity error is one of the database that no handler takes. -/
inductive Outcome where
  | returned
  | raised (error : BillingProfileError)
  | integrityError
deriving DecidableEq, Repr

/-- The committed table, the sessions in progress and the ends of the others, the latest
first. -/
structure System where
  profiles : List BillingProfile
  sessions : List (ℕ × Phase)
  outcomes : List (ℕ × Outcome)

namespace System

def phaseOf (system : System) (session : ℕ) : Option Phase :=
  (system.sessions.find? fun entry => entry.1 = session).map Prod.snd

/-- Another session holds one of the rows. -/
def blocked (system : System) (session : ℕ) (ids : List String) : Bool :=
  system.sessions.any fun entry =>
    entry.1 != session && entry.2.locked.any fun row => decide (row.id ∈ ids)

def close (system : System) (session : ℕ) : System :=
  { system with sessions := system.sessions.filter fun entry => entry.1 != session }

def enter (system : System) (session : ℕ) (phase : Phase) : System :=
  { system with
    sessions := (session, phase) :: system.sessions.filter fun entry => entry.1 != session }

def answer (system : System) (session : ℕ) (outcome : Outcome) : System :=
  { system.close session with outcomes := (session, outcome) :: system.outcomes }

end System

section Calls

variable [CaseMapping]

/-- The profile that `ensure_finops_profile` finds, by identifier or by name. -/
def hasFinops (profiles : List BillingProfile) : Bool :=
  profiles.any fun profile => decide (profile.id = finopsSystemProfileId ∨
    CaseMapping.lower profile.name = CaseMapping.lower finopsSystemProfileName)

/-- The reads of a call up to its first lock or its flush. -/
def begin_ (system : System) (session : ℕ) : Call → System
  | .ensureFinopsProfile =>
    if hasFinops system.profiles then system.answer session .returned
    else system.enter session
      (.pending (.insertFinops (!system.profiles.any fun profile => profile.isDefault)))
  | .create id payload =>
    match (ensureUniqueName system.profiles payload.name none : Except BillingProfileError Unit) with
    | .error error => system.answer session (.raised error)
    | .ok _ =>
      if payload.isDefault then
        system.enter session
          (.lockingCreate (newProfile id payload) (system.profiles.map BillingProfile.id))
      else system.enter session (.pending (.insertProfile [] (newProfile id payload)))
  | .update profileId payload =>
    match changedProfile system.profiles profileId payload with
    | .error error => system.answer session (.raised error)
    | .ok (before, after) => system.enter session (.pending (.changeProfile before after))
  | .setDefault profileId =>
    system.enter session (.lockingDefault profileId (system.profiles.map BillingProfile.id))
  | .deactivate profileId =>
    match disposableProfile system.profiles profileId with
    | .error error => system.answer session (.raised error)
    | .ok profile =>
      if profile.enabled then system.enter session (.pending (.disable profileId))
      else system.answer session .returned

end Calls

/-- The locks of a session are granted, if no other session holds one of the rows. -/
def acquire (system : System) (session : ℕ) : System :=
  match system.phaseOf session with
  | some (.lockingCreate profile visible) =>
    if system.blocked session visible then system
    else system.enter session
      (.pending (.insertProfile (lockRows system.profiles visible) profile))
  | some (.lockingDefault profileId visible) =>
    if system.blocked session visible then system
    else
      match defaultTarget (lockRows system.profiles visible) profileId with
      | .error error => system.answer session (.raised error)
      | .ok target => system.enter session
          (.pending (.moveDefault (lockRows system.profiles visible) target))
  | _ => system

section Steps

variable [CaseMapping]

/-- What a call makes of an integrity error of its flush. `create` flushes outside of its
handler, and `deactivate` has none. -/
def onConflict (profiles : List BillingProfile) : Pending → Outcome
  | .insertFinops _ => if hasFinops profiles then .returned else .integrityError
  | .insertProfile _ _ => .integrityError
  | .changeProfile _ _ => .raised ⟨"PROFILE_CONFLICT",
      "Não foi possível atualizar o perfil por conflito com outra alteração."⟩
  | .moveDefault _ _ => .raised ⟨"DEFAULT_CONFLICT",
      "Outro perfil foi definido como padrão simultaneamente. Tente novamente."⟩
  | .disable _ => .integrityError

/-- The flush and the commit of a session, unless it waits for a row of another one. -/
def flush (system : System) (session : ℕ) : System :=
  match system.phaseOf session with
  | some (.pending work) =>
    if system.blocked session work.updates then system
    else
      match execute system.profiles work.statements with
      | some profiles => { system with profiles }.answer session .returned
      | none => system.answer session (onConflict system.profiles work)
  | _ => system

inductive Action where
  | begin_ (session : ℕ) (call : Call)
  | acquire (session : ℕ)
  | flush (session : ℕ)
  | abandon (session : ℕ)

/-- One step of one session. A session that is in progress begins no other call, and an
abandoned one is rolled back. -/
def step (system : System) : Action → System
  | .begin_ session call =>
    if (system.phaseOf session).isSome then system else begin_ system session call
  | .acquire session => acquire system session
  | .flush session => flush system session
  | .abandon session => system.close session

/-- The table once a first `ensure_finops_profile` has added its profile. Others may have
looked at the empty table. -/
def bootstrapped (starting : List ℕ) : System where
  profiles := [finopsProfile true]
  sessions := starting.map fun session => (session, .pending (.insertFinops true))
  outcomes := []

/-- What the code relies on when it flushes: a created profile has a new name, and the rows
that are default now are among those that it locked; a profile to be disabled has not
become the default. -/
def OrderlyPhase (profiles : List BillingProfile) : Option Phase → Prop
  | some (.pending (.insertProfile locked profile)) =>
    (∀ other ∈ profiles, other.id ≠ profile.id ∧ other.name ≠ profile.name) ∧
      (profile.isDefault = true → ∀ other ∈ profiles, other.isDefault = true →
        ∃ row ∈ locked, row.id = other.id)
  | some (.pending (.disable profileId)) =>
    ∀ other ∈ profiles, other.id = profileId → other.isDefault = false
  | _ => True

instance decidableOrderlyPhase (profiles : List BillingProfile) :
    (phase : Option Phase) → Decidable (OrderlyPhase profiles phase)
  | some (.pending (.insertProfile _ _)) => inferInstanceAs (Decidable (_ ∧ _))
  | some (.pending (.disable profileId)) => inferInstanceAs (Decidable
    (∀ other ∈ profiles, other.id = profileId → other.isDefault = false))
  | some (.pending (.insertFinops _)) => isTrue trivial
  | some (.pending (.changeProfile _ _)) => isTrue trivial
  | some (.pending (.moveDefault _ _)) => isTrue trivial
  | some (.lockingCreate _ _) => isTrue trivial
  | some (.lockingDefault _ _) => isTrue trivial
  | none => isTrue trivial

/-- A step that the code is right to take. -/
def Orderly (system : System) : Action → Prop
  | .flush session => OrderlyPhase system.profiles (system.phaseOf session)
  | _ => True

instance (system : System) : (action : Action) → Decidable (Orderly system action)
  | .flush session => decidableOrderlyPhase system.profiles (system.phaseOf session)
  | .begin_ _ _ => isTrue trivial
  | .acquire _ => isTrue trivial
  | .abandon _ => isTrue trivial

/-- The steps of `set_default` one after the other. -/
def setDefaultAlone (session : ℕ) (profileId : String) : List Action :=
  [.begin_ session (.setDefault profileId), .acquire session, .flush session]

end Steps

section Tables

variable {profiles : List BillingProfile}

variable {first second : BillingProfile} {rewrite : BillingProfile → BillingProfile}
  {row : BillingProfile} {rows : List BillingProfile}

theorem Constraints.eq_of_id (constraints : Constraints profiles) (firstMember : first ∈ profiles)
    (secondMember : second ∈ profiles) (same : first.id = second.id) : first = second :=
  List.inj_on_of_nodup_map constraints.1 firstMember secondMember same

theorem Constraints.eq_of_default (constraints : Constraints profiles)
    (firstMember : first ∈ profiles) (secondMember : second ∈ profiles)
    (firstDefault : first.isDefault = true) (secondDefault : second.isDefault = true) :
    first = second :=
  constraints.eq_of_id firstMember secondMember
    (constraints.2.2 first firstMember second secondMember firstDefault secondDefault)

theorem mem_updateRow {id : String} :
    row ∈ updateRow profiles id rewrite ↔
      ∃ old ∈ profiles, (if old.id = id then rewrite old else old) = row :=
  List.mem_map

/-- A row that is not rewritten stays. -/
theorem mem_updateRow_of_ne {id : String} (member : row ∈ profiles) (other : row.id ≠ id) :
    row ∈ updateRow profiles id rewrite :=
  mem_updateRow.mpr ⟨row, member, if_neg other⟩

theorem map_updateRow {α : Type} (column : BillingProfile → α) {id : String}
    (same : ∀ row, column (rewrite row) = column row) :
    (updateRow profiles id rewrite).map column = profiles.map column := by
  rw [updateRow, List.map_map]
  refine List.map_congr_left fun row _ => ?_
  by_cases own : row.id = id
  · simp [own, same]
  · simp [own]

theorem execute_step {statement : Statement} {rest : List Statement} {next : List BillingProfile}
    (applied : statement.apply profiles = next) (passes : Constraints next) :
    execute profiles (statement :: rest) = execute next rest := by
  rw [← applied] at passes ⊢
  exact if_pos passes

theorem execute_conflict {statement : Statement} {rest : List Statement}
    (conflict : ¬Constraints (statement.apply profiles)) :
    execute profiles (statement :: rest) = none :=
  if_neg conflict

/-- A flush that goes through leaves a table that meets the constraints. -/
theorem constraints_of_execute {statements : List Statement} :
    ∀ {profiles next : List BillingProfile}, Constraints profiles →
      execute profiles statements = some next → Constraints next := by
  induction statements with
  | nil =>
    intro profiles next constraints done
    cases done
    exact constraints
  | cons statement rest inductionHypothesis =>
    intro profiles next constraints done
    rw [execute] at done
    by_cases passes : Constraints (statement.apply profiles)
    · rw [if_pos passes] at done
      exact inductionHypothesis passes done
    · rw [if_neg passes] at done
      cases done

theorem mem_inKeyOrder :
    row ∈ inKeyOrder rows ↔ row ∈ rows :=
  List.mem_insertionSort _

theorem mem_lockRows {visible : List String} :
    row ∈ lockRows profiles visible ↔ row ∈ profiles ∧ row.id ∈ visible := by
  rw [lockRows, mem_inKeyOrder, List.mem_filter, decide_eq_true_iff]

theorem nodup_lockRows (constraints : Constraints profiles) (visible : List String) :
    (lockRows profiles visible).Nodup := by
  unfold lockRows inKeyOrder
  rw [(List.perm_insertionSort _ _).nodup_iff]
  exact (List.Nodup.of_map _ constraints.1).filter _

/-- One row in the order of the keys. -/
theorem inKeyOrder_single {only : BillingProfile} (distinct : rows.Nodup)
    (members : ∀ row, row ∈ rows ↔ row = only) :
    inKeyOrder rows = [only] := by
  have single : rows.Perm [only] := by
    rw [List.perm_ext_iff_of_nodup distinct (List.nodup_singleton only)]
    intro row
    rw [members, List.mem_singleton]
  rw [List.perm_singleton.mp single]
  rfl

/-- Two rows in the order of the keys. -/
theorem inKeyOrder_pair (distinct : rows.Nodup)
    (members : ∀ row, row ∈ rows ↔ row = first ∨ row = second) (different : first.id ≠ second.id) :
    inKeyOrder rows = if first.id < second.id then [first, second] else [second, first] := by
  have firstNotSecond : first ≠ second := fun same => different (congrArg BillingProfile.id same)
  have pair : rows.Perm [first, second] := by
    rw [List.perm_ext_iff_of_nodup distinct (by simpa using firstNotSecond)]
    intro row
    rw [members, List.mem_pair]
  obtain ⟨one, two, rfl⟩ := List.length_eq_two.mp pair.length_eq
  have oneNotTwo : one ≠ two := by simpa using distinct
  have ordered (left right : BillingProfile) (order : left.id < right.id) :
      inKeyOrder [left, right] = [left, right] ∧ inKeyOrder [right, left] = [left, right] := by
    have below : left.id ≤ right.id := le_of_lt order
    have notBelow : ¬right.id ≤ left.id := not_le.mpr order
    constructor
    · simp [inKeyOrder, List.insertionSort, below]
    · simp [inKeyOrder, List.insertionSort, List.orderedInsert, notBelow]
  have arranged : (one = first ∧ two = second) ∨ (one = second ∧ two = first) := by
    rcases (members one).mp (by simp) with rfl | rfl
    · exact Or.inl ⟨rfl, ((members two).mp (by simp)).resolve_left oneNotTwo.symm⟩
    · exact Or.inr ⟨rfl, ((members two).mp (by simp)).resolve_right oneNotTwo.symm⟩
  rcases lt_or_gt_of_ne different with before | after
  · rw [if_pos before]
    rcases arranged with ⟨rfl, rfl⟩ | ⟨rfl, rfl⟩
    · exact (ordered _ _ before).1
    · exact (ordered _ _ before).2
  · rw [if_neg (not_lt.mpr after.le)]
    rcases arranged with ⟨rfl, rfl⟩ | ⟨rfl, rfl⟩
    · exact (ordered _ _ after).2
    · exact (ordered _ _ after).1

/-- The table without a default. -/
def cleared (profiles : List BillingProfile) : List BillingProfile :=
  profiles.map fun profile => { profile with isDefault := false }

/-- The table whose default is the profile with the identifier. -/
def moved (profiles : List BillingProfile) (id : String) : List BillingProfile :=
  profiles.map fun profile => { profile with isDefault := decide (profile.id = id) }

theorem map_rewritten {α : Type} (column : BillingProfile → α)
    (same : ∀ row, column (rewrite row) = column row) :
    (profiles.map rewrite).map column = profiles.map column := by
  rw [List.map_map]
  exact List.map_congr_left fun row _ => same row

theorem ids_cleared (profiles : List BillingProfile) :
    (cleared profiles).map BillingProfile.id = profiles.map BillingProfile.id :=
  map_rewritten BillingProfile.id fun _ => rfl

theorem names_cleared (profiles : List BillingProfile) :
    (cleared profiles).map BillingProfile.name = profiles.map BillingProfile.name :=
  map_rewritten BillingProfile.name fun _ => rfl

theorem ids_moved (profiles : List BillingProfile) (id : String) :
    (moved profiles id).map BillingProfile.id = profiles.map BillingProfile.id :=
  map_rewritten BillingProfile.id fun _ => rfl

theorem names_moved (profiles : List BillingProfile) (id : String) :
    (moved profiles id).map BillingProfile.name = profiles.map BillingProfile.name :=
  map_rewritten BillingProfile.name fun _ => rfl

theorem constraints_cleared (constraints : Constraints profiles) :
    Constraints (cleared profiles) := by
  refine ⟨?_, ?_, fun first firstMember second _ firstDefault => ?_⟩
  · rw [ids_cleared]
    exact constraints.1
  · rw [names_cleared]
    exact constraints.2.1
  · obtain ⟨old, -, rfl⟩ := List.mem_map.mp firstMember
    cases firstDefault

theorem constraints_moved (constraints : Constraints profiles) (id : String) :
    Constraints (moved profiles id) := by
  refine ⟨?_, ?_, fun first firstMember second secondMember firstDefault secondDefault => ?_⟩
  · rw [ids_moved]
    exact constraints.1
  · rw [names_moved]
    exact constraints.2.1
  · obtain ⟨old, -, rfl⟩ := List.mem_map.mp firstMember
    obtain ⟨other, -, rfl⟩ := List.mem_map.mp secondMember
    exact (of_decide_eq_true firstDefault).trans (of_decide_eq_true secondDefault).symm

/-- The default of a table, cleared. -/
theorem clear_default (constraints : Constraints profiles) {current : BillingProfile}
    (member : current ∈ profiles) (isDefault : current.isDefault = true) :
    (Statement.markDefault current.id false).apply profiles = cleared profiles := by
  refine List.map_congr_left fun row rowMember => ?_
  by_cases own : row.id = current.id
  · rw [if_pos own]
  · rw [if_neg own]
    cases value : row.isDefault with
    | true => exact absurd (congrArg BillingProfile.id
        (constraints.eq_of_default rowMember member value isDefault)) own
    | false => rw [← value]

theorem mark_default (id : String) :
    (Statement.markDefault id true).apply (cleared profiles) = moved profiles id := by
  rw [Statement.apply, updateRow, cleared, List.map_map]
  refine List.map_congr_left fun row _ => ?_
  by_cases own : row.id = id
  · simp [own]
  · simp [own]

/-- A second default breaks the constraints. -/
theorem not_constraints_second {current target : BillingProfile}
    (member : current ∈ profiles) (isDefault : current.isDefault = true)
    (targetMember : target ∈ profiles) (different : current.id ≠ target.id) :
    ¬Constraints (updateRow profiles target.id fun row => { row with isDefault := true }) := by
  intro constraints
  have kept : current ∈ updateRow profiles target.id fun row => { row with isDefault := true } :=
    mem_updateRow_of_ne member different
  have raised : { target with isDefault := true } ∈
      updateRow profiles target.id fun row => { row with isDefault := true } :=
    mem_updateRow.mpr ⟨target, targetMember, if_pos rfl⟩
  have same := constraints.2.2 current kept _ raised isDefault rfl
  exact different same

/-- Moving the default goes through when nothing is to be moved, or when the row of the
default is locked and comes first. -/
theorem execute_moveDefault (constraints : Constraints profiles)
    {locked : List BillingProfile} {target current : BillingProfile}
    (member : current ∈ profiles) (isDefault : current.isDefault = true)
    (distinct : locked.Nodup) (stored : ∀ row ∈ locked, row ∈ profiles)
    (inside : target ∈ locked) :
    execute profiles (Pending.moveDefault locked target).statements =
      if current.id = target.id then some profiles
      else if current ∈ locked ∧ current.id < target.id then some (moved profiles target.id)
      else none := by
  have isCurrent {row : BillingProfile} (rowMember : row ∈ locked) :
      row.isDefault = true ↔ row = current :=
    ⟨fun holds => constraints.eq_of_default (stored row rowMember) member holds isDefault,
      fun same => same ▸ isDefault⟩
  have isTarget {row : BillingProfile} (rowMember : row ∈ locked) :
      row.id = target.id ↔ row = target :=
    ⟨fun same => constraints.eq_of_id (stored row rowMember) (stored target inside) same,
      fun same => same ▸ rfl⟩
  have selected (row : BillingProfile) :
      row ∈ locked.filter (fun row => row.isDefault != decide (row.id = target.id)) ↔
        row ∈ locked ∧ ¬(row = current ↔ row = target) := by
    rw [List.mem_filter]
    refine and_congr_right fun rowMember => ?_
    rw [← isCurrent rowMember, ← isTarget rowMember]
    cases row.isDefault <;> simp
  have distinctSelected := distinct.filter fun row => row.isDefault != decide (row.id = target.id)
  unfold Pending.statements
  dsimp only
  by_cases own : current.id = target.id
  · rw [if_pos own]
    have same := constraints.eq_of_id member (stored target inside) own
    have none : locked.filter (fun row => row.isDefault != decide (row.id = target.id)) = [] := by
      refine List.eq_nil_iff_forall_not_mem.mpr fun row rowMember => ?_
      obtain ⟨-, differs⟩ := (selected row).mp rowMember
      exact differs (same ▸ Iff.rfl)
    rw [none]
    rfl
  · rw [if_neg own]
    have notSame : target ≠ current := fun same => own (congrArg BillingProfile.id same).symm
    by_cases held : current ∈ locked
    · have members (row : BillingProfile) :
          row ∈ locked.filter (fun row => row.isDefault != decide (row.id = target.id)) ↔
            row = current ∨ row = target := by
        rw [selected]
        constructor
        · rintro ⟨-, differs⟩
          by_contra neither
          rw [not_or] at neither
          exact differs (iff_of_false neither.1 neither.2)
        · rintro (rfl | rfl)
          · exact ⟨held, fun same => notSame (same.mp rfl).symm⟩
          · exact ⟨inside, fun same => notSame (same.mpr rfl)⟩
      rw [inKeyOrder_pair distinctSelected members own]
      by_cases before : current.id < target.id
      · rw [if_pos before, if_pos ⟨held, before⟩]
        simp only [List.map_cons, List.map_nil, own, decide_false, decide_true]
        rw [execute_step (clear_default constraints member isDefault)
            (constraints_cleared constraints),
          execute_step (mark_default target.id) (constraints_moved constraints target.id)]
        rfl
      · rw [if_neg before, if_neg fun both => before both.2]
        simp only [List.map_cons, List.map_nil, decide_true]
        exact execute_conflict
          (not_constraints_second member isDefault (stored target inside) own)
    · rw [if_neg fun both => held both.1]
      have members (row : BillingProfile) :
          row ∈ locked.filter (fun row => row.isDefault != decide (row.id = target.id)) ↔
            row = target := by
        rw [selected]
        constructor
        · rintro ⟨rowMember, differs⟩
          by_contra other
          exact differs (iff_of_false (fun same => held (same ▸ rowMember)) other)
        · rintro rfl
          exact ⟨inside, fun same => notSame (same.mpr rfl)⟩
      rw [inKeyOrder_single distinctSelected members]
      simp only [List.map_cons, List.map_nil, decide_true]
      exact execute_conflict (not_constraints_second member isDefault (stored target inside) own)

/-- A new profile is added, the default cleared before it where it takes its place. -/
theorem execute_insertProfile (constraints : Constraints profiles)
    {locked : List BillingProfile} {profile current : BillingProfile}
    (member : current ∈ profiles) (isDefault : current.isDefault = true)
    (distinct : locked.Nodup) (stored : ∀ row ∈ locked, row ∈ profiles)
    (unlocked : profile.isDefault = false → locked = [])
    (fresh : ∀ other ∈ profiles, other.id ≠ profile.id ∧ other.name ≠ profile.name)
    (held : profile.isDefault = true → ∀ other ∈ profiles, other.isDefault = true →
      ∃ row ∈ locked, row.id = other.id) :
    execute profiles (Pending.insertProfile locked profile).statements =
      some ((if profile.isDefault then cleared profiles else profiles) ++ [profile]) := by
  have added {table : List BillingProfile} (valid : Constraints table)
      (sameIds : table.map BillingProfile.id = profiles.map BillingProfile.id)
      (sameNames : table.map BillingProfile.name = profiles.map BillingProfile.name)
      (clear : profile.isDefault = true → ∀ row ∈ table, row.isDefault = false) :
      Constraints (table ++ [profile]) := by
    refine ⟨?_, ?_, ?_⟩
    · rw [List.map_append, sameIds, List.map_singleton, List.nodup_append]
      refine ⟨constraints.1, List.nodup_singleton _, fun id inside other single same => ?_⟩
      obtain ⟨row, rowMember, rfl⟩ := List.mem_map.mp inside
      exact (fresh row rowMember).1 (same.trans (List.mem_singleton.mp single))
    · rw [List.map_append, sameNames, List.map_singleton, List.nodup_append]
      refine ⟨constraints.2.1, List.nodup_singleton _, fun name inside other single same => ?_⟩
      obtain ⟨row, rowMember, rfl⟩ := List.mem_map.mp inside
      exact (fresh row rowMember).2 (same.trans (List.mem_singleton.mp single))
    · intro first firstMember second secondMember firstDefault secondDefault
      rw [List.mem_append, List.mem_singleton] at firstMember secondMember
      rcases firstMember with firstOld | rfl <;> rcases secondMember with secondOld | rfl
      · exact valid.2.2 first firstOld second secondOld firstDefault secondDefault
      · rw [clear secondDefault first firstOld] at firstDefault
        cases firstDefault
      · rw [clear firstDefault second secondOld] at secondDefault
        cases secondDefault
      · rfl
  unfold Pending.statements
  dsimp only
  cases takes : profile.isDefault with
  | false =>
    rw [unlocked takes]
    have valid := added constraints rfl rfl fun impossible => by
      rw [takes] at impossible
      cases impossible
    have noRows : inKeyOrder (([] : List BillingProfile).filter fun row => row.isDefault) = [] := rfl
    rw [noRows, List.map_nil, List.nil_append]
    have appended : (Statement.insert profile).apply profiles = profiles ++ [profile] := rfl
    rw [execute_step appended valid]
    rfl
  | true =>
    have members (row : BillingProfile) :
        row ∈ locked.filter (fun row => row.isDefault) ↔ row = current := by
      rw [List.mem_filter]
      constructor
      · rintro ⟨rowMember, holds⟩
        exact constraints.eq_of_default (stored row rowMember) member holds isDefault
      · rintro rfl
        obtain ⟨row, rowMember, same⟩ := held takes _ member isDefault
        rw [← constraints.eq_of_id (stored row rowMember) member same] at isDefault ⊢
        exact ⟨rowMember, isDefault⟩
    have noDefault : ∀ row ∈ cleared profiles, row.isDefault = false := by
      intro row inside
      obtain ⟨old, -, rfl⟩ := List.mem_map.mp inside
      rfl
    have valid := added (constraints_cleared constraints) (ids_cleared profiles)
      (names_cleared profiles) fun _ => noDefault
    rw [inKeyOrder_single (distinct.filter _) members]
    simp only [List.map_cons, List.map_nil, List.cons_append, List.nil_append]
    have appended : (Statement.insert profile).apply (cleared profiles) =
        cleared profiles ++ [profile] := rfl
    rw [execute_step (clear_default constraints member isDefault)
      (constraints_cleared constraints), execute_step appended valid]
    rfl

/-- Rows that are held as they are stored. -/
def Held (profiles locked : List BillingProfile) : Prop :=
  locked.Nodup ∧ ∀ row ∈ locked, row ∈ profiles

/-- What a session in progress relies on. -/
def Fits (profiles : List BillingProfile) : Phase → Prop
  | .lockingCreate profile _ => profile.enabled = true ∧ profile.isDefault = true
  | .lockingDefault _ _ => True
  | .pending (.insertProfile locked profile) =>
    profile.enabled = true ∧ (profile.isDefault = false → locked = []) ∧ Held profiles locked
  | .pending (.moveDefault locked target) =>
    target ∈ locked ∧ target.enabled = true ∧ Held profiles locked
  | .pending _ => True

theorem Fits.stored {phase : Phase} (fits : Fits profiles phase) :
    ∀ row ∈ phase.locked, row ∈ profiles := by
  intro row member
  cases phase with
  | lockingCreate profile visible => exact absurd member List.not_mem_nil
  | lockingDefault profileId visible => exact absurd member List.not_mem_nil
  | pending work =>
    cases work with
    | insertProfile locked profile => exact fits.2.2.2 row member
    | moveDefault locked target => exact fits.2.2.2 row member
    | insertFinops isDefault => exact absurd member List.not_mem_nil
    | changeProfile before after => exact absurd member List.not_mem_nil
    | disable profileId => exact absurd member List.not_mem_nil

/-- A phase relies on the rows that it holds alone. -/
theorem Fits.moved {phase : Phase} (fits : Fits profiles phase) {next : List BillingProfile}
    (kept : ∀ row ∈ phase.locked, row ∈ next) : Fits next phase := by
  cases phase with
  | lockingCreate profile visible => exact fits
  | lockingDefault profileId visible => trivial
  | pending work =>
    cases work with
    | insertProfile locked profile => exact ⟨fits.1, fits.2.1, fits.2.2.1, kept⟩
    | moveDefault locked target => exact ⟨fits.1, fits.2.1, fits.2.2.1, kept⟩
    | insertFinops isDefault => trivial
    | changeProfile before after => trivial
    | disable profileId => trivial

end Tables

/-- One profile is the default, and it is enabled. -/
def OneDefault (profiles : List BillingProfile) : Prop :=
  ∃ current ∈ profiles, current.isDefault = true ∧ current.enabled = true ∧
    ∀ other ∈ profiles, other.isDefault = true → other = current

/-- What holds in every state: the table with one enabled default and the profile of the
system, sessions that hold different rows, and no integrity error that surfaced. -/
structure Sound (system : System) : Prop where
  constraints : Constraints system.profiles
  default : ∃ current ∈ system.profiles, current.isDefault = true ∧ current.enabled = true
  finops : finopsSystemProfileId ∈ system.profiles.map BillingProfile.id
  fits : ∀ entry ∈ system.sessions, Fits system.profiles entry.2
  apart : ∀ first ∈ system.sessions, ∀ second ∈ system.sessions, first.1 ≠ second.1 →
    ∀ row ∈ first.2.locked, ∀ other ∈ second.2.locked, row.id ≠ other.id
  answered : ∀ entry ∈ system.outcomes, entry.2 ≠ .integrityError

namespace Sound

variable {system : System} {session : ℕ}

theorem oneDefault (sound : Sound system) : OneDefault system.profiles := by
  obtain ⟨current, member, isDefault, enabled⟩ := sound.default
  exact ⟨current, member, isDefault, enabled, fun other otherMember otherDefault =>
    sound.constraints.eq_of_default otherMember member otherDefault isDefault⟩

theorem mem_others {entry : ℕ × Phase} :
    entry ∈ system.sessions.filter (fun entry => entry.1 != session) ↔
      entry ∈ system.sessions ∧ entry.1 ≠ session := by
  rw [List.mem_filter, bne_iff_ne]

theorem close (sound : Sound system) : Sound (system.close session) :=
  ⟨sound.constraints, sound.default, sound.finops,
    fun entry member => sound.fits entry (mem_others.mp member).1,
    fun first firstMember second secondMember => sound.apart first (mem_others.mp firstMember).1
      second (mem_others.mp secondMember).1,
    sound.answered⟩

theorem answer (sound : Sound system) {outcome : Outcome} (handled : outcome ≠ .integrityError) :
    Sound (system.answer session outcome) := by
  have closed : Sound (system.close session) := sound.close
  refine ⟨closed.constraints, closed.default, closed.finops, closed.fits, closed.apart, ?_⟩
  intro entry member
  rcases List.mem_cons.mp member with rfl | old
  · exact handled
  · exact sound.answered entry old

theorem enter (sound : Sound system) {phase : Phase} (fits : Fits system.profiles phase)
    (apart : ∀ entry ∈ system.sessions, entry.1 ≠ session →
      ∀ row ∈ entry.2.locked, ∀ other ∈ phase.locked, row.id ≠ other.id) :
    Sound (system.enter session phase) := by
  refine ⟨sound.constraints, sound.default, sound.finops, fun entry member => ?_,
    fun first firstMember second secondMember different row rowMember other otherMember => ?_,
    sound.answered⟩
  · rcases List.mem_cons.mp member with rfl | old
    · exact fits
    · exact sound.fits entry (mem_others.mp old).1
  · rcases List.mem_cons.mp firstMember with rfl | firstOld <;>
      rcases List.mem_cons.mp secondMember with rfl | secondOld
    · exact absurd rfl different
    · obtain ⟨inside, otherSession⟩ := mem_others.mp secondOld
      exact (apart second inside otherSession other otherMember row rowMember).symm
    · obtain ⟨inside, otherSession⟩ := mem_others.mp firstOld
      exact apart first inside otherSession row rowMember other otherMember
    · exact sound.apart first (mem_others.mp firstOld).1 second (mem_others.mp secondOld).1
        different row rowMember other otherMember

/-- A phase without locks can always be entered. -/
theorem enter_unlocked (sound : Sound system) {phase : Phase} (fits : Fits system.profiles phase)
    (unlocked : phase.locked = []) : Sound (system.enter session phase) :=
  sound.enter fits fun _ _ _ _ _ other member =>
    absurd (unlocked ▸ member : other ∈ []) List.not_mem_nil

/-- A write that keeps the rows which the others hold. -/
theorem write (sound : Sound system) {next : List BillingProfile} (constraints : Constraints next)
    (default : ∃ current ∈ next, current.isDefault = true ∧ current.enabled = true)
    (ids : ∀ id ∈ system.profiles.map BillingProfile.id, id ∈ next.map BillingProfile.id)
    (kept : ∀ entry ∈ system.sessions, entry.1 ≠ session → ∀ row ∈ entry.2.locked, row ∈ next) :
    Sound ({ system with profiles := next }.answer session .returned) := by
  refine ⟨constraints, default, ids _ sound.finops, fun entry member => ?_,
    fun first firstMember second secondMember => sound.apart first (mem_others.mp firstMember).1
      second (mem_others.mp secondMember).1, fun entry member => ?_⟩
  · obtain ⟨inside, other⟩ := mem_others.mp member
    exact (sound.fits entry inside).moved (kept entry inside other)
  · rcases List.mem_cons.mp member with rfl | old
    · exact fun impossible => by cases impossible
    · exact sound.answered entry old

theorem mem_of_phaseOf {phase : Phase} (found : system.phaseOf session = some phase) :
    (session, phase) ∈ system.sessions := by
  obtain ⟨entry, isFirst, rfl⟩ := Option.map_eq_some_iff.mp found
  have own : entry.1 = session := by simpa using List.find?_some isFirst
  exact own ▸ List.mem_of_find?_eq_some isFirst

theorem free_of_not_blocked {ids : List String} (free : system.blocked session ids = false) :
    ∀ entry ∈ system.sessions, entry.1 ≠ session → ∀ row ∈ entry.2.locked, row.id ∉ ids := by
  intro entry member other row rowMember inside
  have blocks : system.blocked session ids = true := by
    refine List.any_eq_true.mpr ⟨entry, member, ?_⟩
    rw [Bool.and_eq_true, bne_iff_ne]
    exact ⟨other, List.any_eq_true.mpr ⟨row, rowMember, decide_eq_true inside⟩⟩
  rw [free] at blocks
  cases blocks

end Sound

section Runs

variable {system : System} {session : ℕ}

/-- A call that begins only reads. -/
theorem sound_begin [CaseMapping] (sound : Sound system) (call : Call) : Sound (begin_ system session call) := by
  have raised (error : BillingProfileError) : Outcome.raised error ≠ .integrityError :=
    fun impossible => by cases impossible
  have returned : Outcome.returned ≠ .integrityError := fun impossible => by cases impossible
  cases call with
  | ensureFinopsProfile =>
    unfold begin_
    dsimp only
    by_cases found : hasFinops system.profiles = true
    · rw [if_pos found]
      exact sound.answer returned
    · rw [if_neg found]
      exact sound.enter_unlocked trivial rfl
  | create id payload =>
    unfold begin_
    dsimp only
    cases (ensureUniqueName system.profiles payload.name none :
        Except BillingProfileError Unit) with
    | error error => exact sound.answer (raised error)
    | ok _ =>
      dsimp only
      cases takes : payload.isDefault with
      | true => exact sound.enter_unlocked ⟨rfl, takes⟩ rfl
      | false =>
        exact sound.enter_unlocked
          ⟨rfl, fun _ => rfl, List.nodup_nil, fun row member => absurd member List.not_mem_nil⟩ rfl
  | update profileId payload =>
    unfold begin_
    dsimp only
    cases changedProfile system.profiles profileId payload with
    | error error => exact sound.answer (raised error)
    | ok change => exact sound.enter_unlocked trivial rfl
  | setDefault profileId => exact sound.enter_unlocked trivial rfl
  | deactivate profileId =>
    unfold begin_
    dsimp only
    cases disposableProfile system.profiles profileId with
    | error error => exact sound.answer (raised error)
    | ok profile =>
      dsimp only
      cases profile.enabled with
      | true => exact sound.enter_unlocked trivial rfl
      | false => exact sound.answer returned

/-- The rows that a session locks are stored, and no other session holds one of them. -/
theorem held_lockRows (sound : Sound system) (visible : List String) :
    Held system.profiles (lockRows system.profiles visible) :=
  ⟨nodup_lockRows sound.constraints visible, fun _ member => (mem_lockRows.mp member).1⟩

theorem apart_lockRows {visible : List String} (free : system.blocked session visible = false) :
    ∀ entry ∈ system.sessions, entry.1 ≠ session → ∀ row ∈ entry.2.locked,
      ∀ other ∈ lockRows system.profiles visible, row.id ≠ other.id := by
  intro entry member different row rowMember other otherMember same
  exact Sound.free_of_not_blocked free entry member different row rowMember
    (same ▸ (mem_lockRows.mp otherMember).2)

/-- The locked rows are those of the table at the grant. -/
theorem sound_acquire (sound : Sound system) : Sound (acquire system session) := by
  unfold acquire
  cases found : system.phaseOf session with
  | none => exact sound
  | some phase =>
    have fits := sound.fits _ (Sound.mem_of_phaseOf found)
    cases phase with
    | pending work => exact sound
    | lockingCreate profile visible =>
      dsimp only
      cases free : system.blocked session visible with
      | true => exact sound
      | false =>
        refine sound.enter ⟨fits.1, fun plain => ?_, held_lockRows sound visible⟩
          (apart_lockRows free)
        rw [fits.2] at plain
        cases plain
    | lockingDefault profileId visible =>
      dsimp only
      cases free : system.blocked session visible with
      | true => exact sound
      | false =>
        rw [if_neg Bool.false_ne_true]
        cases found : defaultTarget (lockRows system.profiles visible) profileId with
        | error error => exact sound.answer fun impossible => by cases impossible
        | ok target =>
          obtain ⟨member, enabled⟩ := defaultTarget_eq_ok found
          exact sound.enter ⟨member, enabled, held_lockRows sound visible⟩ (apart_lockRows free)

/-- Rows that the others hold are not among those that a flush rewrites. -/
theorem kept_updateRow (sound : Sound system) {id : String}
    (free : system.blocked session [id] = false) (rewrite : BillingProfile → BillingProfile) :
    ∀ entry ∈ system.sessions, entry.1 ≠ session → ∀ row ∈ entry.2.locked,
      row ∈ updateRow system.profiles id rewrite := by
  intro entry member different row rowMember
  refine mem_updateRow_of_ne ((sound.fits entry member).stored row rowMember) fun same => ?_
  exact Sound.free_of_not_blocked free entry member different row rowMember
    (List.mem_singleton.mpr same)

/-- Rows that the others hold are not the default that a session holds. -/
theorem kept_default (sound : Sound system) {work : Pending}
    (own : (session, Phase.pending work) ∈ system.sessions) {current : BillingProfile}
    (member : current ∈ system.profiles) (isDefault : current.isDefault = true)
    (held : current ∈ work.locked) {entry : ℕ × Phase} (inside : entry ∈ system.sessions)
    (different : entry.1 ≠ session) {row : BillingProfile} (rowMember : row ∈ entry.2.locked) :
    row.isDefault = false := by
  cases value : row.isDefault with
  | false => rfl
  | true =>
    have stored := (sound.fits entry inside).stored row rowMember
    have same := sound.constraints.eq_of_default stored member value isDefault
    exact absurd (congrArg BillingProfile.id same)
      (sound.apart entry inside _ own different row rowMember current held)

variable {profiles : List BillingProfile}

theorem ids_updateRow {id : String} {rewrite : BillingProfile → BillingProfile}
    (sameId : ∀ row, (rewrite row).id = row.id) :
    (updateRow profiles id rewrite).map BillingProfile.id = profiles.map BillingProfile.id :=
  map_updateRow BillingProfile.id sameId

/-- A rewriting of one row that keeps the default and its state keeps an enabled default. -/
theorem default_updateRow {id : String} {rewrite : BillingProfile → BillingProfile}
    (exists_ : ∃ current ∈ profiles, current.isDefault = true ∧ current.enabled = true)
    (kept : ∀ row ∈ profiles, row.isDefault = true → row.enabled = true → row.id = id →
      (rewrite row).isDefault = true ∧ (rewrite row).enabled = true) :
    ∃ current ∈ updateRow profiles id rewrite,
      current.isDefault = true ∧ current.enabled = true := by
  obtain ⟨current, member, isDefault, enabled⟩ := exists_
  by_cases own : current.id = id
  · exact ⟨rewrite current, mem_updateRow.mpr ⟨current, member, if_pos own⟩,
      kept current member isDefault enabled own⟩
  · exact ⟨current, mem_updateRow_of_ne member own, isDefault, enabled⟩

/-- A profile to be disabled always can be. -/
theorem execute_disable (constraints : Constraints profiles) (profileId : String) :
    execute profiles (Pending.disable profileId).statements =
      some (updateRow profiles profileId fun profile => { profile with enabled := false }) := by
  have ids : ((Statement.disable profileId).apply profiles).map BillingProfile.id =
      profiles.map BillingProfile.id := ids_updateRow fun _ => rfl
  have names : ((Statement.disable profileId).apply profiles).map BillingProfile.name =
      profiles.map BillingProfile.name := map_updateRow BillingProfile.name fun _ => rfl
  refine execute_step rfl ⟨?_, ?_, fun first firstMember second secondMember => ?_⟩
  · exact (congrArg List.Nodup ids).mpr constraints.1
  · exact (congrArg List.Nodup names).mpr constraints.2.1
  · obtain ⟨old, oldMember, rfl⟩ := mem_updateRow.mp firstMember
    obtain ⟨other, otherMember, rfl⟩ := mem_updateRow.mp secondMember
    have columns (row : BillingProfile) :
        (if row.id = profileId then { row with enabled := false } else row).id = row.id ∧
          (if row.id = profileId then { row with enabled := false } else row).isDefault =
            row.isDefault := by
      split_ifs <;> exact ⟨rfl, rfl⟩
    rw [(columns old).1, (columns old).2, (columns other).1, (columns other).2]
    exact constraints.2.2 old oldMember other otherMember

/-- The flush of `ensure_finops_profile` meets the profile that another one added. -/
theorem sound_flush_insertFinops [CaseMapping] (sound : Sound system) (isDefault : Bool) :
    execute system.profiles (Pending.insertFinops isDefault).statements = none ∧
      onConflict system.profiles (.insertFinops isDefault) = .returned := by
  obtain ⟨finops, member, isFinops⟩ := List.mem_map.mp sound.finops
  constructor
  · refine execute_conflict fun constraints => ?_
    have distinct := constraints.1
    rw [Statement.apply, List.map_append, List.nodup_append] at distinct
    exact distinct.2.2 _ sound.finops _ (List.mem_singleton.mpr rfl) rfl
  · refine if_pos (List.any_eq_true.mpr ⟨finops, member, ?_⟩)
    exact decide_eq_true (Or.inl isFinops)

/-- An orderly creation. -/
theorem sound_flush_insertProfile (sound : Sound system) {locked : List BillingProfile}
    {profile : BillingProfile}
    (found : system.phaseOf session = some (.pending (.insertProfile locked profile)))
    (orderly : Orderly system (.flush session)) :
    ∃ next, execute system.profiles (Pending.insertProfile locked profile).statements =
      some next ∧ Sound ({ system with profiles := next }.answer session .returned) := by
  have own := Sound.mem_of_phaseOf found
  obtain ⟨enabled, unlocked, distinct, stored⟩ := sound.fits _ own
  rw [Orderly, found] at orderly
  obtain ⟨fresh, held⟩ := orderly
  obtain ⟨current, member, isDefault, currentEnabled⟩ := sound.default
  have executed := execute_insertProfile sound.constraints member isDefault distinct stored unlocked
    fresh held
  refine ⟨_, executed, sound.write (constraints_of_execute sound.constraints executed) ?_ ?_ ?_⟩
  · cases takes : profile.isDefault with
    | true => exact ⟨profile, List.mem_append_right _ (List.mem_singleton.mpr rfl), takes, enabled⟩
    | false => exact ⟨current, List.mem_append_left _ member, isDefault, currentEnabled⟩
  · intro id inside
    rw [List.map_append]
    refine List.mem_append_left _ ?_
    split_ifs
    · rwa [ids_cleared]
    · exact inside
  · intro entry inside different row rowMember
    have rowStored := (sound.fits entry inside).stored row rowMember
    refine List.mem_append_left _ ?_
    cases takes : profile.isDefault with
    | false => exact rowStored
    | true =>
      obtain ⟨held, heldMember, same⟩ := held takes current member isDefault
      have isCurrent := sound.constraints.eq_of_id (stored held heldMember) member same
      have plain := kept_default sound own member isDefault (isCurrent ▸ heldMember) inside
        different rowMember
      refine List.mem_map.mpr ⟨row, rowStored, ?_⟩
      rw [← plain]

/-- Moving the default. -/
theorem sound_flush_moveDefault (sound : Sound system) {locked : List BillingProfile}
    {target : BillingProfile}
    (found : system.phaseOf session = some (.pending (.moveDefault locked target)))
    {next : List BillingProfile}
    (executed : execute system.profiles (Pending.moveDefault locked target).statements =
      some next) : Sound ({ system with profiles := next }.answer session .returned) := by
  have own := Sound.mem_of_phaseOf found
  obtain ⟨inside, enabled, distinct, stored⟩ := sound.fits _ own
  obtain ⟨current, member, isDefault, currentEnabled⟩ := sound.default
  have constraints := constraints_of_execute sound.constraints executed
  rw [execute_moveDefault sound.constraints member isDefault distinct stored inside] at executed
  by_cases same : current.id = target.id
  · rw [if_pos same, Option.some.injEq] at executed
    rw [← executed]
    exact sound.answer fun impossible => by cases impossible
  · rw [if_neg same] at executed
    by_cases passes : current ∈ locked ∧ current.id < target.id
    · rw [if_pos passes, Option.some.injEq] at executed
      subst executed
      refine sound.write constraints ?_ ?_ ?_
      · exact ⟨_, List.mem_map.mpr ⟨target, stored target inside, rfl⟩, decide_eq_true rfl, enabled⟩
      · intro id idMember
        rwa [ids_moved]
      · intro entry entryMember different row rowMember
        have plain := kept_default sound own member isDefault passes.1 entryMember different rowMember
        have other := sound.apart entry entryMember _ own different row rowMember target inside
        refine List.mem_map.mpr ⟨row, (sound.fits entry entryMember).stored row rowMember, ?_⟩
        rw [decide_eq_false other, ← plain]
    · rw [if_neg passes] at executed
      cases executed

/-- A change of other columns. -/
theorem sound_flush_changeProfile (sound : Sound system) {before after : BillingProfile}
    (free : system.blocked session [before.id] = false) {next : List BillingProfile}
    (executed : execute system.profiles (Pending.changeProfile before after).statements =
      some next) : Sound ({ system with profiles := next }.answer session .returned) := by
  have constraints := constraints_of_execute sound.constraints executed
  unfold Pending.statements at executed
  dsimp only at executed
  by_cases same : before = after
  · rw [if_pos same] at executed
    cases executed
    exact sound.answer fun impossible => by cases impossible
  · rw [if_neg same, execute] at executed
    by_cases passes : Constraints ((Statement.write before after).apply system.profiles)
    · rw [if_pos passes] at executed
      cases executed
      refine sound.write constraints ?_ ?_ (kept_updateRow sound free _)
      · exact default_updateRow sound.default fun row _ isDefault enabled _ => ⟨isDefault, enabled⟩
      · have ids : ((Statement.write before after).apply system.profiles).map BillingProfile.id =
            system.profiles.map BillingProfile.id := ids_updateRow fun _ => rfl
        intro id member
        rwa [ids]
    · rw [if_neg passes] at executed
      cases executed

/-- An orderly deactivation. -/
theorem sound_flush_disable (sound : Sound system) {profileId : String}
    (found : system.phaseOf session = some (.pending (.disable profileId)))
    (free : system.blocked session [profileId] = false)
    (orderly : Orderly system (.flush session)) :
    ∃ next, execute system.profiles (Pending.disable profileId).statements = some next ∧
      Sound ({ system with profiles := next }.answer session .returned) := by
  rw [Orderly, found] at orderly
  have executed := execute_disable sound.constraints profileId
  have ids : ((Statement.disable profileId).apply system.profiles).map BillingProfile.id =
      system.profiles.map BillingProfile.id := ids_updateRow fun _ => rfl
  refine ⟨_, executed, sound.write (constraints_of_execute sound.constraints executed) ?_ ?_
    (kept_updateRow sound free _)⟩
  · refine default_updateRow sound.default fun row member isDefault _ own => ?_
    rw [orderly row member own] at isDefault
    cases isDefault
  · intro id member
    exact ids ▸ member

theorem sound_bootstrapped (starting : List ℕ) : Sound (bootstrapped starting) := by
  have unlocked : ∀ entry ∈ (bootstrapped starting).sessions, entry.2.locked = [] := by
    intro entry member
    obtain ⟨session, -, rfl⟩ := List.mem_map.mp member
    rfl
  have constraints : Constraints [finopsProfile true] := by decide
  refine ⟨constraints, ⟨finopsProfile true, List.mem_singleton.mpr rfl, rfl, rfl⟩,
    List.mem_singleton.mpr rfl, fun entry member => ?_,
    fun first firstMember second _ _ row rowMember => ?_, fun _ member => absurd member List.not_mem_nil⟩
  · obtain ⟨session, -, rfl⟩ := List.mem_map.mp member
    trivial
  · rw [unlocked first firstMember] at rowMember
    exact absurd rowMember List.not_mem_nil

variable [CaseMapping]

/-- An orderly flush keeps the constraints and the locked rows of the others. -/
theorem sound_flush (sound : Sound system) (orderly : Orderly system (.flush session)) :
    Sound (flush system session) := by
  unfold flush
  cases found : system.phaseOf session with
  | none => exact sound
  | some phase =>
    cases phase with
    | lockingCreate profile visible => exact sound
    | lockingDefault profileId visible => exact sound
    | pending work =>
      dsimp only
      cases free : system.blocked session work.updates with
      | true => exact sound
      | false =>
        rw [if_neg Bool.false_ne_true]
        cases work with
        | insertFinops isDefault =>
          obtain ⟨conflict, outcome⟩ := sound_flush_insertFinops sound isDefault
          rw [conflict, outcome]
          exact sound.answer fun impossible => by cases impossible
        | insertProfile locked profile =>
          obtain ⟨next, executed, after⟩ := sound_flush_insertProfile sound found orderly
          rw [executed]
          exact after
        | changeProfile before after =>
          cases executed : execute system.profiles (Pending.changeProfile before after).statements with
          | none => exact sound.answer fun impossible => by cases impossible
          | some next => exact sound_flush_changeProfile sound free executed
        | moveDefault locked target =>
          cases executed : execute system.profiles (Pending.moveDefault locked target).statements with
          | none => exact sound.answer fun impossible => by cases impossible
          | some next => exact sound_flush_moveDefault sound found executed
        | disable profileId =>
          obtain ⟨next, executed, after⟩ := sound_flush_disable sound found free orderly
          rw [executed]
          exact after

/-- Every orderly step keeps the table sound. -/
theorem sound_step {action : Action} (sound : Sound system) (orderly : Orderly system action) :
    Sound (step system action) := by
  cases action with
  | begin_ session call =>
    unfold step
    dsimp only
    split_ifs
    · exact sound
    · exact sound_begin sound call
  | acquire session => exact sound_acquire sound
  | flush session => exact sound_flush sound orderly
  | abandon session => exact sound.close

theorem profiles_begin (call : Call) :
    (begin_ system session call).profiles = system.profiles := by
  cases call with
  | ensureFinopsProfile =>
    unfold begin_
    dsimp only
    split_ifs <;> rfl
  | create id payload =>
    unfold begin_
    dsimp only
    split
    · rfl
    · split_ifs <;> rfl
  | update profileId payload =>
    unfold begin_
    dsimp only
    split <;> rfl
  | setDefault profileId => rfl
  | deactivate profileId =>
    unfold begin_
    dsimp only
    split
    · rfl
    · split_ifs <;> rfl

omit [CaseMapping] in
theorem profiles_acquire : (acquire system session).profiles = system.profiles := by
  unfold acquire
  split
  · split_ifs <;> rfl
  · split_ifs
    · rfl
    · split <;> rfl
  · rfl

/-- A call that raises leaves the table. -/
theorem profiles_raised {action : Action} {error : BillingProfileError}
    (raised : (step system action).outcomes = (session, .raised error) :: system.outcomes) :
    (step system action).profiles = system.profiles := by
  cases action with
  | begin_ other call =>
    unfold step
    dsimp only
    split_ifs
    · rfl
    · exact profiles_begin call
  | acquire other => exact profiles_acquire
  | abandon other => rfl
  | flush other =>
    unfold step flush at raised ⊢
    dsimp only at raised ⊢
    split
    · rename_i work found
      rw [found] at raised
      dsimp only at raised
      cases free : system.blocked other work.updates with
      | true => rfl
      | false =>
        rw [free, if_neg Bool.false_ne_true] at raised
        rw [if_neg Bool.false_ne_true]
        cases executed : execute system.profiles work.statements with
        | none => rfl
        | some next =>
          rw [executed] at raised
          cases (List.cons.inj raised).1
    · rfl

omit [CaseMapping] in
theorem phaseOf_enter (phase : Phase) : (system.enter session phase).phaseOf session = some phase := by
  simp [System.enter, System.phaseOf]

omit [CaseMapping] in
theorem enter_enter (first second : Phase) :
    (system.enter session first).enter session second = system.enter session second := by
  simp [System.enter]

omit [CaseMapping] in
theorem answer_enter (phase : Phase) (profiles : List BillingProfile) (outcome : Outcome) :
    { system.enter session phase with profiles := profiles }.answer session outcome =
      { system with profiles := profiles }.answer session outcome := by
  simp [System.answer, System.close, System.enter]

omit [CaseMapping] in
/-- A session that is alone waits for nothing. -/
theorem blocked_enter (idle : system.sessions = []) (phase : Phase) (ids : List String) :
    (system.enter session phase).blocked session ids = false := by
  simp [System.enter, System.blocked, idle]

/-- `set_default` of an enabled profile while no other session is in progress. -/
theorem setDefaultAlone_run (sound : Sound system) (idle : system.sessions = [])
    {profile current : BillingProfile} (member : profile ∈ system.profiles)
    (enabled : profile.enabled = true) (currentMember : current ∈ system.profiles)
    (isDefault : current.isDefault = true) :
    run step system (setDefaultAlone session profile.id) =
      if current.id = profile.id then system.answer session .returned
      else if current.id < profile.id then
        { system with profiles := moved system.profiles profile.id }.answer session .returned
      else system.answer session (.raised ⟨"DEFAULT_CONFLICT",
        "Outro perfil foi definido como padrão simultaneamente. Tente novamente."⟩) := by
  set visible := system.profiles.map BillingProfile.id with visible_def
  set rows := lockRows system.profiles visible with rows_def
  have mem_rows {row : BillingProfile} (stored : row ∈ system.profiles) : row ∈ rows :=
    mem_lockRows.mpr ⟨stored, List.mem_map_of_mem stored⟩
  have target : defaultTarget rows profile.id = .ok profile := by
    unfold defaultTarget
    cases found : rows.find? (fun row => row.id = profile.id) with
    | none =>
      have missing := List.find?_eq_none.mp found profile (mem_rows member)
      exact absurd (decide_eq_true rfl) missing
    | some row =>
      have same : row.id = profile.id := by simpa using List.find?_some found
      have stored := (mem_lockRows.mp (List.mem_of_find?_eq_some found)).1
      rw [sound.constraints.eq_of_id stored member same]
      exact if_pos enabled
  have begun : step system (.begin_ session (.setDefault profile.id)) =
      system.enter session (.lockingDefault profile.id visible) := by
    have noPhase : system.phaseOf session = none := by
      rw [System.phaseOf, idle]
      rfl
    unfold step
    dsimp only
    rw [noPhase]
    rfl
  have locked : step (system.enter session (.lockingDefault profile.id visible)) (.acquire session) =
      system.enter session (.pending (.moveDefault rows profile)) := by
    unfold step acquire
    dsimp only
    rw [phaseOf_enter]
    dsimp only
    rw [blocked_enter idle, if_neg Bool.false_ne_true]
    have sameRows : lockRows (system.enter session (.lockingDefault profile.id visible)).profiles
        visible = rows := rfl
    rw [sameRows, target]
    exact enter_enter _ _
  have flushed : step (system.enter session (.pending (.moveDefault rows profile)))
      (.flush session) =
        match execute system.profiles (Pending.moveDefault rows profile).statements with
        | some profiles => { system with profiles := profiles }.answer session .returned
        | none => system.answer session (onConflict system.profiles (.moveDefault rows profile)) := by
    unfold step flush
    dsimp only
    rw [phaseOf_enter]
    dsimp only
    rw [blocked_enter idle, if_neg Bool.false_ne_true]
    have sameProfiles : (system.enter session (.pending (.moveDefault rows profile))).profiles =
        system.profiles := rfl
    rw [sameProfiles]
    cases execute system.profiles (Pending.moveDefault rows profile).statements with
    | some next => exact answer_enter _ next .returned
    | none => exact answer_enter _ system.profiles _
  have whole : run step system (setDefaultAlone session profile.id) =
      step (step (step system (.begin_ session (.setDefault profile.id))) (.acquire session))
        (.flush session) := rfl
  rw [whole, begun, locked, flushed, execute_moveDefault sound.constraints currentMember isDefault
    (nodup_lockRows sound.constraints visible) (fun row inside => (mem_lockRows.mp inside).1)
    (mem_rows member)]
  by_cases same : current.id = profile.id
  · rw [if_pos same, if_pos same]
  · rw [if_neg same, if_neg same]
    by_cases before : current.id < profile.id
    · rw [if_pos before, if_pos ⟨mem_rows currentMember, before⟩]
    · rw [if_neg before, if_neg fun both => before both.2]
      rfl

/-- `set_default` succeeds and leaves the profile as the only default. -/
def SucceedsAlone (system : System) (session : ℕ) (profileId : String) : Prop :=
  (run step system (setDefaultAlone session profileId)).outcomes =
      (session, .returned) :: system.outcomes ∧
    ∀ row ∈ (run step system (setDefaultAlone session profileId)).profiles,
      row.isDefault = true ↔ row.id = profileId

/-- Alone, an enabled profile becomes the default unless its identifier comes before that
of the profile that is. -/
theorem succeedsAlone_iff (sound : Sound system) (idle : system.sessions = [])
    {profile : BillingProfile} (member : profile ∈ system.profiles)
    (enabled : profile.enabled = true) :
    SucceedsAlone system session profile.id ↔
      ∀ current ∈ system.profiles, current.isDefault = true → ¬profile.id < current.id := by
  obtain ⟨current, currentMember, isDefault, -⟩ := sound.default
  have only {row : BillingProfile} (inside : row ∈ system.profiles) :
      row.isDefault = true ↔ row.id = current.id :=
    ⟨fun holds => congrArg BillingProfile.id
      (sound.constraints.eq_of_default inside currentMember holds isDefault),
      fun same => sound.constraints.eq_of_id inside currentMember same ▸ isDefault⟩
  have condition : (∀ current ∈ system.profiles, current.isDefault = true →
      ¬profile.id < current.id) ↔ ¬profile.id < current.id :=
    ⟨fun all => all current currentMember isDefault, fun holds other inside otherDefault =>
      (only inside).mp otherDefault ▸ holds⟩
  rw [condition]
  unfold SucceedsAlone
  rw [setDefaultAlone_run sound idle member enabled currentMember isDefault]
  by_cases same : current.id = profile.id
  · rw [if_pos same]
    refine iff_of_true ⟨rfl, fun row inside => ?_⟩ (same ▸ lt_irrefl _)
    rw [only inside, same]
  · rw [if_neg same]
    by_cases before : current.id < profile.id
    · rw [if_pos before]
      refine iff_of_true ⟨rfl, fun row inside => ?_⟩ (not_lt.mpr before.le)
      obtain ⟨old, -, rfl⟩ := List.mem_map.mp inside
      exact decide_eq_true_iff
    · rw [if_neg before]
      refine iff_of_false (fun both => ?_) fun notBefore =>
        same (le_antisymm (not_lt.mp notBefore) (not_lt.mp before))
      cases (List.cons.inj both.1).1

/-- In every run of orderly steps there is one default and it is enabled, calls raise the
errors of billing profiles alone and leave the table when they do, and an enabled profile
becomes the default, alone, unless its identifier comes before that of the default. -/
theorem default_profile_runs (starting : List ℕ) {steps : List Action}
    (orderly : Along step Orderly (bootstrapped starting) steps) :
    OneDefault (run step (bootstrapped starting) steps).profiles ∧
      (∀ entry ∈ (run step (bootstrapped starting) steps).outcomes,
        entry.2 ≠ .integrityError) ∧
      (∀ action session error,
        (step (run step (bootstrapped starting) steps) action).outcomes =
            (session, .raised error) :: (run step (bootstrapped starting) steps).outcomes →
          (step (run step (bootstrapped starting) steps) action).profiles =
            (run step (bootstrapped starting) steps).profiles) ∧
      ((run step (bootstrapped starting) steps).sessions = [] →
        ∀ profile ∈ (run step (bootstrapped starting) steps).profiles, profile.enabled = true →
          ∀ session, SucceedsAlone (run step (bootstrapped starting) steps) session profile.id ↔
            ∀ current ∈ (run step (bootstrapped starting) steps).profiles,
              current.isDefault = true → ¬profile.id < current.id) := by
  have sound := run_invariant Sound (sound_bootstrapped starting)
    (fun _ _ sound orderly => sound_step sound orderly) orderly
  exact ⟨sound.oneDefault, sound.answered, fun _ _ _ raised => profiles_raised raised,
    fun idle _ member enabled _ => succeedsAlone_iff sound idle member enabled⟩

end Runs

section Sample

attribute [local instance] asciiCase

/-- A profile of a team, for evaluation at concrete inputs. -/
def teamProfile (name : String) (isDefault : Bool) : BillingProfileCreate where
  name := name
  description := none
  granularity := .monthly
  metric := .unblendedCost
  groupBy := .none
  excludeRecordTypes := [.credit]
  isDefault := isDefault

/-- A team profile is created and becomes the default. -/
def teamDefault : List Action :=
  [.begin_ 0 (.create "6f1c" (teamProfile "Team" false)), .flush 0] ++ setDefaultAlone 0 "6f1c"

/-- The identifier of the system profile comes before any other, so that it does not
become the default again. -/
theorem set_default_back_conflicts :
    ¬∀ steps, (run step (bootstrapped []) steps).sessions = [] →
      ∀ profile ∈ (run step (bootstrapped []) steps).profiles, profile.enabled = true →
        ∀ session, SucceedsAlone (run step (bootstrapped []) steps) session profile.id := by
  intro always
  have idle : (run step (bootstrapped []) teamDefault).sessions = [] :=
    List.isEmpty_iff.mp (by decide +kernel)
  have member : finopsProfile false ∈ (run step (bootstrapped []) teamDefault).profiles := by
    decide +kernel
  have succeeds := (always teamDefault idle (finopsProfile false) member rfl 0).1
  revert succeeds
  decide +kernel

/-- A run that meets the conditions leaves the team profile as the default. -/
theorem team_default_run :
    OneDefault (run step (bootstrapped []) teamDefault).profiles ∧
      (run step (bootstrapped []) teamDefault).profiles.map
        (fun profile => (profile.name, profile.isDefault)) = [("FinOps", false), ("Team", true)] := by
  have orderly : Along step Orderly (bootstrapped []) teamDefault := by decide +kernel
  exact ⟨(default_profile_runs [] orderly).1, by decide +kernel⟩

-- a deactivation that read the profile before it became the default disables the default
example : (run step (bootstrapped []) ([.begin_ 0 (.create "6f1c" (teamProfile "Team" false)),
    .flush 0, .begin_ 1 (.deactivate "6f1c")] ++ setDefaultAlone 0 "6f1c" ++ [.flush 1])).profiles.map
      (fun profile => (profile.isDefault, profile.enabled)) = [(false, true), (true, false)] := by
  decide +kernel

-- the second of two sessions that create a profile of one name meets the unique name
example : (run step (bootstrapped []) [.begin_ 0 (.create "6f1c" (teamProfile "Team" false)),
    .begin_ 1 (.create "7a2d" (teamProfile "Team" false)), .flush 0, .flush 1]).outcomes =
      [(1, .integrityError), (0, .returned)] := by
  decide +kernel

end Sample

end FinopsAnalytics.BillingProfileSessions
