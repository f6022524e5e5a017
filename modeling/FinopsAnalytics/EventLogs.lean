import Mathlib.Data.List.Basic
import Mathlib.Data.List.Pairwise

/-!
# Logs of events

A log lists events in the order in which they happened. Something is outstanding
when it was issued and nothing has barred it since. Where a thing is issued once, a
bar after its issue is final: it is never outstanding again, so what is accepted only
while it is outstanding is not accepted after the bar.
-/

namespace FinopsAnalytics.EventLogs

universe u v w
variable {ε : Type u}

/-- An issuing event happened and no barring event since. -/
def Since (issued barred : ε → Prop) (log : List ε) : Prop :=
  ∃ first event rest, log = first ++ event :: rest ∧ issued event ∧ ∀ later ∈ rest, ¬barred later

/-- At most one event of a kind. -/
def AtMostOnce (kind : ε → Prop) (log : List ε) : Prop :=
  log.Pairwise fun earlier later => ¬(kind earlier ∧ kind later)

/-- Every accepting event happens on a log of which the guard holds. -/
def Guarded (guard : ε → List ε → Prop) (log : List ε) : Prop :=
  ∀ first event rest, log = first ++ event :: rest → guard event first

section Logs

variable {issued barred kind : ε → Prop} {guard : ε → List ε → Prop} {log first rest : List ε}
  {event bar : ε}

theorem Since.append (since : Since issued barred log) {events : List ε}
    (harmless : ∀ event ∈ events, ¬barred event) : Since issued barred (log ++ events) := by
  obtain ⟨first, issue, rest, rfl, isIssue, unbarred⟩ := since
  refine ⟨first, issue, rest ++ events, by simp, isIssue, fun later member => ?_⟩
  rcases List.mem_append.mp member with old | new
  · exact unbarred later old
  · exact harmless later new

theorem since_of_issued (isIssue : issued event) : Since issued barred (log ++ [event]) :=
  ⟨log, event, [], rfl, isIssue, fun _ member => nomatch member⟩

theorem atMostOnce_append_singleton :
    AtMostOnce kind (log ++ [event]) ↔
      AtMostOnce kind log ∧ (kind event → ∀ earlier ∈ log, ¬kind earlier) := by
  rw [AtMostOnce, List.pairwise_append]
  constructor
  · rintro ⟨before, _, across⟩
    exact ⟨before, fun isKind earlier member held =>
      across earlier member event (List.mem_singleton_self event) ⟨held, isKind⟩⟩
  · rintro ⟨before, unheld⟩
    refine ⟨before, List.pairwise_singleton _ _, fun earlier member last same both => ?_⟩
    rw [List.mem_singleton.mp same] at both
    exact unheld both.2 earlier member both.1

/-- The events of a kind that happens once are one event. -/
theorem AtMostOnce.eq (once : AtMostOnce kind log) {first second : ε} (firstMember : first ∈ log)
    (secondMember : second ∈ log) (isKind : kind first) (alsoKind : kind second) :
    first = second := by
  induction log with
  | nil => exact nomatch firstMember
  | cons head tail inductionHypothesis =>
    obtain ⟨headOnce, tailOnce⟩ := List.pairwise_cons.mp once
    rcases List.mem_cons.mp firstMember with rfl | firstLater
    · rcases List.mem_cons.mp secondMember with rfl | secondLater
      · rfl
      · exact absurd ⟨isKind, alsoKind⟩ (headOnce second secondLater)
    · rcases List.mem_cons.mp secondMember with rfl | secondLater
      · exact absurd ⟨alsoKind, isKind⟩ (headOnce first firstLater)
      · exact inductionHypothesis tailOnce firstLater secondLater

/-- Events that draw one thing happen once where nothing is drawn twice. -/
theorem atMostOnce_of_nodup {τ : Type v} {drawn : ε → Option τ}
    (distinct : (log.filterMap drawn).Nodup) {ticket : τ}
    (draws : ∀ event, kind event → drawn event = some ticket) : AtMostOnce kind log := by
  refine (List.pairwise_filterMap.mp distinct).imp fun apart both => ?_
  exact apart ticket (draws _ both.1) ticket (draws _ both.2) rfl

theorem AtMostOnce.of_append (once : AtMostOnce kind (first ++ rest)) : AtMostOnce kind first :=
  (List.pairwise_append.mp once).1

/-- Two events of one kind, one of them earlier, are one too many. -/
theorem AtMostOnce.elim (once : AtMostOnce kind (first ++ rest)) {earlier later : ε}
    (firstMember : earlier ∈ first) (restMember : later ∈ rest) (isKind : kind earlier)
    (alsoKind : kind later) : False :=
  (List.pairwise_append.mp once).2.2 earlier firstMember later restMember ⟨isKind, alsoKind⟩

theorem guarded_append_singleton :
    Guarded guard (log ++ [event]) ↔ Guarded guard log ∧ guard event log := by
  constructor
  · intro guarded
    refine ⟨fun first other rest same => ?_, guarded log event [] rfl⟩
    exact guarded first other (rest ++ [event]) (by rw [same]; simp)
  · rintro ⟨guarded, last⟩ first other rest same
    rcases List.eq_nil_or_concat rest with rfl | ⟨front, final, rfl⟩
    · obtain ⟨rfl, sameEvent⟩ := List.append_inj' same rfl
      obtain rfl := List.singleton_inj.mp sameEvent
      exact last
    · have split : log ++ [event] = (first ++ other :: front) ++ [final] := by simp [same]
      obtain ⟨rfl, _⟩ := List.append_inj' split rfl
      exact guarded first other front rfl

/-- Events that accept nothing keep the guard. -/
theorem Guarded.append (guarded : Guarded guard log) {events : List ε}
    (harmless : ∀ event ∈ events, ∀ before, guard event before) :
    Guarded guard (log ++ events) := by
  induction events generalizing log with
  | nil => rwa [List.append_nil]
  | cons event rest inductionHypothesis =>
    rw [List.append_cons]
    refine inductionHypothesis (guarded_append_singleton.mpr ⟨guarded, ?_⟩) ?_
    · exact harmless event (List.mem_cons_self ..) log
    · exact fun other member => harmless other (List.mem_cons_of_mem _ member)

theorem AtMostOnce.append (once : AtMostOnce kind log) {events : List ε}
    (harmless : ∀ event ∈ events, ¬kind event) : AtMostOnce kind (log ++ events) := by
  rw [AtMostOnce, List.pairwise_append]
  refine ⟨once, ?_, fun earlier _ later member both => harmless later member both.2⟩
  exact List.pairwise_of_forall_mem_list fun _ _ later member both => harmless later member both.2

theorem guarded_nil : Guarded guard ([] : List ε) :=
  fun first event rest same => absurd same (by simp)

/-- A bar after the only issue is final. -/
theorem not_since_of_barred (once : AtMostOnce issued (first ++ bar :: rest)) {issue : ε}
    (member : issue ∈ first) (isIssue : issued issue) (isBar : barred bar) :
    ¬Since issued barred (first ++ bar :: rest) := by
  rintro ⟨front, event, back, same, issuedEvent, unbarred⟩
  rcases List.append_eq_append_iff.mp same with ⟨middle, rfl, split⟩ | ⟨middle, rfl, split⟩
  · -- the event is issued at the bar or after it
    have later : event ∈ bar :: rest := by rw [split]; simp
    exact once.elim member later isIssue issuedEvent
  · cases middle with
    | nil =>
      obtain ⟨rfl, _⟩ := List.cons.inj split
      exact once.elim member (List.mem_cons_self ..) isIssue issuedEvent
    | cons head middle =>
      obtain ⟨_, rfl⟩ := List.cons.inj split
      exact unbarred bar (by simp) isBar

end Logs

/-- What is accepted only while it is outstanding is not accepted after a bar. -/
theorem Guarded.never_after {issued barred : ε → Prop} {accepted : ε → Prop} {log first rest : List ε}
    {issue bar : ε}
    (guarded : Guarded (fun event before => accepted event → Since issued barred before) log)
    (once : AtMostOnce issued log) (split : log = first ++ bar :: rest) (member : issue ∈ first)
    (isIssue : issued issue) (isBar : barred bar) : ∀ event ∈ rest, ¬accepted event := by
  intro event later isAccepted
  obtain ⟨middle, back, rfl⟩ := List.append_of_mem later
  have whole : log = (first ++ bar :: middle) ++ event :: back := by simp [split]
  rw [whole] at once
  exact not_since_of_barred once.of_append member isIssue isBar
    (guarded _ event back whole isAccepted)

section Tickets

variable {ο : Type v} {τ : Type w}

/-- The issue of a ticket to whomever. -/
def Issues (issued : ο → τ → ε) (ticket : τ) (event : ε) : Prop := ∃ owner, event = issued owner ticket

/-- A ticket is accepted only while it is outstanding for its owner. -/
def Answers (issued : ο → τ → ε) (barred : ο → ε → Prop) (accepted : τ → ε → Prop) (event : ε)
    (before : List ε) : Prop :=
  ∀ ticket, accepted ticket event → ∃ owner, issued owner ticket ∈ before ∧
    Since (Issues issued ticket) (barred owner) before

/-- A ticket that is issued once is not accepted after a bar of its owner. -/
theorem Guarded.not_accepted_after {issued : ο → τ → ε} {barred : ο → ε → Prop}
    {accepted : τ → ε → Prop} {log first rest : List ε} {bar : ε} {owner : ο} {ticket : τ}
    (injective : ∀ {other}, issued other ticket = issued owner ticket → other = owner)
    (guarded : Guarded (Answers issued barred accepted) log)
    (once : AtMostOnce (Issues issued ticket) log) (split : log = first ++ bar :: rest)
    (member : issued owner ticket ∈ first) (isBar : barred owner bar) :
    ∀ event ∈ rest, ¬accepted ticket event := by
  have inLog : issued owner ticket ∈ log := by
    rw [split]
    exact List.mem_append_left _ member
  have own : Guarded (fun event before => accepted ticket event →
      Since (Issues issued ticket) (barred owner) before) log := by
    intro front event back cut isAccepted
    obtain ⟨other, issue, since⟩ := guarded front event back cut ticket isAccepted
    have same : issued other ticket = issued owner ticket :=
      once.eq (by rw [cut]; exact List.mem_append_left _ issue) inLog ⟨other, rfl⟩ ⟨owner, rfl⟩
    exact injective same ▸ since
  exact own.never_after once split member ⟨owner, rfl⟩ isBar

end Tickets

end FinopsAnalytics.EventLogs
