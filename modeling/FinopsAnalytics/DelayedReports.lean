import FinopsAnalytics.DistinctKeys

/-!
# Reports that arrive late

Reports about one subject carry the time at which they were made. A report
either sights the subject with a value or proves its absence for some values.
The entry kept of the subject takes the value of a sighting unless it was seen
later already, and turns absent on a proof that is not older than its last
sighting.

Value and time of the last sighting do not depend on the order of arrival. The
presence does: a proof of absence leaves no trace of its own time, so an older
sighting that arrives after it is taken for newer evidence.
-/

namespace FinopsAnalytics.DelayedReports

open DistinctKeys

universe u v
variable {τ : Type u} {ν : Type v} [LinearOrder τ]

/-- What is kept of a subject. -/
structure Entry (τ : Type u) (ν : Type v) where
  value : ν
  seenAt : τ
  present : Bool
deriving DecidableEq

/-- What a report says of a subject. -/
structure Report (τ : Type u) (ν : Type v) where
  reportedAt : τ
  sighting : Option ν
  excludes : ν → Bool

/-- The report proves that the subject is gone, where it was seen with the value
at the time or before. -/
def Report.disproves (report : Report τ ν) (value : ν) (seenAt : τ) : Bool :=
  report.sighting.isNone && report.excludes value && decide (seenAt ≤ report.reportedAt)

/-- One report is taken in. -/
def absorb (current : Option (Entry τ ν)) (report : Report τ ν) : Option (Entry τ ν) :=
  match report.sighting, current with
  | some value, none => some ⟨value, report.reportedAt, true⟩
  | some value, some entry =>
    if entry.seenAt ≤ report.reportedAt then some ⟨value, report.reportedAt, true⟩
    else some entry
  | none, none => none
  | none, some entry =>
    some { entry with
      present := entry.present && !report.disproves entry.value entry.seenAt }

/-- Reports are taken in as they arrive. -/
def absorbAll (start : Option (Entry τ ν)) (reports : List (Report τ ν)) : Option (Entry τ ν) :=
  reports.foldl absorb start

@[simp] theorem absorbAll_nil (start : Option (Entry τ ν)) : absorbAll start [] = start := rfl

@[simp] theorem absorbAll_cons (start : Option (Entry τ ν)) (report : Report τ ν)
    (rest : List (Report τ ν)) :
    absorbAll start (report :: rest) = absorbAll (absorb start report) rest := rfl

theorem absorbAll_append (start : Option (Entry τ ν)) (first second : List (Report τ ν)) :
    absorbAll start (first ++ second) = absorbAll (absorbAll start first) second :=
  List.foldl_append

/-- The entry was last seen at the time or before. -/
def SeenBy (current : Option (Entry τ ν)) (time : τ) : Prop :=
  ∀ entry ∈ current, entry.seenAt ≤ time

variable {report : Report τ ν} {reports : List (Report τ ν)}

/-- A sighting that is not older than the entry replaces it. -/
theorem absorb_sighting {current : Option (Entry τ ν)} {value : ν}
    (sighted : report.sighting = some value) (newer : SeenBy current report.reportedAt) :
    absorb current report = some ⟨value, report.reportedAt, true⟩ := by
  cases current with
  | none => simp [absorb, sighted]
  | some entry => simp [absorb, sighted, newer entry rfl]

/-- A report whose sighting is older than the entry can only remove it. -/
theorem absorb_older {entry : Entry τ ν}
    (older : report.sighting.isSome → report.reportedAt < entry.seenAt) :
    absorb (some entry) report = some { entry with
      present := entry.present && !report.disproves entry.value entry.seenAt } := by
  cases sighted : report.sighting with
  | none => simp [absorb, sighted]
  | some value =>
    have late : ¬ entry.seenAt ≤ report.reportedAt := not_le.mpr (older (by simp [sighted]))
    simp [absorb, sighted, late, Report.disproves]

/-- Reports whose sightings are all older than the entry keep its value and its
time; it stays present unless one of them disproves it. -/
theorem absorbAll_older {entry : Entry τ ν}
    (older : ∀ report ∈ reports, report.sighting.isSome → report.reportedAt < entry.seenAt) :
    absorbAll (some entry) reports = some { entry with
      present := entry.present &&
        !reports.any fun report => report.disproves entry.value entry.seenAt } := by
  induction reports generalizing entry with
  | nil => simp
  | cons report rest inductionHypothesis =>
    have first := absorb_older (older report (List.mem_cons_self ..))
    have later : ∀ other ∈ rest, other.sighting.isSome → other.reportedAt < entry.seenAt :=
      fun other member => older other (List.mem_cons_of_mem _ member)
    have settled := @inductionHypothesis { entry with
      present := entry.present && !report.disproves entry.value entry.seenAt } later
    rw [absorbAll_cons, first, settled]
    simp [Bool.and_assoc]

/-- Without a sighting, nothing is ever kept of an unknown subject. -/
theorem absorbAll_unseen (unseen : ∀ report ∈ reports, report.sighting = none) :
    absorbAll none reports = none := by
  induction reports with
  | nil => rfl
  | cons report rest inductionHypothesis =>
    have first : absorb none report = none := by
      simp [absorb, unseen report (List.mem_cons_self ..)]
    rw [absorbAll_cons, first]
    exact inductionHypothesis fun other member => unseen other (List.mem_cons_of_mem _ member)

/-- One report leaves an entry that was last seen by the time of its sightings. -/
theorem seenBy_absorb {current : Option (Entry τ ν)} {time : τ} (before : SeenBy current time)
    (bounded : report.sighting.isSome → report.reportedAt ≤ time) :
    SeenBy (absorb current report) time := by
  intro entry kept
  cases sighted : report.sighting with
  | none =>
    cases current with
    | none => simp [absorb, sighted] at kept
    | some old =>
      obtain rfl : _ = entry := by simpa [absorb, sighted] using kept
      exact before old rfl
  | some value =>
    have inTime := bounded (by simp [sighted])
    cases current with
    | none =>
      obtain rfl : _ = entry := by simpa [absorb, sighted] using kept
      exact inTime
    | some old =>
      simp only [absorb, sighted] at kept
      split_ifs at kept with newer
      · obtain rfl : _ = entry := by simpa using kept
        exact inTime
      · obtain rfl : _ = entry := by simpa using kept
        exact before old rfl

theorem seenBy_absorbAll {start : Option (Entry τ ν)} {time : τ} (before : SeenBy start time)
    (bounded : ∀ report ∈ reports, report.sighting.isSome → report.reportedAt ≤ time) :
    SeenBy (absorbAll start reports) time := by
  induction reports generalizing start with
  | nil => exact before
  | cons report rest inductionHypothesis =>
    exact inductionHypothesis
      (seenBy_absorb before (bounded report (List.mem_cons_self ..)))
      (fun other member => bounded other (List.mem_cons_of_mem _ member))

/-- The report sights the subject, not before the entry was last seen and not
before any other of the reports. -/
structure Latest (start : Option (Entry τ ν)) (reports : List (Report τ ν))
    (report : Report τ ν) (value : ν) : Prop where
  sighted : report.sighting = some value
  newer : SeenBy start report.reportedAt
  last : ∀ other ∈ reports, other.sighting.isSome → other.reportedAt ≤ report.reportedAt

/-- What the reports after the latest sighting leave of it. -/
theorem absorbAll_latest {start : Option (Entry τ ν)} {before after : List (Report τ ν)} {value : ν}
    (latest : Latest start (before ++ report :: after) report value)
    (distinct : ((before ++ report :: after).map Report.reportedAt).Nodup) :
    absorbAll start (before ++ report :: after) = some ⟨value, report.reportedAt,
      !after.any fun other => other.disproves value report.reportedAt⟩ := by
  have seen : SeenBy (absorbAll start before) report.reportedAt :=
    seenBy_absorbAll latest.newer fun other member =>
      latest.last other (List.mem_append_left _ member)
  have older : ∀ other ∈ after, other.sighting.isSome →
      other.reportedAt < report.reportedAt := by
    intro other member sighted
    refine lt_of_le_of_ne (latest.last other (by simp [member]) sighted) fun same => ?_
    rw [List.map_append, List.map_cons, List.nodup_append] at distinct
    exact (List.nodup_cons.mp distinct.2.1).1 (same ▸ List.mem_map_of_mem member)
  rw [absorbAll_append, absorbAll_cons, absorb_sighting latest.sighted seen,
    absorbAll_older older]
  simp

/-- Either some report is the latest sighting, or the entry is newer than every
sighting, or the subject was never seen. -/
theorem latest_or_older (start : Option (Entry τ ν)) (reports : List (Report τ ν)) :
    (∃ report ∈ reports, ∃ value, Latest start reports report value) ∨
      (∃ entry, start = some entry ∧
        ∀ report ∈ reports, report.sighting.isSome → report.reportedAt < entry.seenAt) ∨
      (start = none ∧ ∀ report ∈ reports, report.sighting = none) := by
  let sightings := reports.filter fun report => report.sighting.isSome
  cases found : lastByKey Report.reportedAt sightings with
  | none =>
    have unseen : ∀ report ∈ reports, report.sighting = none := by
      intro report member
      have empty : sightings = [] := lastByKey_eq_none.mp found
      simpa using List.filter_eq_nil_iff.mp empty report member
    cases start with
    | none => exact Or.inr (Or.inr ⟨rfl, unseen⟩)
    | some entry =>
      refine Or.inr (Or.inl ⟨entry, rfl, fun report member sighted => ?_⟩)
      simp [unseen report member] at sighted
  | some report =>
    obtain ⟨member, greatest⟩ := lastByKey_eq_some found
    obtain ⟨listed, sighted⟩ := List.mem_filter.mp member
    obtain ⟨value, sight⟩ := Option.isSome_iff_exists.mp sighted
    have last : ∀ other ∈ reports, other.sighting.isSome →
        other.reportedAt ≤ report.reportedAt :=
      fun other otherMember seen => greatest other (List.mem_filter.mpr ⟨otherMember, seen⟩)
    by_cases newer : SeenBy start report.reportedAt
    · exact Or.inl ⟨report, listed, value, sight, newer, last⟩
    · cases start with
      | none => exact absurd (by simp [SeenBy]) newer
      | some entry =>
        have late : report.reportedAt < entry.seenAt := by simpa [SeenBy] using newer
        exact Or.inr (Or.inl ⟨entry, rfl, fun other otherMember seen =>
          (last other otherMember seen).trans_lt late⟩)

/-- A proof that the latest sighting is gone, where there is one, arrives after
the sighting at least once. -/
def DisprovedLast (start : Option (Entry τ ν)) (reports : List (Report τ ν)) : Prop :=
  ∀ before report after value, reports = before ++ report :: after →
    Latest start reports report value →
    (∃ other ∈ reports, other.disproves value report.reportedAt) →
    ∃ other ∈ after, other.disproves value report.reportedAt

omit [LinearOrder τ] in
/-- A report of distinct times stands at one place only. -/
theorem split_unique {before after other rest : List (Report τ ν)}
    (distinct : ((before ++ report :: after).map Report.reportedAt).Nodup)
    (same : before ++ report :: after = other ++ report :: rest) : rest = after := by
  induction before generalizing other with
  | nil =>
    cases other with
    | nil => simpa using same.symm
    | cons first others =>
      rw [List.nil_append, List.cons_append, List.cons.injEq] at same
      obtain ⟨rfl, inside⟩ := same
      have again : report ∈ after := by simp [inside]
      exact absurd (List.mem_map_of_mem again) (List.nodup_cons.mp distinct).1
  | cons head before inductionHypothesis =>
    cases other with
    | nil =>
      rw [List.nil_append, List.cons_append, List.cons.injEq] at same
      obtain ⟨rfl, -⟩ := same
      have again : head ∈ before ++ head :: after := by simp
      exact absurd (List.mem_map_of_mem again) (List.nodup_cons.mp distinct).1
    | cons first others =>
      rw [List.cons_append, List.cons_append, List.cons.injEq] at same
      exact inductionHypothesis (List.nodup_cons.mp distinct).2 same.2

/-- In chronological order every proof against the latest sighting arrives after it. -/
theorem disprovedLast_of_sorted (start : Option (Entry τ ν))
    (ascending : reports.Pairwise fun first second => first.reportedAt ≤ second.reportedAt)
    (distinct : (reports.map Report.reportedAt).Nodup) : DisprovedLast start reports := by
  rintro before report after value rfl latest ⟨other, member, disproves⟩
  refine ⟨other, ?_, disproves⟩
  have late : report.reportedAt ≤ other.reportedAt := by
    simp only [Report.disproves, Bool.and_eq_true, decide_eq_true_eq] at disproves
    exact disproves.2
  have unseen : other.sighting = none := by
    simp only [Report.disproves, Bool.and_eq_true, Option.isNone_iff_eq_none] at disproves
    exact disproves.1.1
  rcases List.mem_append.mp member with early | rest
  · have split := List.pairwise_append.mp ascending
    have same := le_antisymm (split.2.2 other early report (List.mem_cons_self ..)) late
    rw [List.map_append, List.nodup_append] at distinct
    exact absurd same (distinct.2.2 _ (List.mem_map_of_mem early) _
      (List.mem_map_of_mem (List.mem_cons_self ..)))
  · rcases List.mem_cons.mp rest with rfl | later
    · simp [latest.sighted] at unseen
    · exact later

section Distinct

variable {start : Option (Entry τ ν)} {reports : List (Report τ ν)}

/-- The latest sighting is one report, at one place. -/
theorem Latest.unique {first second : Report τ ν} {value other : ν}
    (distinct : (reports.map Report.reportedAt).Nodup) (firstMember : first ∈ reports)
    (secondMember : second ∈ reports) (firstLatest : Latest start reports first value)
    (secondLatest : Latest start reports second other) : first = second ∧ value = other := by
  have forwards := secondLatest.last first firstMember (by simp [firstLatest.sighted])
  have backwards := firstLatest.last second secondMember (by simp [secondLatest.sighted])
  obtain rfl := List.inj_on_of_nodup_map distinct firstMember secondMember
    (le_antisymm forwards backwards)
  exact ⟨rfl, Option.some.inj (firstLatest.sighted.symm.trans secondLatest.sighted)⟩

/-- Where the latest sighting stands is known, the condition speaks of that place. -/
theorem disprovedLast_iff {before after : List (Report τ ν)} {report : Report τ ν} {value : ν}
    (distinct : ((before ++ report :: after).map Report.reportedAt).Nodup)
    (latest : Latest start (before ++ report :: after) report value) :
    DisprovedLast start (before ++ report :: after) ↔
      ((before ++ report :: after).any (fun other => other.disproves value report.reportedAt) →
        after.any fun other => other.disproves value report.reportedAt) := by
  simp only [List.any_eq_true]
  constructor
  · intro disprovedLast
    exact disprovedLast before report after value rfl latest
  · intro here front found rest seen split foundLatest
    have foundMember : found ∈ before ++ report :: after := by rw [split]; simp
    obtain ⟨rfl, rfl⟩ := latest.unique distinct (by simp) foundMember foundLatest
    rwa [split_unique distinct split]

/-- The latest sighting does not depend on the arrangement of the reports. -/
theorem Latest.of_perm {arranged : List (Report τ ν)} {report : Report τ ν} {value : ν}
    (rearranged : arranged.Perm reports) (latest : Latest start reports report value) :
    Latest start arranged report value where
  sighted := latest.sighted
  newer := latest.newer
  last other member := latest.last other (rearranged.mem_iff.mp member)

end Distinct

omit [LinearOrder τ] in
theorem any_of_perm {first second : List (Report τ ν)} (arranged : first.Perm second)
    (holds : Report τ ν → Bool) : first.any holds = second.any holds := by
  rw [Bool.eq_iff_iff, List.any_eq_true, List.any_eq_true]
  simp only [arranged.mem_iff]

omit [LinearOrder τ] in
theorem any_of_any_after {before after : List (Report τ ν)} {report : Report τ ν}
    {holds : Report τ ν → Bool} (found : after.any holds) :
    (before ++ report :: after).any holds := by
  simp [found]

/-- Reports of distinct times leave what they leave in chronological order
exactly where a proof against the latest sighting arrives after it. -/
theorem absorbAll_eq_sorted {start : Option (Entry τ ν)} {reports : List (Report τ ν)}
    (distinct : (reports.map Report.reportedAt).Nodup) :
    absorbAll start reports = absorbAll start (sortByKey Report.reportedAt reports) ↔
      DisprovedLast start reports := by
  have arranged := sortByKey_perm Report.reportedAt reports
  have sortedDistinct : ((sortByKey Report.reportedAt reports).map Report.reportedAt).Nodup :=
    (arranged.map _).nodup_iff.mpr distinct
  have sortedLast := disprovedLast_of_sorted start
    (sortByKey_ascending Report.reportedAt reports) sortedDistinct
  rcases latest_or_older start reports with
    ⟨report, member, value, latest⟩ | ⟨entry, rfl, older⟩ | ⟨rfl, unseen⟩
  · -- the sighting stands in both arrangements; only what comes after it differs
    have sortedLatest := latest.of_perm arranged
    obtain ⟨front, back, sorted⟩ := List.append_of_mem (arranged.mem_iff.mpr member)
    obtain ⟨before, after, rfl⟩ := List.append_of_mem member
    rw [sorted] at arranged sortedDistinct sortedLast sortedLatest ⊢
    rw [absorbAll_latest latest distinct, absorbAll_latest sortedLatest sortedDistinct,
      disprovedLast_iff distinct latest, ← any_of_perm arranged]
    have proved := (disprovedLast_iff sortedDistinct sortedLatest).mp sortedLast
    rw [Option.some.injEq, Entry.mk.injEq, Bool.not_inj_iff]
    simp only [true_and]
    constructor
    · intro same disproved
      exact same ▸ proved disproved
    · intro kept
      rw [Bool.eq_iff_iff]
      constructor
      · intro disproved
        apply proved
        rw [any_of_perm arranged]
        exact any_of_any_after disproved
      · exact fun disproved => kept (any_of_any_after disproved)
  · have sortedOlder : ∀ report ∈ sortByKey Report.reportedAt reports,
        report.sighting.isSome → report.reportedAt < entry.seenAt :=
      fun report member => older report (arranged.mem_iff.mp member)
    rw [absorbAll_older older, absorbAll_older sortedOlder, any_of_perm arranged]
    refine ⟨fun _ before report after value split latest => ?_, fun _ => rfl⟩
    have listed : report ∈ reports := by rw [split]; simp
    have late := older report listed (by simp [latest.sighted])
    exact absurd (latest.newer entry rfl) (not_le.mpr late)
  · have sortedUnseen : ∀ report ∈ sortByKey Report.reportedAt reports, report.sighting = none :=
      fun report member => unseen report (arranged.mem_iff.mp member)
    rw [absorbAll_unseen unseen, absorbAll_unseen sortedUnseen]
    refine ⟨fun _ before report after value split latest => ?_, fun _ => rfl⟩
    have listed : report ∈ reports := by rw [split]; simp
    exact absurd latest.sighted (by simp [unseen report listed])

end FinopsAnalytics.DelayedReports
