import FinopsAnalytics.CalendarMonths
import FinopsAnalytics.CycleInstants
import FinopsAnalytics.HalfOpenIntervals

/-!
# The periods of a policy

The months tile the dates, and so do the runs of a fixed number of days on both sides
of an anchor. A zone whose midnights follow one another carries the tiling over to the
instants. The clock of the host ends with the year 9999: a period that it cannot hold
is refused.
-/

namespace FinopsAnalytics.CycleTilings

open OpportunityRecords CivilCalendar OpportunityHistoryCycles CycleInstants CycleHistories
open HalfOpenIntervals Fallible

section Dates

/-- The months tile the dates. -/
def months : Tiling Date where
  start date := monthStart (monthIndex date)
  stop date := monthStart (monthIndex date + 1)
  begun date := (civil_counted date).2.2.1
  unended date := (civil_counted date).2.2.2.1
  shared {date other} begun unended := by
    have same : monthIndex other = monthIndex date := monthIndex_eq begun unended
    rw [same]
    exact ⟨rfl, rfl⟩

/-- The bounds of the month of a date are those of the tiling. -/
theorem monthBounds_civil (date : Date) :
    monthBounds (civil date).1 (civil date).2.1 = (months.start date, months.stop date) := by
  obtain ⟨least, greatest, -⟩ := civil_counted date
  refine Prod.ext ?_ (monthBounds_stop date)
  have year : monthIndex date / 12 = (civil date).1 := by
    unfold monthIndex
    omega
  have month : monthIndex date % 12 + 1 = (civil date).2.1 := by
    unfold monthIndex
    omega
  change dayNumber (civil date).1 (civil date).2.1 1 = monthStart (monthIndex date)
  rw [monthStart, year, month]

/-- Runs of some days, one of which starts at an anchor, tile the dates. -/
def runsOfDays (anchor length : ℤ) (positive : 0 < length) : Tiling ℤ where
  start date := anchor + (date - anchor) / length * length
  stop date := anchor + (date - anchor) / length * length + length
  begun date := by
    have below : (date - anchor) / length * length ≤ date - anchor :=
      Int.ediv_mul_le _ positive.ne'
    change (_ : ℤ) ≤ _
    omega
  unended date := by
    have above : date - anchor < ((date - anchor) / length + 1) * length :=
      Int.lt_ediv_add_one_mul_self _ positive
    rw [add_mul, one_mul] at above
    change (_ : ℤ) < _
    omega
  shared {date other} begun unended := by
    have lower : (date - anchor) / length ≤ (other - anchor) / length := by
      rw [Int.le_ediv_iff_mul_le positive]
      change (_ : ℤ) ≤ _ at begun
      omega
    have upper : (other - anchor) / length < (date - anchor) / length + 1 := by
      rw [Int.ediv_lt_iff_lt_mul positive, add_mul, one_mul]
      change (_ : ℤ) < _ at unended
      omega
    have same : (other - anchor) / length = (date - anchor) / length :=
      le_antisymm (Int.lt_add_one_iff.mp upper) lower
    rw [same]
    exact ⟨rfl, rfl⟩

end Dates

section Zones

/-- A clock reads a time of its date. -/
theorem midnight_dateOf (clock : WallClock) (date : Date) :
    (midnight date ≤ clock ↔ date ≤ dateOf clock) ∧
      (clock < midnight date ↔ dateOf clock < date) := by
  have positive : (0 : ℤ) < microsecondsPerDay := by decide
  unfold midnight dateOf
  exact ⟨(Int.le_ediv_iff_mul_le positive).symm, (Int.ediv_lt_iff_lt_mul positive).symm⟩

variable [TimeZones]

/-- An instant has a local date exactly when it lies between the midnights of the date
and of the next one, and the midnights follow one another. -/
structure DatesBetweenMidnights (timezone : String) : Prop where
  ordered : Monotone fun date : ℤ => TimeZones.utc timezone (midnight date)
  dated : ∀ (timestamp : Instant) (date : ℤ),
    dateOf (TimeZones.local_ timezone timestamp) = date ↔
      TimeZones.utc timezone (midnight date) ≤ timestamp ∧
        timestamp < TimeZones.utc timezone (midnight (date + 1))

/-- The midnight of a date is the earliest instant with this date or a later one. -/
theorem DatesBetweenMidnights.forward {timezone : String}
    (zone : DatesBetweenMidnights timezone) :
    GaloisConnection (fun date : ℤ => TimeZones.utc timezone (midnight date))
      (fun timestamp : ℤ => dateOf (TimeZones.local_ timezone timestamp)) := by
  intro date timestamp
  obtain ⟨begun, unended⟩ := (zone.dated timestamp _).mp rfl
  constructor
  · intro reached
    by_contra earlier
    have next : dateOf (TimeZones.local_ timezone timestamp) + 1 ≤ date := not_le.mp earlier
    exact absurd ((zone.ordered next).trans reached) unended.not_ge
  · intro dated
    exact (zone.ordered dated).trans begun

end Zones

section Periods

/-- A policy of months, or of runs of at least one day from an anchor on. -/
def Regular (policy : OpportunityManagementPolicy) : Prop :=
  policy.cycleMode = .fixedDays →
    1 ≤ policy.cycleLengthDays ∧ policy.cycleAnchorDate.isSome = true

instance (policy : OpportunityManagementPolicy) : Decidable (Regular policy) :=
  inferInstanceAs (Decidable (_ → _))

/-- The first date of a period and the one after its last, from the date of an instant. -/
def periodDates (policy : OpportunityManagementPolicy) (date : Date) : Date × Date :=
  match policy.cycleMode with
  | .calendarMonth => monthBounds (civil date).1 (civil date).2.1
  | .fixedDays =>
    let anchor := policy.cycleAnchorDate.getD 0
    let start := anchor + (date - anchor) / policy.cycleLengthDays * policy.cycleLengthDays
    (start, start + policy.cycleLengthDays)

/-- The dates of the periods of a regular policy are those of a tiling. -/
theorem periodDates_tile {policy : OpportunityManagementPolicy} (regular : Regular policy) :
    ∃ tiling : Tiling ℤ, ∀ date, periodDates policy date = (tiling.start date, tiling.stop date) := by
  cases mode : policy.cycleMode with
  | calendarMonth =>
    refine ⟨months, fun date => ?_⟩
    rw [periodDates, mode]
    exact monthBounds_civil date
  | fixedDays =>
    have positive : (0 : ℤ) < policy.cycleLengthDays := by exact_mod_cast (regular mode).1
    refine ⟨runsOfDays (policy.cycleAnchorDate.getD 0) policy.cycleLengthDays positive,
      fun date => ?_⟩
    rw [periodDates, mode]
    rfl

variable [TimeZones]

/-- The local reading of an instant, the midnights of its period and their instants are
all within the years. -/
def Holdable (policy : OpportunityManagementPolicy) (timestamp : Instant) : Prop :=
  let clock := TimeZones.local_ policy.cycleTimezone timestamp
  let (start, stop) := periodDates policy (dateOf clock)
  InYears clock ∧ InYears (midnight start) ∧ InYears (midnight stop) ∧
    InYears (TimeZones.utc policy.cycleTimezone (midnight start)) ∧
    InYears (TimeZones.utc policy.cycleTimezone (midnight stop))

omit [TimeZones] in
theorem held_eq_ok {raised : ServiceError} {clock result : WallClock} :
    held raised clock = .ok result ↔ InYears clock ∧ result = clock := by
  unfold held
  split_ifs with inside
  · rw [Except.ok.injEq, eq_comm]
    exact (and_iff_right inside).symm
  · exact iff_of_false (fun same => nomatch same) fun both => inside both.1

/-- What the calendar of the host can hold it returns, with the period of the dates. -/
theorem cycleBounds_eq_ok {policy : OpportunityManagementPolicy} (regular : Regular policy)
    {timestamp start stop : Instant} :
    (∃ label, cycleBounds policy timestamp = .ok (start, stop, label)) ↔
      Holdable policy timestamp ∧
        (start, stop) = (periodDates policy
          (dateOf (TimeZones.local_ policy.cycleTimezone timestamp))).map
            (fun date => TimeZones.utc policy.cycleTimezone (midnight date))
            fun date => TimeZones.utc policy.cycleTimezone (midnight date) := by
  -- both modes build the same datetimes, from their own dates
  unfold cycleBounds Holdable periodDates
  cases mode : policy.cycleMode with
  | calendarMonth =>
    simp only [calendarBounds, bind_eq_ok, held_eq_ok]
    constructor
    · rintro ⟨label, clock, ⟨reading, rfl⟩, _, ⟨first, rfl⟩, _, ⟨last, rfl⟩, _, ⟨begun, rfl⟩, _,
        ⟨ended, rfl⟩, result⟩
      cases result
      exact ⟨⟨reading, first, last, begun, ended⟩, rfl⟩
    · rintro ⟨⟨reading, first, last, begun, ended⟩, same⟩
      cases same
      exact ⟨_, _, ⟨reading, rfl⟩, _, ⟨first, rfl⟩, _, ⟨last, rfl⟩, _, ⟨begun, rfl⟩, _,
        ⟨ended, rfl⟩, rfl⟩
  | fixedDays =>
    obtain ⟨anchor, anchored⟩ := Option.isSome_iff_exists.mp (regular mode).2
    simp only [anchored, Option.getD_some, fixedBounds, bind_eq_ok, held_eq_ok]
    constructor
    · rintro ⟨label, clock, ⟨reading, rfl⟩, _, ⟨first, rfl⟩, _, ⟨last, rfl⟩, _, ⟨begun, rfl⟩, _,
        ⟨ended, rfl⟩, result⟩
      cases result
      exact ⟨⟨reading, first, last, begun, ended⟩, rfl⟩
    · rintro ⟨⟨reading, first, last, begun, ended⟩, same⟩
      cases same
      exact ⟨_, _, ⟨reading, rfl⟩, _, ⟨first, rfl⟩, _, ⟨last, rfl⟩, _, ⟨begun, rfl⟩, _,
        ⟨ended, rfl⟩, rfl⟩

/-- The periods of a policy tile the instants, as far as the calendar of the host holds
them. -/
structure PeriodsTile (policy : OpportunityManagementPolicy) : Prop where
  returns : ∀ timestamp, (∃ bounds, cycleBounds policy timestamp = .ok bounds) ↔
    Holdable policy timestamp
  contains : ∀ timestamp start stop label,
    cycleBounds policy timestamp = .ok (start, stop, label) →
      start ≤ timestamp ∧ timestamp < stop
  apart : ∀ first firstStart firstStop firstLabel second secondStart secondStop secondLabel,
    cycleBounds policy first = .ok (firstStart, firstStop, firstLabel) →
      cycleBounds policy second = .ok (secondStart, secondStop, secondLabel) →
        (firstStart = secondStart ∧ firstStop = secondStop) ∨ firstStop ≤ secondStart ∨
          secondStop ≤ firstStart
  follows : ∀ timestamp start stop label nextStart nextStop nextLabel,
    cycleBounds policy timestamp = .ok (start, stop, label) →
      cycleBounds policy stop = .ok (nextStart, nextStop, nextLabel) → nextStart = stop

theorem periods_tile {policy : OpportunityManagementPolicy}
    (zone : DatesBetweenMidnights policy.cycleTimezone) (regular : Regular policy) :
    PeriodsTile policy := by
  obtain ⟨dates, isPeriod⟩ := periodDates_tile regular
  have bounds {timestamp start stop : Instant} {label : String}
      (returned : cycleBounds policy timestamp = .ok (start, stop, label)) :
      start = (dates.comap zone.forward).start timestamp ∧
        stop = (dates.comap zone.forward).stop timestamp := by
    obtain ⟨-, same⟩ := (cycleBounds_eq_ok regular).mp ⟨label, returned⟩
    rw [isPeriod] at same
    exact Prod.mk.inj same
  refine ⟨fun timestamp => ?_, ?_, ?_, ?_⟩
  · constructor
    · rintro ⟨⟨start, stop, label⟩, returned⟩
      exact ((cycleBounds_eq_ok regular).mp ⟨label, returned⟩).1
    · intro holdable
      obtain ⟨label, returned⟩ := (cycleBounds_eq_ok regular).mpr ⟨holdable, rfl⟩
      exact ⟨_, returned⟩
  · intro timestamp start stop label returned
    obtain ⟨rfl, rfl⟩ := bounds returned
    exact ⟨Tiling.begun _ timestamp, Tiling.unended _ timestamp⟩
  · intro first firstStart firstStop firstLabel second secondStart secondStop secondLabel
      firstReturned secondReturned
    obtain ⟨rfl, rfl⟩ := bounds firstReturned
    obtain ⟨rfl, rfl⟩ := bounds secondReturned
    exact Tiling.eq_or_disjoint _ first second
  · intro timestamp start stop label nextStart nextStop nextLabel returned nextReturned
    obtain ⟨rfl, rfl⟩ := bounds returned
    obtain ⟨rfl, -⟩ := bounds nextReturned
    exact Tiling.start_stop _ timestamp

end Periods

section Sample

attribute [local instance] utcOnly

/-- A zone that knows UTC only. -/
theorem utcOnly_dates : DatesBetweenMidnights "UTC" := by
  refine ⟨fun first second later => ?_, fun timestamp date => ?_⟩
  · exact Int.mul_le_mul_of_nonneg_right later (by decide)
  · obtain ⟨begun, -⟩ := midnight_dateOf timestamp date
    obtain ⟨-, unended⟩ := midnight_dateOf timestamp (date + 1)
    change dateOf timestamp = date ↔ midnight date ≤ timestamp ∧ timestamp < midnight (date + 1)
    rw [begun, unended]
    constructor
    · rintro rfl
      exact ⟨le_rfl, Int.lt_succ _⟩
    · rintro ⟨reached, before⟩
      exact le_antisymm (Int.lt_add_one_iff.mp before) reached

/-- The period of a date before the anchor, and the months around a February. -/
theorem sample_periods_tile :
    cycleBounds tenDays (midnight (dayNumber 2026 1 20)) =
        .ok (midnight (dayNumber 2026 1 16), midnight (dayNumber 2026 1 26),
          "2026-01-16 · 10 dias") ∧
      PeriodsTile tenDays ∧ PeriodsTile monthly :=
  ⟨by decide +kernel, periods_tile utcOnly_dates (by decide),
    periods_tile utcOnly_dates (by decide)⟩

/-- The period of an instant in the last month that a datetime can hold would end in the
year 10000: the call raises. -/
theorem last_month_raises :
    DatesBetweenMidnights "UTC" ∧ Regular monthly ∧
      InYears (midnight (dayNumber 9999 12 15)) ∧
      cycleBounds monthly (midnight (dayNumber 9999 12 15)) =
        .error (.value "year 10000 is out of range") :=
  ⟨utcOnly_dates, by decide, by decide +kernel, by decide +kernel⟩

end Sample

end FinopsAnalytics.CycleTilings
