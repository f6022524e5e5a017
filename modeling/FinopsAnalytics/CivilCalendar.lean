import FinopsAnalytics.Clock
import Mathlib.Data.Nat.Notation
import Mathlib.Tactic.IntervalCases
import Mathlib.Tactic.Ring

/-!
# The Gregorian calendar

A date is its number of days since 1970-01-01, and a wall clock is a number of
microseconds since midnight of that day. A month is counted from January of the
year 0. The conversions count years from March, so that a leap day comes last.
-/

namespace FinopsAnalytics.CivilCalendar

/-- Days since 1970-01-01. -/
abbrev Date := ℤ

/-- A wall clock in microseconds since 1970-01-01T00:00. -/
abbrev WallClock := ℤ

def microsecondsPerDay : ℤ := 86400000000

/-- `datetime.date`. -/
def dateOf (clock : WallClock) : Date := clock / microsecondsPerDay

/-- `datetime.combine(date, time.min)`. -/
def midnight (date : Date) : WallClock := date * microsecondsPerDay

/-- The number of a day. -/
def dayNumber (year month day : ℤ) : Date :=
  let shifted := if month ≤ 2 then year - 1 else year
  let era := shifted / 400
  let yearOfEra := shifted - era * 400
  let dayOfYear := (153 * (month + if 2 < month then -3 else 9) + 2) / 5 + day - 1
  let dayOfEra := yearOfEra * 365 + yearOfEra / 4 - yearOfEra / 100 + dayOfYear
  era * 146097 + dayOfEra - 719468

/-- Year, month and day of a number. -/
def civil (date : Date) : ℤ × ℤ × ℤ :=
  let shifted := date + 719468
  let era := shifted / 146097
  let dayOfEra := shifted - era * 146097
  let yearOfEra :=
    (dayOfEra - dayOfEra / 1460 + dayOfEra / 36524 - dayOfEra / 146096) / 365
  let dayOfYear := dayOfEra - (365 * yearOfEra + yearOfEra / 4 - yearOfEra / 100)
  let shiftedMonth := (5 * dayOfYear + 2) / 153
  let day := dayOfYear - (153 * shiftedMonth + 2) / 5 + 1
  let month := if shiftedMonth < 10 then shiftedMonth + 3 else shiftedMonth - 9
  let year := yearOfEra + era * 400
  (if month ≤ 2 then year + 1 else year, month, day)

/-- The first day of a month and of the month after it. -/
def monthBounds (year month : ℤ) : Date × Date :=
  (dayNumber year month 1,
    if month = 12 then dayNumber (year + 1) 1 1 else dayNumber year (month + 1) 1)

example : civil 0 = (1970, 1, 1) ∧ civil 11016 = (2000, 2, 29) ∧ dayNumber 2000 2 29 = 11016 := by
  decide

/-- The days before a year of an era. -/
def daysBefore (yearOfEra : ℤ) : ℤ := 365 * yearOfEra + yearOfEra / 4 - yearOfEra / 100

/-- A day of an era lies in the year that the conversion finds. The century of
the day and that of the year may differ, so both are told apart. -/
theorem yearOfEra_contains {dayOfEra yearOfEra : ℤ} (first : 0 ≤ dayOfEra)
    (last : dayOfEra < 146097) (year : yearOfEra =
      (dayOfEra - dayOfEra / 1460 + dayOfEra / 36524 - dayOfEra / 146096) / 365) :
    0 ≤ yearOfEra ∧ yearOfEra ≤ 399 ∧ daysBefore yearOfEra ≤ dayOfEra ∧
      (yearOfEra < 399 → dayOfEra < daysBefore (yearOfEra + 1)) := by
  have years : 0 ≤ yearOfEra ∧ yearOfEra ≤ 399 := by omega
  obtain ⟨dayCentury, isDayCentury⟩ : ∃ century, dayOfEra / 36524 = century := ⟨_, rfl⟩
  have dayCenturies : 0 ≤ dayCentury ∧ dayCentury ≤ 4 := by omega
  obtain ⟨earliest, latest⟩ := dayCenturies
  unfold daysBefore
  refine ⟨years.1, years.2, ?_, fun _ => ?_⟩
  · obtain ⟨century, isCentury⟩ : ∃ century, yearOfEra / 100 = century := ⟨_, rfl⟩
    have centuries : 0 ≤ century ∧ century ≤ 3 := by omega
    obtain ⟨lowest, highest⟩ := centuries
    interval_cases dayCentury <;> interval_cases century <;> omega
  · obtain ⟨century, isCentury⟩ : ∃ century, (yearOfEra + 1) / 100 = century := ⟨_, rfl⟩
    have centuries : 0 ≤ century ∧ century ≤ 3 := by omega
    obtain ⟨lowest, highest⟩ := centuries
    interval_cases dayCentury <;> interval_cases century <;> omega

/-- The first day of a month of a year that starts in March. -/
theorem dayNumber_first (era shiftedMonth : ℤ) {yearOfEra month year : ℤ} (low : 0 ≤ yearOfEra)
    (high : yearOfEra ≤ 399)
    (shifted : 0 ≤ shiftedMonth ∧ shiftedMonth < 10 ∧ month = shiftedMonth + 3 ∧
        year = yearOfEra + era * 400 ∨
      10 ≤ shiftedMonth ∧ shiftedMonth < 12 ∧ month = shiftedMonth - 9 ∧
        year = yearOfEra + era * 400 + 1) :
    dayNumber year month 1 =
      era * 146097 + daysBefore yearOfEra + (153 * shiftedMonth + 2) / 5 - 719468 := by
  have sameEra : (yearOfEra + era * 400) / 400 = era := by omega
  have sameYear : yearOfEra + era * 400 - era * 400 = yearOfEra := by omega
  have yearShift : (if month ≤ 2 then year - 1 else year) = yearOfEra + era * 400 := by
    rcases shifted with ⟨_, _, isMonth, isYear⟩ | ⟨_, _, isMonth, isYear⟩
    · rw [if_neg (by omega), isYear]
    · rw [if_pos (by omega), isYear, add_sub_cancel_right]
  have monthShift : month + (if 2 < month then -3 else 9) = shiftedMonth := by
    rcases shifted with ⟨_, _, isMonth, isYear⟩ | ⟨_, _, isMonth, isYear⟩
    · rw [if_pos (by omega)]
      omega
    · rw [if_neg (by omega)]
      omega
  simp only [dayNumber, yearShift, monthShift, sameEra, sameYear, daysBefore]
  ring

/-- The months from March on. -/
theorem civil_months (date : ℤ) : ∃ era yearOfEra dayOfYear shiftedMonth : ℤ,
    0 ≤ yearOfEra ∧ yearOfEra ≤ 399 ∧
      date = era * 146097 + daysBefore yearOfEra + dayOfYear - 719468 ∧
      (yearOfEra < 399 → daysBefore yearOfEra + dayOfYear < daysBefore (yearOfEra + 1)) ∧
      (yearOfEra = 399 → daysBefore yearOfEra + dayOfYear < 146097) ∧
      0 ≤ dayOfYear ∧ (5 * dayOfYear + 2) / 153 = shiftedMonth ∧ shiftedMonth ≤ 11 ∧
      civil date = (if shiftedMonth < 10 then yearOfEra + era * 400
        else yearOfEra + era * 400 + 1,
        if shiftedMonth < 10 then shiftedMonth + 3 else shiftedMonth - 9,
        dayOfYear - (153 * shiftedMonth + 2) / 5 + 1) := by
  obtain ⟨era, isEra⟩ : ∃ era, (date + 719468) / 146097 = era := ⟨_, rfl⟩
  obtain ⟨dayOfEra, isDayOfEra⟩ : ∃ day, date + 719468 - era * 146097 = day := ⟨_, rfl⟩
  obtain ⟨yearOfEra, isYear⟩ : ∃ year,
      (dayOfEra - dayOfEra / 1460 + dayOfEra / 36524 - dayOfEra / 146096) / 365 = year := ⟨_, rfl⟩
  obtain ⟨dayOfYear, isDayOfYear⟩ : ∃ day, dayOfEra - daysBefore yearOfEra = day := ⟨_, rfl⟩
  obtain ⟨shiftedMonth, isMonth⟩ : ∃ month, (5 * dayOfYear + 2) / 153 = month := ⟨_, rfl⟩
  have ofEra : 0 ≤ dayOfEra ∧ dayOfEra < 146097 := by omega
  obtain ⟨low, high, begun, unended⟩ := yearOfEra_contains ofEra.1 ofEra.2 isYear.symm
  have yearLength : yearOfEra < 399 → daysBefore (yearOfEra + 1) ≤ daysBefore yearOfEra + 366 := by
    unfold daysBefore
    omega
  have lastYear : yearOfEra = 399 → daysBefore yearOfEra = 145731 := by
    rintro rfl
    rfl
  refine ⟨era, yearOfEra, dayOfYear, shiftedMonth, low, high, by omega, by omega, by omega,
    by omega, isMonth, by omega, ?_⟩
  have unfolded : dayOfEra - (365 * yearOfEra + yearOfEra / 4 - yearOfEra / 100) = dayOfYear :=
    isDayOfYear
  simp only [civil, isEra, isDayOfEra, isYear, unfolded, isMonth, Prod.mk.injEq, and_true]
  by_cases early : shiftedMonth < 10
  · have inYear : ¬ shiftedMonth + 3 ≤ 2 := by omega
    rw [if_pos early, if_neg inYear, if_pos early]
  · have nextYear : shiftedMonth - 9 ≤ 2 := by omega
    rw [if_neg early, if_pos nextYear, if_neg early]

/-- A date lies in the month that it is converted to. -/
theorem monthBounds_contain (date : ℤ) :
    (monthBounds (civil date).1 (civil date).2.1).1 ≤ date ∧
      date < (monthBounds (civil date).1 (civil date).2.1).2 := by
  obtain ⟨era, yearOfEra, dayOfYear, shiftedMonth, low, high, isDate, unended, last, begun, isMonth,
    december, converted⟩ := civil_months date
  rw [converted]
  change (_ : ℤ) ≤ _ ∧ (_ : ℤ) < _
  by_cases early : shiftedMonth < 10
  · simp only [monthBounds, if_pos early]
    rw [dayNumber_first era shiftedMonth low high (by omega)]
    refine ⟨by omega, ?_⟩
    by_cases twelfth : shiftedMonth + 3 = 12
    · rw [if_pos twelfth, dayNumber_first era 10 low high (by omega)]
      omega
    · rw [if_neg twelfth, dayNumber_first era (shiftedMonth + 1) low high (by omega)]
      omega
  · have notDecember : ¬ shiftedMonth - 9 = 12 := by omega
    simp only [monthBounds, if_neg early, if_neg notDecember]
    rw [dayNumber_first era shiftedMonth low high (by omega)]
    refine ⟨by omega, ?_⟩
    by_cases sameYear : shiftedMonth = 10
    · rw [dayNumber_first era 11 low high (by omega)]
      omega
    · -- March of the next year, which may open the next era
      by_cases within : yearOfEra < 399
      · have later : 0 ≤ yearOfEra + 1 ∧ yearOfEra + 1 ≤ 399 := by omega
        rw [dayNumber_first era 0 later.1 later.2 (by omega)]
        omega
      · have none : daysBefore 0 = 0 := rfl
        have first : (0 : ℤ) ≤ 0 ∧ (0 : ℤ) ≤ 399 := by omega
        rw [dayNumber_first (era + 1) 0 first.1 first.2 (by omega)]
        omega

/-- The calendar of a database session, in which `extract` reads an instant. -/
class SessionCalendar where
  dateOf : Instant → Date

/-- The session in UTC. -/
abbrev utcSession : SessionCalendar where
  dateOf := dateOf

/-- A number with at least `width` digits. -/
def padded (width : ℕ) (number : ℤ) : String :=
  let digits := toString number.natAbs
  let zeros := String.ofList (List.replicate (width - digits.length) '0')
  (if number < 0 then "-" else "") ++ zeros ++ digits

/-- `date.isoformat()`. -/
def isoformat (date : Date) : String :=
  let (year, month, day) := civil date
  padded 4 year ++ "-" ++ padded 2 month ++ "-" ++ padded 2 day

/-- `f"{month:02d}/{year}"`. -/
def monthLabel (year month : ℤ) : String := padded 2 month ++ "/" ++ toString year

end FinopsAnalytics.CivilCalendar
