import FinopsAnalytics.CivilCalendar
import Mathlib.Order.SuccPred.IntervalSucc
import Mathlib.Order.Monotone.Basic
import Mathlib.Data.Int.SuccPred

/-!
# Months of the Gregorian calendar

The months are numbered from January of the year 0. Their first days ascend, so a
date lies between the first day of its own month and that of the next one, and in
no other month.
-/

namespace FinopsAnalytics.CivilCalendar

/-- The first day of a month. -/
def monthStart (index : ℤ) : Date := dayNumber (index / 12) (index % 12 + 1) 1

/-- The month of a date. -/
def monthIndex (date : Date) : ℤ := (civil date).1 * 12 + (civil date).2.1 - 1

example : monthIndex 0 = 23640 ∧ monthStart 23641 = 31 := by decide

/-- The first day of a month by its year from March on. -/
theorem monthStart_shifted {index era yearOfEra shiftedMonth : ℤ} (low : 0 ≤ yearOfEra)
    (high : yearOfEra ≤ 399) (first : 0 ≤ shiftedMonth) (last : shiftedMonth < 12)
    (counted : index = (yearOfEra + era * 400) * 12 + shiftedMonth + 2) :
    monthStart index =
      era * 146097 + daysBefore yearOfEra + (153 * shiftedMonth + 2) / 5 - 719468 := by
  refine dayNumber_first era shiftedMonth low high ?_
  omega

/-- Every month is counted in an era, a year from March on and a month of it. -/
theorem exists_shifted (index : ℤ) : ∃ era yearOfEra shiftedMonth : ℤ,
    0 ≤ yearOfEra ∧ yearOfEra ≤ 399 ∧ 0 ≤ shiftedMonth ∧ shiftedMonth < 12 ∧
      index = (yearOfEra + era * 400) * 12 + shiftedMonth + 2 := by
  refine ⟨(index - 2) / 12 / 400, (index - 2) / 12 % 400, (index - 2) % 12, ?_⟩
  omega

/-- A month is not empty. -/
theorem monthStart_lt_next (index : ℤ) : monthStart index < monthStart (index + 1) := by
  obtain ⟨era, yearOfEra, shiftedMonth, low, high, first, last, counted⟩ := exists_shifted index
  rw [monthStart_shifted low high first last counted]
  by_cases within : shiftedMonth < 11
  · have next : index + 1 = (yearOfEra + era * 400) * 12 + (shiftedMonth + 1) + 2 := by omega
    rw [monthStart_shifted low high (by omega) (by omega) next]
    change (_ : ℤ) < _
    omega
  by_cases sameEra : yearOfEra < 399
  · -- March of the next year of the era
    have next : index + 1 = (yearOfEra + 1 + era * 400) * 12 + 0 + 2 := by omega
    rw [monthStart_shifted (by omega) (by omega) le_rfl (by omega) next]
    change (_ : ℤ) < _
    unfold daysBefore
    omega
  · -- March of the first year of the next era
    have next : index + 1 = (0 + (era + 1) * 400) * 12 + 0 + 2 := by omega
    rw [monthStart_shifted le_rfl (by omega) le_rfl (by omega) next]
    change (_ : ℤ) < _
    unfold daysBefore
    omega

/-- The first days of the months ascend. -/
theorem monthStart_strictMono : StrictMono monthStart :=
  strictMono_int_of_lt_succ monthStart_lt_next

/-- The month after that of a date. -/
theorem monthBounds_next (date : Date) (least : 1 ≤ (civil date).2.1)
    (greatest : (civil date).2.1 ≤ 12) :
    (monthBounds (civil date).1 (civil date).2.1).2 = monthStart (monthIndex date + 1) := by
  unfold monthBounds monthStart monthIndex
  by_cases twelfth : (civil date).2.1 = 12
  · rw [if_pos twelfth]
    have year : ((civil date).1 * 12 + (civil date).2.1 - 1 + 1) / 12 = (civil date).1 + 1 := by
      omega
    have first : ((civil date).1 * 12 + (civil date).2.1 - 1 + 1) % 12 + 1 = 1 := by omega
    rw [year, first]
  · rw [if_neg twelfth]
    have year : ((civil date).1 * 12 + (civil date).2.1 - 1 + 1) / 12 = (civil date).1 := by
      omega
    have following : ((civil date).1 * 12 + (civil date).2.1 - 1 + 1) % 12 + 1 =
        (civil date).2.1 + 1 := by omega
    rw [year, following]

/-- A date is converted to its month and to its day from the first one on. -/
theorem civil_counted (date : Date) :
    1 ≤ (civil date).2.1 ∧ (civil date).2.1 ≤ 12 ∧
      monthStart (monthIndex date) ≤ date ∧ date < monthStart (monthIndex date + 1) ∧
      (civil date).2.2 = date - monthStart (monthIndex date) + 1 := by
  obtain ⟨era, yearOfEra, dayOfYear, shiftedMonth, low, high, isDate, unended, last, begun, isMonth,
    december, converted⟩ := civil_months date
  have month : 1 ≤ (civil date).2.1 ∧ (civil date).2.1 ≤ 12 ∧
      monthIndex date = (yearOfEra + era * 400) * 12 + shiftedMonth + 2 := by
    rw [monthIndex, converted]
    by_cases early : shiftedMonth < 10
    · rw [if_pos early, if_pos early]
      dsimp only
      omega
    · rw [if_neg early, if_neg early]
      dsimp only
      omega
  have start := monthStart_shifted low high (by omega) (by omega) month.2.2
  have day : (civil date).2.2 = dayOfYear - (153 * shiftedMonth + 2) / 5 + 1 := by rw [converted]
  have bounds := monthBounds_contain date
  have next := monthBounds_next date month.1 month.2.1
  rw [next] at bounds
  refine ⟨month.1, month.2.1, ?_, bounds.2, ?_⟩
  · rw [start]
    change (_ : ℤ) ≤ _
    omega
  · rw [start, day]
    omega

/-- The month after that of a date starts where the bounds of its own month end. -/
theorem monthBounds_stop (date : Date) :
    (monthBounds (civil date).1 (civil date).2.1).2 = monthStart (monthIndex date + 1) := by
  obtain ⟨least, greatest, -⟩ := civil_counted date
  exact monthBounds_next date least greatest

/-- A date lies in no other month than its own. -/
theorem monthIndex_eq {date : Date} {index : ℤ} (begun : monthStart index ≤ date)
    (unended : date < monthStart (index + 1)) : monthIndex date = index := by
  obtain ⟨-, -, ownBegun, ownUnended, -⟩ := civil_counted date
  have notLater := monthStart_strictMono.lt_iff_lt.mp (begun.trans_lt ownUnended)
  have notEarlier := monthStart_strictMono.lt_iff_lt.mp (ownBegun.trans_lt unended)
  omega

theorem monthIndex_monthStart (index : ℤ) : monthIndex (monthStart index) = index :=
  monthIndex_eq le_rfl (monthStart_lt_next index)

/-- The first day of a month is its day 1. -/
theorem civil_monthStart (index : ℤ) : (civil (monthStart index)).2.2 = 1 := by
  obtain ⟨-, -, -, -, day⟩ := civil_counted (monthStart index)
  rw [day, monthIndex_monthStart]
  omega

end FinopsAnalytics.CivilCalendar
