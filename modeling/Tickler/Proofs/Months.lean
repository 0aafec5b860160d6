import Tickler.Calendar.DayNumber

/-!
# Counting months

Months are counted as days are: a date has the count of its month and a day in it, and
the two together determine the date. Every count whose year is one of the calendar's
belongs to a month of the calendar. Moving by months is addition of counts, and the day
is cut to the length of the month reached.
-/

namespace Tickler

/-- The number of days of a counted month. -/
def lengthOfMonth (count : Int) : Nat := monthLength (count / 12) ((count % 12).toNat + 1)

/-- A counted month has 28 to 31 days. -/
theorem lengthOfMonth_bounds (count : Int) :
    28 ≤ lengthOfMonth count ∧ lengthOfMonth count ≤ 31 := by
  apply monthLength_bounds <;> omega

namespace Date

/-- The month of a date is as long as its count says. -/
theorem lengthOfMonth_monthNumber (date : Date) :
    lengthOfMonth date.monthNumber = monthLength date.year date.month := by
  obtain ⟨sameYear, sameMonth⟩ := monthNumber_parts date
  rw [lengthOfMonth, sameYear, sameMonth]

/-- Two dates have the same count exactly when they lie in the same month. -/
theorem monthNumber_eq_iff (left right : Date) :
    left.monthNumber = right.monthNumber ↔ left.year = right.year ∧ left.month = right.month := by
  have leftValid := left.bounds
  have rightValid := right.bounds
  simp only [monthNumber]
  omega

/-- A later month does not lie in an earlier year. -/
theorem year_le_of_monthNumber_le {left right : Date}
    (ordered : left.monthNumber ≤ right.monthNumber) : left.year ≤ right.year := by
  have leftParts := (monthNumber_parts left).1
  have rightParts := (monthNumber_parts right).1
  omega

/-- A date is determined by its month and its day in it. -/
theorem eq_of_monthNumber {left right : Date} (sameMonth : left.monthNumber = right.monthNumber)
    (sameDay : left.day = right.day) : left = right := by
  obtain ⟨sameYear, sameNumber⟩ := (monthNumber_eq_iff left right).mp sameMonth
  exact eq_of_numbers sameYear sameNumber sameDay

/-- The date of a counted month with a given day, cut to the length of the month. -/
theorem inMonth?_eq_some_iff (count : Int) (day : Nat) (date : Date) :
    inMonth? count day = some date ↔
      date.monthNumber = count ∧ date.day = min day (lengthOfMonth count) := by
  have valid := date.bounds
  simp only [inMonth?, ofYmd?_eq_some_iff, lengthOfMonth, monthNumber]
  constructor
  · rintro ⟨sameYear, sameMonth, sameDay⟩
    exact ⟨by omega, sameDay.symm⟩
  · rintro ⟨sameCount, sameDay⟩
    exact ⟨by omega, by omega, sameDay.symm⟩

/-- Moving by months adds to the count of the month and cuts the day to its length. -/
theorem addMonths?_eq_some_iff (date target : Date) (months : Int) :
    date.addMonths? months = some target ↔
      target.monthNumber = date.monthNumber + months ∧
        target.day = min date.day (lengthOfMonth (date.monthNumber + months)) :=
  inMonth?_eq_some_iff _ _ _

/-- Every day of a counted month is a date, if the year of the month is in the calendar. -/
theorem exists_of_monthNumber {count : Int} {day : Nat} (begun : firstYear ≤ count / 12)
    (running : count / 12 ≤ lastYear) (first : 1 ≤ day) (last : day ≤ lengthOfMonth count) :
    ∃ date : Date, date.monthNumber = count ∧ date.day = day := by
  have valid : IsDate (count / 12) ((count % 12).toNat + 1) day :=
    ⟨begun, running, by omega, by omega, first, last⟩
  refine ⟨⟨_, _, _, valid⟩, ?_, rfl⟩
  simp only [monthNumber]
  omega

/-- The first day of a month lies in that month. -/
theorem monthNumber_monthStart (date : Date) : date.monthStart.monthNumber = date.monthNumber := rfl

/-- The count of a month of the calendar, from January of its first year to December of its
last. -/
def IsMonth (count : Int) : Prop := first.monthNumber ≤ count ∧ count ≤ last.monthNumber

/-- The months of the calendar are those that its dates lie in, and each has a first day. -/
theorem isMonth_iff (count : Int) :
    IsMonth count ↔ ∃ start : Date, start.monthNumber = count ∧ start.day = 1 := by
  have begun : first.monthNumber = 12 * firstYear := rfl
  have ended : last.monthNumber = 12 * lastYear + 11 := rfl
  constructor
  · rintro ⟨lower, upper⟩
    have long := (lengthOfMonth_bounds count).1
    exact exists_of_monthNumber (by omega) (by omega) (Nat.le_refl 1) (by omega)
  · rintro ⟨start, rfl, _⟩
    have valid := start.bounds
    rw [IsMonth, begun, ended, monthNumber]
    omega

/-- A date lies in a month of the calendar. -/
theorem isMonth_monthNumber (date : Date) : IsMonth date.monthNumber :=
  (isMonth_iff _).mpr ⟨date.monthStart, rfl, rfl⟩

/-- Days of one month are as far apart as their numbers in it. -/
theorem dayNumber_sub_of_monthNumber_eq {left right : Date}
    (same : left.monthNumber = right.monthNumber) :
    right.dayNumber - left.dayNumber = right.day - left.day := by
  obtain ⟨sameYear, sameMonth⟩ := (monthNumber_eq_iff left right).mp same
  have leftValid := left.bounds
  have rightValid := right.bounds
  rw [dayNumber, dayNumber, sameYear, sameMonth]
  omega

/-- A day of an earlier month comes before the days of a later one. -/
theorem dayNumber_lt_of_monthNumber_lt {left right : Date}
    (earlier : left.monthNumber < right.monthNumber) : left.dayNumber < right.dayNumber := by
  have leftSpan := dayNumber_spans left
  have rightSpan := dayNumber_spans right
  rcases Int.lt_or_eq_of_le (year_le_of_monthNumber_le (Int.le_of_lt earlier)) with before | same
  · have ordered := daysBeforeYear_mono (Int.add_one_le_of_lt before)
    omega
  · have valid := left.bounds
    simp only [monthNumber, same] at earlier
    have within := dayOfYear_lt left
    have ordered := daysBeforeMonth_mono left.year (left.month + 1) right.month (by omega)
    rw [dayNumber, dayNumber, ← same]
    omega

/-- Dates are ordered by their months, and within a month by their days. -/
theorem dayNumber_lt_iff (left right : Date) :
    left.dayNumber < right.dayNumber ↔
      left.monthNumber < right.monthNumber ∨
        left.monthNumber = right.monthNumber ∧ left.day < right.day := by
  rcases Int.lt_trichotomy left.monthNumber right.monthNumber with earlier | same | later
  · have ordered := dayNumber_lt_of_monthNumber_lt earlier
    omega
  · have apart := dayNumber_sub_of_monthNumber_eq same
    omega
  · have ordered := dayNumber_lt_of_monthNumber_lt later
    omega

/-- A later day does not lie in an earlier month. -/
theorem monthNumber_le_of_dayNumber_le {left right : Date}
    (ordered : left.dayNumber ≤ right.dayNumber) : left.monthNumber ≤ right.monthNumber := by
  apply Int.not_lt.mp
  intro earlier
  have reversed := dayNumber_lt_of_monthNumber_lt earlier
  omega

end Date

end Tickler
