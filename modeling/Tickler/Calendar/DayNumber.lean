import Tickler.Calendar.Date
import Tickler.Calendar.Weekday

/-!
# Counting days

Days are numbered from zero at 1 January of year one, a Monday. The numbering
turns day arithmetic into addition: a date and its number determine each other,
every number between those of the first and the last date belongs to a date, and
no other number does.
-/

namespace Tickler

/-- The year that a numbered day lies in. In 400 years there are 146097 days, so
the proportional year is wrong by at most one, which the comparison corrects. -/
def yearOfDay (number : Int) : Int :=
  let estimate := number * 400 / 146097 + 1
  if number < daysBeforeYear estimate then estimate - 1
  else if daysBeforeYear (estimate + 1) ≤ number then estimate + 1
  else estimate

/-- Among the first `months` months of a year, the latest that begins on or
before the given day of the year, counted from zero. -/
def monthOfDay (year : Int) (dayOfYear : Nat) : Nat → Nat
  | 0 => 0
  | month + 1 =>
      if daysBeforeMonth year (month + 1) ≤ dayOfYear then month + 1
      else monthOfDay year dayOfYear month

namespace Date

/-- The number of days from 1 January of year one. -/
def dayNumber (date : Date) : Int :=
  daysBeforeYear date.year + daysBeforeMonth date.year date.month + (date.day - 1 : Nat)

/-- The date with a given day number. -/
def ofDayNumber? (number : Int) : Option Date :=
  let year := yearOfDay number
  let dayOfYear := (number - daysBeforeYear year).toNat
  let month := monthOfDay year dayOfYear 12
  ofYmd? year month (dayOfYear - daysBeforeMonth year month + 1)

/-- The date a signed number of days away. -/
def addDays? (date : Date) (days : Int) : Option Date :=
  ofDayNumber? (date.dayNumber + days)

/-- The weekday of a date. Day zero is a Monday. -/
def weekday (date : Date) : Weekday :=
  Weekday.ofPosition (date.dayNumber % 7).toNat

end Date

/-- The year of a numbered day is the one year that has begun and not ended. -/
theorem yearOfDay_spans (number : Int) :
    daysBeforeYear (yearOfDay number) ≤ number ∧
      number < daysBeforeYear (yearOfDay number + 1) := by
  unfold yearOfDay
  dsimp only
  generalize estimated : number * 400 / 146097 + 1 = estimate
  split
  · rename_i early
    rw [Int.sub_add_cancel]
    refine ⟨?_, early⟩
    unfold daysBeforeYear
    dsimp only
    omega
  · rename_i begun
    split
    · rename_i late
      refine ⟨late, ?_⟩
      unfold daysBeforeYear
      dsimp only
      omega
    · rename_i running
      omega

/-- Years begin in order: a later year begins at least 365 days later each. -/
theorem daysBeforeYear_gap (earlier later : Int) (ordered : earlier < later) :
    daysBeforeYear earlier + 365 ≤ daysBeforeYear later := by
  unfold daysBeforeYear
  dsimp only
  omega

/-- A later year does not begin earlier. -/
theorem daysBeforeYear_mono {earlier later : Int} (ordered : earlier ≤ later) :
    daysBeforeYear earlier ≤ daysBeforeYear later := by
  rcases Int.lt_or_eq_of_le ordered with before | same
  · have gap := daysBeforeYear_gap _ _ before
    omega
  · exact Int.le_of_eq (congrArg daysBeforeYear same)

/-- A day number lies in one year only. -/
theorem yearOfDay_eq (number year : Int) (begun : daysBeforeYear year ≤ number)
    (running : number < daysBeforeYear (year + 1)) : yearOfDay number = year := by
  obtain ⟨foundBegun, foundRunning⟩ := yearOfDay_spans number
  have notEarlier : ¬ yearOfDay number < year := by
    intro earlier
    have ordered := daysBeforeYear_mono (Int.add_one_le_of_lt earlier)
    omega
  have notLater : ¬ year < yearOfDay number := by
    intro later
    have ordered := daysBeforeYear_mono (Int.add_one_le_of_lt later)
    omega
  omega

/-- Months begin in order within a year. -/
theorem daysBeforeMonth_mono (year : Int) (earlier later : Nat) (ordered : earlier ≤ later) :
    daysBeforeMonth year earlier ≤ daysBeforeMonth year later := by
  induction later with
  | zero => simp_all
  | succ month inductionHypothesis =>
    rcases Nat.lt_or_eq_of_le ordered with before | same
    · have := inductionHypothesis (by omega)
      simp only [daysBeforeMonth]
      omega
    · subst same
      exact Nat.le_refl _

/-- The month found has begun, unless none has, and the following one, if it is
among those searched, has not. -/
theorem monthOfDay_spans (year : Int) (dayOfYear months : Nat) :
    monthOfDay year dayOfYear months ≤ months ∧
      daysBeforeMonth year (monthOfDay year dayOfYear months) ≤ dayOfYear ∧
      (monthOfDay year dayOfYear months < months →
        dayOfYear < daysBeforeMonth year (monthOfDay year dayOfYear months + 1)) := by
  induction months with
  | zero => simp [monthOfDay, daysBeforeMonth]
  | succ month inductionHypothesis =>
    obtain ⟨bounded, begun, following⟩ := inductionHypothesis
    simp only [monthOfDay]
    split
    · rename_i started
      exact ⟨Nat.le_refl _, started, fun less => absurd less (Nat.lt_irrefl _)⟩
    · rename_i ahead
      refine ⟨by omega, begun, fun _ => ?_⟩
      rcases Nat.lt_or_eq_of_le bounded with less | same
      · exact following less
      · rw [same]
        omega

/-- A day of the year lies in one month only. -/
theorem monthOfDay_eq (year : Int) (dayOfYear months month : Nat) (listed : month ≤ months)
    (begun : daysBeforeMonth year month ≤ dayOfYear)
    (running : dayOfYear < daysBeforeMonth year (month + 1)) :
    monthOfDay year dayOfYear months = month := by
  obtain ⟨bounded, foundBegun, foundFollowing⟩ := monthOfDay_spans year dayOfYear months
  have notLater : ¬ month < monthOfDay year dayOfYear months := by
    intro later
    have := daysBeforeMonth_mono year (month + 1) _ later
    omega
  have notEarlier : ¬ monthOfDay year dayOfYear months < month := by
    intro earlier
    have := daysBeforeMonth_mono year (monthOfDay year dayOfYear months + 1) month earlier
    have := foundFollowing (by omega)
    omega
  omega

namespace Date

/-- The day of a date lies within its month. -/
theorem dayOfYear_lt (date : Date) :
    daysBeforeMonth date.year date.month + (date.day - 1) <
      daysBeforeMonth date.year (date.month + 1) := by
  have valid := date.bounds
  simp only [daysBeforeMonth]
  omega

/-- The day of a date lies within its year. -/
theorem dayNumber_spans (date : Date) :
    daysBeforeYear date.year ≤ date.dayNumber ∧
      date.dayNumber < daysBeforeYear (date.year + 1) := by
  have inside := dayOfYear_lt date
  have valid := date.bounds
  have wholeYear := daysBeforeMonth_mono date.year (date.month + 1) 13 (by omega)
  rw [daysBeforeYear_succ]
  simp only [dayNumber]
  omega

/-- A date is recovered from its day number. -/
theorem ofDayNumber?_dayNumber (date : Date) : ofDayNumber? date.dayNumber = some date := by
  obtain ⟨begun, running⟩ := dayNumber_spans date
  have valid := date.bounds
  have inside := dayOfYear_lt date
  have dayOfYear : (date.dayNumber - daysBeforeYear date.year).toNat =
      daysBeforeMonth date.year date.month + (date.day - 1) := by
    simp only [dayNumber]
    omega
  unfold ofDayNumber?
  dsimp only
  rw [yearOfDay_eq _ _ begun running, dayOfYear,
    monthOfDay_eq _ _ 12 date.month (by omega) (by omega) inside, ofYmd?_eq_some_iff]
  omega

/-- A date found from a number has that number. -/
theorem dayNumber_of_ofDayNumber? {number : Int} {date : Date}
    (found : ofDayNumber? number = some date) : date.dayNumber = number := by
  obtain ⟨begun, running⟩ := yearOfDay_spans number
  unfold ofDayNumber? at found
  dsimp only at found
  rw [ofYmd?_eq_some_iff] at found
  obtain ⟨sameYear, sameMonth, sameDay⟩ := found
  obtain ⟨_, monthBegun, _⟩ := monthOfDay_spans (yearOfDay number)
    (number - daysBeforeYear (yearOfDay number)).toNat 12
  simp only [dayNumber]
  rw [← sameYear, ← sameMonth, ← sameDay]
  omega

/-- Dates and their numbers determine each other. -/
theorem ofDayNumber?_eq_some_iff (number : Int) (date : Date) :
    ofDayNumber? number = some date ↔ date.dayNumber = number := by
  constructor
  · exact dayNumber_of_ofDayNumber?
  · rintro rfl
    exact ofDayNumber?_dayNumber date

/-- The date some days away is the one with that difference of numbers. -/
theorem addDays?_eq_some_iff (date target : Date) (days : Int) :
    date.addDays? days = some target ↔ target.dayNumber = date.dayNumber + days :=
  ofDayNumber?_eq_some_iff _ _

/-- No two dates have the same number. -/
theorem dayNumber_injective {left right : Date} (same : left.dayNumber = right.dayNumber) :
    left = right := by
  have found := ofDayNumber?_dayNumber left
  rw [same, ofDayNumber?_dayNumber] at found
  exact (Option.some.inj found).symm

/-- The weekday of a date stands at the place of its number in the week. -/
theorem position_weekday (date : Date) : (date.weekday.position : Int) = date.dayNumber % 7 := by
  rw [weekday, Weekday.position_ofPosition]
  omega

/-- A date falls on the one weekday that stands at the place of its number in the week. -/
theorem weekday_eq_iff_position (date : Date) (weekday : Weekday) :
    date.weekday = weekday ↔ date.dayNumber % 7 = weekday.position := by
  rw [← position_weekday]
  constructor
  · rintro rfl
    rfl
  · intro same
    exact Weekday.position_injective (Int.ofNat.inj same)

/-- A later day does not lie in an earlier year. -/
theorem year_le_of_dayNumber_le {left right : Date} (ordered : left.dayNumber ≤ right.dayNumber) :
    left.year ≤ right.year := by
  have begun := (dayNumber_spans left).1
  have running := (dayNumber_spans right).2
  apply Int.not_lt.mp
  intro earlier
  have ordered := daysBeforeYear_mono (Int.add_one_le_of_lt earlier)
  omega

/-- A number belongs to a date exactly when its year is one of the calendar's. -/
theorem ofDayNumber?_isSome_iff (number : Int) :
    (ofDayNumber? number).isSome ↔
      daysBeforeYear firstYear ≤ number ∧ number < daysBeforeYear (lastYear + 1) := by
  constructor
  · intro found
    obtain ⟨date, found⟩ := Option.isSome_iff_exists.mp found
    have same := dayNumber_of_ofDayNumber? found
    obtain ⟨begun, running⟩ := dayNumber_spans date
    have valid := date.valid
    simp only [IsDate, firstYear, lastYear] at valid
    simp only [firstYear, lastYear]
    unfold daysBeforeYear at *
    dsimp only at *
    omega
  · rintro ⟨afterFirst, beforeLast⟩
    obtain ⟨begun, running⟩ := yearOfDay_spans number
    have lower : firstYear ≤ yearOfDay number := by
      simp only [firstYear] at *
      unfold daysBeforeYear at *
      dsimp only at *
      omega
    have upper : yearOfDay number ≤ lastYear := by
      simp only [lastYear] at *
      unfold daysBeforeYear at *
      dsimp only at *
      omega
    rw [daysBeforeYear_succ] at running
    obtain ⟨year, yearFound⟩ : ∃ year, yearOfDay number = year := ⟨_, rfl⟩
    rw [yearFound] at begun running lower upper
    have offset : ∃ dayOfYear : Nat, number = daysBeforeYear year + dayOfYear := by
      exact ⟨(number - daysBeforeYear year).toNat, by omega⟩
    obtain ⟨dayOfYear, rfl⟩ := offset
    obtain ⟨bounded, monthBegun, following⟩ := monthOfDay_spans year dayOfYear 12
    have january : 1 ≤ monthOfDay year dayOfYear 12 := by
      rcases Nat.eq_zero_or_pos (monthOfDay year dayOfYear 12) with none | some
      · have := following (by omega)
        rw [none] at this
        simp [daysBeforeMonth, monthLength] at this
      · exact some
    have inside : dayOfYear < daysBeforeMonth year (monthOfDay year dayOfYear 12 + 1) := by
      rcases Nat.lt_or_eq_of_le bounded with less | same
      · exact following less
      · rw [same]
        change dayOfYear < daysBeforeMonth year 13
        omega
    rw [Option.isSome_iff_ne_none]
    unfold ofDayNumber?
    dsimp only
    rw [yearFound, show (daysBeforeYear year + (dayOfYear : Int) - daysBeforeYear year).toNat =
      dayOfYear by omega, Ne, ofYmd?_eq_none_iff, Classical.not_not]
    simp only [daysBeforeMonth] at inside
    simp only [IsDate]
    omega

/-- Every number of a date lies between those of the first and the last date. -/
theorem dayNumber_bounds (date : Date) :
    first.dayNumber ≤ date.dayNumber ∧ date.dayNumber ≤ last.dayNumber := by
  have found := (ofDayNumber?_isSome_iff date.dayNumber).mp (by rw [ofDayNumber?_dayNumber]; rfl)
  have begun : first.dayNumber = daysBeforeYear firstYear := by decide
  have ended : last.dayNumber + 1 = daysBeforeYear (lastYear + 1) := by decide
  omega

end Date

end Tickler
