import Tickler.Proofs.History

/-!
# Centuries and weekdays

The canonical form shows the place of a year in its century and the weekday. Four
centuries are a whole number of weeks, but one, two or three are not: a day has the same
weekday a number of centuries later exactly when that number is divisible by four. The
weekday letter therefore tells the century up to a multiple of four hundred years, and
canonical forms are the same exactly for dates that differ by such a multiple alone.

Years are compared from the first of March on. The leap day is then the last day of its
year, so that every other day has the same place in each year.
-/

namespace Tickler

/-- A month is as long as in the common year one, but for the leap day in February. -/
theorem monthLength_eq_common (year : Int) (month : Nat) :
    monthLength year month =
      monthLength 1 month + if month = 2 ∧ isLeapYear year = true then 1 else 0 := by
  fun_cases monthLength year month <;> simp_all [monthLength, show isLeapYear 1 = false from rfl]

/-- The months of a year begin as in the common year one, but for the leap day behind
February. -/
theorem daysBeforeMonth_eq_common (year : Int) (month : Nat) :
    daysBeforeMonth year month =
      daysBeforeMonth 1 month + if 3 ≤ month ∧ isLeapYear year = true then 1 else 0 := by
  induction month with
  | zero => simp [daysBeforeMonth]
  | succ month inductionHypothesis =>
    simp only [daysBeforeMonth, inductionHypothesis, monthLength_eq_common year month]
    by_cases leap : isLeapYear year = true
    · simp only [leap, and_true]
      split <;> split <;> split <;> omega
    · simp only [leap]
      simp

/-- A number of centuries is a whole number of weeks exactly when four divides it. -/
theorem daysBeforeYear_centuries (year centuries : Int) :
    (daysBeforeYear (year + 100 * centuries) - daysBeforeYear year) % 7 = 0 ↔
      centuries % 4 = 0 := by
  simp only [daysBeforeYear]
  omega

namespace Date

/-- From March on a date is counted back from the end of its year, which has passed the
leap day as the date has. -/
theorem dayNumber_eq_common (date : Date) :
    date.dayNumber =
      if 3 ≤ date.month then
        daysBeforeYear (date.year + 1) - 365 + daysBeforeMonth 1 date.month + (date.day - 1 : Nat)
      else daysBeforeYear date.year + daysBeforeMonth 1 date.month + (date.day - 1 : Nat) := by
  rw [daysBeforeYear_succ, daysBeforeMonth_thirteen, dayNumber,
    daysBeforeMonth_eq_common date.year date.month]
  have leapDay : (if isLeapYear date.year = true then 366 else 365 : Nat) =
      365 + if isLeapYear date.year = true then 1 else 0 := by split <;> rfl
  by_cases late : 3 ≤ date.month
  · simp only [late, true_and, if_true, leapDay]
    omega
  · simp only [late, false_and, if_false]
    omega

/-- Two dates fall on the same weekday exactly when whole weeks lie between them. -/
theorem weekday_eq_iff (left right : Date) :
    left.weekday = right.weekday ↔ (left.dayNumber - right.dayNumber) % 7 = 0 := by
  have placed := right.position_weekday
  rw [weekday_eq_iff_position]
  omega

/-- A day of the year has the same weekday in two years of the same place in their
centuries exactly when a multiple of four hundred years lies between them. -/
theorem weekday_eq_iff_of_century {left right : Date}
    (sameCentury : left.year % 100 = right.year % 100) (sameMonth : left.month = right.month)
    (sameDay : left.day = right.day) :
    left.weekday = right.weekday ↔ left.year % 400 = right.year % 400 := by
  obtain ⟨centuries, apart⟩ : ∃ centuries, left.year = right.year + 100 * centuries :=
    ⟨(left.year - right.year) / 100, by omega⟩
  have fromMarch := daysBeforeYear_centuries (right.year + 1) centuries
  have fromJanuary := daysBeforeYear_centuries right.year centuries
  have following : right.year + 100 * centuries + 1 = right.year + 1 + 100 * centuries := by omega
  rw [weekday_eq_iff, dayNumber_eq_common left, dayNumber_eq_common right, sameMonth, sameDay,
    apart, following]
  split <;> omega

/-- Reading a canonical form gives the pattern that it shows. -/
theorem token?_canonical (date : Date) :
    DatePattern.token? date.canonical = some (date.shownPattern, []) := by
  simpa using DatePattern.token?_append (DatePattern.spelled_canonical date)
    (show isDelimited DatePattern.delimiters [] = true from rfl)

/-- Canonical forms are the same exactly for dates that differ by a multiple of four
hundred years alone. A canonical form is read back as the numbers and the weekday that it
shows, and those leave open the century and nothing else. -/
theorem canonical_eq_iff (left right : Date) :
    left.canonical = right.canonical ↔
      left.month = right.month ∧ left.day = right.day ∧ left.year % 400 = right.year % 400 := by
  constructor
  · intro same
    have shown : left.shownPattern = right.shownPattern := by
      have read := left.token?_canonical
      rw [same, right.token?_canonical] at read
      exact (Prod.mk.inj (Option.some.inj read)).1.symm
    simp only [shownPattern, DatePattern.mk.injEq, Option.some.injEq] at shown
    obtain ⟨sameYear, sameMonth, sameDay, sameWeekday⟩ := shown
    have sameCentury : left.year % 100 = right.year % 100 := by omega
    exact ⟨sameMonth, sameDay,
      (weekday_eq_iff_of_century sameCentury sameMonth sameDay).mp sameWeekday⟩
  · rintro ⟨sameMonth, sameDay, sameCycle⟩
    have sameCentury : left.year % 100 = right.year % 100 := by omega
    have sameWeekday := (weekday_eq_iff_of_century sameCentury sameMonth sameDay).mpr sameCycle
    simp only [canonical, yearOfCentury, sameCentury, sameMonth, sameDay, sameWeekday]

end Date

/-- A canonical form alone is rescheduled to the date that is read back from it. -/
theorem reschedule_canonical (date today : Date) :
    reschedule date.canonical today 0 =
      .ok ⟨date.readBack, ⟨date.shownPattern, none, none, []⟩⟩ := by
  have done := reschedule_canonical_append date (.of_space rfl) (by simp)
    (show Note.recurrenceOf [] = .ok none from rfl) today 0
  rw [List.append_nil] at done
  exact done

/-- Every canonical form is rescheduled, to the same day of the century from 2000 on. That
is the date itself for the dates of that century and for no others. The new line shows the
same form again exactly if the year is one of the first hundred of its cycle of four
hundred years, because the form leaves open the cycle and nothing else. -/
theorem reschedule_canonical_roundtrip (date today : Date) :
    ∃ rescheduled, reschedule date.canonical today 0 = .ok rescheduled ∧
      rescheduled.date.year = 2000 + date.year % 100 ∧
      rescheduled.date.month = date.month ∧
      rescheduled.date.day = date.day ∧
      (rescheduled.date = date ↔ 2000 ≤ date.year ∧ date.year ≤ 2099) ∧
      (rescheduled.text = date.canonical ↔ 0 ≤ date.year % 400 ∧ date.year % 400 ≤ 99) ∧
      ∀ other : Date, other.canonical = date.canonical ↔
        other.month = date.month ∧ other.day = date.day ∧ other.year % 400 = date.year % 400 := by
  refine ⟨_, reschedule_canonical date today, rfl, rfl, rfl, ?_, ?_, ?_⟩
  · constructor
    · intro same
      have sameYear : 2000 + date.year % 100 = date.year := congrArg Date.year same
      omega
    · rintro ⟨begun, running⟩
      refine Date.eq_of_numbers ?_ rfl rfl
      change 2000 + date.year % 100 = date.year
      omega
  · have text : Rescheduled.text ⟨date.readBack, ⟨date.shownPattern, none, none, []⟩⟩ =
        date.readBack.canonical := by
      rw [Rescheduled.text_eq, Note.tail_eq_description (.inl rfl), List.append_nil]
    have shown := Date.canonical_eq_iff date.readBack date
    simp only [Date.readBack, true_and] at shown
    rw [text, Date.readBack, shown]
    omega
  · exact fun other => Date.canonical_eq_iff other date

end Tickler
