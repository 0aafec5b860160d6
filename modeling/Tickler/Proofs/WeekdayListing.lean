import Tickler.Proofs.NumberedWeekdays

/-!
# The listing behind a numbered weekday

A recurrence on a numbered weekday takes its day from a listing: the days of one month that
fall on the weekday, in ascending order, without the last day of the calendar. Positive
numbers count from the front of the listing and negative ones from its end, and all other
numbers have no day. Every month of the calendar lists four or five days, its very last month
included, so that the numbers up to four in either direction never fail.

The month is told by that of the date, so that neither the day of the date nor today has any
part in it.
-/

namespace Tickler

/-- The days of a counted month on a weekday, in ascending order. Only the last day of the
calendar is left out. -/
structure IsListing (month : Int) (weekday : Weekday) (days : List Date) : Prop where
  ascending : days.Pairwise fun left right => left.dayNumber < right.dayNumber
  listed : ∀ day, day ∈ days ↔
    day.monthNumber = month ∧ day.weekday = weekday ∧ day ≠ Date.last

namespace Date

/-- What the walk from the first day of a month finds is the listing of that month. -/
theorem isListing_weekdaysFrom {first : Date} (isFirst : first.day = 1) (weekday : Weekday) :
    IsListing first.monthNumber weekday (first.weekdaysFrom weekday) where
  ascending := (walk_ascending _ first).filter _
  listed := mem_weekdaysFrom_iff isFirst weekday

/-- Every month lists four or five of a weekday. In the last month the day that is left out
is the fifth of its weekday. -/
theorem length_weekdaysFrom {first : Date} (isFirst : first.day = 1) (weekday : Weekday) :
    (first.weekdaysFrom weekday).length = 4 ∨ (first.weekdaysFrom weekday).length = 5 := by
  rw [weekdaysFrom_eq isFirst]
  by_cases final : first.monthNumber = last.monthNumber
  · rw [weekdaysOfMonth, daysOfMonth_eq final]
    cases weekday <;> decide +kernel
  · have whole := weekdaysOfMonth_eq_of_ne final weekday
    have bounds := first.countOn_bounds weekday
    rw [countOn, ← whole] at bounds
    omega

/-- Without the month one window later a recurrence leaves the calendar. -/
theorem weekdayAfter_of_not_isMonth {date : Date} {window : Window}
    (outside : ¬ IsMonth (date.monthNumber + window.months)) (ordinal : Int) (weekday : Weekday) :
    date.weekdayAfter window ordinal weekday = .error .outOfRange := by
  cases reached : date.monthStart.stepMonths? window.months with
  | none => simp only [weekdayAfter, addMonths, reached, inCalendar, bind, Except.bind]
  | some first =>
    rw [stepMonths?_eq, addMonths?_eq_some_iff, monthNumber_monthStart] at reached
    exact absurd (reached.1 ▸ first.isMonth_monthNumber) outside

/-- A recurrence does not ask for the day of its date. -/
theorem weekdayAfter_of_same_month {date other : Date}
    (same : other.monthNumber = date.monthNumber) (window : Window) (ordinal : Int)
    (weekday : Weekday) :
    other.weekdayAfter window ordinal weekday = date.weekdayAfter window ordinal weekday := by
  have start : other.monthStart = date.monthStart := eq_of_monthNumber same rfl
  rw [weekdayAfter, start, weekdayAfter]

end Date

/-- A recurrence on a numbered weekday looks at the month one month or one year after the
month of its date. If the calendar does not have it, the recurrence is out of range.
Otherwise it leads to the element of the listing of that month at its number, from the front
or from the end, and for zero and every number beyond the listing it fails with the first
day of the month. A listing has four or five days. -/
theorem Recurrence.next_onWeekday (date today : Date) (window : Window) (ordinal : Int)
    (weekday : Weekday) :
    let month := date.monthNumber + window.months
    let outcome := (Recurrence.onWeekday window ordinal weekday).next date today
    (¬ Date.IsMonth month → outcome = .error .outOfRange) ∧
      (Date.IsMonth month → ∃ (first : Date) (days : List Date),
        first.monthNumber = month ∧ first.day = 1 ∧ IsListing month weekday days ∧
          (days.length = 4 ∨ days.length = 5) ∧
          (∀ (place : Nat) (day : Date), days[place]? = some day →
            (place : Int) = ordinal - 1 ∨ (place : Int) = days.length + ordinal →
            outcome = .ok day) ∧
          (1 ≤ ordinal.natAbs ∧ ordinal.natAbs ≤ days.length → ∃ day ∈ days, outcome = .ok day) ∧
          (ordinal = 0 ∨ days.length < ordinal.natAbs →
            outcome = .error (.noSuchWeekday ordinal weekday first))) ∧
      ∀ other otherToday : Date, other.monthNumber = date.monthNumber →
        (Recurrence.onWeekday window ordinal weekday).next other otherToday = outcome := by
  intro month outcome
  refine ⟨fun outside => Date.weekdayAfter_of_not_isMonth outside ordinal weekday, ?_,
    fun other _ same => Date.weekdayAfter_of_same_month same window ordinal weekday⟩
  intro inside
  obtain ⟨first, inMonth, isFirst⟩ := (Date.isMonth_iff month).mp inside
  have looked := Date.weekdayAfter_eq inMonth isFirst ordinal weekday
  rw [← Date.weekdaysFrom_eq isFirst] at looked
  change outcome = _ at looked
  have filled := isSome_ordinal?_iff (first.weekdaysFrom weekday) ordinal
  refine ⟨first, first.weekdaysFrom weekday, inMonth, isFirst,
    inMonth ▸ Date.isListing_weekdaysFrom isFirst weekday,
    Date.length_weekdaysFrom isFirst weekday, ?_, ?_, ?_⟩
  · intro place day found counted
    rw [looked, (ordinal?_eq_some_iff_getElem? _ _ _).mpr ⟨place, found, counted⟩]
  · intro within
    obtain ⟨day, named⟩ := Option.isSome_iff_exists.mp (filled.mpr within)
    obtain ⟨place, found, _⟩ := (ordinal?_eq_some_iff_getElem? _ _ _).mp named
    exact ⟨day, List.mem_of_getElem? found, by rw [looked, named]⟩
  · intro beyond
    have missing : ordinal? (first.weekdaysFrom weekday) ordinal = none := by
      rw [← Option.not_isSome_iff_eq_none, filled]
      omega
    rw [looked, missing]

-- The last month of the calendar begins on a Wednesday, and its 31st, a Friday, is not listed.
example : (⟨262142, 11, 30, by decide⟩ : Date).weekdayAfter .month 5 .friday =
    .error (.noSuchWeekday 5 .friday ⟨262142, 12, 1, by decide⟩) := by
  decide +kernel

end Tickler
