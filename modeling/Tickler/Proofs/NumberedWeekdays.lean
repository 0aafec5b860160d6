import Tickler.Proofs.MonthWeekdays
import Tickler.Proofs.Series

/-!
# Notes on a numbered weekday

A recurrence on a numbered weekday takes the date of its note to the month one window
later, and there to the day with that number. The day that the note had before plays no
part, so that a series of visits comes to every month, or to the same month of every
year, and skips none.

Every month has a first to a fourth of each weekday, from the front and from the end. A
fifth is missing in some months, and there the line ends with the message that says so.
-/

namespace Tickler

namespace Date

/-- The recurrence looks for its day in the month one window later, which is given here by
its first day. -/
theorem weekdayAfter_eq {date first : Date} {window : Window}
    (inMonth : first.monthNumber = date.monthNumber + window.months) (isFirst : first.day = 1)
    (ordinal : Int) (weekday : Weekday) :
    date.weekdayAfter window ordinal weekday =
      match ordinal? (first.weekdaysOfMonth weekday) ordinal with
      | some day => .ok day
      | none => .error (.noSuchWeekday ordinal weekday first) := by
  have moved : date.monthStart.stepMonths? window.months = some first := by
    rw [stepMonths?_eq, addMonths?_eq_some_iff, monthNumber_monthStart]
    have long := (lengthOfMonth_bounds (date.monthNumber + window.months)).1
    have start : date.monthStart.day = 1 := rfl
    exact ⟨inMonth, by omega⟩
  rw [← weekdaysFrom_eq isFirst]
  cases found : ordinal? (first.weekdaysFrom weekday) ordinal with
  | some day => simp only [weekdayAfter, addMonths, moved, inCalendar, bind, Except.bind, found]
  | none => simp only [weekdayAfter, addMonths, moved, inCalendar, bind, Except.bind, found]

/-- A month has a numbered weekday if the number is not zero and there are so many of the
weekday, and only then. -/
theorem exists_isNumberedWeekday_iff {month : Date} (early : month.year < lastYear)
    (ordinal : Int) (weekday : Weekday) :
    (∃ date, IsNumberedWeekday month.monthNumber ordinal weekday date) ↔
      1 ≤ ordinal.natAbs ∧ ordinal.natAbs ≤ month.countOn weekday := by
  have found := isSome_ordinal?_iff (month.weekdaysOfMonth weekday) ordinal
  rw [Option.isSome_iff_exists] at found
  simp only [ordinal?_weekdaysOfMonth_eq_some_iff early] at found
  rw [found, weekdaysOfMonth_eq early, countOn]

/-- A month has one numbered weekday at most. -/
theorem isNumberedWeekday_unique {month ordinal : Int} {weekday : Weekday} {left right : Date}
    (early : left.year < lastYear) (leftOne : IsNumberedWeekday month ordinal weekday left)
    (rightOne : IsNumberedWeekday month ordinal weekday right) : left = right := by
  obtain rfl : left.monthNumber = month := leftOne.inMonth
  have leftFound := (ordinal?_weekdaysOfMonth_eq_some_iff early ordinal weekday left).mpr leftOne
  have rightFound := (ordinal?_weekdaysOfMonth_eq_some_iff early ordinal weekday right).mpr rightOne
  exact Option.some.inj (leftFound.symm.trans rightFound)

/-- Where the month one window later has the numbered weekday, the recurrence leads to it. -/
theorem weekdayAfter_of_isNumberedWeekday {date next : Date} {window : Window} {ordinal : Int}
    {weekday : Weekday} (early : next.year < lastYear)
    (one : IsNumberedWeekday (date.monthNumber + window.months) ordinal weekday next) :
    date.weekdayAfter window ordinal weekday = .ok next := by
  have inMonth : next.monthStart.monthNumber = date.monthNumber + window.months :=
    next.monthNumber_monthStart.trans one.inMonth
  rw [← inMonth] at one
  have found : ordinal? (next.monthStart.weekdaysOfMonth weekday) ordinal = some next :=
    (ordinal?_weekdaysOfMonth_eq_some_iff early ordinal weekday next).mpr one
  rw [weekdayAfter_eq inMonth rfl, found]

/-- The month one window behind a date of the century from 2000 on is not in the last year
of the calendar. -/
theorem year_lt_of_following {date first : Date} {window : Window} (running : date.year ≤ 2099)
    (following : first.monthNumber = date.monthNumber + window.months) :
    first.year < lastYear := by
  have parts := (monthNumber_parts date).1
  have firstParts := (monthNumber_parts first).1
  cases window <;> simp only [lastYear, Window.months] at following ⊢ <;> omega

/-- Where that month has fewer of the weekday, the failure names its first day. -/
theorem weekdayAfter_of_countOn_lt {date first : Date} {window : Window} {ordinal : Int}
    {weekday : Weekday} (early : first.year < lastYear)
    (inMonth : first.monthNumber = date.monthNumber + window.months) (isFirst : first.day = 1)
    (few : first.countOn weekday < ordinal.natAbs) :
    date.weekdayAfter window ordinal weekday = .error (.noSuchWeekday ordinal weekday first) := by
  have missing : ordinal? (first.weekdaysOfMonth weekday) ordinal = none := by
    rw [← Option.not_isSome_iff_eq_none, isSome_ordinal?_iff, weekdaysOfMonth_eq early]
    change ¬ (_ ∧ ordinal.natAbs ≤ first.countOn weekday)
    omega
  rw [weekdayAfter_eq inMonth isFirst, missing]

/-- The count of the month that a number of windows leads to. -/
def monthAfter (start : Date) (window : Window) (passed : Nat) : Int :=
  start.monthNumber + passed * window.months

/-- One more window leads one window further. -/
theorem monthAfter_succ (start : Date) (window : Window) (passed : Nat) :
    start.monthAfter window (passed + 1) = start.monthAfter window passed + window.months := by
  cases window <;> simp only [monthAfter, Window.months] <;> omega

/-- Up to the end of the century from 2000 on each number of windows leads to a month in a
year of that century. -/
theorem exists_monthAfter {start : Date} {window : Window} {passed count : Nat}
    (begun : 2000 ≤ start.year) (within : passed ≤ count)
    (inside : start.monthAfter window count ≤ centuryEnd.monthNumber) :
    ∃ first : Date, first.monthNumber = start.monthAfter window passed ∧
      2000 ≤ first.year ∧ first.year ≤ 2099 := by
  have long := (lengthOfMonth_bounds (start.monthAfter window passed)).1
  have between : start.monthNumber ≤ start.monthAfter window passed ∧
      start.monthAfter window passed ≤ centuryEnd.monthNumber := by
    cases window <;> simp only [monthAfter, Window.months] at inside ⊢ <;> omega
  obtain ⟨first, ⟨inMonth, _⟩, inCentury⟩ := exists_inCentury_of_monthNumber begun between.1
    between.2 (Nat.le_refl 1) (by omega)
  exact ⟨first, inMonth, inCentury⟩

/-- A date of such a month lies in that century. -/
theorem inCentury_of_monthAfter {start date : Date} {window : Window} {passed count : Nat}
    (begun : 2000 ≤ start.year) (within : passed ≤ count)
    (inside : start.monthAfter window count ≤ centuryEnd.monthNumber)
    (inMonth : date.monthNumber = start.monthAfter window passed) :
    2000 ≤ date.year ∧ date.year ≤ 2099 := by
  obtain ⟨first, sameMonth, bounds⟩ := exists_monthAfter begun within inside
  have sameYear := ((monthNumber_eq_iff date first).mp (inMonth.trans sameMonth.symm)).1
  rwa [sameYear]

/-- The date that a note on a numbered weekday has after a number of visits: the start, and
from then on the numbered weekday of the month that so many windows lead to. -/
def IsVisited (start : Date) (window : Window) (ordinal : Int) (weekday : Weekday) :
    Nat → Date → Prop
  | 0, date => date = start
  | passed + 1, date =>
      IsNumberedWeekday (start.monthAfter window (passed + 1)) ordinal weekday date

/-- The date visited lies in the month that the windows lead to. -/
theorem IsVisited.inMonth {start date : Date} {window : Window} {ordinal : Int}
    {weekday : Weekday} {passed : Nat}
    (visited : start.IsVisited window ordinal weekday passed date) :
    date.monthNumber = start.monthAfter window passed := by
  cases passed with
  | zero =>
    obtain rfl : date = start := visited
    simp [monthAfter]
  | succ passed => exact IsNumberedWeekday.inMonth visited

/-- If every month on the way has enough of the weekday, the dates visited are a series of
the recurrence. -/
theorem isSeries_isVisited {start : Date} {window : Window} {ordinal : Int} {weekday : Weekday}
    {count : Nat} (begun : 2000 ≤ start.year)
    (inside : start.monthAfter window count ≤ centuryEnd.monthNumber)
    (numbered : 1 ≤ ordinal.natAbs)
    (many : ∀ passed, 1 ≤ passed → passed ≤ count → ∀ first : Date,
      first.monthNumber = start.monthAfter window passed →
        ordinal.natAbs ≤ first.countOn weekday) :
    IsSeries (.onWeekday window ordinal weekday) count
      (start.IsVisited window ordinal weekday) where
  reached := by
    intro passed within
    have inCentury : ∀ {date : Date}, start.IsVisited window ordinal weekday passed date →
        2000 ≤ date.year ∧ date.year ≤ 2099 :=
      fun visited => inCentury_of_monthAfter begun within inside visited.inMonth
    cases passed with
    | zero => exact ⟨start, rfl, inCentury rfl⟩
    | succ passed =>
      obtain ⟨first, inMonth, bounds⟩ := exists_monthAfter begun within inside
      have enough := many (passed + 1) (Nat.le_add_left 1 passed) within first inMonth
      obtain ⟨date, one⟩ := (exists_isNumberedWeekday_iff (year_lt_lastYear bounds.2) ordinal
        weekday).mpr ⟨numbered, enough⟩
      rw [inMonth] at one
      exact ⟨date, one, inCentury one⟩
  determined := by
    intro passed within left right leftVisited rightVisited
    have bounds := inCentury_of_monthAfter begun within inside leftVisited.inMonth
    cases passed with
    | zero => exact Eq.trans leftVisited (Eq.symm rightVisited)
    | succ passed =>
      exact isNumberedWeekday_unique (year_lt_lastYear bounds.2) leftVisited rightVisited
  leads := by
    intro passed within date next visited visitedNext today
    have bounds := inCentury_of_monthAfter begun within inside visitedNext.inMonth
    have one : IsNumberedWeekday (date.monthNumber + window.months) ordinal weekday next := by
      rw [visited.inMonth, ← monthAfter_succ]
      exact visitedNext
    exact weekdayAfter_of_isNumberedWeekday (year_lt_lastYear bounds.2) one

end Date

/-- A note on a numbered weekday visits every month, or the same month of every year, once.
After each number of visits without extra days its line shows the numbered weekday of the
month that so many windows lead to, in front of the tail, as long as that month is not
behind 2099. The month alone decides about that day; neither the day of the start nor the
todays of the visits play a part.

For a fifth weekday this goes on as long as the months visited have five. The next visit
to a month with only four leaves the message in place of the line. -/
theorem history_numbered_weekdays (start : Date) (tail : List Char) (note : Note)
    (window : Window) (ordinal : Int) (weekday : Weekday) (count : Nat)
    (begun : 2000 ≤ start.year) (unended : tail.getLast? ≠ some '\n')
    (read : Note.read (start.canonical ++ tail) = .ok note)
    (dated : note.date = start.shownPattern) (unmoved : note.offset = none)
    (recurs : note.recurrence = some (.onWeekday window ordinal weekday))
    (numbered : 1 ≤ ordinal.natAbs ∧ ordinal.natAbs ≤ 5)
    (inside : start.monthAfter window count ≤ Date.centuryEnd.monthNumber)
    (five : ordinal.natAbs = 5 → ∀ passed, 1 ≤ passed → passed ≤ count → ∀ first : Date,
      first.monthNumber = start.monthAfter window passed → first.countOn weekday = 5) :
    ∃ dates : Nat → Date, dates 0 = start ∧
      (∀ passed, 1 ≤ passed → passed ≤ count → ∀ date,
        Date.IsNumberedWeekday (start.monthAfter window passed) ordinal weekday date ↔
          date = dates passed) ∧
      (∀ passed < count, ∀ today,
        rescheduledDate ((dates passed).canonical ++ tail) today 0 = .ok (dates (passed + 1))) ∧
      (∀ todays : List Date, todays.length = count →
        history (start.canonical ++ tail) (todays.map fun today => ⟨today, 0, []⟩) =
          (List.range' 1 count).map fun passed => (dates passed).canonical ++ tail) ∧
      ∀ (todays : List Date) (first : Date), todays.length = count + 1 →
        ordinal.natAbs = 5 → first.monthNumber = start.monthAfter window (count + 1) →
        first.day = 1 → first.countOn weekday = 4 →
        history (start.canonical ++ tail) (todays.map fun today => ⟨today, 0, []⟩) =
          ((List.range' 1 count).map fun passed => (dates passed).canonical ++ tail) ++
            [(Failure.noSuchWeekday ordinal weekday first).message] := by
  have given : note.date.isEmpty = false := dated ▸ start.shownPattern_given.1
  obtain ⟨isTail, found⟩ := Note.isTail_of_read_canonical read given unmoved
  rw [recurs] at found
  have many : ∀ passed, 1 ≤ passed → passed ≤ count → ∀ first : Date,
      first.monthNumber = start.monthAfter window passed →
        ordinal.natAbs ≤ first.countOn weekday := by
    intro passed visited within first inMonth
    have bounds := first.countOn_bounds weekday
    by_cases fifth : ordinal.natAbs = 5
    · have counted := five fifth passed visited within first inMonth
      omega
    · omega
  obtain ⟨dates, zero, visited, stepped, shown, broken⟩ :=
    (Date.isSeries_isVisited begun inside numbered.1 many).exists_lines isTail unended found rfl
  refine ⟨dates, zero, ?_, stepped, shown, ?_⟩
  · intro passed begun within date
    obtain ⟨before, rfl⟩ : ∃ before, passed = before + 1 := ⟨passed - 1, by omega⟩
    exact visited (before + 1) within date
  · intro todays first length fifth firstMonth isFirst four
    have reached := (visited count (Nat.le_refl count) (dates count)).mpr rfl
    have bounds := Date.inCentury_of_monthAfter begun (Nat.le_refl count) inside reached.inMonth
    have following : first.monthNumber = (dates count).monthNumber + window.months := by
      rw [firstMonth, Date.monthAfter_succ, reached.inMonth]
    have early := Date.year_lt_of_following bounds.2 following
    refine broken todays (.noSuchWeekday ordinal weekday first) length ?_
    intro today
    exact Date.weekdayAfter_of_countOn_lt early following isFirst (by omega)

/-- From the last day of July 2015 on a fifth Monday is found in August and missing in
September. -/
theorem history_numbered_weekdays_fifth_monday :
    let start : Date := ⟨2015, 7, 31, by decide⟩
    let tail := " water (|m+5m)".toList
    let note : Note := ⟨start.shownPattern, none, some (.onWeekday .month 5 .monday), tail⟩
    tail.getLast? ≠ some '\n' ∧ Note.read (start.canonical ++ tail) = .ok note ∧
      start.monthAfter .month 1 ≤ Date.centuryEnd.monthNumber ∧
      (∀ passed, 1 ≤ passed → passed ≤ 1 → ∀ first : Date,
        first.monthNumber = start.monthAfter .month passed → first.countOn .monday = 5) ∧
      history (start.canonical ++ tail)
          [⟨⟨2015, 8, 1, by decide⟩, 0, []⟩, ⟨Date.first, 0, []⟩] =
        ["15.08.31m water (|m+5m)".toList,
          "ERROR: No weekday #5 'm' in month starting 15.09.01t".toList] := by
  intro start tail note
  have unended : tail.getLast? ≠ some '\n' := by decide
  have read : Note.read (start.canonical ++ tail) = .ok note := by decide +kernel
  have inside : start.monthAfter .month 1 ≤ Date.centuryEnd.monthNumber := by decide
  have five : ∀ passed, 1 ≤ passed → passed ≤ 1 → ∀ first : Date,
      first.monthNumber = start.monthAfter .month passed → first.countOn .monday = 5 := by
    intro passed visited within first inMonth
    obtain rfl : passed = 1 := Nat.le_antisymm within visited
    have august : first.monthNumber = Date.monthNumber ⟨2015, 8, 1, by decide⟩ := inMonth
    rw [Date.countOn, Date.daysOfMonth_eq august]
    decide +kernel
  obtain ⟨dates, _, one, _, _, missing⟩ := history_numbered_weekdays start tail note .month 5
    .monday 1 (by decide) unended read rfl rfl rfl (by decide) inside fun _ => five
  have august : (⟨2015, 8, 31, by decide⟩ : Date) = dates 1 :=
    (one 1 (Nat.le_refl 1) (Nat.le_refl 1) _).mp ⟨by decide, by decide, .inl (by decide +kernel)⟩
  have lines := missing [⟨2015, 8, 1, by decide⟩, Date.first] ⟨2015, 9, 1, by decide⟩ rfl rfl
    (by decide) rfl (by decide +kernel)
  simp only [List.map_cons, List.map_nil, List.range'_succ, List.range'_zero, ← august] at lines
  exact ⟨unended, read, inside, five, lines.trans (by decide +kernel)⟩

end Tickler
