import Tickler.Note.Offset
import Tickler.Proofs.DateSearch
import Tickler.Proofs.Months

/-!
# From day to day

Every date but the last is followed by one other: the next day of its month, the first day of
the next month, or New Year's Day. The lengths of the months decide which, so that the leap
years are told by the calendar itself and by no formula for whole years.

The number of a date counts these steps. By induction on the steps, two dates whose numbers
differ by some days lie just so many steps apart, and a signed number of days leads there
whenever the calendar has the date. The word sizes that a step of days passes through leave
no trace: the sum of two numbers of days leads to where one leads after the other.
-/

namespace Tickler.Date

/-- One date follows another in the calendar. -/
inductive Follows : Date → Date → Prop
  | inMonth {date next : Date} (sameYear : next.year = date.year)
      (sameMonth : next.month = date.month) (nextDay : next.day = date.day + 1) :
      Follows date next
  | inYear {date next : Date} (ended : date.day = monthLength date.year date.month)
      (sameYear : next.year = date.year) (nextMonth : next.month = date.month + 1)
      (firstDay : next.day = 1) : Follows date next
  | newYear {date next : Date} (december : date.month = 12) (ended : date.day = 31)
      (nextYear : next.year = date.year + 1) (january : next.month = 1)
      (firstDay : next.day = 1) : Follows date next

/-- A date comes a number of days after another: so many dates follow one another. -/
inductive Later : Nat → Date → Date → Prop
  | same (date : Date) : Later 0 date date
  | next {days : Nat} {date middle target : Date} (before : Later days date middle)
      (follows : Follows middle target) : Later (days + 1) date target

/-- A date lies a signed number of days away, after the other or, if the number is
negative, before it. -/
def IsAway (date : Date) : Int → Date → Prop
  | .ofNat days, target => Later days date target
  | .negSucc days, target => Later (days + 1) target date

/-- The date that follows has the next number. -/
theorem Follows.dayNumber_eq {date next : Date} (follows : Follows date next) :
    next.dayNumber = date.dayNumber + 1 := by
  have valid := date.bounds
  cases follows with
  | inMonth sameYear sameMonth nextDay =>
    rw [dayNumber, dayNumber, sameYear, sameMonth, nextDay]
    omega
  | inYear ended sameYear nextMonth firstDay =>
    rw [dayNumber, dayNumber, sameYear, nextMonth, firstDay, daysBeforeMonth, ended]
    omega
  | newYear december ended nextYear january firstDay =>
    have year : daysBeforeMonth date.year 13 = daysBeforeMonth date.year 12 + 31 := rfl
    have none : daysBeforeMonth next.year 1 = 0 := rfl
    rw [dayNumber, dayNumber, january, none, firstDay, nextYear, daysBeforeYear_succ, year,
      december, ended]
    omega

/-- Only the last day of the calendar is followed by no other. -/
theorem exists_follows {date : Date} (notLast : date ≠ last) : ∃ next, Follows date next := by
  have valid := date.bounds
  by_cases running : date.day < monthLength date.year date.month
  · have named : IsDate date.year date.month (date.day + 1) := by
      simp only [IsDate]
      omega
    exact ⟨⟨_, _, _, named⟩, .inMonth rfl rfl rfl⟩
  · have ended : date.day = monthLength date.year date.month := by omega
    by_cases december : date.month = 12
    · have days : date.day = 31 := by rw [ended, december]; rfl
      have notFinal : date.year ≠ lastYear := by
        intro final
        exact notLast (eq_of_numbers final december days)
      have named : IsDate (date.year + 1) 1 1 := by
        simp only [IsDate, monthLength]
        omega
      exact ⟨⟨_, _, _, named⟩, .newYear december days rfl rfl rfl⟩
    · have long := (monthLength_bounds date.year (date.month + 1) (by omega) (by omega)).1
      have named : IsDate date.year (date.month + 1) 1 := by
        simp only [IsDate]
        omega
      exact ⟨⟨_, _, _, named⟩, .inYear ended rfl rfl rfl⟩

/-- One date follows another exactly if it has the next number. -/
theorem follows_iff (date next : Date) :
    Follows date next ↔ next.dayNumber = date.dayNumber + 1 := by
  constructor
  · exact Follows.dayNumber_eq
  · intro numbered
    have notLast : date ≠ last := by
      rintro rfl
      have bounded := (dayNumber_bounds next).2
      omega
    obtain ⟨other, follows⟩ := exists_follows notLast
    have same : other = next := dayNumber_injective (follows.dayNumber_eq.trans numbered.symm)
    exact same ▸ follows

/-- The numbers of dates count the days from one to the other. The induction is on the
days: the date before the last step is the one with the number before. -/
theorem later_iff (days : Nat) (date target : Date) :
    Later days date target ↔ target.dayNumber = date.dayNumber + days := by
  induction days generalizing target with
  | zero =>
    constructor
    · rintro ⟨⟩
      simp
    · intro numbered
      have same : date = target := dayNumber_injective (by omega)
      exact same ▸ .same date
  | succ days inductionHypothesis =>
    constructor
    · rintro (_ | ⟨before, follows⟩)
      have reached := (inductionHypothesis _).mp before
      have numbered := follows.dayNumber_eq
      omega
    · intro numbered
      have begun : date.dayNumber ≤ date.dayNumber + days := by omega
      have within : date.dayNumber + days ≤ target.dayNumber := by omega
      obtain ⟨middle, reached⟩ := exists_of_between begun within
      exact .next ((inductionHypothesis middle).mpr reached)
        ((follows_iff middle target).mpr (by omega))

/-- A signed number of days is the difference of two numbers. -/
theorem isAway_iff (date : Date) (days : Int) (target : Date) :
    date.IsAway days target ↔ target.dayNumber = date.dayNumber + days := by
  cases days with
  | ofNat days => exact later_iff days date target
  | negSucc days =>
    rw [IsAway, later_iff]
    omega

/-- A step of days leads to the date so many days away. -/
theorem stepDays?_eq_some_iff (date target : Date) (days : Int) :
    date.stepDays? days = some target ↔ date.IsAway days target := by
  rw [stepDays?_eq, addDays?_eq_some_iff, isAway_iff]

/-- Days are added exactly where the calendar has the date so many days away. -/
theorem addDays_iff (date : Date) (days : Int) :
    (∀ target, date.addDays days = .ok target ↔ date.IsAway days target) ∧
      (date.addDays days = .error .outOfRange ↔ ¬ ∃ target, date.IsAway days target) :=
  inCalendar_iff fun target => date.stepDays?_eq_some_iff target days

/-- A step of days leads to the one date that lies so many days away in the calendar, step
by step, and is out of range exactly if the calendar has no such date. Steps add up: what
follows a step that succeeds is the step by the sum, whether it succeeds or not. -/
theorem addDays_exact (date : Date) (days : Int) :
    (∀ target, date.addDays days = .ok target ↔ date.IsAway days target) ∧
      (date.addDays days = .error .outOfRange ↔ ¬ ∃ target, date.IsAway days target) ∧
      ∀ target further, date.addDays days = .ok target →
        target.addDays further = date.addDays (days + further) := by
  obtain ⟨reached, outside⟩ := addDays_iff date days
  refine ⟨reached, outside, ?_⟩
  intro target further stepped
  have moved := (isAway_iff _ _ _).mp ((reached target).mp stepped)
  rw [addDays, addDays, stepDays?_eq, stepDays?_eq, addDays?, addDays?, moved, Int.add_assoc]

-- The length of the least signed 64-bit word is no such word itself.
example : first.addDays (-9223372036854775808) = .error .outOfRange := by decide +kernel

end Tickler.Date
