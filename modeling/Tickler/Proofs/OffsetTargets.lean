import Tickler.Proofs.Succession

/-!
# Where offsets lead

A step of months leads to the month so many months away and there to the day with the same
number, or to the last day if the month is shorter. It is refused exactly where the calendar
has no such month. An offset takes such a step or one of days, by its amount or a multiple
of it, and no width of a word on the way loses a date that the calendar has.

Offsets keep the order of dates. Days keep their distance. Months keep apart what lies in
different months, and bring days of one month together only at the end of a shorter one.
-/

namespace Tickler

namespace Date

/-- A date lies a signed number of months away: in that month, on the same day or on the
last one that the month has. -/
structure IsMonthsAway (date : Date) (months : Int) (target : Date) : Prop where
  inMonth : target.monthNumber = date.monthNumber + months
  cutDay : target.day = min date.day (monthLength target.year target.month)

/-- A step of months leads to the date so many months away. -/
theorem stepMonths?_eq_some_iff (date target : Date) (months : Int) :
    date.stepMonths? months = some target ↔ date.IsMonthsAway months target := by
  rw [stepMonths?_eq, addMonths?_eq_some_iff]
  constructor
  · rintro ⟨inMonth, day⟩
    rw [← inMonth, lengthOfMonth_monthNumber] at day
    exact ⟨inMonth, day⟩
  · rintro ⟨inMonth, day⟩
    rw [← lengthOfMonth_monthNumber, inMonth] at day
    exact ⟨inMonth, day⟩

/-- There is a date so many months away exactly if the calendar has the month. -/
theorem exists_isMonthsAway_iff (date : Date) (months : Int) :
    (∃ target, date.IsMonthsAway months target) ↔ IsMonth (date.monthNumber + months) := by
  constructor
  · rintro ⟨target, away⟩
    rw [← away.inMonth]
    exact isMonth_monthNumber target
  · intro inside
    obtain ⟨start, inMonth, _⟩ := (isMonth_iff _).mp inside
    have valid := date.bounds
    have startValid := start.bounds
    have long := start.length_bounds.1
    have named : IsDate start.year start.month
        (min date.day (monthLength start.year start.month)) := by
      simp only [IsDate]
      omega
    exact ⟨⟨_, _, _, named⟩, inMonth, rfl⟩

/-- A step of months succeeds exactly where the calendar has the month. -/
theorem addMonths_iff (date : Date) (months : Int) :
    (∀ target, date.addMonths months = .ok target ↔ date.IsMonthsAway months target) ∧
      (date.addMonths months = .error .outOfRange ↔ ¬ IsMonth (date.monthNumber + months)) := by
  obtain ⟨reached, outside⟩ :=
    inCalendar_iff fun target => date.stepMonths?_eq_some_iff target months
  rw [exists_isMonthsAway_iff] at outside
  exact ⟨reached, outside⟩

/-- Days away are as far apart as the days that they are counted from. -/
theorem IsAway.dayNumber_sub {left right leftTarget rightTarget : Date} {days : Int}
    (leftAway : left.IsAway days leftTarget) (rightAway : right.IsAway days rightTarget) :
    rightTarget.dayNumber - leftTarget.dayNumber = right.dayNumber - left.dayNumber := by
  have leftNumber := (isAway_iff _ _ _).mp leftAway
  have rightNumber := (isAway_iff _ _ _).mp rightAway
  omega

/-- Months away the order of two dates is kept, and only days of one month that are both cut
to the length of a shorter one come together. -/
theorem IsMonthsAway.ordered {left right leftTarget rightTarget : Date} {months : Int}
    (earlier : left.dayNumber < right.dayNumber) (leftAway : left.IsMonthsAway months leftTarget)
    (rightAway : right.IsMonthsAway months rightTarget) :
    leftTarget.dayNumber ≤ rightTarget.dayNumber ∧
      (leftTarget = rightTarget ↔
        left.monthNumber = right.monthNumber ∧
          monthLength leftTarget.year leftTarget.month ≤ left.day) := by
  obtain ⟨leftMonth, leftDay⟩ := leftAway
  obtain ⟨rightMonth, rightDay⟩ := rightAway
  rcases (dayNumber_lt_iff left right).mp earlier with earlierMonth | ⟨sameMonth, earlierDay⟩
  · have before : leftTarget.dayNumber < rightTarget.dayNumber :=
      dayNumber_lt_of_monthNumber_lt (by omega)
    refine ⟨Int.le_of_lt before, ?_⟩
    constructor
    · rintro rfl
      omega
    · rintro ⟨same, _⟩
      omega
  · have sameTarget : leftTarget.monthNumber = rightTarget.monthNumber := by omega
    obtain ⟨sameYear, sameNumber⟩ := (monthNumber_eq_iff leftTarget rightTarget).mp sameTarget
    rw [← sameYear, ← sameNumber] at rightDay
    have apart := dayNumber_sub_of_monthNumber_eq sameTarget
    refine ⟨by omega, ?_⟩
    constructor
    · rintro rfl
      exact ⟨sameMonth, by omega⟩
    · rintro ⟨_, cut⟩
      exact eq_of_monthNumber sameTarget (by omega)

end Date

namespace Offset

/-- An offset leads from a date to a target: by its signed amount of days or of months, the
days of its weeks counted sevenfold and the months of its years twelvefold. -/
def LeadsTo (offset : Offset) (date target : Date) : Prop :=
  match offset.countedPeriod with
  | .day => date.IsAway offset.signedAmount target
  | .week => date.IsAway (7 * offset.signedAmount) target
  | .month => date.IsMonthsAway offset.signedAmount target
  | .year => date.IsMonthsAway (12 * offset.signedAmount) target

/-- What an offset leads to is the date so far away. -/
theorem target?_eq_some_iff (offset : Offset) (date target : Date) :
    offset.target? date = some target ↔ offset.LeadsTo date target := by
  have days (number : Int) : date.addDays? number = some target ↔ date.IsAway number target := by
    rw [← Date.stepDays?_eq, Date.stepDays?_eq_some_iff]
  have months (number : Int) :
      date.addMonths? number = some target ↔ date.IsMonthsAway number target := by
    rw [← Date.stepMonths?_eq, Date.stepMonths?_eq_some_iff]
  rw [target?_eq, LeadsTo]
  cases offset.countedPeriod with
  | day => exact days _
  | week => exact days _
  | month => exact months _
  | year => exact months _

/-- An offset succeeds exactly where the calendar has the date that it leads to. -/
theorem target_iff (offset : Offset) (date : Date) :
    (∀ target, offset.target date = .ok target ↔ offset.LeadsTo date target) ∧
      (offset.target date = .error .outOfRange ↔ ¬ ∃ target, offset.LeadsTo date target) :=
  inCalendar_iff (offset.target?_eq_some_iff date)

/-- A step of months from a date reaches the month counted out exactly, on the same day or
the last one of a shorter month, if that month is one of the calendar, and is out of range
otherwise. Every offset, whatever its sign, amount and period, leads to the date counted out
exactly if the calendar has it, and is out of range otherwise. -/
theorem target_exact (date : Date) :
    (∀ months : Int,
      let month := 12 * date.year + ((date.month : Int) - 1) + months
      (Date.first.monthNumber ≤ month ∧ month ≤ Date.last.monthNumber →
        ∃ target : Date, date.addMonths months = .ok target ∧
          12 * target.year + ((target.month : Int) - 1) = month ∧
          target.day = min date.day (monthLength target.year target.month)) ∧
        (¬ (Date.first.monthNumber ≤ month ∧ month ≤ Date.last.monthNumber) →
          date.addMonths months = .error .outOfRange)) ∧
      ∀ offset : Offset,
        (∀ target, offset.target date = .ok target ↔ offset.LeadsTo date target) ∧
          (offset.target date = .error .outOfRange ↔ ¬ ∃ target, offset.LeadsTo date target) := by
  have counted (date : Date) : date.monthNumber = 12 * date.year + ((date.month : Int) - 1) := by
    have valid := date.bounds
    simp only [Date.monthNumber]
    omega
  refine ⟨fun months => ?_, fun offset => offset.target_iff date⟩
  obtain ⟨reached, outside⟩ := date.addMonths_iff months
  simp only [← counted]
  constructor
  · intro inside
    obtain ⟨target, away⟩ := (date.exists_isMonthsAway_iff months).mpr inside
    exact ⟨target, (reached target).mpr away, away.inMonth, away.cutDay⟩
  · exact outside.mpr

-- Counted in months, the largest amount of years is no 32-bit word.
example : target ⟨.minus, some 4294967295, some .year⟩ Date.last = .error .outOfRange := by
  decide +kernel

/-- Offsets keep the order of two dates on which they succeed. Days and weeks keep their
distance. Months and years bring them together exactly if both lie in one month and are cut
to the last day of a month that is no longer than the earlier of the two days. -/
theorem target_ordered (offset : Offset) {left right leftTarget rightTarget : Date}
    (earlier : left.dayNumber < right.dayNumber) (leftReached : offset.target left = .ok leftTarget)
    (rightReached : offset.target right = .ok rightTarget) :
    leftTarget.dayNumber ≤ rightTarget.dayNumber ∧
      (offset.countedPeriod = .day ∨ offset.countedPeriod = .week →
        rightTarget.dayNumber - leftTarget.dayNumber = right.dayNumber - left.dayNumber) ∧
      (offset.countedPeriod = .month ∨ offset.countedPeriod = .year →
        (leftTarget = rightTarget ↔
          left.year = right.year ∧ left.month = right.month ∧
            monthLength leftTarget.year leftTarget.month ≤ left.day)) := by
  have leftLed := ((offset.target_iff left).1 leftTarget).mp leftReached
  have rightLed := ((offset.target_iff right).1 rightTarget).mp rightReached
  simp only [LeadsTo] at leftLed rightLed
  simp only [← and_assoc, ← Date.monthNumber_eq_iff]
  cases counted : offset.countedPeriod with
  | day =>
    rw [counted] at leftLed rightLed
    have apart := Date.IsAway.dayNumber_sub leftLed rightLed
    exact ⟨⟨by omega, fun _ => apart⟩, nofun⟩
  | week =>
    rw [counted] at leftLed rightLed
    have apart := Date.IsAway.dayNumber_sub leftLed rightLed
    exact ⟨⟨by omega, fun _ => apart⟩, nofun⟩
  | month =>
    rw [counted] at leftLed rightLed
    obtain ⟨ordered, together⟩ := Date.IsMonthsAway.ordered earlier leftLed rightLed
    exact ⟨⟨ordered, nofun⟩, fun _ => together⟩
  | year =>
    rw [counted] at leftLed rightLed
    obtain ⟨ordered, together⟩ := Date.IsMonthsAway.ordered earlier leftLed rightLed
    exact ⟨⟨ordered, nofun⟩, fun _ => together⟩

/-- The last two days of January 2015 come together a month later, on 28 February. -/
theorem target_ordered_end_of_january :
    let offset : Offset := ⟨.plus, none, some .month⟩
    let left : Date := ⟨2015, 1, 30, by decide⟩
    let right : Date := ⟨2015, 1, 31, by decide⟩
    let target : Date := ⟨2015, 2, 28, by decide⟩
    left.dayNumber < right.dayNumber ∧ offset.target left = .ok target ∧
      offset.target right = .ok target ∧ left.year = right.year ∧ left.month = right.month ∧
      monthLength target.year target.month ≤ left.day := by
  intro offset left right target
  have earlier : left.dayNumber < right.dayNumber := by decide
  have leftReached : offset.target left = .ok target := by decide +kernel
  have rightReached : offset.target right = .ok target := by decide +kernel
  obtain ⟨_, _, together⟩ := offset.target_ordered earlier leftReached rightReached
  exact ⟨earlier, leftReached, rightReached, (together (.inl rfl)).mp rfl⟩

end Offset

end Tickler
