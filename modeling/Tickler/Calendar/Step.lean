import Tickler.Calendar.DayNumber

/-!
# Steps and walks

A step leads a signed number of days or months away. Its length is told apart from its
direction, and the calendar takes no longer step than the largest signed 32-bit word. A
step of months whose length is no 32-bit word at all is refused before the calendar sees it.
No date is lost by these limits: the longest step is longer than the calendar, so a step
that is refused for its length would have led out of it.

A walk goes on from a date day by day as long as a condition holds. It lists a day only if
another one follows, so that the last day of the calendar is never listed.
-/

namespace Tickler.Date

/-- The length of the longest step, the largest signed 32-bit word. -/
def longestStep : Nat := UInt32.size / 2 - 1

/-- A step by a movement: its length, if that is not beyond the longest, in its direction. -/
def step? (move : Int → Option Date) (steps : Int) : Option Date :=
  let length := steps.natAbs
  if longestStep < length then none
  else if 0 ≤ steps then move length
  else move (-length)

/-- The date that a step of days leads to. -/
def stepDays? (date : Date) (days : Int) : Option Date := step? date.addDays? days

/-- The date that a step of months leads to. -/
def stepMonths? (date : Date) (months : Int) : Option Date :=
  if UInt32.size ≤ months.natAbs then none else step? date.addMonths? months

/-- The number of days behind a date. -/
def daysLeft (date : Date) : Nat := (last.dayNumber - date.dayNumber).toNat

/-- A day on, one day fewer is left. -/
theorem daysLeft_lt {date next : Date} (following : date.addDays? 1 = some next) :
    next.daysLeft < date.daysLeft := by
  have moved := (addDays?_eq_some_iff date next 1).mp following
  have bounded := (dayNumber_bounds next).2
  simp only [daysLeft]
  omega

/-- The days from a date on, as long as each of them satisfies the condition and has a day
behind it. -/
def walk (condition : Date → Bool) (date : Date) : List Date :=
  match _ : date.addDays? 1 with
  | none => []
  | some next => if condition date then date :: walk condition next else []
termination_by date.daysLeft
decreasing_by exact daysLeft_lt ‹_›

/-- A step whose length is refused leads out of the calendar. -/
theorem step?_eq {move : Int → Option Date}
    (far : ∀ steps : Int, longestStep < steps.natAbs → move steps = none) (steps : Int) :
    step? move steps = move steps := by
  simp only [step?]
  split
  · rename_i long
    exact (far steps long).symm
  · split
    · rename_i forward
      rw [Int.natAbs_of_nonneg forward]
    · rename_i back
      rw [Int.ofNat_natAbs_of_nonpos (by omega), Int.neg_neg]

/-- The calendar has fewer days than the longest step. -/
theorem addDays?_of_far (date : Date) {days : Int} (far : longestStep < days.natAbs) :
    date.addDays? days = none := by
  cases reached : date.addDays? days with
  | none => rfl
  | some target =>
    have moved := (addDays?_eq_some_iff date target days).mp reached
    have bounds := dayNumber_bounds date
    have targetBounds := dayNumber_bounds target
    have firstDay : first.dayNumber = -95746130 := by decide
    have lastDay : last.dayNumber = 95745398 := by decide
    have word : longestStep = 2147483647 := rfl
    omega

/-- The calendar has fewer months than the longest step. -/
theorem addMonths?_of_far (date : Date) {months : Int} (far : longestStep < months.natAbs) :
    date.addMonths? months = none := by
  cases reached : date.addMonths? months with
  | none => rfl
  | some target =>
    simp only [addMonths?, inMonth?, ofYmd?_eq_some_iff] at reached
    have bounds := date.bounds
    have targetBounds := target.bounds
    have word : longestStep = 2147483647 := rfl
    simp only [firstYear, lastYear] at bounds targetBounds
    simp only [monthNumber] at reached
    omega

/-- A step of days leads to the date so many days away, wherever that is. -/
theorem stepDays?_eq (date : Date) (days : Int) : date.stepDays? days = date.addDays? days :=
  step?_eq (fun _ => addDays?_of_far date) days

/-- A step of months leads to the date so many months away, wherever that is. -/
theorem stepMonths?_eq (date : Date) (months : Int) :
    date.stepMonths? months = date.addMonths? months := by
  rw [stepMonths?, step?_eq fun _ => addMonths?_of_far date]
  split
  · rename_i wide
    have word : longestStep = 2147483647 := rfl
    have size : UInt32.size = 4294967296 := rfl
    exact (addMonths?_of_far date (by omega)).symm
  · rfl

/-- Without a day behind it no day is listed. -/
theorem walk_of_end {date : Date} (ended : date.addDays? 1 = none) (condition : Date → Bool) :
    date.walk condition = [] := by
  rw [walk.eq_def]
  split
  · rfl
  · rename_i next following
    rw [ended] at following
    cases following

/-- A day that has a day behind it is listed in front of the walk from there, if it
satisfies the condition; otherwise the walk ends before it. -/
theorem walk_of_next {date next : Date} (following : date.addDays? 1 = some next)
    (condition : Date → Bool) :
    date.walk condition = if condition date then date :: next.walk condition else [] := by
  rw [walk.eq_def]
  split
  · rename_i ended
    rw [following] at ended
    cases ended
  · rename_i other otherFollowing
    rw [following] at otherFollowing
    cases otherFollowing
    rfl

end Tickler.Date
