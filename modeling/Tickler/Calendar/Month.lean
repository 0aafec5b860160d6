/-!
# Lengths of years and months

Leap years follow the Gregorian rule in both directions from year one; year zero
and negative years are ordinary numbers here. Months are numbered from one. A
number outside one to twelve names no month and has length zero.
-/

namespace Tickler

/-- Every fourth year is a leap year, except the centuries not divisible by 400. -/
def isLeapYear (year : Int) : Bool :=
  year % 4 == 0 && (year % 100 != 0 || year % 400 == 0)

/-- The number of days in a numbered month of a year. -/
def monthLength (year : Int) : Nat → Nat
  | 1 | 3 | 5 | 7 | 8 | 10 | 12 => 31
  | 4 | 6 | 9 | 11 => 30
  | 2 => if isLeapYear year then 29 else 28
  | _ => 0

/-- The number of days of a year before a numbered month begins. -/
def daysBeforeMonth (year : Int) : Nat → Nat
  | 0 => 0
  | month + 1 => daysBeforeMonth year month + monthLength year month

/-- The number of days from the first day of year one to the first day of a
year. The three quotients count the leap days passed on the way; they round
down, so the formula also holds before year one. -/
def daysBeforeYear (year : Int) : Int :=
  let passed := year - 1
  365 * passed + passed / 4 - passed / 100 + passed / 400

/-- A month has 28 to 31 days. -/
theorem monthLength_bounds (year : Int) (month : Nat) (first : 1 ≤ month) (last : month ≤ 12) :
    28 ≤ monthLength year month ∧ monthLength year month ≤ 31 := by
  fun_cases monthLength year month <;> simp_all
  omega

/-- Twelve months make a year of 365 days, or 366 in a leap year. -/
theorem daysBeforeMonth_thirteen (year : Int) :
    daysBeforeMonth year 13 = if isLeapYear year then 366 else 365 := by
  simp only [daysBeforeMonth, monthLength]
  split <;> rfl

/-- Consecutive years begin one year's length apart. -/
theorem daysBeforeYear_succ (year : Int) :
    daysBeforeYear (year + 1) = daysBeforeYear year + daysBeforeMonth year 13 := by
  rw [daysBeforeMonth_thirteen]
  simp only [daysBeforeYear, isLeapYear]
  by_cases leap : (year % 4 == 0 && (year % 100 != 0 || year % 400 == 0)) = true
  · simp only [leap, if_true]
    simp at leap
    omega
  · simp only [leap]
    simp at leap
    simp
    omega

end Tickler
