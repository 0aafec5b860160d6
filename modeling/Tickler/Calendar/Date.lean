import Tickler.Calendar.Month

/-!
# Calendar dates

A date is a day of the proleptic Gregorian calendar between 1 January of year
-262143 and 31 December of year 262142. The bounds belong to the type, so every
operation that may leave the calendar says so by returning no date.

Month arithmetic moves the month exactly and then clamps the day to the length
of the month reached.
-/

namespace Tickler

/-- The first year of the calendar. -/
def firstYear : Int := -262143

/-- The last year of the calendar. -/
def lastYear : Int := 262142

/-- A year, month number and day number that together name a calendar date. -/
def IsDate (year : Int) (month day : Nat) : Prop :=
  firstYear ≤ year ∧ year ≤ lastYear ∧
    1 ≤ month ∧ month ≤ 12 ∧ 1 ≤ day ∧ day ≤ monthLength year month

instance (year : Int) (month day : Nat) : Decidable (IsDate year month day) := by
  simp only [IsDate]
  infer_instance

/-- A day of the calendar. -/
structure Date where
  year : Int
  month : Nat
  day : Nat
  valid : IsDate year month day
deriving DecidableEq

namespace Date

/-- The date with these numbers, if there is one. -/
def ofYmd? (year : Int) (month day : Nat) : Option Date :=
  if valid : IsDate year month day then some ⟨year, month, day, valid⟩ else none

/-- The earliest date. -/
def first : Date := ⟨firstYear, 1, 1, by decide⟩

/-- The latest date. -/
def last : Date := ⟨lastYear, 12, 31, by decide⟩

/-- Months counted from January of year zero. -/
def monthNumber (date : Date) : Int := 12 * date.year + (date.month - 1 : Nat)

/-- The day with a given number in a counted month, or that month's last day if
the month is shorter. -/
def inMonth? (count : Int) (day : Nat) : Option Date :=
  let year := count / 12
  let month := (count % 12).toNat + 1
  ofYmd? year month (min day (monthLength year month))

/-- The date a signed number of months away. A day that the month reached does
not have becomes that month's last day. -/
def addMonths? (date : Date) (months : Int) : Option Date :=
  inMonth? (date.monthNumber + months) date.day

/-- The first day of the month that a date lies in. -/
def monthStart (date : Date) : Date :=
  ⟨date.year, date.month, 1, by
    have valid := date.valid
    have long := (monthLength_bounds date.year date.month valid.2.2.1 valid.2.2.2.1).1
    simp only [IsDate] at valid ⊢
    omega⟩

/-- The days of the month that a date lies in, in ascending order. -/
def daysOfMonth (date : Date) : List Date :=
  (List.range' 1 (monthLength date.year date.month)).filterMap (ofYmd? date.year date.month)

/-- The numbers of a date with their bounds. -/
theorem bounds (date : Date) :
    firstYear ≤ date.year ∧ date.year ≤ lastYear ∧ 1 ≤ date.month ∧ date.month ≤ 12 ∧
      1 ≤ date.day ∧ date.day ≤ monthLength date.year date.month :=
  date.valid

/-- The month of a date has 28 to 31 days. -/
theorem length_bounds (date : Date) :
    28 ≤ monthLength date.year date.month ∧ monthLength date.year date.month ≤ 31 :=
  monthLength_bounds date.year date.month date.bounds.2.2.1 date.bounds.2.2.2.1

/-- The numbers of a date name that date. -/
theorem ofYmd?_self (date : Date) : ofYmd? date.year date.month date.day = some date := by
  simp [ofYmd?, date.valid]

/-- A date is named by its own three numbers only. -/
theorem ofYmd?_eq_some_iff (year : Int) (month day : Nat) (date : Date) :
    ofYmd? year month day = some date ↔
      year = date.year ∧ month = date.month ∧ day = date.day := by
  constructor
  · intro named
    simp only [ofYmd?] at named
    split at named
    · cases named
      exact ⟨rfl, rfl, rfl⟩
    · cases named
  · rintro ⟨rfl, rfl, rfl⟩
    exact ofYmd?_self date

/-- Numbers name no date exactly when they are not those of a calendar day. -/
theorem ofYmd?_eq_none_iff (year : Int) (month day : Nat) :
    ofYmd? year month day = none ↔ ¬ IsDate year month day := by
  simp only [ofYmd?]
  split <;> simp_all

/-- The month of a date is recovered from its count. -/
theorem monthNumber_parts (date : Date) :
    date.monthNumber / 12 = date.year ∧ (date.monthNumber % 12).toNat + 1 = date.month := by
  have valid := date.bounds
  simp only [monthNumber]
  omega

/-- Two dates with the same three numbers are the same date. -/
theorem eq_of_numbers {left right : Date} (sameYear : left.year = right.year)
    (sameMonth : left.month = right.month) (sameDay : left.day = right.day) : left = right := by
  cases left
  cases right
  simp_all

end Date

end Tickler
