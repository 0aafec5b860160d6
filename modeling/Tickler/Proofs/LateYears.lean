import Tickler.Proofs.FullDates

/-!
# Full patterns with any numbers

The numbers of a full pattern may be far larger than a date token can spell. The pattern
stands for the date with its month and day in the year counted on from 2000, as long as the
calendar has that date. Otherwise the failure depends on the year alone: it repeats the three
numbers, or it is out of range where the year is no signed 32-bit word.

Between these two lie the last 2000 signed words. Each of them is taken for a year, but its sum
with 2000 is no word, and working out that sum ends the program.
-/

namespace Tickler.DatePattern

/-- A signed 32-bit word. -/
def IsSignedWord (number : Int) : Prop := -2147483648 ≤ number ∧ number ≤ 2147483647

/-- A date has the three numbers of a full pattern, whose year counts from 2000. -/
def HasNumbers (year month day : Nat) (date : Date) : Prop :=
  date.year = 2000 + (year : Int) ∧ date.month = month ∧ date.day = day

/-- Numbers name the date that has them. -/
theorem ofYmd?_eq_some_iff_hasNumbers (year month day : Nat) (date : Date) :
    Date.ofYmd? (2000 + year) month day = some date ↔ HasNumbers year month day date := by
  rw [Date.ofYmd?_eq_some_iff, HasNumbers]
  constructor
  · rintro ⟨sameYear, sameMonth, sameDay⟩
    exact ⟨sameYear.symm, sameMonth.symm, sameDay.symm⟩
  · rintro ⟨sameYear, sameMonth, sameDay⟩
    exact ⟨sameYear.symm, sameMonth.symm, sameDay.symm⟩

/-- The calendar ends long before the signed words do. -/
theorem not_hasNumbers_of_late {year : Nat} (late : ¬ IsSignedWord (2000 + year))
    (month day : Nat) (date : Date) : ¬ HasNumbers year month day date := by
  rintro ⟨sameYear, -, -⟩
  have bounds := date.bounds
  simp only [IsSignedWord, firstYear, lastYear] at late bounds
  omega

/-- A year that is no signed word is out of range. -/
theorem literal_of_wide {year : Nat} (wide : ¬ IsSignedWord year) (month day : Nat) :
    literal year month day = .error .outOfRange := by
  have size : UInt32.size = 4294967296 := rfl
  simp only [IsSignedWord] at wide
  have beyond : UInt32.size / 2 ≤ year := by omega
  rw [literal, absoluteYear, if_pos beyond]
  rfl

/-- A year whose sum alone is no signed word ends in an overflow. -/
theorem literal_of_late {year : Nat} (signed : IsSignedWord year)
    (late : ¬ IsSignedWord (2000 + year)) (month day : Nat) :
    literal year month day = .error .overflow := by
  have size : UInt32.size = 4294967296 := rfl
  simp only [IsSignedWord] at signed late
  have taken : ¬ UInt32.size / 2 ≤ year := by omega
  have overflows : UInt32.size / 2 ≤ 2000 + year := by omega
  rw [literal, absoluteYear, if_neg taken, if_pos overflows]
  rfl

/-- What a full pattern stands for, whatever its numbers and its weekday are and whatever
today is: the date that has its numbers. Where there is none the failure names the numbers, as
long as the year counted on from 2000 is a signed word, and is out of range as soon as the year
itself is none. In between the sum overflows. -/
theorem resolve_numbers_iff (year month day : Nat) (weekday : Option Weekday) (today : Date) :
    (∀ date, resolve ⟨some year, some month, some day, weekday⟩ today = .ok date ↔
      HasNumbers year month day date) ∧
    ∀ failure, resolve ⟨some year, some month, some day, weekday⟩ today = .error failure ↔
      (¬ ∃ date, HasNumbers year month day date) ∧
        ((IsSignedWord (2000 + year) ∧ failure = .invalidDate (2000 + year) month day) ∨
          (IsSignedWord year ∧ ¬ IsSignedWord (2000 + year) ∧ failure = .overflow) ∨
          (¬ IsSignedWord year ∧ failure = .outOfRange)) := by
  rw [resolve_of_numbers rfl rfl rfl]
  -- The sum is a signed word, or only the year is, or neither is.
  by_cases fits : IsSignedWord (2000 + year)
  · have signed : IsSignedWord year := by
      simp only [IsSignedWord] at fits ⊢
      omega
    have early : 2000 + year < UInt32.size / 2 := by
      have size : UInt32.size = 4294967296 := rfl
      simp only [IsSignedWord] at fits
      omega
    rw [literal_of_fits early]
    simp only [← ofYmd?_eq_some_iff_hasNumbers]
    cases named : Date.ofYmd? (2000 + year) month day with
    | some date => simp
    | none => simp [fits, signed, eq_comm]
  · have unnamed := not_hasNumbers_of_late fits month day
    by_cases signed : IsSignedWord year
    · rw [literal_of_late signed fits]
      simp [unnamed, fits, signed, eq_comm]
    · rw [literal_of_wide signed]
      simp [unnamed, fits, signed, eq_comm]

/-- A year that counts on beyond the signed words is not always out of range: the largest
signed word overflows. -/
theorem late_year_not_outOfRange :
    ¬ ∀ (year month day : Nat) (weekday : Option Weekday) (today : Date),
        year < UInt32.size → month < UInt32.size → day < UInt32.size →
        ¬ IsSignedWord (2000 + year) →
        resolve ⟨some year, some month, some day, weekday⟩ today = .error .outOfRange := by
  intro refused
  have late := refused 2147483647 1 1 none ⟨2015, 9, 6, by decide⟩ (by decide) (by decide)
    (by decide) (by simp [IsSignedWord])
  exact absurd late (by decide +kernel)

end Tickler.DatePattern
