import Tickler.Calendar.DayNumber
import Tickler.Text.Decimal

/-!
# Canonical shorthand

The canonical form `YY.MM.DDw` shows the last two digits of the year, the month,
the day and the weekday letter. It has nine characters for every date of the
calendar. Because the century is not shown, dates of different centuries may
share their numbers; the weekday letter tells some of them apart.
-/

namespace Tickler.Date

/-- The number shown for a year: its place in the century, counted upward also
before year zero. -/
def yearOfCentury (date : Date) : Nat := (date.year % 100).toNat

/-- The canonical form, for instance `15.09.06u`. -/
def canonical (date : Date) : List Char :=
  Decimal.padded 2 date.yearOfCentury ++ '.' :: Decimal.padded 2 date.month ++
    '.' :: Decimal.padded 2 date.day ++ [date.weekday.letter]

/-- Two digits are enough for each number shown. -/
theorem numbers_lt (date : Date) :
    date.yearOfCentury < 100 ∧ date.month < 100 ∧ date.day < 100 := by
  have valid := date.bounds
  have short := date.length_bounds.2
  simp only [yearOfCentury]
  omega

/-- Each number shown is a run of two digits. -/
theorem isRun_numbers (date : Date) :
    Decimal.IsRun 2 (Decimal.padded 2 date.yearOfCentury) ∧
      Decimal.IsRun 2 (Decimal.padded 2 date.month) ∧
      Decimal.IsRun 2 (Decimal.padded 2 date.day) := by
  obtain ⟨yearFits, monthFits, dayFits⟩ := date.numbers_lt
  exact ⟨Decimal.isRun_padded (by decide) yearFits, Decimal.isRun_padded (by decide) monthFits,
    Decimal.isRun_padded (by decide) dayFits⟩

/-- Every canonical form has nine characters. -/
theorem length_canonical (date : Date) : date.canonical.length = 9 := by
  obtain ⟨yearFits, monthFits, dayFits⟩ := date.numbers_lt
  have year := @Decimal.length_padded 2 date.yearOfCentury (by decide) yearFits
  have month := @Decimal.length_padded 2 date.month (by decide) monthFits
  have day := @Decimal.length_padded 2 date.day (by decide) dayFits
  simp [canonical, year, month, day]

end Tickler.Date
