import Tickler.ReferenceDate
import Tickler.Proofs.FullDates
import Tickler.Proofs.History
import Tickler.Proofs.IsoReading

/-!
# Reference dates that were shown before

A date is shown as an ISO text or in canonical form, and either can be given back as the
date that stands for today. The ISO text gives the date itself. In it the hyphen is both
the sign of a year and the mark behind it, and the two never stand in each other's place: a
sign comes first, and digits come between it and the mark.

The canonical form gives the day of the century from 2000 on. It is read as a date token
because no ISO text lacks a hyphen and no date token has one.
-/

namespace Tickler

namespace Iso

/-- The written year of a date is a year: without a sign if it has four digits, and otherwise
with one. -/
theorem yearSpelled_written (year : Int) :
    YearSpelled ((if year < 0 then ['-'] else if year ≤ 9999 then [] else ['+']) ++
      Decimal.padded 4 year.natAbs) year := by
  have typed : Decimal.padded 4 year.natAbs ≠ [] := by
    simp [Decimal.padded, Decimal.digits_ne_nil]
  have decimal : ∀ digit ∈ Decimal.padded 4 year.natAbs, digit.isDigit = true :=
    fun _ written => Decimal.isDigit_of_mem_padded written
  have value := Decimal.value_padded 4 year.natAbs
  by_cases negative : year < 0
  · have spelled := YearSpelled.signed .minus typed decimal
    have minus : Sign.minus.signed year.natAbs = year := by
      simp only [Sign.signed]
      omega
    rw [value, minus] at spelled
    rw [if_pos negative]
    exact spelled
  · have same : (year.natAbs : Int) = year := by omega
    by_cases short : year ≤ 9999
    · have fits : year.natAbs < Nat.pow 10 4 := by
        have limit : Nat.pow 10 4 = 10000 := rfl
        omega
      have spelled := YearSpelled.unsigned (Decimal.isRun_padded (by decide) fits)
      rw [value, same] at spelled
      rw [if_neg negative, if_pos short]
      exact spelled
    · have spelled := YearSpelled.signed .plus typed decimal
      have plus : Sign.plus.signed year.natAbs = year := same
      rw [value, plus] at spelled
      rw [if_neg negative, if_neg short]
      exact spelled

end Iso

namespace Date

/-- The ISO text of a date spells its numbers, without any white space. -/
theorem spelled_iso (date : Date) : Iso.Spelled date.iso date.year date.month date.day := by
  obtain ⟨-, monthRun, dayRun⟩ := date.isRun_numbers
  have noBlanks : Iso.IsBlanks [] := by simp [Iso.IsBlanks]
  have spelled := Iso.Spelled.numbers noBlanks (Iso.yearSpelled_written date.year) noBlanks monthRun
    noBlanks dayRun
  simpa [iso, Decimal.value_padded] using spelled

/-- The ISO text of a date is read as that date. -/
theorem ofIso?_iso (date : Date) : ofIso? date.iso = some date :=
  (ofIso?_eq_some_iff _ date).mpr date.spelled_iso

/-- A text without a hyphen names no date by ISO. -/
theorem ofIso?_eq_none {text : List Char} (plain : '-' ∉ text) : ofIso? text = none := by
  cases read : ofIso? text with
  | none => rfl
  | some date => exact absurd ((ofIso?_eq_some_iff text date).mp read).hyphen_mem plain

end Date

/-- No date token has a hyphen in it. -/
theorem DatePattern.hyphen_not_mem_of_spelled {text : List Char} {pattern : DatePattern}
    (spelled : Spelled text pattern) : '-' ∉ text := by
  have other : ∀ character ∈ text, character ≠ '-' := by
    refine forall_mem_of_spelled spelled ?_ (by decide) fun weekday => by cases weekday <;> decide
    rintro digit decimal rfl
    simp at decimal
  exact fun hyphen => other _ hyphen rfl

/-- A date token alone is a line with nothing behind its date. -/
theorem Note.divided_of_spelled {text : List Char} {pattern : DatePattern}
    (spelled : DatePattern.Spelled text pattern) : Divided text (some pattern) none [] := by
  have token : DatePattern.token? (text ++ []) = some (pattern, []) :=
    DatePattern.token?_append spelled rfl
  rw [List.append_nil] at token
  rw [divided_iff, takeToken_of_eq_some token]
  exact ⟨rfl, rfl⟩

/-- A date token alone is read as a note with nothing but its date. -/
theorem Note.read_of_spelled {text : List Char} {pattern : DatePattern}
    (spelled : DatePattern.Spelled text pattern) : read text = .ok ⟨pattern, none, none, []⟩ := by
  rw [read_of_divided (divided_of_spelled spelled)]
  rfl

/-- A date token alone that names a date gives it as the reference date. -/
theorem referenceToken_of_names {text : List Char} {pattern : DatePattern}
    (spelled : DatePattern.Spelled text pattern) {date : Date} (names : pattern.Names date) :
    referenceToken text = .ok date := by
  simp only [referenceToken, Note.read_of_spelled spelled, names.full, and_self, if_true,
    DatePattern.resolve_of_names spelled names]
  rfl

/-- Such a token is no ISO text, so that its date is what is given. -/
theorem referenceDate_of_names {text : List Char} {pattern : DatePattern}
    (spelled : DatePattern.Spelled text pattern) {date : Date} (names : pattern.Names date) :
    referenceDate text = .ok date := by
  simp only [referenceDate, Date.ofIso?_eq_none (DatePattern.hyphen_not_mem_of_spelled spelled),
    referenceToken_of_names spelled names]

/-- The canonical form of a date names the date that it is read back as. -/
theorem Date.shownPattern_names (date : Date) : date.shownPattern.Names date.readBack where
  year := ⟨_, rfl, by
    have counted : 0 ≤ date.year % 100 := by omega
    rw [Int.toNat_of_nonneg counted, readBack]⟩
  month := rfl
  day := rfl

/-- A date that was shown can be given as the reference date. Its ISO text gives the date
itself, for every year of the calendar; its canonical form gives the same day of the century
from 2000 on. -/
theorem referenceDate_of_shown (date : Date) :
    referenceDate date.iso = .ok date ∧
      ∃ back, referenceDate date.canonical = .ok back ∧ back.year = 2000 + date.year % 100 ∧
        back.month = date.month ∧ back.day = date.day := by
  constructor
  · simp [referenceDate, date.ofIso?_iso]
  · exact ⟨date.readBack, referenceDate_of_names (DatePattern.spelled_canonical date)
      date.shownPattern_names, rfl, rfl, rfl⟩

end Tickler
