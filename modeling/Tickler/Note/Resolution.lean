import Tickler.Note.Offset

/-!
# Resolving date patterns

An empty pattern stands for today. A full pattern stands for the one date with its
numbers, whose weekday is not checked. Any other pattern stands for the first date
after today that it admits, within ten years of 365 days.
-/

namespace Tickler.DatePattern

/-- The number of days after today among which a date is sought. -/
def searchDays : Nat := 3650

/-- The first of the given number of days after `date` that the pattern admits. -/
def search (pattern : DatePattern) : Nat → Date → Except Failure Date
  | 0, date => .error (.unresolvable pattern date)
  | days + 1, date => do
      let next ← inCalendar (date.addDays? 1)
      if pattern.admits next then .ok next else search pattern days next

/-- The year that a number stands for, counted on from 2000. Years are signed 32-bit words.
A number that is none is beyond every calendar, but one that is a word is counted on without
another look, so that the sum may be none. -/
def absoluteYear (year : Nat) : Except Failure Int :=
  if UInt32.size / 2 ≤ year then .error .outOfRange
  else if UInt32.size / 2 ≤ 2000 + year then .error .overflow
  else .ok (2000 + year)

/-- A year whose sum fits a signed word is counted on from 2000 exactly. -/
theorem absoluteYear_eq {year : Nat} (fits : 2000 + year < UInt32.size / 2) :
    absoluteYear year = .ok (2000 + year) := by
  have signed : ¬ UInt32.size / 2 ≤ year := by omega
  rw [absoluteYear, if_neg signed, if_neg (Nat.not_le.mpr fits)]

/-- The date with all three numbers given. -/
def literal (year month day : Nat) : Except Failure Date := do
  let absolute ← absoluteYear year
  match Date.ofYmd? absolute month day with
  | some date => .ok date
  | none => .error (.invalidDate absolute month day)

/-- Numbers whose year fits fail only for want of a date, which is then said with them. -/
theorem literal_of_fits {year : Nat} (fits : 2000 + year < UInt32.size / 2) (month day : Nat) :
    literal year month day = match Date.ofYmd? (2000 + year) month day with
      | some date => .ok date
      | none => .error (.invalidDate (2000 + year) month day) := by
  simp only [literal, absoluteYear_eq fits]
  rfl

/-- The date that a pattern stands for. -/
def resolve (pattern : DatePattern) (today : Date) : Except Failure Date :=
  if pattern.isEmpty then .ok today
  else match pattern.year, pattern.month, pattern.day with
    | some year, some month, some day => literal year month day
    | _, _, _ => pattern.search searchDays today

end Tickler.DatePattern
