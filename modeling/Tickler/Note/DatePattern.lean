import Tickler.Calendar.DayNumber
import Tickler.Text.Decimal
import Tickler.Text.Token

/-!
# Date patterns

A date pattern gives some of a year, a month, a day of the month and a weekday.
In a note it is typed as `Y.M.D`, `M.D` or `D`, each with an optional weekday
letter behind the day, or as a weekday letter alone. Each number has one or two
digits. The pattern that gives nothing has no spelling.

A pattern is full when year, month and day are given; a year alone narrows
nothing down.
-/

namespace Tickler

/-- What is given of a date. A year counts from 2000. -/
structure DatePattern where
  year : Option Nat := none
  month : Option Nat := none
  day : Option Nat := none
  weekday : Option Weekday := none
deriving DecidableEq, Repr, Inhabited

namespace DatePattern

/-- Nothing is given. -/
def isEmpty (pattern : DatePattern) : Bool :=
  pattern.year.isNone && pattern.month.isNone && pattern.day.isNone && pattern.weekday.isNone

/-- Year, month and day are given. -/
def isFull (pattern : DatePattern) : Bool :=
  pattern.year.isSome && pattern.month.isSome && pattern.day.isSome

/-- A date has the month, the day and the weekday that the pattern gives. The year
of the pattern plays no part. -/
def admits (pattern : DatePattern) (date : Date) : Bool :=
  pattern.month.all (· == date.month) && pattern.day.all (· == date.day) &&
    pattern.weekday.all (· == date.weekday)

/-- The partial form shown in messages: month, point, day and weekday letter, with
nothing in place of an absent part. -/
def text (pattern : DatePattern) : List Char :=
  (pattern.month.map Decimal.digits).getD [] ++ '.' ::
    (pattern.day.map Decimal.digits).getD [] ++
    (pattern.weekday.map fun weekday => [weekday.letter]).getD []

/-- Take a day of the month off the front of a text, and the weekday letter behind it. -/
def day? (text : List Char) : Option (DatePattern × List Char) := do
  let (day, afterDay) ← Decimal.lead? 2 text
  let (weekday, rest) := takeLetter Weekday.ofLetter? afterDay
  some ({ day := some day, weekday }, rest)

/-- Take a month and a day off the front of a text. -/
def monthDay? (text : List Char) : Option (DatePattern × List Char) := do
  let (month, afterMonth) ← Decimal.lead? 2 text
  let (pattern, rest) ← day? (← takeMark? '.' afterMonth)
  some ({ pattern with month := some month }, rest)

/-- Take a year, a month and a day off the front of a text. -/
def yearMonthDay? (text : List Char) : Option (DatePattern × List Char) := do
  let (year, afterYear) ← Decimal.lead? 2 text
  let (pattern, rest) ← monthDay? (← takeMark? '.' afterYear)
  some ({ pattern with year := some year }, rest)

/-- Take a weekday letter alone off the front of a text. -/
def weekday? (text : List Char) : Option (DatePattern × List Char) :=
  match takeLetter Weekday.ofLetter? text with
  | (some weekday, rest) => some ({ weekday := some weekday }, rest)
  | (none, _) => none

/-- The forms of a date token, the longest first. -/
def forms : List (List Char → Option (DatePattern × List Char)) :=
  [yearMonthDay?, monthDay?, day?, weekday?]

/-- A date token reaches to a space, a plus sign or the end. -/
def delimiters : List Char := [' ', '+']

/-- Read a date token by the first form that is delimited. -/
def token? (line : List Char) : Option (DatePattern × List Char) :=
  forms.findSome? fun form => delimited? delimiters form line

/-- Read the date token at the front of a line. Without one the pattern is empty
and all of the line remains. -/
def lead (line : List Char) : DatePattern × List Char :=
  let (pattern, rest) := takeToken token? line
  (pattern.getD {}, rest)

end DatePattern

end Tickler
