import Tickler.Note.Offset

/-!
# Recurrences

A recurrence says when a note comes round again: an offset from today, an offset
from the note's own date, or a numbered weekday of the month that lies one month
or one year after the month of that date. A negative number counts from the end
of the month.

In a description a recurrence is spelled by a token: `+` or `>` with the digits
and the letter of an offset, or `|` with the letter of the window, a signed digit
and a weekday letter. The token stands at the start of the description or behind a
space or an opening parenthesis, and reaches to a space, a closing parenthesis or
the end. The leftmost token counts and all later ones are plain text.
-/

namespace Tickler

/-- How far ahead of a date the month of a numbered weekday lies. -/
inductive Window where
  | month
  | year
deriving DecidableEq, Repr, Inhabited

/-- The letter that spells a window. -/
def Window.letter : Window → Char
  | month => 'm'
  | year => 'y'

/-- The window that a letter spells. -/
def Window.ofLetter? : Char → Option Window
  | 'm' => some .month
  | 'y' => some .year
  | _ => none

/-- Only a window's own letter is read as that window. -/
theorem Window.ofLetter?_eq_some_iff (letter : Char) (window : Window) :
    ofLetter? letter = some window ↔ letter = window.letter := by
  constructor
  · intro named
    simp only [ofLetter?] at named
    split at named <;> cases named <;> rfl
  · rintro rfl
    cases window <;> rfl

/-- The number of months in a window. -/
def Window.months : Window → Int
  | month => 1
  | year => 12

/-- When a note comes round again. -/
inductive Recurrence where
  /-- At an offset from today. -/
  | fromToday (step : Offset)
  /-- At an offset from the note's own date. -/
  | fromDate (step : Offset)
  /-- On a numbered weekday of a later month. -/
  | onWeekday (window : Window) (ordinal : Int) (weekday : Weekday)
deriving DecidableEq, Repr

/-- The days on a weekday from the first day of a month to its end, in ascending order.
The walk ends where the number of the month changes. -/
def Date.weekdaysFrom (first : Date) (weekday : Weekday) : List Date :=
  (first.walk fun day => day.month == first.month).filter fun day => day.weekday = weekday

/-- The element at a signed position: from the front counting from one, from the
back counting down from minus one. Nothing stands at position zero, which the shift
by the length takes to the place behind the last element. -/
def ordinal? {α : Type} (items : List α) (ordinal : Int) : Option α :=
  let index := ordinal - 1
  let place := if index < 0 then index + (items.length + 1) else index
  if 0 ≤ place then items[place.toNat]? else none

/-- The numbered weekday of the month one window after the month of a date. The
day of the date plays no part, so a short month is never skipped. -/
def Date.weekdayAfter (date : Date) (window : Window) (ordinal : Int) (weekday : Weekday) :
    Except Failure Date := do
  let month ← date.monthStart.addMonths window.months
  match ordinal? (month.weekdaysFrom weekday) ordinal with
  | some day => .ok day
  | none => .error (.noSuchWeekday ordinal weekday month)

/-- The date on which a note with the given date comes round again. -/
def Recurrence.next (recurrence : Recurrence) (date today : Date) : Except Failure Date :=
  match recurrence with
  | .fromToday step => step.target today
  | .fromDate step => step.target date
  | .onWeekday window ordinal weekday => date.weekdayAfter window ordinal weekday

/-- A recurrence as typed. -/
inductive RecurrenceToken where
  | fromToday (step : Measure)
  | fromDate (step : Measure)
  | onWeekday (window : Window) (ordinal : Int) (weekday : Weekday)
deriving DecidableEq, Repr

namespace RecurrenceToken

/-- The signed number that a sign and one digit spell. -/
def ordinal? (sign digit : Char) : Option Int := do
  let sign ← Sign.ofLetter? sign
  if digit.isDigit then some (sign.signed (Decimal.value [digit])) else none

/-- Take a recurrence token off the front of a text. -/
def lead? : List Char → Option (RecurrenceToken × List Char)
  | '+' :: text =>
      let (step, rest) := Measure.lead text
      some (fromToday step, rest)
  | '>' :: text =>
      let (step, rest) := Measure.lead text
      some (fromDate step, rest)
  | '|' :: window :: sign :: digit :: weekday :: rest => do
      let window ← Window.ofLetter? window
      let ordinal ← ordinal? sign digit
      let weekday ← Weekday.ofLetter? weekday
      some (onWeekday window ordinal weekday, rest)
  | _ => none

/-- A recurrence token may begin behind one of these. -/
def openers : List Char := [' ', '(']

/-- A recurrence token reaches to one of these or the end. -/
def delimiters : List Char := [' ', ')']

/-- The token that a text begins with. -/
def atFront? (text : List Char) : Option RecurrenceToken :=
  (delimited? delimiters lead? text).map Prod.fst

/-- The leftmost token of a text, in front of which the start of the
description or an opener stands exactly if `opened`. -/
def scan? (opened : Bool) : List Char → Option RecurrenceToken
  | [] => none
  | character :: rest =>
      match if opened then atFront? (character :: rest) else none with
      | some token => some token
      | none => scan? (openers.contains character) rest

/-- The leftmost token of a description. -/
def find? (description : List Char) : Option RecurrenceToken := scan? true description

/-- The recurrence that a recurrence token stands for. Its offsets lead forward. -/
def recurrence : RecurrenceToken → Except Failure Recurrence
  | fromToday step => (step.offset .plus).map .fromToday
  | fromDate step => (step.offset .plus).map .fromDate
  | onWeekday window ordinal weekday => .ok (.onWeekday window ordinal weekday)

end RecurrenceToken

end Tickler
