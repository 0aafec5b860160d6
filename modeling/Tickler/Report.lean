import Tickler.Calendar.Iso
import Tickler.Json.Json
import Tickler.Note.Reschedule
import Tickler.Style

/-!
# Reports

What is shown for a line or for today: either the plain text or a JSON document
that also tells how the text came about. The keys of every object of a document
stand in ascending order, and an absent part of a note is shown as null. A document
has the members `date` and `fields` if the line could be rescheduled, and the member
`error` if it could not.
-/

namespace Tickler

/-- The name of a weekday in a report. -/
def Weekday.json (weekday : Weekday) : Json := .text weekday.abbreviation

/-- A date in a report. -/
def Date.json (date : Date) : Json := .text date.iso

/-- A part that may be absent. -/
def Json.optional {α : Type} (shown : α → Json) : Option α → Json
  | some value => shown value
  | none => .null

/-- A natural number in a report. -/
def Json.natural (number : Nat) : Json := .integer number

/-- The parts of a date pattern. -/
def DatePattern.json (pattern : DatePattern) : Json :=
  .object [
    ("day".toList, .optional .natural pattern.day),
    ("month".toList, .optional .natural pattern.month),
    ("weekday".toList, .optional Weekday.json pattern.weekday),
    ("year".toList, .optional .natural pattern.year)]

/-- The name of a sign. -/
def Sign.json : Sign → Json
  | plus => .text "plus".toList
  | minus => .text "minus".toList

/-- The name of a period. -/
def Period.json : Period → Json
  | day => .text "day".toList
  | week => .text "week".toList
  | month => .text "month".toList
  | year => .text "year".toList

/-- The name of a window. -/
def Window.json : Window → Json
  | month => .text "month".toList
  | year => .text "year".toList

/-- The parts of an offset. -/
def Offset.json (offset : Offset) : Json :=
  .object [
    ("amount".toList, .optional .natural offset.amount),
    ("sign".toList, offset.sign.json),
    ("unit".toList, .optional Period.json offset.period)]

/-- The parts of an offset that recurs, under the name of its kind. -/
def Offset.recurringJson (kind : List Char) (step : Offset) : Json :=
  .object [
    ("amount".toList, .optional .natural step.amount),
    ("sign".toList, step.sign.json),
    ("type".toList, .text kind),
    ("unit".toList, .optional Period.json step.period)]

/-- The kind and the parts of a recurrence. -/
def Recurrence.json : Recurrence → Json
  | fromToday step => step.recurringJson "fixed_advance".toList
  | fromDate step => step.recurringJson "jump_forward".toList
  | onWeekday window ordinal weekday =>
      .object [
        ("ordinal".toList, .integer ordinal),
        ("type".toList, .text "nth_weekday".toList),
        ("weekday".toList, weekday.json),
        ("window".toList, window.json)]

/-- The parts of a note. -/
def Note.json (note : Note) : Json :=
  .object [
    ("date".toList, note.date.json),
    ("description".toList, .text note.description),
    ("offset".toList, .optional Offset.json note.offset),
    ("repeat".toList, .optional Recurrence.json note.recurrence)]

/-- The document about an attempt to reschedule a line. -/
def attemptJson (line : List Char) (today : Date) (extraDays : Int)
    (attempt : Except Failure Rescheduled) : Json :=
  let result := Json.text (outcomeText attempt)
  match attempt with
  | .ok rescheduled =>
      .object [
        ("date".toList, rescheduled.date.json),
        ("fields".toList, rescheduled.note.json),
        ("input".toList, .text line),
        ("plus".toList, .integer extraDays),
        ("result".toList, result),
        ("today".toList, today.json)]
  | .error _ =>
      .object [
        ("error".toList, result),
        ("input".toList, .text line),
        ("plus".toList, .integer extraDays),
        ("result".toList, result),
        ("today".toList, today.json)]

/-- The document about today. -/
def todayJson (today : Date) : Json :=
  .object [("formatted".toList, .text today.canonical), ("today".toList, today.json)]

/-- What is shown for a line. -/
def showLine (line : List Char) (today : Date) (extraDays : Int) : Style → List Char
  | .plain => rescheduledLine line today extraDays
  | .json => (attemptJson line today extraDays (reschedule line today extraDays)).document

/-- What is shown for today. -/
def showToday (today : Date) : Style → List Char
  | .plain => today.canonical
  | .json => (todayJson today).document

end Tickler
