import Tickler.Note.Recurrence

/-!
# Notes

A note is one line: a date token, an offset token directly behind it, and a
description, each of which may be missing. What is neither date nor offset belongs
to the description character for character, and so does the token that gives
the recurrence: finding it changes nothing.
-/

namespace Tickler

/-- The parts of a line. -/
structure Note where
  date : DatePattern
  offset : Option Offset
  recurrence : Option Recurrence
  description : List Char
deriving DecidableEq, Repr

namespace Note

/-- The offset that a token stands for, if there is a token. -/
def offsetOf : Option (Sign × Measure) → Except Failure (Option Offset)
  | none => .ok none
  | some (sign, measure) => (measure.offset sign).map some

/-- The recurrence that a description gives, if it holds a token of one. -/
def recurrenceOf (description : List Char) : Except Failure (Option Recurrence) :=
  match RecurrenceToken.find? description with
  | none => .ok none
  | some token => token.recurrence.map some

/-- The note that a line holds. Only an amount that is too large is refused, the
offset's before the recurrence's. -/
def read (line : List Char) : Except Failure Note :=
  let (date, afterDate) := DatePattern.lead line
  let (token, description) := Offset.lead afterDate
  do
    let offset ← offsetOf token
    let recurrence ← recurrenceOf description
    .ok { date, offset, recurrence, description }

/-- What stands between a date and the description: a space if the line was bare
text, and nothing if a token preceded the description or there is none. -/
def separator (note : Note) : List Char :=
  if note.date.isEmpty ∧ note.offset = none ∧ note.description ≠ [] then [' '] else []

/-- A recurrence counts only for a fully dated note that nothing else moves: it
has no offset, and no days are added. -/
def recurs (note : Note) (extraDays : Int) : Bool :=
  note.date.isFull && note.offset.isNone && extraDays == 0

end Note

end Tickler
