import Tickler.Calendar.Iso
import Tickler.Note.Note
import Tickler.Note.Resolution

/-!
# Reference dates

The date that stands for today may be given as an ISO text or as a full date token
and nothing else. The two forms have no text in common.
-/

namespace Tickler

/-- Why a text gives no reference date. -/
inductive ReferenceDateFault where
  /-- The text has neither of the two forms. -/
  | unrecognised (value : List Char)
  /-- The text is read as a note that cannot be, or names no date. -/
  | failed (failure : Failure)
deriving DecidableEq

/-- The message of a fault. -/
def ReferenceDateFault.message : ReferenceDateFault → List Char
  | unrecognised value =>
      "expected YY.MM.DD or YYYY-MM-DD, got '".toList ++ value ++ ['\'']
  | failed failure => failure.message

/-- The date that a full date token alone stands for. Such a date is the same on
every day, so any day will do for today. -/
def referenceToken (value : List Char) : Except ReferenceDateFault Date :=
  match Note.read value with
  | .error failure => .error (.failed failure)
  | .ok note =>
      if note.date.isFull ∧ note.offset = none ∧ note.description = [] then
        (note.date.resolve Date.first).mapError .failed
      else .error (.unrecognised value)

/-- The reference date that a text gives. -/
def referenceDate (value : List Char) : Except ReferenceDateFault Date :=
  match Date.ofIso? value with
  | some date => .ok date
  | none => referenceToken value

end Tickler
