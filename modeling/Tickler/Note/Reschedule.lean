import Tickler.Note.Note
import Tickler.Note.Resolution
import Tickler.Text.LineEnding

/-!
# Rescheduling a line

A line is rescheduled by working out the date that it stands for: its pattern is
resolved, its offset applied, the extra days added, and then, if its recurrence
counts, the next occurrence taken. The new line shows that date in canonical form
in front of the unchanged description, so it can be rescheduled again.
-/

namespace Tickler

/-- A note together with the date worked out for it. -/
structure Rescheduled where
  date : Date
  note : Note
deriving DecidableEq

/-- The new line. -/
def Rescheduled.text (rescheduled : Rescheduled) : List Char :=
  rescheduled.date.canonical ++ rescheduled.note.separator ++ rescheduled.note.description

namespace Note

/-- The date of a note before its recurrence is looked at. -/
def baseDate (note : Note) (today : Date) : Except Failure Date := do
  let resolved ← note.date.resolve today
  match note.offset with
  | some offset => offset.target resolved
  | none => .ok resolved

/-- The date of a note with a number of days added on top. -/
def dateOn (note : Note) (today : Date) (extraDays : Int) : Except Failure Date := do
  let base ← note.baseDate today
  let date ← base.addDays extraDays
  match note.recurrence with
  | some recurrence => if note.recurs extraDays then recurrence.next date today else .ok date
  | none => .ok date

/-- Unless a recurrence counts, the days are added to the base date and nothing follows. -/
theorem dateOn_of_still {note : Note} {extraDays : Int}
    (still : note.recurrence = none ∨ note.recurs extraDays = false) (today : Date) :
    note.dateOn today extraDays = note.baseDate today >>= fun base => base.addDays extraDays := by
  have kept (date : Date) : (match note.recurrence with
      | some recurrence => if note.recurs extraDays then recurrence.next date today else .ok date
      | none => .ok date) = (.ok date : Except Failure Date) := by
    rcases still with absent | suppressed
    · rw [absent]
    · cases note.recurrence <;> simp [suppressed]
  simp only [dateOn, kept]
  exact congrArg _ (funext fun base => bind_pure (base.addDays extraDays))

end Note

/-- Reschedule a line, whose line ending does not count. -/
def reschedule (line : List Char) (today : Date) (extraDays : Int) :
    Except Failure Rescheduled := do
  let note ← Note.read (withoutLineEnding line)
  let date ← note.dateOn today extraDays
  .ok { date, note }

/-- Of a line that is read, only the date of its note is left to be worked out. -/
theorem reschedule_of_read {line : List Char} {note : Note}
    (read : Note.read (withoutLineEnding line) = .ok note) (today : Date) (extraDays : Int) :
    reschedule line today extraDays =
      (note.dateOn today extraDays).map fun date => ⟨date, note⟩ := by
  simp only [reschedule, read, bind, Except.bind]
  cases note.dateOn today extraDays <;> rfl

/-- A line that is not read fails on every day. -/
theorem reschedule_of_refused {line : List Char} {failure : Failure}
    (refused : Note.read (withoutLineEnding line) = .error failure) (today : Date)
    (extraDays : Int) : reschedule line today extraDays = .error failure := by
  simp only [reschedule, refused, bind, Except.bind]

/-- The date that rescheduling a line leads to, or the failure. -/
def rescheduledDate (line : List Char) (today : Date) (extraDays : Int) : Except Failure Date :=
  (reschedule line today extraDays).map Rescheduled.date

/-- The date of a line is worked out from the note that is read. -/
theorem rescheduledDate_eq (line : List Char) (today : Date) (extraDays : Int) :
    rescheduledDate line today extraDays = (do
      let note ← Note.read (withoutLineEnding line)
      note.dateOn today extraDays) := by
  rw [rescheduledDate]
  cases read : Note.read (withoutLineEnding line) with
  | error failure =>
    rw [reschedule_of_refused read]
    rfl
  | ok note =>
    rw [reschedule_of_read read]
    simp only [bind, Except.bind]
    cases note.dateOn today extraDays <;> rfl

/-- The text that an attempt leaves in place of the line. -/
def outcomeText : Except Failure Rescheduled → List Char
  | .ok rescheduled => rescheduled.text
  | .error failure => failure.message

/-- The line after rescheduling; the message if it cannot be rescheduled. -/
def rescheduledLine (line : List Char) (today : Date) (extraDays : Int) : List Char :=
  outcomeText (reschedule line today extraDays)

/-- One visit to a kept line: text is added at its end before it is rescheduled. -/
structure Visit where
  today : Date
  extraDays : Int
  appended : List Char
deriving DecidableEq

/-- The line as each of a series of visits leaves it. -/
def history (line : List Char) : List Visit → List (List Char)
  | [] => []
  | visit :: later =>
      let next := rescheduledLine (line ++ visit.appended) visit.today visit.extraDays
      next :: history next later

/-- Each visit leaves one line. -/
theorem length_history (line : List Char) (visits : List Visit) :
    (history line visits).length = visits.length := by
  induction visits generalizing line with
  | nil => rfl
  | cons visit later inductionHypothesis =>
    rw [history, List.length_cons, List.length_cons, inductionHypothesis]

end Tickler
