import Tickler.Proofs.CanonicalLine

/-!
# Lines that are rescheduled again and again

A line that is rescheduled over and over carries its state in its text: the canonical
date in front and the tail behind it. The century of the date is lost in between, so
that each step starts from the date with the same place in the century from 2000 on.

The course of dates is therefore that of a machine which knows no text. Its state is a
date, and the recurrence is fixed from the first line on. Each step of a kept line is
one step of the machine, and by induction on the steps a whole history is the machine's
course with the one tail behind every date, up to the first failure.
-/

namespace Tickler

/-- Moving a year to the century from 2000 on keeps its leap days: a leap year's place in
the century is divisible by four, and the year 2000 itself is a leap year. -/
theorem isLeapYear_century {year : Int} (leap : isLeapYear year = true) :
    isLeapYear (2000 + year % 100) = true := by
  simp only [isLeapYear, Bool.and_eq_true, Bool.or_eq_true, beq_iff_eq, bne_iff_ne] at leap ⊢
  omega

/-- No month becomes shorter by moving its year to the century from 2000 on. -/
theorem monthLength_le_century (year : Int) (month : Nat) :
    monthLength year month ≤ monthLength (2000 + year % 100) month := by
  fun_cases monthLength year month with
  | case12 leap => simp [monthLength, isLeapYear_century leap]
  | case13 common =>
    simp only [monthLength]
    split <;> omega
  | _ => simp [monthLength]

namespace Date

/-- In the century from 2000 on every date has its day. -/
theorem isDate_century (date : Date) :
    IsDate (2000 + date.year % 100) date.month date.day := by
  have valid := date.valid
  have long := monthLength_le_century date.year date.month
  simp only [IsDate, firstYear, lastYear] at valid ⊢
  omega

/-- The date that the canonical form of a date is read back as: the same day in the
century from 2000 on. -/
def readBack (date : Date) : Date :=
  ⟨2000 + date.year % 100, date.month, date.day, date.isDate_century⟩

/-- The pattern of a canonical form gives all there is to a full date. -/
theorem shownPattern_given (date : Date) :
    date.shownPattern.isEmpty = false ∧ date.shownPattern.isFull = true := ⟨rfl, rfl⟩

/-- The pattern of a canonical form stands for the date read back, whatever today is. -/
theorem resolve_shownPattern (date today : Date) :
    date.shownPattern.resolve today = .ok date.readBack := by
  have word : UInt32.size = 4294967296 := rfl
  have fits : 2000 + (date.year % 100).toNat < UInt32.size / 2 := by omega
  have counted : 2000 + ((date.year % 100).toNat : Int) = date.readBack.year := by
    rw [readBack, Int.toNat_of_nonneg (by omega)]
  have named : ofYmd? date.readBack.year date.month date.day = some date.readBack :=
    ofYmd?_self date.readBack
  simp only [DatePattern.resolve, date.shownPattern_given.1, Bool.false_eq_true, if_false]
  simp only [shownPattern, DatePattern.literal_of_fits fits, counted, named]

end Date

/-- One step of the machine. Extra days are added to the date read back and switch the
recurrence off; without them a recurrence takes the next date, and without either the
date read back stays. -/
def advance (recurrence : Option Recurrence) (date today : Date) (extraDays : Int) :
    Except Failure Date :=
  if extraDays ≠ 0 then date.readBack.addDays extraDays
  else match recurrence with
    | some recurrence => recurrence.next date.readBack today
    | none => .ok date.readBack

/-- The outcomes of the machine's steps from a date on, each step given by its today and
its extra days. The first failure ends the course. -/
def course (recurrence : Option Recurrence) (date : Date) :
    List (Date × Int) → List (Except Failure Date)
  | [] => []
  | (today, extraDays) :: later =>
      match advance recurrence date today extraDays with
      | .ok next => .ok next :: course recurrence next later
      | .error failure => [.error failure]

/-- The line that shows an outcome: the date in front of the tail, or the message. -/
def outcomeLine (tail : List Char) : Except Failure Date → List Char
  | .ok date => date.canonical ++ tail
  | .error failure => failure.message

/-- A line that is read as a note shows the outcome of the note's date in front of its tail. -/
theorem rescheduledLine_of_read {line : List Char} {note : Note}
    (read : Note.read (withoutLineEnding line) = .ok note) (today : Date) (extraDays : Int) :
    rescheduledLine line today extraDays = outcomeLine note.tail (note.dateOn today extraDays) := by
  rw [rescheduledLine, reschedule_of_read read]
  cases note.dateOn today extraDays with
  | error failure => rfl
  | ok date => simp only [Except.map, outcomeText, Rescheduled.text_eq, outcomeLine]

/-- A line that is not read becomes the message of what it is refused for. -/
theorem rescheduledLine_of_refused {line : List Char} {failure : Failure}
    (refused : Note.read (withoutLineEnding line) = .error failure) (today : Date)
    (extraDays : Int) : rescheduledLine line today extraDays = failure.message := by
  rw [rescheduledLine, reschedule_of_refused refused, outcomeText]

/-- A visit that adds no text to the line. -/
def Visit.bare (step : Date × Int) : Visit := ⟨step.1, step.2, []⟩

/-- A note with a canonical date and no offset moves as the machine does. -/
theorem Note.dateOn_shownPattern (date today : Date) (extraDays : Int)
    (recurrence : Option Recurrence) (tail : List Char) :
    Note.dateOn ⟨date.shownPattern, none, recurrence, tail⟩ today extraDays =
      advance recurrence date today extraDays := by
  have base : Note.baseDate ⟨date.shownPattern, none, recurrence, tail⟩ today =
      .ok date.readBack := by
    simp [baseDate, date.resolve_shownPattern today, bind, Except.bind]
  by_cases still : extraDays = 0
  · subst still
    cases recurrence with
    | none => simp [dateOn, base, advance, Date.addDays_zero, bind, Except.bind]
    | some recurrence =>
      simp [dateOn, base, advance, Date.addDays_zero, recurs, date.shownPattern_given.2, bind,
        Except.bind]
  · cases moved : date.readBack.addDays extraDays with
    | error failure => simp [dateOn, base, advance, still, moved, bind, Except.bind]
    | ok next =>
      cases recurrence <;> simp [dateOn, base, advance, still, moved, recurs, bind, Except.bind]

/-- A line with a canonical date does not end in a line feed unless its tail does. -/
theorem getLast?_canonical_append (date : Date) {tail : List Char}
    (unended : tail.getLast? ≠ some '\n') : (date.canonical ++ tail).getLast? ≠ some '\n' := by
  have lettered : date.canonical.getLast? = some date.weekday.letter := List.getLast?_concat
  have other : date.weekday.letter ≠ '\n' := by cases date.weekday <;> decide
  cases last : tail.getLast? with
  | none => simpa [List.getLast?_append, last, lettered] using other
  | some character =>
    rw [last] at unended
    simpa [List.getLast?_append, last] using unended

/-- A line with a canonical date is read as that date and its tail, with nothing taken off its
end. -/
theorem read_canonical_append (date : Date) {tail : List Char} (isTail : IsTail tail)
    (unended : tail.getLast? ≠ some '\n') {recurrence : Option Recurrence}
    (found : Note.recurrenceOf tail = .ok recurrence) :
    Note.read (withoutLineEnding (date.canonical ++ tail)) =
      .ok ⟨date.shownPattern, none, recurrence, tail⟩ := by
  rw [withoutLineEnding_of_getLast? (getLast?_canonical_append date unended)]
  exact Note.read_canonical_append date isTail found

/-- Rescheduling a kept line is one step of the machine. What is kept is the note as it was
read, with the tail for its description. -/
theorem reschedule_canonical_append (date : Date) {tail : List Char} (isTail : IsTail tail)
    (unended : tail.getLast? ≠ some '\n') {recurrence : Option Recurrence}
    (found : Note.recurrenceOf tail = .ok recurrence) (today : Date) (extraDays : Int) :
    reschedule (date.canonical ++ tail) today extraDays =
      (advance recurrence date today extraDays).map fun next =>
        ⟨next, ⟨date.shownPattern, none, recurrence, tail⟩⟩ := by
  rw [reschedule_of_read (read_canonical_append date isTail unended found),
    Note.dateOn_shownPattern]

/-- One step of a kept line is one step of the machine: the new line shows the outcome of
the machine's step in front of the same tail. -/
theorem rescheduledLine_canonical_append (date : Date) {tail : List Char} (isTail : IsTail tail)
    (unended : tail.getLast? ≠ some '\n') {recurrence : Option Recurrence}
    (found : Note.recurrenceOf tail = .ok recurrence) (today : Date) (extraDays : Int) :
    rescheduledLine (date.canonical ++ tail) today extraDays =
      outcomeLine tail (advance recurrence date today extraDays) := by
  rw [rescheduledLine_of_read (read_canonical_append date isTail unended found),
    Note.dateOn_shownPattern, Note.tail_eq_description (.inl rfl)]

/-- The lines of a history that starts from a canonical date are those of the machine's
course, as far as the course goes. The induction is on the steps; each of them keeps the
tail and with it the recurrence, so that only the date changes. -/
theorem history_canonical_append {tail : List Char} (isTail : IsTail tail)
    (unended : tail.getLast? ≠ some '\n') {recurrence : Option Recurrence}
    (found : Note.recurrenceOf tail = .ok recurrence) (steps : List (Date × Int)) (date : Date) :
    (course recurrence date steps).map (outcomeLine tail) <+:
      history (date.canonical ++ tail) (steps.map Visit.bare) := by
  induction steps generalizing date with
  | nil => exact List.nil_prefix
  | cons step later inductionHypothesis =>
    obtain ⟨today, extraDays⟩ := step
    have next := rescheduledLine_canonical_append date isTail unended found today extraDays
    simp only [course, List.map_cons, history, Visit.bare, List.append_nil, next]
    cases advance recurrence date today extraDays with
    | error failure => exact ⟨_, rfl⟩
    | ok reached => exact List.cons_prefix_cons.mpr ⟨rfl, inductionHypothesis reached⟩

/-- The course goes on through all steps or ends with a failure. -/
theorem length_course_or_failure (recurrence : Option Recurrence) (steps : List (Date × Int))
    (date : Date) :
    (course recurrence date steps).length = steps.length ∨
      ∃ failure, (course recurrence date steps).getLast? = some (.error failure) := by
  induction steps generalizing date with
  | nil => exact .inl rfl
  | cons step later inductionHypothesis =>
    obtain ⟨today, extraDays⟩ := step
    simp only [course]
    cases advance recurrence date today extraDays with
    | error failure => exact .inr ⟨failure, rfl⟩
    | ok reached =>
      rcases inductionHypothesis reached with whole | ⟨failure, last⟩
      · exact .inl (congrArg Nat.succ whole)
      · exact .inr ⟨failure, by simp [List.getLast?_cons, last]⟩

/-- The tail of a note does not end in a line feed unless the line that was read does. -/
theorem Note.getLast?_tail {line : List Char} {note : Note} (done : read line = .ok note)
    (unended : line.getLast? ≠ some '\n') : note.tail.getLast? ≠ some '\n' := by
  obtain ⟨front, split⟩ := description_suffix_of_read done
  by_cases vacant : note.description = []
  · rw [tail_eq_description (.inr (.inr vacant)), vacant]
    simp
  · have last := List.getLast?_eq_some_getLast vacant
    have sameEnd : note.tail.getLast? = line.getLast? := by
      rw [← split, tail, List.getLast?_append, List.getLast?_append, last, Option.some_or,
        Option.some_or]
    exact sameEnd ▸ unended

/-- A line that is rescheduled again and again follows the machine. The first step gives
it a date and a tail. From then on its lines are the dates of the machine's course, each
in canonical form in front of that same tail, as long as the course goes on; where the
course fails, the line is the message of that failure. The machine starts each step from
the date read back, whose year is the one with the same place in the century from 2000 on.

A line feed at the end of the text would be taken for a line ending by the next step, so
the line must hold none beyond the one that ends it. -/
theorem history_follows_course (line : List Char) (today : Date) (extraDays : Int)
    (first : Rescheduled) (later : List (Date × Int))
    (unended : (withoutLineEnding line).getLast? ≠ some '\n')
    (done : reschedule line today extraDays = .ok first) :
    let tail := first.note.separator ++ first.note.description
    let outcomes := .ok first.date :: course first.note.recurrence first.date later
    outcomes.map (outcomeLine tail) <+:
        history line (((today, extraDays) :: later).map Visit.bare) ∧
      (outcomes.length = later.length + 1 ∨
        ∃ failure, outcomes.getLast? = some (.error failure)) := by
  have read := read_of_reschedule done
  obtain ⟨isTail, found⟩ := Note.isTail_of_read read
  have firstLine : rescheduledLine (line ++ []) today extraDays =
      first.date.canonical ++ first.note.tail := by
    rw [List.append_nil, rescheduledLine, done, outcomeText, first.text_eq]
  have followed := history_canonical_append isTail (Note.getLast?_tail read unended) found later
    first.date
  refine ⟨?_, ?_⟩
  · simp only [List.map_cons, history, Visit.bare, firstLine]
    exact List.cons_prefix_cons.mpr ⟨rfl, followed⟩
  · rcases length_course_or_failure first.note.recurrence later first.date with whole | failed
    · exact .inl (congrArg Nat.succ whole)
    · obtain ⟨failure, last⟩ := failed
      exact .inr ⟨failure, by simp [List.getLast?_cons, last]⟩

/-- A note of Friday 4 September 2015 comes round each week. Extra days carry it into the
year 2125, and the next step starts from the same day of 2025. A leap too far ends it. -/
theorem history_follows_course_weekly :
    let line := "15.09.04f test >1w".toList
    let today : Date := ⟨2015, 9, 6, by decide⟩
    (withoutLineEnding line).getLast? ≠ some '\n' ∧
      (∃ first, reschedule line today 0 = .ok first) ∧
      ["15.09.11f test >1w".toList, "25.03.18u test >1w".toList, "25.03.25t test >1w".toList,
          "ERROR: Date out of range".toList] <+:
        history line [⟨today, 0, []⟩, ⟨today, 40000, []⟩, ⟨today, 0, []⟩, ⟨today, 1000000000, []⟩,
          ⟨today, 0, []⟩] := by
  intro line today
  let first : Rescheduled := ⟨⟨2015, 9, 11, by decide⟩, ⟨some 15, some 9, some 4, some .friday⟩,
    none, some (.fromDate ⟨.plus, some 1, some .week⟩), " test >1w".toList⟩
  let later : List (Date × Int) := [(today, 40000), (today, 0), (today, 1000000000), (today, 0)]
  have unended : (withoutLineEnding line).getLast? ≠ some '\n' := by decide +kernel
  have done : reschedule line today 0 = .ok first := by decide +kernel
  have shown : (Except.ok first.date :: course first.note.recurrence first.date later).map
        (outcomeLine (first.note.separator ++ first.note.description)) =
      ["15.09.11f test >1w".toList, "25.03.18u test >1w".toList, "25.03.25t test >1w".toList,
        "ERROR: Date out of range".toList] := by decide +kernel
  have followed := (history_follows_course line today 0 first later unended done).1
  exact ⟨unended, ⟨first, done⟩, shown ▸ followed⟩

end Tickler
