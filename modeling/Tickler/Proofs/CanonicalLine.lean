import Tickler.Note.Reschedule
import Tickler.Proofs.LeftmostToken

/-!
# Lines with a canonical date

A rescheduled line is a canonical date and a tail. Whatever the line was before, the
tail begins so that the date is read as a whole and nothing in the tail is taken for
an offset. Reading such a line again gives the date in full, no offset, the tail
character for character as the description, and the recurrence that was found before:
the space that bare text receives begins no token and hides none.
-/

namespace Tickler

/-- The full pattern that the canonical form of a date spells. -/
def Date.shownPattern (date : Date) : DatePattern :=
  ⟨some (date.year % 100).toNat, some date.month, some date.day, some date.weekday⟩

/-- A text that can stand behind a canonical date: it does not lengthen the date token,
and it holds no offset token of its own. -/
structure IsTail (tail : List Char) : Prop where
  ended : isDelimited DatePattern.delimiters tail = true
  noOffset : Offset.lead tail = (none, tail)

/-- A canonical form is a token of the grammar. -/
theorem DatePattern.spelled_canonical (date : Date) :
    Spelled date.canonical date.shownPattern := by
  obtain ⟨yearRun, monthRun, dayRun⟩ := date.isRun_numbers
  have spelled := Spelled.yearMonthDay yearRun monthRun dayRun (.present date.weekday)
  simpa [Date.canonical, Date.shownPattern, Date.yearOfCentury, Decimal.value_padded] using spelled

/-- A pattern with a spelling gives something. -/
theorem DatePattern.isEmpty_of_spelled {text : List Char} {pattern : DatePattern}
    (spelled : Spelled text pattern) : pattern.isEmpty = false := by
  cases spelled <;> simp [isEmpty]

/-- A text that is empty or begins with a space is a tail. -/
theorem IsTail.of_space {tail : List Char} (spaced : isDelimited Offset.delimiters tail = true) :
    IsTail tail := by
  have first := (isDelimited_iff _ _).mp spaced
  cases tail with
  | nil => exact ⟨rfl, rfl⟩
  | cons character others =>
    obtain rfl : character = ' ' := by simpa [Offset.delimiters] using first character rfl
    exact ⟨rfl, rfl⟩

/-- A line with a canonical date in front of a tail is read as that date and that tail. -/
theorem Note.read_canonical_append (date : Date) {tail : List Char} (isTail : IsTail tail)
    {recurrence : Option Recurrence} (found : recurrenceOf tail = .ok recurrence) :
    read (date.canonical ++ tail) = .ok ⟨date.shownPattern, none, recurrence, tail⟩ := by
  have dated : takeToken DatePattern.token? (date.canonical ++ tail) =
      (some date.shownPattern, tail) :=
    takeToken_of_eq_some
      (DatePattern.token?_append (DatePattern.spelled_canonical date) isTail.ended)
  simp [read, DatePattern.lead, dated, isTail.noOffset, offsetOf, found, bind, Except.bind]

/-- A space in front of a description changes nothing about the token found: no token
begins with it, and behind it one may begin as at the start. -/
theorem RecurrenceToken.find?_space (text : List Char) : find? (' ' :: text) = find? text := by
  have nothing : atFront? (' ' :: text) = none := rfl
  simp [find?, scan?, nothing, openers]

/-- The recurrence of a description is the same with a space in front. -/
theorem Note.recurrenceOf_space (text : List Char) :
    recurrenceOf (' ' :: text) = recurrenceOf text := by
  simp only [recurrenceOf, RecurrenceToken.find?_space]

/-- What is printed behind the date of a note. -/
def Note.tail (note : Note) : List Char := note.separator ++ note.description

/-- Nothing is inserted in front of an empty description, nor behind a token. -/
theorem Note.tail_eq_description {note : Note}
    (kept : note.date.isEmpty = false ∨ note.offset ≠ none ∨ note.description = []) :
    note.tail = note.description := by
  have noSpace : note.separator = [] := by
    rcases kept with given | given | vacant
    · simp [separator, given]
    · simp [separator, given]
    · simp [separator, vacant]
  simp [Note.tail, noSpace]

/-- Bare text receives a space. -/
theorem Note.tail_eq_space {note : Note} (undated : note.date.isEmpty = true)
    (unmoved : note.offset = none) (text : note.description ≠ []) :
    note.tail = ' ' :: note.description := by
  simp [Note.tail, separator, undated, unmoved, text]

/-- The tail of a note that was read is a tail with the same recurrence.

There are four ways to come to a description. Behind an offset token it is empty or
begins with a space. Behind a date token alone it is delimited as that token was, and
it holds no offset token because none was read there. Bare text is the whole line, and
receives a space unless it is empty. -/
theorem Note.isTail_of_read {line : List Char} {note : Note} (done : read line = .ok note) :
    IsTail note.tail ∧ recurrenceOf note.tail = .ok note.recurrence := by
  obtain ⟨pattern, token, description, divided⟩ := exists_divided line
  rw [read_of_divided divided] at done
  simp only [Attempt.bind_eq_ok_iff, Except.ok.injEq, offsetOf_eq_ok_iff] at done
  obtain ⟨offset, stated, recurrence, found, rfl⟩ := done
  obtain ⟨dateZone, offsetZone⟩ := divided
  cases offsetZone with
  | @token offsetToken spelled =>
    cases stated with
    | present counted =>
      rw [tail_eq_description (.inr (.inl (by simp)))]
      exact ⟨.of_space (leadingRun_append_drop [' '] _).2, found⟩
  | absent unspelled =>
    cases stated
    have noOffset : Offset.lead description = (none, description) :=
      (Offset.lead_eq_iff_zone description none description).mpr (.absent unspelled)
    cases dateZone with
    | @token pattern spelled =>
      rw [tail_eq_description (.inl (DatePattern.isEmpty_of_spelled spelled))]
      exact ⟨⟨(leadingRun_append_drop [' ', '+'] line).2, noOffset⟩, found⟩
    | absent =>
      by_cases vacant : line = []
      · rw [tail_eq_description (.inr (.inr vacant))]
        exact ⟨vacant ▸ .of_space rfl, found⟩
      · rw [tail_eq_space rfl rfl vacant]
        exact ⟨.of_space rfl, (recurrenceOf_space line).trans found⟩

/-- A rescheduled line is a canonical date in front of the tail of its note. -/
theorem Rescheduled.text_eq (rescheduled : Rescheduled) :
    rescheduled.text = rescheduled.date.canonical ++ rescheduled.note.tail := by
  simp [Rescheduled.text, Note.tail]

/-- A line that is rescheduled was read as the note that is kept. -/
theorem read_of_reschedule {line : List Char} {today : Date} {extraDays : Int}
    {rescheduled : Rescheduled} (done : reschedule line today extraDays = .ok rescheduled) :
    Note.read (withoutLineEnding line) = .ok rescheduled.note := by
  simp only [reschedule, Attempt.bind_eq_ok_iff, Except.ok.injEq] at done
  obtain ⟨note, read, date, dated, rfl⟩ := done
  exact read

/-- Every rescheduled line is a note again. It holds the date shown, with all four of its
parts, no offset, the recurrence that was found the first time, and as its description
everything behind the date, character for character. -/
theorem read_rescheduled_text (line : List Char) (today : Date) (extraDays : Int)
    (rescheduled : Rescheduled) (done : reschedule line today extraDays = .ok rescheduled) :
    Note.read rescheduled.text = .ok {
      date := ⟨some (rescheduled.date.year % 100).toNat, some rescheduled.date.month,
        some rescheduled.date.day, some rescheduled.date.weekday⟩
      offset := none
      recurrence := rescheduled.note.recurrence
      description := rescheduled.note.separator ++ rescheduled.note.description } := by
  obtain ⟨isTail, found⟩ := Note.isTail_of_read (read_of_reschedule done)
  rw [rescheduled.text_eq]
  exact Note.read_canonical_append rescheduled.date isTail found

/-- Behind `15.09.04f` the text `+x` is no offset, and it is none behind the later date
either; the recurrence further on is found both times. -/
theorem read_rescheduled_text_glued :
    ∃ rescheduled, reschedule "15.09.04f+x >2d".toList ⟨2015, 9, 6, by decide⟩ 0 =
        .ok rescheduled ∧
      rescheduled.text = "15.09.06u+x >2d".toList ∧
      Note.read rescheduled.text = .ok ⟨⟨some 15, some 9, some 6, some .sunday⟩, none,
        some (.fromDate ⟨.plus, some 2, some .day⟩), "+x >2d".toList⟩ := by
  let rescheduled : Rescheduled := ⟨⟨2015, 9, 6, by decide⟩, ⟨some 15, some 9, some 4, some .friday⟩,
    none, some (.fromDate ⟨.plus, some 2, some .day⟩), "+x >2d".toList⟩
  have done : reschedule "15.09.04f+x >2d".toList ⟨2015, 9, 6, by decide⟩ 0 = .ok rescheduled := by
    decide +kernel
  exact ⟨rescheduled, done, by decide +kernel,
    (read_rescheduled_text _ _ _ _ done).trans (by decide +kernel)⟩

end Tickler
