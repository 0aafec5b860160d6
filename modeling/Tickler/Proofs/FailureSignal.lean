import Tickler.Proofs.FullDates
import Tickler.Proofs.LeftmostToken

/-!
# Messages in place of lines

A line that cannot be rescheduled is replaced by a message, and the only thing that tells
the two apart is the mark in front of every message about a date. It is enough: only
failures about a date come out of rescheduling, and a rescheduled line begins with a digit,
whatever its year and its description are. An overflow does not come out of it either, because
the year of a date token has two digits at most.

A message that is taken for a line later on is bare text. It begins with no date and with
no sign, and no value shown in it has a character with which the token of a recurrence
begins. For the digits of an amount this depends on where they come from: they were typed
as the digits of a token, so they are digits and nothing else.
-/

namespace Tickler

/-! ## What rescheduling fails with -/

/-- The failures that a line can end in. They are about a date, and the digits that one of
them names are digits indeed. -/
inductive Failure.IsOfLine : Failure → Prop where
  | unresolvable (pattern : DatePattern) (last : Date) : IsOfLine (.unresolvable pattern last)
  | invalidDate (year : Int) (month day : Nat) : IsOfLine (.invalidDate year month day)
  | amountTooLarge {digits : List Char}
      (decimal : ∀ character ∈ digits, character.isDigit = true) : IsOfLine (.amountTooLarge digits)
  | outOfRange : IsOfLine .outOfRange
  | noSuchWeekday (ordinal : Int) (weekday : Weekday) (monthStart : Date) :
      IsOfLine (.noSuchWeekday ordinal weekday monthStart)

/-- A failure that a line can end in is about a date. -/
theorem Failure.IsOfLine.isAboutDate {failure : Failure} (ofLine : failure.IsOfLine) :
    failure.isAboutDate = true := by
  cases ofLine <;> rfl

/-- Leaving the calendar is a failure of a line. -/
theorem isOfLine_of_inCalendar {reached : Option Date} {failure : Failure}
    (failed : inCalendar reached = .error failure) : failure.IsOfLine := by
  rcases inCalendar_ok_or_outOfRange reached with ⟨date, inside⟩ | outside
  · rw [inside] at failed
    cases failed
  · rw [outside] at failed
    cases failed
    exact .outOfRange

/-- A recurrence fails outside the calendar or for want of a weekday. -/
theorem Recurrence.isOfLine_of_next {recurrence : Recurrence} {date today : Date}
    {failure : Failure} (failed : recurrence.next date today = .error failure) :
    failure.IsOfLine := by
  cases recurrence with
  | fromToday step => exact isOfLine_of_inCalendar failed
  | fromDate step => exact isOfLine_of_inCalendar failed
  | onWeekday window ordinal weekday =>
    simp only [next, Date.weekdayAfter, Attempt.bind_eq_error_iff] at failed
    rcases failed with outside | ⟨month, _, missing⟩
    · exact isOfLine_of_inCalendar outside
    · split at missing
      · cases missing
      · cases missing
        exact .noSuchWeekday ordinal weekday month

namespace DatePattern

/-- A search fails at its last day or at the end of the calendar. -/
theorem isOfLine_of_search {pattern : DatePattern} {days : Nat} {date : Date} {failure : Failure}
    (failed : pattern.search days date = .error failure) : failure.IsOfLine := by
  induction days generalizing date with
  | zero =>
    cases failed
    exact .unresolvable pattern date
  | succ days inductionHypothesis =>
    simp only [search, Attempt.bind_eq_error_iff] at failed
    rcases failed with outside | ⟨next, _, later⟩
    · exact isOfLine_of_inCalendar outside
    · split at later
      · cases later
      · exact inductionHypothesis later

/-- The year of a pattern, if it has one, may be counted on from 2000 without an overflow. -/
def YearFits (pattern : DatePattern) : Prop :=
  ∀ year ∈ pattern.year, 2000 + year < UInt32.size / 2

/-- Numbers that name no date fail as such if their year fits. -/
theorem isOfLine_of_literal {year month day : Nat} {failure : Failure}
    (fits : 2000 + year < UInt32.size / 2)
    (failed : literal year month day = .error failure) : failure.IsOfLine := by
  rw [literal_of_fits fits] at failed
  split at failed
  · cases failed
  · cases failed
    exact .invalidDate _ _ _

/-- A pattern that stands for no date fails as its numbers or its search do. -/
theorem isOfLine_of_resolve {pattern : DatePattern} (fits : pattern.YearFits) {today : Date}
    {failure : Failure} (failed : pattern.resolve today = .error failure) :
    failure.IsOfLine := by
  simp only [resolve] at failed
  split at failed
  · cases failed
  · split at failed
    · rename_i hasYear _ _
      exact isOfLine_of_literal (fits _ hasYear) failed
    · exact isOfLine_of_search failed

end DatePattern

/-- The digits of a measure are digits. -/
theorem Measure.decimal_of_spelled {text : List Char} {measure : Measure}
    (spelled : Spelled text measure) :
    ∀ character ∈ measure.digits, character.isDigit = true := by
  cases spelled with
  | digits decimal mark => exact decimal

/-- The digits of an offset token are digits. -/
theorem Offset.decimal_of_spelled {text : List Char} {token : Sign × Measure}
    (spelled : Spelled text token) :
    ∀ character ∈ token.2.digits, character.isDigit = true := by
  cases spelled with
  | signed sign spelled => exact Measure.decimal_of_spelled spelled

namespace Note

/-- The date of a note that was read has a year of two digits or none. -/
theorem yearFits_of_read {line : List Char} {note : Note} (done : read line = .ok note) :
    note.date.YearFits := by
  obtain ⟨pattern, token, description, divided⟩ := exists_divided line
  rw [read_of_divided divided] at done
  simp only [Attempt.bind_eq_ok_iff, Except.ok.injEq] at done
  obtain ⟨offset, -, recurrence, -, rfl⟩ := done
  intro year given
  obtain ⟨dateZone, -⟩ := divided
  cases dateZone with
  | token spelled => exact DatePattern.year_fits_of_spelled spelled given
  | absent => cases given

/-- A note whose date cannot be worked out fails as one of the steps to its date does. -/
theorem isOfLine_of_dateOn {note : Note} (fits : note.date.YearFits) {today : Date}
    {extraDays : Int} {failure : Failure}
    (failed : note.dateOn today extraDays = .error failure) : failure.IsOfLine := by
  simp only [dateOn, baseDate, Attempt.bind_eq_error_iff] at failed
  -- The links of the chain in turn: the pattern, the offset, the extra days, the recurrence.
  rcases failed with (unresolved | ⟨resolved, _, unmoved⟩) | ⟨base, _, outside | ⟨date, _, last⟩⟩
  · exact DatePattern.isOfLine_of_resolve fits unresolved
  · split at unmoved
    · exact isOfLine_of_inCalendar unmoved
    · cases unmoved
  · exact isOfLine_of_inCalendar outside
  · split at last
    · split at last
      · exact Recurrence.isOfLine_of_next last
      · cases last
    · cases last

/-- A line that is not read fails with the digits of one of its tokens. -/
theorem isOfLine_of_read {line : List Char} {failure : Failure}
    (failed : read line = .error failure) : failure.IsOfLine := by
  obtain ⟨pattern, token, description, divided⟩ := exists_divided line
  simp only [read_of_divided divided, Attempt.bind_eq_error_iff, reduceCtorEq, and_false,
    exists_false, or_false, offsetOf_eq_error_iff, RecurrenceToken.recurrenceOf_eq_error_iff,
    RecurrenceToken.find?_eq_some_iff, RecurrenceToken.recurrence_eq_error_iff] at failed
  -- The digits of the failure are those of a token, which the grammar takes for digits only.
  rcases failed with ⟨sign, measure, rfl, _, rfl⟩ |
    ⟨_, _, token, ⟨position, run, leftmost⟩, step, named, _, rfl⟩
  · obtain ⟨_, offsetZone⟩ := divided
    cases offsetZone with
    | token spelled => exact .amountTooLarge (Offset.decimal_of_spelled spelled)
  · have spelled := leftmost.stands.spelled
    rcases named with rfl | rfl
    · cases spelled with
      | fromToday spelled => exact .amountTooLarge (Measure.decimal_of_spelled spelled)
    · cases spelled with
      | fromDate spelled => exact .amountTooLarge (Measure.decimal_of_spelled spelled)

end Note

/-- Rescheduling a line fails in reading it or in working out its date. -/
theorem isOfLine_of_reschedule {line : List Char} {today : Date} {extraDays : Int}
    {failure : Failure} (failed : reschedule line today extraDays = .error failure) :
    failure.IsOfLine := by
  simp only [reschedule, Attempt.bind_eq_error_iff, reduceCtorEq, and_false, exists_false,
    or_false] at failed
  rcases failed with unread | ⟨note, read, undated⟩
  · exact Note.isOfLine_of_read unread
  · exact Note.isOfLine_of_dateOn (Note.yearFits_of_read read) undated

/-! ## Bare text -/

/-- The characters that a recurrence token begins with. -/
def RecurrenceToken.marks : List Char := ['+', '>', '|']

/-- No recurrence token begins with any other character. -/
theorem RecurrenceToken.lead?_eq_none {text : List Char}
    (unmarked : ∀ character ∈ text.head?, character ∉ marks) : lead? text = none := by
  cases text with
  | nil => rfl
  | cons character others =>
    have other : character ∉ marks := unmarked character rfl
    simp only [marks, List.mem_cons, List.not_mem_nil, or_false, not_or] at other
    unfold lead?
    split <;> simp_all

/-- A text in which none of these characters stands. -/
def IsUnmarked (text : List Char) : Prop :=
  ∀ character ∈ text, character ∉ RecurrenceToken.marks

instance (text : List Char) : Decidable (IsUnmarked text) :=
  List.decidableBAll (fun character => character ∉ RecurrenceToken.marks) text

/-- Two unmarked texts make one. -/
theorem IsUnmarked.append {left right : List Char} (unmarked : IsUnmarked left)
    (following : IsUnmarked right) : IsUnmarked (left ++ right) :=
  List.forall_mem_append.mpr ⟨unmarked, following⟩

/-- A character that is no mark may stand in front of an unmarked text. -/
theorem IsUnmarked.cons {character : Char} {text : List Char}
    (other : character ∉ RecurrenceToken.marks) (unmarked : IsUnmarked text) :
    IsUnmarked (character :: text) :=
  List.forall_mem_cons.mpr ⟨other, unmarked⟩

/-- An unmarked text holds no recurrence token. -/
theorem RecurrenceToken.scan?_eq_none {text : List Char} (unmarked : IsUnmarked text)
    (opened : Bool) : scan? opened text = none := by
  induction text generalizing opened with
  | nil => rfl
  | cons character others inductionHypothesis =>
    obtain ⟨here, behind⟩ := List.forall_mem_cons.mp unmarked
    have unread : lead? (character :: others) = none := lead?_eq_none (by simpa using here)
    have nothing : atFront? (character :: others) = none := by
      simp [atFront?, delimited?, unread]
    simp only [scan?, nothing, ite_self]
    exact inductionHypothesis behind _

/-- A text is bare when no token of any kind can begin where one may stand: neither a date
nor an offset at its front, nor a recurrence anywhere. -/
structure IsBare (text : List Char) : Prop where
  front : ∀ character ∈ text.head?, character.isDigit = false ∧
    Weekday.ofLetter? character = none ∧ Sign.ofLetter? character = none
  unmarked : IsUnmarked text

/-- A bare text is a note that is all description. -/
theorem IsBare.read {text : List Char} (isBare : IsBare text) :
    Note.read text = .ok ⟨{}, none, none, text⟩ := by
  have undated : DatePattern.lead text = ({}, text) := by
    have unread := DatePattern.token?_eq_none fun character first =>
      ⟨(isBare.front character first).1, (isBare.front character first).2.1⟩
    simp [DatePattern.lead, takeToken_of_eq_none unread]
  have unmoved : Offset.lead text = (none, text) :=
    Offset.lead_of_unsigned fun character first => (isBare.front character first).2.2
  have once : Note.recurrenceOf text = .ok none := by
    have nothing : RecurrenceToken.find? text = none :=
      RecurrenceToken.scan?_eq_none isBare.unmarked true
    simp [Note.recurrenceOf, nothing]
  simp [Note.read, undated, unmoved, Note.offsetOf, once, bind, Except.bind]

/-! ## What is shown -/

/-- A run of digits is unmarked. -/
theorem IsUnmarked.of_digits {run : List Char}
    (decimal : ∀ character ∈ run, character.isDigit = true) : IsUnmarked run := by
  intro character member marked
  have digit := decimal character member
  simp only [RecurrenceToken.marks, List.mem_cons, List.not_mem_nil, or_false] at marked
  rcases marked with rfl | rfl | rfl <;> simp at digit

/-- A number that is shown is unmarked. -/
theorem Decimal.isUnmarked_digits (number : Nat) : IsUnmarked (digits number) :=
  .of_digits fun _ => isDigit_of_mem_digits

/-- Of the two signs only the minus is shown, and it is no mark. -/
theorem Decimal.isUnmarked_signed (number : Int) : IsUnmarked (signed number) := by
  simp only [signed]
  split
  · exact .cons (by decide) (isUnmarked_digits _)
  · exact isUnmarked_digits _

/-- A weekday letter is no mark of a recurrence. -/
theorem Weekday.letter_not_mem_marks (weekday : Weekday) :
    weekday.letter ∉ RecurrenceToken.marks := by
  cases weekday <;> decide

/-- A canonical form is unmarked. -/
theorem Date.isUnmarked_canonical (date : Date) : IsUnmarked date.canonical := by
  have number : ∀ shown, IsUnmarked (Decimal.padded 2 shown) :=
    fun _ => .of_digits fun _ => Decimal.isDigit_of_mem_padded
  have letter : IsUnmarked [date.weekday.letter] := .cons date.weekday.letter_not_mem_marks nofun
  exact (((number _).append (.cons (by decide) (number _))).append
    (.cons (by decide) (number _))).append letter

/-- A partial pattern is shown unmarked, whichever of its parts are absent. -/
theorem DatePattern.isUnmarked_text (pattern : DatePattern) : IsUnmarked pattern.text := by
  have number : ∀ shown : Option Nat, IsUnmarked ((shown.map Decimal.digits).getD []) := by
    rintro (_ | shown)
    · exact nofun
    · exact Decimal.isUnmarked_digits shown
  have letter : IsUnmarked ((pattern.weekday.map fun weekday => [weekday.letter]).getD []) := by
    cases pattern.weekday with
    | none => exact nofun
    | some weekday => exact .cons weekday.letter_not_mem_marks nofun
  exact ((number _).append (.cons (by decide) (number _))).append letter

/-- The message of a failure that a line can end in begins with the letter of its mark. -/
theorem Failure.IsOfLine.head?_message {failure : Failure} (ofLine : failure.IsOfLine) :
    failure.message.head? = some 'E' := by
  cases ofLine <;> rfl

/-- Such a message is unmarked, in its own words as in the values shown. -/
theorem Failure.IsOfLine.isUnmarked_message {failure : Failure} (ofLine : failure.IsOfLine) :
    IsUnmarked failure.message := by
  cases ofLine with
  | unresolvable pattern last =>
    have words : IsUnmarked "ERROR: Weird format ".toList ∧ IsUnmarked " for ".toList := by
      decide +kernel
    exact ((words.1.append pattern.isUnmarked_text).append words.2).append last.isUnmarked_canonical
  | invalidDate year month day =>
    have words : IsUnmarked "ERROR: Invalid date ".toList := by decide +kernel
    exact ((words.append (Decimal.isUnmarked_signed year)).append
      (.cons (by decide) (Decimal.isUnmarked_digits month))).append
      (.cons (by decide) (Decimal.isUnmarked_digits day))
  | amountTooLarge decimal =>
    have words : IsUnmarked "ERROR: Amount ".toList ∧ IsUnmarked " is too large".toList := by
      decide +kernel
    exact (words.1.append (.of_digits decimal)).append words.2
  | outOfRange => decide +kernel
  | noSuchWeekday ordinal weekday monthStart =>
    have words : IsUnmarked "ERROR: No weekday #".toList ∧ IsUnmarked " '".toList ∧
        IsUnmarked "' in month starting ".toList := by decide +kernel
    exact (((words.1.append (Decimal.isUnmarked_signed ordinal)).append words.2.1).append
      (.cons weekday.letter_not_mem_marks words.2.2)).append monthStart.isUnmarked_canonical

/-- The message of a failure that a line can end in is bare text. -/
theorem Failure.IsOfLine.isBare_message {failure : Failure} (ofLine : failure.IsOfLine) :
    IsBare failure.message where
  front := by
    intro character first
    obtain rfl : 'E' = character := Option.some.inj (ofLine.head?_message.symm.trans first)
    decide
  unmarked := ofLine.isUnmarked_message

/-- A rescheduled line begins with a digit, the first of two for the place of the year in
its century. -/
theorem Rescheduled.exists_head?_text (rescheduled : Rescheduled) :
    ∃ digit, rescheduled.text.head? = some digit ∧ digit.isDigit = true := by
  have run := rescheduled.date.isRun_numbers.1
  obtain ⟨digit, others, shown⟩ := List.exists_cons_of_ne_nil run.nonempty
  refine ⟨digit, ?_, run.decimal digit (shown ▸ List.mem_cons_self)⟩
  simp [Rescheduled.text, Date.canonical, shown]

/-- The text of a rescheduled line never begins with the mark of a message. -/
theorem Rescheduled.not_mark_prefix_text (rescheduled : Rescheduled) :
    ¬ Failure.mark <+: rescheduled.text := by
  obtain ⟨digit, first, decimal⟩ := rescheduled.exists_head?_text
  rintro ⟨others, split⟩
  rw [← split] at first
  obtain rfl : 'E' = digit := Option.some.inj first
  simp at decimal

/-- The mark is a sound and complete sign of failure. What is left in place of a line
begins with it exactly if the line cannot be rescheduled; the failure is then one about a
date, and its message, read as a note, is bare text. A rescheduled line does not begin with
it, whatever the line was. -/
theorem mark_prefix_rescheduledLine_iff (line : List Char) (today : Date) (extraDays : Int) :
    (Failure.mark <+: rescheduledLine line today extraDays ↔
      ∃ failure, reschedule line today extraDays = .error failure) ∧
    (∀ failure, reschedule line today extraDays = .error failure →
      failure.isAboutDate = true ∧ rescheduledLine line today extraDays = failure.message ∧
        Note.read failure.message = .ok
          { date := {}, offset := none, recurrence := none, description := failure.message }) ∧
    (∀ rescheduled, reschedule line today extraDays = .ok rescheduled →
      rescheduledLine line today extraDays = rescheduled.text ∧
        ¬ Failure.mark <+: rescheduled.text) := by
  cases outcome : reschedule line today extraDays with
  | ok rescheduled =>
    have shown : rescheduledLine line today extraDays = rescheduled.text := by
      rw [rescheduledLine, outcome, outcomeText]
    simp [shown, rescheduled.not_mark_prefix_text]
  | error failure =>
    have shown : rescheduledLine line today extraDays = failure.message := by
      rw [rescheduledLine, outcome, outcomeText]
    have ofLine := isOfLine_of_reschedule outcome
    have marked : Failure.mark <+: failure.message := by
      rw [← List.isPrefixOf_iff_prefix, Failure.mark_isPrefixOf_message_iff, ofLine.isAboutDate]
    simp [shown, marked, ofLine.isAboutDate, ofLine.isBare_message.read]

end Tickler
