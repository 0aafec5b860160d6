import Tickler.Note.Reschedule
import Tickler.Proofs.Zones

/-!
# Fully dated lines

A line that begins with a full date says by itself what it depends on. Today plays no part
in it, because a full date stands for itself, unless the line has a recurrence that counts
from today and nothing else moves it. Then it is the date that plays no part, as long as
there is such a date. The weekday letter behind a full date is never looked at.

Lines are compared that have different date tokens in front of the same text. They are read
alike but for the date: a token does not reach beyond its delimiter, and it holds no part of
a line ending.
-/

namespace Tickler

namespace DatePattern

/-- A pattern gives the year, the month and the day of a date. -/
structure Names (pattern : DatePattern) (date : Date) : Prop where
  year : ∃ year : Nat, pattern.year = some year ∧ date.year = 2000 + (year : Int)
  month : pattern.month = some date.month
  day : pattern.day = some date.day

/-- Two patterns give the same year, month and day. Their weekdays may differ. -/
structure SameNumbers (left right : DatePattern) : Prop where
  year : left.year = right.year
  month : left.month = right.month
  day : left.day = right.day

/-- A full pattern has three numbers. -/
theorem exists_numbers {pattern : DatePattern} (full : pattern.isFull = true) :
    ∃ year month day, pattern.year = some year ∧ pattern.month = some month ∧
      pattern.day = some day := by
  simp only [isFull, Bool.and_eq_true, Option.isSome_iff_exists] at full
  obtain ⟨⟨⟨year, hasYear⟩, month, hasMonth⟩, day, hasDay⟩ := full
  exact ⟨year, month, day, hasYear, hasMonth, hasDay⟩

/-- A full pattern is not empty. -/
theorem isEmpty_of_full {pattern : DatePattern} (full : pattern.isFull = true) :
    pattern.isEmpty = false := by
  obtain ⟨year, month, day, hasYear, -, -⟩ := exists_numbers full
  simp [isEmpty, hasYear]

/-- A pattern that names a date is full. -/
theorem Names.full {pattern : DatePattern} {date : Date}
    (names : pattern.Names date) : pattern.isFull = true := by
  obtain ⟨year, hasYear, -⟩ := names.year
  simp [isFull, hasYear, names.month, names.day]

/-- A pattern with three numbers stands for their date, on every day and with any weekday. -/
theorem resolve_of_numbers {pattern : DatePattern} {year month day : Nat}
    (hasYear : pattern.year = some year) (hasMonth : pattern.month = some month)
    (hasDay : pattern.day = some day) (today : Date) :
    pattern.resolve today = literal year month day := by
  simp [resolve, isEmpty, hasYear, hasMonth, hasDay]

/-- A full pattern stands for the same date on every day. -/
theorem resolve_of_full {pattern : DatePattern} (full : pattern.isFull = true)
    (today other : Date) : pattern.resolve today = pattern.resolve other := by
  obtain ⟨year, month, day, hasYear, hasMonth, hasDay⟩ := exists_numbers full
  rw [resolve_of_numbers hasYear hasMonth hasDay, resolve_of_numbers hasYear hasMonth hasDay]

/-- Full patterns with the same numbers stand for the same date. -/
theorem SameNumbers.resolve {left right : DatePattern} (same : SameNumbers left right)
    (full : right.isFull = true) (today : Date) : left.resolve today = right.resolve today := by
  obtain ⟨year, month, day, hasYear, hasMonth, hasDay⟩ := exists_numbers full
  rw [resolve_of_numbers hasYear hasMonth hasDay,
    resolve_of_numbers (same.year.trans hasYear) (same.month.trans hasMonth)
      (same.day.trans hasDay)]

/-- The year of a date token has two digits at most, far from the end of the words. -/
theorem year_fits_of_spelled {text : List Char} {pattern : DatePattern} {year : Nat}
    (spelled : Spelled text pattern) (given : pattern.year = some year) :
    2000 + year < UInt32.size / 2 := by
  have word : UInt32.size = 4294967296 := rfl
  have small : year < 100 := by
    cases spelled with
    | yearMonthDay yearRun =>
      obtain rfl := Option.some.inj given
      exact Nat.lt_of_lt_of_le (Decimal.value_lt yearRun.decimal)
        (Nat.pow_le_pow_right (by decide) yearRun.short)
    | _ => cases given
  omega

/-- A full date token stands for the date that it names. -/
theorem resolve_of_names {text : List Char} {pattern : DatePattern}
    (spelled : Spelled text pattern) {date : Date} (names : pattern.Names date) (today : Date) :
    pattern.resolve today = .ok date := by
  obtain ⟨year, hasYear, sameYear⟩ := names.year
  rw [resolve_of_numbers hasYear names.month names.day,
    literal_of_fits (year_fits_of_spelled spelled hasYear), ← sameYear, Date.ofYmd?_self]

/-- A full date token that names no date is refused with its numbers. -/
theorem resolve_of_unnamed {text : List Char} {pattern : DatePattern}
    (spelled : Spelled text pattern) (full : pattern.isFull = true)
    (unnamed : ¬ ∃ date, pattern.Names date) :
    ∃ year month day, ∀ today,
      pattern.resolve today = .error (.invalidDate year month day) := by
  obtain ⟨year, month, day, hasYear, hasMonth, hasDay⟩ := exists_numbers full
  refine ⟨2000 + year, month, day, fun today => ?_⟩
  rw [resolve_of_numbers hasYear hasMonth hasDay,
    literal_of_fits (year_fits_of_spelled spelled hasYear)]
  cases named : Date.ofYmd? (2000 + year) month day with
  | none => rfl
  | some date =>
    obtain ⟨sameYear, rfl, rfl⟩ := (Date.ofYmd?_eq_some_iff _ _ _ _).mp named
    exact absurd ⟨date, ⟨year, hasYear, sameYear.symm⟩, hasMonth, hasDay⟩ unnamed

/-- No part of a line ending stands inside a date token. -/
theorem not_lineEnding_of_spelled {text : List Char} {pattern : DatePattern}
    (spelled : Spelled text pattern) :
    ∀ character ∈ text, character ≠ '\n' ∧ character ≠ '\r' := by
  refine forall_mem_of_spelled spelled ?_ (by decide) fun weekday => by cases weekday <;> decide
  intro digit decimal
  constructor <;> rintro rfl <;> simp at decimal

/-- A date token in front of a text is read as the date of the line that the two make, if
the text lets it end there. -/
theorem lead_append {dateToken rest : List Char} {pattern : DatePattern}
    (spelled : Spelled dateToken pattern)
    (ended : isDelimited delimiters (withoutLineEnding rest) = true) :
    lead (withoutLineEnding (dateToken ++ rest)) = (pattern, withoutLineEnding rest) := by
  have read := takeToken_of_eq_some (token?_append spelled ended)
  simp [lead, withoutLineEnding_append (not_lineEnding_of_spelled spelled), read]

/-- A line that gives a date is a date token in front of a text that lets it end. -/
theorem exists_dateToken {line : List Char}
    (dated : (lead (withoutLineEnding line)).1.isEmpty = false) :
    ∃ dateToken rest, line = dateToken ++ rest ∧
      Spelled dateToken (lead (withoutLineEnding line)).1 ∧
      isDelimited delimiters (withoutLineEnding rest) = true := by
  cases read : token? (withoutLineEnding line) with
  | none => simp [lead, takeToken_of_eq_none read, isEmpty] at dated
  | some taken =>
    obtain ⟨pattern, remaining⟩ := taken
    obtain ⟨dateToken, spelled, split, ended⟩ := (token?_eq_some_iff _ _ _).mp read
    obtain ⟨ending, whole⟩ := withoutLineEnding_prefix line
    have parts : line = dateToken ++ (remaining ++ ending) := by
      rw [← List.append_assoc, ← split, whole]
    have kept : withoutLineEnding (remaining ++ ending) = remaining := by
      rw [parts, withoutLineEnding_append (not_lineEnding_of_spelled spelled)] at split
      exact List.append_cancel_left split
    have pattern : (lead (withoutLineEnding line)).1 = pattern := by
      simp [lead, takeToken_of_eq_some read]
    exact ⟨dateToken, remaining ++ ending, parts, pattern ▸ spelled, kept.symm ▸ ended⟩

end DatePattern

/-! ## Working out the date -/

namespace Note

/-- The date of a note is the pattern at the front of its line. -/
theorem date_of_read {line : List Char} {note : Note} (done : read line = .ok note) :
    note.date = (DatePattern.lead line).1 := by
  simp only [read, Attempt.bind_eq_ok_iff, Except.ok.injEq] at done
  obtain ⟨offset, _, recurrence, _, rfl⟩ := done
  rfl

/-- Of two lines with the same text behind their dates, one is read as the other is, but
for the date. -/
theorem read_of_same_rest {line other : List Char}
    (same : (DatePattern.lead other).2 = (DatePattern.lead line).2) :
    read other = (read line).map fun note => { note with date := (DatePattern.lead other).1 } := by
  simp only [read, same]
  cases offsetOf (Offset.lead (DatePattern.lead line).2).1 with
  | error failure => rfl
  | ok offset =>
    simp only [bind, Except.bind]
    cases recurrenceOf (Offset.lead (DatePattern.lead line).2).2 <;> rfl

/-- A note is moved alike from two patterns that stand for the same date and are both full. -/
theorem dateOn_of_same_resolve {note : Note} {pattern : DatePattern} {today : Date}
    (same : pattern.resolve today = note.date.resolve today)
    (alike : pattern.isFull = note.date.isFull) (extraDays : Int) :
    dateOn { note with date := pattern } today extraDays = note.dateOn today extraDays := by
  simp only [dateOn, baseDate, recurs, same, alike]
  rfl

/-- A fully dated note has the same date on every day, unless its recurrence counts from
today and nothing else moves it. -/
theorem dateOn_of_full {note : Note} (full : note.date.isFull = true) {extraDays : Int}
    (fixed : ∀ step, note.recurrence = some (.fromToday step) → note.recurs extraDays = false)
    (today other : Date) : note.dateOn today extraDays = note.dateOn other extraDays := by
  have base : note.baseDate today = note.baseDate other := by
    simp only [baseDate, DatePattern.resolve_of_full full today other]
  simp only [dateOn, base]
  cases recurring : note.recurrence with
  | none => rfl
  | some recurrence =>
    cases recurrence with
    | fromToday step => simp only [fixed step recurring, Bool.false_eq_true, if_false]
    | fromDate step => rfl
    | onWeekday window ordinal weekday => rfl

/-- A note that recurs from today has the date that its step leads to from there, if its
own date exists. -/
theorem dateOn_fromToday {note : Note} {step : Offset} (full : note.date.isFull = true)
    (unmoved : note.offset = none) (recurring : note.recurrence = some (.fromToday step))
    (today : Date) :
    note.dateOn today 0 = (do
      let _ ← note.date.resolve today
      step.target today) := by
  have counts : note.recurs 0 = true := by simp [recurs, full, unmoved]
  simp only [dateOn, baseDate, unmoved, recurring, counts, if_true, Recurrence.next]
  cases note.date.resolve today with
  | error failure => rfl
  | ok resolved =>
    simp [bind, Except.bind, Date.addDays_zero]

end Note

/-! ## Two runs -/

/-- Nothing moves a line but a recurrence that counts from today: it has no offset, and no
days are added. -/
def FollowsToday (line : List Char) (extraDays : Int) : Prop :=
  extraDays = 0 ∧ ∃ note step, Note.read (withoutLineEnding line) = .ok note ∧
    note.offset = none ∧ note.recurrence = some (.fromToday step)

/-- A line with a token in place of its own date token, which is the longest run in front
of a space or a plus sign. -/
def withDateToken (line token : List Char) : List Char :=
  token ++ line.drop (leadingRun DatePattern.delimiters (withoutLineEnding line)).length

/-- A fully dated line that does not follow today is rescheduled alike on every day. -/
theorem reschedule_of_full {line : List Char} {extraDays : Int}
    (full : (DatePattern.lead (withoutLineEnding line)).1.isFull = true)
    (apart : ¬ FollowsToday line extraDays) (today other : Date) :
    reschedule line today extraDays = reschedule line other extraDays := by
  cases read : Note.read (withoutLineEnding line) with
  | error failure => rw [reschedule_of_refused read, reschedule_of_refused read]
  | ok note =>
    have fixed : ∀ step, note.recurrence = some (.fromToday step) →
        note.recurs extraDays = false := by
      intro step recurring
      apply Bool.eq_false_iff.mpr
      intro counts
      simp only [Note.recurs, Bool.and_eq_true, Option.isNone_iff_eq_none, beq_iff_eq] at counts
      exact apart ⟨counts.2, note, step, read, counts.1.2, recurring⟩
    have same := Note.dateOn_of_full (Note.date_of_read read ▸ full) fixed today other
    rw [reschedule_of_read read, reschedule_of_read read, same]

section Replaced

variable {dateToken otherToken rest : List Char} {pattern other : DatePattern}
  (spelled : DatePattern.Spelled dateToken pattern)
  (otherSpelled : DatePattern.Spelled otherToken other)
  (ended : isDelimited DatePattern.delimiters (withoutLineEnding rest) = true)

include spelled otherSpelled ended

/-- Another date token in front of the same text changes the note in its date alone. -/
theorem read_replaced :
    Note.read (withoutLineEnding (otherToken ++ rest)) =
      (Note.read (withoutLineEnding (dateToken ++ rest))).map fun note =>
        { note with date := other } := by
  have read := DatePattern.lead_append spelled ended
  have otherRead := DatePattern.lead_append otherSpelled ended
  have same : (DatePattern.lead (withoutLineEnding (otherToken ++ rest))).2 =
      (DatePattern.lead (withoutLineEnding (dateToken ++ rest))).2 := by rw [read, otherRead]
  rw [Note.read_of_same_rest same, otherRead]

/-- Another token with the same numbers leads to the same date. -/
theorem rescheduledDate_replaced_of_sameNumbers (full : pattern.isFull = true)
    (same : other.SameNumbers pattern) (today : Date) (extraDays : Int) :
    rescheduledDate (otherToken ++ rest) today extraDays =
      rescheduledDate (dateToken ++ rest) today extraDays := by
  rw [rescheduledDate_eq, rescheduledDate_eq, read_replaced spelled otherSpelled ended]
  cases read : Note.read (withoutLineEnding (dateToken ++ rest)) with
  | error failure => rfl
  | ok note =>
    have dated : note.date = pattern := by
      rw [Note.date_of_read read, DatePattern.lead_append spelled ended]
    have alike : other.isFull = note.date.isFull := by
      rw [dated, DatePattern.isFull, DatePattern.isFull, same.year, same.month, same.day]
    exact Note.dateOn_of_same_resolve (dated ▸ same.resolve full today) alike extraDays

/-- A line that follows today leads, from whatever full token, to where its step leads from
today, if the token names a date. -/
theorem rescheduledDate_replaced_of_followsToday {note : Note} {step : Offset}
    (read : Note.read (withoutLineEnding (dateToken ++ rest)) = .ok note)
    (unmoved : note.offset = none) (recurring : note.recurrence = some (.fromToday step))
    (full : other.isFull = true) (today : Date) :
    rescheduledDate (otherToken ++ rest) today 0 = (do
      let _ ← other.resolve today
      step.target today) := by
  rw [rescheduledDate_eq, read_replaced spelled otherSpelled ended, read]
  have replaced : ({ note with date := other } : Note).date.isFull = true := full
  exact Note.dateOn_fromToday replaced unmoved recurring today

end Replaced

/-- The token of a line is its longest run, so that another one takes its place. -/
theorem withDateToken_append {dateToken rest : List Char} {pattern : DatePattern}
    (spelled : DatePattern.Spelled dateToken pattern)
    (ended : isDelimited DatePattern.delimiters (withoutLineEnding rest) = true)
    (otherToken : List Char) :
    withDateToken (dateToken ++ rest) otherToken = otherToken ++ rest := by
  have run : leadingRun DatePattern.delimiters (withoutLineEnding (dateToken ++ rest)) =
      dateToken := by
    rw [withoutLineEnding_append (DatePattern.not_lineEnding_of_spelled spelled)]
    exact leadingRun_append (DatePattern.clean_of_spelled _ _ spelled) ended
  rw [withDateToken, run, List.drop_left]

/-- Of a line that follows today, the date token counts only in that it has to name a date. -/
theorem rescheduledDate_of_followsToday {line : List Char} {extraDays : Int}
    (full : (DatePattern.lead (withoutLineEnding line)).1.isFull = true)
    (follows : FollowsToday line extraDays) :
    ∃ step : Offset, ∀ token pattern, DatePattern.Spelled token pattern →
      pattern.isFull = true → ∀ today,
        rescheduledDate (withDateToken line token) today extraDays = (do
          let _ ← pattern.resolve today
          step.target today) := by
  obtain ⟨rfl, note, step, read, unmoved, recurring⟩ := follows
  obtain ⟨dateToken, rest, parts, spelled, ended⟩ :=
    DatePattern.exists_dateToken (DatePattern.isEmpty_of_full full)
  refine ⟨step, fun token pattern otherSpelled otherFull today => ?_⟩
  rw [parts] at read
  rw [parts, withDateToken_append spelled ended]
  exact rescheduledDate_replaced_of_followsToday spelled otherSpelled ended read unmoved
    recurring otherFull today

/-- What a fully dated line depends on. Unless it follows today, it is rescheduled alike on
every day. If it follows today, its token only has to name a date: the outcome is then a date
or out of range, and another token that names a date leaves the outcome as it is. A token
with the same numbers, whatever its weekday letter, always leads to the same outcome. -/
theorem fullDate_dependencies (line : List Char) (extraDays : Int)
    (full : (DatePattern.lead (withoutLineEnding line)).1.isFull = true) :
    (¬ FollowsToday line extraDays → ∀ today other,
      reschedule line today extraDays = reschedule line other extraDays) ∧
    (FollowsToday line extraDays → ∀ today,
      ((∃ date, (DatePattern.lead (withoutLineEnding line)).1.Names date) ↔
        (∃ date, rescheduledDate line today extraDays = .ok date) ∨
          rescheduledDate line today extraDays = .error .outOfRange) ∧
      ((∃ date, (DatePattern.lead (withoutLineEnding line)).1.Names date) →
        ∀ token pattern, DatePattern.Spelled token pattern → (∃ date, pattern.Names date) →
          rescheduledDate (withDateToken line token) today extraDays =
            rescheduledDate line today extraDays)) ∧
    (∀ token pattern, DatePattern.Spelled token pattern →
      pattern.SameNumbers (DatePattern.lead (withoutLineEnding line)).1 → ∀ today,
        rescheduledDate (withDateToken line token) today extraDays =
          rescheduledDate line today extraDays) := by
  obtain ⟨dateToken, rest, parts, spelled, ended⟩ :=
    DatePattern.exists_dateToken (DatePattern.isEmpty_of_full full)
  have replaced : ∀ token, withDateToken line token = token ++ rest := by
    intro token
    rw [parts, withDateToken_append spelled ended]
  refine ⟨reschedule_of_full full, fun follows today => ?_,
    fun token pattern other same today => ?_⟩
  · obtain ⟨step, leads⟩ := rescheduledDate_of_followsToday full follows
    -- The line's own token is one of the tokens that may stand in front of its text.
    have own := leads dateToken _ spelled full today
    rw [replaced, ← parts] at own
    have named : (∃ date, (DatePattern.lead (withoutLineEnding line)).1.Names date) →
        rescheduledDate line today extraDays = step.target today := by
      rintro ⟨date, names⟩
      rw [own, DatePattern.resolve_of_names spelled names]
      rfl
    refine ⟨⟨fun names => ?_, fun outcome => ?_⟩, ?_⟩
    · rw [named names]
      exact inCalendar_ok_or_outOfRange (step.target? today)
    · refine Classical.byContradiction fun unnamed => ?_
      obtain ⟨year, month, day, refused⟩ := DatePattern.resolve_of_unnamed spelled full unnamed
      rw [own, refused] at outcome
      simp [bind, Except.bind] at outcome
    · rintro names token pattern other ⟨date, otherNames⟩
      rw [named names, leads token pattern other otherNames.full,
        DatePattern.resolve_of_names other otherNames]
      rfl
  · have outcome := rescheduledDate_replaced_of_sameNumbers spelled other ended full same today
      extraDays
    rwa [← parts, ← replaced] at outcome

/-- Four days from today, whichever full date stands in front. -/
theorem fullDate_dependencies_four_days :
    let line := "15.9.4f test +4d".toList
    let today : Date := ⟨2015, 9, 6, by decide⟩
    (DatePattern.lead (withoutLineEnding line)).1.isFull = true ∧ FollowsToday line 0 ∧
      rescheduledDate line today 0 = .ok ⟨2015, 9, 10, by decide⟩ ∧
      rescheduledDate (withDateToken line "20.2.29".toList) today 0 =
        .ok ⟨2015, 9, 10, by decide⟩ := by
  intro line today
  have full : (DatePattern.lead (withoutLineEnding line)).1.isFull = true := by decide +kernel
  have follows : FollowsToday line 0 :=
    ⟨rfl, ⟨⟨some 15, some 9, some 4, some .friday⟩, none,
      some (.fromToday ⟨.plus, some 4, some .day⟩), " test +4d".toList⟩,
      ⟨.plus, some 4, some .day⟩, by decide +kernel, rfl, rfl⟩
  have outcome : rescheduledDate line today 0 = .ok ⟨2015, 9, 10, by decide⟩ := by decide +kernel
  have run : ∀ digits : List Char, digits ≠ [] → digits.length ≤ 2 →
      digits.all Char.isDigit = true → Decimal.IsRun 2 digits := fun _ nonempty short decimal =>
    ⟨nonempty, short, List.all_eq_true.mp decimal⟩
  have spelled : DatePattern.Spelled "20.2.29".toList ⟨some 20, some 2, some 29, none⟩ :=
    .yearMonthDay (run "20".toList (by decide) (by decide) rfl)
      (run "2".toList (by decide) (by decide) rfl) (run "29".toList (by decide) (by decide) rfl)
      .absent
  obtain ⟨_, sameOutcome, _⟩ := fullDate_dependencies line 0 full
  obtain ⟨named, replaced⟩ := sameOutcome follows today
  have names := named.mpr (.inl ⟨_, outcome⟩)
  exact ⟨full, follows, outcome, (replaced names _ _ spelled
    ⟨⟨2020, 2, 29, by decide⟩, ⟨20, rfl, rfl⟩, rfl, rfl⟩).trans outcome⟩

end Tickler
