import Tickler.Proofs.CanonicalLine
import Tickler.Proofs.OffsetTargets

/-!
# Extra days

Extra days are added to the date that a line has without them and without its recurrence: its
pattern is resolved, and its offset moves the date that the pattern stands for. All that can
fail before the days are added fails whatever their number is, and what fails when they are
added is only that the calendar does not have the date.

A recurrence counts only without extra days. Two runs of a line with different extra days
therefore share the base date as soon as both add days, or the line has no recurrence that
could count. No days at all are a number of days like any other then.
-/

namespace Tickler

namespace Note

/-- The base date of a note: the date that its pattern stands for, moved by its offset if it
has one. The recurrence has no part in it. -/
inductive BasedOn (note : Note) (today : Date) : Date → Prop where
  | pattern {base : Date} (resolved : note.date.resolve today = .ok base)
      (unmoved : note.offset = none) : BasedOn note today base
  | offset {start base : Date} {offset : Offset} (resolved : note.date.resolve today = .ok start)
      (given : note.offset = some offset) (leads : offset.LeadsTo start base) :
      BasedOn note today base

/-- No recurrence applies to a note, whatever days are added: its date is not full, or it has
an offset, or there is no recurrence in it. -/
def NeverRecurs (note : Note) : Prop :=
  note.date.isFull = false ∨ note.offset ≠ none ∨ note.recurrence = none

/-- The base date is worked out from the pattern and the offset. -/
theorem baseDate_eq_ok_iff (note : Note) (today base : Date) :
    note.baseDate today = .ok base ↔ note.BasedOn today base := by
  simp only [baseDate, Attempt.bind_eq_ok_iff]
  constructor
  · rintro ⟨start, resolved, moved⟩
    cases given : note.offset with
    | none =>
      rw [given] at moved
      obtain rfl := Except.ok.inj moved
      exact .pattern resolved given
    | some offset =>
      rw [given] at moved
      exact .offset resolved given (((offset.target_iff start).1 base).mp moved)
  · intro based
    cases based with
    | pattern resolved unmoved => exact ⟨base, resolved, by rw [unmoved]⟩
    | @offset start _ offset resolved given leads =>
      exact ⟨start, resolved, by rw [given]; exact ((offset.target_iff start).1 base).mpr leads⟩

/-- Where no recurrence applies, or days are added, no recurrence counts. -/
theorem not_recurs {note : Note} {extraDays : Int}
    (still : extraDays ≠ 0 ∨ note.NeverRecurs) :
    note.recurrence = none ∨ note.recurs extraDays = false := by
  rcases still with added | partly | moved | absent
  · exact .inr (by simp [recurs, added])
  · exact .inr (by simp [recurs, partly])
  · exact .inr (by simp [recurs, moved])
  · exact .inl absent

end Note

/-- A line fails before any days are added: it is not read, or its note has no base date. -/
inductive FailsBeforeDays (line : List Char) (today : Date) (failure : Failure) : Prop where
  | unread (refused : Note.read (withoutLineEnding line) = .error failure)
  | unbased {note : Note} (read : Note.read (withoutLineEnding line) = .ok note)
      (failed : note.baseDate today = .error failure)

/-- A line fails before the days are added, or its note has a base date. -/
theorem failsBeforeDays_or_based (line : List Char) (today : Date) :
    (∃ failure, FailsBeforeDays line today failure) ∨
      ∃ note base, Note.read (withoutLineEnding line) = .ok note ∧
        note.baseDate today = .ok base := by
  cases read : Note.read (withoutLineEnding line) with
  | error failure => exact .inl ⟨failure, .unread read⟩
  | ok note =>
    cases based : note.baseDate today with
    | error failure => exact .inl ⟨failure, .unbased read based⟩
    | ok base => exact .inr ⟨note, base, rfl, based⟩

/-- What fails before the days are added fails with any number of days. -/
theorem FailsBeforeDays.reschedule {line : List Char} {today : Date} {failure : Failure}
    (failed : FailsBeforeDays line today failure) (extraDays : Int) :
    Tickler.reschedule line today extraDays = .error failure := by
  cases failed with
  | unread refused => exact reschedule_of_refused refused today extraDays
  | unbased read failed =>
    rw [reschedule_of_read read, Note.dateOn, failed]
    rfl

/-- With a base date and no recurrence that counts, the days are all that is left to do. -/
theorem reschedule_of_base {line : List Char} {today base : Date} {note : Note} {extraDays : Int}
    (read : Note.read (withoutLineEnding line) = .ok note)
    (based : note.baseDate today = .ok base)
    (still : note.recurrence = none ∨ note.recurs extraDays = false) :
    reschedule line today extraDays = (base.addDays extraDays).map fun date => ⟨date, note⟩ := by
  rw [reschedule_of_read read, Note.dateOn_of_still still, based]
  rfl

/-- The days lead from the base date to the date so many days away, and are out of range
exactly if the calendar does not have it. -/
theorem reschedule_of_base_iff {line : List Char} {today base : Date} {note : Note}
    {extraDays : Int} (read : Note.read (withoutLineEnding line) = .ok note)
    (based : note.baseDate today = .ok base)
    (still : note.recurrence = none ∨ note.recurs extraDays = false) :
    (∀ rescheduled, reschedule line today extraDays = .ok rescheduled ↔
      base.IsAway extraDays rescheduled.date ∧ rescheduled.note = note) ∧
    (reschedule line today extraDays = .error .outOfRange ↔
      ¬ ∃ date, base.IsAway extraDays date) := by
  obtain ⟨reached, outside⟩ := base.addDays_iff extraDays
  rw [reschedule_of_base read based still, Attempt.map_eq_error_iff]
  refine ⟨fun rescheduled => ?_, outside⟩
  simp only [Attempt.map_eq_ok_iff, reached]
  constructor
  · rintro ⟨date, away, rfl⟩
    exact ⟨away, rfl⟩
  · rintro ⟨away, rfl⟩
    exact ⟨rescheduled.date, away, rfl⟩

/-- Two runs of a line with different extra days, both of which add some or on whose line no
recurrence applies. Either both fail with the same failure before the days are added, or both
count their days from one base date, to which the pattern and the offset lead and the
recurrence does not. Each run then keeps the note and leads to the date so many days away, or
is out of range exactly if the calendar does not have it; and the two lines are the same text
behind the nine characters of the date. -/
theorem reschedule_extraDays (line : List Char) (today : Date) (days otherDays : Int)
    (still : (days ≠ 0 ∧ otherDays ≠ 0) ∨
      ∀ note, Note.read (withoutLineEnding line) = .ok note → note.NeverRecurs) :
    (∃ failure, FailsBeforeDays line today failure ∧
      reschedule line today days = .error failure ∧
      reschedule line today otherDays = .error failure) ∨
    ∃ note base tail, Note.read (withoutLineEnding line) = .ok note ∧ note.BasedOn today base ∧
      ∀ extraDays, extraDays = days ∨ extraDays = otherDays →
        (∀ rescheduled, reschedule line today extraDays = .ok rescheduled ↔
          base.IsAway extraDays rescheduled.date ∧ rescheduled.note = note) ∧
        (reschedule line today extraDays = .error .outOfRange ↔
          ¬ ∃ date, base.IsAway extraDays date) ∧
        ∀ rescheduled, reschedule line today extraDays = .ok rescheduled →
          rescheduled.text = rescheduled.date.canonical ++ tail ∧
            rescheduled.date.canonical.length = 9 := by
  rcases failsBeforeDays_or_based line today with ⟨failure, failed⟩ | ⟨note, base, read, based⟩
  · exact .inl ⟨failure, failed, failed.reschedule days, failed.reschedule otherDays⟩
  · refine .inr ⟨note, base, note.tail, read, (note.baseDate_eq_ok_iff today base).mp based, ?_⟩
    intro extraDays isRun
    have unrecurring : extraDays ≠ 0 ∨ note.NeverRecurs := by
      rcases still with ⟨added, otherAdded⟩ | never
      · rcases isRun with rfl | rfl
        · exact .inl added
        · exact .inl otherAdded
      · exact .inr (never note read)
    obtain ⟨reached, outside⟩ := reschedule_of_base_iff read based (Note.not_recurs unrecurring)
    refine ⟨reached, outside, fun rescheduled done => ?_⟩
    obtain ⟨-, rfl⟩ := (reached rescheduled).mp done
    exact ⟨rescheduled.text_eq, rescheduled.date.length_canonical⟩

/-- The last Monday of the month is not asked for when days are added: three days on from a
Sunday is Wednesday, and as many days back as a 64-bit word can count is out of range. -/
theorem reschedule_extraDays_last_monday :
    let line := "15.09.06u |m-1m".toList
    let today : Date := ⟨2015, 9, 6, by decide⟩
    ((3 : Int) ≠ 0 ∧ (-9223372036854775808 : Int) ≠ 0) ∧
      ∃ note base, Note.read (withoutLineEnding line) = .ok note ∧ note.BasedOn today base ∧
        (∃ rescheduled, reschedule line today 3 = .ok rescheduled ∧
          rescheduled.text = "15.09.09w |m-1m".toList ∧ base.IsAway 3 rescheduled.date) ∧
        reschedule line today (-9223372036854775808) = .error .outOfRange ∧
        ¬ ∃ date, base.IsAway (-9223372036854775808) date := by
  intro line today
  have nonzero : (3 : Int) ≠ 0 ∧ (-9223372036854775808 : Int) ≠ 0 := by decide
  let note : Note := ⟨⟨some 15, some 9, some 6, some .sunday⟩, none,
    some (.onWeekday .month (-1) .monday), " |m-1m".toList⟩
  have done : reschedule line today 3 = .ok ⟨⟨2015, 9, 9, by decide⟩, note⟩ := by decide +kernel
  have outside : reschedule line today (-9223372036854775808) = .error .outOfRange := by
    decide +kernel
  rcases reschedule_extraDays line today 3 (-9223372036854775808) (.inl nonzero) with
    ⟨failure, -, failed, -⟩ | ⟨read, base, tail, isRead, based, runs⟩
  · simp [done] at failed
  · obtain ⟨reached, -, -⟩ := runs 3 (.inl rfl)
    obtain ⟨-, left, -⟩ := runs (-9223372036854775808) (.inr rfl)
    exact ⟨nonzero, read, base, isRead, based, ⟨_, done, by decide +kernel,
      ((reached _).mp done).1⟩, outside, left.mp outside⟩

end Tickler
