import Tickler.Note.Reschedule
import Tickler.Proofs.LeftmostToken

/-!
# Recurrences that do not count

A recurrence counts only for a full date that nothing else moves. Where it does not
count, the date comes from the pattern, the offset and the extra days alone, and the
description is not asked for it.

Reading the note comes first, though, and reading decodes the token of the recurrence
whether it counts or not. An amount that is too large there ends the attempt with a
failure, and it is the one thing in a description that can. The amount of the offset is
read before it, so that its failure hides one in the description.
-/

namespace Tickler

/-- The leftmost token of a description counts an amount, and the digits of that amount
are too large. -/
def RecurrenceToken.Refused (description digits : List Char) : Prop :=
  ∃ token step, (∃ position run, IsLeftmost description position run token) ∧
    (token = .fromToday step ∨ token = .fromDate step) ∧ step.IsTooLarge ∧ step.digits = digits

/-- No recurrence counts for a line whose zones hold this pattern and this offset token:
the date is not full, or an offset moves it, or extra days do. -/
def Suppressed (pattern : Option DatePattern) (token : Option (Sign × Measure))
    (extraDays : Int) : Prop :=
  (pattern.getD {}).isFull = false ∨ token ≠ none ∨ extraDays ≠ 0

/-- The date of a pattern after its offset and the extra days, as a note without any
recurrence or description has it. -/
def DatePattern.moved (pattern : DatePattern) (offset : Option Offset) (today : Date)
    (extraDays : Int) : Except Failure Date := do
  let base ← Note.baseDate { date := pattern, offset, recurrence := none, description := [] } today
  base.addDays extraDays

/-- A description is refused exactly for the digits of its leftmost token. -/
theorem RecurrenceToken.recurrenceOf_eq_error_iff_refused (text : List Char) (failure : Failure) :
    Note.recurrenceOf text = .error failure ↔
      ∃ digits, Refused text digits ∧ failure = .amountTooLarge digits := by
  simp only [recurrenceOf_eq_error_iff, find?_eq_some_iff, recurrence_eq_error_iff, Refused]
  constructor
  · rintro ⟨token, leftmost, step, named, large, rfl⟩
    exact ⟨step.digits, ⟨token, step, leftmost, named, large, rfl⟩, rfl⟩
  · rintro ⟨_, ⟨token, step, leftmost, named, large, rfl⟩, rfl⟩
    exact ⟨token, leftmost, step, named, large, rfl⟩

/-- A note whose recurrence does not count has the date of its pattern, moved. -/
theorem Note.dateOn_of_not_recurs {note : Note} {extraDays : Int}
    (still : note.recurs extraDays = false) (today : Date) :
    note.dateOn today extraDays = note.date.moved note.offset today extraDays :=
  dateOn_of_still (.inr still) today

/-- Where no recurrence counts, a line is rescheduled in three links: the offset is
accepted, the token of the description is accepted, and the pattern is moved. What the
second link accepts is not used by the third. -/
theorem rescheduledDate_of_suppressed {line description : List Char} {pattern : Option DatePattern}
    {token : Option (Sign × Measure)} {today : Date} {extraDays : Int}
    (divided : Note.Divided (withoutLineEnding line) pattern token description)
    (suppressed : Suppressed pattern token extraDays) :
    rescheduledDate line today extraDays = (do
      let offset ← Note.offsetOf token
      let _ ← Note.recurrenceOf description
      (pattern.getD {}).moved offset today extraDays) := by
  rw [rescheduledDate_eq, Note.read_of_divided divided]
  cases accepted : Note.offsetOf token with
  | error failure => rfl
  | ok offset =>
    cases Note.recurrenceOf description with
    | error failure => rfl
    | ok recurrence =>
      have still : Note.recurs ⟨pattern.getD {}, offset, recurrence, description⟩ extraDays =
          false := by
        rcases suppressed with partly | typed | added
        · simp [Note.recurs, partly]
        · cases (Note.offsetOf_eq_ok_iff token offset).mp accepted with
          | absent => exact absurd rfl typed
          | present counted => simp [Note.recurs]
        · simp [Note.recurs, added]
      exact Note.dateOn_of_not_recurs still today

/-- A description that is not refused is accepted. -/
theorem RecurrenceToken.exists_recurrenceOf_of_not_refused {description : List Char}
    (harmless : ∀ digits, ¬ Refused description digits) :
    ∃ recurrence, Note.recurrenceOf description = .ok recurrence := by
  cases found : Note.recurrenceOf description with
  | ok recurrence => exact ⟨recurrence, rfl⟩
  | error failure =>
    obtain ⟨digits, refused, _⟩ := (recurrenceOf_eq_error_iff_refused description failure).mp found
    exact absurd refused (harmless digits)

/-- Where no recurrence counts, two lines with the same date and offset in front have the
same date or the same failure, however their descriptions differ, unless the leftmost
token of a description has an amount that is too large. That amount is the failure then,
before any date is looked at; only the amount of the offset comes first. No other text in
a description makes one line fail where another is rescheduled. -/
theorem rescheduledDate_blind_to_description (line other : List Char) (today : Date)
    (extraDays : Int) (pattern : Option DatePattern) (token : Option (Sign × Measure))
    (description otherDescription : List Char)
    (divided : Note.Divided (withoutLineEnding line) pattern token description)
    (otherDivided : Note.Divided (withoutLineEnding other) pattern token otherDescription)
    (suppressed : Suppressed pattern token extraDays) :
    ((∀ digits, ¬ RecurrenceToken.Refused description digits) →
      (∀ digits, ¬ RecurrenceToken.Refused otherDescription digits) →
        rescheduledDate line today extraDays = rescheduledDate other today extraDays) ∧
    (∀ sign measure, token = some (sign, measure) → measure.IsTooLarge →
      rescheduledDate line today extraDays = .error (.amountTooLarge measure.digits)) ∧
    (∀ digits, RecurrenceToken.Refused description digits →
      (∀ sign measure, token = some (sign, measure) → ¬ measure.IsTooLarge) →
        rescheduledDate line today extraDays = .error (.amountTooLarge digits)) ∧
    (∀ reached failure, rescheduledDate line today extraDays = .ok reached →
      rescheduledDate other today extraDays = .error failure →
        ∃ digits, RecurrenceToken.Refused otherDescription digits ∧
          failure = .amountTooLarge digits) := by
  rw [rescheduledDate_of_suppressed divided suppressed,
    rescheduledDate_of_suppressed otherDivided suppressed]
  refine ⟨?_, ?_, ?_, ?_⟩
  · intro harmless otherHarmless
    obtain ⟨recurrence, found⟩ := RecurrenceToken.exists_recurrenceOf_of_not_refused harmless
    obtain ⟨otherRecurrence, otherFound⟩ :=
      RecurrenceToken.exists_recurrenceOf_of_not_refused otherHarmless
    simp only [found, otherFound]
    rfl
  · intro sign measure typed large
    have refused : Note.offsetOf token = .error (.amountTooLarge measure.digits) :=
      (Note.offsetOf_eq_error_iff token _).mpr ⟨sign, measure, typed, large, rfl⟩
    rw [refused]
    rfl
  · intro digits refused small
    have failed : Note.recurrenceOf description = .error (.amountTooLarge digits) :=
      (RecurrenceToken.recurrenceOf_eq_error_iff_refused description _).mpr ⟨digits, refused, rfl⟩
    cases accepted : Note.offsetOf token with
    | ok offset =>
      rw [failed]
      rfl
    | error failure =>
      obtain ⟨sign, measure, typed, large, _⟩ :=
        (Note.offsetOf_eq_error_iff token failure).mp accepted
      exact absurd large (small sign measure typed)
  · intro reached failure done failed
    simp only [Attempt.bind_eq_ok_iff] at done
    obtain ⟨offset, accepted, _, _, moved⟩ := done
    simp only [Attempt.bind_eq_error_iff, accepted, reduceCtorEq, false_or,
      Except.ok.injEq] at failed
    obtain ⟨_, rfl, refused | ⟨_, _, unmoved⟩⟩ := failed
    · exact (RecurrenceToken.recurrenceOf_eq_error_iff_refused otherDescription failure).mp refused
    · simp [moved] at unmoved

/-- The offset moves both notes to the same day, whether a ninth Monday or nothing at all
is asked for behind it. -/
theorem rescheduledDate_blind_to_ninth_monday :
    let line := "4+2w |m+9m".toList
    let other := "04+2w test\n".toList
    let token := some (Sign.plus, Measure.mk ['2'] (some .week))
    let today : Date := ⟨2015, 9, 6, by decide⟩
    Note.Divided (withoutLineEnding line) (some ⟨none, none, some 4, none⟩) token
        " |m+9m".toList ∧
      Note.Divided (withoutLineEnding other) (some ⟨none, none, some 4, none⟩) token
        " test".toList ∧
      Suppressed (some ⟨none, none, some 4, none⟩) token 0 ∧
      rescheduledDate line today 0 = rescheduledDate other today 0 ∧
      rescheduledDate line today 0 = .ok ⟨2015, 10, 18, by decide⟩ := by
  intro line other token today
  have divided : Note.Divided (withoutLineEnding line) (some ⟨none, none, some 4, none⟩) token
      " |m+9m".toList := (Note.divided_iff _ _ _ _).mpr (by decide +kernel)
  have otherDivided : Note.Divided (withoutLineEnding other) (some ⟨none, none, some 4, none⟩) token
      " test".toList := (Note.divided_iff _ _ _ _).mpr (by decide +kernel)
  have suppressed : Suppressed (some ⟨none, none, some 4, none⟩) token 0 := .inl rfl
  have accepted : ∀ {text : List Char} {recurrence : Option Recurrence},
      Note.recurrenceOf text = .ok recurrence →
        ∀ digits, ¬ RecurrenceToken.Refused text digits := by
    intro text recurrence found digits refused
    have failed := (RecurrenceToken.recurrenceOf_eq_error_iff_refused text _).mpr
      ⟨digits, refused, rfl⟩
    simp [found] at failed
  have same := (rescheduledDate_blind_to_description line other today 0 _ _ _ _ divided
    otherDivided suppressed).1
      (accepted (show Note.recurrenceOf " |m+9m".toList = .ok (some (.onWeekday .month 9 .monday))
        by decide +kernel))
      (accepted (show Note.recurrenceOf " test".toList = .ok none by decide +kernel))
  exact ⟨divided, otherDivided, suppressed, same, by decide +kernel⟩

/-- A recurrence that does not count is not without all influence: the fourth of a month
takes none, and yet a digit run behind it ends the attempt. -/
theorem suppressed_recurrence_can_fail :
    ¬ ∀ (line other : List Char) (today : Date) (extraDays : Int) (pattern : Option DatePattern)
        (token : Option (Sign × Measure)) (description otherDescription : List Char),
        Note.Divided (withoutLineEnding line) pattern token description →
        Note.Divided (withoutLineEnding other) pattern token otherDescription →
        Suppressed pattern token extraDays →
        rescheduledDate line today extraDays = rescheduledDate other today extraDays := by
  intro blind
  have same := blind "4 >99999999999".toList "4 test".toList ⟨2015, 9, 6, by decide⟩ 0
    (some ⟨none, none, some 4, none⟩) none " >99999999999".toList " test".toList
    ((Note.divided_iff _ _ _ _).mpr (by decide +kernel))
    ((Note.divided_iff _ _ _ _).mpr (by decide +kernel)) (.inl rfl)
  exact absurd same (by decide +kernel)

end Tickler
