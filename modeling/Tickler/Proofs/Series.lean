import Tickler.Proofs.History
import Tickler.Proofs.Months

/-!
# Series of dates

A line that begins with a canonical date, has no offset and holds a recurrence goes
through a series of dates when it is rescheduled again and again without extra days. The
dates of the century from 2000 on are read back as they are, so each date of the series
is the next one of the recurrence, and as long as the series stays in that century the
lines are its dates in front of the one tail.

Whether a line is of this kind is seen by reading it once: if the whole of a date is
found and no offset, the canonical form was the date token, and the tail is one.
-/

namespace Tickler

/-- What stands in front of the last character of a text with an optional letter stands in
front of the letter. -/
theorem OptionalLetter.mem_of_mem_dropLast {α : Type} {letter : α → Char} {mark front : List Char}
    {meaning : Option α} (spelled : OptionalLetter letter mark meaning) {character : Char}
    (member : character ∈ (front ++ mark).dropLast) : character ∈ front := by
  cases spelled with
  | absent =>
    rw [List.append_nil] at member
    exact (List.dropLast_sublist _).subset member
  | present meaning => rwa [List.dropLast_concat] at member

/-- A date token has digits and points in front of its last character, and nothing else. -/
theorem DatePattern.number_of_mem_dropLast {text : List Char} {pattern : DatePattern}
    (spelled : Spelled text pattern) {character : Char} (member : character ∈ text.dropLast) :
    character.isDigit = true ∨ character = '.' := by
  have inRun : ∀ {run : List Char}, Decimal.IsRun 2 run → character ∈ run →
      character.isDigit = true ∨ character = '.' :=
    fun isRun inside => .inl (isRun.decimal character inside)
  cases spelled with
  | @yearMonthDay year month day letter weekday yearRun monthRun dayRun mark =>
    have front : year ++ '.' :: (month ++ '.' :: (day ++ letter)) =
        (year ++ '.' :: (month ++ '.' :: day)) ++ letter := by simp
    rw [front] at member
    have inFront := mark.mem_of_mem_dropLast member
    simp only [List.mem_append, List.mem_cons] at inFront
    rcases inFront with inYear | point | inMonth | point | inDay
    · exact inRun yearRun inYear
    · exact .inr point
    · exact inRun monthRun inMonth
    · exact .inr point
    · exact inRun dayRun inDay
  | @monthDay month day letter weekday monthRun dayRun mark =>
    have front : month ++ '.' :: (day ++ letter) = (month ++ '.' :: day) ++ letter := by simp
    rw [front] at member
    have inFront := mark.mem_of_mem_dropLast member
    simp only [List.mem_append, List.mem_cons] at inFront
    rcases inFront with inMonth | point | inDay
    · exact inRun monthRun inMonth
    · exact .inr point
    · exact inRun dayRun inDay
  | day dayRun mark => exact inRun dayRun (mark.mem_of_mem_dropLast member)
  | weekday weekday => cases member

/-- A canonical form is no date token any more when something is added to it, because its
weekday letter is then not the last character. -/
theorem DatePattern.eq_nil_of_spelled_canonical {date : Date} {added : List Char}
    {pattern : DatePattern} (spelled : Spelled (date.canonical ++ added) pattern) : added = [] := by
  by_cases vacant : added = []
  · exact vacant
  · have inside : date.weekday.letter ∈ (date.canonical ++ added).dropLast := by
      rw [List.dropLast_append_of_ne_nil vacant]
      exact List.mem_append_left _ (List.mem_append_right _ List.mem_cons_self)
    obtain ⟨noDigit, noPoint, _⟩ := weekday_letter_other date.weekday
    rcases number_of_mem_dropLast spelled inside with digit | point
    · simp [noDigit] at digit
    · exact absurd point noPoint

/-- If a line that begins with a canonical form is read with a date and without an offset,
what stands behind the form is a tail, and the recurrence read is the tail's. -/
theorem Note.isTail_of_read_canonical {date : Date} {tail : List Char} {note : Note}
    (done : read (date.canonical ++ tail) = .ok note) (dated : note.date.isEmpty = false)
    (unmoved : note.offset = none) :
    IsTail tail ∧ recurrenceOf tail = .ok note.recurrence := by
  obtain ⟨pattern, token, description, divided⟩ := exists_divided (date.canonical ++ tail)
  rw [read_of_divided divided] at done
  simp only [Attempt.bind_eq_ok_iff, Except.ok.injEq, offsetOf_eq_ok_iff] at done
  obtain ⟨offset, stated, recurrence, found, rfl⟩ := done
  obtain rfl : offset = none := unmoved
  cases stated
  obtain ⟨dateZone, offsetZone⟩ := divided
  cases offsetZone with
  | absent unspelled =>
    cases dateZone with
    | absent => cases dated
    | token spelled =>
      have clean : ∀ character ∈ date.canonical, character ∉ [' ', '+'] :=
        DatePattern.clean_of_spelled _ _ (DatePattern.spelled_canonical date)
      have run : leadingRun [' ', '+'] (date.canonical ++ tail) =
          date.canonical ++ leadingRun [' ', '+'] tail :=
        List.takeWhile_append_of_pos fun character member => by simpa using clean character member
      rw [run] at spelled
      have vacant := DatePattern.eq_nil_of_spelled_canonical spelled
      have ended := (leadingRun_append_drop [' ', '+'] tail).2
      rw [run, vacant, List.append_nil, List.drop_left] at found unspelled
      rw [vacant] at ended
      exact ⟨⟨ended, (Offset.lead_eq_iff_zone _ _ _).mpr (.absent unspelled)⟩, found⟩

namespace Date

/-- The last day of the century from 2000 on. -/
def centuryEnd : Date := ⟨2099, 12, 31, by decide⟩

/-- A date of the century from 2000 on is read back as it is. -/
theorem readBack_eq_self {date : Date} (begun : 2000 ≤ date.year) (running : date.year ≤ 2099) :
    date.readBack = date := by
  refine eq_of_numbers ?_ rfl rfl
  change 2000 + date.year % 100 = date.year
  omega

/-- A date up to the end of that century is far from the last year of the calendar. -/
theorem year_lt_lastYear {date : Date} (running : date.year ≤ 2099) : date.year < lastYear := by
  simp only [lastYear]
  omega

/-- Between a date of the century from 2000 on and its end every day number belongs to a
date of that century. -/
theorem exists_inCentury_of_dayNumber {start : Date} {number : Int} (begun : 2000 ≤ start.year)
    (later : start.dayNumber ≤ number) (ahead : number ≤ centuryEnd.dayNumber) :
    ∃ date : Date, date.dayNumber = number ∧ 2000 ≤ date.year ∧ date.year ≤ 2099 := by
  have lower := (dayNumber_spans start).1
  have upper := (dayNumber_spans centuryEnd).2
  have found : (ofDayNumber? number).isSome := by
    rw [ofDayNumber?_isSome_iff]
    rw [show centuryEnd.year = 2099 from rfl] at upper
    simp only [daysBeforeYear, firstYear, lastYear] at lower upper ⊢
    omega
  obtain ⟨date, found⟩ := Option.isSome_iff_exists.mp found
  obtain rfl := (ofDayNumber?_eq_some_iff number date).mp found
  exact ⟨date, rfl, Int.le_trans begun (year_le_of_dayNumber_le later),
    year_le_of_dayNumber_le ahead⟩

/-- Between the month of such a date and the end of the century every day of a counted
month is a date of that century. -/
theorem exists_inCentury_of_monthNumber {start : Date} {count : Int} {day : Nat}
    (begun : 2000 ≤ start.year) (later : start.monthNumber ≤ count)
    (ahead : count ≤ centuryEnd.monthNumber) (first : 1 ≤ day) (last : day ≤ lengthOfMonth count) :
    ∃ date : Date, (date.monthNumber = count ∧ date.day = day) ∧
      2000 ≤ date.year ∧ date.year ≤ 2099 := by
  have startParts := (monthNumber_parts start).1
  have endCount : centuryEnd.monthNumber = 25199 := rfl
  have inCalendar : firstYear ≤ count / 12 ∧ count / 12 ≤ lastYear := by
    simp only [firstYear, lastYear]
    omega
  obtain ⟨date, rfl, sameDay⟩ := exists_of_monthNumber inCalendar.1 inCalendar.2 first last
  exact ⟨date, ⟨rfl, sameDay⟩, Int.le_trans begun (year_le_of_monthNumber_le later),
    year_le_of_monthNumber_le ahead⟩

end Date

/-- In the century from 2000 on a recurrence takes the next date from the date itself. -/
theorem advance_of_century {date : Date} (begun : 2000 ≤ date.year) (running : date.year ≤ 2099)
    (recurrence : Recurrence) (today : Date) :
    advance (some recurrence) date today 0 = recurrence.next date today := by
  simp [advance, Date.readBack_eq_self begun running]

/-- The dates that a recurrence goes through in a number of steps, told by a property of
the number of steps passed and the date. Each number of steps leads to one date, which lies
in the century from 2000 on, and the recurrence leads from each date to the next. -/
structure IsSeries (recurrence : Recurrence) (count : Nat) (IsAt : Nat → Date → Prop) : Prop where
  reached : ∀ passed ≤ count, ∃ date, IsAt passed date ∧ 2000 ≤ date.year ∧ date.year ≤ 2099
  determined : ∀ passed ≤ count, ∀ left right, IsAt passed left → IsAt passed right → left = right
  leads : ∀ passed < count, ∀ date next, IsAt passed date → IsAt (passed + 1) next →
    ∀ today, recurrence.next date today = .ok next

/-- The machine that steps from each of some dates to the next goes through them, and on
from the last one. The induction is on the todays; the number of steps passed when they
begin moves along. -/
theorem course_of_steps {recurrence : Option Recurrence} (dates : Nat → Date) (first : Nat)
    (todays : List Date) (later : List (Date × Int))
    (steps : ∀ passed, first ≤ passed → passed < first + todays.length → ∀ today,
      advance recurrence (dates passed) today 0 = .ok (dates (passed + 1))) :
    course recurrence (dates first) ((todays.map fun today => (today, 0)) ++ later) =
      ((List.range' (first + 1) todays.length).map fun passed => .ok (dates passed)) ++
        course recurrence (dates (first + todays.length)) later := by
  induction todays generalizing first with
  | nil => rfl
  | cons today others inductionHypothesis =>
    have next := steps first (Nat.le_refl first) (by simp) today
    have following := inductionHypothesis (first + 1) fun passed behind inside =>
      steps passed (Nat.le_of_succ_le behind) (by rw [List.length_cons]; omega)
    have place : first + (others.length + 1) = first + 1 + others.length := by omega
    simp only [List.map_cons, List.cons_append, course, next, following, List.length_cons,
      List.range'_succ, place]

/-- A series has one date for each number of steps passed, and the machine goes through
these dates, whatever the todays are. What it does later it does from the last one. -/
theorem IsSeries.exists_dates {recurrence : Recurrence} {count : Nat} {IsAt : Nat → Date → Prop}
    (series : IsSeries recurrence count IsAt) {start : Date} (begins : IsAt 0 start) :
    ∃ dates : Nat → Date, dates 0 = start ∧
      (∀ passed ≤ count, ∀ date, IsAt passed date ↔ date = dates passed) ∧
      (∀ passed < count, ∀ today,
        advance (some recurrence) (dates passed) today 0 = .ok (dates (passed + 1))) ∧
      ∀ (todays : List Date) (later : List (Date × Int)), todays.length = count →
        course (some recurrence) start ((todays.map fun today => (today, 0)) ++ later) =
          ((List.range' 1 count).map fun passed => .ok (dates passed)) ++
            course (some recurrence) (dates count) later := by
  have reached : ∀ passed, ∃ date, passed ≤ count →
      IsAt passed date ∧ 2000 ≤ date.year ∧ date.year ≤ 2099 := by
    intro passed
    by_cases within : passed ≤ count
    · obtain ⟨date, at'⟩ := series.reached passed within
      exact ⟨date, fun _ => at'⟩
    · exact ⟨start, fun impossible => absurd impossible within⟩
  obtain ⟨dates, reached⟩ := Classical.skolem.mp reached
  have zero : dates 0 = start :=
    series.determined 0 (Nat.zero_le count) _ _ (reached 0 (Nat.zero_le count)).1 begins
  have steps : ∀ passed < count, ∀ today,
      advance (some recurrence) (dates passed) today 0 = .ok (dates (passed + 1)) := by
    intro passed within today
    obtain ⟨here, begun, running⟩ := reached passed (Nat.le_of_lt within)
    obtain ⟨following, _⟩ := reached (passed + 1) within
    rw [advance_of_century begun running]
    exact series.leads passed within _ _ here following today
  refine ⟨dates, zero, ?_, steps, ?_⟩
  · intro passed within date
    have here := (reached passed within).1
    constructor
    · intro other
      exact series.determined passed within _ _ other here
    · rintro rfl
      exact here
  · rintro todays later rfl
    have followed := course_of_steps dates 0 todays later fun passed _ within =>
      steps passed (by omega)
    simpa only [zero, Nat.zero_add] using followed

section Kept

variable {tail : List Char} {recurrence : Recurrence} (isTail : IsTail tail)
  (unended : tail.getLast? ≠ some '\n') (found : Note.recurrenceOf tail = .ok (some recurrence))

include isTail unended found

/-- The date that a kept line is rescheduled to is the outcome of the machine's step. -/
theorem rescheduledDate_canonical_append (date today : Date) (extraDays : Int) :
    rescheduledDate (date.canonical ++ tail) today extraDays =
      advance (some recurrence) date today extraDays := by
  rw [rescheduledDate, reschedule_canonical_append date isTail unended found]
  cases advance (some recurrence) date today extraDays <;> rfl

/-- If the machine has an outcome for every today, the lines of the visits show them. -/
theorem history_eq_course (date : Date) (todays : List Date)
    {outcomes : List (Except Failure Date)} (whole : outcomes.length = todays.length)
    (followed : course (some recurrence) date (todays.map fun today => (today, 0)) = outcomes) :
    history (date.canonical ++ tail) (todays.map fun today => ⟨today, 0, []⟩) =
      outcomes.map (outcomeLine tail) := by
  have shown := history_canonical_append isTail unended found
    (todays.map fun today => (today, 0)) date
  rw [followed, List.map_map] at shown
  refine (shown.eq_of_length ?_).symm
  rw [length_history, List.length_map, List.length_map, whole]

/-- A kept line that starts a series shows its dates, one with each visit, and then the
failure if the recurrence finds no date after the last one. -/
theorem IsSeries.exists_lines {count : Nat} {IsAt : Nat → Date → Prop}
    (series : IsSeries recurrence count IsAt) {start : Date} (begins : IsAt 0 start) :
    ∃ dates : Nat → Date, dates 0 = start ∧
      (∀ passed ≤ count, ∀ date, IsAt passed date ↔ date = dates passed) ∧
      (∀ passed < count, ∀ today,
        rescheduledDate ((dates passed).canonical ++ tail) today 0 = .ok (dates (passed + 1))) ∧
      (∀ todays : List Date, todays.length = count →
        history (start.canonical ++ tail) (todays.map fun today => ⟨today, 0, []⟩) =
          (List.range' 1 count).map fun passed => (dates passed).canonical ++ tail) ∧
      ∀ (todays : List Date) (failure : Failure), todays.length = count + 1 →
        (∀ today, recurrence.next (dates count) today = .error failure) →
        history (start.canonical ++ tail) (todays.map fun today => ⟨today, 0, []⟩) =
          ((List.range' 1 count).map fun passed => (dates passed).canonical ++ tail) ++
            [failure.message] := by
  obtain ⟨dates, zero, placed, steps, followed⟩ := series.exists_dates begins
  refine ⟨dates, zero, placed, ?_, ?_, ?_⟩
  · intro passed within today
    rw [rescheduledDate_canonical_append isTail unended found]
    exact steps passed within today
  · intro todays length
    have all := followed todays [] length
    rw [List.append_nil, course, List.append_nil] at all
    rw [history_eq_course isTail unended found start todays (by simp [length]) all, List.map_map]
    rfl
  · intro todays failure length fails
    obtain ⟨others, today, rfl⟩ : ∃ others today, todays = others ++ [today] :=
      ⟨_, _, (List.dropLast_concat_getLast (List.ne_nil_of_length_eq_add_one length)).symm⟩
    obtain ⟨date, here, begun, running⟩ := series.reached count (Nat.le_refl count)
    obtain rfl : date = dates count := (placed count (Nat.le_refl count) date).mp here
    have failed : advance (some recurrence) (dates count) today 0 = .error failure := by
      rw [advance_of_century begun running]
      exact fails today
    have all := followed others [(today, 0)] (by simpa using length)
    simp only [course, failed] at all
    rw [← List.map_singleton (f := fun today : Date => (today, (0 : Int))), ← List.map_append] at all
    rw [history_eq_course isTail unended found start (others ++ [today]) (by simp [length]) all,
      List.map_append, List.map_map]
    rfl

end Kept

end Tickler
