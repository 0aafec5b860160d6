import Tickler.Note.Resolution

/-!
# The search for a partial date

A pattern that gives something, but not a whole date, is looked for among the days after
today. The search goes from day to day, so that what it finds is the first day of its
window that fits. If no day fits, it ends with the last day of the window, or where the
calendar ends if that comes sooner.

The window is told by day numbers: the dates whose number lies behind that of the start,
by no more than the number of days. One step of the search moves the start by a day and
leaves the end of the window where it is.
-/

namespace Tickler

/-- Between two dates no number is left out. -/
theorem Date.exists_of_between {left right : Date} {number : Int}
    (behind : left.dayNumber ≤ number) (before : number ≤ right.dayNumber) :
    ∃ date : Date, date.dayNumber = number := by
  have leftFound := (ofDayNumber?_isSome_iff _).mp (by rw [ofDayNumber?_dayNumber left]; rfl)
  have rightFound := (ofDayNumber?_isSome_iff _).mp (by rw [ofDayNumber?_dayNumber right]; rfl)
  have found : (ofDayNumber? number).isSome := (ofDayNumber?_isSome_iff number).mpr (by omega)
  obtain ⟨date, named⟩ := Option.isSome_iff_exists.mp found
  exact ⟨date, dayNumber_of_ofDayNumber? named⟩

namespace DatePattern

/-- A date has everything that the pattern gives, the year apart, and is one of the given
number of days after the start. -/
structure IsMatch (pattern : DatePattern) (start : Date) (days : Nat) (date : Date) : Prop where
  later : start.dayNumber < date.dayNumber
  within : date.dayNumber ≤ start.dayNumber + days
  sameMonth : ∀ month, pattern.month = some month → date.month = month
  sameDay : ∀ day, pattern.day = some day → date.day = day
  sameWeekday : ∀ weekday, pattern.weekday = some weekday → date.weekday = weekday

/-- The earliest of the dates that match. -/
structure IsFirstMatch (pattern : DatePattern) (start : Date) (days : Nat) (date : Date) : Prop
    extends pattern.IsMatch start days date where
  least : ∀ other, pattern.IsMatch start days other → date.dayNumber ≤ other.dayNumber

/-- A date is admitted exactly if it has everything that the pattern gives, the year apart. -/
theorem admits_iff (pattern : DatePattern) (date : Date) :
    pattern.admits date = true ↔
      (∀ month, pattern.month = some month → date.month = month) ∧
        (∀ day, pattern.day = some day → date.day = day) ∧
        ∀ weekday, pattern.weekday = some weekday → date.weekday = weekday := by
  simp only [admits, Bool.and_eq_true, Option.all_eq_true, beq_iff_eq, and_assoc,
    eq_comm (a := date.month), eq_comm (a := date.day), eq_comm (a := date.weekday)]

/-- The matches of a window are its first day, if that is admitted, and the matches of the
window that is left behind it. -/
theorem isMatch_succ_iff {pattern : DatePattern} {start next : Date}
    (following : next.dayNumber = start.dayNumber + 1) (days : Nat) (date : Date) :
    pattern.IsMatch start (days + 1) date ↔
      (date = next ∧ pattern.admits next = true) ∨ pattern.IsMatch next days date := by
  constructor
  · intro found
    rcases Int.lt_or_eq_of_le (Int.add_one_le_of_lt found.later) with behind | first
    · refine .inr ⟨by omega, ?_, found.sameMonth, found.sameDay, found.sameWeekday⟩
      have within := found.within
      omega
    · have same : date = next := Date.dayNumber_injective (by omega)
      subst same
      exact .inl ⟨rfl, (admits_iff _ _).mpr ⟨found.sameMonth, found.sameDay, found.sameWeekday⟩⟩
  · rintro (⟨rfl, admitted⟩ | found)
    · obtain ⟨sameMonth, sameDay, sameWeekday⟩ := (admits_iff _ _).mp admitted
      exact ⟨by omega, by omega, sameMonth, sameDay, sameWeekday⟩
    · have later := found.later
      have within := found.within
      exact ⟨by omega, by omega, found.sameMonth, found.sameDay, found.sameWeekday⟩

/-- What a search may end in: the first match of its window, or, without a match, the
failure that tells the last day of the window, or the one that says that the calendar ends
before it. -/
inductive Ends (pattern : DatePattern) (start : Date) (days : Nat) : Except Failure Date → Prop
  | found (date : Date) (first : pattern.IsFirstMatch start days date) :
      Ends pattern start days (.ok date)
  | exhausted (last : Date) (reached : last.dayNumber = start.dayNumber + days)
      (unmatched : ¬ ∃ date, pattern.IsMatch start days date) :
      Ends pattern start days (.error (.unresolvable pattern last))
  | cutOff (short : ¬ ∃ last : Date, last.dayNumber = start.dayNumber + days)
      (unmatched : ¬ ∃ date, pattern.IsMatch start days date) :
      Ends pattern start days (.error .outOfRange)

/-- A step past a day that is not admitted changes the window and not how the search ends. -/
theorem Ends.of_next {pattern : DatePattern} {start next : Date} {days : Nat}
    {outcome : Except Failure Date} (following : next.dayNumber = start.dayNumber + 1)
    (refused : pattern.admits next = false) (ended : pattern.Ends next days outcome) :
    pattern.Ends start (days + 1) outcome := by
  have sameMatches (date : Date) :
      pattern.IsMatch start (days + 1) date ↔ pattern.IsMatch next days date := by
    rw [isMatch_succ_iff following]
    simp [refused]
  cases ended with
  | found date first =>
    refine .found date ⟨(sameMatches date).mpr first.toIsMatch, ?_⟩
    intro other found
    exact first.least other ((sameMatches other).mp found)
  | exhausted last reached unmatched =>
    refine .exhausted last (by omega) ?_
    rintro ⟨date, found⟩
    exact unmatched ⟨date, (sameMatches date).mp found⟩
  | cutOff short unmatched =>
    refine .cutOff ?_ ?_
    · rintro ⟨last, reached⟩
      exact short ⟨last, by omega⟩
    · rintro ⟨date, found⟩
      exact unmatched ⟨date, (sameMatches date).mp found⟩

/-- Every search ends in one of the three ways. The induction is on the days left: if the
next day is admitted it comes before every other match, and if the calendar has no next day
then no later date is left to match or to end the window. -/
theorem ends_search (pattern : DatePattern) (days : Nat) (start : Date) :
    pattern.Ends start days (pattern.search days start) := by
  induction days generalizing start with
  | zero =>
    refine .exhausted start (by simp) ?_
    rintro ⟨date, found⟩
    have later := found.later
    have within := found.within
    omega
  | succ days inductionHypothesis =>
    simp only [search]
    cases reached : start.addDays? 1 with
    | none =>
      have isLast (date : Date) : ¬ start.dayNumber + 1 ≤ date.dayNumber := by
        intro behind
        obtain ⟨next, following⟩ := Date.exists_of_between (Int.le_of_lt (Int.lt_succ _)) behind
        rw [(Date.addDays?_eq_some_iff start next 1).mpr following] at reached
        cases reached
      refine .cutOff ?_ ?_
      · rintro ⟨last, ending⟩
        exact isLast last (by omega)
      · rintro ⟨date, found⟩
        exact isLast date (Int.add_one_le_of_lt found.later)
    | some next =>
      have following := (Date.addDays?_eq_some_iff start next 1).mp reached
      change pattern.Ends start (days + 1)
        (if pattern.admits next then .ok next else pattern.search days next)
      cases admitted : pattern.admits next with
      | false => exact (inductionHypothesis next).of_next following admitted
      | true =>
        refine .found next ⟨(isMatch_succ_iff following days next).mpr (.inl ⟨rfl, admitted⟩), ?_⟩
        intro other found
        have later := found.later
        omega

/-- A pattern that gives something but no whole date is searched for. -/
theorem resolve_of_partial {pattern : DatePattern} (given : pattern.isEmpty = false)
    (notFull : pattern.isFull = false) (today : Date) :
    pattern.resolve today = pattern.search searchDays today := by
  simp only [resolve, given, Bool.false_eq_true, if_false]
  split
  · simp_all [isFull]
  · rfl

/-- A partial pattern stands for the first date in the 3650 days after today that has its
month, its day and its weekday, as far as it gives them; its year is of no account. Without
such a date the failure tells the pattern and the last of these days, or is that of leaving
the calendar if the calendar ends before that day. Today is never the answer. -/
theorem resolve_partial {pattern : DatePattern} (given : pattern.isEmpty = false)
    (notFull : pattern.isFull = false) (today : Date) :
    ((∃ date, pattern.IsMatch today 3650 date) →
        ∃ date, pattern.IsFirstMatch today 3650 date ∧ pattern.resolve today = .ok date) ∧
      ((¬ ∃ date, pattern.IsMatch today 3650 date) →
        (∀ last : Date, last.dayNumber = today.dayNumber + 3650 →
          pattern.resolve today = .error (.unresolvable pattern last)) ∧
        ((¬ ∃ last : Date, last.dayNumber = today.dayNumber + 3650) →
          pattern.resolve today = .error .outOfRange)) ∧
      pattern.resolve today ≠ .ok today := by
  have ended := pattern.ends_search searchDays today
  rw [← resolve_of_partial given notFull] at ended
  generalize pattern.resolve today = outcome at ended
  cases ended with
  | found date first =>
    have later := first.later
    refine ⟨fun _ => ⟨date, first, rfl⟩, fun unmatched => absurd ⟨date, first.toIsMatch⟩ unmatched, ?_⟩
    intro same
    cases same
    omega
  | exhausted last reached unmatched =>
    refine ⟨fun found => absurd found unmatched, fun _ => ⟨?_, ?_⟩, nofun⟩
    · intro other sameEnd
      rw [Date.dayNumber_injective (sameEnd.trans reached.symm)]
    · intro short
      exact absurd ⟨last, reached⟩ short
  | cutOff short unmatched =>
    refine ⟨fun found => absurd found unmatched, fun _ => ⟨?_, fun _ => rfl⟩, nofun⟩
    intro last reached
    exact absurd ⟨last, reached⟩ short

/-- On 1 March 2096 the next leap day is eight years away, because 2100 is no leap year. -/
theorem resolve_partial_leap_day :
    let pattern : DatePattern := { month := some 2, day := some 29 }
    let today : Date := ⟨2096, 3, 1, by decide⟩
    pattern.isEmpty = false ∧ pattern.isFull = false ∧
      ∃ date : Date, pattern.IsFirstMatch today 3650 date ∧ pattern.resolve today = .ok date := by
  intro pattern today
  let leapDay : Date := ⟨2104, 2, 29, by decide⟩
  have found : pattern.IsMatch today 3650 leapDay :=
    ⟨by decide, by decide, by simp [pattern, leapDay], by simp [pattern, leapDay], by simp [pattern]⟩
  exact ⟨rfl, rfl, (resolve_partial rfl rfl today).1 ⟨leapDay, found⟩⟩

end DatePattern

end Tickler
