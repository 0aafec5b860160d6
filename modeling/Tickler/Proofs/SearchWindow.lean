import Tickler.Proofs.Centuries
import Tickler.Proofs.DateSearch

/-!
# Ten years are long enough

A pattern that gives at most two of month, day and weekday is always found within ten years
if it can be found at all. A month and a day that ever stand together do so in a leap year,
and one comes within eight years, also where a century without a leap day lies on the way.
A weekday comes in every week of a month. A day of the month falls on each weekday within
two years: already the seven months of 31 days leave out only one weekday in a year, and the
next year does not leave it out.

So the dates found here lie in the eight years behind that of today, all of which the window
covers.
-/

namespace Tickler

/-- Nine years are shorter than the window. -/
theorem daysBeforeYear_nine (year : Int) :
    daysBeforeYear (year + 9) ≤ daysBeforeYear year + 3650 := by
  simp only [daysBeforeYear]
  omega

/-- Eight years in a row have a leap year among them. The first of them that four divides is
one unless it begins a century, and then the next that four divides is one. -/
theorem exists_leapYear (year : Int) :
    ∃ later, year < later ∧ later ≤ year + 8 ∧ isLeapYear later = true := by
  have leap : ∀ later : Int, later % 4 = 0 → later % 100 ≠ 0 → isLeapYear later = true := by
    intro later fourth noCentury
    simp [isLeapYear, fourth, noCentury]
  by_cases century : (year + (4 - year % 4)) % 100 = 0
  · exact ⟨year + (4 - year % 4) + 4, by omega, by omega, leap _ (by omega) (by omega)⟩
  · exact ⟨year + (4 - year % 4), by omega, by omega, leap _ (by omega) century⟩

/-- The greatest length of a numbered month. February alone is longer than in the common
year one. -/
def longestLength (month : Nat) : Nat := if month = 2 then 29 else monthLength 1 month

/-- No month is ever longer. -/
theorem monthLength_le_longestLength (year : Int) (month : Nat) :
    monthLength year month ≤ longestLength month := by
  rw [monthLength_eq_common, longestLength]
  by_cases february : month = 2
  · subst february
    rw [show monthLength 1 2 = 28 from rfl, if_pos rfl]
    split <;> decide
  · simp [february]

/-- In a leap year every month has its greatest length. -/
theorem monthLength_of_leapYear {year : Int} (leap : isLeapYear year = true) (month : Nat) :
    monthLength year month = longestLength month := by
  rw [monthLength_eq_common, longestLength]
  by_cases february : month = 2
  · subst february
    rw [show monthLength 1 2 = 28 from rfl, if_pos ⟨rfl, leap⟩, if_pos rfl]
  · simp [february]

/-- The months of 31 days begin on all weekdays of a week but one. In a common year the
place left out is the fourth behind that of the first of January, in a leap year the fifth. -/
theorem exists_longMonth (year : Int) {place : Nat} (inWeek : place < 7)
    (kept : place ≠ if isLeapYear year = true then 5 else 4) :
    ∃ month, (1 ≤ month ∧ month ≤ 12) ∧ monthLength year month = 31 ∧
      daysBeforeMonth year month % 7 = place := by
  have common : ∀ place < 7, place ≠ 4 → ∃ month ∈ [1, 3, 5, 7, 8, 10, 12],
      daysBeforeMonth 1 month % 7 = place := by decide
  have leap : ∀ place < 7, place ≠ 5 → ∃ month ∈ [1, 3, 5, 7, 8, 10, 12],
      (daysBeforeMonth 1 month + if 3 ≤ month then 1 else 0) % 7 = place := by decide
  have long : ∀ month ∈ [1, 3, 5, 7, 8, 10, 12],
      (1 ≤ month ∧ month ≤ 12) ∧ monthLength year month = 31 := by
    simp [monthLength]
  have found : ∃ month ∈ [1, 3, 5, 7, 8, 10, 12], daysBeforeMonth year month % 7 = place := by
    by_cases isLeap : isLeapYear year = true
    · obtain ⟨month, member, begins⟩ := leap place inWeek (by simpa [isLeap] using kept)
      exact ⟨month, member, by simpa [daysBeforeMonth_eq_common year month, isLeap] using begins⟩
    · obtain ⟨month, member, begins⟩ := common place inWeek (by simpa [isLeap] using kept)
      exact ⟨month, member, by simpa [daysBeforeMonth_eq_common year month, isLeap] using begins⟩
  obtain ⟨month, member, begins⟩ := found
  obtain ⟨isMonth, length⟩ := long month member
  exact ⟨month, isMonth, length, begins⟩

/-- The place in the week, counted from the first of January on, that a month has to begin at
for a day of it to fall on a weekday. -/
def Weekday.placeOfMonth (weekday : Weekday) (year : Int) (day : Nat) : Nat :=
  ((weekday.position - daysBeforeYear year - (day - 1 : Nat)) % 7).toNat

/-- There are seven places. -/
theorem Weekday.placeOfMonth_lt (weekday : Weekday) (year : Int) (day : Nat) :
    weekday.placeOfMonth year day < 7 := by
  simp only [placeOfMonth]
  omega

/-- In a month that begins at the place for it the day falls on the weekday. -/
theorem Weekday.falls_of_placeOfMonth {weekday : Weekday} {year : Int} {month day : Nat}
    (begins : daysBeforeMonth year month % 7 = weekday.placeOfMonth year day) :
    (daysBeforeYear year + daysBeforeMonth year month + (day - 1 : Nat)) % 7 =
      weekday.position := by
  have inWeek := weekday.position_lt
  simp only [placeOfMonth] at begins
  omega

/-- The place that the months of 31 days leave out in a year is the third one in the next. -/
theorem Weekday.placeOfMonth_succ {weekday : Weekday} {year : Int} {day : Nat}
    (missed : weekday.placeOfMonth year day = if isLeapYear year = true then 5 else 4) :
    weekday.placeOfMonth (year + 1) day = 3 := by
  have length := daysBeforeYear_succ year
  rw [daysBeforeMonth_thirteen] at length
  simp only [placeOfMonth] at missed ⊢
  by_cases leap : isLeapYear year = true
  · simp only [leap, if_true] at missed length
    omega
  · simp only [leap, if_false, Bool.false_eq_true] at missed length
    omega

/-- In one of two years in a row a day of the month falls on a weekday, in a month of 31
days. What the first year leaves out stands at the third place of the second, which is left
out in no year. -/
theorem exists_onWeekday (year : Int) (day : Nat) (weekday : Weekday) :
    ∃ later, year < later ∧ later ≤ year + 2 ∧ ∃ month, (1 ≤ month ∧ month ≤ 12) ∧
      monthLength later month = 31 ∧
      (daysBeforeYear later + daysBeforeMonth later month + (day - 1 : Nat)) % 7 =
        weekday.position := by
  by_cases missed : weekday.placeOfMonth (year + 1) day =
      if isLeapYear (year + 1) = true then 5 else 4
  · have third := Weekday.placeOfMonth_succ missed
    obtain ⟨month, isMonth, length, begins⟩ := exists_longMonth (year + 1 + 1)
      (weekday.placeOfMonth_lt _ day) (by rw [third]; split <;> decide)
    exact ⟨year + 1 + 1, by omega, by omega, month, isMonth, length,
      Weekday.falls_of_placeOfMonth begins⟩
  · obtain ⟨month, isMonth, length, begins⟩ := exists_longMonth (year + 1)
      (weekday.placeOfMonth_lt _ day) missed
    exact ⟨year + 1, by omega, by omega, month, isMonth, length,
      Weekday.falls_of_placeOfMonth begins⟩

/-- Every day of the eight years behind that of a date is one of the 3650 days after it, and
it is in the calendar if the last of these days is. -/
theorem Date.exists_soon {today last : Date} (reached : last.dayNumber = today.dayNumber + 3650)
    {year : Int} {month day : Nat} (later : today.year < year) (soon : year ≤ today.year + 8)
    (isMonth : 1 ≤ month ∧ month ≤ 12) (inMonth : 1 ≤ day ∧ day ≤ monthLength year month) :
    ∃ date : Date, today.dayNumber < date.dayNumber ∧
      date.dayNumber ≤ today.dayNumber + 3650 ∧ date.month = month ∧ date.day = day ∧
      date.dayNumber = daysBeforeYear year + daysBeforeMonth year month + (day - 1 : Nat) := by
  obtain ⟨begun, running⟩ := today.dayNumber_spans
  have ahead : daysBeforeYear (today.year + 1) ≤ daysBeforeYear year :=
    daysBeforeYear_mono (by omega)
  have near : daysBeforeYear (year + 1) ≤ daysBeforeYear (today.year + 9) :=
    daysBeforeYear_mono (by omega)
  have window := daysBeforeYear_nine today.year
  have inCalendar : firstYear ≤ year ∧ year ≤ lastYear := by
    have valid := today.bounds
    have ending := last.dayNumber_spans.2
    have lastValid := last.bounds
    refine ⟨by omega, Int.not_lt.mp fun beyond => ?_⟩
    have gap := daysBeforeYear_gap (last.year + 1) (year + 1) (by omega)
    omega
  let date : Date := ⟨year, month, day, inCalendar.1, inCalendar.2, isMonth.1, isMonth.2,
    inMonth.1, inMonth.2⟩
  obtain ⟨dateBegun, dateRunning⟩ : daysBeforeYear year ≤ date.dayNumber ∧
    date.dayNumber < daysBeforeYear (year + 1) := date.dayNumber_spans
  exact ⟨date, by omega, by omega, rfl, rfl, rfl⟩

namespace DatePattern

/-- Month and day are those of some date, each by itself and both together. -/
structure IsSensible (pattern : DatePattern) : Prop where
  isMonth : ∀ month, pattern.month = some month → 1 ≤ month ∧ month ≤ 12
  isDay : ∀ day, pattern.day = some day → 1 ≤ day ∧ day ≤ 31
  inMonth : ∀ month day, pattern.month = some month → pattern.day = some day →
    day ≤ longestLength month

/-- What a pattern gives of some date is sensible. -/
theorem IsMatch.isSensible {pattern : DatePattern} {start date : Date} {days : Nat}
    (found : pattern.IsMatch start days date) : pattern.IsSensible := by
  obtain ⟨_, _, firstMonth, lastMonth, firstDay, lastDay⟩ := date.valid
  have long := (monthLength_bounds date.year date.month firstMonth lastMonth).2
  refine ⟨?_, ?_, ?_⟩
  · intro month given
    rw [← found.sameMonth month given]
    exact ⟨firstMonth, lastMonth⟩
  · intro day given
    rw [← found.sameDay day given]
    exact ⟨firstDay, Nat.le_trans lastDay long⟩
  · intro month day givenMonth givenDay
    rw [← found.sameMonth month givenMonth, ← found.sameDay day givenDay]
    exact Nat.le_trans lastDay (monthLength_le_longestLength _ _)

/-- The month of a sensible pattern, or the first one. -/
theorem IsSensible.month_getD {pattern : DatePattern} (sensible : pattern.IsSensible) :
    1 ≤ pattern.month.getD 1 ∧ pattern.month.getD 1 ≤ 12 := by
  cases given : pattern.month with
  | none => decide
  | some month => exact sensible.isMonth month given

section Window

variable {pattern : DatePattern} {today last : Date}

/-- A day of the eight years behind that of today is a match if it has what the pattern
gives. -/
theorem exists_match_of_numbers (reached : last.dayNumber = today.dayNumber + 3650)
    {year : Int} {month day : Nat} (later : today.year < year) (soon : year ≤ today.year + 8)
    (isMonth : 1 ≤ month ∧ month ≤ 12) (inMonth : 1 ≤ day ∧ day ≤ monthLength year month)
    (sameMonth : ∀ given, pattern.month = some given → month = given)
    (sameDay : ∀ given, pattern.day = some given → day = given)
    (falls : ∀ weekday, pattern.weekday = some weekday →
      (daysBeforeYear year + daysBeforeMonth year month + (day - 1 : Nat)) % 7 =
        weekday.position) :
    ∃ date, pattern.IsMatch today 3650 date := by
  obtain ⟨date, behind, within, rfl, rfl, numbered⟩ :=
    Date.exists_soon reached later soon isMonth inMonth
  refine ⟨date, behind, within, sameMonth, sameDay, ?_⟩
  intro weekday given
  rw [Date.weekday_eq_iff_position, numbered]
  exact falls weekday given

/-- A sensible pattern without a weekday has a match in the next leap year. -/
theorem IsSensible.exists_match_of_no_weekday (sensible : pattern.IsSensible)
    (noWeekday : pattern.weekday = none) (reached : last.dayNumber = today.dayNumber + 3650) :
    ∃ date, pattern.IsMatch today 3650 date := by
  obtain ⟨year, later, soon, leap⟩ := exists_leapYear today.year
  have inMonth : 1 ≤ pattern.day.getD 1 ∧
      pattern.day.getD 1 ≤ monthLength year (pattern.month.getD 1) := by
    cases given : pattern.day with
    | none =>
      have long := (monthLength_bounds year _ sensible.month_getD.1 sensible.month_getD.2).1
      exact ⟨Nat.le_refl 1, Nat.le_trans (by decide) long⟩
    | some day =>
      obtain ⟨firstDay, lastDay⟩ := sensible.isDay day given
      refine ⟨firstDay, ?_⟩
      rw [monthLength_of_leapYear leap]
      cases givenMonth : pattern.month with
      | none => exact lastDay
      | some month => exact sensible.inMonth month day givenMonth given
  apply exists_match_of_numbers reached later soon sensible.month_getD inMonth
  · intro month given
    rw [given, Option.getD_some]
  · intro day given
    rw [given, Option.getD_some]
  · intro weekday given
    rw [noWeekday] at given
    cases given

/-- A sensible pattern with a weekday and no day has a match in the first week of a month of
the next year. -/
theorem IsSensible.exists_match_of_no_day (sensible : pattern.IsSensible)
    (noDay : pattern.day = none) {weekday : Weekday}
    (givenWeekday : pattern.weekday = some weekday)
    (reached : last.dayNumber = today.dayNumber + 3650) :
    ∃ date, pattern.IsMatch today 3650 date := by
  have long := (monthLength_bounds (today.year + 1) _ sensible.month_getD.1
    sensible.month_getD.2).1
  have inWeek : weekday.position < 7 := weekday.position_lt
  obtain ⟨start, started⟩ : ∃ start, start = daysBeforeYear (today.year + 1) +
      daysBeforeMonth (today.year + 1) (pattern.month.getD 1) := ⟨_, rfl⟩
  have inMonth : 1 ≤ ((weekday.position - start) % 7).toNat + 1 ∧
      ((weekday.position - start) % 7).toNat + 1 ≤
        monthLength (today.year + 1) (pattern.month.getD 1) := by omega
  apply exists_match_of_numbers reached (Int.lt_succ today.year) (by omega) sensible.month_getD
    inMonth
  · intro month given
    rw [given, Option.getD_some]
  · intro day given
    rw [noDay] at given
    cases given
  · intro other given
    obtain rfl : weekday = other := Option.some.inj (givenWeekday.symm.trans given)
    rw [← started]
    omega

/-- A sensible pattern with a weekday, a day and no month has a match in a month of 31 days. -/
theorem IsSensible.exists_match_of_no_month (sensible : pattern.IsSensible)
    (noMonth : pattern.month = none) {day : Nat} (givenDay : pattern.day = some day)
    {weekday : Weekday} (givenWeekday : pattern.weekday = some weekday)
    (reached : last.dayNumber = today.dayNumber + 3650) :
    ∃ date, pattern.IsMatch today 3650 date := by
  obtain ⟨year, later, soon, month, isMonth, length, falls⟩ :=
    exists_onWeekday today.year day weekday
  have inMonth : 1 ≤ day ∧ day ≤ monthLength year month := length ▸ sensible.isDay day givenDay
  apply exists_match_of_numbers reached later (by omega) isMonth inMonth
  · intro other given
    rw [noMonth] at given
    cases given
  · intro other given
    exact Option.some.inj (givenDay.symm.trans given)
  · intro other given
    obtain rfl : weekday = other := Option.some.inj (givenWeekday.symm.trans given)
    exact falls

/-- A sensible pattern that leaves out month, day or weekday has a match in the window. -/
theorem IsSensible.exists_match (sensible : pattern.IsSensible)
    (loose : pattern.month = none ∨ pattern.day = none ∨ pattern.weekday = none)
    (reached : last.dayNumber = today.dayNumber + 3650) :
    ∃ date, pattern.IsMatch today 3650 date := by
  cases givenWeekday : pattern.weekday with
  | none => exact sensible.exists_match_of_no_weekday givenWeekday reached
  | some weekday =>
    cases givenDay : pattern.day with
    | none => exact sensible.exists_match_of_no_day givenDay givenWeekday reached
    | some day =>
      have noMonth : pattern.month = none := by simpa [givenDay, givenWeekday] using loose
      exact sensible.exists_match_of_no_month noMonth givenDay givenWeekday reached

/-- What a partial pattern that leaves out month, day or weekday stands for, if the calendar
has the whole window: a date, if the pattern is sensible, and the failure otherwise. -/
theorem resolve_of_loose (given : pattern.isEmpty = false) (notFull : pattern.isFull = false)
    (loose : pattern.month = none ∨ pattern.day = none ∨ pattern.weekday = none)
    (reached : last.dayNumber = today.dayNumber + 3650) :
    (pattern.IsSensible ∧ ∃ date, pattern.IsMatch today 3650 date ∧
        pattern.resolve today = .ok date) ∨
      (¬ pattern.IsSensible ∧ pattern.resolve today = .error (.unresolvable pattern last)) := by
  have ended := pattern.ends_search searchDays today
  rw [← resolve_of_partial given notFull] at ended
  generalize pattern.resolve today = outcome at ended
  cases ended with
  | found date first => exact .inl ⟨first.toIsMatch.isSensible, date, first.toIsMatch, rfl⟩
  | exhausted other sameEnd unmatched =>
    rw [Date.dayNumber_injective (sameEnd.trans reached.symm)]
    exact .inr ⟨fun sensible => unmatched (sensible.exists_match loose reached), rfl⟩
  | cutOff short _ => exact absurd ⟨last, reached⟩ short

end Window

/-- The leap day is sensible. -/
theorem isSensible_leapDay : IsSensible { month := some 2, day := some 29 } := by
  refine ⟨?_, ?_, ?_⟩ <;> simp [longestLength]

/-- If the calendar has the whole window, a partial pattern that leaves out month, day or
weekday stands for a date exactly if it is sensible, and otherwise the failure tells it and
the last day of the window. So the leap day is found from every today. -/
theorem resolve_sensible_iff {today last : Date}
    (reached : last.dayNumber = today.dayNumber + 3650) :
    (∀ pattern : DatePattern, pattern.isEmpty = false → pattern.isFull = false →
        (pattern.month = none ∨ pattern.day = none ∨ pattern.weekday = none) →
        ((∃ date, pattern.resolve today = .ok date) ↔ pattern.IsSensible) ∧
          (¬ pattern.IsSensible →
            pattern.resolve today = .error (.unresolvable pattern last))) ∧
      ∃ date, resolve { month := some 2, day := some 29 } today = .ok date ∧
        date.month = 2 ∧ date.day = 29 := by
  refine ⟨?_, ?_⟩
  · intro pattern given notFull loose
    rcases resolve_of_loose given notFull loose reached with
      ⟨sensible, date, _, resolved⟩ | ⟨absurdity, refused⟩
    · exact ⟨⟨fun _ => sensible, fun _ => ⟨date, resolved⟩⟩, fun not => absurd sensible not⟩
    · refine ⟨⟨?_, fun sensible => absurd sensible absurdity⟩, fun _ => refused⟩
      rintro ⟨date, resolved⟩
      rw [refused] at resolved
      cases resolved
  · rcases @resolve_of_loose { month := some 2, day := some 29 } _ _ rfl rfl (.inr (.inr rfl))
      reached with ⟨_, date, found, resolved⟩ | ⟨absurdity, _⟩
    · exact ⟨date, resolved, found.sameMonth 2 rfl, found.sameDay 29 rfl⟩
    · exact absurd isSensible_leapDay absurdity

/-- From 6 September 2015 there is a Friday the 31st to be found, and no day 99 of month 99. -/
theorem resolve_sensible_iff_ninety_nine :
    let today : Date := ⟨2015, 9, 6, by decide⟩
    let last : Date := ⟨2025, 9, 3, by decide⟩
    let friday : DatePattern := { day := some 31, weekday := some .friday }
    let never : DatePattern := { month := some 99, day := some 99 }
    last.dayNumber = today.dayNumber + 3650 ∧ (∃ date, friday.resolve today = .ok date) ∧
      never.resolve today = .error (.unresolvable never last) := by
  intro today last friday never
  have reached : last.dayNumber = today.dayNumber + 3650 := by decide
  obtain ⟨decided, _⟩ := resolve_sensible_iff reached
  have sensible : friday.IsSensible := by
    refine ⟨?_, ?_, ?_⟩ <;> simp [friday]
  have absurdity : ¬ never.IsSensible := fun sensible =>
    absurd (sensible.isMonth 99 rfl).2 (by decide)
  exact ⟨reached, (decided friday rfl rfl (.inl rfl)).1.mpr sensible,
    (decided never rfl rfl (.inr (.inr rfl))).2 absurdity⟩

end DatePattern

end Tickler
