import Tickler.Note.Recurrence
import Tickler.Proofs.Walks

/-!
# The weekdays of a month

Every seven days hold each weekday once, so that a month of 28 to 31 days has four or five
of each. They are listed in ascending order, and only the last day of the calendar is left
out.

A numbered weekday of a month is described by what lies on one side of it: the days of its
month in front of it that fall on the same weekday, or the days behind it for a negative
number. In an ascending list this is the place at which a number is looked up, from the
front or from the back.
-/

namespace Tickler

/-- What stands at a signed position is the element at its place: one less than a positive
position, and as far in front of the end as a negative one says. -/
theorem ordinal?_eq_some_iff_getElem? {α : Type} (items : List α) (ordinal : Int) (item : α) :
    ordinal? items ordinal = some item ↔
      ∃ place : Nat, items[place]? = some item ∧
        ((place : Int) = ordinal - 1 ∨ (place : Int) = items.length + ordinal) := by
  have inside : ∀ place : Nat, items[place]? = some item → place < items.length :=
    fun place found => (List.getElem?_eq_some_iff.mp found).1
  constructor
  · intro found
    simp only [ordinal?] at found
    split at found
    · split at found
      · exact ⟨_, found, .inr (by omega)⟩
      · cases found
    · split at found
      · exact ⟨_, found, .inl (by omega)⟩
      · cases found
  · rintro ⟨place, found, counted⟩
    have bounded := inside place found
    have same : (if ordinal - 1 < 0 then ordinal - 1 + (items.length + 1) else ordinal - 1) =
        (place : Int) := by
      split <;> omega
    simp only [ordinal?, same, Int.natCast_nonneg, if_true, Int.toNat_natCast, found]

section Ascending

variable {α : Type} {before : α → α → Prop}

/-- Ascending lists of the same items are the same. -/
theorem eq_of_ascending (asymmetric : ∀ a b, before a b → ¬ before b a) {left right : List α}
    (leftAscending : left.Pairwise before) (rightAscending : right.Pairwise before)
    (same : ∀ item, item ∈ left ↔ item ∈ right) : left = right := by
  have distinct : ∀ items : List α, items.Pairwise before → items.Nodup := by
    intro items ascending
    refine ascending.imp fun {first second} ordered equal => ?_
    subst equal
    exact asymmetric first first ordered ordered
  have rearranged := (List.perm_ext_iff_of_nodup (distinct left leftAscending)
    (distinct right rightAscending)).mpr same
  exact rearranged.eq_of_pairwise
    (fun first second _ _ ordered reversed => absurd reversed (asymmetric first second ordered))
    leftAscending rightAscending

variable [DecidableRel before]

/-- In an ascending list each item stands at the position that counts the items before it.
The induction moves the position along with the list: behind the head of the list one more
item is counted, and the head itself has none before it. -/
theorem getElem?_eq_some_iff_of_ascending (asymmetric : ∀ a b, before a b → ¬ before b a)
    {items : List α} (ascending : items.Pairwise before) (position : Nat) (item : α) :
    items[position]? = some item ↔
      item ∈ items ∧ (items.filter fun other => before other item).length = position := by
  induction items generalizing position with
  | nil => simp
  | cons head others inductionHypothesis =>
    obtain ⟨first, ascendingOthers⟩ := List.pairwise_cons.mp ascending
    have ownPlace : ((head :: others).filter fun other => before other head) = [] := by
      rw [List.filter_eq_nil_iff]
      intro other member
      rcases List.mem_cons.mp member with rfl | behind
      · simpa using fun same => asymmetric other other same same
      · simpa using asymmetric head other (first other behind)
    have laterPlace : ∀ {item}, item ∈ others →
        ((head :: others).filter fun other => before other item).length =
          (others.filter fun other => before other item).length + 1 := by
      intro item member
      simp [first item member]
    cases position with
    | zero =>
      simp only [List.getElem?_cons_zero, Option.some.injEq, List.length_eq_zero_iff]
      constructor
      · rintro rfl
        exact ⟨List.mem_cons_self, ownPlace⟩
      · rintro ⟨member, vacant⟩
        rcases List.mem_cons.mp member with rfl | behind
        · rfl
        · have counted := laterPlace behind
          rw [vacant] at counted
          cases counted
    | succ position =>
      rw [List.getElem?_cons_succ, inductionHypothesis ascendingOthers position]
      constructor
      · rintro ⟨member, counted⟩
        exact ⟨List.mem_cons_of_mem head member, by rw [laterPlace member, counted]⟩
      · rintro ⟨member, counted⟩
        rcases List.mem_cons.mp member with rfl | behind
        · rw [ownPlace] at counted
          cases counted
        · rw [laterPlace behind] at counted
          exact ⟨behind, Nat.succ.inj counted⟩

/-- In an ascending list a signed position counts the items before an item, or behind it
for a negative one. -/
theorem ordinal?_eq_some_iff (asymmetric : ∀ a b, before a b → ¬ before b a) {items : List α}
    (ascending : items.Pairwise before) (ordinal : Int) (item : α) :
    ordinal? items ordinal = some item ↔
      item ∈ items ∧
        (((items.filter fun other => before other item).length : Int) + 1 = ordinal ∨
          ((items.filter fun other => before item other).length : Int) + 1 = -ordinal) := by
  have fromFront := fun place =>
    getElem?_eq_some_iff_of_ascending asymmetric ascending place item
  have fromBack := fun place =>
    @getElem?_eq_some_iff_of_ascending α (fun left right => before right left) _
      (fun left right => asymmetric right left) _ (List.pairwise_reverse.mpr ascending) place item
  simp only [List.mem_reverse, List.filter_reverse, List.length_reverse] at fromBack
  rw [ordinal?_eq_some_iff_getElem?]
  constructor
  · rintro ⟨place, found, front | back⟩
    · obtain ⟨member, counted⟩ := (fromFront place).mp found
      exact ⟨member, .inl (by omega)⟩
    · have within := (List.getElem?_eq_some_iff.mp found).1
      have mirrored : items.reverse[items.length - 1 - place]? = some item := by
        rw [List.getElem?_reverse (by omega), ← found]
        congr 1
        omega
      obtain ⟨member, counted⟩ := (fromBack _).mp mirrored
      exact ⟨member, .inr (by omega)⟩
  · rintro ⟨member, front | back⟩
    · exact ⟨_, (fromFront _).mpr ⟨member, rfl⟩, .inl (by omega)⟩
    · have mirrored := (fromBack _).mpr ⟨member, rfl⟩
      have within := (List.getElem?_eq_some_iff.mp mirrored).1
      rw [List.length_reverse] at within
      rw [List.getElem?_reverse within] at mirrored
      exact ⟨_, mirrored, .inr (by omega)⟩

end Ascending

/-- A signed position is filled exactly if it is not zero and the list is long enough. -/
theorem isSome_ordinal?_iff {α : Type} (items : List α) (ordinal : Int) :
    (ordinal? items ordinal).isSome ↔ 1 ≤ ordinal.natAbs ∧ ordinal.natAbs ≤ items.length := by
  rw [Option.isSome_iff_exists]
  simp only [ordinal?_eq_some_iff_getElem?]
  constructor
  · rintro ⟨item, place, found, counted⟩
    have inside := (List.getElem?_eq_some_iff.mp found).1
    omega
  · rintro ⟨given, within⟩
    obtain ⟨place, counted, inside⟩ : ∃ place : Nat,
        ((place : Int) = ordinal - 1 ∨ (place : Int) = items.length + ordinal) ∧
          place < items.length := by
      by_cases front : 0 < ordinal
      · exact ⟨(ordinal - 1).toNat, .inl (by omega), by omega⟩
      · exact ⟨(items.length + ordinal).toNat, .inr (by omega), by omega⟩
    exact ⟨items[place], place, List.getElem?_eq_getElem inside, counted⟩

namespace Date

/-- The days of a month on which a numbered weekday may fall, in ascending order. The last
day of the calendar is never one of them. -/
def weekdaysOfMonth (date : Date) (weekday : Weekday) : List Date :=
  date.daysOfMonth.filter fun day => day.weekday = weekday ∧ day ≠ last

/-- The number of days in the month of a date that fall on a weekday. -/
def countOn (date : Date) (weekday : Weekday) : Nat :=
  (date.daysOfMonth.filter fun day => day.weekday = weekday).length

/-- The number of days in front of a date in its month that fall on the same weekday. -/
def alikeBefore (date : Date) : Nat :=
  (date.daysOfMonth.filter fun day => day.weekday = date.weekday ∧ day.day < date.day).length

/-- The number of days behind a date in its month that fall on the same weekday. -/
def alikeBehind (date : Date) : Nat :=
  (date.daysOfMonth.filter fun day => day.weekday = date.weekday ∧ date.day < day.day).length

/-- A date is the numbered weekday of a counted month: it lies in that month, it falls on
the weekday, and it is the one with that number from the front, or from the end if the
number is negative. -/
structure IsNumberedWeekday (month ordinal : Int) (weekday : Weekday) (date : Date) : Prop where
  inMonth : date.monthNumber = month
  onWeekday : date.weekday = weekday
  numbered : (date.alikeBefore : Int) + 1 = ordinal ∨ (date.alikeBehind : Int) + 1 = -ordinal

/-- The days of a month are numbered from one to its length. -/
theorem map_day_daysOfMonth (date : Date) :
    date.daysOfMonth.map day = List.range' 1 (monthLength date.year date.month) := by
  have named : ∀ days : List Nat, (∀ day ∈ days, IsDate date.year date.month day) →
      (days.filterMap (ofYmd? date.year date.month)).map day = days := by
    intro days valid
    induction days with
    | nil => rfl
    | cons first others inductionHypothesis =>
      have found := ofYmd?_self ⟨date.year, date.month, first, valid first List.mem_cons_self⟩
      rw [List.filterMap_cons_some found, List.map_cons, inductionHypothesis fun day member =>
        valid day (List.mem_cons_of_mem first member)]
  apply named
  intro day member
  have valid := date.bounds
  rw [List.mem_range'_1] at member
  simp only [IsDate]
  omega

/-- The days of the month of a date are the dates with the same count of the month. -/
theorem mem_daysOfMonth_iff (date day : Date) :
    day ∈ date.daysOfMonth ↔ day.monthNumber = date.monthNumber := by
  rw [monthNumber_eq_iff]
  simp only [daysOfMonth, List.mem_filterMap, List.mem_range'_1, ofYmd?_eq_some_iff]
  constructor
  · rintro ⟨_, _, sameYear, sameMonth, _⟩
    exact ⟨sameYear.symm, sameMonth.symm⟩
  · rintro ⟨sameYear, sameMonth⟩
    have valid := day.bounds
    rw [sameYear, sameMonth] at valid
    exact ⟨day.day, by omega, sameYear.symm, sameMonth.symm, rfl⟩

/-- Dates of the same month list the same days. -/
theorem daysOfMonth_eq {left right : Date} (same : left.monthNumber = right.monthNumber) :
    left.daysOfMonth = right.daysOfMonth := by
  obtain ⟨sameYear, sameMonth⟩ := (monthNumber_eq_iff left right).mp same
  rw [daysOfMonth, daysOfMonth, sameYear, sameMonth]

/-- The days of a month are listed in ascending order. -/
theorem daysOfMonth_ascending (date : Date) :
    date.daysOfMonth.Pairwise fun left right => left.day < right.day := by
  rw [← List.pairwise_map (f := day), map_day_daysOfMonth]
  exact List.pairwise_lt_range' 1

/-- From the first day of a month on, the days of that month on a weekday are found. -/
theorem mem_weekdaysFrom_iff {first : Date} (isFirst : first.day = 1) (weekday : Weekday)
    (day : Date) :
    day ∈ first.weekdaysFrom weekday ↔
      day.monthNumber = first.monthNumber ∧ day.weekday = weekday ∧ day ≠ last := by
  simp only [weekdaysFrom, List.mem_filter, mem_walk_month_iff isFirst, decide_eq_true_eq,
    and_assoc, and_comm (a := day.weekday = weekday)]

/-- What is found from the first day of a month on is the list for that month: both ascend,
and they have the same members. -/
theorem weekdaysFrom_eq {first : Date} (isFirst : first.day = 1) (weekday : Weekday) :
    first.weekdaysFrom weekday = first.weekdaysOfMonth weekday := by
  have members (day : Date) :
      day ∈ first.weekdaysFrom weekday ↔ day ∈ first.weekdaysOfMonth weekday := by
    simp only [mem_weekdaysFrom_iff isFirst, weekdaysOfMonth, List.mem_filter,
      mem_daysOfMonth_iff, decide_eq_true_eq]
  have walked := (walk_ascending (fun day => day.month == first.month) first).filter
    fun day => day.weekday = weekday
  refine eq_of_ascending (fun left right => Int.lt_asymm) walked ?_ members
  refine (first.daysOfMonth_ascending.filter _).imp_of_mem ?_
  intro left right leftMember rightMember ordered
  have leftMonth := (mem_daysOfMonth_iff first left).mp (List.mem_filter.mp leftMember).1
  have rightMonth := (mem_daysOfMonth_iff first right).mp (List.mem_filter.mp rightMember).1
  have apart := dayNumber_sub_of_monthNumber_eq (leftMonth.trans rightMonth.symm)
  omega

/-- Before the last month of the calendar no weekday of a month is left out. -/
theorem weekdaysOfMonth_eq_of_ne {date : Date} (notFinal : date.monthNumber ≠ last.monthNumber)
    (weekday : Weekday) :
    date.weekdaysOfMonth weekday = date.daysOfMonth.filter fun day => day.weekday = weekday := by
  apply List.filter_congr
  intro day member
  have inMonth := (mem_daysOfMonth_iff date day).mp member
  have notLast : day ≠ last := by
    rintro rfl
    exact notFinal inMonth.symm
  simp [notLast]

/-- Before the last year of the calendar no weekday of a month is left out. -/
theorem weekdaysOfMonth_eq {date : Date} (early : date.year < lastYear) (weekday : Weekday) :
    date.weekdaysOfMonth weekday = date.daysOfMonth.filter fun day => day.weekday = weekday := by
  apply weekdaysOfMonth_eq_of_ne
  intro final
  have sameYear := ((monthNumber_eq_iff date last).mp final).1
  simp only [last] at sameYear
  omega

/-- The numbered weekday of a month is the one found at that number in the list. -/
theorem ordinal?_weekdaysOfMonth_eq_some_iff {month : Date} (early : month.year < lastYear)
    (ordinal : Int) (weekday : Weekday) (date : Date) :
    ordinal? (month.weekdaysOfMonth weekday) ordinal = some date ↔
      IsNumberedWeekday month.monthNumber ordinal weekday date := by
  have ascending := month.daysOfMonth_ascending.filter fun day : Date => day.weekday = weekday
  rw [weekdaysOfMonth_eq early,
    ordinal?_eq_some_iff (fun left right => Nat.lt_asymm) ascending]
  simp only [List.mem_filter, mem_daysOfMonth_iff, decide_eq_true_eq, List.filter_filter]
  constructor
  · rintro ⟨⟨inMonth, rfl⟩, numbered⟩
    refine ⟨inMonth, rfl, ?_⟩
    simpa [alikeBefore, alikeBehind, daysOfMonth_eq inMonth, and_comm] using numbered
  · rintro ⟨inMonth, rfl, numbered⟩
    refine ⟨⟨inMonth, rfl⟩, ?_⟩
    simpa [alikeBefore, alikeBehind, daysOfMonth_eq inMonth, and_comm] using numbered

end Date

/-- Among the first days of a month every seventh falls on a weekday, from the first one
that does. -/
theorem length_filter_weekly (base position : Int) (first days : Nat) (begun : 1 ≤ first)
    (within : first ≤ 7) (falls : (base + first) % 7 = position) :
    ((List.range' 1 days).filter fun day : Nat => (base + day) % 7 = position).length =
      (days + 7 - first) / 7 := by
  induction days with
  | zero =>
    rw [List.range'_zero, List.filter_nil, List.length_nil]
    omega
  | succ days inductionHypothesis =>
    rw [List.range'_1_concat, List.filter_append, List.length_append, inductionHypothesis]
    by_cases hit : (base + (1 + days : Nat)) % 7 = position
    · have counted : ([1 + days].filter fun day : Nat => (base + day) % 7 = position).length = 1 := by
        simp only [List.filter_cons, List.filter_nil, hit, decide_true, if_true, List.length_singleton]
      omega
    · have passed : ([1 + days].filter fun day : Nat => (base + day) % 7 = position).length = 0 := by
        simp only [List.filter_cons, List.filter_nil, hit, decide_false, Bool.false_eq_true,
          if_false, List.length_nil]
      omega

/-- Every month has four or five of each weekday. Its days have consecutive numbers, so
that every seventh of them falls on the weekday. -/
theorem Date.countOn_bounds (date : Date) (weekday : Weekday) :
    4 ≤ date.countOn weekday ∧ date.countOn weekday ≤ 5 := by
  obtain ⟨base, based⟩ : ∃ base : Int, ∀ day : Date, day.monthNumber = date.monthNumber →
      day.dayNumber = base + day.day := by
    refine ⟨daysBeforeYear date.year + daysBeforeMonth date.year date.month - 1, ?_⟩
    intro day inMonth
    obtain ⟨sameYear, sameMonth⟩ := (monthNumber_eq_iff day date).mp inMonth
    have valid := day.bounds
    rw [dayNumber, sameYear, sameMonth]
    omega
  obtain ⟨first, begun, within, falls⟩ : ∃ first : Nat, 1 ≤ first ∧ first ≤ 7 ∧
      (base + first) % 7 = weekday.position := by
    have placed : weekday.position < 7 := by cases weekday <;> decide
    exact ⟨((weekday.position - base - 1) % 7).toNat + 1, by omega, by omega, by omega⟩
  have weekly := length_filter_weekly base weekday.position first
    (monthLength date.year date.month) begun within falls
  have counted : date.countOn weekday = (monthLength date.year date.month + 7 - first) / 7 := by
    rw [← weekly, ← map_day_daysOfMonth, List.filter_map, List.length_map, countOn]
    congr 1
    apply List.filter_congr
    intro day member
    have inMonth := (mem_daysOfMonth_iff date day).mp member
    simp only [Function.comp_apply, weekday_eq_iff_position, based day inMonth]
  have long := date.length_bounds
  omega

end Tickler
