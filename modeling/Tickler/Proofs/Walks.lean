import Tickler.Proofs.DateSearch
import Tickler.Proofs.Months

/-!
# Walks through the calendar

A walk lists the days from a date on, as long as every day up to the one listed satisfies
the condition. The days come in ascending order and the last day of the calendar is not
among them. These facts determine the walk, and both are proved along it, from each day to
the next.

From the first day of a month on, a walk that watches the number of the month alone lists
that month: behind its last day the number changes, and no day of another year with the
same number is reached.
-/

namespace Tickler.Date

/-- Only the last day of the calendar has no day behind it. -/
theorem addDays?_one_eq_none_iff (date : Date) : date.addDays? 1 = none ↔ date = last := by
  constructor
  · intro ended
    have bounded := (dayNumber_bounds date).2
    apply dayNumber_injective
    apply Int.le_antisymm bounded
    apply Int.not_lt.mp
    intro running
    have behind : date.dayNumber ≤ date.dayNumber + 1 := by omega
    obtain ⟨next, following⟩ := exists_of_between behind (Int.add_one_le_of_lt running)
    rw [(addDays?_eq_some_iff date next 1).mpr following] at ended
    cases ended
  · rintro rfl
    cases reached : last.addDays? 1 with
    | none => rfl
    | some next =>
      have following := (addDays?_eq_some_iff last next 1).mp reached
      have bounded := (dayNumber_bounds next).2
      omega

/-- What holds of the last day of the calendar, and of each day if it holds of the next,
holds of every date. -/
theorem induction_from_last {motive : Date → Prop} (last : motive last)
    (before : ∀ date next : Date, date.addDays? 1 = some next → motive next → motive date)
    (date : Date) : motive date := by
  induction counted : date.daysLeft using Nat.strongRecOn generalizing date with
  | ind left inductionHypothesis =>
    cases reached : date.addDays? 1 with
    | none => exact (addDays?_one_eq_none_iff date).mp reached ▸ last
    | some next =>
      have fewer : next.daysLeft < left := counted ▸ daysLeft_lt reached
      exact before date next reached (inductionHypothesis next.daysLeft fewer next rfl)

/-- No walk lists the last day of the calendar, and so none begins there. -/
theorem walk_last (condition : Date → Bool) : last.walk condition = [] :=
  walk_of_end ((addDays?_one_eq_none_iff last).mpr rfl) condition

/-- A day is listed exactly if it is not the last of the calendar and the walk gets there:
it does not lie before the start, and no day from the start up to it fails the condition. -/
theorem mem_walk_iff (condition : Date → Bool) (date day : Date) :
    day ∈ date.walk condition ↔
      date.dayNumber ≤ day.dayNumber ∧ day ≠ last ∧
        ∀ between : Date, date.dayNumber ≤ between.dayNumber →
          between.dayNumber ≤ day.dayNumber → condition between = true := by
  induction date using induction_from_last with
  | last =>
    rw [walk_last]
    simp only [List.not_mem_nil, false_iff]
    rintro ⟨behind, notLast, _⟩
    exact notLast (dayNumber_injective (Int.le_antisymm (dayNumber_bounds day).2 behind))
  | before date next reached inductionHypothesis =>
    have following := (addDays?_eq_some_iff date next 1).mp reached
    rw [walk_of_next reached]
    split
    · rename_i kept
      rw [List.mem_cons, inductionHypothesis]
      constructor
      · rintro (rfl | ⟨behind, notLast, all⟩)
        · refine ⟨Int.le_refl _, ?_, fun between lower upper => ?_⟩
          · intro ended
            rw [(addDays?_one_eq_none_iff day).mpr ended] at reached
            cases reached
          · rwa [dayNumber_injective (Int.le_antisymm upper lower)]
        · refine ⟨by omega, notLast, fun between lower upper => ?_⟩
          rcases Int.lt_or_eq_of_le lower with later | same
          · exact all between (by omega) upper
          · rwa [← dayNumber_injective same]
      · rintro ⟨behind, notLast, all⟩
        rcases Int.lt_or_eq_of_le behind with later | same
        · exact .inr ⟨by omega, notLast, fun between lower => all between (by omega)⟩
        · exact .inl (dayNumber_injective same.symm)
    · rename_i refused
      simp only [List.not_mem_nil, false_iff]
      rintro ⟨behind, _, all⟩
      exact refused (all date (Int.le_refl _) behind)

/-- A walk lists its days in ascending order. -/
theorem walk_ascending (condition : Date → Bool) (date : Date) :
    (date.walk condition).Pairwise fun left right => left.dayNumber < right.dayNumber := by
  induction date using induction_from_last with
  | last =>
    rw [walk_last]
    exact List.Pairwise.nil
  | before date next reached inductionHypothesis =>
    have following := (addDays?_eq_some_iff date next 1).mp reached
    rw [walk_of_next reached]
    split
    · refine List.pairwise_cons.mpr ⟨fun day member => ?_, inductionHypothesis⟩
      have behind := ((mem_walk_iff condition next day).mp member).1
      omega
    · exact List.Pairwise.nil

/-- From the first day of a month, the walk up to a change of the number of the month lists
the days of that month, apart from the last day of the calendar. -/
theorem mem_walk_month_iff {first : Date} (isFirst : first.day = 1) (day : Date) :
    day ∈ first.walk (fun day => day.month == first.month) ↔
      day.monthNumber = first.monthNumber ∧ day ≠ last := by
  rw [mem_walk_iff]
  simp only [beq_iff_eq]
  constructor
  · rintro ⟨behind, notLast, all⟩
    refine ⟨?_, notLast⟩
    have ordered := monthNumber_le_of_dayNumber_le behind
    apply Int.le_antisymm (Int.not_lt.mp fun later => ?_) ordered
    -- The walk would have passed the first day of the following month.
    have begun := first.isMonth_monthNumber.1
    have running := day.isMonth_monthNumber.2
    obtain ⟨start, inMonth, startDay⟩ :=
      (isMonth_iff (first.monthNumber + 1)).mp ⟨by omega, by omega⟩
    have lower : first.dayNumber < start.dayNumber := dayNumber_lt_of_monthNumber_lt (by omega)
    have valid := day.bounds
    have upper : ¬ day.dayNumber < start.dayNumber := by
      rw [dayNumber_lt_iff]
      omega
    have same := all start (by omega) (by omega)
    have parts := (monthNumber_parts first).2
    have startParts := (monthNumber_parts start).2
    omega
  · rintro ⟨inMonth, notLast⟩
    have apart := dayNumber_sub_of_monthNumber_eq inMonth
    have valid := day.bounds
    refine ⟨by omega, notLast, fun between lower upper => ?_⟩
    have notEarlier := monthNumber_le_of_dayNumber_le lower
    have notLater := monthNumber_le_of_dayNumber_le upper
    exact ((monthNumber_eq_iff between first).mp (by omega)).2

end Tickler.Date
