import Tickler.Proofs.Series

/-!
# Jumping forward

A recurrence that jumps forward moves the date of its note by the same stride at every
step, whatever today is. Strides in days add up. Strides in months add up as far as the
month is concerned, but a day that is cut to the length of a month stays cut: after a
number of jumps the day is the least of the first day and the lengths of all months that
were reached on the way.

The course of the dates is therefore known in advance, and by induction on the visits the
line shows it, as long as it stays in the century from 2000 on.
-/

namespace Tickler

/-- How far a jump leads. -/
inductive Stride where
  | days (number : Nat)
  | months (number : Nat)

/-- The stride of an offset that leads forward. An absent amount is one and an absent unit
the day; weeks are sevenfold days and years twelvefold months. -/
def Offset.stride (step : Offset) : Stride :=
  match step.countedPeriod with
  | .day => .days (step.amount.getD 1)
  | .week => .days (7 * step.amount.getD 1)
  | .month => .months (step.amount.getD 1)
  | .year => .months (12 * step.amount.getD 1)

/-- The least of the day of a date and the lengths of all months that a number of strides
of so many months reach, the last one included. -/
def Date.leastDay (start : Date) (months passed : Nat) : Nat :=
  ((List.range' 1 passed).map fun jump : Nat =>
    lengthOfMonth (start.monthNumber + jump * months)).foldl min start.day

namespace Stride

/-- The date that a number of strides from the start leads to. -/
def Leads (stride : Stride) (start : Date) (passed : Nat) (date : Date) : Prop :=
  match stride with
  | days number => date.dayNumber = start.dayNumber + passed * number
  | months number =>
      date.monthNumber = start.monthNumber + passed * number ∧
        date.day = start.leastDay number passed

/-- A number of strides from the start does not lead behind 31 December 2099. All strides
lead forward, so neither does any smaller number. -/
def EndsInCentury (stride : Stride) (start : Date) (count : Nat) : Prop :=
  match stride with
  | days number => start.dayNumber + count * number ≤ Date.centuryEnd.dayNumber
  | months number => start.monthNumber + count * number ≤ Date.centuryEnd.monthNumber

/-- The date one stride away, if the calendar has it. -/
def move? (stride : Stride) (date : Date) : Option Date :=
  match stride with
  | days number => date.addDays? number
  | months number => date.addMonths? number

end Stride

/-- An offset that leads forward leads one stride away. -/
theorem Offset.target?_eq_move? {step : Offset} (forward : step.sign = .plus) (date : Date) :
    step.target? date = step.stride.move? date := by
  simp only [target?_eq, stride, Stride.move?, signedAmount, forward, Sign.signed]
  cases step.countedPeriod <;> rfl

namespace Date

/-- Without a jump the day is not cut. -/
theorem leastDay_zero (start : Date) (months : Nat) : start.leastDay months 0 = start.day := rfl

/-- The next month on the way cuts the day further or leaves it. -/
theorem leastDay_succ (start : Date) (months passed : Nat) :
    start.leastDay months (passed + 1) =
      min (start.leastDay months passed)
        (lengthOfMonth (start.monthNumber + (passed + 1 : Nat) * months)) := by
  simp only [leastDay, List.range'_1_concat, List.map_append, List.foldl_append, List.map_cons,
    List.map_nil, List.foldl_cons, List.foldl_nil, Nat.add_comm 1 passed]

/-- The day after a number of jumps is one of the month reached. -/
theorem leastDay_bounds (start : Date) (months passed : Nat) :
    1 ≤ start.leastDay months passed ∧
      start.leastDay months passed ≤ lengthOfMonth (start.monthNumber + passed * months) := by
  induction passed with
  | zero =>
    have valid := start.bounds
    have length := start.lengthOfMonth_monthNumber
    rw [leastDay_zero, Int.natCast_zero, Int.zero_mul, Int.add_zero]
    omega
  | succ passed inductionHypothesis =>
    have long :=
      (lengthOfMonth_bounds (start.monthNumber + (passed + 1 : Nat) * months)).1
    rw [leastDay_succ]
    omega

end Date

namespace Stride

/-- One more stride leads one stride further. -/
theorem total_succ (passed number : Nat) :
    ((passed + 1 : Nat) : Int) * number = passed * number + number := by
  rw [Int.natCast_add, Int.add_mul]
  simp

/-- A smaller number of strides does not lead further. -/
theorem total_le {passed count : Nat} (number : Nat) (within : passed ≤ count) :
    (passed : Int) * number ≤ count * number :=
  Int.mul_le_mul_of_nonneg_right (Int.ofNat_le.mpr within) (Int.natCast_nonneg number)

/-- Strides lead to one date only. -/
theorem leads_unique {stride : Stride} {start left right : Date} {passed : Nat}
    (leftLed : stride.Leads start passed left) (rightLed : stride.Leads start passed right) :
    left = right := by
  cases stride with
  | days number => exact Date.dayNumber_injective (leftLed.trans rightLed.symm)
  | months number =>
    exact Date.eq_of_monthNumber (leftLed.1.trans rightLed.1.symm) (leftLed.2.trans rightLed.2.symm)

/-- No strides lead to the start. -/
theorem leads_zero (stride : Stride) (start : Date) : stride.Leads start 0 start := by
  cases stride <;> simp [Leads, Date.leastDay_zero]

/-- From one date of a series to the next leads one stride. -/
theorem move?_of_leads {stride : Stride} {start date next : Date} {passed : Nat}
    (led : stride.Leads start passed date) (ledNext : stride.Leads start (passed + 1) next) :
    stride.move? date = some next := by
  cases stride with
  | days number =>
    simp only [Leads, total_succ] at led ledNext
    rw [move?, Date.addDays?_eq_some_iff]
    omega
  | months number =>
    obtain ⟨inMonth, day⟩ := led
    obtain ⟨inNext, nextDay⟩ := ledNext
    have reached : start.monthNumber + ((passed + 1 : Nat) : Int) * number =
        date.monthNumber + number := by
      rw [inMonth, total_succ, Int.add_assoc]
    rw [Date.leastDay_succ, reached, ← day] at nextDay
    rw [move?, Date.addMonths?_eq_some_iff]
    exact ⟨inNext.trans reached, nextDay⟩

/-- In the century from 2000 on strides lead to a date each time. -/
theorem exists_leads {stride : Stride} {start : Date} {passed count : Nat}
    (begun : 2000 ≤ start.year) (inside : stride.EndsInCentury start count)
    (within : passed ≤ count) :
    ∃ date, stride.Leads start passed date ∧ 2000 ≤ date.year ∧ date.year ≤ 2099 := by
  have within (number : Nat) : 0 ≤ (passed : Int) * number ∧
      (passed : Int) * number ≤ count * number :=
    ⟨by simpa using total_le number (Nat.zero_le passed), total_le number within⟩
  cases stride with
  | days number =>
    obtain ⟨forward, bounded⟩ := within number
    simp only [EndsInCentury] at inside
    exact Date.exists_inCentury_of_dayNumber begun (by omega) (by omega)
  | months number =>
    obtain ⟨forward, bounded⟩ := within number
    obtain ⟨first, short⟩ := start.leastDay_bounds number passed
    simp only [EndsInCentury] at inside
    exact Date.exists_inCentury_of_monthNumber begun (by omega) (by omega) first short

end Stride

/-- The offset of a jump that was read leads forward. -/
theorem RecurrenceToken.forward_of_recurrenceOf {text : List Char} {step : Offset}
    (found : Note.recurrenceOf text = .ok (some (.fromDate step))) : step.sign = .plus := by
  obtain ⟨token, _, accepted⟩ := (recurrenceOf_eq_some_iff text _).mp found
  cases (recurrence_eq_ok_iff token _).mp accepted with
  | fromDate counted => rfl

/-- As long as strides do not lead behind the century from 2000 on, the dates that they
lead to are a series of the jump. -/
theorem Stride.isSeries {step : Offset} {start : Date} {count : Nat} (forward : step.sign = .plus)
    (begun : 2000 ≤ start.year) (inside : step.stride.EndsInCentury start count) :
    IsSeries (.fromDate step) count (step.stride.Leads start) where
  reached := fun _ within => exists_leads begun inside within
  determined := fun _ _ _ _ => leads_unique
  leads := by
    intro passed _ date next led ledNext today
    have moved := move?_of_leads led ledNext
    rw [← Offset.target?_eq_move? forward] at moved
    simp only [Recurrence.next, Offset.target, moved, inCalendar]

/-- A note that jumps forward shows the dates known in advance. After each number of
visits without extra days its line is the date that so many strides lead to, in front of
the tail, as long as that date is not behind 2099; the todays of the visits play no part. -/
theorem history_jumps (start : Date) (tail : List Char) (note : Note) (step : Offset)
    (count : Nat) (begun : 2000 ≤ start.year) (unended : tail.getLast? ≠ some '\n')
    (read : Note.read (start.canonical ++ tail) = .ok note)
    (dated : note.date = start.shownPattern) (unmoved : note.offset = none)
    (jumps : note.recurrence = some (.fromDate step))
    (inside : step.stride.EndsInCentury start count) :
    ∃ dates : Nat → Date,
      (∀ passed ≤ count, ∀ date, step.stride.Leads start passed date ↔ date = dates passed) ∧
      (∀ passed < count, ∀ today,
        rescheduledDate ((dates passed).canonical ++ tail) today 0 = .ok (dates (passed + 1))) ∧
      ∀ todays : List Date, todays.length = count →
        history (start.canonical ++ tail) (todays.map fun today => ⟨today, 0, []⟩) =
          (List.range' 1 count).map fun passed => (dates passed).canonical ++ tail := by
  have given : note.date.isEmpty = false := dated ▸ start.shownPattern_given.1
  obtain ⟨isTail, found⟩ := Note.isTail_of_read_canonical read given unmoved
  rw [jumps] at found
  have forward := RecurrenceToken.forward_of_recurrenceOf found
  obtain ⟨dates, _, led, stepped, shown, _⟩ := (Stride.isSeries forward begun inside).exists_lines
    isTail unended found (step.stride.leads_zero start)
  exact ⟨dates, led, stepped, shown⟩

/-- The rent of Saturday 31 January 2015 is due every month. It falls on the 28th once
February has passed, and it stays there in March and April. -/
theorem history_jumps_rent :
    let start : Date := ⟨2015, 1, 31, by decide⟩
    let tail := " rent >m".toList
    let step : Offset := ⟨.plus, none, some .month⟩
    let note : Note := ⟨start.shownPattern, none, some (.fromDate step), tail⟩
    tail.getLast? ≠ some '\n' ∧ Note.read (start.canonical ++ tail) = .ok note ∧
      step.stride.EndsInCentury start 3 ∧
      history (start.canonical ++ tail)
          [⟨⟨2015, 2, 1, by decide⟩, 0, []⟩, ⟨Date.first, 0, []⟩, ⟨Date.last, 0, []⟩] =
        ["15.02.28s rent >m".toList, "15.03.28s rent >m".toList, "15.04.28t rent >m".toList] := by
  intro start tail step note
  have unended : tail.getLast? ≠ some '\n' := by decide
  have read : Note.read (start.canonical ++ tail) = .ok note := by decide +kernel
  have inside : step.stride.EndsInCentury start 3 := by
    change start.monthNumber + (3 : Nat) * (1 : Nat) ≤ Date.centuryEnd.monthNumber
    decide
  obtain ⟨dates, led, _, shown⟩ :=
    history_jumps start tail note step 3 (by decide) unended read rfl rfl rfl inside
  have february : (⟨2015, 2, 28, by decide⟩ : Date) = dates 1 :=
    (led 1 (by decide) _).mp (And.intro (by decide) (by decide))
  have march : (⟨2015, 3, 28, by decide⟩ : Date) = dates 2 :=
    (led 2 (by decide) _).mp (And.intro (by decide) (by decide))
  have april : (⟨2015, 4, 28, by decide⟩ : Date) = dates 3 :=
    (led 3 (by decide) _).mp (And.intro (by decide) (by decide))
  refine ⟨unended, read, inside, ?_⟩
  have lines := shown [⟨2015, 2, 1, by decide⟩, Date.first, Date.last] rfl
  simp only [List.map_cons, List.map_nil, List.range'_succ, List.range'_zero, ← february, ← march,
    ← april] at lines
  exact lines.trans (by decide +kernel)

end Tickler
