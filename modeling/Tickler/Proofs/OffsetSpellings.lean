import Tickler.Proofs.FullDates
import Tickler.Proofs.History

/-!
# Spellings of an offset

The same offset can be typed in several ways: an amount of one and the unit of days may be left
out, zeros may stand in front of an amount, and weeks and years may be counted out as days and
months. The line becomes the same text whichever spelling is used, also where it becomes a
message.

The two lines are divided alike. A sign is no part of a date token, and a plus sign ends one,
so that the measure behind the sign plays no part in the reading of the date; and the measure
reaches to the space behind it, whatever its digits and its letter are. The two notes then
differ in their offsets alone, of which only the dates that they lead to are ever shown.
-/

namespace Tickler

/-- A run of digits denotes a number. Zeros may stand in front. -/
structure Decimal.Denotes (run : List Char) (number : Nat) : Prop where
  nonempty : run ≠ []
  decimal : ∀ digit ∈ run, digit.isDigit = true
  value : Decimal.value run = number

/-- Zeros in front change nothing about what a run of digits denotes. -/
theorem Decimal.Denotes.zeros {run : List Char} {number : Nat} (denotes : Denotes run number)
    (zeros : Nat) : Denotes (List.replicate zeros '0' ++ run) number where
  nonempty := by simp [denotes.nonempty]
  decimal := by
    intro digit member
    rcases List.mem_append.mp member with zero | typed
    · rw [List.eq_of_mem_replicate zero]
      rfl
    · exact denotes.decimal digit typed
  value := (value_replicate_append zeros run).trans denotes.value

/-- A multiple of a number with a sign. -/
theorem Sign.signed_mul (sign : Sign) (factor number : Nat) :
    sign.signed (factor * number) = factor * sign.signed number := by
  cases sign with
  | plus => simp only [signed, Int.natCast_mul]
  | minus => simp only [signed, Int.natCast_mul, Int.mul_neg]

namespace Offset

/-- What may stand in front of an offset token: a date token if the offset begins with a plus
sign, and nothing in any case. -/
inductive Front : List Char → Sign → Prop where
  | bare (sign : Sign) : Front [] sign
  | dated {token : List Char} {pattern : DatePattern}
      (spelled : DatePattern.Spelled token pattern) : Front token .plus

/-- A text spells an offset behind its sign: the digits of the amount and the letter of the
unit, each of which may be missing. -/
inductive TypedBehind (sign : Sign) : List Char → Offset → Prop where
  | measure {digits letter : List Char} {amount : Option Nat} {period : Option Period}
      (decimal : ∀ digit ∈ digits, digit.isDigit = true)
      (counted : Measure.Counts digits amount)
      (mark : OptionalLetter Period.letter letter period) :
      TypedBehind sign (digits ++ letter) ⟨sign, amount, period⟩

/-- Two offsets lead from every date to the same date, or out of the calendar. -/
def LeadsAlike (left right : Offset) : Prop := ∀ date, left.target date = right.target date

/-- An amount and the letter of its unit spell the offset that has both. -/
theorem typedBehind_of_denotes {digits letter : List Char} {number : Nat}
    {period : Option Period} (sign : Sign) (denotes : Decimal.Denotes digits number)
    (fits : number < UInt32.size) (mark : OptionalLetter Period.letter letter period) :
    TypedBehind sign (digits ++ letter) ⟨sign, some number, period⟩ := by
  obtain ⟨nonempty, decimal, rfl⟩ := denotes
  exact .measure decimal (.present nonempty fits) mark

/-- A unit letter alone spells the offset without an amount. -/
theorem typedBehind_letter {letter : List Char} {period : Option Period} (sign : Sign)
    (mark : OptionalLetter Period.letter letter period) :
    TypedBehind sign letter ⟨sign, none, period⟩ := by
  have typed : TypedBehind sign ([] ++ letter) ⟨sign, none, period⟩ :=
    .measure (by simp) .absent mark
  exact typed

/-- Offsets that count the same amount of the same unit lead alike. -/
theorem leadsAlike_of_counted {left right : Offset}
    (sameAmount : left.signedAmount = right.signedAmount)
    (samePeriod : left.countedPeriod = right.countedPeriod) : LeadsAlike left right := by
  intro date
  simp only [target, target?_eq, sameAmount, samePeriod]

/-- Weeks lead where sevenfold days lead. -/
theorem leadsAlike_week (sign : Sign) (amount : Nat) :
    LeadsAlike ⟨sign, some amount, some .week⟩ ⟨sign, some (7 * amount), some .day⟩ := by
  intro date
  simp only [target, target?_eq, signedAmount, countedPeriod, Option.getD_some, sign.signed_mul]
  rfl

/-- Years lead where twelvefold months lead. -/
theorem leadsAlike_year (sign : Sign) (amount : Nat) :
    LeadsAlike ⟨sign, some amount, some .year⟩ ⟨sign, some (12 * amount), some .month⟩ := by
  intro date
  simp only [target, target?_eq, signedAmount, countedPeriod, Option.getD_some, sign.signed_mul]
  rfl

/-- A date in front of a sign is read up to the sign, whatever follows, and without one no
date is read. -/
theorem Front.takeToken_eq {front : List Char} {sign : Sign} (before : Front front sign) :
    ∃ pattern, ∀ text, takeToken DatePattern.token? (front ++ sign.letter :: text) =
      (pattern, sign.letter :: text) := by
  cases before with
  | bare => exact ⟨none, fun text => takeToken_of_eq_none (DatePattern.token?_of_sign sign text)⟩
  | @dated token pattern spelled =>
    exact ⟨some pattern, fun text => takeToken_of_eq_some (DatePattern.token?_append spelled rfl)⟩

/-- No part of a line ending stands in a measure, in its sign or in front of the two. -/
theorem Front.not_lineEnding {front text : List Char} {sign : Sign} {offset : Offset}
    (before : Front front sign) (typed : TypedBehind sign text offset) :
    ∀ character ∈ front ++ sign.letter :: text, character ≠ '\n' ∧ character ≠ '\r' := by
  have inFront : ∀ character ∈ front, character ≠ '\n' ∧ character ≠ '\r' := by
    cases before with
    | bare => simp
    | dated spelled => exact DatePattern.not_lineEnding_of_spelled spelled
  have inSign : sign.letter ≠ '\n' ∧ sign.letter ≠ '\r' := by cases sign <;> decide
  have inMeasure : ∀ character ∈ text, character ≠ '\n' ∧ character ≠ '\r' := by
    cases typed with
    | measure decimal counted mark =>
      refine Measure.forall_mem_of_spelled (.digits decimal mark) ?_ fun period => ?_
      · intro digit isDigit
        constructor <;> rintro rfl <;> simp at isDigit
      · cases period <;> decide
  exact List.forall_mem_append.mpr ⟨inFront, List.forall_mem_cons.mpr ⟨inSign, inMeasure⟩⟩

/-- A measure is read up to the space behind it. -/
theorem lead_typed {text rest : List Char} {sign : Sign} {offset : Offset}
    (typed : TypedBehind sign text offset) (ended : isDelimited delimiters rest = true) :
    ∃ token, lead (sign.letter :: (text ++ rest)) = (some token, rest) ∧
      Note.offsetOf (some token) = .ok (some offset) := by
  cases typed with
  | @measure digits letter amount period decimal counted mark =>
    refine ⟨(sign, ⟨digits, period⟩), ?_, (Note.offsetOf_eq_ok_iff _ _).mpr (.present counted)⟩
    exact takeToken_of_eq_some ((signed?_eq_some_iff _ _ _).mpr
      ⟨_, .signed sign (.digits decimal mark), rfl, ended⟩)

/-- Of a text that begins with a space or is empty, so does what is left without its line
ending. -/
theorem isDelimited_withoutLineEnding {rest : List Char}
    (ended : isDelimited delimiters rest = true) :
    isDelimited delimiters (withoutLineEnding rest) = true := by
  have begins := (isDelimited_iff delimiters rest).mp ended
  refine (isDelimited_iff delimiters _).mpr fun character first => begins character ?_
  obtain ⟨ending, whole⟩ := withoutLineEnding_prefix rest
  rw [← whole, List.head?_append]
  simp_all

end Offset

section Lines

variable {front rest : List Char} {sign : Sign} (before : Offset.Front front sign)
  (ended : isDelimited Offset.delimiters rest = true)

include before ended

/-- Lines that differ in the spelling of their measure alone are read as notes that differ in
their offset alone. -/
theorem Note.read_typed :
    ∃ pattern, ∀ text offset, Offset.TypedBehind sign text offset →
      Note.read (withoutLineEnding (front ++ sign.letter :: (text ++ rest))) =
        (Note.recurrenceOf (withoutLineEnding rest)).map fun recurrence =>
          ⟨pattern, some offset, recurrence, withoutLineEnding rest⟩ := by
  obtain ⟨pattern, dated⟩ := before.takeToken_eq
  refine ⟨pattern.getD {}, fun text offset typed => ?_⟩
  have line : withoutLineEnding (front ++ sign.letter :: (text ++ rest)) =
      front ++ sign.letter :: (text ++ withoutLineEnding rest) := by
    have kept := withoutLineEnding_append (before.not_lineEnding typed) rest
    simpa using kept
  obtain ⟨token, read, accepted⟩ :=
    Offset.lead_typed typed (Offset.isDelimited_withoutLineEnding ended)
  have divided : Divided (front ++ sign.letter :: (text ++ withoutLineEnding rest)) pattern
      (some token) (withoutLineEnding rest) := by
    rw [divided_iff, dated]
    exact ⟨rfl, read⟩
  rw [line, read_of_divided divided, accepted]
  cases recurrenceOf (withoutLineEnding rest) <;> rfl

/-- Lines whose offsets lead alike become the same text. -/
theorem rescheduledLine_of_leadsAlike {text otherText : List Char} {offset other : Offset}
    (typed : Offset.TypedBehind sign text offset)
    (otherTyped : Offset.TypedBehind sign otherText other)
    (alike : Offset.LeadsAlike offset other) (today : Date) (extraDays : Int) :
    rescheduledLine (front ++ sign.letter :: (text ++ rest)) today extraDays =
      rescheduledLine (front ++ sign.letter :: (otherText ++ rest)) today extraDays := by
  obtain ⟨pattern, read⟩ := Note.read_typed before ended
  have left := read text offset typed
  have right := read otherText other otherTyped
  cases found : Note.recurrenceOf (withoutLineEnding rest) with
  | error failure =>
    rw [found] at left right
    rw [rescheduledLine_of_refused left, rescheduledLine_of_refused right]
  | ok recurrence =>
    rw [found] at left right
    have sameDate :
        Note.dateOn ⟨pattern, some offset, recurrence, withoutLineEnding rest⟩ today extraDays =
          Note.dateOn ⟨pattern, some other, recurrence, withoutLineEnding rest⟩ today
            extraDays := by
      rw [Note.dateOn_of_still (.inr (by simp [Note.recurs])),
        Note.dateOn_of_still (.inr (by simp [Note.recurs]))]
      simp only [Note.baseDate, alike _]
    rw [rescheduledLine_of_read left, rescheduledLine_of_read right, sameDate,
      Note.tail_eq_description (.inr (.inl (by simp))),
      Note.tail_eq_description (.inr (.inl (by simp)))]

end Lines

/-- Different spellings of one offset give the same text, errors included, for whatever stands
in front of the sign and behind the measure: an amount of one may be left out, the unit of
days may be left out, zeros may stand in front of an amount, and weeks may be typed as
sevenfold days and years as twelvefold months, as long as those are amounts. -/
theorem rescheduledLine_respelled {front rest digits unit : List Char} {sign : Sign}
    {number : Nat} {period : Option Period} (before : Offset.Front front sign)
    (spaced : ∀ character ∈ rest.head?, character = ' ')
    (mark : OptionalLetter Period.letter unit period) (denotes : Decimal.Denotes digits number)
    (fits : number < UInt32.size) (today : Date) (extraDays : Int) :
    let line (measure : List Char) :=
      rescheduledLine (front ++ sign.letter :: (measure ++ rest)) today extraDays
    line unit = line ('1' :: unit) ∧
      line digits = line (digits ++ ['d']) ∧
      (∀ zeros, line (digits ++ unit) = line (List.replicate zeros '0' ++ digits ++ unit)) ∧
      (∀ days, Decimal.Denotes days (7 * number) → 7 * number < UInt32.size →
        line (digits ++ ['w']) = line (days ++ ['d'])) ∧
      (∀ months, Decimal.Denotes months (12 * number) → 12 * number < UInt32.size →
        line (digits ++ ['y']) = line (months ++ ['m'])) := by
  intro line
  have ended : isDelimited Offset.delimiters rest = true :=
    (isDelimited_iff _ _).mpr (by simpa [Offset.delimiters] using spaced)
  have same {text otherText : List Char} {offset other : Offset}
      (typed : Offset.TypedBehind sign text offset)
      (otherTyped : Offset.TypedBehind sign otherText other)
      (alike : Offset.LeadsAlike offset other) : line text = line otherText :=
    rescheduledLine_of_leadsAlike before ended typed otherTyped alike today extraDays
  have one : Decimal.Denotes ['1'] 1 := ⟨by simp, by simp, rfl⟩
  have unmarked := Offset.typedBehind_of_denotes sign denotes fits .absent
  rw [List.append_nil] at unmarked
  refine ⟨?_, ?_, fun zeros => ?_, fun days sevenfold daysFit => ?_,
    fun months twelvefold monthsFit => ?_⟩
  · exact same (Offset.typedBehind_letter sign mark)
      (Offset.typedBehind_of_denotes sign one (by decide) mark)
      (Offset.leadsAlike_of_counted rfl rfl)
  · exact same unmarked (Offset.typedBehind_of_denotes sign denotes fits (.present Period.day))
      (Offset.leadsAlike_of_counted rfl rfl)
  · exact same (Offset.typedBehind_of_denotes sign denotes fits mark)
      (Offset.typedBehind_of_denotes sign (denotes.zeros zeros) fits mark)
      (Offset.leadsAlike_of_counted rfl rfl)
  · exact same (Offset.typedBehind_of_denotes sign denotes fits (.present Period.week))
      (Offset.typedBehind_of_denotes sign sevenfold daysFit (.present Period.day))
      (Offset.leadsAlike_week sign number)
  · exact same (Offset.typedBehind_of_denotes sign denotes fits (.present Period.year))
      (Offset.typedBehind_of_denotes sign twelvefold monthsFit (.present Period.month))
      (Offset.leadsAlike_year sign number)

/-- Two weeks after the fourth are fourteen days after it, and also `002w` are. -/
theorem rescheduledLine_respelled_two_weeks :
    let today : Date := ⟨2015, 9, 6, by decide⟩
    let line (measure : List Char) :=
      rescheduledLine (['4'] ++ Sign.plus.letter :: (measure ++ " call".toList)) today 0
    Offset.Front ['4'] .plus ∧ (∀ character ∈ " call".toList.head?, character = ' ') ∧
      OptionalLetter Period.letter ['w'] (some .week) ∧ Decimal.Denotes ['2'] 2 ∧
      2 < UInt32.size ∧ line "2w".toList = "15.10.18u call".toList ∧
      line "2w".toList = line "14d".toList ∧ line "2w".toList = line "002w".toList := by
  intro today line
  have dayRun : Decimal.IsRun 2 ['4'] := ⟨by simp, by simp, by simp⟩
  have before : Offset.Front (['4'] ++ []) .plus := .dated (.day dayRun .absent)
  have spaced : ∀ character ∈ " call".toList.head?, character = ' ' := by simp
  have mark : OptionalLetter Period.letter ['w'] (some .week) := .present Period.week
  have denotes : Decimal.Denotes ['2'] 2 := ⟨by simp, by simp, rfl⟩
  have fits : 2 < UInt32.size := by decide
  obtain ⟨-, -, zeros, sevenfold, -⟩ :=
    rescheduledLine_respelled before spaced mark denotes fits today 0
  exact ⟨before, spaced, mark, denotes, fits, by decide +kernel,
    sevenfold "14".toList ⟨by simp, by simp, rfl⟩ (by decide), zeros 2⟩

end Tickler
