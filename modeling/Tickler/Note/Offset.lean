import Tickler.Calendar.Step
import Tickler.Failure

/-!
# Offsets

An offset moves a date by an amount of days, weeks, months or years, forward or
back. An omitted amount is one and an omitted unit is the day, so a bare sign
moves by a single day. Amounts are 32-bit words; a larger one is refused as typed.
Their multiples are reckoned as 64-bit words, so that a date is missed only where the
calendar does not have it.

In a note an offset is spelled by a sign and, directly behind it, the digits of
the amount and the letter of the unit, each of which may be missing.
-/

namespace Tickler

/-- The direction of an offset. -/
inductive Sign where
  | plus
  | minus
deriving DecidableEq, Repr, Inhabited

/-- What an amount counts. -/
inductive Period where
  | day
  | week
  | month
  | year
deriving DecidableEq, Repr, Inhabited

/-- The letter that spells a period. -/
def Period.letter : Period → Char
  | day => 'd'
  | week => 'w'
  | month => 'm'
  | year => 'y'

/-- The period that a letter spells. -/
def Period.ofLetter? : Char → Option Period
  | 'd' => some .day
  | 'w' => some .week
  | 'm' => some .month
  | 'y' => some .year
  | _ => none

/-- Only a period's own letter is read as that period. -/
theorem Period.ofLetter?_eq_some_iff (letter : Char) (period : Period) :
    ofLetter? letter = some period ↔ letter = period.letter := by
  constructor
  · intro named
    simp only [ofLetter?] at named
    split at named <;> cases named <;> rfl
  · rintro rfl
    cases period <;> rfl

/-- The character that spells a sign. -/
def Sign.letter : Sign → Char
  | plus => '+'
  | minus => '-'

/-- The sign that a character spells. -/
def Sign.ofLetter? : Char → Option Sign
  | '+' => some .plus
  | '-' => some .minus
  | _ => none

/-- Only a sign's own character is read as that sign. -/
theorem Sign.ofLetter?_eq_some_iff (letter : Char) (sign : Sign) :
    ofLetter? letter = some sign ↔ letter = sign.letter := by
  constructor
  · intro named
    simp only [ofLetter?] at named
    split at named <;> cases named <;> rfl
  · rintro rfl
    cases sign <;> rfl

/-- A character that spells no sign is read as none. -/
theorem Sign.ofLetter?_eq_none {letter : Char} (other : ∀ sign : Sign, letter ≠ sign.letter) :
    ofLetter? letter = none := by
  cases named : ofLetter? letter with
  | none => rfl
  | some sign => exact absurd ((ofLetter?_eq_some_iff letter sign).mp named) (other sign)

/-- A number with a sign in front. -/
def Sign.signed : Sign → Nat → Int
  | plus, number => number
  | minus, number => -number

/-- A signed amount of a period, with absent parts left open. -/
structure Offset where
  sign : Sign
  amount : Option Nat
  period : Option Period
deriving DecidableEq, Repr

namespace Offset

/-- The amount with its sign; an absent amount is one. -/
def signedAmount (offset : Offset) : Int := offset.sign.signed (offset.amount.getD 1)

/-- The period counted; an absent one is the day. -/
def countedPeriod (offset : Offset) : Period := offset.period.getD .day

/-- A product of signed 64-bit words, if it is such a word again. -/
def product? (factor number : Int) : Option Int :=
  let half : Int := (UInt64.size / 2 : Nat)
  if -half ≤ factor * number ∧ factor * number < half then some (factor * number) else none

/-- The date that an offset leads to, if the calendar has it. Weeks are sevenfold
days and years twelvefold months. -/
def target? (offset : Offset) (date : Date) : Option Date :=
  match offset.countedPeriod with
  | .day => date.stepDays? offset.signedAmount
  | .week => (product? 7 offset.signedAmount).bind date.stepDays?
  | .month => date.stepMonths? offset.signedAmount
  | .year => (product? 12 offset.signedAmount).bind date.stepMonths?

/-- A product that is no word is longer than any step. -/
theorem bind_product?_eq {step move : Int → Option Date} (same : ∀ steps, step steps = move steps)
    (far : ∀ steps : Int, Date.longestStep < steps.natAbs → move steps = none)
    (factor number : Int) : (product? factor number).bind step = move (factor * number) := by
  simp only [product?]
  split
  · exact same _
  · rename_i wide
    have word : Date.longestStep = 2147483647 := rfl
    have size : UInt64.size / 2 = 9223372036854775808 := rfl
    exact (far _ (by omega)).symm

/-- An offset leads so many days or months away, wherever in the calendar that is. -/
theorem target?_eq (offset : Offset) (date : Date) :
    offset.target? date =
      match offset.countedPeriod with
      | .day => date.addDays? offset.signedAmount
      | .week => date.addDays? (7 * offset.signedAmount)
      | .month => date.addMonths? offset.signedAmount
      | .year => date.addMonths? (12 * offset.signedAmount) := by
  rw [target?]
  cases offset.countedPeriod with
  | day => exact date.stepDays?_eq _
  | week => exact bind_product?_eq date.stepDays?_eq (fun _ => date.addDays?_of_far) 7 _
  | month => exact date.stepMonths?_eq _
  | year => exact bind_product?_eq date.stepMonths?_eq (fun _ => date.addMonths?_of_far) 12 _

end Offset

/-- A date that may lie outside the calendar, as an answer or the failure. -/
def inCalendar : Option Date → Except Failure Date
  | some date => .ok date
  | none => .error .outOfRange

/-- A date is reached, or the calendar is left; a step fails in no other way. -/
theorem inCalendar_ok_or_outOfRange (reached : Option Date) :
    (∃ date, inCalendar reached = .ok date) ∨ inCalendar reached = .error .outOfRange := by
  cases reached with
  | some date => exact .inl ⟨date, rfl⟩
  | none => exact .inr rfl

/-- A step that may leave the calendar answers with the dates it reaches, and is out of
range exactly if there is none. -/
theorem inCalendar_iff {reached : Option Date} {Reaches : Date → Prop}
    (found : ∀ date, reached = some date ↔ Reaches date) :
    (∀ date, inCalendar reached = .ok date ↔ Reaches date) ∧
      (inCalendar reached = .error .outOfRange ↔ ¬ ∃ date, Reaches date) := by
  simp only [← found]
  cases reached <;> simp [inCalendar]

/-- The date that an offset leads to. -/
def Offset.target (offset : Offset) (date : Date) : Except Failure Date :=
  inCalendar (offset.target? date)

/-- The date a signed number of days away. -/
def Date.addDays (date : Date) (days : Int) : Except Failure Date :=
  inCalendar (date.stepDays? days)

/-- The date a signed number of months away, on the month's last day if need be. -/
def Date.addMonths (date : Date) (months : Int) : Except Failure Date :=
  inCalendar (date.stepMonths? months)

/-- No days away lies the date itself. -/
theorem Date.addDays_zero (date : Date) : date.addDays 0 = .ok date := by
  rw [addDays, stepDays?_eq, addDays?, Int.add_zero, ofDayNumber?_dayNumber, inCalendar]

/-- An amount and its unit as typed. No digits stand for an absent amount. -/
structure Measure where
  digits : List Char
  period : Option Period
deriving DecidableEq, Repr

namespace Measure

/-- Take a measure off the front of a text: all its digits, then the unit letter. -/
def lead (text : List Char) : Measure × List Char :=
  let (period, rest) := takeLetter Period.ofLetter? (text.dropWhile Char.isDigit)
  (⟨text.takeWhile Char.isDigit, period⟩, rest)

/-- The amount typed. Amounts are 32-bit words, however many zeros stand in front. -/
def amount (measure : Measure) : Except Failure (Option Nat) :=
  if measure.digits = [] then .ok none
  else if Decimal.value measure.digits < UInt32.size then
    .ok (some (Decimal.value measure.digits))
  else .error (.amountTooLarge measure.digits)

/-- The offset by a measure in one direction. -/
def offset (measure : Measure) (sign : Sign) : Except Failure Offset :=
  measure.amount.map fun amount => ⟨sign, amount, measure.period⟩

end Measure

namespace Offset

/-- Take a sign and a measure off the front of a text. -/
def signed? (text : List Char) : Option ((Sign × Measure) × List Char) :=
  match takeLetter Sign.ofLetter? text with
  | (some sign, afterSign) =>
      let (measure, rest) := Measure.lead afterSign
      some ((sign, measure), rest)
  | (none, _) => none

/-- An offset token reaches to a space or the end. -/
def delimiters : List Char := [' ']

/-- Read the offset token at the front of what follows the date token. Without
one all of it remains. -/
def lead (text : List Char) : Option (Sign × Measure) × List Char :=
  takeToken (delimited? delimiters signed?) text

end Offset

end Tickler
