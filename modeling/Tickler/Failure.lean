import Tickler.Calendar.Canonical
import Tickler.Note.DatePattern

/-!
# Failures

Every way in which a line, a setting or a run can fail, with its one message. A
failure about a date has a message that begins with `ERROR:`, so that the message
can stand in place of a rescheduled line and still be told from one; no other
message begins so.

An overflow is the one failure that is not caught: it ends the program where it occurs.
No line leads to one.
-/

namespace Tickler

/-- What went wrong. -/
inductive Failure where
  /-- The days searched end with `last` and none of them fits the pattern. -/
  | unresolvable (pattern : DatePattern) (last : Date)
  /-- A full date that the calendar does not have. -/
  | invalidDate (year : Int) (month day : Nat)
  /-- A run of digits that is too large for an amount. -/
  | amountTooLarge (digits : List Char)
  /-- A date before the first or after the last of the calendar. -/
  | outOfRange
  /-- A month without so many of a weekday. -/
  | noSuchWeekday (ordinal : Int) (weekday : Weekday) (monthStart : Date)
  /-- Settings that cannot be loaded or saved. -/
  | settings (detail : List Char)
  /-- An argument that cannot be used. -/
  | argument (detail : List Char)
  /-- Input that cannot be read. -/
  | input (detail : List Char)
  /-- Output that is not taken. -/
  | output (detail : List Char)
  /-- A report that cannot be written. -/
  | report (detail : List Char)
  /-- A sum of signed 32-bit words that is no such word. -/
  | overflow
deriving DecidableEq

namespace Failure

/-- The failures that concern a date, which are shown in place of a line. -/
def isAboutDate : Failure → Bool
  | unresolvable .. | invalidDate .. | amountTooLarge .. | outOfRange | noSuchWeekday .. => true
  | settings .. | argument .. | input .. | output .. | report .. | overflow => false

/-- The message of a failure. -/
def message : Failure → List Char
  | unresolvable pattern last =>
      "ERROR: Weird format ".toList ++ pattern.text ++ " for ".toList ++ last.canonical
  | invalidDate year month day =>
      "ERROR: Invalid date ".toList ++ Decimal.signed year ++ '.' :: Decimal.digits month ++
        '.' :: Decimal.digits day
  | amountTooLarge digits => "ERROR: Amount ".toList ++ digits ++ " is too large".toList
  | outOfRange => "ERROR: Date out of range".toList
  | noSuchWeekday ordinal weekday monthStart =>
      "ERROR: No weekday #".toList ++ Decimal.signed ordinal ++ " '".toList ++
        weekday.letter :: "' in month starting ".toList ++ monthStart.canonical
  | settings detail => "Config error: ".toList ++ detail
  | argument detail => "Invalid argument: ".toList ++ detail
  | input detail | output detail => "IO error: ".toList ++ detail
  | report detail => "JSON error: ".toList ++ detail
  | overflow => "attempt to add with overflow".toList

/-- The text in front of every message about a date. -/
def mark : List Char := "ERROR:".toList

/-- The mark tells a message about a date from any other message. -/
theorem mark_isPrefixOf_message_iff (failure : Failure) :
    mark.isPrefixOf failure.message = failure.isAboutDate := by
  cases failure <;> rfl

end Failure

/-! ## Attempts

A chain of attempts succeeds exactly when each of its links does, and fails with
the failure of the first link that does not.
-/

namespace Attempt

variable {ε α β : Type}

/-- Attempts can be compared if their results and failures can. -/
instance decidableEq [DecidableEq ε] [DecidableEq α] : DecidableEq (Except ε α)
  | .ok left, .ok right => decidable_of_iff (left = right) (by simp)
  | .error left, .error right => decidable_of_iff (left = right) (by simp)
  | .ok _, .error _ => isFalse (by simp)
  | .error _, .ok _ => isFalse (by simp)

/-- A chain succeeds with a result exactly when both of its links succeed with it. -/
theorem bind_eq_ok_iff (first : Except ε α) (next : α → Except ε β) (result : β) :
    first >>= next = .ok result ↔ ∃ middle, first = .ok middle ∧ next middle = .ok result := by
  cases first <;> simp [bind, Except.bind]

/-- A chain fails with the failure of its first link, or of its second behind a success. -/
theorem bind_eq_error_iff (first : Except ε α) (next : α → Except ε β) (failure : ε) :
    first >>= next = .error failure ↔
      first = .error failure ∨ ∃ middle, first = .ok middle ∧ next middle = .error failure := by
  cases first <;> simp [bind, Except.bind]

/-- A changed attempt succeeds exactly with the changed results. -/
theorem map_eq_ok_iff (change : α → β) (attempt : Except ε α) (result : β) :
    attempt.map change = .ok result ↔ ∃ middle, attempt = .ok middle ∧ change middle = result := by
  cases attempt <;> simp [Except.map]

/-- A changed attempt fails exactly as the attempt does. -/
theorem map_eq_error_iff (change : α → β) (attempt : Except ε α) (failure : ε) :
    attempt.map change = .error failure ↔ attempt = .error failure := by
  cases attempt <;> simp [Except.map]

end Attempt

end Tickler
