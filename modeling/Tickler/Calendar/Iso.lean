import Tickler.Calendar.Date
import Tickler.Text.Blank
import Tickler.Text.Decimal
import Tickler.Text.Token

/-!
# ISO date texts

A date is written year first with hyphens between the numbers. Years from 0 to
9999 take four digits; every other year takes a sign and at least four digits.

Reading is more lenient than writing. White space may stand before each number, a
signed year may have any count of digits, an unsigned one has one to four, and
month and day have one or two. Nothing may follow the day, and the numbers must
name a calendar date.
-/

namespace Tickler

namespace Date

/-- The ISO text of a date. -/
def iso (date : Date) : List Char :=
  let sign := if date.year < 0 then ['-'] else if date.year ≤ 9999 then [] else ['+']
  sign ++ Decimal.padded 4 date.year.natAbs ++ '-' :: Decimal.padded 2 date.month ++
    '-' :: Decimal.padded 2 date.day

end Date

namespace Iso

/-- Take a year off the front of a text. Only a sign allows more than four digits. -/
def year? : List Char → Option (Int × List Char)
  | '+' :: text => (Decimal.lead? text.length text).map fun (number, rest) => (number, rest)
  | '-' :: text => (Decimal.lead? text.length text).map fun (number, rest) => (-number, rest)
  | text => (Decimal.lead? 4 text).map fun (number, rest) => (number, rest)

end Iso

/-- The date that an ISO text names. -/
def Date.ofIso? (text : List Char) : Option Date := do
  let (year, afterYear) ← Iso.year? (skipBlanks text)
  let monthText ← takeMark? '-' afterYear
  let (month, afterMonth) ← Decimal.lead? 2 (skipBlanks monthText)
  let dayText ← takeMark? '-' afterMonth
  let (day, afterDay) ← Decimal.lead? 2 (skipBlanks dayText)
  if afterDay = [] then Date.ofYmd? year month day else none

end Tickler
