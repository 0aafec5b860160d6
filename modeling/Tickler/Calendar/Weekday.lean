/-!
# Days of the week

A weekday has one lowercase letter in the shorthand, `u m t w r f s` for Sunday
through Saturday, so that every day has a letter of its own. Letters are case
sensitive: no capital names a weekday. Positions count from Monday.
-/

namespace Tickler

/-- A day of the week, in the order in which positions count. -/
inductive Weekday where
  | monday
  | tuesday
  | wednesday
  | thursday
  | friday
  | saturday
  | sunday
deriving DecidableEq, Repr, Inhabited

namespace Weekday

/-- The shorthand letter. Thursday takes `r` and Sunday `u`, because `t` and `s`
are Tuesday's and Saturday's. -/
def letter : Weekday → Char
  | monday => 'm'
  | tuesday => 't'
  | wednesday => 'w'
  | thursday => 'r'
  | friday => 'f'
  | saturday => 's'
  | sunday => 'u'

/-- The weekday that a letter stands for. -/
def ofLetter? : Char → Option Weekday
  | 'm' => some monday
  | 't' => some tuesday
  | 'w' => some wednesday
  | 'r' => some thursday
  | 'f' => some friday
  | 's' => some saturday
  | 'u' => some sunday
  | _ => none

/-- The English abbreviation used in reports. -/
def abbreviation : Weekday → List Char
  | monday => "Mon".toList
  | tuesday => "Tue".toList
  | wednesday => "Wed".toList
  | thursday => "Thu".toList
  | friday => "Fri".toList
  | saturday => "Sat".toList
  | sunday => "Sun".toList

/-- The weekday reached by counting on from Monday; the week repeats. -/
def ofPosition (position : Nat) : Weekday :=
  match position % 7 with
  | 0 => monday
  | 1 => tuesday
  | 2 => wednesday
  | 3 => thursday
  | 4 => friday
  | 5 => saturday
  | _ => sunday

/-- The number of days after Monday. -/
def position : Weekday → Nat
  | monday => 0
  | tuesday => 1
  | wednesday => 2
  | thursday => 3
  | friday => 4
  | saturday => 5
  | sunday => 6

/-- A letter is read back as the weekday that it was written for. -/
theorem ofLetter?_letter (weekday : Weekday) : ofLetter? weekday.letter = some weekday := by
  cases weekday <;> rfl

/-- Only a weekday's own letter is read as that weekday. -/
theorem ofLetter?_eq_some_iff (letter : Char) (weekday : Weekday) :
    ofLetter? letter = some weekday ↔ letter = weekday.letter := by
  constructor
  · intro named
    simp only [ofLetter?] at named
    split at named <;> simp_all [Weekday.letter] <;> subst named <;> rfl
  · rintro rfl
    exact ofLetter?_letter weekday

/-- Positions below seven and weekdays correspond one to one. -/
theorem position_ofPosition (count : Nat) : (ofPosition count).position = count % 7 := by
  have bounded : count % 7 < 7 := Nat.mod_lt _ (by decide)
  simp only [ofPosition]
  split <;> simp_all [position]
  omega

/-- There are seven positions. -/
theorem position_lt (weekday : Weekday) : weekday.position < 7 := by
  cases weekday <;> decide

/-- Different weekdays have different positions. -/
theorem position_injective {left right : Weekday} (same : left.position = right.position) :
    left = right := by
  cases left <;> cases right <;> first | rfl | cases same

end Weekday

end Tickler
