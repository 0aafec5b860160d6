import Tickler.Calendar.Iso
import Tickler.Note.Offset

/-!
# Reading ISO date texts

An ISO text is a year, a month and a day with a hyphen between each two of them. In front of
each number may stand white space. The year has one to four digits, or a sign and any number
of them; month and day have one or two.

The reader takes each number as far as it goes. It finds exactly the texts of this grammar
whose numbers name a date, because no number can go on into what stands behind it: a year and
a month end at a hyphen, and the day at the end of the text.
-/

namespace Tickler

namespace Iso

/-- Nothing but white space. -/
def IsBlanks (text : List Char) : Prop := ∀ character ∈ text, isBlank character = true

/-- The year of an ISO text: one to four digits, or a sign and any number of digits. -/
inductive YearSpelled : List Char → Int → Prop where
  | unsigned {run : List Char} (isRun : Decimal.IsRun 4 run) : YearSpelled run (Decimal.value run)
  | signed (sign : Sign) {run : List Char} (nonempty : run ≠ [])
      (decimal : ∀ digit ∈ run, digit.isDigit = true) :
      YearSpelled (sign.letter :: run) (sign.signed (Decimal.value run))

/-- An ISO text and the numbers in it. They need not name a date. -/
inductive Spelled : List Char → Int → Nat → Nat → Prop where
  | numbers {yearBlanks yearText monthBlanks month dayBlanks day : List Char} {year : Int}
      (beforeYear : IsBlanks yearBlanks) (yearSpelled : YearSpelled yearText year)
      (beforeMonth : IsBlanks monthBlanks) (monthRun : Decimal.IsRun 2 month)
      (beforeDay : IsBlanks dayBlanks) (dayRun : Decimal.IsRun 2 day) :
      Spelled (yearBlanks ++ (yearText ++ '-' ::
          (monthBlanks ++ (month ++ '-' :: (dayBlanks ++ day)))))
        year (Decimal.value month) (Decimal.value day)

/-- White space is skipped as a whole if none follows. -/
theorem skipBlanks_append {blanks rest : List Char} (isBlanks : IsBlanks blanks)
    (visible : ∀ character ∈ rest.head?, isBlank character = false) :
    skipBlanks (blanks ++ rest) = rest := by
  rw [skipBlanks, List.dropWhile_append_of_pos isBlanks]
  cases rest with
  | nil => rfl
  | cons character others => simp [visible character rfl]

/-- What is skipped is white space. -/
theorem exists_blanks (text : List Char) :
    ∃ blanks, IsBlanks blanks ∧ text = blanks ++ skipBlanks text :=
  ⟨text.takeWhile isBlank, fun _ member => List.all_eq_true.mp List.all_takeWhile _ member,
    List.takeWhile_append_dropWhile.symm⟩

/-- A run of digits does not begin with white space. -/
theorem visible_run {longest : Nat} {run : List Char} (isRun : Decimal.IsRun longest run)
    (rest : List Char) : ∀ character ∈ (run ++ rest).head?, isBlank character = false := by
  obtain ⟨digit, others, rfl⟩ := List.exists_cons_of_ne_nil isRun.nonempty
  have visible := isBlank_of_isDigit (isRun.decimal digit List.mem_cons_self)
  simpa using visible

/-- A sign is no white space. -/
theorem visible_sign (sign : Sign) : isBlank sign.letter = false := by
  cases sign <;> decide

/-- A year does not begin with white space. -/
theorem YearSpelled.visible {text : List Char} {year : Int} (spelled : YearSpelled text year)
    (rest : List Char) : ∀ character ∈ (text ++ rest).head?, isBlank character = false := by
  cases spelled with
  | unsigned isRun => exact visible_run isRun rest
  | signed sign nonempty decimal => simpa using visible_sign sign

/-- Behind a sign the digits are not counted. -/
theorem year?_signed (sign : Sign) (text : List Char) :
    year? (sign.letter :: text) =
      (Decimal.lead? text.length text).map fun (number, rest) => (sign.signed number, rest) := by
  cases sign <;> rfl

/-- A text without a sign in front is read for four digits. -/
theorem year?_unsigned {text : List Char}
    (unsigned : ∀ sign : Sign, text.head? ≠ some sign.letter) :
    year? text = (Decimal.lead? 4 text).map fun (number, rest) => ((number : Int), rest) := by
  unfold year?
  split
  · exact absurd rfl (unsigned .plus)
  · exact absurd rfl (unsigned .minus)
  · rfl

/-- A run of digits does not begin with a sign. -/
theorem unsigned_run {longest : Nat} {run : List Char} (isRun : Decimal.IsRun longest run)
    (rest : List Char) (sign : Sign) : (run ++ rest).head? ≠ some sign.letter := by
  obtain ⟨digit, others, rfl⟩ := List.exists_cons_of_ne_nil isRun.nonempty
  have decimal := isRun.decimal digit List.mem_cons_self
  intro first
  obtain rfl : digit = sign.letter := by simpa using first
  cases sign <;> simp [Sign.letter] at decimal

/-- A year is read up to the hyphen behind it. -/
theorem year?_append {text : List Char} {year : Int} (spelled : YearSpelled text year)
    (rest : List Char) : year? (text ++ '-' :: rest) = some (year, '-' :: rest) := by
  have stopped : ∀ character ∈ ('-' :: rest).head?, character.isDigit = false := by simp
  cases spelled with
  | unsigned isRun =>
    rw [year?_unsigned (unsigned_run isRun _), Decimal.lead?_append isRun stopped]
    rfl
  | @signed sign run nonempty decimal =>
    have isRun : Decimal.IsRun (run ++ '-' :: rest).length run := ⟨nonempty, by simp, decimal⟩
    rw [List.cons_append, year?_signed, Decimal.lead?_append isRun stopped]
    rfl

/-- What is read as a year is one, and the rest is what stands behind it. -/
theorem spelled_of_year? {text rest : List Char} {year : Int}
    (read : year? text = some (year, rest)) :
    ∃ run, YearSpelled run year ∧ text = run ++ rest := by
  by_cases begins : ∃ sign : Sign, text.head? = some sign.letter
  · obtain ⟨sign, first⟩ := begins
    obtain ⟨behind, rfl⟩ := List.head?_eq_some_iff.mp first
    rw [year?_signed, Option.map_eq_some_iff] at read
    obtain ⟨⟨number, others⟩, taken, same⟩ := read
    obtain ⟨rfl, rfl⟩ := Prod.mk.inj same
    obtain ⟨run, isRun, rfl, rfl⟩ := Decimal.exists_run_of_lead? taken
    exact ⟨sign.letter :: run, .signed sign isRun.nonempty isRun.decimal, rfl⟩
  · rw [year?_unsigned fun sign first => begins ⟨sign, first⟩, Option.map_eq_some_iff] at read
    obtain ⟨⟨number, others⟩, taken, same⟩ := read
    obtain ⟨rfl, rfl⟩ := Prod.mk.inj same
    obtain ⟨run, isRun, rfl, rfl⟩ := Decimal.exists_run_of_lead? taken
    exact ⟨run, .unsigned isRun, rfl⟩

/-- Every ISO text has a hyphen in it. -/
theorem Spelled.hyphen_mem {text : List Char} {year : Int} {month day : Nat}
    (spelled : Spelled text year month day) : '-' ∈ text := by
  cases spelled
  simp

end Iso

namespace Date

/-- A date is read from exactly the ISO texts that have its numbers. -/
theorem ofIso?_eq_some_iff (text : List Char) (date : Date) :
    ofIso? text = some date ↔ Iso.Spelled text date.year date.month date.day := by
  constructor
  · intro read
    simp only [ofIso?, Option.bind_eq_bind, Option.bind_eq_some_iff, takeMark?_eq_some_iff,
      Option.ite_none_right_eq_some, ofYmd?_eq_some_iff] at read
    obtain ⟨⟨year, afterYear⟩, yearRead, monthText, rfl, ⟨month, afterMonth⟩, monthRead, dayText,
      rfl, ⟨day, afterDay⟩, dayRead, rfl, rfl, rfl, rfl⟩ := read
    obtain ⟨yearBlanks, beforeYear, split⟩ := Iso.exists_blanks text
    obtain ⟨monthBlanks, beforeMonth, monthSplit⟩ := Iso.exists_blanks monthText
    obtain ⟨dayBlanks, beforeDay, daySplit⟩ := Iso.exists_blanks dayText
    obtain ⟨yearText, yearSpelled, yearParts⟩ := Iso.spelled_of_year? yearRead
    obtain ⟨monthRun, isMonth, monthParts, monthValue⟩ := Decimal.exists_run_of_lead? monthRead
    obtain ⟨dayRun, isDay, dayParts, dayValue⟩ := Decimal.exists_run_of_lead? dayRead
    rw [split, yearParts, monthSplit, monthParts, daySplit, dayParts, List.append_nil, monthValue,
      dayValue]
    exact .numbers beforeYear yearSpelled beforeMonth isMonth beforeDay isDay
  · intro spelled
    generalize sameYear : date.year = year at spelled
    generalize sameMonth : date.month = month at spelled
    generalize sameDay : date.day = day at spelled
    cases spelled with
    | @numbers yearBlanks yearText monthBlanks month dayBlanks day year beforeYear yearSpelled
        beforeMonth monthRun beforeDay dayRun =>
      have stopped : ∀ character ∈ ('-' :: (dayBlanks ++ day)).head?,
          character.isDigit = false := by simp
      have dayRead : Decimal.lead? 2 (day ++ []) = _ := Decimal.lead?_append dayRun (by simp)
      have dayText := Iso.skipBlanks_append beforeDay (Iso.visible_run dayRun [])
      rw [List.append_nil] at dayRead dayText
      simp [ofIso?, Iso.skipBlanks_append beforeYear (yearSpelled.visible _),
        Iso.year?_append yearSpelled, takeMark?,
        Iso.skipBlanks_append beforeMonth (Iso.visible_run monthRun _),
        Decimal.lead?_append monthRun stopped, dayText, dayRead, ofYmd?_eq_some_iff, sameYear,
        sameMonth, sameDay]

end Date

end Tickler
