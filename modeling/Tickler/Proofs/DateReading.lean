import Tickler.Proofs.Grammar

/-!
# Reading dates

The forms of a date token are tried from the longest to the shortest. Each takes
numbers and letters as far as they go, and the delimiter is looked at only
afterwards. The reader nevertheless finds exactly the delimited tokens of the
grammar: behind a token stands no digit, letter or point with which a part of it
could go on, so that a longer form fails where it needs one more point.
-/

namespace Tickler.DatePattern

variable {day month year letter rest : List Char} {weekday : Option Weekday}

/-- A weekday letter is no digit, no point and no delimiter of a date token. -/
theorem weekday_letter_other (weekday : Weekday) :
    weekday.letter.isDigit = false ∧ weekday.letter ≠ '.' ∧ weekday.letter ∉ delimiters := by
  cases weekday <;> decide

/-- A delimiter of a date token is no digit, no point and no weekday letter. -/
theorem delimiter_other : ∀ character ∈ delimiters,
    character.isDigit = false ∧ character ≠ '.' ∧ Weekday.ofLetter? character = none := by
  simp [delimiters, Weekday.ofLetter?]

/-- Behind a day stands no digit and no point. -/
theorem afterDay (mark : OptionalLetter Weekday.letter letter weekday)
    (ended : isDelimited delimiters rest = true) :
    ∀ character ∈ (letter ++ rest).head?, character.isDigit = false ∧ character ≠ '.' := by
  have other := forall_head?_of_isDelimited ended delimiter_other
  refine mark.head?_append (fun weekday => ?_) fun character first => ?_
  · exact ⟨(weekday_letter_other weekday).1, (weekday_letter_other weekday).2.1⟩
  · exact ⟨(other character first).1, (other character first).2.1⟩

/-- The number of a day is read up to the weekday letter. -/
theorem lead?_day (dayRun : Decimal.IsRun 2 day)
    (mark : OptionalLetter Weekday.letter letter weekday)
    (ended : isDelimited delimiters rest = true) :
    Decimal.lead? 2 (day ++ (letter ++ rest)) = some (Decimal.value day, letter ++ rest) :=
  Decimal.lead?_append dayRun fun character first => (afterDay mark ended character first).1

/-- No point is found behind a day. -/
theorem takeMark?_afterDay (mark : OptionalLetter Weekday.letter letter weekday)
    (ended : isDelimited delimiters rest = true) : takeMark? '.' (letter ++ rest) = none :=
  takeMark?_eq_none fun character first => (afterDay mark ended character first).2

/-- A day is read with the weekday letter behind it. -/
theorem day?_append (dayRun : Decimal.IsRun 2 day)
    (mark : OptionalLetter Weekday.letter letter weekday)
    (ended : isDelimited delimiters rest = true) :
    day? (day ++ (letter ++ rest)) =
      some (⟨none, none, some (Decimal.value day), weekday⟩, rest) := by
  have noLetter : ∀ character ∈ rest.head?, Weekday.ofLetter? character = none :=
    fun character first => (forall_head?_of_isDelimited ended delimiter_other character first).2.2
  have marked : takeLetter Weekday.ofLetter? (letter ++ rest) = (weekday, rest) :=
    takeLetter_append Weekday.ofLetter?_eq_some_iff mark noLetter
  simp [day?, lead?_day dayRun mark ended, marked]

/-- A point is no digit, so the number in front of one is read up to it. -/
theorem lead?_point {run : List Char} (isRun : Decimal.IsRun 2 run) (others : List Char) :
    Decimal.lead? 2 (run ++ '.' :: others) = some (Decimal.value run, '.' :: others) :=
  Decimal.lead?_append isRun (by simp)

/-- A month and a day are read with the point between them. -/
theorem monthDay?_append (monthRun : Decimal.IsRun 2 month) (dayRun : Decimal.IsRun 2 day)
    (mark : OptionalLetter Weekday.letter letter weekday)
    (ended : isDelimited delimiters rest = true) :
    monthDay? (month ++ '.' :: (day ++ (letter ++ rest))) =
      some (⟨none, some (Decimal.value month), some (Decimal.value day), weekday⟩, rest) := by
  simp [monthDay?, lead?_point monthRun, takeMark?, day?_append dayRun mark ended]

/-- A year, a month and a day are read with the points between them. -/
theorem yearMonthDay?_append (yearRun : Decimal.IsRun 2 year) (monthRun : Decimal.IsRun 2 month)
    (dayRun : Decimal.IsRun 2 day) (mark : OptionalLetter Weekday.letter letter weekday)
    (ended : isDelimited delimiters rest = true) :
    yearMonthDay? (year ++ '.' :: (month ++ '.' :: (day ++ (letter ++ rest)))) =
      some (⟨some (Decimal.value year), some (Decimal.value month), some (Decimal.value day), weekday⟩,
        rest) := by
  simp [yearMonthDay?, lead?_point yearRun, takeMark?, monthDay?_append monthRun dayRun mark ended]

/-- No month is read where a day alone stands, because no point follows the day. -/
theorem monthDay?_day (dayRun : Decimal.IsRun 2 day)
    (mark : OptionalLetter Weekday.letter letter weekday)
    (ended : isDelimited delimiters rest = true) : monthDay? (day ++ (letter ++ rest)) = none := by
  simp [monthDay?, lead?_day dayRun mark ended, takeMark?_afterDay mark ended]

/-- No year is read where a day alone stands. -/
theorem yearMonthDay?_day (dayRun : Decimal.IsRun 2 day)
    (mark : OptionalLetter Weekday.letter letter weekday)
    (ended : isDelimited delimiters rest = true) :
    yearMonthDay? (day ++ (letter ++ rest)) = none := by
  simp [yearMonthDay?, lead?_day dayRun mark ended, takeMark?_afterDay mark ended]

/-- No year is read where a month and a day alone stand. -/
theorem yearMonthDay?_monthDay (monthRun : Decimal.IsRun 2 month) (dayRun : Decimal.IsRun 2 day)
    (mark : OptionalLetter Weekday.letter letter weekday)
    (ended : isDelimited delimiters rest = true) :
    yearMonthDay? (month ++ '.' :: (day ++ (letter ++ rest))) = none := by
  simp [yearMonthDay?, lead?_point monthRun, takeMark?, monthDay?_day dayRun mark ended]

/-- A delimited token of the grammar is read, whatever stands behind it. The forms
that are tried before its own find nothing: each needs a point or a digit where the
token has none. -/
theorem token?_append {text : List Char} {pattern : DatePattern} (spelled : Spelled text pattern)
    (ended : isDelimited delimiters rest = true) :
    token? (text ++ rest) = some (pattern, rest) := by
  cases spelled with
  | yearMonthDay yearRun monthRun dayRun mark =>
    simp [token?, forms, delimited?, yearMonthDay?_append yearRun monthRun dayRun mark ended, ended]
  | monthDay monthRun dayRun mark =>
    simp [token?, forms, delimited?, yearMonthDay?_monthDay monthRun dayRun mark ended,
      monthDay?_append monthRun dayRun mark ended, ended]
  | day dayRun mark =>
    simp [token?, forms, delimited?, yearMonthDay?_day dayRun mark ended,
      monthDay?_day dayRun mark ended, day?_append dayRun mark ended, ended]
  | weekday weekday =>
    have noNumber : Decimal.lead? 2 (weekday.letter :: rest) = none :=
      Decimal.lead?_eq_none (by simp [weekday_letter_other weekday])
    have named : Weekday.ofLetter? weekday.letter = some weekday := Weekday.ofLetter?_letter weekday
    simp [token?, forms, delimited?, yearMonthDay?, monthDay?, day?, weekday?, noNumber,
      takeLetter, named, ended]

/-- No date token begins with a character that is neither a digit nor a weekday letter. -/
theorem token?_eq_none {text : List Char}
    (other : ∀ character ∈ text.head?,
      character.isDigit = false ∧ Weekday.ofLetter? character = none) : token? text = none := by
  have noNumber : Decimal.lead? 2 text = none :=
    Decimal.lead?_eq_none fun character first => (other character first).1
  have noLetter : weekday? text = none := by
    cases text with
    | nil => rfl
    | cons character others => simp [weekday?, takeLetter, (other character rfl).2]
  simp [token?, forms, delimited?, yearMonthDay?, monthDay?, day?, noNumber, noLetter]

/-- No date token begins with a sign. -/
theorem token?_of_sign (sign : Sign) (text : List Char) : token? (sign.letter :: text) = none := by
  apply token?_eq_none
  cases sign <;> simp [Sign.letter, Weekday.ofLetter?]

/-- A day that is read is a run of digits with an optional weekday letter. -/
theorem spelled_of_day? {text : List Char} {pattern : DatePattern}
    (read : day? text = some (pattern, rest)) :
    ∃ day letter weekday, Decimal.IsRun 2 day ∧ OptionalLetter Weekday.letter letter weekday ∧
      text = day ++ (letter ++ rest) ∧
      pattern = ⟨none, none, some (Decimal.value day), weekday⟩ := by
  simp only [day?, Option.bind_eq_bind, Option.bind_eq_some_iff, Option.some.injEq,
    Prod.mk.injEq] at read
  obtain ⟨⟨number, afterDay⟩, taken, rfl, rfl⟩ := read
  obtain ⟨day, dayRun, rfl, rfl⟩ := Decimal.exists_run_of_lead? taken
  obtain ⟨letter, mark, split⟩ := exists_mark_of_takeLetter Weekday.ofLetter?_eq_some_iff afterDay
  exact ⟨day, letter, _, dayRun, mark, by rw [← split], rfl⟩

/-- A month and a day that are read are a run of digits, a point and a day. -/
theorem spelled_of_monthDay? {text : List Char} {pattern : DatePattern}
    (read : monthDay? text = some (pattern, rest)) :
    ∃ month day letter weekday, Decimal.IsRun 2 month ∧ Decimal.IsRun 2 day ∧
      OptionalLetter Weekday.letter letter weekday ∧
      text = month ++ '.' :: (day ++ (letter ++ rest)) ∧
      pattern = ⟨none, some (Decimal.value month), some (Decimal.value day), weekday⟩ := by
  simp only [monthDay?, Option.bind_eq_bind, Option.bind_eq_some_iff, Option.some.injEq,
    Prod.mk.injEq, takeMark?_eq_some_iff] at read
  obtain ⟨⟨number, _⟩, taken, dayText, rfl, ⟨_, _⟩, dayRead, rfl, rfl⟩ := read
  obtain ⟨month, monthRun, rfl, rfl⟩ := Decimal.exists_run_of_lead? taken
  obtain ⟨day, letter, weekday, dayRun, mark, rfl, rfl⟩ := spelled_of_day? dayRead
  exact ⟨month, day, letter, weekday, monthRun, dayRun, mark, rfl, rfl⟩

/-- A date token holds digits, points and weekday letters, and no other character. -/
theorem forall_mem_of_spelled {P : Char → Prop} {text : List Char} {pattern : DatePattern}
    (spelled : Spelled text pattern) (digits : ∀ digit, digit.isDigit = true → P digit)
    (point : P '.') (letters : ∀ weekday : Weekday, P weekday.letter) :
    ∀ character ∈ text, P character := by
  have inRun : ∀ {run : List Char}, Decimal.IsRun 2 run → ∀ character ∈ run, P character :=
    fun isRun character member => digits character (isRun.decimal character member)
  cases spelled with
  | yearMonthDay yearRun monthRun dayRun mark =>
    simp only [List.forall_mem_append, List.forall_mem_cons]
    exact ⟨inRun yearRun, point, inRun monthRun, point, inRun dayRun, mark.forall_mem letters⟩
  | monthDay monthRun dayRun mark =>
    simp only [List.forall_mem_append, List.forall_mem_cons]
    exact ⟨inRun monthRun, point, inRun dayRun, mark.forall_mem letters⟩
  | day dayRun mark =>
    simp only [List.forall_mem_append]
    exact ⟨inRun dayRun, mark.forall_mem letters⟩
  | weekday weekday => simpa using letters weekday

/-- No delimiter stands inside a date token. -/
theorem clean_of_spelled (text : List Char) (pattern : DatePattern) (spelled : Spelled text pattern) :
    ∀ character ∈ text, character ∉ delimiters := by
  refine forall_mem_of_spelled spelled ?_ ?_ ?_
  · intro digit decimal delimiter
    simp [(delimiter_other digit delimiter).1] at decimal
  · exact fun delimiter => (delimiter_other '.' delimiter).2.1 rfl
  · exact fun weekday => (weekday_letter_other weekday).2.2

/-- Whatever one of the forms reads is a token of the grammar. -/
theorem spelled_of_mem_forms {form : List Char → Option (DatePattern × List Char)}
    (listed : form ∈ forms) {line : List Char} {pattern : DatePattern}
    (read : form line = some (pattern, rest)) :
    ∃ text, Spelled text pattern ∧ line = text ++ rest := by
  simp only [forms, List.mem_cons, List.not_mem_nil, or_false] at listed
  rcases listed with rfl | rfl | rfl | rfl
  · simp only [yearMonthDay?, Option.bind_eq_bind, Option.bind_eq_some_iff, Option.some.injEq,
      Prod.mk.injEq, takeMark?_eq_some_iff] at read
    obtain ⟨⟨number, _⟩, taken, monthText, rfl, ⟨_, _⟩, monthRead, rfl, rfl⟩ := read
    obtain ⟨year, yearRun, rfl, rfl⟩ := Decimal.exists_run_of_lead? taken
    obtain ⟨month, day, letter, weekday, monthRun, dayRun, mark, rfl, rfl⟩ :=
      spelled_of_monthDay? monthRead
    exact ⟨_, .yearMonthDay yearRun monthRun dayRun mark, by simp⟩
  · obtain ⟨month, day, letter, weekday, monthRun, dayRun, mark, rfl, rfl⟩ :=
      spelled_of_monthDay? read
    exact ⟨_, .monthDay monthRun dayRun mark, by simp⟩
  · obtain ⟨day, letter, weekday, dayRun, mark, rfl, rfl⟩ := spelled_of_day? read
    exact ⟨_, .day dayRun mark, by simp⟩
  · obtain ⟨letter, mark, split⟩ := exists_mark_of_takeLetter Weekday.ofLetter?_eq_some_iff line
    simp only [weekday?] at read
    split at read
    · rename_i weekday afterLetter taken
      obtain ⟨rfl, rfl⟩ := Prod.mk.inj (Option.some.inj read)
      rw [taken] at mark split
      cases mark
      exact ⟨_, .weekday weekday, split⟩
    · cases read

/-- The date reader finds exactly the delimited tokens of the grammar. -/
theorem token?_eq_some_iff (line : List Char) (pattern : DatePattern) (rest : List Char) :
    token? line = some (pattern, rest) ↔
      ∃ text, Spelled text pattern ∧ line = text ++ rest ∧ isDelimited delimiters rest = true := by
  constructor
  · intro read
    obtain ⟨form, listed, found⟩ := List.exists_of_findSome?_eq_some read
    obtain ⟨taken, ended⟩ := (delimited?_eq_some_iff _ _ _ _ _).mp found
    obtain ⟨text, spelled, split⟩ := spelled_of_mem_forms listed taken
    exact ⟨text, spelled, split, ended⟩
  · rintro ⟨text, spelled, rfl, ended⟩
    exact token?_append spelled ended

end Tickler.DatePattern
