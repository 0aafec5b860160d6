import Tickler.Proofs.Grammar

/-!
# Reading offsets and recurrences

An offset token and two of the three recurrence tokens end with a measure, whose
digits and unit letter are taken as far as they go. What delimits such a token is
neither a digit nor a unit letter, so a delimited token is read to its end, and
there is no second way to divide it into digits and letter.
-/

namespace Tickler

namespace Measure

variable {text rest : List Char} {measure : Measure}

/-- A unit letter is no digit. -/
theorem period_letter_other (period : Period) : period.letter.isDigit = false := by
  cases period <;> decide

/-- A measure is read to its end when neither a digit nor a unit letter follows. -/
theorem lead_append (spelled : Spelled text measure)
    (other : ∀ character ∈ rest.head?,
      character.isDigit = false ∧ Period.ofLetter? character = none) :
    lead (text ++ rest) = (measure, rest) := by
  cases spelled with
  | @digits digits letter period decimal mark =>
    have stopped : ∀ character ∈ (letter ++ rest).head?, character.isDigit = false :=
      mark.head?_append period_letter_other fun character first => (other character first).1
    have marked : takeLetter Period.ofLetter? (letter ++ rest) = (period, rest) :=
      takeLetter_append Period.ofLetter?_eq_some_iff mark
        fun character first => (other character first).2
    have kept : (letter ++ rest).takeWhile Char.isDigit = [] ∧
        (letter ++ rest).dropWhile Char.isDigit = letter ++ rest := by
      cases following : letter ++ rest with
      | nil => exact ⟨rfl, rfl⟩
      | cons character others => simp [stopped character (by simp [following])]
    rw [List.append_assoc]
    simp [lead, List.takeWhile_append_of_pos decimal, List.dropWhile_append_of_pos decimal,
      kept, marked]

/-- What is read of any text is a measure, and the rest is what stands behind it. -/
theorem spelled_of_lead (text : List Char) :
    ∃ token, Spelled token (lead text).1 ∧ text = token ++ (lead text).2 := by
  obtain ⟨letter, mark, split⟩ :=
    exists_mark_of_takeLetter Period.ofLetter?_eq_some_iff (text.dropWhile Char.isDigit)
  have decimal : ∀ digit ∈ text.takeWhile Char.isDigit, digit.isDigit = true :=
    fun _ member => List.all_eq_true.mp List.all_takeWhile _ member
  refine ⟨text.takeWhile Char.isDigit ++ letter, .digits decimal mark, ?_⟩
  calc text = text.takeWhile Char.isDigit ++ text.dropWhile Char.isDigit :=
        List.takeWhile_append_dropWhile.symm
    _ = text.takeWhile Char.isDigit ++ (letter ++ (lead text).2) := congrArg _ split
    _ = text.takeWhile Char.isDigit ++ letter ++ (lead text).2 := (List.append_assoc _ _ _).symm

/-- A measure holds no character that is neither a digit nor a unit letter. -/
theorem forall_mem_of_spelled {P : Char → Prop} (spelled : Spelled text measure)
    (digits : ∀ digit, digit.isDigit = true → P digit) (letters : ∀ period : Period, P period.letter) :
    ∀ character ∈ text, P character := by
  cases spelled with
  | digits decimal mark =>
    intro character member
    rcases List.mem_append.mp member with inDigits | inLetter
    · exact digits character (decimal character inDigits)
    · exact mark.forall_mem letters character inLetter

end Measure

namespace Offset

/-- A delimiter of an offset token is neither a digit nor a unit letter. -/
theorem delimiter_other : ∀ character ∈ delimiters,
    character.isDigit = false ∧ Period.ofLetter? character = none := by
  simp [delimiters, Period.ofLetter?]

/-- The offset reader finds exactly the delimited tokens of the grammar. -/
theorem signed?_eq_some_iff (text : List Char) (token : Sign × Measure) (rest : List Char) :
    delimited? delimiters signed? text = some (token, rest) ↔
      ∃ run, Spelled run token ∧ text = run ++ rest ∧ isDelimited delimiters rest = true := by
  rw [delimited?_eq_some_iff]
  constructor
  · rintro ⟨read, ended⟩
    obtain ⟨mark, signed, split⟩ := exists_mark_of_takeLetter Sign.ofLetter?_eq_some_iff text
    simp only [signed?] at read
    split at read
    · rename_i sign afterSign taken
      obtain ⟨rfl, rfl⟩ := Prod.mk.inj (Option.some.inj read)
      obtain ⟨run, spelled, remains⟩ := Measure.spelled_of_lead afterSign
      rw [taken] at signed split
      cases signed
      exact ⟨_, .signed sign spelled, split.trans (congrArg (sign.letter :: ·) remains), ended⟩
    · cases read
  · rintro ⟨run, spelled, rfl, ended⟩
    cases spelled with
    | signed sign spelled =>
      have named : Sign.ofLetter? sign.letter = some sign :=
        (Sign.ofLetter?_eq_some_iff _ sign).mpr rfl
      have measured := Measure.lead_append spelled (forall_head?_of_isDelimited ended delimiter_other)
      exact ⟨by simp [signed?, takeLetter, named, measured], ended⟩

/-- No offset token begins with a character that is no sign. -/
theorem lead_of_unsigned {text : List Char}
    (other : ∀ character ∈ text.head?, Sign.ofLetter? character = none) :
    lead text = (none, text) := by
  cases text with
  | nil => rfl
  | cons character others =>
    have unsigned : Sign.ofLetter? character = none := other character rfl
    exact takeToken_of_eq_none (by simp [delimited?, signed?, takeLetter, unsigned])

/-- No delimiter stands inside an offset token. -/
theorem clean_of_spelled (run : List Char) (token : Sign × Measure) (spelled : Spelled run token) :
    ∀ character ∈ run, character ∉ delimiters := by
  cases spelled with
  | @signed sign text measure spelled =>
    have inMeasure : ∀ character ∈ text, character ∉ delimiters :=
      Measure.forall_mem_of_spelled spelled
        (fun digit decimal member => by simp_all [delimiters])
        (fun period => by cases period <;> decide)
    have inSign : sign.letter ∉ delimiters := by cases sign <;> decide
    simp_all

end Offset

namespace RecurrenceToken

/-- A delimiter of a recurrence token is neither a digit nor a unit letter. -/
theorem delimiter_other : ∀ character ∈ delimiters,
    character.isDigit = false ∧ Period.ofLetter? character = none := by
  simp [delimiters, Period.ofLetter?]

/-- A recurrence token is read to its end when it is delimited. -/
theorem lead?_append {run rest : List Char} {token : RecurrenceToken} (spelled : Spelled run token)
    (ended : isDelimited delimiters rest = true) : lead? (run ++ rest) = some (token, rest) := by
  have other := forall_head?_of_isDelimited ended delimiter_other
  cases spelled with
  | fromToday spelled => simp [lead?, Measure.lead_append spelled other]
  | fromDate spelled => simp [lead?, Measure.lead_append spelled other]
  | onWeekday window sign decimal weekday =>
    simp [lead?, ordinal?, decimal, (Window.ofLetter?_eq_some_iff _ window).mpr rfl,
      (Sign.ofLetter?_eq_some_iff _ sign).mpr rfl, Weekday.ofLetter?_letter weekday]

/-- Whatever is read is a recurrence token, and the rest is what stands behind it. -/
theorem spelled_of_lead? {text rest : List Char} {token : RecurrenceToken}
    (read : lead? text = some (token, rest)) : ∃ run, Spelled run token ∧ text = run ++ rest := by
  simp only [lead?] at read
  split at read
  · rename_i measureText
    obtain ⟨rfl, rfl⟩ := Prod.mk.inj (Option.some.inj read)
    obtain ⟨run, spelled, split⟩ := Measure.spelled_of_lead measureText
    exact ⟨_, .fromToday spelled, congrArg _ split⟩
  · rename_i measureText
    obtain ⟨rfl, rfl⟩ := Prod.mk.inj (Option.some.inj read)
    obtain ⟨run, spelled, split⟩ := Measure.spelled_of_lead measureText
    exact ⟨_, .fromDate spelled, congrArg _ split⟩
  · simp only [ordinal?, Option.bind_eq_bind, Option.bind_eq_some_iff, Option.some.injEq,
      Prod.mk.injEq, Window.ofLetter?_eq_some_iff, Sign.ofLetter?_eq_some_iff,
      Weekday.ofLetter?_eq_some_iff, Option.ite_none_right_eq_some] at read
    obtain ⟨window, rfl, ordinal, ⟨sign, rfl, decimal, rfl⟩, weekday, rfl, rfl, rfl⟩ := read
    exact ⟨_, .onWeekday window sign decimal weekday, rfl⟩
  · cases read

/-- The recurrence reader finds exactly the delimited tokens of the grammar. -/
theorem lead?_eq_some_iff (text : List Char) (token : RecurrenceToken) (rest : List Char) :
    delimited? delimiters lead? text = some (token, rest) ↔
      ∃ run, Spelled run token ∧ text = run ++ rest ∧ isDelimited delimiters rest = true := by
  rw [delimited?_eq_some_iff]
  constructor
  · rintro ⟨read, ended⟩
    obtain ⟨run, spelled, split⟩ := spelled_of_lead? read
    exact ⟨run, spelled, split, ended⟩
  · rintro ⟨run, spelled, rfl, ended⟩
    exact ⟨lead?_append spelled ended, ended⟩

end RecurrenceToken

end Tickler
