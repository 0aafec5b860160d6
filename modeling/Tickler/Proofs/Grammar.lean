import Tickler.Note.Note

/-!
# The grammar of tokens

Which texts spell a date pattern, an offset or a recurrence, and where in a text
such a token lies. The rules name the parts of a token in order and say nothing of
how one is found; no reader appears in them.

A zone at the front of a text is decided by its longest run of characters that are
no delimiters. The run is a token as a whole, or the zone is empty and all of the
text remains.
-/

namespace Tickler

variable {α : Type}

/-- At most one letter: nothing at all, or the letter of a meaning. -/
inductive OptionalLetter (letter : α → Char) : List Char → Option α → Prop where
  | absent : OptionalLetter letter [] none
  | present (meaning : α) : OptionalLetter letter [letter meaning] (some meaning)

/-- A date token is `Y.M.D`, `M.D` or `D` with an optional weekday letter behind the
day, or a weekday letter alone. Each number is a run of one or two digits. -/
inductive DatePattern.Spelled : List Char → DatePattern → Prop where
  | yearMonthDay {year month day letter : List Char} {weekday : Option Weekday}
      (yearRun : Decimal.IsRun 2 year) (monthRun : Decimal.IsRun 2 month)
      (dayRun : Decimal.IsRun 2 day) (mark : OptionalLetter Weekday.letter letter weekday) :
      Spelled (year ++ '.' :: (month ++ '.' :: (day ++ letter)))
        ⟨some (Decimal.value year), some (Decimal.value month), some (Decimal.value day), weekday⟩
  | monthDay {month day letter : List Char} {weekday : Option Weekday}
      (monthRun : Decimal.IsRun 2 month) (dayRun : Decimal.IsRun 2 day)
      (mark : OptionalLetter Weekday.letter letter weekday) :
      Spelled (month ++ '.' :: (day ++ letter))
        ⟨none, some (Decimal.value month), some (Decimal.value day), weekday⟩
  | day {day letter : List Char} {weekday : Option Weekday} (dayRun : Decimal.IsRun 2 day)
      (mark : OptionalLetter Weekday.letter letter weekday) :
      Spelled (day ++ letter) ⟨none, none, some (Decimal.value day), weekday⟩
  | weekday (weekday : Weekday) : Spelled [weekday.letter] ⟨none, none, none, some weekday⟩

/-- A measure is any number of digits, none included, and an optional unit letter. -/
inductive Measure.Spelled : List Char → Measure → Prop where
  | digits {digits letter : List Char} {period : Option Period}
      (decimal : ∀ digit ∈ digits, digit.isDigit = true)
      (mark : OptionalLetter Period.letter letter period) :
      Spelled (digits ++ letter) ⟨digits, period⟩

/-- An offset token is a sign and a measure. -/
inductive Offset.Spelled : List Char → Sign × Measure → Prop where
  | signed (sign : Sign) {text : List Char} {measure : Measure}
      (spelled : Measure.Spelled text measure) : Spelled (sign.letter :: text) (sign, measure)

/-- A recurrence token is `+` or `>` and a measure, or `|` with the letter of a
window, a sign, one digit and a weekday letter. -/
inductive RecurrenceToken.Spelled : List Char → RecurrenceToken → Prop where
  | fromToday {text : List Char} {step : Measure} (spelled : Measure.Spelled text step) :
      Spelled ('+' :: text) (.fromToday step)
  | fromDate {text : List Char} {step : Measure} (spelled : Measure.Spelled text step) :
      Spelled ('>' :: text) (.fromDate step)
  | onWeekday (window : Window) (sign : Sign) {digit : Char} (decimal : digit.isDigit = true)
      (weekday : Weekday) :
      Spelled ['|', window.letter, sign.letter, digit, weekday.letter]
        (.onWeekday window (sign.signed (Decimal.value [digit])) weekday)

/-- The amount that a run of digits counts: none without digits, and otherwise its
value, which has to be a 32-bit word: below `UInt32.size`, which is 4294967296. -/
inductive Measure.Counts : List Char → Option Nat → Prop where
  | absent : Counts [] none
  | present {digits : List Char} (typed : digits ≠ []) (fits : Decimal.value digits < UInt32.size) :
      Counts digits (some (Decimal.value digits))

/-- The digits denote a number that no amount can be. Zeros in front do not make a
number larger. -/
def Measure.IsTooLarge (measure : Measure) : Prop :=
  UInt32.size ≤ Decimal.value measure.digits

/-- The offset that an offset zone stands for: that of its token, if it has one. -/
inductive Offset.Stated : Option (Sign × Measure) → Option Offset → Prop where
  | absent : Stated none none
  | present {sign : Sign} {measure : Measure} {amount : Option Nat}
      (counted : Measure.Counts measure.digits amount) :
      Stated (some (sign, measure)) (some ⟨sign, amount, measure.period⟩)

/-- The recurrence that a recurrence token stands for. The offsets lead forward. -/
inductive RecurrenceToken.Stated : RecurrenceToken → Recurrence → Prop where
  | fromToday {step : Measure} {amount : Option Nat}
      (counted : Measure.Counts step.digits amount) :
      Stated (.fromToday step) (.fromToday ⟨.plus, amount, step.period⟩)
  | fromDate {step : Measure} {amount : Option Nat}
      (counted : Measure.Counts step.digits amount) :
      Stated (.fromDate step) (.fromDate ⟨.plus, amount, step.period⟩)
  | onWeekday (window : Window) (ordinal : Int) (weekday : Weekday) :
      Stated (.onWeekday window ordinal weekday) (.onWeekday window ordinal weekday)

/-- The longest run of characters at the front of a text that are no delimiters. -/
def leadingRun (delimiters text : List Char) : List Char :=
  text.takeWhile fun character => !delimiters.contains character

/-- What a zone at the front of a text holds, and what remains of the text. -/
inductive Zone (delimiters : List Char) (Spelled : List Char → α → Prop) (text : List Char) :
    Option α → List Char → Prop where
  | token {meaning : α} (spelled : Spelled (leadingRun delimiters text) meaning) :
      Zone delimiters Spelled text (some meaning)
        (text.drop (leadingRun delimiters text).length)
  | absent (unspelled : ∀ meaning, ¬ Spelled (leadingRun delimiters text) meaning) :
      Zone delimiters Spelled text none text

/-- What remains behind a zone is the end of the text. -/
theorem Zone.suffix {delimiters text rest : List Char} {Spelled : List Char → α → Prop}
    {found : Option α} (zone : Zone delimiters Spelled text found rest) : rest <:+ text := by
  cases zone with
  | token spelled => exact List.drop_suffix _ text
  | absent unspelled => exact List.suffix_refl text

/-- What follows an optional letter is what can begin with the letter or with the
text behind it. -/
theorem OptionalLetter.head?_append {letter : α → Char} {mark rest : List Char}
    {meaning : Option α} {P : Char → Prop} (spelled : OptionalLetter letter mark meaning)
    (letters : ∀ meaning, P (letter meaning)) (follows : ∀ character ∈ rest.head?, P character) :
    ∀ character ∈ (mark ++ rest).head?, P character := by
  cases spelled with
  | absent => exact follows
  | present meaning =>
    intro character first
    have same : letter meaning = character := Option.some.inj first
    exact same ▸ letters meaning

/-- Every character of an optional letter is such a letter. -/
theorem OptionalLetter.forall_mem {letter : α → Char} {mark : List Char} {meaning : Option α}
    {P : Char → Prop} (spelled : OptionalLetter letter mark meaning)
    (letters : ∀ meaning, P (letter meaning)) : ∀ character ∈ mark, P character := by
  cases spelled with
  | absent => simp
  | present meaning => simpa using letters meaning

/-- A text is its leading run and a rest that is delimited. -/
theorem leadingRun_append_drop (delimiters text : List Char) :
    leadingRun delimiters text ++ text.drop (leadingRun delimiters text).length = text ∧
      isDelimited delimiters (text.drop (leadingRun delimiters text).length) = true := by
  induction text with
  | nil => exact ⟨rfl, rfl⟩
  | cons character others inductionHypothesis =>
    by_cases inside : character ∈ delimiters
    · simp [leadingRun, isDelimited, inside]
    · simpa [leadingRun, inside] using inductionHypothesis

/-- No digit is among delimiters that are no digits. -/
theorem not_mem_of_isDigit {delimiters : List Char} {digit : Char} (decimal : digit.isDigit = true)
    (other : ∀ character ∈ delimiters, character.isDigit = false) : digit ∉ delimiters := by
  intro delimiter
  rw [other digit delimiter] at decimal
  cases decimal

/-- A clean text is part of the leading run. -/
theorem leadingRun_append_of_clean {delimiters run : List Char}
    (clean : ∀ character ∈ run, character ∉ delimiters) (rest : List Char) :
    leadingRun delimiters (run ++ rest) = run ++ leadingRun delimiters rest := by
  apply List.takeWhile_append_of_pos
  intro character member
  simpa using clean character member

/-- A clean text in front of a delimited rest is the leading run. -/
theorem leadingRun_append {delimiters run rest : List Char}
    (clean : ∀ character ∈ run, character ∉ delimiters)
    (ended : isDelimited delimiters rest = true) :
    leadingRun delimiters (run ++ rest) = run := by
  have stop : leadingRun delimiters rest = [] := by
    cases rest with
    | nil => rfl
    | cons character others =>
      have delimiter : character ∈ delimiters := (isDelimited_iff delimiters _).mp ended _ rfl
      simp [leadingRun, delimiter]
  rw [leadingRun_append_of_clean clean, stop, List.append_nil]

section Reader

variable {delimiters : List Char} {Spelled : List Char → α → Prop}
  {read? : List Char → Option (α × List Char)}

/-- A reader that finds exactly the delimited tokens of a grammar reads the leading run of
a text. A clean token that is delimited is the whole leading run, so no other split of the
text can hold one. -/
theorem read?_eq_some_iff_leadingRun
    (clean : ∀ token meaning, Spelled token meaning → ∀ character ∈ token, character ∉ delimiters)
    (exact : ∀ text meaning rest, read? text = some (meaning, rest) ↔
      ∃ token, Spelled token meaning ∧ text = token ++ rest ∧ isDelimited delimiters rest = true)
    (text : List Char) (meaning : α) (rest : List Char) :
    read? text = some (meaning, rest) ↔
      Spelled (leadingRun delimiters text) meaning ∧
        text.drop (leadingRun delimiters text).length = rest := by
  rw [exact]
  constructor
  · rintro ⟨token, spelled, rfl, ended⟩
    rw [leadingRun_append (clean token meaning spelled) ended]
    exact ⟨spelled, List.drop_left⟩
  · rintro ⟨spelled, rfl⟩
    obtain ⟨split, ended⟩ := leadingRun_append_drop delimiters text
    exact ⟨_, spelled, split.symm, ended⟩

/-- Such a reader decides the zone at the front of every text. -/
theorem takeToken_eq_iff
    (clean : ∀ token meaning, Spelled token meaning → ∀ character ∈ token, character ∉ delimiters)
    (exact : ∀ text meaning rest, read? text = some (meaning, rest) ↔
      ∃ token, Spelled token meaning ∧ text = token ++ rest ∧ isDelimited delimiters rest = true)
    (text : List Char) (found : Option α) (rest : List Char) :
    takeToken read? text = (found, rest) ↔ Zone delimiters Spelled text found rest := by
  have readIff := read?_eq_some_iff_leadingRun clean exact text
  constructor
  · intro taken
    cases read : read? text with
    | none =>
      obtain ⟨rfl, rfl⟩ := Prod.mk.inj ((takeToken_of_eq_none read).symm.trans taken)
      apply Zone.absent
      intro meaning spelled
      have found := (readIff meaning _).mpr ⟨spelled, rfl⟩
      simp [found] at read
    | some result =>
      obtain ⟨rfl, rfl⟩ := Prod.mk.inj ((takeToken_of_eq_some read).symm.trans taken)
      obtain ⟨spelled, remains⟩ := (readIff result.1 result.2).mp read
      exact remains ▸ .token spelled
  · intro held
    cases held with
    | token spelled => exact takeToken_of_eq_some ((readIff _ _).mpr ⟨spelled, rfl⟩)
    | absent unspelled =>
      apply takeToken_of_eq_none
      cases read : read? text with
      | none => rfl
      | some result => exact absurd ((readIff result.1 result.2).mp read).1 (unspelled result.1)

end Reader

/-- All characters that may follow a token have a property that the delimiters have. -/
theorem forall_head?_of_isDelimited {delimiters rest : List Char} {P : Char → Prop}
    (ended : isDelimited delimiters rest = true)
    (every : ∀ character ∈ delimiters, P character) : ∀ character ∈ rest.head?, P character :=
  fun character first => every character ((isDelimited_iff delimiters rest).mp ended character first)

/-- An optional letter is taken off as a whole when none of its kind follows. -/
theorem takeLetter_append {meaning? : Char → Option α} {letter : α → Char}
    (named : ∀ character meaning, meaning? character = some meaning ↔ character = letter meaning)
    {mark rest : List Char} {meaning : Option α} (spelled : OptionalLetter letter mark meaning)
    (stopped : ∀ character ∈ rest.head?, meaning? character = none) :
    takeLetter meaning? (mark ++ rest) = (meaning, rest) := by
  cases spelled with
  | absent =>
    cases rest with
    | nil => rfl
    | cons character others => simp [takeLetter, stopped character rfl]
  | present meaning => simp [takeLetter, (named _ meaning).mpr rfl]

/-- What is taken off is an optional letter, and the rest is what stands behind it. -/
theorem exists_mark_of_takeLetter {meaning? : Char → Option α} {letter : α → Char}
    (named : ∀ character meaning, meaning? character = some meaning ↔ character = letter meaning)
    (text : List Char) :
    ∃ mark, OptionalLetter letter mark (takeLetter meaning? text).1 ∧
      text = mark ++ (takeLetter meaning? text).2 := by
  cases text with
  | nil => exact ⟨[], .absent, rfl⟩
  | cons character others =>
    cases meant : meaning? character with
    | none => exact ⟨[], by simpa [takeLetter, meant] using .absent, by simp [takeLetter, meant]⟩
    | some meaning =>
      have same : character = letter meaning := (named character meaning).mp meant
      subst same
      exact ⟨[letter meaning], by simpa [takeLetter, meant] using .present meaning,
        by simp [takeLetter, meant]⟩

end Tickler
