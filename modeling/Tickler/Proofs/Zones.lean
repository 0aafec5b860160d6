import Tickler.Proofs.DateReading
import Tickler.Proofs.MeasureReading

/-!
# The zones of a line

A line is a date zone, an offset zone directly behind it, and the description. The
zones are those of the grammar, and a note is read from them without loss: the
description is all that the zones leave, and an amount is the only thing that can
be refused, the offset's first.
-/

namespace Tickler

namespace Measure

/-- An amount is accepted exactly when its digits count one. -/
theorem amount_eq_ok_iff (measure : Measure) (amount : Option Nat) :
    measure.amount = .ok amount ↔ Counts measure.digits amount := by
  simp only [Measure.amount]
  constructor
  · intro accepted
    split at accepted
    · rename_i untyped
      obtain rfl := Except.ok.inj accepted
      exact untyped ▸ .absent
    · rename_i typed
      split at accepted
      · rename_i fits
        obtain rfl := Except.ok.inj accepted
        exact .present typed fits
      · cases accepted
  · intro counted
    generalize measure.digits = digits at counted
    cases counted with
    | absent => rfl
    | present typed fits => rw [if_neg typed, if_pos fits]

/-- An amount is refused exactly when it is too large, and its digits are named. -/
theorem amount_eq_error_iff (measure : Measure) (failure : Failure) :
    measure.amount = .error failure ↔
      measure.IsTooLarge ∧ failure = .amountTooLarge measure.digits := by
  simp only [Measure.amount, Measure.IsTooLarge]
  split
  · rename_i untyped
    have small : ¬ UInt32.size ≤ Decimal.value measure.digits := untyped ▸ by decide
    simp only [small, false_and, reduceCtorEq]
  · split
    · rename_i fits
      simp only [Nat.not_le.mpr fits, false_and, reduceCtorEq]
    · rename_i large
      rw [Except.error.injEq, eq_comm, and_iff_right (Nat.not_lt.mp large)]

/-- The offset by a measure has its amount, its period and the given sign. -/
theorem offset_eq_ok_iff (measure : Measure) (sign : Sign) (offset : Offset) :
    measure.offset sign = .ok offset ↔
      ∃ amount, Counts measure.digits amount ∧ ⟨sign, amount, measure.period⟩ = offset := by
  simp only [Measure.offset, Attempt.map_eq_ok_iff, amount_eq_ok_iff]

/-- The offset by a measure is refused exactly when its amount is. -/
theorem offset_eq_error_iff (measure : Measure) (sign : Sign) (failure : Failure) :
    measure.offset sign = .error failure ↔
      measure.IsTooLarge ∧ failure = .amountTooLarge measure.digits := by
  simp only [Measure.offset, Attempt.map_eq_error_iff, amount_eq_error_iff]

end Measure

/-- The date zone of a line is read as the grammar has it. -/
theorem DatePattern.takeToken_eq_iff_zone (line : List Char) (found : Option DatePattern)
    (rest : List Char) :
    takeToken token? line = (found, rest) ↔ Zone delimiters Spelled line found rest :=
  takeToken_eq_iff clean_of_spelled token?_eq_some_iff line found rest

/-- The offset zone behind it is read as the grammar has it. -/
theorem Offset.lead_eq_iff_zone (text : List Char) (found : Option (Sign × Measure))
    (rest : List Char) :
    lead text = (found, rest) ↔ Zone delimiters Spelled text found rest :=
  takeToken_eq_iff clean_of_spelled signed?_eq_some_iff text found rest

namespace Note

/-- An offset is accepted exactly when it is the one stated. -/
theorem offsetOf_eq_ok_iff (token : Option (Sign × Measure)) (offset : Option Offset) :
    offsetOf token = .ok offset ↔ Offset.Stated token offset := by
  cases token with
  | none =>
    constructor
    · intro accepted
      obtain rfl := Except.ok.inj accepted
      exact .absent
    · rintro ⟨⟩
      rfl
  | some token =>
    simp only [offsetOf, Attempt.map_eq_ok_iff, Measure.offset_eq_ok_iff]
    constructor
    · rintro ⟨_, ⟨amount, counted, rfl⟩, rfl⟩
      exact .present counted
    · rintro ⟨⟩
      rename_i counted
      exact ⟨_, ⟨_, counted, rfl⟩, rfl⟩

/-- An offset is refused exactly when its amount is too large. -/
theorem offsetOf_eq_error_iff (token : Option (Sign × Measure)) (failure : Failure) :
    offsetOf token = .error failure ↔
      ∃ sign measure, token = some (sign, measure) ∧ measure.IsTooLarge ∧
        failure = .amountTooLarge measure.digits := by
  cases token with
  | none => simp [offsetOf]
  | some token =>
    simp only [offsetOf, Attempt.map_eq_error_iff, Measure.offset_eq_error_iff]
    constructor
    · rintro ⟨large, rfl⟩
      exact ⟨token.1, token.2, rfl, large, rfl⟩
    · rintro ⟨sign, measure, same, large, rfl⟩
      obtain rfl := Option.some.inj same
      exact ⟨large, rfl⟩

/-- A line together with what its date zone and its offset zone hold and with the
description behind them. -/
inductive Divided (line : List Char) :
    Option DatePattern → Option (Sign × Measure) → List Char → Prop where
  | zones {pattern : Option DatePattern} {token : Option (Sign × Measure)}
      {afterDate description : List Char}
      (dateZone : Zone [' ', '+'] DatePattern.Spelled line pattern afterDate)
      (offsetZone : Zone [' '] Offset.Spelled afterDate token description) :
      Divided line pattern token description

/-- The readers divide a line as the grammar does. -/
theorem divided_iff (line : List Char) (pattern : Option DatePattern)
    (token : Option (Sign × Measure)) (description : List Char) :
    Divided line pattern token description ↔
      (takeToken DatePattern.token? line).1 = pattern ∧
        Offset.lead (takeToken DatePattern.token? line).2 = (token, description) := by
  constructor
  · rintro ⟨dateZone, offsetZone⟩
    rw [(DatePattern.takeToken_eq_iff_zone line _ _).mpr dateZone]
    exact ⟨rfl, (Offset.lead_eq_iff_zone _ _ _).mpr offsetZone⟩
  · rintro ⟨rfl, read⟩
    exact .zones ((DatePattern.takeToken_eq_iff_zone line _ _).mp rfl)
      ((Offset.lead_eq_iff_zone _ _ _).mp read)

/-- A line is read as its division says: the amounts are the only obstacles. -/
theorem read_of_divided {line description : List Char} {pattern : Option DatePattern}
    {token : Option (Sign × Measure)} (divided : Divided line pattern token description) :
    read line = (do
      let offset ← offsetOf token
      let recurrence ← recurrenceOf description
      .ok { date := pattern.getD {}, offset, recurrence, description }) := by
  obtain ⟨dateRead, offsetRead⟩ := (divided_iff line pattern token description).mp divided
  simp only [read, DatePattern.lead, dateRead, offsetRead]

/-- Every line has a division. -/
theorem exists_divided (line : List Char) :
    ∃ pattern token description, Divided line pattern token description :=
  ⟨_, _, _, (divided_iff line _ _ _).mpr ⟨rfl, rfl⟩⟩

/-- A line has one division only. -/
theorem divided_unique {line description other : List Char} {pattern pattern' : Option DatePattern}
    {token token' : Option (Sign × Measure)} (left : Divided line pattern token description)
    (right : Divided line pattern' token' other) :
    pattern = pattern' ∧ token = token' ∧ description = other := by
  obtain ⟨rfl, leftRead⟩ := (divided_iff line pattern token description).mp left
  obtain ⟨rfl, rightRead⟩ := (divided_iff line pattern' token' other).mp right
  have same : (token, description) = (token', other) := leftRead.symm.trans rightRead
  exact ⟨rfl, Prod.mk.inj same⟩

/-- A description is the end of its line. -/
theorem description_suffix_of_read {line : List Char} {note : Note} (done : read line = .ok note) :
    note.description <:+ line := by
  obtain ⟨pattern, token, description, divided⟩ := exists_divided line
  rw [read_of_divided divided] at done
  simp only [Attempt.bind_eq_ok_iff, Except.ok.injEq] at done
  obtain ⟨offset, _, recurrence, _, rfl⟩ := done
  obtain ⟨dateZone, offsetZone⟩ := divided
  exact offsetZone.suffix.trans dateZone.suffix

/-- The notes that are read are exactly those that the grammar gives, and the failures
are exactly its amounts that are too large. Of a line, the date zone is the longest run
in front of a space or a plus sign and the offset zone the longest run in front of a
space, each taken as a whole token or not at all; the description is what they leave.

Both directions go through the division of the line: it exists, it is the only one,
and reading follows it. -/
theorem read_iff_divided (line : List Char) :
    (∀ note, read line = .ok note ↔
      ∃ pattern token, Divided line pattern token note.description ∧
        note.date = pattern.getD {} ∧ Offset.Stated token note.offset ∧
        recurrenceOf note.description = .ok note.recurrence) ∧
    (∀ failure, read line = .error failure ↔
      ∃ pattern token description, Divided line pattern token description ∧
        ((∃ sign measure, token = some (sign, measure) ∧ measure.IsTooLarge ∧
            failure = .amountTooLarge measure.digits) ∨
          ((∃ offset, Offset.Stated token offset) ∧
            recurrenceOf description = .error failure))) := by
  obtain ⟨pattern, token, description, divided⟩ := exists_divided line
  rw [read_of_divided divided]
  constructor
  · intro note
    simp only [Attempt.bind_eq_ok_iff, offsetOf_eq_ok_iff, Except.ok.injEq]
    constructor
    · rintro ⟨offset, stated, recurrence, found, rfl⟩
      exact ⟨pattern, token, divided, rfl, stated, found⟩
    · rintro ⟨pattern', token', other, dated, stated, found⟩
      obtain ⟨rfl, rfl, rfl⟩ := divided_unique divided other
      exact ⟨note.offset, stated, note.recurrence, found, by rw [← dated]⟩
  · intro failure
    simp only [Attempt.bind_eq_error_iff, offsetOf_eq_error_iff, offsetOf_eq_ok_iff]
    constructor
    · rintro (large | ⟨offset, stated, refused | ⟨recurrence, found, impossible⟩⟩)
      · exact ⟨pattern, token, description, divided, .inl large⟩
      · exact ⟨pattern, token, description, divided, .inr ⟨⟨offset, stated⟩, refused⟩⟩
      · cases impossible
    · rintro ⟨pattern', token', description', other, large | ⟨⟨offset, stated⟩, refused⟩⟩
      · obtain ⟨rfl, rfl, rfl⟩ := divided_unique divided other
        exact .inl large
      · obtain ⟨rfl, rfl, rfl⟩ := divided_unique divided other
        exact .inr ⟨offset, stated, .inl refused⟩

end Note

end Tickler
