import Tickler.Proofs.ReferenceDates

/-!
# The two forms of a reference date

A reference date is given by an ISO text or by a date token, and by nothing else. The attempt
at a token reads the text as a note and is lenient at first: nearly every text is one. What
makes it exact is looked at afterwards. The date has to be full, and neither an offset nor a description
may be left over, so that the token is the whole text.

No text has both forms, because an ISO text has a hyphen in it and a date token has none. The
attempts could be made in the other order, and the day that stands in for today could be any
other: neither the date nor the message would change. An ISO text is not even in part a
shorthand. Read as a note it is all description, since no token ends before its hyphen.
-/

namespace Tickler

/-! ## Date tokens -/

namespace DatePattern

/-- A full date token stands for the date that it names and for no other. -/
theorem resolve_eq_ok_iff_names {text : List Char} {pattern : DatePattern}
    (spelled : Spelled text pattern) (full : pattern.isFull = true) (today date : Date) :
    pattern.resolve today = .ok date ↔ pattern.Names date := by
  constructor
  · intro resolved
    by_cases named : ∃ other, pattern.Names other
    · obtain ⟨other, names⟩ := named
      rw [resolve_of_names spelled names] at resolved
      exact Except.ok.inj resolved ▸ names
    · obtain ⟨year, month, day, refused⟩ := resolve_of_unnamed spelled full named
      rw [refused] at resolved
      cases resolved
  · intro names
    exact resolve_of_names spelled names today

/-- No date token is empty. -/
theorem ne_nil_of_spelled {text : List Char} {pattern : DatePattern}
    (spelled : Spelled text pattern) : text ≠ [] := by
  cases spelled with
  | day dayRun => simp [dayRun.nonempty]
  | _ => simp

/-- A date token has no white space in it, and so does not end in any. -/
theorem visible_of_spelled {text : List Char} {pattern : DatePattern}
    (spelled : Spelled text pattern) :
    ∃ character, text.getLast? = some character ∧ isBlank character = false := by
  have visible : ∀ character ∈ text, isBlank character = false :=
    forall_mem_of_spelled spelled (fun _ => isBlank_of_isDigit) (by decide)
      fun weekday => by cases weekday <;> decide
  have nonempty := ne_nil_of_spelled spelled
  exact ⟨text.getLast nonempty, List.getLast?_eq_some_getLast nonempty,
    visible _ (List.getLast_mem nonempty)⟩

end DatePattern

/-- A note with neither offset nor description whose date is not empty is a date token
alone. -/
theorem Note.spelled_of_read {text : List Char} {note : Note} (done : read text = .ok note)
    (dated : note.date.isEmpty = false) (unmoved : note.offset = none)
    (bare : note.description = []) : DatePattern.Spelled text note.date := by
  obtain ⟨pattern, token, description, divided⟩ := exists_divided text
  rw [read_of_divided divided] at done
  simp only [Attempt.bind_eq_ok_iff, Except.ok.injEq, offsetOf_eq_ok_iff] at done
  obtain ⟨offset, stated, recurrence, -, rfl⟩ := done
  obtain ⟨dateZone, offsetZone⟩ := divided
  obtain rfl : offset = none := unmoved
  obtain rfl : description = [] := bare
  cases stated
  -- The description is all that the date zone left, so an empty one means that the token of
  -- the date is the whole text.
  generalize remaining : ([] : List Char) = rest at offsetZone
  cases offsetZone with
  | absent =>
    cases dateZone with
    | absent => cases dated
    | token spelled =>
      have whole := (leadingRun_append_drop [' ', '+'] text).1
      rw [← remaining, List.append_nil] at whole
      rwa [whole] at spelled

/-- The attempt at a token succeeds with a date exactly if the text is a token that names
it. -/
theorem referenceToken_eq_ok_iff (value : List Char) (date : Date) :
    referenceToken value = .ok date ↔
      ∃ pattern, DatePattern.Spelled value pattern ∧ pattern.Names date := by
  constructor
  · intro done
    simp only [referenceToken] at done
    split at done
    · cases done
    · rename_i note read
      split at done
      · rename_i accepted
        obtain ⟨full, unmoved, bare⟩ := accepted
        have spelled := Note.spelled_of_read read (DatePattern.isEmpty_of_full full) unmoved bare
        cases resolved : note.date.resolve Date.first with
        | error failure =>
          rw [resolved] at done
          cases done
        | ok reached =>
          rw [resolved] at done
          obtain rfl := Except.ok.inj done
          exact ⟨note.date, spelled,
            (DatePattern.resolve_eq_ok_iff_names spelled full _ _).mp resolved⟩
      · cases done
  · rintro ⟨pattern, spelled, names⟩
    exact referenceToken_of_names spelled names

/-- Behind the sign of an offset token there is no hyphen. -/
theorem Offset.hyphen_not_mem_tail_of_spelled {text : List Char} {token : Sign × Measure}
    (spelled : Spelled text token) : '-' ∉ text.tail := by
  cases spelled with
  | @signed sign measureText _ measured =>
    have other : ∀ character ∈ measureText, character ≠ '-' := by
      refine Measure.forall_mem_of_spelled measured ?_ fun period => by cases period <;> decide
      rintro digit decimal rfl
      simp at decimal
    exact fun hyphen => other '-' hyphen rfl

/-! ## ISO texts -/

namespace Iso

variable {text : List Char} {year : Int} {month day : Nat}

/-- An ISO text begins with white space, or with the digits of its year in front of a hyphen,
with or without a sign. -/
theorem Spelled.begins (spelled : Spelled text year month day) :
    (∃ character rest, text = character :: rest ∧ isBlank character = true) ∨
      ∃ digits rest, digits ≠ [] ∧ (∀ digit ∈ digits, digit.isDigit = true) ∧
        (text = digits ++ '-' :: rest ∨
          ∃ sign : Sign, text = sign.letter :: (digits ++ '-' :: rest)) := by
  cases spelled with
  | @numbers yearBlanks _ _ _ _ _ _ beforeYear yearSpelled =>
    cases yearBlanks with
    | cons character others =>
      exact .inl ⟨character, _, rfl, beforeYear character List.mem_cons_self⟩
    | nil =>
      cases yearSpelled with
      | unsigned isRun => exact .inr ⟨_, _, isRun.nonempty, isRun.decimal, .inl rfl⟩
      | signed sign nonempty decimal => exact .inr ⟨_, _, nonempty, decimal, .inr ⟨sign, rfl⟩⟩

/-- An ISO text ends with a digit. -/
theorem Spelled.visible (spelled : Spelled text year month day) :
    ∃ character, text.getLast? = some character ∧ isBlank character = false := by
  cases spelled with
  | @numbers _ _ _ _ _ day _ _ _ _ _ _ dayRun =>
    have last := List.getLast?_eq_some_getLast dayRun.nonempty
    refine ⟨day.getLast dayRun.nonempty, ?_,
      isBlank_of_isDigit (dayRun.decimal _ (List.getLast_mem dayRun.nonempty))⟩
    simp [List.getLast?_append, List.getLast?_cons, last]

/-- A leading run goes on over a hyphen. -/
theorem leadingRun_hyphen {delimiters front : List Char}
    (clean : ∀ character ∈ front, character ∉ delimiters) (other : '-' ∉ delimiters)
    (rest : List Char) :
    leadingRun delimiters (front ++ '-' :: rest) = front ++ '-' :: leadingRun delimiters rest := by
  rw [leadingRun_append_of_clean clean]
  simp [leadingRun, other]

/-- No date token stands at the front of an ISO text. White space and signs begin none, and
what begins with the digits of the year goes on over the hyphen. -/
theorem Spelled.dateZone (spelled : Spelled text year month day) :
    Zone DatePattern.delimiters DatePattern.Spelled text none text := by
  have unread (noToken : DatePattern.token? text = none) :
      Zone DatePattern.delimiters DatePattern.Spelled text none text :=
    (DatePattern.takeToken_eq_iff_zone _ _ _).mp (takeToken_of_eq_none noToken)
  rcases spelled.begins with
    ⟨character, rest, rfl, blank⟩ | ⟨digits, rest, -, decimal, rfl | ⟨sign, rfl⟩⟩
  · have noDigit : character.isDigit = false := by
      apply Bool.eq_false_iff.mpr
      intro digit
      simp [isBlank_of_isDigit digit] at blank
    have noLetter : Weekday.ofLetter? character = none := by
      cases named : Weekday.ofLetter? character with
      | none => rfl
      | some weekday =>
        rw [(Weekday.ofLetter?_eq_some_iff _ weekday).mp named] at blank
        cases weekday <;> simp [Weekday.letter, isBlank] at blank
    exact unread (DatePattern.token?_eq_none (by simpa using ⟨noDigit, noLetter⟩))
  · have clean : ∀ digit ∈ digits, digit ∉ DatePattern.delimiters := fun digit member =>
      not_mem_of_isDigit (decimal digit member) fun character delimiter =>
        (DatePattern.delimiter_other character delimiter).1
    refine .absent fun pattern token => DatePattern.hyphen_not_mem_of_spelled token ?_
    rw [leadingRun_hyphen clean (by decide)]
    simp
  · exact unread (DatePattern.token?_of_sign sign _)

/-- No offset token stands there either. Only a sign begins one, and behind the digits that
follow it there is a hyphen. -/
theorem Spelled.offsetZone (spelled : Spelled text year month day) :
    Zone Offset.delimiters Offset.Spelled text none text := by
  have unread (other : ∀ character ∈ text.head?, ∀ sign : Sign, character ≠ sign.letter) :
      Zone Offset.delimiters Offset.Spelled text none text :=
    (Offset.lead_eq_iff_zone _ _ _).mp
      (Offset.lead_of_unsigned fun character first => Sign.ofLetter?_eq_none (other character first))
  rcases spelled.begins with
    ⟨character, rest, rfl, blank⟩ | ⟨digits, rest, nonempty, decimal, rfl | ⟨sign, rfl⟩⟩
  · have other : ∀ sign : Sign, character ≠ sign.letter := by
      rintro sign rfl
      simp [visible_sign] at blank
    exact unread (by simpa using other)
  · refine unread fun character first sign same => ?_
    subst same
    exact unsigned_run ⟨nonempty, Nat.le_refl _, decimal⟩ _ sign first
  · have clean : ∀ character ∈ sign.letter :: digits, character ∉ Offset.delimiters := by
      refine List.forall_mem_cons.mpr ⟨by cases sign <;> decide, fun digit member => ?_⟩
      exact not_mem_of_isDigit (decimal digit member) fun character delimiter =>
        (Offset.delimiter_other character delimiter).1
    have run := leadingRun_hyphen clean (by decide) rest
    rw [List.cons_append, List.cons_append] at run
    refine .absent fun token offset => Offset.hyphen_not_mem_tail_of_spelled offset ?_
    rw [run]
    simp

/-- Read as a note an ISO text is all description. -/
theorem Spelled.divided (spelled : Spelled text year month day) :
    Note.Divided text none none text :=
  .zones spelled.dateZone spelled.offsetZone

end Iso

/-! ## Both forms together -/

/-- The attempt at a date token on another day than the one that stands in for today. -/
def referenceTokenOn (today : Date) (value : List Char) : Except ReferenceDateFault Date :=
  match Note.read value with
  | .error failure => .error (.failed failure)
  | .ok note =>
      if note.date.isFull ∧ note.offset = none ∧ note.description = [] then
        (note.date.resolve today).mapError .failed
      else .error (.unrecognised value)

/-- The two attempts on another day. -/
def referenceDateOn (today : Date) (value : List Char) : Except ReferenceDateFault Date :=
  match Date.ofIso? value with
  | some date => .ok date
  | none => referenceTokenOn today value

/-- The two attempts on another day and in the other order. The fault is still that of the
attempt at a token. -/
def referenceDateTokenFirst (today : Date) (value : List Char) :
    Except ReferenceDateFault Date :=
  match referenceTokenOn today value with
  | .ok date => .ok date
  | .error fault =>
      match Date.ofIso? value with
      | some date => .ok date
      | none => .error fault

/-- The day that stands in for today has no influence on the attempt at a token. -/
theorem referenceTokenOn_eq (today : Date) (value : List Char) :
    referenceTokenOn today value = referenceToken value := by
  simp only [referenceTokenOn, referenceToken]
  cases Note.read value with
  | error failure => rfl
  | ok note =>
    by_cases accepted : note.date.isFull ∧ note.offset = none ∧ note.description = []
    · simp only [accepted, DatePattern.resolve_of_full accepted.1 today Date.first]
    · simp only [accepted, if_false]

/-- A reference date is accepted in exactly two forms: the date is that of an ISO text, or it
is named by a date token that is the whole text. -/
theorem referenceDate_eq_ok_iff (value : List Char) (date : Date) :
    referenceDate value = .ok date ↔
      Iso.Spelled value date.year date.month date.day ∨
        ∃ pattern, DatePattern.Spelled value pattern ∧ pattern.Names date := by
  rw [← Date.ofIso?_eq_some_iff, ← referenceToken_eq_ok_iff]
  constructor
  · intro done
    simp only [referenceDate] at done
    split at done
    · rename_i other read
      exact .inl (Except.ok.inj done ▸ read)
    · exact .inr done
  · rintro (read | done)
    · simp only [referenceDate, read]
    · obtain ⟨pattern, spelled, names⟩ := (referenceToken_eq_ok_iff value date).mp done
      exact referenceDate_of_names spelled names

/-- No text is both an ISO text and a date token. -/
theorem not_iso_and_token {value : List Char} {year : Int} {month day : Nat}
    {pattern : DatePattern} (spelled : Iso.Spelled value year month day) :
    ¬ DatePattern.Spelled value pattern :=
  fun token => DatePattern.hyphen_not_mem_of_spelled token spelled.hyphen_mem

/-- Where an ISO text is read, the attempt at a token would fail. -/
theorem exists_fault_of_iso {value : List Char} {date : Date}
    (read : Date.ofIso? value = some date) : ∃ fault, referenceToken value = .error fault := by
  cases attempt : referenceToken value with
  | error fault => exact ⟨fault, rfl⟩
  | ok other =>
    obtain ⟨pattern, token, -⟩ := (referenceToken_eq_ok_iff value other).mp attempt
    exact absurd token (not_iso_and_token ((Date.ofIso?_eq_some_iff value date).mp read))

/-- The outcome is the same on whatever day and in whichever order the attempts are made. -/
theorem referenceDate_unmoved (today : Date) (value : List Char) :
    referenceDateOn today value = referenceDate value ∧
      referenceDateTokenFirst today value = referenceDate value := by
  constructor
  · simp only [referenceDateOn, referenceTokenOn_eq]
    rfl
  simp only [referenceDateTokenFirst, referenceTokenOn_eq, referenceDate]
  cases read : Date.ofIso? value with
  | none => cases referenceToken value <;> rfl
  | some date =>
    obtain ⟨fault, failed⟩ := exists_fault_of_iso read
    simp only [failed]

/-- A text that begins with a date token or an offset token is accepted only if it is a full
date and nothing else. -/
theorem accepted_of_divided {value description : List Char} {pattern : Option DatePattern}
    {token : Option (Sign × Measure)} (divided : Note.Divided value pattern token description)
    (shorthand : pattern ≠ none ∨ token ≠ none) {date : Date}
    (accepted : referenceDate value = .ok date) :
    (pattern.getD {}).isFull = true ∧ token = none ∧ description = [] := by
  rcases (referenceDate_eq_ok_iff value date).mp accepted with spelled | ⟨other, spelled, names⟩
  · obtain ⟨rfl, rfl, -⟩ := Note.divided_unique divided spelled.divided
    simp at shorthand
  · obtain ⟨rfl, rfl, rfl⟩ := Note.divided_unique divided (Note.divided_of_spelled spelled)
    exact ⟨names.full, rfl, rfl⟩

/-- What is accepted as a reference date. It has one of two forms and never both: an ISO text
or a full date token, either of which names the date. Neither the order of the two attempts nor
the day that stands in for today has any part in the outcome, be it the date or the fault. The
text does not end in white space, line endings included, and a shorthand that is not full, has
an offset or has a description is refused. -/
theorem referenceDate_exact (value : List Char) :
    (∀ date, referenceDate value = .ok date ↔
      Iso.Spelled value date.year date.month date.day ∨
        ∃ pattern, DatePattern.Spelled value pattern ∧ pattern.Names date) ∧
    ¬ ((∃ year month day, Iso.Spelled value year month day) ∧
      ∃ pattern, DatePattern.Spelled value pattern) ∧
    (∀ today, referenceDateOn today value = referenceDate value ∧
      referenceDateTokenFirst today value = referenceDate value) ∧
    (∀ date, referenceDate value = .ok date →
      ∃ character, value.getLast? = some character ∧ isBlank character = false) ∧
    ∀ pattern token description, Note.Divided value pattern token description →
      pattern ≠ none ∨ token ≠ none →
      (pattern.getD {}).isFull = false ∨ token ≠ none ∨ description ≠ [] →
        ∀ date, referenceDate value ≠ .ok date := by
  refine ⟨referenceDate_eq_ok_iff value, ?_, fun today => referenceDate_unmoved today value, ?_, ?_⟩
  · rintro ⟨⟨year, month, day, spelled⟩, pattern, token⟩
    exact not_iso_and_token spelled token
  · intro date accepted
    rcases (referenceDate_eq_ok_iff value date).mp accepted with spelled | ⟨pattern, token, -⟩
    · exact spelled.visible
    · exact DatePattern.visible_of_spelled token
  · intro pattern token description divided shorthand more date accepted
    obtain ⟨full, unmoved, bare⟩ := accepted_of_divided divided shorthand accepted
    rcases more with partly | moved | described
    · simp [full] at partly
    · exact moved unmoved
    · exact described bare

-- Hyphens make it the year 15, points the year 2015.
example : referenceDate "15-9-6".toList = .ok ⟨15, 9, 6, by decide⟩ ∧
    referenceDate "15.9.6".toList = .ok ⟨2015, 9, 6, by decide⟩ := by decide +kernel

end Tickler
