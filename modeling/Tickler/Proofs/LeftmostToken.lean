import Tickler.Proofs.Zones

/-!
# The leftmost recurrence token

A recurrence token stands at a position of a description if it may begin there, the
text goes on with a token of the grammar, and a closing character or the end is
behind it. The scan looks at one position after the other and returns the token of
the first that has one. No position is skipped: the openers that it passes are part
of no token in front of them, and at each position at most one token stands, so
there is nothing to choose between.

A description is only looked at. What a note keeps of it is the text that was
scanned.
-/

namespace Tickler.RecurrenceToken

/-- A recurrence token may begin at the start of a text and behind an opener. -/
def MayBegin (text : List Char) : Nat → Prop
  | 0 => True
  | before + 1 => text[before]? = some ' ' ∨ text[before]? = some '('

/-- A delimited recurrence token stands at a position of a text. -/
structure StandsAt (text : List Char) (position : Nat) (run : List Char)
    (token : RecurrenceToken) : Prop where
  opened : MayBegin text position
  spelled : Spelled run token
  present : run <+: text.drop position
  closed : ∀ character ∈ text[position + run.length]?, character = ' ' ∨ character = ')'

/-- The token stands at a position, and none stands further to the left. -/
structure IsLeftmost (text : List Char) (position : Nat) (run : List Char)
    (token : RecurrenceToken) : Prop where
  stands : StandsAt text position run token
  first : ∀ earlier < position, ∀ run token, ¬ StandsAt text earlier run token

/-- A token at the front of a text is a run of the grammar with a delimited rest. -/
theorem atFront?_eq_some_iff (text : List Char) (token : RecurrenceToken) :
    atFront? text = some token ↔
      ∃ run rest, Spelled run token ∧ text = run ++ rest ∧ isDelimited delimiters rest = true := by
  simp only [atFront?, Option.map_eq_some_iff]
  constructor
  · rintro ⟨⟨_, rest⟩, read, rfl⟩
    obtain ⟨run, split⟩ := (lead?_eq_some_iff text _ rest).mp read
    exact ⟨run, rest, split⟩
  · rintro ⟨run, rest, split⟩
    exact ⟨(token, rest), (lead?_eq_some_iff text token rest).mpr ⟨run, split⟩, rfl⟩

/-- What follows a run is a closing character or the end when the rest behind the run is
delimited. -/
theorem isDelimited_iff_closed {text run rest : List Char} {position : Nat}
    (split : run ++ rest = text.drop position) :
    isDelimited delimiters rest = true ↔
      ∀ character ∈ text[position + run.length]?, character = ' ' ∨ character = ')' := by
  have following : text[position + run.length]? = rest.head? := by
    rw [← List.getElem?_drop, ← split, List.getElem?_append_right (Nat.le_refl _), Nat.sub_self,
      List.head?_eq_getElem?]
  rw [isDelimited_iff, following]
  simp [delimiters]

/-- A token stands at a position when it may begin there and is read at the front of
what is left of the text. -/
theorem exists_standsAt_iff (text : List Char) (position : Nat) (token : RecurrenceToken) :
    (∃ run, StandsAt text position run token) ↔
      MayBegin text position ∧ atFront? (text.drop position) = some token := by
  rw [atFront?_eq_some_iff]
  constructor
  · rintro ⟨run, opened, spelled, ⟨rest, split⟩, closed⟩
    exact ⟨opened, run, rest, spelled, split.symm, (isDelimited_iff_closed split).mpr closed⟩
  · rintro ⟨opened, run, rest, spelled, split, ended⟩
    exact ⟨run, opened, spelled, ⟨rest, split.symm⟩, (isDelimited_iff_closed split.symm).mp ended⟩

/-- At one position stands at most one token, spelled in one way. -/
theorem standsAt_unique {text run run' : List Char} {position : Nat}
    {token token' : RecurrenceToken} (left : StandsAt text position run token)
    (right : StandsAt text position run' token') : run = run' ∧ token = token' := by
  obtain ⟨_, spelled, ⟨rest, split⟩, closed⟩ := left
  obtain ⟨_, spelled', ⟨rest', split'⟩, closed'⟩ := right
  have read := (lead?_eq_some_iff (text.drop position) token rest).mpr
    ⟨run, spelled, split.symm, (isDelimited_iff_closed split).mpr closed⟩
  have read' := (lead?_eq_some_iff (text.drop position) token' rest').mpr
    ⟨run', spelled', split'.symm, (isDelimited_iff_closed split').mpr closed'⟩
  obtain ⟨sameToken, sameRest⟩ := Prod.mk.inj (Option.some.inj (read.symm.trans read'))
  subst sameRest
  exact ⟨List.append_cancel_right (split.trans split'.symm), sameToken⟩

/-- No token stands at or behind the end of a text, since each has a character. -/
theorem not_standsAt_of_length_le {text run : List Char} {position : Nat}
    {token : RecurrenceToken} (outside : text.length ≤ position) :
    ¬ StandsAt text position run token := by
  intro stands
  have vacant : run = [] := by
    simpa [List.drop_eq_nil_of_le outside] using stands.present
  have spelled := stands.spelled
  rw [vacant] at spelled
  cases spelled

/-- The flag of a scan is right when it says whether a token may begin where the scan is. -/
theorem mayBegin_step (before : List Char) (character : Char) (rest : List Char) :
    openers.contains character = true ↔
      MayBegin (before ++ character :: rest) (before.length + 1) := by
  simp [MayBegin, openers]

/-- A token stands at a position from `start` on, and none stands in between. -/
def IsFirstFrom (text : List Char) (start : Nat) (token : RecurrenceToken) : Prop :=
  ∃ position run, start ≤ position ∧ StandsAt text position run token ∧
    ∀ earlier, start ≤ earlier → earlier < position → ∀ run token, ¬ StandsAt text earlier run token

/-- A token that stands at the very start is the first from there on, and the only first. -/
theorem isFirstFrom_iff_of_standsAt {text run : List Char} {start : Nat} {here : RecurrenceToken}
    (stands : StandsAt text start run here) (token : RecurrenceToken) :
    IsFirstFrom text start token ↔ here = token := by
  constructor
  · rintro ⟨position, run', behind, stands', nothing⟩
    rcases Nat.lt_or_eq_of_le behind with further | rfl
    · exact absurd stands (nothing start (Nat.le_refl _) further run here)
    · exact (standsAt_unique stands stands').2
  · rintro rfl
    refine ⟨start, run, Nat.le_refl _, stands, ?_⟩
    intro earlier behind ahead
    exact absurd ahead (Nat.not_lt.mpr behind)

/-- Where no token stands at the start, the search may go on behind it. -/
theorem isFirstFrom_iff_succ {text : List Char} {start : Nat}
    (nothing : ∀ run token, ¬ StandsAt text start run token) (token : RecurrenceToken) :
    IsFirstFrom text start token ↔ IsFirstFrom text (start + 1) token := by
  constructor
  · rintro ⟨position, run, behind, stands, nothingBefore⟩
    rcases Nat.lt_or_eq_of_le behind with further | rfl
    · refine ⟨position, run, further, stands, ?_⟩
      intro earlier later
      exact nothingBefore earlier (Nat.le_of_succ_le later)
    · exact absurd stands (nothing run token)
  · rintro ⟨position, run, behind, stands, nothingBefore⟩
    refine ⟨position, run, Nat.le_of_succ_le behind, stands, ?_⟩
    intro earlier later ahead
    rcases Nat.lt_or_eq_of_le later with further | rfl
    · exact nothingBefore earlier further ahead
    · exact nothing

/-- Scanning the rest of a text finds the first token among the positions left.

The induction is on the rest, and the text in front of it grows, so that positions are
those of the whole text throughout. Either the next position has a token, which is
then the first, or it has none and the search goes on behind it. -/
theorem scan?_eq_some_iff (before rest : List Char) (opened : Bool) (token : RecurrenceToken)
    (right : opened = true ↔ MayBegin (before ++ rest) before.length) :
    scan? opened rest = some token ↔ IsFirstFrom (before ++ rest) before.length token := by
  induction rest generalizing before opened with
  | nil =>
    simp only [scan?, List.append_nil, reduceCtorEq, false_iff]
    rintro ⟨position, run, behind, stands, _⟩
    exact not_standsAt_of_length_le behind stands
  | cons character rest inductionHypothesis =>
    have here : ∀ token, (∃ run, StandsAt (before ++ character :: rest) before.length run token) ↔
        opened = true ∧ atFront? (character :: rest) = some token := by
      intro token
      rw [exists_standsAt_iff, List.drop_left, right]
    cases found : (if opened then atFront? (character :: rest) else none) with
    | some first =>
      have read : opened = true ∧ atFront? (character :: rest) = some first := by
        simpa [Option.ite_none_right_eq_some] using found
      obtain ⟨run, stands⟩ := (here first).mpr read
      simp only [scan?, found, Option.some.injEq]
      exact (isFirstFrom_iff_of_standsAt stands token).symm
    | none =>
      have nothing : ∀ run token, ¬ StandsAt (before ++ character :: rest) before.length run token := by
        intro run token stands
        obtain ⟨isOpen, read⟩ := (here token).mp ⟨run, stands⟩
        simp [isOpen, read] at found
      have shifted : before ++ character :: rest = (before ++ [character]) ++ rest := by simp
      have later := inductionHypothesis (before ++ [character]) (openers.contains character) (by
        rw [← shifted, List.length_append, List.length_singleton]
        exact mayBegin_step before character rest)
      rw [← shifted, List.length_append, List.length_singleton] at later
      simp only [scan?, found]
      exact later.trans (isFirstFrom_iff_succ nothing token).symm

/-- The first token from the start of a text on is the leftmost one. -/
theorem isFirstFrom_zero_iff (text : List Char) (token : RecurrenceToken) :
    IsFirstFrom text 0 token ↔ ∃ position run, IsLeftmost text position run token := by
  constructor
  · rintro ⟨position, run, _, stands, nothing⟩
    exact ⟨position, run, stands, fun earlier => nothing earlier (Nat.zero_le _)⟩
  · rintro ⟨position, run, stands, first⟩
    exact ⟨position, run, Nat.zero_le _, stands, fun earlier _ => first earlier⟩

/-- The token found in a description is the leftmost one. -/
theorem find?_eq_some_iff (text : List Char) (token : RecurrenceToken) :
    find? text = some token ↔ ∃ position run, IsLeftmost text position run token := by
  rw [← isFirstFrom_zero_iff]
  apply scan?_eq_some_iff [] text true token
  simp [MayBegin]

/-- Where a token stands, some token stands leftmost. -/
theorem exists_isLeftmost {text run : List Char} {position : Nat} {token : RecurrenceToken}
    (stands : StandsAt text position run token) :
    ∃ position run token, IsLeftmost text position run token := by
  induction position using Nat.strongRecOn generalizing run token with
  | ind position inductionHypothesis =>
    by_cases earliest : ∀ earlier < position, ∀ run token, ¬ StandsAt text earlier run token
    · exact ⟨position, run, token, stands, earliest⟩
    · simp only [Classical.not_forall, Classical.not_not] at earliest
      obtain ⟨earlier, ahead, run', token', stands'⟩ := earliest
      exact inductionHypothesis earlier ahead stands'

/-- Nothing is found exactly where no token stands. -/
theorem find?_eq_none_iff (text : List Char) :
    find? text = none ↔ ∀ position run token, ¬ StandsAt text position run token := by
  constructor
  · intro missing position run token stands
    obtain ⟨leftmost, run', token', isLeftmost⟩ := exists_isLeftmost stands
    have found := (find?_eq_some_iff text token').mpr ⟨leftmost, run', isLeftmost⟩
    simp [missing] at found
  · intro nowhere
    cases found : find? text with
    | none => rfl
    | some token =>
      obtain ⟨position, run, isLeftmost⟩ := (find?_eq_some_iff text token).mp found
      exact absurd isLeftmost.stands (nowhere position run token)

/-- A recurrence token is accepted exactly as the recurrence stated. -/
theorem recurrence_eq_ok_iff (token : RecurrenceToken) (recurrence : Recurrence) :
    token.recurrence = .ok recurrence ↔ Stated token recurrence := by
  cases token with
  | fromToday step =>
    simp only [RecurrenceToken.recurrence, Attempt.map_eq_ok_iff, Measure.offset_eq_ok_iff]
    constructor
    · rintro ⟨_, ⟨amount, counted, rfl⟩, rfl⟩
      exact .fromToday counted
    · intro stated
      cases stated with
      | fromToday counted => exact ⟨_, ⟨_, counted, rfl⟩, rfl⟩
  | fromDate step =>
    simp only [RecurrenceToken.recurrence, Attempt.map_eq_ok_iff, Measure.offset_eq_ok_iff]
    constructor
    · rintro ⟨_, ⟨amount, counted, rfl⟩, rfl⟩
      exact .fromDate counted
    · intro stated
      cases stated with
      | fromDate counted => exact ⟨_, ⟨_, counted, rfl⟩, rfl⟩
  | onWeekday window ordinal weekday =>
    constructor
    · intro accepted
      obtain rfl := Except.ok.inj accepted
      exact .onWeekday window ordinal weekday
    · intro stated
      cases stated with
      | onWeekday => rfl

/-- A recurrence token is refused exactly when it has a step whose amount is too large. -/
theorem recurrence_eq_error_iff (token : RecurrenceToken) (failure : Failure) :
    token.recurrence = .error failure ↔
      ∃ step, (token = .fromToday step ∨ token = .fromDate step) ∧ step.IsTooLarge ∧
        failure = .amountTooLarge step.digits := by
  cases token with
  | fromToday step =>
    simp [RecurrenceToken.recurrence, Attempt.map_eq_error_iff, Measure.offset_eq_error_iff]
  | fromDate step =>
    simp [RecurrenceToken.recurrence, Attempt.map_eq_error_iff, Measure.offset_eq_error_iff]
  | onWeekday window ordinal weekday => simp [RecurrenceToken.recurrence]

/-- A description has no recurrence exactly when no token is found in it. -/
theorem recurrenceOf_eq_none_iff (text : List Char) :
    Note.recurrenceOf text = .ok none ↔ find? text = none := by
  cases found : find? text with
  | none => simp [Note.recurrenceOf, found]
  | some token => simp [Note.recurrenceOf, found, Attempt.map_eq_ok_iff]

/-- The recurrence of a description is that of the token found in it. -/
theorem recurrenceOf_eq_some_iff (text : List Char) (recurrence : Recurrence) :
    Note.recurrenceOf text = .ok (some recurrence) ↔
      ∃ token, find? text = some token ∧ token.recurrence = .ok recurrence := by
  cases found : find? text with
  | none => simp [Note.recurrenceOf, found]
  | some token => simp [Note.recurrenceOf, found, Attempt.map_eq_ok_iff]

/-- A description is refused when the token found in it is. -/
theorem recurrenceOf_eq_error_iff (text : List Char) (failure : Failure) :
    Note.recurrenceOf text = .error failure ↔
      ∃ token, find? text = some token ∧ token.recurrence = .error failure := by
  cases found : find? text with
  | none => simp [Note.recurrenceOf, found]
  | some token => simp [Note.recurrenceOf, found, Attempt.map_eq_error_iff]

/-- The recurrence of a description is that of its leftmost token, and of no other. No
token gives no recurrence; the leftmost one gives what it states, or is refused for an
amount that is too large, whatever stands behind it. At a position stands one token at
most, so the leftmost is unique. A line whose description is searched keeps the
description as it was. -/
theorem recurrenceOf_iff_leftmost (text : List Char) :
    (Note.recurrenceOf text = .ok none ↔
      ∀ position run token, ¬ StandsAt text position run token) ∧
    (∀ recurrence, Note.recurrenceOf text = .ok (some recurrence) ↔
      ∃ position run token, IsLeftmost text position run token ∧ Stated token recurrence) ∧
    (∀ failure, Note.recurrenceOf text = .error failure ↔
      ∃ position run step, (IsLeftmost text position run (.fromToday step) ∨
          IsLeftmost text position run (.fromDate step)) ∧
        step.IsTooLarge ∧ failure = .amountTooLarge step.digits) ∧
    (∀ position run run' token token', StandsAt text position run token →
      StandsAt text position run' token' → run = run' ∧ token = token') ∧
    (∀ line pattern offsetToken note, Note.Divided line pattern offsetToken text →
      Note.read line = .ok note →
        note.description = text ∧ Note.recurrenceOf text = .ok note.recurrence) := by
  refine ⟨(recurrenceOf_eq_none_iff text).trans (find?_eq_none_iff text), ?_, ?_, ?_, ?_⟩
  · intro recurrence
    simp only [recurrenceOf_eq_some_iff, recurrence_eq_ok_iff, find?_eq_some_iff]
    constructor
    · rintro ⟨token, ⟨position, run, isLeftmost⟩, stated⟩
      exact ⟨position, run, token, isLeftmost, stated⟩
    · rintro ⟨position, run, token, isLeftmost, stated⟩
      exact ⟨token, ⟨position, run, isLeftmost⟩, stated⟩
  · intro failure
    simp only [recurrenceOf_eq_error_iff, recurrence_eq_error_iff, find?_eq_some_iff]
    constructor
    · rintro ⟨token, ⟨position, run, isLeftmost⟩, step, rfl | rfl, large, named⟩
      · exact ⟨position, run, step, .inl isLeftmost, large, named⟩
      · exact ⟨position, run, step, .inr isLeftmost, large, named⟩
    · rintro ⟨position, run, step, isLeftmost | isLeftmost, large, named⟩
      · exact ⟨_, ⟨position, run, isLeftmost⟩, step, .inl rfl, large, named⟩
      · exact ⟨_, ⟨position, run, isLeftmost⟩, step, .inr rfl, large, named⟩
  · intro position run run' token token' left right
    exact standsAt_unique left right
  · intro line pattern offsetToken note divided read
    rw [Note.read_of_divided divided] at read
    simp only [Attempt.bind_eq_ok_iff, Except.ok.injEq] at read
    obtain ⟨offset, _, recurrence, searched, rfl⟩ := read
    exact ⟨rfl, searched⟩

end Tickler.RecurrenceToken
