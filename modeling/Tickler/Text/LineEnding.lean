/-!
# Line endings

A line ends with a line feed, which a carriage return may precede. A carriage
return alone ends no line and belongs to the text.
-/

namespace Tickler

/-- A text without the one line ending that may stand at its end. -/
def withoutLineEnding (text : List Char) : List Char :=
  match text.reverse with
  | '\n' :: '\r' :: before => before.reverse
  | '\n' :: before => before.reverse
  | _ => text

/-- A text that does not end in a line feed is left as it is. -/
theorem withoutLineEnding_of_getLast? {text : List Char} (unended : text.getLast? ≠ some '\n') :
    withoutLineEnding text = text := by
  rw [← List.head?_reverse] at unended
  simp only [withoutLineEnding]
  split <;> simp_all

/-- A line feed goes away together with a carriage return before it. -/
theorem withoutLineEnding_append_crlf (text : List Char) :
    withoutLineEnding (text ++ ['\r', '\n']) = text := by
  simp [withoutLineEnding]

/-- Behind anything but a carriage return only the line feed goes away. -/
theorem withoutLineEnding_append_lf {text : List Char} (free : text.getLast? ≠ some '\r') :
    withoutLineEnding (text ++ ['\n']) = text := by
  rw [← List.head?_reverse] at free
  simp only [withoutLineEnding]
  rw [List.reverse_append]
  cases reversed : text.reverse with
  | nil => simp_all
  | cons character before =>
    have restored : text = before.reverse ++ [character] := by
      rw [← List.reverse_reverse text, reversed, List.reverse_cons]
    by_cases isReturn : character = '\r'
    · simp_all
    · simp_all

/-- A text ends with one of the two line endings or with none. -/
theorem lineEnding_cases (text : List Char) :
    (∃ before, text = before ++ ['\r', '\n']) ∨
      (∃ before, text = before ++ ['\n'] ∧ before.getLast? ≠ some '\r') ∨
      text.getLast? ≠ some '\n' := by
  by_cases ended : text.getLast? = some '\n'
  · obtain ⟨before, rfl⟩ := List.getLast?_eq_some_iff.mp ended
    by_cases isReturn : before.getLast? = some '\r'
    · obtain ⟨front, rfl⟩ := List.getLast?_eq_some_iff.mp isReturn
      exact .inl ⟨front, by simp⟩
    · exact .inr (.inl ⟨before, rfl, isReturn⟩)
  · exact .inr (.inr ended)

/-- A text without the characters of a line ending does not change what is taken off the
end of a text behind it. -/
theorem withoutLineEnding_append {front : List Char}
    (other : ∀ character ∈ front, character ≠ '\n' ∧ character ≠ '\r') (text : List Char) :
    withoutLineEnding (front ++ text) = front ++ withoutLineEnding text := by
  have joined : ∀ (text : List Char) (mark : Char), mark = '\n' ∨ mark = '\r' →
      text.getLast? ≠ some mark → (front ++ text).getLast? ≠ some mark := by
    intro text mark isMark unended ended
    rw [List.getLast?_append, Option.or_eq_some_iff] at ended
    rcases ended with behind | ⟨_, inFront⟩
    · exact unended behind
    · have apart := other mark (List.mem_of_getLast? inFront)
      rcases isMark with rfl | rfl
      · exact apart.1 rfl
      · exact apart.2 rfl
  rcases lineEnding_cases text with ⟨before, rfl⟩ | ⟨before, rfl, free⟩ | unended
  · rw [← List.append_assoc, withoutLineEnding_append_crlf, withoutLineEnding_append_crlf]
  · rw [← List.append_assoc, withoutLineEnding_append_lf free,
      withoutLineEnding_append_lf (joined before '\r' (.inr rfl) free)]
  · rw [withoutLineEnding_of_getLast? unended,
      withoutLineEnding_of_getLast? (joined text '\n' (.inl rfl) unended)]

/-- A text begins with what is left of it without its line ending. -/
theorem withoutLineEnding_prefix (text : List Char) : withoutLineEnding text <+: text := by
  rcases lineEnding_cases text with ⟨before, rfl⟩ | ⟨before, rfl, free⟩ | unended
  · rw [withoutLineEnding_append_crlf]
    exact List.prefix_append _ _
  · rw [withoutLineEnding_append_lf free]
    exact List.prefix_append _ _
  · exact ⟨[], by rw [withoutLineEnding_of_getLast? unended, List.append_nil]⟩

end Tickler
