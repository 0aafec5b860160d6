/-!
# Tokens

A token stands at the front of a text. It is read by taking numbers, marks and
letters off the text, each as far as it goes, and it counts only if nothing or a
delimiter is left directly behind it. Nothing that was taken is given back: where
the longest reading is not delimited, there is no token.
-/

namespace Tickler

variable {α : Type}

/-- Take a certain character off the front of a text. -/
def takeMark? (mark : Char) : List Char → Option (List Char)
  | [] => none
  | character :: rest => if character = mark then some rest else none

/-- Take a letter that has a meaning off the front of a text, if one stands there. -/
def takeLetter (meaning? : Char → Option α) : List Char → Option α × List Char
  | [] => (none, [])
  | letter :: rest =>
      match meaning? letter with
      | some meaning => (some meaning, rest)
      | none => (none, letter :: rest)

/-- What is left behind a token is nothing or begins with a delimiter. -/
def isDelimited (delimiters : List Char) (rest : List Char) : Bool :=
  rest.head?.all delimiters.contains

/-- Read a token and see afterwards that it is delimited. -/
def delimited? (delimiters : List Char) (read? : List Char → Option (α × List Char))
    (text : List Char) : Option (α × List Char) :=
  (read? text).filter fun taken => isDelimited delimiters taken.2

/-- Read the token at the front of a text, if one stands there. Without one all of
the text remains. -/
def takeToken (read? : List Char → Option (α × List Char)) (text : List Char) :
    Option α × List Char :=
  match read? text with
  | some (meaning, rest) => (some meaning, rest)
  | none => (none, text)

/-- A mark is taken off exactly the texts that begin with it. -/
theorem takeMark?_eq_some_iff (mark : Char) (text rest : List Char) :
    takeMark? mark text = some rest ↔ text = mark :: rest := by
  cases text with
  | nil => simp [takeMark?]
  | cons character others => simp [takeMark?]

/-- No mark is taken off a text that begins with another character or is empty. -/
theorem takeMark?_eq_none {mark : Char} {text : List Char}
    (other : ∀ character ∈ text.head?, character ≠ mark) : takeMark? mark text = none := by
  cases text with
  | nil => rfl
  | cons character others => simp_all [takeMark?]

/-- A text is delimited when it begins with a delimiter, if it begins at all. -/
theorem isDelimited_iff (delimiters rest : List Char) :
    isDelimited delimiters rest = true ↔ ∀ character ∈ rest.head?, character ∈ delimiters := by
  cases rest <;> simp [isDelimited]

/-- A delimited reading is a reading whose rest is delimited. -/
theorem delimited?_eq_some_iff (delimiters : List Char)
    (read? : List Char → Option (α × List Char)) (text : List Char) (meaning : α)
    (rest : List Char) :
    delimited? delimiters read? text = some (meaning, rest) ↔
      read? text = some (meaning, rest) ∧ isDelimited delimiters rest = true := by
  simp [delimited?, Option.filter_eq_some_iff]

/-- Where nothing is read, no token is taken and all of the text remains. -/
theorem takeToken_of_eq_none {read? : List Char → Option (α × List Char)} {text : List Char}
    (unread : read? text = none) : takeToken read? text = (none, text) := by
  simp only [takeToken, unread]

/-- A token that is read is taken with its rest. -/
theorem takeToken_of_eq_some {read? : List Char → Option (α × List Char)} {text rest : List Char}
    {meaning : α} (read : read? text = some (meaning, rest)) :
    takeToken read? text = (some meaning, rest) := by
  simp only [takeToken, read]

end Tickler
