import Tickler.Proofs.JsonGrammar

/-!
# Reading JSON texts

A machine reads a text of the grammar from front to back, one character at a step. It keeps
the place that it has come to and the objects that are open around that place, each with
the members read so far and the key whose value is being read. Between quotes it keeps the
characters read so far and what is pending of an escape.

Each part of the grammar takes the machine from one place to another, whatever is open
around it, and the parts are put together as the machine's steps are. It follows that every
text of a value is read as that value, so that no text has two values.
-/

namespace Tickler.Json

/-- The character with a code, if there is one. -/
def character? (code : Nat) : Option Char :=
  if (Char.ofNat code).toNat = code then some (Char.ofNat code) else none

/-- What is pending of an escape. -/
inductive Pending where
  | nothing
  /-- A backslash stands in front. -/
  | escape
  /-- Digits of a code stand in front, fewer than four. -/
  | code (digits : List Char)
  /-- The first half of a pair stands in front, and part of the second. -/
  | half (first : Nat) (part : List Char)

/-- What has been read between quotes. -/
structure Quotation where
  characters : List Char
  pending : Pending

namespace Quotation

/-- The quotation with one more character. -/
def push (quotation : Quotation) (character : Char) : Quotation :=
  ⟨quotation.characters ++ [character], .nothing⟩

/-- The quotation behind the four digits of a code. -/
def code? (quotation : Quotation) (digits : List Char) : Option Quotation := do
  let code ← hexValue? digits
  if IsFirstHalf code then some ⟨quotation.characters, .half code []⟩
  else (character? code).map quotation.push

/-- The quotation behind both halves of a pair. -/
def second? (quotation : Quotation) (first : Nat) : List Char → Option Quotation
  | '\\' :: 'u' :: digits => do
      let second ← hexValue? digits
      if IsSecondHalf second then (character? (joined first second)).map quotation.push else none
  | _ => none

/-- One step between quotes. The quote that ends the text is not a step between quotes. -/
def step? (quotation : Quotation) (character : Char) : Option Quotation :=
  match quotation.pending with
  | .nothing =>
      if character = '\\' then some ⟨quotation.characters, .escape⟩
      else if character = '"' ∨ character.toNat < 0x20 then none
      else some (quotation.push character)
  | .escape =>
      if character = 'u' then some ⟨quotation.characters, .code []⟩
      else (escapeLetter? character).map quotation.push
  | .code digits =>
      if digits.length < 3 then some ⟨quotation.characters, .code (digits ++ [character])⟩
      else quotation.code? (digits ++ [character])
  | .half first part =>
      if part.length < 5 then some ⟨quotation.characters, .half first (part ++ [character])⟩
      else quotation.second? first (part ++ [character])

end Quotation

/-- The value of a word, which is the name of the null value or an integer. -/
def word? (letters : List Char) : Option Json :=
  if letters = "null".toList then some .null
  else match letters with
    | '-' :: digits => if IsNumeral digits then some (.integer (-Decimal.value digits)) else none
    | digits => if IsNumeral digits then some (.integer (Decimal.value digits)) else none

/-- A character of a word. -/
def isWord (character : Char) : Bool := character.isAlphanum || character == '-'

/-- What a quotation is there for. -/
inductive Role where
  | value
  /-- It is a key, behind the members of its object read so far. -/
  | key (members : List (List Char × Json))

/-- The place that the machine has come to. -/
inductive Place where
  /-- A value is due. -/
  | value
  | word (letters : List Char)
  | quoted (role : Role) (quotation : Quotation)
  /-- A key is due, or the end of an object without members. -/
  | key (members : List (List Char × Json))
  /-- A colon is due. -/
  | colon (members : List (List Char × Json)) (key : List Char)
  /-- A value has been read. -/
  | done (value : Json)

/-- An object that is open around a value: the members in front of it and its key. -/
structure Frame where
  members : List (List Char × Json)
  key : List Char

/-- The members of an open object once its value is read. -/
def Frame.extended (frame : Frame) (value : Json) : List (List Char × Json) :=
  frame.members ++ [(frame.key, value)]

/-- The place behind a quotation. -/
def Role.closed (characters : List Char) : Role → Place
  | value => .done (.text characters)
  | key members => .colon members characters

/-- The value that has been read at a place, if one has. -/
def Place.value? : Place → Option Json
  | .done reached => some reached
  | .word letters => word? letters
  | _ => none

/-- The machine behind a value and one more character. -/
def behind? (value : Json) (frames : List Frame) (character : Char) :
    Option (Place × List Frame) :=
  if isSpace character then some (.done value, frames)
  else match frames with
    | [] => none
    | frame :: outer =>
        if character = ',' then some (.key (frame.extended value), outer)
        else if character = '}' then some (.done (.object (frame.extended value)), outer)
        else none

/-- One step of the machine. -/
def step? (state : Place × List Frame) (character : Char) : Option (Place × List Frame) :=
  match state with
  | (.value, frames) =>
      if isSpace character then some (.value, frames)
      else if character = '"' then some (.quoted .value ⟨[], .nothing⟩, frames)
      else if character = '{' then some (.key [], frames)
      else if isWord character then some (.word [character], frames)
      else none
  | (.word letters, frames) =>
      if isWord character then some (.word (letters ++ [character]), frames)
      else (word? letters).bind (behind? · frames character)
  | (.quoted role quotation, frames) =>
      match quotation.step? character, quotation.pending with
      | some next, _ => some (.quoted role next, frames)
      | none, .nothing =>
          if character = '"' then some (role.closed quotation.characters, frames) else none
      | none, _ => none
  | (.key members, frames) =>
      if isSpace character then some (.key members, frames)
      else if character = '"' then some (.quoted (.key members) ⟨[], .nothing⟩, frames)
      else if character = '}' ∧ members = [] then some (.done (.object []), frames)
      else none
  | (.colon members key, frames) =>
      if isSpace character then some (.colon members key, frames)
      else if character = ':' then some (.value, ⟨members, key⟩ :: frames)
      else none
  | (.done value, frames) => behind? value frames character

/-- The value that a text has. -/
def read? (text : List Char) : Option Json :=
  match text.foldlM step? (.value, []) with
  | some (place, []) => place.value?
  | _ => none

/-! ## Between quotes -/

/-- A character is the one with its code. -/
theorem character?_toNat (character : Char) : character? character.toNat = some character := by
  simp [character?]

/-- The code of a character is no half of a pair. -/
theorem not_isFirstHalf_toNat (character : Char) : ¬ IsFirstHalf character.toNat := by
  have valid : character.toNat.isValidChar := character.valid
  simp only [Nat.isValidChar] at valid
  simp only [IsFirstHalf]
  omega

/-- The letter behind a backslash is not the one in front of a code. -/
theorem ne_of_escapeLetter? {letter character : Char}
    (named : escapeLetter? letter = some character) : letter ≠ 'u' := by
  rintro rfl
  cases named

namespace Quotation

/-- A spelling of a character is read as that character. -/
theorem steps_character {spelling : List Char} {character : Char}
    (spelled : CharacterSpelled spelling character) (read : List Char) :
    spelling.foldlM step? ⟨read, .nothing⟩ = some ⟨read ++ [character], .nothing⟩ := by
  cases spelled with
  | itself visible unquoted unescaped =>
    simp [step?, unescaped, unquoted, Nat.not_lt.mpr visible, push]
  | letter named => simp [step?, named, ne_of_escapeLetter? named, push]
  | code code =>
    simp [step?, code?, code, not_isFirstHalf_toNat, character?_toNat, push]
  | halves firstCode isFirst secondCode isSecond code =>
    -- `code` is used from right to left, so that the joined halves are a character's code.
    simp [step?, code?, firstCode, isFirst, second?, secondCode, isSecond, ← code,
      character?_toNat, push]

/-- A spelling of a text is read as that text. -/
theorem steps_text {spelling characters : List Char} (spelled : TextSpelled spelling characters)
    (read : List Char) :
    spelling.foldlM step? ⟨read, .nothing⟩ = some ⟨read ++ characters, .nothing⟩ := by
  induction spelled generalizing read with
  | nil => simp
  | cons first others inductionHypothesis =>
    simp [List.foldlM_append, steps_character first, inductionHypothesis]

end Quotation

/-! ## Between the parts of a text -/

/-- The steps over a text go on from where the steps over its front lead. -/
theorem steps_append {state next : Place × List Frame} {front : List Char}
    (first : front.foldlM step? state = some next) (rest : List Char) :
    (front ++ rest).foldlM step? state = rest.foldlM step? next := by
  simp [List.foldlM_append, first]

/-- The steps over a text go on from where the first of them leads. -/
theorem steps_cons {state next : Place × List Frame} {character : Char}
    (first : step? state character = some next) (rest : List Char) :
    (character :: rest).foldlM step? state = rest.foldlM step? next := by
  simp [first]

/-- White space is passed over wherever one character of it is. -/
theorem steps_spaces (state : Place × List Frame) {spaces : List Char} (blank : IsSpaces spaces)
    (passed : ∀ character, isSpace character = true → step? state character = some state) :
    spaces.foldlM step? state = some state := by
  induction spaces with
  | nil => rfl
  | cons character others inductionHypothesis =>
    obtain ⟨first, later⟩ := List.forall_mem_cons.mp blank
    rw [steps_cons (passed character first), inductionHypothesis later]

/-- A quotation is read inside the object or value that it is there for. -/
theorem steps_quotation (role : Role) (frames : List Frame) {spelling : List Char}
    {quotation next : Quotation} (read : spelling.foldlM Quotation.step? quotation = some next) :
    spelling.foldlM step? (.quoted role quotation, frames) = some (.quoted role next, frames) := by
  induction spelling generalizing quotation with
  | nil =>
    obtain rfl : quotation = next := by simpa using read
    rfl
  | cons character others inductionHypothesis =>
    rw [List.foldlM_cons] at read
    obtain ⟨middle, first, later⟩ := Option.bind_eq_some_iff.mp read
    simp [step?, first, inductionHypothesis later]

/-- A quotation with the quote that ends it leads behind it. -/
theorem steps_quoted {role : Role} {spelling characters : List Char}
    (spelled : TextSpelled spelling characters) (rest : List Char) (frames : List Frame) :
    (spelling ++ '"' :: rest).foldlM step? (.quoted role ⟨[], .nothing⟩, frames) =
      rest.foldlM step? (role.closed characters, frames) := by
  have read := steps_quotation role frames (Quotation.steps_text spelled [])
  simp [List.foldlM_append, read, step?, Quotation.step?]

/-- A key and its colon lead to the place of its value. -/
theorem steps_key {front key : List Char} (spelled : KeySpelled front key)
    (members : List (List Char × Json)) (frames : List Frame) :
    front.foldlM step? (.key members, frames) = some (.value, ⟨members, key⟩ :: frames) := by
  cases spelled with
  | @quoted before spelling between key spacesBefore spelled spacesBetween =>
    have indented : before.foldlM step? (.key members, frames) = some (.key members, frames) :=
      steps_spaces _ spacesBefore fun _ space => by simp [step?, space]
    have spaced : between.foldlM step? (.colon members key, frames) =
        some (.colon members key, frames) :=
      steps_spaces _ spacesBetween fun _ space => by simp [step?, space]
    have opened : step? (.key members, frames) '"' =
      some (.quoted (.key members) ⟨[], .nothing⟩, frames) := by simp [step?, isSpace]
    have assigned : step? (.colon members key, frames) ':' =
      some (.value, ⟨members, key⟩ :: frames) := by simp [step?, isSpace]
    rw [steps_append indented, steps_cons opened, steps_quoted spelled, Role.closed,
      steps_append spaced, steps_cons assigned]
    rfl

/-- A word is read as a whole. -/
theorem steps_word {letters : List Char} (inside : ∀ letter ∈ letters, isWord letter = true)
    (read : List Char) (frames : List Frame) :
    letters.foldlM step? (.word read, frames) = some (.word (read ++ letters), frames) := by
  induction letters generalizing read with
  | nil => simp
  | cons letter others inductionHypothesis =>
    obtain ⟨first, later⟩ := List.forall_mem_cons.mp inside
    simp [step?, first, inductionHypothesis later]

/-- A place at which the machine has read a value or a word that stands for it. -/
theorem step?_of_value? {place : Place} {value : Json} (reached : place.value? = some value)
    {character : Char} (ended : isWord character = false) (frames : List Frame) :
    step? (place, frames) character = behind? value frames character := by
  cases place with
  | done read =>
    obtain rfl : read = value := Option.some.inj reached
    rfl
  | word letters =>
    have read : word? letters = some value := reached
    simp [step?, ended, read]
  | _ => cases reached

/-- White space is no part of a word. -/
theorem isWord_of_isSpace {character : Char} (space : isSpace character = true) :
    isWord character = false := by
  simp only [isSpace, Bool.or_eq_true, beq_iff_eq] at space
  obtain ((rfl | rfl) | rfl) | rfl := space <;> decide

/-- White space behind a value leaves the value as it is. -/
theorem steps_behind {place : Place} {value : Json} (reached : place.value? = some value)
    {after : List Char} (spaces : IsSpaces after) (frames : List Frame) :
    ∃ next : Place, next.value? = some value ∧
      after.foldlM step? (place, frames) = some (next, frames) := by
  cases after with
  | nil => exact ⟨place, reached, rfl⟩
  | cons character others =>
    obtain ⟨first, later⟩ := List.forall_mem_cons.mp spaces
    have settled : step? (place, frames) character = some (.done value, frames) := by
      simp [step?_of_value? reached (isWord_of_isSpace first), behind?, first]
    have passed : others.foldlM step? (.done value, frames) = some (.done value, frames) :=
      steps_spaces _ later fun _ space => by simp [step?, behind?, space]
    exact ⟨.done value, rfl, by simp [settled, passed]⟩

/-- Where a value is due, a word is read to its end. -/
theorem steps_value_word {letter : Char} {letters : List Char}
    (inside : ∀ character ∈ letter :: letters, isWord character = true) (frames : List Frame) :
    (letter :: letters).foldlM step? (.value, frames) =
      some (.word (letter :: letters), frames) := by
  obtain ⟨first, later⟩ := List.forall_mem_cons.mp inside
  have other : isSpace letter = false ∧ letter ≠ '"' ∧ letter ≠ '{' := by
    refine ⟨Bool.eq_false_iff.mpr fun space => ?_, ?_, ?_⟩
    · simp [isWord_of_isSpace space] at first
    · rintro rfl
      exact absurd first (by decide)
    · rintro rfl
      exact absurd first (by decide)
  simp [step?, other, first, steps_word later]

/-- A numeral is made of characters of words. -/
theorem IsNumeral.isWord {digits : List Char} (numeral : IsNumeral digits) :
    ∀ digit ∈ digits, isWord digit = true := by
  intro digit member
  simp [Json.isWord, Char.isAlphanum, numeral.decimal digit member]

/-- A numeral is the word of its number. -/
theorem IsNumeral.word? {digits : List Char} (numeral : IsNumeral digits) :
    Json.word? digits = some (.integer (Decimal.value digits)) ∧
      Json.word? ('-' :: digits) = some (.integer (-Decimal.value digits)) := by
  obtain ⟨digit, others, rfl⟩ := List.exists_cons_of_ne_nil numeral.nonempty
  have decimal := numeral.decimal digit List.mem_cons_self
  have other : digit ≠ 'n' ∧ digit ≠ '-' := by
    constructor <;> rintro rfl <;> exact absurd decimal (by decide)
  constructor
  · simp [Json.word?, other, numeral]
  · simp [Json.word?, numeral]

/-- A numeral is read as its number, with a minus in front or without. -/
theorem steps_numeral {digits : List Char} (numeral : IsNumeral digits) (frames : List Frame) :
    digits.foldlM step? (.value, frames) = some (.word digits, frames) ∧
      ('-' :: digits).foldlM step? (.value, frames) = some (.word ('-' :: digits), frames) := by
  constructor
  · obtain ⟨digit, others, rfl⟩ := List.exists_cons_of_ne_nil numeral.nonempty
    exact steps_value_word numeral.isWord frames
  · exact steps_value_word (List.forall_mem_cons.mpr ⟨rfl, numeral.isWord⟩) frames

mutual

/-- A spelling of a value is read as that value, whatever objects are open around it. -/
theorem steps_spelled : ∀ {text : List Char} {value : Json}, Spelled text value →
    ∀ frames, ∃ place : Place, place.value? = some value ∧
      text.foldlM step? (.value, frames) = some (place, frames)
  | _, _, .null, frames =>
      ⟨.word "null".toList, rfl, steps_value_word (List.all_eq_true.mp rfl) frames⟩
  | _, _, .natural numeral, frames =>
      ⟨.word _, numeral.word?.1, (steps_numeral numeral frames).1⟩
  | _, _, .negative numeral, frames =>
      ⟨.word _, numeral.word?.2, (steps_numeral numeral frames).2⟩
  | _, _, .text spelled, frames => by
    refine ⟨.done _, rfl, ?_⟩
    have opened : step? (.value, frames) '"' = some (.quoted .value ⟨[], .nothing⟩, frames) := rfl
    rw [steps_cons opened, steps_quoted spelled]
    rfl
  | _, _, .empty spaces, frames => by
    refine ⟨.done _, rfl, ?_⟩
    have opened : step? (.value, frames) '{' = some (.key [], frames) := rfl
    have passed := steps_spaces (.key [], frames) spaces fun _ space => by
      simp [step?, space]
    rw [steps_cons opened, steps_append passed]
    rfl
  | _, _, .object spelled, frames => by
    refine ⟨.done _, rfl, ?_⟩
    have opened : step? (.value, frames) '{' = some (.key [], frames) := rfl
    rw [steps_cons opened, steps_membersSpelled spelled [] frames]
    rfl
  | _, _, .spaced spacesBefore spelled spacesAfter, frames => by
    have indented := steps_spaces (.value, frames) spacesBefore fun _ space => by
      simp [step?, space]
    obtain ⟨place, reached, read⟩ := steps_spelled spelled frames
    obtain ⟨next, kept, passed⟩ := steps_behind reached spacesAfter frames
    refine ⟨next, kept, ?_⟩
    rw [steps_append indented, steps_append read, passed]

/-- The spellings of members are read behind the members in front of them, up to the end of
their object. -/
theorem steps_membersSpelled : ∀ {text : List Char} {members : List (List Char × Json)},
    MembersSpelled text members → ∀ before frames,
      (text ++ ['}']).foldlM step? (.key before, frames) =
        some (.done (.object (before ++ members)), frames)
  | _, _, @MembersSpelled.last _ _ key value keySpelled spelled, before, frames => by
    -- A word is still open here: it is the brace that ends it and the object at once.
    obtain ⟨place, reached, read⟩ := steps_spelled spelled (⟨before, key⟩ :: frames)
    have closed : step? (place, ⟨before, key⟩ :: frames) '}' =
        some (.done (.object (before ++ [(key, value)])), frames) :=
      step?_of_value? reached rfl _
    rw [List.append_assoc, steps_append (steps_key keySpelled before frames), steps_append read,
      steps_cons closed]
    rfl
  | _, _, @MembersSpelled.more _ _ key _ value members keySpelled spelled others,
      before, frames => by
    obtain ⟨place, reached, read⟩ := steps_spelled spelled (⟨before, key⟩ :: frames)
    have parted : step? (place, ⟨before, key⟩ :: frames) ',' =
        some (.key (before ++ [(key, value)]), frames) :=
      step?_of_value? reached rfl _
    rw [List.append_assoc, List.append_assoc, List.cons_append,
      steps_append (steps_key keySpelled before frames), steps_append read, steps_cons parted,
      steps_membersSpelled others]
    simp

end

/-- Every spelling of a value is read as that value. -/
theorem read?_of_spelled {text : List Char} {value : Json} (spelled : Spelled text value) :
    read? text = some value := by
  obtain ⟨place, reached, read⟩ := steps_spelled spelled []
  rw [read?, read]
  exact reached

example : read? " \x7b \"a\" : \"\\u00e9\\n\" ,\"b\":-20\x7d".toList =
    some (.object [("a".toList, .text ['é', '\n']), ("b".toList, .integer (-20))]) := by rfl

/-- A text has one value at most. -/
theorem Spelled.unique {text : List Char} {value other : Json} (spelled : Spelled text value)
    (otherwise : Spelled text other) : value = other :=
  Option.some.inj ((read?_of_spelled spelled).symm.trans (read?_of_spelled otherwise))

/-- The text of a document is a JSON text of that document and of no other value. -/
theorem spelled_document_iff (document value : Json) :
    Spelled document.document value ↔ value = document := by
  constructor
  · intro spelled
    exact spelled.unique (spelled_document document)
  · rintro rfl
    exact spelled_document value

end Tickler.Json
