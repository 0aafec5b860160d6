import Tickler.Json.Json

/-!
# The grammar of JSON texts

What a JSON text is, for the values that a report is made of: every spelling is admitted
that the format has for them, not only the one that is written. White space may stand
around each value and each key, and a character between quotes may stand for itself or be
escaped by a letter, by the four hexadecimal digits of its code, or by those of two
halves if its code is too large for four digits.

Written documents are texts of this grammar, by recursion on their values.
-/

namespace Tickler.Json

/-- White space between the parts of a text. -/
def isSpace (character : Char) : Bool :=
  character == ' ' || character == '\n' || character == '\r' || character == '\t'

/-- Nothing but white space. -/
def IsSpaces (text : List Char) : Prop := ∀ character ∈ text, isSpace character = true

/-- The character that a letter behind a backslash stands for. -/
def escapeLetter? : Char → Option Char
  | '"' => some '"'
  | '\\' => some '\\'
  | '/' => some '/'
  | 'b' => some '\x08'
  | 'f' => some '\x0c'
  | 'n' => some '\n'
  | 'r' => some '\r'
  | 't' => some '\t'
  | _ => none

/-- The value of a hexadecimal digit, in either case of the letters. -/
def hexDigit? (digit : Char) : Option Nat :=
  if digit.isDigit then some (digit.toNat - '0'.toNat)
  else if 'a' ≤ digit ∧ digit ≤ 'f' then some (digit.toNat - 'a'.toNat + 10)
  else if 'A' ≤ digit ∧ digit ≤ 'F' then some (digit.toNat - 'A'.toNat + 10)
  else none

/-- The number that hexadecimal digits denote. -/
def hexValue? (digits : List Char) : Option Nat :=
  digits.foldlM (fun number digit => (hexDigit? digit).map (16 * number + ·)) 0

/-- The codes that are the first half of a pair. -/
def IsFirstHalf (code : Nat) : Prop := 0xD800 ≤ code ∧ code < 0xDC00
deriving Decidable

/-- The codes that are the second half of a pair. -/
def IsSecondHalf (code : Nat) : Prop := 0xDC00 ≤ code ∧ code < 0xE000
deriving Decidable

/-- The code that two halves stand for. -/
def joined (first second : Nat) : Nat := 0x10000 + 0x400 * (first - 0xD800) + (second - 0xDC00)

/-- The spellings of one character between quotes. -/
inductive CharacterSpelled : List Char → Char → Prop where
  | itself {character : Char} (visible : 0x20 ≤ character.toNat) (unquoted : character ≠ '"')
      (unescaped : character ≠ '\\') : CharacterSpelled [character] character
  | letter {letter character : Char} (named : escapeLetter? letter = some character) :
      CharacterSpelled ['\\', letter] character
  | code {a b c d character : Char} (code : hexValue? [a, b, c, d] = some character.toNat) :
      CharacterSpelled ['\\', 'u', a, b, c, d] character
  | halves {a b c d e f g h character : Char} {first second : Nat}
      (firstCode : hexValue? [a, b, c, d] = some first) (isFirst : IsFirstHalf first)
      (secondCode : hexValue? [e, f, g, h] = some second) (isSecond : IsSecondHalf second)
      (code : character.toNat = joined first second) :
      CharacterSpelled ['\\', 'u', a, b, c, d, '\\', 'u', e, f, g, h] character

/-- The spellings of a text between quotes, character by character. -/
inductive TextSpelled : List Char → List Char → Prop where
  | nil : TextSpelled [] []
  | cons {front spelling characters : List Char} {character : Char}
      (first : CharacterSpelled front character) (others : TextSpelled spelling characters) :
      TextSpelled (front ++ spelling) (character :: characters)

/-- The digits of a number: one at least, and no zero in front of others. -/
structure IsNumeral (digits : List Char) : Prop where
  nonempty : digits ≠ []
  decimal : ∀ digit ∈ digits, digit.isDigit = true
  leading : digits.head? = some '0' → digits.length = 1

instance (digits : List Char) : Decidable (IsNumeral digits) :=
  decidable_of_iff
    (digits ≠ [] ∧ digits.all Char.isDigit = true ∧
      (digits.head? = some '0' → digits.length = 1))
    ⟨fun ⟨nonempty, decimal, leading⟩ => ⟨nonempty, List.all_eq_true.mp decimal, leading⟩,
      fun numeral => ⟨numeral.nonempty, List.all_eq_true.mpr numeral.decimal, numeral.leading⟩⟩

/-- The spellings of a key with the colon behind it. -/
inductive KeySpelled : List Char → List Char → Prop where
  | quoted {before spelling between key : List Char} (spacesBefore : IsSpaces before)
      (spelled : TextSpelled spelling key) (spacesBetween : IsSpaces between) :
      KeySpelled (before ++ '"' :: (spelling ++ '"' :: (between ++ [':']))) key

mutual

/-- The spellings of a value. -/
inductive Spelled : List Char → Json → Prop where
  | null : Spelled "null".toList .null
  | natural {digits : List Char} (numeral : IsNumeral digits) :
      Spelled digits (.integer (Decimal.value digits))
  | negative {digits : List Char} (numeral : IsNumeral digits) :
      Spelled ('-' :: digits) (.integer (-Decimal.value digits))
  | text {spelling characters : List Char} (spelled : TextSpelled spelling characters) :
      Spelled ('"' :: (spelling ++ ['"'])) (.text characters)
  | empty {between : List Char} (spaces : IsSpaces between) :
      Spelled ('{' :: (between ++ ['}'])) (.object [])
  | object {spelling : List Char} {members : List (List Char × Json)}
      (spelled : MembersSpelled spelling members) :
      Spelled ('{' :: (spelling ++ ['}'])) (.object members)
  | spaced {before spelling after : List Char} {value : Json} (spacesBefore : IsSpaces before)
      (spelled : Spelled spelling value) (spacesAfter : IsSpaces after) :
      Spelled (before ++ (spelling ++ after)) value

/-- The spellings of the members of an object, of which there is one at least. -/
inductive MembersSpelled : List Char → List (List Char × Json) → Prop where
  | last {front spelling key : List Char} {value : Json} (keySpelled : KeySpelled front key)
      (spelled : Spelled spelling value) :
      MembersSpelled (front ++ spelling) [(key, value)]
  | more {front spelling key rest : List Char} {value : Json}
      {members : List (List Char × Json)} (keySpelled : KeySpelled front key)
      (spelled : Spelled spelling value) (others : MembersSpelled rest members) :
      MembersSpelled (front ++ (spelling ++ ',' :: rest)) ((key, value) :: members)

end

/-! ## Written documents -/

/-- The digit written for a number below sixteen has it as its value. -/
theorem hexDigit?_digitChar {number : Nat} (small : number < 16) :
    hexDigit? (Nat.digitChar number) = some number := by
  have all : ∀ number < 16, hexDigit? (Nat.digitChar number) = some number := by decide
  exact all number small

/-- Two hexadecimal digits behind two zeros are the code of a control character. -/
theorem hexValue?_hexPair {number : Nat} (small : number < 256) :
    hexValue? ('0' :: '0' :: hexPair number) = some number := by
  have zero : hexDigit? '0' = some 0 := rfl
  have high := hexDigit?_digitChar (show number / 16 % 16 < 16 by omega)
  have low := hexDigit?_digitChar (show number % 16 < 16 by omega)
  simp only [hexValue?, hexPair, List.foldlM_cons, List.foldlM_nil, zero, high, low,
    Option.map_some, Option.bind_eq_bind, Option.bind_some, Option.pure_def, Option.some.injEq]
  omega

/-- A written character is a spelling of that character. -/
theorem characterSpelled_escaped (character : Char) :
    CharacterSpelled (escaped character) character := by
  fun_cases escaped character with
  | case8 character _ _ _ _ _ _ _ control => exact .code (hexValue?_hexPair (by omega))
  | case9 character unquoted unescaped _ _ _ _ _ visible =>
    exact .itself (by omega) unquoted unescaped
  | _ => exact .letter rfl

/-- What is written between quotes is a spelling of the text. -/
theorem textSpelled_escaped (text : List Char) : TextSpelled (text.flatMap escaped) text := by
  induction text with
  | nil => exact .nil
  | cons character others inductionHypothesis =>
    rw [List.flatMap_cons]
    exact .cons (characterSpelled_escaped character) inductionHypothesis

/-- The digits of a number are a numeral. -/
theorem isNumeral_digits (number : Nat) : IsNumeral (Decimal.digits number) where
  nonempty := Decimal.digits_ne_nil number
  decimal := fun _ written => Decimal.isDigit_of_mem_digits written
  leading := by
    intro zero
    cases number with
    | zero => rfl
    | succ number => exact absurd zero (Decimal.head?_digits (Nat.succ_pos number))

/-- A written integer is a spelling of that integer. -/
theorem spelled_signed (number : Int) : Spelled (Decimal.signed number) (.integer number) := by
  have numeral := isNumeral_digits number.natAbs
  by_cases negative : number < 0
  · have minus : -(Decimal.value (Decimal.digits number.natAbs) : Int) = number := by
      rw [Decimal.value_digits]
      omega
    have spelled := Spelled.negative numeral
    rw [minus] at spelled
    rwa [Decimal.signed, if_pos negative]
  · have same : (Decimal.value (Decimal.digits number.natAbs) : Int) = number := by
      rw [Decimal.value_digits]
      omega
    have spelled := Spelled.natural numeral
    rw [same] at spelled
    rwa [Decimal.signed, if_neg negative]

/-- No text is white space as well. -/
theorem isSpaces_nil : IsSpaces [] := nofun

/-- A line break with its indentation is white space. -/
theorem isSpaces_lineBreak (depth : Nat) : IsSpaces (lineBreak depth) := by
  intro character written
  rcases List.mem_cons.mp written with rfl | blank
  · rfl
  · rw [List.eq_of_mem_replicate blank]
    rfl

/-- A written key is the spelling of a key, with the white space in front of it. -/
theorem keySpelled_quoted (depth : Nat) (key : List Char) :
    KeySpelled (lineBreak depth ++ (quoted key ++ [':'])) key := by
  have spelled := KeySpelled.quoted (isSpaces_lineBreak depth) (textSpelled_escaped key)
    isSpaces_nil
  simpa [quoted] using spelled

mutual

/-- A written value is a spelling of that value. -/
theorem spelled_written (depth : Nat) : ∀ value : Json, Spelled (written depth value) value
  | .null => .null
  | .integer number => spelled_signed number
  | .text characters => .text (textSpelled_escaped characters)
  | .object [] => .empty isSpaces_nil
  | .object ((key, value) :: members) => by
    -- The line break in front of the brace is white space behind the last of the values.
    have first := spelled_member (depth + 1) (key, value)
    have spelled := spelled_writtenMembers (depth + 1) (isSpaces_lineBreak depth) members
      (keySpelled_quoted (depth + 1) key) first
    simpa [written, writtenMember] using Spelled.object spelled
termination_by structural value => value

/-- The value of a written member is spelled behind its key. -/
theorem spelled_member (depth : Nat) :
    ∀ member : List Char × Json, Spelled (' ' :: written depth member.2) member.2
  | (_, value) => by
    have space : IsSpaces [' '] := List.forall_mem_singleton.mpr rfl
    simpa using Spelled.spaced space (spelled_written depth value) isSpaces_nil
termination_by structural member => member

/-- Written members are spelled behind a member and in front of white space. -/
theorem spelled_writtenMembers (depth : Nat) {after : List Char} (spaces : IsSpaces after) :
    ∀ (members : List (List Char × Json)) {front spelling key : List Char} {value : Json},
      KeySpelled front key → Spelled spelling value →
        MembersSpelled (front ++ (spelling ++ (writtenMembers depth members ++ after)))
          ((key, value) :: members)
  | [], _, _, _, _, keySpelled, spelled => by
    have spaced := Spelled.spaced isSpaces_nil spelled spaces
    simpa [writtenMembers] using MembersSpelled.last keySpelled spaced
  | (key, value) :: members, _, _, _, _, keySpelled, spelled => by
    have first := spelled_member depth (key, value)
    have others := spelled_writtenMembers depth spaces members (keySpelled_quoted depth key) first
    simpa [writtenMembers, writtenMember] using MembersSpelled.more keySpelled spelled others
termination_by structural members => members

end

/-- The text of a document is a JSON text of the document. -/
theorem spelled_document (value : Json) : Spelled value.document value := spelled_written 0 value

end Tickler.Json
