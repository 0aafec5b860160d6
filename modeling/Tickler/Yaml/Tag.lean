import Tickler.Yaml.Scalar

/-!
# Tags and directives

A tag says of what kind a node is. Between angle brackets it is written in full.
Otherwise it is an exclamation mark and a suffix, or a handle between two exclamation
marks and a suffix, and the handle stands for the beginning of the tag. An exclamation
mark alone is a tag of its own.

Directives stand on lines of their own in front of a document. One gives the version
of the format, the others explain handles.
-/

namespace Tickler.Yaml

/-- Handles and what they stand for. -/
abbrev Handles := List (List Char × List Char)

/-- The handles that need no directive. -/
def Handles.default : Handles :=
  [("!".toList, "!".toList), ("!!".toList, "tag:yaml.org,2002:".toList)]

/-- A character of a tag that stands for itself. -/
def isTagCharacter (verbatim : Bool) (character : Char) : Bool :=
  isNameCharacter character || ";/?:@&=+$.!~*'()".toList.contains character ||
    (verbatim && ",[]".toList.contains character)

/-- The number of octets that have to follow an octet of a character, given how many
were due; none if the octet cannot stand there. -/
def octetsAfter? (due octet : Nat) : Option Nat :=
  if 0 < due then (if 0x80 ≤ octet ∧ octet < 0xC0 then some (due - 1) else none)
  else if octet < 0x80 then some 0
  else if 0xC0 ≤ octet ∧ octet < 0xE0 then some 1
  else if 0xE0 ≤ octet ∧ octet < 0xF0 then some 2
  else if 0xF0 ≤ octet ∧ octet < 0xF8 then some 3
  else none

/-- The octet that two hexadecimal digits write. -/
def octet? (high low : Char) : Option Nat := do
  some (16 * (← hexDigit? high) + (← hexDigit? low))

/-- The characters of a tag at the front of a text, and the rest. A percent sign and two
hexadecimal digits write one octet, and the octets of one character are written right
behind each other. -/
def tagCharacters (verbatim : Bool) (due : Nat) :
    List Char → Except Fault (List Char × List Char)
  | '%' :: high :: low :: rest =>
      match (octet? high low).bind fun octet => (octetsAfter? due octet).map (octet, ·) with
      | some (octet, due) => do
          let (characters, rest) ← tagCharacters verbatim due rest
          .ok (Char.ofNat octet :: characters, rest)
      | none => .error .malformedTag
  | '%' :: _ => .error .malformedTag
  | character :: rest =>
      if 0 < due then .error .malformedTag
      else if isTagCharacter verbatim character then do
        let (characters, rest) ← tagCharacters verbatim 0 rest
        .ok (character :: characters, rest)
      else .ok ([], character :: rest)
  | [] => if 0 < due then .error .malformedTag else .ok ([], [])
termination_by structural text => text

/-- The suffix of a tag, which has a character at least, and the rest. It counts up to
its first null character. -/
def tagSuffix (verbatim : Bool) (text : List Char) : Except Fault (List Char × List Char) := do
  let (characters, rest) ← tagCharacters verbatim 0 text
  if characters = [] then throw .malformedTag
  .ok (characters.takeWhile (· != '\x00'), rest)

/-- The handle at the front of a text that begins with an exclamation mark, as far as
it goes, and the rest. It is complete if a second exclamation mark ends it. -/
def handleAt (text : List Char) : List Char × List Char :=
  let name := text.tail.takeWhile isNameCharacter
  match text.tail.dropWhile isNameCharacter with
  | '!' :: rest => ('!' :: name ++ ['!'], rest)
  | rest => ('!' :: name, rest)

/-- A handle with its end. -/
def isComplete (handle : List Char) : Bool := handle.length ≠ 1 && handle.getLast? == some '!'

/-- A handle and a suffix put together. -/
def Handles.tag (handles : Handles) (handle suffix : List Char) : Except Fault (List Char) :=
  match handles.lookup handle with
  | some start => .ok (start ++ suffix)
  | none => .error .unknownHandle

/-- The tag at the front of a text that begins with an exclamation mark, and the rest. -/
def Handles.read (handles : Handles) (text : List Char) :
    Except Fault (List Char × List Char) := do
  match text with
  | '!' :: '<' :: rest =>
      match ← tagSuffix true rest with
      | (tag, '>' :: rest) => .ok (tag, rest)
      | _ => .error .malformedTag
  | _ =>
      let (handle, rest) := handleAt text
      if isComplete handle then
        let (suffix, rest) ← tagSuffix false rest
        .ok (← handles.tag handle suffix, rest)
      else
        let (characters, rest) ← tagCharacters false 0 rest
        let suffix := handle.tail ++ characters.takeWhile (· != '\x00')
        if suffix = [] then .ok (['!'], rest)
        else .ok (← handles.tag ['!'] suffix, rest)

/-- A line in front of a document. -/
inductive Directive where
  | version (major minor : Nat)
  | meaning (handle start : List Char)
deriving DecidableEq, Repr

namespace Directive

/-- The number at the front of a text, of nine digits at most, and the rest. -/
def number (text : List Char) : Except Fault (Nat × List Char) :=
  let digits := text.takeWhile Char.isDigit
  if digits = [] ∨ 9 < digits.length then .error .malformedDirective
  else .ok (Nat.ofDigitChars 10 digits 0, text.dropWhile Char.isDigit)

/-- The version at the front of a text, and the rest. -/
def readVersion (text : List Char) : Except Fault (Directive × List Char) := do
  match ← number text with
  | (major, '.' :: rest) =>
      let (minor, rest) ← number rest
      .ok (.version major minor, rest)
  | _ => .error .malformedDirective

/-- The explanation of a handle at the front of a text, and the rest. A single
exclamation mark is a handle too. -/
def readHandle (text : List Char) : Except Fault (Directive × List Char) := do
  let (handle, rest) := handleAt text
  if text.head? ≠ some '!' ∨ !(isComplete handle || handle == ['!']) ∨ !rest.head?.any isGap then
    throw .malformedDirective
  let (start, rest) ← tagSuffix true (rest.dropWhile isGap)
  if atGap rest then .ok (.meaning handle start, rest) else .error .malformedDirective

/-- The directive at the front of a text, behind its percent sign, and the rest. -/
def read (text : List Char) : Except Fault (Directive × List Char) :=
  let rest := text.dropWhile isNameCharacter
  if !atGap rest then .error .malformedDirective
  else
    let name := text.takeWhile isNameCharacter
    if name = "YAML".toList then readVersion (rest.dropWhile isGap)
    else if name = "TAG".toList then readHandle (rest.dropWhile isGap)
    else .error .malformedDirective

end Directive

end Tickler.Yaml
