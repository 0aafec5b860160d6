import Tickler.Yaml.Token

/-!
# Scalars

A scalar may go on over several lines. The white space inside it is folded: a
single line break becomes a space, further line breaks stay, and the blanks around
line breaks go. Blanks between two words of one line stay as they are.

A plain scalar ends before a comment, before a colon that a gap follows, before a
less indented line, before a document marker, and inside flow collections before
their indicators.
-/

namespace Tickler.Yaml

/-- White space passed inside a scalar and not yet part of its text: the blanks in
front of the first line break, latest first, and the number of line breaks. A break
behind a backslash is not counted itself. -/
structure Gap where
  blanks : List Char := []
  breaks : Nat := 0
  escaped : Bool := false
deriving DecidableEq, Repr

namespace Gap

/-- No white space. -/
def none : Gap := {}

/-- A space or tab more. Behind a line break it does not count. -/
def blank (gap : Gap) (character : Char) : Gap :=
  if gap.breaks = 0 ∧ !gap.escaped then { gap with blanks := character :: gap.blanks } else gap

/-- A line break more. -/
def lineBreak (gap : Gap) : Gap := { gap with blanks := [], breaks := gap.breaks + 1 }

/-- The white space contains a line break. -/
def isBroken (gap : Gap) : Bool := gap.breaks != 0 || gap.escaped

/-- There is white space. -/
def isSome (gap : Gap) : Bool := gap.isBroken || !gap.blanks.isEmpty

/-- What the folded white space adds to the text, latest character first. -/
def folded (gap : Gap) : List Char :=
  if gap.escaped then List.replicate gap.breaks '\n'
  else match gap.breaks with
    | 0 => gap.blanks
    | 1 => [' ']
    | more + 2 => List.replicate (more + 1) '\n'

end Gap

/-- Inside flow collections these end a plain scalar. -/
def isFlowIndicator (character : Char) : Bool := [',', '[', ']', '{', '}'].contains character

/-- A colon directly in front of an indicator cannot belong to a flow scalar. -/
def isGluedColon (character : Char) (rest : List Char) : Bool :=
  character == ':' && match rest with
    | next :: _ => next == '?' || isFlowIndicator next
    | [] => false

/-- Read on in a plain scalar, given its text so far (latest character first) and
the white space since. Lines must be indented to `indent` at least. The answer is
the text, the place behind it, and whether a line break was passed on the way. -/
def plainScalar (flow : Bool) (indent : Nat) (text : List Char) (gap : Gap) (line column : Nat) :
    List Char → Except Fault (List Char × Cursor × Bool)
  | [] => .ok (text.reverse, ⟨[], line, column⟩, gap.isBroken)
  | character :: rest =>
      if character = '\n' then
        plainScalar flow indent text gap.lineBreak (line + 1) 0 rest
      else if isGap character then
        if character = '\t' ∧ gap.isBroken ∧ column < indent then .error .tabInIndentation
        else plainScalar flow indent text (gap.blank character) line (column + 1) rest
      else if gap.isSome ∧ ((!flow ∧ column < indent) ∨ character = '#' ∨
          (column = 0 ∧ atMarker (character :: rest))) then
        .ok (text.reverse, ⟨character :: rest, line, column⟩, gap.isBroken)
      else if flow ∧ isGluedColon character rest then .error .unexpectedColon
      else if (character = ':' ∧ atGap rest) ∨ (flow ∧ isFlowIndicator character) then
        .ok (text.reverse, ⟨character :: rest, line, column⟩, gap.isBroken)
      else
        plainScalar flow indent (character :: gap.folded ++ text) Gap.none line (column + 1) rest
termination_by structural remaining => remaining

/-- What a backslash and the character behind it stand for. -/
inductive Escape where
  /-- The character with a code. -/
  | code (code : Nat)
  /-- The character whose code is given by so many hexadecimal digits. -/
  | digits (count : Nat)

/-- The escapes of a double-quoted scalar. -/
def Escape.ofLetter? : Char → Option Escape
  | '0' => some (.code 0)
  | 'a' => some (.code 0x7)
  | 'b' => some (.code 0x8)
  | 't' | '\t' => some (.code 0x9)
  | 'n' => some (.code 0xA)
  | 'v' => some (.code 0xB)
  | 'f' => some (.code 0xC)
  | 'r' => some (.code 0xD)
  | 'e' => some (.code 0x1B)
  | ' ' => some (.code 0x20)
  | '"' => some (.code 0x22)
  | '/' => some (.code 0x2F)
  | '\\' => some (.code 0x5C)
  | 'N' => some (.code 0x85)
  | '_' => some (.code 0xA0)
  | 'L' => some (.code 0x2028)
  | 'P' => some (.code 0x2029)
  | 'x' => some (.digits 2)
  | 'u' => some (.digits 4)
  | 'U' => some (.digits 8)
  | _ => none

/-- The value of a hexadecimal digit in either case. -/
def hexDigit? (character : Char) : Option Nat :=
  let code := character.toNat
  if 48 ≤ code ∧ code ≤ 57 then some (code - 48)
  else if 65 ≤ code ∧ code ≤ 70 then some (code - 55)
  else if 97 ≤ code ∧ code ≤ 102 then some (code - 87)
  else none

/-- The character with a code, if the code is one. -/
def charOfCode? (code : Nat) : Option Char :=
  if code.isValidChar then some (Char.ofNat code) else none

/-- Where the reading of a quoted scalar stands. -/
inductive QuoteState where
  /-- In the text. -/
  | text
  /-- Behind a backslash. -/
  | escape
  /-- In front of the remaining digits of an escape, with the value of the others. -/
  | digits (left value : Nat)

/-- Read on in a scalar between double or single quotes, given its text so far
(latest character first) and the white space since. The answer is the text and the
place behind the closing quote. -/
def quotedScalar (double : Bool) (state : QuoteState) (text : List Char) (gap : Gap)
    (line column : Nat) : List Char → Except Fault (List Char × Cursor)
  | [] => .error .unclosedQuote
  | character :: rest =>
      match state with
      | .digits left value =>
          match hexDigit? character with
          | none => .error .unknownEscape
          | some digit =>
              let code := 16 * value + digit
              if 1 < left then
                quotedScalar double (.digits (left - 1) code) text Gap.none line (column + 1) rest
              else match charOfCode? code with
                | none => .error .unknownEscape
                | some named =>
                    quotedScalar double .text (named :: text) Gap.none line (column + 1) rest
      | .escape =>
          if character = '\n' then
            quotedScalar double .text text { escaped := true } (line + 1) 0 rest
          else match Escape.ofLetter? character with
            | none => .error .unknownEscape
            | some (.code code) =>
                quotedScalar double .text (Char.ofNat code :: text) Gap.none line (column + 1) rest
            | some (.digits count) =>
                quotedScalar double (.digits count 0) text Gap.none line (column + 1) rest
      | .text =>
          if character = '\n' then
            quotedScalar double .text text gap.lineBreak (line + 1) 0 rest
          else if isGap character then
            quotedScalar double .text text (gap.blank character) line (column + 1) rest
          else if column = 0 ∧ atMarker (character :: rest) then .error .unclosedQuote
          else
            let text := gap.folded ++ text
            if double then
              if character = '"' then .ok (text.reverse, ⟨rest, line, column + 1⟩)
              else if character = '\\' then
                quotedScalar double .escape text Gap.none line (column + 1) rest
              else quotedScalar double .text (character :: text) Gap.none line (column + 1) rest
            else if character = '\'' then
              match rest with
              | '\'' :: more =>
                  quotedScalar double .text ('\'' :: text) Gap.none line (column + 2) more
              | _ => .ok (text.reverse, ⟨rest, line, column + 1⟩)
            else quotedScalar double .text (character :: text) Gap.none line (column + 1) rest
termination_by structural remaining => remaining

end Tickler.Yaml
