/-!
# Tokens of a settings document

Settings documents are written in YAML. This module holds the tokens that a document
is cut into, and the classes of characters that the cutting needs.

A line break is a line feed, a carriage return, the two together, a next line, or
one of the two Unicode separators; a document is read with each of them replaced by
one line feed.
-/

namespace Tickler.Yaml

/-- The parts that a document is cut into. Block collections have no brackets of
their own; the tokens of their start and end come from the indentation. -/
inductive Token where
  /-- A line that begins with a percent sign, in front of a document. -/
  | directive
  | documentStart
  | documentEnd
  | blockSequenceStart
  | blockMappingStart
  | blockEnd
  | flowSequenceStart
  | flowSequenceEnd
  | flowMappingStart
  | flowMappingEnd
  | blockEntry
  | flowEntry
  | key
  | value
  /-- The label of the node that follows. -/
  | anchor (label : Nat)
  /-- The node with a label once more. -/
  | reference (label : Nat)
  /-- The tag of the node that follows. -/
  | tag (text : List Char)
  | scalar (text : List Char) (plain : Bool)
deriving DecidableEq, Repr

/-- Why a text is no document. -/
inductive Fault where
  /-- A control character that no document may hold. -/
  | forbiddenCharacter
  /-- A character with which no token begins. -/
  | unexpectedCharacter
  /-- A tab where the indentation of a line is measured. -/
  | tabInIndentation
  /-- A quoted scalar without its closing quote, or with a document marker inside. -/
  | unclosedQuote
  /-- A backslash that begins no escape, or an escape that names no character. -/
  | unknownEscape
  /-- A line of a block mapping without a colon. -/
  | missingColon
  /-- A dash, question mark or colon where none may stand. -/
  | misplacedIndicator
  /-- A colon glued between a flow scalar and an indicator. -/
  | unexpectedColon
  /-- A directive that is unknown, repeated or not written as it has to be. -/
  | malformedDirective
  /-- A label without a name, or with something glued to the name. -/
  | malformedLabel
  /-- A label that no node in front of it has. -/
  | unknownLabel
  /-- A tag that is not written as it has to be. -/
  | malformedTag
  /-- A tag whose handle no directive explains. -/
  | unknownHandle
  /-- A block scalar whose first line says more than it may. -/
  | malformedBlockScalar
  /-- Tokens in an order that makes no document. -/
  | unexpectedToken
  /-- A second document behind the first. -/
  | severalDocuments
deriving DecidableEq, Repr

/-- A short description of a fault. -/
def Fault.text : Fault → List Char
  | forbiddenCharacter => "control characters are not allowed".toList
  | unexpectedCharacter => "found a character that begins no token".toList
  | tabInIndentation => "found a tab in the indentation".toList
  | unclosedQuote => "a quoted scalar is not closed".toList
  | unknownEscape => "found an unknown escape".toList
  | missingColon => "a key has no colon".toList
  | misplacedIndicator => "an indicator is not allowed here".toList
  | unexpectedColon => "found an unexpected colon".toList
  | malformedDirective => "found a directive that is not understood".toList
  | malformedLabel => "found a label without a proper name".toList
  | unknownLabel => "no node has this label".toList
  | malformedTag => "found a tag that is not well formed".toList
  | unknownHandle => "found an unknown tag handle".toList
  | malformedBlockScalar => "found an unexpected indicator of a block scalar".toList
  | unexpectedToken => "the document is not well formed".toList
  | severalDocuments => "there is more than one document".toList

/-- A character that a document may hold. -/
def isAllowed (character : Char) : Bool :=
  let code := character.toNat
  code == 0x9 || code == 0xA || code == 0xD || (0x20 ≤ code && code ≤ 0x7E) || code == 0x85 ||
    (0xA0 ≤ code && code ≤ 0xFFFD) || 0x10000 ≤ code

/-- The text with one line feed for every line break. -/
def normalised : List Char → List Char
  | '\r' :: '\n' :: rest => '\n' :: normalised rest
  | '\r' :: rest | '\u0085' :: rest | '\u2028' :: rest | '\u2029' :: rest =>
      '\n' :: normalised rest
  | character :: rest => character :: normalised rest
  | [] => []
termination_by structural text => text

/-- The mark that may stand in front of every line outside scalars. It takes up a
column like any other character. -/
def byteOrderMark : Char := '\uFEFF'

/-- A character of names: of labels, of directives and of tag handles. -/
def isNameCharacter (character : Char) : Bool :=
  character.isAlphanum || character == '_' || character == '-'

/-- A space or a tab. -/
def isGap (character : Char) : Bool := character == ' ' || character == '\t'

/-- A text is at its end, or at a space, a tab or a line break. -/
def atGap : List Char → Bool
  | [] => true
  | character :: _ => isGap character || character == '\n'

/-- A text begins with three of the given character, standing alone. -/
def startsWithThree (mark : Char) : List Char → Bool
  | first :: second :: third :: rest =>
      first == mark && second == mark && third == mark && atGap rest
  | _ => false

/-- A text begins with a document marker. -/
def atMarker (text : List Char) : Bool := startsWithThree '-' text || startsWithThree '.' text

/-- A place in a document: what is left, and the line and column it begins at. -/
structure Cursor where
  rest : List Char
  line : Nat
  column : Nat
deriving DecidableEq, Repr

/-- The place where the given rest begins, further on the same line. -/
def Cursor.advanced (cursor : Cursor) (rest : List Char) : Cursor :=
  ⟨rest, cursor.line, cursor.column + (cursor.rest.length - rest.length)⟩

end Tickler.Yaml
