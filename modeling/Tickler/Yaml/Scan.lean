import Tickler.Yaml.Block
import Tickler.Yaml.Tag

/-!
# From text to tokens

Tokens are found from left to right. Indentation opens and closes block
collections: a first dash, question mark or key further right than the innermost
collection opens a new one, and a token further left closes those it is left of.

Any scalar or flow collection may turn out to be a key when a colon follows it on
the same line, 1024 characters behind its beginning at most. So the place in front of
it is remembered, once for the innermost collection and once for every flow collection
around. A scalar that stands where a line of a block mapping begins must turn out to
be a key.

Labels are numbered. The number of a label is that of the names in use before it, and
a reference has the number of the latest label with its name. Tags are written out by
the handles that the directives so far explain.
-/

namespace Tickler.Yaml

/-- A place where a key may have begun. -/
structure KeyPlace where
  /-- The number of tokens in front of it. -/
  before : Nat
  line : Nat
  column : Nat
  /-- Nothing but a key may stand there. -/
  required : Bool
deriving DecidableEq, Repr

/-- The state of the search for tokens. -/
structure Scan where
  cursor : Cursor
  /-- The tokens found, the latest first. -/
  tokens : List Token := []
  /-- The columns of the open block collections, the innermost first. -/
  indents : List Nat := []
  /-- The possible key of the innermost collection. -/
  keyPlace : Option KeyPlace := none
  /-- The possible keys outside each open flow collection, the innermost first. -/
  outerPlaces : List (Option KeyPlace) := []
  /-- A key may begin at the next token. -/
  keyAllowed : Bool := true
  /-- The names in use for labels, and the number of each. -/
  labels : List (List Char × Nat) := []
  /-- The handles that directives explain. -/
  handles : Handles := []
  /-- A directive has given the version. -/
  versionGiven : Bool := false

/-- Skip white space, comments and line breaks in front of a token, and the byte order
mark of each line. In block context a tab does not count as white space where a key may
begin, and a line break allows a key to begin. -/
def skipToToken (flow : Bool) (keyAllowed comment : Bool) (line column : Nat) :
    List Char → Cursor × Bool
  | [] => (⟨[], line, column⟩, keyAllowed)
  | character :: rest =>
      if character = '\n' then skipToToken flow (keyAllowed || !flow) false (line + 1) 0 rest
      else if comment ∨ character = ' ' ∨ (character = '\t' ∧ (flow ∨ !keyAllowed)) ∨
          (character = byteOrderMark ∧ column = 0) then
        skipToToken flow keyAllowed comment line (column + 1) rest
      else if character = '#' then skipToToken flow keyAllowed true line (column + 1) rest
      else (⟨character :: rest, line, column⟩, keyAllowed)
termination_by structural remaining => remaining

namespace Scan

/-- The search is inside a flow collection. -/
def inFlow (scan : Scan) : Bool := !scan.outerPlaces.isEmpty

/-- The column behind the innermost block collection's: its lines begin there or
further right. -/
def contentColumn (scan : Scan) : Nat := (scan.indents.head?.map (· + 1)).getD 0

/-- One token more. -/
def emit (token : Token) (scan : Scan) : Scan := { scan with tokens := token :: scan.tokens }

/-- One token more, in its place among those found before. -/
def insert (before : Nat) (token : Token) (scan : Scan) : Scan :=
  let later := scan.tokens.length - before
  { scan with tokens := scan.tokens.take later ++ token :: scan.tokens.drop later }

/-- A number of characters further on the same line. -/
def forward (count : Nat) (scan : Scan) : Scan :=
  { scan with cursor :=
      ⟨scan.cursor.rest.drop count, scan.cursor.line, scan.cursor.column + count⟩ }

/-- Whether keys may begin at the next token. -/
def allowing (keyAllowed : Bool) (scan : Scan) : Scan := { scan with keyAllowed }

/-- Close the block collections that the given columns lie left of. -/
def closeBlocks (closed : Nat → Bool) (scan : Scan) : Scan :=
  { scan with
    tokens := (scan.indents.takeWhile closed).map (fun _ => .blockEnd) ++ scan.tokens
    indents := scan.indents.dropWhile closed }

/-- Open a block collection in front of a token, unless one is open in this column
or further right, or the search is inside a flow collection. -/
def openBlock (column before : Nat) (start : Token) (scan : Scan) : Scan :=
  if !scan.inFlow ∧ scan.indents.head?.all (· < column) then
    { scan.insert before start with indents := column :: scan.indents }
  else scan

/-- Give up the possible key. One that is required cannot be given up. -/
def dropKeyPlace (scan : Scan) : Except Fault Scan :=
  if scan.keyPlace.any KeyPlace.required then .error .missingColon
  else .ok { scan with keyPlace := none }

/-- Remember that a key may begin here. -/
def noteKeyPlace (scan : Scan) : Except Fault Scan :=
  if scan.keyAllowed then do
    let scan ← scan.dropKeyPlace
    .ok { scan with keyPlace := some {
      before := scan.tokens.length
      line := scan.cursor.line
      column := scan.cursor.column
      required := !scan.inFlow && scan.indents.head? == some scan.cursor.column } }
  else .ok scan

/-- The number of characters that may stand between the beginning of a key and its
colon. -/
def longestKey : Nat := 1024

/-- A colon at a place can still belong to a key that begins at the other. -/
def isOpenAt (cursor : Cursor) (place : KeyPlace) : Bool :=
  place.line == cursor.line && cursor.column ≤ place.column + longestKey

/-- Go to the next token, and give up the keys and block collections that end in
front of it. -/
def ready (scan : Scan) : Except Fault Scan :=
  let (cursor, keyAllowed) := skipToToken scan.inFlow scan.keyAllowed false scan.cursor.line
    scan.cursor.column scan.cursor.rest
  let lost := fun place => KeyPlace.required place && !isOpenAt cursor place
  if (scan.keyPlace :: scan.outerPlaces).any (Option.any lost) then .error .missingColon
  else
    let scan := { scan with
      cursor
      keyAllowed
      keyPlace := scan.keyPlace.filter (isOpenAt cursor)
      outerPlaces := scan.outerPlaces.map (Option.filter (isOpenAt cursor)) }
    .ok (if scan.inFlow then scan else scan.closeBlocks (cursor.column < ·))

/-- The end of the text closes everything that indentation opened. -/
def finish (scan : Scan) : Except Fault (List Token) := do
  let scan ← scan.dropKeyPlace
  .ok (scan.closeBlocks fun _ => true).tokens.reverse

/-- A document marker, which closes everything that indentation opened. -/
def marker (token : Token) (scan : Scan) : Except Fault Scan := do
  let scan ← (scan.closeBlocks fun _ => true).dropKeyPlace
  .ok ((scan.emit token).allowing false |>.forward 3)

/-- The start of a flow collection, which may itself be a key. -/
def flowStart (token : Token) (scan : Scan) : Except Fault Scan := do
  let scan ← scan.noteKeyPlace
  .ok { (scan.emit token).allowing true |>.forward 1 with
    keyPlace := none
    outerPlaces := scan.keyPlace :: scan.outerPlaces }

/-- The end of a flow collection, behind which its own key place counts again. -/
def flowEnd (token : Token) (scan : Scan) : Except Fault Scan := do
  let scan ← scan.dropKeyPlace
  .ok { (scan.emit token).allowing false |>.forward 1 with
    keyPlace := scan.outerPlaces.head?.join
    outerPlaces := scan.outerPlaces.tail }

/-- A comma between the items of a flow collection. -/
def flowComma (scan : Scan) : Except Fault Scan := do
  let scan ← scan.dropKeyPlace
  .ok ((scan.emit .flowEntry).allowing true |>.forward 1)

/-- A dash in front of an item of a block sequence. -/
def dash (scan : Scan) : Except Fault Scan := do
  if !scan.inFlow ∧ !scan.keyAllowed then throw .misplacedIndicator
  let scan ← (scan.openBlock scan.cursor.column scan.tokens.length .blockSequenceStart).dropKeyPlace
  .ok ((scan.emit .blockEntry).allowing true |>.forward 1)

/-- A question mark in front of a key. -/
def questionMark (scan : Scan) : Except Fault Scan := do
  if !scan.inFlow ∧ !scan.keyAllowed then throw .misplacedIndicator
  let scan ← (scan.openBlock scan.cursor.column scan.tokens.length .blockMappingStart).dropKeyPlace
  .ok ((scan.emit .key).allowing (!scan.inFlow) |>.forward 1)

/-- A colon. Where a key may have begun on the same line, one has. -/
def colon (scan : Scan) : Except Fault Scan :=
  match scan.keyPlace with
  | some place =>
      let keyed := { scan.insert place.before .key with keyPlace := none }
      let opened := keyed.openBlock place.column place.before .blockMappingStart
      .ok ((opened.emit .value).allowing false |>.forward 1)
  | none =>
      if !scan.inFlow ∧ !scan.keyAllowed then .error .misplacedIndicator
      else
        let opened := scan.openBlock scan.cursor.column scan.tokens.length .blockMappingStart
        .ok ((opened.emit .value).allowing (!scan.inFlow) |>.forward 1)

/-- A scalar between quotes. -/
def quoted (double : Bool) (rest : List Char) (scan : Scan) : Except Fault Scan := do
  let scan ← scan.noteKeyPlace
  let (text, cursor) ←
    quotedScalar double .text [] Gap.none scan.cursor.line (scan.cursor.column + 1) rest
  .ok { (scan.emit (.scalar text false)).allowing false with cursor }

/-- A scalar without quotes. -/
def plain (scan : Scan) : Except Fault Scan := do
  let scan ← scan.noteKeyPlace
  let (text, cursor, broken) ← plainScalar scan.inFlow scan.contentColumn [] Gap.none
    scan.cursor.line scan.cursor.column scan.cursor.rest
  .ok { (scan.emit (.scalar text true)).allowing broken with cursor }

/-- A block scalar. No key can begin with it, but one may behind it. -/
def block (folding : Bool) (scan : Scan) : Except Fault Scan := do
  let scan ← scan.dropKeyPlace
  let (text, cursor) ← blockScalar folding scan.indents.head? (scan.forward 1).cursor
  .ok { (scan.emit (.scalar text false)).allowing true with cursor }

/-- A name behind a sign for a label or a reference. These characters may be glued to
it, and nothing else. -/
def labelName (text : List Char) : Except Fault (List Char × List Char) :=
  let rest := text.dropWhile isNameCharacter
  let name := text.takeWhile isNameCharacter
  if name ≠ [] ∧ (atGap rest ∨ rest.head?.any "?:,]\x7d%@\x60".toList.contains) then
    .ok (name, rest)
  else .error .malformedLabel

/-- The label of the node that follows. -/
def label (rest : List Char) (scan : Scan) : Except Fault Scan := do
  let scan ← scan.noteKeyPlace
  let (name, rest) ← labelName rest
  let number := scan.labels.length
  .ok { (scan.emit (.anchor number)).allowing false with
    cursor := scan.cursor.advanced rest
    labels := (name, number) :: scan.labels.filter fun entry => entry.1 != name }

/-- A reference to the node with a label. -/
def reference (rest : List Char) (scan : Scan) : Except Fault Scan := do
  let scan ← scan.noteKeyPlace
  let (name, rest) ← labelName rest
  match scan.labels.lookup name with
  | some number =>
      .ok { (scan.emit (.reference number)).allowing false with
        cursor := scan.cursor.advanced rest }
  | none => .error .unknownLabel

/-- The tag of the node that follows. In a flow collection a comma may be glued to it. -/
def tag (scan : Scan) : Except Fault Scan := do
  let scan ← scan.noteKeyPlace
  let (text, rest) ← (scan.handles ++ Handles.default).read scan.cursor.rest
  if atGap rest ∨ (scan.inFlow ∧ rest.head? = some ',') then
    .ok { (scan.emit (.tag text)).allowing false with cursor := scan.cursor.advanced rest }
  else .error .malformedTag

/-- What a directive says. The version is 1.1 or 1.2, and neither the version nor what a
handle stands for is said twice. -/
def obey (scan : Scan) : Directive → Except Fault Scan
  | .version major minor =>
      if !scan.versionGiven ∧ major = 1 ∧ (minor = 1 ∨ minor = 2) then
        .ok { scan with versionGiven := true }
      else .error .malformedDirective
  | .meaning handle start =>
      if (scan.handles.lookup handle).isSome then .error .malformedDirective
      else .ok { scan with handles := (handle, start) :: scan.handles }

/-- A directive, which takes a whole line. -/
def directive (rest : List Char) (scan : Scan) : Except Fault Scan := do
  let scan ← (scan.closeBlocks fun _ => true).dropKeyPlace
  let (directive, rest) ← Directive.read rest
  match lineEnd? rest with
  | some rest =>
      ({ (scan.emit .directive).allowing false with
        cursor := scan.cursor.nextLine rest } : Scan).obey directive
  | none => .error .malformedDirective

/-- These begin a token other than a plain scalar, or none at all. -/
def isIndicator (character : Char) : Bool :=
  "-?:,[]\x7b\x7d#&*!|>'\"%@\x60".toList.contains character

/-- The token that begins with the given character, in front of the given rest. -/
def token (character : Char) (rest : List Char) (scan : Scan) : Except Fault Scan :=
  let alone := atGap rest
  if scan.cursor.column = 0 ∧ character = '%' then scan.directive rest
  else if scan.cursor.column = 0 ∧ startsWithThree '-' (character :: rest) then
    scan.marker .documentStart
  else if scan.cursor.column = 0 ∧ startsWithThree '.' (character :: rest) then
    scan.marker .documentEnd
  else if character = '[' then scan.flowStart .flowSequenceStart
  else if character = '{' then scan.flowStart .flowMappingStart
  else if character = ']' then scan.flowEnd .flowSequenceEnd
  else if character = '}' then scan.flowEnd .flowMappingEnd
  else if character = ',' then scan.flowComma
  else if character = '-' ∧ alone then scan.dash
  else if character = '?' ∧ (scan.inFlow ∨ alone) then scan.questionMark
  else if character = ':' ∧ (scan.inFlow ∨ alone) then scan.colon
  else if character = '"' then scan.quoted true rest
  else if character = '\'' then scan.quoted false rest
  else if character = '&' then scan.label rest
  else if character = '*' then scan.reference rest
  else if character = '!' then scan.tag
  else if character = '|' ∧ !scan.inFlow then scan.block false
  else if character = '>' ∧ !scan.inFlow then scan.block true
  else if !isGap character ∧ (!isIndicator character ∨ ['-', '?', ':'].contains character) then
    scan.plain
  else .error .unexpectedCharacter

/-- Find the remaining tokens. Every token takes a character at least, so one step
for each character and one for the end are enough. -/
def remaining : Nat → Scan → Except Fault (List Token)
  | 0, _ => .error .unexpectedToken
  | steps + 1, scan => do
      let scan ← scan.ready
      match scan.cursor.rest with
      | [] => scan.finish
      | character :: rest => remaining steps (← scan.token character rest)

end Scan

/-- The tokens of a text. -/
def tokens (text : List Char) : Except Fault (List Token) :=
  if text.all isAllowed then
    let lines := normalised text
    Scan.remaining (lines.length + 1) { cursor := ⟨lines, 0, 0⟩ }
  else .error .forbiddenCharacter

end Tickler.Yaml
