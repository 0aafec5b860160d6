import Tickler.Yaml.Token

/-!
# Block scalars

A block scalar is announced by a bar or an angle bracket at the end of a line, and its
text is made of the lines below that are indented as far as its first one. Behind a
bar the lines stay as they are. Behind an angle bracket a single line break between
two lines becomes a space, unless one of them begins with a blank, and of several line
breaks the first goes.

The line of the announcement may give the indentation as a digit, and say with a plus
that all line breaks at the end stay or with a minus that none does; otherwise one
stays.
-/

namespace Tickler.Yaml

/-- Which line breaks at the end of a block scalar belong to its text. -/
inductive Chomping where
  | strip
  | clip
  | keep
deriving DecidableEq, Repr

/-- The chomping that a sign asks for. -/
def Chomping.ofSign? : Char → Option Chomping
  | '+' => some .keep
  | '-' => some .strip
  | _ => none

/-- What the line of the announcement says. -/
structure BlockHeader where
  chomping : Chomping := .clip
  /-- How much further than the collection around it the scalar is indented. -/
  further : Option Nat := none
deriving DecidableEq, Repr

namespace BlockHeader

/-- The chomping that a text begins with, and the rest. -/
def chompingOf (text : List Char) : Option Chomping × List Char :=
  match text with
  | sign :: rest =>
      match Chomping.ofSign? sign with
      | some chomping => (some chomping, rest)
      | none => (none, text)
  | [] => (none, [])

/-- The indentation that a text begins with, and the rest. It is one digit and not
zero. -/
def indentationOf (text : List Char) : Except Fault (Option Nat × List Char) :=
  match text with
  | '0' :: _ => .error .malformedBlockScalar
  | digit :: rest =>
      if digit.isDigit then .ok (some (digit.toNat - 48), rest) else .ok (none, text)
  | [] => .ok (none, [])

/-- The header that a text begins with, and the rest. Sign and digit may stand in
either order. -/
def read (text : List Char) : Except Fault (BlockHeader × List Char) := do
  match chompingOf text with
  | (some chomping, rest) =>
      let (further, rest) ← indentationOf rest
      .ok ({ chomping, further }, rest)
  | (none, rest) =>
      match ← indentationOf rest with
      | (some further, rest) =>
          let (chomping, rest) := chompingOf rest
          .ok ({ chomping := chomping.getD .clip, further := some further }, rest)
      | (none, rest) => .ok ({}, rest)

end BlockHeader

/-- What stands behind the blanks and the comment at the end of a line: the next line,
or nothing at the end of the document. Anything else is none. -/
def lineEnd? (text : List Char) : Option (List Char) :=
  let content := text.dropWhile isGap
  if content.head? = some '#' then some (content.dropWhile (· != '\n'))
  else if content.head?.all (· == '\n') then some content
  else none

/-- The beginning of the line that follows a line break, or the end of the document. -/
def Cursor.nextLine (cursor : Cursor) : List Char → Cursor
  | '\n' :: rest => ⟨rest, cursor.line + 1, 0⟩
  | rest => cursor.advanced rest

/-- The text of a block scalar so far. -/
structure BlockText where
  /-- The characters, the latest first. -/
  text : List Char := []
  /-- The latest line has ended. -/
  ended : Bool := false
  /-- The number of empty lines since. -/
  emptyLines : Nat := 0
  /-- The latest line begins with a blank. -/
  blankFirst : Bool := false
deriving DecidableEq, Repr

namespace BlockText

/-- One more character of a line. -/
def push (block : BlockText) (character : Char) : BlockText :=
  { block with text := character :: block.text }

/-- Begin a line with a character. -/
def startLine (block : BlockText) (folding : Bool) (character : Char) : BlockText :=
  let folded := folding && block.ended && !block.blankFirst && !isGap character
  let join := if !block.ended then []
    else if !folded then ['\n']
    else if block.emptyLines = 0 then [' '] else []
  { text := character :: List.replicate block.emptyLines '\n' ++ join ++ block.text
    blankFirst := isGap character }

/-- End a line. -/
def endLine (block : BlockText) : BlockText := { block with ended := true }

/-- One more empty line. -/
def emptyLine (block : BlockText) : BlockText :=
  { block with emptyLines := block.emptyLines + 1 }

/-- The whole text, whose end is chomped. -/
def chomped (block : BlockText) (chomping : Chomping) : List Char :=
  let latest := if block.ended ∧ chomping ≠ .strip then ['\n'] else []
  let empty := if chomping = .keep then List.replicate block.emptyLines '\n' else []
  block.text.reverse ++ latest ++ empty

end BlockText

/-- The widest indentation in front of the first line that is not empty, the number of
empty lines, and the place behind the indentation. No tab may stand there. -/
def firstIndentation (widest emptyLines line column : Nat) :
    List Char → Except Fault (Nat × Nat × Cursor)
  | [] => .ok (max widest column, emptyLines, ⟨[], line, column⟩)
  | character :: rest =>
      if character = ' ' then firstIndentation widest emptyLines line (column + 1) rest
      else if character = '\t' then .error .tabInIndentation
      else if character = '\n' then
        firstIndentation (max widest column) (emptyLines + 1) (line + 1) 0 rest
      else .ok (max widest column, emptyLines, ⟨character :: rest, line, column⟩)
termination_by structural remaining => remaining

/-- Read on in a block scalar, inside a line or in the indentation in front of one. It
ends in front of the first line that is indented less. -/
def blockLines (folding : Bool) (indent : Nat) (inside : Bool) (block : BlockText)
    (line column : Nat) : List Char → Except Fault (BlockText × Cursor)
  | [] => .ok (block, ⟨[], line, column⟩)
  | character :: rest =>
      if inside then
        if character = '\n' then
          blockLines folding indent false block.endLine (line + 1) 0 rest
        else blockLines folding indent true (block.push character) line (column + 1) rest
      else if character = '\n' then
        blockLines folding indent false block.emptyLine (line + 1) 0 rest
      else if column < indent ∧ character = ' ' then
        blockLines folding indent false block line (column + 1) rest
      else if column < indent ∧ character = '\t' then .error .tabInIndentation
      else if column = indent then
        blockLines folding indent true (block.startLine folding character) line (column + 1) rest
      else .ok (block, ⟨character :: rest, line, column⟩)
termination_by structural remaining => remaining

/-- The block scalar that is announced right in front of a place, and the place behind
it. The column is that of the collection around it, if there is one. -/
def blockScalar (folding : Bool) (column : Option Nat) (cursor : Cursor) :
    Except Fault (List Char × Cursor) := do
  let (header, rest) ← BlockHeader.read cursor.rest
  match lineEnd? rest with
  | none => throw .malformedBlockScalar
  | some rest =>
      let start := cursor.nextLine rest
      let (indent, block, start) ← match header.further with
        | some further => .ok (column.getD 0 + further, {}, start)
        | none => do
            let (widest, emptyLines, start) ←
              firstIndentation 0 0 start.line start.column start.rest
            .ok (max widest (max 1 ((column.map (· + 1)).getD 0)),
              ({ emptyLines } : BlockText), start)
      let (block, cursor) ← blockLines folding indent false block start.line start.column start.rest
      .ok (block.chomped header.chomping, cursor)

end Tickler.Yaml
