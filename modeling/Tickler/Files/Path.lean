import Tickler.Text.Fields

/-!
# Paths

A path is a text with slashes between its segments. An empty segment and a single
point lead nowhere, and two points lead out of a folder. A path is followed segment
by segment and can be followed only through folders, so a path that ends in a slash
or a point needs a folder at its end. Long segments and long paths lead nowhere at all.
-/

namespace Tickler

/-- The names on the way to a file or folder, from the folder that a run starts in,
or from the root folder, whose own name is a slash. -/
abbrev Location := List (List Char)

namespace Path

/-- The segments of a path. -/
def segments (path : List Char) : List (List Char) := fields '/' path

/-- Where a path begins. -/
def origin (path : List Char) : Location :=
  if path.head? = some '/' then [['/']] else []

/-- A segment that leads nowhere. -/
def isIdle (segment : List Char) : Bool := segment = [] ∨ segment = ['.']

/-- A segment that leads out of a folder. -/
def isUpward (segment : List Char) : Bool := segment = ['.', '.']

/-- A location inside the folder that a run starts in. -/
def isInside (location : Location) : Bool :=
  !location.head?.any fun first => isUpward first || first == ['/']

/-- The location around another one. The root folder has none around it. -/
def outside (here : Location) : Location :=
  if here = [['/']] then here
  else if here.all isUpward then here ++ [['.', '.']]
  else here.dropLast

/-- The number of bytes that a text takes. -/
def byteCount (text : List Char) : Nat :=
  text.foldr (fun character bytes => character.utf8Size + bytes) 0

/-- A segment that something can be named by: 255 bytes at most, and no null among
them. -/
def isNameable (segment : List Char) : Bool := byteCount segment ≤ 255 && !segment.contains '\x00'

/-- The number of bytes in the longest path that can be followed. -/
def longestPath : Nat := 4095

/-- The location that a segment leads to. -/
def step (here : Location) (segment : List Char) : Location :=
  if isIdle segment then here
  else if isUpward segment then outside here
  else here ++ [segment]

/-- Follow segments from a location, through passable locations only. -/
def follow (passable : Location → Bool) (here : Location) : List (List Char) → Option Location
  | [] => some here
  | segment :: rest =>
      if passable here ∧ isNameable segment then follow passable (step here segment) rest
      else none

/-- Follow a path. -/
def followed? (passable : Location → Bool) (path : List Char) : Option Location :=
  if byteCount path ≤ longestPath then follow passable (origin path) (segments path) else none

/-- A path ends in a name, and not in a slash or in points. -/
def endsInName (path : List Char) : Bool :=
  match (segments path).getLast? with
  | some segment => !isIdle segment && !isUpward segment
  | none => false

/-- Segments without the idle ones at their end. The first segment stays: a point
there is a name for the starting folder, and nothing there is the root folder. -/
def trimmed : List (List Char) → List (List Char)
  | [] => []
  | first :: rest => first :: (rest.reverse.dropWhile isIdle).reverse

/-- The path of the folder that a path names something in; empty for the starting
folder. -/
def folder (path : List Char) : List Char :=
  match trimmed (trimmed (segments path)).dropLast with
  | [[]] => ['/']
  | parts => joined '/' parts

/-- The path of a name inside a folder. -/
def inside (folder name : List Char) : List Char :=
  if folder = [] ∨ folder.getLast? = some '/' then folder ++ name else folder ++ '/' :: name

end Path

end Tickler
