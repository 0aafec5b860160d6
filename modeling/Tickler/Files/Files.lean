import Tickler.Files.Path
import Tickler.Text.Utf8

/-!
# Files

The files that a run may see, by location. Every folder on the way to an entry
exists; a folder without entries can be an entry of its own. A run changes what stands
there in two ways only: it makes folders, where nothing stood, and it writes a text to a
file. The file is empty as soon as it is opened, and takes the text afterwards, as much of
it as there is room for. So a write that fails may have changed the file.
-/

namespace Tickler

/-- What stands at a location. -/
inductive Entry where
  | text (contents : List Char)
  /-- A file whose bytes are no text or cannot be had. -/
  | unreadable
  | folder
deriving DecidableEq

/-- The file that holds some bytes. -/
def Entry.ofBytes (bytes : List UInt8) : Entry :=
  match Utf8.decode? bytes with
  | some contents => .text contents
  | none => .unreadable

/-- Entries by location. -/
structure Files where
  entries : List (Location × Entry) := []
deriving DecidableEq

namespace Files

/-- The entry at exactly this location. -/
def get? (files : Files) (location : Location) : Option Entry :=
  files.entries.lookup location

/-- A folder that surely exists: the one that a run starts in, one around it, or the
root folder. -/
def isGiven (location : Location) : Bool :=
  location = [['/']] ∨ location.all Path.isUpward

/-- There is a folder at a location. -/
def isFolder (files : Files) (location : Location) : Bool :=
  isGiven location || files.get? location = some .folder ||
    files.entries.any fun (other, _) => location.isPrefixOf other && location != other

/-- There is a file at a location. -/
def isFile (files : Files) (location : Location) : Bool :=
  match files.get? location with
  | some .folder | none => false
  | some _ => true

/-- What stands at a location: a folder, with an entry of its own or without, or a file. -/
def standing? (files : Files) (location : Location) : Option Entry :=
  if files.isFolder location then some .folder else files.get? location

/-- What a path leads to. -/
def at? (files : Files) (path : List Char) : Option Entry :=
  match Path.followed? files.isFolder path with
  | none => none
  | some location => files.standing? location

/-- Make a folder at a location, unless there is one. -/
def makeFolder (files : Files) (location : Location) : Files :=
  if files.isFolder location then files else ⟨files.entries ++ [(location, .folder)]⟩

/-- Make a folder at a location, and then at each location that segments lead to from
there. A file in the way, or a segment that nothing can be named by, ends the attempt,
and the folders made in front of it stay. -/
def makeFolders (files : Files) (here : Location) : List (List Char) → Bool × Files
  | [] => if files.isFile here then (false, files) else (true, files.makeFolder here)
  | segment :: rest =>
      if files.isFile here then (false, files)
      else if Path.isNameable segment then
        (files.makeFolder here).makeFolders (Path.step here segment) rest
      else (false, files.makeFolder here)

/-- Make all folders on a path. Nothing is made on a path that is too long or holds a
null. -/
def makePath (files : Files) (path : List Char) : Bool × Files :=
  if Path.byteCount path ≤ Path.longestPath ∧ !path.contains '\x00' then
    files.makeFolders (Path.origin path) (Path.segments path)
  else (false, files)

/-- Give a location an entry, in place of what it had. -/
def put (files : Files) (location : Location) (entry : Entry) : Files :=
  ⟨(location, entry) :: files.entries.filter fun other => other.1 != location⟩

/-- The location of the file that a path names for writing. Its folder has to exist, and no
folder may stand where the file has to. -/
def writable? (files : Files) (path : List Char) : Option Location :=
  match Path.followed? files.isFolder path with
  | some location =>
      if Path.endsInName path ∧ !files.isFolder location then some location else none
  | none => none

/-- What becomes of a text that is written to a file. -/
inductive Writing where
  /-- There is no file to write to, and nothing has changed. -/
  | unopened
  /-- The file was opened, but it takes only a part of the text. -/
  | cutShort (left : Files)
  /-- The file holds the text. -/
  | done (left : Files)
deriving DecidableEq

/-- The bytes of a text that a file has room for. Without a number there is room for all. -/
def fitting (room : Option Nat) (contents : List Char) : List UInt8 :=
  let bytes := Utf8.encode contents
  bytes.take (room.getD bytes.length)

/-- Write a text to the file that a path names: open it, which makes it or empties it, and
then let it take the text. -/
def write (files : Files) (room : Option Nat) (path contents : List Char) : Writing :=
  match files.writable? path with
  | none => .unopened
  | some location =>
      let opened := files.put location (.text [])
      let taken := fitting room contents
      let left := opened.put location (.ofBytes taken)
      if taken = Utf8.encode contents then .done left else .cutShort left

/-- Giving a location an entry changes what stands there and nowhere else. -/
theorem get?_put (files : Files) (location other : Location) (entry : Entry) :
    (files.put location entry).get? other =
      if other = location then some entry else files.get? other := by
  simp only [get?, put]
  rw [List.lookup_cons]
  by_cases same : other = location
  · simp [same]
  · have apart : (other == location) = false := by simpa using same
    rw [apart, if_neg same]
    dsimp only
    induction files.entries with
    | nil => rfl
    | cons first rest inductionHypothesis =>
      obtain ⟨place, found⟩ := first
      by_cases removed : place = location
      · have unlike : (other == place) = false := by simpa [removed] using same
        rw [List.filter_cons_of_neg (by simp [removed]), List.lookup_cons, unlike]
        exact inductionHypothesis
      · rw [List.filter_cons_of_pos (by simp [removed]), List.lookup_cons, List.lookup_cons,
          inductionHypothesis]

end Files

end Tickler
