import Tickler.Failure
import Tickler.Files.Files
import Tickler.Settings.Reading

/-!
# Settings in files

Settings are loaded from the file that a path leads to, and are the defaults if it
leads to nothing. Saving makes the folder of the file first if need be; if the file cannot
be written then, the folder stays, and so does the part of the text that the file has taken.
-/

namespace Tickler.Settings

/-- Why settings cannot be loaded or saved. -/
inductive Fault where
  | unreadable (path : List Char)
  | unparsable (path : List Char) (problem : Problem)
  | noFolder (folder : List Char)
  | unwritable (path : List Char)
  | cutShort (path : List Char)
deriving DecidableEq

/-- What is said about a fault: what failed, where, and why. -/
def Fault.detail : Fault → List Char
  | unreadable path =>
      "Failed to read config file ".toList ++ path ++ ": not a text file".toList
  | unparsable path problem =>
      "Failed to parse config file ".toList ++ path ++ ": ".toList ++ problem.text
  | noFolder folder =>
      "Failed to create directory ".toList ++ folder ++ ": a file is in the way".toList
  | unwritable path =>
      "Failed to write config file ".toList ++ path ++ ": not a place for a file".toList
  | cutShort path =>
      "Failed to write config file ".toList ++ path ++ ": no room for all of it".toList

/-- A fault of loading or saving as a failure of the run. -/
def Fault.failure (fault : Fault) : Failure := .settings fault.detail

/-- The settings at a path. -/
def load (files : Files) (path : List Char) : Except Fault Settings :=
  match files.at? path with
  | none => .ok {}
  | some (.text contents) => (ofText contents).mapError (.unparsable path)
  | some .unreadable | some .folder => .error (.unreadable path)

/-- Why settings were not saved, and the files that the attempt left. -/
structure Unsaved where
  fault : Fault
  left : Files

/-- The failure of a run that could not save settings. -/
def Unsaved.failure (unsaved : Unsaved) : Failure := unsaved.fault.failure

/-- The files with the folder of a path, which is made if it does not exist. Folders that
are made before one that cannot be made are left. -/
def makeFolder (files : Files) (path : List Char) : Except Unsaved Files :=
  let folder := Path.folder path
  if folder = [] ∨ (files.at? folder).isSome then .ok files
  else match files.makePath folder with
    | (true, made) => .ok made
    | (false, left) => .error ⟨.noFolder folder, left⟩

/-- The files after settings are saved at a path, in a file with room for so many bytes. -/
def save (settings : Settings) (room : Option Nat) (files : Files) (path : List Char) :
    Except Unsaved Files := do
  let made ← makeFolder files path
  match made.write room path settings.text with
  | .done saved => .ok saved
  | .cutShort left => .error ⟨.cutShort path, left⟩
  | .unopened => .error ⟨.unwritable path, made⟩

end Tickler.Settings
