import Tickler.Settings.Settings
import Tickler.Text.Blank
import Tickler.Yaml.Node

/-!
# Reading settings

Settings are read from a document whose root is a mapping with the settings in a
section, itself a mapping. A key that is missing leaves the default, and so do a
missing section and an empty document. Unknown keys are passed over with whatever
they hold, but each known key may stand only once.
-/

namespace Tickler.Settings

open Yaml (Node)

/-- Why a text gives no settings. -/
inductive Problem where
  /-- The text is no document. -/
  | malformed (fault : Yaml.Fault)
  /-- Something else stands where a mapping has to. -/
  | notAMapping
  /-- A collection stands where a name has to. -/
  | notAName
  /-- A known key stands twice. -/
  | repeatedKey (key : List Char)
  /-- A name that is none of those that may stand there. -/
  | unknownName (name : List Char)
deriving DecidableEq

/-- A short description of a problem. -/
def Problem.text : Problem → List Char
  | malformed fault => fault.text
  | notAMapping => "expected a mapping".toList
  | notAName => "expected a name".toList
  | repeatedKey key => "duplicate field ".toList ++ key
  | unknownName name => "unknown name ".toList ++ name

/-- The name that a scalar in a document holds, quoted or not. -/
def nameOf (root node : Node) : Except Problem (List Char) :=
  match (root.resolved node).untagged with
  | .scalar text _ => .ok text
  | _ => .error .notAName

/-- A scalar that stands for nothing. -/
def isNull : Node → Bool
  | .scalar text true => ["", "~", "null", "Null", "NULL"].any fun null => null.toList = text
  | _ => false

/-- The name of a choice. A tag with an exclamation mark in front gives it in place of
the scalar, which then stands for nothing. -/
def choiceOf (root node : Node) : Except Problem (List Char) :=
  match root.resolved node with
  | .tagged ('!' :: name) scalar =>
      if name ≠ [] ∧ isNull scalar then .ok name else .error .notAName
  | _ => nameOf root node

/-- The entries of a mapping by name. Where nothing is written there are none. -/
def entriesOf (root node : Node) : Except Problem (List (List Char × Node)) :=
  match (root.resolved node).untagged with
  | .mapping entries => entries.mapM fun (key, value) => do .ok (← nameOf root key, value)
  | .scalar [] true => .ok []
  | _ => .error .notAMapping

/-- The value of a known key, if the key stands there. -/
def lookUp (key : List Char) (entries : List (List Char × Node)) :
    Except Problem (Option Node) :=
  match entries.filter fun entry => entry.1 = key with
  | [] => .ok none
  | [entry] => .ok (some entry.2)
  | _ => .error (.repeatedKey key)

/-- The value of a choice, or the default if nothing is chosen. -/
def choose {α : Type} (ofName? : List Char → Option α) (default : α) (root : Node) :
    Option Node → Except Problem α
  | none => .ok default
  | some node => do
      let name ← choiceOf root node
      match ofName? name with
      | some value => .ok value
      | none => .error (.unknownName name)

/-- The settings in a section of a document. -/
def ofSection (root node : Node) : Except Problem Settings := do
  let entries ← entriesOf root node
  let style ← choose Style.ofName? .plain root (← lookUp styleKey entries)
  let colour ← choose Colour.ofName? .auto root (← lookUp colourKey entries)
  .ok { style, colour }

/-- The settings in a document. -/
def ofNode (root : Node) : Except Problem Settings := do
  match ← lookUp sectionKey (← entriesOf root root) with
  | none => .ok {}
  | some node => ofSection root node

/-- The settings that a text gives. A text of white space only gives the defaults. -/
def ofText (text : List Char) : Except Problem Settings :=
  if text.all isBlank then .ok {}
  else match Node.ofText? text with
    | .error fault => .error (.malformed fault)
    | .ok none => .ok {}
    | .ok (some root) => ofNode root

/-- Settings are read back from their written form. -/
theorem ofText_text (settings : Settings) : ofText settings.text = .ok settings := by
  have read : (ofText settings.text).toOption = some settings := by
    obtain ⟨style, colour⟩ := settings
    cases style <;> cases colour <;> decide +kernel
  cases outcome : ofText settings.text with
  | error problem =>
    rw [outcome] at read
    cases read
  | ok found =>
    rw [outcome] at read
    exact congrArg Except.ok (Option.some.inj read)

end Tickler.Settings
