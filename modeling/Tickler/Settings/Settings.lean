import Tickler.Style

/-!
# Settings

What a user may set once for all runs: the style in which results are shown, and
when colour is used. Settings are written as a small document with every key, in a
fixed order, so settings have one written form.
-/

namespace Tickler

/-- When colour is used. -/
inductive Colour where
  | auto
  | always
  | never
deriving DecidableEq, Repr, Inhabited

namespace Colour

/-- The name of a choice. -/
def name : Colour → List Char
  | auto => "auto".toList
  | always => "always".toList
  | never => "never".toList

/-- The choice with a name. Names are case sensitive. -/
def ofName? (name : List Char) : Option Colour :=
  [auto, always, never].find? fun colour => colour.name = name

/-- A choice is found under its own name. -/
theorem ofName?_name (colour : Colour) : ofName? colour.name = some colour := by
  cases colour <;> decide

end Colour

/-- The settings of a user. What is not set has the value given here. -/
structure Settings where
  style : Style := .plain
  colour : Colour := .auto
deriving DecidableEq, Repr, Inhabited

namespace Settings

/-- The key of the section that holds all settings. -/
def sectionKey : List Char := "general".toList

/-- The key of the style. -/
def styleKey : List Char := "default_output".toList

/-- The key of the choice of colour. -/
def colourKey : List Char := "color".toList

/-- The written form of settings. -/
def text (settings : Settings) : List Char :=
  sectionKey ++ ":\n  ".toList ++ styleKey ++ ": ".toList ++ settings.style.name ++
    "\n  ".toList ++ colourKey ++ ": ".toList ++ settings.colour.name ++ ['\n']

end Settings

end Tickler
