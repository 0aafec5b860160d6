/-!
# Styles of output

A result is shown as plain text or as a JSON document. The names of the styles are
those that settings and arguments use; they are case sensitive.
-/

namespace Tickler

/-- How a result is shown. -/
inductive Style where
  | plain
  | json
deriving DecidableEq, Repr, Inhabited

namespace Style

/-- The name of a style. -/
def name : Style → List Char
  | plain => "pretty".toList
  | json => "json".toList

/-- The style with a name. -/
def ofName? (name : List Char) : Option Style :=
  [plain, json].find? fun style => style.name = name

/-- A style is found under its own name. -/
theorem ofName?_name (style : Style) : ofName? style.name = some style := by
  cases style <;> decide

end Style

end Tickler
