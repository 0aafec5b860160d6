/-!
# Separated fields

A text is cut at every separator, so it always has one field more than it has
separators. Fields are joined with a separator between each two of them.
-/

namespace Tickler

/-- The fields of a text with one character more in front. A separator opens a field,
and any other character belongs to the first one. -/
def pushField (separator character : Char) (cut : List (List Char)) : List (List Char) :=
  if character = separator then [] :: cut
  else match cut with
    | [] => [[character]]
    | field :: others => (character :: field) :: others

/-- The fields of a text between its separators. -/
def fields (separator : Char) (text : List Char) : List (List Char) :=
  text.foldr (pushField separator) [[]]

/-- The text with the given fields. -/
def joined (separator : Char) : List (List Char) → List Char
  | [] => []
  | [field] => field
  | field :: others => field ++ separator :: joined separator others

end Tickler
