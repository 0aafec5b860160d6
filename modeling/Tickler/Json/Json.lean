import Tickler.Json.Quoted

/-!
# JSON documents

The values that a report is made of, and their written form: one member to a line,
indented by two spaces for every object around it, in the order in which the object
lists its members.
-/

namespace Tickler

/-- A JSON value without lists, fractions and truth values, which no report holds. -/
inductive Json where
  | null
  | integer (number : Int)
  | text (characters : List Char)
  | object (members : List (List Char × Json))

namespace Json

/-- A line break and the indentation inside a number of objects. -/
def lineBreak (depth : Nat) : List Char := '\n' :: List.replicate (2 * depth) ' '

mutual

/-- The written form of a value inside a number of objects. -/
def written (depth : Nat) : Json → List Char
  | .null => "null".toList
  | .integer number => Decimal.signed number
  | .text characters => quoted characters
  | .object [] => ['{', '}']
  | .object (member :: members) =>
      '{' :: writtenMember (depth + 1) member ++ writtenMembers (depth + 1) members ++
        lineBreak depth ++ ['}']
termination_by structural value => value

/-- The written form of one member, on a line of its own. -/
def writtenMember (depth : Nat) : List Char × Json → List Char
  | (key, value) => lineBreak depth ++ quoted key ++ ':' :: ' ' :: written depth value
termination_by structural member => member

/-- The written form of all members but the first, with a comma before each. -/
def writtenMembers (depth : Nat) : List (List Char × Json) → List Char
  | [] => []
  | member :: members => ',' :: writtenMember depth member ++ writtenMembers depth members
termination_by structural members => members

end

/-- The text of a document. -/
def document (value : Json) : List Char := written 0 value

end Json

end Tickler
