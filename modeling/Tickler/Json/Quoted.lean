import Tickler.Text.Decimal

/-!
# Quoted JSON texts

A text stands between double quotes. A quote, a backslash and the control
characters below the space are escaped, five of those by a letter and the others
by four lowercase hexadecimal digits. Every other character, the delete control
and all characters outside ASCII included, stands for itself.
-/

namespace Tickler.Json

/-- The two hexadecimal digits of a number below 256. -/
def hexPair (number : Nat) : List Char :=
  [Nat.digitChar (number / 16 % 16), Nat.digitChar (number % 16)]

/-- A character as it is written between quotes. -/
def escaped (character : Char) : List Char :=
  match character with
  | '"' => ['\\', '"']
  | '\\' => ['\\', '\\']
  | '\n' => ['\\', 'n']
  | '\r' => ['\\', 'r']
  | '\t' => ['\\', 't']
  | '\x08' => ['\\', 'b']
  | '\x0c' => ['\\', 'f']
  | other =>
      if other.toNat < 0x20 then ['\\', 'u', '0', '0'] ++ hexPair other.toNat else [other]

/-- A text between quotes. -/
def quoted (text : List Char) : List Char := '"' :: text.flatMap escaped ++ ['"']

end Tickler.Json
