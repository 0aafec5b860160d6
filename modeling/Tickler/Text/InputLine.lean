import Tickler.Failure
import Tickler.Text.LineEnding
import Tickler.Text.Utf8

/-!
# Lines of input

Input is a sequence of bytes and is taken line by line. A line is everything up to
and including the next line feed, or everything that is left. It is taken whether or
not its bytes are a text, so a bad line never spoils the lines behind it.
-/

namespace Tickler

/-- The byte of a line feed. It occurs in no longer UTF-8 sequence, so bytes can be
cut into lines before they are decoded. -/
def lineFeed : UInt8 := 10

/-- Cut the first line, with its line feed, off the front of the bytes. -/
def cutLine (bytes : List UInt8) : List UInt8 × List UInt8 :=
  match bytes.dropWhile (· != lineFeed) with
  | [] => (bytes, [])
  | feed :: left => (bytes.takeWhile (· != lineFeed) ++ [feed], left)

/-- The text of a line without its ending. -/
def lineText (line : List UInt8) : Except Failure (List Char) :=
  match Utf8.decode? line with
  | some text => .ok (withoutLineEnding text)
  | none => .error (.input "stream did not contain valid UTF-8".toList)

/-- Take one line: its text, or the failure, and the bytes left. -/
def takeLine (bytes : List UInt8) : Except Failure (List Char) × List UInt8 :=
  let (line, left) := cutLine bytes
  (lineText line, left)

/-- Take a number of lines one after the other, with the bytes left after each. -/
def takeLines : Nat → List UInt8 → List (Except Failure (List Char) × List UInt8)
  | 0, _ => []
  | count + 1, bytes =>
      let taken := takeLine bytes
      taken :: takeLines count taken.2

/-- Cutting loses and adds no byte. -/
theorem cutLine_append (bytes : List UInt8) : (cutLine bytes).1 ++ (cutLine bytes).2 = bytes := by
  have whole := @List.takeWhile_append_dropWhile _ (· != lineFeed) bytes
  simp only [cutLine]
  split
  · simp
  · rename_i feed left cut
    rw [cut] at whole
    simpa using whole

end Tickler
