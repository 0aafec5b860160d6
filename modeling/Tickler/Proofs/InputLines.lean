import Tickler.Command.Run

/-!
# Lines of input and lines of arguments

A line is the same note whether it is given in the arguments or is the first of the input.
In the input it ends where its bytes end, or with a line feed, which a carriage return may
precede; what stands behind the line feed is never looked at, so it need not even be text.

Bytes are cut at line feeds before they are decoded. This agrees with cutting the text,
because the byte of a line feed stands in the encoding of no other character.
-/

namespace Tickler

/-- The byte of a carriage return. -/
def carriageReturn : UInt8 := 13

/-- Bytes that begin with a line: its encoding up to the end, or up to a line ending with
any bytes behind it. -/
inductive BeginsWithLine (line : List Char) : List UInt8 → Prop
  | unended : BeginsWithLine line (Utf8.encode line)
  | ended (left : List UInt8) : BeginsWithLine line (Utf8.encode line ++ lineFeed :: left)
  | returned (left : List UInt8) :
      BeginsWithLine line (Utf8.encode line ++ carriageReturn :: lineFeed :: left)

/-- Where there is no line feed the search for one goes on. -/
theorem ne_lineFeed_of_mem {bytes : List UInt8} (unended : lineFeed ∉ bytes) :
    ∀ byte ∈ bytes, (byte != lineFeed) = true := by
  intro byte member
  rw [bne_iff_ne]
  rintro rfl
  exact unended member

/-- Bytes without a line feed are one line. -/
theorem cutLine_of_not_mem {bytes : List UInt8} (unended : lineFeed ∉ bytes) :
    cutLine bytes = (bytes, []) := by
  have whole : bytes.dropWhile (· != lineFeed) = [] := by
    simpa using @List.dropWhile_append_of_pos _ _ bytes [] (ne_lineFeed_of_mem unended)
  simp only [cutLine, whole]

/-- A line ends with the first line feed. -/
theorem cutLine_append_lineFeed {front : List UInt8} (unended : lineFeed ∉ front)
    (left : List UInt8) :
    cutLine (front ++ lineFeed :: left) = (front ++ [lineFeed], left) := by
  have passed := ne_lineFeed_of_mem unended
  simp only [cutLine]
  rw [List.dropWhile_append_of_pos passed, List.takeWhile_append_of_pos passed]
  simp

/-- The encoding of a text has the byte of a line feed only if the text has a line feed. -/
theorem lineFeed_not_mem_encode {text : List Char} (unended : '\n' ∉ text) :
    lineFeed ∉ Utf8.encode text :=
  fun member => unended ((Utf8.mem_encode_iff (by decide) text).mp member)

/-- The text of an encoded line is the line without its ending. -/
theorem lineText_encode (text : List Char) :
    lineText (Utf8.encode text) = .ok (withoutLineEnding text) := by
  simp only [lineText, Utf8.decode?_encode]

/-- A text without a line feed is taken as a whole. -/
theorem takeLine_encode {text : List Char} (unended : '\n' ∉ text) :
    takeLine (Utf8.encode text) = (.ok text, []) := by
  have notLast : text.getLast? ≠ some '\n' := fun last => unended (List.mem_of_getLast? last)
  simp only [takeLine, cutLine_of_not_mem (lineFeed_not_mem_encode unended), lineText_encode,
    withoutLineEnding_of_getLast? notLast]

/-- A text up to a line feed is taken without the line ending, and what is behind it is left. -/
theorem takeLine_encode_append {text : List Char} (unended : '\n' ∉ text) (left : List UInt8) :
    takeLine (Utf8.encode text ++ lineFeed :: left) =
      (.ok (withoutLineEnding (text ++ ['\n'])), left) := by
  have joined : Utf8.encode text ++ [lineFeed] = Utf8.encode (text ++ ['\n']) := by
    rw [Utf8.encode_append]
    rfl
  simp only [takeLine, cutLine_append_lineFeed (lineFeed_not_mem_encode unended), joined,
    lineText_encode]

/-- A line at the front of the input is taken without its ending. -/
theorem BeginsWithLine.takeLine {line : List Char} {input : List UInt8}
    (begins : BeginsWithLine line input) (unended : '\n' ∉ line)
    (noReturn : line.getLast? ≠ some '\r') : (takeLine input).1 = .ok line := by
  cases begins with
  | unended => rw [takeLine_encode unended]
  | ended left => rw [takeLine_encode_append unended, withoutLineEnding_append_lf noReturn]
  | returned left =>
    have joined : Utf8.encode line ++ carriageReturn :: lineFeed :: left =
        Utf8.encode (line ++ ['\r']) ++ lineFeed :: left := by
      rw [Utf8.encode_append, List.append_assoc]
      rfl
    have stillUnended : '\n' ∉ line ++ ['\r'] := by simpa using unended
    rw [joined, takeLine_encode_append stillUnended, List.append_assoc]
    exact congrArg Except.ok (withoutLineEnding_append_crlf line)

/-- A request without a line does with the first line of the input what it does with that
line in its place. -/
theorem Request.perform_of_takeLine {request : Request} {line : List Char} {input : List UInt8}
    (noLine : request.line = none) (taken : (takeLine input).1 = .ok line) (host : Host)
    (path : List Char) (settings : Settings) (other : List UInt8) (files : Files)
    (clock : Date) :
    request.perform host path settings input files clock =
      { request with line := some line }.perform host path settings other files clock := by
  have sameShown : request.shown settings input clock =
      { request with line := some line }.shown settings other clock := by
    simp only [shown, noLine, taken]
  simp only [perform, sameShown]

/-- A text in which a line feed can stand only at the end has none if it does not end in one. -/
theorem lineFeed_not_mem_of_dropLast {text : List Char} (single : '\n' ∉ text.dropLast)
    (unended : text.getLast? ≠ some '\n') : '\n' ∉ text := by
  intro member
  have nonempty : text ≠ [] := List.ne_nil_of_mem member
  rw [← List.dropLast_concat_getLast nonempty] at member
  rcases List.mem_append.mp member with inFront | atEnd
  · exact single inFront
  · rw [List.mem_singleton] at atEnd
    exact unended (by rw [List.getLast?_eq_some_getLast nonempty, ← atEnd])

/-- Such a text is taken as one line, without its line ending. -/
theorem takeLine_encode_of_dropLast {text : List Char} (single : '\n' ∉ text.dropLast) :
    (takeLine (Utf8.encode text)).1 = .ok (withoutLineEnding text) := by
  by_cases ended : text.getLast? = some '\n'
  · obtain ⟨before, rfl⟩ := List.getLast?_eq_some_iff.mp ended
    rw [List.dropLast_concat] at single
    rw [Utf8.encode_append, show Utf8.encode ['\n'] = [lineFeed] from rfl,
      takeLine_encode_append single]
  · rw [takeLine_encode (lineFeed_not_mem_of_dropLast single ended),
      withoutLineEnding_of_getLast? ended]

/-- No second line ending goes away from such a text. -/
theorem withoutLineEnding_idempotent {text : List Char} (single : '\n' ∉ text.dropLast) :
    withoutLineEnding (withoutLineEnding text) = withoutLineEnding text := by
  apply withoutLineEnding_of_getLast?
  intro last
  have member := List.mem_of_getLast? last
  rcases lineEnding_cases text with ⟨before, rfl⟩ | ⟨before, rfl, free⟩ | unended
  · rw [withoutLineEnding_append_crlf] at member
    rw [show before ++ ['\r', '\n'] = before ++ ['\r'] ++ ['\n'] by simp,
      List.dropLast_concat] at single
    exact single (List.mem_append_left _ member)
  · rw [withoutLineEnding_append_lf free] at member
    rw [List.dropLast_concat] at single
    exact single member
  · rw [withoutLineEnding_of_getLast? unended] at last
    exact unended last

/-- A line in the arguments and the same line at the front of the input make one and the same
run, whatever the settings are and whatever stands behind the line. And a text of one line,
with its line ending or without, leads to the same new line as what is taken of it from the
input: the second time there is no line ending left to go away. -/
theorem perform_line_from_input :
    (∀ (request : Request) (line : List Char) (input other : List UInt8) (host : Host)
        (path : List Char) (settings : Settings) (files : Files) (clock : Date),
        request.line = none → '\n' ∉ line → line.getLast? ≠ some '\r' →
        BeginsWithLine line input →
        request.perform host path settings input files clock =
          { request with line := some line }.perform host path settings other files clock) ∧
      ∀ (text : List Char) (today : Date) (extraDays : Int), '\n' ∉ text.dropLast →
        ∃ line, (takeLine (Utf8.encode text)).1 = .ok line ∧
          rescheduledLine line today extraDays = rescheduledLine text today extraDays := by
  refine ⟨?_, ?_⟩
  · intro request line input other host path settings files clock noLine unended noReturn begins
    exact Request.perform_of_takeLine noLine (begins.takeLine unended noReturn) host path
      settings other files clock
  · intro text today extraDays single
    refine ⟨_, takeLine_encode_of_dropLast single, ?_⟩
    simp only [rescheduledLine, reschedule, withoutLineEnding_idempotent single]

/-- A line that ends with a carriage return and a line feed, in front of bytes that are no
text, and a line feed behind two carriage returns. -/
theorem perform_line_from_input_returns :
    let request : Request := { style := some .json }
    let host : Host := { script := fun _ => [] }
    let input : List UInt8 := Utf8.encode "4+2 test".toList ++ [13, 10, 255, 254]
    let text := "w call\r\r\n".toList
    let today : Date := ⟨2015, 9, 6, by decide⟩
    request.perform host [] {} input {} today =
        { request with line := some "4+2 test".toList }.perform host [] {} [] {} today ∧
      '\n' ∉ text.dropLast ∧
      ∃ line, (takeLine (Utf8.encode text)).1 = .ok line ∧
        rescheduledLine line today 0 = rescheduledLine text today 0 := by
  intro request host input text today
  obtain ⟨sameRun, sameLine⟩ := perform_line_from_input
  have single : '\n' ∉ text.dropLast := by decide
  exact ⟨sameRun request _ input [] host [] {} {} today rfl (by decide) (by decide)
    (.returned [255, 254]), single, sameLine text today 0 single⟩

end Tickler
