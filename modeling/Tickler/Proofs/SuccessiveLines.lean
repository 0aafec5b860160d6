import Tickler.Proofs.InputLines

/-!
# Lines taken one after the other

Whatever the bytes are, each call takes the next line with its line feed, then the rest
without one, and then nothing, and what a call takes does not depend on whether it
succeeds. So nothing is lost and nothing is read twice: what the calls have taken is told
by a count of line feeds, and what they give by the bytes of one line alone.

The invariant of a run is that what has been taken is the first lines of the bytes, as many
as there were calls. It is stated on the bytes and not on how they are cut; one call
preserves it, and it determines the bytes that are left.
-/

namespace Tickler

/-- Bytes that do not stop within a line: they are empty or end with a line feed. -/
def IsWhole (bytes : List UInt8) : Prop := ∀ last ∈ bytes.getLast?, last = lineFeed

/-- Bytes up to and including a line feed are whole. -/
theorem isWhole_append_lineFeed (front : List UInt8) : IsWhole (front ++ [lineFeed]) := by
  intro last ends
  simpa using ends.symm

/-- The first lines of the bytes: up to and including the last of as many line feeds as there
are lines, and all of the bytes where they have fewer. -/
inductive FirstLines (bytes : List UInt8) : Nat → List UInt8 → Prop
  | ended {lines : Nat} {front : List UInt8} (inFront : front <+: bytes) (whole : IsWhole front)
      (counted : front.count lineFeed = lines) : FirstLines bytes lines front
  | all {lines : Nat} (few : bytes.count lineFeed < lines) : FirstLines bytes lines bytes

/-- The bytes of a line with a given text. Behind the text a line feed may stand, with a
carriage return before it or without; a carriage return alone is part of the text. -/
inductive LineSpelled (text : List Char) : List UInt8 → Prop
  | unended (noFeed : (Utf8.encode text).getLast? ≠ some lineFeed) :
      LineSpelled text (Utf8.encode text)
  | ended (noReturn : text.getLast? ≠ some '\r') :
      LineSpelled text (Utf8.encode text ++ [lineFeed])
  | returned : LineSpelled text (Utf8.encode text ++ [carriageReturn, lineFeed])

/-- What a number of calls leave of the bytes. -/
def leftBehind : Nat → List UInt8 → List UInt8
  | 0, bytes => bytes
  | calls + 1, bytes => leftBehind calls (takeLine bytes).2

/-! ## One line -/

/-- A line is cut off behind the first line feed, or it is all of the bytes. -/
theorem cutLine_cases (bytes : List UInt8) :
    (lineFeed ∉ bytes ∧ cutLine bytes = (bytes, [])) ∨
      ∃ front left, bytes = front ++ lineFeed :: left ∧ lineFeed ∉ front ∧
        cutLine bytes = (front ++ [lineFeed], left) := by
  by_cases fed : lineFeed ∈ bytes
  · obtain ⟨front, left, rfl, unended⟩ := List.eq_append_cons_of_mem fed
    exact .inr ⟨front, left, rfl, unended, cutLine_append_lineFeed unended left⟩
  · exact .inl ⟨fed, cutLine_of_not_mem fed⟩

/-- An encoded text ends with the byte of a line feed exactly if it ends with a line feed. -/
theorem getLast?_encode_lineFeed_iff (text : List Char) :
    (Utf8.encode text).getLast? = some lineFeed ↔ text.getLast? = some '\n' :=
  @Utf8.getLast?_encode_iff '\n' (by decide) text

/-- An encoded text is a line, and the text of the line is the text without its ending. -/
theorem lineSpelled_encode (full : List Char) :
    LineSpelled (withoutLineEnding full) (Utf8.encode full) := by
  rcases lineEnding_cases full with ⟨before, rfl⟩ | ⟨before, rfl, noReturn⟩ | unended
  · rw [withoutLineEnding_append_crlf, Utf8.encode_append]
    exact .returned
  · rw [withoutLineEnding_append_lf noReturn, Utf8.encode_append]
    exact .ended noReturn
  · rw [withoutLineEnding_of_getLast? unended]
    exact .unended (mt (getLast?_encode_lineFeed_iff full).mp unended)

/-- The text of a line is given. -/
theorem LineSpelled.lineText_eq {text : List Char} {line : List UInt8}
    (spelled : LineSpelled text line) : lineText line = .ok text := by
  cases spelled with
  | unended noFeed =>
    have unended := mt (getLast?_encode_lineFeed_iff text).mpr noFeed
    rw [lineText_encode, withoutLineEnding_of_getLast? unended]
  | ended noReturn =>
    have joined : Utf8.encode text ++ [lineFeed] = Utf8.encode (text ++ ['\n']) :=
      (Utf8.encode_append text ['\n']).symm
    rw [joined, lineText_encode, withoutLineEnding_append_lf noReturn]
  | returned =>
    have joined : Utf8.encode text ++ [carriageReturn, lineFeed] =
        Utf8.encode (text ++ ['\r', '\n']) := (Utf8.encode_append text ['\r', '\n']).symm
    rw [joined, lineText_encode, withoutLineEnding_append_crlf]

/-- A text is given exactly for the bytes that are a line with this text. -/
theorem lineText_eq_ok_iff (line : List UInt8) (text : List Char) :
    lineText line = .ok text ↔ LineSpelled text line := by
  constructor
  · intro given
    simp only [lineText] at given
    split at given
    · rename_i full decoded
      rw [← Except.ok.inj given, ← Utf8.encode_of_decode? decoded]
      exact lineSpelled_encode full
    · cases given
  · exact LineSpelled.lineText_eq

/-- A line fails exactly if its bytes encode no text, and always in the same way. -/
theorem lineText_eq_error_iff (line : List UInt8) (failure : Failure) :
    lineText line = .error failure ↔
      failure = .input "stream did not contain valid UTF-8".toList ∧
        ∀ text, Utf8.encode text ≠ line := by
  have undecoded : Utf8.decode? line = none ↔ ∀ text, Utf8.encode text ≠ line := by
    simp only [Option.eq_none_iff_forall_ne_some, ne_eq, Utf8.decode?_eq_some_iff]
  rw [← undecoded]
  simp only [lineText]
  split
  · rename_i text decoded
    simp [decoded]
  · rename_i refused
    simp only [refused, and_true, Except.error.injEq]
    exact eq_comm

/-! ## Which bytes are the first lines -/

/-- No shorter part of whole bytes, from their front on, has as many line feeds. -/
theorem IsWhole.eq_of_prefix {short long : List UInt8} (whole : IsWhole long)
    (inFront : short <+: long) (counted : short.count lineFeed = long.count lineFeed) :
    short = long := by
  obtain ⟨further, rfl⟩ := inFront
  have unended : lineFeed ∉ further := by
    rw [List.count_append] at counted
    exact List.count_eq_zero.mp (by omega)
  cases ends : further.getLast? with
  | none => rw [List.getLast?_eq_none_iff.mp ends, List.append_nil]
  | some last =>
    have joined : (short ++ further).getLast? = some last := by
      rw [List.getLast?_append, ends, Option.some_or]
    have isFeed := whole last joined
    exact absurd (isFeed ▸ List.mem_of_getLast? ends) unended

/-- The first lines are determined by their number. -/
theorem FirstLines.unique {bytes front other : List UInt8} {lines : Nat}
    (first : FirstLines bytes lines front) (second : FirstLines bytes lines other) :
    front = other := by
  cases first with
  | ended inFront whole counted =>
    cases second with
    | ended otherInFront otherWhole otherCounted =>
      have same := counted.trans otherCounted.symm
      rcases List.prefix_or_prefix_of_prefix inFront otherInFront with shorter | longer
      · exact otherWhole.eq_of_prefix shorter same
      · exact (whole.eq_of_prefix longer same.symm).symm
    | all few =>
      have bounded := inFront.sublist.count_le lineFeed
      omega
  | all few =>
    cases second with
    | ended otherInFront otherWhole otherCounted =>
      have bounded := otherInFront.sublist.count_le lineFeed
      omega
    | all _ => rfl

/-- As long as bytes are left, the first lines have as many line feeds as there are lines. -/
theorem FirstLines.counted {bytes front left : List UInt8} {lines : Nat}
    (first : FirstLines bytes lines front) (split : front ++ left = bytes) :
    front.count lineFeed = lines ∨ left = [] ∧ front.count lineFeed < lines := by
  cases first with
  | ended _ _ counted => exact .inl counted
  | all few => exact .inr ⟨List.append_right_eq_self.mp split, few⟩

/-- Behind the first lines, the line that is cut off next is one line more. It ends with the
next line feed; where none is left it is the rest, and the lines outnumber the line feeds. -/
theorem FirstLines.step {bytes front left : List UInt8} {lines : Nat}
    (first : FirstLines bytes lines front) (split : front ++ left = bytes) :
    FirstLines bytes (lines + 1) (front ++ (cutLine left).1) := by
  have counted := first.counted split
  rcases cutLine_cases left with ⟨unended, cut⟩ | ⟨line, behind, rfl, unended, cut⟩
  · have few : bytes.count lineFeed < lines + 1 := by
      rw [← split, List.count_append, List.count_eq_zero.mpr unended]
      omega
    rw [cut, split]
    exact .all few
  · have exactly : front.count lineFeed = lines :=
      counted.resolve_right fun outnumbered => List.cons_ne_nil _ _
        (List.append_eq_nil_iff.mp outnumbered.1).2
    rw [cut, ← List.append_assoc]
    refine .ended ⟨behind, ?_⟩ (isWhole_append_lineFeed _) ?_
    · rw [← split, List.append_assoc, List.append_assoc, List.singleton_append]
    · rw [List.count_append, List.count_append, List.count_eq_zero.mpr unended, exactly,
        Nat.add_zero, List.count_singleton_self]

/-! ## A run of calls -/

/-- The calls of a run after the first ones are a run on what those leave. -/
theorem drop_takeLines (calls count : Nat) (bytes : List UInt8) :
    (takeLines (calls + count) bytes).drop calls = takeLines count (leftBehind calls bytes) := by
  induction calls generalizing bytes with
  | zero => rw [Nat.zero_add, List.drop_zero, leftBehind]
  | succ calls inductionHypothesis =>
    rw [Nat.succ_add, takeLines, List.drop_succ_cons, inductionHypothesis, leftBehind]

/-- A run gives a result for each call. -/
theorem length_takeLines (count : Nat) (bytes : List UInt8) :
    (takeLines count bytes).length = count := by
  induction count generalizing bytes with
  | zero => rfl
  | succ count inductionHypothesis => rw [takeLines, List.length_cons, inductionHypothesis]

/-- A call takes a line from what the calls before it leave. -/
theorem getElem?_takeLines {calls count : Nat} (called : calls < count) (bytes : List UInt8) :
    (takeLines count bytes)[calls]? = some (takeLine (leftBehind calls bytes)) := by
  obtain ⟨more, rfl⟩ := Nat.exists_eq_add_of_lt called
  rw [← List.head?_drop, Nat.add_assoc, drop_takeLines, takeLines, List.head?_cons]

/-- Whatever has been taken before, further calls take as many of the first lines more, and
what they leave is what stands behind those. -/
theorem FirstLines.run {bytes front left : List UInt8} {before : Nat} (calls : Nat)
    (first : FirstLines bytes before front) (split : front ++ left = bytes) :
    ∃ further, FirstLines bytes (before + calls) (front ++ further) ∧
      further ++ leftBehind calls left = left := by
  induction calls generalizing front left before with
  | zero => exact ⟨[], by rwa [Nat.add_zero, List.append_nil], rfl⟩
  | succ calls inductionHypothesis =>
    have regrouped : front ++ (cutLine left).1 ++ (cutLine left).2 = bytes := by
      rw [List.append_assoc, cutLine_append, split]
    obtain ⟨further, reached, behind⟩ := inductionHypothesis (first.step split) regrouped
    refine ⟨(cutLine left).1 ++ further, ?_, ?_⟩
    · rw [← List.append_assoc, ← Nat.add_assoc, Nat.add_right_comm]
      exact reached
    · rw [leftBehind, takeLine, List.append_assoc, behind, cutLine_append]

/-- Calls take the first lines, as many as there are calls. -/
theorem exists_firstLines (calls : Nat) (bytes : List UInt8) :
    ∃ front, FirstLines bytes calls front ∧ front ++ leftBehind calls bytes = bytes := by
  have start : FirstLines bytes 0 [] :=
    .ended List.nil_prefix (fun _ ends => by cases ends) rfl
  obtain ⟨front, reached, behind⟩ := start.run calls (List.nil_append bytes)
  rw [Nat.zero_add, List.nil_append] at reached
  exact ⟨front, reached, behind⟩

/-- Calls leave what stands behind the first lines. -/
theorem FirstLines.leftBehind_eq {bytes front left : List UInt8} {calls : Nat}
    (first : FirstLines bytes calls front) (split : front ++ left = bytes) :
    leftBehind calls bytes = left := by
  obtain ⟨taken, reached, behind⟩ := exists_firstLines calls bytes
  rw [reached.unique first] at behind
  exact List.append_cancel_left (behind.trans split.symm)

/-- From any bytes, each of any number of calls takes the bytes between two line feeds, the
second included, or what is left where there is no second. It gives their text without a
line ending, or fails if they are no text; behind the end it gives an empty line. And behind
any whole lines, be they text or not, a run goes on as if it began there. -/
theorem takeLines_exact (bytes : List UInt8) (count : Nat) :
    (takeLines count bytes).length = count ∧
      (∀ calls < count, ∃ front line left answer,
        (takeLines count bytes)[calls]? = some (answer, left) ∧
          front ++ line ++ left = bytes ∧
          FirstLines bytes calls front ∧ FirstLines bytes (calls + 1) (front ++ line) ∧
          (∀ text, answer = .ok text ↔ LineSpelled text line) ∧
          ∀ failure, answer = .error failure ↔
            failure = .input "stream did not contain valid UTF-8".toList ∧
              ∀ text, Utf8.encode text ≠ line) ∧
      (∀ calls < count, FirstLines bytes calls bytes →
        (takeLines count bytes)[calls]? = some (.ok [], [])) ∧
      ∀ front left, front ++ left = bytes → IsWhole front →
        (takeLines (front.count lineFeed + count) bytes).drop (front.count lineFeed) =
          takeLines count left := by
  refine ⟨length_takeLines count bytes, ?_, ?_, ?_⟩
  · intro calls called
    obtain ⟨front, first, behind⟩ := exists_firstLines calls bytes
    have regrouped : front ++ (cutLine (leftBehind calls bytes)).1 ++
        (cutLine (leftBehind calls bytes)).2 = bytes := by
      rw [List.append_assoc, cutLine_append, behind]
    exact ⟨front, _, _, _, getElem?_takeLines called bytes, regrouped, first,
      first.step behind, lineText_eq_ok_iff _, lineText_eq_error_iff _⟩
  · intro calls called atEnd
    have nothing : leftBehind calls bytes = [] := atEnd.leftBehind_eq (List.append_nil bytes)
    rw [getElem?_takeLines called, nothing]
    rfl
  · intro front left split whole
    have first : FirstLines bytes (front.count lineFeed) front := .ended ⟨left, split⟩ whole rfl
    rw [drop_takeLines, first.leftBehind_eq split]

/-- A line that is no text, in front of one that ends with a carriage return and a line feed
and of one that ends with a carriage return and the input. -/
theorem takeLines_exact_bad_line :
    let bad : List UInt8 := [255, lineFeed]
    let behind := Utf8.encode "4 test\r\nw\r".toList
    let bytes := bad ++ behind
    (1 < 4 ∧ ∃ front line left answer,
        (takeLines 4 bytes)[1]? = some (answer, left) ∧
          front ++ line ++ left = bytes ∧
          FirstLines bytes 1 front ∧ FirstLines bytes 2 (front ++ line) ∧
          (∀ text, answer = .ok text ↔ LineSpelled text line) ∧
          ∀ failure, answer = .error failure ↔
            failure = .input "stream did not contain valid UTF-8".toList ∧
              ∀ text, Utf8.encode text ≠ line) ∧
      (3 < 4 ∧ FirstLines bytes 3 bytes ∧ (takeLines 4 bytes)[3]? = some (.ok [], [])) ∧
      bad ++ behind = bytes ∧ IsWhole bad ∧
        (takeLines (1 + 4) bytes).drop 1 = takeLines 4 behind := by
  intro bad behind bytes
  obtain ⟨_, each, atEnd, apart⟩ := takeLines_exact bytes 4
  have few : bytes.count lineFeed < 3 := by decide
  have whole : IsWhole bad := isWhole_append_lineFeed [255]
  exact ⟨⟨by decide, each 1 (by decide)⟩,
    ⟨by decide, .all few, atEnd 3 (by decide) (.all few)⟩, rfl, whole,
    apart bad behind rfl whole⟩

/-- Four calls on a byte that begins no text, the line `4` and, at the end, the line `w` with a
carriage return that ends no line. -/
example : takeLines 4 [255, 10, 52, 13, 10, 119, 13] =
    [(.error (.input "stream did not contain valid UTF-8".toList), [52, 13, 10, 119, 13]),
      (.ok ['4'], [119, 13]), (.ok ['w', '\r'], []), (.ok [], [])] := by cbv

end Tickler
