/-!
# UTF-8

Bytes and characters: every text has one encoding, and bytes that are no encoding
of a text are refused as a whole.
-/

namespace Tickler.Utf8

/-- The bytes of a text. -/
def encode (text : List Char) : List UInt8 := (String.ofList text).toByteArray.data.toList

/-- The text that bytes encode. -/
def decode? (bytes : List UInt8) : Option (List Char) :=
  (ByteArray.mk bytes.toArray).utf8Decode?.map Array.toList

/-- The encoding of a text is decoded to that text. -/
theorem decode?_encode (text : List Char) : decode? (encode text) = some text := by
  simp only [decode?, encode]
  rw [Array.toArray_toList, String.toByteArray_ofList]
  change text.utf8Encode.utf8Decode?.map Array.toList = some text
  rw [List.utf8Decode?_utf8Encode]
  rfl

/-- Bytes that decode to a text are its encoding. -/
theorem encode_of_decode? {bytes : List UInt8} {text : List Char}
    (decoded : decode? bytes = some text) : encode text = bytes := by
  simp only [decode?] at decoded
  obtain ⟨characters, found, rfl⟩ := Option.map_eq_some_iff.mp decoded
  have whole : characters.toList.utf8Encode = ByteArray.mk bytes.toArray := by
    have present : (ByteArray.mk bytes.toArray).utf8Decode?.isSome = true := by simp [found]
    rw [← @ByteArray.utf8Encode_get_utf8Decode? (ByteArray.mk bytes.toArray) present]
    simp [found]
  simp only [encode]
  rw [String.toByteArray_ofList, whole]

/-- Bytes decode to a text exactly if they are its encoding. -/
theorem decode?_eq_some_iff (bytes : List UInt8) (text : List Char) :
    decode? bytes = some text ↔ encode text = bytes := by
  constructor
  · exact encode_of_decode?
  · rintro rfl
    exact decode?_encode text

/-- A text is encoded character by character. -/
theorem encode_eq_flatMap (text : List Char) : encode text = text.flatMap String.utf8EncodeChar := by
  simp only [encode]
  rw [String.toByteArray_ofList, List.utf8Encode, List.toList_data_toByteArray]

/-- Two texts are encoded one after the other. -/
theorem encode_append (front back : List Char) :
    encode (front ++ back) = encode front ++ encode back := by
  simp only [encode_eq_flatMap, List.flatMap_append]

/-- A byte below 128 is the code of one character, and in the encoding of no other. -/
theorem mem_utf8EncodeChar_iff {code : Nat} (ascii : code < 128) (character : Char) :
    UInt8.ofNat code ∈ String.utf8EncodeChar character ↔ character.toNat = code := by
  have same (number : Nat) : UInt8.ofNat code = UInt8.ofNat number ↔ code = number % 256 := by
    rw [← UInt8.toNat_inj, UInt8.toNat_ofNat', UInt8.toNat_ofNat']
    simp only [Nat.reducePow]
    omega
  have value : character.val.toNat = character.toNat := rfl
  simp only [String.utf8EncodeChar, value]
  split
  · rw [List.mem_singleton, same]
    omega
  · split
    · simp only [List.mem_cons, List.not_mem_nil, or_false, same]
      omega
    · split <;> simp only [List.mem_cons, List.not_mem_nil, or_false, same] <;> omega

/-- The code of an ASCII character stands in the encoding of a text exactly if the character
stands in the text. -/
theorem mem_encode_iff {character : Char} (ascii : character.toNat < 128) (text : List Char) :
    UInt8.ofNat character.toNat ∈ encode text ↔ character ∈ text := by
  rw [encode_eq_flatMap, List.mem_flatMap]
  constructor
  · rintro ⟨other, member, found⟩
    rw [mem_utf8EncodeChar_iff ascii] at found
    rwa [Char.toNat_inj.mp found] at member
  · intro member
    exact ⟨character, member, (mem_utf8EncodeChar_iff ascii character).mpr rfl⟩

/-- An ASCII character is encoded as the one byte of its code. -/
theorem encode_ascii {character : Char} (ascii : character.toNat < 128) :
    encode [character] = [UInt8.ofNat character.toNat] := by
  have small : character.val.toNat ≤ 127 := Nat.le_of_lt_succ ascii
  rw [encode_eq_flatMap, List.flatMap_cons, List.flatMap_nil, List.append_nil]
  simp only [String.utf8EncodeChar, small, if_true]
  rfl

/-- The code of an ASCII character ends the encoding of a text exactly if the character ends
the text. -/
theorem getLast?_encode_iff {character : Char} (ascii : character.toNat < 128)
    (text : List Char) :
    (encode text).getLast? = some (UInt8.ofNat character.toNat) ↔
      text.getLast? = some character := by
  constructor
  · intro ended
    rcases List.eq_nil_or_concat text with rfl | ⟨front, last, rfl⟩
    · cases ended
    · -- The last byte belongs to the last character, whose encoding is not empty.
      have nonempty : encode [last] ≠ [] := by simp [encode_eq_flatMap]
      have lastByte := List.getLast?_eq_some_getLast nonempty
      rw [List.concat_eq_append] at ended ⊢
      rw [encode_append, List.getLast?_append, lastByte, Option.some_or] at ended
      have member := (mem_encode_iff ascii [last]).mp
        (List.mem_of_getLast? (lastByte.trans ended))
      rw [List.mem_singleton.mp member]
      exact List.getLast?_concat
  · intro ended
    obtain ⟨front, rfl⟩ := List.getLast?_eq_some_iff.mp ended
    rw [encode_append, encode_ascii ascii, List.getLast?_append]
    rfl

end Tickler.Utf8
