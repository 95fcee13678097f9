import Mathlib

/-!
# Lossy decoding of UTF-8

The text of a byte string that may not be well-formed UTF-8, as `String::from_utf8_lossy`
of the standard library makes it.  Each longest part of a character that breaks off is
replaced by one `U+FFFD`, and so is each byte that starts no character.
-/

namespace Muxio.Encoding

/-- The character that stands for bytes that are not well-formed. -/
def replacementCharacter : Char := Char.ofNat 0xFFFD

/-- A character of which some bytes are missing, with the bounds of the next byte. -/
structure PartialChar where
  code : Nat
  missing : Nat
  low : UInt8 := 0x80
  high : UInt8 := 0xBF
  deriving DecidableEq, Repr

/-- What the first byte of a character is: the whole of it, the start of a longer one, or
no first byte. -/
def firstByte (byte : UInt8) : List Char × Option PartialChar :=
  let code := byte.toNat
  if byte < 0x80 then ([Char.ofNat code], none)
  else if byte < 0xC2 then ([replacementCharacter], none)
  else if byte < 0xE0 then ([], some { code := code - 0xC0, missing := 1 })
  else if byte = 0xE0 then ([], some { code := 0, missing := 2, low := 0xA0 })
  else if byte = 0xED then ([], some { code := 13, missing := 2, high := 0x9F })
  else if byte < 0xF0 then ([], some { code := code - 0xE0, missing := 2 })
  else if byte = 0xF0 then ([], some { code := 0, missing := 3, low := 0x90 })
  else if byte < 0xF4 then ([], some { code := code - 0xF0, missing := 3 })
  else if byte = 0xF4 then ([], some { code := 4, missing := 3, high := 0x8F })
  else ([replacementCharacter], none)

/-- What one more byte adds to the text. -/
def nextByte (started : Option PartialChar) (byte : UInt8) : List Char × Option PartialChar :=
  match started with
  | none => firstByte byte
  | some char =>
      if char.low ≤ byte ∧ byte ≤ char.high then
        let code := char.code * 64 + (byte.toNat - 0x80)
        if char.missing = 1 then ([Char.ofNat code], none)
        else ([], some { code := code, missing := char.missing - 1 })
      else
        let restarted := firstByte byte
        (replacementCharacter :: restarted.1, restarted.2)

/-- The characters of the bytes after the start of a character. -/
def lossyChars (started : Option PartialChar) : List UInt8 → List Char
  | [] => if started.isSome then [replacementCharacter] else []
  | byte :: rest =>
      let next := nextByte started byte
      next.1 ++ lossyChars next.2 rest

/-- The text of a byte string, `String::from_utf8_lossy`. -/
def fromUtf8Lossy (bytes : List UInt8) : String := String.ofList (lossyChars none bytes)

/-- The bytes of a text. -/
def utf8Bytes (text : String) : List UInt8 := text.toUTF8.data.toList

/-! ## Well-formed text -/

theorem firstByte_ofNat {code : Nat} (small : code < 256) :
    firstByte (UInt8.ofNat code) =
      if code < 0x80 then ([Char.ofNat code], none)
      else if code < 0xC2 then ([replacementCharacter], none)
      else if code < 0xE0 then ([], some { code := code - 0xC0, missing := 1 })
      else if code = 0xE0 then ([], some { code := 0, missing := 2, low := 0xA0 })
      else if code = 0xED then ([], some { code := 13, missing := 2, high := 0x9F })
      else if code < 0xF0 then ([], some { code := code - 0xE0, missing := 2 })
      else if code = 0xF0 then ([], some { code := 0, missing := 3, low := 0x90 })
      else if code < 0xF4 then ([], some { code := code - 0xF0, missing := 3 })
      else if code = 0xF4 then ([], some { code := 4, missing := 3, high := 0x8F })
      else ([replacementCharacter], none) := by
  have toNat : (UInt8.ofNat code).toNat = code := by
    rw [UInt8.toNat_ofNat']
    exact Nat.mod_eq_of_lt small
  simp only [firstByte, UInt8.lt_iff_toNat_lt, ← UInt8.toNat_inj, toNat]
  rfl

/-- A byte within the bounds continues the character. -/
theorem lossyChars_continues {char : PartialChar} {bits : Nat} (small : bits < 64)
    (above : char.low.toNat ≤ bits + 128) (below : bits + 128 ≤ char.high.toNat)
    (rest : List UInt8) :
    lossyChars (some char) (UInt8.ofNat (bits + 128) :: rest) =
      if char.missing = 1 then Char.ofNat (char.code * 64 + bits) :: lossyChars none rest
      else lossyChars (some { code := char.code * 64 + bits, missing := char.missing - 1 })
        rest := by
  have toNat : (UInt8.ofNat (bits + 128)).toNat = bits + 128 := by
    rw [UInt8.toNat_ofNat']
    exact Nat.mod_eq_of_lt (by omega)
  have inBounds : char.low ≤ UInt8.ofNat (bits + 128) ∧ UInt8.ofNat (bits + 128) ≤ char.high := by
    rw [UInt8.le_iff_toNat_le, UInt8.le_iff_toNat_le, toNat]
    exact ⟨above, below⟩
  rw [lossyChars, nextByte, if_pos inBounds, toNat, Nat.add_sub_cancel]
  split <;> rfl

section Encoded

variable {code : Nat} (rest : List UInt8)

theorem lossyChars_one_byte (isOne : code ≤ 127) :
    lossyChars none (UInt8.ofNat code :: rest) = Char.ofNat code :: lossyChars none rest := by
  rw [lossyChars, nextByte, firstByte_ofNat (by omega), if_pos (by omega)]
  rfl

theorem lossyChars_two_bytes (notOne : 127 < code) (isTwo : code ≤ 2047) :
    lossyChars none
        (UInt8.ofNat (code / 64 % 32 + 192) :: UInt8.ofNat (code % 64 + 128) :: rest) =
      Char.ofNat code :: lossyChars none rest := by
  have first : firstByte (UInt8.ofNat (code / 64 % 32 + 192)) =
      ([], some { code := code / 64, missing := 1 }) := by
    rw [firstByte_ofNat (by omega), if_neg (by omega), if_neg (by omega), if_pos (by omega)]
    have bits : code / 64 % 32 + 192 - 192 = code / 64 := by omega
    rw [bits]
  have split : code / 64 * 64 + code % 64 = code := by omega
  rw [lossyChars, nextByte, first, List.nil_append,
    lossyChars_continues (by omega) (by simp) (by simp; omega), if_pos rfl, split]

theorem lossyChars_three_bytes (notTwo : 2047 < code) (isThree : code ≤ 65535)
    (valid : code < 0xD800 ∨ 0xDFFF < code) :
    lossyChars none
        (UInt8.ofNat (code / 4096 % 16 + 224) :: UInt8.ofNat (code / 64 % 64 + 128) ::
          UInt8.ofNat (code % 64 + 128) :: rest) =
      Char.ofNat code :: lossyChars none rest := by
  have first : ∃ char : PartialChar,
      firstByte (UInt8.ofNat (code / 4096 % 16 + 224)) = ([], some char) ∧
        char.code = code / 4096 ∧ char.missing = 2 ∧
        char.low.toNat ≤ code / 64 % 64 + 128 ∧ code / 64 % 64 + 128 ≤ char.high.toNat := by
    rw [firstByte_ofNat (by omega), if_neg (by omega), if_neg (by omega), if_neg (by omega)]
    split
    · exact ⟨_, rfl, by simp; omega, rfl, by simp; omega, by simp; omega⟩
    · split
      · exact ⟨_, rfl, by simp; omega, rfl, by simp, by simp; omega⟩
      · rw [if_pos (by omega)]
        exact ⟨_, rfl, by simp; omega, rfl, by simp, by simp; omega⟩
  rcases first with ⟨char, firstEq, codeEq, missingEq, above, below⟩
  have split : (code / 4096 * 64 + code / 64 % 64) * 64 + code % 64 = code := by omega
  rw [lossyChars, nextByte, firstEq, List.nil_append,
    lossyChars_continues (by omega) above below, if_neg (by omega),
    lossyChars_continues (by omega) (by simp) (by simp; omega), if_pos (by simp [missingEq]),
    codeEq, split]

theorem lossyChars_four_bytes (notThree : 65535 < code) (valid : code < 0x110000) :
    lossyChars none
        (UInt8.ofNat (code / 262144 % 8 + 240) :: UInt8.ofNat (code / 4096 % 64 + 128) ::
          UInt8.ofNat (code / 64 % 64 + 128) :: UInt8.ofNat (code % 64 + 128) :: rest) =
      Char.ofNat code :: lossyChars none rest := by
  have first : ∃ char : PartialChar,
      firstByte (UInt8.ofNat (code / 262144 % 8 + 240)) = ([], some char) ∧
        char.code = code / 262144 ∧ char.missing = 3 ∧
        char.low.toNat ≤ code / 4096 % 64 + 128 ∧
        code / 4096 % 64 + 128 ≤ char.high.toNat := by
    rw [firstByte_ofNat (by omega), if_neg (by omega), if_neg (by omega), if_neg (by omega),
      if_neg (by omega), if_neg (by omega), if_neg (by omega)]
    split
    · exact ⟨_, rfl, by simp; omega, rfl, by simp; omega, by simp; omega⟩
    · split
      · exact ⟨_, rfl, by simp; omega, rfl, by simp, by simp; omega⟩
      · rw [if_pos (by omega)]
        exact ⟨_, rfl, by simp; omega, rfl, by simp, by simp; omega⟩
  rcases first with ⟨char, firstEq, codeEq, missingEq, above, below⟩
  have split : ((code / 262144 * 64 + code / 4096 % 64) * 64 + code / 64 % 64) * 64 + code % 64 =
      code := by omega
  rw [lossyChars, nextByte, firstEq, List.nil_append,
    lossyChars_continues (by omega) above below, if_neg (by omega),
    lossyChars_continues (by omega) (by simp) (by simp; omega), if_neg (by simp [missingEq]),
    lossyChars_continues (by omega) (by simp) (by simp; omega), if_pos (by simp [missingEq]),
    codeEq, split]

end Encoded

/-- The encoding of a character is taken for that character. -/
theorem lossyChars_utf8EncodeChar (char : Char) (rest : List UInt8) :
    lossyChars none (String.utf8EncodeChar char ++ rest) = char :: lossyChars none rest := by
  have isChar : Char.ofNat char.val.toNat = char := Char.ofNat_toNat char
  have valid : char.val.toNat < 0xD800 ∨ 0xDFFF < char.val.toNat ∧ char.val.toNat < 0x110000 :=
    char.valid
  simp only [String.utf8EncodeChar]
  split
  · exact (lossyChars_one_byte rest (by omega)).trans (by rw [isChar])
  · split
    · exact (lossyChars_two_bytes rest (by omega) (by omega)).trans (by rw [isChar])
    · split
      · exact (lossyChars_three_bytes rest (by omega) (by omega) (by omega)).trans
          (by rw [isChar])
      · exact (lossyChars_four_bytes rest (by omega) (by omega)).trans (by rw [isChar])

theorem lossyChars_flatMap (chars : List Char) :
    lossyChars none (chars.flatMap String.utf8EncodeChar) = chars := by
  induction chars with
  | nil => rfl
  | cons char rest ih => rw [List.flatMap_cons, lossyChars_utf8EncodeChar, ih]

/-- Well-formed text is kept. -/
theorem fromUtf8Lossy_utf8Bytes (text : String) : fromUtf8Lossy (utf8Bytes text) = text := by
  have bytesEq : utf8Bytes text = text.toList.flatMap String.utf8EncodeChar := by
    rw [utf8Bytes, String.toUTF8, ← String.utf8Encode_toList, List.utf8Encode,
      List.toList_data_toByteArray]
  rw [fromUtf8Lossy, bytesEq, lossyChars_flatMap, String.ofList_toList]

end Muxio.Encoding
