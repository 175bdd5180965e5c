/-
# Proofs.Text.Utf8 -- bytes are shown as the text they are the form of

The bytes of a text are those of its characters in order, and no byte of another character is a newline
(`newline_not_mem_utf8EncodeChar`).

Whatever stands behind the bytes of a character, the character is read first (`decode_utf8EncodeChar_append`), so the bytes
of a text are shown as that text (`decode_bytes`).
-/
import SolidityNav.Proofs.Text
import SolidityNav.Text.Utf8

namespace SolidityNav.Text

set_option autoImplicit false

/-! ## Bytes of a text -/

theorem bytes_toList (text : String) : bytes text.toList = text.toUTF8.data.toList := by
  rw [String.toUTF8_eq_toByteArray, ← String.utf8Encode_toList, List.utf8Encode, List.toList_data_toByteArray, bytes]

theorem bytes_cons (c : Char) (rest : List Char) : bytes (c :: rest) = String.utf8EncodeChar c ++ bytes rest :=
  List.flatMap_cons

theorem bytes_append (before after : List Char) : bytes (before ++ after) = bytes before ++ bytes after :=
  List.flatMap_append

theorem length_bytes (text : List Char) : (bytes text).length = byteLength text := by
  induction text with
  | nil => rfl
  | cons c rest ih => rw [bytes_cons, List.length_append, String.length_utf8EncodeChar, byteLength_cons, ih]

theorem utf8ByteSize_eq_byteLength (text : String) : text.utf8ByteSize = byteLength text.toList := by
  rw [← length_bytes, bytes_toList, Array.length_toList]
  rfl

/-- A byte of a character is its code or has its high bit set. -/
theorem toNat_of_mem_utf8EncodeChar {c : Char} {byte : UInt8} (member : byte ∈ String.utf8EncodeChar c) :
    byte.toNat = c.toNat ∨ 0x80 ≤ byte.toNat := by
  unfold String.utf8EncodeChar at member
  have code : c.toNat = c.val.toNat := rfl
  dsimp only at member
  split at member
  · rw [List.mem_singleton] at member
    subst member
    left
    rw [UInt8.toNat_ofNat', code]
    omega
  · right
    split at member
    · simp only [List.mem_cons, List.not_mem_nil, or_false] at member
      rcases member with rfl | rfl <;> rw [UInt8.toNat_ofNat'] <;> omega
    · split at member
      · simp only [List.mem_cons, List.not_mem_nil, or_false] at member
        rcases member with rfl | rfl | rfl <;> rw [UInt8.toNat_ofNat'] <;> omega
      · simp only [List.mem_cons, List.not_mem_nil, or_false] at member
        rcases member with rfl | rfl | rfl | rfl <;> rw [UInt8.toNat_ofNat'] <;> omega

theorem newline_not_mem_utf8EncodeChar {c : Char} (other : c ≠ '\n') : 0x0A ∉ String.utf8EncodeChar c := by
  intro member
  rcases toNat_of_mem_utf8EncodeChar member with code | high
  · exact other (Char.toNat_inj.mp code.symm)
  · exact absurd high (by decide)

/-! ## Texts of bytes -/

theorem decodeFrom_eq (skip : Nat) (bytes : List UInt8) : decodeFrom skip bytes = decode (bytes.drop skip) := by
  induction bytes generalizing skip with
  | nil => rw [List.drop_nil, decode, decodeFrom, decodeFrom]
  | cons first rest ih =>
      cases skip with
      | zero => rfl
      | succ skip => rw [decodeFrom, ih, List.drop_succ_cons]

theorem decode_cons (first : UInt8) (rest : List UInt8) :
    decode (first :: rest) = (firstChar first rest).1 :: decode (rest.drop ((firstChar first rest).2 - 1)) := by
  rw [decode, decodeFrom, decodeFrom_eq]

/-- A character is read from its bytes, whatever stands behind them. -/
theorem decode_utf8EncodeChar_append (c : Char) (rest : List UInt8) :
    decode (String.utf8EncodeChar c ++ rest) = c :: decode rest := by
  obtain ⟨first, others, encoded⟩ := List.exists_cons_of_ne_nil (String.utf8EncodeChar_ne_nil (c := c))
  have length : others.length + 1 = c.utf8Size := by
    rw [← String.length_utf8EncodeChar, encoded, List.length_cons]
  have short := c.utf8Size_le_four
  have window : first :: (others ++ rest).take 3 = String.utf8EncodeChar c ++ rest.take (3 - others.length) := by
    rw [encoded, List.take_append, List.take_of_length_le (by omega), List.cons_append]
  have read : firstChar first (others ++ rest) = (c, c.utf8Size) := by
    rw [firstChar, window, List.toByteArray_append, ByteArray.utf8DecodeChar?_utf8EncodeChar_append]
  rw [encoded, List.cons_append, decode_cons, read, ← length, Nat.add_sub_cancel, List.drop_left]

/-- **The bytes of a text are shown as the text.** -/
theorem decode_bytes (text : List Char) : decode (bytes text) = text := by
  induction text with
  | nil => rfl
  | cons c rest ih => rw [bytes_cons, decode_utf8EncodeChar_append, ih]

end SolidityNav.Text
