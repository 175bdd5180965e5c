/-
# Text.Utf8 -- texts and their bytes

A text has one UTF-8 form.  Bytes that are the form of no text can still be shown: what begins a character and does not
finish it stands for one replacement character, up to the first byte that does not fit, and so does a byte that begins
none.
-/

namespace SolidityNav.Text

set_option autoImplicit false

/-- The bytes of the UTF-8 form. -/
def bytes (text : List Char) : List UInt8 :=
  text.flatMap String.utf8EncodeChar

/-- What is shown for bytes that are no character. -/
def replacement : Char :=
  '\uFFFD'

/-- The ranges of the bytes that may follow a first byte, one after another. -/
def followers (first : UInt8) : List (UInt8 × UInt8) :=
  let any : UInt8 × UInt8 := (0x80, 0xBF)
  if first < 0xC2 then []
  else if first < 0xE0 then [any]
  -- No longer form than needed, and no surrogate.
  else if first = 0xE0 then [(0xA0, 0xBF), any]
  else if first = 0xED then [(0x80, 0x9F), any]
  else if first < 0xF0 then [any, any]
  else if first = 0xF0 then [(0x90, 0xBF), any, any]
  else if first < 0xF4 then [any, any, any]
  else if first = 0xF4 then [(0x80, 0x8F), any, any]
  else []

/-- The number of bytes that lie in the ranges, up to the first that does not. -/
def fitting : List (UInt8 × UInt8) → List UInt8 → Nat
  | (low, high) :: ranges, byte :: rest => if low ≤ byte ∧ byte ≤ high then fitting ranges rest + 1 else 0
  | _, _ => 0

/-- What is shown for the first of some bytes, and the number of bytes it stands for. -/
def firstChar (first : UInt8) (rest : List UInt8) : Char × Nat :=
  match (first :: rest.take 3).toByteArray.utf8DecodeChar? 0 with
  | some c => (c, c.utf8Size)
  | none => (replacement, fitting (followers first) rest + 1)

/-- The text of the bytes behind the first `skip` ones. -/
def decodeFrom : Nat → List UInt8 → List Char
  | _, [] => []
  | skip + 1, _ :: rest => decodeFrom skip rest
  | 0, first :: rest => (firstChar first rest).1 :: decodeFrom ((firstChar first rest).2 - 1) rest

/-- The text that bytes are shown as. -/
def decode (bytes : List UInt8) : List Char :=
  decodeFrom 0 bytes

example : decode [0x61, 0xFF, 0xC3, 0xA9] = ['a', replacement, 'é'] := by decide
-- A form that is cut short is one replacement, and a surrogate is three.
example : decode [0xE2, 0x82, 0x2F, 0xED, 0xA0, 0x80] = [replacement, '/', replacement, replacement, replacement] := by
  decide

end SolidityNav.Text
