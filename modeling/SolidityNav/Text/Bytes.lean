/-
# Text.Bytes -- byte offsets into text

Compilers address source text by UTF-8 byte offset.  A text is a list of characters here, and an offset is
usable only when it falls between two of them: `splitAtByte?` is the one place that decides this.
-/

namespace SolidityNav.Text

set_option autoImplicit false

/-- The number of bytes of the UTF-8 form. -/
def byteLength (text : List Char) : Nat :=
  text.foldr (fun c length => c.utf8Size + length) 0

/-- Cuts a text at a byte offset; `none` past the end or inside a character. -/
def splitAtByte? : Nat → List Char → Option (List Char × List Char)
  | 0, text => some ([], text)
  | _ + 1, [] => none
  | n + 1, c :: rest =>
      if c.utf8Size ≤ n + 1 then
        (splitAtByte? (n + 1 - c.utf8Size) rest).map fun (before, after) => (c :: before, after)
      else none

/-- The text from byte `start` on, `length` bytes long; `none` unless both ends fall between characters. -/
def byteSlice? (text : List Char) (start length : Nat) : Option (List Char) := do
  let (_, rest) ← splitAtByte? start text
  let (middle, _) ← splitAtByte? length rest
  return middle

/-- Counts the bytes of a text from `offset` on and gives the offsets at which `c` starts. -/
def offsetsFrom (c : Char) (offset : Nat) : List Char → List Nat
  | [] => []
  | d :: rest =>
      if d = c then offset :: offsetsFrom c (offset + d.utf8Size) rest
      else offsetsFrom c (offset + d.utf8Size) rest

/-- The byte offsets at which `c` starts, in ascending order. -/
def offsetsOf (c : Char) (text : List Char) : List Nat :=
  offsetsFrom c 0 text

example : byteSlice? "aéb".toList 1 2 = some ['é'] := by decide
example : byteSlice? "aéb".toList 1 1 = none := by decide
example : offsetsOf '\n' "é\n\n".toList = [2, 3] := by decide

end SolidityNav.Text
