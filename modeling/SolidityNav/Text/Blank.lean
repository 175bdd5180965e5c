/-
# Text.Blank -- white space and trimming

A character is blank when it has the Unicode property `White_Space`: 25 code points, of which core's
`Char.isWhitespace` knows four.  Trimming removes blanks at the ends of a text and nothing inside it.
-/

namespace SolidityNav.Text

set_option autoImplicit false

/-- The characters with the Unicode property `White_Space`. -/
def isBlank (c : Char) : Bool :=
  let n := c.toNat
  (0x09 ≤ n && n ≤ 0x0D) || n == 0x20 || n == 0x85 || n == 0xA0 || n == 0x1680 ||
    (0x2000 ≤ n && n ≤ 0x200A) || n == 0x2028 || n == 0x2029 || n == 0x202F || n == 0x205F ||
    n == 0x3000

/-- The text without the blanks it starts with. -/
def trimStart (text : List Char) : List Char :=
  text.dropWhile isBlank

/-- The text without the blanks it ends with. -/
def trimEnd (text : List Char) : List Char :=
  (text.reverse.dropWhile isBlank).reverse

/-- The text without the blanks at either end. -/
def trim (text : List Char) : List Char :=
  trimEnd (trimStart text)

example : trim " 7\t".toList = ['7'] := by decide

end SolidityNav.Text
