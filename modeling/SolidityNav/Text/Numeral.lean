/-
# Text.Numeral -- decimal numerals

Reading and writing integers in decimal.  A natural numeral is one or more ASCII digits; an integer numeral
may have one sign in front of it.  Leading zeros are read, and never written.
-/

namespace SolidityNav.Text

set_option autoImplicit false

/-- The value of a decimal digit. -/
def digitValue (c : Char) : Nat :=
  c.toNat - '0'.toNat

/-- The value of a row of decimal digits. -/
def digitsValue (digits : List Char) : Nat :=
  digits.foldl (fun value c => 10 * value + digitValue c) 0

/-- Reads one or more ASCII digits. -/
def readNat? (text : List Char) : Option Nat :=
  if text.isEmpty || !text.all Char.isDigit then none else some (digitsValue text)

/-- Reads a natural numeral with at most one sign in front. -/
def readInt? : List Char → Option Int
  | '+' :: rest => (readNat? rest).map Int.ofNat
  | '-' :: rest => (readNat? rest).map fun n => -Int.ofNat n
  | text => (readNat? text).map Int.ofNat

/-- The decimal digits of `n`, without leading zeros. -/
def writeNat (n : Nat) : List Char :=
  Nat.toDigits 10 n

/-- The decimal digits of `n`, after a minus sign when it is negative. -/
def writeInt : Int → List Char
  | .ofNat n => writeNat n
  | .negSucc n => '-' :: writeNat (n + 1)

example : readInt? "-07".toList = some (-7) := by decide
example : readInt? "+".toList = none := by decide
example : writeInt (-120) = "-120".toList := by decide

end SolidityNav.Text
