/-
# Text.Quoted -- text shown in a message

A text in a message stands in double quotes and is written so that every character of it can be seen: the quote,
the backslash and four controls by a short escape, and what has no shape of its own or would attach to its neighbour
by its code point.
-/
import SolidityNav.Text.Unprintable
import SolidityNav.Text.Combining

namespace SolidityNav.Text

set_option autoImplicit false

/-- A code point in braces, in lower-case hexadecimal. -/
def codePoint (c : Char) : List Char :=
  ['\\', 'u', '\x7b'] ++ Nat.toDigits 16 c.toNat ++ ['\x7d']

/-- How a character is shown between double quotes. -/
def showChar (c : Char) : List Char :=
  match c with
  | '\x00' => ['\\', '0']
  | '\t' => ['\\', 't']
  | '\r' => ['\\', 'r']
  | '\n' => ['\\', 'n']
  | '"' => ['\\', '"']
  | '\\' => ['\\', '\\']
  | _ => if isCombining c || isUnprintable c then codePoint c else [c]

example : showChar '\u115F' = "\\u\x7b115f\x7d".toList := by decide +kernel
example : showChar '\u09BE' = "\\u\x7b9be\x7d".toList := by decide +kernel
example : showChar '\uFF9E' = ['\uFF9E'] := by decide +kernel

/-- A text in double quotes, every character visible. -/
def quoted (text : String) : String :=
  String.ofList ('"' :: (text.toList.flatMap showChar ++ ['"']))

end SolidityNav.Text
