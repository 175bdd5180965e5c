/-
# Json.Printer -- compact JSON text

No spaces, fields in their order.  In strings only the quote, the backslash and the control characters below
U+0020 are escaped.  A float has the fewest digits that read back: positional from 10^-5 up to 10^16, with at
least one decimal, and with an exponent outside that.
-/
import SolidityNav.Json.Basic
import SolidityNav.Decimal.Shortest
import SolidityNav.Text.Numeral

namespace SolidityNav.Json

set_option autoImplicit false

open SolidityNav.Text (writeNat writeInt)

/-- The escape of one character inside a string. -/
def escapeChar (c : Char) : List Char :=
  match c with
  | '"' => ['\\', '"']
  | '\\' => ['\\', '\\']
  | '\x08' => ['\\', 'b']
  | '\x0c' => ['\\', 'f']
  | '\n' => ['\\', 'n']
  | '\r' => ['\\', 'r']
  | '\t' => ['\\', 't']
  | _ =>
      if c.toNat < 0x20 then
        ['\\', 'u', '0', '0', Nat.digitChar (c.toNat / 16), Nat.digitChar (c.toNat % 16)]
      else [c]

/-- A string in quotes. -/
def quote (text : String) : String :=
  String.ofList ('"' :: (text.toList.flatMap escapeChar ++ ['"']))

/-- An exponent, always with its sign. -/
def exponentText (exponent : Int) : List Char :=
  'e' :: (if 0 ≤ exponent then '+' :: writeInt exponent else writeInt exponent)

/-- The decimal `digits * 10 ^ exponent` as a float's text. -/
def floatDigits (d : Decimal.Numeral) : List Char :=
  let digits := writeNat d.digits
  let point := (digits.length : Int) + d.exponent
  if 0 ≤ d.exponent ∧ point ≤ 16 then
    digits ++ List.replicate d.exponent.toNat '0' ++ ['.', '0']
  else if 0 < point ∧ point ≤ 16 then
    digits.take point.toNat ++ '.' :: digits.drop point.toNat
  else if -5 < point ∧ point ≤ 0 then
    '0' :: '.' :: (List.replicate (-point).toNat '0' ++ digits)
  else
    match digits with
    | [] => []
    | [single] => single :: exponentText (point - 1)
    | first :: rest => first :: '.' :: (rest ++ exponentText (point - 1))

example : floatDigits ⟨1, 16⟩ = "1e+16".toList := by decide
example : floatDigits ⟨125, -9⟩ = "1.25e-7".toList := by decide
example : floatDigits ⟨1, -5⟩ = "0.00001".toList := by decide

/-- The text of a float; a number that is not finite has none and is written `null`. -/
def floatText (value : Float) : List Char :=
  if value.isFinite then
    let bits := value.toBits
    let magnitude := floatDigits (Decimal.shortest bits)
    if bits >>> 63 = 1 then '-' :: magnitude else magnitude
  else "null".toList

def numberText : Number → String
  | .int value => String.ofList (writeInt value)
  | .float value => String.ofList (floatText value)

mutual

/-- The compact text of a value. -/
def render : Json → String
  | .null => "null"
  | .bool true => "true"
  | .bool false => "false"
  | .number value => numberText value
  | .string text => quote text
  | .array items => "[" ++ renderItems items ++ "]"
  | .object fields => "\x7b" ++ renderFields fields ++ "\x7d"

/-- The items of an array, with commas between them. -/
def renderItems : List Json → String
  | [] => ""
  | [item] => render item
  | item :: next :: rest => render item ++ "," ++ renderItems (next :: rest)

/-- The fields of an object, with commas between them. -/
def renderFields : List (String × Json) → String
  | [] => ""
  | [(name, value)] => quote name ++ ":" ++ render value
  | (name, value) :: next :: rest => quote name ++ ":" ++ render value ++ "," ++ renderFields (next :: rest)

end

end SolidityNav.Json
