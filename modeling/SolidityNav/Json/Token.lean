/-
# Json.Token -- the tokens of a JSON text

A text is cut into tokens up to the first place where no token can be read.  Two readers look at the tokens: one
that wants the value, and one that only skips over it.  They agree on where a token ends, but not on everything
else: a reader refuses a number out of range or half of a surrogate pair, which a skipper does not look at, and
a number cut off by the end of the text is too short to a reader and malformed to a skipper.  So a scalar token
carries what a reader makes of it, and the place where the tokens stop carries both opinions (`Break`).
-/
import SolidityNav.Json.Basic
import SolidityNav.Text.Bytes
import SolidityNav.Text.Numeral

namespace SolidityNav.Json

set_option autoImplicit false

open SolidityNav.Text (byteLength digitValue digitsValue)

/-- Why a text is not the JSON that was asked for. -/
inductive Fault where
  /-- The text ends too early. -/
  | truncated
  /-- The text is not JSON, or exceeds a limit of the reader. -/
  | illFormed
  /-- The text is JSON of another shape than the one asked for. -/
  | mismatched
deriving DecidableEq, Repr

/-- A place at which a text stops being JSON, as a reader and as a skipper see it. -/
structure Break where
  read : Fault
  skip : Fault
deriving DecidableEq, Repr

/-- A place on which reader and skipper agree. -/
def Break.both (fault : Fault) : Break :=
  ⟨fault, fault⟩

/-- A token; `unclosed` (a string without end) and `broken` (anything else) are only ever the last one. -/
inductive Token where
  | openArray
  | closeArray
  | openObject
  | closeObject
  | comma
  | colon
  | null
  | bool (value : Bool)
  | number (value : Except Fault Number)
  | string (value : Except Fault String)
  | unclosed (place : Break)
  | broken (place : Break)

/-- A scanned token and the number of characters it takes after its first. -/
structure Scanned where
  token : Token
  used : Nat

/-! ## Numbers -/

/-- The parts of a number as written. -/
structure Numeral where
  negative : Bool
  whole : List Char
  fraction : List Char
  /-- Whether the exponent is negative, and its digits. -/
  exponent : Option (Bool × List Char)

namespace Numeral

/-- Appends digits to `significand` while it stays below 2^64, and gives the digits that no longer fit. -/
def absorb (significand : Nat) : List Char → Nat × List Char
  | [] => (significand, [])
  | c :: rest =>
      let next := 10 * significand + digitValue c
      if next < UInt64.size then absorb next rest else (significand, c :: rest)

/-- Ten to the power `n`, rounded. -/
def powerOfTen (n : Nat) : Float :=
  Float.ofScientific 1 false n

/-- `value * 10 ^ exponent` in steps of at most 308 places; `none` beyond the largest double.  Three steps take
every 64-bit number to zero. -/
def scale : Nat → Float → Int → Option Float
  | 0, value, _ => some value
  | fuel + 1, value, exponent =>
      if exponent.natAbs ≤ 308 then
        if 0 ≤ exponent then
          let scaled := value * powerOfTen exponent.toNat
          if scaled.isInf then none else some scaled
        else some (value / powerOfTen (-exponent).toNat)
      else if value == 0 then some value
      else if 0 ≤ exponent then none
      else scale fuel (value / powerOfTen 308) (exponent + 308)

/-- The magnitude as a double; `none` when it is too large. -/
def magnitude (n : Numeral) : Option Float :=
  let (whole, dropped) := absorb 0 n.whole
  let (significand, unread) := absorb whole n.fraction
  let place : Int := (dropped.length : Int) - ((n.fraction.length : Int) - unread.length)
  let value := significand.toUInt64.toFloat
  match n.exponent with
  | none => scale 4 value place
  | some (negative, digits) =>
      let size := digitsValue digits
      if size < 0x80000000 then scale 4 value (if negative then place - size else place + size)
      else if significand = 0 || negative then some 0
      else none

/-- The integer a numeral without fraction and exponent stands for, if integers go that far.  Minus zero is not
an integer. -/
def integer? (n : Numeral) : Option Int :=
  if n.fraction.isEmpty && n.exponent.isNone then
    let size := digitsValue n.whole
    if n.negative then
      if 0 < size ∧ size ≤ 0x8000000000000000 then some (-Int.ofNat size) else none
    else if size < UInt64.size then some (Int.ofNat size) else none
  else none

/-- The number a numeral stands for. -/
def value (n : Numeral) : Except Fault Number :=
  match n.integer? with
  | some value => .ok (.int value)
  | none =>
      match n.magnitude with
      | some value => .ok (.float (if n.negative then -value else value))
      | none => .error .illFormed

end Numeral

/-- The place where digits were due and `rest` follows instead. -/
def missingDigits (rest : List Char) : Token :=
  .broken ⟨if rest.isEmpty then .truncated else .illFormed, .illFormed⟩

/-- The exponent after its mark. -/
def scanExponent (text : List Char) : Except Token ((Bool × List Char) × Nat) :=
  let (negative, rest, signs) :=
    match text with
    | '-' :: rest => (true, rest, 1)
    | '+' :: rest => (false, rest, 1)
    | rest => (false, rest, 0)
  let digits := rest.takeWhile Char.isDigit
  if digits.isEmpty then .error (missingDigits rest)
  else .ok ((negative, digits), signs + digits.length)

/-- The digits after a decimal point, and how many characters they take with it. -/
def scanFraction (text : List Char) : Except Token (List Char × Nat) :=
  match text with
  | '.' :: rest =>
      let digits := rest.takeWhile Char.isDigit
      if digits.isEmpty then .error (missingDigits rest) else .ok (digits, 1 + digits.length)
  | _ => .ok ([], 0)

/-- A number after its sign. -/
def scanNumeral (negative : Bool) (text : List Char) : Except Token (Numeral × Nat) := do
  let whole := text.takeWhile Char.isDigit
  if whole.isEmpty then throw (missingDigits text)
  if whole.head? = some '0' ∧ 1 < whole.length then throw (.broken (.both .illFormed))
  let rest := text.drop whole.length
  let (fraction, pointed) ← scanFraction rest
  let rest := rest.drop pointed
  match rest with
  | 'e' :: after | 'E' :: after =>
      let (exponent, marked) ← scanExponent after
      return (⟨negative, whole, fraction, some exponent⟩, whole.length + pointed + 1 + marked)
  | _ => return (⟨negative, whole, fraction, none⟩, whole.length + pointed)

/-- A number that starts with `first`. -/
def scanNumber (first : Char) (text : List Char) : Scanned :=
  let scanned :=
    if first = '-' then scanNumeral true text
    else (scanNumeral false (first :: text)).map fun (numeral, used) => (numeral, used - 1)
  match scanned with
  | .ok (numeral, used) => ⟨.number numeral.value, used⟩
  | .error token => ⟨token, 0⟩

/-! ## Strings -/

/-- A part of a string: a character, or a 16-bit unit written as an escape. -/
inductive Piece where
  | char (value : Char)
  | unit (value : Nat)

/-- How a string ends: closed after a number of characters, or nowhere. -/
inductive StringEnd where
  | closed (used : Nat)
  | broken (fault : Fault)

def StringEnd.after (used : Nat) : StringEnd → StringEnd
  | .closed rest => .closed (used + rest)
  | .broken fault => .broken fault

def hexValue? (c : Char) : Option Nat :=
  if c.isDigit then some (c.toNat - '0'.toNat)
  else if 'a' ≤ c ∧ c ≤ 'f' then some (c.toNat - 'a'.toNat + 10)
  else if 'A' ≤ c ∧ c ≤ 'F' then some (c.toNat - 'A'.toNat + 10)
  else none

def hexUnit? (a b c d : Char) : Option Nat := do
  return (((← hexValue? a) * 16 + (← hexValue? b)) * 16 + (← hexValue? c)) * 16 + (← hexValue? d)

/-- The character an escape letter stands for. -/
def escaped? : Char → Option Char
  | '"' => some '"'
  | '\\' => some '\\'
  | '/' => some '/'
  | 'b' => some '\x08'
  | 'f' => some '\x0c'
  | 'n' => some '\n'
  | 'r' => some '\r'
  | 't' => some '\t'
  | _ => none

/-- The pieces of a string after its opening quote, up to its end. -/
def scanPieces : List Char → List Piece × StringEnd
  | [] => ([], .broken .truncated)
  | '"' :: _ => ([], .closed 1)
  | '\\' :: 'u' :: a :: b :: c :: d :: rest =>
      match hexUnit? a b c d with
      | some unit =>
          let (pieces, ending) := scanPieces rest
          (.unit unit :: pieces, ending.after 6)
      | none => ([], .broken .illFormed)
  | '\\' :: 'u' :: rest =>
      -- Four bytes are due before their digits are looked at.
      ([], .broken (if byteLength rest < 4 then .truncated else .illFormed))
  | ['\\'] => ([], .broken .truncated)
  | '\\' :: letter :: rest =>
      match escaped? letter with
      | some c =>
          let (pieces, ending) := scanPieces rest
          (.char c :: pieces, ending.after 2)
      | none => ([], .broken .illFormed)
  | c :: rest =>
      if c.toNat < 0x20 then ([], .broken .illFormed)
      else
        let (pieces, ending) := scanPieces rest
        (.char c :: pieces, ending.after 1)

def isLead (unit : Nat) : Bool :=
  0xD800 ≤ unit && unit ≤ 0xDBFF

def isTrail (unit : Nat) : Bool :=
  0xDC00 ≤ unit && unit ≤ 0xDFFF

/-- Joins surrogate pairs; `none` when one half stands alone. -/
def assemble? : List Piece → Option (List Char)
  | [] => some []
  | .char c :: rest => (assemble? rest).map (c :: ·)
  | .unit lead :: .unit trail :: rest =>
      if isLead lead then
        if isTrail trail then
          let code := (lead - 0xD800) * 0x400 + (trail - 0xDC00) + 0x10000
          (assemble? rest).map (Char.ofNat code :: ·)
        else none
      else if isTrail lead then none
      else (assemble? (.unit trail :: rest)).map (Char.ofNat lead :: ·)
  | .unit unit :: rest =>
      if isLead unit || isTrail unit then none else (assemble? rest).map (Char.ofNat unit :: ·)

/-- The pieces without a lead surrogate at the end, whose other half might have followed. -/
def withoutOpenLead (pieces : List Piece) : List Piece :=
  match pieces.getLast? with
  | some (.unit unit) => if isLead unit then pieces.dropLast else pieces
  | _ => pieces

/-- A string after its opening quote. -/
def scanString (text : List Char) : Scanned :=
  match scanPieces text with
  | (pieces, .closed used) =>
      match assemble? pieces with
      | some chars => ⟨.string (.ok (String.ofList chars)), used⟩
      | none => ⟨.string (.error .illFormed), used⟩
  | (pieces, .broken fault) =>
      let read := if (assemble? (withoutOpenLead pieces)).isSome then fault else .illFormed
      ⟨.unclosed ⟨read, fault⟩, 0⟩

/-! ## Words and the whole text -/

/-- A word of which `due` is still to come. -/
def scanWord (token : Token) (due text : List Char) : Scanned :=
  let found := text.take due.length
  if found = due then ⟨token, due.length⟩
  else if found.isPrefixOf due && text.length < due.length then ⟨.broken (.both .truncated), 0⟩
  else ⟨.broken (.both .illFormed), 0⟩

/-- White space between tokens. -/
def isSpace (c : Char) : Bool :=
  c == ' ' || c == '\n' || c == '\t' || c == '\r'

/-- The token that starts with `first`, which is not white space. -/
def scan (first : Char) (text : List Char) : Scanned :=
  match first with
  | '[' => ⟨.openArray, 0⟩
  | ']' => ⟨.closeArray, 0⟩
  | '\x7b' => ⟨.openObject, 0⟩
  | '\x7d' => ⟨.closeObject, 0⟩
  | ',' => ⟨.comma, 0⟩
  | ':' => ⟨.colon, 0⟩
  | '"' => scanString text
  | 'n' => scanWord .null ['u', 'l', 'l'] text
  | 't' => scanWord (.bool true) ['r', 'u', 'e'] text
  | 'f' => scanWord (.bool false) ['a', 'l', 's', 'e'] text
  | _ =>
      if first = '-' || first.isDigit then scanNumber first text
      else ⟨.broken (.both .illFormed), 0⟩

/-- The tokens of a text, up to the first place where none can be read. -/
def tokens (text : List Char) : List Token :=
  match text with
  | [] => []
  | first :: rest =>
      if isSpace first then tokens rest
      else
        match scan first rest with
        | ⟨.broken place, _⟩ => [.broken place]
        | ⟨.unclosed place, _⟩ => [.unclosed place]
        | ⟨token, used⟩ => token :: tokens (rest.drop used)
termination_by text.length
decreasing_by
  all_goals
    simp only [List.length_cons, List.length_drop]
    omega

end SolidityNav.Json
