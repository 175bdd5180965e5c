/-
# Decimal.Shortest -- the shortest decimal of a binary fraction

A double is `m * 2^q` exactly, and every real in an interval around it rounds to it.  The shortest decimal of
a double is the decimal with the fewest digits in that interval, and of two such the one nearer to the double.
For each number of digits only the two neighbours of the double on that decimal grid are tried: a grid with a
point in the interval has one of its neighbours there.
-/

namespace SolidityNav.Decimal

set_option autoImplicit false

/-- The number `digits * 10 ^ exponent`. -/
structure Numeral where
  digits : Nat
  exponent : Int
deriving DecidableEq, Repr

/-- A positive binary fraction `mantissa * 2 ^ exponent`; `narrow` when the gap to the double below is half
the gap to the one above. -/
structure Binary where
  mantissa : Nat
  exponent : Int
  narrow : Bool
deriving DecidableEq, Repr

/-- The magnitude of a finite double; the sign bit is left out. -/
def Binary.ofBits (bits : UInt64) : Binary :=
  let fraction : Nat := (bits &&& 0xFFFFFFFFFFFFF).toNat
  let biased : Nat := ((bits >>> 52) &&& 0x7FF).toNat
  if biased = 0 then ⟨fraction, -1074, false⟩
  else ⟨0x10000000000000 + fraction, (biased : Int) - 1075, fraction = 0 && biased ≠ 1⟩

/-- The power `base ^ exponent` as a numerator and a denominator. -/
def ratio (base : Nat) (exponent : Int) : Nat × Nat :=
  if 0 ≤ exponent then (Nat.pow base exponent.toNat, 1) else (1, Nat.pow base (-exponent).toNat)

/-- The place of the leading decimal digit of `num / den`, which is positive. -/
def leadingPlace (num den : Nat) : Int :=
  if den ≤ num then ((Nat.toDigits 10 (num / den)).length : Int) - 1
  else -((Nat.toDigits 10 ((den + num - 1) / num - 1)).length : Int)

namespace Binary

/-- The fraction measured in quarters of its last place: the value, and the ends of the interval around it. -/
def quarters (b : Binary) : Nat × Nat × Nat :=
  let value := 4 * b.mantissa
  (value, if b.narrow then value - 1 else value - 2, value + 2)

/-- Whether `candidate * 10 ^ place` rounds to `b`; the ends round to an even mantissa. -/
def holds (b : Binary) (candidate : Nat) (place : Int) : Bool :=
  let (_, low, high) := b.quarters
  let (unitNum, unitDen) := ratio 2 (b.exponent - 2)
  let (placeNum, placeDen) := ratio 10 place
  let point := candidate * placeNum * unitDen
  let least := low * unitNum * placeDen
  let greatest := high * unitNum * placeDen
  if b.mantissa % 2 = 0 then least ≤ point && point ≤ greatest
  else least < point && point < greatest

/-- The nearest of the two `length`-digit neighbours that round to `b`, if one does. -/
def neighbour? (b : Binary) (length : Nat) : Option Numeral :=
  let (num, den) :=
    let (n, d) := ratio 2 b.exponent
    (b.mantissa * n, d)
  let place := leadingPlace num den + 1 - length
  let (placeNum, placeDen) := ratio 10 place
  let scaledNum := num * placeDen
  let scaledDen := den * placeNum
  let below := scaledNum / scaledDen
  let rest := scaledNum % scaledDen
  match b.holds below place, b.holds (below + 1) place with
  | false, false => none
  | true, false => some ⟨below, place⟩
  | false, true => some ⟨below + 1, place⟩
  | true, true =>
      if 2 * rest < scaledDen || (2 * rest = scaledDen && below % 2 = 0) then some ⟨below, place⟩
      else some ⟨below + 1, place⟩

end Binary

/-- Removes up to `fuel` zeros at the end of the digits. -/
def Numeral.strip : Nat → Numeral → Numeral
  | 0, d => d
  | fuel + 1, d =>
      if d.digits % 10 = 0 && d.digits ≠ 0 then strip fuel ⟨d.digits / 10, d.exponent + 1⟩ else d

/-- The shortest decimal that rounds to the magnitude of a finite double; seventeen digits always do. -/
def shortest (bits : UInt64) : Numeral :=
  let b := Binary.ofBits bits
  if b.mantissa = 0 then ⟨0, 0⟩
  else
    match (List.range 17).findSome? fun i => b.neighbour? (i + 1) with
    | some d => d.strip 20
    | none => ⟨0, 0⟩

end SolidityNav.Decimal
