/-
# Word -- integers that fit a machine word

Offsets, lengths and ids are 64-bit words.  Arithmetic on them is done in `Int` and comes back to a word only
when it fits.
-/

namespace SolidityNav.Word

set_option autoImplicit false

/-- The signed 64-bit word of an integer, when it has one. -/
def int64? (n : Int) : Option Int64 :=
  if -0x8000000000000000 ≤ n ∧ n < 0x8000000000000000 then some (Int64.ofInt n) else none

/-- Subtraction that stops at zero. -/
def monus (a b : UInt32) : UInt32 :=
  if a < b then 0 else a - b

end SolidityNav.Word
