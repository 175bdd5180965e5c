/-
# Compiler.Version -- compiler versions

A compiler reports its version as three numbers with points between them, possibly after `v` and before build
metadata that starts with `+` or `-`.  Only the numbers count; they are 64-bit.
-/
import SolidityNav.Text.Blank
import SolidityNav.Text.Numeral
import SolidityNav.Text.Split

namespace SolidityNav.Compiler

set_option autoImplicit false

/-- The three numbers of a version. -/
structure Version where
  major : Nat
  minor : Nat
  patch : Nat
deriving DecidableEq, Inhabited, Repr

namespace Version

/-- One number of a version. -/
def number? (text : List Char) : Option Nat := do
  let n ← Text.readNat? text
  if n < UInt64.size then some n else none

/-- The part of a version text that holds the numbers. -/
def core (text : List Char) : List Char :=
  ((Text.trim text).dropWhile (· == 'v')).takeWhile fun c => c != '+' && c != '-'

/-- The version a text reports; parts after the third are passed over. -/
def parse? (text : String) : Option Version :=
  match Text.split '.' (core text.toList) with
  | major :: minor :: patch :: _ => do
      return ⟨← number? major, ← number? minor, ← number? patch⟩
  | _ => none

/-- Whether `a` is `b` or older, number by number. -/
def le (a b : Version) : Bool :=
  a.major < b.major ||
    (a.major == b.major && (a.minor < b.minor || (a.minor == b.minor && a.patch ≤ b.patch)))

/-- Whether a text reports a version that is `minimum` or newer. -/
def isAtLeast (text : String) (minimum : Version) : Bool :=
  match parse? text with
  | some version => minimum.le version
  | none => false

end Version

end SolidityNav.Compiler
