/-
# LowerBound -- the last element not above a target

In an ascending array the elements not above a target come first.  A window is halved until one element is left;
it starts at an element not above the target as soon as one has been seen.
-/

namespace SolidityNav

set_option autoImplicit false

/-- Halves the window of `size` places from `base` on, keeping the last half whose first place is `low`. -/
def lastLow (low : Nat → Bool) (base size : Nat) : Nat :=
  if 1 < size then
    let half := size / 2
    lastLow low (if low (base + half) then base + half else base) (size - half)
  else base
termination_by size

/-- The greatest place of an ascending array whose element is not above `target`. -/
def lowerBound? {α : Type} [LE α] [DecidableLE α] (target : α) (array : Array α) : Option Nat :=
  let low (i : Nat) : Bool :=
    match array[i]? with
    | some element => decide (element ≤ target)
    | none => false
  let place := lastLow low 0 array.size
  if low place then some place else none

end SolidityNav
