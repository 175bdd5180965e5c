/-
# Log -- events worth reporting

Operations return the events they report, in order, next to their result.
-/

namespace SolidityNav

set_option autoImplicit false

inductive Log.Level where
  | warn
  | info
  | debug
deriving DecidableEq, Repr

/-- The value of a field of an event. -/
inductive Log.Value where
  | text (value : String)
  | count (value : Nat)
deriving DecidableEq, Repr

/-- One event: how important it is, what happened, and the details. -/
structure Log.Event where
  level : Log.Level
  message : String
  fields : List (String × Log.Value)
deriving DecidableEq, Repr

/-- Events in the order in which they were reported. -/
abbrev Log := List Log.Event

end SolidityNav
