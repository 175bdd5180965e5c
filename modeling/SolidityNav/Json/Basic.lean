/-
# Json.Basic -- JSON values with ordered fields

An object is the list of its fields in their order, because the order of the fields of an AST node is the
order of its children.  A number is an integer or a float: integers lie in `[-2^63, 2^64)`, and what is written
with a point, an exponent or beyond that range is a float.
-/
import SolidityNav.Table
import SolidityNav.Word

namespace SolidityNav

set_option autoImplicit false

/-- A JSON number. -/
inductive Json.Number where
  | int (value : Int)
  | float (value : Float)

/-- A JSON value. -/
inductive Json where
  | null
  | bool (value : Bool)
  | number (value : Json.Number)
  | string (value : String)
  | array (items : List Json)
  | object (fields : List (String × Json))

namespace Json

instance : Inhabited Json := ⟨.null⟩

/-- An integer value. -/
def int (value : Int) : Json :=
  .number (.int value)

/-- A natural number as a value. -/
def nat (value : Nat) : Json :=
  .number (.int value)

/-- A value that may be missing; `null` stands for none. -/
def option {α : Type} (encode : α → Json) : Option α → Json
  | none => .null
  | some value => encode value

def isNull : Json → Bool
  | .null => true
  | _ => false

def fields? : Json → Option (List (String × Json))
  | .object fields => some fields
  | _ => none

def items? : Json → Option (List Json)
  | .array items => some items
  | _ => none

def string? : Json → Option String
  | .string value => some value
  | _ => none

def int? : Json → Option Int
  | .number (.int value) => some value
  | _ => none

/-- The integer, when it is one and fits in 64 signed bits. -/
def int64? (value : Json) : Option Int64 := do
  Word.int64? (← value.int?)

/-- The value of a field of an object. -/
def field? (value : Json) (name : String) : Option Json := do
  Table.find? name (← value.fields?)

end Json

end SolidityNav
