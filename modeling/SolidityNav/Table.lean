/-
# Table -- entries in the order of their first insertion

A table lists its entries by the first time their key was inserted.  A repeated key keeps its place and takes
the last value.  `Names` is the same for keys without values.
-/

namespace SolidityNav

set_option autoImplicit false

/-- Keys with their values, in the order in which the keys were first inserted. -/
abbrev Table (κ α : Type) := List (κ × α)

namespace Table

variable {κ α : Type} [DecidableEq κ]

/-- The value stored under `key`. -/
def find? (key : κ) : Table κ α → Option α
  | [] => none
  | (k, value) :: rest => if k = key then some value else find? key rest

/-- Whether `key` has a value. -/
def contains (table : Table κ α) (key : κ) : Bool :=
  (find? key table).isSome

/-- Stores `value` under `key`: in place when the key is there, at the end otherwise. -/
def insert (key : κ) (value : α) : Table κ α → Table κ α
  | [] => [(key, value)]
  | (k, old) :: rest => if k = key then (k, value) :: rest else (k, old) :: insert key value rest

/-- Stores what `change` makes of the value under `key`. -/
def update (key : κ) (change : Option α → α) (table : Table κ α) : Table κ α :=
  insert key (change (find? key table)) table

/-- The table after inserting the entries one by one. -/
def insertAll (table : Table κ α) (entries : List (κ × α)) : Table κ α :=
  entries.foldl (fun built (key, value) => insert key value built) table

omit [DecidableEq κ] in
/-- The keys, in the order of first insertion. -/
def keys (table : Table κ α) : List κ :=
  table.map Prod.fst

end Table

/-- Names in the order in which they were first added, each once. -/
abbrev Names := List String

/-- Adds a name at the end unless it is there. -/
def Names.add (names : Names) (name : String) : Names :=
  if name ∈ names then names else names ++ [name]

end SolidityNav
