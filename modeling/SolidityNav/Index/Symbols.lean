/-
# Index.Symbols -- the symbol tables of a source

What the declarations of a source say about names: the members of enums and structs, which variables are arrays or
byte strings, the signatures of functions and events by qualified name, the types of variables by scope, and the
names met for each kind of scope.
-/
import SolidityNav.Ast.NodeType
import SolidityNav.Json.Basic
import SolidityNav.Table

namespace SolidityNav.Index

set_option autoImplicit false

open SolidityNav.Ast (NodeType)

/-- A parameter of a function or an event. -/
structure Param where
  name : String
  typeName : String
deriving DecidableEq, Inhabited, Repr

/-- What a function or an event takes and gives back. -/
structure Signature where
  params : List Param
  returns : List Param
deriving DecidableEq, Inhabited, Repr

/-- The symbol tables of a source. -/
structure Symbols where
  enums : Table String (List String) := []
  structs : Table String (List String) := []
  arrays : Names := []
  bytes : Names := []
  events : Table String Signature := []
  functions : Table String Signature := []
  varTypes : Table String String := []
  namesByType : Table NodeType Names := []
deriving Inhabited

namespace Symbols

/-- The names met for a kind of node. -/
def namesOf? (symbols : Symbols) (kind : NodeType) : Option Names :=
  Table.find? kind symbols.namesByType

/-- The signature of a function, or else of an event, by its qualified name. -/
def signature? (symbols : Symbols) (qualified : String) : Option Signature :=
  Table.find? qualified symbols.functions <|> Table.find? qualified symbols.events

end Symbols

/-! ## JSON form -/

def Param.toJson (param : Param) : Json :=
  .object [("name", .string param.name), ("type_name", .string param.typeName)]

def Signature.toJson (signature : Signature) : Json :=
  .object [
    ("params", .array (signature.params.map Param.toJson)),
    ("returns", .array (signature.returns.map Param.toJson))]

/-- A list of names. -/
def namesToJson (names : List String) : Json :=
  .array (names.map .string)

/-- A table as an object in the order of its entries. -/
def tableToJson {α : Type} (encode : α → Json) (table : Table String α) : Json :=
  .object (table.map fun (key, value) => (key, encode value))

/-- The tables as objects and the sets as lists. -/
def Symbols.toJson (symbols : Symbols) : Json :=
  .object [
    ("enums", tableToJson namesToJson symbols.enums),
    ("structs", tableToJson namesToJson symbols.structs),
    ("arrays", namesToJson symbols.arrays),
    ("bytes", namesToJson symbols.bytes),
    ("events", tableToJson Signature.toJson symbols.events),
    ("fns", tableToJson Signature.toJson symbols.functions),
    ("vars", tableToJson .string symbols.varTypes),
    ("node_type_names",
      .object (symbols.namesByType.map fun (kind, names) => (kind.tag, namesToJson names)))]

end SolidityNav.Index
