/-
# Ast.RawNode -- node objects

A JSON object is a node when it has an integer `id`, a string `nodeType` and a string `src`.  The nodes below it
are found by shape and not by a schema: every field that holds a node, or a list with nodes in it, holds
children, except for a few fields that never do (`scalarFields`).
-/
import SolidityNav.Ast.NodeType
import SolidityNav.Json.Basic

namespace SolidityNav.Ast

set_option autoImplicit false

/-- The fields that never hold children: the three that make a node, known scalars, and back-links. -/
def scalarFields : List String :=
  ["id", "src", "nodeType", "operator", "type", "constant", "name", "absolutePath", "children", "parent"]

/-- A node object with its three mandatory fields read. -/
structure RawNode where
  id : NodeId
  tag : String
  src : String
  fields : List (String × Json)

instance : Inhabited RawNode := ⟨⟨0, "", "", []⟩⟩

namespace RawNode

/-- The node an object is, if it is one. -/
def ofFields? (fields : List (String × Json)) : Option RawNode := do
  return {
    id := ← (← Table.find? "id" fields).int64?
    tag := ← (← Table.find? "nodeType" fields).string?
    src := ← (← Table.find? "src" fields).string?
    fields := fields }

/-- The node a value is, if it is one. -/
def ofJson? (value : Json) : Option RawNode := do
  ofFields? (← value.fields?)

/-- The kind of the node. -/
def nodeType (node : RawNode) : NodeType :=
  NodeType.ofTag node.tag

def field? (node : RawNode) (name : String) : Option Json :=
  Table.find? name node.fields

def name? (node : RawNode) : Option String := do
  (← node.field? "name").string?

/-- The resolved type of the node, as the compiler describes it. -/
def typeString? (node : RawNode) : Option String := do
  (← (← node.field? "typeDescriptions").field? "typeString").string?

/-- The node under a field. -/
def child? (node : RawNode) (name : String) : Option RawNode := do
  ofJson? (← node.field? name)

/-- The nodes in the list under a field; other items are passed over. -/
def childList (node : RawNode) (name : String) : List RawNode :=
  match node.field? name with
  | some (.array items) => items.filterMap ofJson?
  | _ => []

/-- The nodes a field's value holds. -/
def held (value : Json) : List RawNode :=
  match value with
  | .object fields => (ofFields? fields).toList
  | .array items => items.filterMap ofJson?
  | _ => []

/-- The children with the fields they are found under, in field order and then list order. -/
def children (node : RawNode) : List (String × RawNode) :=
  node.fields.flatMap fun (name, value) =>
    if name ∈ scalarFields then [] else (held value).map fun child => (name, child)

end RawNode

end SolidityNav.Ast
