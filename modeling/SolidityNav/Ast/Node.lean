/-
# Ast.Node -- indexed nodes

An indexed node refers to its parent and its children by id.  Its remaining fields are either child fields, of which
the ids are kept, or attributes, of which the values are kept as they are.
-/
import SolidityNav.Ast.RawNode
import SolidityNav.Span

namespace SolidityNav.Ast

set_option autoImplicit false

/-- A node of an index. -/
structure Node where
  id : NodeId
  nodeType : NodeType
  src : Span
  parent : Option NodeId
  children : List NodeId
  /-- The enclosing contract, on nodes that open a naming scope. -/
  contract : Option String
  /-- The enclosing function or event, on nodes that open a naming scope. -/
  callable : Option String
  /-- The ids of the children by field. -/
  childFields : Table String (List NodeId)
  /-- The fields that hold no children. -/
  attributes : Table String Json

instance : Inhabited Node := ⟨⟨0, default, default, none, [], none, none, [], []⟩⟩

namespace Node

/-- The ids of children grouped by the field they stand under. -/
def groupByField (children : List (String × RawNode)) : Table String (List NodeId) :=
  children.foldl
    (fun table (name, child) => Table.update name (fun ids => ids.getD [] ++ [child.id]) table) []

/-- Whether a field of a node is one of its attributes. -/
def isAttribute (childFields : Table String (List NodeId)) (name : String) : Bool :=
  (name ∈ scalarFields || !Table.contains childFields name) && !(name ∈ ["id", "src", "nodeType"])

/-- The indexed form of a node object, without stamps. -/
def ofRaw (raw : RawNode) (src : Span) (parent : Option NodeId) (children : List (String × RawNode)) : Node :=
  let childFields := groupByField children
  { id := raw.id
    nodeType := raw.nodeType
    src := src
    parent := parent
    children := children.map fun (_, child) => child.id
    contract := none
    callable := none
    childFields := childFields
    attributes := raw.fields.filter fun (name, _) => isAttribute childFields name }

def attribute? (node : Node) (name : String) : Option Json :=
  Table.find? name node.attributes

/-- The ids of the children under a field. -/
def childField (node : Node) (name : String) : List NodeId :=
  (Table.find? name node.childFields).getD []

def name? (node : Node) : Option String := do
  (← node.attribute? "name").string?

/-- The declaration the node refers to. -/
def reference? (node : Node) : Option NodeId := do
  (← node.attribute? "referencedDeclaration").int64?

/-- The type name below a declaration. -/
def typeName? (node : Node) : Option NodeId :=
  (node.childField "typeName").head?

def members (node : Node) : List NodeId :=
  node.childField "members"

/-- The resolved type of the node, as the compiler describes it. -/
def typeString? (node : Node) : Option String := do
  (← (← node.attribute? "typeDescriptions").field? "typeString").string?

end Node

end SolidityNav.Ast
