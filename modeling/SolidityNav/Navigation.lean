/-
# Navigation -- definitions, types and uses

From a node an index leads to the declaration it refers to, to the type name of that declaration, and to all uses of
a declaration.  A selection in a source file leads to the tightest node around it and from there on.  A miss is
`none` and not an error.
-/
import SolidityNav.SourceFile

namespace SolidityNav

set_option autoImplicit false

open SolidityNav.Ast (Node NodeId)

namespace Index

/-- The declaration a node refers to. -/
def definition? (index : Index) (node : Node) : Option Node := do
  index.node? (← node.reference?)

/-- The type name of the declaration a node refers to, or the declaration itself when it has none. -/
def typeDefinition? (index : Index) (node : Node) : Option Node := do
  let declaration ← index.definition? node
  match declaration.typeName? with
  | some typeName => index.node? typeName <|> some declaration
  | none => some declaration

/-- The declaration whose uses a node asks for: the one it refers to, or a variable itself. -/
def usesTarget? (node : Node) : Option NodeId :=
  match node.reference? with
  | some declaration => some declaration
  | none => if node.nodeType = .variableDeclaration then some node.id else none

/-- The uses of the declaration behind a node. -/
def references? (index : Index) (node : Node) : Option (List Node) :=
  (usesTarget? node).map index.usesOf

end Index

namespace SourceFile

/-- The tightest node around a selection. -/
def nodeAt? (file : SourceFile) (selection : Region) : Option Node := do
  file.index.atSpan? (← file.span? selection)

/-- The declaration of what is selected. -/
def definitionAt? (file : SourceFile) (selection : Region) : Option Node := do
  file.index.definition? (← file.nodeAt? selection)

/-- The type of what is selected. -/
def typeDefinitionAt? (file : SourceFile) (selection : Region) : Option Node := do
  file.index.typeDefinition? (← file.nodeAt? selection)

/-- The signature of what is selected: its type definition, a signature when that is a function or an event. -/
def signatureAt? (file : SourceFile) (selection : Region) : Option Node :=
  file.typeDefinitionAt? selection

/-- The uses of what is selected; an empty list when a declaration is never used. -/
def referencesAt? (file : SourceFile) (selection : Region) : Option (List Node) := do
  file.index.references? (← file.nodeAt? selection)

end SourceFile

end SolidityNav
