/-
# Ast.NodeType -- the kinds of AST nodes

The compiler tags each node with the name of its kind.  The kinds that navigation knows have a constructor; any
other tag is carried as it is.
-/

namespace SolidityNav.Ast

set_option autoImplicit false

/-- The id the compiler gives a node; negative ids stand for built-in declarations that have no node. -/
abbrev NodeId := Int64

/-- The kind of a node. -/
inductive NodeType where
  | sourceUnit
  | contractDefinition
  | functionDefinition
  | eventDefinition
  | modifierDefinition
  | variableDeclaration
  | parameterList
  | elementaryTypeName
  | arrayTypeName
  | userDefinedTypeName
  | enumDefinition
  | enumValue
  | structDefinition
  | identifier
  | memberAccess
  | other (tag : String)
deriving DecidableEq, Inhabited

namespace NodeType

/-- The compiler's name of a kind. -/
def tag : NodeType → String
  | sourceUnit => "SourceUnit"
  | contractDefinition => "ContractDefinition"
  | functionDefinition => "FunctionDefinition"
  | eventDefinition => "EventDefinition"
  | modifierDefinition => "ModifierDefinition"
  | variableDeclaration => "VariableDeclaration"
  | parameterList => "ParameterList"
  | elementaryTypeName => "ElementaryTypeName"
  | arrayTypeName => "ArrayTypeName"
  | userDefinedTypeName => "UserDefinedTypeName"
  | enumDefinition => "EnumDefinition"
  | enumValue => "EnumValue"
  | structDefinition => "StructDefinition"
  | identifier => "Identifier"
  | memberAccess => "MemberAccess"
  | other tag => tag

/-- The kinds with a constructor of their own. -/
def known : List NodeType :=
  [sourceUnit, contractDefinition, functionDefinition, eventDefinition, modifierDefinition, variableDeclaration,
    parameterList, elementaryTypeName, arrayTypeName, userDefinedTypeName, enumDefinition, enumValue,
    structDefinition, identifier, memberAccess]

/-- The kind with a given name. -/
def ofTag (tag : String) : NodeType :=
  (known.find? fun kind => kind.tag == tag).getD (other tag)

def isKnown : NodeType → Bool
  | other _ => false
  | _ => true

/-- The declarations whose type is a call signature. -/
def isSignature (kind : NodeType) : Bool :=
  kind == functionDefinition || kind == eventDefinition

end NodeType

end SolidityNav.Ast
