/-
# Index.Scope -- naming scopes and what each kind of node declares

Contracts, functions and events open a naming scope for what is below them; functions and events also declare a
signature.  Variables, array types, enums and structs declare something once all below them is known.  `entering?` and
`leaving?` say for each kind of node what it adds to the symbol tables and when.
-/
import SolidityNav.Ast.RawNode
import SolidityNav.Index.Symbols

namespace SolidityNav.Index

set_option autoImplicit false

open SolidityNav.Ast (NodeType RawNode)

/-- The contract and the function or event around a node. -/
structure Scope where
  contract : Option String := none
  callable : Option String := none
deriving DecidableEq, Inhabited

/-- A name with the contract around it. -/
def Scope.qualify (scope : Scope) (name : String) : String :=
  scope.contract.getD "" ++ "." ++ name

/-- A variable's name with the contract and the function or event around it. -/
def Scope.qualifyVariable (scope : Scope) (name : String) : String :=
  scope.contract.getD "" ++ "." ++ scope.callable.getD "" ++ "." ++ name

/-! ## Signatures -/

/-- The type of a parameter: as written, else as resolved. -/
def paramType (param : RawNode) : String :=
  let written := param.child? "typeName"
  ((written.bind RawNode.name?) <|> (written.bind RawNode.typeString?) <|> param.typeString?).getD ""

/-- The parameters in the list node under a field. -/
def paramsUnder (node : RawNode) (field : String) : List Param :=
  match node.child? field with
  | some list => (list.childList "parameters").map fun param => ⟨param.name?.getD "", paramType param⟩
  | none => []

/-- The signature a function or an event declares. -/
def signatureOf (node : RawNode) : Signature where
  params := paramsUnder node "parameters"
  returns := paramsUnder node "returnParameters"

/-! ## On entering a node -/

/-- What a node adds to the tables before its children, and the scope it opens for them. -/
abbrev Entering := Symbols → RawNode → Scope → Symbols × Scope

/-- Notes the name of a node under its kind. -/
def noteName (symbols : Symbols) (node : RawNode) (name : String) : Symbols :=
  { symbols with
    namesByType :=
      Table.update node.nodeType (fun names => Names.add (names.getD []) name) symbols.namesByType }

def enterContract : Entering := fun symbols node _ =>
  let name := node.name?.getD ""
  (noteName symbols node name, { contract := some name, callable := none })

def enterFunction : Entering := fun symbols node scope =>
  let name := node.name?.getD ""
  let symbols := noteName symbols node name
  ({ symbols with functions := Table.insert (scope.qualify name) (signatureOf node) symbols.functions },
    { scope with callable := some name })

def enterEvent : Entering := fun symbols node scope =>
  let name := node.name?.getD ""
  let symbols := noteName symbols node name
  ({ symbols with events := Table.insert (scope.qualify name) (signatureOf node) symbols.events },
    { scope with callable := some name })

/-- The kinds of nodes that open a scope. -/
def entering? : NodeType → Option Entering
  | .contractDefinition => some enterContract
  | .functionDefinition => some enterFunction
  | .eventDefinition => some enterEvent
  | _ => none

/-! ## On leaving a node -/

/-- What a node adds to the tables after its children; it sees its parent and the scope around it. -/
abbrev Leaving := Symbols → RawNode → Option RawNode → Scope → Symbols

/-- The name of the variable that `parent` declares. -/
def declaredVariable? (parent : Option RawNode) : Option String := do
  let parent ← parent
  if parent.nodeType = .variableDeclaration then parent.name? else none

/-- The names of the members below a node. -/
def memberNames (node : RawNode) : List String :=
  (node.childList "members").filterMap RawNode.name?

def leaveVariable : Leaving := fun symbols node _ scope =>
  match node.name? with
  | some name =>
      { symbols with
        varTypes :=
          Table.insert (scope.qualifyVariable name) (node.typeString?.getD "") symbols.varTypes }
  | none => symbols

def leaveArrayType : Leaving := fun symbols _ parent _ =>
  match declaredVariable? parent with
  | some name => { symbols with arrays := symbols.arrays.add name }
  | none => symbols

def leaveEnum : Leaving := fun symbols node _ _ =>
  match node.name? with
  | some name => { symbols with enums := Table.insert name (memberNames node) symbols.enums }
  | none => symbols

def leaveStruct : Leaving := fun symbols node _ _ =>
  match node.name? with
  | some name => { symbols with structs := Table.insert name (memberNames node) symbols.structs }
  | none => symbols

/-- The kinds of nodes that declare something once their children are known. -/
def leaving? : NodeType → Option Leaving
  | .variableDeclaration => some leaveVariable
  | .arrayTypeName => some leaveArrayType
  | .enumDefinition => some leaveEnum
  | .structDefinition => some leaveStruct
  | _ => none

/-- A node named `bytes` below a variable makes it a byte string, whatever its kind. -/
def noteBytes (symbols : Symbols) (node : RawNode) (parent : Option RawNode) : Symbols :=
  if node.name? = some "bytes" then
    match declaredVariable? parent with
    | some name => { symbols with bytes := symbols.bytes.add name }
    | none => symbols
  else symbols

end SolidityNav.Index
