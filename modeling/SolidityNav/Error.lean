/-
# Error -- what can go wrong

Failures are recorded by their cause; `message` gives the wording.  Building and compiling fail with a `Failure`,
queries with a `QueryFailure`.
-/
import SolidityNav.Ast.NodeType
import SolidityNav.Json.Token
import SolidityNav.Path
import SolidityNav.Span

namespace SolidityNav

set_option autoImplicit false

open SolidityNav.Ast (NodeId)

/-- What is wrong with an AST. -/
inductive AstDefect where
  /-- The root is not a node. -/
  | rootNotNode
  /-- Two nodes have the same id. -/
  | duplicateId (id : NodeId)
  /-- Something else, described in words. -/
  | described (text : String)
deriving DecidableEq

def AstDefect.message : AstDefect → String
  | .rootNotNode => "root must be an object with `id`, `nodeType` and `src`"
  | .duplicateId id => "duplicate node id " ++ String.ofList (Text.writeInt id.toInt)
  | .described text => text

/-- How a JSON fault is described. -/
def Json.Fault.message : Json.Fault → String
  | .truncated => "the text ends too early"
  | .illFormed => "the text is not JSON"
  | .mismatched => "the JSON has another shape"

/-- Why an AST could not be indexed or a file could not be compiled. -/
inductive Failure where
  | io (text : String)
  | json (fault : Json.Fault)
  | malformedAst (defect : AstDefect)
  | src (error : Span.ParseError)
  | compiler (text : String)
  | internal (text : String)
deriving DecidableEq

def Failure.message : Failure → String
  | .io text => "I/O error: " ++ text
  | .json fault => "JSON serialization/deserialization error: " ++ fault.message
  | .malformedAst defect => "Malformed AST: " ++ defect.message
  | .src error => error.message
  | .compiler text => "Compiler error: " ++ text
  | .internal text => "Internal error: " ++ text

/-- Why a query has no answer. -/
inductive QueryFailure where
  | unknownFile (path : Path)
  | invalidArgument (text : String)
  | internal (text : String)
deriving DecidableEq

def QueryFailure.message : QueryFailure → String
  | .unknownFile path => "File not indexed: " ++ path.text
  | .invalidArgument text => "Invalid argument: " ++ text
  | .internal text => "Internal error: " ++ text

/-- A failure as a query reports it: a bad span is the caller's, anything else is not. -/
def Failure.toQuery : Failure → QueryFailure
  | .src error => .invalidArgument error.message
  | other => .internal other.message

end SolidityNav
