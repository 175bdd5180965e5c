/-
# Ast.Walk -- walking over the AST in a value

A walk over a value starts at the node that the value is.  This node has no parent, and it is entered in the scope that is
there before any other was opened.  A value that is no node has nothing to walk over: the walk fails before the visitor is
shown anything.
-/
import SolidityNav.Ast.Tree
import SolidityNav.Error

namespace SolidityNav.Ast

set_option autoImplicit false

/-- Walks over the AST that a value is, and counts its nodes. -/
def walk {m : Type → Type} [Monad m] [MonadExceptOf Failure m] {Scope : Type} [Inhabited Scope]
    (visitor : Visitor m Scope) (value : Json) : m Nat :=
  match Tree.ofJson? value with
  | some tree => tree.walk visitor none default
  | none => throw (.malformedAst .rootNotNode)

end SolidityNav.Ast
