/-
# Ast.Tree -- the tree of nodes and the walk over it

`Tree.ofJson?` keeps of a JSON value what makes it a tree: the root node, and below each node its children with the
fields they stand under.  A walk goes through the tree depth first and shows each node to a visitor twice: on
entering, before its children, when the visitor says in which scope the children are seen, and on leaving, after
them.  The walk runs in any monad, so a visitor may keep state and may stop the walk.
-/
import SolidityNav.Ast.RawNode

namespace SolidityNav.Ast

set_option autoImplicit false

/-- A node and the trees below it, each with the field it is found under. -/
inductive Tree where
  | node (raw : RawNode) (branches : List (String × Tree))

namespace Tree

/-- The node at the root. -/
def raw : Tree → RawNode
  | .node raw _ => raw

/-- The trees below the root. -/
def branches : Tree → List (String × Tree)
  | .node _ branches => branches

mutual

/-- The tree of a value that is a node. -/
def ofJson? : Json → Option Tree
  | .object fields => (RawNode.ofFields? fields).map fun raw => .node raw (ofFields fields)
  | _ => none

/-- The trees under the fields of a node. -/
def ofFields : List (String × Json) → List (String × Tree)
  | [] => []
  | (name, value) :: rest =>
      if name ∈ scalarFields then ofFields rest
      else (held value).map (fun tree => (name, tree)) ++ ofFields rest

/-- The trees a field's value holds. -/
def held : Json → List Tree
  | .object fields =>
      match RawNode.ofFields? fields with
      | some raw => [.node raw (ofFields fields)]
      | none => []
  | .array items => ofItems items
  | _ => []

/-- The trees among the items of a list. -/
def ofItems : List Json → List Tree
  | [] => []
  | item :: rest =>
      match ofJson? item with
      | some tree => tree :: ofItems rest
      | none => ofItems rest

end

/-- The children of the root as nodes. -/
def children (tree : Tree) : List (String × RawNode) :=
  tree.branches.map fun (name, below) => (name, below.raw)

end Tree

/-- What happens at each node of a walk. -/
structure Visitor (m : Type → Type) (Scope : Type) where
  /-- Before the children: the node, its parent and the scope around it; gives the scope for the children. -/
  enter : RawNode → Option RawNode → Scope → m Scope
  /-- After the children: the node, its parent, its children and the scope they were seen in. -/
  leave : RawNode → Option RawNode → List (String × RawNode) → Scope → m Unit

/-- The visitor that does nothing. -/
def Visitor.idle {m : Type → Type} [Monad m] {Scope : Type} : Visitor m Scope where
  enter _ _ scope := pure scope
  leave _ _ _ _ := pure ()

section Walk

variable {m : Type → Type} [Monad m] {Scope : Type}

mutual

/-- Walks a tree whose root has the given parent and scope, and counts its nodes. -/
def Tree.walk (visitor : Visitor m Scope) (parent : Option RawNode) (scope : Scope) : Tree → m Nat
  | .node raw branches => do
      let inner ← visitor.enter raw parent scope
      let below ← Tree.walkBranches visitor raw inner branches
      visitor.leave raw parent (branches.map fun (name, tree) => (name, tree.raw)) inner
      return below + 1

/-- Walks the trees below `parent` in order. -/
def Tree.walkBranches (visitor : Visitor m Scope) (parent : RawNode) (scope : Scope) :
    List (String × Tree) → m Nat
  | [] => return 0
  | (_, tree) :: rest => do
      let first ← Tree.walk visitor (some parent) scope tree
      let others ← Tree.walkBranches visitor parent scope rest
      return first + others

end

end Walk

end SolidityNav.Ast
