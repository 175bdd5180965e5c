/-
# Index -- the index of a source

One walk over the AST builds everything that queries need: the nodes by id, the nodes by start offset, the uses of
each declaration and the symbol tables.  The walk stops at the first node, in the order of leaving, whose span
cannot be read or whose id was seen before.

An index can take in the nodes of another one, so that references into other files resolve; offsets, uses and
symbols stay those of its own source.
-/
import Std.Data.ExtTreeMap
import SolidityNav.Ast.Node
import SolidityNav.Ast.Tree
import SolidityNav.Error
import SolidityNav.Index.OffsetIndex
import SolidityNav.Index.Scope
import SolidityNav.Json.Decode
import SolidityNav.Log

namespace SolidityNav

set_option autoImplicit false

open SolidityNav.Ast (Node NodeId NodeType RawNode Tree Visitor)

/-- The index of a source. -/
structure Index where
  root : NodeId
  nodes : Std.ExtTreeMap NodeId Node
  offsets : Index.OffsetIndex
  /-- The nodes that refer to each declaration, in the order of leaving. -/
  uses : Std.ExtTreeMap NodeId (Array NodeId)
  symbols : Index.Symbols

namespace Index

/-! ## Building -/

/-- What a walk has collected so far. -/
structure Draft where
  /-- The root, from when it is entered on. -/
  root : Option NodeId := none
  nodes : Std.ExtTreeMap NodeId Node := ∅
  offsets : OffsetIndex := .empty
  uses : Std.ExtTreeMap NodeId (Array NodeId) := ∅
  symbols : Symbols := {}

/-- A step of the walk: it changes the draft or fails. -/
abbrev Build := StateT Draft (Except Failure)

/-- Opens the scope of a node; the one without a parent is the root. -/
def enterNode (raw : RawNode) (parent : Option RawNode) (scope : Scope) : Build Scope := do
  if parent.isNone then modify fun draft => { draft with root := some raw.id }
  match entering? raw.nodeType with
  | some entering =>
      let draft ← get
      let (symbols, inner) := entering draft.symbols raw scope
      set { draft with symbols := symbols }
      return inner
  | none => return scope

/-- The indexed form of a node.  The nodes that open a scope are stamped with it. -/
def stamped (raw : RawNode) (src : Span) (parent : Option RawNode) (children : List (String × RawNode))
    (scope : Scope) : Node :=
  let node := Node.ofRaw raw src (parent.map RawNode.id) children
  if (entering? node.nodeType).isSome then
    { node with contract := scope.contract, callable := scope.callable }
  else node

/-- What a node declares once its children are known. -/
def declare (symbols : Symbols) (raw : RawNode) (parent : Option RawNode) (scope : Scope) : Symbols :=
  let symbols :=
    match leaving? raw.nodeType with
    | some leaving => leaving symbols raw parent scope
    | none => symbols
  noteBytes symbols raw parent

/-- Files a node everywhere it belongs. -/
def Draft.file (draft : Draft) (raw : RawNode) (node : Node) (parent : Option RawNode) (scope : Scope) : Draft where
  root := draft.root
  nodes := draft.nodes.insert node.id node
  offsets := draft.offsets.insert node.src node.id
  uses :=
    match node.reference? with
    | some declaration => draft.uses.alter declaration fun uses => some ((uses.getD #[]).push node.id)
    | none => draft.uses
  symbols := declare draft.symbols raw parent scope

/-- Files a node whose children are done. -/
def leaveNode (raw : RawNode) (parent : Option RawNode) (children : List (String × RawNode)) (scope : Scope) :
    Build Unit := do
  match Span.parse raw.src with
  | .error error => throw (.src error)
  | .ok src =>
      let draft ← get
      if draft.nodes.contains raw.id then throw (.malformedAst (.duplicateId raw.id))
      set (draft.file raw (stamped raw src parent children scope) parent scope)

/-- The visitor that builds an index. -/
def indexer : Visitor Build Scope where
  enter := enterNode
  leave := leaveNode

/-- The index a finished walk has collected. -/
def Draft.finish (draft : Draft) : Except Failure Index :=
  match draft.root with
  | some root => .ok {
      root := root
      nodes := draft.nodes
      offsets := draft.offsets.finish
      uses := draft.uses
      symbols := draft.symbols }
  | none => .error (.internal "walk produced no root")

/-- The index of a tree. -/
def ofTree (tree : Tree) : Except Failure Index := do
  let (_, draft) ← (tree.walk indexer none {}).run {}
  draft.finish

/-- The index of an AST. -/
def build (ast : Json) : Except Failure Index :=
  match Tree.ofJson? ast with
  | some tree => ofTree tree
  | none => .error (.malformedAst .rootNotNode)

/-- The index of an AST given as a text. -/
def ofText (text : String) : Except Failure Index := do
  build (← (Json.parse text).mapError .json)

/-- The event that reports a new index. -/
def builtEvent (index : Index) : Log.Event where
  level := .debug
  message := "Indexed AST"
  fields := [
    ("nodes", .count index.nodes.size),
    ("starts", .count index.offsets.starts.size),
    ("declarations_used", .count index.uses.size)]

/-! ## Looking up -/

def node? (index : Index) (id : NodeId) : Option Node :=
  index.nodes[id]?

/-- The root node. -/
def rootNode? (index : Index) : Option Node :=
  index.node? index.root

/-- The number of nodes, those taken in from other indexes included. -/
def size (index : Index) : Nat :=
  index.nodes.size

/-- The nodes that refer to a declaration, in the order of leaving. -/
def usesOf (index : Index) (declaration : NodeId) : List Node :=
  (index.uses.getD declaration #[]).toList.filterMap index.node?

/-- The tightest node around a byte. -/
def atOffset? (index : Index) (offset : Nat) : Option Node := do
  index.node? (← index.offsets.atOffset? offset)

/-- The tightest node around a span. -/
def atSpan? (index : Index) (span : Span) : Option Node := do
  index.node? (← index.offsets.atSpan? span)

/-- The nodes with exactly this start and length, of one kind if asked for. -/
def allAt (index : Index) (span : Span) (kind : Option NodeType) : List Node :=
  if span.isValid then
    (index.offsets.bucket span.start.toInt.toNat)
      |>.filter (fun entry => (entry.length : Int) = span.length.toInt)
      |>.filterMap (fun entry => index.node? entry.id)
      |>.filter (fun node => kind.all (node.nodeType == ·))
  else []

/-- Takes in the nodes of another index; its nodes win where ids clash. -/
def merge (index other : Index) : Index :=
  { index with nodes := index.nodes.insertMany other.nodes.toList }

end Index

end SolidityNav
