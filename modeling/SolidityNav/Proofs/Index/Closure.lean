/-
# Proofs.Index.Closure -- every id that an index stores names one of its nodes

An index stores ids in the links between its nodes, in its buckets, in its lists of uses and as its root.  A lookup passes
over an id that has no node, and nobody would notice.  There is no such id: `Closed` says of an index that all the ids it
stores are ids of its nodes.  A built index is closed, because everything it stores comes from structural nodes.  A merge
may put a node of another tree in the place of one that others link to, but it takes no id away, so that what is closed
stays closed under merges of any number and nesting (`closed_of_composed`).

`composed_resolves` adds what follows for lookups: none of them ever drops a hit.
-/
import SolidityNav.Navigation
import SolidityNav.Proofs.Index.Arena
import SolidityNav.Proofs.Index.Attributes
import SolidityNav.Proofs.Index.Coverage
import SolidityNav.Proofs.Index.Lookup
import SolidityNav.Proofs.Index.Merging
import SolidityNav.Proofs.Index.Uses

namespace SolidityNav

set_option autoImplicit false

open SolidityNav.Ast (Node NodeId RawNode)
open SolidityNav.Ast.RawNode (Visit)

/-! ## Links -/

/-- The ids that a node stores: its parent, its children, and its children by field. -/
def Ast.Node.links (node : Node) : List NodeId :=
  node.parent.toList ++ node.children ++ node.childFields.flatMap Prod.snd

namespace Ast.Node

/-- What is grouped under a field are ids of children. -/
theorem exists_child_of_mem_groupByField {children : List (String × RawNode)} {entry : String × List NodeId}
    (member : entry ∈ groupByField children) {id : NodeId} (grouped : id ∈ entry.2) :
    ∃ child ∈ children, child.2.id = id := by
  have distinct : (groupByField children).keys.Nodup :=
    Table.nodup_keys_foldl_update (fun (child : RawNode) ids => ids.getD [] ++ [child.id]) children [] List.nodup_nil
  have found := (Table.find?_eq_some_iff distinct).mpr member
  rw [find?_groupByField] at found
  split at found
  · rw [← Option.some.inj found] at grouped
    obtain ⟨child, kept, same⟩ := List.mem_map.mp grouped
    exact ⟨child, List.mem_of_mem_filter kept, same⟩
  · cases found

theorem mem_links_of_mem_childField {node : Node} {name : String} {id : NodeId} (member : id ∈ node.childField name) :
    id ∈ node.links := by
  rw [childField] at member
  cases found : Table.find? name node.childFields with
  | none =>
      rw [found] at member
      cases member
  | some ids =>
      rw [found] at member
      apply List.mem_append_right
      exact List.mem_flatMap.mpr ⟨(name, ids), Table.mem_of_find? found, member⟩

end Ast.Node

namespace Index

/-- A link of an indexed node leads to the node right above or to one right below. -/
theorem mem_links_of_node? {visit : Visit} {node : Node} (indexed : visit.node? = some node) {link : NodeId}
    (member : link ∈ node.links) :
    (∃ parent, visit.parent? = some parent ∧ parent.id = link) ∨ ∃ child ∈ visit.raw.children, child.2.id = link := by
  obtain ⟨-, -, -, parent, children⟩ := fields_of_node? indexed
  rw [Node.links, parent, children, childFields_of_node? indexed, List.mem_append, List.mem_append] at member
  rcases member with (above | below) | byField
  · left
    simpa using above
  · right
    simpa using below
  · right
    obtain ⟨entry, inTable, grouped⟩ := List.mem_flatMap.mp byField
    exact Node.exists_child_of_mem_groupByField inTable grouped

/-! ## Closed indexes -/

/-- All the ids that an index stores are ids of its nodes. -/
structure Closed (index : Index) : Prop where
  root : index.root ∈ index.nodes
  links : ∀ id node, index.node? id = some node → ∀ link ∈ node.links, link ∈ index.nodes
  buckets : ∀ start, ∀ entry ∈ index.offsets.bucket start, entry.id ∈ index.nodes
  uses : ∀ declaration, ∀ id ∈ index.uses.getD declaration #[], id ∈ index.nodes

section Filable

variable {root : RawNode} (filable : root.Filable)
include filable

/-- **A built index is closed.** -/
theorem closed_index : root.index.Closed where
  root := by
    apply mem_nodes_index filable
    rw [RawNode.postorder_eq]
    simp
  links := by
    intro id node found link member
    obtain ⟨visit, visited, indexed, -⟩ := (node?_index_eq_some_iff filable).mp found
    rcases mem_links_of_node? indexed member with ⟨parent, above, rfl⟩ | ⟨child, below, rfl⟩
    · apply mem_nodes_index filable
      exact RawNode.parent_mem_postorder visited above
    · apply mem_nodes_index filable
      exact RawNode.child_mem_postorder (RawNode.raw_mem_postorder visited) below
  buckets := by
    intro start entry member
    rw [bucket_index] at member
    obtain ⟨raw, inTree, filed⟩ := List.mem_filterMap.mp member
    obtain ⟨_, -, -, -, rfl⟩ := entryAt?_eq_some_iff.mp filed
    exact mem_nodes_index filable inTree
  uses := by
    intro declaration id member
    rw [← Array.mem_toList_iff, uses_index filable] at member
    obtain ⟨raw, refers, rfl⟩ := List.mem_map.mp member
    exact mem_nodes_index filable (RawNode.mem_referring.mp refers).1

end Filable

/-- **A merge keeps closed indexes closed**, whichever nodes it replaces. -/
theorem Closed.merge {index other : Index} (closed : index.Closed) (closedOther : other.Closed) :
    (index.merge other).Closed where
  root := mem_nodes_merge.mpr (Or.inr closed.root)
  links := by
    intro id node found link member
    rw [node?_merge_eq, Option.or_eq_some_iff] at found
    rw [mem_nodes_merge]
    rcases found with taken | ⟨-, kept⟩
    · exact Or.inl (closedOther.links id node taken link member)
    · exact Or.inr (closed.links id node kept link member)
  buckets start entry member := mem_nodes_merge.mpr (Or.inr (closed.buckets start entry member))
  uses declaration id member := mem_nodes_merge.mpr (Or.inr (closed.uses declaration id member))

/-- An index that comes from building and merging.  The ids of what is merged may be the same. -/
inductive Composed : Index → Prop
  | built {ast : Json} {index : Index} : build ast = .ok index → Composed index
  | merged {index other : Index} : Composed index → Composed other → Composed (index.merge other)

theorem closed_of_composed {index : Index} (composed : Composed index) : index.Closed := by
  induction composed with
  | built success =>
      obtain ⟨root, -, filable, rfl⟩ := build_eq_ok_iff.mp success
      exact closed_index filable
  | merged _ _ closed closedOther => exact closed.merge closedOther

/-! ## Lookups in a closed index -/

theorem typeDefinition?_of_typed {index : Index} {node declaration type : Node} {typeName : NodeId}
    (declared : index.definition? node = some declaration) (typed : declaration.typeName? = some typeName)
    (found : index.node? typeName = some type) : index.typeDefinition? node = some type := by
  simp [typeDefinition?, declared, typed, found]

namespace Closed

variable {index : Index} (closed : index.Closed)
include closed

theorem mem_nodes_of_tightest? {offset : Nat} {covers : Nat → Entry → Bool} {id : NodeId}
    (found : index.offsets.tightest? offset covers = some id) : id ∈ index.nodes := by
  obtain ⟨start, entry, member, rfl⟩ := OffsetIndex.exists_entry_of_tightest? found
  exact closed.buckets start entry member

omit closed in
/-- Looking up the node of what was found loses nothing that has a node. -/
theorem isSome_bind_node? {found : Option NodeId} (held : ∀ id, found = some id → id ∈ index.nodes) :
    (found.bind index.node?).isSome = found.isSome := by
  cases found with
  | none => rfl
  | some id =>
      obtain ⟨node, stored⟩ := mem_nodes_iff.mp (held id rfl)
      rw [Option.bind_some, stored]
      rfl

theorem isSome_atOffset? (offset : Nat) :
    (index.atOffset? offset).isSome = (index.offsets.atOffset? offset).isSome := by
  apply isSome_bind_node?
  intro id found
  exact closed.mem_nodes_of_tightest? found

theorem isSome_atSpan? (span : Span) : (index.atSpan? span).isSome = (index.offsets.atSpan? span).isSome := by
  apply isSome_bind_node?
  intro id found
  obtain ⟨stop, -, hit⟩ := Option.bind_eq_some_iff.mp found
  exact closed.mem_nodes_of_tightest? hit

theorem length_usesOf (declaration : NodeId) :
    (index.usesOf declaration).length = (index.uses.getD declaration #[]).size := by
  rw [usesOf, List.length_filterMap_eq_countP, ← Array.length_toList, List.countP_eq_length]
  intro id member
  have held := closed.uses declaration id (Array.mem_toList_iff.mp member)
  exact Option.isSome_iff_exists.mpr (mem_nodes_iff.mp held)

/-- A declaration that has a type name leads to the node of it. -/
theorem exists_typeDefinition? {node declaration : Node} {typeName : NodeId}
    (declared : index.definition? node = some declaration) (typed : declaration.typeName? = some typeName) :
    ∃ target, index.node? typeName = some target ∧ index.typeDefinition? node = some target := by
  obtain ⟨id, -, stored⟩ := Option.bind_eq_some_iff.mp declared
  have link : typeName ∈ declaration.links := Node.mem_links_of_mem_childField (List.mem_of_head? typed)
  obtain ⟨target, found⟩ := mem_nodes_iff.mp (closed.links id declaration stored typeName link)
  exact ⟨target, found, typeDefinition?_of_typed declared typed found⟩

end Closed

/-- **Whatever is built and merged, no stored id is left without a node.**  So no use is dropped when uses are read, every
hit of a lookup by position has a node, and the type name of a declaration always leads to its node. -/
theorem composed_resolves {index : Index} (composed : Composed index) :
    index.Closed ∧
    (∀ declaration, (index.usesOf declaration).length = (index.uses.getD declaration #[]).size) ∧
    (∀ offset, (index.atOffset? offset).isSome = (index.offsets.atOffset? offset).isSome) ∧
    (∀ span, (index.atSpan? span).isSome = (index.offsets.atSpan? span).isSome) ∧
    ∀ node declaration typeName, index.definition? node = some declaration → declaration.typeName? = some typeName →
      ∃ target, index.node? typeName = some target ∧ index.typeDefinition? node = some target := by
  have closed := closed_of_composed composed
  refine ⟨closed, closed.length_usesOf, closed.isSome_atOffset?, closed.isSome_atSpan?, ?_⟩
  intro node declaration typeName declared typed
  exact closed.exists_typeDefinition? declared typed

/-- An AST of another source that shares two ids with the sample: its root has the id of a variable there, and its
variable has the id of the identifier that uses that one. -/
def collidingAst : Json :=
  .object [
    ("id", .int 3), ("nodeType", .string "SourceUnit"), ("src", .string "0:9:1"),
    ("nodes", .array [
      .object [
        ("id", .int 5), ("nodeType", .string "VariableDeclaration"), ("src", .string "0:6:1"), ("name", .string "y"),
        ("typeName", .object [
          ("id", .int 31), ("nodeType", .string "ElementaryTypeName"), ("src", .string "0:4:1")])],
      .object [
        ("id", .int 30), ("nodeType", .string "Identifier"), ("src", .string "8:1:1"),
        ("referencedDeclaration", .int 5)]])]

theorem collidingAst_build : ∃ index, build collidingAst = .ok index :=
  exists_of_isOk (by decide +kernel)

/-- Merging the other source into the sample leaves links to replaced nodes: the use of the variable is now a variable
itself, and the identifier that refers to this one leads to its type name. -/
theorem sample_collides {own other : Index} (built : build sampleAst = .ok own)
    (builtOther : build collidingAst = .ok other) :
    (own.node? 3).isSome = true ∧ (other.node? 3).isSome = true ∧
    ((own.merge other).usesOf 3).map Node.nodeType = [.variableDeclaration] ∧
    ∃ node declaration, (own.merge other).node? 30 = some node ∧
      (own.merge other).definition? node = some declaration ∧ declaration.typeName? = some 31 := by
  have computed : ∀ own ∈ (build sampleAst).toOption, ∀ other ∈ (build collidingAst).toOption,
      (own.node? 3).isSome = true ∧ (other.node? 3).isSome = true ∧
      ((own.merge other).usesOf 3).map Node.nodeType = [.variableDeclaration] ∧
      (((own.merge other).node? 30).bind fun node =>
        ((own.merge other).definition? node).bind Node.typeName?) = some 31 := by
    decide +kernel
  rw [built, builtOther] at computed
  obtain ⟨inOwn, inOther, uses, typed⟩ := computed own rfl other rfl
  obtain ⟨node, stored, leads⟩ := Option.bind_eq_some_iff.mp typed
  obtain ⟨declaration, declared, named⟩ := Option.bind_eq_some_iff.mp leads
  exact ⟨inOwn, inOther, uses, node, declaration, stored, declared, named⟩

/-- With ids that collide, the list of uses still has a node for each use, and the type name is found. -/
theorem composed_resolves_sample :
    ∃ own other, build sampleAst = .ok own ∧ build collidingAst = .ok other ∧
      (own.merge other).Closed ∧ (∃ id, (own.node? id).isSome = true ∧ (other.node? id).isSome = true) ∧
      ((own.merge other).uses.getD 3 #[]).size = 1 ∧
      ∃ node target, (own.merge other).node? 30 = some node ∧ (own.merge other).node? 31 = some target ∧
        (own.merge other).typeDefinition? node = some target := by
  obtain ⟨own, built⟩ := sampleAst_build
  obtain ⟨other, builtOther⟩ := collidingAst_build
  obtain ⟨inOwn, inOther, uses, node, declaration, stored, declared, typed⟩ := sample_collides built builtOther
  obtain ⟨closed, counted, -, -, resolves⟩ := composed_resolves (.merged (.built built) (.built builtOther))
  obtain ⟨target, found, leads⟩ := resolves node declaration 31 declared typed
  refine ⟨own, other, built, builtOther, closed, ⟨3, inOwn, inOther⟩, ?_, node, target, stored, found, leads⟩
  rw [← counted 3]
  simpa using congrArg List.length uses

end Index

end SolidityNav
